import EarlyBreak.Proofs.Binder.Soundness

/-! The state of a binder follows its guard.  Whatever fails, a target that runs is taken to wait
for a script exactly while something is installed, and no pause of the guard's own kind stays.
-/

namespace EarlyBreak

open Debugger Entry Entry.Registry

namespace Guard

/-- A guard that is the engine's hook knows whether that was installed. -/
def KnowsHook (acts : List Act) : Guard → Prop
  | instrument _ isInstalled =>
      isInstalled = true ↔ ∃ act ∈ acts, act.installsHook = true
  | _ => True

variable {guard : Guard} {acts : List Act}

/-- One more thing that is asked does not matter unless it installs the hook. -/
theorem KnowsHook.concat {act : Act} (knows : guard.KnowsHook acts)
    (other : act.installsHook = false)
    : guard.KnowsHook (acts ++ [act]) := by
  cases guard with
  | off | regex => trivial
  | instrument kind isInstalled =>
      simp only [KnowsHook, List.mem_append, List.mem_singleton, or_and_right, exists_or,
        exists_eq_left, other, Bool.false_eq_true, or_false]
      exact knows

variable {σ : Type} [Engine σ] {recorded : Recorded σ}

/-- A guard knows whether the command to install the hook succeeded. -/
theorem KnowsHook.install (knows : guard.KnowsHook recorded.acts)
    : (guard.install recorded).1.KnowsHook (guard.install recorded).2.acts := by
  unfold Guard.install
  split
  case h_1 kind =>
    split
    case h_1 reply told replied =>
      refine iff_of_true rfl ⟨.command (.setInstrumentation kind) (.ok reply), ?_, rfl⟩
      rw [Recorded.acts_of_perform replied]
      exact List.mem_append_right _ (List.mem_singleton_self _)
    case h_2 failure told replied =>
      rw [Recorded.acts_of_perform replied]
      exact knows.concat rfl
  case h_2 => exact knows

/-- A guard knows of its hook after a request, as it asks for one at most once. -/
theorem KnowsHook.request (knows : guard.KnowsHook recorded.acts) (source : String)
    : (guard.request source recorded).1.KnowsHook (guard.request source recorded).2.acts := by
  unfold Guard.request
  split
  case h_1 => trivial
  case h_2 => exact knows.install

theorem KnowsHook.classify (knows : guard.KnowsHook recorded.acts) (pause : Pause)
    (script : PausedScript)
    : (guard.classify pause script recorded).2.1.KnowsHook
        (guard.classify pause script recorded).2.2.acts := by
  cases guard with
  | off | regex => trivial
  | instrument kind isInstalled => exact knows

theorem isArmed_install (armed : guard.isArmed = true) (engine : σ)
    : (guard.install engine).1.isArmed = true := by
  unfold Guard.install
  split
  case h_1 => cases armed
  case h_2 => exact armed

/-- Guarding a source does not disarm a guard. -/
theorem isArmed_request (coherent : guard.entries.Coherent) (armed : guard.isArmed = true)
    (source : String) (engine : σ)
    : (guard.request source engine).1.isArmed = true := by
  unfold Guard.request
  split
  case h_1 registry =>
    have some : registry.isEmpty = false := by simpa [isArmed] using armed
    obtain ⟨id, held⟩ := isEmpty_eq_false_iff.mp some
    have kept : (registry.add source engine).2.1.holds id = true :=
      (Coherent.add_added coherent source engine).holds held
    simpa [isArmed] using isEmpty_eq_false_iff.mpr ⟨id, kept⟩
  case h_2 => exact isArmed_install armed engine

end Guard

namespace Session

variable {σ : Type} {strategy : Strategy} {session : Session σ}

/-- The guard of a strategy is armed: the engine's hook was installed, or some entry breakpoint is
held.
-/
def Armed (strategy : Strategy) (session : Session σ) : Prop :=
  match strategy with
  | .off => False
  | .instrument => ∃ act ∈ session.target.acts, act.installsHook = true
  | .regex => ∃ id, session.entries.holds id = true

/-- The guard keeps to the strategy and knows whether it is armed, and the state is that of a target
that runs under it unless the user is shown a pause.
-/
structure Following (strategy : Strategy) (session : Session σ) : Prop where
  strategy : session.binder.guard.strategy = strategy
  hook : session.binder.guard.KnowsHook session.target.acts
  state
    : session.binder.state = .paused .userBreakpoint
      ∨ session.binder.state = Binder.runningState session.binder.guard

/-- The guard of a session is armed exactly if something that arms it has happened. -/
theorem Following.isArmed_iff (following : Following strategy session)
    : session.binder.guard.isArmed = true ↔ Armed strategy session := by
  obtain ⟨rfl, hook, -⟩ := following
  unfold Armed entries
  cases guard : session.binder.guard with
  | off => simp [Guard.isArmed, Guard.strategy]
  | instrument kind isInstalled =>
      rw [guard] at hook
      exact hook
  | regex registry =>
      simp only [Guard.isArmed, Guard.strategy, Guard.entries, Bool.not_eq_true']
      exact isEmpty_eq_false_iff

theorem following_start (strategy : Strategy) (target : σ)
    : Following strategy (start strategy target) where
  strategy := (Guard.ofStrategy_start strategy).1
  hook := by cases strategy <;> simp [start, Binder.ofStrategy, Guard.ofStrategy, Guard.KnowsHook]
  state := by
    right
    cases strategy <;> rfl

/-- Binding the breakpoints in a script installs no hook. -/
theorem Binds.knowsHook {guard : Guard} {bound known : Index ScriptId (List Location)}
    {acts told : List Act} {script : Script} {locations : List Location}
    (binds : Binds bound acts script locations known told) (knows : guard.KnowsHook acts)
    : guard.KnowsHook told := by
  cases binds with
  | already found same silent => exact silent ▸ knows
  | anew unknown noted asked =>
      rw [asked]
      exact knows.concat rfl

variable [Engine σ] [BreakpointManager σ]

/-- A request lets the state follow the guard: one that was armed stays so, and one that is armed by
the request makes an idle target wait.
-/
theorem Following.request (following : Following strategy session)
    (coherent : session.entries.Coherent) (source : String)
    : Following strategy (session.step (.request source)).2 := by
  obtain ⟨guard, told, prepared, operated⟩ := setUp_eq session.binder session.target
  have kept : guard.strategy = strategy
      ∧ guard.KnowsHook told.acts
      ∧ guard.entries = session.entries
      ∧ (session.binder.guard.isArmed = true → guard.isArmed = true) := by
    rcases operated with same | installed
    · obtain ⟨rfl, rfl⟩ := Prod.mk.inj same
      exact ⟨following.strategy, following.hook, rfl, id⟩
    · obtain ⟨rfl, rfl⟩ := Prod.mk.inj installed
      obtain ⟨entries, strategy⟩ := session.binder.guard.install_entries session.target
      exact ⟨strategy.trans following.strategy, following.hook.install, entries,
        fun armed => Guard.isArmed_install armed _⟩
  obtain ⟨named, hook, entries, armed⟩ := kept
  simp only [Session.step, Binder.request, prepared]
  refine ⟨(guard.request_strategy source told).trans named, hook.request source, ?_⟩
  simp only
  split
  case isTrue => exact .inr rfl
  case isFalse busy =>
    rcases following.state with stopped | running
    · exact .inl stopped
    · -- The target was waiting for a script, so the guard was armed before.
      right
      unfold Binder.runningState at running ⊢
      split at running
      case isTrue before =>
        rw [if_pos (Guard.isArmed_request (entries ▸ coherent) (armed before) source told)]
        exact running
      case isFalse => exact absurd running busy

/-- A reported script has nothing to do with the guard. -/
theorem Following.scriptParsed (following : Following strategy session) (script : Script)
    : Following strategy (session.step (.event (.scriptParsed script))).2 := by
  have change := change_scriptParsed session script
  generalize (session.step (.event (.scriptParsed script))).2 = after at change ⊢
  cases change with
  | deferred scripts bound silent guard state defers =>
      refine ⟨guard ▸ following.strategy, ?_, ?_⟩
      · rw [guard, silent]
        exact following.hook
      · rw [guard, state]
        exact following.state
  | parsed scripts binds guard state eager =>
      refine ⟨guard ▸ following.strategy, ?_, ?_⟩
      · rw [guard]
        exact binds.knowsHook following.hook
      · rw [guard, state]
        exact following.state

/-- After a pause the state is that of a target that goes on under the guard, or the user sees the
pause.
-/
theorem Following.paused (following : Following strategy session) (sound : Sound session)
    (pause : Pause)
    : Following strategy (session.step (.event (.paused pause))).2 := by
  cases own : session.pausedIn? pause with
  | none =>
      rw [step_paused_of_foreign own]
      exact ⟨following.strategy, following.hook, .inl rfl⟩
  | some pair =>
      obtain ⟨script, urls⟩ := pair
      obtain ⟨locations, binder, target, settled, guard, -, binds⟩ :=
        step_paused_of_own sound.table own
      obtain ⟨-, decided, -, -, ended⟩ := settle_eq binder pause ⟨urls, locations⟩ target
      have hook : binder.guard.KnowsHook target.acts := guard ▸ binds.knowsHook following.hook
      have classified := hook.classify pause ⟨urls, locations⟩
      rw [settled]
      refine ⟨?_, ?_, ?_⟩
      · rw [decided, Guard.classify_strategy, guard]
        exact following.strategy
      · rw [decided]
        split at ended
        · obtain ⟨⟨reply, told⟩, -⟩ := ended
          rw [told]
          exact classified.concat rfl
        · rw [ended.1]
          exact classified
      · split at ended
        · exact .inr ended.2
        · exact .inl ended.2

/-- Each step is followed, by the cases of what a session can do. -/
theorem Following.step (following : Following strategy session) (sound : Sound session)
    (step : Step)
    : Following strategy (session.step step).2 := by
  cases step with
  | request source => exact following.request sound.coherent source
  | event event =>
      cases event with
      | scriptParsed script => exact following.scriptParsed script
      | paused pause => exact following.paused sound pause
      | resumed => exact ⟨following.strategy, following.hook, .inr rfl⟩

/-- A state that follows the guard does so along any steps, by induction along them. -/
theorem Following.run (following : Following strategy session) (sound : Sound session)
    (steps : List Step)
    : Following strategy (session.run steps) := by
  induction steps generalizing session with
  | nil => exact following
  | cons step steps ih => exact ih (following.step sound step) ((sound.change step).sound sound)

theorem following_run (strategy : Strategy) (target : σ) (steps : List Step)
    : Following strategy ((start strategy target).run steps) :=
  (following_start strategy target).run (sound_start strategy target) steps

/-- In every session, whatever fails in it, a target is idle, waits for a script, or is stopped for
the user; and unless it is stopped it waits exactly while the guard is armed.
-/
theorem state_follows_guard (strategy : Strategy) (target : σ) (steps : List Step)
    : let session := (start strategy target).run steps
      (session.binder.state = .idle
        ∨ session.binder.state = .awaitingScript
        ∨ session.binder.state = .paused .userBreakpoint)
      ∧ ((∀ kind, session.binder.state ≠ .paused kind)
        → (session.binder.state = .awaitingScript ↔ Armed strategy session)) := by
  intro session
  have following : Following strategy session := following_run strategy target steps
  rw [← following.isArmed_iff]
  rcases following.state with stopped | running
  · exact ⟨.inr (.inr stopped), fun runs => absurd stopped (runs _)⟩
  · rw [running, Binder.runningState]
    cases session.binder.guard.isArmed with
    | true => exact ⟨.inr (.inl rfl), fun _ => iff_of_true rfl rfl⟩
    | false => exact ⟨.inl rfl, fun _ => iff_of_false nofun nofun⟩

end Session

end EarlyBreak
