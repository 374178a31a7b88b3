import EarlyBreak.Debugger.Simulation
import EarlyBreak.Proofs.Binder.Binding
import EarlyBreak.Proofs.Entry.Standing

/-! Stops at entry breakpoints where nothing of the user's is bound.  The target goes on from them
by itself, unless one of the breakpoints could not be removed: the binder has forgotten it by then,
and takes the stop for the user's.
-/

namespace EarlyBreak.Session

open Debugger Entry Entry.Registry

variable {σ : Type}

/-- A session holds exactly the breakpoints that were handed out and not asked back since. -/
def Remembers (session : Session σ) : Prop := session.entries.Remembers session.target.acts

theorem remembers_start (strategy : Strategy) (target : σ)
    : (start strategy target).Remembers := by
  rw [Remembers, entries_start]
  exact remembers_empty

/-- Binding the breakpoints in a script is no operation on entry breakpoints. -/
theorem Binds.remembers {registry : Registry} {bound known : Index ScriptId (List Location)}
    {acts told : List Act} {script : Script} {locations : List Location}
    (binds : Binds bound acts script locations known told) (remembers : registry.Remembers acts)
    : registry.Remembers told := by
  cases binds with
  | already found same silent => exact silent ▸ remembers
  | anew unknown noted asked =>
      rw [asked]
      exact remembers.concat_of_other rfl rfl rfl

variable [Engine σ] [BreakpointManager σ] {session : Session σ}

/-- A request removes nothing, so what the session remembers of its breakpoints stays right. -/
theorem Remembers.request (remembers : session.Remembers) (coherent : session.entries.Coherent)
    (source : String)
    : (session.step (.request source)).2.Remembers := by
  obtain ⟨guard, told, prepared, operated⟩ := setUp_eq session.binder session.target
  have kept : guard.entries.Coherent ∧ guard.entries.Remembers told.acts := by
    rcases operated with same | installed
    · obtain ⟨rfl, rfl⟩ := Prod.mk.inj same
      exact ⟨coherent, remembers⟩
    · obtain ⟨rfl, rfl⟩ := Prod.mk.inj installed
      exact ⟨(session.binder.guard.install_entries session.target).1 ▸ coherent,
        Guard.install_remembers remembers⟩
  simp only [Session.step, Binder.request, prepared]
  exact Guard.request_remembers kept.1 kept.2 source

theorem Remembers.scriptParsed (remembers : session.Remembers) (script : Script)
    : (session.step (.event (.scriptParsed script))).2.Remembers := by
  have change := change_scriptParsed session script
  generalize (session.step (.event (.scriptParsed script))).2 = after at change ⊢
  rw [Remembers, entries]
  cases change with
  | deferred scripts bound silent guard state defers =>
      rw [guard, silent]
      exact remembers
  | parsed scripts binds guard state eager =>
      rw [guard]
      exact binds.remembers remembers

/-- At a pause a breakpoint is removed together with its record, whether or not the engine agrees.
-/
theorem Remembers.paused (remembers : session.Remembers) (sound : Sound session) (pause : Pause)
    : (session.step (.event (.paused pause))).2.Remembers := by
  cases own : session.pausedIn? pause with
  | none =>
      rw [step_paused_of_foreign own]
      exact remembers
  | some pair =>
      obtain ⟨script, urls⟩ := pair
      obtain ⟨locations, binder, target, settled, guard, -, binds⟩ :=
        step_paused_of_own sound.table own
      obtain ⟨-, decided, -, -, ended⟩ := settle_eq binder pause ⟨urls, locations⟩ target
      have classified := Guard.classify_remembers (guard ▸ sound.coherent)
        (guard ▸ binds.remembers remembers : binder.guard.entries.Remembers target.acts) pause
        ⟨urls, locations⟩
      rw [settled, Remembers, entries, decided]
      split at ended
      · obtain ⟨⟨reply, told⟩, -⟩ := ended
        rw [told]
        exact classified.concat_of_other rfl rfl rfl
      · rw [ended.1]
        exact classified

/-- What a session remembers stays in step, by induction along the steps. -/
theorem Remembers.run (remembers : session.Remembers) (sound : Sound session) (steps : List Step)
    : (session.run steps).Remembers := by
  induction steps generalizing session with
  | nil => exact remembers
  | cons step steps ih =>
      refine ih ?_ ((sound.change step).sound sound)
      cases step with
      | request source => exact remembers.request sound.coherent source
      | event event =>
          cases event with
          | scriptParsed script => exact remembers.scriptParsed script
          | paused pause => exact remembers.paused sound pause
          | resumed => exact remembers

/-- A pause that only entry breakpoints made which the engine has, in a known script, and where the
breakpoints in that script, which are bound by the time it is answered, are not.
-/
structure OwnStop (before after : Session σ) (pause : Pause) : Prop where
  hit : pause.hits ≠ []
  own : ∀ id ∈ pause.hits, Installed before.target.acts id
  place
    : ∃ location script,
        pause.location? = some location
        ∧ before.binder.scripts.find? location.script = some script
        ∧ ∀ bound ∈ (after.binder.bound.find? location.script).getD [],
          bound.samePosition location = false

/-- A pause of the guard is answered by where the breakpoints in its script are bound. -/
theorem Sound.answer_paused (sound : Sound session) {pause : Pause} {script : Script}
    {urls : List String} (own : session.pausedIn? pause = some (script, urls))
    : let outcome := session.step (.event (.paused pause))
      ∃ locations, ∃ told : Recorded σ,
        outcome.2.binder.bound.find? script.id = some locations
        ∧ outcome.1 = some (session.binder.guard.classify pause ⟨urls, locations⟩ told).1 := by
  obtain ⟨locations, binder, told, settled, guard, -, binds⟩ := step_paused_of_own sound.table own
  obtain ⟨answer, -, -, bound, -⟩ := settle_eq binder pause ⟨urls, locations⟩ told
  rw [settled]
  exact ⟨locations, told, bound ▸ binds.find?, by rw [answer, guard]⟩

/-- A pause ends if the breakpoints that made it are all held, and none of the user's is bound at
the place.
-/
theorem OwnStop.resumes (sound : Sound session) (patterns : session.binder.guard.strategy = .regex)
    {pause : Pause} (stop : session.OwnStop (session.step (.event (.paused pause))).2 pause)
    (held : ∀ id ∈ pause.hits, session.entries.holds id = true)
    : (session.step (.event (.paused pause))).1 = some .resume := by
  obtain ⟨location, script, located, known, unbound⟩ := stop.place
  have named : script.id = location.script := sound.table known
  obtain ⟨id, member⟩ := List.exists_mem_of_ne_nil _ stop.hit
  have guarded : session.binder.guard.isGuardPause pause = true := by
    cases guard : session.binder.guard with
    | off | instrument => rw [guard] at patterns; cases patterns
    | regex registry =>
        have held := held id member
        rw [entries, guard] at held
        exact List.any_eq_true.mpr ⟨id, member, held⟩
  obtain ⟨urls, own⟩ : ∃ urls, session.pausedIn? pause = some (script, urls) := by
    simp [pausedIn?, guarded, Binder.pausedScript?, located, known]
  obtain ⟨locations, told, found, answer⟩ := sound.answer_paused own
  rw [← named, found] at unbound
  rw [answer]
  refine congrArg some (Guard.classify_eq_resume_iff.mpr
    (.inr ⟨patterns, ⟨id, member, ?_⟩, ?_, ?_⟩))
  · exact held id member
  · exact held
  · rw [located]
    simpa [continuesOnEntry] using unbound

/-- A pause that ends under a guard by patterns was made by breakpoints that are held. -/
theorem Sound.held_of_resume (sound : Sound session)
    (patterns : session.binder.guard.strategy = .regex) {pause : Pause}
    (ends : (session.step (.event (.paused pause))).1 = some .resume)
    : ∀ id ∈ pause.hits, session.entries.holds id = true := by
  cases own : session.pausedIn? pause with
  | none =>
      rw [step_paused_of_foreign own] at ends
      cases ends
  | some pair =>
      obtain ⟨script, urls⟩ := pair
      obtain ⟨locations, told, -, answer⟩ := sound.answer_paused own
      rw [answer, Option.some_inj, Guard.classify_eq_resume_iff, patterns] at ends
      rcases ends with ⟨hook, -⟩ | ⟨-, -, held, -⟩
      · cases hook
      · exact held

/-- In every session of a guard by patterns, whatever fails in it, a stop at nothing but entry
breakpoints that the engine has, where none of the user's is bound, does not end in exactly one
case: one of them could not be removed when it was to be, and was not handed out again.
-/
theorem own_stop_stays_iff (target : σ) (steps : List Step) (pause : Pause)
    : let before := (start .regex target).run steps
      let outcome := before.step (.event (.paused pause))
      (before.OwnStop outcome.2 pause ∧ outcome.1 ≠ some .resume)
      ↔ before.OwnStop outcome.2 pause ∧ ∃ id ∈ pause.hits, Stranded before.target.acts id := by
  intro before outcome
  have sound : Sound before := sound_run .regex target steps
  have patterns : before.binder.guard.strategy = .regex :=
    (following_run .regex target steps).strategy
  have remembers : before.Remembers :=
    (remembers_start .regex target).run (sound_start .regex target) steps
  refine and_congr_right fun stop => ?_
  have ends : outcome.1 = some .resume
      ↔ ∀ id ∈ pause.hits, before.entries.holds id = true :=
    ⟨sound.held_of_resume patterns, stop.resumes sound patterns⟩
  have forgotten : ∀ id ∈ pause.hits,
      before.entries.holds id ≠ true ↔ Stranded before.target.acts id := by
    intro id member
    rw [(stop.own id member).stranded_iff, ne_eq, remembers id]
  rw [ne_eq, ends]
  push Not
  exact exists_congr fun id => and_congr_right fun member => forgotten id member

/-- The first id that is handed out, for a file with the stem of an index. -/
def entryId : BreakpointId := "1:0:0:(^|.*[\\\\/])index([^A-Za-z0-9].*)?$"

/-- The breakpoint for a file is hit at the first statement of a script that contains it. -/
def hitIn (script : ScriptId) (url : String) : Pause :=
  ⟨"other", none, [entryId], [⟨"0", "", ⟨script, 0, some 0⟩, url⟩]⟩

/-- A file that two scripts contain, and an engine that cannot remove what it has installed. -/
def stubbornTarget : Simulation where
  failing := [.removeBreakpoint]
  sources := [("out/index.js", ["index.ts"]), ("esm/index.js", ["index.ts"])]

/-- The session of such a target once the first script has stopped and the second is reported. -/
def strandedSession : Session Simulation :=
  (start .regex stubbornTarget).run
    [.request "index.ts",
      .event (.scriptParsed ⟨"1", "out/index.js", none⟩),
      .event (.paused (hitIn "1" "out/index.js")),
      .event (.scriptParsed ⟨"2", "esm/index.js", none⟩)]

theorem strandedSession_acts
    : strandedSession.target.acts
      = [.command (.setBreakpoint (.atEntry (Entry.pattern "index.ts"))) (.ok (some entryId)),
        .bind ⟨"1", "out/index.js", none⟩ [],
        .command (.removeBreakpoint entryId)
          (.error ⟨Simulation.failureCode, "removeBreakpoint failed"⟩),
        .command .resume (.ok none),
        .bind ⟨"2", "esm/index.js", none⟩ []] := by
  rfl

/-- The breakpoint for a file that two scripts contain is to be removed once the first has stopped,
which fails, and the second then stops at it for good.
-/
theorem own_stop_stays_in_second_script
    : let pause := hitIn "2" "esm/index.js"
      let outcome := strandedSession.step (.event (.paused pause))
      strandedSession.OwnStop outcome.2 pause
      ∧ (∀ id ∈ pause.hits, strandedSession.target.target.installed.has id = true)
      ∧ outcome.1 ≠ some .resume
      ∧ outcome.2.binder.state = .paused .userBreakpoint := by
  intro pause outcome
  have bound : (outcome.2.binder.bound.find? "2").getD [] = [] := by decide +kernel
  have stays : outcome.1.map Disposition.isResume = some false := by decide +kernel
  refine ⟨⟨List.cons_ne_nil _ _, ?_, ⟨"2", 0, some 0⟩, ⟨"2", "esm/index.js", none⟩, rfl, ?_, ?_⟩,
    ?_, ?_, ?_⟩
  · intro id member
    rw [List.mem_singleton.mp member, strandedSession_acts]
    refine ⟨[], _, _, rfl, rfl, ?_⟩
    simp
  · decide +kernel
  · rw [bound]
    exact nofun
  · decide +kernel
  · intro ends
    rw [ends] at stays
    cases stays
  · decide +kernel

end EarlyBreak.Session
