import EarlyBreak.Proofs.Binder.States

/-! When the breakpoints in a script are bound: once, as soon as the script is reported unless an
entry pause is certain to come, and before any pause of the guard in the script is decided on.
-/

namespace EarlyBreak

open Debugger Entry Entry.Registry

/-- The known texts and the new ones are there in the end, by induction along the new ones. -/
theorem Binder.mem_addNew {text : String} {known texts : List String}
    : text ∈ addNew known texts ↔ text ∈ known ∨ text ∈ texts := by
  induction texts generalizing known with
  | nil => simp [addNew]
  | cons first rest ih =>
      rw [addNew, ih, List.mem_cons]
      split
      case isTrue already =>
        rw [List.contains_iff_mem] at already
        constructor
        · exact Or.imp_right .inr
        · rintro (old | rfl | new)
          · exact .inl old
          · exact .inl already
          · exact .inr new
      case isFalse => simp only [List.mem_append, List.mem_singleton, or_assoc]

/-- The candidates are the canonical forms of the script's URL and of its sources. -/
theorem Binder.mem_candidates {σ : Type} [BreakpointManager σ] {script : Script} {target : σ}
    {url : String}
    : url ∈ (candidates script target).1
      ↔ ∃ source ∈ script.url :: (BreakpointManager.sourcePaths script target).1,
          ScriptUrl.canonical source = url := by
  simp only [candidates, mem_addNew, List.mem_map, List.mem_cons, List.not_mem_nil, or_false,
    exists_eq_or_imp]
  rw [eq_comm]

namespace Session

variable {σ : Type}

/-- The breakpoints in a script were bound just once, at some locations. -/
structure BoundAt (acts : List Act) (id : ScriptId) (locations : List Location) : Prop where
  bound : ∃ script, Act.bind script locations ∈ acts ∧ script.id = id
  once : (acts.filterMap Act.bound?).count id = 1

/-- Where a script is known to be bound it was bound, just once. -/
theorem Memoized.boundAt {bound : Index ScriptId (List Location)} {acts : List Act}
    (memoized : Memoized bound acts) {id : ScriptId} {locations : List Location}
    (found : bound.find? id = some locations)
    : BoundAt acts id locations where
  bound := (memoized.found id locations).mp found
  once := by
    rw [memoized.once.count]
    exact if_pos (memoized.mem_iff.mpr ⟨locations, found⟩)

/-- Once the breakpoints in a script are bound it is known where. -/
theorem Binds.find? {bound known : Index ScriptId (List Location)} {acts told : List Act}
    {script : Script} {locations : List Location}
    (binds : Binds bound acts script locations known told)
    : known.find? script.id = some locations := by
  cases binds with
  | already found same silent => rw [same, found]
  | anew unknown noted asked => rw [noted, Index.find?_set_self]

/-- A script is certain to stop at an entry breakpoint, and a file that it covers waits. -/
def AwaitsEntry (session : Session σ) (script : Script) (paths : List String) : Prop :=
  (∃ source ∈ script.url :: paths,
    session.entries.hasPending (ScriptUrl.canonical source) = true)
  ∧ session.entries.willPauseFor script.url = true

variable [Engine σ] [BreakpointManager σ] {strategy : Strategy} {session : Session σ}

/-- A pause in a script is decided on by where the breakpoints in the script were bound that one
time, before the decision.
-/
def DecidedByBound (session : Session σ) (pause : Pause) (script : Script) (urls : List String) :
    Prop :=
  let (answer, after) := session.step (.event (.paused pause))
  ∃ locations, ∃ told : Recorded σ,
    let decision := session.binder.guard.classify pause ⟨urls, locations⟩ told
    BoundAt told.acts script.id locations
    ∧ BoundAt after.target.acts script.id locations
    ∧ answer = some decision.1
    ∧ after.binder.guard = decision.2.1

/-- A script that was reported is bound, unless the guard goes by patterns and the script waits for
its entry pause.
-/
theorem Sound.bound_or_awaits (sound : Sound session) (following : Following strategy session)
    (script : Script)
    : let paths := (BreakpointManager.sourcePaths script session.target).1
      let after := (session.step (.event (.scriptParsed script))).2
      script.id ∈ after.target.boundIds ∨ (strategy = .regex ∧ after.AwaitsEntry script paths) := by
  intro paths after
  have change : Change session (.event (.scriptParsed script)) none after :=
    change_scriptParsed session script
  generalize after = after at change
  cases change with
  | deferred scripts bound silent guard state defers =>
      right
      obtain ⟨patterns, candidate, member, pending⟩ := Guard.pending_of_defers defers
      obtain ⟨source, covered, rfl⟩ := Binder.mem_candidates.mp member
      rw [AwaitsEntry, entries, guard]
      exact ⟨following.strategy.symm.trans patterns, ⟨source, covered, pending⟩,
        Guard.willPauseFor_of_defers defers⟩
  | parsed scripts binds guard state eager =>
      exact .inl ((binds.mem_iff sound.memoized).mpr (.inr rfl))

/-- A pause of the guard in a script is decided on once the breakpoints in the script are bound. -/
theorem Sound.decidedByBound (sound : Sound session) {pause : Pause} {script : Script}
    {urls : List String} (own : session.pausedIn? pause = some (script, urls))
    : session.DecidedByBound pause script urls := by
  obtain ⟨locations, binder, told, settled, guard, -, binds⟩ := step_paused_of_own sound.table own
  obtain ⟨answer, decided, -, bound, -⟩ := settle_eq binder pause ⟨urls, locations⟩ told
  have final := (sound.change (.event (.paused pause))).sound sound
  rw [settled] at final
  unfold DecidedByBound
  rw [settled]
  refine ⟨locations, told, (binds.memoized sound.memoized).boundAt binds.find?, ?_, ?_, ?_⟩
  · exact final.memoized.boundAt (bound ▸ binds.find?)
  · rw [answer, guard]
  · rw [decided, guard]

/-- In every session, whatever fails in it, the breakpoints in a script are bound at most once.
When a script is reported they are bound by then, or else the guard goes by patterns and the script
waits for its entry pause.  Each pause of the guard is decided on by where they were bound.
-/
theorem bound_once_or_awaits (strategy : Strategy) (target : σ) (steps : List Step)
    : let session := (start strategy target).run steps
      (∀ id, session.target.boundIds.count id ≤ 1)
      ∧ (∀ script,
        let paths := (BreakpointManager.sourcePaths script session.target).1
        let after := (session.step (.event (.scriptParsed script))).2
        script.id ∈ after.target.boundIds
        ∨ (strategy = .regex ∧ after.AwaitsEntry script paths))
      ∧ ∀ pause script urls,
        session.pausedIn? pause = some (script, urls)
        → session.DecidedByBound pause script urls := by
  intro session
  have sound : Sound session := sound_run strategy target steps
  refine ⟨?_, ?_, ?_⟩
  · intro id
    exact List.nodup_iff_count.mp sound.memoized.once id
  · exact sound.bound_or_awaits (following_run strategy target steps)
  · intro pause script urls own
    exact sound.decidedByBound own

end Session

end EarlyBreak
