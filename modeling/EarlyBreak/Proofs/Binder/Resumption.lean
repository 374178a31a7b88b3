import EarlyBreak.Proofs.Binder.Soundness

/-! When a binder lets its target go on: once, as the last thing it does about a pause that it
answers so, and never before the breakpoints in the script of the pause are bound.
-/

namespace EarlyBreak.Session

open Debugger Entry Entry.Registry

variable {σ : Type}

/-- What is asked about a pause ends by letting the target go on.  That was not asked earlier, and
by then the breakpoints in the script of the innermost frame are bound.
-/
def GoesOnLast (before : Session σ) (pause : Pause) (asked : List Act) : Prop :=
  ∃ earlier reply location,
    asked = earlier ++ [.command .resume reply]
    ∧ (∀ act ∈ earlier, act.isResume = false)
    ∧ pause.location? = some location
    ∧ location.script ∈ (before.target.acts ++ earlier).filterMap Act.bound?

/-- What a step asks: to go on exactly where a pause is answered so, which is then the last thing
asked, and no answer to a pause that does not tell its script.
-/
def Resumption (before : Session σ) (step : Step) (answer : Option Disposition)
    (after : Session σ) : Prop :=
  ∃ asked,
    after.target.acts = before.target.acts ++ asked
    ∧ ((∃ act ∈ asked, act.isResume = true)
      ↔ ∃ pause, step = .event (.paused pause) ∧ answer = some .resume)
    ∧ ∀ pause, step = .event (.paused pause) → answer = some .resume →
        before.GoesOnLast pause asked ∧ ¬ before.Unplaced pause

/-- A step that neither lets the target go on nor is answered so. -/
theorem Resumption.of_silent {before after : Session σ} {step : Step}
    {answer : Option Disposition} {asked : List Act}
    (told : after.target.acts = before.target.acts ++ asked)
    (silent : ∀ act ∈ asked, act.isResume = false) (shown : answer ≠ some .resume)
    : Resumption before step answer after := by
  refine ⟨asked, told, ?_, fun _ _ resumes => absurd resumes shown⟩
  constructor
  · rintro ⟨act, member, resumes⟩
    rw [silent act member] at resumes
    cases resumes
  · rintro ⟨pause, -, resumes⟩
    exact absurd resumes shown

/-- A step that asks nothing and is not answered by going on. -/
theorem Resumption.of_acts_eq {before after : Session σ} {step : Step}
    {answer : Option Disposition} (same : after.target.acts = before.target.acts)
    (shown : answer ≠ some .resume)
    : Resumption before step answer after := by
  have told : after.target.acts = before.target.acts ++ [] := by rw [same, List.append_nil]
  exact .of_silent told (by simp) shown

/-- Binding the breakpoints in a script does not let the target go on. -/
theorem Binds.silent {bound known : Index ScriptId (List Location)} {acts told : List Act}
    {script : Script} {locations : List Location}
    (binds : Binds bound acts script locations known told)
    : ∃ asked, told = acts ++ asked ∧ ∀ act ∈ asked, act.isResume = false := by
  cases binds with
  | already found same silent => exact ⟨[], by rw [silent, List.append_nil], by simp⟩
  | anew unknown noted asked => exact ⟨_, asked, by simp [Act.isResume]⟩

/-- Nor does it when the guard is maintained after that. -/
theorem Binds.silent_append {bound known : Index ScriptId (List Location)}
    {acts told removed : List Act} {script : Script} {locations : List Location}
    (binds : Binds bound acts script locations known told)
    (maintained : ∀ act ∈ removed, act.Maintains)
    : ∃ asked, told ++ removed = acts ++ asked ∧ ∀ act ∈ asked, act.isResume = false := by
  obtain ⟨binding, rfl, silent⟩ := binds.silent
  refine ⟨binding ++ removed, List.append_assoc _ _ _, ?_⟩
  intro act member
  rcases List.mem_append.mp member with bind | remove
  · exact silent act bind
  · exact (maintained act remove).isResume_eq

/-- The script of a guard's pause is told by the pause. -/
theorem not_unplaced_of_pausedIn? [BreakpointManager σ] {session : Session σ} {pause : Pause}
    {script : Script} {urls : List String}
    (own : session.pausedIn? pause = some (script, urls))
    : ¬ session.Unplaced pause := by
  intro unplaced
  rw [pausedIn?, pausedScript?_eq_none_iff.mpr unplaced] at own
  split at own <;> cases own

variable [Engine σ] [BreakpointManager σ]

/-- Every kind of change lets the target go on only as the last thing. -/
theorem Change.resumption {before after : Session σ} {step : Step}
    {answer : Option Disposition} (change : Change before step answer after)
    (sound : Sound before)
    : Resumption before step answer after := by
  cases change with
  | requested scripts bound asked added state =>
      obtain ⟨acts, told, maintain⟩ := asked
      exact .of_silent told (fun act member => (maintain act member).isResume_eq) nofun
  | deferred scripts bound silent guard state defers =>
      exact .of_acts_eq silent nofun
  | parsed scripts binds guard state eager =>
      obtain ⟨acts, told, silent⟩ := binds.silent
      exact .of_silent told silent nofun
  | resumed scripts bound silent guard state =>
      exact .of_acts_eq silent nofun
  | shown foreign scripts bound silent guard state =>
      exact .of_acts_eq silent nofun
  | @settled pause script urls locations disposition told removed engine _ own scripts binds
      maintained decided released coherent ended =>
      obtain ⟨asked, same, silent⟩ := binds.silent_append maintained
      rw [same] at ended
      cases disposition with
      | surface pause => exact .of_silent ended.1 silent nofun
      | resume =>
          obtain ⟨⟨reply, told⟩, -⟩ := ended
          obtain ⟨-, location, located, named⟩ := sound.pausedIn?_eq_some own
          refine ⟨asked ++ [.command .resume reply], by rw [told, List.append_assoc], ?_, ?_⟩
          · exact iff_of_true ⟨_, List.mem_append_right _ (List.mem_singleton_self _), rfl⟩
              ⟨pause, rfl, rfl⟩
          · rintro _ ⟨⟩ -
            refine ⟨⟨_, reply, location, rfl, silent, located, ?_⟩,
              not_unplaced_of_pausedIn? own⟩
            -- The script was bound before anything was removed.
            rw [named, ← same, List.filterMap_append]
            exact List.mem_append_left _ ((binds.mem_iff sound.memoized).mpr (.inr rfl))

/-- In every session, whatever fails in it, a step lets the target go on exactly where it answers a
pause so: once, as the last thing, when the breakpoints in the script of the innermost frame are
bound; and a pause that does not tell its script is never answered so.
-/
theorem resumption_of_run (strategy : Strategy) (target : σ) (steps : List Step) (step : Step)
    : let before := (start strategy target).run steps
      Resumption before step (before.step step).1 (before.step step).2 :=
  have sound := sound_run strategy target steps
  (sound.change step).resumption sound

end EarlyBreak.Session
