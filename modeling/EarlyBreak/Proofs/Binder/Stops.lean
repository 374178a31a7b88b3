import EarlyBreak.Debugger.Simulation
import EarlyBreak.Proofs.Binder.Resumption

/-! Whether a target that stands still is said to.  It is, unless the one command to go on that a
pause can lead to has failed: the binder then takes the target for one that runs, and nothing but
another pause tells otherwise.
-/

namespace EarlyBreak.Session

open Debugger Entry Entry.Registry

/-- Whether a step is neither a pause nor a notice that the target goes on. -/
def Step.isQuiet : Step → Bool
  | .event (.paused _) | .event .resumed => false
  | .event (.scriptParsed _) | .request _ => true

variable {σ : Type}

/-- The target is said to be stopped. -/
def IsPaused (session : Session σ) : Prop := ∃ kind, session.binder.state = .paused kind

/-- What was asked of the target between two moments. -/
def askedSince (before after : Session σ) : List Act :=
  after.target.acts.drop before.target.acts.length

/-- The target stands still since a pause that came after some moment: no other pause and no notice
that it goes on came later, and no command to go on succeeded.
-/
structure Stopped (before : Session σ) (later : List Step) (after : Session σ) : Prop where
  quiet : ∀ step ∈ later, step.isQuiet = true
  halted : ∀ id, Act.command .resume (.ok id) ∉ before.askedSince after

/-- What was asked since an earlier session is what the target's record has more. -/
theorem askedSince_eq {before after : Session σ} {asked : List Act}
    (told : after.target.acts = before.target.acts ++ asked)
    : before.askedSince after = asked := by
  rw [askedSince, told, List.drop_left]

theorem runningState_ne_paused (guard : Guard) (kind : PauseKind)
    : Binder.runningState guard ≠ .paused kind := by
  unfold Binder.runningState
  split <;> nofun

variable [Engine σ] [BreakpointManager σ] {before after : Session σ} {step : Step}
  {answer : Option Disposition}

/-- A quiet step neither lets the target go on nor says that it is stopped or is no more. -/
theorem Change.quiet (change : Change before step answer after) (quiet : step.isQuiet = true)
    : Recorded.Extends (·.isResume = false) before.target after.target
      ∧ (after.IsPaused ↔ before.IsPaused) := by
  cases change with
  | requested scripts bound asked added state =>
      obtain ⟨acts, told, maintain⟩ := asked
      refine ⟨⟨acts, told, fun act member => (maintain act member).isResume_eq⟩, ?_⟩
      rw [IsPaused, IsPaused, state]
      split
      case isTrue idle =>
        refine iff_of_false ?_ ?_
        · rintro ⟨kind, running⟩
          exact runningState_ne_paused _ kind running
        · rintro ⟨kind, stopped⟩
          cases idle.symm.trans stopped
      case isFalse => exact Iff.rfl
  | deferred scripts bound silent guard state defers =>
      exact ⟨.of_acts_eq silent, by rw [IsPaused, IsPaused, state]⟩
  | parsed scripts binds guard state eager =>
      exact ⟨binds.silent, by rw [IsPaused, IsPaused, state]⟩
  | resumed | shown | settled => cases quiet

/-- What a pause leads to: the target is said to be stopped and nothing lets it go on, or it is not
and the last thing asked was to let it go on.
-/
theorem Change.paused {pause : Pause} (change : Change before (.event (.paused pause)) answer after)
    : (after.IsPaused
        ∧ Recorded.Extends (·.isResume = false) before.target after.target)
      ∨ (¬ after.IsPaused
        ∧ ∃ earlier reply,
          after.target.acts = before.target.acts ++ (earlier ++ [.command .resume reply])
          ∧ ∀ act ∈ earlier, act.isResume = false) := by
  cases change with
  | shown foreign scripts bound silent guard state =>
      exact .inl ⟨⟨_, state⟩, .of_acts_eq silent⟩
  | @settled _ _ _ _ disposition _ _ _ _ own scripts binds maintained decided released coherent
      ended =>
      obtain ⟨asked, same, silent⟩ := binds.silent_append maintained
      rw [same] at ended
      cases disposition with
      | surface shown => exact .inl ⟨⟨_, ended.2⟩, asked, ended.1, silent⟩
      | resume =>
          obtain ⟨⟨reply, told⟩, running⟩ := ended
          refine .inr ⟨?_, asked, reply, by rw [told, List.append_assoc], silent⟩
          rintro ⟨kind, stopped⟩
          exact runningState_ne_paused _ kind (running.symm.trans stopped)

/-- Quiet steps neither let the target go on nor say that it is stopped or is no more, by induction
along them.
-/
theorem Sound.run_quiet (sound : Sound before) {steps : List Step}
    (quiet : ∀ step ∈ steps, step.isQuiet = true)
    : Recorded.Extends (·.isResume = false) before.target (before.run steps).target
      ∧ ((before.run steps).IsPaused ↔ before.IsPaused) := by
  induction steps generalizing before with
  | nil => exact ⟨.refl _, Iff.rfl⟩
  | cons step steps ih =>
      have change := sound.change step
      obtain ⟨silent, said⟩ := change.quiet (quiet step List.mem_cons_self)
      obtain ⟨silentLater, saidLater⟩ := ih (change.sound sound) fun later member =>
        quiet later (List.mem_cons_of_mem step member)
      exact ⟨silent.trans silentLater, saidLater.trans said⟩

/-- After a pause and quiet steps a target is said to be stopped unless it was asked to go on, which
it was at most once, with one reply.
-/
theorem Sound.run_paused (sound : Sound before) (pause : Pause) {later : List Step}
    (quiet : ∀ step ∈ later, step.isQuiet = true)
    : let after := before.run (.event (.paused pause) :: later)
      (after.IsPaused ∧ ∀ reply, .command .resume reply ∉ before.askedSince after)
      ∨ (¬ after.IsPaused
        ∧ ∃ reply, ∀ other, .command .resume other ∈ before.askedSince after ↔ other = reply) := by
  intro after
  have change := sound.change (.event (.paused pause))
  obtain ⟨⟨more, moreTold, moreSilent⟩, said⟩ := (change.sound sound).run_quiet quiet
  have none : ∀ reply, Act.command .resume reply ∉ more :=
    fun reply member => nomatch moreSilent _ member
  rcases change.paused with ⟨stopped, asked, told, silent⟩ | ⟨running, asked, reply, told, silent⟩
  · left
    rw [told, List.append_assoc] at moreTold
    have since : before.askedSince after = asked ++ more := askedSince_eq moreTold
    refine ⟨said.mpr stopped, fun reply member => ?_⟩
    rw [since, List.mem_append] at member
    exact member.elim (fun earlier => nomatch silent _ earlier) (none reply)
  · right
    rw [told, List.append_assoc] at moreTold
    have since : before.askedSince after = asked ++ [.command .resume reply] ++ more :=
      askedSince_eq moreTold
    refine ⟨mt said.mp running, reply, fun other => ?_⟩
    have noneEarlier : Act.command .resume other ∉ asked := fun member => nomatch silent _ member
    simp [since, none, noneEarlier]

/-- In every session, whatever fails in it, a target that stands still since a pause is not said to
be stopped in exactly one case: the command to go on that the pause led to has failed.
-/
theorem stopped_unsaid_iff (strategy : Strategy) (target : σ) (earlier : List Step)
    (pause : Pause) (later : List Step)
    : let before := (start strategy target).run earlier
      let after := (start strategy target).run (earlier ++ .event (.paused pause) :: later)
      (before.Stopped later after ∧ ¬ after.IsPaused)
      ↔ (∀ step ∈ later, step.isQuiet = true)
        ∧ ∃ e, Act.command .resume (.error e) ∈ before.askedSince after := by
  intro before after
  have sound : Sound before := sound_run strategy target earlier
  have whole : after = before.run (.event (.paused pause) :: later) := run_append _ _ _
  constructor
  · rintro ⟨⟨quiet, unresumed⟩, unsaid⟩
    have outcome := sound.run_paused pause quiet
    rw [← whole] at outcome
    rcases outcome with ⟨said, -⟩ | ⟨-, reply, only⟩
    · exact absurd said unsaid
    · cases reply with
      | ok id => exact absurd ((only _).mpr rfl) (unresumed id)
      | error e => exact ⟨quiet, e, (only _).mpr rfl⟩
  · rintro ⟨quiet, e, failed⟩
    have outcome := sound.run_paused pause quiet
    rw [← whole] at outcome
    rcases outcome with ⟨-, none⟩ | ⟨unsaid, reply, only⟩
    · exact absurd failed (none _)
    · -- There was one command to go on, and that is the one that failed.
      obtain rfl := (only _).mp failed
      exact ⟨⟨quiet, fun id resumed => nomatch (only _).mp resumed⟩, unsaid⟩

/-- A script stops at the engine's hook. -/
def pauseAtHook : Pause := ⟨"instrumentation", none, [], [⟨"0", "", ⟨"1", 0, some 0⟩, "a.js"⟩]⟩

/-- A target that cannot be told to go on stands still at the hook, and waits for a script as far as
the binder knows.
-/
theorem stopped_unsaid_at_hook
    : let session := start .instrument ({ failing := [.resume] } : Simulation)
      let earlier := [.request "a.js", .event (.scriptParsed ⟨"1", "a.js", none⟩)]
      let after := session.run (earlier ++ [.event (.paused pauseAtHook)])
      (session.run earlier).Stopped [] after ∧ ¬ after.IsPaused := by
  intro session earlier after
  have asked : (session.run earlier).askedSince after
      = [.command .resume (.error ⟨Simulation.failureCode, "resume failed"⟩)] := rfl
  have waits : after.binder.state = .awaitingScript := by decide +kernel
  refine ⟨⟨nofun, ?_⟩, ?_⟩
  · intro id resumed
    rw [asked] at resumed
    cases List.mem_singleton.mp resumed
  · rintro ⟨kind, stopped⟩
    cases waits.symm.trans stopped

end EarlyBreak.Session
