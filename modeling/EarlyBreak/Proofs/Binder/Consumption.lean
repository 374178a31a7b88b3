import EarlyBreak.Debugger.Simulation
import EarlyBreak.Proofs.Binder.Soundness
import Mathlib.Data.List.Induction

/-! What it takes to be done with a request: a file waits no more only when a guard's pause in a
script is decided on, and the breakpoints in that script were bound then, once in all.
-/

namespace EarlyBreak.Session

open Debugger Entry Entry.Registry

variable {σ : Type} [Engine σ] [BreakpointManager σ] {before after : Session σ} {step : Step}
  {answer : Option Disposition}

/-- Only a request lets a file wait that did not. -/
theorem Change.request_of_pending {file : String} (change : Change before step answer after)
    (sound : Sound before) (waits : after.entries.Pending file)
    (fresh : ¬ before.entries.Pending file)
    : ∃ source, step = .request source ∧ ScriptUrl.canonical source = file := by
  cases change with
  | @requested source _ scripts bound asked added state =>
      rcases (added.pending sound.coherent).2 waits with earlier | same
      · exact absurd earlier fresh
      · exact ⟨source, rfl, same.symm⟩
  | deferred scripts bound silent guard | parsed scripts binds guard
  | resumed scripts bound silent guard | shown foreign scripts bound silent guard =>
      rw [entries, guard] at waits
      exact absurd waits fresh
  | settled own scripts binds maintained decided released coherent ended =>
      exact absurd (released.pending waits) fresh

/-- A file waits since a request: it did not wait before, and it has at every moment after. -/
structure WaitsSince (session : Session σ) (file : String) (earlier : List Step)
    (source : String) (later : List Step) : Prop where
  named : ScriptUrl.canonical source = file
  fresh : ¬ (session.run earlier).entries.Pending file
  waits
    : ∀ done, done <+: later →
        (session.run (earlier ++ .request source :: done)).entries.Pending file

/-- The breakpoints in a script were bound between a request and a later moment. -/
def BoundSince (session : Session σ) (earlier : List Step) (source : String)
    (after : Session σ) (script : ScriptId) : Prop :=
  ∃ asked,
    after.target.acts = (session.run (earlier ++ [.request source])).target.acts ++ asked
    ∧ script ∈ asked.filterMap Act.bound?

/-- A file that waits does so since some request, by induction along the steps from the last. -/
theorem exists_waitsSince {session : Session σ} {file : String} (sound : Sound session)
    (fresh : ¬ session.entries.Pending file) (steps : List Step)
    (waits : (session.run steps).entries.Pending file)
    : ∃ earlier source later,
        steps = earlier ++ .request source :: later
        ∧ session.WaitsSince file earlier source later := by
  induction steps using List.reverseRecOn with
  | nil => exact absurd waits fresh
  | append_singleton steps step ih =>
      -- If it waited before the last step it has waited since; else that step made it wait.
      by_cases already : (session.run steps).entries.Pending file
      · obtain ⟨earlier, source, later, rfl, since⟩ := ih already
        refine ⟨earlier, source, later ++ [step], by simp, since.named, since.fresh, ?_⟩
        intro done before
        rcases List.prefix_concat_iff.mp before with rfl | before
        · simpa using waits
        · exact since.waits done before
      · rw [run_append] at waits
        have change := (sound.run steps).change step
        obtain ⟨source, rfl, named⟩ := change.request_of_pending (sound.run steps) waits already
        refine ⟨steps, source, [], rfl, named, already, ?_⟩
        intro done before
        rw [List.prefix_nil.mp before, run_append]
        exact waits

/-- A request binds no breakpoints. -/
theorem Change.boundIds_of_request {source : String}
    (change : Change before (.request source) answer after)
    : after.target.boundIds = before.target.boundIds := by
  cases change with
  | requested scripts bound asked added state => exact asked.boundIds_eq

/-- A change after which a file waits no more is a guard's pause, in a script whose breakpoints are
bound by then.
-/
theorem Change.bound_of_done {file : String} (change : Change before step answer after)
    (sound : Sound before) (waits : before.entries.Pending file)
    (done : ¬ after.entries.Pending file)
    : ∃ pause location,
        step = .event (.paused pause)
        ∧ before.binder.guard.isGuardPause pause = true
        ∧ pause.location? = some location
        ∧ location.script ∈ after.target.boundIds := by
  cases change with
  | requested scripts bound asked added state =>
      exact absurd ((added.pending sound.coherent).1 waits) done
  | deferred scripts bound silent guard | parsed scripts binds guard
  | resumed scripts bound silent guard | shown foreign scripts bound silent guard =>
      rw [entries, guard] at done
      exact absurd waits done
  | @settled pause script _ _ _ told removed _ _ own scripts binds maintained decided released
      coherent ended =>
      obtain ⟨guarded, location, located, same⟩ := sound.pausedIn?_eq_some own
      refine ⟨pause, location, rfl, guarded, located, ?_⟩
      exact (mem_boundIds_of_settled sound binds maintained ended).mpr (.inr same)

/-- Whenever a file waits no more after a step, the step is a guard's pause.  By then the
breakpoints in the script of that pause were bound exactly once, and since the last request that
made the file wait unless that was done even before it.
-/
theorem bound_once_of_done (strategy : Strategy) (target : σ) (steps : List Step) (step : Step)
    (file : String)
    (waits : ((start strategy target).run steps).entries.Pending file)
    (done : ¬ ((start strategy target).run (steps ++ [step])).entries.Pending file)
    : let session := start strategy target
      let after := session.run (steps ++ [step])
      ∃ pause location earlier source later,
        step = .event (.paused pause)
        ∧ (session.run steps).binder.guard.isGuardPause pause = true
        ∧ pause.location? = some location
        ∧ steps = earlier ++ .request source :: later
        ∧ session.WaitsSince file earlier source later
        ∧ after.target.boundIds.count location.script = 1
        ∧ (location.script ∈ (session.run earlier).target.boundIds
          ∨ session.BoundSince earlier source after location.script) := by
  intro session after
  have sound : Sound session := sound_start strategy target
  have change := (sound.run steps).change step
  have final : after = ((session.run steps).step step).2 := run_append _ steps [step]
  rw [← final] at change
  obtain ⟨pause, location, paused, guarded, located, bound⟩ :=
    change.bound_of_done (sound.run steps) waits done
  have fresh : ¬ session.entries.Pending file := by
    rw [entries_start]
    exact not_pending_empty file
  obtain ⟨earlier, source, later, rfl, since⟩ := exists_waitsSince sound fresh steps waits
  refine ⟨pause, location, earlier, source, later, paused, guarded, located, rfl, since, ?_, ?_⟩
  · rw [Recorded.boundIds, (sound.run _).memoized.once.count]
    exact if_pos bound
  · -- The record after the step is what it was after the request, and what was asked since.
    have requested := run_append session earlier [.request source]
    have whole : after = (session.run (earlier ++ [.request source])).run (later ++ [step]) := by
      rw [← run_append]
      exact congrArg session.run (by simp)
    obtain ⟨asked, acts⟩ := (sound.run (earlier ++ [.request source])).acts_grow (later ++ [step])
    rw [← whole] at acts
    rw [Recorded.boundIds, ← acts, List.filterMap_append] at bound
    rcases List.mem_append.mp bound with before | since
    · left
      rw [requested] at before
      rwa [← ((sound.run earlier).change (.request source)).boundIds_of_request]
    · exact .inr ⟨asked, acts.symm, since⟩

/-- A script is reported. -/
def reportScript : Step := .event (.scriptParsed ⟨"1", "a.js", none⟩)

/-- The script stops at its entry breakpoint. -/
def pauseAtEntry : Pause :=
  ⟨"other", none, ["1:0:0:" ++ Entry.pattern "a.js"], [⟨"0", "", ⟨"1", 0, some 0⟩, "a.js"⟩]⟩

/-- A request before its script: the breakpoints in the script are bound at the pause. -/
theorem bound_once_of_done_request_first
    : let session := start .regex ({} : Simulation)
      let after := session.run [.request "a.js", reportScript, .event (.paused pauseAtEntry)]
      (session.run [.request "a.js", reportScript]).entries.Pending "a.js"
      ∧ ¬ after.entries.Pending "a.js"
      ∧ ∃ pause location,
          Step.event (.paused pauseAtEntry) = .event (.paused pause)
          ∧ pause.location? = some location
          ∧ after.target.boundIds.count location.script = 1 := by
  intro session after
  have waits : (session.run [.request "a.js", reportScript]).entries.Pending "a.js" := by
    decide +kernel
  have done : ¬ after.entries.Pending "a.js" := by decide +kernel
  obtain ⟨pause, location, earlier, source, later, paused, -, located, -, -, once, -⟩ :=
    bound_once_of_done .regex ({} : Simulation) [.request "a.js", reportScript]
      (.event (.paused pauseAtEntry)) "a.js" waits done
  exact ⟨waits, done, pause, location, paused, located, once⟩

/-- A request after its script was bound: at the pause the file waits no more, and the breakpoints
in the script are not bound again.
-/
theorem not_boundSince_report_first
    : let session := start .regex ({} : Simulation)
      let after := session.run [reportScript, .request "a.js", .event (.paused pauseAtEntry)]
      session.WaitsSince "a.js" [reportScript] "a.js" []
      ∧ (session.run [reportScript, .request "a.js"]).binder.guard.isGuardPause pauseAtEntry = true
      ∧ pauseAtEntry.location? = some ⟨"1", 0, some 0⟩
      ∧ ¬ after.entries.Pending "a.js"
      ∧ ¬ session.BoundSince [reportScript] "a.js" after "1" := by
  intro session after
  refine ⟨⟨by decide +kernel, by decide +kernel, ?_⟩, by decide +kernel, rfl, by decide +kernel, ?_⟩
  · intro done before
    rw [List.prefix_nil.mp before]
    decide +kernel
  · rintro ⟨asked, acts, member⟩
    have once : after.target.boundIds = ["1"] := by decide +kernel
    have before : (session.run [reportScript, .request "a.js"]).target.boundIds = ["1"] := by
      decide +kernel
    rw [Recorded.boundIds, acts, List.filterMap_append] at once
    rw [show asked.filterMap Act.bound? = [] from
      List.append_cancel_left (once.trans (before.symm.trans (List.append_nil _).symm))] at member
    cases member

end EarlyBreak.Session
