import EarlyBreak.Proofs.Entry.Installation

/-! What failed leaves no trace.  A source that could not be guarded and a hit that nothing waited
on can be left out of a run, and everything else in it goes as it went: each answer, each id, each
command, and the registry and the breakpoints at every moment.
-/

namespace EarlyBreak

open Debugger

-----------------------------------------------------------------------------------------
-- Engines that cannot be told apart
-----------------------------------------------------------------------------------------

namespace Debugger

/-- Related engines reply the same to every command, and are related again afterwards. -/
def Lockstep {σ τ : Type} [Engine σ] [Engine τ] (related : σ → τ → Prop) : Prop :=
  ∀ ⦃engine other⦄,
    related engine other
    → ∀ command,
        (Engine.perform command engine).1 = (Engine.perform command other).1
        ∧ related (Engine.perform command engine).2 (Engine.perform command other).2

namespace Simulation

/-- A target with another record of its commands. -/
def withLog (target : Simulation) (log : List (Command × Option CommandError)) : Simulation :=
  { target with calls := log }

/-- The record of a target does not matter to what its next command reaches. -/
theorem reach_withLog (target : Simulation) (log : List (Command × Option CommandError))
    (command : Command)
    : (target.withLog log).reach command
        = ((target.reach command).1, (target.reach command).2.withLog log)
      ∧ (target.reach command).2.calls = target.calls := by
  cases command with
  | setInstrumentation | resume => exact ⟨rfl, rfl⟩
  | setBreakpoint breakpoint =>
      obtain ⟨_, _, mode, _, _, _, _, _, _⟩ := target
      cases mode <;> exact ⟨rfl, rfl⟩
  | removeBreakpoint id =>
      cases installed : target.installed.has id <;> simp [reach, withLog, installed]

/-- What a target does on a command does not depend on what it has written down. -/
theorem perform_withLog (target : Simulation) (log : List (Command × Option CommandError))
    (command : Command)
    : ∃ call,
        (Engine.perform command target).2.calls = target.calls ++ [call]
        ∧ Engine.perform command (target.withLog log)
          = ((Engine.perform command target).1,
            (Engine.perform command target).2.withLog (log ++ [call])) := by
  obtain ⟨reached, kept⟩ := target.reach_withLog log command
  cases failing : target.failing.contains command.kind with
  | true =>
      have elsewhere : (target.withLog log).failing.contains command.kind = true := failing
      simp only [Engine.perform, perform, failing, elsewhere, if_true]
      exact ⟨_, rfl, rfl⟩
  | false =>
      have elsewhere : (target.withLog log).failing.contains command.kind = false := failing
      rw [perform_of_not_failing failing, perform_of_not_failing elsewhere, reached, kept]
      exact ⟨_, rfl, rfl⟩

/-- Two targets differ in their records only, and there in what was written down before a moment. -/
def SinceLogs (log elsewhere : List (Command × Option CommandError)) (target other : Simulation)
    : Prop :=
  ∃ calls, target.calls = log ++ calls ∧ other = target.withLog (elsewhere ++ calls)

/-- Two targets that differ in their records before some point answer alike from then on. -/
theorem lockstep_sinceLogs (log elsewhere : List (Command × Option CommandError))
    : Lockstep (SinceLogs log elsewhere) := by
  rintro target _ ⟨calls, logged, rfl⟩ command
  obtain ⟨call, told, relogged⟩ := target.perform_withLog (elsewhere ++ calls) command
  rw [relogged]
  refine ⟨rfl, calls ++ [call], ?_, ?_⟩
  · rw [told, logged, List.append_assoc]
  · rw [List.append_assoc]

/-- A target that hands out no id for a breakpoint stays as it is, but for its record. -/
theorem eq_withLog_of_unnamed {target asked : Simulation} {breakpoint : UrlBreakpoint}
    {reply : Reply} (replied : Engine.perform (.setBreakpoint breakpoint) target = (reply, asked))
    (unnamed : ∀ id, reply ≠ .ok (some id))
    : asked = target.withLog asked.calls := by
  cases failing : target.failing.contains (Command.setBreakpoint breakpoint).kind with
  | true =>
      obtain ⟨e, failed⟩ := perform_of_failing failing
      obtain ⟨rfl, rfl⟩ := Prod.mk.inj (replied.symm.trans failed)
      rfl
  | false =>
      have reached := perform_of_not_failing failing
      rw [replied] at reached
      obtain ⟨rfl, rfl⟩ := Prod.mk.inj reached
      simp only [reach] at unnamed ⊢
      cases mode : target.mode with
      | fails | withoutId => rfl
      | succeeds =>
          simp only [mode] at unnamed
          exact absurd rfl (unnamed _)

end Simulation

end Debugger

namespace Entry

namespace Registry

variable {registry : Registry} {σ τ : Type} [Engine σ] [Engine τ] {related : σ → τ → Prop}
  {engine : σ} {other : τ}

/-- Guarding a source goes the same with engines that cannot be told apart. -/
theorem add_congr (lockstep : Lockstep related) (alike : related engine other) (source : String)
    : (registry.add source engine).1 = (registry.add source other).1
      ∧ (registry.add source engine).2.1 = (registry.add source other).2.1
      ∧ related (registry.add source engine).2.2 (registry.add source other).2.2 := by
  simp only [Registry.add]
  split
  · exact ⟨rfl, rfl, alike⟩
  · split
    · exact ⟨rfl, rfl, alike⟩
    · obtain ⟨replied, after⟩ := lockstep alike (.setBreakpoint (.atEntry (String.ofList
        (expression (stem (ScriptUrl.canonical source).toList)).render)))
      revert replied after
      generalize Engine.perform _ engine = outcome
      generalize Engine.perform _ other = otherwise
      obtain ⟨reply, asked⟩ := outcome
      obtain ⟨_, told⟩ := otherwise
      rintro rfl after
      rcases reply with e | _ | id <;> exact ⟨rfl, rfl, after⟩

/-- So does noting a hit. -/
theorem resolveHit_congr (lockstep : Lockstep related) (alike : related engine other)
    (id : BreakpointId) (source : String)
    : (registry.resolveHit id source engine).1 = (registry.resolveHit id source other).1
      ∧ (registry.resolveHit id source engine).2.1 = (registry.resolveHit id source other).2.1
      ∧ related (registry.resolveHit id source engine).2.2
          (registry.resolveHit id source other).2.2 := by
  simp only [Registry.resolveHit]
  split
  · exact ⟨rfl, rfl, alike⟩
  · split
    · exact ⟨rfl, rfl, alike⟩
    · split
      · split
        · exact ⟨rfl, rfl, alike⟩
        · exact ⟨rfl, rfl, (lockstep alike _).2⟩
      · exact ⟨rfl, rfl, alike⟩

/-- A source that could not be guarded leaves the registry as it is.  The engine was asked in vain,
if at all.
-/
theorem add_of_none {source : String} (failed : (registry.add source engine).1 = none)
    : (registry.add source engine).2.1 = registry
      ∧ ((registry.add source engine).2.2 = engine
        ∨ ∃ breakpoint reply,
            Engine.perform (.setBreakpoint breakpoint) engine
              = (reply, (registry.add source engine).2.2)
            ∧ ∀ id, reply ≠ .ok (some id)) := by
  simp only [Registry.add] at failed ⊢
  cases waiting : registry.byFile.find? (ScriptUrl.canonical source) with
  | some slot => exact ⟨rfl, .inl rfl⟩
  | none =>
      simp only [waiting] at failed ⊢
      split at failed
      case h_1 slot shared =>
        have vacant : registry.record? slot = none := Option.map_eq_none_iff.mp failed
        exact ⟨by simp only [Registry.addPending, vacant], .inl rfl⟩
      case h_2 unshared =>
        split at failed
        case h_1 => cases failed
        case h_2 reply asked unnamed replied =>
          exact ⟨rfl, .inr ⟨_, reply, replied, fun id named => unnamed id named⟩⟩

/-- A hit that nothing waited on changes nothing at all. -/
theorem resolveHit_of_false {id : BreakpointId} {source : String}
    (failed : (registry.resolveHit id source engine).1 = false)
    : (registry.resolveHit id source engine).2 = (registry, engine) := by
  simp only [Registry.resolveHit] at failed ⊢
  split
  · rfl
  · split
    · rfl
    · split
      · split <;> simp_all
      · rfl

end Registry

-----------------------------------------------------------------------------------------
-- Reports
-----------------------------------------------------------------------------------------

namespace Trial

/-- Something that is done in a trial, or asked of its registry. -/
inductive Request where
  | step (step : Step)
  | holds (id : BreakpointId)
  | hasPending (source : String)
  | willPauseFor (url : String)

/-- What a request is answered. -/
inductive Answer where
  | breakpoint (id : Option BreakpointId)
  | verdict (yes : Bool)
  | silence

/-- What a request is answered at a moment of a trial. -/
def answer (trial : Trial) : Request → Answer
  | .step (.operate (.guard source)) => .breakpoint (trial.registry.add source trial.target).1
  | .step (.operate (.hit id source)) =>
      .verdict (trial.registry.resolveHit id source trial.target).1
  | .step (.configure _ _) => .silence
  | .holds id => .verdict (trial.registry.holds id)
  | .hasPending source => .verdict (trial.registry.hasPending source)
  | .willPauseFor url => .verdict (trial.registry.willPauseFor url)

/-- A trial after a request. -/
def fulfil (trial : Trial) : Request → Trial
  | .step step => trial.advance step
  | _ => trial

/-- A trial after several requests. -/
def fulfilAll (trial : Trial) (requests : List Request) : Trial := requests.foldl fulfil trial

/-- What there is to see of a request: its answer, the commands that the engine was given for it,
and the registry and the breakpoints of the engine afterwards.
-/
structure Report where
  request : Request
  answer : Answer
  commands : List (Command × Option CommandError)
  registry : Registry
  installed : Index BreakpointId UrlBreakpoint

def report (trial : Trial) (request : Request) : Report where
  request
  answer := trial.answer request
  commands := (trial.fulfil request).target.calls.drop trial.target.calls.length
  registry := (trial.fulfil request).registry
  installed := (trial.fulfil request).target.installed

/-- The reports of several requests, each made after those before it. -/
def reports (trial : Trial) : List Request → List Report
  | [] => []
  | request :: requests => trial.report request :: (trial.fulfil request).reports requests

namespace Report

/-- A request to note a hit. -/
def isHit (report : Report) : Bool :=
  match report.request with
  | .step (.operate (.hit _ _)) => true
  | _ => false

/-- A source that could not be guarded, or a hit that nothing waited on. -/
def isFailure (report : Report) : Bool :=
  match report.request, report.answer with
  | .step (.operate (.guard _)), .breakpoint none => true
  | .step (.operate (.hit _ _)), .verdict false => true
  | _, _ => false

end Report

-----------------------------------------------------------------------------------------
-- Runs without the failures of others
-----------------------------------------------------------------------------------------

/-- Two trials differ in nothing but what their targets have written down. -/
structure Twins (trial other : Trial) : Prop where
  registry : other.registry = trial.registry
  target : ∃ log, other.target = trial.target.withLog log

variable {trial other : Trial}

theorem Twins.refl (trial : Trial) : Twins trial trial := ⟨rfl, trial.target.calls, rfl⟩

/-- What differs in its record from a trial does so from its twins. -/
theorem Twins.of_twins {failed : Trial} (twins : Twins trial other) (vain : Twins trial failed)
    : Twins failed other := by
  obtain ⟨log, target⟩ := twins.target
  obtain ⟨told, same⟩ := vain.target
  exact ⟨twins.registry.trans vain.registry.symm, log, by rw [target, same]; rfl⟩

/-- A request is answered the same in trials with the same registry and targets in lockstep, and the
trials stay that way.
-/
theorem fulfil_congr (registry : Registry) (target : Simulation)
    (log : List (Command × Option CommandError)) (request : Request)
    : let trial : Trial := ⟨registry, target⟩
      let twin : Trial := ⟨registry, target.withLog log⟩
      twin.answer request = trial.answer request
      ∧ (twin.fulfil request).registry = (trial.fulfil request).registry
      ∧ Simulation.SinceLogs target.calls log (trial.fulfil request).target
          (twin.fulfil request).target := by
  intro trial twin
  have lockstep := Simulation.lockstep_sinceLogs target.calls log
  have alike : Simulation.SinceLogs target.calls log target (target.withLog log) :=
    ⟨[], (List.append_nil _).symm, by rw [List.append_nil]⟩
  cases request with
  | step step =>
      cases step with
      | operate operation =>
          cases operation with
          | guard source =>
              obtain ⟨named, same, after⟩ := Registry.add_congr lockstep alike source
              exact ⟨congrArg Answer.breakpoint named.symm, same.symm, after⟩
          | hit id source =>
              obtain ⟨noted, same, after⟩ := Registry.resolveHit_congr lockstep alike id source
              exact ⟨congrArg Answer.verdict noted.symm, same.symm, after⟩
      | configure mode failing =>
          exact ⟨rfl, rfl, [], (List.append_nil _).symm, by rw [List.append_nil]; rfl⟩
  | holds | hasPending | willPauseFor => exact ⟨rfl, rfl, alike⟩

/-- A request goes the same in twins, and they stay that way. -/
theorem Twins.fulfil (twins : Twins trial other) (request : Request)
    : other.report request = trial.report request
      ∧ Twins (trial.fulfil request) (other.fulfil request) := by
  obtain ⟨log, target⟩ := twins.target
  obtain rfl : other = ⟨trial.registry, trial.target.withLog log⟩ := by
    rw [← twins.registry, ← target]
  obtain ⟨answered, registry, calls, told, after⟩ :=
    fulfil_congr trial.registry trial.target log request
  refine ⟨?_, registry, _, after⟩
  simp only [report, Report.mk.injEq, true_and]
  refine ⟨answered, ?_, registry, by rw [after]; rfl⟩
  rw [after, told]
  simp only [Simulation.withLog, List.drop_left]

/-- Failures are sources that got no breakpoint and hits that nothing waited on. -/
theorem isFailure_iff {request : Request}
    : (trial.report request).isFailure = true
      ↔ (∃ source,
          request = .step (.operate (.guard source))
          ∧ (trial.registry.add source trial.target).1 = none)
        ∨ ∃ id source,
          request = .step (.operate (.hit id source))
          ∧ (trial.registry.resolveHit id source trial.target).1 = false := by
  cases request with
  | step step =>
      cases step with
      | operate operation =>
          cases operation with
          | guard source =>
              cases named : (trial.registry.add source trial.target).1 <;>
                simp [Report.isFailure, report, answer, named]
          | hit id source =>
              cases noted : (trial.registry.resolveHit id source trial.target).1 <;>
                simp [Report.isFailure, report, answer, noted]
      | configure mode failing => simp [Report.isFailure, report]
  | holds | hasPending | willPauseFor => simp [Report.isFailure, report]

/-- A failure makes no difference but in the record. -/
theorem twins_of_isFailure {request : Request} (failed : (trial.report request).isFailure = true)
    : Twins trial (trial.fulfil request) := by
  rcases isFailure_iff.mp failed with ⟨source, rfl, unnamed⟩ | ⟨id, source, rfl, missed⟩
  · obtain ⟨registry, idle | ⟨breakpoint, reply, replied, refused⟩⟩ := Registry.add_of_none unnamed
    · exact ⟨registry, trial.target.calls, idle⟩
    · exact ⟨registry, _, Simulation.eq_withLog_of_unnamed replied refused⟩
  · have same := Registry.resolveHit_of_false missed
    exact ⟨congrArg Prod.fst same, trial.target.calls, congrArg Prod.snd same⟩

/-- A hit that nothing waited on gives no command. -/
theorem commands_of_isFailure {request : Request}
    (failed : (trial.report request).isFailure = true)
    (hit : (trial.report request).isHit = true)
    : (trial.report request).commands = [] := by
  rcases isFailure_iff.mp failed with ⟨source, rfl, -⟩ | ⟨id, source, rfl, missed⟩
  · cases hit
  · have same : (trial.fulfil (.step (.operate (.hit id source)))).target = trial.target :=
      congrArg Prod.snd (Registry.resolveHit_of_false missed)
    simp only [report, same, List.drop_length]

/-- Each report is that of a request at some moment. -/
theorem exists_moment {requests : List Request} {report : Report}
    (member : report ∈ trial.reports requests)
    : ∃ moment : Trial, ∃ request, report = moment.report request := by
  induction requests generalizing trial with
  | nil => cases member
  | cons request requests ih =>
      rcases List.mem_cons.mp member with rfl | later
      · exact ⟨trial, request, rfl⟩
      · exact ih later

/-- The reports of a run that are no failures. -/
def achieved (trial : Trial) (requests : List Request) : List Report :=
  (trial.reports requests).filter (!·.isFailure)

/-- Twins stay twins, and report the same, when one leaves out what fails in the other; by induction
along the requests.
-/
theorem Twins.fulfilAll (twins : Twins trial other) (requests : List Request)
    : let rest := (trial.achieved requests).map Report.request
      other.reports rest = trial.achieved requests
      ∧ Twins (trial.fulfilAll requests) (other.fulfilAll rest) := by
  induction requests generalizing trial other with
  | nil => exact ⟨rfl, twins⟩
  | cons request requests ih =>
      cases failed : (trial.report request).isFailure with
      | true =>
          have left : trial.achieved (request :: requests)
              = (trial.fulfil request).achieved requests :=
            List.filter_cons_of_neg (by simp [failed])
          rw [left]
          exact ih (twins.of_twins (twins_of_isFailure failed))
      | false =>
          have kept : trial.achieved (request :: requests)
              = trial.report request :: (trial.fulfil request).achieved requests :=
            List.filter_cons_of_pos (by simp [failed])
          obtain ⟨reported, after⟩ := twins.fulfil request
          obtain ⟨rest, final⟩ := ih after
          rw [kept]
          exact ⟨congrArg₂ List.cons reported rest, final⟩

/-- What fails in a run can be left out of it.  Every other request is then answered as it was, with
the same commands, and leaves the registry and the breakpoints that it left; in the end the registry
is the same, and the engine is but for its record.  And a hit that nothing waited on gives the
engine no command.
-/
theorem failures_leave_no_trace (trial : Trial) (requests : List Request)
    : let rest := (trial.achieved requests).map Report.request
      trial.reports rest = trial.achieved requests
      ∧ (trial.fulfilAll rest).registry = (trial.fulfilAll requests).registry
      ∧ (∃ calls,
          (trial.fulfilAll rest).target = { (trial.fulfilAll requests).target with calls })
      ∧ ∀ report ∈ trial.reports requests,
          report.isFailure = true → report.isHit = true → report.commands = [] := by
  intro rest
  obtain ⟨same, twins⟩ := (Twins.refl trial).fulfilAll requests
  refine ⟨same, twins.registry, twins.target, ?_⟩
  intro report member failed hit
  obtain ⟨moment, request, rfl⟩ := exists_moment member
  exact commands_of_isFailure failed hit

end Trial

end Entry

end EarlyBreak
