import EarlyBreak.Debugger.Simulation
import EarlyBreak.Proofs.Binder.GuardSteps

/-! Which hits the user never hears of because the guard lets the target go on.  A guard by
patterns hides its own entry breakpoints only; the engine's hook hides whatever was hit with it.
-/

namespace EarlyBreak.Guard

open Debugger Entry Entry.Registry

/-- An operation of a guard. -/
inductive Step where
  | setUp
  | request (source : String)
  | classify (pause : Pause) (script : PausedScript)

section Runs

variable {σ : Type} [Engine σ]

/-- A guard and its target after an operation. -/
def advance (state : Guard × σ) : Step → Guard × σ
  | .setUp => state.1.setUp state.2
  | .request source => state.1.request source state.2
  | .classify pause script => (state.1.classify pause script state.2).2

/-- A guard and its target after several operations. -/
def run (state : Guard × σ) (steps : List Step) : Guard × σ := steps.foldl advance state

/-- No operation changes the strategy or brings the entry breakpoints out of step. -/
theorem advance_keeps (state : Guard × σ) (step : Step)
    (coherent : state.1.entries.Coherent)
    : (advance state step).1.strategy = state.1.strategy
      ∧ (advance state step).1.entries.Coherent := by
  cases step with
  | setUp =>
      obtain ⟨entries, strategy⟩ := install_entries state.1 state.2
      exact ⟨strategy, by rw [advance, setUp, entries]; exact coherent⟩
  | request source =>
      exact ⟨request_strategy state.1 source state.2,
        (request_added coherent source state.2).coherent coherent⟩
  | classify pause script =>
      exact ⟨classify_strategy state.1 pause script state.2,
        (classify_released coherent pause script state.2).1⟩

/-- The guard of a strategy keeps to it, and its entry breakpoints stay in step, by induction along
the operations.
-/
theorem run_keeps (state : Guard × σ) (steps : List Step)
    (coherent : state.1.entries.Coherent)
    : (run state steps).1.strategy = state.1.strategy
      ∧ (run state steps).1.entries.Coherent := by
  induction steps generalizing state with
  | nil => exact ⟨rfl, coherent⟩
  | cons step steps ih =>
      obtain ⟨strategy, after⟩ := advance_keeps state step coherent
      obtain ⟨same, final⟩ := ih (advance state step) after
      exact ⟨same.trans strategy, final⟩

/-- Only a guard by patterns ever holds entry breakpoints. -/
theorem regex_of_owns {guard : Guard} {id : BreakpointId} (owned : guard.entries.Owns id)
    : guard.strategy = .regex := by
  cases guard with
  | regex => rfl
  | off | instrument => exact (not_owns_empty id owned).elim

/-- After any operations a pause that ends hides a hit that is no entry breakpoint of the guard in
exactly one case: the guard is the engine's hook, the hook made the pause, and something was hit.
-/
theorem resume_hides_user_hit_iff (strategy : Strategy) (target : σ) (steps : List Step)
    (pause : Pause) (script : PausedScript)
    : let state := run (ofStrategy strategy, target) steps
      ((state.1.classify pause script state.2).1 = .resume
        ∧ ∃ id ∈ pause.hits, ¬ state.1.entries.Owns id)
      ↔ strategy = .instrument ∧ pause.isInstrumentation = true ∧ pause.hits ≠ [] := by
  intro state
  obtain ⟨sameStrategy, coherent⟩ := run_keeps (ofStrategy strategy, target) steps
    (by rw [(ofStrategy_start strategy).2]; exact coherent_empty)
  have named : state.1.strategy = strategy := sameStrategy.trans (ofStrategy_start strategy).1
  rw [classify_eq_resume_iff, named]
  constructor
  · rintro ⟨⟨hook, hooked⟩ | ⟨patterns, -, own, -⟩, id, hit, foreign⟩
    · exact ⟨hook, hooked, List.ne_nil_of_mem hit⟩
    · exact (foreign (coherent.owns_of_holds (own id hit))).elim
  · rintro ⟨hook, hooked, some⟩
    obtain ⟨id, hit⟩ := List.exists_mem_of_ne_nil _ some
    refine ⟨.inl ⟨hook, hooked⟩, id, hit, fun owned => ?_⟩
    have patterns := named.symm.trans (regex_of_owns owned)
    rw [hook] at patterns
    cases patterns

end Runs

/-- A pause of the engine's hook that a breakpoint of the user was hit in as well. -/
def hookedUserPause : Pause := ⟨"instrumentation", none, ["user-1"], []⟩

/-- The hook lets the target go on although the user's breakpoint was hit. -/
theorem hook_resumes_over_user_hit
    : let state := run (ofStrategy .instrument, ({} : Simulation)) [.setUp]
      (state.1.classify hookedUserPause ⟨[], []⟩ state.2).1 = .resume
      ∧ ¬ ∀ id ∈ hookedUserPause.hits, state.1.entries.Owns id := by
  refine ⟨rfl, fun own => ?_⟩
  exact not_owns_empty "user-1" (own "user-1" (by decide))

end EarlyBreak.Guard
