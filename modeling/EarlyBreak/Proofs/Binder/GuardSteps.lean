import EarlyBreak.Proofs.Debugger.Recorded
import EarlyBreak.Proofs.Entry.Observation

/-! What each operation of a guard does: to its entry breakpoints, and to its target.  A guard only
ever installs and removes breakpoints; letting the target go on is not its business.
-/

namespace EarlyBreak.Guard

open Debugger Entry Entry.Registry

/-- The entry breakpoints of a guard.  Only a guard by patterns has some. -/
def entries : Guard → Registry
  | regex registry => registry
  | _ => {}

/-- A new guard has the strategy that it was made for, and no entries. -/
theorem ofStrategy_start (strategy : Strategy)
    : (ofStrategy strategy).strategy = strategy ∧ (ofStrategy strategy).entries = {} := by
  cases strategy <;> exact ⟨rfl, rfl⟩

variable {σ : Type}

section Entries

variable [Engine σ]

/-- Hits of one breakpoint release its record from all sources, by induction along them. -/
theorem resolveHits_released {registry : Registry} (coherent : registry.Coherent)
    (id : BreakpointId) (urls : List String) (engine : σ)
    : (resolveHits registry id urls engine).1.Coherent
      ∧ Released registry (resolveHits registry id urls engine).1 [id]
          (urls.map ScriptUrl.canonical) := by
  induction urls generalizing registry engine with
  | nil => exact ⟨coherent, coherent.released_self (by simp)⟩
  | cons url urls ih =>
      have first := coherent.resolveHit_released id url engine
      obtain ⟨after, rest⟩ := ih (coherent.resolveHit id url engine)
        (registry.resolveHit id url engine).2.2
      exact ⟨after, first.trans_files rest⟩

/-- Hits of several breakpoints release the records of all, by induction along them. -/
theorem resolveAll_released {registry : Registry} (coherent : registry.Coherent)
    (ids : List BreakpointId) (urls : List String) (engine : σ)
    : (resolveAll urls registry ids engine).1.Coherent
      ∧ Released registry (resolveAll urls registry ids engine).1 ids
          (urls.map ScriptUrl.canonical) := by
  induction ids generalizing registry engine with
  | nil => exact ⟨coherent, coherent.released_self (by simp [Reaches])⟩
  | cons id ids ih =>
      obtain ⟨middle, first⟩ := resolveHits_released coherent id urls engine
      obtain ⟨after, rest⟩ := ih middle (resolveHits registry id urls engine).2
      exact ⟨after, first.trans_ids rest⟩

/-- Breakpoints that the registry does not hold reach no slot. -/
theorem reaches_filter_holds {registry : Registry} {ids : List BreakpointId} {slot : Nat}
    : registry.Reaches (ids.filter registry.holds) slot ↔ registry.Reaches ids slot := by
  constructor
  · rintro ⟨id, member, found⟩
    exact ⟨id, (List.mem_filter.mp member).1, found⟩
  · rintro ⟨id, member, found⟩
    exact ⟨id, List.mem_filter.mpr ⟨member, Index.has_iff.mpr ⟨slot, found⟩⟩, found⟩

/-- Installing the engine's hook touches no entry breakpoint. -/
theorem install_entries (guard : Guard) (engine : σ)
    : (guard.install engine).1.entries = guard.entries
      ∧ (guard.install engine).1.strategy = guard.strategy := by
  unfold install
  split
  · split <;> exact ⟨rfl, rfl⟩
  · exact ⟨rfl, rfl⟩

/-- A request guards the file of its source. -/
theorem request_added {guard : Guard} (coherent : guard.entries.Coherent) (source : String)
    (engine : σ)
    : Added guard.entries (ScriptUrl.canonical source)
        (guard.request source engine).1.entries := by
  unfold request
  split
  case h_1 registry => exact coherent.add_added source engine
  case h_2 =>
    rw [(install_entries guard engine).1]
    exact .unchanged

theorem request_strategy (guard : Guard) (source : String) (engine : σ)
    : (guard.request source engine).1.strategy = guard.strategy := by
  unfold request
  split
  · rfl
  · exact (install_entries guard engine).2

/-- A script that the guard defers is certain to stop. -/
theorem willPauseFor_of_defers {guard : Guard} {url : String} {candidates : List String}
    (defers : guard.defers url candidates = true)
    : guard.entries.willPauseFor url = true := by
  cases guard with
  | off | instrument => cases defers
  | regex registry => exact (Bool.and_eq_true_iff.mp defers).2

/-- A guard that defers a script goes by patterns, and one of the candidates waits. -/
theorem pending_of_defers {guard : Guard} {url : String} {candidates : List String}
    (defers : guard.defers url candidates = true)
    : guard.strategy = .regex
      ∧ ∃ candidate ∈ candidates, guard.entries.hasPending candidate = true := by
  cases guard with
  | off | instrument => cases defers
  | regex registry => exact ⟨rfl, List.any_eq_true.mp (Bool.and_eq_true_iff.mp defers).1⟩

/-- Deciding on a pause releases what was hit from the sources of its script. -/
theorem classify_released {guard : Guard} (coherent : guard.entries.Coherent) (pause : Pause)
    (script : PausedScript) (engine : σ)
    : (guard.classify pause script engine).2.1.entries.Coherent
      ∧ Released guard.entries (guard.classify pause script engine).2.1.entries pause.hits
          (script.urls.map ScriptUrl.canonical) := by
  cases guard with
  | off | instrument =>
      exact ⟨coherent, coherent.released_self fun reached => by
        simp [Reaches, entries, Index.find?] at reached⟩
  | regex registry =>
      obtain ⟨after, released⟩ := resolveAll_released coherent
        (pause.hits.filter registry.holds) script.urls engine
      exact ⟨after, {
        hit := fun reached => released.hit (reaches_filter_holds.mpr reached)
        missed := fun unreached => released.missed (mt reaches_filter_holds.mp unreached)
        breakpoints := released.breakpoints
        matchers := released.matchers
      }⟩

theorem classify_strategy (guard : Guard) (pause : Pause) (script : PausedScript) (engine : σ)
    : (guard.classify pause script engine).2.1.strategy = guard.strategy := by
  cases guard <;> rfl

/-- A pause ends exactly if the engine's hook made it, or else if entry breakpoints alone did and
none of the user's breakpoints is at the place.
-/
theorem classify_eq_resume_iff {guard : Guard} {pause : Pause} {script : PausedScript}
    {engine : σ}
    : (guard.classify pause script engine).1 = .resume
      ↔ (guard.strategy = .instrument ∧ pause.isInstrumentation = true)
        ∨ (guard.strategy = .regex
          ∧ (∃ id ∈ pause.hits, guard.entries.holds id = true)
          ∧ (∀ id ∈ pause.hits, guard.entries.holds id = true)
          ∧ continuesOnEntry pause.location? script.bound = true) := by
  cases guard with
  | off => simp [classify, strategy]
  | instrument kind isInstalled =>
      simp only [classify, strategy]
      split <;> simp_all
  | regex registry =>
      simp only [classify, strategy, entries]
      split
      case isTrue none =>
        have unheld : ¬ ∃ id ∈ pause.hits, registry.holds id = true := by
          simpa [List.filter_eq_nil_iff] using none
        simp only [reduceCtorEq, false_and, false_or, true_and, false_iff]
        exact fun both => unheld both.1
      case isFalse some =>
        have held : ∃ id ∈ pause.hits, registry.holds id = true := by
          simpa [List.filter_eq_nil_iff] using some
        split
        case isTrue ends => simpa [held, List.filter_eq_nil_iff] using ends
        case isFalse shown => simpa [held, List.filter_eq_nil_iff] using shown

/-- A pause that the guard did not make leaves the guard and the target as they are. -/
theorem classify_of_not_isGuardPause {guard : Guard} {pause : Pause}
    (other : guard.isGuardPause pause = false) (script : PausedScript) (engine : σ)
    : guard.classify pause script engine = (.surface pause, guard, engine) := by
  cases guard with
  | off => rfl
  | instrument kind isInstalled => simp [classify, show pause.isInstrumentation = false from other]
  | regex registry =>
      have none : pause.hits.filter registry.holds = [] := by
        simpa [isGuardPause, List.filter_eq_nil_iff] using other
      simp [classify, none, resolveAll]

end Entries

section Target

variable [Engine σ]

/-- Installing the engine's hook is at most one command for that. -/
theorem install_extends (guard : Guard) (recorded : Recorded σ)
    : Recorded.Extends Act.Maintains recorded (guard.install recorded).2 := by
  unfold install
  split
  case h_1 kind =>
    have asked := Recorded.Extends.perform (.setInstrumentation kind) recorded fun _ => trivial
    split <;> simp_all
  case h_2 => exact .refl recorded

/-- Guarding a source is at most one command to set a breakpoint. -/
theorem add_extends (registry : Registry) (source : String) (recorded : Recorded σ)
    : Recorded.Extends Act.Maintains recorded (registry.add source recorded).2.2 := by
  simp only [Registry.add]
  split
  · exact .refl recorded
  · split
    · exact .refl recorded
    · have asked := Recorded.Extends.perform (.setBreakpoint (.atEntry (String.ofList
        (expression (stem (ScriptUrl.canonical source).toList)).render))) recorded
        fun _ => trivial
      split <;> simp_all

/-- Noting a hit is at most one command to remove a breakpoint. -/
theorem resolveHit_extends (registry : Registry) (id : BreakpointId) (source : String)
    (recorded : Recorded σ)
    : Recorded.Extends Act.Maintains recorded (registry.resolveHit id source recorded).2.2 := by
  simp only [Registry.resolveHit]
  split
  · exact .refl recorded
  · split
    · exact .refl recorded
    · split
      · split
        · exact .refl recorded
        · exact .perform _ recorded fun _ => trivial
      · exact .refl recorded

/-- Hits of one breakpoint only remove breakpoints, by induction along the sources. -/
theorem resolveHits_extends (registry : Registry) (id : BreakpointId) (urls : List String)
    (recorded : Recorded σ)
    : Recorded.Extends Act.Maintains recorded (resolveHits registry id urls recorded).2 := by
  induction urls generalizing registry recorded with
  | nil => exact .refl recorded
  | cons url urls ih => exact (resolveHit_extends registry id url recorded).trans (ih _ _)

/-- Hits of several breakpoints only remove breakpoints, by induction along them. -/
theorem resolveAll_extends (registry : Registry) (ids : List BreakpointId) (urls : List String)
    (recorded : Recorded σ)
    : Recorded.Extends Act.Maintains recorded (resolveAll urls registry ids recorded).2 := by
  induction ids generalizing registry recorded with
  | nil => exact .refl recorded
  | cons id ids ih => exact (resolveHits_extends registry id urls recorded).trans (ih _ _)

/-- A request installs things only. -/
theorem request_extends (guard : Guard) (source : String) (recorded : Recorded σ)
    : Recorded.Extends Act.Maintains recorded (guard.request source recorded).2 := by
  unfold request
  split
  case h_1 registry => exact add_extends registry source recorded
  case h_2 => exact install_extends guard recorded

/-- Deciding on a pause removes breakpoints only. -/
theorem classify_extends (guard : Guard) (pause : Pause) (script : PausedScript)
    (recorded : Recorded σ)
    : Recorded.Extends Act.Maintains recorded (guard.classify pause script recorded).2.2 := by
  cases guard with
  | off | instrument => exact .refl recorded
  | regex registry => exact resolveAll_extends registry _ script.urls recorded

end Target

end EarlyBreak.Guard
