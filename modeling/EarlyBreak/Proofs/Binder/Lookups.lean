import EarlyBreak.Debugger.Simulation
import EarlyBreak.Proofs.Binder.Binding
import EarlyBreak.Proofs.Entry.Spellings
import EarlyBreak.Proofs.Url.Slashes

/-! What the binder asks its registry for.  The candidates of a script are canonical forms already
when the registry takes their canonical forms, so they are the keys that files are stored under.
-/

namespace EarlyBreak.Binder

open Debugger Entry
open ScriptUrl (canonical canonical_canonical)

variable {σ : Type} {name source candidate : String}

/-- A candidate is in canonical form, so that looking it up does not change it. -/
theorem canonical_candidate [BreakpointManager σ] {script : Script} {target : σ}
    (among : candidate ∈ (candidates script target).1)
    : canonical candidate = candidate := by
  obtain ⟨name, -, rfl⟩ := mem_candidates.mp among
  exact canonical_canonical name

/-- A registry takes texts with one canonical form for one file. -/
theorem lookups_of_canonical (same : canonical name = canonical source) (registry : Registry)
    [Engine σ] (engine : σ)
    : registry.hasPending name = registry.hasPending source
      ∧ ∀ id, registry.resolveHit id name engine = registry.resolveHit id source engine := by
  refine ⟨by rw [Registry.hasPending, Registry.hasPending, same], fun id => ?_⟩
  rw [Registry.resolveHit, Registry.resolveHit, same]

/-- Taking the canonical form again changes nothing.  So a candidate is looked up as it is, and the
candidate of each source of a script finds what is stored for the source under any spelling with the
same canonical form: whether the file waits, what a hit does, and the file itself once it is added.
-/
theorem candidates_find_stored
    : (∀ url, canonical (canonical url) = canonical url)
      ∧ ∀ (σ : Type) [Engine σ] [BreakpointManager σ] (script : Script) (target : σ),
          (∀ candidate ∈ (candidates script target).1,
            ∀ registry : Registry, registry.hasPending candidate = registry.byFile.has candidate)
          ∧ ∀ name ∈ script.url :: (BreakpointManager.sourcePaths script target).1,
              ∃ candidate ∈ (candidates script target).1,
                ∀ source,
                  canonical name = canonical source →
                  ∀ (registry : Registry) (engine : σ),
                    registry.hasPending candidate = registry.hasPending source
                    ∧ (∀ id,
                        registry.resolveHit id candidate engine
                        = registry.resolveHit id source engine)
                    ∧ ((registry.add source engine).1.isSome = true →
                        (registry.add source engine).2.1.byFile.has candidate = true) := by
  refine ⟨canonical_canonical, fun σ _ _ script target => ⟨?_, ?_⟩⟩
  · intro candidate among registry
    rw [Registry.hasPending, canonical_candidate among]
  · intro name covered
    have among := mem_candidates.mpr ⟨name, covered, rfl⟩
    refine ⟨canonical name, among, fun source same registry engine => ?_⟩
    have alike : canonical (canonical name) = canonical source := by
      rw [canonical_canonical, same]
    obtain ⟨waits, hits⟩ := lookups_of_canonical alike registry engine
    refine ⟨waits, hits, fun added => ?_⟩
    have stored := hasPending_add registry engine alike.symm added
    rwa [Registry.hasPending, canonical_canonical] at stored

theorem candidates_find_stored_drive
    : let script : Script := ⟨"1", "C:\\work\\out\\a.js", none⟩
      let target : Simulation := { sources := [("C:\\work\\out\\a.js", ["C:\\work\\src\\a.ts"])] }
      let stored := ({} : Registry).add "c:/work/src/a.ts" target
      stored.1.isSome = true
      ∧ ∃ candidate ∈ (candidates script target).1, stored.2.1.byFile.has candidate = true := by
  intro script target stored
  have added : stored.1.isSome = true := rfl
  have same : canonical "C:\\work\\src\\a.ts" = canonical "c:/work/src/a.ts" := by
    have noUrl {url : String}
        (start : Text.sameIgnoringAsciiCase (url.toList.take 5) "file:".toList = false)
        : ScriptUrl.filePath? url = none := by
      rw [ScriptUrl.filePath?, start]
      rfl
    rw [← String.toList_inj, ScriptUrl.toList_canonical, ScriptUrl.toList_canonical,
      noUrl (by decide), noUrl (by decide)]
    decide
  obtain ⟨candidate, among, finds⟩ :=
    (candidates_find_stored.2 Simulation script target).2 "C:\\work\\src\\a.ts"
      (List.mem_cons_of_mem _ List.mem_cons_self)
  exact ⟨added, candidate, among, (finds _ same {} target).2.2 added⟩

end EarlyBreak.Binder
