import EarlyBreak.Proofs.Entry.Release

/-! What a registry tells: the files that wait, the breakpoints it holds and the scripts it stops.
Guarding a file takes none of that away, and hits take away what they release only.
-/

namespace EarlyBreak.Entry.Registry

open Debugger

variable {registry before after : Registry}

/-- A file waits on one of the records. -/
def Pending (registry : Registry) (file : String) : Prop :=
  ∃ slot record, registry.record? slot = some record ∧ file ∈ record.pending

instance (registry : Registry) (file : String) : Decidable (registry.Pending file) :=
  decidable_of_iff
    (∃ content ∈ registry.slots, content.any (·.pending.contains file) = true) (by
      constructor
      · rintro ⟨content, member, waits⟩
        obtain ⟨slot, found⟩ := List.getElem?_of_mem member
        cases content with
        | none => cases waits
        | some record =>
            exact ⟨slot, record, by rw [record?, found, Option.join_some],
              List.contains_iff_mem.mp waits⟩
      · rintro ⟨slot, record, live, waits⟩
        refine ⟨some record, List.mem_of_getElem? (Option.join_eq_some_iff.mp live), ?_⟩
        exact List.contains_iff_mem.mpr waits)

/-- A breakpoint is that of one of the records. -/
def Owns (registry : Registry) (id : BreakpointId) : Prop :=
  ∃ slot record, registry.record? slot = some record ∧ record.id = id

/-- An expression stops a script if it matches its URL as it is or in canonical form. -/
def Stops (matcher : Regex) (url : String) : Prop :=
  matcher.search url.toList = true ∨ matcher.search (ScriptUrl.canonical url).toList = true

/-- The index of files has exactly the waiting files. -/
theorem Coherent.pending_iff (coherent : registry.Coherent) {file : String}
    : registry.Pending file ↔ ∃ slot, registry.byFile.find? file = some slot := by
  simp only [Pending, coherent.files]

/-- A source is waited for exactly if its canonical form is pending. -/
theorem Coherent.hasPending_iff (coherent : registry.Coherent) {source : String}
    : registry.hasPending source = true ↔ registry.Pending (ScriptUrl.canonical source) := by
  rw [coherent.pending_iff, hasPending, Index.has_iff]

/-- A breakpoint that the registry holds is that of a record. -/
theorem Coherent.owns_of_holds (coherent : registry.Coherent) {id : BreakpointId}
    (held : registry.holds id = true)
    : registry.Owns id := by
  obtain ⟨slot, found⟩ := Index.has_iff.mp held
  exact ⟨slot, coherent.breakpoints found⟩

theorem not_pending_empty (file : String) : ¬ ({} : Registry).Pending file := by
  simp [Pending, record?]

theorem not_owns_empty (id : BreakpointId) : ¬ ({} : Registry).Owns id := by
  simp [Owns, record?]

theorem isEmpty_eq_false_iff
    : registry.isEmpty = false ↔ ∃ id, registry.holds id = true := by
  unfold isEmpty holds
  cases registry.byBreakpoint with
  | nil => simp [Index.has, Index.find?]
  | cons pair rest =>
      refine iff_of_true rfl ⟨pair.1, ?_⟩
      simp [Index.has, Index.find?]

/-- A script is going to stop exactly if the expression of some slot stops it. -/
theorem Coherent.willPauseFor_iff (coherent : registry.Coherent) {url : String}
    : registry.willPauseFor url = true
      ↔ ∃ slot matcher, registry.matchers.find? slot = some matcher ∧ Stops matcher url := by
  simp only [willPauseFor, List.any_eq_true, Bool.or_eq_true, Prod.exists, Stops,
    coherent.matchersUnique.mem_iff]

/-- Guarding a file lets no other file wait and none wait no more. -/
theorem Added.pending {file other : String} (step : Added before file after)
    (coherent : before.Coherent)
    : (before.Pending other → after.Pending other)
      ∧ (after.Pending other → before.Pending other ∨ other = file) := by
  rw [(step.coherent coherent).pending_iff, coherent.pending_iff]
  cases step with
  | unchanged => exact ⟨id, .inl⟩
  | shared unknown live patterned =>
      simp only [Registry.addPending, live, Index.find?_set]
      by_cases same : other = file <;> simp [same]
  | installed unknown unshared =>
      simp only [Registry.insert, place]
      cases before.free <;>
        by_cases same : other = file <;> simp [same, Index.find?_set]

/-- Guarding a file gives up no entry breakpoint. -/
theorem Added.holds {file : String} (step : Added before file after) {id : BreakpointId}
    (held : before.holds id = true)
    : after.holds id = true := by
  rw [Registry.holds, Index.has_iff] at held ⊢
  cases step with
  | unchanged => exact held
  | shared unknown live patterned => simpa only [Registry.addPending, live] using held
  | @installed new unknown unshared =>
      have same : (before.place ⟨Entry.pattern file, new, [file]⟩).2.byBreakpoint
          = before.byBreakpoint := by
        unfold place
        cases before.free <;> rfl
      simp only [Registry.insert, same, Index.find?_set]
      split
      · exact ⟨_, rfl⟩
      · exact held

/-- Guarding a file keeps the expressions of the slots that have one. -/
theorem Added.matchers {file : String} (step : Added before file after)
    (coherent : before.Coherent) {slot : Nat} {matcher : Regex}
    (matched : before.matchers.find? slot = some matcher)
    : after.matchers.find? slot = some matcher := by
  cases step with
  | unchanged => exact matched
  | shared unknown live patterned => simpa only [Registry.addPending, live] using matched
  | @installed id unknown unshared =>
      have vacant := coherent.record?_place ⟨Entry.pattern file, id, [file]⟩
      obtain ⟨record, live⟩ := (coherent.matchers slot).mp ⟨matcher, matched⟩
      have elsewhere : slot ≠ (before.place ⟨Entry.pattern file, id, [file]⟩).1 := by
        rintro rfl
        cases vacant.symm.trans live
      have same : (before.place ⟨Entry.pattern file, id, [file]⟩).2.matchers = before.matchers := by
        unfold place
        cases before.free <;> rfl
      simp only [Registry.insert, same, Index.find?_set, if_neg elsewhere, matched]

/-- A script that is going to stop is so still when a file is guarded. -/
theorem Added.willPauseFor {file url : String} (step : Added before file after)
    (coherent : before.Coherent) (stops : before.willPauseFor url = true)
    : after.willPauseFor url = true := by
  obtain ⟨slot, matcher, matched, stop⟩ := coherent.willPauseFor_iff.mp stops
  exact (step.coherent coherent).willPauseFor_iff.mpr
    ⟨slot, matcher, step.matchers coherent matched, stop⟩

variable {ids : List BreakpointId} {files : List String}

/-- Only a file that waited before can wait after a release. -/
theorem Released.pending (released : Released before after ids files) {file : String}
    (waits : after.Pending file)
    : before.Pending file := by
  obtain ⟨slot, left, live, member⟩ := waits
  obtain ⟨record, found, -, -, pending⟩ := released.kept live
  exact ⟨slot, record, found, pending file member⟩

/-- Whether a slot loses its record: one of some breakpoints is its own, and each file that waits
on it is among those released.
-/
def Empties (registry : Registry) (ids : List BreakpointId) (files : List String) (slot : Nat)
    : Prop :=
  registry.Reaches ids slot
  ∧ ∀ record, registry.record? slot = some record → ∀ file ∈ record.pending, file ∈ files

/-- A record leaves its slot exactly if the release empties it. -/
theorem Released.record?_eq_none_iff (released : Released before after ids files) {slot : Nat}
    {record : Record} (live : before.record? slot = some record)
    : after.record? slot = none ↔ before.Empties ids files slot := by
  by_cases reached : before.Reaches ids slot
  · rw [released.hit reached, live, Option.bind_some, Record.release_eq_none_iff]
    simp [Empties, reached, live]
  · rw [released.missed reached, live]
    exact iff_of_false nofun fun emptied => reached emptied.1

/-- After a release a script is going to stop exactly if some expression that stops it belongs to a
record that the release leaves.
-/
theorem Released.willPauseFor_iff (released : Released before after ids files)
    (coherent : before.Coherent) (afterCoherent : after.Coherent) {url : String}
    : after.willPauseFor url = true
      ↔ ∃ slot matcher,
          before.matchers.find? slot = some matcher
          ∧ Stops matcher url
          ∧ ¬ before.Empties ids files slot := by
  rw [afterCoherent.willPauseFor_iff]
  constructor
  · rintro ⟨slot, matcher, matched, stops⟩
    obtain ⟨earlier, left, remains⟩ := (released.matchers slot matcher).mp matched
    obtain ⟨record, live, -⟩ := released.kept remains
    refine ⟨slot, matcher, earlier, stops, fun emptied => ?_⟩
    rw [← released.record?_eq_none_iff live, remains] at emptied
    cases emptied
  · rintro ⟨slot, matcher, earlier, stops, remains⟩
    obtain ⟨record, live⟩ := (coherent.matchers slot).mp ⟨matcher, earlier⟩
    rw [← released.record?_eq_none_iff live, Option.eq_none_iff_forall_ne_some] at remains
    refine ⟨slot, matcher, (released.matchers slot matcher).mpr ⟨earlier, ?_⟩, stops⟩
    simpa using remains

end EarlyBreak.Entry.Registry
