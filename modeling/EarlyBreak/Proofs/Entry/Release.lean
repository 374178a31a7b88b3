import EarlyBreak.Binder.Guard
import EarlyBreak.Proofs.Entry.Coherence

/-! What hits leave of a registry.  Whatever the order of hits and sources, each record that was
hit loses the files that the script covers, and only a record left empty leaves its slot.
-/

namespace EarlyBreak.Entry

open Debugger

/-- What is left of a record once some files wait no more, unless nothing is. -/
def Record.release (record : Record) (files : List String) : Option Record :=
  let left := record.pending.filter fun file => !files.contains file
  if left.isEmpty then none else some { record with pending := left }

namespace Record

theorem release_eq_none_iff {record : Record} {files : List String}
    : record.release files = none ↔ ∀ file ∈ record.pending, file ∈ files := by
  simp [release]

/-- What is left is the record without the files that were released. -/
theorem release_eq_some {record left : Record} {files : List String}
    (some_left : record.release files = some left)
    : left = { record with pending := record.pending.filter fun file => !files.contains file } := by
  unfold release at some_left
  simp only at some_left
  split at some_left
  · cases some_left
  · exact (Option.some.inj some_left).symm

/-- What is released from a record depends on which of its files are named only. -/
theorem release_congr {record : Record} {files others : List String}
    (same : ∀ file ∈ record.pending, file ∈ files ↔ file ∈ others)
    : record.release files = record.release others := by
  have left : record.pending.filter (fun file => !files.contains file)
      = record.pending.filter (fun file => !others.contains file) := by
    apply List.filter_congr
    intro file member
    simp [same file member]
  simp only [release, left]

/-- Releasing one file leaves the others, in their order. -/
theorem release_singleton (record : Record) (file : String)
    : record.release [file]
      = if (record.pending.filter (· != file)).isEmpty then none
        else some { record with pending := record.pending.filter (· != file) } := by
  have left : record.pending.filter (fun other => !([file].contains other))
      = record.pending.filter (· != file) := by
    apply List.filter_congr
    intro other _
    by_cases same : other = file <;> simp [same]
  simp only [release, left]

/-- Where no file of it is named, a record in use stays as it is. -/
theorem Serving.release_eq_self {record : Record} (serving : record.Serving)
    {files : List String} (unnamed : ∀ file ∈ record.pending, file ∉ files)
    : record.release files = some record := by
  have left : record.pending.filter (fun file => !files.contains file) = record.pending := by
    apply List.filter_eq_self.mpr
    intro file member
    simpa using unnamed file member
  simp only [release, left, List.isEmpty_iff, serving.waited, if_false]

/-- Releasing some files and then others releases all of them. -/
theorem release_bind (record : Record) (files others : List String)
    : (record.release files).bind (·.release others) = record.release (files ++ others) := by
  have both : (record.pending.filter fun file => !files.contains file).filter
        (fun file => !others.contains file)
      = record.pending.filter fun file => !(files ++ others).contains file := by
    rw [List.filter_filter]
    apply List.filter_congr
    intro file _
    simp [Bool.and_comm]
  cases first : record.release files with
  | none =>
      symm
      apply release_eq_none_iff.mpr
      intro file member
      exact List.mem_append_left _ (release_eq_none_iff.mp first file member)
  | some left =>
      rw [release_eq_some first]
      simp only [Option.bind_some, release, both]

end Record

namespace Registry

variable {before middle after : Registry}

/-- Whether one of some breakpoints is that of a slot. -/
def Reaches (registry : Registry) (ids : List BreakpointId) (slot : Nat) : Prop :=
  ∃ id ∈ ids, registry.byBreakpoint.find? id = some slot

/-- The records of some breakpoints were released from some files, and nothing else happened:
what has left its slot is found no more.
-/
structure Released (before after : Registry) (ids : List BreakpointId) (files : List String)
    : Prop where
  hit
    : ∀ {slot},
        before.Reaches ids slot
        → after.record? slot = (before.record? slot).bind (·.release files)
  missed
    : ∀ {slot}, ¬ before.Reaches ids slot → after.record? slot = before.record? slot
  breakpoints
    : ∀ id slot,
        after.byBreakpoint.find? id = some slot
        ↔ before.byBreakpoint.find? id = some slot
          ∧ ∃ record, after.record? slot = some record
  matchers
    : ∀ slot matcher,
        after.matchers.find? slot = some matcher
        ↔ before.matchers.find? slot = some matcher
          ∧ ∃ record, after.record? slot = some record

/-- Where no record that was hit has any of the files, nothing is released. -/
theorem Coherent.released_self (coherent : before.Coherent) {ids : List BreakpointId}
    {files : List String}
    (unaffected
      : ∀ {slot record},
          before.Reaches ids slot
          → before.record? slot = some record
          → ∀ file ∈ record.pending, file ∉ files)
    : Released before before ids files where
  hit := by
    intro slot reached
    cases live : before.record? slot with
    | none => rfl
    | some record =>
        exact ((coherent.serving live).release_eq_self (unaffected reached live)).symm
  missed := fun _ => rfl
  breakpoints := by
    intro id slot
    refine ⟨fun found => ⟨found, ?_⟩, fun both => both.1⟩
    obtain ⟨record, live, -⟩ := coherent.breakpoints found
    exact ⟨record, live⟩
  matchers := by
    intro slot matcher
    exact ⟨fun found => ⟨found, (coherent.matchers slot).mp ⟨matcher, found⟩⟩, fun both => both.1⟩

/-- A record that is still there lost nothing but waiting files. -/
theorem Released.kept {ids : List BreakpointId} {files : List String}
    (released : Released before after ids files) {slot : Nat} {left : Record}
    (live : after.record? slot = some left)
    : ∃ record,
        before.record? slot = some record
        ∧ left.id = record.id
        ∧ left.pattern = record.pattern
        ∧ ∀ file ∈ left.pending, file ∈ record.pending := by
  by_cases reached : before.Reaches ids slot
  · rw [released.hit reached] at live
    obtain ⟨record, found, remains⟩ := Option.bind_eq_some_iff.mp live
    refine ⟨record, found, ?_⟩
    rw [Record.release_eq_some remains]
    exact ⟨rfl, rfl, fun file member => (List.mem_filter.mp member).1⟩
  · rw [released.missed reached] at live
    exact ⟨left, live, rfl, rfl, fun _ member => member⟩

/-- Afterwards breakpoints reach the slots they reached before, as far as those are filled. -/
theorem Released.reaches_iff {ids others : List BreakpointId} {files : List String}
    (released : Released before after ids files) {slot : Nat}
    : after.Reaches others slot
      ↔ before.Reaches others slot ∧ ∃ record, after.record? slot = some record := by
  constructor
  · rintro ⟨id, member, found⟩
    obtain ⟨earlier, live⟩ := (released.breakpoints id slot).mp found
    exact ⟨⟨id, member, earlier⟩, live⟩
  · rintro ⟨⟨id, member, earlier⟩, live⟩
    exact ⟨id, member, (released.breakpoints id slot).mpr ⟨earlier, live⟩⟩

/-- The indices after two releases lead where the first led, as far as records are left. -/
theorem Released.trans_indices {ids others : List BreakpointId} {files more : List String}
    (first : Released before middle ids files) (second : Released middle after others more)
    : (∀ id slot,
        after.byBreakpoint.find? id = some slot
        ↔ before.byBreakpoint.find? id = some slot
          ∧ ∃ record, after.record? slot = some record)
      ∧ ∀ slot matcher,
        after.matchers.find? slot = some matcher
        ↔ before.matchers.find? slot = some matcher
          ∧ ∃ record, after.record? slot = some record := by
  have between {slot : Nat} (live : ∃ record, after.record? slot = some record)
      : ∃ record, middle.record? slot = some record := by
    obtain ⟨left, found⟩ := live
    obtain ⟨record, earlier, -⟩ := second.kept found
    exact ⟨record, earlier⟩
  constructor
  · intro id slot
    rw [second.breakpoints, first.breakpoints, and_assoc]
    exact and_congr_right fun _ => and_iff_right_of_imp between
  · intro slot matcher
    rw [second.matchers, first.matchers, and_assoc]
    exact and_congr_right fun _ => and_iff_right_of_imp between

/-- One breakpoint hit for some files and then for others is hit for all of them. -/
theorem Released.trans_files {id : BreakpointId} {files others : List String}
    (first : Released before middle [id] files) (second : Released middle after [id] others)
    : Released before after [id] (files ++ others) where
  breakpoints := (first.trans_indices second).1
  matchers := (first.trans_indices second).2
  hit := by
    intro slot reached
    have both : (before.record? slot).bind (·.release (files ++ others))
        = (middle.record? slot).bind (·.release others) := by
      simp only [first.hit reached, Option.bind_assoc, Record.release_bind]
    rw [both]
    cases remains : middle.record? slot with
    | some left =>
        rw [second.hit (first.reaches_iff.mpr ⟨reached, left, remains⟩), remains]
    | none =>
        -- The first hit emptied the slot, so the second reaches nothing.
        have gone : ¬ middle.Reaches [id] slot := by
          intro again
          simpa [remains] using (first.reaches_iff.mp again).2
        rw [second.missed gone, remains, Option.bind_none]
  missed := by
    intro slot unreached
    have still : ¬ middle.Reaches [id] slot :=
      fun again => unreached (first.reaches_iff.mp again).1
    rw [second.missed still, first.missed unreached]

/-- Some breakpoints and then others hit for the same files are all hit for them.  A slot that two
of them reach loses nothing by the second.
-/
theorem Released.trans_ids {ids others : List BreakpointId} {files : List String}
    (first : Released before middle ids files) (second : Released middle after others files)
    : Released before after (ids ++ others) files where
  breakpoints := (first.trans_indices second).1
  matchers := (first.trans_indices second).2
  hit := by
    intro slot reached
    -- Both halves may reach the slot; the second then finds the files gone already.
    have twice : ((before.record? slot).bind (·.release files)).bind (·.release files)
        = (before.record? slot).bind (·.release files) := by
      simp only [Option.bind_assoc, Record.release_bind]
      congr 1
      funext record
      exact Record.release_congr fun file _ => by simp
    by_cases early : before.Reaches ids slot
    · by_cases again : middle.Reaches others slot
      · rw [second.hit again, first.hit early, twice]
      · rw [second.missed again, first.hit early]
    · have late : before.Reaches others slot := by
        obtain ⟨id, member, found⟩ := reached
        rcases List.mem_append.mp member with inIds | inOthers
        · exact (early ⟨id, inIds, found⟩).elim
        · exact ⟨id, inOthers, found⟩
      rw [← first.missed early]
      cases remains : middle.record? slot with
      | some left => rw [second.hit (first.reaches_iff.mpr ⟨late, left, remains⟩), remains]
      | none =>
          have gone : ¬ middle.Reaches others slot := by
            intro again
            simpa [remains] using (first.reaches_iff.mp again).2
          rw [second.missed gone, remains, Option.bind_none]
  missed := by
    intro slot unreached
    have early : ¬ before.Reaches ids slot := by
      rintro ⟨id, member, found⟩
      exact unreached ⟨id, List.mem_append_left _ member, found⟩
    have late : ¬ middle.Reaches others slot := by
      intro again
      obtain ⟨id, member, found⟩ := (first.reaches_iff.mp again).1
      exact unreached ⟨id, List.mem_append_right _ member, found⟩
    rw [second.missed late, first.missed early]

theorem reaches_singleton {registry : Registry} {id : BreakpointId} {slot other : Nat}
    (found : registry.byBreakpoint.find? id = some slot)
    : registry.Reaches [id] other ↔ other = slot := by
  simp [Reaches, found, eq_comm]

/-- A record that keeps some waiting files stays, and every index leads where it led. -/
theorem Coherent.released_refit (coherent : before.Coherent) {id : BreakpointId} {slot : Nat}
    {record left : Record} {files : List String}
    (found : before.byBreakpoint.find? id = some slot)
    (live : before.record? slot = some record) (remains : record.release files = some left)
    (records
      : ∀ other,
          after.record? other = if other = slot then some left else before.record? other)
    (byBreakpoint : after.byBreakpoint = before.byBreakpoint)
    (matchers : after.matchers = before.matchers)
    : Released before after [id] files := by
  have still {other : Nat} (old : ∃ kept, before.record? other = some kept)
      : ∃ kept, after.record? other = some kept := by
    rw [records other]
    split
    · exact ⟨left, rfl⟩
    · exact old
  refine {
    hit := ?_
    missed := ?_
    breakpoints := ?_
    matchers := ?_
  }
  · intro other reached
    rw [records other, (reaches_singleton found).mp reached, if_pos rfl, live,
      Option.bind_some, remains]
  · intro other unreached
    rw [records other, if_neg fun same => unreached ((reaches_singleton found).mpr same)]
  · intro other place
    rw [byBreakpoint]
    refine ⟨fun elsewhere => ⟨elsewhere, still ?_⟩, fun both => both.1⟩
    obtain ⟨old, alive, -⟩ := coherent.breakpoints elsewhere
    exact ⟨old, alive⟩
  · intro place matcher
    rw [matchers]
    exact ⟨fun matched => ⟨matched, still ((coherent.matchers place).mp ⟨matcher, matched⟩)⟩,
      fun both => both.1⟩

/-- A record that keeps no waiting file leaves its slot, and the indices lead there no more. -/
theorem Coherent.released_vacate (coherent : before.Coherent) {id : BreakpointId} {slot : Nat}
    {record : Record} {files : List String}
    (found : before.byBreakpoint.find? id = some slot)
    (live : before.record? slot = some record) (gone : record.release files = none)
    (records
      : ∀ other, after.record? other = if other = slot then none else before.record? other)
    (byBreakpoint : after.byBreakpoint = before.byBreakpoint.unset record.id)
    (matchers : after.matchers = before.matchers.unset slot)
    : Released before after [id] files where
  hit := by
    intro other reached
    rw [records other, (reaches_singleton found).mp reached, if_pos rfl, live,
      Option.bind_some, gone]
  missed := by
    intro other unreached
    rw [records other, if_neg fun same => unreached ((reaches_singleton found).mpr same)]
  breakpoints := by
    intro other place
    have named : record.id = id := by
      obtain ⟨same, alive, named⟩ := coherent.breakpoints found
      rw [← named, Option.some.inj (live.symm.trans alive)]
    rw [byBreakpoint, Index.find?_unset, records place]
    by_cases mine : other = record.id
    · rw [if_pos mine, mine, named, found]
      refine iff_of_false nofun ?_
      rintro ⟨same, kept, alive⟩
      simp [Option.some.inj same] at alive
    · rw [if_neg mine]
      refine ⟨fun elsewhere => ⟨elsewhere, ?_⟩, fun both => both.1⟩
      obtain ⟨old, alive, oldNamed⟩ := coherent.breakpoints elsewhere
      refine ⟨old, ?_⟩
      rw [if_neg, alive]
      intro same
      rw [same, live] at alive
      exact mine (by rw [← oldNamed, Option.some.inj alive])
  matchers := by
    intro place matcher
    rw [matchers, Index.find?_unset, records place]
    by_cases here : place = slot
    · simp [here]
    · rw [if_neg here, if_neg here]
      exact ⟨fun matched => ⟨matched, (coherent.matchers place).mp ⟨matcher, matched⟩⟩,
        fun both => both.1⟩

/-- Taking a file off a record changes the slot of that record only. -/
theorem removePending_record? {slot : Nat} {record : Record}
    (live : before.record? slot = some record) (file : String) (other : Nat)
    : (before.removePending slot record file).2.record? other
      = if other = slot then record.release [file] else before.record? other := by
  have records := join_getElem?_set (lt_of_record? live)
  rw [Record.release_singleton]
  simp only [Registry.removePending]
  split
  · exact records none other
  · exact records _ other

/-- Taking a file off the record of a breakpoint releases that record from it. -/
theorem Coherent.removePending_released (coherent : before.Coherent) {id : BreakpointId}
    {slot : Nat} {record : Record} (found : before.byBreakpoint.find? id = some slot)
    (live : before.record? slot = some record) (file : String)
    : Released before (before.removePending slot record file).2 [id] [file] := by
  have records := removePending_record? live file
  have remains := record.release_singleton file
  simp only [Registry.removePending] at records ⊢
  split at remains
  case isTrue emptied =>
    rw [if_pos emptied] at records ⊢
    rw [remains] at records
    exact coherent.released_vacate found live remains records rfl rfl
  case isFalse filled =>
    rw [if_neg filled] at records ⊢
    rw [remains] at records
    exact coherent.released_refit found live remains records rfl rfl

section Operations

variable {σ : Type} [Engine σ]

/-- A hit releases the record of its breakpoint from the source, whatever the engine replies. -/
theorem Coherent.resolveHit_released (coherent : before.Coherent) (id : BreakpointId)
    (source : String) (engine : σ)
    : Released before (before.resolveHit id source engine).2.1 [id]
        [ScriptUrl.canonical source] := by
  simp only [Registry.resolveHit]
  cases found : before.byBreakpoint.find? id with
  | none => exact coherent.released_self fun reached => by simp [Reaches, found] at reached
  | some slot =>
      obtain ⟨record, live, -⟩ := coherent.breakpoints found
      simp only [live]
      split
      case isTrue =>
        have released := coherent.removePending_released found live
          (ScriptUrl.canonical source)
        split <;> simp_all
      case isFalse absent =>
        apply coherent.released_self
        intro other kept reached alive file member
        rw [(reaches_singleton found).mp reached, live] at alive
        rw [List.mem_singleton]
        rintro rfl
        exact absent (List.contains_iff_mem.mpr (Option.some.inj alive ▸ member))

end Operations

end Registry

end EarlyBreak.Entry
