import EarlyBreak.Entry.Registry

/-! Slots and indices of a registry move together.  One invariant ties all of them, and every
primitive of the registry keeps it, whatever ids the engine hands out.
-/

namespace EarlyBreak.Entry

open Debugger

/-- A record in use: some file waits on it, and it has the pattern of each file that does. -/
structure Record.Serving (record : Record) : Prop where
  waited : record.pending ≠ []
  patterned : ∀ file ∈ record.pending, Entry.pattern file = record.pattern

/-- A file that is added to texts in order is among them, and so are the others. -/
theorem mem_insertText {text other : String} {texts : List String}
    : other ∈ insertText text texts ↔ other = text ∨ other ∈ texts := by
  induction texts with
  | nil => simp [insertText]
  | cons first rest ih =>
      by_cases same : text = first
      · simp [insertText, same]
      · by_cases before : text < first
        · simp [insertText, same, before]
        · simp only [insertText, same, before, if_false, List.mem_cons, ih]
          exact or_left_comm

namespace Registry

variable {registry : Registry}

/-- The slots and the indices tell the same.  An id may come twice, so an index by ids leads to
records but not always to all of them.
-/
structure Coherent (registry : Registry) : Prop where
  free
    : ∀ slot,
        slot ∈ registry.free
        ↔ slot < registry.slots.length ∧ registry.record? slot = none
  freeUnique : registry.free.Nodup
  serving : ∀ {slot record}, registry.record? slot = some record → record.Serving
  files
    : ∀ file slot,
        registry.byFile.find? file = some slot
        ↔ ∃ record, registry.record? slot = some record ∧ file ∈ record.pending
  breakpoints
    : ∀ {id slot},
        registry.byBreakpoint.find? id = some slot
        → ∃ record, registry.record? slot = some record ∧ record.id = id
  patterns
    : ∀ pattern slot,
        registry.byPattern.find? pattern = some slot
        ↔ ∃ record, registry.record? slot = some record ∧ record.pattern = pattern
  matchers
    : ∀ slot,
        (∃ matcher, registry.matchers.find? slot = some matcher)
        ↔ ∃ record, registry.record? slot = some record
  rendered
    : ∀ {slot matcher record},
        registry.matchers.find? slot = some matcher
        → registry.record? slot = some record
        → String.ofList matcher.render = record.pattern
  filesUnique : registry.byFile.Unique
  breakpointsUnique : registry.byBreakpoint.Unique
  patternsUnique : registry.byPattern.Unique
  matchersUnique : registry.matchers.Unique

/-- The empty registry is coherent, as nothing is found anywhere. -/
theorem coherent_empty : ({} : Registry).Coherent where
  free := by simp
  freeUnique := .nil
  serving := by simp [record?]
  files := by simp [record?, Index.find?]
  breakpoints := by simp [Index.find?]
  patterns := by simp [record?, Index.find?]
  matchers := by simp [record?, Index.find?]
  rendered := by simp [Index.find?]
  filesUnique := .nil
  breakpointsUnique := .nil
  patternsUnique := .nil
  matchersUnique := .nil

-----------------------------------------------------------------------------------------
-- What a change of one slot does to the records
-----------------------------------------------------------------------------------------

theorem lt_of_record? {slot : Nat} {record : Record}
    (live : registry.record? slot = some record)
    : slot < registry.slots.length := by
  apply Nat.lt_of_not_le
  intro outside
  simp [record?, List.getElem?_eq_none outside] at live

/-- Overwriting one slot changes the record of that slot only. -/
theorem join_getElem?_set {slots : List (Option Record)} {slot : Nat}
    (within : slot < slots.length) (content : Option Record) (other : Nat)
    : ((slots.set slot content)[other]?).join
      = if other = slot then content else (slots[other]?).join := by
  by_cases same : other = slot
  · subst other
    simp [List.getElem?_set_self within]
  · have different : slot ≠ other := fun equal => same equal.symm
    simp [List.getElem?_set_ne different, same]

/-- The place that a record is put into was empty. -/
theorem Coherent.record?_place (coherent : registry.Coherent) (record : Record)
    : registry.record? (registry.place record).1 = none := by
  unfold place
  cases empty : registry.free with
  | nil => simp [record?]
  | cons slot rest => exact ((coherent.free slot).mp (by simp [empty])).2

/-- Placing a record fills one slot and leaves the other records where they are. -/
theorem Coherent.place_record? (coherent : registry.Coherent) (record : Record) (other : Nat)
    : (registry.place record).2.record? other
      = if other = (registry.place record).1 then some record
        else registry.record? other := by
  unfold place
  cases empty : registry.free with
  | nil =>
      simp only [record?]
      by_cases same : other = registry.slots.length
      · simp [same]
      · by_cases within : other < registry.slots.length
        · simp [same, List.getElem?_append_left within]
        · have outside : registry.slots.length < other := by omega
          rw [List.getElem?_eq_none (by simp; omega), List.getElem?_eq_none (by omega)]
          simp [same]
  | cons slot rest =>
      have within := ((coherent.free slot).mp (by simp [empty])).1
      exact join_getElem?_set within (some record) other

/-- Placing a record takes one slot off the empty ones and adds no other. -/
theorem Coherent.place_free (coherent : registry.Coherent) (record : Record)
    : (registry.place record).2.free.Nodup
      ∧ ∀ slot,
          slot ∈ (registry.place record).2.free
          ↔ slot < (registry.place record).2.slots.length
            ∧ (registry.place record).2.record? slot = none := by
  have unique := coherent.freeUnique
  have records := coherent.place_record? record
  have known := coherent.free
  unfold place at records ⊢
  cases empty : registry.free with
  | nil =>
      simp only [empty] at records known ⊢
      refine ⟨.nil, ?_⟩
      intro slot
      rw [records slot]
      by_cases same : slot = registry.slots.length
      · simp [same]
      · have none := known slot
        simp only [List.not_mem_nil, false_iff, not_and, same, if_false, List.length_append,
          List.length_singleton] at none ⊢
        intro within
        exact none (by omega)
  | cons head rest =>
      simp only [empty] at records known ⊢
      rw [empty] at unique
      obtain ⟨absent, restUnique⟩ := List.nodup_cons.mp unique
      refine ⟨restUnique, ?_⟩
      intro slot
      rw [records slot, List.length_set]
      by_cases same : slot = head
      · simp [same, absent]
      · simpa [same] using known slot

-----------------------------------------------------------------------------------------
-- Every primitive keeps the slots and the indices together
-----------------------------------------------------------------------------------------

/-- Two slots whose records have the same pattern are one slot. -/
theorem Coherent.slot_eq_of_pattern (coherent : registry.Coherent)
    {slot other : Nat} {record found : Record}
    (live : registry.record? slot = some record) (alive : registry.record? other = some found)
    (same : found.pattern = record.pattern)
    : other = slot := by
  have first := (coherent.patterns record.pattern slot).mpr ⟨record, live, rfl⟩
  have second := (coherent.patterns record.pattern other).mpr ⟨found, alive, same⟩
  exact Option.some.inj (second.symm.trans first)

/-- Two slots whose records have a waiting file in common are one slot. -/
theorem Coherent.slot_eq_of_pending (coherent : registry.Coherent)
    {slot other : Nat} {record found : Record} {file : String}
    (live : registry.record? slot = some record) (alive : registry.record? other = some found)
    (waits : file ∈ record.pending) (too : file ∈ found.pending)
    : other = slot := by
  have first := (coherent.files file slot).mpr ⟨record, live, waits⟩
  have second := (coherent.files file other).mpr ⟨found, alive, too⟩
  exact Option.some.inj (second.symm.trans first)

/-- Filling an empty slot keeps the indices in step if they are set to it, whatever the id of the
record.  How the slot was found does not matter.
-/
theorem Coherent.fill (coherent : registry.Coherent) {filled : Registry} {record : Record}
    {matcher : Regex} {slot : Nat}
    (vacant : registry.record? slot = none)
    (records
      : ∀ other,
          filled.record? other
          = if other = slot then some record else registry.record? other)
    (freeUnique : filled.free.Nodup)
    (free
      : ∀ other,
          other ∈ filled.free
          ↔ other < filled.slots.length ∧ filled.record? other = none)
    (byFile
      : filled.byFile
        = record.pending.foldl (fun byFile file => byFile.set file slot) registry.byFile)
    (byBreakpoint : filled.byBreakpoint = registry.byBreakpoint.set record.id slot)
    (byPattern : filled.byPattern = registry.byPattern.set record.pattern slot)
    (matchers : filled.matchers = registry.matchers.set slot matcher)
    (serving : record.Serving) (rendered : String.ofList matcher.render = record.pattern)
    (newPattern : registry.byPattern.find? record.pattern = none)
    (newFiles : ∀ file ∈ record.pending, registry.byFile.find? file = none)
    : filled.Coherent where
  free := free
  freeUnique := freeUnique
  breakpointsUnique := byBreakpoint ▸ coherent.breakpointsUnique.set
  patternsUnique := byPattern ▸ coherent.patternsUnique.set
  matchersUnique := matchers ▸ coherent.matchersUnique.set
  serving := by
    intro other found live
    rw [records other] at live
    split at live
    · exact Option.some.inj live ▸ serving
    · exact coherent.serving live
  files := by
    intro file other
    rw [byFile, Index.find?_foldl_set, records other]
    by_cases waits : file ∈ record.pending
    · by_cases same : other = slot
      · simp [waits, same]
      · -- The file is new, so no record that was there has it.
        have unknown : ¬ ∃ found, registry.record? other = some found ∧ file ∈ found.pending := by
          rw [← coherent.files, newFiles file waits]
          exact nofun
        simp only [if_pos waits, if_neg same, Option.some.injEq]
        exact iff_of_false (Ne.symm same) unknown
    · rw [if_neg waits, coherent.files]
      by_cases same : other = slot
      · simp [same, vacant, waits]
      · rw [if_neg same]
  breakpoints := by
    intro id other found
    rw [byBreakpoint, Index.find?_set] at found
    rw [records other]
    split at found
    case isTrue same => exact ⟨record, by simp [Option.some.inj found], same.symm⟩
    case isFalse =>
      obtain ⟨old, live, named⟩ := coherent.breakpoints found
      refine ⟨old, ?_, named⟩
      rw [if_neg, live]
      intro here
      rw [here, vacant] at live
      cases live
  patterns := by
    intro pattern other
    rw [byPattern, Index.find?_set, records other]
    by_cases mine : pattern = record.pattern
    · by_cases same : other = slot
      · simp [mine, same]
      · have unknown
            : ¬ ∃ found, registry.record? other = some found ∧ found.pattern = pattern := by
          rw [← coherent.patterns, mine, newPattern]
          exact nofun
        simp only [if_pos mine, if_neg same, Option.some.injEq]
        exact iff_of_false (Ne.symm same) unknown
    · rw [if_neg mine, coherent.patterns]
      by_cases same : other = slot
      · simp [same, vacant, Ne.symm mine]
      · rw [if_neg same]
  matchers := by
    intro other
    rw [matchers, Index.find?_set, records other]
    by_cases same : other = slot
    · simp [same]
    · simpa only [same, if_false] using coherent.matchers other
  rendered := by
    intro other found live matched alive
    rw [matchers, Index.find?_set] at matched
    rw [records other] at alive
    by_cases same : other = slot
    · rw [if_pos same] at matched alive
      rw [← Option.some.inj matched, ← Option.some.inj alive, rendered]
    · rw [if_neg same] at matched alive
      exact coherent.rendered matched alive
  filesUnique := by
    rw [byFile]
    exact List.foldlRecOn _ _ coherent.filesUnique fun _ unique _ _ => unique.set

/-- A record for a new pattern and new files can be added, whatever its id. -/
theorem Coherent.insert (coherent : registry.Coherent) {record : Record} {matcher : Regex}
    (serving : record.Serving) (rendered : String.ofList matcher.render = record.pattern)
    (newPattern : registry.byPattern.find? record.pattern = none)
    (newFiles : ∀ file ∈ record.pending, registry.byFile.find? file = none)
    : (registry.insert record matcher).Coherent := by
  have vacant := coherent.record?_place record
  have records := coherent.place_record? record
  obtain ⟨freeUnique, free⟩ := coherent.place_free record
  unfold Registry.insert place at *
  cases empty : registry.free with
  | nil | cons =>
      simp only [empty] at vacant records freeUnique free ⊢
      exact coherent.fill vacant records freeUnique free rfl rfl rfl rfl serving rendered
        newPattern newFiles

/-- A record that changes in its waiting files only keeps the indices in step if the index of
files follows.
-/
theorem Coherent.refit (coherent : registry.Coherent) {refitted : Registry} {slot : Nat}
    {record fitted : Record} (live : registry.record? slot = some record)
    (records
      : ∀ other,
          refitted.record? other
          = if other = slot then some fitted else registry.record? other)
    (sameId : fitted.id = record.id) (samePattern : fitted.pattern = record.pattern)
    (serving : fitted.Serving)
    (length : refitted.slots.length = registry.slots.length)
    (free : refitted.free = registry.free)
    (byBreakpoint : refitted.byBreakpoint = registry.byBreakpoint)
    (byPattern : refitted.byPattern = registry.byPattern)
    (matchers : refitted.matchers = registry.matchers)
    (filesUnique : refitted.byFile.Unique)
    (files
      : ∀ file other,
          refitted.byFile.find? file = some other
          ↔ ∃ found, refitted.record? other = some found ∧ file ∈ found.pending)
    : refitted.Coherent where
  freeUnique := free ▸ coherent.freeUnique
  files := files
  filesUnique := filesUnique
  breakpointsUnique := byBreakpoint ▸ coherent.breakpointsUnique
  patternsUnique := byPattern ▸ coherent.patternsUnique
  matchersUnique := matchers ▸ coherent.matchersUnique
  free := by
    intro other
    rw [free, length, records other, coherent.free]
    by_cases same : other = slot <;> simp [same, live]
  serving := by
    intro other found alive
    rw [records other] at alive
    split at alive
    · exact Option.some.inj alive ▸ serving
    · exact coherent.serving alive
  breakpoints := by
    intro id other found
    obtain ⟨old, alive, named⟩ := coherent.breakpoints (byBreakpoint ▸ found)
    rw [records other]
    by_cases same : other = slot
    · rw [same, live] at alive
      exact ⟨fitted, if_pos same, by rw [sameId, Option.some.inj alive, named]⟩
    · exact ⟨old, by rw [if_neg same, alive], named⟩
  patterns := by
    intro pattern other
    rw [byPattern, coherent.patterns, records other]
    by_cases same : other = slot <;> simp [same, live, samePattern]
  matchers := by
    intro other
    rw [matchers, coherent.matchers, records other]
    by_cases same : other = slot <;> simp [same, live]
  rendered := by
    intro other matcher found matched alive
    rw [matchers] at matched
    rw [records other] at alive
    by_cases same : other = slot
    · rw [if_pos same] at alive
      rw [← Option.some.inj alive, samePattern]
      exact coherent.rendered matched (same ▸ live)
    · rw [if_neg same] at alive
      exact coherent.rendered matched alive

/-- One more file of the same pattern can wait on a record. -/
theorem Coherent.addPending (coherent : registry.Coherent) {slot : Nat} {record : Record}
    {file : String} (live : registry.record? slot = some record)
    (patterned : Entry.pattern file = record.pattern)
    (newFile : registry.byFile.find? file = none)
    : (registry.addPending slot file).Coherent := by
  have records := join_getElem?_set (lt_of_record? live)
    (some { record with pending := insertText file record.pending })
  simp only [Registry.addPending, live]
  refine coherent.refit live records rfl rfl ⟨?_, ?_⟩ List.length_set rfl rfl rfl rfl
    coherent.filesUnique.set ?_
  · exact List.ne_nil_of_mem (mem_insertText.mpr (Or.inl rfl))
  · intro other waits
    rcases mem_insertText.mp waits with same | old
    · rw [same, patterned]
    · exact (coherent.serving live).patterned other old
  · intro other place
    have elsewhere := coherent.files other place
    simp only [record?, records place, Index.find?_set]
    by_cases mine : place = slot
    · subst place
      by_cases same : other = file
      · simp [same, mem_insertText]
      · simpa [same, mem_insertText, live] using elsewhere
    · by_cases same : other = file
      · rw [same, newFile] at elsewhere
        simpa [same, mine, Ne.symm mine, record?] using elsewhere
      · simpa [same, mine, record?] using elsewhere

/-- Emptying a slot keeps the indices in step if they forget it.  Only the record of the slot has
its pattern, so forgetting the pattern forgets no other record.
-/
theorem Coherent.vacate (coherent : registry.Coherent) {vacated : Registry} {slot : Nat}
    {record : Record} (live : registry.record? slot = some record)
    (records
      : ∀ other,
          vacated.record? other = if other = slot then none else registry.record? other)
    (length : vacated.slots.length = registry.slots.length)
    (free : vacated.free = slot :: registry.free)
    (byBreakpoint : vacated.byBreakpoint = registry.byBreakpoint.unset record.id)
    (byPattern : vacated.byPattern = registry.byPattern.unset record.pattern)
    (matchers : vacated.matchers = registry.matchers.unset slot)
    (filesUnique : vacated.byFile.Unique)
    (files
      : ∀ file other,
          vacated.byFile.find? file = some other
          ↔ ∃ found, vacated.record? other = some found ∧ file ∈ found.pending)
    : vacated.Coherent where
  files := files
  filesUnique := filesUnique
  breakpointsUnique := byBreakpoint ▸ coherent.breakpointsUnique.unset
  patternsUnique := byPattern ▸ coherent.patternsUnique.unset
  matchersUnique := matchers ▸ coherent.matchersUnique.unset
  freeUnique := by
    rw [free]
    refine List.nodup_cons.mpr ⟨?_, coherent.freeUnique⟩
    intro member
    have empty := ((coherent.free slot).mp member).2
    simp [live] at empty
  free := by
    intro other
    rw [free, length, records other, List.mem_cons, coherent.free]
    by_cases same : other = slot
    · simp [same, lt_of_record? live]
    · simp [same]
  serving := by
    intro other found alive
    rw [records other] at alive
    split at alive
    · cases alive
    · exact coherent.serving alive
  breakpoints := by
    intro id other found
    rw [byBreakpoint, Index.find?_unset] at found
    split at found
    · cases found
    case isFalse different =>
      obtain ⟨old, alive, named⟩ := coherent.breakpoints found
      refine ⟨old, ?_, named⟩
      rw [records other, if_neg, alive]
      intro same
      rw [same, live] at alive
      exact different (by rw [← named, Option.some.inj alive])
  patterns := by
    intro pattern other
    rw [byPattern, Index.find?_unset, records other]
    by_cases same : other = slot
    · by_cases mine : pattern = record.pattern
      · simp [same, mine]
      · rw [if_neg mine, coherent.patterns]
        simp [same, live, Ne.symm mine]
    · by_cases mine : pattern = record.pattern
      · rw [if_pos mine, if_neg same]
        refine iff_of_false (Option.some_ne_none other).symm ?_
        rintro ⟨found, alive, named⟩
        exact same (coherent.slot_eq_of_pattern live alive (named.trans mine))
      · rw [if_neg mine, if_neg same, coherent.patterns]
  matchers := by
    intro other
    rw [matchers, Index.find?_unset, records other]
    by_cases same : other = slot
    · simp [same]
    · simpa only [same, if_false] using coherent.matchers other
  rendered := by
    intro other matcher found matched alive
    rw [matchers, Index.find?_unset] at matched
    rw [records other] at alive
    by_cases same : other = slot
    · simp [same] at alive
    · rw [if_neg same] at matched alive
      exact coherent.rendered matched alive

/-- Once a file is taken off the record it waits on, the index of files without it is in step with
what is left of that record.  No other record has the file.
-/
theorem Coherent.unset_files (coherent : registry.Coherent) {changed : Registry} {slot : Nat}
    {record : Record} {left : Option Record} {file : String}
    (live : registry.record? slot = some record) (waits : file ∈ record.pending)
    (records
      : ∀ other,
          changed.record? other = if other = slot then left else registry.record? other)
    (others
      : ∀ other,
          (∃ found, left = some found ∧ other ∈ found.pending)
          ↔ other ∈ record.pending ∧ other ≠ file)
    : ∀ other place,
        (registry.byFile.unset file).find? other = some place
        ↔ ∃ found, changed.record? place = some found ∧ other ∈ found.pending := by
  intro other place
  rw [Index.find?_unset, records place]
  by_cases here : place = slot
  · rw [if_pos here, others]
    by_cases same : other = file
    · simp [same]
    · rw [if_neg same, coherent.files, here]
      simp [live, same]
  · rw [if_neg here]
    by_cases same : other = file
    · rw [if_pos same]
      refine iff_of_false nofun ?_
      rintro ⟨found, alive, too⟩
      exact here (coherent.slot_eq_of_pending live alive waits (same ▸ too))
    · rw [if_neg same, coherent.files]

/-- A file can be taken off the record it waits on; a record left empty leaves its slot. -/
theorem Coherent.removePending (coherent : registry.Coherent) {slot : Nat} {record : Record}
    {file : String} (live : registry.record? slot = some record)
    (waits : file ∈ record.pending)
    : (registry.removePending slot record file).2.Coherent := by
  have records := join_getElem?_set (lt_of_record? live)
  have others (other : String)
      : other ∈ record.pending.filter (· != file) ↔ other ∈ record.pending ∧ other ≠ file := by
    simp
  simp only [Registry.removePending]
  split
  case isTrue emptied =>
    refine coherent.vacate live (records none) List.length_set rfl rfl rfl rfl
      coherent.filesUnique.unset (coherent.unset_files live waits (records none) ?_)
    intro other
    rw [← others, List.isEmpty_iff.mp emptied]
    simp
  case isFalse filled =>
    refine coherent.refit live (records _) rfl rfl ⟨?_, ?_⟩ List.length_set rfl rfl rfl rfl
      coherent.filesUnique.unset (coherent.unset_files live waits (records _) ?_)
    · exact fun empty => filled (List.isEmpty_iff.mpr empty)
    · exact fun other kept =>
        (coherent.serving live).patterned other ((others other).mp kept).1
    · intro other
      simp

-----------------------------------------------------------------------------------------
-- So does every operation, whatever the engine replies
-----------------------------------------------------------------------------------------

/-- What guarding a file can make of a registry: nothing, one more file for a record that has its
pattern, or a record of its own.
-/
inductive Added (registry : Registry) (file : String) : Registry → Prop
  | unchanged : Added registry file registry
  | shared {slot : Nat} {record : Record} (unknown : registry.byFile.find? file = none)
    (live : registry.record? slot = some record)
    (patterned : Entry.pattern file = record.pattern)
    : Added registry file (registry.addPending slot file)
  | installed {id : BreakpointId} (unknown : registry.byFile.find? file = none)
    (unshared : registry.byPattern.find? (Entry.pattern file) = none)
    : Added registry file
        (registry.insert ⟨Entry.pattern file, id, [file]⟩ (expression (stem file.toList)))

/-- Each way of guarding a file keeps slots and indices together. -/
theorem Added.coherent {added : Registry} {file : String} (step : Added registry file added)
    (coherent : registry.Coherent)
    : added.Coherent := by
  cases step with
  | unchanged => exact coherent
  | shared unknown live patterned => exact coherent.addPending live patterned unknown
  | installed unknown unshared =>
      refine coherent.insert ⟨by simp, ?_⟩ rfl unshared ?_
      · intro other member
        rw [List.mem_singleton.mp member]
      · intro other member
        rw [List.mem_singleton.mp member, unknown]

section Operations

variable {σ : Type} [Engine σ]

/-- Guarding a source adds its file in one of these ways, whatever the engine replies. -/
theorem Coherent.add_added (coherent : registry.Coherent) (source : String) (engine : σ)
    : Added registry (ScriptUrl.canonical source) (registry.add source engine).2.1 := by
  simp only [Registry.add]
  cases unknown : registry.byFile.find? (ScriptUrl.canonical source) with
  | some slot => exact .unchanged
  | none =>
      simp only
      split
      case h_1 slot shared =>
        obtain ⟨record, live, named⟩ := (coherent.patterns _ slot).mp shared
        exact .shared unknown live named.symm
      case h_2 unshared =>
        split
        case h_1 => exact .installed unknown unshared
        case h_2 => exact .unchanged

/-- Guarding a source keeps slots and indices together. -/
theorem Coherent.add (coherent : registry.Coherent) (source : String) (engine : σ)
    : (registry.add source engine).2.1.Coherent :=
  (coherent.add_added source engine).coherent coherent

/-- Noting a hit keeps slots and indices together, whether or not the file waited on it. -/
theorem Coherent.resolveHit (coherent : registry.Coherent) (id : BreakpointId)
    (source : String) (engine : σ)
    : (registry.resolveHit id source engine).2.1.Coherent := by
  simp only [Registry.resolveHit]
  cases found : registry.byBreakpoint.find? id with
  | none => exact coherent
  | some slot =>
      obtain ⟨record, live, -⟩ := coherent.breakpoints found
      simp only [live]
      split
      case isTrue waits =>
        have kept := coherent.removePending live (List.contains_iff_mem.mp waits)
        split <;> simp_all
      case isFalse => exact coherent

end Operations

end Registry

end EarlyBreak.Entry
