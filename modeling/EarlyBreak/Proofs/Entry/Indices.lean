import EarlyBreak.Debugger.Simulation
import EarlyBreak.Proofs.Debugger.Recorded
import EarlyBreak.Proofs.Entry.Operation
import Mathlib.Data.List.Induction
import Mathlib.Data.List.Nodup

/-! The indices of a registry are the records seen from five sides.  That each record is also found
by its breakpoint needs an engine that gives every breakpoint an id of its own.
-/

namespace EarlyBreak.Entry

open Debugger

theorem pairwise_insertText {text : String} {texts : List String}
    (ordered : texts.Pairwise (· < ·))
    : (insertText text texts).Pairwise (· < ·) := by
  induction texts with
  | nil => simp [insertText]
  | cons first rest ih =>
      obtain ⟨below, restOrdered⟩ := List.pairwise_cons.mp ordered
      unfold insertText
      split
      case isTrue => exact ordered
      case isFalse different =>
        split
        case isTrue less =>
          refine List.pairwise_cons.mpr ⟨?_, ordered⟩
          intro other member
          rcases List.mem_cons.mp member with same | later
          · exact same ▸ less
          · exact String.lt_trans less (below other later)
        case isFalse notLess =>
          have more : first < text :=
            Std.lt_of_le_of_ne (String.not_lt.mp notLess) (Ne.symm different)
          refine List.pairwise_cons.mpr ⟨?_, ih restOrdered⟩
          intro other member
          rcases mem_insertText.mp member with same | later
          · exact same ▸ more
          · exact below other later

/-- The only file among files in increasing order stands there once. -/
theorem eq_singleton_of_pairwise {text : String} {texts : List String}
    (ordered : texts.Pairwise (· < ·)) (member : text ∈ texts)
    (only : ∀ other ∈ texts, other = text)
    : texts = [text] := by
  match texts with
  | [] => cases member
  | [first] => rw [only first List.mem_cons_self]
  | first :: second :: rest =>
      have less := (List.pairwise_cons.mp ordered).1 second List.mem_cons_self
      rw [only first (by simp), only second (by simp)] at less
      exact (String.lt_irrefl text less).elim

namespace Registry

variable {registry before after : Registry} {σ : Type}

/-- The files of each record wait in increasing order. -/
def Ordered (registry : Registry) : Prop :=
  ∀ {slot record},
    registry.record? slot = some record → record.pending.Pairwise (· < ·)

theorem ordered_empty : ({} : Registry).Ordered := by
  intro slot record live
  simp [record?] at live

/-- Another file for a record keeps the lists of files in order. -/
theorem Ordered.addPending (ordered : registry.Ordered) {slot : Nat} {record : Record}
    (live : registry.record? slot = some record) (file : String)
    : (registry.addPending slot file).Ordered := by
  intro other found alive
  rw [addPending_record? live] at alive
  split at alive
  · exact Option.some.inj alive ▸ pairwise_insertText (ordered live)
  · exact ordered alive

theorem Ordered.insert (ordered : registry.Ordered) (coherent : registry.Coherent)
    {record : Record} (matcher : Regex) (increasing : record.pending.Pairwise (· < ·))
    : (registry.insert record matcher).Ordered := by
  intro other found alive
  rw [coherent.insert_record?] at alive
  split at alive
  · exact Option.some.inj alive ▸ increasing
  · exact ordered alive

/-- Each record is found by its own breakpoint, and its files wait in increasing order. -/
structure Faithful (registry : Registry) : Prop where
  named
    : ∀ {slot record},
        registry.record? slot = some record
        → registry.byBreakpoint.find? record.id = some slot
  ordered
    : ∀ {slot record},
        registry.record? slot = some record → record.pending.Pairwise (· < ·)

theorem faithful_empty : ({} : Registry).Faithful where
  named := by simp [record?]
  ordered := by simp [record?]

/-- Records with the same breakpoint are in one slot, as the index by breakpoints is faithful. -/
theorem Faithful.slot_eq_of_id (faithful : registry.Faithful)
    {slot other : Nat} {record found : Record}
    (live : registry.record? slot = some record) (alive : registry.record? other = some found)
    (same : found.id = record.id)
    : other = slot := by
  have first := faithful.named live
  have second := faithful.named alive
  rw [same] at second
  exact Option.some.inj (second.symm.trans first)

/-- Another file for a record changes no breakpoint, so that the indices stay faithful. -/
theorem Faithful.addPending (faithful : registry.Faithful) {slot : Nat} {record : Record}
    (live : registry.record? slot = some record) (file : String)
    : (registry.addPending slot file).Faithful where
  named := by
    intro other found alive
    rw [addPending_record? live] at alive
    rw [addPending_byBreakpoint live]
    split at alive
    case isTrue same =>
      have found := faithful.named live
      rw [same, ← Option.some.inj alive]
      exact found
    case isFalse => exact faithful.named alive
  ordered := Ordered.addPending faithful.ordered live file

/-- A record with a breakpoint of its own hides no other record from the index of breakpoints. -/
theorem Faithful.insert (faithful : registry.Faithful) (coherent : registry.Coherent)
    {record : Record} (matcher : Regex) (fresh : ¬ registry.Owns record.id)
    (ordered : record.pending.Pairwise (· < ·))
    : (registry.insert record matcher).Faithful where
  named := by
    intro other found alive
    rw [coherent.insert_record?] at alive
    rw [insert_byBreakpoint, Index.find?_set]
    split at alive
    case isTrue same => rw [if_pos (Option.some.inj alive ▸ rfl), same]
    case isFalse =>
      -- A record of the same breakpoint would be lost from the index, though not from its slot.
      rw [if_neg, faithful.named alive]
      exact fun same => fresh ⟨other, found, alive, same⟩
  ordered := Ordered.insert faithful.ordered coherent matcher ordered

/-- Records that lose files, or are dropped, leave the indices faithful. -/
theorem Faithful.released (faithful : before.Faithful) {ids : List BreakpointId}
    {files : List String} (released : Released before after ids files)
    : after.Faithful where
  named := by
    intro slot left remains
    obtain ⟨record, live, sameId, -⟩ := released.kept remains
    exact (released.breakpoints left.id slot).mpr
      ⟨sameId ▸ faithful.named live, left, remains⟩
  ordered := by
    intro slot left remains
    by_cases reached : before.Reaches ids slot
    · rw [released.hit reached] at remains
      obtain ⟨record, live, some_left⟩ := Option.bind_eq_some_iff.mp remains
      rw [Record.release_eq_some some_left]
      exact (faithful.ordered live).filter _
    · rw [released.missed reached] at remains
      exact faithful.ordered remains

section Operations

variable [Engine σ] {engine asked : σ} {operation : Operation}

/-- An operation keeps records and their breakpoints together if the engine gives a new breakpoint
no id of a record that is there.
-/
theorem Effect.faithful (effect : Effect before engine operation after asked)
    (coherent : before.Coherent) (faithful : before.Faithful)
    (fresh
      : ∀ {breakpoint id},
          Engine.perform (.setBreakpoint breakpoint) engine = (.ok (some id), asked)
          → ¬ before.Owns id)
    : after.Faithful := by
  cases effect with
  | waiting | refused | missed => exact faithful
  | shared unknown live patterned => exact faithful.addPending live _
  | installed unknown unshared replied =>
      exact faithful.insert coherent _ (fresh replied) (List.pairwise_singleton _ _)
  | lessened found live waits rest | dropped found live waits rest replied =>
      exact faithful.released (coherent.removePending_released found live _)

/-- The breakpoints that the registry has after an operation are those that it had and one that the
engine was asked to set.
-/
theorem Effect.owns (effect : Effect before engine operation after asked)
    (coherent : before.Coherent) {id : BreakpointId} (owned : after.Owns id)
    : before.Owns id
      ∨ ∃ breakpoint,
          Engine.perform (.setBreakpoint breakpoint) engine = (.ok (some id), asked) := by
  obtain ⟨slot, record, alive, named⟩ := owned
  cases effect with
  | waiting | refused | missed => exact .inl ⟨slot, record, alive, named⟩
  | shared unknown live patterned =>
      rw [addPending_record? live] at alive
      split at alive
      · rw [← Option.some.inj alive] at named
        exact .inl ⟨_, _, live, named⟩
      · exact .inl ⟨slot, record, alive, named⟩
  | installed unknown unshared replied =>
      rw [coherent.insert_record?] at alive
      split at alive
      · have same := congrArg Record.id (Option.some.inj alive)
        exact .inr ⟨_, by rw [replied, ← named, ← same]⟩
      · exact .inl ⟨slot, record, alive, named⟩
  | lessened found live waits rest | dropped found live waits rest replied =>
      obtain ⟨old, was, sameId, -⟩ :=
        (coherent.removePending_released found live _).kept alive
      exact .inl ⟨slot, old, was, sameId ▸ named⟩

/-- What is known of a registry while no id was handed out twice: slots and indices are together,
records are found by their breakpoints, and those breakpoints were handed out.
-/
structure Tracked (registry : Registry) (recorded : Recorded σ) : Prop where
  coherent : registry.Coherent
  faithful : registry.Faithful
  owned : ∀ id, registry.Owns id → id ∈ recorded.handedOut

/-- An operation gives the engine at most one command. -/
theorem Effect.commanded {told recorded : Recorded σ}
    (effect : Effect before recorded operation after told)
    : told = recorded ∨ ∃ command reply, Engine.perform command recorded = (reply, told) := by
  cases effect with
  | waiting | shared | missed | lessened => exact .inl rfl
  | refused replied _ | installed _ _ replied | dropped _ _ _ _ replied =>
      exact .inr ⟨_, _, replied⟩

/-- An operation only adds to the ids that were handed out. -/
theorem Effect.handedOut {told recorded : Recorded σ}
    (effect : Effect before recorded operation after told)
    : ∃ ids, told.handedOut = recorded.handedOut ++ ids := by
  rcases effect.commanded with rfl | ⟨command, reply, replied⟩
  · exact ⟨[], (List.append_nil _).symm⟩
  · exact ⟨_, Recorded.handedOut_of_perform replied⟩

/-- An operation keeps what is known as long as it brings no id a second time. -/
theorem Tracked.effect {told recorded : Recorded σ} (tracked : before.Tracked recorded)
    (effect : Effect before recorded operation after told)
    (coherent : after.Coherent) (distinct : told.handedOut.Nodup)
    : after.Tracked told where
  coherent := coherent
  faithful := by
    refine effect.faithful tracked.coherent tracked.faithful fun replied owned => ?_
    rw [Recorded.handedOut_of_perform replied] at distinct
    exact (List.nodup_append.mp distinct).2.2 _ (tracked.owned _ owned) _
      (by simp [Act.handedOut?]) rfl
  owned := by
    intro id owned
    rcases effect.owns tracked.coherent owned with old | ⟨breakpoint, replied⟩
    · obtain ⟨ids, asked⟩ := effect.handedOut
      rw [asked]
      exact List.mem_append_left _ (tracked.owned id old)
    · rw [Recorded.handedOut_of_perform replied]
      simp [Act.handedOut?]

/-- After any operations all this is known if no id was handed out twice, by induction along the
operations from their end.
-/
theorem tracked_operateAll (target : σ) (operations : List Operation)
    (distinct : (operateAll {} operations (⟨target, []⟩ : Recorded σ)).2.handedOut.Nodup)
    : Tracked (operateAll {} operations (⟨target, []⟩ : Recorded σ)).1
        (operateAll {} operations (⟨target, []⟩ : Recorded σ)).2 := by
  induction operations using List.reverseRecOn with
  | nil =>
      exact ⟨coherent_empty, faithful_empty, fun id owned => (not_owns_empty id owned).elim⟩
  | append_singleton earlier last ih =>
      rw [operateAll_append] at distinct ⊢
      have effect := (coherent_empty.operateAll earlier (⟨target, []⟩ : Recorded σ)).effect last
        (operateAll {} earlier (⟨target, []⟩ : Recorded σ)).2
      obtain ⟨ids, asked⟩ := effect.handedOut
      -- Ids are never taken back, so those before the last operation are distinct as well.
      have tracked := ih (List.Nodup.of_append_left (asked ▸ distinct))
      exact tracked.effect effect (tracked.coherent.operate last _) distinct

end Operations

/-- The slots in use, each with its record. -/
def live (registry : Registry) : List (Nat × Record) :=
  (List.range registry.slots.length).filterMap fun slot =>
    (registry.record? slot).map (slot, ·)

theorem mem_live {slot : Nat} {record : Record}
    : (slot, record) ∈ registry.live ↔ registry.record? slot = some record := by
  simp only [live, List.mem_filterMap, List.mem_range, Option.map_eq_some_iff, Prod.mk.injEq]
  constructor
  · rintro ⟨other, -, found, alive, rfl, rfl⟩
    exact alive
  · intro alive
    exact ⟨slot, lt_of_record? alive, record, alive, rfl, rfl⟩

theorem nodup_live_slots (registry : Registry) : (registry.live.map Prod.fst).Nodup := by
  have slots : registry.live.map Prod.fst
      = (List.range registry.slots.length).filter fun slot => (registry.record? slot).isSome := by
    rw [live, List.map_filterMap, ← List.filterMap_eq_filter]
    apply List.filterMap_congr
    intro slot _
    cases alive : registry.record? slot <;> simp [Option.guard, alive]
  rw [slots]
  exact List.nodup_range.filter _

/-- An index by a text of the records has exactly one pair for each of them if it finds exactly
their slots.
-/
theorem perm_live {index : Index String Nat} (unique : index.Unique) (key : Record → String)
    (exact
      : ∀ text slot,
          index.find? text = some slot
          ↔ ∃ record, registry.record? slot = some record ∧ key record = text)
    : index.Perm (registry.live.map fun (slot, record) => (key record, slot)) := by
  have once : (registry.live.map fun (slot, record) => (key record, slot)).Nodup := by
    apply List.Nodup.of_map Prod.snd
    rw [List.map_map]
    exact registry.nodup_live_slots
  refine (List.perm_ext_iff_of_nodup (List.Nodup.of_map Prod.fst unique) once).mpr ?_
  rintro ⟨text, slot⟩
  rw [unique.mem_iff, exact, List.mem_map]
  constructor
  · rintro ⟨record, alive, rfl⟩
    exact ⟨(slot, record), mem_live.mpr alive, rfl⟩
  · rintro ⟨⟨other, record⟩, member, same⟩
    obtain ⟨rfl, rfl⟩ := Prod.mk.inj same
    exact ⟨record, mem_live.mp member, rfl⟩

/-- Slots and indices are the same records from five sides: by breakpoint, by pattern, by the
expression that the pattern spells, by waiting file, and by what is free.
-/
structure Indexed (registry : Registry) : Prop where
  breakpoints
    : registry.byBreakpoint.Perm
        (registry.live.map fun (slot, record) => (record.id, slot))
  breakpointsUnique : registry.byBreakpoint.Unique
  patterns
    : registry.byPattern.Perm
        (registry.live.map fun (slot, record) => (record.pattern, slot))
  patternsUnique : registry.byPattern.Unique
  matchers
    : (registry.matchers.map fun (slot, matcher) => (slot, String.ofList matcher.render)).Perm
        (registry.live.map fun (slot, record) => (slot, record.pattern))
  files
    : ∀ file slot,
        registry.byFile.find? file = some slot
        ↔ ∃ record, registry.record? slot = some record ∧ file ∈ record.pending
  filesUnique : registry.byFile.Unique
  unshared
    : ∀ {slot other record found file},
        registry.record? slot = some record
        → registry.record? other = some found
        → file ∈ record.pending
        → file ∈ found.pending
        → other = slot
  serving
    : ∀ {slot record},
        registry.record? slot = some record
        → record.pending ≠ []
          ∧ record.pending.Pairwise (· < ·)
          ∧ ∀ file ∈ record.pending, Entry.pattern file = record.pattern
  free
    : registry.free.Nodup
      ∧ ∀ slot,
          slot ∈ registry.free
          ↔ slot < registry.slots.length ∧ registry.record? slot = none

/-- A coherent registry with faithful indices is indexed as a whole. -/
theorem Coherent.indexed (coherent : registry.Coherent) (faithful : registry.Faithful)
    : registry.Indexed where
  breakpoints := by
    refine perm_live coherent.breakpointsUnique Record.id fun id slot => ?_
    constructor
    · exact coherent.breakpoints
    · rintro ⟨record, alive, rfl⟩
      exact faithful.named alive
  breakpointsUnique := coherent.breakpointsUnique
  patterns := perm_live coherent.patternsUnique Record.pattern coherent.patterns
  patternsUnique := coherent.patternsUnique
  matchers := by
    refine (List.perm_ext_iff_of_nodup ?_ ?_).mpr ?_
    · apply List.Nodup.of_map Prod.fst
      rw [List.map_map]
      exact coherent.matchersUnique
    · apply List.Nodup.of_map Prod.fst
      rw [List.map_map]
      exact registry.nodup_live_slots
    · rintro ⟨slot, text⟩
      simp only [List.mem_map, Prod.exists, Prod.mk.injEq]
      constructor
      · rintro ⟨other, matcher, member, rfl, rfl⟩
        have matched := coherent.matchersUnique.mem_iff.mp member
        obtain ⟨record, alive⟩ := (coherent.matchers other).mp ⟨matcher, matched⟩
        exact ⟨other, record, mem_live.mpr alive, rfl, (coherent.rendered matched alive).symm⟩
      · rintro ⟨other, record, member, rfl, rfl⟩
        have alive := mem_live.mp member
        obtain ⟨matcher, matched⟩ := (coherent.matchers other).mpr ⟨record, alive⟩
        exact ⟨other, matcher, coherent.matchersUnique.mem_iff.mpr matched, rfl,
          coherent.rendered matched alive⟩
  files := coherent.files
  filesUnique := coherent.filesUnique
  unshared := coherent.slot_eq_of_pending
  serving := fun alive =>
    ⟨(coherent.serving alive).waited, faithful.ordered alive, (coherent.serving alive).patterned⟩
  free := ⟨coherent.freeUnique, coherent.free⟩

/-- After any sequence of operations, with any replies of the engine that name no id twice, slots
and indices are the same records from five sides.
-/
theorem indexed_of_distinct [Engine σ] (target : σ) (operations : List Operation)
    (distinct : (operateAll {} operations (⟨target, []⟩ : Recorded σ)).2.handedOut.Nodup)
    : (operateAll {} operations (⟨target, []⟩ : Recorded σ)).1.Indexed := by
  have tracked := tracked_operateAll target operations distinct
  exact tracked.coherent.indexed tracked.faithful

/-- Two files with one pattern are guarded and hit, and then a file with another pattern takes the
slot that they left.
-/
def takenTwice : List Operation :=
  let first := "1:0:0:" ++ Entry.pattern "a.ts"
  [.guard "a.ts", .guard "a.js", .guard "b.js", .hit first "a.ts", .hit first "a.js", .guard "c.js"]

/-- A slot that was taken twice is indexed for its second record. -/
theorem indexed_takenTwice
    : let state := operateAll {} takenTwice (⟨({} : Simulation), []⟩ : Recorded Simulation)
      state.2.handedOut.Nodup
      ∧ state.1.slots.map (·.map (·.pending)) = [some ["c.js"], some ["b.js"]]
      ∧ state.1.Indexed :=
  ⟨by decide +kernel, by decide +kernel,
    indexed_of_distinct ({} : Simulation) takenTwice (by decide +kernel)⟩

end Registry

end EarlyBreak.Entry
