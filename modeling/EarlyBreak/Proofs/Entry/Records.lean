import EarlyBreak.Proofs.Entry.Matching
import Mathlib.Data.List.Sort

/-! The records of a registry as they are listed: one for each pattern, in increasing order, each
with the waiting files of its pattern.  So which files wait decides all that a registry tells.
-/

namespace EarlyBreak.Entry

open Debugger

/-- Lists with the same members are equal if both increase in some text of their members. -/
theorem eq_of_increasing {α : Type} (key : α → String) {members others : List α}
    (increasing : members.Pairwise fun a b => key a < key b)
    (also : others.Pairwise fun a b => key a < key b)
    (same : ∀ member, member ∈ members ↔ member ∈ others)
    : members = others := by
  have irreflexive : Std.Irrefl fun a b : α => key a < key b := ⟨fun a => String.lt_irrefl (key a)⟩
  have antisymmetric : Std.Antisymm fun a b : α => key a < key b :=
    ⟨fun _ _ less more => absurd more (String.lt_asymm less)⟩
  exact increasing.eq_of_mem_iff also same

namespace Registry

variable {registry twin : Registry}

theorem perm_records (registry : Registry)
    : registry.records.Perm (registry.slots.filterMap id) := List.mergeSort_perm _ _

/-- The breakpoints of the records, in the order of the list. -/
def ids (registry : Registry) : List BreakpointId := registry.records.map Record.id

/-- Listed are the records of all slots. -/
theorem mem_records {record : Record}
    : record ∈ registry.records ↔ ∃ slot, registry.record? slot = some record := by
  rw [registry.perm_records.mem_iff, List.mem_filterMap]
  constructor
  · rintro ⟨content, member, rfl⟩
    obtain ⟨slot, found⟩ := List.getElem?_of_mem member
    exact ⟨slot, by rw [record?, found]; rfl⟩
  · rintro ⟨slot, live⟩
    exact ⟨some record, List.mem_of_getElem? (Option.join_eq_some_iff.mp live), rfl⟩

/-- No two slots have records with one pattern. -/
theorem Coherent.unlike (coherent : registry.Coherent)
    : (registry.slots.filterMap id).Pairwise fun a b => a.pattern ≠ b.pattern := by
  rw [List.pairwise_filterMap, List.pairwise_iff_getElem]
  intro slot other within also before record live found alive same
  have earlier : registry.record? slot = some record :=
    Option.join_eq_some_iff.mpr ((List.getElem?_eq_getElem within).trans (congrArg some live))
  have later : registry.record? other = some found :=
    Option.join_eq_some_iff.mpr ((List.getElem?_eq_getElem also).trans (congrArg some alive))
  exact Nat.ne_of_gt before (coherent.slot_eq_of_pattern earlier later same.symm)

/-- The records are listed in increasing order of their patterns. -/
theorem Coherent.increasing_records (coherent : registry.Coherent)
    : registry.records.Pairwise fun a b => a.pattern < b.pattern := by
  have sorted : registry.records.Pairwise fun a b => a.pattern ≤ b.pattern := by
    have least (a b : Record)
        : (!decide (b.pattern < a.pattern)) = true ↔ a.pattern ≤ b.pattern := by
      rw [Bool.not_eq_true', decide_eq_false_iff_not, String.not_lt]
    have trans (a b c : Record) (first : (!decide (b.pattern < a.pattern)) = true)
        (second : (!decide (c.pattern < b.pattern)) = true)
        : (!decide (c.pattern < a.pattern)) = true :=
      (least a c).mpr (String.le_trans ((least a b).mp first) ((least b c).mp second))
    have total (a b : Record)
        : (!decide (b.pattern < a.pattern) || !decide (a.pattern < b.pattern)) = true := by
      rw [Bool.or_eq_true, least, least]
      exact String.le_total a.pattern b.pattern
    exact (List.pairwise_mergeSort trans total _).imp fun ordered => (least _ _).mp ordered
  have unlike : registry.records.Pairwise fun a b => a.pattern ≠ b.pattern :=
    (registry.perm_records.pairwise_iff fun different => different.symm).mpr coherent.unlike
  exact (sorted.and unlike).imp fun ⟨least, different⟩ => Std.lt_of_le_of_ne least different

/-- Where one slot is overwritten, its record makes way for the new one. -/
theorem perm_filterMap_set {slots : List (Option Record)} {slot : Nat} {record : Record}
    (live : slots[slot]? = some (some record)) (content : Option Record)
    : (record :: (slots.set slot content).filterMap id).Perm
        (content.toList ++ slots.filterMap id) := by
  induction slots generalizing slot with
  | nil => cases live
  | cons first rest ih =>
      cases slot with
      | zero =>
          obtain rfl : first = some record := by simpa using live
          cases content with
          | none => exact .refl _
          | some other => exact .swap other record _
      | succ slot =>
          have later : (record :: (rest.set slot content).filterMap id).Perm
              (content.toList ++ rest.filterMap id) := ih (by simpa using live)
          cases first with
          | none => exact later
          | some other =>
              exact (List.Perm.swap other record _).trans
                ((later.cons other).trans List.perm_middle.symm)

/-- Taking a file off a record leaves the list with what remains of that record. -/
theorem perm_records_removePending {slot : Nat} {record : Record}
    (live : registry.record? slot = some record) (file : String)
    : (record :: (registry.removePending slot record file).2.records).Perm
        ((record.release [file]).toList ++ registry.records) := by
  have slots : (registry.removePending slot record file).2.slots
      = registry.slots.set slot (record.release [file]) := by
    rw [Record.release_singleton]
    simp only [Registry.removePending]
    split <;> rfl
  have listed := perm_filterMap_set (Option.join_eq_some_iff.mp live) (record.release [file])
  rw [← slots] at listed
  exact ((perm_records _).cons record).trans
    (listed.trans ((perm_records registry).symm.append_left _))

/-- On a record wait the waiting files of its pattern. -/
theorem Coherent.mem_pending_iff (coherent : registry.Coherent) {slot : Nat} {record : Record}
    (live : registry.record? slot = some record) {file : String}
    : file ∈ record.pending ↔ registry.Pending file ∧ Entry.pattern file = record.pattern := by
  constructor
  · exact fun waits => ⟨⟨slot, record, live, waits⟩, (coherent.serving live).patterned file waits⟩
  · rintro ⟨⟨other, found, alive, waits⟩, patterned⟩
    have same : found.pattern = record.pattern :=
      ((coherent.serving alive).patterned file waits).symm.trans patterned
    rw [coherent.slot_eq_of_pattern live alive same, live] at alive
    exact Option.some.inj alive ▸ waits

/-- Some record has a pattern of a kind exactly if some file with such a pattern waits. -/
theorem Coherent.exists_record_iff (coherent : registry.Coherent) (kind : String → Prop)
    : (∃ slot record, registry.record? slot = some record ∧ kind record.pattern)
      ↔ ∃ file, registry.Pending file ∧ kind (Entry.pattern file) := by
  constructor
  · rintro ⟨slot, record, live, holds⟩
    obtain ⟨file, waits⟩ := List.exists_mem_of_ne_nil _ (coherent.serving live).waited
    obtain ⟨pending, patterned⟩ := (coherent.mem_pending_iff live).mp waits
    exact ⟨file, pending, patterned ▸ holds⟩
  · rintro ⟨file, ⟨slot, record, live, waits⟩, holds⟩
    exact ⟨slot, record, live, (coherent.serving live).patterned file waits ▸ holds⟩

/-- The patterns of the records, each with the files that wait, in the order of the list. -/
def entries (registry : Registry) : List (String × List String) :=
  registry.records.map fun record => (record.pattern, record.pending)

/-- Under a pattern are listed the waiting files that have it, if there are any. -/
theorem Coherent.mem_entries_iff (coherent : registry.Coherent) (ordered : registry.Ordered)
    {pattern : String} {files : List String}
    : (pattern, files) ∈ registry.entries
      ↔ files ≠ []
        ∧ files.Pairwise (· < ·)
        ∧ ∀ file, file ∈ files ↔ registry.Pending file ∧ Entry.pattern file = pattern := by
  rw [entries, List.mem_map]
  constructor
  · rintro ⟨record, listed, entry⟩
    obtain ⟨rfl, rfl⟩ := Prod.mk.inj entry
    obtain ⟨slot, live⟩ := mem_records.mp listed
    exact ⟨(coherent.serving live).waited, ordered live, fun _ => coherent.mem_pending_iff live⟩
  · rintro ⟨some, increasing, exact⟩
    obtain ⟨file, member⟩ := List.exists_mem_of_ne_nil _ some
    obtain ⟨slot, record, live, rfl⟩ :=
      (coherent.exists_record_iff (· = pattern)).mpr ⟨file, (exact file).mp member⟩
    refine ⟨record, mem_records.mpr ⟨slot, live⟩, Prod.ext rfl ?_⟩
    refine eq_of_increasing id (ordered live) increasing fun file => ?_
    rw [coherent.mem_pending_iff live, exact]

/-- A script is going to stop exactly if a file waits whose pattern matches its URL as it is or in
canonical form.
-/
theorem Coherent.willPauseFor_iff_pending (coherent : registry.Coherent)
    (expressed : registry.Expressed) {url : String}
    : registry.willPauseFor url = true
      ↔ ∃ file,
          registry.Pending file
          ∧ (Matches (Entry.pattern file) url
              ∨ Matches (Entry.pattern file) (ScriptUrl.canonical url)) :=
  (coherent.willPauseFor_iff_matches expressed).trans (coherent.exists_record_iff fun pattern =>
    Matches pattern url ∨ Matches pattern (ScriptUrl.canonical url))

/-- Registries in which the same files wait tell the same: what waits on each pattern, whether a
source is pending, and whether a script is going to stop.
-/
theorem Coherent.alike (coherent : registry.Coherent) (ordered : registry.Ordered)
    (expressed : registry.Expressed) (twinCoherent : twin.Coherent) (twinOrdered : twin.Ordered)
    (twinExpressed : twin.Expressed) (same : ∀ file, registry.Pending file ↔ twin.Pending file)
    : registry.entries = twin.entries
      ∧ (∀ source, registry.hasPending source = twin.hasPending source)
      ∧ ∀ url, registry.willPauseFor url = twin.willPauseFor url := by
  refine ⟨?_, ?_, ?_⟩
  · refine eq_of_increasing Prod.fst (List.pairwise_map.mpr coherent.increasing_records)
      (List.pairwise_map.mpr twinCoherent.increasing_records) fun ⟨pattern, files⟩ => ?_
    rw [coherent.mem_entries_iff ordered, twinCoherent.mem_entries_iff twinOrdered]
    simp only [same]
  · intro source
    rw [Bool.eq_iff_iff, coherent.hasPending_iff, twinCoherent.hasPending_iff, same]
  · intro url
    rw [Bool.eq_iff_iff, coherent.willPauseFor_iff_pending expressed,
      twinCoherent.willPauseFor_iff_pending twinExpressed]
    simp only [same]

end Registry

end EarlyBreak.Entry
