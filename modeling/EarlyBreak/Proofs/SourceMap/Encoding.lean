import EarlyBreak.Proofs.SourceMap.Quantity
import EarlyBreak.SourceMap.Encoder

/-! Decoding a mappings text undoes encoding it: the lines, whatever their segments, give back the
mappings of all segments that have an origin, at the places that they were written with.
-/

namespace EarlyBreak.SourceMap

/-- Every total is one that decoding accepts. -/
structure Totals.Fits (totals : Totals) : Prop where
  source : totals.source < totalBound
  sourceLine : totals.sourceLine < totalBound
  sourceColumn : totals.sourceColumn < totalBound
  name : totals.name < totalBound

theorem toNat_lt_totalBound (n : UInt32) : n.toNat < totalBound := n.toNat_lt

/-- A difference leads from a total to the number that it was taken to. -/
theorem advance_differenceTo (total : Nat) (n : UInt32)
    : advance total (differenceTo total n) = .ok n.toNat := by
  have bound := toNat_lt_totalBound n
  have next : (total : Int) + differenceTo total n = n.toNat := by
    rw [differenceTo]
    omega
  rw [advance, next, if_pos ⟨by omega, by omega⟩, Int.toNat_natCast]

/-- Differences between words of 32 bits are small enough to be written. -/
theorem natAbs_differenceTo_lt {total : Nat} (fits : total < totalBound) (n : UInt32)
    : (differenceTo total n).natAbs < 2 ^ 59 := by
  have bound := toNat_lt_totalBound n
  simp only [totalBound, Nat.pow_eq, differenceTo] at *
  omega

theorem Origin.totals_fits {before : Totals} (fits : before.Fits) (origin : Origin)
    : (origin.totals before).Fits where
  source := toNat_lt_totalBound _
  sourceLine := toNat_lt_totalBound _
  sourceColumn := toNat_lt_totalBound _
  name := by
    cases named : origin.name with
    | none => simpa [totals, named] using fits.name
    | some name => simpa [totals, named] using toNat_lt_totalBound name

theorem Segment.totals_fits {before : Totals} (fits : before.Fits) (segment : Segment)
    : (segment.totals before).Fits := by
  cases from_ : segment.origin with
  | none => simpa [totals, from_] using fits
  | some origin => simpa [totals, from_] using origin.totals_fits fits

/-- No field of a segment needs more than sixty bits. -/
theorem Segment.fields_small {column : Nat} {before : Totals} (bound : column < totalBound)
    (fits : before.Fits) (segment : Segment)
    : ∀ value ∈ segment.fields column before, value.natAbs < 2 ^ 59 := by
  intro value member
  rcases List.mem_cons.mp member with rfl | member
  · exact natAbs_differenceTo_lt bound _
  · cases from_ : segment.origin with
    | none => simp [from_] at member
    | some origin =>
        simp only [from_, Origin.fields, List.mem_cons, Option.mem_toList, Option.map_eq_some_iff]
          at member
        rcases member with rfl | rfl | rfl | ⟨name, -, rfl⟩
        · exact natAbs_differenceTo_lt fits.source _
        · exact natAbs_differenceTo_lt fits.sourceLine _
        · exact natAbs_differenceTo_lt fits.sourceColumn _
        · exact natAbs_differenceTo_lt fits.name _

/-- The cursor behind a segment. -/
def Cursor.after (cursor : Cursor) (segment : Segment) : Cursor :=
  ⟨segment.column.toNat, segment.totals cursor.totals, cursor.count + 1⟩

/-- The fields of a segment lead from a cursor to the one behind the segment, and give its mapping
if it has one.
-/
theorem Cursor.apply_fields (cursor : Cursor) (line : Nat) (segment : Segment)
    : cursor.apply line (segment.fields cursor.column cursor.totals)
      = .ok (cursor.after segment, segment.mapping? line) := by
  obtain ⟨column, origin⟩ := segment
  cases origin with
  | none =>
      simp only [Segment.fields, apply, advance_differenceTo]
      rfl
  | some origin =>
      obtain ⟨source, sourceLine, sourceColumn, name⟩ := origin
      cases name with
      | none | some name =>
          simp only [Segment.fields, Origin.fields, apply, advance_differenceTo,
            Option.map_none, Option.map_some, Option.toList_none, Option.toList_some,
            List.length_nil, List.length_singleton, List.foldlM_nil, List.foldlM_cons]
          rfl

/-- A written segment is read back, field by field. -/
theorem Cursor.read_writeFields {cursor : Cursor} (bound : cursor.column < totalBound)
    (fits : cursor.totals.Fits) (line : Nat) (segment : Segment)
    : cursor.read line (writeFields (segment.fields cursor.column cursor.totals))
      = .ok (cursor.after segment, segment.mapping? line) := by
  have values := segmentValues_writeQuantities (segment.fields_small bound fits)
  rw [read, writeFields, values]
  exact cursor.apply_fields line segment

theorem writeFields_fields_ne_nil (column : Nat) (before : Totals) (segment : Segment)
    : writeFields (segment.fields column before) ≠ [] := by
  simp [writeFields, Segment.fields, writeQuantity_ne_nil]

/-- What the written segments of a line are read as: their mappings, and a cursor with the totals
at the end of the line.
-/
theorem readSegments_writeSegments {cursor : Cursor} (bound : cursor.column < totalBound)
    (fits : cursor.totals.Fits) (number : Nat) (line : Line)
    : ∃ final,
        readSegments number cursor (writeSegments cursor.column cursor.totals line).1
          = .ok (final, line.mappings number)
        ∧ final.totals = (writeSegments cursor.column cursor.totals line).2
        ∧ final.totals.Fits := by
  induction line generalizing cursor with
  | nil => exact ⟨cursor, rfl, rfl, fits⟩
  | cons segment rest ih =>
      cases segment with
      | none => simpa [writeSegments, readSegments, Line.mappings] using ih bound fits
      | some segment =>
          have after : (cursor.after segment).column < totalBound := toNat_lt_totalBound _
          obtain ⟨final, read, totals, finalFits⟩ := ih after (segment.totals_fits fits)
          refine ⟨final, ?_, totals, finalFits⟩
          rw [writeSegments, readSegments,
            if_neg (writeFields_fields_ne_nil cursor.column cursor.totals segment),
            cursor.read_writeFields bound fits]
          simp only [Cursor.after] at read
          simp only [Cursor.after, read, Line.mappings, List.filterMap_cons, Option.bind_some]
          cases segment.mapping? number with
          | none | some mapping => rfl

/-- A character that is neither a digit nor a comma does not occur in a written line. -/
theorem not_mem_writeSegments {c : Char} (other : Base64.value? c = none) (column : Nat)
    (before : Totals) (line : Line)
    : ∀ text ∈ (writeSegments column before line).1, c ∉ text := by
  induction line generalizing column before with
  | nil => simp [writeSegments]
  | cons segment rest ih =>
      cases segment with
      | none => simpa [writeSegments] using ih column before
      | some segment =>
          refine List.forall_mem_cons.mpr ⟨not_mem_writeQuantities other, ?_⟩
          exact ih segment.column.toNat (segment.totals before)

theorem not_mem_intercalate {α : Type} {sep a : α} {texts : List (List α)} (different : a ≠ sep)
    (absent : ∀ text ∈ texts, a ∉ text)
    : a ∉ [sep].intercalate texts := by
  induction texts with
  | nil => simp
  | cons text rest ih =>
      obtain ⟨first, others⟩ := List.forall_mem_cons.mp absent
      cases rest with
      | nil => simpa using first
      | cons second rest =>
          simp only [List.intercalate_cons_cons, List.mem_append, List.mem_singleton, not_or]
          exact ⟨⟨first, different⟩, ih others⟩

/-- A written line falls apart at its commas into the segments that were written.  A line without
segments is written like one with an empty segment.
-/
theorem splitOn_writeSegments {column : Nat} {before : Totals} {line : Line}
    (segments : line ≠ [])
    : ([','].intercalate (writeSegments column before line).1).splitOn ','
      = (writeSegments column before line).1 := by
  apply List.splitOn_intercalate
  · exact not_mem_writeSegments (by decide) column before line
  · cases line with
    | nil => exact absurd rfl segments
    | cons segment rest => cases segment <;> simp [writeSegments]

/-- A written line is read back segment by segment. -/
theorem readSegments_splitOn_writeSegments {cursor : Cursor} (bound : cursor.column < totalBound)
    (fits : cursor.totals.Fits) (number : Nat) (line : Line)
    : ∃ final,
        readSegments number cursor
          (([','].intercalate (writeSegments cursor.column cursor.totals line).1).splitOn ',')
          = .ok (final, line.mappings number)
        ∧ final.totals = (writeSegments cursor.column cursor.totals line).2
        ∧ final.totals.Fits := by
  cases line with
  | nil => exact ⟨cursor, rfl, rfl, fits⟩
  | cons segment rest =>
      rw [splitOn_writeSegments (List.cons_ne_nil segment rest)]
      exact readSegments_writeSegments bound fits number _

/-- Written lines are read back as their mappings, by induction on the lines; the totals at the end
of each line are those that the next one starts from.
-/
theorem readLines_writeLines {cursor : Cursor} (fits : cursor.totals.Fits) (number : Nat)
    (lines : List Line)
    : readLines number cursor (writeLines cursor.totals lines)
      = .ok (mappingsFrom number lines) := by
  induction lines generalizing number cursor with
  | nil => rfl
  | cons line rest ih =>
      have bound : ({ cursor with column := 0 } : Cursor).column < totalBound :=
        show 0 < totalBound by decide
      obtain ⟨final, read, totals, finalFits⟩ :=
        readSegments_splitOn_writeSegments bound fits number line
      have next := ih finalFits (number + 1)
      rw [totals] at next
      simp only at read
      simp only [writeLines, readLines, read, next, mappingsFrom, bind, Except.bind, pure,
        Except.pure]

theorem not_mem_writeLines (before : Totals) (lines : List Line)
    : ∀ text ∈ writeLines before lines, ';' ∉ text := by
  induction lines generalizing before with
  | nil => simp [writeLines]
  | cons line rest ih =>
      refine List.forall_mem_cons.mpr ⟨?_, ih _⟩
      exact not_mem_intercalate (by decide) (not_mem_writeSegments (by decide) 0 before line)

/-- The mappings text of any lines is accepted, and decodes to the mappings of the segments that
have an origin, in their order and at the places that they were written with.
-/
theorem decodeMappings_encodeMappings (lines : List Line)
    : decodeMappings (encodeMappings lines) = .ok (mappingsFrom 0 lines) := by
  have fits : Cursor.start.totals.Fits := ⟨by decide, by decide, by decide, by decide⟩
  cases lines with
  | nil => decide
  | cons line rest =>
      have lines : writeLines Cursor.start.totals (line :: rest) ≠ [] := List.cons_ne_nil _ _
      rw [decodeMappings, encodeMappings,
        List.splitOn_intercalate ';' (not_mem_writeLines _ _) lines]
      exact readLines_writeLines fits 0 (line :: rest)

/-- Three lines with every kind of segment: the text is that of a usual encoder. -/
example
    : encodeMappings
        [[some ⟨0, some ⟨0, 0, 0, none⟩⟩], [],
          [some ⟨6, some ⟨0, 1, 4, some 3⟩⟩, none, some ⟨1, none⟩]]
      = "AAAA;;MACIG,,L".toList := by decide +kernel

end EarlyBreak.SourceMap
