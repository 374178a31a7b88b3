import EarlyBreak.SourceMap.Mappings

/-! Writing the mappings text of a source map: each segment as its differences to what came before
it, each difference as a variable-length quantity.  Columns start anew on each line; sources,
source lines, source columns and names run on.
-/

namespace EarlyBreak.SourceMap

/-- The place in a source that a segment comes from. -/
structure Origin where
  /-- The index of the source. -/
  source : UInt32
  line : UInt32
  column : UInt32
  /-- The index of the name that stands there, if one is known. -/
  name : Option UInt32
  deriving DecidableEq, Repr

/-- A segment of a generated line.  One without an origin has no other field than its column. -/
structure Segment where
  column : UInt32
  origin : Option Origin
  deriving DecidableEq, Repr

/-- The segments of a generated line, in any order of their columns; `none` is an empty one. -/
abbrev Line := List (Option Segment)

/-- The difference of a number to a total. -/
def differenceTo (total : Nat) (n : UInt32) : Int := (n.toNat : Int) - total

namespace Origin

/-- The fields of an origin behind some totals. -/
def fields (before : Totals) (origin : Origin) : List Int :=
  differenceTo before.source origin.source :: differenceTo before.sourceLine origin.line
    :: differenceTo before.sourceColumn origin.column
    :: (origin.name.map (differenceTo before.name)).toList

/-- The totals behind an origin.  Without a name the total of names stays. -/
def totals (before : Totals) (origin : Origin) : Totals :=
  ⟨origin.source.toNat, origin.line.toNat, origin.column.toNat,
    (origin.name.map UInt32.toNat).getD before.name⟩

end Origin

namespace Segment

/-- The fields of a segment behind a column and some totals: one, four or five of them. -/
def fields (column : Nat) (before : Totals) (segment : Segment) : List Int :=
  differenceTo column segment.column
    :: match segment.origin with
      | none => []
      | some origin => origin.fields before

/-- The totals behind a segment. -/
def totals (before : Totals) (segment : Segment) : Totals :=
  match segment.origin with
  | none => before
  | some origin => origin.totals before

/-- The mapping that a segment stands for on a line, if it has an origin. -/
def mapping? (line : Nat) (segment : Segment) : Option Mapping :=
  segment.origin.map fun origin =>
    ⟨line, segment.column.toNat, origin.source.toNat, origin.line.toNat, origin.column.toNat⟩

end Segment

/-- The fields of a segment as a text. -/
def writeFields (fields : List Int) : List Char := fields.flatMap writeQuantity

/-- The texts of the segments of a line behind a column and some totals, and the totals at the end
of the line.
-/
def writeSegments (column : Nat) (before : Totals) : Line → List (List Char) × Totals
  | [] => ([], before)
  | none :: rest =>
      let (texts, final) := writeSegments column before rest
      ([] :: texts, final)
  | some segment :: rest =>
      let (texts, final) := writeSegments segment.column.toNat (segment.totals before) rest
      (writeFields (segment.fields column before) :: texts, final)

/-- The texts of lines behind some totals. -/
def writeLines (before : Totals) : List Line → List (List Char)
  | [] => []
  | line :: rest =>
      let (texts, final) := writeSegments 0 before line
      [','].intercalate texts :: writeLines final rest

/-- The mappings text of generated lines. -/
def encodeMappings (lines : List Line) : List Char :=
  [';'].intercalate (writeLines Cursor.start.totals lines)

/-- The mappings of the segments of a line. -/
def Line.mappings (number : Nat) (line : Line) : List Mapping :=
  line.filterMap (·.bind (·.mapping? number))

/-- The mappings of lines that are counted from a number on, in their order. -/
def mappingsFrom (number : Nat) : List Line → List Mapping
  | [] => []
  | line :: rest => Line.mappings number line ++ mappingsFrom (number + 1) rest

end EarlyBreak.SourceMap
