import EarlyBreak.SourceMap.Vlq

/-! The mappings of a source map.  Lines are separated by semicolons and segments by commas;
each segment gives differences to totals that run on.
-/

namespace EarlyBreak.SourceMap

/-- A generated position and the source position it comes from, all counted from zero. -/
structure Mapping where
  /-- The number of the line.  It is taken for granted that the lines of a text can be counted in 32
  bits: a text with more of them has four gibibytes of semicolons.
  -/
  generatedLine : Nat
  generatedColumn : Nat
  /-- The index of the source. -/
  source : Nat
  sourceLine : Nat
  sourceColumn : Nat
  deriving DecidableEq, Repr

/-- The totals that run over a whole mappings text. -/
structure Totals where
  source : Nat
  sourceLine : Nat
  sourceColumn : Nat
  name : Nat
  deriving DecidableEq, Repr

/-- The first number that a total cannot hold. -/
def totalBound : Nat := Nat.pow 2 32

/-- What a number that counts from zero is when counted from one, in 32 bits.  The last number of 32
bits has no next one: where sums are checked nothing comes of it, and where they are not it is zero.
-/
def fromOne (n : Nat) : Nat := (n + 1) % totalBound

/-- A total after a difference. -/
def advance (total : Nat) (difference : Int) : Except MappingFault Nat :=
  let next := (total : Int) + difference
  if 0 ≤ next ∧ next < totalBound then .ok next.toNat else .error .coordinate

/-- Where decoding stands between two segments. -/
structure Cursor where
  /-- The generated column of the last segment on the line. -/
  column : Nat
  totals : Totals
  /-- The number of segments read, empty ones aside. -/
  count : Nat
  deriving DecidableEq, Repr

namespace Cursor

/-- The cursor at the start of a mappings text. -/
def start : Cursor := ⟨0, ⟨0, 0, 0, 0⟩, 0⟩

/-- The cursor and the mapping, if any, after the values of a segment on a line. -/
def apply (cursor : Cursor) (line : Nat) :
    List Int → Except MappingFault (Cursor × Option Mapping)
  | [] => .error .fieldCount
  | column :: values => do
      let column ← advance cursor.column column
      match values with
      | [] => return ({ cursor with column, count := cursor.count + 1 }, none)
      | source :: sourceLine :: sourceColumn :: names =>
          if 1 < names.length then throw .fieldCount
          let source ← advance cursor.totals.source source
          let sourceLine ← advance cursor.totals.sourceLine sourceLine
          let sourceColumn ← advance cursor.totals.sourceColumn sourceColumn
          let name ← names.foldlM advance cursor.totals.name
          return ({
            column
            totals := ⟨source, sourceLine, sourceColumn, name⟩
            count := cursor.count + 1 },
            some ⟨line, column, source, sourceLine, sourceColumn⟩)
      | _ => throw .fieldCount

/-- The cursor and the mapping, if any, after the text of a segment on a line. -/
def read (cursor : Cursor) (line : Nat) (segment : List Char) :
    Except MappingFault (Cursor × Option Mapping) := do
  cursor.apply line (← segmentValues segment)

end Cursor

/-- A fault and the number of the segment that has it. -/
structure MappingError where
  segment : Nat
  fault : MappingFault
  deriving DecidableEq, Repr

/-- The mappings of the segments of a line, and the cursor behind them.  Empty segments count
for nothing.
-/
def readSegments (line : Nat) (cursor : Cursor) :
    List (List Char) → Except MappingError (Cursor × List Mapping)
  | [] => .ok (cursor, [])
  | segment :: rest =>
      if segment = [] then readSegments line cursor rest
      else
        match cursor.read line segment with
        | .error fault => .error ⟨cursor.count, fault⟩
        | .ok (next, mapping) => do
            let (final, mappings) ← readSegments line next rest
            return (final, mapping.toList ++ mappings)

/-- The mappings of lines from a line number on.  Columns start anew on each line. -/
def readLines (line : Nat) (cursor : Cursor) :
    List (List Char) → Except MappingError (List Mapping)
  | [] => .ok []
  | text :: rest => do
      let (next, mappings) ← readSegments line { cursor with column := 0 } (text.splitOn ',')
      return mappings ++ (← readLines (line + 1) next rest)

/-- The mappings that a text spells, in its order.  Segments without a source give none. -/
def decodeMappings (text : List Char) : Except MappingError (List Mapping) :=
  readLines 0 Cursor.start (text.splitOn ';')

end EarlyBreak.SourceMap
