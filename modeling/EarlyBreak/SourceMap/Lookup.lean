import EarlyBreak.SourceMap.Basic

/-! Looking positions up in a source map, in both directions. -/

namespace EarlyBreak.SourceMap

/-- Which neighbour to take when a position has no mapping of its own. -/
inductive Bias where
  /-- The closest mapped position at or before it. -/
  | before
  /-- The closest mapped position at or after it. -/
  | after
  deriving DecidableEq, Repr

/-- A generated position: lines count from one, columns from zero. -/
structure GeneratedPosition where
  line : Nat
  column : Nat
  deriving DecidableEq, Repr

/-- A position in a source: lines count from one, columns from zero. -/
structure SourcePosition where
  source : String
  line : Nat
  column : Nat
  deriving DecidableEq, Repr

/-- The generated position of a mapping.  Its line has a next number, as lines are few. -/
def Mapping.generatedPosition (m : Mapping) : GeneratedPosition :=
  ⟨m.generatedLine + 1, m.generatedColumn⟩

/-- The mapping next to the coordinates in a source on the side of the bias, of any source. -/
def neighbour? (map : SourceMap) (wanted : List Nat) : Bias → Option Mapping
  | .after => (map.bySource.dropWhile fun m => Lexicographic.before m.sourcePlace wanted).head?
  | .before => (map.bySource.takeWhile fun m => Lexicographic.atMost m.sourcePlace wanted).getLast?

/-- The generated position for one in a source.  The index of a source is the first one that has
its URL.
-/
def generatedPosition? (map : SourceMap) (source : String) (line column : Nat) (bias : Bias) :
    Option GeneratedPosition := do
  let index ← map.sources.findIdx? (· == source)
  match line with
  | 0 => none
  | line + 1 =>
      let mapping ← map.neighbour? [index, line, column] bias
      if mapping.source = index then return mapping.generatedPosition else none

/-- The position in a source for a generated one: that of the last mapping at or before it on its
line.
-/
def sourcePosition? (map : SourceMap) (line column : Nat) : Option SourcePosition :=
  match line with
  | 0 => none
  | line + 1 => do
      let mapping ←
        (map.byGenerated.takeWhile fun m =>
          Lexicographic.atMost m.generatedPlace [line, column]).getLast?
      if mapping.generatedLine = line then
        return ⟨← map.sources[mapping.source]?, fromOne mapping.sourceLine, mapping.sourceColumn⟩
      else none

end EarlyBreak.SourceMap
