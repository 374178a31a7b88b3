import EarlyBreak.Proofs.SourceMap.Search
import EarlyBreak.Proofs.SourceMap.Words

/-! What a lookup by generated position finds, and that it leads back from what the lookup by
source position finds.  The two lookups search differently sorted copies of one list of mappings:
sorting by place keeps the mappings at one place in the order of the map.
-/

namespace EarlyBreak

namespace SourceMap

open Lexicographic (atMost atMost_total atMost_trans eq_of_atMost)

/-- The mappings of a map whose source it names. -/
def retained (sources : List String) (mappings : List Mapping) : List Mapping :=
  mappings.filter (·.source < sources.length)

/-- The mapping that a generated position belongs to: the one with the greatest column on the line
that is not above the given one, and of those with that column the last one of the map.
-/
structure Preceding (mappings : List Mapping) (line column : Nat) (m : Mapping) : Prop where
  onLine : m.generatedLine = line
  reached : m.generatedColumn ≤ column
  greatest : ∀ other ∈ mappings, other.generatedLine = line → other.generatedColumn ≤ column
    → other.generatedColumn ≤ m.generatedColumn
  last : (mappings.filter fun other => other.generatedPlace == m.generatedPlace).getLast? = some m

section Search

variable {sources : List String} {mappings : List Mapping} {m : Mapping} {line column : Nat}

theorem Preceding.member (preceding : Preceding mappings line column m) : m ∈ mappings :=
  (List.mem_filter.mp (List.mem_of_getLast? preceding.last)).1

/-- Two mappings that a position belongs to stand at one place, and the last one there is one. -/
theorem Preceding.unique {other : Mapping} (preceding : Preceding mappings line column m)
    (alike : Preceding mappings line column other)
    : m = other := by
  have below := preceding.greatest other alike.member alike.onLine alike.reached
  have above := alike.greatest m preceding.member preceding.onLine preceding.reached
  have place : m.generatedPlace = other.generatedPlace := by
    rw [Mapping.generatedPlace, Mapping.generatedPlace, preceding.onLine, alike.onLine,
      Nat.le_antisymm above below]
  have last := preceding.last
  rw [place, alike.last] at last
  exact (Option.some.inj last).symm

end Search

-- The last number of 32 bits is one that a text can spell.
example : segmentValues "+/////H".toList = .ok [4294967295] := by decide

end SourceMap

end EarlyBreak
