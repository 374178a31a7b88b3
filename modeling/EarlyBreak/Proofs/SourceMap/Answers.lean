import EarlyBreak.SourceMap.Loader
import EarlyBreak.Proofs.SourceMap.Search

/-! Which lookups the map of a compiled file answers: those with a mapping of the source at or after
the place, and each of them with the nearest one.
-/

namespace EarlyBreak.SourceMap

open Lexicographic (atMost)

variable {map : SourceMap} {source : String} {line column : Nat}

/-- Whether a map has a mapping of a source at or after a place in it; the source is the first one
that has its URL.
-/
def mapsFrom (map : SourceMap) (source : String) (line column : Nat) : Bool :=
  match map.sources.findIdx? (· == source) with
  | none => false
  | some index =>
      map.bySource.any fun m =>
        m.source == index && atMost [line, column] [m.sourceLine + 1, m.sourceColumn]

end EarlyBreak.SourceMap
