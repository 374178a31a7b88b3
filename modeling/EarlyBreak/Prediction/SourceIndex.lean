import EarlyBreak.Index
import EarlyBreak.Prediction.Discovery

/-! Which compiled files each source came to light in.  Sources are told apart by their keys, so
that spellings of one path share their discoveries.
-/

namespace EarlyBreak

/-- The discoveries of each source, in the order in which they were made. -/
structure SourceIndex where
  bySource : Index String (List Discovery)
  deriving Repr

namespace SourceIndex

/-- The index of no discoveries. -/
def empty : SourceIndex := ⟨[]⟩

/-- The discoveries of a source. -/
def get (index : SourceIndex) (source : Path) : List Discovery :=
  (index.bySource.find? (ScriptUrl.sourceKey source)).getD []

/-- Adds a discovery to those of a source, unless the same one is there. -/
def appendNew (known : List Discovery) (found : Discovery) : List Discovery :=
  if known.any found.same then known else known ++ [found]

/-- Adds a discovery. -/
def insert (index : SourceIndex) (found : Discovery) : SourceIndex :=
  ⟨index.bySource.set (ScriptUrl.sourceKey found.path) (appendNew (index.get found.path) found)⟩

/-- The index of discoveries as they arrive. -/
def ofDiscoveries (found : List Discovery) : SourceIndex := found.foldl insert empty

/-- The number of sources. -/
def size (index : SourceIndex) : Nat := index.bySource.length

/-- A sorted list of paths without those that are the same as the one before. -/
def distinct : List Path → List Path
  | first :: second :: rest =>
      if first.same second then distinct (first :: rest) else first :: distinct (second :: rest)
  | paths => paths

/-- The compiled files of a source, in increasing order. -/
def compiledPaths (index : SourceIndex) (source : Path) : List Path :=
  distinct (((index.get source).map (·.file.path)).mergeSort Path.atMost)

end SourceIndex

end EarlyBreak
