import EarlyBreak.SourceMap.Loader

/-! What a scan of compiled files brings to light. -/

namespace EarlyBreak

/-- A source that the map of a compiled file lists. -/
structure Discovery where
  /-- The URL of the source as the map has it. -/
  sourceUrl : String
  /-- Where the source is in the workspace. -/
  path : Path
  file : CompiledFile
  deriving DecidableEq, Repr

/-- Whether two discoveries are the same, up to the spelling of their paths. -/
def Discovery.same (a b : Discovery) : Bool :=
  a.sourceUrl == b.sourceUrl && a.path.same b.path && a.file.path.same b.file.path
    && a.file.mapUrl == b.file.mapUrl && a.file.modified == b.file.modified

end EarlyBreak
