import EarlyBreak.Json.Record
import EarlyBreak.Path

/-! Paths in records, where they are strings. -/

namespace EarlyBreak.Path

/-- Reads a path. -/
def ofJson? (value : Json) : Option Path := value.text?.map ofString

/-- Writes a path. -/
def toJson (p : Path) : Json := .string p.text

end EarlyBreak.Path
