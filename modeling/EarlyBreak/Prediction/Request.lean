import EarlyBreak.Path.Record

/-! Breakpoints in sources as a user asks for them, and places in the files of the workspace.
Lines and columns count from one.
-/

namespace EarlyBreak

/-- A place in a file of the workspace. -/
structure FileLocation where
  path : Path
  line : Nat
  column : Nat
  deriving DecidableEq, Repr

namespace FileLocation

/-- Whether two places are the same, up to the spelling of their paths. -/
def same (a b : FileLocation) : Bool :=
  a.path.same b.path && a.line == b.line && a.column == b.column

/-- The order of two places: by path, then line, then column. -/
def order (a b : FileLocation) : Ordering :=
  ((a.path.order b.path).then (compare a.line b.line)).then (compare a.column b.column)

/-- The keys of the record, in their order. -/
def keys : List String := ["absolutePath", "lineNumber", "columnNumber"]

/-- Reads the record. -/
def ofJson? (value : Json) : Option FileLocation := do
  match ← value.fields? keys .ignored with
  | [path, line, column] =>
      return {
        path := ← Json.required? Path.ofJson? path
        line := ← Json.required? Json.word32? line
        column := ← Json.required? Json.word32? column }
  | _ => none

/-- Writes the record. -/
def toJson (location : FileLocation) : Json :=
  .object [("absolutePath", location.path.toJson), ("lineNumber", .int location.line),
    ("columnNumber", .int location.column)]

end FileLocation

/-- A breakpoint in a source. -/
structure SourceBreakpoint where
  line : Nat
  /-- Absent for the start of the line. -/
  column : Option Nat
  deriving DecidableEq, Repr

namespace SourceBreakpoint

/-- The column that is meant: the first one unless another is given. -/
def columnOrFirst (breakpoint : SourceBreakpoint) : Nat := breakpoint.column.getD 1

/-- The keys of the record, in their order. -/
def keys : List String := ["line", "column"]

/-- Reads the record. -/
def ofJson? (value : Json) : Option SourceBreakpoint := do
  match ← value.fields? keys .ignored with
  | [line, column] =>
      return {
        line := ← Json.required? Json.word32? line
        column := ← Json.optional? Json.word32? column }
  | _ => none

end SourceBreakpoint

/-- Breakpoints that a user asks for in one source. -/
structure BreakpointRequest where
  /-- Absent for a source that is no file. -/
  path : Option Path
  breakpoints : List SourceBreakpoint
  deriving DecidableEq, Repr

namespace BreakpointRequest

/-- The keys of the record, in their order. -/
def keys : List String := ["source", "breakpoints"]

/-- Reads the path of a source. -/
def sourcePath? (value : Json) : Option (Option Path) := do
  match ← value.fields? ["path"] .ignored with
  | [path] => Json.optional? Path.ofJson? path
  | _ => none

/-- Reads the record. -/
def ofJson? (value : Json) : Option BreakpointRequest := do
  match ← value.fields? keys .ignored with
  | [source, breakpoints] =>
      return {
        path := ← Json.required? sourcePath? source
        breakpoints :=
          ← Json.defaulted? [] (Json.listOf? SourceBreakpoint.ofJson?) breakpoints }
  | _ => none

end BreakpointRequest

end EarlyBreak
