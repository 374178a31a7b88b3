import EarlyBreak.Json.Record

/-! Positions in scripts, as the engine reports them: lines and columns count from zero. -/

namespace EarlyBreak.Debugger

/-- The engine's name for a script. -/
abbrev ScriptId := String

/-- The engine's name for a breakpoint. -/
abbrev BreakpointId := String

/-- A position in a script. -/
structure Location where
  script : ScriptId
  line : Nat
  /-- Absent where the engine leaves it out. -/
  column : Option Nat
  deriving DecidableEq, Repr

namespace Location

/-- Whether two locations are the same position.  A missing column is the first one. -/
def samePosition (a b : Location) : Bool :=
  a.script == b.script && a.line == b.line && a.column.getD 0 == b.column.getD 0

/-- The keys of the record, in their order. -/
def keys : List String := ["scriptId", "lineNumber", "columnNumber"]

/-- Reads the record. -/
def ofJson? (value : Json) : Option Location := do
  match ← value.fields? keys .ignored with
  | [script, line, column] =>
      return {
        script := ← Json.required? Json.text? script
        line := ← Json.required? Json.word32? line
        column := ← Json.optional? Json.word32? column }
  | _ => none

/-- Writes the record. -/
def toJson (location : Location) : Json :=
  .object ([("scriptId", .string location.script), ("lineNumber", .int location.line)]
    ++ match location.column with
      | some column => [("columnNumber", .int column)]
      | none => [])

end Location

end EarlyBreak.Debugger
