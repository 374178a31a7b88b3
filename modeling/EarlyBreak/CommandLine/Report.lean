import EarlyBreak.Config.Strategy
import EarlyBreak.Json.Writer
import EarlyBreak.Prediction.Request

/-! What is reported of predictions, as JSON or as lines of text. -/

namespace EarlyBreak.CommandLine

/-- A breakpoint with the places where it binds. -/
structure PredictedBreakpoint where
  source : FileLocation
  compiled : List FileLocation
  deriving DecidableEq, Repr

/-- What is reported of predictions. -/
structure Report where
  rootPath : Path
  strategy : Strategy
  /-- The number of sources that the scan found. -/
  indexedSources : Nat
  /-- Milliseconds that the scan took. -/
  elapsed : Nat
  breakpoints : List PredictedBreakpoint
  deriving DecidableEq, Repr

/-- Writes the record. -/
def PredictedBreakpoint.toJson (predicted : PredictedBreakpoint) : Json :=
  .object [("source", predicted.source.toJson),
    ("compiled", .array (predicted.compiled.map FileLocation.toJson))]

/-- A place as a text with colons. -/
def placeText (location : FileLocation) : String :=
  location.path.text ++ ":" ++ toString location.line ++ ":" ++ toString location.column

/-- The lines for a breakpoint: one for each place where it binds. -/
def PredictedBreakpoint.lines (predicted : PredictedBreakpoint) : List String :=
  let source := placeText predicted.source ++ " -> "
  if predicted.compiled.isEmpty then [source ++ "(unresolved)"]
  else predicted.compiled.map fun compiled => source ++ placeText compiled

namespace Report

/-- Writes the record. -/
def toJson (report : Report) : Json :=
  .object [
    ("rootPath", report.rootPath.toJson),
    ("strategy", .string report.strategy.name),
    ("indexedSources", .int report.indexedSources),
    ("elapsedMs", .int report.elapsed),
    ("breakpoints", .array (report.breakpoints.map PredictedBreakpoint.toJson))]

/-- The report as lines of text. -/
def lines (report : Report) : List String :=
  ["root: " ++ report.rootPath.text,
    "  strategy: " ++ report.strategy.name,
    "  indexed_sources: " ++ toString report.indexedSources,
    "  elapsed_ms: " ++ toString report.elapsed]
    ++ report.breakpoints.flatMap PredictedBreakpoint.lines

/-- Whether some breakpoint binds nowhere. -/
def hasUnresolved (report : Report) : Bool := report.breakpoints.any (·.compiled.isEmpty)

end Report

end EarlyBreak.CommandLine
