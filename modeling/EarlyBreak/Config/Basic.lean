import EarlyBreak.Config.Strategy
import EarlyBreak.Json.Basic
import EarlyBreak.OutFiles.Relative
import EarlyBreak.PathOverride

/-! What a debugging session is started with. -/

namespace EarlyBreak

/-- How predictions are made. -/
structure PredictionConfig where
  /-- The folder of the cache, if there is one. -/
  cacheDir : Option Path := none
  /-- Milliseconds after which a scan is reported as long. -/
  longParseWarning : Nat := 10000
  /-- How many compiled files are read at once. -/
  concurrency : Nat := 16
  deriving DecidableEq, Repr

/-- How the session logs. -/
structure LoggingConfig where
  level : String := "info"
  json : Bool := false
  deriving DecidableEq, Repr

/-- What a debugging session is started with. -/
structure LaunchConfig where
  rootPath : Path
  /-- Patterns of the compiled files. -/
  outFiles : List String := ["**/*.js", "!**/node_modules/**"]
  strategy : Strategy := .off
  /-- Rules for source URLs, by key in increasing order. -/
  pathOverrides : List PathOverride := []
  prediction : PredictionConfig := {}
  logging : LoggingConfig := {}
  deriving DecidableEq, Repr

namespace LaunchConfig

/-- A text with the root in place of its variable. -/
def expandRoot (config : LaunchConfig) (s : String) : String :=
  String.ofList (Text.replaceAll PathOverride.rootVariable
    (PathOverride.rootText config.rootPath) s.toList)

/-- The patterns of compiled files with the root in place of its variable. -/
def resolvedOutFiles (config : LaunchConfig) : List String :=
  config.outFiles.map config.expandRoot

/-- The rules for source URLs with the root in place of its variable. -/
def resolvedOverrides (config : LaunchConfig) : List PathOverride :=
  config.pathOverrides.map (·.expand config.rootPath)

end LaunchConfig

/-- What predictions go by. -/
structure PredictorOptions where
  rootPath : Path
  /-- Patterns seen from the root. -/
  outFiles : List String
  /-- Milliseconds after which a scan is reported as long. -/
  longParseThreshold : Nat := 10000
  concurrency : Nat := 16
  deriving DecidableEq, Repr

namespace PredictorOptions

/-- Options for a folder and patterns below it. -/
def ofRoot (rootPath : Path) (outFiles : List String) : PredictorOptions :=
  { rootPath, outFiles := OutFiles.relativePatterns rootPath outFiles }

/-- The options that a configuration gives. -/
def ofConfig (config : LaunchConfig) : PredictorOptions :=
  { ofRoot config.rootPath config.resolvedOutFiles with
    longParseThreshold := config.prediction.longParseWarning
    concurrency := max config.prediction.concurrency 1 }

end PredictorOptions

end EarlyBreak
