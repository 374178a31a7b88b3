import EarlyBreak.Config.Basic
import EarlyBreak.Path.Record

/-! Configurations as JSON values, and as the values that documents of other formats amount to. -/

namespace EarlyBreak

/-- The formats of configurations. -/
inductive ConfigFormat where
  | json
  | toml
  deriving DecidableEq, Repr

namespace ConfigFormat

/-- The fields of a record.  Unknown keys are refused; a TOML array may be longer than the record.
-/
def fields? (format : ConfigFormat) (keys : List String) (value : Json) : Option Json.Fields :=
  match format, value with
  | toml, .array items => Json.fields? keys .refused (.array (items.take keys.length))
  | _, value => value.fields? keys .refused

/-- Whether a value says that a name carries no data. -/
def isUnit : ConfigFormat → Json → Bool
  | json, .null => true
  | toml, .array items => items.isEmpty
  | toml, .object members => members.isEmpty
  | _, _ => false

end ConfigFormat

namespace Strategy

/-- A strategy by its exact name, which may be the only key of an object. -/
def ofRecord? (format : ConfigFormat) : Json → Option Strategy
  | .string name => ofName? name
  | .object [(name, value)] => if format.isUnit value then ofName? name else none
  | _ => none

end Strategy

namespace PathOverride

/-- Adds a rule in the order of the keys; the last rule of a key counts. -/
def insert (rule : PathOverride) : List PathOverride → List PathOverride
  | [] => [rule]
  | other :: rest =>
      if rule.key = other.key then rule :: rest
      else if rule.key < other.key then rule :: other :: rest
      else other :: insert rule rest

/-- Rules as an object from keys to values. -/
def ofRecord? : Json → Option (List PathOverride)
  | .object members => do
      let rules ← members.mapM fun (key, value) => do return ⟨key, ← value.text?⟩
      return rules.foldl (fun sorted rule => insert rule sorted) []
  | _ => none

end PathOverride

namespace PredictionConfig

/-- The keys of the record, in their order. -/
def keys : List String := ["cacheDir", "longParseWarningMs", "concurrency"]

/-- Reads the record. -/
def ofRecord? (format : ConfigFormat) (value : Json) : Option PredictionConfig := do
  match ← format.fields? keys value with
  | [cacheDir, longParseWarning, concurrency] =>
      return {
        cacheDir := ← Json.optional? Path.ofJson? cacheDir
        longParseWarning := ← Json.defaulted? 10000 Json.word64? longParseWarning
        concurrency := ← Json.defaulted? 16 Json.word64? concurrency }
  | _ => none

/-- Writes the record. -/
def toRecord (config : PredictionConfig) : Json :=
  .object [
    ("cacheDir", match config.cacheDir with
      | some path => path.toJson
      | none => .null),
    ("longParseWarningMs", .int config.longParseWarning),
    ("concurrency", .int config.concurrency)]

end PredictionConfig

namespace LoggingConfig

/-- The keys of the record, in their order. -/
def keys : List String := ["level", "json"]

/-- Reads the record. -/
def ofRecord? (format : ConfigFormat) (value : Json) : Option LoggingConfig := do
  match ← format.fields? keys value with
  | [level, json] =>
      return {
        level := ← Json.defaulted? "info" Json.text? level
        json := ← Json.defaulted? false Json.bool? json }
  | _ => none

/-- Writes the record. -/
def toRecord (config : LoggingConfig) : Json :=
  .object [("level", .string config.level), ("json", .bool config.json)]

end LoggingConfig

namespace LaunchConfig

/-- The keys of the record, in their order. -/
def keys : List String :=
  ["rootPath", "outFiles", "breakOnLoadStrategy", "sourceMapPathOverrides", "prediction",
    "logging"]

/-- Reads the record. -/
def ofRecord? (format : ConfigFormat) (value : Json) : Option LaunchConfig := do
  match ← format.fields? keys value with
  | [rootPath, outFiles, strategy, pathOverrides, prediction, logging] =>
      let rootPath ← Json.required? Path.ofJson? rootPath
      let plain : LaunchConfig := { rootPath }
      return {
        rootPath
        outFiles := ← Json.defaulted? plain.outFiles Json.texts? outFiles
        strategy := ← Json.defaulted? .off (Strategy.ofRecord? format) strategy
        pathOverrides := ← Json.defaulted? [] PathOverride.ofRecord? pathOverrides
        prediction := ← Json.defaulted? {} (PredictionConfig.ofRecord? format) prediction
        logging := ← Json.defaulted? {} (LoggingConfig.ofRecord? format) logging }
  | _ => none

/-- Writes the record with every field. -/
def toRecord (config : LaunchConfig) : Json :=
  .object [
    ("rootPath", config.rootPath.toJson),
    ("outFiles", .array (config.outFiles.map .string)),
    ("breakOnLoadStrategy", .string config.strategy.name),
    ("sourceMapPathOverrides",
      .object (config.pathOverrides.map fun rule => (rule.key, .string rule.value))),
    ("prediction", config.prediction.toRecord),
    ("logging", config.logging.toRecord)]

end LaunchConfig

end EarlyBreak
