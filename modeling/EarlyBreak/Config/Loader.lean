import EarlyBreak.Config.Record
import EarlyBreak.FileTree.Access
import EarlyBreak.Json.Reader
import EarlyBreak.Toml.Reader

/-! Loading configurations and checking them. -/

namespace EarlyBreak

/-- Why a configuration was refused. -/
inductive ConfigError where
  | io (path : Path) (cause : IoError)
  /-- The text is no configuration in TOML. -/
  | toml
  /-- The text is no configuration in JSON. -/
  | json
  | unsupportedFormat (path : Path)
  | invalidPattern (pattern : String) (fault : Glob.Fault)
  | emptyRoot
  | noConcurrency
  | unknownStrategy (name : String)
  deriving DecidableEq, Repr

/-- The text of an error.  Errors of the grammar have no text of their own. -/
def ConfigError.message : ConfigError → String
  | .io path cause => "failed to read config file " ++ path.text ++ ": " ++ cause.message
  | .toml => "failed to parse toml config: "
  | .json => "failed to parse json config: "
  | .unsupportedFormat path =>
      "unsupported config format for " ++ path.text ++ " (expected .toml or .json)"
  | .invalidPattern pattern fault =>
      "invalid outFiles pattern " ++ Text.quoted pattern ++ ": " ++ fault.message
  | .emptyRoot => "invalid config: \x60rootPath\x60 must not be empty"
  | .noConcurrency => "invalid config: \x60prediction.concurrency\x60 must be at least 1"
  | .unknownStrategy name =>
      "invalid config: unknown break-on-load strategy " ++ Text.quoted name

namespace Strategy

/-- The strategy that a user names. -/
def ofText (s : String) : Except ConfigError Strategy := (parse s).mapError .unknownStrategy

end Strategy

namespace LaunchConfig

/-- Checks a pattern of compiled files as it is written. -/
def checkPattern (pattern : String) : Except ConfigError Unit :=
  match Glob.parse (OutFiles.polarity pattern).2 with
  | .ok _ => .ok ()
  | .error fault => .error (.invalidPattern pattern fault)

/-- Checks a configuration; the first fault found is reported. -/
def validate (config : LaunchConfig) : Except ConfigError Unit := do
  if config.rootPath.bytes = [] then throw .emptyRoot
  if config.prediction.concurrency = 0 then throw .noConcurrency
  config.outFiles.forM checkPattern

/-- The configuration that a value describes, checked. -/
def ofValue (format : ConfigFormat) (fault : ConfigError) (value : Option Json) :
    Except ConfigError LaunchConfig :=
  match value.bind (ofRecord? format) with
  | none => .error fault
  | some config => config.validate.map fun _ => config

/-- The configuration that a text describes, checked. -/
def ofText (format : ConfigFormat) (text : String) : Except ConfigError LaunchConfig :=
  match format with
  | .json => ofValue .json .json (Json.parse? text)
  | .toml => ofValue .toml .toml (Toml.parse? text)

/-- The format that a file's extension names. -/
def formatOf? (path : Path) : Option ConfigFormat := do
  let extension := (← Text.ofBytes? (← path.extension?)).toList
  if Text.sameIgnoringAsciiCase extension "toml".toList then some .toml
  else if Text.sameIgnoringAsciiCase extension "json".toList then some .json
  else none

/-- The configuration in a file, checked. -/
def load (tree : FileTree) (path : Path) : Except ConfigError LaunchConfig :=
  match tree.readText? path with
  | .error e => .error (.io path e)
  | .ok text =>
      match formatOf? path with
      | some format => ofText format text
      | none => .error (.unsupportedFormat path)

end LaunchConfig

end EarlyBreak
