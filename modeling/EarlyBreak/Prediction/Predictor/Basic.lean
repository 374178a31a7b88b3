import EarlyBreak.Cache.Basic
import EarlyBreak.Config.Loader
import EarlyBreak.Prediction.Repository
import EarlyBreak.Prediction.Request
import EarlyBreak.Prediction.SourceIndex

/-! What predicts where breakpoints in sources bind, and what it has learned so far. -/

namespace EarlyBreak

/-- A breakpoint in a source, and where it binds. -/
structure Prediction where
  source : FileLocation
  compiled : FileLocation
  deriving DecidableEq, Repr

/-- A scan that took as long as its threshold. -/
structure LongScan where
  patterns : List String
  /-- Milliseconds. -/
  threshold : Nat
  deriving DecidableEq, Repr

/-- Why a configuration gives no predictor. -/
inductive PredictorError where
  | config (cause : ConfigError)
  | patterns (cause : OutFiles.PatternError)
  | cache (cause : Cache.Error)
  deriving DecidableEq, Repr

/-- The text of an error. -/
def PredictorError.message : PredictorError → String
  | .config cause => cause.message
  | .patterns cause => cause.message
  | .cache cause => "prediction cache: " ++ cause.message

/-- What predictions are made with, and what was learned so far. -/
structure Predictor where
  options : PredictorOptions
  repository : Repository
  resolver : SourceResolver := .fileUrls
  cache : Option Cache := none
  memo : SourceMap.Memo := .empty
  /-- The compiled files whose maps were asked for, in order. -/
  asked : List Path := []
  /-- What the scan found, once it was made. -/
  index : Option SourceIndex := none
  /-- Long scans that nobody was told of. -/
  longScans : List LongScan := []
  /-- All that was predicted, in order. -/
  predictions : List Prediction := []

namespace Predictor

/-- The predictor that a configuration gives, before any cache is opened. -/
def ofConfig? (config : LaunchConfig) : Except PredictorError Predictor := do
  config.validate.mapError .config
  let options := PredictorOptions.ofConfig config
  let _ ← (OutFiles.ofPatterns options.outFiles).mapError .patterns
  let resolver :=
    if config.pathOverrides.isEmpty then .fileUrls
    else .ofOverrides config.rootPath config.resolvedOverrides
  return { options, repository := .folders, resolver }

/-- The predictor that a configuration gives.  The folder of its cache is made if it is missing.
-/
def ofConfig (config : LaunchConfig) (tree : FileTree) (now : Nat) :
    Except PredictorError Predictor × FileTree :=
  match ofConfig? config, config.prediction.cacheDir with
  | .error e, _ => (.error e, tree)
  | .ok predictor, none => (.ok predictor, tree)
  | .ok predictor, some folder =>
      match Cache.openAt folder {} tree now with
      | (.error e, tree) => (.error (.cache e), tree)
      | (.ok cache, tree) => (.ok { predictor with cache := some cache }, tree)

end Predictor

end EarlyBreak
