import EarlyBreak.CommandLine.BreakpointSpec
import EarlyBreak.Prediction.Predictor

/-! Why a command fails, told with all causes. -/

namespace EarlyBreak

/-- The texts of an error and of its causes, outermost first. -/
def ConfigError.causes (e : ConfigError) : List String :=
  e.message :: match e with
    | .io _ cause => [cause.message]
    | _ => []

/-- The texts of an error and of its causes, outermost first. -/
def OutFiles.PatternError.causes (e : OutFiles.PatternError) : List String :=
  [e.message, e.cause]

/-- The texts of an error and of its causes, outermost first. -/
def Cache.Error.causes (e : Cache.Error) : List String :=
  e.message :: match e with
    | .io cause => [cause.message]
    | .encoding cause => [cause.message]
    | .notADirectory _ => []

/-- The texts of an error and of its causes, outermost first. -/
def PredictorError.causes (e : PredictorError) : List String :=
  match e with
  | .config cause => cause.causes
  | .patterns cause => cause.causes
  | .cache cause => e.message :: cause.causes

namespace CommandLine

/-- The texts of an error and of its causes, outermost first. -/
def SpecError.causes (e : SpecError) : List String :=
  e.message :: match e.fault with
    | .noPosition _ cause => [cause.message]
    | _ => []

/-- Why a command fails. -/
inductive Failure where
  | config (path : Path) (cause : ConfigError)
  | breakpoint (cause : SpecError)
  | predictor (cause : PredictorError)
  deriving DecidableEq, Repr

namespace Failure

/-- The texts of a failure and of its causes, outermost first. -/
def causes : Failure → List String
  | config path cause => ("invalid launch configuration " ++ path.text) :: cause.causes
  | breakpoint cause => cause.causes
  | predictor cause => cause.causes

/-- The text of a failure with all its causes. -/
def message (e : Failure) : String := ": ".intercalate e.causes

end Failure

end CommandLine

end EarlyBreak
