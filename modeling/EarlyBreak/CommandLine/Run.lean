import EarlyBreak.CommandLine.Command
import EarlyBreak.CommandLine.Failure
import EarlyBreak.CommandLine.Report
import EarlyBreak.Entry.Pattern

/-! Running a command on a tree of files. -/

namespace EarlyBreak.CommandLine

/-- What a run leaves behind. -/
structure Outcome where
  /-- Zero, one if a breakpoint binds nowhere, or two after a failure. -/
  code : Nat
  output : String
  errors : String
  deriving DecidableEq, Repr

namespace Outcome

/-- An outcome of lines of output. -/
def ofLines (code : Nat) (lines : List String) : Outcome :=
  ⟨code, String.join (lines.map (· ++ "\n")), ""⟩

/-- An outcome of a failure. -/
def ofFailure (e : Failure) : Outcome := ⟨2, "", e.message ++ "\n"⟩

end Outcome

/-- The configuration at a path. -/
def loadConfig (tree : FileTree) (path : Path) : Except Failure LaunchConfig :=
  (LaunchConfig.load tree path).mapError (.config path)

/-- Predicts breakpoints one after the other. -/
def predictEach (now : Nat) : List BreakpointSpec → Predictor → FileTree → List PredictedBreakpoint
  | [], _, _ => []
  | spec :: rest, predictor, tree =>
      let (predictor, tree) := predictor.predict tree now spec.request
      ⟨spec.location, predictor.predicted spec.location⟩ :: predictEach now rest predictor tree

/-- The report on breakpoints. -/
def reportOn (config : LaunchConfig) (specs : List BreakpointSpec) (predictor : Predictor)
    (tree : FileTree) (now : Nat) : Report :=
  let (index, predictor, tree) := predictor.prepare tree now
  { rootPath := config.rootPath
    strategy := config.strategy
    indexedSources := index.size
    elapsed := predictor.repository.duration
    breakpoints := predictEach now specs predictor tree }

/-- The report on the breakpoints that a user names. -/
def reportFor (tree : FileTree) (now : Nat) (path : Path) (breakpoints : List String) :
    Except Failure Report := do
  let config ← loadConfig tree path
  let specs ← (breakpoints.mapM (BreakpointSpec.parse config.rootPath)).mapError .breakpoint
  let (predictor, tree) := Predictor.ofConfig config tree now
  return reportOn config specs (← predictor.mapError .predictor) tree now

/-- The outcome of a report. -/
def Report.outcome (report : Report) (asJson : Bool) : Outcome :=
  .ofLines (if report.hasUnresolved then 1 else 0)
    (if asJson then [report.toJson.indented] else report.lines)

/-- What a command makes of a computation that may fail. -/
def outcomeOf {α : Type} (use : α → Outcome) : Except Failure α → Outcome
  | .ok value => use value
  | .error e => .ofFailure e

/-- The outcome of a command on a tree of files at a time. -/
def Command.run (tree : FileTree) (now : Nat) : Command → Outcome
  | .version => .ofLines 0 ["jsdbg " ++ Cache.programVersion]
  | .pattern files => .ofLines 0 (files.map Entry.pattern)
  | .config path =>
      outcomeOf (fun config => .ofLines 0 [config.toRecord.indented])
        (loadConfig tree (Path.ofString path))
  | .predict path breakpoints asJson =>
      outcomeOf (·.outcome asJson) (reportFor tree now (Path.ofString path) breakpoints)

end EarlyBreak.CommandLine
