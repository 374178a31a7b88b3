import EarlyBreak.Text.Cut

/-! The commands of the program and how they are given as arguments. -/

namespace EarlyBreak.CommandLine

/-- What a user asks the program to do. -/
inductive Command where
  | version
  /-- Predict where breakpoints bind, by the configuration at a path. -/
  | predict (path : String) (breakpoints : List String) (asJson : Bool)
  /-- Show the entry patterns of files. -/
  | pattern (files : List String)
  /-- Show the configuration at a path with all its fields. -/
  | config (path : String)
  deriving DecidableEq, Repr

/-- An argument of the command that predicts. -/
inductive PredictArgument where
  | json
  /-- The configuration, unless the next argument is meant. -/
  | config (value : Option String)
  /-- A breakpoint, unless the next argument is meant. -/
  | breakpoint (value : Option String)
  deriving DecidableEq, Repr

/-- What follows a name in an argument: nothing, or a value behind `=`. -/
def valueAfter? (name arg : List Char) : Option (Option String) :=
  match Text.dropStart? name arg with
  | some [] => some none
  | some ('=' :: value) => some (some (String.ofList value))
  | _ => none

/-- A value that is written right behind a letter, with or without `=`. -/
def valueBehind? (name arg : List Char) : Option (Option String) :=
  match Text.dropStart? name arg with
  | some [] => some none
  | some ('=' :: value) | some value => some (some (String.ofList value))
  | none => none

/-- Reads an argument of the command that predicts. -/
def PredictArgument.ofText? (arg : String) : Option PredictArgument :=
  if arg = "--json" then some .json
  else
    ((valueAfter? "--config".toList arg.toList).map .config).or
      (((valueAfter? "--breakpoint".toList arg.toList).map .breakpoint).or
        ((valueBehind? "-b".toList arg.toList).map .breakpoint))

/-- Whether an argument is an option and no value.  A single `-` is a value. -/
def isOption (arg : String) : Bool :=
  match arg.toList with
  | '-' :: _ :: _ => true
  | _ => false

/-- The arguments of the command that predicts, as far as they are read. -/
structure PredictArguments where
  config : Option String := none
  breakpoints : List String := []
  asJson : Bool := false
  deriving DecidableEq, Repr

namespace PredictArguments

/-- Sets the configuration, which may be given once. -/
def setConfig? (args : PredictArguments) (value : String) : Option PredictArguments :=
  if args.config.isSome then none else some { args with config := some value }

/-- Adds a breakpoint. -/
def addBreakpoint (args : PredictArguments) (value : String) : PredictArguments :=
  { args with breakpoints := args.breakpoints ++ [value] }

/-- Asks for JSON, which may be done once. -/
def setJson? (args : PredictArguments) : Option PredictArguments :=
  if args.asJson then none else some { args with asJson := true }

/-- Reads the arguments from left to right. -/
def read? (args : PredictArguments) : List String → Option PredictArguments
  | [] => some args
  | ["--"] => some args
  | arg :: rest =>
      match PredictArgument.ofText? arg, rest with
      | some .json, rest => do (← args.setJson?).read? rest
      | some (.config (some value)), rest => do (← args.setConfig? value).read? rest
      | some (.breakpoint (some value)), rest => (args.addBreakpoint value).read? rest
      | some (.config none), value :: rest =>
          if isOption value then none else do (← args.setConfig? value).read? rest
      | some (.breakpoint none), value :: rest =>
          if isOption value then none else (args.addBreakpoint value).read? rest
      | _, _ => none

end PredictArguments

/-- Arguments that are values; all that follow `--` are. -/
def values? : List String → Option (List String)
  | [] => some []
  | "--" :: rest => some rest
  | arg :: rest => if isOption arg then none else (values? rest).map (arg :: ·)

/-- The command that arguments give. -/
def Command.ofArguments? : List String → Option Command
  | "--version" :: _ | "-V" :: _ => some .version
  | "predict" :: rest => do
      let args ← PredictArguments.read? {} rest
      return .predict (← args.config) args.breakpoints args.asJson
  | "pattern" :: rest => do
      match ← values? rest with
      | [] => none
      | files => return .pattern files
  | "config" :: rest => do
      match ← values? rest with
      | [path] => return .config path
      | _ => none
  | _ => none

end EarlyBreak.CommandLine
