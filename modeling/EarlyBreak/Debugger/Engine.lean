import EarlyBreak.Debugger.Event

/-! The commands a debugger gives to an engine, and what it may count on: a reply. -/

namespace EarlyBreak.Debugger

/-- The engine's own ways to pause before a script runs. -/
inductive InstrumentationKind where
  | beforeScriptExecution
  | scriptFirstStatement
  deriving DecidableEq, Repr

/-- The name of a kind. -/
def InstrumentationKind.name : InstrumentationKind → String
  | beforeScriptExecution => "beforeScriptExecution"
  | scriptFirstStatement => "scriptFirstStatement"

/-- A breakpoint in every script whose URL matches a pattern. -/
structure UrlBreakpoint where
  pattern : String
  line : Nat
  column : Nat
  deriving DecidableEq, Repr

/-- The breakpoint at the very start of the scripts. -/
def UrlBreakpoint.atEntry (pattern : String) : UrlBreakpoint := ⟨pattern, 0, 0⟩

/-- A command to the engine. -/
inductive Command where
  | setInstrumentation (kind : InstrumentationKind)
  | setBreakpoint (breakpoint : UrlBreakpoint)
  | removeBreakpoint (id : BreakpointId)
  | resume
  deriving DecidableEq, Repr

/-- The kinds of commands. -/
inductive CommandKind where
  | setInstrumentation
  | setBreakpoint
  | removeBreakpoint
  | resume
  deriving DecidableEq, Repr

/-- All kinds of commands. -/
def CommandKind.all : List CommandKind :=
  [setInstrumentation, setBreakpoint, removeBreakpoint, resume]

/-- The name of a kind of commands. -/
def CommandKind.name : CommandKind → String
  | setInstrumentation => "setInstrumentationBreakpoint"
  | setBreakpoint => "setBreakpointByUrl"
  | removeBreakpoint => "removeBreakpoint"
  | resume => "resume"

/-- The kind with a name. -/
def CommandKind.ofName? (name : String) : Option CommandKind := all.find? (·.name == name)

/-- The kind of a command. -/
def Command.kind : Command → CommandKind
  | setInstrumentation _ => .setInstrumentation
  | setBreakpoint _ => .setBreakpoint
  | removeBreakpoint _ => .removeBreakpoint
  | resume => .resume

/-- Why a command failed. -/
structure CommandError where
  code : Int
  reason : String
  deriving DecidableEq, Repr

/-- The text of a failure. -/
def CommandError.message (e : CommandError) : String :=
  "command failed with error code " ++ toString e.code ++ ": " ++ e.reason

/-- What the engine replies.  Only a breakpoint that was set has an id, and not always. -/
abbrev Reply := Except CommandError (Option BreakpointId)

/-- A state that can be given commands. -/
class Engine (σ : Type) where
  perform : Command → σ → Reply × σ

/-- A state that knows the breakpoints the user asked for. -/
class BreakpointManager (σ : Type) where
  /-- The source files that a script was compiled from. -/
  sourcePaths : Script → σ → List String × σ
  /-- Binds the user's breakpoints in a script; answers where the script's breakpoints are. -/
  resolvePending : Script → σ → List Location × σ

end EarlyBreak.Debugger
