import EarlyBreak.Debugger.Engine
import EarlyBreak.Index

/-! A target to try a debugger on: its engine installs breakpoints and can be told to fail, and all
that it is asked is written down.
-/

namespace EarlyBreak.Debugger

/-- How the engine answers when a breakpoint is set. -/
inductive BreakpointMode where
  | succeeds
  /-- It accepts the breakpoint and hands out no id. -/
  | withoutId
  | fails
  deriving DecidableEq, Repr

/-- A simulated target. -/
structure Simulation where
  /-- How many ids have been handed out. -/
  issued : Nat := 0
  installed : Index BreakpointId UrlBreakpoint := []
  mode : BreakpointMode := .succeeds
  /-- The kinds of commands that fail before they reach the engine. -/
  failing : List CommandKind := []
  /-- The source paths of the scripts, by URL. -/
  sources : Index String (List String) := []
  /-- Where the breakpoints of the scripts are bound, by URL. -/
  bound : Index String (List Location) := []
  /-- The commands so far, in order, and how each failed if it did. -/
  calls : List (Command × Option CommandError) := []
  /-- The scripts whose breakpoints had to be bound so far, in order. -/
  asked : List Script := []
  /-- The events that the engine has sent and nobody has taken yet. -/
  sent : List Event := []

namespace Simulation

/-- The code of every failure. -/
def failureCode : Int := -32000

/-- The id of the next breakpoint: its number, place and pattern. -/
def nextId (target : Simulation) (breakpoint : UrlBreakpoint) : BreakpointId :=
  toString (target.issued + 1) ++ ":" ++ toString breakpoint.line ++ ":"
    ++ toString breakpoint.column ++ ":" ++ breakpoint.pattern

/-- What the engine does on a command that reaches it. -/
def reach (target : Simulation) : Command → Reply × Simulation
  | .setInstrumentation _ => (.ok none, target)
  | .setBreakpoint breakpoint =>
      match target.mode with
      | .fails => (.error ⟨failureCode, "mock setBreakpointByUrl failure"⟩, target)
      | .withoutId => (.ok none, target)
      | .succeeds =>
          let id := target.nextId breakpoint
          (.ok (some id), { target with
            issued := target.issued + 1
            installed := target.installed.set id breakpoint })
  | .removeBreakpoint id =>
      if target.installed.has id then
        (.ok none, { target with installed := target.installed.unset id })
      else (.error ⟨failureCode, "no breakpoint with id " ++ id⟩, target)
  | .resume => (.ok none, { target with sent := target.sent ++ [.resumed] })

/-- What the target does on a command. -/
def perform (command : Command) (target : Simulation) : Reply × Simulation :=
  let (reply, after) :=
    if target.failing.contains command.kind then
      (.error ⟨failureCode, command.kind.name ++ " failed"⟩, target)
    else target.reach command
  let failure := match reply with
    | .ok _ => none
    | .error e => some e
  (reply, { after with calls := after.calls ++ [(command, failure)] })

instance : Engine Simulation := ⟨perform⟩

instance : BreakpointManager Simulation where
  sourcePaths script target := ((target.sources.find? script.url).getD [], target)
  resolvePending script target :=
    ((target.bound.find? script.url).getD [], { target with asked := target.asked ++ [script] })

end Simulation

end EarlyBreak.Debugger
