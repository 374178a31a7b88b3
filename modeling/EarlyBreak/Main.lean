import EarlyBreak.CommandLine.Run
import EarlyBreak.CommandLine.Workspace
import EarlyBreak.Json.Reader

/-! The program.  Its arguments give a command, and a line of standard input gives the workspace;
an empty line gives a workspace without files.
-/

open EarlyBreak EarlyBreak.CommandLine

/-- What is shown of the arguments when they give no command. -/
def usage : String :=
  "usage: jsdbg --version | pattern FILE... | config PATH\n"
    ++ "       | predict --config PATH [--breakpoint PATH:LINE[:COLUMN]]... [--json]\n"

/-- Shows an outcome. -/
def report (outcome : Outcome) : IO UInt32 := do
  IO.print outcome.output
  IO.eprint outcome.errors
  return outcome.code.toUInt32

/-- The workspace that a line describes. -/
def workspaceOf? (line : String) : Option Workspace :=
  if line.trimAscii.isEmpty then some .empty
  else (Json.parse? line).bind Workspace.ofJson?

/-- Runs the command that the arguments give. -/
def main (args : List String) : IO UInt32 := do
  match Command.ofArguments? args with
  | none => report ⟨2, "", usage⟩
  | some command =>
      match workspaceOf? (← (← IO.getStdin).getLine) with
      | none => report ⟨2, "", "no workspace on standard input\n"⟩
      | some workspace => report (command.run workspace.tree workspace.now)
