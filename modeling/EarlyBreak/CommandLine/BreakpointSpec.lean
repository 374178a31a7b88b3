import EarlyBreak.Prediction.Request
import EarlyBreak.Text.Ascii
import EarlyBreak.Text.Cut

/-! Breakpoints as a user types them: `path:line` or `path:line:column`.  They are read from the
right, so that a path may hold colons.
-/

namespace EarlyBreak.CommandLine

/-- Why a text is no count. -/
inductive CountFault where
  | empty
  | notADigit
  | tooLarge
  deriving DecidableEq, Repr

/-- The text of a fault. -/
def CountFault.message : CountFault → String
  | .empty => "cannot parse integer from empty string"
  | .notADigit => "invalid digit found in string"
  | .tooLarge => "number too large to fit in target type"

/-- Reads further digits behind a count of 32 bits; the first fault from the left is reported. -/
def countFrom (count : Nat) : List Char → Except CountFault Nat
  | [] => .ok count
  | c :: rest =>
      if Text.isAsciiDigit c then
        let more := count * 10 + (c.toNat - '0'.toNat)
        if more < Nat.pow 2 32 then countFrom more rest else .error .tooLarge
      else .error .notADigit

/-- Reads a count of 32 bits, which may have a plus sign. -/
def count? : List Char → Except CountFault Nat
  | [] => .error .empty
  | ['+'] => .error .notADigit
  | '+' :: digits => countFrom 0 digits
  | digits => countFrom 0 digits

/-- Why a text names no breakpoint. -/
inductive SpecFault where
  /-- It holds no colon. -/
  | noColon
  /-- What follows the last colon is no count. -/
  | noPosition (position : String) (cause : CountFault)
  | lineZero
  | columnZero
  deriving DecidableEq, Repr

/-- A text that names no breakpoint. -/
structure SpecError where
  text : String
  fault : SpecFault
  deriving DecidableEq, Repr

/-- The text of an error. -/
def SpecError.message (e : SpecError) : String :=
  let subject := "breakpoint \x60" ++ e.text ++ "\x60 "
  match e.fault with
  | .noColon => subject ++ "must look like path:line[:column]"
  | .noPosition position _ => subject ++ "has a non-numeric position \x60" ++ position ++ "\x60"
  | .lineZero => subject ++ "has line 0; lines are 1-based"
  | .columnZero => subject ++ "has column 0; columns are 1-based"

/-- A breakpoint in a file. -/
structure BreakpointSpec where
  path : Path
  breakpoint : SourceBreakpoint
  deriving DecidableEq, Repr

namespace BreakpointSpec

/-- The path and line in front of a column, if a count stands there. -/
def lineBefore? (head : List Char) : Option (List Char × Nat) := do
  let (path, line) ← Text.splitLast? ':' head
  return (path, ← (count? line).toOption)

/-- The path, line and column that a text consists of. -/
def parts (text : List Char) : Except SpecFault (List Char × Nat × Option Nat) :=
  match Text.splitLast? ':' text with
  | none => .error .noColon
  | some (head, last) =>
      match count? last with
      | .error cause => .error (.noPosition (String.ofList last) cause)
      | .ok position =>
          match lineBefore? head with
          | some (path, line) => .ok (path, line, some position)
          | none => .ok (head, position, none)

/-- Reads a breakpoint.  Its path is seen from the root. -/
def parse (root : Path) (text : String) : Except SpecError BreakpointSpec :=
  match parts text.toList with
  | .error fault => .error ⟨text, fault⟩
  | .ok (path, line, column) =>
      if line = 0 then .error ⟨text, .lineZero⟩
      else if column = some 0 then .error ⟨text, .columnZero⟩
      else .ok ⟨root.join (Path.ofString (String.ofList path)), ⟨line, column⟩⟩

/-- The place that is meant. -/
def location (spec : BreakpointSpec) : FileLocation :=
  ⟨spec.path, spec.breakpoint.line, spec.breakpoint.columnOrFirst⟩

/-- The request for this breakpoint alone. -/
def request (spec : BreakpointSpec) : BreakpointRequest := ⟨some spec.path, [spec.breakpoint]⟩

end BreakpointSpec

end EarlyBreak.CommandLine
