import EarlyBreak.Text.Ascii
import EarlyBreak.Text.Blank

/-! How scripts are kept from running before their breakpoints are bound. -/

namespace EarlyBreak

/-- How scripts are kept from running before their breakpoints are bound. -/
inductive Strategy where
  /-- Nothing is installed. -/
  | off
  /-- The target pauses at the first statement of every script. -/
  | instrument
  /-- A breakpoint by file name pattern is installed for every requested source. -/
  | regex
  deriving DecidableEq, Repr, Inhabited

namespace Strategy

/-- The name of a strategy. -/
def name : Strategy → String
  | off => "off"
  | instrument => "instrument"
  | regex => "regex"

/-- The strategy with a name. -/
def ofName? (name : String) : Option Strategy :=
  [off, instrument, regex].find? (·.name == name)

/-- A text without white space around it and with ASCII letters in lower case. -/
def fold (s : String) : String :=
  String.ofList ((Text.trimChars Text.isBlank s.toList).map Text.lowerAscii)

/-- The strategy that a text names, whatever its case; the folded text if it names none. -/
def parse (s : String) : Except String Strategy :=
  match ofName? (fold s) with
  | some strategy => .ok strategy
  | none => .error (fold s)

end Strategy

end EarlyBreak
