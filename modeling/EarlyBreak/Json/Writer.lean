import EarlyBreak.Json.Basic
import EarlyBreak.Text.Hex

/-! Writing JSON values, on one line or indented.  Strings escape quotes, backslashes and
controls and nothing else.
-/

namespace EarlyBreak.Json

/-- A character inside a string literal. -/
def escapeChar (c : Char) : List Char :=
  if c = '"' then ['\\', '"']
  else if c = '\\' then ['\\', '\\']
  else if c = '\x08' then ['\\', 'b']
  else if c = '\x0c' then ['\\', 'f']
  else if c = '\n' then ['\\', 'n']
  else if c = '\r' then ['\\', 'r']
  else if c = '\t' then ['\\', 't']
  else if c.toNat < 0x20 then
    ['\\', 'u', '0', '0', Text.lowerHexDigit (c.toNat / 16), Text.lowerHexDigit (c.toNat % 16)]
  else [c]

/-- A string literal. -/
def quote (s : String) : String :=
  String.ofList ('"' :: s.toList.flatMap escapeChar ++ ['"'])

mutual

/-- The value on one line. -/
def compact : Json → String
  | null => "null"
  | bool true => "true"
  | bool false => "false"
  | int n => toString n
  | real literal => literal
  | string s => quote s
  | array items => "[" ++ ",".intercalate (compactItems items) ++ "]"
  | object members => "\x7b" ++ ",".intercalate (compactMembers members) ++ "\x7d"
  | unreadable => "null"

/-- The items on one line each. -/
def compactItems : List Json → List String
  | [] => []
  | item :: items => compact item :: compactItems items

/-- The members on one line each. -/
def compactMembers : List (String × Json) → List String
  | [] => []
  | (key, value) :: members => (quote key ++ ":" ++ compact value) :: compactMembers members

end

/-- The start of a line at a nesting depth: a line end and two blanks for each level. -/
def newLine (depth : Nat) : String := "\n" ++ String.ofList (List.replicate (2 * depth) ' ')

mutual

/-- The value over several lines, starting at a nesting depth. -/
def indentedFrom (depth : Nat) : Json → String
  | array [] => "[]"
  | array (item :: items) =>
      "[" ++ ",".intercalate (indentedItems (depth + 1) (item :: items)) ++ newLine depth ++ "]"
  | object [] => "\x7b\x7d"
  | object (member :: members) =>
      "\x7b" ++ ",".intercalate (indentedMembers (depth + 1) (member :: members))
        ++ newLine depth ++ "\x7d"
  | value => compact value

/-- The items, each on a line of its own. -/
def indentedItems (depth : Nat) : List Json → List String
  | [] => []
  | item :: items => (newLine depth ++ indentedFrom depth item) :: indentedItems depth items

/-- The members, each on a line of its own. -/
def indentedMembers (depth : Nat) : List (String × Json) → List String
  | [] => []
  | (key, value) :: members =>
      (newLine depth ++ quote key ++ ": " ++ indentedFrom depth value)
        :: indentedMembers depth members

end

/-- The value over several lines. -/
def indented (value : Json) : String := indentedFrom 0 value

end EarlyBreak.Json
