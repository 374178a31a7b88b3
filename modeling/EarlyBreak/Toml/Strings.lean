import EarlyBreak.Text.Hex

/-! The four kinds of TOML strings, and the characters that end a line or stand between words. -/

namespace EarlyBreak.Toml

/-- A blank within a line. -/
def isSpace (c : Char) : Bool := c == ' ' || c == '\t'

/-- Whether a character may stand in a comment or string: no control but the tab. -/
def isPlain (c : Char) : Bool := c == '\t' || (0x20 ≤ c.toNat && c.toNat != 0x7F)

/-- What follows a line end. -/
def newLine? : List Char → Option (List Char)
  | '\n' :: rest => some rest
  | '\r' :: '\n' :: rest => some rest
  | _ => none

/-- The value of hexadecimal digits. -/
def hexNumber? (digits : List Char) : Option Nat :=
  digits.foldlM (fun n c => (Text.hexValue? c).map (n * 16 + ·)) 0

/-- The character with a code point. -/
def charOf? (n : Nat) : Option Char := if n.isValidChar then some (Char.ofNat n) else none

/-- The character that an escape stands for, after its backslash, and what follows it. -/
def escape? : List Char → Option (Char × List Char)
  | 'b' :: rest => some ('\x08', rest)
  | 'f' :: rest => some ('\x0c', rest)
  | 'n' :: rest => some ('\n', rest)
  | 'r' :: rest => some ('\r', rest)
  | 't' :: rest => some ('\t', rest)
  | '"' :: rest => some ('"', rest)
  | '\\' :: rest => some ('\\', rest)
  | 'u' :: a :: b :: c :: d :: rest => do
      return (← charOf? (← hexNumber? [a, b, c, d]), rest)
  | 'U' :: a :: b :: c :: d :: e :: f :: g :: h :: rest => do
      return (← charOf? (← hexNumber? [a, b, c, d, e, f, g, h]), rest)
  | _ => none

/-- The text after blanks and line ends. -/
def skipWhite : List Char → List Char
  | [] => []
  | '\r' :: '\n' :: rest => skipWhite rest
  | c :: rest => if isSpace c || c == '\n' then skipWhite rest else c :: rest

/-- A string on one line up to its quote, with escapes. -/
def basic? : Nat → List Char → Option (List Char × List Char)
  | 0, _ | _, [] => none
  | fuel + 1, c :: rest =>
      if c = '"' then some ([], rest)
      else if c = '\\' then do
        let (c, rest) ← escape? rest
        let (text, rest) ← basic? fuel rest
        return (c :: text, rest)
      else if isPlain c then do
        let (text, rest) ← basic? fuel rest
        return (c :: text, rest)
      else none

/-- A string on one line up to its quote, without escapes. -/
def literal? : List Char → Option (List Char × List Char)
  | [] => none
  | c :: rest =>
      if c = '\'' then some ([], rest)
      else if isPlain c then do
        let (text, rest) ← literal? rest
        return (c :: text, rest)
      else none

/-- The quotes that belong to a string in front of its closing three, when these have just been
read: up to two more that follow.
-/
def extraQuotes (quote : Char) : List Char → List Char × List Char
  | a :: b :: rest =>
      if a = quote then if b = quote then ([a, b], rest) else ([a], b :: rest)
      else ([], a :: b :: rest)
  | [a] => if a = quote then ([a], []) else ([], [a])
  | [] => ([], [])

/-- What follows a backslash at the end of a line: all white space up to the next character. -/
def foldedLine? (s : List Char) : Option (List Char) :=
  (newLine? (s.dropWhile isSpace)).map skipWhite

/-- A string of several lines up to its three quotes.  Escapes count if `escapes`. -/
def block? (quote : Char) (escapes : Bool) : Nat → List Char → Option (List Char × List Char)
  | 0, _ | _, [] => none
  | fuel + 1, c :: rest =>
      if c = quote then
        match rest with
        | second :: third :: after =>
            if second = quote ∧ third = quote then some (extraQuotes quote after)
            else do
              let (text, rest) ← block? quote escapes fuel rest
              return (c :: text, rest)
        | _ => none
      else if escapes ∧ c = '\\' then
        match foldedLine? rest with
        | some rest => block? quote escapes fuel rest
        | none => do
            let (c, rest) ← escape? rest
            let (text, rest) ← block? quote escapes fuel rest
            return (c :: text, rest)
      else
        match newLine? (c :: rest) with
        | some rest => do
            let (text, rest) ← block? quote escapes fuel rest
            return ('\n' :: text, rest)
        | none =>
            if isPlain c then do
              let (text, rest) ← block? quote escapes fuel rest
              return (c :: text, rest)
            else none

/-- A string of several lines after its opening quotes.  A line end right there is dropped. -/
def blockBody? (quote : Char) (escapes : Bool) (s : List Char) :
    Option (List Char × List Char) :=
  let s := (newLine? s).getD s
  block? quote escapes (s.length + 1) s

/-- A string of any kind, and what follows it. -/
def string? : List Char → Option (String × List Char)
  | '"' :: '"' :: '"' :: rest => do
      let (text, rest) ← blockBody? '"' true rest
      return (String.ofList text, rest)
  | '"' :: rest => do
      let (text, rest) ← basic? (rest.length + 1) rest
      return (String.ofList text, rest)
  | '\'' :: '\'' :: '\'' :: rest => do
      let (text, rest) ← blockBody? '\'' false rest
      return (String.ofList text, rest)
  | '\'' :: rest => do
      let (text, rest) ← literal? rest
      return (String.ofList text, rest)
  | _ => none

end EarlyBreak.Toml
