import EarlyBreak.Json.Basic
import EarlyBreak.Text.Ascii
import EarlyBreak.Text.Cut
import EarlyBreak.Text.Hex

/-! Reading JSON texts.  A value the grammar admits is always read; what it cannot hold becomes
`unreadable`, so that members nobody asks for do no harm.
-/

namespace EarlyBreak.Json

/-- White space of the grammar. -/
def isSpace (c : Char) : Bool := c == ' ' || c == '\n' || c == '\t' || c == '\r'

/-- A text without its leading white space. -/
def skipSpace (s : List Char) : List Char := s.dropWhile isSpace

/-- A piece of a string literal: a character, or the code unit of a `\u` escape. -/
inductive Piece where
  | char (c : Char)
  | unit (value : Nat)

/-- The value of four hexadecimal digits and what follows them. -/
def fourDigits? : List Char → Option (Nat × List Char)
  | a :: b :: c :: d :: rest => do
      let a ← Text.hexValue? a
      let b ← Text.hexValue? b
      let c ← Text.hexValue? c
      let d ← Text.hexValue? d
      return (a * 4096 + b * 256 + c * 16 + d, rest)
  | _ => none

/-- The character of a one-letter escape. -/
def simpleEscape? (c : Char) : Option Char :=
  [('"', '"'), ('\\', '\\'), ('/', '/'), ('b', '\x08'), ('f', '\x0c'), ('n', '\n'),
    ('r', '\r'), ('t', '\t')].lookup c

/-- The pieces of a string literal up to its closing quote, and what follows that. -/
def pieces? : Nat → List Char → Option (List Piece × List Char)
  | 0, _ => none
  | _ + 1, [] => none
  | _ + 1, '"' :: rest => some ([], rest)
  | fuel + 1, '\\' :: 'u' :: rest => do
      let (value, rest) ← fourDigits? rest
      let (pieces, rest) ← pieces? fuel rest
      return (.unit value :: pieces, rest)
  | fuel + 1, '\\' :: c :: rest => do
      let c ← simpleEscape? c
      let (pieces, rest) ← pieces? fuel rest
      return (.char c :: pieces, rest)
  | _ + 1, ['\\'] => none
  | fuel + 1, c :: rest =>
      if c.toNat < 0x20 then none
      else do
        let (pieces, rest) ← pieces? fuel rest
        return (.char c :: pieces, rest)

/-- The characters of a literal; half a surrogate pair makes none. -/
def characters? : List Piece → Option (List Char)
  | [] => some []
  | .char c :: rest => (characters? rest).map (c :: ·)
  | .unit high :: .unit low :: rest =>
      if 0xD800 ≤ high ∧ high < 0xDC00 then
        if 0xDC00 ≤ low ∧ low < 0xE000 then
          (characters? rest).map
            (Char.ofNat (0x10000 + (high - 0xD800) * 0x400 + (low - 0xDC00)) :: ·)
        else none
      else if 0xDC00 ≤ high ∧ high < 0xE000 then none
      else (characters? (.unit low :: rest)).map (Char.ofNat high :: ·)
  | .unit value :: rest =>
      if 0xD800 ≤ value ∧ value < 0xE000 then none
      else (characters? rest).map (Char.ofNat value :: ·)

/-- The parts of a number literal. -/
structure NumberParts where
  negative : Bool
  whole : List Char
  /-- Digits after the point. -/
  fraction : Option (List Char)
  /-- Sign and digits of the exponent. -/
  exponent : Option (Bool × List Char)

/-- The fraction of a number, if a point follows. -/
def fraction? (s : List Char) : Option (Option (List Char) × List Char) :=
  match s with
  | '.' :: rest =>
      match rest.span Text.isAsciiDigit with
      | ([], _) => none
      | (digits, rest) => some (some digits, rest)
  | s => some (none, s)

/-- The digits of an exponent. -/
def exponentDigits? (negative : Bool) (s : List Char) :
    Option (Option (Bool × List Char) × List Char) :=
  match s.span Text.isAsciiDigit with
  | ([], _) => none
  | (digits, rest) => some (some (negative, digits), rest)

/-- The exponent of a number, if its letter follows. -/
def exponent? (s : List Char) : Option (Option (Bool × List Char) × List Char) :=
  match s with
  | 'e' :: '-' :: rest | 'E' :: '-' :: rest => exponentDigits? true rest
  | 'e' :: '+' :: rest | 'E' :: '+' :: rest => exponentDigits? false rest
  | 'e' :: rest | 'E' :: rest => exponentDigits? false rest
  | s => some (none, s)

/-- A number literal and what follows it.  The whole part has no leading zero. -/
def numberParts? (s : List Char) : Option (NumberParts × List Char) := do
  let (negative, s) := match s with
    | '-' :: rest => (true, rest)
    | s => (false, s)
  let (whole, rest) := s.span Text.isAsciiDigit
  match whole with
  | [] => none
  | '0' :: _ :: _ => none
  | whole =>
      let (fraction, rest) ← fraction? rest
      let (exponent, rest) ← exponent? rest
      return (⟨negative, whole, fraction, exponent⟩, rest)

/-- The number that a list of digits spells. -/
def digitsValue (digits : List Char) : Nat :=
  digits.foldl (fun n c => n * 10 + (c.toNat - '0'.toNat)) 0

/-- A number of 64 bits with digits appended for as long as it stays one, and the digits left. -/
def appendDigits (n : Nat) : List Char → Nat × List Char
  | [] => (n, [])
  | c :: rest =>
      let next := n * 10 + (c.toNat - '0'.toNat)
      if next < Nat.pow 2 64 then appendDigits next rest else (n, c :: rest)

/-- The digits of a number that are kept, as many as 64 bits hold, and the power of ten that they
count.  Digits left over of the whole part only raise the power.
-/
def NumberParts.significand (p : NumberParts) : Nat × Int :=
  let fraction := p.fraction.getD []
  let (whole, wholeLeft) := appendDigits 0 p.whole
  let (digits, fractionLeft) := appendDigits whole fraction
  let exponent : Int := match p.exponent with
    | some (true, digits) => -digitsValue digits
    | some (false, digits) => digitsValue digits
    | none => 0
  (digits, exponent + wholeLeft.length - (fraction.length - fractionLeft.length : Nat))

/-- The nearest number with 53 binary digits, of two equally near ones the even one. -/
def nearestDouble (n : Nat) : Nat :=
  let unit := Nat.pow 2 (n.log2 + 1 - 53)
  let (whole, rest) := (n / unit, n % unit)
  if unit < 2 * rest ∨ (unit = 2 * rest ∧ whole % 2 = 1) then (whole + 1) * unit
  else whole * unit

/-- The largest power of ten that is a double-precision number. -/
def maxPower : Nat := 308

/-- Whether a number is beyond double precision: the kept digits and their power of ten are
rounded each by itself, and then multiplied.
-/
def NumberParts.isBeyondRange (p : NumberParts) : Bool :=
  let (digits, exponent) := p.significand
  if digits = 0 ∨ exponent < 0 then false
  else if maxPower < exponent then true
  else doubleBound ≤ nearestDouble digits * nearestDouble (Nat.pow 10 exponent.toNat)

/-- Whether a character may stand in a number literal. -/
def isNumberChar (c : Char) : Bool :=
  Text.isAsciiDigit c || ['+', '-', '.', 'e', 'E'].contains c

/-- The value of a number literal with the given text. -/
def NumberParts.value (p : NumberParts) (literal : List Char) : Json :=
  let whole := digitsValue p.whole
  let isInteger := p.fraction.isNone && p.exponent.isNone
  if isInteger && p.negative && 0 < whole && whole ≤ Nat.pow 2 63 then .int (-whole)
  else if isInteger && !p.negative && whole < Nat.pow 2 64 then .int whole
  else if p.isBeyondRange then .unreadable
  else .real (String.ofList literal)

mutual

/-- A value at the start of a text, and what follows it. -/
def readValue? : Nat → List Char → Option (Json × List Char)
  | 0, _ => none
  | fuel + 1, s =>
      match skipSpace s with
      | '"' :: rest => do
          let (pieces, rest) ← pieces? (rest.length + 1) rest
          return (match characters? pieces with
            | some chars => .string (String.ofList chars)
            | none => .unreadable, rest)
      | '[' :: rest =>
          match skipSpace rest with
          | ']' :: rest => some (.array [], rest)
          | _ => do
              let (items, rest) ← readItems? fuel rest
              return (.array items, rest)
      | '\x7b' :: rest =>
          match skipSpace rest with
          | '\x7d' :: rest => some (.object [], rest)
          | _ => do
              let (members, rest) ← readMembers? fuel rest
              return (match members with
                | some members => .object members
                | none => .unreadable, rest)
      | 'n' :: 'u' :: 'l' :: 'l' :: rest => some (.null, rest)
      | 't' :: 'r' :: 'u' :: 'e' :: rest => some (.bool true, rest)
      | 'f' :: 'a' :: 'l' :: 's' :: 'e' :: rest => some (.bool false, rest)
      | s => do
          let (parts, rest) ← numberParts? s
          return (parts.value (s.takeWhile isNumberChar), rest)

/-- The items of an array that has some, up to its closing bracket. -/
def readItems? : Nat → List Char → Option (List Json × List Char)
  | 0, _ => none
  | fuel + 1, s => do
      let (item, rest) ← readValue? fuel s
      match skipSpace rest with
      | ',' :: rest =>
          let (items, rest) ← readItems? fuel rest
          return (item :: items, rest)
      | ']' :: rest => return ([item], rest)
      | _ => none

/-- The members of an object that has some, up to its closing brace; `none` among them if one of
the keys cannot be held.
-/
def readMembers? : Nat → List Char → Option (Option (List (String × Json)) × List Char)
  | 0, _ => none
  | fuel + 1, s =>
      match skipSpace s with
      | '"' :: rest => do
          let (pieces, rest) ← pieces? (rest.length + 1) rest
          let key := (characters? pieces).map String.ofList
          match skipSpace rest with
          | ':' :: rest =>
              let (value, rest) ← readValue? fuel rest
              let head := key.map fun key => (key, value)
              match skipSpace rest with
              | ',' :: rest =>
                  let (members, rest) ← readMembers? fuel rest
                  return (do return (← head) :: (← members), rest)
              | '\x7d' :: rest => return (head.map ([·]), rest)
              | _ => none
          | _ => none
      | _ => none

end

/-- The value of a text that is one JSON value and white space. -/
def parse? (s : String) : Option Json :=
  match readValue? (s.length + 1) s.toList with
  | some (value, rest) => if (skipSpace rest).isEmpty then some value else none
  | none => none

end EarlyBreak.Json
