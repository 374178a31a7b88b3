import EarlyBreak.Json.Basic
import EarlyBreak.Text.Ascii
import EarlyBreak.Text.Hex

/-! TOML numbers, dates and times. -/

namespace EarlyBreak.Toml

/-- Further digits after a first one.  A single underscore may stand between two digits. -/
def moreDigits (isDigit : Char → Bool) : List Char → List Char × List Char
  | [] => ([], [])
  | '_' :: c :: rest =>
      if isDigit c then
        let (digits, rest) := moreDigits isDigit rest
        (c :: digits, rest)
      else ([], '_' :: c :: rest)
  | c :: rest =>
      if isDigit c then
        let (digits, rest) := moreDigits isDigit rest
        (c :: digits, rest)
      else ([], c :: rest)

/-- Digits without their underscores, at least one, and what follows them. -/
def digits? (isDigit : Char → Bool) : List Char → Option (List Char × List Char)
  | [] => none
  | c :: rest =>
      if isDigit c then
        let (digits, rest) := moreDigits isDigit rest
        some (c :: digits, rest)
      else none

/-- The number that digits spell in a base. -/
def numberIn (base : Nat) (digits : List Char) : Nat :=
  digits.foldl (fun n c => n * base + (Text.hexValue? c).getD 0) 0

/-- A sign, and what follows it. -/
def sign : List Char → Option Char × List Char
  | '+' :: rest => (some '+', rest)
  | '-' :: rest => (some '-', rest)
  | s => (none, s)

/-- Decimal digits without a leading zero. -/
def decimal? : List Char → Option (List Char × List Char)
  | '0' :: rest => some (['0'], rest)
  | s => digits? Text.isAsciiDigit s

/-- An integer of 64 bits. -/
def integer? (value : Int) : Option Json :=
  if -(Nat.pow 2 63 : Nat) ≤ value ∧ value < (Nat.pow 2 63 : Nat) then some (.int value) else none

/-- An integer in a base other than ten. -/
def basedInteger? (base : Nat) (s : List Char) : Option (Json × List Char) := do
  let isDigit (c : Char) := match Text.hexValue? c with
    | some n => decide (n < base)
    | none => false
  let (digits, rest) ← digits? isDigit s
  return (← integer? (numberIn base digits), rest)

/-- The power of ten that an exponent gives, and what follows the exponent. -/
def exponent? : List Char → Option (Int × List Char)
  | 'e' :: rest | 'E' :: rest => do
      let (mark, unsigned) := sign rest
      let (digits, rest) ← digits? Text.isAsciiDigit unsigned
      let power : Int := numberIn 10 digits
      return (if mark = some '-' then -power else power, rest)
  | _ => none

/-- The digits of a fraction and the power of ten of an exponent, one of the two at least, and what
follows them.
-/
def fraction? : List Char → Option (List Char × Int × List Char)
  | '.' :: rest => do
      let (digits, rest) ← digits? Text.isAsciiDigit rest
      match rest with
      | 'e' :: _ | 'E' :: _ => return (digits, ← exponent? rest)
      | rest => return (digits, 0, rest)
  | s => return ([], ← exponent? s)

/-- The number of decimal digits of `Json.doubleBound`. -/
def doubleBoundLength : Nat := 309

/-- Whether a number times a power of ten reaches `Json.doubleBound`.  Away from that length the
count of the digits settles it, so no large power is computed.
-/
def reachesDoubleBound (n : Nat) (power : Int) : Bool :=
  let length := (Nat.toDigits 10 n).length + power
  if n = 0 ∨ length < doubleBoundLength then false
  else if doubleBoundLength < length then true
  else Json.doubleBound * Nat.pow 10 (-power).toNat ≤ n * Nat.pow 10 power.toNat

/-- A number with a fraction or exponent, or a special one.  Its text is kept.  A number without
`-` that only infinity is near is refused.
-/
def real? (s : List Char) : Option (Json × List Char) := do
  let value (rest : List Char) :=
    (Json.real (String.ofList (s.take (s.length - rest.length))), rest)
  let (mark, unsigned) := sign s
  match unsigned with
  | 'i' :: 'n' :: 'f' :: rest => return value rest
  | 'n' :: 'a' :: 'n' :: rest => return value rest
  | unsigned =>
      let (whole, rest) ← decimal? unsigned
      let (fraction, power, rest) ← fraction? rest
      let digits := numberIn 10 (whole ++ fraction)
      if mark ≠ some '-' ∧ reachesDoubleBound digits (power - fraction.length) then none
      else return value rest

/-- A number. -/
def number? (s : List Char) : Option (Json × List Char) :=
  match real? s with
  | some result => some result
  | none =>
      match s with
      | '0' :: 'x' :: rest => basedInteger? 16 rest
      | '0' :: 'o' :: rest => basedInteger? 8 rest
      | '0' :: 'b' :: rest => basedInteger? 2 rest
      | s => do
          let (mark, unsigned) := sign s
          let (digits, rest) ← decimal? unsigned
          let n : Int := numberIn 10 digits
          return (← integer? (if mark = some '-' then -n else n), rest)

/-- A number of exactly two digits within bounds. -/
def twoDigits? (low high : Nat) : List Char → Option (Nat × List Char)
  | a :: b :: rest => do
      let n ← Text.decimal? [a, b]
      if low ≤ n ∧ n ≤ high then some (n, rest) else none
  | _ => none

/-- What follows a certain character. -/
def after? (c : Char) : List Char → Option (List Char)
  | [] => none
  | other :: rest => if other = c then some rest else none

/-- The number of days of a month. -/
def daysIn (year month : Nat) : Nat :=
  if month = 2 then
    if year % 4 = 0 ∧ (year % 100 ≠ 0 ∨ year % 400 = 0) then 29 else 28
  else if [4, 6, 9, 11].contains month then 30
  else 31

/-- A number in at least `width` digits. -/
def padded (width n : Nat) : String :=
  let digits := Nat.toDigits 10 n
  String.ofList (List.replicate (width - digits.length) '0' ++ digits)

/-- A date, as it is written. -/
def date? : List Char → Option (String × List Char)
  | a :: b :: c :: d :: rest => do
      let year ← Text.decimal? [a, b, c, d]
      let (month, rest) ← twoDigits? 1 12 (← after? '-' rest)
      let (day, rest) ← twoDigits? 1 31 (← after? '-' rest)
      if day ≤ daysIn year month then
        return (padded 4 year ++ "-" ++ padded 2 month ++ "-" ++ padded 2 day, rest)
      else none
  | _ => none

/-- Fractions of a second in nine digits at most, without trailing zeros. -/
def secondFraction (digits : List Char) : String :=
  match ((digits.take 9).reverse.dropWhile (· == '0')).reverse with
  | [] => ""
  | digits => String.ofList ('.' :: digits)

/-- A time of day, as it is written. -/
def time? (s : List Char) : Option (String × List Char) := do
  let (hour, rest) ← twoDigits? 0 23 s
  let (minute, rest) ← twoDigits? 0 59 (← after? ':' rest)
  let (second, rest) ← twoDigits? 0 60 (← after? ':' rest)
  let text := padded 2 hour ++ ":" ++ padded 2 minute ++ ":" ++ padded 2 second
  match rest with
  | '.' :: fraction =>
      match fraction.span Text.isAsciiDigit with
      | ([], _) => return (text, rest)
      | (digits, rest) => return (text ++ secondFraction digits, rest)
  | rest => return (text, rest)

/-- An offset from universal time, as it is written; none is written as nothing. -/
def offset? (s : List Char) : Option (String × List Char) :=
  match s with
  | 'Z' :: rest | 'z' :: rest => some ("Z", rest)
  | _ =>
      match sign s with
      | (none, rest) => some ("", rest)
      | (some mark, rest) => do
          let (hour, rest) ← twoDigits? 0 23 rest
          let (minute, rest) ← twoDigits? 0 59 (← after? ':' rest)
          let mark := if hour = 0 ∧ minute = 0 then '+' else mark
          return (mark.toString ++ padded 2 hour ++ ":" ++ padded 2 minute, rest)

/-- The time behind a date, if there is one. -/
def timeAfterDate? : List Char → Option (String × List Char)
  | delimiter :: rest =>
      if ['T', 't', ' '].contains delimiter then do
        let (time, rest) ← time? rest
        let (offset, rest) ← offset? rest
        return ("T" ++ time ++ offset, rest)
      else none
  | [] => none

/-- A date, a time or both, as they are written. -/
def moment? (s : List Char) : Option (String × List Char) :=
  match date? s with
  | none => time? s
  | some (date, rest) =>
      match timeAfterDate? rest with
      | none => some (date, rest)
      | some (time, rest) => some (date ++ time, rest)

/-- The name under which a date or time stands as a record of its text. -/
def momentKey : String := "$__toml_private_datetime"

/-- A date, time or number. -/
def scalar? (s : List Char) : Option (Json × List Char) :=
  match moment? s with
  | some (text, rest) => some (.object [(momentKey, .string text)], rest)
  | none => number? s

end EarlyBreak.Toml
