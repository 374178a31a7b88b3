/-! The ASCII letters and digits, and comparison that ignores their case. -/

namespace EarlyBreak.Text

/-- Lower case of an ASCII letter; any other character as it is. -/
def lowerAscii (c : Char) : Char :=
  if 'A' ≤ c ∧ c ≤ 'Z' then Char.ofNat (c.toNat + 32) else c

/-- Whether a character is an ASCII letter. -/
def isAsciiLetter (c : Char) : Bool := ('a' ≤ c && c ≤ 'z') || ('A' ≤ c && c ≤ 'Z')

/-- Whether a character is an ASCII digit. -/
def isAsciiDigit (c : Char) : Bool := '0' ≤ c && c ≤ '9'

/-- Whether a character is an ASCII letter or digit. -/
def isAsciiAlphanumeric (c : Char) : Bool := isAsciiLetter c || isAsciiDigit c

/-- Whether two texts agree up to the case of ASCII letters. -/
def sameIgnoringAsciiCase (a b : List Char) : Bool := a.map lowerAscii == b.map lowerAscii

/-- The number that ASCII digits spell in base ten; `none` for anything else and for no digits. -/
def decimal? (s : List Char) : Option Nat :=
  if s.isEmpty || s.any (!isAsciiDigit ·) then none
  else some (s.foldl (fun n c => n * 10 + (c.toNat - '0'.toNat)) 0)

end EarlyBreak.Text
