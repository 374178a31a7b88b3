import EarlyBreak.Text.Cut

/-! White space by the Unicode property White_Space, trimming by it, and the first word of a
text.
-/

namespace EarlyBreak.Text

/-- The code point ranges of the property White_Space, in order. -/
def blankRanges : List (Nat × Nat) :=
  [(0x09, 0x0D), (0x20, 0x20), (0x85, 0x85), (0xA0, 0xA0), (0x1680, 0x1680),
    (0x2000, 0x200A), (0x2028, 0x2029), (0x202F, 0x202F), (0x205F, 0x205F),
    (0x3000, 0x3000)]

/-- Whether a character has the property White_Space. -/
def isBlank (c : Char) : Bool :=
  blankRanges.any fun (low, high) => low ≤ c.toNat && c.toNat ≤ high

/-- A text without leading and trailing white space. -/
def trim (s : String) : String := String.ofList (trimChars isBlank s.toList)

/-- The first run of characters that are not white space. -/
def firstWord? (s : List Char) : Option (List Char) :=
  match (trimStart isBlank s).takeWhile (!isBlank ·) with
  | [] => none
  | word => some word

end EarlyBreak.Text
