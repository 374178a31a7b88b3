import EarlyBreak.Text.Hex
import EarlyBreak.Text.Utf8

/-! Percent encoding.  Each part of a URL has a set of bytes that it must write as `%XX`;
decoding turns every well-formed escape back and leaves other percent signs alone.
-/

namespace EarlyBreak.Url

/-- A set of bytes that are written as escapes. -/
abbrev EscapeSet := UInt8 → Bool

/-- The byte of an ASCII character. -/
def byteOf (c : Char) : UInt8 := UInt8.ofNat c.toNat

/-- The set extended by the bytes of some ASCII characters. -/
def EscapeSet.with (set : EscapeSet) (more : List Char) : EscapeSet :=
  fun b => set b || more.any (byteOf · == b)

/-- Control bytes and everything outside ASCII. -/
def EscapeSet.controls : EscapeSet := fun b => b < 0x20 || 0x7F ≤ b

/-- What a fragment escapes. -/
def EscapeSet.fragment : EscapeSet := EscapeSet.controls.with [' ', '"', '<', '>', '\x60']

/-- What a query escapes. -/
def EscapeSet.query : EscapeSet := EscapeSet.controls.with [' ', '"', '#', '<', '>']

/-- What the query of a special scheme escapes. -/
def EscapeSet.specialQuery : EscapeSet := EscapeSet.query.with ['\'']

/-- What a path escapes. -/
def EscapeSet.path : EscapeSet := EscapeSet.fragment.with ['#', '?', '\x7b', '\x7d']

/-- What a user name or password escapes. -/
def EscapeSet.credentials : EscapeSet :=
  EscapeSet.path.with ['/', ':', ';', '=', '@', '[', '\\', ']', '^', '|']

/-- What a single file name in a path escapes. -/
def EscapeSet.fileName : EscapeSet := EscapeSet.path.with ['/', '%', '\\']

/-- The escape of a byte, in upper case. -/
def escapeByte (b : UInt8) : List Char :=
  ['%', Text.upperHexDigit (b.toNat / 16), Text.upperHexDigit (b.toNat % 16)]

/-- A byte as an escape if the set has it, else as its character. -/
def encodeByte (set : EscapeSet) (b : UInt8) : List Char :=
  if set b then escapeByte b else [Char.ofNat b.toNat]

/-- Bytes as text, with the bytes of the set escaped. -/
def encodeBytes (set : EscapeSet) (bytes : List UInt8) : List Char :=
  bytes.flatMap (encodeByte set)

/-- A text with the bytes of the set escaped. -/
def encodeText (set : EscapeSet) (s : List Char) : List Char :=
  s.flatMap fun c => encodeBytes set (String.utf8EncodeChar c)

/-- The byte that the two digits of an escape spell. -/
def unescape? (high low : UInt8) : Option UInt8 := do
  let h ← Text.hexValue? (Char.ofNat high.toNat)
  let l ← Text.hexValue? (Char.ofNat low.toNat)
  return UInt8.ofNat (h * 16 + l)

/-- The bytes with every well-formed escape decoded. -/
def decodeBytes : List UInt8 → List UInt8
  | 0x25 :: high :: low :: rest =>
      match unescape? high low with
      | some b => b :: decodeBytes rest
      | none => 0x25 :: decodeBytes (high :: low :: rest)
  | b :: rest => b :: decodeBytes rest
  | [] => []

end EarlyBreak.Url
