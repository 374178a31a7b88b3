import EarlyBreak.Text.Utf8

/-! Numbers, texts and lists as bytes: numbers in a fixed width with the least significant byte
first, texts and lists behind their length.  Every decoder undoes its encoder and nothing else.
-/

namespace EarlyBreak.Cache

/-- The bytes of a number in a width. -/
def encodeNat : Nat → Nat → List UInt8
  | 0, _ => []
  | width + 1, n => UInt8.ofNat (n % 256) :: encodeNat width (n / 256)

/-- The number that bytes spell. -/
def decodeNat : List UInt8 → Nat
  | [] => 0
  | byte :: rest => byte.toNat + 256 * decodeNat rest

/-- Bytes from a list. -/
def bytesOf (bytes : List UInt8) : ByteArray := ⟨bytes.toArray⟩

/-- The bytes of a number of 32 bits. -/
def encodeWord32 (n : Nat) : ByteArray := bytesOf (encodeNat 4 n)

/-- The bytes of a number of 64 bits. -/
def encodeWord64 (n : Nat) : ByteArray := bytesOf (encodeNat 8 n)

/-- The bytes of a text. -/
def encodeText (s : String) : ByteArray := encodeWord64 s.utf8ByteSize ++ s.toUTF8

/-- The bytes of a list of items. -/
def encodeList {α : Type} (encode : α → ByteArray) (items : List α) : ByteArray :=
  items.foldl (fun bytes item => bytes ++ encode item) (encodeWord64 items.length)

/-- A decoder takes what it needs from bytes at a position, which moves on. -/
abbrev Decoder (α : Type) := ReaderT ByteArray (StateT Nat Option) α

namespace Decoder

/-- The next bytes, so many of them. -/
def take (count : Nat) : Decoder ByteArray := do
  let bytes ← read
  let position ← get
  if position + count ≤ bytes.size then
    set (position + count)
    return bytes.extract position (position + count)
  else failure

/-- A number in a width. -/
def number (width : Nat) : Decoder Nat := do return decodeNat (← take width).data.toList

/-- A number of 32 bits. -/
def word32 : Decoder Nat := number 4

/-- A number of 64 bits. -/
def word64 : Decoder Nat := number 8

/-- A text. -/
def text : Decoder String := do
  match String.fromUTF8? (← take (← word64)) with
  | some s => return s
  | none => failure

/-- So many items. -/
def many {α : Type} (item : Decoder α) : Nat → Decoder (List α)
  | 0 => return []
  | count + 1 => do
      let first ← item
      let rest ← many item count
      return first :: rest

/-- A list of items. -/
def list {α : Type} (item : Decoder α) : Decoder (List α) := do many item (← word64)

/-- Decodes the front of bytes. -/
def runFront {α : Type} (decoder : Decoder α) (bytes : ByteArray) : Option α :=
  ((decoder.run bytes).run 0).map (·.1)

/-- Decodes bytes as a whole. -/
def runWhole {α : Type} (decoder : Decoder α) (bytes : ByteArray) : Option α :=
  match (decoder.run bytes).run 0 with
  | some (value, position) => if position = bytes.size then some value else none
  | none => none

end Decoder

end EarlyBreak.Cache
