/-! UTF-8 as byte lists: encoding a text, decoding valid bytes, and decoding any bytes with
replacement characters.  Valid bytes decode the same way under both decoders.
-/

namespace EarlyBreak.Text

/-- The UTF-8 bytes of a text. -/
def toBytes (s : String) : List UInt8 := s.toUTF8.data.toList

/-- The text that the bytes encode; bytes that are not UTF-8 encode none. -/
def ofBytes? (bytes : List UInt8) : Option String := String.fromUTF8? ⟨bytes.toArray⟩

/-- Encoding loses nothing, by validity of a text's own bytes. -/
theorem ofBytes?_toBytes (s : String) : ofBytes? (toBytes s) = some s := by
  have h : (⟨(toBytes s).toArray⟩ : ByteArray) = s.toUTF8 := by simp [toBytes]
  simp only [ofBytes?, h]
  simp [String.fromUTF8?, String.toUTF8, String.fromUTF8, s.isValidUTF8]

theorem toUTF8_of_fromUTF8? {bytes : ByteArray} {s : String}
    (text : String.fromUTF8? bytes = some s)
    : s.toUTF8 = bytes := by
  rw [String.fromUTF8?] at text
  split at text
  case isTrue => obtain rfl := Option.some.inj text; rfl
  case isFalse => cases text

/-- Bytes that are decoded without loss are the bytes of the text. -/
theorem toBytes_of_ofBytes? {bytes : List UInt8} {s : String} (text : ofBytes? bytes = some s)
    : toBytes s = bytes := by
  rw [toBytes, toUTF8_of_fromUTF8? text]

/-- What stands at the front of a byte sequence. -/
inductive Front where
  /-- One character and the number of its bytes. -/
  | char (c : Char) (size : Nat)
  /-- The longest start of a character that the bytes break off; at least one byte. -/
  | broken (size : Nat)
  deriving Repr

/-- Whether a byte continues a character. -/
def isTail (b : UInt8) : Bool := 0x80 ≤ b && b ≤ 0xBF

/-- Whether `second` may follow `first` in a character of three or four bytes: no overlong
form, no surrogate, and nothing above U+10FFFF.
-/
def mayFollow (first second : UInt8) : Bool :=
  if first = 0xE0 then 0xA0 ≤ second && second ≤ 0xBF
  else if first = 0xED then 0x80 ≤ second && second ≤ 0x9F
  else if first = 0xF0 then 0x90 ≤ second && second ≤ 0xBF
  else if first = 0xF4 then 0x80 ≤ second && second ≤ 0x8F
  else isTail second

/-- The low six bits, which are what a continuation byte contributes. -/
def low6 (b : UInt8) : Nat := b.toNat % 64

/-- The front of a sequence that begins with a three-byte lead. -/
def frontOfThree (first : UInt8) : List UInt8 → Front
  | second :: third :: _ =>
      if !mayFollow first second then .broken 1
      else if !isTail third then .broken 2
      else .char (Char.ofNat (first.toNat % 16 * 4096 + low6 second * 64 + low6 third)) 3
  | [second] => if mayFollow first second then .broken 2 else .broken 1
  | [] => .broken 1

/-- The front of a sequence that begins with a four-byte lead. -/
def frontOfFour (first : UInt8) : List UInt8 → Front
  | second :: third :: fourth :: _ =>
      if !mayFollow first second then .broken 1
      else if !isTail third then .broken 2
      else if !isTail fourth then .broken 3
      else .char (Char.ofNat (first.toNat % 8 * 262144 + low6 second * 4096
        + low6 third * 64 + low6 fourth)) 4
  | [second, third] =>
      if !mayFollow first second then .broken 1
      else if !isTail third then .broken 2
      else .broken 3
  | [second] => if mayFollow first second then .broken 2 else .broken 1
  | [] => .broken 1

/-- The front of the sequence `first :: rest`. -/
def front (first : UInt8) (rest : List UInt8) : Front :=
  if first < 0x80 then .char (Char.ofNat first.toNat) 1
  else if 0xC2 ≤ first && first ≤ 0xDF then
    match rest with
    | second :: _ =>
        if isTail second then .char (Char.ofNat (first.toNat % 32 * 64 + low6 second)) 2
        else .broken 1
    | [] => .broken 1
  else if 0xE0 ≤ first && first ≤ 0xEF then frontOfThree first rest
  else if 0xF0 ≤ first && first ≤ 0xF4 then frontOfFour first rest
  else .broken 1

/-- Characters of the bytes, with one U+FFFD for each broken start. -/
def replaceBroken : List UInt8 → List Char
  | [] => []
  | first :: rest =>
      match front first rest with
      | .char c size => c :: replaceBroken (rest.drop (size - 1))
      | .broken size => Char.ofNat 0xFFFD :: replaceBroken (rest.drop (size - 1))
termination_by bytes => bytes.length
decreasing_by all_goals simp only [List.length_drop, List.length_cons]; omega

/-- The text of any bytes: their own text when they are UTF-8, else with replacements. -/
def ofBytesLossy (bytes : List UInt8) : String :=
  match ofBytes? bytes with
  | some s => s
  | none => String.ofList (replaceBroken bytes)

/-- A text survives the lossy decoder, since its bytes are valid. -/
theorem ofBytesLossy_toBytes (s : String) : ofBytesLossy (toBytes s) = s := by
  simp [ofBytesLossy, ofBytes?_toBytes]

end EarlyBreak.Text
