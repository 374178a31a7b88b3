import EarlyBreak.Base64

/-! Base64 variable-length quantities: five bits a digit from the low end on, a digit above
thirty-one going on, and the lowest bit of the whole being the sign.
-/

namespace EarlyBreak.SourceMap

/-- What can be wrong with a segment of a mappings text. -/
inductive MappingFault where
  /-- A character that is no digit. -/
  | digit
  /-- A value of more than twelve digits. -/
  | overflow
  /-- A value whose last digit goes on. -/
  | truncated
  /-- A total that leaves the range of 32 bits. -/
  | coordinate
  /-- A number of values other than one, four or five. -/
  | fieldCount
  deriving DecidableEq, Repr

/-- The text of a fault. -/
def MappingFault.message : MappingFault → String
  | .digit => "invalid base64 digit"
  | .overflow => "vlq value overflows"
  | .truncated => "truncated vlq value"
  | .coordinate => "negative or oversized coordinate"
  | .fieldCount => "segment must have 1, 4 or 5 fields"

/-- A segment being read: the digits of the value so far, and the values before it. -/
structure Reading where
  /-- The bits read so far. -/
  bits : Nat
  /-- The number of bits read so far. -/
  shift : Nat
  /-- The finished values, the last one first. -/
  finished : List Int
  deriving DecidableEq, Repr

namespace Reading

/-- The reading of a segment's start. -/
def start : Reading := ⟨0, 0, []⟩

/-- The largest number of bits after which another digit may follow. -/
def maxShift : Nat := 55

/-- The number whose sign is the lowest bit. -/
def signed (bits : Nat) : Int :=
  if bits % 2 = 1 then -((bits / 2 : Nat) : Int) else (bits / 2 : Nat)

/-- The reading after one more character. -/
def next (reading : Reading) (c : Char) : Except MappingFault Reading :=
  match Base64.value? c with
  | none => .error .digit
  | some digit =>
      if maxShift < reading.shift then .error .overflow
      else
        let bits := reading.bits + digit % 32 * Nat.pow 2 reading.shift
        if 32 ≤ digit then .ok ⟨bits, reading.shift + 5, reading.finished⟩
        else .ok ⟨0, 0, signed bits :: reading.finished⟩

end Reading

/-- The values of a segment. -/
def segmentValues (segment : List Char) : Except MappingFault (List Int) := do
  let reading ← segment.foldlM Reading.next Reading.start
  if reading.shift ≠ 0 then throw .truncated
  return reading.finished.reverse

/-- The digits of a magnitude with its sign bit; `fuel` bounds their number. -/
def quantityDigits : Nat → Nat → List Char
  | 0, _ => []
  | fuel + 1, bits =>
      if bits < 32 then [Base64.digit bits]
      else Base64.digit (32 + bits % 32) :: quantityDigits fuel (bits / 32)

/-- A number as a variable-length quantity. -/
def writeQuantity (n : Int) : List Char :=
  let bits := if n < 0 then n.natAbs * 2 + 1 else n.natAbs * 2
  quantityDigits (bits + 1) bits

end EarlyBreak.SourceMap
