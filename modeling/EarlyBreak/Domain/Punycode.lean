import EarlyBreak.Text.Cut

/-! Punycode: the ASCII form of a domain label that has characters outside ASCII.  The label is
written as its ASCII characters and the differences between the code points of the others.
-/

namespace EarlyBreak.Domain.Punycode

/-- The digit of a value below thirty-six: letters first, then digits. -/
def digit (n : Nat) : Char :=
  if n < 26 then Char.ofNat ('a'.toNat + n) else Char.ofNat ('0'.toNat + (n - 26))

/-- The value of a digit. -/
def digitValue? (c : Char) : Option Nat :=
  if 'a' ≤ c ∧ c ≤ 'z' then some (c.toNat - 'a'.toNat)
  else if '0' ≤ c ∧ c ≤ '9' then some (c.toNat - '0'.toNat + 26)
  else none

/-- The value below which a digit ends its number. -/
def threshold (bias k : Nat) : Nat :=
  if k ≤ bias then 1 else if k ≥ bias + 26 then 26 else k - bias

/-- How many times the difference is divided before the bias formula applies, with the rest. -/
def reduce (fuel steps delta : Nat) : Nat × Nat :=
  match fuel with
  | 0 => (steps, delta)
  | fuel + 1 => if delta > 455 then reduce fuel (steps + 1) (delta / 35) else (steps, delta)

/-- The bias after a difference was written. -/
def adapt (delta points : Nat) (isFirst : Bool) : Nat :=
  let scaled := if isFirst then delta / 700 else delta / 2
  let (steps, rest) := reduce 64 0 (scaled + scaled / points)
  steps * 36 + 36 * rest / (rest + 38)

/-- A difference as a generalised variable-length number. -/
def writeDelta (bias : Nat) : Nat → Nat → Nat → List Char
  | 0, _, _ => []
  | fuel + 1, q, k =>
      let t := threshold bias k
      if q < t then [digit q]
      else digit (t + (q - t) % (36 - t)) :: writeDelta bias fuel ((q - t) / (36 - t)) (k + 36)

/-- The running values of the encoder. -/
structure State where
  delta : Nat
  bias : Nat
  handled : Nat
  output : List Char

/-- Writes each occurrence of the code point `n`, counting the smaller ones before it. -/
def writePoint (basic n : Nat) (state : State) (c : Char) : State :=
  if c.toNat < n then { state with delta := state.delta + 1 }
  else if c.toNat = n then
    { delta := 0
      bias := adapt state.delta (state.handled + 1) (state.handled == basic)
      handled := state.handled + 1
      output := state.output ++ writeDelta state.bias 64 state.delta 36 }
  else state

/-- Writes the code points outside ASCII in increasing order, starting from `n`. -/
def writePoints (label : List Char) (basic : Nat) : Nat → Nat → State → State
  | 0, _, state => state
  | fuel + 1, n, state =>
      match (label.filterMap fun c => if n ≤ c.toNat then some c.toNat else none).min? with
      | none => state
      | some m =>
          let started := { state with delta := state.delta + (m - n) * (state.handled + 1) }
          let written := label.foldl (writePoint basic m) started
          writePoints label basic fuel (m + 1) { written with delta := written.delta + 1 }

/-- The Punycode of a label, without the `xn--` mark. -/
def encode (label : List Char) : List Char :=
  let basic := label.filter (·.toNat < 128)
  let start := if basic.isEmpty then [] else basic ++ ['-']
  (writePoints label basic.length label.length 128 ⟨0, 72, basic.length, start⟩).output

/-- The running values of the decoder: what is read already, the next code point and the place
where it may stand; and, of the number being read, the place before it and its next digit.
-/
structure Reading where
  output : List Char
  point : Nat
  place : Nat
  bias : Nat
  start : Nat
  weight : Nat
  step : Nat

/-- The bound of the decoder's numbers. -/
def numberBound : Nat := 4294967296

/-- A reading after a number that ends at `place`, which puts one character into the output. -/
def Reading.insert? (reading : Reading) (place : Nat) : Option Reading :=
  let length := reading.output.length + 1
  let point := reading.point + place / length
  if h : point.isValidChar then
    some {
      output := reading.output.insertIdx (place % length) (Char.ofNatAux point h)
      point
      place := place % length + 1
      bias := adapt (place - reading.start) length (reading.start == 0)
      start := place % length + 1
      weight := 1
      step := 36 }
  else none

/-- A reading after one more digit. -/
def Reading.next? (reading : Reading) (c : Char) : Option Reading := do
  let value ← digitValue? c
  let t := threshold reading.bias reading.step
  let place := reading.place + value * reading.weight
  let weight := reading.weight * (36 - t)
  if numberBound ≤ place then none
  else if value < t then reading.insert? place
  else if numberBound ≤ weight then none
  else return { reading with place, weight, step := reading.step + 36 }

/-- The label that Punycode stands for; `none` if it is no Punycode.  The last hyphen ends the
ASCII characters, unless it comes first.
-/
def decode? (code : List Char) : Option (List Char) := do
  let (basic, digits) :=
    match Text.splitLast? '-' code with
    | some (first :: more, digits) => (first :: more, digits)
    | _ => ([], code)
  let reading ← digits.foldlM Reading.next? ⟨basic, 128, 0, 72, 0, 1, 36⟩
  if reading.weight = 1 then some reading.output else none

end EarlyBreak.Domain.Punycode
