import EarlyBreak.Proofs.SourceMap.Acceptance

/-! Decoding a mappings text takes no more than words of 64 bits.  The decoder is written once more
with a check wherever a word could be too small, a shift too large, a total out of range or a field
absent.  No check fails on any text: the bits of a value stay below the power of two that its
shift says, and the totals in front of a segment are those of a cursor behind accepted rows.
-/

namespace EarlyBreak.SourceMap

-----------------------------------------------------------------------------------------
-- Checks
-----------------------------------------------------------------------------------------

/-- What a decoder that computes in words of 64 bits must not run into. -/
inductive Breach where
  /-- A number that comes near the ends of a word. -/
  | word
  /-- A shift by all bits of a word or more. -/
  | shift
  /-- A total in front of a segment that is no number of 32 bits. -/
  | total
  /-- The first field of a segment without fields. -/
  | field
  deriving DecidableEq, Repr

/-- Why there is no result: the text has a fault, or a check failed. -/
inductive Stop (ε : Type) where
  | fault (cause : ε)
  | breach (breach : Breach)
  deriving DecidableEq, Repr

section Checks

variable {ε α β α' β' : Type}

/-- Goes on only if a check holds. -/
def check (breach : Breach) (holds : Prop) [Decidable holds] : Except (Stop ε) Unit :=
  if holds then .ok () else .error (.breach breach)

theorem check_bind {breach : Breach} {holds : Prop} [Decidable holds] (given : holds)
    (rest : Unit → Except (Stop ε) α)
    : (check breach holds >>= rest) = rest () := by
  rw [check, if_pos given]
  rfl

theorem ok_bind (a : α) (rest : α → Except ε β) : (Except.ok a >>= rest) = rest a := rfl

/-- A number that stays well within a word of 64 bits, so that neither a sum of two such
numbers nor the opposite of one leaves it.
-/
def StaysInWord (n : Int) : Prop := -2 ^ 61 < n ∧ n < 2 ^ 61

instance (n : Int) : Decidable (StaysInWord n) := inferInstanceAs (Decidable (_ ∧ _))

/-- An outcome that no check stands in the way of, with the result seen in another form. -/
def unbroken (view : α → α') : Except ε α → Except (Stop ε) α'
  | .ok a => .ok (view a)
  | .error cause => .error (.fault cause)

/-- What no check stands in the way of may be followed by more of the kind. -/
theorem unbroken_bind {view : α → α'} {view' : β → β'} {x : Except ε α} {f : α → Except ε β}
    {x' : Except (Stop ε) α'} {f' : α' → Except (Stop ε) β'} (first : x' = unbroken view x)
    (next : ∀ a, x = .ok a → f' (view a) = unbroken view' (f a))
    : (x' >>= f') = unbroken view' (x >>= f) := by
  subst first
  cases x with
  | ok a => exact next a rfl
  | error cause => rfl

end Checks

-----------------------------------------------------------------------------------------
-- Decoding with checks
-----------------------------------------------------------------------------------------

/-- The bits of a value after those of one more digit. -/
def bitsInWords (reading : Reading) (digit : Nat) : Except (Stop MappingFault) Nat := do
  check .shift (reading.shift < 64)
  let low := digit &&& 0b11111
  check .word (StaysInWord low)
  let part := low <<< reading.shift
  check .word (StaysInWord part)
  let bits := reading.bits + part
  check .word (StaysInWord bits)
  return bits

/-- The value that bits stand for. -/
def valueInWords (bits : Nat) : Except (Stop MappingFault) Int := do
  let magnitude : Int := (bits >>> 1 : Nat)
  check .word (StaysInWord magnitude)
  let sign := bits &&& 1
  check .word (StaysInWord sign)
  let value := if sign = 1 then -magnitude else magnitude
  check .word (StaysInWord value)
  return value

/-- The reading after one more character, computed in words. -/
def nextInWords (reading : Reading) (c : Char) : Except (Stop MappingFault) Reading :=
  match Base64.value? c with
  | none => throw (.fault .digit)
  | some digit => do
      check .word (StaysInWord digit)
      if Reading.maxShift < reading.shift then throw (.fault .overflow)
      let bits ← bitsInWords reading digit
      let more := digit &&& 0b100000
      check .word (StaysInWord more)
      if more ≠ 0 then
        check .shift (reading.shift + 5 < 64)
        return ⟨bits, reading.shift + 5, reading.finished⟩
      return ⟨0, 0, (← valueInWords bits) :: reading.finished⟩

/-- The values of a segment, computed in words. -/
def segmentInWords (segment : List Char) : Except (Stop MappingFault) (List Int) := do
  let reading ← segment.foldlM nextInWords Reading.start
  if reading.shift ≠ 0 then throw (.fault .truncated)
  return reading.finished.reverse

/-- A total after a difference, computed in words. -/
def advanceInWords (total difference : Int) : Except (Stop MappingFault) Int := do
  let next := total + difference
  check .word (StaysInWord next)
  if 0 ≤ next ∧ next < totalBound then return next else throw (.fault .coordinate)

/-- The totals as words. -/
structure Sums where
  column : Int
  source : Int
  sourceLine : Int
  sourceColumn : Int
  name : Int
  /-- The number of segments read. -/
  count : Nat
  deriving DecidableEq, Repr

namespace Sums

/-- The totals at the start of a mappings text. -/
def start : Sums := ⟨0, 0, 0, 0, 0, 0⟩

/-- Every total is a number of 32 bits. -/
def InRange (sums : Sums) : Prop :=
  ∀ total ∈ [sums.column, sums.source, sums.sourceLine, sums.sourceColumn, sums.name], Fits total

instance (n : Int) : Decidable (Fits n) := inferInstanceAs (Decidable (_ ∧ _))

instance (sums : Sums) : Decidable sums.InRange := inferInstanceAs (Decidable (∀ total ∈ _, _))

/-- The totals and the mapping, if any, after the values of a segment on a line. -/
def apply (sums : Sums) (line : Nat) :
    List Int → Except (Stop MappingFault) (Sums × Option Mapping)
  | [] => throw (.breach .field)
  | column :: values => do
      let column ← advanceInWords sums.column column
      match values with
      | [] => return ({ sums with column, count := sums.count + 1 }, none)
      | source :: sourceLine :: sourceColumn :: names =>
          if 1 < names.length then throw (.fault .fieldCount)
          let source ← advanceInWords sums.source source
          let sourceLine ← advanceInWords sums.sourceLine sourceLine
          let sourceColumn ← advanceInWords sums.sourceColumn sourceColumn
          let name ← names.foldlM advanceInWords sums.name
          return (⟨column, source, sourceLine, sourceColumn, name, sums.count + 1⟩,
            some ⟨line, column.toNat, source.toNat, sourceLine.toNat, sourceColumn.toNat⟩)
      | _ => throw (.fault .fieldCount)

/-- The totals and the mapping, if any, after the text of a segment on a line. -/
def read (sums : Sums) (line : Nat) (segment : List Char) :
    Except (Stop MappingFault) (Sums × Option Mapping) := do
  check .total sums.InRange
  sums.apply line (← segmentInWords segment)

end Sums

/-- A fault takes the number of its segment with it. -/
def Stop.inSegment (number : Nat) : Stop MappingFault → Stop MappingError
  | fault cause => fault ⟨number, cause⟩
  | breach cause => breach cause

/-- The mappings of the segments of a line, and the totals behind them. -/
def segmentsInWords (line : Nat) (sums : Sums) :
    List (List Char) → Except (Stop MappingError) (Sums × List Mapping)
  | [] => .ok (sums, [])
  | segment :: rest =>
      if segment = [] then segmentsInWords line sums rest
      else do
        let (next, mapping) ← (sums.read line segment).mapError (.inSegment sums.count)
        let (final, mappings) ← segmentsInWords line next rest
        return (final, mapping.toList ++ mappings)

/-- The mappings of lines from a line number on.  Columns start anew on each line. -/
def linesInWords (line : Nat) (sums : Sums) :
    List (List Char) → Except (Stop MappingError) (List Mapping)
  | [] => .ok []
  | text :: rest => do
      let (next, mappings) ← segmentsInWords line { sums with column := 0 } (text.splitOn ',')
      return mappings ++ (← linesInWords (line + 1) next rest)

/-- The mappings that a text spells, decoded in words. -/
def mappingsInWords (text : List Char) : Except (Stop MappingError) (List Mapping) :=
  linesInWords 0 Sums.start (text.splitOn ';')

-----------------------------------------------------------------------------------------
-- Values of a segment
-----------------------------------------------------------------------------------------

namespace Reading

variable {reading after : Reading} {c : Char} {digit bits : Nat}

/-- The bits read are as many as the reading says, at most sixty, and the values read stay below
the sixtieth power of two.
-/
structure Bounded (reading : Reading) : Prop where
  bits : reading.bits < 2 ^ reading.shift
  shift : reading.shift ≤ 60
  finished : ∀ value ∈ reading.finished, -2 ^ 60 < value ∧ value < 2 ^ 60

theorem bounded_start : start.Bounded := ⟨by decide, by decide, by simp [start]⟩

/-- The low five bits of a digit and the one above them, as numbers. -/
theorem digit_bits (small : digit < 64)
    : digit &&& 0b11111 = digit % 32
      ∧ digit &&& 0b100000 ≤ 32
      ∧ (digit &&& 0b100000 ≠ 0 ↔ 32 ≤ digit) := by
  have table : ∀ digit : Fin 64, digit.val &&& 0b11111 = digit.val % 32
      ∧ digit.val &&& 0b100000 ≤ 32
      ∧ (digit.val &&& 0b100000 ≠ 0 ↔ 32 ≤ digit.val) := by
    decide
  exact table ⟨digit, small⟩

/-- One digit more takes five bits more. -/
theorem Bounded.add_digit_lt (bounded : reading.Bounded) (digit : Nat)
    : reading.bits + digit % 32 * 2 ^ reading.shift < 2 ^ (reading.shift + 5) := by
  have low : digit % 32 + 1 ≤ 32 := Nat.mod_lt digit (by decide)
  calc reading.bits + digit % 32 * 2 ^ reading.shift
      < 2 ^ reading.shift + digit % 32 * 2 ^ reading.shift := Nat.add_lt_add_right bounded.bits _
    _ = (digit % 32 + 1) * 2 ^ reading.shift := by ring
    _ ≤ 32 * 2 ^ reading.shift := Nat.mul_le_mul_right _ low
    _ = 2 ^ (reading.shift + 5) := by ring

theorem shift_add_le (early : ¬ maxShift < reading.shift) : reading.shift + 5 ≤ 60 := by
  simp only [maxShift] at early
  omega

/-- Another digit keeps the bits of a quantity below the bound of a word. -/
theorem Bounded.bits_lt (bounded : reading.Bounded) (early : ¬ maxShift < reading.shift)
    (digit : Nat)
    : reading.bits + digit % 32 * 2 ^ reading.shift < 2 ^ 60 :=
  Nat.lt_of_lt_of_le (bounded.add_digit_lt digit)
    (Nat.pow_le_pow_right (by decide) (shift_add_le early))

theorem signed_eq (bits : Nat)
    : signed bits
      = if bits &&& 1 = 1 then -((bits >>> 1 : Nat) : Int) else ((bits >>> 1 : Nat) : Int) := by
  rw [signed, Nat.and_one_is_mod, Nat.shiftRight_one]

/-- The sign makes a small number no larger. -/
theorem signed_small (small : bits < 2 ^ 60) : -2 ^ 60 < signed bits ∧ signed bits < 2 ^ 60 := by
  rw [signed]
  split <;> omega

/-- One more character keeps a reading bounded. -/
theorem Bounded.next (bounded : reading.Bounded) (step : reading.next c = .ok after)
    : after.Bounded := by
  rw [Reading.next] at step
  split at step
  case h_1 => cases step
  case h_2 digit known =>
    split at step
    case isTrue => cases step
    case isFalse early =>
      simp only at step
      split at step
      case isTrue more =>
        cases step
        exact ⟨bounded.add_digit_lt digit, shift_add_le early, bounded.finished⟩
      case isFalse last =>
        cases step
        refine ⟨Nat.one_pos, Nat.zero_le 60, List.forall_mem_cons.mpr ⟨?_, bounded.finished⟩⟩
        exact signed_small (bounded.bits_lt early digit)

theorem staysInWord_of_lt {n : Nat} (small : n < 2 ^ 61) : StaysInWord n := by
  unfold StaysInWord
  omega

/-- No check stands in the way of the bits of one more digit. -/
theorem bitsInWords_eq (bounded : reading.Bounded) (early : ¬ maxShift < reading.shift)
    (small : digit < 64)
    : bitsInWords reading digit = .ok (reading.bits + digit % 32 * 2 ^ reading.shift) := by
  have total := bounded.bits_lt early digit
  have inWord : reading.shift < 64 := by
    have := shift_add_le early
    omega
  have lowWord : StaysInWord (digit % 32 : Nat) := staysInWord_of_lt (by omega)
  have partWord : StaysInWord (digit % 32 * 2 ^ reading.shift : Nat) := staysInWord_of_lt (by omega)
  have bitsWord : StaysInWord (reading.bits + digit % 32 * 2 ^ reading.shift : Nat) :=
    staysInWord_of_lt (by omega)
  simp only [bitsInWords, (digit_bits small).1, Nat.shiftLeft_eq, check_bind inWord,
    check_bind lowWord, check_bind partWord, check_bind bitsWord]
  rfl

theorem valueInWords_eq (small : bits < 2 ^ 60) : valueInWords bits = .ok (signed bits) := by
  have halfWord : StaysInWord (bits >>> 1 : Nat) := by
    rw [Nat.shiftRight_one]
    exact staysInWord_of_lt (by omega)
  have signWord : StaysInWord (bits &&& 1 : Nat) := by
    rw [Nat.and_one_is_mod]
    exact staysInWord_of_lt (by omega)
  have valueWord : StaysInWord (signed bits) := by
    have bounds := signed_small small
    unfold StaysInWord
    omega
  simp only [valueInWords, ← signed_eq, check_bind halfWord, check_bind signWord,
    check_bind valueWord]
  rfl

/-- No check stands in the way of one more character. -/
theorem nextInWords_eq (bounded : reading.Bounded) (c : Char)
    : nextInWords reading c = unbroken id (reading.next c) := by
  cases known : Base64.value? c with
  | none =>
      simp only [nextInWords, Reading.next, known]
      rfl
  | some digit =>
      have small := (Base64.digit_of_value? known).1
      obtain ⟨-, sixth, goesOn⟩ := digit_bits small
      have digitWord : StaysInWord digit := staysInWord_of_lt (by omega)
      have sixthWord : StaysInWord (digit &&& 0b100000 : Nat) := staysInWord_of_lt (by omega)
      simp only [nextInWords, Reading.next, known, check_bind digitWord]
      -- A digit behind the twelfth is a fault before its bits are looked at.
      by_cases late : maxShift < reading.shift
      · simp only [late, if_true]
        rfl
      · have few := shift_add_le late
        have inWord : reading.shift + 5 < 64 := by omega
        have value := valueInWords_eq (bounded.bits_lt late digit)
        simp only [late, if_false, bitsInWords_eq bounded late small, value, ok_bind,
          check_bind sixthWord, check_bind inWord, Nat.pow_eq, goesOn]
        split <;> rfl

/-- No check stands in the way of a text, by induction on it; each character keeps the reading
bounded.
-/
theorem foldlM_nextInWords (bounded : reading.Bounded) (text : List Char)
    : text.foldlM nextInWords reading = unbroken id (text.foldlM next reading)
      ∧ ∀ after, text.foldlM next reading = .ok after → after.Bounded := by
  induction text generalizing reading with
  | nil =>
      refine ⟨rfl, fun after run => ?_⟩
      cases run
      exact bounded
  | cons c text ih =>
      rw [List.foldlM_cons, List.foldlM_cons]
      constructor
      · exact unbroken_bind (nextInWords_eq bounded c)
          fun middle step => (ih (bounded.next step)).1
      · intro after run
        obtain ⟨middle, step, run⟩ := bind_eq_ok_iff.mp run
        exact (ih (bounded.next step)).2 after run

end Reading

variable {segment : List Char} {values : List Int}

theorem segmentInWords_eq (segment : List Char)
    : segmentInWords segment = unbroken id (segmentValues segment) := by
  rw [segmentInWords, segmentValues]
  have run := Reading.foldlM_nextInWords Reading.bounded_start segment
  refine unbroken_bind run.1 fun reading _ => ?_
  simp only [id_eq]
  split <;> rfl

-- The longest value there is: twelve digits, and all bits set.
example : segmentInWords "///////////f".toList = .ok [-(2 ^ 59 - 1)] := by decide

/-- Each value of a segment is small, as its digits are few. -/
theorem small_of_segmentValues (read : segmentValues segment = .ok values)
    : ∀ value ∈ values, -2 ^ 60 < value ∧ value < 2 ^ 60 := by
  obtain ⟨reading, run, last⟩ := bind_eq_ok_iff.mp read
  have bounded := (Reading.foldlM_nextInWords Reading.bounded_start segment).2 reading run
  simp only at last
  split at last
  case isTrue => cases last
  case isFalse =>
    cases last
    exact fun value member => bounded.finished value (List.mem_reverse.mp member)

/-- A segment that is not empty has a field. -/
theorem ne_nil_of_segmentValues (nonempty : segment ≠ [])
    (read : segmentValues segment = .ok values)
    : values ≠ [] := by
  rintro rfl
  obtain ⟨texts, rfl, quantities⟩ := segmentValues_eq_ok_iff.mp read
  cases quantities
  exact nonempty rfl

-----------------------------------------------------------------------------------------
-- Totals
-----------------------------------------------------------------------------------------

section Totals

variable {total next : Nat} {difference : Int}

/-- A total advances in words as it does in numbers. -/
theorem advanceInWords_eq (fits : total < totalBound)
    (small : -2 ^ 60 < difference ∧ difference < 2 ^ 60)
    : advanceInWords total difference = unbroken Nat.cast (advance total difference) := by
  have word : StaysInWord (total + difference) := by
    simp only [totalBound, Nat.pow_eq] at fits
    unfold StaysInWord
    omega
  simp only [advanceInWords, advance, check_bind word]
  split
  case isTrue inRange =>
    simp only [unbroken, Int.toNat_of_nonneg inRange.1]
    rfl
  case isFalse => rfl

theorem lt_of_advance (step : advance total difference = .ok next) : next < totalBound := by
  rw [advance] at step
  split at step
  case isTrue inRange =>
    cases step
    omega
  case isFalse => cases step

/-- A total advances by any differences in words as in numbers, by induction on them. -/
theorem foldlM_advanceInWords {differences : List Int} (fits : total < totalBound)
    (small : ∀ difference ∈ differences, -2 ^ 60 < difference ∧ difference < 2 ^ 60)
    : differences.foldlM advanceInWords (total : Int)
      = unbroken Nat.cast (differences.foldlM advance total) := by
  induction differences generalizing total with
  | nil => rfl
  | cons difference rest ih =>
      obtain ⟨first, others⟩ := List.forall_mem_cons.mp small
      rw [List.foldlM_cons, List.foldlM_cons]
      exact unbroken_bind (advanceInWords_eq fits first)
        fun next step => ih (lt_of_advance step) others

end Totals

namespace Cursor

variable {cursor next : Cursor} {line : Nat} {rows : List Row}

/-- The totals of a cursor as words. -/
def sums (cursor : Cursor) : Sums :=
  ⟨cursor.column, cursor.totals.source, cursor.totals.sourceLine, cursor.totals.sourceColumn,
    cursor.totals.name, cursor.count⟩

theorem Behind.inRange_sums (behind : cursor.Behind line rows) : cursor.sums.InRange := by
  have carries := behind.carries
  have fits {total : Nat} {sum : Int} (holds : Holds total sum) : Fits total := by
    rw [holds.1]
    exact holds.fits
  simp only [Sums.InRange, sums, List.forall_mem_cons, List.not_mem_nil, false_implies,
    implies_true, and_true]
  exact ⟨fits behind.column, fits carries.source, fits carries.sourceLine,
    fits carries.sourceColumn, fits carries.name⟩

/-- No check stands in the way of the values of a segment, if there are any. -/
theorem Behind.applyInWords (behind : cursor.Behind line rows) (nonempty : values ≠ [])
    (small : ∀ value ∈ values, -2 ^ 60 < value ∧ value < 2 ^ 60)
    : cursor.sums.apply line values = unbroken (Prod.map sums id) (cursor.apply line values) := by
  have carries := behind.carries
  rcases values with _ | ⟨column, _ | ⟨source, _ | ⟨sourceLine, _ | ⟨sourceColumn, names⟩⟩⟩⟩
  · exact absurd rfl nonempty
  -- One to three fields and more: the column comes first, whether their number is right or not.
  all_goals
    rw [List.forall_mem_cons] at small
    refine unbroken_bind (advanceInWords_eq behind.column.2 small.1) fun column' _ => ?_
  · rfl
  · rfl
  · rfl
  · simp only [List.forall_mem_cons] at small
    obtain ⟨-, smallSource, smallLine, smallColumn, smallNames⟩ := small
    dsimp only
    split
    case isTrue => rfl
    case isFalse =>
      refine unbroken_bind (advanceInWords_eq carries.source.2 smallSource) fun source' _ => ?_
      refine unbroken_bind (advanceInWords_eq carries.sourceLine.2 smallLine) fun line' _ => ?_
      refine unbroken_bind (advanceInWords_eq carries.sourceColumn.2 smallColumn)
        fun sourceColumn' _ => ?_
      refine unbroken_bind (foldlM_advanceInWords carries.name.2 smallNames) fun name' _ => ?_
      rfl

/-- No check stands in the way of a segment that is not empty. -/
theorem Behind.readInWords (behind : cursor.Behind line rows) (nonempty : segment ≠ [])
    : cursor.sums.read line segment = unbroken (Prod.map sums id) (cursor.read line segment) := by
  rw [Sums.read, Cursor.read, check_bind behind.inRange_sums]
  exact unbroken_bind (segmentInWords_eq segment) fun values read =>
    behind.applyInWords (ne_nil_of_segmentValues nonempty read) (small_of_segmentValues read)

end Cursor

-----------------------------------------------------------------------------------------
-- Lines and whole texts
-----------------------------------------------------------------------------------------

section Run

variable {listed : List SegmentText} {rows : List Row} {line : Nat} {cursor : Cursor}

/-- No check stands in the way of the segments of a line, by induction on them. -/
theorem segmentsInWords_eq (behind : cursor.Behind line rows) (parts : List (List Char))
    : segmentsInWords line cursor.sums parts
      = unbroken (Prod.map Cursor.sums id) (readSegments line cursor parts) := by
  induction parts generalizing rows cursor with
  | nil => rfl
  | cons segment parts ih =>
      rw [segmentsInWords, readSegments]
      split
      case isTrue => exact ih behind
      case isFalse nonempty =>
        rw [behind.readInWords nonempty]
        cases step : cursor.read line segment with
        | error fault => rfl
        | ok result =>
            obtain ⟨next, mapping⟩ := result
            obtain ⟨row, -, rfl, further⟩ := behind.read step
            -- The first action is over; what is left is the rest of the line.
            change (segmentsInWords row.line next.sums parts >>= _) = _
            exact unbroken_bind (ih further) fun _ _ => rfl

/-- No check stands in the way of lines: the cursor in front of each one carries the totals of the
rows accepted before, and the column starts anew.
-/
theorem linesInWords_eq (accepted : Accepted listed rows) (carries : cursor.Carries rows)
    (earlier : ∀ row ∈ rows, row.line < line) (lines : List (List Char))
    : linesInWords line cursor.sums lines = unbroken id (readLines line cursor lines) := by
  induction lines generalizing listed rows line cursor with
  | nil => rfl
  | cons text lines ih =>
      have behind := carries.behind earlier
      refine unbroken_bind (segmentsInWords_eq behind _) fun result read => ?_
      obtain ⟨next, mappings⟩ := result
      obtain ⟨all, accepted, behind⟩ := accepted_of_readSegments accepted behind read
      have later := fun row member => Nat.lt_succ_of_le (behind.lines row member)
      exact unbroken_bind (ih accepted behind.carries later) fun _ _ => rfl

end Run

/-- The coordinates of a mapping that are sums of differences are numbers of 32 bits. -/
structure Mapping.Fits (m : Mapping) : Prop where
  generatedColumn : m.generatedColumn < totalBound
  source : m.source < totalBound
  sourceLine : m.sourceLine < totalBound
  sourceColumn : m.sourceColumn < totalBound

/-- Decoding in words gives what decoding gives, for every text: no number comes near the ends of
a word, no shift takes all bits of one, the totals in front of every segment are numbers of 32 bits,
and every segment that is read has a first field.
-/
theorem decodes_in_words (text : List Char)
    : mappingsInWords text = (decodeMappings text).mapError Stop.fault
      ∧ ∀ breach, mappingsInWords text ≠ .error (.breach breach) := by
  have none : ∀ row ∈ ([] : List Row), row.line < 0 := by simp
  have same : mappingsInWords text = unbroken id (decodeMappings text) :=
    linesInWords_eq accepted_nil Cursor.carries_start none _
  rw [same]
  cases decodeMappings text with
  | ok mappings => exact ⟨rfl, by simp [unbroken]⟩
  | error fault => exact ⟨rfl, by simp [unbroken]⟩

end EarlyBreak.SourceMap
