import EarlyBreak.Proofs.SourceMap.Quantity
import Mathlib.Data.List.Forall2
import Mathlib.Data.Nat.Digits.Defs

/-! Which texts are the segments of a mappings text.  A segment is read character by character; what
was read so far is always a row of whole quantities and the beginning of one more.
-/

namespace EarlyBreak

theorem Base64.digit_of_value? {c : Char} {n : Nat} (known : value? c = some n)
    : n < 64 ∧ c = digit n := by
  have ascii : c.toNat < 128 := by
    by_contra beyond
    have above : ∀ bound : Char, bound.toNat < 128 → ¬ c ≤ bound := by
      intro bound small order
      have order : c.toNat ≤ bound.toNat := order
      omega
    have other : ∀ bound : Char, bound.toNat < 128 → c ≠ bound := by
      rintro bound small rfl
      omega
    simp [value?, above, other] at known
  have table : ∀ code : Fin 128, ∀ n ∈ value? (Char.ofNat code), n < 64
      ∧ Char.ofNat code = digit n := by decide +kernel
  have entry := table ⟨c.toNat, ascii⟩
  simp only [Char.ofNat_toNat] at entry
  exact entry n known

namespace SourceMap

open Reading (maxDigits next)

/-- The characters of digits that go on. -/
def openDigits (digits : List Nat) : List Char := digits.map fun digit => Base64.digit (32 + digit)

/-- A text is one quantity with a value: at most twelve digits of which all but the last one go on,
and which give the bits of the value from the low end on.
-/
def IsQuantity (text : List Char) (value : Int) : Prop :=
  ∃ (digits : List Nat) (last : Nat),
    (∀ digit ∈ digits, digit < 32)
    ∧ last < 32
    ∧ digits.length < maxDigits
    ∧ text = openDigits digits ++ [Base64.digit last]
    ∧ value = Reading.signed (Nat.ofDigits 32 (digits ++ [last]))

example : IsQuantity ['g', 'B'] 16 := ⟨[0], 1, by decide, by decide, by decide, rfl, rfl⟩

/-- A segment is a row of quantities with these values. -/
def Spells (segment : List Char) (values : List Int) : Prop :=
  ∃ texts : List (List Char), segment = texts.flatten ∧ List.Forall₂ IsQuantity texts values

namespace Reading

variable {bits k : Nat} {finished : List Int} {digits : List Nat}

/-- Digits that go on leave a value unfinished. -/
theorem foldlM_openDigits (small : ∀ digit ∈ digits, digit < 32)
    (enough : k + digits.length ≤ maxDigits)
    : (openDigits digits).foldlM next ⟨bits, 5 * k, finished⟩
      = .ok ⟨bits + Nat.ofDigits 32 digits * 2 ^ (5 * k), 5 * (k + digits.length), finished⟩ := by
  induction digits generalizing bits k with
  | nil => simp [openDigits, Nat.ofDigits, pure, Except.pure]
  | cons digit digits ih =>
      obtain ⟨first, rest⟩ := List.forall_mem_cons.mp small
      rw [List.length_cons] at enough
      have step : next ⟨bits, 5 * k, finished⟩ (Base64.digit (32 + digit))
          = .ok ⟨bits + digit * 2 ^ (5 * k), 5 * (k + 1), finished⟩ :=
        next_more (by omega) first
      have total : bits + digit * 2 ^ (5 * k) + Nat.ofDigits 32 digits * 2 ^ (5 * (k + 1))
          = bits + Nat.ofDigits 32 (digit :: digits) * 2 ^ (5 * k) := by
        rw [Nat.ofDigits_cons]
        ring
      have count : k + 1 + digits.length = k + (digit :: digits).length := by
        rw [List.length_cons]
        omega
      calc (openDigits (digit :: digits)).foldlM next ⟨bits, 5 * k, finished⟩
          = (openDigits digits).foldlM next
              ⟨bits + digit * 2 ^ (5 * k), 5 * (k + 1), finished⟩ := by
            rw [openDigits, List.map_cons, List.foldlM_cons, step]
            rfl
        _ = .ok ⟨bits + Nat.ofDigits 32 (digit :: digits) * 2 ^ (5 * k),
              5 * (k + (digit :: digits).length), finished⟩ := by
            rw [ih rest (by omega), total, count]

/-- The bits of digits with one more digit behind them. -/
theorem ofDigits_concat (digits : List Nat) (last : Nat)
    : Nat.ofDigits 32 (digits ++ [last])
      = Nat.ofDigits 32 digits + last * 2 ^ (5 * digits.length) := by
  rw [Nat.ofDigits_append, Nat.ofDigits_singleton, Nat.pow_mul, Nat.mul_comm last]

/-- A quantity is read as one more finished value. -/
theorem foldlM_isQuantity {text : List Char} {value : Int} (quantity : IsQuantity text value)
    : text.foldlM next ⟨0, 0, finished⟩ = .ok ⟨0, 0, value :: finished⟩ := by
  obtain ⟨digits, last, small, lastSmall, early, rfl, rfl⟩ := quantity
  have opened : (openDigits digits).foldlM next ⟨0, 5 * 0, finished⟩
      = .ok ⟨0 + Nat.ofDigits 32 digits * 2 ^ (5 * 0), 5 * (0 + digits.length), finished⟩ :=
    foldlM_openDigits small (by omega)
  rw [Nat.mul_zero, Nat.pow_zero, Nat.mul_one, Nat.zero_add, Nat.zero_add] at opened
  have closed : next ⟨Nat.ofDigits 32 digits, 5 * digits.length, finished⟩ (Base64.digit last)
      = .ok ⟨0, 0, signed (Nat.ofDigits 32 (digits ++ [last])) :: finished⟩ := by
    rw [next_last early lastSmall, ofDigits_concat]
  calc (openDigits digits ++ [Base64.digit last]).foldlM next ⟨0, 0, finished⟩
      = [Base64.digit last].foldlM next
          ⟨Nat.ofDigits 32 digits, 5 * digits.length, finished⟩ := by
        rw [List.foldlM_append, opened]
        rfl
    _ = .ok ⟨0, 0, signed (Nat.ofDigits 32 (digits ++ [last])) :: finished⟩ := by
        simp only [List.foldlM_cons, List.foldlM_nil, closed]
        rfl

theorem foldlM_spells {segment : List Char} {values : List Int} (spells : Spells segment values)
    : segment.foldlM next ⟨0, 0, finished⟩ = .ok ⟨0, 0, values.reverse ++ finished⟩ := by
  obtain ⟨texts, rfl, quantities⟩ := spells
  induction quantities generalizing finished with
  | nil => rfl
  | @cons text value texts values quantity _ ih =>
      rw [List.flatten_cons, List.foldlM_append, foldlM_isQuantity quantity, List.reverse_cons,
        List.append_assoc]
      exact ih

/-- What was read so far: whole quantities, and digits that go on behind them. -/
def Reads (text : List Char) (reading : Reading) : Prop :=
  ∃ (segment : List Char) (values : List Int) (digits : List Nat),
    Spells segment values
    ∧ (∀ digit ∈ digits, digit < 32)
    ∧ digits.length ≤ maxDigits
    ∧ text = segment ++ openDigits digits
    ∧ reading = ⟨Nat.ofDigits 32 digits, 5 * digits.length, values.reverse⟩

theorem reads_start : Reads [] start :=
  ⟨[], [], [], ⟨[], rfl, .nil⟩, by simp, Nat.zero_le _, rfl, rfl⟩

theorem spells_concat {segment text : List Char} {values : List Int} {value : Int}
    (spells : Spells segment values) (quantity : IsQuantity text value)
    : Spells (segment ++ text) (values ++ [value]) := by
  obtain ⟨texts, rfl, quantities⟩ := spells
  refine ⟨texts ++ [text], by simp, ?_⟩
  exact List.rel_append quantities (.cons quantity .nil)

/-- One more character keeps what was read a row of quantities and open digits. -/
theorem Reads.next {text : List Char} {reading after : Reading} {c : Char}
    (reads : Reads text reading) (step : reading.next c = .ok after)
    : Reads (text ++ [c]) after := by
  obtain ⟨segment, values, digits, spells, small, enough, rfl, rfl⟩ := reads
  cases known : Base64.value? c with
  | none => simp [Reading.next, known] at step
  | some n =>
      obtain ⟨inRange, rfl⟩ := Base64.digit_of_value? known
      have early : digits.length < maxDigits := by
        by_contra late
        have beyond : maxShift < 5 * digits.length := by
          simp only [maxShift, maxDigits] at *
          omega
        simp [Reading.next, known, beyond] at step
      rcases Nat.lt_or_ge n 32 with last | more
      · -- The digit ends the value.
        rw [next_last early last] at step
        cases step
        have quantity : IsQuantity (openDigits digits ++ [Base64.digit n])
            (signed (Nat.ofDigits 32 (digits ++ [n]))) :=
          ⟨digits, n, small, last, early, rfl, rfl⟩
        refine ⟨segment ++ (openDigits digits ++ [Base64.digit n]), _, [],
          spells_concat spells quantity, by simp, Nat.zero_le _, ?_, ?_⟩
        · simp [openDigits]
        · rw [List.reverse_append, ofDigits_concat]
          rfl
      · -- The digit goes on.
        obtain ⟨digit, rfl⟩ := Nat.exists_eq_add_of_le more
        have low : digit < 32 := by omega
        rw [next_more early low] at step
        cases step
        refine ⟨segment, values, digits ++ [digit], spells, ?_, ?_, ?_, ?_⟩
        · intro other member
          rcases List.mem_append.mp member with earlier | same
          · exact small other earlier
          · rw [List.mem_singleton.mp same]
            exact low
        · rw [List.length_append]
          exact early
        · simp [openDigits]
        · rw [ofDigits_concat, List.length_append]
          rfl

theorem Reads.foldlM {before text : List Char} {reading after : Reading}
    (reads : Reads before reading) (run : text.foldlM Reading.next reading = .ok after)
    : Reads (before ++ text) after := by
  induction text generalizing before reading with
  | nil =>
      cases run
      rw [List.append_nil]
      exact reads
  | cons c text ih =>
      rw [List.foldlM_cons] at run
      cases step : reading.next c with
      | error fault => simp [step, bind, Except.bind] at run
      | ok middle =>
          rw [step] at run
          have rest := ih (reads.next step) run
          rwa [List.append_assoc] at rest

end Reading

/-- The values of a segment are those that its quantities spell, and there are none if it is no row
of quantities.
-/
theorem segmentValues_eq_ok_iff {segment : List Char} {values : List Int}
    : segmentValues segment = .ok values ↔ Spells segment values := by
  constructor
  · intro read
    cases run : segment.foldlM Reading.next Reading.start with
    | error fault => simp [segmentValues, run, bind, Except.bind] at read
    | ok reading =>
        obtain ⟨whole, found, digits, spells, small, _, text, rfl⟩ :=
          Reading.reads_start.foldlM run
        cases digits with
        | nil =>
            have same : found = values := by
              simpa [segmentValues, run, bind, Except.bind, pure, Except.pure] using read
            rw [List.nil_append, openDigits, List.map_nil, List.append_nil] at text
            rwa [text, ← same]
        | cons digit digits =>
            simp [segmentValues, run, bind, Except.bind, throw, throwThe,
              MonadExceptOf.throw] at read
  · intro spells
    have run : segment.foldlM Reading.next Reading.start = .ok ⟨0, 0, values.reverse ++ []⟩ :=
      Reading.foldlM_spells spells
    simp [segmentValues, run, bind, Except.bind, pure, Except.pure]

end SourceMap

end EarlyBreak
