import EarlyBreak.SourceMap.Vlq
import Mathlib.Tactic.Ring

/-! Reading undoes writing for variable-length quantities of up to sixty bits, and so for the fields
of a segment one after the other.
-/

namespace EarlyBreak

namespace Base64

theorem value?_digit {n : Nat} (small : n < 64) : value? (digit n) = some n := by
  have known : ∀ n : Fin 64, value? (digit n) = some n.val := by decide +kernel
  exact known ⟨n, small⟩

end Base64

namespace SourceMap

namespace Reading

/-- The most digits that a quantity may have. -/
def maxDigits : Nat := 12

/-- A number with its sign in the lowest bit. -/
def zigzag (n : Int) : Nat := if n < 0 then n.natAbs * 2 + 1 else n.natAbs * 2

/-- The sign of a number is read back from the lowest bit. -/
theorem signed_zigzag (n : Int) : signed (zigzag n) = n := by
  rw [signed, zigzag]
  split <;> split <;> omega

theorem writeQuantity_eq (n : Int)
    : writeQuantity n = quantityDigits (zigzag n + 1) (zigzag n) := rfl

variable {bits k n : Nat} {finished : List Int}

/-- A digit below thirty-two ends a quantity. -/
theorem next_last (early : k < maxDigits) (small : n < 32)
    : next ⟨bits, 5 * k, finished⟩ (Base64.digit n)
      = .ok ⟨0, 0, signed (bits + n * 2 ^ (5 * k)) :: finished⟩ := by
  have inTime : ¬ maxShift < 5 * k := by simp only [maxShift, maxDigits] at *; omega
  have ends : ¬ 32 ≤ n := by omega
  simp only [next, Base64.value?_digit (show n < 64 by omega), inTime, ends, if_false,
    Nat.mod_eq_of_lt small, Nat.pow_eq]

/-- A digit from thirty-two on adds its five low bits. -/
theorem next_more (early : k < maxDigits) (small : n < 32)
    : next ⟨bits, 5 * k, finished⟩ (Base64.digit (32 + n))
      = .ok ⟨bits + n * 2 ^ (5 * k), 5 * (k + 1), finished⟩ := by
  have inTime : ¬ maxShift < 5 * k := by simp only [maxShift, maxDigits] at *; omega
  have goesOn : 32 ≤ 32 + n := by omega
  have low : (32 + n) % 32 = n := by omega
  simp only [next, Base64.value?_digit (show 32 + n < 64 by omega), inTime, goesOn, if_true,
    if_false, low, Nat.pow_eq, Nat.mul_add_one]

/-- The digits of a number are read as that number behind the bits before it, by induction on the
number of digits still to come.
-/
theorem foldlM_quantityDigits (fuel : Nat) (early : k < maxDigits) (enough : n < fuel)
    (small : n < 32 ^ (maxDigits - k))
    : (quantityDigits fuel n).foldlM next ⟨bits, 5 * k, finished⟩
      = .ok ⟨0, 0, signed (bits + n * 2 ^ (5 * k)) :: finished⟩ := by
  induction fuel generalizing bits k n with
  | zero => omega
  | succ fuel ih =>
      rw [quantityDigits]
      split
      case isTrue last =>
        simp only [List.foldlM_cons, next_last early last, List.foldlM_nil]
        rfl
      case isFalse more =>
        have digits : maxDigits - k = (maxDigits - (k + 1)) + 1 := by omega
        rw [digits, Nat.pow_succ] at small
        have rest : n / 32 < 32 ^ (maxDigits - (k + 1)) := by omega
        have earlyRest : k + 1 < maxDigits := by
          by_contra late
          have none : maxDigits - (k + 1) = 0 := by omega
          rw [none, Nat.pow_zero] at rest
          omega
        have total : bits + n % 32 * 2 ^ (5 * k) + n / 32 * 2 ^ (5 * (k + 1))
            = bits + n * 2 ^ (5 * k) := by
          calc bits + n % 32 * 2 ^ (5 * k) + n / 32 * 2 ^ (5 * (k + 1))
              = bits + (n % 32 + 32 * (n / 32)) * 2 ^ (5 * k) := by ring
            _ = bits + n * 2 ^ (5 * k) := by rw [Nat.mod_add_div]
        have step : next ⟨bits, 5 * k, finished⟩ (Base64.digit (32 + n % 32))
            = .ok ⟨bits + n % 32 * 2 ^ (5 * k), 5 * (k + 1), finished⟩ :=
          next_more early (Nat.mod_lt n (by decide))
        calc (Base64.digit (32 + n % 32) :: quantityDigits fuel (n / 32)).foldlM next
              ⟨bits, 5 * k, finished⟩
            = (quantityDigits fuel (n / 32)).foldlM next
                ⟨bits + n % 32 * 2 ^ (5 * k), 5 * (k + 1), finished⟩ := by
              rw [List.foldlM_cons, step]
              rfl
          _ = .ok ⟨0, 0, signed (bits + n * 2 ^ (5 * k)) :: finished⟩ := by
              rw [ih earlyRest (by omega) rest, total]

/-- A written quantity is read as one more finished value. -/
theorem foldlM_writeQuantity {value : Int} (small : value.natAbs < 2 ^ 59)
    : (writeQuantity value).foldlM next ⟨0, 0, finished⟩
      = .ok ⟨0, 0, value :: finished⟩ := by
  have bound : zigzag value < 32 ^ maxDigits := by
    simp only [zigzag, maxDigits]
    split <;> omega
  have read : (quantityDigits (zigzag value + 1) (zigzag value)).foldlM next ⟨0, 5 * 0, finished⟩
      = .ok ⟨0, 0, signed (0 + zigzag value * 2 ^ (5 * 0)) :: finished⟩ :=
    foldlM_quantityDigits _ (by decide) (Nat.lt_succ_self _) bound
  rw [Nat.mul_zero, Nat.pow_zero, Nat.mul_one, Nat.zero_add, signed_zigzag] at read
  rw [writeQuantity_eq, read]

/-- Quantities are read back one after the other, by induction on them. -/
theorem foldlM_writeQuantities {values : List Int}
    (small : ∀ value ∈ values, value.natAbs < 2 ^ 59)
    : (values.flatMap writeQuantity).foldlM next ⟨0, 0, finished⟩
      = .ok ⟨0, 0, values.reverse ++ finished⟩ := by
  induction values generalizing finished with
  | nil => rfl
  | cons value rest ih =>
      obtain ⟨first, others⟩ := List.forall_mem_cons.mp small
      rw [List.flatMap_cons, List.foldlM_append, foldlM_writeQuantity first]
      have read : (rest.flatMap writeQuantity).foldlM next ⟨0, 0, value :: finished⟩
          = .ok ⟨0, 0, rest.reverse ++ value :: finished⟩ := ih others
      rw [List.reverse_cons, List.append_assoc]
      exact read

end Reading

/-- The values of a segment are read back from their quantities. -/
theorem segmentValues_writeQuantities {values : List Int}
    (small : ∀ value ∈ values, value.natAbs < 2 ^ 59)
    : segmentValues (values.flatMap writeQuantity) = .ok values := by
  have read : (values.flatMap writeQuantity).foldlM Reading.next Reading.start
      = .ok ⟨0, 0, values.reverse ++ []⟩ := Reading.foldlM_writeQuantities small
  simp [segmentValues, read, bind, Except.bind, pure, Except.pure]

theorem isSome_value?_of_mem_quantityDigits {fuel n : Nat} {c : Char}
    (member : c ∈ quantityDigits fuel n)
    : (Base64.value? c).isSome := by
  induction fuel generalizing n with
  | zero => cases member
  | succ fuel ih =>
      rw [quantityDigits] at member
      split at member
      case isTrue last =>
        rw [List.mem_singleton.mp member, Base64.value?_digit (by omega)]
        rfl
      case isFalse =>
        rcases List.mem_cons.mp member with rfl | later
        · rw [Base64.value?_digit (by omega)]
          rfl
        · exact ih later

/-- A character that is no digit occurs in no quantity, and so neither commas nor semicolons do. -/
theorem not_mem_writeQuantities {values : List Int} {c : Char} (other : Base64.value? c = none)
    : c ∉ values.flatMap writeQuantity := by
  intro member
  obtain ⟨value, -, written⟩ := List.mem_flatMap.mp member
  have digit := isSome_value?_of_mem_quantityDigits written
  simp [other] at digit

theorem writeQuantity_ne_nil (n : Int) : writeQuantity n ≠ [] := by
  rw [Reading.writeQuantity_eq, quantityDigits]
  split <;> exact List.cons_ne_nil _ _

end SourceMap

end EarlyBreak
