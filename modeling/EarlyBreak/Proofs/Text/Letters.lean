import EarlyBreak.Text.Ascii

/-! ASCII letters and their case, by their codes. -/

namespace EarlyBreak.Text

variable {letter c : Char} {n : Nat}

theorem char_le_iff (c other : Char) : c ≤ other ↔ c.toNat ≤ other.toNat :=
  UInt32.le_iff_toNat_le

theorem toNat_ofNat_of_valid (valid : n < 0xD800 ∨ 0xDFFF < n ∧ n < 0x110000)
    : (Char.ofNat n).toNat = n := by
  have isValid : n.isValidChar := valid
  rw [Char.ofNat, dif_pos isValid]
  rfl

theorem isAsciiLetter_iff
    : isAsciiLetter letter = true
      ↔ (97 ≤ letter.toNat ∧ letter.toNat ≤ 122) ∨ (65 ≤ letter.toNat ∧ letter.toNat ≤ 90) := by
  simp [isAsciiLetter, char_le_iff]

/-- Only capital letters change, by the same distance. -/
theorem toNat_lowerAscii (c : Char)
    : (lowerAscii c).toNat = if 65 ≤ c.toNat ∧ c.toNat ≤ 90 then c.toNat + 32 else c.toNat := by
  simp only [lowerAscii, char_le_iff, Char.reduceToNat]
  split
  case isTrue capital => exact toNat_ofNat_of_valid (by omega)
  case isFalse => rfl

/-- A letter becomes one in lower case. -/
theorem lowerAscii_of_letter (isLetter : isAsciiLetter letter = true)
    : 97 ≤ (lowerAscii letter).toNat ∧ (lowerAscii letter).toNat ≤ 122 := by
  have letters := isAsciiLetter_iff.mp isLetter
  rw [toNat_lowerAscii]
  split <;> omega

theorem isAsciiLetter_of_lowerAscii (isLetter : isAsciiLetter (lowerAscii c) = true)
    : isAsciiLetter c = true := by
  have code := toNat_lowerAscii c
  rw [isAsciiLetter_iff] at isLetter ⊢
  split at code <;> omega

theorem lowerAscii_lowerAscii (c : Char) : lowerAscii (lowerAscii c) = lowerAscii c := by
  have code := toNat_lowerAscii c
  refine if_neg fun capital => ?_
  simp only [char_le_iff, Char.reduceToNat] at capital
  split at code <;> omega

/-- No other character than itself is put into lower case as one that is no letter. -/
theorem eq_of_lowerAscii_eq (lower : lowerAscii c = letter) (small : letter.toNat < 97)
    : c = letter := by
  have code := toNat_lowerAscii c
  rw [lower] at code
  have same : letter.toNat = c.toNat := by
    split at code <;> omega
  rw [← Char.ofNat_toNat c, ← same, Char.ofNat_toNat]

end EarlyBreak.Text
