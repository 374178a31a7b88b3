import EarlyBreak.Json.Reader
import EarlyBreak.Json.Writer
import EarlyBreak.Proofs.Text.Letters
import Mathlib.Data.List.TakeDrop

/-! Literals of strings and integers: what is read of one that was written, wherever it stands.
-/

namespace EarlyBreak.Json

variable {s rest blank : List Char} {c : Char} {fuel n : Nat}

/-- The piece of a literal that a character is written as: a control without a letter of its own is
the code unit of an escape.
-/
def pieceOf (c : Char) : Piece :=
  if c.toNat < 0x20 ∧ c ∉ ['\x08', '\x0c', '\n', '\r', '\t'] then .unit c.toNat else .char c

theorem hexValue?_lowerHexDigit (small : n < 16)
    : Text.hexValue? (Text.lowerHexDigit n) = some n := by
  have all : ∀ n < 16, Text.hexValue? (Text.lowerHexDigit n) = some n := by decide
  exact all n small

/-- The four digits of an escaped control character are read back. -/
theorem fourDigits?_control (small : n < 256) (rest : List Char)
    : fourDigits? ('0' :: '0' :: Text.lowerHexDigit (n / 16) :: Text.lowerHexDigit (n % 16) :: rest)
      = some (n, rest) := by
  have zero : Text.hexValue? '0' = some 0 := by decide
  have high := hexValue?_lowerHexDigit (show n / 16 < 16 by omega)
  have low := hexValue?_lowerHexDigit (show n % 16 < 16 by omega)
  have whole : 0 * 4096 + 0 * 256 + n / 16 * 16 + n % 16 = n := by omega
  simp only [fourDigits?, zero, high, low, Option.bind_eq_bind, Option.bind_some, whole,
    Option.pure_def]

/-- How a character is written: by a letter that stands for it, by its code, or as it is. -/
theorem escapeChar_cases (c : Char)
    : (∃ letter, escapeChar c = ['\\', letter] ∧ letter ≠ 'u' ∧ simpleEscape? letter = some c
        ∧ pieceOf c = .char c)
      ∨ (c.toNat < 0x20 ∧ pieceOf c = .unit c.toNat
        ∧ escapeChar c = ['\\', 'u', '0', '0', Text.lowerHexDigit (c.toNat / 16),
          Text.lowerHexDigit (c.toNat % 16)])
      ∨ c ≠ '"' ∧ c ≠ '\\' ∧ ¬ c.toNat < 0x20 ∧ escapeChar c = [c] ∧ pieceOf c = .char c := by
  by_cases lettered : c ∈ ['"', '\\', '\x08', '\x0c', '\n', '\r', '\t']
  · left
    simp only [List.mem_cons, List.not_mem_nil, or_false] at lettered
    rcases lettered with rfl | rfl | rfl | rfl | rfl | rfl | rfl
    all_goals exact ⟨_, rfl, by decide, by decide, rfl⟩
  · right
    simp only [List.mem_cons, List.not_mem_nil, or_false, not_or] at lettered
    obtain ⟨quote, backslash, back, form, line, return', tab⟩ := lettered
    have other : c ∉ ['\x08', '\x0c', '\n', '\r', '\t'] := by
      simp [back, form, line, return', tab]
    by_cases control : c.toNat < 0x20
    · left
      refine ⟨control, if_pos ⟨control, other⟩, ?_⟩
      simp only [escapeChar, quote, backslash, back, form, line, return', tab, control, if_true,
        if_false]
    · right
      refine ⟨quote, backslash, control, ?_, if_neg fun both => control both.1⟩
      simp only [escapeChar, quote, backslash, back, form, line, return', tab, control, if_false]

/-- An escape of one letter is read as the character that it names. -/
theorem pieces?_letter {letter : Char} (other : letter ≠ 'u')
    (known : simpleEscape? letter = some c) (fuel : Nat) (rest : List Char)
    : pieces? (fuel + 1) ('\\' :: letter :: rest)
      = (pieces? fuel rest).map fun (pieces, rest) => (.char c :: pieces, rest) := by
  rw [pieces?]
  · rw [known]
    cases pieces? fuel rest <;> rfl
  · simpa using other

theorem pieces?_plain (quote : c ≠ '"') (backslash : c ≠ '\\') (plain : ¬ c.toNat < 0x20)
    (fuel : Nat) (rest : List Char)
    : pieces? (fuel + 1) (c :: rest)
      = (pieces? fuel rest).map fun (pieces, rest) => (.char c :: pieces, rest) := by
  rw [pieces?]
  · rw [if_neg plain]
    cases pieces? fuel rest <;> rfl
  · exact quote
  · exact fun _ same => absurd same backslash
  · exact fun _ _ same => absurd same backslash
  · exact fun same => absurd same backslash

/-- An escaped character is read as its piece. -/
theorem pieces?_escapeChar (fuel : Nat) (c : Char) (rest : List Char)
    : pieces? (fuel + 1) (escapeChar c ++ rest)
      = (pieces? fuel rest).map fun (pieces, rest) => (pieceOf c :: pieces, rest) := by
  rcases escapeChar_cases c with ⟨letter, written, other, known, piece⟩ | ⟨control, piece, written⟩
      | ⟨quote, backslash, plain, written, piece⟩
  · rw [written, piece]
    exact pieces?_letter other known fuel rest
  · rw [written, piece]
    simp only [List.cons_append, List.nil_append]
    rw [pieces?, fourDigits?_control (by omega)]
    simp only [Option.bind_eq_bind, Option.bind_some]
    cases pieces? fuel rest <;> rfl
  · rw [written, piece]
    exact pieces?_plain quote backslash plain fuel rest

/-- A text up to its closing quote is read as the pieces of its characters. -/
theorem pieces?_flatMap_escapeChar (small : s.length < fuel) (rest : List Char)
    : pieces? fuel (s.flatMap escapeChar ++ '"' :: rest) = some (s.map pieceOf, rest) := by
  induction s generalizing fuel with
  | nil =>
      obtain ⟨less, rfl⟩ := Nat.exists_eq_add_one_of_ne_zero (Nat.ne_zero_of_lt small)
      rw [List.flatMap_nil, List.nil_append, pieces?, List.map_nil]
  | cons c s ih =>
      obtain ⟨less, rfl⟩ := Nat.exists_eq_add_one_of_ne_zero (Nat.ne_zero_of_lt small)
      have shorter : s.length < less := Nat.lt_of_succ_lt_succ small
      rw [List.flatMap_cons, List.append_assoc, pieces?_escapeChar, ih shorter, Option.map_some,
        List.map_cons]

/-- A code unit below the surrogates is a character, whatever follows it. -/
theorem characters?_unit {value : Nat} (small : value < 0xD800) (pieces : List Piece)
    : characters? (.unit value :: pieces)
      = (characters? pieces).map (Char.ofNat value :: ·) := by
  have high : ¬ (0xD800 ≤ value ∧ value < 0xDC00) := by omega
  have low : ¬ (0xDC00 ≤ value ∧ value < 0xE000) := by omega
  have half : ¬ (0xD800 ≤ value ∧ value < 0xE000) := by omega
  rcases pieces with - | ⟨c | next, pieces⟩
  · rw [characters?.eq_4 value [] nofun, if_neg half]
  · have single : ∀ low rest, Piece.char c :: pieces = .unit low :: rest → False := by
      intro low rest same
      cases same
    rw [characters?.eq_4 value _ single, if_neg half]
  · rw [characters?.eq_3, if_neg high, if_neg low]

theorem characters?_map_pieceOf (s : List Char) : characters? (s.map pieceOf) = some s := by
  induction s with
  | nil => rfl
  | cons c s ih =>
      rw [List.map_cons, pieceOf]
      split
      case isTrue control =>
        rw [characters?_unit (by omega), ih, Option.map_some, Char.ofNat_toNat]
      case isFalse => rw [characters?, ih, Option.map_some]

/-- A text that does not go on with a number. -/
def EndsNumber (rest : List Char) : Prop := ∀ c ∈ rest.head?, isNumberChar c = false

theorem isAsciiDigit_of_mem_toDigits (digit : c ∈ Nat.toDigits 10 n)
    : Text.isAsciiDigit c = true := by
  have known := Nat.isDigit_of_mem_toDigits (by decide) (by decide) digit
  simpa [Text.isAsciiDigit, Char.isDigit, Char.le_def] using known

theorem digitsValue_toDigits (n : Nat) : digitsValue (Nat.toDigits 10 n) = n := by
  calc digitsValue (Nat.toDigits 10 n)
    _ = Nat.ofDigitChars 10 (Nat.toDigits 10 n) 0 := by
      simp only [digitsValue, Nat.ofDigitChars_eq_foldl, Nat.mul_comm]
    _ = n := Nat.ofDigitChars_ten_toDigits

/-- A positive number is written without a leading zero. -/
theorem head?_toDigits_ne (positive : 0 < n) : (Nat.toDigits 10 n).head? ≠ some '0' := by
  induction n using Nat.strongRecOn with
  | _ n ih =>
      rcases Nat.lt_or_ge n 10 with small | large
      · rw [Nat.toDigits_of_lt_base small, List.head?_cons, Ne, Option.some.injEq,
          Nat.digitChar_eq_zero]
        exact Nat.ne_of_gt positive
      · have fewer := ih (n / 10) (by omega) (by omega)
        rw [Nat.toDigits_of_base_le (by decide) large, List.head?_append]
        cases front : (Nat.toDigits 10 (n / 10)).head? with
        | none => exact absurd (List.head?_eq_none_iff.mp front) Nat.toDigits_ne_nil
        | some c => rwa [front] at fewer

/-- All digits of a number are read, and nothing behind them. -/
theorem span_toDigits (ends : EndsNumber rest)
    : (Nat.toDigits 10 n ++ rest).span Text.isAsciiDigit = (Nat.toDigits 10 n, rest) := by
  have digits : ∀ c ∈ Nat.toDigits 10 n, Text.isAsciiDigit c = true :=
    fun c => isAsciiDigit_of_mem_toDigits
  have behind : rest.takeWhile Text.isAsciiDigit = []
      ∧ rest.dropWhile Text.isAsciiDigit = rest := by
    cases rest with
    | nil => exact ⟨rfl, rfl⟩
    | cons c rest =>
        have other : Text.isAsciiDigit c = false := (Bool.or_eq_false_iff.mp (ends c rfl)).1
        simp [other]
  rw [List.span_eq_takeWhile_dropWhile, List.takeWhile_append_of_pos digits,
    List.dropWhile_append_of_pos digits, behind.1, behind.2, List.append_nil]

theorem fraction?_of_endsNumber (ends : EndsNumber rest) : fraction? rest = some (none, rest) := by
  rw [fraction?.eq_def]
  split
  · cases ends '.' rfl
  · rfl

theorem exponent?_of_endsNumber (ends : EndsNumber rest) : exponent? rest = some (none, rest) := by
  rw [exponent?.eq_def]
  split
  all_goals first
    | cases ends 'e' rfl
    | cases ends 'E' rfl
    | rfl

/-- The sign of a literal that is `s` without it. -/
def withSign (negative : Bool) (s : List Char) : List Char := if negative then '-' :: s else s

theorem toDigits_append_ne (n : Nat) (rest signed : List Char)
    : Nat.toDigits 10 n ++ rest ≠ '-' :: signed := by
  intro same
  obtain ⟨c, more, digits⟩ := List.exists_cons_of_ne_nil (Nat.toDigits_ne_nil (n := n) (b := 10))
  have digit : Text.isAsciiDigit c = true :=
    isAsciiDigit_of_mem_toDigits (n := n) (by rw [digits]; exact List.mem_cons_self)
  rw [digits, List.cons_append] at same
  obtain ⟨rfl, -⟩ := List.cons.inj same
  cases digit

/-- The parts of a written integer: its digits, and its sign if it is negative. -/
theorem numberParts?_withSign (ends : EndsNumber rest) (negative : Bool) (n : Nat)
    : numberParts? (withSign negative (Nat.toDigits 10 n) ++ rest)
      = some (⟨negative, Nat.toDigits 10 n, none, none⟩, rest) := by
  cases negative
  case' true => rw [withSign, if_pos rfl, List.cons_append, numberParts?]
  case' false =>
    rw [withSign, if_neg Bool.false_ne_true, numberParts?]
    rotate_left
    exact fun signed => toDigits_append_ne n rest signed
  all_goals
    simp only [span_toDigits ends]
    split
    case h_1 empty => exact absurd empty Nat.toDigits_ne_nil
    case h_2 leading =>
      rcases Nat.eq_zero_or_pos n with rfl | positive
      · cases leading
      · exact absurd (congrArg List.head? leading) (head?_toDigits_ne positive)
    case h_3 =>
      simp only [fraction?_of_endsNumber ends, exponent?_of_endsNumber ends, bind, Option.bind,
        pure]

/-- The value of a written integer of 64 bits, whatever text it is kept with. -/
theorem value_int {n : Int} (lower : -(Nat.pow 2 63 : Nat) ≤ n) (upper : n < (Nat.pow 2 64 : Nat))
    (literal : List Char)
    : NumberParts.value ⟨decide (n < 0), Nat.toDigits 10 n.natAbs, none, none⟩ literal
      = .int n := by
  simp only [NumberParts.value, digitsValue_toDigits, Option.isNone_none, Bool.and_self,
    Bool.true_and, Bool.and_eq_true, decide_eq_true_eq, Bool.not_eq_true', decide_eq_false_iff_not]
  by_cases negative : n < 0
  · have bound : 0 < n.natAbs ∧ n.natAbs ≤ Nat.pow 2 63 := by omega
    have value : -(n.natAbs : Int) = n := by omega
    rw [if_pos ⟨⟨negative, bound.1⟩, bound.2⟩, value]
  · have bound : n.natAbs < Nat.pow 2 64 := by omega
    have value : (n.natAbs : Int) = n := by omega
    rw [if_neg fun both => negative both.1.1, if_pos ⟨negative, bound⟩, value]

/-- An integer is written as digits, behind a sign if it is negative. -/
theorem toList_toString_int (n : Int)
    : (toString n).toList = withSign (decide (n < 0)) (Nat.toDigits 10 n.natAbs) := by
  rw [Int.toString_eq_repr, Int.repr_eq_if, withSign]
  by_cases negative : n < 0
  · have size : (-n).toNat = n.natAbs := by omega
    rw [if_neg (by omega), if_pos (decide_eq_true negative), size, String.toList_append,
      Nat.toList_repr]
    rfl
  · have size : n.toNat = n.natAbs := by omega
    rw [if_pos (by omega), if_neg (by simpa using negative), size, Nat.toList_repr]

end EarlyBreak.Json
