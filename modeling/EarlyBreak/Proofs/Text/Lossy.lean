import EarlyBreak.Proofs.OutFiles.Pieces
import EarlyBreak.Proofs.Text.Letters

/-! Bytes that are decoded whatever they are.  Both decoders agree on the bytes of a text.  An ASCII
byte is its character wherever it stands and comes from nothing else, so bytes may be cut at ASCII
bytes before or after they are decoded.
-/

namespace EarlyBreak.Text

variable {first second byte : UInt8} {rest bytes : List UInt8} {c ascii : Char} {n : Nat}

-----------------------------------------------------------------------------------------
-- Bytes as numbers
-----------------------------------------------------------------------------------------

theorem isTail_iff : isTail byte = true ↔ 0x80 ≤ byte.toNat ∧ byte.toNat ≤ 0xBF := by
  simp [isTail, UInt8.le_iff_toNat_le]

/-- What may follow continues a character, and there are bounds to it behind four bytes. -/
theorem mayFollow_iff
    : mayFollow first second = true
      ↔ isTail second = true
        ∧ (first.toNat = 0xE0 → 0xA0 ≤ second.toNat)
        ∧ (first.toNat = 0xED → second.toNat ≤ 0x9F)
        ∧ (first.toNat = 0xF0 → 0x90 ≤ second.toNat)
        ∧ (first.toNat = 0xF4 → second.toNat ≤ 0x8F) := by
  have number (value : UInt8) : first = value ↔ first.toNat = value.toNat := UInt8.toNat_inj.symm
  unfold mayFollow
  split_ifs <;>
    simp_all [isTail, UInt8.le_iff_toNat_le] <;> omega

theorem not_isTail_of_ascii (small : ascii.toNat < 128)
    : isTail (UInt8.ofNat ascii.toNat) = false := by
  rw [← Bool.not_eq_true, isTail_iff, UInt8.toNat_ofNat']
  omega

/-- A byte of seven bits follows none in a character of several bytes. -/
theorem not_mayFollow_of_ascii (small : ascii.toNat < 128) (first : UInt8)
    : mayFollow first (UInt8.ofNat ascii.toNat) = false := by
  rw [← Bool.not_eq_true, mayFollow_iff, not_isTail_of_ascii small]
  exact fun follows => absurd follows.1 (by decide)

-----------------------------------------------------------------------------------------
-- One character
-----------------------------------------------------------------------------------------

/-- The character that a front stands for. -/
def Front.read : Front → Char
  | .char c _ => c
  | .broken _ => Char.ofNat 0xFFFD

/-- How many bytes a front takes. -/
def Front.size : Front → Nat
  | .char _ size => size
  | .broken size => size

section Leads

variable (rest : List UInt8)

theorem front_one (lead : first.toNat < 0x80)
    : front first rest = .char (Char.ofNat first.toNat) 1 := by
  have low : first < 0x80 := UInt8.lt_iff_toNat_lt.mpr lead
  unfold front
  rw [if_pos low]

theorem front_two (from2 : 0xC2 ≤ first.toNat) (to2 : first.toNat ≤ 0xDF)
    : front first rest
      = match rest with
        | second :: _ =>
            if isTail second then .char (Char.ofNat (first.toNat % 32 * 64 + low6 second)) 2
            else .broken 1
        | [] => .broken 1 := by
  have high : ¬ first.toNat < 0x80 := by omega
  cases rest <;> simp [front, UInt8.lt_iff_toNat_lt, UInt8.le_iff_toNat_le, high, from2, to2]

theorem front_three (from3 : 0xE0 ≤ first.toNat) (to3 : first.toNat ≤ 0xEF)
    : front first rest = frontOfThree first rest := by
  have high : ¬ first.toNat < 0x80 ∧ ¬ first.toNat ≤ 0xDF := by omega
  simp [front, UInt8.lt_iff_toNat_lt, UInt8.le_iff_toNat_le, high, from3, to3]

theorem front_four (from4 : 0xF0 ≤ first.toNat) (to4 : first.toNat ≤ 0xF4)
    : front first rest = frontOfFour first rest := by
  have high : ¬ first.toNat < 0x80 ∧ ¬ first.toNat ≤ 0xDF ∧ ¬ first.toNat ≤ 0xEF := by omega
  simp [front, UInt8.lt_iff_toNat_lt, UInt8.le_iff_toNat_le, high, from4, to4]

/-- Bytes between and above the leads start nothing. -/
theorem front_other (high : 0x80 ≤ first.toNat)
    (other : first.toNat < 0xC2 ∨ 0xF4 < first.toNat)
    : front first rest = .broken 1 := by
  unfold front
  simp only [UInt8.lt_iff_toNat_lt, UInt8.le_iff_toNat_le, UInt8.toNat_ofNat, Bool.and_eq_true,
    decide_eq_true_eq]
  rw [if_neg (by omega), if_neg (by omega), if_neg (by omega), if_neg (by omega)]

end Leads

theorem front_of_ascii (small : ascii.toNat < 128) (rest : List UInt8)
    : front (UInt8.ofNat ascii.toNat) rest = .char ascii 1 := by
  have number := UInt8.toNat_ofNat_of_lt' (Nat.lt_trans small (by decide) : ascii.toNat < 256)
  rw [front_one rest (by omega), number, Char.ofNat_toNat]

/-- The bytes of a character are read as that character. -/
theorem front_utf8EncodeChar (c : Char) (rest : List UInt8)
    : ∃ first tail,
        String.utf8EncodeChar c = first :: tail
        ∧ front first (tail ++ rest) = .char c (tail.length + 1) := by
  have code : c.val.toNat = c.toNat := rfl
  have valid : c.toNat < 0xD800 ∨ 0xDFFF < c.toNat ∧ c.toNat < 0x110000 := c.valid
  have last := UInt8.toNat_ofNat_of_lt' (show c.toNat % 64 + 128 < 256 by omega)
  have third := UInt8.toNat_ofNat_of_lt' (show c.toNat / 64 % 64 + 128 < 256 by omega)
  have fourth := UInt8.toNat_ofNat_of_lt' (show c.toNat / 4096 % 64 + 128 < 256 by omega)
  have tails : isTail (UInt8.ofNat (c.toNat % 64 + 128)) = true
      ∧ isTail (UInt8.ofNat (c.toNat / 64 % 64 + 128)) = true
      ∧ isTail (UInt8.ofNat (c.toNat / 4096 % 64 + 128)) = true := by
    simp only [isTail_iff, last, third, fourth]
    omega
  unfold String.utf8EncodeChar
  simp only [code]
  split_ifs with one two three
  · exact ⟨_, [], rfl, front_of_ascii (by omega) rest⟩
  · have lead := UInt8.toNat_ofNat_of_lt' (show c.toNat / 64 % 32 + 192 < 256 by omega)
    have whole : (c.toNat / 64 % 32 + 192) % 32 * 64 + (c.toNat % 64 + 128) % 64 = c.toNat := by
      omega
    refine ⟨_, _, rfl, ?_⟩
    rw [front_two _ (by omega) (by omega)]
    simp only [List.cons_append, tails, if_true, low6, lead, last, whole, Char.ofNat_toNat,
      List.length_cons, List.length_nil]
  · have lead := UInt8.toNat_ofNat_of_lt' (show c.toNat / 4096 % 16 + 224 < 256 by omega)
    have whole : (c.toNat / 4096 % 16 + 224) % 16 * 4096 + (c.toNat / 64 % 64 + 128) % 64 * 64
        + (c.toNat % 64 + 128) % 64 = c.toNat := by
      omega
    have follows : mayFollow (UInt8.ofNat (c.toNat / 4096 % 16 + 224))
        (UInt8.ofNat (c.toNat / 64 % 64 + 128)) = true := by
      rw [mayFollow_iff, lead, third]
      exact ⟨tails.2.1, by omega⟩
    refine ⟨_, _, rfl, ?_⟩
    rw [front_three _ (by omega) (by omega)]
    simp only [List.cons_append, frontOfThree, follows, tails, Bool.not_true, Bool.false_eq_true,
      if_false, low6, lead, third, last, whole, Char.ofNat_toNat, List.length_cons,
      List.length_nil]
  · have lead := UInt8.toNat_ofNat_of_lt' (show c.toNat / 262144 % 8 + 240 < 256 by omega)
    have whole : (c.toNat / 262144 % 8 + 240) % 8 * 262144
        + (c.toNat / 4096 % 64 + 128) % 64 * 4096 + (c.toNat / 64 % 64 + 128) % 64 * 64
        + (c.toNat % 64 + 128) % 64 = c.toNat := by
      omega
    have follows : mayFollow (UInt8.ofNat (c.toNat / 262144 % 8 + 240))
        (UInt8.ofNat (c.toNat / 4096 % 64 + 128)) = true := by
      rw [mayFollow_iff, lead, fourth]
      exact ⟨tails.2.2, by omega⟩
    refine ⟨_, _, rfl, ?_⟩
    rw [front_four _ (by omega) (by omega)]
    simp only [List.cons_append, frontOfFour, follows, tails, Bool.not_true, Bool.false_eq_true,
      if_false, low6, lead, fourth, third, last, whole, Char.ofNat_toNat, List.length_cons,
      List.length_nil]

/-- The bytes that start several: by how many they start, and those that start none. -/
theorem lead_cases (first : UInt8)
    : (first.toNat < 0xC2 ∨ 0xF4 < first.toNat)
      ∨ (0xC2 ≤ first.toNat ∧ first.toNat ≤ 0xDF)
      ∨ (0xE0 ≤ first.toNat ∧ first.toNat ≤ 0xEF)
      ∨ 0xF0 ≤ first.toNat ∧ first.toNat ≤ 0xF4 := by
  omega

/-- Only an ASCII byte is read as an ASCII character. -/
theorem le_of_front_eq_char {size : Nat} (large : 0x80 ≤ first.toNat)
    (read : front first rest = .char c size)
    : 128 ≤ c.toNat := by
  rcases lead_cases first with other | ⟨from2, to2⟩ | ⟨from3, to3⟩ | ⟨from4, to4⟩
  · rw [front_other rest large other] at read
    cases read
  · rw [front_two rest from2 to2] at read
    split at read
    case h_1 second more =>
      split at read
      case isTrue =>
        cases read
        rw [toNat_ofNat_of_valid (by unfold low6; omega)]
        omega
      case isFalse => cases read
    case h_2 => cases read
  · rw [front_three rest from3 to3] at read
    unfold frontOfThree at read
    split at read
    case h_1 second third more =>
      split_ifs at read with follows tail
      case neg =>
        cases read
        have bounds := mayFollow_iff.mp (by simpa using follows)
        rw [isTail_iff] at bounds
        unfold low6
        rw [toNat_ofNat_of_valid (by omega)]
        omega
    case h_2 => split_ifs at read
    case h_3 => cases read
  · rw [front_four rest from4 to4] at read
    unfold frontOfFour at read
    split at read
    case h_1 second third fourth more =>
      split_ifs at read with follows tail last
      case neg =>
        cases read
        have bounds := mayFollow_iff.mp (by simpa using follows)
        rw [isTail_iff] at bounds
        unfold low6
        rw [toNat_ofNat_of_valid (by omega)]
        omega
    case h_2 => split_ifs at read
    case h_3 => split_ifs at read
    case h_4 => cases read

/-- What is read from a large byte is no character of seven bits. -/
theorem le_of_read_front (large : 0x80 ≤ first.toNat) (rest : List UInt8)
    : 128 ≤ (front first rest).read.toNat := by
  cases read : front first rest with
  | char c size => exact le_of_front_eq_char large read
  | broken size => exact Nat.le_of_lt (show 128 < 0xFFFD by decide)

/-- What an ASCII byte follows is read without it. -/
theorem front_append_cons (large : 0x80 ≤ first.toNat) (small : ascii.toNat < 128)
    (rest more : List UInt8)
    : front first (rest ++ UInt8.ofNat ascii.toNat :: more) = front first rest := by
  have noTail := not_isTail_of_ascii small
  have noFollow := not_mayFollow_of_ascii small first
  rcases lead_cases first with other | ⟨from2, to2⟩ | ⟨from3, to3⟩ | ⟨from4, to4⟩
  · rw [front_other _ large other, front_other _ large other]
  · rw [front_two _ from2 to2, front_two _ from2 to2]
    rcases rest with _ | ⟨second, rest⟩ <;> simp [noTail]
  · rw [front_three _ from3 to3, front_three _ from3 to3]
    rcases rest with _ | ⟨second, _ | ⟨third, rest⟩⟩
    · cases more <;> simp [frontOfThree, noFollow]
    · cases follows : mayFollow first second <;> simp [frontOfThree, noTail, follows]
    · simp [frontOfThree]
  · rw [front_four _ from4 to4, front_four _ from4 to4]
    rcases rest with _ | ⟨second, _ | ⟨third, _ | ⟨fourth, rest⟩⟩⟩
    · rcases more with _ | ⟨a, _ | ⟨b, more⟩⟩ <;> simp [frontOfFour, noFollow]
    · cases follows : mayFollow first second <;>
        cases more <;> simp [frontOfFour, noTail, follows]
    · simp [frontOfFour, noTail]
    · simp [frontOfFour]

-----------------------------------------------------------------------------------------
-- All characters
-----------------------------------------------------------------------------------------

/-- The first character is read, and the text goes on behind its bytes. -/
theorem replaceBroken_cons (first : UInt8) (rest : List UInt8)
    : replaceBroken (first :: rest)
      = (front first rest).read :: replaceBroken (rest.drop ((front first rest).size - 1)) := by
  rw [replaceBroken]
  split <;> simp_all [Front.read, Front.size]

theorem replaceBroken_nil : replaceBroken [] = [] := by
  rw [replaceBroken]

theorem size_front_le (first : UInt8) (rest : List UInt8)
    : (front first rest).size ≤ rest.length + 1 := by
  by_cases low : first.toNat < 0x80
  · rw [front_one rest low]
    exact Nat.le_add_left 1 _
  · rcases lead_cases first with other | ⟨from2, to2⟩ | ⟨from3, to3⟩ | ⟨from4, to4⟩
    · rw [front_other rest (by omega) other]
      exact Nat.le_add_left 1 _
    · rw [front_two rest from2 to2]
      split
      case h_1 => split <;> simp [Front.size]
      case h_2 => exact Nat.le_refl 1
    · rw [front_three rest from3 to3]
      unfold frontOfThree
      split
      case h_1 => split_ifs <;> simp [Front.size]
      case h_2 => split_ifs <;> simp [Front.size]
      case h_3 => exact Nat.le_refl 1
    · rw [front_four rest from4 to4]
      unfold frontOfFour
      split
      case h_1 => split_ifs <;> simp [Front.size]
      case h_2 => split_ifs <;> simp [Front.size]
      case h_3 => split_ifs <;> simp [Front.size]
      case h_4 => exact Nat.le_refl 1

theorem replaceBroken_ascii (small : ascii.toNat < 128) (rest : List UInt8)
    : replaceBroken (UInt8.ofNat ascii.toNat :: rest) = ascii :: replaceBroken rest := by
  rw [replaceBroken_cons, front_of_ascii small]
  rfl

/-- Bytes may be cut at an ASCII byte before they are decoded. -/
theorem replaceBroken_append_cons (small : ascii.toNat < 128) (bytes more : List UInt8)
    : replaceBroken (bytes ++ UInt8.ofNat ascii.toNat :: more)
      = replaceBroken bytes ++ ascii :: replaceBroken more := by
  match bytes with
  | [] => rw [List.nil_append, replaceBroken_ascii small, replaceBroken_nil, List.nil_append]
  | first :: rest =>
      have alone : front first (rest ++ UInt8.ofNat ascii.toNat :: more) = front first rest := by
        by_cases low : first.toNat < 0x80
        · rw [front_one _ low, front_one _ low]
        · exact front_append_cons (by omega) small rest more
      have fits : (front first rest).size - 1 ≤ rest.length := by
        have size := size_front_le first rest
        omega
      have shorter := replaceBroken_append_cons small (rest.drop ((front first rest).size - 1)) more
      rw [List.cons_append, replaceBroken_cons, alone, List.drop_append_of_le_length fits, shorter,
        replaceBroken_cons, List.cons_append]
termination_by bytes.length
decreasing_by
  simp only [List.length_drop, List.length_cons]
  omega

/-- An ASCII character in front comes from its byte. -/
theorem replaceBroken_eq_cons {more : List Char} (small : ascii.toNat < 128)
    (starts : replaceBroken bytes = ascii :: more)
    : ∃ rest, bytes = UInt8.ofNat ascii.toNat :: rest ∧ replaceBroken rest = more := by
  cases bytes with
  | nil =>
      rw [replaceBroken_nil] at starts
      cases starts
  | cons first rest =>
      rw [replaceBroken_cons] at starts
      obtain ⟨read, behind⟩ := List.cons.inj starts
      by_cases low : first.toNat < 0x80
      · rw [front_one rest low] at read behind
        have number : first.toNat = ascii.toNat := by
          rw [← read]
          exact (toNat_ofNat_of_valid (by omega)).symm
        exact ⟨rest, by rw [← number, UInt8.ofNat_toNat], behind⟩
      · have large := le_of_read_front (Nat.le_of_not_lt low) rest
        rw [read] at large
        omega

/-- A character of seven bits is read only from its own byte. -/
theorem mem_of_mem_replaceBroken (small : ascii.toNat < 128) (bytes : List UInt8)
    : ascii ∈ replaceBroken bytes → UInt8.ofNat ascii.toNat ∈ bytes := by
  intro member
  match bytes with
  | [] =>
      rw [replaceBroken_nil] at member
      cases member
  | first :: rest =>
      have whole := replaceBroken_cons first rest
      rw [whole] at member
      rcases List.mem_cons.mp member with here | later
      · rw [← here] at whole
        obtain ⟨_, same, -⟩ := replaceBroken_eq_cons small whole
        rw [same]
        exact List.mem_cons_self
      · have behind := mem_of_mem_replaceBroken small _ later
        exact List.mem_cons_of_mem first (List.mem_of_mem_drop behind)
termination_by bytes.length
decreasing_by
  simp only [List.length_drop, List.length_cons]
  omega

/-- An ASCII character is read exactly where its byte stands. -/
theorem mem_replaceBroken_iff (small : ascii.toNat < 128)
    : ascii ∈ replaceBroken bytes ↔ UInt8.ofNat ascii.toNat ∈ bytes := by
  constructor
  · exact mem_of_mem_replaceBroken small bytes
  · intro member
    obtain ⟨before, behind, rfl⟩ := List.append_of_mem member
    rw [replaceBroken_append_cons small]
    exact List.mem_append_right _ List.mem_cons_self

theorem mem_encoded_iff {text : List Char} (small : ascii.toNat < 128)
    : UInt8.ofNat ascii.toNat ∈ encoded text ↔ ascii ∈ text := by
  rw [encoded_eq, List.mem_flatMap]
  constructor
  · rintro ⟨c, member, written⟩
    exact eq_of_mem_utf8EncodeChar small written ▸ member
  · intro member
    exact ⟨ascii, member, by rw [utf8EncodeChar_of_ascii small, List.mem_singleton]⟩

/-- A text of seven bits is read from its own encoding only. -/
theorem replaceBroken_eq_ascii {text : List Char} (small : ∀ c ∈ text, c.toNat < 128)
    (read : replaceBroken bytes = text)
    : bytes = encoded text := by
  induction text generalizing bytes with
  | nil =>
      cases bytes with
      | nil => rfl
      | cons first rest =>
          rw [replaceBroken_cons] at read
          cases read
  | cons c text ih =>
      obtain ⟨here, others⟩ := List.forall_mem_cons.mp small
      obtain ⟨rest, rfl, behind⟩ := replaceBroken_eq_cons here read
      rw [ih others behind, encoded_eq, encoded_eq, List.flatMap_cons,
        utf8EncodeChar_of_ascii here, List.singleton_append]

/-- An encoded text is read back character by character. -/
theorem replaceBroken_encoded (text : List Char) : replaceBroken (encoded text) = text := by
  induction text with
  | nil => exact replaceBroken_nil
  | cons c text ih =>
      obtain ⟨first, tail, bytes, read⟩ := front_utf8EncodeChar c (encoded text)
      have whole : encoded (c :: text) = first :: (tail ++ encoded text) := by
        rw [encoded_eq, List.flatMap_cons, bytes, encoded_eq, List.cons_append]
      rw [whole, replaceBroken_cons, read]
      simp [Front.read, Front.size, ih]

/-- Both decoders read the bytes of a text alike, so one of them is enough. -/
theorem ofBytesLossy_eq (bytes : List UInt8)
    : ofBytesLossy bytes = String.ofList (replaceBroken bytes) := by
  unfold ofBytesLossy
  split
  case h_1 text read =>
    rw [← toBytes_of_ofBytes? read, ← encoded_toList, replaceBroken_encoded, String.ofList_toList]
  case h_2 => rfl

/-- Pieces between characters of seven bits are read each by itself. -/
theorem replaceBroken_intercalate (small : ascii.toNat < 128) (pieces : List (List UInt8))
    : replaceBroken ([UInt8.ofNat ascii.toNat].intercalate pieces)
      = [ascii].intercalate (pieces.map replaceBroken) := by
  induction pieces with
  | nil => exact replaceBroken_nil
  | cons first pieces ih =>
      cases pieces with
      | nil => simp
      | cons second pieces =>
          have cut := replaceBroken_append_cons small first
            ([UInt8.ofNat ascii.toNat].intercalate (second :: pieces))
          rw [List.intercalate_cons_cons, List.append_assoc, List.singleton_append, cut, ih]
          simp [List.intercalate_cons_cons]

/-- Putting one ASCII character in place of another is the same before and after decoding, since the
bytes may be cut at each of them.
-/
theorem replaceBroken_map {other : Char} (small : ascii.toNat < 128) (alsoSmall : other.toNat < 128)
    (bytes : List UInt8)
    : replaceBroken (bytes.map fun byte =>
          if byte = UInt8.ofNat ascii.toNat then UInt8.ofNat other.toNat else byte)
      = (replaceBroken bytes).map fun c => if c = ascii then other else c := by
  by_cases member : UInt8.ofNat ascii.toNat ∈ bytes
  · obtain ⟨before, behind, cut, absent⟩ := List.eq_append_cons_of_mem member
    have unread := mt (mem_replaceBroken_iff small).mp absent
    have shorter := replaceBroken_map small alsoSmall behind
    rw [cut, List.map_append, List.map_cons, if_pos rfl, map_of_not_mem absent,
      replaceBroken_append_cons alsoSmall, shorter, replaceBroken_append_cons small,
      List.map_append, List.map_cons, if_pos rfl, map_of_not_mem unread]
  · have unread := mt (mem_replaceBroken_iff small).mp member
    rw [map_of_not_mem member, map_of_not_mem unread]
termination_by bytes.length
decreasing_by
  simp only [cut, List.length_append, List.length_cons]
  omega

end EarlyBreak.Text
