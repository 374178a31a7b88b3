import EarlyBreak.Text.Cut
import Mathlib.Data.List.Basic
import Mathlib.Data.List.TakeWhile

/-! Cuts of a text: into the pieces between its separators, at the first or last of them, behind
what is trimmed, and where parts of it are replaced.
-/

namespace EarlyBreak.Text

section Pieces

variable {α : Type} {sep c : α} {pieces : List (List α)} {text piece : List α}

theorem intercalate_cons (sep : α) (first : List α) (rest : List (List α))
    : [sep].intercalate (first :: rest) = first ++ rest.flatMap (sep :: ·) := by
  induction rest generalizing first with
  | nil => simp
  | cons second rest ih =>
      rw [List.intercalate_cons_cons, ih, List.flatMap_cons]
      simp

theorem mem_intercalate (member : c ∈ [sep].intercalate pieces)
    : c = sep ∨ ∃ piece ∈ pieces, c ∈ piece := by
  cases pieces with
  | nil => cases member
  | cons first rest =>
      simp only [intercalate_cons, List.mem_append, List.mem_flatMap, List.mem_cons] at member
      rcases member with here | ⟨piece, among, rfl | later⟩
      · exact Or.inr ⟨first, List.mem_cons_self, here⟩
      · exact Or.inl rfl
      · exact Or.inr ⟨piece, List.mem_cons_of_mem _ among, later⟩

theorem mem_of_mem_splitOn [BEq α] [LawfulBEq α] (among : piece ∈ text.splitOn sep)
    (member : c ∈ piece)
    : c ∈ text := by
  have whole : [sep].intercalate (text.splitOn sep) = text := List.intercalate_splitOn sep
  rw [← whole]
  cases pieces : text.splitOn sep with
  | nil => exact absurd pieces (List.splitOn_ne_nil sep text)
  | cons first rest =>
      rw [pieces] at among
      rw [intercalate_cons, List.mem_append, List.mem_flatMap]
      rcases List.mem_cons.mp among with rfl | later
      · exact Or.inl member
      · exact Or.inr ⟨piece, later, List.mem_cons_of_mem sep member⟩

end Pieces

variable {separator : Char}

/-- What stands before a character that is no separator is cut off with it. -/
theorem splitFirst_append_of_not_mem {before : List Char} (absent : separator ∉ before)
    (behind : List Char)
    : splitFirst separator (before ++ behind)
      = (before ++ (splitFirst separator behind).1, (splitFirst separator behind).2) := by
  induction before with
  | nil => rfl
  | cons c before ih =>
      rw [List.mem_cons, not_or] at absent
      obtain ⟨different, later⟩ := absent
      rw [List.cons_append, splitFirst, if_neg (Ne.symm different), ih later]
      rfl

theorem splitFirst_of_not_mem {text : List Char} (absent : separator ∉ text)
    : splitFirst separator text = (text, none) := by
  have whole := splitFirst_append_of_not_mem absent []
  rwa [List.append_nil, splitFirst, List.append_nil] at whole

theorem splitFirst_append {before : List Char} (absent : separator ∉ before) (behind : List Char)
    : splitFirst separator (before ++ separator :: behind) = (before, some behind) := by
  rw [splitFirst_append_of_not_mem absent, splitFirst, if_pos rfl, List.append_nil]

theorem dropWhile_eq_self {p : Char → Bool} {text : List Char} (none : ∀ c ∈ text, p c = false)
    : text.dropWhile p = text := by
  cases text with
  | nil => rfl
  | cons c rest =>
      exact List.dropWhile_cons_of_neg (Bool.eq_false_iff.mp (none c List.mem_cons_self))

/-- A text without characters to trim stays as it is. -/
theorem trimChars_eq_self {p : Char → Bool} {text : List Char} (none : ∀ c ∈ text, p c = false)
    : trimChars p text = text := by
  have reversed : ∀ c ∈ text.reverse, p c = false :=
    fun c member => none c (List.mem_reverse.mp member)
  rw [trimChars, trimEnd, trimStart, dropWhile_eq_self none, dropWhile_eq_self reversed,
    List.reverse_reverse]

/-- What stands behind a character that stays is trimmed on its own. -/
theorem trimEnd_append_cons {p : Char → Bool} {c : Char} (stays : p c = false)
    (front text : List Char)
    : trimEnd p (front ++ c :: text) = front ++ c :: trimEnd p text := by
  have reversed : (front ++ c :: text).reverse = text.reverse ++ c :: front.reverse := by simp
  rw [trimEnd, trimEnd, reversed, List.dropWhile_append]
  split
  case isTrue empty =>
    rw [List.isEmpty_iff.mp empty, List.dropWhile_cons_of_neg (by simp [stays])]
    simp
  case isFalse => simp

/-- A character to trim makes no difference at the end of a text. -/
theorem trimChars_concat {p : Char → Bool} {c : Char} (blank : p c = true) (text : List Char)
    : trimChars p (text ++ [c]) = trimChars p text := by
  rw [trimChars, trimChars, trimStart, trimStart, List.dropWhile_append]
  split
  case isTrue empty =>
    rw [List.isEmpty_iff.mp empty, List.dropWhile_cons_of_pos blank, List.dropWhile_nil]
  case isFalse =>
    rw [trimEnd, trimEnd, List.reverse_concat, List.dropWhile_cons_of_pos blank]

/-- What is trimmed off the end of a text is one character over and over. -/
theorem exists_trimEnd (separator : Char) (text : List Char)
    : ∃ count, text = trimEnd (· == separator) text ++ List.replicate count separator := by
  let front := text.reverse.takeWhile (· == separator)
  have same : front = List.replicate front.length separator := by
    refine List.eq_replicate_iff.mpr ⟨rfl, fun c member => ?_⟩
    have trimmed : (c == separator) = true := List.mem_takeWhile_imp (p := (· == separator)) member
    exact beq_iff_eq.mp trimmed
  refine ⟨front.length, ?_⟩
  rw [← List.reverse_inj, List.reverse_append, List.reverse_replicate, ← same, trimEnd,
    List.reverse_reverse, List.takeWhile_append_dropWhile]

theorem getLast?_trimEnd (separator : Char) (text : List Char)
    : (trimEnd (· == separator) text).getLast? ≠ some separator := by
  rw [trimEnd, List.getLast?_reverse]
  intro last
  have stays := List.head?_dropWhile_not (· == separator) text.reverse
  simp [last] at stays

/-- A text without a separator is not cut. -/
theorem splitLast?_of_not_mem {text : List Char} (absent : separator ∉ text)
    : splitLast? separator text = none := by
  rw [splitLast?, splitFirst_of_not_mem (mt List.mem_reverse.mp absent)]

/-- A text is cut at the separator behind which there is no other. -/
theorem splitLast?_append {behind : List Char} (absent : separator ∉ behind) (before : List Char)
    : splitLast? separator (before ++ separator :: behind) = some (before, behind) := by
  have reversed : (before ++ separator :: behind).reverse
      = behind.reverse ++ separator :: before.reverse := by simp
  rw [splitLast?, reversed, splitFirst_append (mt List.mem_reverse.mp absent)]
  simp only [List.reverse_reverse]

/-- A text with a separator has one behind which there is no other. -/
theorem exists_last_cut {α : Type} {separator : α} {text : List α} (present : separator ∈ text)
    : ∃ before behind, text = before ++ separator :: behind ∧ separator ∉ behind := by
  obtain ⟨behind, before, cut, absent⟩ := List.eq_append_cons_of_mem (List.mem_reverse.mpr present)
  refine ⟨before.reverse, behind.reverse, ?_, mt List.mem_reverse.mp absent⟩
  rw [← List.reverse_reverse text, cut]
  simp

section Ends

variable {start ending text rest : List Char}

theorem dropStart?_eq_some_iff : dropStart? start text = some rest ↔ text = start ++ rest := by
  constructor
  · intro dropped
    fun_induction dropStart? start text with
    | case1 => exact Option.some.inj dropped
    | case2 => cases dropped
    | case3 c start text ih => rw [ih dropped, List.cons_append]
    | case4 => cases dropped
  · rintro rfl
    induction start with
    | nil => rfl
    | cons c start ih => rw [List.cons_append, dropStart?, if_pos rfl, ih]

theorem dropEnd?_eq_some_iff : dropEnd? ending text = some rest ↔ text = rest ++ ending := by
  rw [dropEnd?, Option.map_eq_some_iff]
  simp only [dropStart?_eq_some_iff]
  constructor
  · rintro ⟨front, reversed, rfl⟩
    rw [← List.reverse_inj, reversed]
    simp
  · rintro rfl
    exact ⟨rest.reverse, by simp, by simp⟩

end Ends

section Replaced

variable {old new text : List Char} {c : Char}

/-- What follows a text at the start of another one, if the first character is left out of that. -/
theorem drop_pred_of_append_eq_cons {α : Type} {front behind rest : List α} {first : α}
    (some : front ≠ []) (split : front ++ behind = first :: rest)
    : rest.drop (front.length - 1) = behind := by
  cases front with
  | nil => exact absurd rfl some
  | cons head front =>
      rw [List.cons_append] at split
      rw [List.length_cons, Nat.add_sub_cancel, ← (List.cons.inj split).2, List.drop_left]

theorem replaceAll_append (nonempty : old ≠ []) (text : List Char)
    : replaceAll old new (old ++ text) = new ++ replaceAll old new text := by
  cases whole : old ++ text with
  | nil => exact absurd (List.append_eq_nil_iff.mp whole).1 nonempty
  | cons c rest =>
      have starts : old.isPrefixOf (c :: rest) = true :=
        List.isPrefixOf_iff_prefix.mpr ⟨text, whole⟩
      rw [replaceAll, if_pos ⟨nonempty, starts⟩, drop_pred_of_append_eq_cons nonempty whole]

/-- A text without the part to replace stays as it is. -/
theorem replaceAll_eq_self (absent : ¬ old <:+: text) : replaceAll old new text = text := by
  fun_induction replaceAll old new text with
  | case1 => rfl
  | case2 c rest found =>
      exact absurd (List.isPrefixOf_iff_prefix.mp found.2).isInfix absent
  | case3 c rest missing ih =>
      rw [ih fun among => absent (List.infix_cons among)]

/-- A part without a character is replaced in front of the character and behind it. -/
theorem replaceAll_append_cons (nonempty : old ≠ []) (absent : c ∉ old) (front behind : List Char)
    : replaceAll old new (front ++ c :: behind)
      = replaceAll old new front ++ c :: replaceAll old new behind := by
  have within (text : List Char) (starts : old.isPrefixOf (text ++ c :: behind) = true)
      : ∃ rest, old ++ rest = text := by
    rcases List.append_eq_append_iff.mp (List.isPrefixOf_iff_prefix.mp starts).choose_spec with
      ⟨rest, rfl, -⟩ | ⟨extra, rfl, cut⟩
    · exact ⟨rest, rfl⟩
    · cases extra with
      | nil => exact ⟨[], by simp⟩
      | cons d extra =>
          obtain ⟨rfl, -⟩ := List.cons.inj cut
          exact absurd (List.mem_append_right text List.mem_cons_self) absent
  fun_induction replaceAll old new front with
  | case1 =>
      have missing : ¬ (old ≠ [] ∧ old.isPrefixOf (c :: behind) = true) := by
        rintro ⟨-, starts⟩
        obtain ⟨rest, nothing⟩ := within [] starts
        exact nonempty (List.append_eq_nil_iff.mp nothing).1
      rw [List.nil_append, replaceAll, if_neg missing, List.nil_append]
  | case2 d rest found ih =>
      obtain ⟨left, split⟩ := List.isPrefixOf_iff_prefix.mp found.2
      rw [drop_pred_of_append_eq_cons nonempty split] at ih ⊢
      rw [← split, List.append_assoc, replaceAll_append nonempty, ih, List.append_assoc]
  | case3 d rest missing ih =>
      have still : ¬ (old ≠ [] ∧ old.isPrefixOf (d :: (rest ++ c :: behind)) = true) := by
        rintro ⟨-, starts⟩
        obtain ⟨left, split⟩ := within (d :: rest) starts
        exact missing ⟨nonempty, List.isPrefixOf_iff_prefix.mpr ⟨left, split⟩⟩
      rw [List.cons_append, replaceAll, if_neg still, ih, List.cons_append]

theorem mem_of_mem_replaceAll (member : c ∈ replaceAll old new text) : c ∈ new ∨ c ∈ text := by
  fun_induction replaceAll old new text with
  | case1 => cases member
  | case2 d rest found ih =>
      rcases List.mem_append.mp member with here | later
      · exact Or.inl here
      · exact (ih later).imp_right fun among => List.mem_cons_of_mem d (List.mem_of_mem_drop among)
  | case3 d rest missing ih =>
      rcases List.mem_cons.mp member with rfl | later
      · exact Or.inr List.mem_cons_self
      · exact (ih later).imp_right (List.mem_cons_of_mem d)

end Replaced

end EarlyBreak.Text
