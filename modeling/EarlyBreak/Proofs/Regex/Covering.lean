import EarlyBreak.Regex
import Mathlib.Data.List.Basic

/-! What an expression matches, said apart from the search for it: a part of a text, between what
stands before that part and what stands behind it.  The search finds a match exactly if there is
one.
-/

namespace EarlyBreak.Regex

/-- An expression matches a part of a text, between what stands before it and behind it. -/
def Covers : Regex → (before part behind : List Char) → Prop
  | .start, before, part, _ => before = [] ∧ part = []
  | .finish, _, part, behind => part = [] ∧ behind = []
  | .literal text, _, part, _ => part = text
  | .one set, _, part, _ => ∃ c, set.has c = true ∧ part = [c]
  | .many set, _, part, _ => ∀ c ∈ part, set.has c = true
  | .sequence first second, before, part, behind =>
      ∃ left right,
        part = left ++ right
        ∧ first.Covers before left (right ++ behind)
        ∧ second.Covers (before ++ left) right behind
  | .either first second, before, part, behind =>
      first.Covers before part behind ∨ second.Covers before part behind
  | .optional inner, before, part, behind => inner.Covers before part behind ∨ part = []

/-- The place between two parts of a text. -/
def between (before behind : List Char) : Position := ⟨before.isEmpty, behind⟩

variable {before rest : List Char} {c : Char} {position : Position}

theorem isEmpty_concat : (before ++ [c]).isEmpty = false := by
  cases before <;> rfl

/-- A place behind a character is not the start. -/
theorem between_concat : between (before ++ [c]) rest = ⟨false, rest⟩ := by
  rw [between, isEmpty_concat]

variable {holds : List Char → List Char → Prop}

theorem exists_cut_nil
    : (∃ part behind, [] = part ++ behind ∧ holds part behind) ↔ holds [] [] := by
  constructor
  · rintro ⟨part, behind, none, held⟩
    obtain ⟨rfl, rfl⟩ := List.append_eq_nil_iff.mp none.symm
    exact held
  · exact fun held => ⟨[], [], rfl, held⟩

theorem exists_cut_cons
    : (∃ part behind, c :: rest = part ++ behind ∧ holds part behind)
      ↔ holds [] (c :: rest) ∨ ∃ part behind, rest = part ++ behind ∧ holds (c :: part) behind := by
  constructor
  · rintro ⟨part, behind, cut, held⟩
    rcases List.cons_eq_append_iff.mp cut with ⟨rfl, rfl⟩ | ⟨part, rfl, rfl⟩
    · exact .inl held
    · exact .inr ⟨part, behind, rfl, held⟩
  · rintro (held | ⟨part, behind, rfl, held⟩)
    · exact ⟨[], c :: rest, rfl, held⟩
    · exact ⟨c :: part, behind, rfl, held⟩

/-- Every place of a text stands between two parts of it. -/
theorem mem_places (before : List Char)
    : position ∈ places before.isEmpty rest
      ↔ ∃ part behind, rest = part ++ behind ∧ position = between (before ++ part) behind := by
  induction rest generalizing before with
  | nil => rw [exists_cut_nil, places, List.mem_singleton, List.append_nil, between]
  | cons c rest ih =>
      have later := ih (before ++ [c])
      rw [isEmpty_concat] at later
      simp only [exists_cut_cons, places, List.mem_cons, later, List.append_nil, List.append_assoc,
        List.singleton_append]
      rfl

/-- A run of a set's characters ends wherever only such characters were passed. -/
theorem mem_runEnds {set : CharSet}
    : position ∈ runEnds set before.isEmpty rest
      ↔ ∃ part behind,
          rest = part ++ behind
          ∧ position = between (before ++ part) behind
          ∧ ∀ c ∈ part, set.has c = true := by
  induction rest generalizing before with
  | nil =>
      rw [exists_cut_nil, runEnds, List.mem_singleton, List.append_nil]
      exact (and_iff_left nofun).symm
  | cons c rest ih =>
      have later := @ih (before ++ [c])
      rw [isEmpty_concat] at later
      rw [exists_cut_cons, runEnds, List.mem_cons, List.append_nil]
      refine or_congr (and_iff_left nofun).symm ?_
      split
      case isTrue has =>
        simp only [later, List.append_assoc, List.singleton_append, List.forall_mem_cons, has,
          true_and]
      case isFalse lacks =>
        refine iff_of_false List.not_mem_nil ?_
        rintro ⟨part, behind, -, -, all⟩
        exact lacks (all c List.mem_cons_self)

/-- Fixed characters end behind themselves if they come next. -/
theorem literalEnd?_eq_some_iff {text : List Char}
    : literalEnd? text (between before rest) = some position
      ↔ ∃ behind, rest = text ++ behind ∧ position = between (before ++ text) behind := by
  induction text generalizing before rest with
  | nil => simp [literalEnd?, eq_comm]
  | cons l text ih =>
      cases rest with
      | nil => simp [between, literalEnd?]
      | cons c rest =>
          have later := @ih (before ++ [l]) rest
          rw [between_concat] at later
          rw [between, literalEnd?]
          split
          case isTrue same =>
            simp only [later, same, List.cons_append, List.cons.injEq, true_and, List.append_assoc,
              List.nil_append]
          case isFalse different =>
            refine iff_of_false nofun ?_
            rintro ⟨behind, cut, -⟩
            exact different (List.cons.inj cut).1.symm

/-- The matches from a place end behind the parts that the expression matches there, by induction
over the expression.
-/
theorem mem_ends {r : Regex}
    : position ∈ r.ends (between before rest)
      ↔ ∃ part behind,
          rest = part ++ behind
          ∧ position = between (before ++ part) behind
          ∧ r.Covers before part behind := by
  induction r generalizing before rest position with
  | start =>
      simp only [ends, Covers]
      constructor
      · intro ended
        split at ended
        case isTrue begins =>
          exact ⟨[], rest, rfl, by rw [List.append_nil, List.mem_singleton.mp ended],
            List.isEmpty_iff.mp begins, rfl⟩
        case isFalse => cases ended
      · rintro ⟨part, behind, rfl, rfl, rfl, rfl⟩
        exact List.mem_singleton_self _
  | finish =>
      simp only [ends, Covers]
      constructor
      · intro ended
        split at ended
        case isTrue last =>
          exact ⟨[], rest, rfl, by rw [List.append_nil, List.mem_singleton.mp ended], rfl,
            List.isEmpty_iff.mp last⟩
        case isFalse => cases ended
      · rintro ⟨part, behind, rfl, rfl, rfl, rfl⟩
        rw [List.append_nil, List.append_nil]
        exact List.mem_singleton_self _
  | literal text =>
      simp only [ends, Option.mem_toList, literalEnd?_eq_some_iff, Covers]
      constructor
      · rintro ⟨behind, rfl, rfl⟩
        exact ⟨text, behind, rfl, rfl, rfl⟩
      · rintro ⟨part, behind, rfl, rfl, rfl⟩
        exact ⟨behind, rfl, rfl⟩
  | one set =>
      cases rest with
      | nil => simp [ends, between, Covers]
      | cons c rest =>
          simp only [between, ends, Covers]
          constructor
          · intro ended
            split at ended
            case isTrue has =>
              exact ⟨[c], rest, rfl, by rw [List.mem_singleton.mp ended, ← between, between_concat],
                c, has, rfl⟩
            case isFalse => cases ended
          · rintro ⟨part, behind, cut, rfl, d, has, rfl⟩
            obtain ⟨rfl, rfl⟩ := List.cons.inj cut
            rw [if_pos has, ← between, between_concat]
            exact List.mem_singleton_self _
  | many set => exact mem_runEnds
  | sequence first second firstEnds secondEnds =>
      simp only [ends, List.mem_flatMap, Covers]
      constructor
      · rintro ⟨middle, reached, ended⟩
        obtain ⟨left, tail, rfl, rfl, covered⟩ := firstEnds.mp reached
        obtain ⟨right, behind, rfl, rfl, more⟩ := secondEnds.mp ended
        exact ⟨left ++ right, behind, by rw [List.append_assoc], by rw [List.append_assoc],
          left, right, rfl, covered, more⟩
      · rintro ⟨_, behind, rfl, rfl, left, right, rfl, covered, more⟩
        refine ⟨between (before ++ left) (right ++ behind), firstEnds.mpr ?_, secondEnds.mpr ?_⟩
        · exact ⟨left, right ++ behind, List.append_assoc _ _ _, rfl, covered⟩
        · exact ⟨right, behind, rfl, by rw [List.append_assoc], more⟩
  | either first second firstEnds secondEnds =>
      simp only [ends, List.mem_append, firstEnds, secondEnds, Covers, and_or_left, exists_or]
  | optional inner innerEnds =>
      simp only [ends, List.mem_append, innerEnds, List.mem_singleton, Covers, and_or_left,
        exists_or]
      refine or_congr_right ?_
      constructor
      · rintro rfl
        exact ⟨[], rest, rfl, by rw [List.append_nil], rfl⟩
      · rintro ⟨part, behind, rfl, rfl, rfl⟩
        rw [List.append_nil, List.nil_append]

/-- The search finds a match exactly if the expression matches some part of the text. -/
theorem search_iff {r : Regex} {text : List Char}
    : r.search text = true
      ↔ ∃ before part behind, text = before ++ part ++ behind ∧ r.Covers before part behind := by
  have everywhere (position : Position)
      : position ∈ places true text
        ↔ ∃ before rest, text = before ++ rest ∧ position = between before rest :=
    mem_places []
  simp only [search, List.any_eq_true, everywhere, Bool.not_eq_true',
    List.isEmpty_eq_false_iff_exists_mem]
  constructor
  · rintro ⟨_, ⟨before, rest, rfl, rfl⟩, ended, found⟩
    obtain ⟨part, behind, rfl, -, covered⟩ := mem_ends.mp found
    exact ⟨before, part, behind, by rw [List.append_assoc], covered⟩
  · rintro ⟨before, part, behind, rfl, covered⟩
    exact ⟨between before (part ++ behind), ⟨before, part ++ behind, List.append_assoc _ _ _, rfl⟩,
      between (before ++ part) behind, mem_ends.mpr ⟨part, behind, rfl, rfl, covered⟩⟩

end EarlyBreak.Regex
