import EarlyBreak.Glob.Parser
import Mathlib.Tactic.Common

/-! Which texts are patterns.  Reading can only fail by what is open: a class, an escape or a group
that does not end, a brace that ends no group, or a range whose ends are the wrong way round.  So
what is open is all that has to be followed, whatever tokens a text is read as.
-/

namespace EarlyBreak.Glob

/-- A text is a pattern. -/
def IsPattern (s : List Char) : Prop := ∃ glob, parse s = .ok glob

/-- What the next character stands in. -/
inductive Inside where
  | plain
  | escaped
  | classStart
  /-- A class, the low end of the range read last, and whether a `-` waits for its high end. -/
  | inClass (low : Option Char) (inRange : Bool)
  deriving DecidableEq

/-- What is open in a pattern that has been read in part. -/
structure Opened where
  groups : Nat
  inside : Inside
  deriving DecidableEq

namespace Opened

/-- Nothing is open. -/
def none : Opened := ⟨0, .plain⟩

/-- What a character of a class leaves open. -/
def classChar (groups : Nat) (low : Option Char) (inRange : Bool) (c : Char) : Option Opened :=
  match low with
  | .none => some ⟨groups, .inClass (some c) inRange⟩
  | some low =>
      if c = ']' then some ⟨groups, .plain⟩
      else if inRange then
        if c < low then .none else some ⟨groups, .inClass (some low) false⟩
      else if c = '-' then some ⟨groups, .inClass (some low) true⟩
      else some ⟨groups, .inClass (some c) false⟩

/-- What a character outside classes leaves open. -/
def plainChar (groups : Nat) (c : Char) : Option Opened :=
  if c = '[' then some ⟨groups, .classStart⟩
  else if c = '\\' then some ⟨groups, .escaped⟩
  else if c = '\x7b' then some ⟨groups + 1, .plain⟩
  else if c = '\x7d' then if groups = 0 then .none else some ⟨groups - 1, .plain⟩
  else some ⟨groups, .plain⟩

/-- What a character leaves open. -/
def next (opened : Opened) (c : Char) : Option Opened :=
  match opened.inside with
  | .plain => plainChar opened.groups c
  | .escaped => some ⟨opened.groups, .plain⟩
  | .classStart =>
      if c = '!' ∨ c = '^' then some ⟨opened.groups, .inClass .none false⟩
      else classChar opened.groups .none false c
  | .inClass low inRange => classChar opened.groups low inRange c

/-- What a text leaves open. -/
def after (opened : Opened) (s : List Char) : Option Opened := s.foldlM next opened

end Opened

namespace Reading

/-- What is open in a reading. -/
def opened (r : Reading) : Opened where
  groups := r.groups.length
  inside :=
    match r.mode with
    | .plain | .oneStar _ | .twoStars _ => .plain
    | .escaped => .escaped
    | .classStart => .classStart
    | .inClass cls => .inClass (cls.ranges.head?.map (·.1)) cls.inRange

/-- A reading fails exactly if what is open does, and else it leaves the same open. -/
def Leaves (result : Except Fault Reading) (left : Option Opened) : Prop :=
  result.toOption.map opened = left

theorem leaves_plain {r : Reading} (mode : r.mode = .plain) (c : Char)
    : Leaves (r.plain c) (Opened.plainChar r.groups.length c) := by
  unfold Leaves plain Opened.plainChar
  cases groups : r.groups with
  | nil => split <;> simp_all [opened, push, Except.toOption]
  | cons group rest => split <;> simp_all [opened, push, Except.toOption]

theorem replaceLast_mode (r : Reading) (token : Token) : (r.replaceLast token).mode = r.mode := by
  unfold replaceLast
  split <;> rfl

theorem replaceLast_groups (r : Reading) (token : Token)
    : (r.replaceLast token).groups = r.groups := by
  unfold replaceLast
  split <;> rfl

/-- Stars that wait leave nothing open. -/
theorem leaves_afterStars {r : Reading} (mode : r.mode = .plain) (before : Option Char) (c : Char)
    : Leaves (r.afterStars before c) (Opened.plainChar r.groups.length c) := by
  have stars : Leaves (r.pushStars.plain c) (Opened.plainChar r.groups.length c) :=
    leaves_plain (r := r.pushStars) mode c
  have last (token : Token) : (r.replaceLast token).mode = .plain :=
    (replaceLast_mode r token).trans mode
  have slash : Opened.plainChar r.groups.length '/' = some ⟨r.groups.length, .plain⟩ := rfl
  unfold afterStars
  split
  · split
    case isTrue isSlash =>
      rw [isSlash, slash]
      simp [Leaves, opened, push, mode, Except.toOption]
    case isFalse => exact stars
  · split
    · exact stars
    · split
      · have ends := leaves_plain (last .trailingDirs) c
        rwa [replaceLast_groups] at ends
      · split
        case isTrue isSlash =>
          rw [isSlash, slash]
          simp [Leaves, opened, last, replaceLast_groups, Except.toOption]
        case isFalse => exact stars

/-- What is open after a character of a class is decided by the class and the open groups. -/
theorem leaves_classChar (r : Reading) (cls : OpenClass) (c : Char)
    : Leaves (r.classChar cls c)
        (Opened.classChar r.groups.length (cls.ranges.head?.map (·.1)) cls.inRange c) := by
  unfold Leaves classChar Opened.classChar
  split
  case h_1 none => simp [none, opened, Except.toOption]
  case h_2 low high rest ranges =>
    simp only [ranges, List.head?_cons, Option.map_some]
    split_ifs <;> simp_all [opened, push, Except.toOption]

/-- What is open after a character is decided by what was open before it. -/
theorem leaves_next (r : Reading) (c : Char)
    : Leaves (r.next c) (r.opened.next c) := by
  have forget : (r.next c).toOption.map opened = (r.step c).toOption.map opened := by
    unfold next
    cases r.step c <;> rfl
  rw [Leaves, forget]
  unfold step
  cases mode : r.mode with
  | plain =>
      simp only [Opened.next, opened, mode]
      exact leaves_plain mode c
  | escaped => simp [Opened.next, opened, mode, push, Except.toOption]
  | oneStar before =>
      have star := leaves_plain (r := { r.push .star with mode := .plain }) rfl c
      simp only [Opened.next, opened, mode]
      split
      case isTrue isStar =>
        rw [isStar]
        rfl
      case isFalse => exact star
  | twoStars before =>
      simp only [Opened.next, opened, mode]
      exact leaves_afterStars rfl before c
  | classStart =>
      simp only [Opened.next, opened, mode]
      split
      · simp [opened, Except.toOption]
      · exact leaves_classChar r ⟨false, [], false⟩ c
  | inClass cls =>
      simp only [Opened.next, opened, mode]
      exact leaves_classChar r cls c

/-- A text leaves open what its characters do one after the other, by induction along it. -/
theorem leaves_foldlM (r : Reading) (s : List Char)
    : Leaves (s.foldlM next r) (r.opened.after s) := by
  induction s generalizing r with
  | nil => rfl
  | cons c rest ih =>
      have first := leaves_next r c
      rw [Opened.after, List.foldlM_cons, List.foldlM_cons, ← first]
      cases read : r.next c with
      | error fault => rfl
      | ok further => exact ih further

theorem close_eq_ok_iff {r : Reading}
    : (∃ glob, r.close = .ok glob) ↔ r.groups.length = 0 := by
  rw [close, List.length_eq_zero_iff]
  cases r.groups <;> simp

theorem lastStars_groups (r : Reading) (before : Option Char)
    : (r.lastStars before).groups = r.groups := by
  unfold lastStars
  split
  · rfl
  · split
    · exact replaceLast_groups r _
    · rfl

/-- A reading can end exactly if nothing is open. -/
theorem finish_eq_ok_iff {r : Reading}
    : (∃ glob, r.finish = .ok glob) ↔ r.opened = .none := by
  unfold finish
  cases mode : r.mode with
  | plain => simp [close_eq_ok_iff, opened, mode, Opened.none]
  | oneStar before => simp [close_eq_ok_iff, opened, mode, Opened.none, push]
  | twoStars before => simp [close_eq_ok_iff, opened, mode, Opened.none, lastStars_groups]
  | escaped | classStart | inClass cls => simp [opened, mode, Opened.none]

end Reading

/-- A text is a pattern exactly if it leaves nothing open. -/
theorem isPattern_iff {s : List Char}
    : IsPattern s ↔ Opened.none.after s = some .none := by
  have left := Reading.leaves_foldlM .start s
  have start : Reading.start.opened = .none := rfl
  rw [Reading.Leaves, start] at left
  rw [IsPattern, parse, ← left]
  cases read : s.foldlM Reading.next .start with
  | error fault => simp [bind, Except.bind, Except.toOption]
  | ok r => simpa [bind, Except.bind, Except.toOption] using Reading.finish_eq_ok_iff

/-- A character that opens and closes nothing outside classes. -/
def IsOrdinary (c : Char) : Prop := c ≠ '[' ∧ c ≠ '\\' ∧ c ≠ '\x7b' ∧ c ≠ '\x7d'

/-- A character that ends nothing, neither outside classes nor in one. -/
def EndsNothing (c : Char) : Prop := IsOrdinary c ∧ c ≠ ']'

instance (c : Char) : Decidable (IsOrdinary c) :=
  inferInstanceAs (Decidable (c ≠ '[' ∧ c ≠ '\\' ∧ c ≠ '\x7b' ∧ c ≠ '\x7d'))

instance (c : Char) : Decidable (EndsNothing c) :=
  inferInstanceAs (Decidable (IsOrdinary c ∧ c ≠ ']'))

/-- Going through the characters of a text decides what holds of them. -/
theorem forall_mem_of_all {p : Char → Prop} [DecidablePred p] {s : List Char}
    (all : s.all (fun c => decide (p c)) = true)
    : ∀ c ∈ s, p c :=
  fun c member => of_decide_eq_true (List.all_eq_true.mp all c member)

namespace Opened

variable {opened left : Opened} {c : Char} {s front tail : List Char}

theorem after_cons (opened : Opened) (c : Char) (s : List Char)
    : opened.after (c :: s) = (opened.next c).bind (·.after s) := by
  rw [after, List.foldlM_cons]
  rfl

theorem after_append (opened : Opened) (s rest : List Char)
    : opened.after (s ++ rest) = (opened.after s).bind (·.after rest) := by
  rw [after, List.foldlM_append]
  rfl

theorem after_ordinary (groups : Nat) (ordinary : ∀ c ∈ s, IsOrdinary c)
    : (⟨groups, .plain⟩ : Opened).after s = some ⟨groups, .plain⟩ := by
  induction s with
  | nil => rfl
  | cons c rest ih =>
      obtain ⟨class', escape, opens, closes⟩ := ordinary c List.mem_cons_self
      have same : (⟨groups, .plain⟩ : Opened).next c = some ⟨groups, .plain⟩ := by
        simp [next, plainChar, class', escape, opens, closes]
      rw [after_cons, same]
      exact ih fun other member => ordinary other (List.mem_cons_of_mem c member)

/-- Without a backslash nothing is escaped. -/
theorem next_ne_escaped (unescaped : opened.inside ≠ .escaped) (other : c ≠ '\\')
    (leaves : opened.next c = some left)
    : left.inside ≠ .escaped := by
  unfold next plainChar classChar at leaves
  grind

theorem after_ne_escaped (unescaped : opened.inside ≠ .escaped) (others : '\\' ∉ s)
    (leaves : opened.after s = some left)
    : left.inside ≠ .escaped := by
  induction s generalizing opened with
  | nil => exact Option.some.inj leaves ▸ unescaped
  | cons c rest ih =>
      rw [List.mem_cons, not_or] at others
      rw [after_cons] at leaves
      obtain ⟨middle, first, then'⟩ := Option.bind_eq_some_iff.mp leaves
      exact ih (next_ne_escaped unescaped (Ne.symm others.1) first) others.2 then'

/-- A class is opened by its bracket only. -/
theorem next_plain (plain : opened.inside = .plain) (bracket : c ≠ '[') (escape : c ≠ '\\')
    (leaves : opened.next c = some left)
    : left.inside = .plain := by
  rw [next, plain] at leaves
  unfold plainChar at leaves
  grind

/-- Without a bracket and a backslash no class is opened. -/
theorem after_plain (plain : opened.inside = .plain) (bracket : '[' ∉ s) (escape : '\\' ∉ s)
    (leaves : opened.after s = some left)
    : left.inside = .plain := by
  induction s generalizing opened with
  | nil => exact Option.some.inj leaves ▸ plain
  | cons c rest ih =>
      rw [List.mem_cons, not_or] at bracket escape
      rw [after_cons] at leaves
      obtain ⟨middle, first, then'⟩ := Option.bind_eq_some_iff.mp leaves
      have still := next_plain plain (Ne.symm bracket.1) (Ne.symm escape.1) first
      exact ih still bracket.2 escape.2 then'

/-- Nothing is open after a character that ends nothing exactly if nothing was before. -/
theorem next_eq_none_iff (unescaped : opened.inside ≠ .escaped) (endsNothing : EndsNothing c)
    : opened.next c = some .none ↔ opened = .none := by
  obtain ⟨⟨bracket, escape, opens, closes⟩, ends⟩ := endsNothing
  obtain ⟨groups, inside⟩ := opened
  unfold next Opened.none
  cases inside with
  | plain => simp [plainChar, bracket, escape, opens, closes]
  | escaped => exact absurd rfl unescaped
  | classStart =>
      simp only [classChar]
      split <;> simp
  | inClass low inRange =>
      unfold classChar
      grind

end Opened

variable {s front tail : List Char}

/-- What is ordinary in front of a text does not matter. -/
theorem isPattern_ordinary_append (ordinary : ∀ c ∈ front, IsOrdinary c)
    : IsPattern (front ++ s) ↔ IsPattern s := by
  rw [isPattern_iff, isPattern_iff, Opened.after_append, Opened.none,
    Opened.after_ordinary 0 ordinary]
  rfl

theorem isPattern_concat {c : Char} (endsNothing : EndsNothing c) (escape : '\\' ∉ s)
    : IsPattern (s ++ [c]) ↔ IsPattern s := by
  have unescaped : Opened.none.inside ≠ .escaped := nofun
  rw [isPattern_iff, isPattern_iff, Opened.after_append]
  cases leaves : Opened.none.after s with
  | none => exact Iff.rfl
  | some left =>
      have still := Opened.after_ne_escaped unescaped escape leaves
      rw [Option.bind_some, Opened.after_cons, Option.some_inj,
        ← Opened.next_eq_none_iff still endsNothing]
      cases left.next c <;> exact Iff.rfl

/-- What ends nothing at the end of a text without escapes does not matter, by induction along it.
-/
theorem isPattern_append (endsNothing : ∀ c ∈ tail, EndsNothing c) (escape : '\\' ∉ s)
    : IsPattern (s ++ tail) ↔ IsPattern s := by
  induction tail generalizing s with
  | nil => rw [List.append_nil]
  | cons c rest ih =>
      obtain ⟨here, there⟩ := List.forall_mem_cons.mp endsNothing
      have escape' : '\\' ∉ s ++ [c] := by
        rw [List.mem_append, List.mem_singleton]
        exact not_or.mpr ⟨escape, Ne.symm here.1.2.1⟩
      rw [List.append_cons, ih there escape', isPattern_concat here escape]

end EarlyBreak.Glob
