import EarlyBreak.Proofs.Json.Literals
import Mathlib.Data.List.Forall2

/-! Texts that are read as values.  A value that was written over several lines is read again
exactly, if each of its numbers is an integer of 64 bits; what follows the text makes no
difference, unless it goes on with a number.
-/

namespace EarlyBreak.Json

variable {text rest blank s other : List Char} {texts : List (List Char)} {value : Json}
  {values : List Json} {members : List (String × Json)} {fuel : Nat} {c : Char}

-----------------------------------------------------------------------------------------
-- Blanks
-----------------------------------------------------------------------------------------

/-- A text of white space only. -/
def IsBlank (s : List Char) : Prop := ∀ c ∈ s, isSpace c = true

theorem isBlank_newLine (depth : Nat) : IsBlank (newLine depth).toList := by
  intro c member
  simp only [newLine, String.toList_append, String.toList_ofList, List.mem_append,
    List.mem_replicate] at member
  rcases member with line | ⟨-, rfl⟩
  · obtain rfl : c = '\n' := by simpa using line
    rfl
  · rfl

theorem skipSpace_append (blanks : IsBlank blank) (rest : List Char)
    : skipSpace (blank ++ rest) = skipSpace rest :=
  List.dropWhile_append_of_pos blanks

theorem skipSpace_cons (solid : isSpace c = false) (rest : List Char)
    : skipSpace (c :: rest) = c :: rest := by
  rw [skipSpace, List.dropWhile_cons_of_neg (by simp [solid])]

/-- A number ends in front of blanks, and in front of what may follow them. -/
theorem endsNumber_append (blanks : IsBlank blank) (ends : EndsNumber rest)
    : EndsNumber (blank ++ rest) := by
  cases blank with
  | nil => exact ends
  | cons c blank =>
      rintro _ ⟨⟩
      have space := blanks c List.mem_cons_self
      simp only [isSpace, Bool.or_eq_true, beq_iff_eq] at space
      rcases space with ((rfl | rfl) | rfl) | rfl
      all_goals rfl

theorem endsNumber_cons (other : isNumberChar c = false) (rest : List Char)
    : EndsNumber (c :: rest) := by
  rintro _ ⟨⟩
  exact other

/-- Only what stands behind leading blanks decides how a value is read. -/
theorem readValue?_congr (same : skipSpace s = skipSpace other) (fuel : Nat)
    : readValue? fuel s = readValue? fuel other := by
  cases fuel with
  | zero => rfl
  | succ fuel => simp only [readValue?, same]

/-- No value starts with the end of an array. -/
theorem skipSpace_ne_of_readValue? {result : Json × List Char}
    (reads : readValue? fuel s = some result) (rest : List Char)
    : skipSpace s ≠ ']' :: rest := by
  intro closed
  cases fuel with
  | zero => cases reads
  | succ fuel =>
      simp only [readValue?, closed] at reads
      cases reads

-----------------------------------------------------------------------------------------
-- Single values
-----------------------------------------------------------------------------------------

/-- Whether a text is read as a value in front of all that does not go on with a number.  Its
length bounds the fuel that this takes.
-/
def ReadsAs (text : List Char) (value : Json) : Prop :=
  ∀ fuel rest, text.length ≤ fuel → EndsNumber rest →
    readValue? fuel (text ++ rest) = some (value, rest)

/-- Blanks in front of a value are not read. -/
theorem ReadsAs.behind (reads : ReadsAs text value) (blanks : IsBlank blank)
    : ReadsAs (blank ++ text) value := by
  intro fuel rest enough ends
  rw [List.length_append] at enough
  have same : skipSpace (blank ++ text ++ rest) = skipSpace (text ++ rest) := by
    rw [List.append_assoc, skipSpace_append blanks]
  rw [readValue?_congr same fuel]
  exact reads fuel rest (by omega) ends

theorem readsAs_null : ReadsAs "null".toList .null := by
  intro fuel rest enough _
  obtain ⟨less, rfl⟩ := Nat.exists_eq_add_of_le' (Nat.le_of_add_left_le enough)
  rfl

theorem readsAs_bool (b : Bool) : ReadsAs (compact (.bool b)).toList (.bool b) := by
  intro fuel rest enough _
  obtain ⟨less, rfl⟩ := Nat.exists_eq_add_of_le' enough
  cases b <;> rfl

theorem length_le_flatMap_escapeChar (s : List Char)
    : s.length ≤ (s.flatMap escapeChar).length := by
  induction s with
  | nil => exact Nat.le_refl 0
  | cons c s ih =>
      have written : 0 < (escapeChar c).length := by
        rcases escapeChar_cases c with ⟨letter, written, -⟩ | ⟨-, -, written⟩
            | ⟨-, -, -, written, -⟩
        all_goals
          rw [written]
          exact Nat.zero_lt_succ _
      rw [List.flatMap_cons, List.length_append, List.length_cons]
      omega

/-- A string literal up to its end is read as the pieces of the text. -/
theorem pieces?_quote (s : String) (rest : List Char)
    : ∃ behind, (quote s).toList ++ rest = '"' :: behind
      ∧ pieces? (behind.length + 1) behind = some (s.toList.map pieceOf, rest) := by
  refine ⟨s.toList.flatMap escapeChar ++ '"' :: rest, ?_, ?_⟩
  · simp [quote]
  · have shorter := length_le_flatMap_escapeChar s.toList
    have enough : s.toList.length < (s.toList.flatMap escapeChar ++ '"' :: rest).length + 1 := by
      rw [List.length_append]
      omega
    exact pieces?_flatMap_escapeChar enough rest

/-- A quoted text is read as the text, piece by piece. -/
theorem readsAs_string (s : String) : ReadsAs (quote s).toList (.string s) := by
  intro fuel rest enough _
  obtain ⟨behind, literal, pieces⟩ := pieces?_quote s rest
  cases fuel with
  | zero => simp [quote] at enough
  | succ fuel =>
      simp (disch := decide) only [readValue?, literal, skipSpace_cons, pieces,
        characters?_map_pieceOf, bind, Option.bind, pure, String.ofList_toList]

/-- An integer starts with a digit or a sign. -/
theorem head_withSign (negative : Bool) (n : Nat)
    : ∃ c more, withSign negative (Nat.toDigits 10 n) = c :: more ∧ isNumberChar c = true := by
  cases negative with
  | true => exact ⟨'-', Nat.toDigits 10 n, rfl, rfl⟩
  | false =>
      obtain ⟨c, more, digits⟩ :=
        List.exists_cons_of_ne_nil (Nat.toDigits_ne_nil (n := n) (b := 10))
      have digit : c ∈ Nat.toDigits 10 n := digits ▸ List.mem_cons_self
      refine ⟨c, more, digits, ?_⟩
      rw [isNumberChar, isAsciiDigit_of_mem_toDigits digit, Bool.true_or]

theorem isSpace_of_isNumberChar (inNumber : isNumberChar c = true) : isSpace c = false := by
  rw [Bool.eq_false_iff]
  intro space
  simp only [isSpace, Bool.or_eq_true, beq_iff_eq] at space
  rcases space with ((rfl | rfl) | rfl) | rfl
  all_goals cases inNumber

/-- What starts as a number is read as one. -/
theorem readValue?_number (inNumber : isNumberChar c = true) (fuel : Nat) (rest : List Char)
    : readValue? (fuel + 1) (c :: rest)
      = (numberParts? (c :: rest)).map fun (parts, behind) =>
          (parts.value ((c :: rest).takeWhile isNumberChar), behind) := by
  simp only [readValue?, skipSpace_cons (isSpace_of_isNumberChar inNumber)]
  split
  case h_7 => cases numberParts? (c :: rest) <;> rfl
  all_goals
    rename_i start
    cases start
    cases inNumber

/-- Integers of 64 bits, with and without a sign. -/
def IsWord (n : Int) : Prop := -(Nat.pow 2 63 : Nat) ≤ n ∧ n < (Nat.pow 2 64 : Nat)

theorem isWord_natCast {n : Nat} (small : n < Nat.pow 2 64) : IsWord n := by
  refine ⟨?_, Int.ofNat_lt.mpr small⟩
  omega

/-- A number that fits a word is read as itself. -/
theorem readsAs_int {n : Int} (word : IsWord n) : ReadsAs (compact (.int n)).toList (.int n) := by
  intro fuel rest enough ends
  obtain ⟨c, more, literal, inNumber⟩ := head_withSign (decide (n < 0)) n.natAbs
  have parts := numberParts?_withSign ends (decide (n < 0)) n.natAbs
  rw [compact, toList_toString_int] at enough ⊢
  rw [literal, List.cons_append] at parts
  rw [literal] at enough ⊢
  obtain ⟨less, rfl⟩ := Nat.exists_eq_add_of_le' (Nat.le_of_add_left_le enough)
  rw [List.cons_append, readValue?_number inNumber, parts]
  exact congrArg (fun value => some (value, rest)) (value_int word.1 word.2 _)

-----------------------------------------------------------------------------------------
-- Arrays
-----------------------------------------------------------------------------------------

theorem readsAs_array_nil : ReadsAs "[]".toList (.array []) := by
  intro fuel rest enough _
  obtain ⟨less, rfl⟩ := Nat.exists_eq_add_of_le' (Nat.le_of_add_left_le enough)
  rfl

/-- Texts of items with commas between them are read as the items. -/
theorem readItems?_intercalate (reads : List.Forall₂ ReadsAs texts values) (nonempty : texts ≠ [])
    (enough : ([','].intercalate texts).length < fuel) (blanks : IsBlank blank)
    (rest : List Char)
    : readItems? fuel ([','].intercalate texts ++ (blank ++ ']' :: rest))
      = some (values, rest) := by
  induction reads generalizing fuel with
  | nil => exact absurd rfl nonempty
  | @cons text value texts values here others ih =>
      obtain ⟨less, rfl⟩ := Nat.exists_eq_add_one_of_ne_zero (Nat.ne_zero_of_lt enough)
      cases others with
      | nil =>
          rw [List.intercalate_singleton] at enough ⊢
          have ends : EndsNumber (blank ++ ']' :: rest) :=
            endsNumber_append blanks (endsNumber_cons rfl rest)
          rw [readItems?, here less _ (Nat.le_of_lt_succ enough) ends]
          simp (disch := decide) only [bind, Option.bind, skipSpace_append blanks, skipSpace_cons,
            pure]
      | @cons next item texts values there others =>
          rw [List.intercalate_cons_cons] at enough ⊢
          simp only [List.length_append, List.length_cons, List.length_nil] at enough
          have short : ([','].intercalate (next :: texts)).length < less := by omega
          have later := ih nofun short
          simp only [List.append_assoc, List.cons_append, List.nil_append]
          rw [readItems?, here less _ (by omega) (endsNumber_cons rfl _)]
          simp (disch := decide) only [bind, Option.bind, skipSpace_cons, later, pure]

/-- An array is read from the texts of its items with commas between them. -/
theorem readsAs_array (reads : List.Forall₂ ReadsAs texts values) (nonempty : texts ≠ [])
    (blanks : IsBlank blank)
    : ReadsAs ('[' :: ([','].intercalate texts ++ (blank ++ [']']))) (.array values) := by
  intro fuel rest enough _
  simp only [List.length_append, List.length_cons, List.length_nil] at enough
  obtain ⟨less, rfl⟩ := Nat.exists_eq_add_of_le' (Nat.le_of_add_left_le enough)
  have short : ([','].intercalate texts).length < less := by omega
  have items := readItems?_intercalate reads nonempty short blanks rest
  have opened : ∀ closed,
      skipSpace ([','].intercalate texts ++ (blank ++ ']' :: rest)) ≠ ']' :: closed := by
    cases less with
    | zero => cases items
    | succ less =>
        obtain ⟨⟨item, behind⟩, first, -⟩ := Option.bind_eq_some_iff.mp items
        exact skipSpace_ne_of_readValue? first
  -- The case of an array without items is ruled out by `opened`.
  simp (disch := first | assumption | decide) only [List.append_assoc, List.cons_append,
    List.nil_append, readValue?, skipSpace_cons, items, bind, Option.bind, pure]

-----------------------------------------------------------------------------------------
-- Objects
-----------------------------------------------------------------------------------------

theorem readsAs_object_nil : ReadsAs "\x7b\x7d".toList (.object []) := by
  intro fuel rest enough _
  obtain ⟨less, rfl⟩ := Nat.exists_eq_add_of_le' (Nat.le_of_add_left_le enough)
  rfl

/-- Whether a text is a member: behind blanks its key, a colon and a text of its value. -/
def IsMember (text : List Char) (member : String × Json) : Prop :=
  ∃ blank behind, text = blank ++ ((quote member.1).toList ++ ':' :: behind) ∧ IsBlank blank
    ∧ ReadsAs behind member.2

/-- A member is read up to its value.  More members follow behind a comma, and none behind a brace.
-/
theorem readMembers?_member {member : String × Json} (reads : IsMember text member)
    (enough : text.length < fuel + 1) (ends : EndsNumber rest)
    : (∀ others, skipSpace rest = ',' :: others
        → readMembers? (fuel + 1) (text ++ rest)
          = (readMembers? fuel others).map fun (members, left) =>
              (members.map (member :: ·), left))
      ∧ ∀ left, skipSpace rest = '\x7d' :: left
        → readMembers? (fuel + 1) (text ++ rest) = some (some [member], left) := by
  obtain ⟨blank, behind, rfl, blanks, reads⟩ := reads
  obtain ⟨key, value⟩ := member
  obtain ⟨inner, literal, pieces⟩ := pieces?_quote key (':' :: (behind ++ rest))
  simp only [List.length_append, List.length_cons] at enough
  have value := reads fuel rest (by omega) ends
  refine ⟨fun others next => ?_, fun left next => ?_⟩
  all_goals
    simp (disch := decide) only [List.append_assoc, List.cons_append, readMembers?,
      skipSpace_append blanks, literal, skipSpace_cons, pieces, characters?_map_pieceOf, value,
      bind, Option.bind, Option.map_some, String.ofList_toList, pure, next]
  -- What is left is how the members behind the comma are put behind this one.
  rcases readMembers? fuel others with - | ⟨- | members, left⟩
  all_goals rfl

/-- Texts of members with commas between them are read as the members. -/
theorem readMembers?_intercalate (reads : List.Forall₂ IsMember texts members)
    (nonempty : texts ≠ []) (enough : ([','].intercalate texts).length < fuel)
    (blanks : IsBlank blank) (rest : List Char)
    : readMembers? fuel ([','].intercalate texts ++ (blank ++ '\x7d' :: rest))
      = some (some members, rest) := by
  induction reads generalizing fuel with
  | nil => exact absurd rfl nonempty
  | @cons text member texts members here others ih =>
      obtain ⟨less, rfl⟩ := Nat.exists_eq_add_one_of_ne_zero (Nat.ne_zero_of_lt enough)
      cases others with
      | nil =>
          rw [List.intercalate_singleton] at enough ⊢
          have ends : EndsNumber (blank ++ '\x7d' :: rest) :=
            endsNumber_append blanks (endsNumber_cons rfl rest)
          refine (readMembers?_member here enough ends).2 rest ?_
          rw [skipSpace_append blanks]
          exact skipSpace_cons (by decide) rest
      | @cons next item texts values there others =>
          rw [List.intercalate_cons_cons] at enough ⊢
          simp only [List.length_append, List.length_cons, List.length_nil] at enough
          have short : ([','].intercalate (next :: texts)).length < less := by omega
          have later := ih nofun short
          have bound : text.length < less + 1 := by omega
          simp only [List.append_assoc, List.cons_append, List.nil_append]
          rw [(readMembers?_member here bound (endsNumber_cons rfl _)).1 _
            (skipSpace_cons (by decide) _), later]
          rfl

/-- An object is read from the texts of its members with commas between them. -/
theorem readsAs_object (reads : List.Forall₂ IsMember texts members) (nonempty : texts ≠ [])
    (blanks : IsBlank blank)
    : ReadsAs ('\x7b' :: ([','].intercalate texts ++ (blank ++ ['\x7d']))) (.object members) := by
  intro fuel rest enough _
  simp only [List.length_append, List.length_cons, List.length_nil] at enough
  obtain ⟨less, rfl⟩ := Nat.exists_eq_add_of_le' (Nat.le_of_add_left_le enough)
  have short : ([','].intercalate texts).length < less := by omega
  have whole := readMembers?_intercalate reads nonempty short blanks rest
  have opened : ∀ closed,
      skipSpace ([','].intercalate texts ++ (blank ++ '\x7d' :: rest)) ≠ '\x7d' :: closed := by
    intro closed same
    cases less with
    | zero => cases whole
    | succ less =>
        simp only [readMembers?, same] at whole
        cases whole
  simp (disch := first | assumption | decide) only [List.append_assoc, List.cons_append,
    List.nil_append, readValue?, skipSpace_cons, whole, bind, Option.bind, pure]

-----------------------------------------------------------------------------------------
-- Values over several lines
-----------------------------------------------------------------------------------------

mutual

/-- Whether every number of a value is an integer of 64 bits, and the value can be held. -/
def IsExact : Json → Prop
  | .null => True
  | .bool _ => True
  | .int n => IsWord n
  | .real _ => False
  | .string _ => True
  | .array items => AreItemsExact items
  | .object members => AreMembersExact members
  | .unreadable => False

/-- Whether all items are exact. -/
def AreItemsExact : List Json → Prop
  | [] => True
  | item :: items => IsExact item ∧ AreItemsExact items

/-- Whether the values of all members are exact. -/
def AreMembersExact : List (String × Json) → Prop
  | [] => True
  | (_, value) :: members => IsExact value ∧ AreMembersExact members

end

theorem areItemsExact_iff : AreItemsExact values ↔ ∀ item ∈ values, IsExact item := by
  induction values with
  | nil => simp [AreItemsExact]
  | cons item items ih => simp [AreItemsExact, ih]

theorem areMembersExact_iff : AreMembersExact members ↔ ∀ member ∈ members, IsExact member.2 := by
  induction members with
  | nil => simp [AreMembersExact]
  | cons member members ih => simp [AreMembersExact, ih]

mutual

/-- An exact value is read from its lines, at any depth. -/
theorem readsAs_indentedFrom (depth : Nat) (value : Json) (known : IsExact value)
    : ReadsAs (indentedFrom depth value).toList value := by
  match value, known with
  | .null, _ => exact readsAs_null
  | .bool b, _ => exact readsAs_bool b
  | .int n, word => exact readsAs_int word
  | .string s, _ => exact readsAs_string s
  | .array [], _ => exact readsAs_array_nil
  | .array (item :: items), known =>
      have reads := readsAs_indentedItems (depth + 1) (item :: items) known
      have whole := readsAs_array reads nofun (isBlank_newLine depth)
      simpa [indentedFrom, String.toList_intercalate] using whole
  | .object [], _ => exact readsAs_object_nil
  | .object (member :: members), known =>
      have reads := isMember_indentedMembers (depth + 1) (member :: members) known
      have whole := readsAs_object reads nofun (isBlank_newLine depth)
      simpa [indentedFrom, String.toList_intercalate] using whole

/-- Each item of an indented list is read as itself, by induction over the values. -/
theorem readsAs_indentedItems (depth : Nat) (items : List Json) (known : AreItemsExact items)
    : List.Forall₂ ReadsAs ((indentedItems depth items).map String.toList) items := by
  match items, known with
  | [], _ => exact .nil
  | item :: items, ⟨here, others⟩ =>
      have reads := (readsAs_indentedFrom depth item here).behind (isBlank_newLine depth)
      have later := readsAs_indentedItems depth items others
      simpa [indentedItems, List.map_cons] using List.Forall₂.cons reads later

/-- Each member of an indented object is read with its key and its value. -/
theorem isMember_indentedMembers (depth : Nat) (members : List (String × Json))
    (known : AreMembersExact members)
    : List.Forall₂ IsMember ((indentedMembers depth members).map String.toList) members := by
  match members, known with
  | [], _ => exact .nil
  | (key, value) :: members, ⟨here, others⟩ =>
      have blank : IsBlank [' '] := List.forall_mem_singleton.mpr rfl
      have reads := (readsAs_indentedFrom depth value here).behind blank
      have first : IsMember (newLine depth ++ quote key ++ ": " ++ indentedFrom depth value).toList
          (key, value) :=
        ⟨(newLine depth).toList, ' ' :: (indentedFrom depth value).toList, by simp,
          isBlank_newLine depth, reads⟩
      have later := isMember_indentedMembers depth members others
      simpa [indentedMembers, List.map_cons] using List.Forall₂.cons first later

end

/-- A text is parsed if it is read as a value, with blanks behind it. -/
theorem parse?_of_readsAs {s : String} (reads : ReadsAs text value) (blanks : IsBlank blank)
    (written : s.toList = text ++ blank)
    : parse? s = some value := by
  have length : s.length = (text ++ blank).length := by rw [← written, String.length_toList]
  have enough : text.length ≤ s.length + 1 := by
    rw [length, List.length_append]
    omega
  have nothing : EndsNumber [] := nofun
  have ends : EndsNumber blank := by simpa using endsNumber_append blanks nothing
  have left : skipSpace blank = [] := by
    rw [← List.append_nil blank, skipSpace_append blanks]
    rfl
  rw [parse?, written, reads _ blank enough ends]
  simp only [left, List.isEmpty_nil, if_true]

/-- An exact value is read from its lines, whatever blanks follow them. -/
theorem parse?_indented {blank : String} (known : IsExact value) (blanks : IsBlank blank.toList)
    : parse? (value.indented ++ blank) = some value :=
  parse?_of_readsAs (readsAs_indentedFrom 0 value known) blanks (by simp [indented])

end EarlyBreak.Json
