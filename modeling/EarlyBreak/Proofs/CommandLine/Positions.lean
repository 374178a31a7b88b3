import EarlyBreak.CommandLine.BreakpointSpec
import EarlyBreak.Proofs.Text.Cuts

/-! How breakpoints are read whose path holds no colon.  A number that is too large for a position
is refused at the end of a text; in front of a column it is taken for a part of the path.
-/

namespace EarlyBreak.CommandLine

open Text (isAsciiDigit decimal?)

variable {digits : List Char} {count number : Nat}

/-- The number that digits spell behind a number. -/
def spelledFrom (number : Nat) (digits : List Char) : Nat :=
  digits.foldl (fun n c => n * 10 + (c.toNat - '0'.toNat)) number

/-- Digits never make a number smaller, by induction on them. -/
theorem le_spelledFrom (number : Nat) (digits : List Char)
    : number ≤ spelledFrom number digits := by
  induction digits generalizing number with
  | nil => exact Nat.le_refl number
  | cons c rest ih =>
      have later := ih (number * 10 + (c.toNat - '0'.toNat))
      rw [spelledFrom, List.foldl_cons]
      exact Nat.le_trans (by omega) later

/-- Digits are read up to the end as long as the count has 32 bits: it only grows, so that one which
is too large stays so.
-/
theorem countFrom_eq (decimal : ∀ c ∈ digits, isAsciiDigit c = true)
    (small : count < Nat.pow 2 32)
    : countFrom count digits
      = if spelledFrom count digits < Nat.pow 2 32 then .ok (spelledFrom count digits)
        else .error .tooLarge := by
  induction digits generalizing count with
  | nil => rw [countFrom, spelledFrom, List.foldl_nil, if_pos small]
  | cons c rest ih =>
      obtain ⟨first, others⟩ := List.forall_mem_cons.mp decimal
      have whole : spelledFrom count (c :: rest)
          = spelledFrom (count * 10 + (c.toNat - '0'.toNat)) rest := rfl
      rw [countFrom, if_pos first, whole]
      dsimp only
      split
      case isTrue still => exact ih others still
      case isFalse above =>
        have grown := le_spelledFrom (count * 10 + (c.toNat - '0'.toNat)) rest
        rw [if_neg (by omega)]

/-- What is read as a number are digits, one at least. -/
theorem decimal?_eq_some (spelled : decimal? digits = some number)
    : digits ≠ [] ∧ (∀ c ∈ digits, isAsciiDigit c = true) ∧ number = spelledFrom 0 digits := by
  rw [decimal?] at spelled
  split at spelled
  case isTrue => cases spelled
  case isFalse plain =>
    simp only [Bool.or_eq_true, List.isEmpty_iff, List.any_eq_true, Bool.not_eq_true', not_or,
      not_exists, not_and, Bool.not_eq_false] at plain
    exact ⟨plain.1, plain.2, (Option.some.inj spelled).symm⟩

/-- A number is spelled with digits alone. -/
theorem not_mem_of_decimal? {c : Char} (spelled : decimal? digits = some number)
    (other : isAsciiDigit c = false)
    : c ∉ digits := by
  intro member
  rw [(decimal?_eq_some spelled).2.1 c member] at other
  cases other

/-- A count of digits is their number, unless it has more than 32 bits. -/
theorem count?_of_decimal? (spelled : decimal? digits = some number)
    : count? digits = if number < Nat.pow 2 32 then .ok number else .error .tooLarge := by
  obtain ⟨nonempty, decimal, rfl⟩ := decimal?_eq_some spelled
  have plus : '+' ∉ digits := not_mem_of_decimal? spelled (by decide)
  rw [count?.eq_def]
  split
  case h_1 => exact absurd rfl nonempty
  case h_2 => exact absurd List.mem_cons_self plus
  case h_3 => exact absurd List.mem_cons_self plus
  case h_4 => exact countFrom_eq decimal (by decide)

end EarlyBreak.CommandLine

namespace EarlyBreak.CommandLine.BreakpointSpec

open Text (decimal?)

variable {root : Path} {text path lineDigits columnDigits : List Char} {line number : Nat}
  {column : Option Nat} {fault : SpecFault}

theorem lineBefore?_of_not_mem (plain : ':' ∉ text) : lineBefore? text = none := by
  simp only [lineBefore?, Text.splitLast?_of_not_mem plain, bind, Option.bind]

/-- A line stands before a column, unless its number is too large for one. -/
theorem lineBefore?_append (path : List Char) (spelled : decimal? lineDigits = some line)
    : lineBefore? (path ++ ':' :: lineDigits)
      = if line < Nat.pow 2 32 then some (path, line) else none := by
  have behind : ':' ∉ lineDigits := not_mem_of_decimal? spelled (by decide)
  have read := count?_of_decimal? spelled
  simp only [lineBefore?, Text.splitLast?_append behind, bind, Option.bind]
  by_cases small : line < Nat.pow 2 32
  · rw [if_pos small] at read ⊢
    simp only [read, Except.toOption, pure]
  · rw [if_neg small] at read ⊢
    simp only [read, Except.toOption]

/-- The number behind the last colon decides whether a text has parts. -/
theorem parts_append (head : List Char) (spelled : decimal? columnDigits = some number)
    : parts (head ++ ':' :: columnDigits)
      = if number < Nat.pow 2 32 then
          match lineBefore? head with
          | some (path, line) => .ok (path, line, some number)
          | none => .ok (head, number, none)
        else .error (.noPosition (String.ofList columnDigits) .tooLarge) := by
  have behind : ':' ∉ columnDigits := not_mem_of_decimal? spelled (by decide)
  rw [parts, Text.splitLast?_append behind]
  simp only [count?_of_decimal? spelled]
  by_cases small : number < Nat.pow 2 32
  · rcases lineBefore? head with - | ⟨path, line⟩
    all_goals simp only [if_pos small]
  · simp only [if_neg small]

/-- A number that a line or a column can have. -/
def IsPosition (number : Nat) : Prop := 1 ≤ number ∧ number ≤ 4294967295

/-- A path as it is seen from the root: below it, unless it is absolute. -/
def seenFrom (root : Path) (text : List Char) : Path :=
  let path := Path.ofString (String.ofList text)
  if path.isAbsolute then path else root.join path

/-- A text reads as a path, a line and a column: exactly if the numbers are positions it names a
breakpoint, and then that one.
-/
structure ReadsAs (root : Path) (text path : List Char) (line : Nat) (column : Option Nat) :
    Prop where
  accepted
    : (∃ spec, parse root (String.ofList text) = .ok spec)
      ↔ IsPosition line ∧ ∀ position ∈ column, IsPosition position
  named
    : ∀ {spec}, parse root (String.ofList text) = .ok spec
      → spec = ⟨seenFrom root path, ⟨line, column⟩⟩

theorem seenFrom_eq (root : Path) (text : List Char)
    : seenFrom root text = root.join (Path.ofString (String.ofList text)) := by
  unfold seenFrom
  dsimp only
  split
  case isTrue absolute => rw [Path.join, if_pos absolute]
  case isFalse => rfl

/-- Parts whose numbers have 32 bits name a breakpoint, unless one of them is zero. -/
theorem parse_of_parts (root : Path) (split : parts text = .ok (path, line, column))
    : parse root (String.ofList text)
      = if line = 0 then .error ⟨String.ofList text, .lineZero⟩
        else if column = some 0 then .error ⟨String.ofList text, .columnZero⟩
        else .ok ⟨seenFrom root path, ⟨line, column⟩⟩ := by
  simp only [parse, String.toList_ofList, split, seenFrom_eq]

theorem readsAs_of_error {e : SpecError} (refused : parse root (String.ofList text) = .error e)
    (unfit : ¬ (IsPosition line ∧ ∀ position ∈ column, IsPosition position))
    : ReadsAs root text path line column where
  accepted := by
    refine iff_of_false ?_ unfit
    rintro ⟨spec, named⟩
    rw [refused] at named
    cases named
  named := by
    intro spec named
    rw [refused] at named
    cases named

theorem readsAs_of_ok
    (parsed : parse root (String.ofList text) = .ok ⟨seenFrom root path, ⟨line, column⟩⟩)
    (fit : IsPosition line ∧ ∀ position ∈ column, IsPosition position)
    : ReadsAs root text path line column where
  accepted := iff_of_true ⟨_, parsed⟩ fit
  named := by
    intro spec named
    rw [parsed] at named
    exact (Except.ok.inj named).symm

theorem readsAs_of_refused (refused : parts text = .error fault)
    (unfit : ¬ (IsPosition line ∧ ∀ position ∈ column, IsPosition position))
    : ReadsAs root text path line column := by
  refine readsAs_of_error (e := ⟨String.ofList text, fault⟩) ?_ unfit
  simp only [parse, String.toList_ofList, refused]

/-- Numbers of 32 bits are positions unless they are zero. -/
theorem readsAs_of_parts (split : parts text = .ok (path, line, column))
    (small : line < Nat.pow 2 32) (also : ∀ position ∈ column, position < Nat.pow 2 32)
    : ReadsAs root text path line column := by
  have bound : Nat.pow 2 32 = 4294967295 + 1 := by decide
  have parsed := parse_of_parts root split
  by_cases lineZero : line = 0
  · rw [if_pos lineZero] at parsed
    refine readsAs_of_error parsed ?_
    rintro ⟨⟨least, -⟩, -⟩
    omega
  rw [if_neg lineZero] at parsed
  by_cases columnZero : column = some 0
  · rw [if_pos columnZero] at parsed
    refine readsAs_of_error parsed ?_
    rintro ⟨-, fits⟩
    have least := (fits 0 columnZero).1
    omega
  · rw [if_neg columnZero] at parsed
    refine readsAs_of_ok parsed ⟨⟨by omega, by omega⟩, fun position given => ?_⟩
    have nonzero : position ≠ 0 := by
      rintro rfl
      exact columnZero given
    have most := also position given
    exact ⟨by omega, by omega⟩

/-- A path and a line are read as the breakpoint at the start of that line. -/
theorem readsAs_short (root : Path) (plain : ':' ∉ path) (spelled : decimal? lineDigits = some line)
    : ReadsAs root (path ++ ':' :: lineDigits) path line none := by
  have split := parts_append path spelled
  rw [lineBefore?_of_not_mem plain] at split
  by_cases small : line < Nat.pow 2 32
  · rw [if_pos small] at split
    exact readsAs_of_parts split small nofun
  · rw [if_neg small] at split
    refine readsAs_of_refused split ?_
    rintro ⟨⟨-, most⟩, -⟩
    exact small (Nat.lt_of_le_of_lt most (by decide))

/-- With a line that is too large, what stands in front of the column is the path. -/
theorem parse_overlong (root : Path) (path : List Char) (lineRead : decimal? lineDigits = some line)
    (columnRead : decimal? columnDigits = some number) (above : 4294967295 < line)
    (fits : IsPosition number)
    : parse root (String.ofList (path ++ ':' :: lineDigits ++ ':' :: columnDigits))
      = .ok ⟨seenFrom root (path ++ ':' :: lineDigits), ⟨number, none⟩⟩ := by
  have bound : Nat.pow 2 32 = 4294967295 + 1 := by decide
  have split := parts_append (path ++ ':' :: lineDigits) columnRead
  obtain ⟨least, most⟩ := fits
  rw [if_pos (by omega), lineBefore?_append path lineRead, if_neg (by omega)] at split
  rw [parse_of_parts root split, if_neg (by omega), if_neg nofun]

/-- A text of a path without a colon and of a line is read back or refused as it should be.  So is
one with a column as well, except where the line is too large and the column is not: then the text
names a breakpoint in a file whose path ends in that number.
-/
theorem read_back_iff (root : Path) (plain : ':' ∉ path)
    (lineRead : decimal? lineDigits = some line)
    (columnRead : decimal? columnDigits = some number)
    : let short := path ++ ':' :: lineDigits
      let long := short ++ ':' :: columnDigits
      ReadsAs root short path line none
      ∧ (ReadsAs root long path line (some number)
        ↔ ¬ (4294967295 < line ∧ IsPosition number))
      ∧ (4294967295 < line → IsPosition number
        → parse root (String.ofList long) = .ok ⟨seenFrom root short, ⟨number, none⟩⟩) := by
  intro short long
  have overlong : 4294967295 < line → IsPosition number
      → parse root (String.ofList long) = .ok ⟨seenFrom root short, ⟨number, none⟩⟩ :=
    parse_overlong root path lineRead columnRead
  have bound : Nat.pow 2 32 = 4294967295 + 1 := by decide
  have split := parts_append short columnRead
  refine ⟨readsAs_short root plain lineRead, ⟨?_, ?_⟩, overlong⟩
  · rintro reads ⟨above, fits⟩
    have accepted := reads.accepted.mp ⟨_, overlong above fits⟩
    exact Nat.not_lt.mpr accepted.1.2 above
  · intro sound
    by_cases columnFits : number < Nat.pow 2 32
    · by_cases lineFits : line < Nat.pow 2 32
      · rw [if_pos columnFits, lineBefore?_append path lineRead, if_pos lineFits] at split
        refine readsAs_of_parts split lineFits ?_
        rintro position ⟨⟩
        exact columnFits
      · -- The line is too large, so the column has to be zero.
        rw [if_pos columnFits, lineBefore?_append path lineRead, if_neg lineFits] at split
        have zero : number = 0 := by
          by_contra nonzero
          exact sound ⟨by omega, by omega, by omega⟩
        have parsed := parse_of_parts root split
        rw [if_pos zero] at parsed
        refine readsAs_of_error parsed ?_
        rintro ⟨⟨-, most⟩, -⟩
        omega
    · rw [if_neg columnFits] at split
      refine readsAs_of_refused split ?_
      rintro ⟨-, fits⟩
      have most := (fits number rfl).2
      omega

theorem read_back_padded
    : let short := "a.ts:007".toList
      let long := short ++ ":4294967296".toList
      ReadsAs (Path.ofString "/w") short "a.ts".toList 7 none
      ∧ (ReadsAs (Path.ofString "/w") long "a.ts".toList 7 (some 4294967296)
        ↔ ¬ (4294967295 < 7 ∧ IsPosition 4294967296)) := by
  have plain : ':' ∉ "a.ts".toList := by decide
  have line : decimal? "007".toList = some 7 := by decide
  have column : decimal? "4294967296".toList = some 4294967296 := by decide
  obtain ⟨short, long, -⟩ := read_back_iff (Path.ofString "/w") plain line column
  exact ⟨short, long⟩

/-- A line that is one too large: the breakpoint is in another file. -/
theorem overlong_line_misread
    : let text := "a.ts:4294967296:5".toList
      parse (Path.ofString "/w") (String.ofList text)
        = .ok ⟨Path.ofString "/w/a.ts:4294967296", ⟨5, none⟩⟩
      ∧ ¬ ReadsAs (Path.ofString "/w") text "a.ts".toList 4294967296 (some 5) := by
  intro text
  have parsed : parse (Path.ofString "/w") (String.ofList text)
      = .ok ⟨Path.ofString "/w/a.ts:4294967296", ⟨5, none⟩⟩ := by decide
  refine ⟨parsed, fun reads => ?_⟩
  have most := (reads.accepted.mp ⟨_, parsed⟩).1.2
  exact absurd most (by decide)

end EarlyBreak.CommandLine.BreakpointSpec
