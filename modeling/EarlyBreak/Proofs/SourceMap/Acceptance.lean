import EarlyBreak.Proofs.SourceMap.Grammar
import EarlyBreak.SourceMap.Mappings

/-! Which mappings texts are accepted, and which segment the fault of any other one names.  The
decoder checks digits, numbers of fields and totals at different points of two loops.  Between two
segments its cursor stands behind the rows that were accepted, and one segment takes it behind one
more row exactly if that row is accepted too.
-/

namespace EarlyBreak.SourceMap

/-- The text of a segment with the number of its line. -/
structure SegmentText where
  line : Nat
  text : List Char

/-- The values of a segment with the number of its line. -/
structure Row where
  line : Nat
  values : List Int

/-- The segments of a line that count. -/
def lineSegments (line : Nat) (parts : List (List Char)) : List SegmentText :=
  (parts.filter (· ≠ [])).map (SegmentText.mk line)

/-- The segments that count, of lines from a line number on. -/
def segmentsFrom (line : Nat) : List (List Char) → List SegmentText
  | [] => []
  | text :: rest => lineSegments line (text.splitOn ',') ++ segmentsFrom (line + 1) rest

/-- The non-empty segments of a mappings text. -/
def segments (text : List Char) : List SegmentText := segmentsFrom 0 (text.splitOn ';')

/-- The values of a segment are those it spells, and of a number that a segment may have. -/
structure IsRow (segment : SegmentText) (row : Row) : Prop where
  line : row.line = segment.line
  spells : Spells segment.text row.values
  fields : row.values.length = 1 ∨ row.values.length = 4 ∨ row.values.length = 5

/-- The sum of a field over rows.  A field that a row does not have adds nothing. -/
def total (field : Nat) (rows : List Row) : Int :=
  (rows.map fun row => row.values.getD field 0).sum

/-- A number is one of 32 bits. -/
def Fits (n : Int) : Prop := 0 ≤ n ∧ n < totalBound

/-- The running sums behind rows that end on a line are numbers of 32 bits: that of the generated
columns on the line, and those of the other four fields over all rows.
-/
structure InRange (rows : List Row) (line : Nat) : Prop where
  column : Fits (total 0 (rows.filter (·.line = line)))
  source : Fits (total 1 rows)
  sourceLine : Fits (total 2 rows)
  sourceColumn : Fits (total 3 rows)
  name : Fits (total 4 rows)

/-- Segments spell rows, and the running sums behind each row are in range. -/
structure Accepted (segments : List SegmentText) (rows : List Row) : Prop where
  spelled : List.Forall₂ IsRow segments rows
  inRange : ∀ before row after, rows = before ++ row :: after
    → InRange (before ++ [row]) row.line

/-- The segments before a number are accepted, and with the one of that number they are not. -/
structure FirstFault (segments : List SegmentText) (number : Nat) : Prop where
  present : number < segments.length
  before : ∃ rows, Accepted (segments.take number) rows
  fault : ∀ rows, ¬ Accepted (segments.take (number + 1)) rows

-----------------------------------------------------------------------------------------
-- Accepted segments
-----------------------------------------------------------------------------------------

section Accepted

variable {listed more : List SegmentText} {segment : SegmentText} {rows : List Row} {row : Row}
  {line number : Nat}

theorem accepted_nil : Accepted [] [] :=
  ⟨.nil, fun before row after split => by simp at split⟩

/-- One more row is accepted if it is in range with those before it. -/
theorem Accepted.concat (accepted : Accepted listed rows) (isRow : IsRow segment row)
    (inRange : InRange (rows ++ [row]) row.line)
    : Accepted (listed ++ [segment]) (rows ++ [row]) := by
  refine ⟨List.rel_append accepted.spelled (.cons isRow .nil), ?_⟩
  intro before last after split
  rcases List.eq_nil_or_concat after with rfl | ⟨rest, final, rfl⟩
  · obtain ⟨rfl, same⟩ := List.append_inj' split rfl
    cases same
    exact inRange
  · rw [List.concat_eq_append, ← List.cons_append, ← List.append_assoc] at split
    exact accepted.inRange before last rest (List.append_inj' split rfl).1

/-- The beginning of accepted segments is accepted. -/
theorem Accepted.take (accepted : Accepted listed rows) (number : Nat)
    : Accepted (listed.take number) (rows.take number) := by
  refine ⟨List.forall₂_take number accepted.spelled, ?_⟩
  intro before row after split
  refine accepted.inRange before row (after ++ rows.drop number) ?_
  rw [← List.cons_append, ← List.append_assoc, ← split, List.take_append_drop]

/-- With one more segment, segments are accepted exactly by one more row in range. -/
theorem Accepted.last {all : List Row} (accepted : Accepted (listed ++ [segment]) all)
    : ∃ rows row,
        all = rows ++ [row]
        ∧ Accepted listed rows
        ∧ IsRow segment row
        ∧ InRange (rows ++ [row]) row.line := by
  have size := accepted.spelled.length_eq
  rcases List.eq_nil_or_concat all with rfl | ⟨rows, row, rfl⟩
  · simp at size
  rw [List.concat_eq_append] at accepted size ⊢
  have size : listed.length = rows.length := by simpa using size
  have first := accepted.take listed.length
  rw [List.take_left, size, List.take_left] at first
  have spelled := List.forall₂_drop_append _ _ _ accepted.spelled
  rw [← size, List.drop_left] at spelled
  cases spelled with
  | cons isRow _ => exact ⟨rows, row, rfl, first, isRow, accepted.inRange rows row [] rfl⟩

/-- What a segment spells is one row only. -/
theorem IsRow.unique {other : Row} (isRow : IsRow segment row) (alike : IsRow segment other)
    : row = other := by
  cases row
  cases other
  have values := (segmentValues_eq_ok_iff.mpr isRow.spells).symm.trans
    (segmentValues_eq_ok_iff.mpr alike.spells)
  simp only [Row.mk.injEq]
  exact ⟨isRow.line.trans alike.line.symm, Except.ok.inj values⟩

/-- Segments have one list of rows at most. -/
theorem Accepted.unique {others : List Row} (accepted : Accepted listed rows)
    (alike : Accepted listed others)
    : rows = others := by
  have functional : Relator.RightUnique IsRow := by
    intro segment row other isRow alike
    exact isRow.unique alike
  exact List.right_unique_forall₂' functional accepted.spelled alike.spelled

theorem FirstFault.append (first : FirstFault listed number) (more : List SegmentText)
    : FirstFault (listed ++ more) number := by
  have present := first.present
  refine ⟨by rw [List.length_append]; omega, ?_, ?_⟩
  · rw [List.take_append_of_le_length (Nat.le_of_lt present)]
    exact first.before
  · rw [List.take_append_of_le_length (Nat.succ_le_of_lt present)]
    exact first.fault

theorem FirstFault.not_accepted (first : FirstFault listed number)
    : ¬ Accepted listed rows := by
  intro accepted
  exact first.fault _ (accepted.take (number + 1))

/-- A text has one first fault at most. -/
theorem FirstFault.unique {other : Nat} (first : FirstFault listed number)
    (alike : FirstFault listed other)
    : number = other := by
  -- A fault among the first segments leaves no number of them behind it accepted.
  have ordered : ∀ {a b : Nat}, FirstFault listed a → FirstFault listed b → ¬ a < b := by
    intro a b faulty later less
    obtain ⟨rows, accepted⟩ := later.before
    have early := accepted.take (a + 1)
    rw [List.take_take, Nat.min_eq_left less] at early
    exact faulty.fault _ early
  have notLess := ordered first alike
  have notMore := ordered alike first
  omega

end Accepted

-----------------------------------------------------------------------------------------
-- The cursor behind accepted rows
-----------------------------------------------------------------------------------------

/-- A number is a sum, and one of 32 bits. -/
def Holds (n : Nat) (sum : Int) : Prop := (n : Int) = sum ∧ n < totalBound

theorem Holds.fits {n : Nat} {sum : Int} (holds : Holds n sum) : Fits sum := by
  obtain ⟨rfl, small⟩ := holds
  exact ⟨Int.natCast_nonneg n, Int.ofNat_lt.mpr small⟩

/-- A total is advanced exactly if the sum stays in its range. -/
theorem advance_eq_ok_iff {n next : Nat} {sum difference : Int} (holds : Holds n sum)
    : advance n difference = .ok next ↔ Holds next (sum + difference) := by
  obtain ⟨rfl, _⟩ := holds
  simp only [advance, Holds]
  split
  · simp only [Except.ok.injEq]
    omega
  · simp only [reduceCtorEq, false_iff]
    omega

theorem Fits.exists_holds {sum : Int} (fits : Fits sum) : ∃ n, Holds n sum := by
  obtain ⟨nonneg, small⟩ := fits
  exact ⟨sum.toNat, Int.toNat_of_nonneg nonneg, by omega⟩

theorem exists_advance {n : Nat} {sum difference : Int} (holds : Holds n sum)
    (fits : Fits (sum + difference))
    : ∃ next, advance n difference = .ok next := by
  obtain ⟨next, nextHolds⟩ := fits.exists_holds
  exact ⟨next, (advance_eq_ok_iff holds).mpr nextHolds⟩

section Totals

variable {field line : Nat} {rows : List Row} {row : Row} {values : List Int}

theorem total_concat (field : Nat) (rows : List Row) (row : Row)
    : total field (rows ++ [row]) = total field rows + row.values.getD field 0 := by
  simp [total]

theorem columns_concat (rows : List Row) (line : Nat) (values : List Int)
    : total 0 ((rows ++ [Row.mk line values]).filter (·.line = line))
      = total 0 (rows.filter (·.line = line)) + values.getD 0 0 := by
  rw [List.filter_append, List.filter_singleton]
  simp only [decide_true, cond_true, total_concat]

theorem columns_of_lt (earlier : ∀ row ∈ rows, row.line < line)
    : total 0 (rows.filter (·.line = line)) = 0 := by
  have none : rows.filter (·.line = line) = [] := by
    rw [List.filter_eq_nil_iff]
    intro row member
    have := earlier row member
    simp only [decide_eq_true_eq]
    omega
  rw [none]
  rfl

end Totals

theorem bind_eq_ok_iff {ε α β : Type} {action : Except ε α} {rest : α → Except ε β} {result : β}
    : (action >>= rest) = .ok result ↔ ∃ a, action = .ok a ∧ rest a = .ok result := by
  cases action <;> simp [bind, Except.bind]

namespace Cursor

/-- The numbers of a cursor that run over all lines are those behind rows. -/
structure Carries (cursor : Cursor) (rows : List Row) : Prop where
  count : cursor.count = rows.length
  source : Holds cursor.totals.source (total 1 rows)
  sourceLine : Holds cursor.totals.sourceLine (total 2 rows)
  sourceColumn : Holds cursor.totals.sourceColumn (total 3 rows)
  name : Holds cursor.totals.name (total 4 rows)

/-- A cursor on a line stands behind rows of that line and of earlier ones. -/
structure Behind (cursor : Cursor) (line : Nat) (rows : List Row) : Prop where
  carries : cursor.Carries rows
  column : Holds cursor.column (total 0 (rows.filter (·.line = line)))
  lines : ∀ row ∈ rows, row.line ≤ line

variable {cursor next : Cursor} {mapping : Option Mapping} {line : Nat} {rows : List Row}
  {values : List Int}

theorem Behind.inRange (behind : cursor.Behind line rows) : InRange rows line :=
  ⟨behind.column.fits, behind.carries.source.fits, behind.carries.sourceLine.fits,
    behind.carries.sourceColumn.fits, behind.carries.name.fits⟩

theorem carries_start : start.Carries [] := by
  have zero : Holds 0 0 := ⟨rfl, by decide⟩
  exact ⟨rfl, zero, zero, zero, zero⟩

/-- Columns start anew on each line. -/
theorem Carries.behind (carries : cursor.Carries rows) (earlier : ∀ row ∈ rows, row.line < line)
    : Behind { cursor with column := 0 } line rows := by
  have zero : Holds 0 (total 0 (rows.filter (·.line = line))) := by
    rw [columns_of_lt earlier]
    exact ⟨rfl, by decide⟩
  exact ⟨⟨carries.count, carries.source, carries.sourceLine, carries.sourceColumn, carries.name⟩,
    zero, fun row member => Nat.le_of_lt (earlier row member)⟩

theorem Behind.lines_concat (behind : cursor.Behind line rows) (values : List Int)
    : ∀ row ∈ rows ++ [Row.mk line values], row.line ≤ line := by
  intro row member
  rcases List.mem_append.mp member with earlier | last
  · exact behind.lines row earlier
  · rw [List.mem_singleton.mp last]

theorem apply_one {column : Int}
    : cursor.apply line [column] = .ok (next, mapping)
      ↔ ∃ column',
          advance cursor.column column = .ok column'
          ∧ { cursor with column := column', count := cursor.count + 1 } = next
          ∧ none = mapping := by
  simp only [apply, bind_eq_ok_iff, pure, Except.pure, Except.ok.injEq, Prod.mk.injEq]

/-- A segment with a source advances each total by its field, and the name if it has one. -/
theorem apply_source {column source sourceLine sourceColumn : Int} {names : List Int}
    (few : names.length ≤ 1)
    : cursor.apply line (column :: source :: sourceLine :: sourceColumn :: names)
        = .ok (next, mapping)
      ↔ ∃ column',
          advance cursor.column column = .ok column'
          ∧ ∃ source',
            advance cursor.totals.source source = .ok source'
            ∧ ∃ sourceLine',
              advance cursor.totals.sourceLine sourceLine = .ok sourceLine'
              ∧ ∃ sourceColumn',
                advance cursor.totals.sourceColumn sourceColumn = .ok sourceColumn'
                ∧ ∃ name',
                  names.foldlM advance cursor.totals.name = .ok name'
                  ∧ ⟨column', ⟨source', sourceLine', sourceColumn', name'⟩, cursor.count + 1⟩ = next
                  ∧ some ⟨line, column', source', sourceLine', sourceColumn'⟩ = mapping := by
  have enough : ¬ 1 < names.length := Nat.not_lt_of_le few
  simp only [apply, bind_eq_ok_iff, enough, if_false, pure, Except.pure, Except.ok.injEq,
    Prod.mk.injEq]

/-- The numbers of fields that a segment may have: a column, or a source position as well, or a name
besides.
-/
theorem fields_iff
    : values.length = 1 ∨ values.length = 4 ∨ values.length = 5
      ↔ (∃ column, values = [column])
        ∨ ∃ column source sourceLine sourceColumn names,
            names.length ≤ 1
            ∧ values = column :: source :: sourceLine :: sourceColumn :: names := by
  constructor
  · intro fields
    match values with
    | [] => simp at fields
    | [column] => exact Or.inl ⟨column, rfl⟩
    | [_, _] | [_, _, _] => simp at fields
    | column :: source :: sourceLine :: sourceColumn :: names =>
        simp only [List.length_cons] at fields
        exact Or.inr ⟨column, source, sourceLine, sourceColumn, names, by omega, rfl⟩
  · rintro (⟨column, rfl⟩ | ⟨column, source, sourceLine, sourceColumn, names, few, rfl⟩)
    · exact Or.inl rfl
    · simp only [List.length_cons]
      omega

/-- Another number of fields is a fault. -/
theorem fields_of_apply (step : cursor.apply line values = .ok (next, mapping))
    : values.length = 1 ∨ values.length = 4 ∨ values.length = 5 := by
  match values with
  | [] => simp [apply] at step
  | [_] => exact Or.inl rfl
  | [_, _] | [_, _, _] =>
      simp [apply, bind_eq_ok_iff, throw, throwThe, MonadExceptOf.throw] at step
  | _ :: _ :: _ :: _ :: names =>
      by_cases few : names.length ≤ 1
      · simp only [List.length_cons]
        omega
      · have many : 1 < names.length := by omega
        simp [apply, bind_eq_ok_iff, many, throw, throwThe, MonadExceptOf.throw] at step

/-- A name advances its total, and without one it stays. -/
theorem foldlM_advance_iff {names : List Int} {n name : Nat} {sum : Int}
    (few : names.length ≤ 1) (holds : Holds n sum)
    : names.foldlM advance n = .ok name ↔ Holds name (sum + names.getD 0 0) := by
  match names with
  | [] =>
      obtain ⟨rfl, small⟩ := holds
      simp only [List.foldlM_nil, pure, Except.pure, Except.ok.injEq, Holds, List.getD_nil,
        Int.add_zero, Int.natCast_inj]
      omega
  | [difference] =>
      simp only [List.foldlM_cons, List.foldlM_nil, bind_pure]
      exact advance_eq_ok_iff holds
  | _ :: _ :: _ => simp at few

/-- The values of a segment take the cursor behind one more row. -/
theorem Behind.apply (behind : cursor.Behind line rows)
    (step : cursor.apply line values = .ok (next, mapping))
    : next.Behind line (rows ++ [⟨line, values⟩]) := by
  have carries := behind.carries
  have lines := behind.lines_concat values
  have count : cursor.count + 1 = (rows ++ [Row.mk line values]).length := by
    rw [List.length_append, carries.count]
    rfl
  rcases fields_iff.mp (fields_of_apply step) with
    ⟨column, rfl⟩ | ⟨column, source, sourceLine, sourceColumn, names, few, rfl⟩
  · obtain ⟨column', moved, rfl, -⟩ := apply_one.mp step
    have moved := (advance_eq_ok_iff behind.column).mp moved
    refine ⟨⟨count, ?_, ?_, ?_, ?_⟩, ?_, lines⟩
    · simpa [total_concat] using carries.source
    · simpa [total_concat] using carries.sourceLine
    · simpa [total_concat] using carries.sourceColumn
    · simpa [total_concat] using carries.name
    · rw [columns_concat]
      exact moved
  · obtain ⟨column', moved, source', sourceMoved, sourceLine', lineMoved, sourceColumn',
      columnMoved, name', nameMoved, rfl, -⟩ := (apply_source few).mp step
    refine ⟨⟨count, ?_, ?_, ?_, ?_⟩, ?_, lines⟩
    · rw [total_concat]
      exact (advance_eq_ok_iff carries.source).mp sourceMoved
    · rw [total_concat]
      exact (advance_eq_ok_iff carries.sourceLine).mp lineMoved
    · rw [total_concat]
      exact (advance_eq_ok_iff carries.sourceColumn).mp columnMoved
    · rw [total_concat]
      exact (foldlM_advance_iff few carries.name).mp nameMoved
    · rw [columns_concat]
      exact (advance_eq_ok_iff behind.column).mp moved

/-- Values that keep the sums in range are taken. -/
theorem Behind.exists_apply (behind : cursor.Behind line rows)
    (fields : values.length = 1 ∨ values.length = 4 ∨ values.length = 5)
    (inRange : InRange (rows ++ [⟨line, values⟩]) line)
    : ∃ next mapping, cursor.apply line values = .ok (next, mapping) := by
  have carries := behind.carries
  obtain ⟨column, source, sourceLine, sourceColumn, name⟩ := inRange
  rw [columns_concat] at column
  rw [total_concat] at source sourceLine sourceColumn name
  obtain ⟨column', moved⟩ := exists_advance behind.column column
  rcases fields_iff.mp fields with ⟨_, rfl⟩ | ⟨_, _, _, _, names, few, rfl⟩
  · exact ⟨_, _, apply_one.mpr ⟨column', moved, rfl, rfl⟩⟩
  · obtain ⟨source', sourceMoved⟩ := exists_advance carries.source source
    obtain ⟨sourceLine', lineMoved⟩ := exists_advance carries.sourceLine sourceLine
    obtain ⟨sourceColumn', columnMoved⟩ := exists_advance carries.sourceColumn sourceColumn
    obtain ⟨name', nameHolds⟩ := name.exists_holds
    have nameMoved := (foldlM_advance_iff few carries.name).mpr nameHolds
    exact ⟨_, _, (apply_source few).mpr ⟨column', moved, source', sourceMoved, sourceLine',
      lineMoved, sourceColumn', columnMoved, name', nameMoved, rfl, rfl⟩⟩

/-- A segment is taken exactly if it spells a row that keeps the sums in range, and then the cursor
stands behind that row too.
-/
theorem Behind.read (behind : cursor.Behind line rows) {segment : List Char}
    (step : cursor.read line segment = .ok (next, mapping))
    : ∃ row, IsRow ⟨line, segment⟩ row ∧ row.line = line ∧ next.Behind line (rows ++ [row]) := by
  obtain ⟨values, read, step⟩ := bind_eq_ok_iff.mp step
  exact ⟨⟨line, values⟩, ⟨rfl, segmentValues_eq_ok_iff.mp read, fields_of_apply step⟩, rfl,
    behind.apply step⟩

/-- A segment that is refused is no row in range. -/
theorem Behind.not_isRow (behind : cursor.Behind line rows) {segment : List Char}
    {fault : MappingFault} (step : cursor.read line segment = .error fault) {row : Row}
    (isRow : IsRow ⟨line, segment⟩ row)
    : ¬ InRange (rows ++ [row]) row.line := by
  intro inRange
  obtain ⟨rowLine, values⟩ := row
  have same : rowLine = line := isRow.line
  subst same
  obtain ⟨next, mapping, taken⟩ := behind.exists_apply isRow.fields inRange
  have taken : cursor.read rowLine segment = .ok (next, mapping) :=
    bind_eq_ok_iff.mpr ⟨values, segmentValues_eq_ok_iff.mpr isRow.spells, taken⟩
  rw [step] at taken
  cases taken

end Cursor

-----------------------------------------------------------------------------------------
-- Lines and whole texts
-----------------------------------------------------------------------------------------

section Run

variable {listed : List SegmentText} {rows : List Row} {line : Nat} {cursor final : Cursor}
  {mappings : List Mapping} {parts lines : List (List Char)} {fault : MappingError}

theorem lineSegments_cons_nil (line : Nat) (parts : List (List Char))
    : lineSegments line ([] :: parts) = lineSegments line parts := by
  simp [lineSegments]

theorem lineSegments_cons {segment : List Char} (counts : segment ≠ []) (line : Nat)
    (parts : List (List Char))
    : lineSegments line (segment :: parts) = ⟨line, segment⟩ :: lineSegments line parts := by
  simp [lineSegments, counts]

/-- The segments of a line that are read are accepted behind those before them, by induction on the
segments.
-/
theorem accepted_of_readSegments (accepted : Accepted listed rows)
    (behind : cursor.Behind line rows)
    (read : readSegments line cursor parts = .ok (final, mappings))
    : ∃ all, Accepted (listed ++ lineSegments line parts) all ∧ final.Behind line all := by
  induction parts generalizing listed rows cursor mappings with
  | nil =>
      cases read
      exact ⟨rows, by simpa [lineSegments] using accepted, behind⟩
  | cons segment parts ih =>
      rw [readSegments] at read
      split at read
      case isTrue empty =>
        rw [empty, lineSegments_cons_nil]
        exact ih accepted behind read
      case isFalse counts =>
        cases step : cursor.read line segment with
        | error fault => simp [step] at read
        | ok result =>
            obtain ⟨next, mapping⟩ := result
            simp only [step, bind_eq_ok_iff] at read
            obtain ⟨⟨last, others⟩, read, same⟩ := read
            cases same
            obtain ⟨row, isRow, rfl, further⟩ := behind.read step
            have rest := ih (accepted.concat isRow further.inRange) further read
            rwa [List.append_assoc, List.singleton_append, ← lineSegments_cons counts] at rest

/-- A fault on a line names the first segment at fault. -/
theorem firstFault_of_readSegments (accepted : Accepted listed rows)
    (behind : cursor.Behind line rows)
    (read : readSegments line cursor parts = .error fault)
    : FirstFault (listed ++ lineSegments line parts) fault.segment := by
  induction parts generalizing listed rows cursor with
  | nil => cases read
  | cons segment parts ih =>
      rw [readSegments] at read
      split at read
      case isTrue empty =>
        rw [empty, lineSegments_cons_nil]
        exact ih accepted behind read
      case isFalse counts =>
        rw [lineSegments_cons counts]
        cases step : cursor.read line segment with
        | error cause =>
            simp only [step, Except.error.injEq] at read
            subst read
            have number : cursor.count = listed.length :=
              behind.carries.count.trans accepted.spelled.length_eq.symm
            refine ⟨by simp [number], ⟨rows, by simpa [number] using accepted⟩, ?_⟩
            intro all spelled
            have upTo : (listed ++ ⟨line, segment⟩ :: lineSegments line parts).take
                (cursor.count + 1) = listed ++ [⟨line, segment⟩] := by
              rw [number, List.take_length_add_append]
              rfl
            rw [upTo] at spelled
            obtain ⟨others, row, -, before, isRow, inRange⟩ := spelled.last
            rw [before.unique accepted] at inRange
            exact behind.not_isRow step isRow inRange
        | ok result =>
            obtain ⟨next, mapping⟩ := result
            obtain ⟨row, isRow, rfl, further⟩ := behind.read step
            have failed : readSegments row.line next parts = .error fault := by
              cases rest : readSegments row.line next parts with
              | error cause => simpa [step, rest, bind, Except.bind] using read
              | ok result => simp [step, rest, bind, Except.bind, pure, Except.pure] at read
            have rest := ih (accepted.concat isRow further.inRange) further failed
            rwa [List.append_assoc, List.singleton_append] at rest

/-- What is read line by line is accepted, by induction on the lines. -/
theorem accepted_of_readLines (accepted : Accepted listed rows) (carries : cursor.Carries rows)
    (earlier : ∀ row ∈ rows, row.line < line)
    (read : readLines line cursor lines = .ok mappings)
    : ∃ all, Accepted (listed ++ segmentsFrom line lines) all := by
  induction lines generalizing listed rows line cursor mappings with
  | nil => exact ⟨rows, by simpa [segmentsFrom] using accepted⟩
  | cons text lines ih =>
      simp only [readLines, bind_eq_ok_iff] at read
      obtain ⟨⟨next, first⟩, read, others, further, -⟩ := read
      obtain ⟨all, accepted, behind⟩ :=
        accepted_of_readSegments accepted (carries.behind earlier) read
      have rest := ih accepted behind.carries
        (fun row member => Nat.lt_succ_of_le (behind.lines row member)) further
      rwa [List.append_assoc] at rest

/-- And what is refused has its first fault where reading stops. -/
theorem firstFault_of_readLines (accepted : Accepted listed rows) (carries : cursor.Carries rows)
    (earlier : ∀ row ∈ rows, row.line < line)
    (read : readLines line cursor lines = .error fault)
    : FirstFault (listed ++ segmentsFrom line lines) fault.segment := by
  induction lines generalizing listed rows line cursor with
  | nil => cases read
  | cons text lines ih =>
      have behind := carries.behind earlier
      rw [segmentsFrom, ← List.append_assoc]
      cases first : readSegments line { cursor with column := 0 } (text.splitOn ',') with
      | error cause =>
          have same : cause = fault := by
            simpa [readLines, first, bind, Except.bind] using read
          rw [← same]
          exact (firstFault_of_readSegments accepted behind first).append _
      | ok result =>
          obtain ⟨next, mappings⟩ := result
          obtain ⟨all, accepted, behind⟩ := accepted_of_readSegments accepted behind first
          have failed : readLines (line + 1) next lines = .error fault := by
            cases rest : readLines (line + 1) next lines with
            | error cause => simpa [readLines, first, rest, bind, Except.bind] using read
            | ok others =>
                simp [readLines, first, rest, bind, Except.bind, pure, Except.pure] at read
          exact ih accepted behind.carries
            (fun row member => Nat.lt_succ_of_le (behind.lines row member)) failed

end Run

/-- A mappings text is accepted exactly if each of its non-empty segments is a row of one, four or
five quantities and every running sum behind every segment is a number of 32 bits, and otherwise
the fault names the first segment that breaks this.
-/
theorem decodeMappings_accepts (text : List Char)
    : ((∃ mappings, decodeMappings text = .ok mappings) ↔ ∃ rows, Accepted (segments text) rows)
      ∧ ∀ number,
          (∃ fault, decodeMappings text = .error ⟨number, fault⟩)
            ↔ FirstFault (segments text) number := by
  have none : ∀ row ∈ ([] : List Row), row.line < 0 := by simp
  cases decoded : decodeMappings text with
  | ok mappings =>
      obtain ⟨rows, accepted⟩ :=
        accepted_of_readLines accepted_nil Cursor.carries_start none decoded
      have accepted : Accepted (segments text) rows := accepted
      refine ⟨by simpa using ⟨rows, accepted⟩, ?_⟩
      intro number
      simp only [reduceCtorEq, exists_false, false_iff]
      intro first
      exact first.not_accepted accepted
  | error fault =>
      have first : FirstFault (segments text) fault.segment :=
        firstFault_of_readLines accepted_nil Cursor.carries_start none decoded
      obtain ⟨segment, cause⟩ := fault
      refine ⟨by simpa using fun rows => first.not_accepted, ?_⟩
      intro number
      simp only [Except.error.injEq, MappingError.mk.injEq, exists_and_left, exists_eq', and_true]
      constructor
      · rintro rfl
        exact first
      · exact first.unique

end EarlyBreak.SourceMap
