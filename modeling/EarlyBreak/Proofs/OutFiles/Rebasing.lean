import EarlyBreak.Proofs.Glob.Slashes
import EarlyBreak.Proofs.OutFiles.Reading
import EarlyBreak.Proofs.Overrides.Expansion
import Mathlib.Data.List.DropRight

/-! Patterns below the variable for the root.  Where the text that takes the place of the variable
names the root, what is left of the pattern below the root is what was written behind the variable,
but for pieces at its ends that stand for nothing.
-/

namespace EarlyBreak

open EarlyBreak.Path (slash Component)

namespace Path

theorem dropComponents_zero (pieces : List (List UInt8))
    : dropComponents 0 pieces = pieces.dropWhile isIdle := by
  induction pieces with
  | nil => rfl
  | cons piece rest ih =>
      rw [dropComponents, List.dropWhile_cons, ih]

/-- The pieces that stand for the components are what is dropped in front, by induction on them. -/
theorem dropComponents_append (front back : List (List UInt8))
    : dropComponents (front.filterMap Component.ofPiece?).length (front ++ back)
      = back.dropWhile isIdle := by
  induction front with
  | nil => exact dropComponents_zero back
  | cons piece rest ih =>
      rw [List.cons_append]
      cases idle : isIdle piece with
      | true =>
          rw [List.filterMap_cons_none (ofPiece?_of_isIdle idle), ← ih]
          cases (rest.filterMap Component.ofPiece?).length <;> exact if_pos idle
      | false =>
          obtain ⟨component, stands, -⟩ := ofPiece?_of_not_isIdle idle
          have busy : ¬ isIdle piece = true := by simp [idle]
          rw [List.filterMap_cons_some stands, List.length_cons, dropComponents, if_neg busy]
          exact ih

end Path

namespace OutFiles

open PathOverride (rootText rootVariable withRoot)

variable {s : String} {body rest : List Char}

/-- The components that a text has behind its root. -/
def names (s : List Char) : List Component :=
  ((s.splitOn '/').map Text.encoded).filterMap Component.ofPiece?

theorem names_append_cons (front behind : List Char)
    : names (front ++ '/' :: behind) = names front ++ names behind := by
  rw [names, List.splitOn_append_cons_self, List.map_append, List.filterMap_append, names, names]

theorem names_nil : names [] = [] := by
  decide

theorem names_append_slashes (s : List Char) (count : Nat)
    : names (s ++ List.replicate count '/') = names s := by
  induction count generalizing s with
  | zero => rw [List.replicate_zero, List.append_nil]
  | succ count ih =>
      have none : names (List.replicate count '/') = [] := by
        rw [← List.nil_append (List.replicate count '/'), ih, names_nil]
      rw [List.replicate_succ, names_append_cons, none, List.append_nil]

instance (piece : List Char) : Decidable (IsIdle piece) :=
  inferInstanceAs (Decidable (piece = [] ∨ piece = ['.']))

/-- The pieces of a text without the idle ones at both ends. -/
def corePieces (body : List Char) : List (List Char) :=
  ((body.splitOn '/').dropWhile fun piece => decide (IsIdle piece)).rdropWhile
    fun piece => decide (IsIdle piece)

/-- A text without the idle pieces at both ends. -/
def core (body : List Char) : List Char := ['/'].intercalate (corePieces body)

theorem isIdle_comp_encoded : Path.isIdle ∘ Text.encoded = fun piece => decide (IsIdle piece) := by
  funext piece
  rw [Function.comp, Bool.eq_iff_iff, decide_eq_true_iff]
  refine ⟨isIdle_of_encoded, ?_⟩
  rintro (rfl | rfl) <;> decide

theorem encoded_corePieces (body : List Char)
    : Path.dropIdleEnd (((body.splitOn '/').map Text.encoded).dropWhile Path.isIdle)
      = (corePieces body).map Text.encoded := by
  rw [Path.dropIdleEnd, ← List.rdropWhile, List.dropWhile_map, isIdle_comp_encoded, corePieces,
    List.rdropWhile, List.rdropWhile, ← List.map_reverse, List.dropWhile_map, isIdle_comp_encoded,
    List.map_reverse]

/-- The root of an absolute path is written with the same components. -/
theorem names_rootText (plain : '\\' ∉ s.toList)
    : names (rootText (.ofString s)) = names s.toList := by
  rw [PathOverride.rootText_ofString, slashed_eq_self plain]
  obtain ⟨count, cut⟩ := Text.exists_trimEnd '/' s.toList
  conv_rhs => rw [cut]
  rw [names_append_slashes]

theorem components_ofString_eq (absolute : s.toList = '/' :: rest)
    : (Path.ofString s).components = .root :: names s.toList := by
  have none : names ('/' :: rest) = names rest := by
    rw [← List.nil_append ('/' :: rest), names_append_cons, names_nil, List.nil_append]
  rw [components_ofString absolute, absolute, none, names]

section AbsoluteRoot

variable (absolute : s.toList = '/' :: rest) (plain : '\\' ∉ s.toList) {whole : String}
  (below : whole.toList = rootText (.ofString s) ++ '/' :: body)

include absolute plain below

/-- What is below a root starts with a slash if the root does. -/
theorem exists_belowRoot : ∃ behind, whole.toList = '/' :: behind := by
  rw [below, PathOverride.rootText_ofString, slashed_eq_self plain]
  obtain ⟨count, cut⟩ := Text.exists_trimEnd '/' s.toList
  cases bare : Text.trimEnd (· == '/') s.toList with
  | nil => exact ⟨body, rfl⟩
  | cons first more =>
      rw [cut, bare] at absolute
      obtain rfl : first = '/' := (List.cons.inj absolute).1
      exact ⟨more ++ '/' :: body, rfl⟩

/-- A path below the root has the components of the root and then the names. -/
theorem components_belowRoot
    : (Path.ofString whole).components = (Path.ofString s).components ++ names body := by
  obtain ⟨behind, starts⟩ := exists_belowRoot absolute plain below
  rw [components_ofString_eq starts, components_ofString_eq absolute, below, names_append_cons,
    names_rootText plain, List.cons_append]

/-- Behind the components of the root stands the core of what is written below it. -/
theorem textAfter_belowRoot
    : (Path.ofString whole).textAfter (Path.ofString s).components.length
      = Text.encoded (core body) := by
  obtain ⟨behind, starts⟩ := exists_belowRoot absolute plain below
  have pieces : (Path.ofString whole).bytes.splitOn slash
      = ((rootText (.ofString s)).splitOn '/').map Text.encoded
        ++ (body.splitOn '/').map Text.encoded := by
    rw [Path.ofString, ← Text.encoded_toList, Text.splitOn_encoded, below,
      List.splitOn_append_cons_self, List.map_append]
  have first (count : Nat)
      : Path.dropComponents count ((Path.ofString whole).bytes.splitOn slash).tail
        = Path.dropComponents count ((Path.ofString whole).bytes.splitOn slash) := by
    have idle : Path.isIdle (Text.encoded []) = true := by decide
    rw [splitOn_ofString starts]
    cases count <;> exact (if_pos idle).symm
  have length : (names s.toList).length
      = ((((rootText (.ofString s)).splitOn '/').map Text.encoded).filterMap
          Component.ofPiece?).length := by
    rw [← names_rootText plain, names]
  rw [components_ofString_eq absolute, List.length_cons, Path.textAfter, first, pieces, length,
    Path.dropComponents_append, encoded_corePieces, core, Text.encoded_intercalate]

/-- What is left of a pattern below an absolute root without backslashes. -/
theorem relativeBody_belowRoot
    : (relativeBody (.ofString s) whole).toList = slashed (core body) := by
  obtain ⟨behind, starts⟩ := exists_belowRoot absolute plain below
  have inside : ((Path.ofString s).below? (.ofString whole)).isSome = true := by
    rw [Path.below?, components_belowRoot absolute plain below,
      if_pos (List.isPrefixOf_iff_prefix.mpr (List.prefix_append _ _))]
    rfl
  rw [relativeBody]
  simp only [isAbsolute_ofString starts, inside, Bool.and_self, if_true]
  rw [textAfter_belowRoot absolute plain below, toList_slashed_lossy]

end AbsoluteRoot

/-- What is written behind the variable is a pattern of names below a folder: behind any `./` it
starts with no slash and no sign, and it does not end in a piece that stands for nothing.
-/
structure IsProper (negated : Bool) (body : List Char) : Prop where
  unsigned : negated = false → (dropHere body).head? ≠ some '!'
  relative : (dropHere body).head? ≠ some '/'
  named : body ≠ ['.'] ∧ ¬ ['/'] <:+ body ∧ ¬ ['/', '.'] <:+ body

theorem IsProper.of_here {negated : Bool} (proper : IsProper negated ('.' :: '/' :: rest))
    : IsProper negated rest where
  unsigned := proper.unsigned
  relative := proper.relative
  named := by
    obtain ⟨-, slash, dot⟩ := proper.named
    refine ⟨?_, fun ends => slash ?_, fun ends => dot ?_⟩
    · rintro rfl
      exact dot ⟨['.'], rfl⟩
    · exact ends.trans ⟨['.', '/'], rfl⟩
    · exact ends.trans ⟨['.', '/'], rfl⟩

theorem core_eq_self
    (first : ∀ piece ∈ (body.splitOn '/').head?, ¬ IsIdle piece)
    (last : ∀ piece ∈ (body.splitOn '/').getLast?, ¬ IsIdle piece)
    : core body = body := by
  have front : (body.splitOn '/').dropWhile (fun piece => decide (IsIdle piece))
      = body.splitOn '/' := by
    cases pieces : body.splitOn '/' with
    | nil => rfl
    | cons piece more =>
        have busy := first piece (by simp [pieces])
        exact List.dropWhile_cons_of_neg (by simpa using busy)
  have back : (body.splitOn '/').rdropWhile (fun piece => decide (IsIdle piece))
      = body.splitOn '/' := by
    rw [List.rdropWhile_eq_self_iff]
    intro some
    simpa using last _ (List.getLast?_eq_some_getLast some)
  rw [core, corePieces, front, back, List.intercalate_splitOn]

/-- Nothing but a `./` in front is idle in a proper pattern, by induction along them. -/
theorem core_eq_dropHere {negated : Bool} (proper : IsProper negated body)
    : core body = dropHere body := by
  fun_induction dropHere body with
  | case1 rest ih =>
      have dropped : core ('.' :: '/' :: rest) = core rest := by
        have pieces : ('.' :: '/' :: rest).splitOn '/' = ['.'] :: rest.splitOn '/' :=
          List.splitOn_append_cons_self ['.'] rest
        rw [core, core, corePieces, corePieces, pieces]
        rfl
      rw [dropped, ih proper.of_here]
  | case2 body notHere =>
      have kept : dropHere body = body := dropHere.eq_2 body notHere
      have relative := proper.relative
      obtain ⟨notDot, notSlash, notSlashDot⟩ := proper.named
      rw [kept] at relative
      by_cases empty : body = []
      · subst empty
        rfl
      by_cases slash : '/' ∈ body
      · refine core_eq_self ?_ ?_
        · obtain ⟨front, behind, rfl, clear⟩ := List.eq_append_cons_of_mem slash
          rw [List.splitOn_append_cons_self, List.splitOn_eq_singleton clear]
          rintro _ ⟨⟩ (rfl | rfl)
          · exact relative rfl
          · exact notHere behind rfl
        · obtain ⟨front, behind, rfl, clear⟩ := Text.exists_last_cut slash
          rw [List.splitOn_append_cons_self, List.splitOn_eq_singleton clear, List.getLast?_concat]
          rintro _ ⟨⟩ (rfl | rfl)
          · exact notSlash ⟨front, rfl⟩
          · exact notSlashDot ⟨front, rfl⟩
      · have single : body.splitOn '/' = [body] := List.splitOn_eq_singleton slash
        refine core_eq_self ?_ ?_ <;> rw [single] <;> rintro _ ⟨⟩ (rfl | rfl) <;> contradiction

/-- Dropping a `./` in front twice is dropping it once. -/
theorem patternText_dropHere (body : List Char)
    : patternText (slashed (dropHere body)) = patternText body := by
  have twice (s : List Char) : patternText (slashed s) = patternText s :=
    congrArg dropHere (slashed_slashed s)
  rw [twice]
  fun_induction dropHere body with
  | case1 rest ih => exact ih
  | case2 => rfl

/-- Nothing but `./`, some number of times. -/
def hereFolders (count : Nat) : List Char := (List.replicate count "./".toList).flatten

theorem hereFolders_succ (count : Nat)
    : hereFolders (count + 1) = '.' :: '/' :: hereFolders count := by
  simp [hereFolders, List.replicate_succ]

theorem dropHere_hereFolders (count : Nat) (s : List Char)
    : dropHere (hereFolders count ++ s) = dropHere s := by
  induction count with
  | zero => rfl
  | succ count ih =>
      rw [hereFolders_succ, List.cons_append, List.cons_append, dropHere, ih]

/-- A text starts with some number of `./`, none left behind them. -/
theorem exists_hereFolders (s : List Char) : ∃ count, s = hereFolders count ++ dropHere s := by
  fun_induction dropHere s with
  | case1 rest ih =>
      obtain ⟨count, cut⟩ := ih
      refine ⟨count + 1, ?_⟩
      rw [hereFolders_succ, List.cons_append, List.cons_append, ← cut]
  | case2 s => exact ⟨0, rfl⟩

theorem patternText_hereFolders (count : Nat) (s : List Char)
    : patternText (hereFolders count ++ s) = patternText s := by
  have plain : '\\' ∉ hereFolders count := by simp [hereFolders]
  have kept : slashed (hereFolders count ++ s) = hereFolders count ++ slashed s := by
    rw [slashed_append, slashed_eq_self plain]
  exact (congrArg dropHere kept).trans (dropHere_hereFolders count (slashed s))

/-- What takes the place of the variable names the root: it is an absolute text without backslashes,
or the folder that patterns are seen from.
-/
inductive NamesRoot (root : Path) : Prop where
  | absolute {text : String} {behind : List Char} (same : root = .ofString text)
    (starts : text.toList = '/' :: behind) (plain : '\\' ∉ text.toList)
  | here {count : Nat} (dots : rootText root ++ ['/'] = hereFolders (count + 1))

/-- A pattern with a sign or without one. -/
def entry (negated : Bool) (body : List Char) : String :=
  String.ofList (if negated then '!' :: body else body)

theorem polarity_entry {negated : Bool} (unsigned : negated = false → body.head? ≠ some '!')
    : polarity (entry negated body) = (negated, body) := by
  unfold polarity entry
  rw [String.toList_ofList]
  cases negated with
  | true => rfl
  | false =>
      cases body with
      | nil => rfl
      | cons c rest =>
          have other : c ≠ '!' := by simpa using unsigned rfl
          simp [other]

/-- A pattern seen from a root, with the root in place of its variable. -/
def seenFrom (root : Path) (pattern : String) : String :=
  match polarity (String.ofList (withRoot root pattern.toList)) with
  | (true, body) => "!" ++ relativeBody root (String.ofList body)
  | (false, body) => relativeBody root (String.ofList body)

theorem withRoot_entry (root : Path) (negated : Bool) (body : List Char)
    : withRoot root (entry negated body).toList
      = (entry negated (withRoot root body)).toList := by
  rw [entry, entry, String.toList_ofList, String.toList_ofList]
  cases negated with
  | true =>
      have sign : withRoot root ([] ++ '!' :: body)
          = withRoot root [] ++ '!' :: withRoot root body :=
        PathOverride.withRoot_append_cons (by decide) [] body
      rwa [PathOverride.withRoot_nil] at sign
  | false => rfl

/-- A variable in front of a slash is replaced by the root. -/
theorem withRoot_below (root : Path) (body : List Char)
    : withRoot root (rootVariable ++ '/' :: body) = rootText root ++ '/' :: withRoot root body := by
  rw [PathOverride.withRoot_append_cons (by decide), PathOverride.withRoot_rootVariable]

/-- Seen from a root the body of an entry is made relative, and its `!` stays. -/
theorem seenFrom_entry {root : Path} {negated : Bool}
    (unsigned : negated = false → (withRoot root body).head? ≠ some '!')
    : seenFrom root (entry negated body)
      = entry negated (relativeBody root (String.ofList (withRoot root body))).toList := by
  rw [seenFrom, withRoot_entry, String.ofList_toList, polarity_entry unsigned]
  cases negated <;> simp [entry]

theorem relativeBody_of_relative {root : Path} (relative : body.head? ≠ some '/')
    : (relativeBody root (String.ofList body)).toList = body := by
  have outside : (Path.ofString (String.ofList body)).isAbsolute = false := by
    rw [Bool.eq_false_iff, Path.isAbsolute, Ne, beq_iff_eq]
    intro starts
    obtain ⟨rest, rfl⟩ := Text.eq_slash_of_head? starts
    exact relative rfl
  simp [relativeBody, outside]

theorem head?_ne_of_dropHere {c : Char} (other : c ≠ '.') (unlike : (dropHere body).head? ≠ some c)
    : body.head? ≠ some c := by
  intro starts
  rw [dropHere.eq_2] at unlike
  · exact unlike starts
  · rintro rest rfl
    exact other (by simpa using starts.symm)

theorem head?_slashed_ne {c : Char} (noSlash : c ≠ '/')
    (unlike : body.head? ≠ some c)
    : (slashed body).head? ≠ some c := by
  cases body with
  | nil => simp [slashed]
  | cons first rest =>
      have other : first ≠ c := by simpa using unlike
      simp only [slashed, List.map_cons, List.head?_cons, ne_eq, Option.some.injEq]
      split
      · exact noSlash.symm
      · exact other

/-- What an absolute root leaves of a pattern behind its variable is the core of the pattern. -/
theorem seenFrom_below {text : String} {behind : List Char} (starts : text.toList = '/' :: behind)
    (plain : '\\' ∉ text.toList) (negated : Bool) (body : List Char)
    : seenFrom (.ofString text) (entry negated (rootVariable ++ '/' :: body))
      = entry negated (slashed (core (withRoot (.ofString text) body))) := by
  have whole : (String.ofList (withRoot (.ofString text) (rootVariable ++ '/' :: body))).toList
      = rootText (.ofString text) ++ '/' :: withRoot (.ofString text) body := by
    rw [String.toList_ofList, withRoot_below]
  obtain ⟨rest, first⟩ := exists_belowRoot starts plain whole
  rw [String.toList_ofList] at first
  rw [seenFrom_entry fun _ => by simp [first], relativeBody_belowRoot starts plain whole]

section Alike

variable {root : Path} {negated : Bool} (proper : IsProper negated (withRoot root body))

include proper

/-- A proper entry is seen as it is, but for the variable. -/
theorem seenFrom_of_isProper
    : seenFrom root (entry negated body) = entry negated (withRoot root body) := by
  rw [seenFrom_entry fun plain => head?_ne_of_dropHere (by decide) (proper.unsigned plain),
    relativeBody_of_relative (head?_ne_of_dropHere (by decide) proper.relative)]

/-- Behind the variable for a root that is named, a pattern is read as if it were written alone. -/
theorem readAlike_seenFrom (named : NamesRoot root)
    : ReadAlike (seenFrom root (entry negated (rootVariable ++ '/' :: body)))
        (seenFrom root (entry negated body)) := by
  have alone : polarity (seenFrom root (entry negated body)) = (negated, withRoot root body) := by
    rw [seenFrom_of_isProper proper]
    exact polarity_entry fun plain => head?_ne_of_dropHere (by decide) (proper.unsigned plain)
  suffices ∃ left,
      polarity (seenFrom root (entry negated (rootVariable ++ '/' :: body))) = (negated, left)
      ∧ patternText left = patternText (withRoot root body) by
    obtain ⟨left, whole, text⟩ := this
    exact ⟨by rw [whole, alone], by rw [whole, alone, text]⟩
  cases named with
  | absolute same starts plain =>
      subst same
      rw [seenFrom_below starts plain, core_eq_dropHere proper]
      refine ⟨_, polarity_entry fun whole => ?_, patternText_dropHere _⟩
      exact head?_slashed_ne (by decide) (proper.unsigned whole)
  | @here count dots =>
      have whole : withRoot root (rootVariable ++ '/' :: body)
          = hereFolders (count + 1) ++ withRoot root body := by
        rw [withRoot_below, ← dots, List.append_assoc, List.singleton_append]
      have first : (withRoot root (rootVariable ++ '/' :: body)).head? = some '.' := by
        rw [whole, hereFolders_succ]
        rfl
      refine ⟨withRoot root (rootVariable ++ '/' :: body), ?_, ?_⟩
      · rw [seenFrom_entry fun _ => by simp [first], relativeBody_of_relative (by simp [first])]
        exact polarity_entry fun _ => by simp [first]
      · rw [whole, patternText_hereFolders]

end Alike

end OutFiles

end EarlyBreak
