import EarlyBreak.Proofs.OutFiles.Compilation

/-! What a list of patterns is read as: each pattern by itself, as its `!` and the form in which the
rest of it is read say.
-/

namespace EarlyBreak.OutFiles

open Glob (IsPattern)

variable {out : OutFiles} {patterns : List String} {pattern : String}

/-- The pattern of files that a pattern includes. -/
def included? (pattern : String) : Option Glob :=
  match polarity pattern with
  | (false, body) => (readPattern body).toOption
  | (true, _) => none

/-- The pattern of files that a pattern excludes. -/
def excluded? (pattern : String) : Option Glob :=
  match polarity pattern with
  | (true, body) => (readPattern body).toOption
  | (false, _) => none

/-- The pattern of folders of an exclusion that ends in `/**`. -/
def excludedFolder? (pattern : String) : Option Glob :=
  match polarity pattern with
  | (true, body) =>
      (Text.dropEnd? "/**".toList body).bind fun folder => (readPattern folder).toOption
  | (false, _) => none

section Iff

variable {glob : Glob} {body : List Char}

theorem readPattern_eq_ok
    : readPattern body = .ok glob ↔ Glob.parse (patternText body) = .ok glob := by
  rw [readPattern]
  cases Glob.parse (patternText body) <;> simp [Except.mapError]

theorem toOption_eq_some {result : Except PatternError Glob}
    : result.toOption = some glob ↔ result = .ok glob := by
  cases result <;> simp [Except.toOption]

theorem included?_eq_some
    : included? pattern = some glob
      ↔ ∃ body, polarity pattern = (false, body) ∧ readPattern body = .ok glob := by
  unfold included?
  split <;> simp_all [toOption_eq_some]

theorem excluded?_eq_some
    : excluded? pattern = some glob
      ↔ ∃ body, polarity pattern = (true, body) ∧ readPattern body = .ok glob := by
  unfold excluded?
  split <;> simp_all [toOption_eq_some]

theorem excludedFolder?_eq_some
    : excludedFolder? pattern = some glob
      ↔ ∃ folder,
          polarity pattern = (true, folder ++ "/**".toList) ∧ readPattern folder = .ok glob := by
  unfold excludedFolder?
  split
  case h_1 body same =>
    simp only [same, Option.bind_eq_some_iff, Text.dropEnd?_eq_some_iff, toOption_eq_some,
      Prod.mk.injEq, true_and]
  case h_2 same => simp [same]

end Iff

/-- Another pattern adds what it includes and excludes, and nothing else. -/
theorem add_eq {added : OutFiles} (read : out.add pattern = .ok added)
    : added
      = ⟨out.included ++ (included? pattern).toList,
          out.excluded ++ (excluded? pattern).toList,
          out.excludedFolders ++ (excludedFolder? pattern).toList⟩ := by
  unfold add at read
  rw [included?, excluded?, excludedFolder?]
  generalize "/**".toList = stars at read ⊢
  generalize polarity pattern = polar at read ⊢
  obtain ⟨negated, body⟩ := polar
  cases negated with
  | false =>
      simp only at read ⊢
      generalize readPattern body = outcome at read ⊢
      cases outcome with
      | error fault => simp [bind, Except.bind] at read
      | ok glob =>
          simp only [bind, Except.bind, pure, Except.pure, Except.ok.injEq] at read
          simp [← read, Except.toOption]
  | true =>
      simp only at read ⊢
      generalize readPattern body = outcome at read ⊢
      cases outcome with
      | error fault => simp [bind, Except.bind] at read
      | ok glob =>
          simp only [bind, Except.bind, pure, Except.pure] at read
          generalize Text.dropEnd? stars body = cut at read ⊢
          cases cut with
          | none =>
              simp only [Except.ok.injEq] at read
              simp [← read, Except.toOption]
          | some folder =>
              simp only at read
              cases outer : readPattern folder with
              | error fault => simp [outer] at read
              | ok part =>
                  simp only [outer, Except.ok.injEq] at read
                  simp [← read, outer, Except.toOption]

/-- Patterns are read one by one, by induction along them. -/
theorem foldlM_add_eq {before : OutFiles} (read : patterns.foldlM add before = .ok out)
    : out = ⟨before.included ++ patterns.filterMap included?,
        before.excluded ++ patterns.filterMap excluded?,
        before.excludedFolders ++ patterns.filterMap excludedFolder?⟩ := by
  have parts (read : String → Option Glob) (first : String) (rest : List String)
      : (first :: rest).filterMap read = (read first).toList ++ rest.filterMap read := by
    cases here : read first <;> simp [here]
  induction patterns generalizing before with
  | nil =>
      cases read
      simp
  | cons first rest ih =>
      rw [List.foldlM_cons] at read
      cases added : before.add first with
      | error e => simp [added, bind, Except.bind] at read
      | ok between =>
          rw [added] at read
          rw [ih read, add_eq added, parts, parts, parts]
          simp only [List.append_assoc]

/-- Patterns include and exclude what each of them does, by induction on them. -/
theorem ofPatterns_eq (read : ofPatterns patterns = .ok out)
    : out = ⟨patterns.filterMap included?, patterns.filterMap excluded?,
        patterns.filterMap excludedFolder?⟩ := by
  simpa [empty] using foldlM_add_eq read

theorem exists_readPattern (read : ofPatterns patterns = .ok out) (listed : pattern ∈ patterns)
    : ∃ glob, readPattern (polarity pattern).2 = .ok glob := by
  have isPattern := ofPatterns_eq_ok_iff.mp ⟨out, read⟩ pattern listed
  rwa [← isPattern_slashed_polarity, ← readPattern_eq_ok_iff] at isPattern

/-- Patterns with the same sign and the same form in which they are read. -/
structure ReadAlike (pattern other : String) : Prop where
  sign : (polarity pattern).1 = (polarity other).1
  text : patternText (polarity pattern).2 = patternText (polarity other).2

section Alike

variable {other : String} {before after : List String} (alike : ReadAlike pattern other)

include alike

theorem ReadAlike.isPattern_iff
    : IsPattern (slashed pattern.toList) ↔ IsPattern (slashed other.toList) := by
  rw [← isPattern_slashed_polarity pattern, ← isPattern_slashed_polarity other,
    ← isPattern_dropHere, ← isPattern_dropHere (slashed (polarity other).2)]
  exact iff_of_eq (congrArg IsPattern alike.text)

theorem ReadAlike.files_eq
    : included? pattern = included? other ∧ excluded? pattern = excluded? other := by
  obtain ⟨sign, text⟩ := alike
  have parsed : (readPattern (polarity pattern).2).toOption
      = (readPattern (polarity other).2).toOption := by
    ext glob
    rw [toOption_eq_some, toOption_eq_some, readPattern_eq_ok, readPattern_eq_ok, text]
  unfold included? excluded?
  generalize polarity pattern = first at *
  generalize polarity other = second at *
  obtain ⟨_ | _, body⟩ := first <;> obtain ⟨_ | _, twin⟩ := second <;> simp_all

/-- Which files match does not change if one of the patterns is read alike. -/
theorem ReadAlike.isMatch_eq
    : (ofPatterns (before ++ pattern :: after)).toOption.map isMatch
      = (ofPatterns (before ++ other :: after)).toOption.map isMatch := by
  have reads : (∃ out, ofPatterns (before ++ pattern :: after) = .ok out)
      ↔ ∃ out, ofPatterns (before ++ other :: after) = .ok out := by
    simp only [ofPatterns_eq_ok_iff, List.forall_mem_append, List.forall_mem_cons,
      alike.isPattern_iff]
  obtain ⟨included, excluded⟩ := alike.files_eq
  cases first : ofPatterns (before ++ pattern :: after) with
  | error e =>
      cases second : ofPatterns (before ++ other :: after) with
      | error e => rfl
      | ok twin => simp [first, second] at reads
  | ok out =>
      cases second : ofPatterns (before ++ other :: after) with
      | error e => simp [first, second] at reads
      | ok twin =>
          have same : out.included = twin.included ∧ out.excluded = twin.excluded := by
            rw [ofPatterns_eq first, ofPatterns_eq second]
            simp only [List.filterMap_append, List.filterMap_cons, included, excluded, and_self]
          simp only [Except.toOption, Option.map_some, Option.some.injEq]
          funext relative
          rw [isMatch, isMatch, same.1, same.2]

end Alike

end EarlyBreak.OutFiles
