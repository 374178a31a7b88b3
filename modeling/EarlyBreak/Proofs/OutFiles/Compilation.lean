import EarlyBreak.Prediction.Predictor.Basic
import EarlyBreak.Proofs.Glob.Opened
import EarlyBreak.Proofs.OutFiles.Pieces

/-! Which configurations have patterns that can be read.  Patterns are checked as they are written,
and read with slashes for backslashes, the root for its variable, and without the root in front.
Under a root with no brackets only the backslashes matter: one that was an escape is none any more.
-/

namespace EarlyBreak

open Glob

namespace OutFiles

/-- A `./` in front of a text does not matter, by induction along them. -/
theorem isPattern_dropHere (s : List Char) : IsPattern (dropHere s) ↔ IsPattern s := by
  fun_induction dropHere s with
  | case1 rest ih =>
      have ordinary : ∀ c ∈ ['.', '/'], IsOrdinary c := forall_mem_of_all (by decide)
      exact ih.trans (isPattern_ordinary_append ordinary).symm
  | case2 => exact Iff.rfl

/-- A pattern is read exactly if its text with slashes is one. -/
theorem readPattern_eq_ok_iff {body : List Char}
    : (∃ glob, readPattern body = .ok glob) ↔ IsPattern (slashed body) := by
  rw [← isPattern_dropHere, readPattern]
  show _ ↔ ∃ glob, Glob.parse (patternText body) = .ok glob
  cases Glob.parse (patternText body) <;> simp [Except.mapError]

/-- A `!` in front of a pattern is all that may be cut off. -/
theorem polarity_split (pattern : String)
    : ∃ front, pattern.toList = front ++ (polarity pattern).2 ∧ (front = [] ∨ front = ['!']) := by
  unfold polarity
  split
  case h_1 body same => exact ⟨['!'], same, .inr rfl⟩
  case h_2 => exact ⟨[], rfl, .inl rfl⟩

/-- The `!` of a pattern does not matter to whether it can be read. -/
theorem isPattern_polarity (pattern : String)
    : IsPattern (polarity pattern).2 ↔ IsPattern pattern.toList := by
  obtain ⟨front, same, sign⟩ := polarity_split pattern
  have ordinary : ∀ c ∈ front, IsOrdinary c := by
    rcases sign with rfl | rfl <;> exact forall_mem_of_all (by decide)
  rw [same]
  exact (isPattern_ordinary_append ordinary).symm

theorem isPattern_slashed_polarity (pattern : String)
    : IsPattern (slashed (polarity pattern).2) ↔ IsPattern (slashed pattern.toList) := by
  obtain ⟨front, same, sign⟩ := polarity_split pattern
  have ordinary : ∀ c ∈ slashed front, IsOrdinary c := by
    rcases sign with rfl | rfl <;> exact forall_mem_of_all (by decide)
  rw [same, slashed_append]
  exact (isPattern_ordinary_append ordinary).symm

/-- A pattern is read exactly if it is one in the form in which it is read.  The pattern of the
folder, which leaves out the `/**` at its end, is one as well then.
-/
theorem add_eq_ok_iff {out : OutFiles} {pattern : String}
    : (∃ added, out.add pattern = .ok added) ↔ IsPattern (slashed pattern.toList) := by
  rw [← isPattern_slashed_polarity]
  unfold add
  split
  case h_1 body same =>
    rw [same, ← readPattern_eq_ok_iff]
    cases readPattern body <;> simp [bind, Except.bind, pure, Except.pure]
  case h_2 body same =>
    rw [same, ← readPattern_eq_ok_iff]
    cases whole : readPattern body with
    | error e => simp [bind, Except.bind]
    | ok glob =>
        cases cut : Text.dropEnd? "/**".toList body with
        | none => simp [bind, Except.bind, pure, Except.pure]
        | some folder =>
            have isPattern := readPattern_eq_ok_iff.mp ⟨glob, whole⟩
            have stars : ∀ c ∈ slashed "/**".toList, EndsNothing c :=
              forall_mem_of_all (by decide)
            rw [Text.dropEnd?_eq_some_iff.mp cut, slashed_append,
              isPattern_append stars fun member => (mem_slashed member).1 rfl] at isPattern
            obtain ⟨also, read⟩ := readPattern_eq_ok_iff.mpr isPattern
            simp [read, bind, Except.bind, pure, Except.pure]

/-- Patterns are read exactly if each is one in the form in which it is read, by induction along
them.
-/
theorem ofPatterns_eq_ok_iff {patterns : List String}
    : (∃ out, ofPatterns patterns = .ok out)
      ↔ ∀ pattern ∈ patterns, IsPattern (slashed pattern.toList) := by
  have generalized (out : OutFiles) : (∃ all, patterns.foldlM add out = .ok all)
      ↔ ∀ pattern ∈ patterns, IsPattern (slashed pattern.toList) := by
    induction patterns generalizing out with
    | nil => simp [pure, Except.pure]
    | cons first rest ih =>
        rw [List.foldlM_cons, List.forall_mem_cons, ← add_eq_ok_iff]
        cases out.add first with
        | error e => simp [bind, Except.bind]
        | ok added => simpa [bind, Except.bind] using ih added
  exact generalized empty

/-- A root whose text has no bracket, brace or backslash. -/
def HasOrdinaryText (root : Path) : Prop :=
  ∃ s, root = Path.ofString s ∧ ∀ c ∈ s.toList, IsOrdinary c

theorem ordinary_of_isIdle {piece : List Char} (idle : IsIdle piece)
    : ∀ c ∈ piece, EndsNothing c := by
  rcases idle with rfl | rfl <;> exact forall_mem_of_all (by decide)

/-- The text of a piece that the root is written with is ordinary if the root is. -/
theorem HasOrdinaryText.piece {root : Path} (ordinary : HasOrdinaryText root)
    {component : Path.Component} (member : component ∈ root.components) {piece : List Char}
    (written : component.bytes = Text.encoded piece)
    : ∀ c ∈ piece, IsOrdinary c := by
  obtain ⟨s, rfl, all⟩ := ordinary
  have fixed : Text.encoded ['/'] = [Path.slash] ∧ Text.encoded ['.'] = Path.dotName
      ∧ Text.encoded ['.', '.'] = Path.dotDotName := by decide
  cases component with
  | root =>
      obtain rfl := Text.encoded_injective (fixed.1.trans written)
      exact forall_mem_of_all (by decide)
  | here =>
      obtain rfl := Text.encoded_injective (fixed.2.1.trans written)
      exact forall_mem_of_all (by decide)
  | parent =>
      obtain rfl := Text.encoded_injective (fixed.2.2.trans written)
      exact forall_mem_of_all (by decide)
  | name bytes =>
      -- A name is one of the pieces of the root's text.
      have among : Text.encoded piece ∈ (s.toList.splitOn '/').map Text.encoded := by
        rw [← Text.splitOn_encoded, Text.encoded_toList, ← written]
        exact Path.mem_splitOn_of_name member
      obtain ⟨other, inside, same⟩ := List.mem_map.mp among
      obtain rfl := Text.encoded_injective same
      intro c here
      have whole : c ∈ '/' :: s.toList := by
        have within : c ∈ behindSlashes (s.toList.splitOn '/') :=
          List.mem_flatMap.mpr ⟨other, inside, List.mem_cons_of_mem _ here⟩
        rwa [← cons_intercalate (List.splitOn_ne_nil _ _), List.intercalate_splitOn] at within
      rcases List.mem_cons.mp whole with rfl | later
      · decide
      · exact all c later

theorem isPattern_slash_cons (s : List Char)
    : IsPattern (slashed ('/' :: s)) ↔ IsPattern (slashed s) := by
  have ordinary : ∀ c ∈ ['/'], IsOrdinary c := forall_mem_of_all (by decide)
  exact isPattern_ordinary_append ordinary

theorem isPattern_intercalate (pieces : List (List Char))
    : IsPattern (slashed (['/'].intercalate pieces))
      ↔ IsPattern (slashed (behindSlashes pieces)) := by
  cases pieces with
  | nil => exact Iff.rfl
  | cons first rest => rw [← cons_intercalate (List.cons_ne_nil first rest), isPattern_slash_cons]

/-- Seen from an ordinary root, a text is a pattern exactly if it was one before. -/
theorem isPattern_relativeBody {root : Path} (ordinary : HasOrdinaryText root) (body : String)
    : IsPattern (slashed (relativeBody root body).toList) ↔ IsPattern (slashed body.toList) := by
  rcases relativeBody_split root body with same | ⟨front, middle, tail, rebased⟩
  · rw [same]
  · have left : IsPattern (slashed (relativeBody root body).toList)
        ↔ IsPattern (slashed (behindSlashes middle)) := by
      rcases rebased.left with left | left
      · rw [left, slashed_slashed, isPattern_intercalate]
      · rw [left, slashed_slashed, isPattern_slash_cons, isPattern_intercalate]
    have before : ∀ c ∈ slashed (behindSlashes front), IsOrdinary c := by
      intro c member
      rcases (mem_slashed member).2 with inside | rfl
      · rcases mem_behindSlashes inside with rfl | ⟨piece, among, here⟩
        · decide
        · rcases rebased.front piece among with idle | ⟨component, known, written⟩
          · exact (ordinary_of_isIdle idle c here).1
          · exact ordinary.piece known written c here
      · decide
    have behind : ∀ c ∈ slashed (behindSlashes tail), EndsNothing c := by
      intro c member
      rcases (mem_slashed member).2 with inside | rfl
      · rcases mem_behindSlashes inside with rfl | ⟨piece, among, here⟩
        · decide
        · exact ordinary_of_isIdle (rebased.tail piece among) c here
      · decide
    have parts : slashed (behindSlashes (front ++ middle ++ tail))
        = slashed (behindSlashes front)
          ++ (slashed (behindSlashes middle) ++ slashed (behindSlashes tail)) := by
      simp only [behindSlashes, List.flatMap_append, slashed_append, List.append_assoc]
    rw [left, rebased.whole, parts, isPattern_ordinary_append before,
      isPattern_append behind fun member => (mem_slashed member).1 rfl]

/-- Seen from an ordinary root, patterns are patterns exactly if they were before. -/
theorem isPattern_relativePatterns {root : Path} (ordinary : HasOrdinaryText root)
    (patterns : List String)
    : (∀ pattern ∈ relativePatterns root patterns, IsPattern (slashed pattern.toList))
      ↔ ∀ pattern ∈ patterns, IsPattern (slashed pattern.toList) := by
  rw [relativePatterns, List.forall_mem_map]
  refine forall₂_congr fun pattern _ => ?_
  rw [← isPattern_slashed_polarity pattern]
  split
  case h_1 body same =>
    have sign : ∀ c ∈ slashed "!".toList, IsOrdinary c := forall_mem_of_all (by decide)
    rw [same, String.toList_append, slashed_append, isPattern_ordinary_append sign,
      isPattern_relativeBody ordinary, String.toList_ofList]
  case h_2 body same =>
    rw [same, isPattern_relativeBody ordinary, String.toList_ofList]

/-- Wherever the variable for the root stands in a text, no class is open. -/
def VariableOutside (opened : Opened) (s : List Char) : Prop :=
  ∀ before behind left,
    s = before ++ PathOverride.rootVariable ++ behind
    → opened.after (slashed before) = some left
    → left.inside = .plain

/-- The variable itself opens a group and closes it. -/
theorem after_rootVariable (groups : Nat)
    : (⟨groups, .plain⟩ : Opened).after (slashed PathOverride.rootVariable)
      = some ⟨groups, .plain⟩ := by
  have spelled : slashed PathOverride.rootVariable
      = ['$', '\x7b'] ++ "workspaceFolder".toList ++ ['\x7d'] := by decide
  have front : ∀ c ∈ "workspaceFolder".toList, IsOrdinary c := forall_mem_of_all (by decide)
  have opens : (⟨groups, .plain⟩ : Opened).after ['$', '\x7b'] = some ⟨groups + 1, .plain⟩ := rfl
  have closes : (⟨groups + 1, .plain⟩ : Opened).after ['\x7d'] = some ⟨groups, .plain⟩ := rfl
  rw [spelled, Opened.after_append, Opened.after_append, opens, Option.bind_some,
    Opened.after_ordinary (groups + 1) front, Option.bind_some, closes]

/-- An ordinary root in place of its variable leaves the same open, by induction along the text. -/
theorem after_replaceAll {root : List Char} (ordinary : ∀ c ∈ root, IsOrdinary c) (s : List Char)
    {opened : Opened} (outside : VariableOutside opened s)
    : opened.after (slashed (Text.replaceAll PathOverride.rootVariable root s))
      = opened.after (slashed s) := by
  fun_induction Text.replaceAll PathOverride.rootVariable root s generalizing opened with
  | case1 => rfl
  | case2 c rest found ih =>
      obtain ⟨behind, split⟩ := List.isPrefixOf_iff_prefix.mp found.2
      have left := Text.drop_pred_of_append_eq_cons found.1 split
      have plain : opened.inside = .plain := outside [] behind opened split.symm rfl
      obtain ⟨groups, _⟩ := opened
      obtain rfl : _ = Inside.plain := plain
      have same : slashed root = root :=
        slashed_eq_self fun member => (ordinary '\\' member).2.1 rfl
      have passes : (⟨groups, .plain⟩ : Opened).after
            (slashed (PathOverride.rootVariable ++ behind))
          = (⟨groups, .plain⟩ : Opened).after (slashed behind) := by
        rw [slashed_append, Opened.after_append, after_rootVariable, Option.bind_some]
      rw [slashed_append, same, Opened.after_append, Opened.after_ordinary groups ordinary,
        Option.bind_some, ← split, passes, ← left]
      refine ih ?_
      intro before further now among leaves
      refine outside (PathOverride.rootVariable ++ before) further now ?_ ?_
      · rw [← split, ← left, among]
        simp only [List.append_assoc]
      · rw [slashed_append, Opened.after_append, after_rootVariable, Option.bind_some, leaves]
  | case3 c rest missing ih =>
      rw [slashed, slashed, List.map_cons, List.map_cons, Opened.after_cons, Opened.after_cons]
      cases first : opened.next (if c = '\\' then '/' else c) with
      | none => rfl
      | some middle =>
          refine ih ?_
          intro before behind left among leaves
          refine outside (c :: before) behind left (by rw [among]; rfl) ?_
          rw [slashed, List.map_cons, Opened.after_cons, first]
          exact leaves

theorem HasOrdinaryText.rootText {root : Path} (ordinary : HasOrdinaryText root)
    : ∀ c ∈ PathOverride.rootText root, IsOrdinary c := by
  obtain ⟨s, rfl, all⟩ := ordinary
  intro c member
  have inside : c ∈ slashed (Path.ofString s).text.toList :=
    List.mem_reverse.mp ((List.dropWhile_sublist _).subset (List.mem_reverse.mp member))
  rw [Path.text, Path.ofString, Text.ofBytesLossy_toBytes] at inside
  rcases (mem_slashed inside).2 with here | rfl
  · exact all c here
  · decide

end OutFiles

namespace LaunchConfig

open OutFiles

/-- The root has no bracket, brace or backslash, and its variable stands in no class of a pattern.
-/
structure KeepsPatterns (config : LaunchConfig) : Prop where
  root : HasOrdinaryText config.rootPath
  outside : ∀ pattern ∈ config.outFiles, VariableOutside .none pattern.toList

/-- Every pattern of a valid configuration is one as it is written. -/
theorem isPattern_of_valid {config : LaunchConfig} (valid : config.validate = .ok ())
    : ∀ pattern ∈ config.outFiles, IsPattern pattern.toList := by
  have checked : config.outFiles.forM checkPattern = .ok () := by
    rw [validate] at valid
    by_cases rootless : config.rootPath.bytes = [] <;>
      by_cases idle : config.prediction.concurrency = 0 <;>
      simp_all [bind, Except.bind, throw, throwThe, MonadExceptOf.throw]
  generalize config.outFiles = patterns at checked
  induction patterns with
  | nil => exact nofun
  | cons first rest ih =>
      change (checkPattern first >>= fun _ => rest.forM checkPattern) = .ok () at checked
      cases here : checkPattern first with
      | error e => simp [here, bind, Except.bind] at checked
      | ok =>
          rw [here] at checked
          refine List.forall_mem_cons.mpr ⟨?_, ih checked⟩
          rw [← isPattern_polarity]
          unfold checkPattern at here
          split at here
          case h_1 glob parsed => exact ⟨glob, parsed⟩
          case h_2 => cases here

/-- Under such a root the patterns that are read are patterns exactly if those of the configuration
are, in the form in which they are read.
-/
theorem KeepsPatterns.isPattern_iff {config : LaunchConfig} (keeps : config.KeepsPatterns)
    : (∀ pattern ∈ (PredictorOptions.ofConfig config).outFiles, IsPattern (slashed pattern.toList))
      ↔ ∀ pattern ∈ config.outFiles, IsPattern (slashed pattern.toList) := by
  have derived : (PredictorOptions.ofConfig config).outFiles
      = relativePatterns config.rootPath (config.outFiles.map config.expandRoot) := rfl
  rw [derived, isPattern_relativePatterns keeps.root, List.forall_mem_map]
  refine forall₂_congr fun pattern member => ?_
  rw [Glob.isPattern_iff, Glob.isPattern_iff, expandRoot, String.toList_ofList,
    after_replaceAll keeps.root.rootText _ (keeps.outside pattern member)]

/-- What a valid configuration gives a predictor that can be made exactly if its patterns can be
read, which is so exactly if each is a pattern in the form in which it is read.  Under a root with
no brackets that form comes from the patterns of the configuration by slashes for backslashes alone,
so without backslashes they can always be read.
-/
theorem valid_reads_iff {config : LaunchConfig} (valid : config.validate = .ok ())
    : let patterns := (PredictorOptions.ofConfig config).outFiles
      ((∃ predictor, Predictor.ofConfig? config = .ok predictor)
        ↔ ∃ out, OutFiles.ofPatterns patterns = .ok out)
      ∧ ((∃ out, OutFiles.ofPatterns patterns = .ok out)
        ↔ ∀ pattern ∈ patterns, IsPattern (slashed pattern.toList))
      ∧ (config.KeepsPatterns
        → ((∃ out, OutFiles.ofPatterns patterns = .ok out)
            ↔ ∀ pattern ∈ config.outFiles, IsPattern (slashed pattern.toList))
          ∧ ((∀ pattern ∈ config.outFiles, '\\' ∉ pattern.toList)
            → ∃ out, OutFiles.ofPatterns patterns = .ok out)) := by
  intro patterns
  refine ⟨?_, ofPatterns_eq_ok_iff, fun keeps => ⟨?_, fun unescaped => ?_⟩⟩
  · rw [Predictor.ofConfig?, valid]
    cases read : OutFiles.ofPatterns patterns <;>
      simp [patterns, read, Except.mapError, bind, Except.bind, pure, Except.pure]
  · rw [ofPatterns_eq_ok_iff, keeps.isPattern_iff]
  · rw [ofPatterns_eq_ok_iff, keeps.isPattern_iff]
    intro pattern member
    rw [slashed_eq_self (unescaped pattern member)]
    exact isPattern_of_valid valid pattern member

/-- Where the variable for the root and an alternative are all that a pattern opens. -/
theorem valid_reads_alternatives
    : let config : LaunchConfig :=
        { rootPath := .ofString "/work",
          outFiles := ["$\x7bworkspaceFolder\x7d/out/**/*.\x7bjs,mjs\x7d",
            "!$\x7bworkspaceFolder\x7d/out/tmp/**"] }
      config.validate = .ok () ∧ config.KeepsPatterns
        ∧ ∃ predictor, Predictor.ofConfig? config = .ok predictor := by
  intro config
  have valid : config.validate = .ok () := by decide +kernel
  have keeps : config.KeepsPatterns := by
    refine ⟨⟨"/work", rfl, forall_mem_of_all (by decide)⟩,
      fun pattern member before behind left split leaves => ?_⟩
    have classless : ∀ pattern ∈ config.outFiles, '[' ∉ pattern.toList ∧ '\\' ∉ pattern.toList := by
      decide +kernel
    obtain ⟨bracket, escape⟩ := classless pattern member
    have among : ∀ c ∈ before, c ∈ pattern.toList := fun c inside => by
      rw [split, List.append_assoc]
      exact List.mem_append_left _ inside
    refine Opened.after_plain rfl (fun member => ?_) (fun member => (mem_slashed member).1 rfl)
      leaves
    rcases (mem_slashed member).2 with inside | slash
    · exact bracket (among _ inside)
    · cases slash
  have unescaped : ∀ pattern ∈ config.outFiles, '\\' ∉ pattern.toList := by decide +kernel
  obtain ⟨made, -, reads⟩ := valid_reads_iff valid
  exact ⟨valid, keeps, made.mpr ((reads keeps).2 unescaped)⟩

/-- An escaped bracket is a bracket once its backslash is a slash, so what can be read as it is
written cannot be read.
-/
theorem valid_escape_unread
    : let config : LaunchConfig := { rootPath := .ofString "/work", outFiles := ["out\\[a/*.js"] }
      config.validate = .ok ()
        ∧ (¬ ∃ out, OutFiles.ofPatterns (PredictorOptions.ofConfig config).outFiles = .ok out)
        ∧ ¬ ∃ predictor, Predictor.ofConfig? config = .ok predictor := by
  intro config
  have unread : (OutFiles.ofPatterns (PredictorOptions.ofConfig config).outFiles).toOption.isSome
      = false := by decide +kernel
  have unmade : (Predictor.ofConfig? config).toOption.isSome = false := by decide +kernel
  refine ⟨by decide +kernel, fun ⟨out, read⟩ => ?_, fun ⟨predictor, made⟩ => ?_⟩
  · rw [read] at unread
    cases unread
  · rw [made] at unmade
    cases unmade

end LaunchConfig

end EarlyBreak
