import EarlyBreak.Proofs.OutFiles.Rebasing
import Mathlib.Tactic.Choose

/-! The variable for the root in the patterns of a configuration.  It stands for the folder that
patterns are seen from exactly if the text in its place names the root.
-/

namespace EarlyBreak

open EarlyBreak.Path (slash Component)

namespace OutFiles

open PathOverride (rootText rootVariable withRoot)

variable {root : Path} {whole : String} {rest body : List Char}

/-- The pieces of a path are those of the components or stand for none. -/
theorem piece_cases {p : Path} {piece : List UInt8} (member : piece ∈ p.bytes.splitOn slash)
    : Path.isIdle piece = true ∨ ∃ component ∈ p.components, component.bytes = piece := by
  cases idle : Path.isIdle piece with
  | true => exact .inl rfl
  | false =>
      obtain ⟨component, stands, written⟩ := Path.ofPiece?_of_not_isIdle idle
      refine .inr ⟨component, ?_, written⟩
      have among := List.mem_filterMap.mpr ⟨piece, member, stands⟩
      unfold Path.components
      simp only
      split_ifs <;> simp [among]

theorem bytes_of_ofPiece? {piece : List UInt8} {component : Component}
    (stands : Component.ofPiece? piece = some component)
    : component.bytes = piece := by
  unfold Component.ofPiece? at stands
  split_ifs at stands with nothing up <;> cases stands
  · exact up.symm
  · rfl

/-- A path has a text without backslashes if its components are written in one. -/
theorem exists_text_of_subset (plain : '\\' ∉ rest)
    (known : root.components ⊆ .root :: names rest)
    : ∃ s, root.bytes = Text.encoded s ∧ '\\' ∉ s := by
  have spelled (piece : List UInt8) (member : piece ∈ root.bytes.splitOn slash)
      : ∃ s, Text.encoded s = piece ∧ '\\' ∉ s := by
    rcases piece_cases member with idle | ⟨component, among, rfl⟩
    · have bytes : Text.encoded [] = [] ∧ Text.encoded ['.'] = Path.dotName := by decide
      rcases (by simpa [Path.isIdle] using idle : piece = [] ∨ piece = Path.dotName) with rfl | rfl
      · exact ⟨[], bytes.1, by simp⟩
      · exact ⟨['.'], bytes.2, by simp⟩
    · rcases List.mem_cons.mp (known among) with rfl | inside
      · exact absurd List.mem_cons_self (Path.not_mem_of_mem_splitOn member)
      · obtain ⟨_, written, stands⟩ := List.mem_filterMap.mp inside
        obtain ⟨s, listed, rfl⟩ := List.mem_map.mp written
        exact ⟨s, (bytes_of_ofPiece? stands).symm, fun backslash =>
          plain (Text.mem_of_mem_splitOn listed backslash)⟩
  choose! spell encoded unescaped using spelled
  have same : ((root.bytes.splitOn slash).map spell).map Text.encoded
      = root.bytes.splitOn slash := by
    rw [List.map_map]
    exact (List.map_congr_left encoded).trans (List.map_id _)
  refine ⟨['/'].intercalate ((root.bytes.splitOn slash).map spell), ?_, fun backslash => ?_⟩
  · rw [Text.encoded_intercalate, same, List.intercalate_splitOn]
  · rcases Text.mem_intercalate backslash with slash | ⟨piece, among, inside⟩
    · cases slash
    · obtain ⟨bytes, member, rfl⟩ := List.mem_map.mp among
      exact unescaped bytes member inside

/-- A root whose components are in front of a text without backslashes is named by its own text. -/
theorem namesRoot_of_below? (starts : whole.toList = '/' :: rest) (plain : '\\' ∉ rest)
    (nonempty : root.bytes ≠ []) (below : (root.below? (.ofString whole)).isSome = true)
    : NamesRoot root := by
  have known : root.components <+: .root :: names rest := by
    have inFront := prefix_of_below? below
    rwa [components_ofString starts] at inFront
  have absolute : root.isAbsolute = true := by
    obtain ⟨first, others, same⟩ := List.exists_cons_of_ne_nil (Path.components_ne_nil nonempty)
    rw [same, List.cons_prefix_cons] at known
    rw [Path.isAbsolute_iff, same, known.1]
    rfl
  obtain ⟨s, bytes, unescaped⟩ := exists_text_of_subset plain known.subset
  obtain ⟨behind, rfl⟩ : ∃ behind, s = '/' :: behind := by
    rw [Path.isAbsolute, bytes, beq_iff_eq] at absolute
    exact Text.eq_slash_of_head? absolute
  have spelled : (String.ofList ('/' :: behind)).toList = '/' :: behind := String.toList_ofList
  exact .absolute (congrArg Path.mk bytes) spelled (by rwa [spelled])

/-- A list of one pattern that matches one name in the root alone is read as such an inclusion. -/
theorem exists_included {pattern : String}
    {accepts : String → Bool} (read : (ofPatterns [pattern]).toOption.map isMatch = some accepts)
    (matched : accepts "a" = true)
    : ∃ body glob,
        polarity pattern = (false, body)
        ∧ Glob.parse (patternText body) = .ok glob
        ∧ ∀ relative, accepts relative = glob.isMatch relative := by
  cases parsed : ofPatterns [pattern] with
  | error e => simp [parsed, Except.toOption] at read
  | ok out =>
      obtain rfl : out.isMatch = accepts := by simpa [parsed, Except.toOption] using read
      have whole := ofPatterns_eq parsed
      cases sign : polarity pattern with
      | mk negated body =>
          cases negated with
          | true =>
              have none : included? pattern = none := by simp [included?, sign]
              simp [whole, isMatch, none] at matched
          | false =>
              have free : excluded? pattern = none := by simp [excluded?, sign]
              obtain ⟨glob, ofBody⟩ := exists_readPattern parsed List.mem_cons_self
              rw [sign] at ofBody
              have one : included? pattern = some glob :=
                included?_eq_some.mpr ⟨body, sign, ofBody⟩
              refine ⟨body, glob, rfl, readPattern_eq_ok.mp ofBody, fun relative => ?_⟩
              simp [whole, isMatch, one, free]

/-- The text of a root is written with slashes only. -/
theorem backslash_not_mem_rootText (root : Path) : '\\' ∉ rootText root := by
  intro member
  have inside : '\\' ∈ slashed root.text.toList :=
    List.mem_reverse.mp ((List.dropWhile_sublist _).subset (List.mem_reverse.mp member))
  exact (mem_slashed inside).1 rfl

theorem not_mem_hereFolders (count : Nat) : 'a' ∉ hereFolders count := by
  simp [hereFolders]

/-- Behind the `./` in front of a name below the root there is a slash, or the root is nothing else.
-/
theorem dropHere_name_cases (root : Path)
    : NamesRoot root ∨ ∃ front, dropHere (rootText root ++ ['/', 'a']) = front ++ ['/', 'a'] := by
  obtain ⟨count, cut⟩ := exists_hereFolders (rootText root ++ ['/', 'a'])
  generalize dropHere (rootText root ++ ['/', 'a']) = left at cut
  rcases List.append_eq_append_iff.mp cut with ⟨more, here, below⟩ | ⟨front, -, below⟩
  · match more with
    | [] => exact .inr ⟨[], below.symm⟩
    | [c] =>
        obtain ⟨rfl, -⟩ := List.cons.inj below
        cases count with
        | zero => simp [hereFolders] at here
        | succ count => exact .inl (.here here.symm)
    | c :: d :: rest =>
        obtain ⟨-, second⟩ := List.cons.inj below
        obtain ⟨rfl, -⟩ := List.cons.inj second
        exact absurd (by simp [here]) (not_mem_hereFolders count)
  · exact .inr ⟨front, below⟩

/-- What is seen from a root that is not named of a name behind its variable has a slash. -/
theorem exists_slash_of_not_namesRoot (nonempty : root.bytes ≠ []) (unnamed : ¬ NamesRoot root)
    (sign : polarity (seenFrom root (entry false (rootVariable ++ ['/', 'a']))) = (false, body))
    : ∃ front, patternText body = front ++ ['/', 'a'] := by
  have plain : '\\' ∉ rootText root ++ ['/', 'a'] := by
    simp [backslash_not_mem_rootText]
  have below : withRoot root (rootVariable ++ ['/', 'a']) = rootText root ++ ['/', 'a'] := by
    have name : withRoot root ['a'] = ['a'] := Text.replaceAll_eq_self (by decide)
    rw [withRoot_below, name]
  obtain ⟨front, cut⟩ := (dropHere_name_cases root).resolve_left unnamed
  by_cases signed : (rootText root ++ ['/', 'a']).head? = some '!'
  · obtain ⟨rest, first⟩ := List.head?_eq_some_iff.mp signed
    rw [seenFrom, withRoot_entry, below, first, String.ofList_toList] at sign
    simp [polarity, entry] at sign
  · have unsigned : (withRoot root (rootVariable ++ ['/', 'a'])).head? ≠ some '!' := by rwa [below]
    rw [seenFrom_entry fun _ => unsigned, below] at sign
    have outside : (relativeBody root (String.ofList (rootText root ++ ['/', 'a']))).toList
        = rootText root ++ ['/', 'a'] := by
      by_cases absolute : (rootText root ++ ['/', 'a']).head? = some '/'
      · obtain ⟨rest, starts⟩ := List.head?_eq_some_iff.mp absolute
        have whole : (String.ofList (rootText root ++ ['/', 'a'])).toList = '/' :: rest := by
          rw [String.toList_ofList, starts]
        have unescaped : '\\' ∉ rest := fun backslash =>
          plain (starts ▸ List.mem_cons_of_mem _ backslash)
        rw [relativeBody]
        simp only [Bool.and_eq_true]
        split_ifs with inside
        · exact absurd (namesRoot_of_below? whole unescaped nonempty inside.2) unnamed
        · rw [String.toList_ofList]
      · exact relativeBody_of_relative absolute
    rw [outside, polarity_entry fun _ => signed] at sign
    obtain ⟨-, rfl⟩ := Prod.mk.inj sign
    refine ⟨front, ?_⟩
    have text : patternText (rootText root ++ ['/', 'a'])
        = dropHere (slashed (rootText root ++ ['/', 'a'])) := rfl
    rw [text, slashed_eq_self plain, cut]

/-- A root is named if a name behind its variable matches what the name alone does. -/
theorem namesRoot_of_isMatch (nonempty : root.bytes ≠ [])
    (same
      : (ofPatterns [seenFrom root (entry false (rootVariable ++ ['/', 'a']))]).toOption.map isMatch
        = (ofPatterns [seenFrom root (entry false ['a'])]).toOption.map isMatch)
    : NamesRoot root := by
  have name : withRoot root ['a'] = ['a'] := Text.replaceAll_eq_self (by decide)
  have alone : seenFrom root (entry false ['a']) = "a" := by
    have proper : IsProper false (withRoot root ['a']) := by
      rw [name]
      exact ⟨by decide, by decide, by decide⟩
    rw [seenFrom_of_isProper proper, name]
    rfl
  have accepted : (ofPatterns ["a"]).toOption.any (·.isMatch "a") = true := by decide +kernel
  have refused : (ofPatterns ["a"]).toOption.any (·.isMatch "b/a") = false := by decide +kernel
  rw [alone] at same
  cases parsed : (ofPatterns ["a"]).toOption with
  | none => simp [parsed] at accepted
  | some out =>
      rw [parsed] at same accepted refused
      obtain ⟨body, glob, sign, read, alike⟩ := exists_included same accepted
      have inRoot : glob.isMatch "a" = true := (alike "a").symm.trans accepted
      by_contra unnamed
      obtain ⟨front, text⟩ := exists_slash_of_not_namesRoot nonempty unnamed sign
      rw [text] at read
      have inFolder := Glob.isMatch_inFolder read inRoot
      rw [← alike "b/a"] at inFolder
      exact absurd (inFolder.symm.trans refused) nofun

end OutFiles

namespace LaunchConfig

open OutFiles
open PathOverride (rootText rootVariable withRoot)

/-- Which paths below the root are those of compiled files, if the patterns can be read. -/
def accepts? (config : LaunchConfig) : Option (String → Bool) :=
  (OutFiles.ofPatterns (PredictorOptions.ofConfig config).outFiles).toOption.map OutFiles.isMatch

theorem outFiles_ofConfig (config : LaunchConfig)
    : (PredictorOptions.ofConfig config).outFiles
      = config.outFiles.map (seenFrom config.rootPath) := by
  change (config.outFiles.map config.expandRoot).map _ = _
  rw [List.map_map]
  rfl

section Valid

variable {config : LaunchConfig} (valid : config.validate = .ok ())

include valid

theorem bytes_ne_nil_of_valid : config.rootPath.bytes ≠ [] := by
  intro rootless
  simp [validate, rootless, bind, Except.bind, throw, throwThe, MonadExceptOf.throw] at valid

theorem validate_with_outFiles {patterns : List String}
    (checked : patterns.forM checkPattern = .ok ())
    : ({ config with outFiles := patterns } : LaunchConfig).validate = .ok () := by
  have rootless := bytes_ne_nil_of_valid valid
  by_cases idle : config.prediction.concurrency = 0
  · simp [validate, rootless, idle, bind, Except.bind, throw, throwThe, MonadExceptOf.throw]
      at valid
  · simpa [validate, rootless, idle, bind, Except.bind, pure, Except.pure] using checked

/-- The variable for the root in front of a pattern makes no difference exactly under the roots that
its text names.  Of an absolute one it leaves the core of what is written behind it.
-/
theorem accepts?_belowRoot_iff
    : ((∀ (before after : List String) (negated : Bool) (body : List Char),
          let plain := { config with outFiles := before ++ entry negated body :: after }
          let below :=
            { config with
              outFiles := before ++ entry negated (rootVariable ++ '/' :: body) :: after }
          plain.validate = .ok ()
          → body.head? ≠ some '!'
          → body.head? ≠ some '/'
          → IsProper negated (withRoot config.rootPath body)
          → below.accepts? = plain.accepts?)
        ↔ NamesRoot config.rootPath)
      ∧ (∀ (text : String) (behind : List Char),
          config.rootPath = .ofString text
          → text.toList = '/' :: behind
          → '\\' ∉ text.toList
          → ∀ negated body,
              seenFrom config.rootPath (entry negated (rootVariable ++ '/' :: body))
                = entry negated (slashed (core (withRoot config.rootPath body)))) := by
  refine ⟨⟨fun same => ?_, fun named before after negated body _ _ _ proper => ?_⟩, ?_⟩
  · have name : withRoot config.rootPath ['a'] = ['a'] := Text.replaceAll_eq_self (by decide)
    have proper : IsProper false (withRoot config.rootPath ['a']) := by
      rw [name]
      exact ⟨by decide, by decide, by decide⟩
    refine namesRoot_of_isMatch (bytes_ne_nil_of_valid valid) ?_
    have one := same [] [] false ['a'] (validate_with_outFiles valid (by decide +kernel))
      (by decide) (by decide) proper
    simpa only [accepts?, outFiles_ofConfig, List.nil_append, List.map_cons, List.map_nil] using one
  · simp only [accepts?, outFiles_ofConfig, List.map_append, List.map_cons]
    exact (readAlike_seenFrom proper named).isMatch_eq
  · intro text behind rooted starts plain negated body
    rw [rooted, seenFrom_below starts plain]

end Valid

/-- Behind the variable for an absolute root, an exclusion excludes what it does without it. -/
theorem accepts?_belowRoot_work
    : let config : LaunchConfig := { rootPath := .ofString "/work" }
      let plain := { config with outFiles := ["**/*.js", "!out/tmp/**"] }
      let below :=
        { config with outFiles := ["**/*.js", "!$\x7bworkspaceFolder\x7d/out/tmp/**"] }
      config.validate = .ok () ∧ below.accepts? = plain.accepts?
        ∧ plain.accepts?.map (fun accepts => ["out/a.js", "out/tmp/a.js"].map accepts)
          = some [true, false] := by
  intro config plain below
  have valid : config.validate = .ok () := by decide +kernel
  have validPlain : plain.validate = .ok () := by decide +kernel
  have named : NamesRoot config.rootPath :=
    .absolute rfl (show "/work".toList = '/' :: "work".toList by decide) (by decide)
  have free : withRoot config.rootPath "out/tmp/**".toList = "out/tmp/**".toList :=
    Text.replaceAll_eq_self (by decide +kernel)
  have proper : IsProper true (withRoot config.rootPath "out/tmp/**".toList) := by
    rw [free]
    exact ⟨nofun, by decide, by decide⟩
  have entries : entry true "out/tmp/**".toList = "!out/tmp/**"
      ∧ entry true (rootVariable ++ '/' :: "out/tmp/**".toList)
        = "!$\x7bworkspaceFolder\x7d/out/tmp/**" := by decide +kernel
  have same := (accepts?_belowRoot_iff valid).1.mpr named ["**/*.js"] [] true "out/tmp/**".toList
  rw [entries.1, entries.2] at same
  exact ⟨valid, same validPlain (by decide) (by decide) proper, by decide +kernel⟩

/-- A backslash in the root stands in the place of the variable as a slash, so nothing that is found
in the root is below what the pattern names.
-/
theorem belowRoot_backslash_lost
    : let plain : LaunchConfig := { rootPath := .ofString "/w\\k", outFiles := ["out/*.js"] }
      let below := { plain with outFiles := ["$\x7bworkspaceFolder\x7d/out/*.js"] }
      plain.validate = .ok () ∧ below.validate = .ok ()
        ∧ plain.accepts?.map (fun accepts => accepts "out/index.js") = some true
        ∧ below.accepts?.map (fun accepts => accepts "out/index.js") = some false := by
  decide +kernel

end LaunchConfig

end EarlyBreak
