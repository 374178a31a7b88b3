import EarlyBreak.Proofs.Overrides.Matching
import EarlyBreak.Proofs.SourceMap.Search
import EarlyBreak.Proofs.Text.Cuts

/-! Sources behind a root that is a URL.  All slashes at the end of the root give way to one, so a
root that ends in one slash is what its sources start with, and one that ends in more is not.
-/

namespace EarlyBreak

namespace ScriptUrl

variable {s scheme : List Char}

/-- Only what stands before the first colon decides whether it is a scheme. -/
theorem hasScheme_congr (noColon : ':' ∉ scheme) (rest other : List Char)
    : hasScheme (scheme ++ ':' :: rest) = hasScheme (scheme ++ ':' :: other) := by
  rw [hasScheme, hasScheme, Text.splitFirst_append noColon, Text.splitFirst_append noColon]
  rcases scheme with _ | ⟨first, _ | ⟨second, more⟩⟩ <;> rfl

theorem exists_scheme (absolute : hasScheme s = true)
    : ∃ scheme rest, s = scheme ++ ':' :: rest ∧ ':' ∉ scheme := by
  by_cases colon : ':' ∈ s
  · obtain ⟨scheme, rest, cut, noColon⟩ := List.eq_append_cons_of_mem colon
    exact ⟨scheme, rest, cut, noColon⟩
  · rw [hasScheme, Text.splitFirst_of_not_mem colon] at absolute
    simp at absolute

end ScriptUrl

namespace SourceMap

open ScriptUrl (hasScheme)

variable {root source : List Char}

/-- A source that is seen from the root of its map: no URL, and no path from the top. -/
structure IsBelowRoot (source : List Char) : Prop where
  relative : hasScheme source = false
  noSlash : source.head? ≠ some '/'

/-- A root without the slashes at its end. -/
def bareRoot (root : List Char) : List Char := Text.trimEnd (· == '/') root

theorem hasScheme_bareRoot (absolute : hasScheme root = true) (behind : List Char)
    : hasScheme (bareRoot root ++ behind) = true := by
  obtain ⟨scheme, rest, rfl, noColon⟩ := ScriptUrl.exists_scheme absolute
  rw [bareRoot, Text.trimEnd_append_cons (by decide), List.append_assoc, List.cons_append,
    ScriptUrl.hasScheme_congr noColon _ rest]
  exact absolute

/-- A source below a root that is a URL is written behind one slash, and stays as it is. -/
theorem resolveSource_belowRoot {root source : String} (absolute : hasScheme root.toList = true)
    (below : IsBelowRoot source.toList) (base : Option Url)
    : (resolveSource base (some root) source).toList
      = bareRoot root.toList ++ '/' :: source.toList := by
  have nonempty : root.toList.isEmpty = false := by
    obtain ⟨scheme, rest, cut, -⟩ := ScriptUrl.exists_scheme absolute
    simp [cut]
  have noSlash : (source.toList.head? == some '/') = false := beq_false_of_ne below.noSlash
  have joined : joinRoot (some root) source.toList
      = bareRoot root.toList ++ '/' :: source.toList := by
    rw [joinRoot, Option.getD_some, nonempty, below.relative, noSlash]
    rfl
  rw [resolveSource, joined, if_pos (hasScheme_bareRoot absolute _), String.toList_ofList]

/-- A root that ends in a slash is its bare form and some slashes. -/
theorem exists_slashes (slash : root.getLast? = some '/')
    : ∃ more, root = bareRoot root ++ List.replicate (more + 1) '/' := by
  obtain ⟨count, cut⟩ := Text.exists_trimEnd '/' root
  cases count with
  | zero =>
      rw [List.replicate_zero, List.append_nil] at cut
      rw [cut] at slash
      exact absurd slash (Text.getLast?_trimEnd '/' root)
  | succ more => exact ⟨more, cut⟩

theorem slashes_prefix {count : Nat} (fewer : Nat) (order : fewer ≤ count)
    (cut : root = bareRoot root ++ List.replicate count '/')
    : bareRoot root ++ List.replicate fewer '/' <+: root := by
  refine ⟨List.replicate (count - fewer) '/', ?_⟩
  rw [List.append_assoc, List.replicate_append_replicate, Nat.add_sub_cancel' order, ← cut]

section Slashes

variable (slash : root.getLast? = some '/') (noSlash : source.head? ≠ some '/')

include slash noSlash

/-- Of what a root starts with, as much is kept as ends before its second slash at the end. -/
theorem prefix_belowRoot_iff {start : List Char} (ofRoot : start <+: root)
    : start <+: bareRoot root ++ '/' :: source ↔ start.length ≤ (bareRoot root).length + 1 := by
  obtain ⟨more, cut⟩ := exists_slashes slash
  constructor
  · intro ofUrl
    by_contra longer
    have size := ofRoot.length_le
    rw [cut, List.length_append, List.length_replicate] at size
    have twoSlashes : bareRoot root ++ ['/', '/'] <+: root := slashes_prefix 2 (by omega) cut
    have shorter : (bareRoot root ++ ['/', '/']).length ≤ start.length := by
      simp only [List.length_append, List.length_cons, List.length_nil]
      omega
    have second := (List.prefix_of_prefix_length_le twoSlashes ofRoot shorter).trans ofUrl
    rw [List.prefix_append_right_inj, List.cons_prefix_cons] at second
    obtain ⟨rest, same⟩ := second.2
    exact noSlash (by simp [← same])
  · intro short
    have oneSlash : bareRoot root ++ ['/'] <+: root := slashes_prefix 1 (by omega) cut
    have ofOne : start <+: bareRoot root ++ ['/'] :=
      List.prefix_of_prefix_length_le ofRoot oneSlash (by simpa using short)
    exact ofOne.trans ⟨source, by simp⟩

omit noSlash in
/-- A root is its bare form and one slash unless it ends in two of them. -/
theorem length_le_iff
    : root.length ≤ (bareRoot root).length + 1 ↔ ¬ ['/', '/'] <:+ root := by
  obtain ⟨more, cut⟩ := exists_slashes slash
  have size := congrArg List.length cut
  simp only [List.length_append, List.length_replicate] at size
  cases more with
  | zero =>
    refine iff_of_true (by omega) ?_
    rintro ⟨front, same⟩
    have slashes : bareRoot root ++ ['/'] = (front ++ ['/']) ++ ['/'] := by
      rw [List.append_assoc]
      exact cut.symm.trans same.symm
    have last := Text.getLast?_trimEnd '/' root
    rw [← bareRoot, List.append_cancel_right slashes] at last
    simp at last
  | succ more =>
    refine iff_of_false (by omega) (not_not.mpr ?_)
    have two : ['/', '/'] = List.replicate 2 '/' := rfl
    refine ⟨bareRoot root ++ List.replicate more '/', ?_⟩
    rw [two, List.append_assoc, List.replicate_append_replicate]
    exact cut.symm

/-- A rule that spells some of the root in front of its `*`, and some of the source behind it,
matches the URL if what it spells of the root is kept.
-/
theorem matches_belowRoot_iff {rule : PathOverride} {url : String} {start tail : List Char}
    (plain : '*' ∉ start) (key : rule.key.toList = start ++ '*' :: tail)
    (ofRoot : start <+: root) (ofSource : tail <:+ source)
    (resolved : url.toList = bareRoot root ++ '/' :: source)
    : rule.Matches url ↔ start.length ≤ (bareRoot root).length + 1 := by
  have captures (middle : List Char)
      : PathOverride.Captures rule.key.toList url.toList middle
        ↔ bareRoot root ++ '/' :: source = start ++ middle ++ tail := by
    rw [← PathOverride.captured?_eq_some_iff, key, PathOverride.captured?_of_star plain, resolved]
  rw [← prefix_belowRoot_iff slash noSlash ofRoot]
  constructor
  · rintro ⟨middle, captured⟩
    exact ⟨middle ++ tail, by rw [(captures middle).mp captured, List.append_assoc]⟩
  · intro ofUrl
    have short := (prefix_belowRoot_iff slash noSlash ofRoot).mp ofUrl
    obtain ⟨front, rfl⟩ := ofSource
    have front_noSlash : front.head? ≠ some '/' := by
      intro first
      exact noSlash (by rw [List.head?_append, first, Option.some_or])
    obtain ⟨middle, cut⟩ := (prefix_belowRoot_iff slash front_noSlash ofRoot).mpr short
    exact ⟨middle, (captures middle).mpr (by rw [cut, List.append_assoc, List.cons_append])⟩

end Slashes

/-- A URL with slashes at its end as the root of a map: it is what the URLs of the sources below it
start with, and what keys that spell some of it match, but for the slashes behind the first one.
-/
theorem root_kept_iff {json : String} {base : Option Url} {map : SourceMap}
    (parsed : parse json base = .ok map)
    : ∃ document mappings,
        Describes json document mappings
        ∧ map.sources = document.sourceUrls base
        ∧ ∀ root : String,
            document.sourceRoot = some root
            → hasScheme root.toList = true
            → root.toList.getLast? = some '/'
            → ∀ (index : Nat) (listed : Option String),
                document.sources[index]? = some listed
                → IsBelowRoot (listed.getD "").toList
                → ∃ url,
                    map.sources[index]? = some url
                    ∧ url.toList = bareRoot root.toList ++ '/' :: (listed.getD "").toList
                    ∧ (root.toList <+: url.toList ↔ ¬ ['/', '/'] <:+ root.toList)
                    ∧ ∀ (rule : PathOverride) (start tail : List Char),
                        '*' ∉ start
                        → rule.key.toList = start ++ '*' :: tail
                        → start <+: root.toList
                        → tail <:+ (listed.getD "").toList
                        → (rule.Matches url
                          ↔ start.length ≤ (bareRoot root.toList).length + 1) := by
  obtain ⟨document, mappings, describes, rfl⟩ := parse_eq_ok_iff.mp parsed
  refine ⟨document, mappings, describes, rfl, ?_⟩
  intro root rooted absolute slash index listed source below
  have resolved := resolveSource_belowRoot absolute below base
  refine ⟨resolveSource base (some root) (listed.getD ""), ?_, resolved, ?_, ?_⟩
  · rw [← rooted]
    simp [ofMappings, Document.sourceUrls, source]
  · rw [resolved, prefix_belowRoot_iff slash below.noSlash (List.prefix_refl _),
      length_le_iff slash]
  · intro rule start tail plain key ofRoot ofSource
    exact matches_belowRoot_iff slash below.noSlash plain key ofRoot ofSource resolved

/-- A map below a root with one slash at its end. -/
def rootedText : String :=
  "\x7b\"version\":3,\"sourceRoot\":\"webpack://app/\",\"sources\":[\"a.ts\"]\x7d"

theorem describes_rooted
    : Describes rootedText ⟨3, some "webpack://app/", [some "a.ts"], "", false⟩ [] :=
  ⟨by decide +kernel, rfl, rfl, by decide +kernel⟩

theorem root_kept_rooted
    : parse rootedText none = .ok (ofMappings ["webpack://app/a.ts"] [])
      ∧ "webpack://app/".toList <+: "webpack://app/a.ts".toList
      ∧ PathOverride.Matches ⟨"webpack://app/*", "/work/*"⟩ "webpack://app/a.ts" := by
  have parsed : parse rootedText none = .ok (ofMappings ["webpack://app/a.ts"] []) :=
    parse_eq_ok_iff.mpr ⟨_, _, describes_rooted, by congr 1⟩
  obtain ⟨document, mappings, describes, -, kept⟩ := root_kept_iff parsed
  obtain ⟨rfl, -⟩ := describes.unique describes_rooted
  obtain ⟨url, listed, -, keeps, overridden⟩ :=
    kept "webpack://app/" rfl (by decide) (by decide) 0 (some "a.ts") rfl ⟨by decide, by decide⟩
  obtain rfl : "webpack://app/a.ts" = url := Option.some.inj listed
  refine ⟨parsed, keeps.mpr (by decide), ?_⟩
  exact (overridden _ "webpack://app/".toList [] (by decide) rfl (List.prefix_refl _)
    List.nil_suffix).mpr (by decide)

/-- A map below a root with an empty authority. -/
def authorityText : String :=
  "\x7b\"version\":3,\"sourceRoot\":\"webpack:///\",\"sources\":[\"a.ts\"]\x7d"

/-- Of the slashes of an empty authority one is left, and the usual key does not match. -/
theorem root_lost_authority
    : Describes authorityText ⟨3, some "webpack:///", [some "a.ts"], "", false⟩ []
      ∧ parse authorityText none = .ok (ofMappings ["webpack:/a.ts"] [])
      ∧ hasScheme "webpack:///".toList = true
      ∧ "webpack:///".toList.getLast? = some '/'
      ∧ IsBelowRoot "a.ts".toList
      ∧ ¬ "webpack:///".toList <+: "webpack:/a.ts".toList
      ∧ ¬ PathOverride.Matches ⟨"webpack:///*", "/work/*"⟩ "webpack:/a.ts" := by
  have describes
      : Describes authorityText ⟨3, some "webpack:///", [some "a.ts"], "", false⟩ [] :=
    ⟨by decide +kernel, rfl, rfl, by decide +kernel⟩
  refine ⟨describes, parse_eq_ok_iff.mpr ⟨_, _, describes, by congr 1⟩, by decide, by decide,
    ⟨by decide, by decide⟩, by decide, ?_⟩
  rintro ⟨middle, captures⟩
  have missed : PathOverride.captured? "webpack:///*".toList "webpack:/a.ts".toList = none := by
    decide
  exact absurd (missed.symm.trans (PathOverride.captured?_eq_some_iff.mpr captures)) nofun

end SourceMap

end EarlyBreak
