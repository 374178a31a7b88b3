import EarlyBreak.Config.Basic
import EarlyBreak.Proofs.Overrides.Selection
import EarlyBreak.Proofs.Path.Naming

/-! Rules for what is below a folder of the workspace.  The root is put in place of its variable
before the `*` of the value is looked for, so a root with a `*` takes what the key left over into
its own name.
-/

namespace EarlyBreak

open OutFiles (slashed)

namespace PathOverride

variable {start target rest head : List Char} {root : Path} {rules : List PathOverride}
  {url : String}

/-- The rule from the URLs with a start to what is below the root, in folders and names that start
with the target.
-/
def belowRoot (start target : List Char) : PathOverride where
  key := String.ofList (start ++ ['*'])
  value := String.ofList (rootVariable ++ '/' :: (target ++ ['*']))

/-- A text with the root in place of its variable. -/
def withRoot (root : Path) (text : List Char) : List Char :=
  Text.replaceAll rootVariable (rootText root) text

theorem rootVariable_ne_nil : rootVariable ≠ [] := by
  decide

theorem withRoot_nil : withRoot root [] = [] := by
  rw [withRoot, Text.replaceAll]

/-- Slashes and stars are not part of the variable, so it is replaced on both sides of them. -/
theorem withRoot_append_cons {c : Char} (absent : c ∉ rootVariable) (front behind : List Char)
    : withRoot root (front ++ c :: behind) = withRoot root front ++ c :: withRoot root behind :=
  Text.replaceAll_append_cons rootVariable_ne_nil absent front behind

/-- The variable is replaced on either side of a slash, and the star at the end stays. -/
theorem withRoot_belowRoot (front : List Char)
    : withRoot root (front ++ '/' :: (target ++ ['*']))
      = withRoot root front ++ '/' :: (withRoot root target ++ ['*']) := by
  rw [withRoot_append_cons (by decide), withRoot_append_cons (by decide), withRoot_nil]

theorem withRoot_rootVariable : withRoot root rootVariable = rootText root := by
  have whole : withRoot root (rootVariable ++ []) = rootText root ++ withRoot root [] :=
    Text.replaceAll_append rootVariable_ne_nil []
  rwa [List.append_nil, withRoot_nil, List.append_nil] at whole

/-- Where the value starts with the variable, the expanded value starts with the root. -/
theorem value_expand_belowRoot
    : ((belowRoot start target).expand root).value.toList
      = rootText root ++ '/' :: (withRoot root target ++ ['*']) := by
  rw [expand, belowRoot, String.toList_ofList, String.toList_ofList, ← withRoot,
    withRoot_belowRoot, withRoot_rootVariable]

/-- The variable is only replaced once if what comes in its place is free of it. -/
theorem expand_expand_belowRoot (freeRoot : ¬ rootVariable <:+: rootText root)
    (freeTarget : ¬ rootVariable <:+: withRoot root target)
    : ((belowRoot start target).expand root).expand root
      = (belowRoot start target).expand root := by
  have value : withRoot root ((belowRoot start target).expand root).value.toList
      = ((belowRoot start target).expand root).value.toList := by
    have own : withRoot root (rootText root) = rootText root := Text.replaceAll_eq_self freeRoot
    have kept : withRoot root (withRoot root target) = withRoot root target :=
      Text.replaceAll_eq_self freeTarget
    rw [value_expand_belowRoot, withRoot_belowRoot, own, kept]
  rw [withRoot] at value
  rw [expand, value, String.ofList_toList]

/-- Rules are selected by their keys, so it makes no difference whether the root is put in place of
its variable before.
-/
theorem selected?_map_expand
    : selected? (rules.map (expand root)) url = (selected? rules url).map (expand root) := by
  have sorted := arrange_eq root rules
  rw [arrange] at sorted
  rw [selected?, sorted, List.find?_map, selected?]
  rfl

theorem fill_of_star (plain : '*' ∉ head) (tail middle : List Char)
    : fill (head ++ '*' :: tail) middle = head ++ middle ++ tail := by
  rw [fill, Text.splitFirst_append plain]

/-- A value whose `*` is not the last character ends in that character still. -/
theorem fill_concat_of_star (star : '*' ∈ head) (last : Char) (middle : List Char)
    : ∃ front, fill (head ++ [last]) middle = front ++ [last] := by
  obtain ⟨before, behind, rfl, plain⟩ := List.eq_append_cons_of_mem star
  refine ⟨before ++ middle ++ behind, ?_⟩
  rw [List.append_assoc, List.cons_append, fill_of_star plain]
  simp only [List.append_assoc]

theorem rootText_ofString (s : String)
    : rootText (Path.ofString s) = Text.trimEnd (· == '/') (slashed s.toList) := by
  have text : (Path.ofString s).text = s := Text.ofBytesLossy_toBytes s
  rw [rootText, text]
  rfl

end PathOverride

namespace SourceResolver

open PathOverride

variable {start target rest : List Char} {root : Path} {rules : List PathOverride}

/-- A rule into the root leads to the root and the filled target, folded. -/
theorem redirect?_belowRoot (root : Path) (plain : '*' ∉ start)
    (selected
      : selected? rules (String.ofList (start ++ rest)) = some (belowRoot start target))
    : (ofOverrides root rules).redirect? (String.ofList (start ++ rest))
      = some (Path.ofString (String.ofList
          (fill (rootText root ++ '/' :: (withRoot root target ++ ['*'])) rest))).normalize := by
  have captures : Captures (belowRoot start target).key.toList
      (String.ofList (start ++ rest)).toList rest := by
    rw [belowRoot, String.toList_ofList, String.toList_ofList]
    have whole := Captures.star plain [] rest
    rwa [List.append_nil] at whole
  rw [redirect?_eq, selected, Option.bind_some,
    target?_of_captures ((belowRoot start target).expand root) captures,
    value_expand_belowRoot]

/-- A root without a `*` leaves that of the value to the rest of the URL. -/
theorem redirect?_of_plainRoot (plainStart : '*' ∉ start) (plainTarget : '*' ∉ target)
    (selected
      : selected? rules (String.ofList (start ++ rest)) = some (belowRoot start target))
    (plainRoot : '*' ∉ rootText root)
    : (ofOverrides root rules).redirect? (String.ofList (start ++ rest))
      = some (Path.ofString (String.ofList
          (rootText root ++ '/' :: (withRoot root target ++ rest)))).normalize := by
  have plain : '*' ∉ rootText root ++ '/' :: withRoot root target := by
    intro member
    rcases List.mem_append.mp member with inRoot | behind
    · exact plainRoot inRoot
    · rcases List.mem_cons.mp behind with slash | within
      · exact absurd slash (by decide)
      · exact (Text.mem_of_mem_replaceAll within).elim plainRoot plainTarget
  have filled := fill_of_star plain [] rest
  rw [List.append_nil, List.append_assoc, List.append_assoc, List.cons_append, List.cons_append]
    at filled
  rw [redirect?_belowRoot root plainStart selected, filled]

/-- Below a root with a `*` that of the value stays at the end, where the last character of the URL
should be.
-/
theorem redirect?_of_rootStar {c : Char} (plainStart : '*' ∉ start)
    (selected
      : selected? rules (String.ofList (start ++ (rest ++ [c]))) = some (belowRoot start target))
    (proper : c ∉ ['/', '.', '*']) (star : '*' ∈ rootText root)
    : (ofOverrides root rules).redirect? (String.ofList (start ++ (rest ++ [c])))
      ≠ some (Path.ofString (String.ofList
          (rootText root ++ '/' :: (withRoot root target ++ (rest ++ [c]))))).normalize := by
  intro same
  obtain ⟨filled, ends⟩ := fill_concat_of_star
    (List.mem_append_left ('/' :: withRoot root target) star) '*' (rest ++ [c])
  rw [List.append_assoc, List.cons_append] at ends
  have shown : rootText root ++ '/' :: (withRoot root target ++ (rest ++ [c]))
      = rootText root ++ '/' :: (withRoot root target ++ rest) ++ [c] := by simp
  rw [redirect?_belowRoot root plainStart selected, ends, shown, Option.some_inj] at same
  have isStar : c = '*' := by
    refine Path.lastChar_eq_of_normalize_eq same.symm ?_ ⟨?_, ?_⟩
    · decide
    · exact fun among => proper (List.mem_append_left ['*'] among)
    · decide
  exact proper (by simp [isStar])

/-- A configuration puts the root in place of its variable before the resolver does. -/
theorem redirect?_resolvedOverrides {config : LaunchConfig} {url : String}
    (selected : selected? config.pathOverrides url = some (belowRoot start target))
    (freeRoot : ¬ rootVariable <:+: rootText config.rootPath)
    (freeTarget : ¬ rootVariable <:+: withRoot config.rootPath target)
    : (ofOverrides config.rootPath config.resolvedOverrides).redirect? url
      = (ofOverrides config.rootPath config.pathOverrides).redirect? url := by
  have twice : ((belowRoot start target).expand config.rootPath).expand config.rootPath
      = (belowRoot start target).expand config.rootPath :=
    expand_expand_belowRoot freeRoot freeTarget
  rw [redirect?_eq, LaunchConfig.resolvedOverrides, selected?_map_expand, redirect?_eq, selected,
    Option.map_some, Option.bind_some, Option.bind_some, twice]

/-- What is below a start of URLs is redirected to what is below the root exactly if the root has no
`*`, apart from URLs whose end folding dots may take away.  The root is its text with slashes, and a
target without the variable stays as it is; a configuration that puts the root in before changes
nothing unless the root, or what it makes of the target, has the variable again.
-/
theorem redirect?_belowRoot_iff (root : Path) (plainStart : '*' ∉ start)
    (plainTarget : '*' ∉ target)
    (selected
      : selected? rules (String.ofList (start ++ rest)) = some (belowRoot start target))
    : let url := String.ofList (start ++ rest)
      let below := String.ofList (rootText root ++ '/' :: (withRoot root target ++ rest))
      ('*' ∉ rootText root →
        (ofOverrides root rules).redirect? url = some (Path.ofString below).normalize)
      ∧ (∀ c,
          rest.getLast? = some c →
          c ∉ ['/', '.', '*'] →
          ((ofOverrides root rules).redirect? url = some (Path.ofString below).normalize
            ↔ '*' ∉ rootText root))
      ∧ ('\\' ∉ root.text.toList →
          rootText root = Text.trimEnd (· == '/') root.text.toList)
      ∧ (¬ rootVariable <:+: target → withRoot root target = target)
      ∧ ∀ config : LaunchConfig,
          config.rootPath = root →
          config.pathOverrides = rules →
          ¬ rootVariable <:+: rootText root →
          ¬ rootVariable <:+: withRoot root target →
          (ofOverrides root config.resolvedOverrides).redirect? url
            = (ofOverrides root rules).redirect? url := by
  refine ⟨redirect?_of_plainRoot plainStart plainTarget selected, ?_, ?_,
    Text.replaceAll_eq_self, ?_⟩
  · intro c last proper
    obtain ⟨front, rfl⟩ := List.getLast?_eq_some_iff.mp last
    constructor
    · intro same star
      exact redirect?_of_rootStar plainStart selected proper star same
    · exact redirect?_of_plainRoot plainStart plainTarget selected
  · intro absent
    exact congrArg (Text.trimEnd (· == '/')) (OutFiles.slashed_eq_self absent)
  · rintro config rfl rfl freeRoot freeTarget
    exact redirect?_resolvedOverrides selected freeRoot freeTarget

theorem redirect?_below_work
    : let root := Path.ofString "/work/"
      let rules : List PathOverride :=
        [⟨"webpack:///*", "$\x7bworkspaceFolder\x7d/*"⟩,
          ⟨"webpack:///./src/*", "$\x7bworkspaceFolder\x7d/app/src/*"⟩]
      let url := "webpack:///./src/index.ts"
      selected? rules url = some (belowRoot "webpack:///./src/".toList "app/src/".toList)
      ∧ (ofOverrides root rules).redirect? url = some (Path.ofString "/work/app/src/index.ts") := by
  intro root rules url
  let start := "webpack:///./src/".toList
  let target := "app/src/".toList
  have cut : String.ofList (start ++ "index.ts".toList) = url := by decide
  have selected : selected? rules url = some (belowRoot start target) := by
    have distinct : (rules.map (·.key)).Nodup := by decide
    have listed : belowRoot start target ∈ rules := by decide
    have all : ∀ other ∈ rules, (belowRoot start target).precedes other = true := by decide
    refine (selected?_eq_some_iff distinct).mpr ⟨listed, ?_, fun other listed _ => all other listed⟩
    exact isSome_captured?_iff.mp (by decide)
  have rootName : rootText root = "/work".toList := by
    rw [rootText_ofString]
    decide
  have plainStart : '*' ∉ start := by decide
  have plainTarget : '*' ∉ target := by decide
  have plainRoot : '*' ∉ rootText root := by
    rw [rootName]
    decide
  have free : ¬ rootVariable <:+: target := fun among =>
    absurd (among.subset List.mem_cons_self) (by decide)
  obtain ⟨expands, -, -, kept, -⟩ :=
    redirect?_belowRoot_iff root plainStart plainTarget (cut ▸ selected)
  have redirected := expands plainRoot
  rw [cut, rootName, kept free] at redirected
  refine ⟨selected, redirected.trans ?_⟩
  decide

/-- What the key left over goes to the `*` of the root. -/
theorem root_star_takes_capture
    : let root := Path.ofString "/w*k"
      let rules : List PathOverride := [⟨"webpack:///*", "$\x7bworkspaceFolder\x7d/src/*"⟩]
      let url := "webpack:///a.ts"
      selected? rules url = some (belowRoot "webpack:///".toList "src/".toList)
      ∧ rootText root = "/w*k".toList
      ∧ (ofOverrides root rules).redirect? url = some (Path.ofString "/wa.tsk/src/*")
      ∧ (ofOverrides root rules).redirect? url
        ≠ some (Path.ofString "/w*k/src/a.ts").normalize := by
  intro root rules url
  let start := "webpack:///".toList
  let target := "src/".toList
  have cut : String.ofList (start ++ "a.ts".toList) = url := by decide
  have selected : selected? rules url = some (belowRoot start target) := by
    rw [selected?, List.mergeSort_singleton]
    decide
  have rootName : rootText root = "/w*k".toList := by
    rw [rootText_ofString]
    decide
  have plain : '*' ∉ start := by decide
  have kept : withRoot root target = target :=
    Text.replaceAll_eq_self fun among => absurd (among.subset List.mem_cons_self) (by decide)
  have redirected : (ofOverrides root rules).redirect? url
      = some (Path.ofString "/wa.tsk/src/*") := by
    have whole := redirect?_belowRoot root plain (cut ▸ selected)
    rw [cut, rootName, kept] at whole
    rw [whole]
    decide
  refine ⟨selected, rootName, redirected, ?_⟩
  rw [redirected]
  decide

end SourceResolver

end EarlyBreak
