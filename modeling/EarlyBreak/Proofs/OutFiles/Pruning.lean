import EarlyBreak.Proofs.Glob.Folders
import EarlyBreak.Proofs.OutFiles.Listing
import EarlyBreak.Proofs.OutFiles.Reading
import EarlyBreak.Proofs.Text.Lossy

/-! What the folders that are not walked keep from being found.  Where the pattern of a folder
matches, the exclusion that it comes from matches everything inside, so no compiled file is lost;
but for `**/`, which as the pattern of a folder matches every one.
-/

namespace EarlyBreak.OutFiles

open EarlyBreak.Path (IsPlain)

variable {out : OutFiles} {patterns : List String} {pattern folder inner : String}
  {names below found : Place} {node : FileNode}

/-- An exclusion of what is below `**/`, any number of times. -/
def IsBroad (pattern : String) : Prop :=
  ∃ folder count,
    polarity pattern = (true, folder ++ "/**".toList)
    ∧ patternText folder = Glob.anyFolders (count + 1)

theorem dropHere_suffix (s : List Char) : dropHere s <:+ s := by
  fun_induction dropHere s with
  | case1 rest ih => exact ih.trans ⟨['.', '/'], rfl⟩
  | case2 => exact List.suffix_refl _

/-- Only exclusions with two slashes before their stars can be broad. -/
theorem IsBroad.ending (broad : IsBroad pattern) : "//**".toList <:+ slashed pattern.toList := by
  obtain ⟨folder, count, same, text⟩ := broad
  obtain ⟨front, whole, -⟩ := polarity_split pattern
  have slash : ['/'] <:+ slashed folder := by
    have folders : ['/'] <:+ patternText folder := by
      rw [text, Glob.anyFolders_succ]
      exact ⟨Glob.anyFolders count ++ ['*', '*'], by simp⟩
    exact folders.trans (dropHere_suffix _)
  have stars : slashed "/**".toList = "/**".toList := by decide
  obtain ⟨start, cut⟩ := slash
  rw [whole, same, slashed_append, slashed_append, stars, ← cut]
  exact ⟨slashed front ++ start, by simp⟩

/-- Slashes and stars behind a text make a `./` in front only if the text is a `.`. -/
theorem dropHere_below (s : List Char)
    : dropHere (s ++ "/**".toList) = dropHere s ++ "/**".toList
      ∨ dropHere (s ++ "/**".toList) = "**".toList := by
  fun_induction dropHere s with
  | case1 rest ih => exact ih
  | case2 s other =>
      rcases s with _ | ⟨c, _ | ⟨d, rest⟩⟩
      · exact .inl rfl
      · by_cases dot : c = '.'
        · subst dot
          exact .inr rfl
        · left
          unfold dropHere
          split
          · simp_all
          · rfl
      · left
        unfold dropHere
        split
        case h_1 more same =>
          obtain ⟨rfl, rfl⟩ : c = '.' ∧ d = '/' := by simp_all
          exact (other rest rfl).elim
        case h_2 => rfl

/-- A pattern that ends in `/**` keeps that ending, unless it is nothing but `./` before. -/
theorem patternText_below (folder : List Char)
    : patternText (folder ++ "/**".toList) = patternText folder ++ "/**".toList
      ∨ patternText (folder ++ "/**".toList) = "**".toList := by
  have stars : slashed "/**".toList = "/**".toList := by decide
  have cut := dropHere_below (slashed folder)
  rw [← stars, ← slashed_append, stars] at cut
  exact cut

/-- An exclusion matches what is inside a folder that its pattern of folders matches. -/
theorem isMatch_below {folder : List Char} {glob whole : Glob} {outer : String}
    (ofFolder : readPattern folder = .ok glob)
    (ofWhole : readPattern (folder ++ "/**".toList) = .ok whole)
    (narrow : ∀ count, patternText folder ≠ Glob.anyFolders (count + 1))
    (matched : glob.isMatch outer = true) (inner : String)
    : whole.isMatch (outer ++ "/" ++ inner) = true := by
  rw [readPattern_eq_ok] at ofFolder ofWhole
  rcases patternText_below folder with same | everything
  · rw [same] at ofWhole
    exact (Glob.below_of_parse ofFolder ofWhole).isMatch narrow matched
  · rw [everything] at ofWhole
    cases ofWhole
    exact Glob.isMatch_iff.mpr ⟨fun _ => rfl, .inl rfl⟩

variable (read : ofPatterns patterns = .ok out)

include read

/-- No file is lost in a folder that is not walked, if no exclusion is broad. -/
theorem isMatch_of_skips (narrow : ∀ pattern ∈ patterns, ¬ IsBroad pattern)
    (skipped : out.skips folder = true)
    : out.isMatch (folder ++ "/" ++ inner) = false := by
  obtain ⟨-, among⟩ := Bool.and_eq_true_iff.mp skipped
  obtain ⟨glob, member, matched⟩ := List.any_eq_true.mp among
  rw [ofPatterns_eq read] at member
  obtain ⟨pattern, listed, known⟩ := List.mem_filterMap.mp member
  obtain ⟨start, same, ofFolder⟩ := excludedFolder?_eq_some.mp known
  obtain ⟨whole, ofWhole⟩ := exists_readPattern read listed
  rw [same] at ofWhole
  have narrow : ∀ count, patternText start ≠ Glob.anyFolders (count + 1) :=
    fun count text => narrow pattern listed ⟨start, count, same, text⟩
  have hidden := isMatch_below ofFolder ofWhole narrow matched inner
  have excluded : whole ∈ out.excluded := by
    rw [ofPatterns_eq read]
    exact List.mem_filterMap.mpr ⟨pattern, listed, excluded?_eq_some.mpr ⟨_, same, ofWhole⟩⟩
  have any : out.excluded.any (·.isMatch (folder ++ "/" ++ inner)) = true :=
    List.any_eq_true.mpr ⟨whole, excluded, hidden⟩
  rw [isMatch, any, Bool.not_true, Bool.and_false]

/-- A broad exclusion keeps every folder from being walked. -/
theorem skips_of_broad (listed : pattern ∈ patterns) (broad : IsBroad pattern) (folder : String)
    : out.skips folder = !folder.isEmpty := by
  obtain ⟨start, count, same, text⟩ := broad
  have member : ⟨[.leadingDirs]⟩ ∈ out.excludedFolders := by
    have ofFolder : readPattern start = .ok ⟨[.leadingDirs]⟩ :=
      readPattern_eq_ok.mpr (text ▸ Glob.parse_anyFolders count)
    rw [ofPatterns_eq read]
    exact List.mem_filterMap.mpr
      ⟨pattern, listed, excludedFolder?_eq_some.mpr ⟨start, same, ofFolder⟩⟩
  have all : out.excludedFolders.any (·.isMatch folder) = true :=
    List.any_eq_true.mpr ⟨_, member, Glob.isMatch_iff.mpr ⟨fun _ => rfl, .inl rfl⟩⟩
  rw [skips, all, Bool.and_true]

/-- Files are lost in folders that are not walked exactly if an exclusion is broad and a file in a
folder is a compiled one.
-/
theorem pruning_loses_iff
    : (∃ folder inner,
        out.skips folder = true ∧ out.isMatch (folder ++ "/" ++ inner) = true)
      ↔ (∃ pattern ∈ patterns, IsBroad pattern)
        ∧ ∃ folder inner, folder ≠ "" ∧ out.isMatch (folder ++ "/" ++ inner) = true := by
  constructor
  · rintro ⟨folder, inner, skipped, matched⟩
    refine ⟨?_, folder, inner, ?_, matched⟩
    · by_contra narrow
      push Not at narrow
      rw [isMatch_of_skips read narrow skipped] at matched
      cases matched
    · rintro rfl
      cases skipped
  · rintro ⟨⟨pattern, listed, broad⟩, folder, inner, named, matched⟩
    refine ⟨folder, inner, ?_, matched⟩
    rw [skips_of_broad read listed broad]
    simpa using named

omit read

mutual

/-- All files at or below a node, by their names below it. -/
def everyFile : FileNode → List Place
  | .file _ _ => [[]]
  | .link _ => []
  | .folder entries => everyFileAmong entries

/-- All files at or below the entries of a folder, by their names below the folder. -/
def everyFileAmong : List (FileName × FileNode) → List Place
  | [] => []
  | (name, node) :: rest => (everyFile node).map (name :: ·) ++ everyFileAmong rest

end

/-- Whether a walk from a folder with these names comes as far as these names below it. -/
def walks (out : OutFiles) (names : Place) : Place → Bool
  | [] => true
  | name :: below => !out.skips (relativeText names) && walks out (names ++ [name]) below

/-- Whether a walk lists the file with these names below a folder with these names. -/
def lists (out : OutFiles) (names below : Place) : Bool :=
  walks out names below && out.isMatch (relativeText (names ++ below))

/-- A file is listed exactly if the folder is walked and the file is listed from the next one on. -/
theorem lists_cons (out : OutFiles) (names : Place) (name : FileName) (below : Place)
    : out.lists names (name :: below)
      = (!out.skips (relativeText names) && out.lists (names ++ [name]) below) := by
  rw [lists, lists, walks, Bool.and_assoc, List.append_assoc, List.singleton_append]

theorem mem_everyFileAmong {entries : List (FileName × FileNode)}
    (member : found ∈ everyFileAmong entries)
    : ∃ entry ∈ entries, ∃ below ∈ everyFile entry.2, found = entry.1 :: below := by
  induction entries with
  | nil => simp [everyFileAmong] at member
  | cons entry rest ih =>
      rw [everyFileAmong, List.mem_append, List.mem_map] at member
      rcases member with ⟨below, inside, rfl⟩ | later
      · exact ⟨entry, List.mem_cons_self, below, inside, rfl⟩
      · obtain ⟨other, member, rest⟩ := ih later
        exact ⟨other, List.mem_cons_of_mem _ member, rest⟩

mutual

/-- A walk lists those of all files that it comes to and that match. -/
theorem filesAt_eq (out : OutFiles) (names : Place)
    : (node : FileNode)
      → filesAt out names node = ((everyFile node).filter (out.lists names)).map (names ++ ·)
  | .file contents modified => by
      have listed : out.lists names [] = out.isMatch (relativeText names) := by
        rw [lists, walks, Bool.true_and, List.append_nil]
      rw [filesAt, everyFile, List.filter_singleton, listed]
      split <;> simp_all
  | .link target => by simp [filesAt, everyFile]
  | .folder entries => by
      rw [filesAt, everyFile]
      cases skipped : out.skips (relativeText names) with
      | true =>
          have none : (everyFileAmong entries).filter (out.lists names) = [] := by
            refine List.filter_eq_nil_iff.mpr fun found member => ?_
            obtain ⟨entry, -, below, -, rfl⟩ := mem_everyFileAmong member
            simp [lists_cons, skipped]
          simp [none]
      | false => simpa using filesAmong_eq out skipped entries

/-- The files of a walk are all files that it lists, by induction over the tree. -/
theorem filesAmong_eq (out : OutFiles) {names : Place}
    (walked : out.skips (relativeText names) = false)
    : (entries : List (FileName × FileNode))
      → filesAmong out names entries
        = ((everyFileAmong entries).filter (out.lists names)).map (names ++ ·)
  | [] => by simp [filesAmong, everyFileAmong]
  | (name, node) :: rest => by
      rw [filesAmong, everyFileAmong, filesAt_eq out (names ++ [name]) node,
        filesAmong_eq out walked rest]
      have within : out.lists names ∘ (name :: ·) = out.lists (names ++ [name]) := by
        funext below
        rw [Function.comp, lists_cons, walked, Bool.not_false, Bool.true_and]
      simp [List.filter_map, within, Function.comp_def]

end

theorem relativeText_eq (names : Place)
    : relativeText names
      = String.ofList (slashed (['/'].intercalate (names.map Text.replaceBroken))) := by
  have small : '/'.toNat < 128 := by decide
  have texts : Text.replaceBroken ([Path.slash].intercalate names)
      = ['/'].intercalate (names.map Text.replaceBroken) :=
    Text.replaceBroken_intercalate small names
  rw [relativeText, Text.ofBytesLossy_eq, String.toList_ofList, texts]
  rfl

/-- Names below a folder are written behind a slash. -/
theorem relativeText_append (some : names ≠ []) (more : below ≠ [])
    : relativeText (names ++ below) = relativeText names ++ "/" ++ relativeText below := by
  have cut {front behind : List (List Char)} (some : front ≠ []) (more : behind ≠ [])
      : ['/'].intercalate (front ++ behind)
        = ['/'].intercalate front ++ '/' :: ['/'].intercalate behind := by
    have slashes : '/' :: ['/'].intercalate (front ++ behind)
        = ('/' :: ['/'].intercalate front) ++ '/' :: ['/'].intercalate behind := by
      rw [cons_intercalate (by simp [some]), cons_intercalate some, cons_intercalate more,
        behindSlashes, List.flatMap_append]
      rfl
    exact (List.cons.inj slashes).2
  have slash (rest : List Char) : slashed ('/' :: rest) = '/' :: slashed rest := rfl
  rw [relativeText_eq, relativeText_eq, relativeText_eq, List.map_append,
    cut (by simp [some]) (by simp [more]), slashed_append, slash]
  simp [← String.toList_inj]

theorem relativeText_singleton_ne_empty {name : FileName} (plain : IsPlain name)
    : (relativeText [name]).isEmpty = false := by
  cases name with
  | nil => exact absurd rfl plain.nonempty
  | cons first rest => simp [relativeText_eq, Text.replaceBroken_cons, slashed]

/-- A walk comes to every file that matches, if no file is lost in a folder that is not walked. -/
theorem lists_eq_isMatch
    (keeps : ∀ folder inner,
      out.skips folder = true → out.isMatch (folder ++ "/" ++ inner) = false)
    (names below : Place)
    : out.lists names below = out.isMatch (relativeText (names ++ below)) := by
  induction below generalizing names with
  | nil => rw [lists, walks, Bool.true_and]
  | cons name below ih =>
      rw [lists_cons, ih, List.append_assoc, List.singleton_append]
      cases skipped : out.skips (relativeText names) with
      | false => rfl
      | true =>
          have named : names ≠ [] := by
            rintro rfl
            cases skipped
          rw [relativeText_append named (List.cons_ne_nil name below), keeps _ _ skipped]
          rfl

/-- A walk that skips every folder only comes to the files at its root. -/
theorem lists_of_skips (all : ∀ folder, out.skips folder = !folder.isEmpty)
    (plain : ∀ name ∈ below, IsPlain name)
    : out.lists [] below = (decide (below.length ≤ 1) && out.isMatch (relativeText below)) := by
  have root : out.skips (relativeText []) = false := rfl
  match below with
  | [] => rfl
  | [name] => simp [lists, walks, root]
  | first :: second :: rest =>
      have named := relativeText_singleton_ne_empty (plain first List.mem_cons_self)
      simp [lists_cons, root, all, named]

theorem plain_of_mem_everyFile (regular : node.Regular) (member : found ∈ everyFile node)
    : ∀ name ∈ found, IsPlain name := by
  induction regular generalizing found with
  | file =>
      obtain rfl : found = [] := by simpa [everyFile] using member
      exact nofun
  | link => simp [everyFile] at member
  | folder plain _ ih =>
      rw [everyFile] at member
      obtain ⟨entry, among, below, inside, rfl⟩ := mem_everyFileAmong member
      exact List.forall_mem_cons.mpr ⟨plain entry among, ih entry among inside⟩

/-- All files at or below the root of a scan, by their names below it. -/
def everyFileBelow (tree : FileTree) (base : Path) : List Place :=
  match rootNode? tree base with
  | none => []
  | some node => everyFile node

/-- The files at some places below a root that declare a map and can be read. -/
def inspected (tree : FileTree) (base : Path) (places : List Place) : List CompiledFile :=
  places.filterMap fun names =>
    match inspect? tree (pathBelow base names) with
    | .ok file => file
    | .error _ => none

/-- A scan finds, of all files, those that its walk lists. -/
theorem scan_eq (tree : FileTree) (base : Path) (out : OutFiles)
    : scan tree base out
      = inspected tree base ((everyFileBelow tree base).filter (out.lists [])) := by
  unfold scan everyFileBelow inspected
  cases rootNode? tree base with
  | none => rfl
  | some node =>
      have listed : filesAt out [] node = (everyFile node).filter (out.lists []) := by
        simp only [filesAt_eq, List.nil_append, List.map_id']
      exact congrArg (inspected tree base) listed

theorem plain_of_mem_everyFileBelow {tree : FileTree} {base : Path} (regular : tree.root.Regular)
    (member : found ∈ everyFileBelow tree base)
    : ∀ name ∈ found, IsPlain name := by
  unfold everyFileBelow at member
  split at member
  case h_1 => cases member
  case h_2 node root =>
    exact plain_of_mem_everyFile (regular_of_rootNode? regular root) member

/-- No file is lost in a folder that is not walked, unless an exclusion is broad and some file in a
folder matches: without a broad exclusion a scan finds what a walk through all folders would, and
with one only what is directly at its root.
-/
theorem pruning_keeps_iff (read : ofPatterns patterns = .ok out)
    : ((∀ folder inner, out.skips folder = true → out.isMatch (folder ++ "/" ++ inner) = false)
        ↔ ¬ ((∃ pattern ∈ patterns, IsBroad pattern)
            ∧ ∃ folder inner, folder ≠ "" ∧ out.isMatch (folder ++ "/" ++ inner) = true))
      ∧ ((∀ pattern ∈ patterns, ¬ IsBroad pattern)
        → ∀ tree base,
            scan tree base out
              = inspected tree base
                  ((everyFileBelow tree base).filter fun names => out.isMatch (relativeText names)))
      ∧ ((∃ pattern ∈ patterns, IsBroad pattern)
        → ∀ tree base,
            tree.root.Regular
            → scan tree base out
              = inspected tree base
                  ((everyFileBelow tree base).filter fun names =>
                    decide (names.length ≤ 1) && out.isMatch (relativeText names))) := by
  refine ⟨?_, fun narrow tree base => ?_, ?_⟩
  · rw [← pruning_loses_iff read]
    simp only [not_exists, not_and, Bool.not_eq_true]
  · rw [scan_eq, funext (lists_eq_isMatch (fun _ _ => isMatch_of_skips read narrow) [])]
    rfl
  · rintro ⟨pattern, listed, broad⟩ tree base regular
    rw [scan_eq]
    congr 1
    refine List.filter_congr fun names member => ?_
    exact lists_of_skips (skips_of_broad read listed broad)
      (plain_of_mem_everyFileBelow regular member)

theorem eq_ok_of_isSome (reads : (ofPatterns patterns).toOption.isSome = true)
    : ofPatterns patterns = .ok ((ofPatterns patterns).toOption.getD empty) := by
  cases read : ofPatterns patterns with
  | error e =>
      rw [read] at reads
      cases reads
  | ok out => rfl

theorem pruning_keeps_modules
    : let patterns := ["**/*.js", "!**/node_modules/**"]
      ∃ out, ofPatterns patterns = .ok out
        ∧ (∀ pattern ∈ patterns, ¬ IsBroad pattern)
        ∧ out.skips "lib/node_modules" = true
        ∧ out.isMatch ("lib/node_modules" ++ "/" ++ "a.js") = false
        ∧ out.isMatch ("lib" ++ "/" ++ "a.js") = true := by
  intro patterns
  have endings : ∀ pattern ∈ patterns, ¬ "//**".toList <:+ slashed pattern.toList := by
    decide +kernel
  have narrow : ∀ pattern ∈ patterns, ¬ IsBroad pattern :=
    fun pattern listed broad => endings pattern listed broad.ending
  have read : ofPatterns patterns = .ok _ := eq_ok_of_isSome (by decide +kernel)
  refine ⟨_, read, narrow, by decide +kernel, ?_, by decide +kernel⟩
  refine (pruning_keeps_iff read).1.mpr ?_ _ _ (by decide +kernel)
  rintro ⟨⟨pattern, listed, broad⟩, -⟩
  exact narrow pattern listed broad

/-- As the pattern of a folder `**/` matches every one, but the exclusion of what is below it only
matches what is behind two slashes.
-/
theorem pruning_loses_nested
    : let patterns := ["**/*.js", "!**//**"]
      ∃ out, ofPatterns patterns = .ok out
        ∧ out.skips "a" = true
        ∧ out.isMatch ("a" ++ "/" ++ "index.js") = true := by
  intro patterns
  have read : ofPatterns patterns = .ok _ := eq_ok_of_isSome (by decide +kernel)
  exact ⟨_, read, by decide +kernel, by decide +kernel⟩

end EarlyBreak.OutFiles
