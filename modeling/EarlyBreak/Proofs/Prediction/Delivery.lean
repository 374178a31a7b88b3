import EarlyBreak.Proofs.Prediction.Scan

/-! What the files of a scan bring to light, given what the cache does.  A file that is not found in
the cache brings to light what its map lists, and that is what is stored.
-/

namespace EarlyBreak

namespace SourceMap.Memo

variable {memo : Memo} {tree : FileTree} {files : List CompiledFile} {file : CompiledFile}

/-- The memo knows nothing of some files but what loading them gives. -/
def Knows (memo : Memo) (tree : FileTree) (files : List CompiledFile) : Prop :=
  ∀ {file known}, file ∈ files → memo.find? file = some known
    → known = (SourceMap.load tree file).toOption

/-- Two spellings of one file, at one time, load alike. -/
def Alike (tree : FileTree) (files : List CompiledFile) : Prop :=
  ∀ {file other}, file ∈ files → other ∈ files → file.path.components = other.path.components
    → file.modified = other.modified
    → (SourceMap.load tree file).toOption = (SourceMap.load tree other).toOption

theorem knows_empty (tree : FileTree) (files : List CompiledFile)
    : Memo.empty.Knows tree files := by
  intro file known _ found
  simp [find?, empty] at found

/-- A map that is loaded from the tree is known rightly. -/
theorem Knows.insert (knows : memo.Knows tree files) (alike : Alike tree files)
    (member : file ∈ files)
    : (memo.insert file (SourceMap.load tree file).toOption).Knows tree files := by
  intro other known among found
  rw [find?, Memo.insert, List.find?_cons] at found
  split at found
  case h_1 same =>
    obtain ⟨components, modified⟩ := Bool.and_eq_true_iff.mp same
    obtain rfl := Option.some.inj found
    exact alike member among (beq_iff_eq.mp components) (beq_iff_eq.mp modified)
  case h_2 => exact knows among found

end SourceMap.Memo

namespace Predictor

open SourceMap (Memo)

variable {predictor : Predictor} {tree current : FileTree} {now : Nat} {resolver : SourceResolver}
  {files : List CompiledFile} {file : CompiledFile} {map : Option SourceMap}
  {brings : CompiledFile → List Discovery → Prop} {state : Option Cache → FileTree → Prop}

/-- What the map of a compiled file lists; nothing if there is no map. -/
def discoveries (resolver : SourceResolver) (tree : FileTree) (file : CompiledFile) :
    List Discovery :=
  ((SourceMap.load tree file).toOption.map (sourcesIn resolver file)).getD []

/-- What a scan counts on: the files load as they do in a tree, what the cache has for them may be
what they bring to light, and storing what their maps list is no harm.
-/
structure Backing (now : Nat) (tree : FileTree) (files : List CompiledFile)
    (resolver : SourceResolver) (brings : CompiledFile → List Discovery → Prop)
    (state : Option Cache → FileTree → Prop) : Prop where
  alike : Memo.Alike tree files
  loads : ∀ {cache current file}, state cache current → file ∈ files
    → (SourceMap.load current file).toOption = (SourceMap.load tree file).toOption
  looks : ∀ {cache current file found after}, state (some cache) current → file ∈ files
    → cache.lookup current now file.path.text file.modified = (found, after)
    → state (some cache) after ∧ ∀ known, found = some known → brings file known
  stores : ∀ {cache current file outcome next after}, state (some cache) current → file ∈ files
    → cache.store current now file.path.text file.modified (discoveries resolver tree file)
        = (outcome, next, after)
    → state (some next) after
  settles : ∀ {file}, file ∈ files → brings file (discoveries resolver tree file)

/-- What holds of a predictor and its tree during a scan. -/
structure Scanning (tree : FileTree) (files : List CompiledFile) (resolver : SourceResolver)
    (state : Option Cache → FileTree → Prop) (predictor : Predictor) (current : FileTree) :
    Prop where
  resolver : predictor.resolver = resolver
  state : state predictor.cache current
  knows : predictor.memo.Knows tree files

/-- A step is about a listed file, and what it stores is what the map of that file lists. -/
def Step.Sound (tree : FileTree) (files : List CompiledFile) (resolver : SourceResolver)
    (step : Step) : Prop :=
  step.file ∈ files ∧ ∀ {file found}, step = .store file found
    → found = discoveries resolver tree file

/-- Where a step of a file leads is right: to a sound step, or to what the file may bring. -/
def Progress.Right (tree : FileTree) (files : List CompiledFile) (resolver : SourceResolver)
    (brings : CompiledFile → List Discovery → Prop) (file : CompiledFile) : Progress → Prop
  | .next step => step.Sound tree files resolver
  | .finished found => brings file found

/-- Once a map is loaded, what it lists is stored or finishes the file. -/
theorem afterLoad_right (backing : Backing now tree files resolver brings state)
    (resolved : predictor.resolver = resolver) (member : file ∈ files)
    (loaded : map = (SourceMap.load tree file).toOption)
    : (predictor.afterLoad file map).Right tree files resolver brings file := by
  have lists := backing.settles member
  rw [discoveries, ← loaded, ← resolved] at lists
  cases map with
  | none => exact lists
  | some map =>
      rw [afterLoad]
      split
      · refine ⟨member, ?_⟩
        rintro _ _ ⟨⟩
        rw [discoveries, ← loaded, ← resolved]
        rfl
      · exact lists

/-- Each file that is asked for brings what it should, whether its entry or its map answers. -/
theorem askFor_right (backing : Backing now tree files resolver brings state)
    (scanning : Scanning tree files resolver state predictor current) (member : file ∈ files)
    : (predictor.askFor file).1.Right tree files resolver brings file
      ∧ Scanning tree files resolver state (predictor.askFor file).2 current := by
  rw [askFor]
  split
  case h_1 known remembered =>
    exact ⟨afterLoad_right backing scanning.resolver member (scanning.knows member remembered),
      scanning.resolver, scanning.state, scanning.knows⟩
  case h_2 =>
    exact ⟨⟨member, by rintro _ _ ⟨⟩⟩, scanning.resolver, scanning.state, scanning.knows⟩

/-- Each step does its part. -/
theorem take_right {step : Step} (backing : Backing now tree files resolver brings state)
    (scanning : Scanning tree files resolver state predictor current)
    (sound : step.Sound tree files resolver)
    : let outcome := predictor.take current now step
      outcome.1.Right tree files resolver brings step.file
        ∧ Scanning tree files resolver state outcome.2.1 outcome.2.2 := by
  obtain ⟨member, stored⟩ := sound
  have held := scanning.state
  cases step with
  | start file =>
      rw [take]
      split
      · exact ⟨⟨member, by rintro _ _ ⟨⟩⟩, scanning⟩
      · exact askFor_right backing scanning member
  | lookup file =>
      rw [take, cached]
      cases opened : predictor.cache with
      | none => exact askFor_right backing scanning member
      | some cache =>
          rw [opened] at held
          cases looked : cache.lookup current now file.path.text file.modified with
          | mk found later =>
              obtain ⟨still, brought⟩ := backing.looks held member looked
              have after : Scanning tree files resolver state predictor later :=
                ⟨scanning.resolver, by rwa [opened], scanning.knows⟩
              simp only [looked]
              cases found with
              | none => exact askFor_right backing after member
              | some known => exact ⟨brought known rfl, after⟩
  | load file =>
      have loaded : (SourceMap.load current file).toOption = (SourceMap.load tree file).toOption :=
        backing.loads held member
      have knows : predictor.memo.Knows tree files := scanning.knows
      rw [take, loaded]
      exact ⟨afterLoad_right backing scanning.resolver member rfl, scanning.resolver, held,
        knows.insert backing.alike member⟩
  | store file found =>
      obtain rfl := stored rfl
      rw [take, remember]
      cases opened : predictor.cache with
      | none => exact ⟨backing.settles member, scanning⟩
      | some cache =>
          rw [opened] at held
          cases kept : cache.store current now file.path.text file.modified
            (discoveries resolver tree file) with
          | mk outcome rest =>
              have still := backing.stores held member kept
              simp only [kept]
              exact ⟨backing.settles member, scanning.resolver, still, scanning.knows⟩

/-- A scan finishes its files with what they may bring to light. -/
theorem discoverAll_brings (backing : Backing now tree files resolver brings state)
    (scanning : Scanning tree files resolver state predictor current)
    : let outcome := predictor.discoverAll current now files
      state outcome.2.1.cache outcome.2.2 ∧ Assembled brings files outcome.1 := by
  have delivers : Delivers now (Scanning tree files resolver state)
      (Step.Sound tree files resolver) brings := by
    constructor
    · intro predictor current step next after later scanning sound taken
      obtain ⟨right, still⟩ := take_right backing scanning sound
      rw [taken] at right still
      exact ⟨still, right⟩
    · intro predictor current step found after later scanning sound taken
      obtain ⟨right, still⟩ := take_right backing scanning sound
      rw [taken] at right still
      exact ⟨still, right⟩
  obtain ⟨still, all⟩ := discoverAll_assembled delivers scanning
    fun file member => ⟨member, by rintro _ _ ⟨⟩⟩
  exact ⟨still.state, all⟩

section Single

variable {after : FileTree} {cache next : Cache} {known : List Discovery} {map : SourceMap}

theorem discoverAll_singleton (predictor : Predictor) (tree : FileTree) (now : Nat)
    (file : CompiledFile)
    : predictor.discoverAll tree now [file] = runSteps now 4 [.start file] [] predictor tree := by
  have width : 1 ≤ max 1 predictor.options.concurrency := Nat.le_max_left _ _
  rw [discoverAll, List.take_of_length_le width, List.drop_eq_nil_of_le width]
  rfl

/-- A file that is in the cache brings to light what the cache has. -/
theorem discoverAll_of_cached (opened : predictor.cache = some cache)
    (found : cache.lookup tree now file.path.text file.modified = (some known, after))
    : predictor.discoverAll tree now [file] = (known, predictor, after) := by
  simp [discoverAll_singleton, runSteps, take, cached, opened, found]

/-- A file that is not in the cache is stored. -/
theorem discoverAll_of_stored {outcome : Except Cache.Error Unit}
    (opened : predictor.cache = some cache) (new : predictor.memo.find? file = none)
    (missing : (cache.lookup tree now file.path.text file.modified
        : Option (List Discovery) × FileTree) = (none, tree))
    (loaded : (SourceMap.load tree file).toOption = some map)
    (stored : cache.store tree now file.path.text file.modified
        (sourcesIn predictor.resolver file map) = (outcome, next, after))
    : ∃ later,
        predictor.discoverAll tree now [file]
          = (sourcesIn predictor.resolver file map, later, after) := by
  simp [discoverAll_singleton, runSteps, take, cached, opened, missing, askFor, new, loaded,
    afterLoad, remember, stored]

end Single

end Predictor

end EarlyBreak
