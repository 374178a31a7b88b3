import EarlyBreak.Prediction.Predictor
import EarlyBreak.Proofs.Prediction.Scan

/-! What a predictor learns of the maps of compiled files.  Each map was loaded for a file with that
path and time, and what the loader answered once it answers from then on.
-/

namespace EarlyBreak

namespace SourceMap.Memo

variable {memo middle later : Memo} {tree : FileTree} {file other third : CompiledFile}
  {known loaded : Option SourceMap} {trees : FileTree → Prop}

/-- Two compiled files that a memo does not tell apart. -/
def Twin (file other : CompiledFile) : Prop :=
  file.path.components = other.path.components ∧ file.modified = other.modified

instance (file other : CompiledFile) : Decidable (Twin file other) :=
  inferInstanceAs (Decidable (_ ∧ _))

theorem Twin.symm (twin : Twin file other) : Twin other file := ⟨twin.1.symm, twin.2.symm⟩

theorem Twin.trans (first : Twin file other) (second : Twin other third) : Twin file third :=
  ⟨first.1.trans second.1, first.2.trans second.2⟩

/-- An inserted map is found for the twins of its file, and no other file. -/
theorem find?_insert (memo : Memo) (file other : CompiledFile) (loaded : Option SourceMap)
    : (memo.insert file loaded).find? other
      = if Twin file other then some loaded else memo.find? other := by
  by_cases twin : Twin file other
  · obtain ⟨path, time⟩ := twin
    simp [find?, insert, Twin, path, time]
  · have apart : (file.path.components == other.path.components && file.modified == other.modified)
        = false := by
      rw [Bool.and_eq_false_iff, beq_eq_false_iff_ne, beq_eq_false_iff_ne]
      exact not_and_or.mp twin
    simp only [find?, insert, List.find?_cons, apart, if_neg twin]

theorem find?_congr (twin : Twin file other) : memo.find? file = memo.find? other := by
  simp only [find?, twin.1, twin.2]

/-- What is known of a compiled file once a map was asked for. -/
theorem find?_load (memo : Memo) (tree : FileTree) (file other : CompiledFile)
    : (memo.load tree file).2.find? other
      = (memo.find? other).or
          (if Twin file other then some (SourceMap.load tree file).toOption else none) := by
  rw [load]
  by_cases twin : Twin file other
  · rw [if_pos twin]
    cases found : memo.find? file with
    | some known => rw [← find?_congr twin, found, Option.some_or]
    | none => rw [find?_insert, if_pos twin, ← find?_congr twin, found, Option.none_or]
  · rw [if_neg twin, Option.or_none]
    cases memo.find? file with
    | some known => rfl
    | none => rw [find?_insert, if_neg twin]

/-- Whatever is known is known later. -/
def Grows (memo later : Memo) : Prop :=
  ∀ file known, memo.find? file = some known → later.find? file = some known

theorem Grows.refl (memo : Memo) : memo.Grows memo := fun _ _ => id

theorem Grows.trans (first : memo.Grows middle) (second : middle.Grows later)
    : memo.Grows later :=
  fun file known found => second file known (first file known found)

/-- What the loader answers is known from then on, and nothing is forgotten. -/
theorem load_grows (memo : Memo) (tree : FileTree) (file : CompiledFile)
    : (memo.load tree file).2.find? file = some (memo.load tree file).1
      ∧ memo.Grows (memo.load tree file).2 := by
  constructor
  · rw [find?_load, if_pos ⟨rfl, rfl⟩, load]
    cases memo.find? file <;> rfl
  · intro other known earlier
    rw [find?_load, earlier, Option.some_or]

/-- All that is known was loaded from certain trees, for files that are not told apart. -/
def Learned (memo : Memo) (trees : FileTree → Prop) : Prop :=
  ∀ file known, memo.find? file = some known
    → ∃ tree twin, trees tree ∧ Twin twin file ∧ known = (SourceMap.load tree twin).toOption

theorem learned_empty : Memo.empty.Learned trees := by
  intro file known found
  simp [find?, empty] at found

theorem Learned.insert (learned : memo.Learned trees) (there : trees tree) (file : CompiledFile)
    : (memo.insert file (SourceMap.load tree file).toOption).Learned trees := by
  intro other known found
  rw [find?_insert] at found
  split at found
  case isTrue twin => exact ⟨tree, file, there, twin, (Option.some.inj found).symm⟩
  case isFalse => exact learned other known found

theorem Learned.load (learned : memo.Learned trees) (there : trees tree) (file : CompiledFile)
    : (memo.load tree file).2.Learned trees := by
  rw [Memo.load]
  split
  · exact learned
  · exact learned.insert there file

end SourceMap.Memo

/-- What a cache makes of a tree when it looks discoveries up or stores some, whenever it collected
last.
-/
inductive Cache.Touches (cache : Cache) (tree : FileTree) : FileTree → Prop where
  | lookup (collectedAt now : Nat) (key : String) (modified : Nat)
    : Touches cache tree
        (({ cache with collectedAt } : Cache).lookup tree now key modified
          : Option (List Discovery) × FileTree).2
  | store (collectedAt now : Nat) (key : String) (modified : Nat) (found : List Discovery)
    : Touches cache tree
        (({ cache with collectedAt } : Cache).store tree now key modified found).2.2

/-- Storing changes nothing of a cache but when it collected last. -/
theorem Cache.store_cache (cache : Cache) (tree : FileTree) (now : Nat) (key : String)
    (modified : Nat) (found : List Discovery)
    : ∃ collectedAt,
        (cache.store tree now key modified found).2.1 = { cache with collectedAt } := by
  unfold store
  split
  case h_1 => exact ⟨cache.collectedAt, rfl⟩
  case h_2 =>
    simp only [collectIfDue]
    split
    case isTrue => exact ⟨cache.collectedAt, rfl⟩
    case isFalse => exact ⟨now, rfl⟩

/-- So what it touches stays the same. -/
theorem Cache.Touches.of_collectedAt {cache : Cache} {tree later : FileTree} {collectedAt : Nat}
    (touches : ({ cache with collectedAt } : Cache).Touches tree later)
    : cache.Touches tree later := by
  cases touches with
  | lookup collectedAt now key modified => exact .lookup collectedAt now key modified
  | store collectedAt now key modified found => exact .store collectedAt now key modified found

namespace Predictor

variable {predictor : Predictor} {tree : FileTree} {trees : FileTree → Prop}
  {predictions : List Prediction}

/-- All that a predictor knows of maps was loaded from certain trees, and what its cache makes of
one of them is one of them.
-/
structure Informed (trees : FileTree → Prop) (predictor : Predictor) : Prop where
  learned : predictor.memo.Learned trees
  touched : ∀ cache, predictor.cache = some cache
    → ∀ tree later, trees tree → cache.Touches tree later → trees later

/-- What holds during a scan: the predictor is informed, it is in one of the trees, and it has not
predicted anything new.
-/
structure Surveying (trees : FileTree → Prop) (predictions : List Prediction)
    (predictor : Predictor) (tree : FileTree) : Prop where
  informed : Informed trees predictor
  tree : trees tree
  predictions : predictor.predictions = predictions

/-- Asking for a file learns from the trees only. -/
theorem Surveying.askFor (surveying : Surveying trees predictions predictor tree)
    (file : CompiledFile)
    : Surveying trees predictions (predictor.askFor file).2 tree := by
  obtain ⟨⟨learned, touched⟩, there, same⟩ := surveying
  rw [Predictor.askFor]
  split <;> exact ⟨⟨learned, touched⟩, there, same⟩

/-- Each step of a scan loads from the tree that it is in, and only a cache changes that one. -/
theorem Surveying.take (surveying : Surveying trees predictions predictor tree) (now : Nat)
    (step : Step)
    : Surveying trees predictions (predictor.take tree now step).2.1
        (predictor.take tree now step).2.2 := by
  have ⟨⟨learned, touched⟩, there, same⟩ := surveying
  cases step with
  | start file =>
      rw [Predictor.take]
      split
      · exact surveying
      · exact surveying.askFor file
  | lookup file =>
      rw [Predictor.take, cached]
      cases opened : predictor.cache with
      | none => exact surveying.askFor file
      | some cache =>
          have left := touched cache opened tree _ there
            (.lookup cache.collectedAt now file.path.text file.modified)
          have after : Surveying trees predictions predictor _ :=
            ⟨⟨learned, touched⟩, left, same⟩
          simp only
          split
          case h_1 looked =>
            rw [looked] at after
            exact after
          case h_2 looked =>
            rw [looked] at after
            exact after.askFor file
  | load file => exact ⟨⟨learned.insert there file, touched⟩, there, same⟩
  | store file found =>
      rw [Predictor.take, remember]
      cases opened : predictor.cache with
      | none => exact surveying
      | some cache =>
          have left := touched cache opened tree _ there
            (.store cache.collectedAt now file.path.text file.modified found)
          obtain ⟨collectedAt, stored⟩ :=
            cache.store_cache tree now file.path.text file.modified found
          refine ⟨⟨learned, ?_⟩, left, same⟩
          -- The cache that is left touches what the cache before touched.
          rintro later ⟨⟩ before after known touches
          have kept : (cache.store tree now file.path.text file.modified found).2.1.Touches
              before after := touches
          rw [stored] at kept
          exact touched cache opened before after known kept.of_collectedAt

/-- A scan as a whole does so as well. -/
theorem Surveying.discoverAll (surveying : Surveying trees predictions predictor tree) (now : Nat)
    (files : List CompiledFile)
    : Surveying trees predictions (predictor.discoverAll tree now files).2.1
        (predictor.discoverAll tree now files).2.2 := by
  have delivers : Delivers now (Surveying trees predictions) (fun _ => True) fun _ _ => True := by
    constructor
    · intro predictor tree step next after later held _ taken
      have kept := held.take now step
      rw [taken] at kept
      exact ⟨kept, trivial⟩
    · intro predictor tree step found after later held _ taken
      have kept := held.take now step
      rw [taken] at kept
      exact ⟨kept, trivial⟩
  exact (discoverAll_assembled delivers surveying fun _ _ => trivial).1

/-- Listing the files and going through them does so too, whether or not there are patterns. -/
theorem Surveying.scan (surveying : Surveying trees predictions predictor tree) (now : Nat)
    : Surveying trees predictions (predictor.scan tree now).2.1 (predictor.scan tree now).2.2 := by
  have begun (longScans : List LongScan)
      : Surveying trees predictions { predictor with longScans } tree :=
    ⟨⟨surveying.informed.learned, surveying.informed.touched⟩, surveying.tree,
      surveying.predictions⟩
  rw [Predictor.scan]
  cases predictor.options.outFiles.isEmpty with
  | true => exact surveying
  | false => exact (begun _).discoverAll now _

/-- The first question has the workspace scanned, and later ones have not. -/
theorem Surveying.prepare (surveying : Surveying trees predictions predictor tree) (now : Nat)
    : Surveying trees predictions (predictor.prepare tree now).2.1
        (predictor.prepare tree now).2.2 := by
  unfold Predictor.prepare
  split
  case h_1 => exact surveying
  case h_2 =>
    have ⟨⟨learned, touched⟩, there, same⟩ := surveying.scan now
    exact ⟨⟨learned, touched⟩, there, same⟩

/-- Asking for the map of a compiled file keeps a predictor informed. -/
theorem Informed.predictIn (informed : Informed trees predictor) (there : trees tree)
    (source : Path) (breakpoints : List SourceBreakpoint) (found : Discovery)
    : Informed trees (Predictor.predictIn source breakpoints tree predictor found) := by
  have learned := informed.learned.load there found.file
  unfold Predictor.predictIn mapOf
  cases loaded : predictor.memo.load tree found.file with
  | mk map memo =>
      rw [loaded] at learned
      cases map <;> exact ⟨learned, informed.touched⟩

/-- So does asking for several maps, by induction along the compiled files. -/
theorem Informed.foldl (informed : Informed trees predictor) (there : trees tree)
    (source : Path) (breakpoints : List SourceBreakpoint) (found : List Discovery)
    : Informed trees (found.foldl (Predictor.predictIn source breakpoints tree) predictor) := by
  induction found generalizing predictor with
  | nil => exact informed
  | cons first rest ih => exact ih (informed.predictIn there source breakpoints first)

end Predictor

end EarlyBreak
