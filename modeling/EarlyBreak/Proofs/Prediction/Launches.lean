import EarlyBreak.Prediction.Predictor
import EarlyBreak.Proofs.OutFiles.Listing
import EarlyBreak.Proofs.Prediction.Delivery
import EarlyBreak.Proofs.Prediction.SourceIndex

/-! Sessions that scan their workspace, and the indexes that they build.  Without a cache, an index
is made of what the maps of the listed files list.
-/

namespace EarlyBreak

open Predictor (Assembled Backing discoveries)

/-- A session that scans its workspace: its configuration, and the clock at its start and when it
scans.
-/
structure Launch where
  config : LaunchConfig
  opened : UInt64
  scanned : UInt64

namespace Launch

/-- The same session without a cache. -/
def withoutCache (launch : Launch) : Launch :=
  { launch with
    config := { launch.config with
      prediction := { launch.config.prediction with cacheDir := none } } }

/-- The index that a session builds, and the tree that it leaves. -/
def run (launch : Launch) (tree : FileTree) : Except PredictorError SourceIndex × FileTree :=
  match Predictor.ofConfig launch.config tree launch.opened.toNat with
  | (.error e, tree) => (.error e, tree)
  | (.ok predictor, tree) =>
      let (index, _, tree) := predictor.prepare tree launch.scanned.toNat
      (.ok index, tree)

/-- How a session gives source URLs paths. -/
def resolver (launch : Launch) : SourceResolver :=
  if launch.config.pathOverrides.isEmpty then .fileUrls
  else .ofOverrides launch.config.rootPath launch.config.resolvedOverrides

/-- The compiled files that a session lists. -/
def listed (launch : Launch) (tree : FileTree) : List CompiledFile :=
  let options := PredictorOptions.ofConfig launch.config
  if options.outFiles.isEmpty then []
  else (Repository.folders.list? tree options.rootPath options.outFiles).getD []

/-- What a session finds for a compiled file without a cache. -/
def finds (launch : Launch) (tree : FileTree) (file : CompiledFile) : List Discovery :=
  discoveries launch.resolver tree file

/-- The predictor of a session before it opens a cache. -/
def predictor (launch : Launch) : Predictor where
  options := .ofConfig launch.config
  repository := .folders
  resolver := launch.resolver

variable {launch : Launch} {current workspace : FileTree} {now : Nat} {cache : Option Cache}
  {brings : CompiledFile → List Discovery → Prop} {state : Option Cache → FileTree → Prop}
  {file : CompiledFile} {predictor : Predictor}

theorem ofConfig?_eq (valid : Predictor.ofConfig? launch.config = .ok predictor)
    : predictor = launch.predictor := by
  rw [Predictor.ofConfig?] at valid
  cases checked : launch.config.validate with
  | error e => rw [checked] at valid; cases valid
  | ok =>
      cases read : OutFiles.ofPatterns (PredictorOptions.ofConfig launch.config).outFiles with
      | error e =>
          simp only [checked, read, Except.mapError, bind, Except.bind] at valid
          cases valid
      | ok patterns =>
          simp only [checked, read, Except.mapError, bind, Except.bind, pure, Except.pure,
            Except.ok.injEq] at valid
          exact valid.symm

theorem rootPath_of_valid (valid : Predictor.ofConfig? launch.config = .ok predictor)
    : launch.config.rootPath.bytes ≠ [] := by
  intro empty
  simp [Predictor.ofConfig?, LaunchConfig.validate, empty, bind, Except.bind, throw, throwThe,
    MonadExceptOf.throw, Except.mapError] at valid

/-- What a launch lists is a scan of its root, or nothing. -/
theorem listed_eq_scan (launch : Launch) (tree : FileTree)
    : launch.listed tree = []
      ∨ ∃ out, launch.listed tree = OutFiles.scan tree launch.config.rootPath out := by
  rw [listed]
  split
  · exact .inl rfl
  · simp only [Repository.folders]
    cases OutFiles.ofPatterns (PredictorOptions.ofConfig launch.config).outFiles with
    | error e => exact .inl rfl
    | ok out => exact .inr ⟨out, rfl⟩

/-- A listed file is seen again when it is inspected. -/
theorem inspect?_of_mem_listed (regular : workspace.root.Regular)
    (listed : file ∈ launch.listed workspace)
    : OutFiles.inspect? workspace file.path = .ok (some file) := by
  rcases launch.listed_eq_scan workspace with nothing | ⟨out, same⟩
  · rw [nothing] at listed
    cases listed
  · rw [same] at listed
    exact (OutFiles.mem_scan regular listed).1

/-- The time of a listed file fits a word. -/
theorem modified_lt_of_mem_listed (regular : workspace.root.Regular)
    (listed : file ∈ launch.listed workspace)
    : file.modified < 2 ^ 64 := by
  rcases launch.listed_eq_scan workspace with nothing | ⟨out, same⟩
  · rw [nothing] at listed
    cases listed
  · rw [same] at listed
    exact OutFiles.modified_lt_of_mem_scan regular listed

/-- No two listed files share a place in the memo. -/
theorem alike_listed (regular : workspace.root.Regular)
    (valid : Predictor.ofConfig? launch.config = .ok predictor)
    : SourceMap.Memo.Alike workspace (launch.listed workspace) := by
  intro file twin listed also components _
  rcases launch.listed_eq_scan workspace with nothing | ⟨out, same⟩
  · rw [nothing] at listed
    cases listed
  · rw [same] at listed also
    rw [OutFiles.eq_of_mem_scan regular (rootPath_of_valid valid) listed also components]

/-- A session scans the files that it lists, and makes an index of what that brings to light. -/
theorem prepare_eq_discoverAll (launch : Launch) (cache : Option Cache) (current : FileTree)
    (now : Nat)
    : ∃ longScans,
        let outcome := ({ launch.predictor with cache, longScans } : Predictor).discoverAll current
          now (launch.listed current)
        let index := SourceIndex.ofDiscoveries outcome.1
        ({ launch.predictor with cache } : Predictor).prepare current now
          = (index, { outcome.2.1 with index := some index }, outcome.2.2) := by
  by_cases none : (PredictorOptions.ofConfig launch.config).outFiles.isEmpty = true
  · refine ⟨[], ?_⟩
    simp [Predictor.prepare, Predictor.scan, predictor, none, listed, Predictor.discoverAll,
      Predictor.runSteps]
  · refine ⟨Predictor.longScansOf (.ofConfig launch.config) Repository.folders.duration, ?_⟩
    simp [Predictor.prepare, Predictor.scan, predictor, none, listed]

/-- The index of a session is made of what its files bring to light. -/
theorem prepare_brings
    (backing : Backing now workspace (launch.listed current) launch.resolver brings state)
    (held : state cache current)
    : ∃ found predictor after,
        ({ launch.predictor with cache } : Predictor).prepare current now
          = (SourceIndex.ofDiscoveries found, predictor, after)
        ∧ state predictor.cache after
        ∧ Assembled brings (launch.listed current) found := by
  obtain ⟨longScans, prepared⟩ := launch.prepare_eq_discoverAll cache current now
  have scanning : Predictor.Scanning workspace (launch.listed current) launch.resolver state
      { launch.predictor with cache, longScans } current :=
    ⟨rfl, held, SourceMap.Memo.knows_empty _ _⟩
  obtain ⟨still, all⟩ := Predictor.discoverAll_brings backing scanning
  exact ⟨_, _, _, prepared, still, all⟩

/-- A tree has the workspace of a session just as another tree has it. -/
structure Steady (launch : Launch) (workspace current : FileTree) : Prop where
  listed : launch.listed current = launch.listed workspace
  loads : ∀ {file}, file ∈ launch.listed workspace
    → (SourceMap.load current file).toOption = (SourceMap.load workspace file).toOption

/-- Without a cache, an index is made of what the maps of the listed files list. -/
theorem withoutCache_run_of_ok (regular : workspace.root.Regular)
    (valid : Predictor.ofConfig? launch.config = .ok predictor)
    (steady : launch.Steady workspace current)
    : ∃ found,
        (launch.withoutCache.run current).1 = .ok (SourceIndex.ofDiscoveries found)
        ∧ found.Perm ((launch.listed workspace).flatMap (launch.finds workspace)) := by
  obtain rfl := ofConfig?_eq valid
  have same : Predictor.ofConfig? launch.withoutCache.config = .ok launch.predictor := valid
  have backing : Backing launch.scanned.toNat workspace (launch.listed current) launch.resolver
      (fun file found => found = launch.finds workspace file)
      (fun cache tree => cache = none ∧ tree = current) := by
    rw [steady.listed]
    refine ⟨alike_listed regular valid, ?_, ?_, ?_, fun _ => rfl⟩
    · rintro _ _ file ⟨_, rfl⟩ member
      exact steady.loads member
    · rintro _ _ _ _ _ ⟨never, _⟩
      cases never
    · rintro _ _ _ _ _ _ ⟨never, _⟩
      cases never
  obtain ⟨found, rest, after, prepared, _, all⟩ := prepare_brings backing ⟨rfl, rfl⟩
  refine ⟨found, ?_, ?_⟩
  · have fresh : ({ launch.predictor with cache := none } : Predictor) = launch.predictor := rfl
    rw [fresh] at prepared
    have noCache : launch.withoutCache.config.prediction.cacheDir = none := rfl
    have clock : launch.withoutCache.scanned = launch.scanned := rfl
    simp only [run, Predictor.ofConfig, same, noCache, clock, prepared]
  · rw [steady.listed] at all
    exact all.perm fun _ _ _ brought => brought

end Launch

end EarlyBreak
