import EarlyBreak.Proofs.Cache.History
import EarlyBreak.Proofs.Prediction.Launches

/-! Sessions that share the folder of a cache, one after the other.  Whatever a later session has
from the cache is what one of them finds for a file of that key and time.
-/

namespace EarlyBreak

open Cache (Usage Holds Serves entriesOf)
open Predictor (Assembled Backing discoveries)

/-- Files with the names of entries of a cache. -/
def EntryFiles (files : List (FileName × FileNode)) : Prop :=
  ∀ entry ∈ files, entry.2.isFile = true ∧ ∃ fingerprint, entry.1 = Cache.fileNameOf fingerprint

/-- Several sessions keep their caches in one folder of a tree.  Once it is made, it is empty, and
whatever entries it gets, the workspaces of the sessions stay as they are.
-/
structure CommonFolder (launches : List Launch) (tree made : FileTree) (place : Place)
    (folder : Path) : Prop where
  regular : tree.root.Regular
  makes : tree.makeFolders folder = (.ok (), made)
  empty : made.find? true folder = .ok (place, .folder [])
  chosen : ∀ launch ∈ launches, launch.config.prediction.cacheDir = some folder
  steady : ∀ launch ∈ launches, ∀ files, EntryFiles files
    → launch.Steady tree (made.fill place files)

/-- One of several sessions finds these discoveries for a file of a key and time. -/
def Finding (launches : List Launch) (tree : FileTree) (key : String) (modified : Nat)
    (found : List Discovery) : Prop :=
  ∃ launch ∈ launches, ∃ file ∈ launch.listed tree,
    file.path.text = key ∧ file.modified = modified ∧ found = launch.finds tree file

/-- The folder of a cache holds nothing but what some sessions find. -/
def Shared (launches : List Launch) (tree made : FileTree) (place : Place) (folder : Path)
    (cache : Cache) (current : FileTree) : Prop :=
  ∃ past files,
    (⟨cache, current, past⟩ : Usage (List Discovery)).Tracks ⟨folder, {}, 0⟩ made place files
    ∧ ∀ entry ∈ entriesOf past,
        Finding launches tree entry.header.key entry.modified entry.value

/-- What there is before and after each session: the tree as it was, or one in which the folder is
made and holds nothing but what the sessions find.
-/
inductive Between (launches : List Launch) (tree made : FileTree) (place : Place) (folder : Path) :
    FileTree → Prop where
  | untouched
      : Between launches tree made place folder tree
  | shared {cache current}
      : Shared launches tree made place folder cache current
        → Between launches tree made place folder current

variable {launches : List Launch} {launch : Launch} {tree made current : FileTree} {place : Place}
  {folder : Path} {cache : Cache} {now : UInt64} {predictor : Predictor}

/-- A folder that holds entries has files of entries only. -/
theorem entryFiles_of_holds {α : Type} [Cache.Storable α] {root : Path}
    {written : List (Cache.Saved α)} {files : List (FileName × FileNode)}
    (holds : Holds root written files)
    : EntryFiles files := by
  rintro ⟨name, node⟩ member
  obtain ⟨entry, _, held⟩ := holds.latest_of_mem member
  exact ⟨holds.onlyFiles _ member, _, held.named⟩

theorem file_of_mem_finds {file : CompiledFile} {discovery : Discovery}
    (found : discovery ∈ launch.finds tree file)
    : discovery.file = file := by
  rw [Launch.finds, discoveries] at found
  cases loaded : (SourceMap.load tree file).toOption with
  | none => simp [loaded] at found
  | some map =>
      rw [loaded] at found
      obtain ⟨url, _, resolved⟩ := List.mem_filterMap.mp found
      obtain ⟨path, _, rfl⟩ := Option.map_eq_some_iff.mp resolved
      rfl

/-- What a session finds can be stored and read again. -/
theorem faithful_finds {file : CompiledFile} (regular : tree.root.Regular)
    (listed : file ∈ launch.listed tree)
    : Cache.Faithful (launch.finds tree file) := by
  refine Cache.faithful_discoveries fun discovery found => ?_
  rw [file_of_mem_finds found]
  exact Launch.modified_lt_of_mem_listed regular listed

namespace CommonFolder

theorem serves (common : CommonFolder launches tree made place folder)
    : Serves made place ⟨folder, {}, 0⟩ := by
  obtain ⟨accepted, bare⟩ := FileTree.leadsTo_of_find? common.empty
  exact ⟨bare, accepted⟩

/-- A workspace is the same before and after each session. -/
theorem steady_between (common : CommonFolder launches tree made place folder)
    (among : launch ∈ launches) (between : Between launches tree made place folder current)
    : launch.Steady tree current := by
  cases between with
  | untouched => exact ⟨rfl, fun _ => rfl⟩
  | shared shared =>
      obtain ⟨past, files, tracks, _⟩ := shared
      obtain rfl : current = made.fill place files := tracks.filled
      exact common.steady launch among files (entryFiles_of_holds tracks.holds)

/-- A scan with the cache brings to light what one of the sessions finds. -/
theorem backing (common : CommonFolder launches tree made place folder)
    (among : launch ∈ launches) (valid : Predictor.ofConfig? launch.config = .ok predictor)
    (now : UInt64)
    : Backing now.toNat tree (launch.listed tree) launch.resolver
        (fun file found => Finding launches tree file.path.text file.modified found)
        (fun cache current => ∃ opened, cache = some opened
          ∧ Shared launches tree made place folder opened current) := by
  have serves := common.serves
  have word {file : CompiledFile} (listed : file ∈ launch.listed tree)
      : (UInt64.ofNat file.modified).toNat = file.modified :=
    UInt64.toNat_ofNat_of_lt' (Launch.modified_lt_of_mem_listed common.regular listed)
  refine ⟨Launch.alike_listed common.regular valid, ?_, ?_, ?_, ?_⟩
  · rintro cache current file ⟨opened, rfl, shared⟩ listed
    exact (common.steady_between among (.shared shared)).loads listed
  · rintro cache current file found after ⟨_, ⟨⟩, past, files, tracks, known⟩ listed looked
    obtain ⟨files', next⟩ := tracks.call serves now
      (.lookup file.path.text (UInt64.ofNat file.modified)) (by rintro _ _ _ ⟨⟩)
    simp only [Usage.call, word listed, looked] at next
    refine ⟨⟨cache, rfl, _, files', next, known⟩, ?_⟩
    rintro known' rfl
    obtain ⟨entry, last, key, modified, value, _⟩ :=
      tracks.of_lookup_eq_some serves (congrArg Prod.fst looked)
    have finding := known entry (List.mem_of_find?_eq_some last)
    rwa [key, modified, value] at finding
  · rintro cache current file outcome next after ⟨_, ⟨⟩, past, files, tracks, known⟩ listed kept
    obtain ⟨files', still⟩ := tracks.call serves now
      (.store file.path.text (UInt64.ofNat file.modified) (launch.finds tree file))
      (by rintro _ _ _ ⟨⟩; exact faithful_finds common.regular listed)
    simp only [Usage.call, word listed] at still
    rw [Launch.finds, kept] at still
    cases outcome with
    | error e => exact ⟨next, rfl, _, files', still, known⟩
    | ok =>
        refine ⟨next, rfl, _, files', still, ?_⟩
        intro entry stored
        rcases List.mem_cons.mp stored with rfl | old
        · exact ⟨launch, among, file, listed, rfl, rfl, rfl⟩
        · exact known entry old
  · intro file listed
    exact ⟨launch, among, file, listed, rfl, rfl, rfl⟩

/-- The first session to open the cache finds the folder as if it had been made before. -/
theorem openAt_tree (common : CommonFolder launches tree made place folder) (now : Nat)
    : Cache.openAt folder {} tree now = Cache.openAt folder {} made now := by
  obtain ⟨outcome, again, accepted⟩ := common.serves.bare.makeFolders_eq
  obtain rfl := accepted.mpr common.serves.accepted
  simp only [Cache.openAt, common.makes, again]

/-- Each session can open the cache. -/
theorem opens (common : CommonFolder launches tree made place folder)
    (between : Between launches tree made place folder current) (now : UInt64)
    : ∃ cache after,
        Cache.openAt folder {} current now.toNat = (.ok cache, after)
        ∧ Shared launches tree made place folder cache after := by
  have serves := common.serves
  have reopened {cache : Cache} {current : FileTree}
      (shared : Shared launches tree made place folder cache current) :
      ∃ cache after,
        Cache.openAt folder {} current now.toNat = (.ok cache, after)
        ∧ Shared launches tree made place folder cache after := by
    obtain ⟨past, files, tracks, known⟩ := shared
    obtain ⟨collectedAt, rfl⟩ : ∃ collectedAt, cache = ⟨folder, {}, collectedAt⟩ := tracks.cache
    obtain rfl : current = made.fill place files := tracks.filled
    have outcome := Cache.openAt_fill serves tracks.holds {} now.toNat
    obtain ⟨files', next⟩ := tracks.call serves now .reopen (by rintro _ _ _ ⟨⟩)
    simp only [Usage.call, outcome] at next
    exact ⟨_, _, outcome, _, files', next, known⟩
  cases between with
  | untouched =>
      rw [common.openAt_tree]
      exact reopened ⟨[], [], serves.tracks_nil, by simp [entriesOf]⟩
  | shared shared => exact reopened shared

/-- The index of a session is made of what the sessions find. -/
theorem run_assembled (common : CommonFolder launches tree made place folder)
    (among : launch ∈ launches) (valid : Predictor.ofConfig? launch.config = .ok predictor)
    (between : Between launches tree made place folder current)
    : ∃ found,
        (launch.run current).1 = .ok (SourceIndex.ofDiscoveries found)
        ∧ Between launches tree made place folder (launch.run current).2
        ∧ Assembled (fun file found => Finding launches tree file.path.text file.modified found)
            (launch.listed tree) found := by
  obtain ⟨cache, opened, outcome, shared⟩ := common.opens between launch.opened
  have backing := common.backing among valid launch.scanned
  have listed := (common.steady_between among (.shared shared)).listed
  rw [← listed] at backing
  obtain ⟨found, rest, after, prepared, ⟨_, _, still⟩, all⟩ :=
    Launch.prepare_brings backing ⟨cache, rfl, shared⟩
  obtain rfl := Launch.ofConfig?_eq valid
  have ran : launch.run current = (.ok (SourceIndex.ofDiscoveries found), after) := by
    simp only [Launch.run, Predictor.ofConfig, valid, common.chosen launch among, outcome, prepared]
  rw [ran]
  exact ⟨found, rfl, .shared still, listed ▸ all⟩

/-- A run leaves the tree in between, also if its configuration is refused. -/
theorem between_run (common : CommonFolder launches tree made place folder)
    (among : launch ∈ launches) (between : Between launches tree made place folder current)
    : Between launches tree made place folder (launch.run current).2 := by
  cases checked : Predictor.ofConfig? launch.config with
  | ok predictor =>
      obtain ⟨_, _, after, _⟩ := common.run_assembled among checked between
      exact after
  | error e =>
      have ran : launch.run current = (.error e, current) := by
        simp only [Launch.run, Predictor.ofConfig, checked]
      rw [ran]
      exact between

end CommonFolder

end EarlyBreak
