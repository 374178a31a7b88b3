import EarlyBreak.Proofs.Prediction.Sharing

/-! Whether a cache that sessions share shows in the indexes that they build.  The key of an entry
has the path and the time of a compiled file, but not how source URLs are given paths.  So the cache
does not show where the sessions find the same for each key and time, and it does where they do not:
what the first session found is found again by the others.
-/

namespace EarlyBreak

open Cache (Holds IsFileOf Serves entryFor fileNameOf fingerprintOf)
open Predictor (discoveries)

/-- The tree that is left after some sessions, one after the other. -/
def Launch.runAll (launches : List Launch) (tree : FileTree) : FileTree :=
  launches.foldl (fun tree launch => (launch.run tree).2) tree

/-- What a session finds is all that any of some sessions finds for the same key and time. -/
def Settled (launches : List Launch) (launch : Launch) (tree : FileTree) : Prop :=
  ∀ other ∈ launches, ∀ file ∈ launch.listed tree, ∀ twin ∈ other.listed tree,
    twin.path.text = file.path.text
    → twin.modified = file.modified
    → other.finds tree twin = launch.finds tree file

variable {launches : List Launch} {launch first second : Launch} {tree made current : FileTree}
  {place : Place} {folder : Path} {predictor : Predictor} {file : CompiledFile}

/-- Sessions with one way to give source URLs paths are settled, if the paths are texts. -/
theorem settled_of_resolver (regular : tree.root.Regular)
    (same : ∀ other ∈ launches, other.resolver = launch.resolver)
    (texts : ∀ file ∈ launch.listed tree, file.path.text?.isSome = true)
    (others : ∀ other ∈ launches, ∀ file ∈ other.listed tree, file.path.text?.isSome = true)
    : Settled launches launch tree := by
  intro other among file listed twin also text _
  have path : twin.path = file.path := by
    rw [← Cache.ofString_text (others other among twin also),
      ← Cache.ofString_text (texts file listed), text]
  have inspected := Launch.inspect?_of_mem_listed regular also
  rw [path, Launch.inspect?_of_mem_listed regular listed] at inspected
  rw [Launch.finds, same other among, Option.some.inj (Except.ok.inj inspected)]
  rfl

namespace Launch

/-- What holds between sessions, over all of them. -/
theorem between_runAll (common : CommonFolder launches tree made place folder)
    {some : List Launch} (among : ∀ launch ∈ some, launch ∈ launches)
    (between : Between launches tree made place folder current)
    : Between launches tree made place folder (runAll some current) := by
  induction some generalizing current with
  | nil => exact between
  | cons launch rest ih =>
      obtain ⟨first, others⟩ := List.forall_mem_cons.mp among
      exact ih others (common.between_run first between)

section Replayed

variable {cache next : Cache} {after later : FileTree} {known : List Discovery} {map : SourceMap}

/-- A session whose only file is in its cache. -/
theorem run_of_cached (valid : Predictor.ofConfig? launch.config = .ok predictor)
    (chosen : launch.config.prediction.cacheDir = some folder)
    (opened : Cache.openAt folder {} current launch.opened.toNat = (.ok cache, after))
    (only : launch.listed after = [file])
    (found : cache.lookup after launch.scanned.toNat file.path.text file.modified
      = (some known, later))
    : launch.run current = (.ok (SourceIndex.ofDiscoveries known), later) := by
  obtain ⟨longScans, prepared⟩ :=
    launch.prepare_eq_discoverAll (some cache) after launch.scanned.toNat
  rw [only, Predictor.discoverAll_of_cached rfl found] at prepared
  obtain rfl := ofConfig?_eq valid
  simp only [run, Predictor.ofConfig, valid, chosen, opened, prepared]

/-- A session whose only file is not in its cache yet. -/
theorem run_of_stored {outcome : Except Cache.Error Unit}
    (valid : Predictor.ofConfig? launch.config = .ok predictor)
    (chosen : launch.config.prediction.cacheDir = some folder)
    (opened : Cache.openAt folder {} current launch.opened.toNat = (.ok cache, after))
    (only : launch.listed after = [file])
    (missing : (cache.lookup after launch.scanned.toNat file.path.text file.modified
        : Option (List Discovery) × FileTree) = (none, after))
    (loaded : (SourceMap.load after file).toOption = some map)
    (stored : cache.store after launch.scanned.toNat file.path.text file.modified
        (Predictor.sourcesIn launch.resolver file map) = (outcome, next, later))
    : launch.run current
      = (.ok (.ofDiscoveries (Predictor.sourcesIn launch.resolver file map)), later) := by
  obtain ⟨longScans, prepared⟩ :=
    launch.prepare_eq_discoverAll (some cache) after launch.scanned.toNat
  obtain ⟨rest, scanned⟩ : ∃ rest,
      ({ launch.predictor with cache := some cache, longScans } : Predictor).discoverAll after
          launch.scanned.toNat [file]
        = (Predictor.sourcesIn launch.resolver file map, rest, later) :=
    Predictor.discoverAll_of_stored rfl rfl missing loaded stored
  rw [only, scanned] at prepared
  obtain rfl := ofConfig?_eq valid
  simp only [run, Predictor.ofConfig, valid, chosen, opened, prepared]

/-- The first session leaves the entry of its only file, if that can be written. -/
theorem exists_file_of_run (common : CommonFolder launches tree made place folder)
    (among : launch ∈ launches) (valid : Predictor.ofConfig? launch.config = .ok predictor)
    (only : launch.listed tree = [file]) (loaded : (SourceMap.load tree file).toOption = some map)
    (succeeds : ((⟨folder, {}, launch.opened.toNat⟩ : Cache).write made launch.scanned.toNat
      file.path.text file.modified (launch.finds tree file)).1.toOption = some ())
    (prompt : launch.scanned.toNat - launch.opened.toNat < ({} : Cache.Policy).interval)
    : ∃ node,
        IsFileOf folder
          (entryFor launch.scanned.toNat file.path.text file.modified (launch.finds tree file))
          (fileNameOf (fingerprintOf file.path.text)) node
        ∧ (launch.run tree).2
          = made.fill place [(fileNameOf (fingerprintOf file.path.text), node)] := by
  have listed : file ∈ launch.listed tree := by rw [only]; exact List.mem_singleton_self file
  have serves : Serves made place ⟨folder, {}, launch.opened.toNat⟩ :=
    ⟨common.serves.bare, common.serves.accepted⟩
  have holds : Holds folder ([] : List (Cache.Saved (List Discovery))) [] := .empty folder []
  have bare := FileTree.fill_self serves.bare
  have opened := Cache.openAt_fill serves holds {} launch.opened.toNat
  rw [show Cache.swept {} launch.opened.toNat [] = [] from rfl, bare, ← common.openAt_tree]
    at opened
  have proper := Cache.proper_entryFor launch.scanned.toNat_lt
    (modified_lt_of_mem_listed common.regular listed) (faithful_finds common.regular listed)
    file.path.text
  obtain ⟨node, held, stored⟩ := Cache.store_fill serves holds proper (by rwa [bare]) prompt
  have absent : ([] : List (FileName × FileNode)).lookup
      (fileNameOf (fingerprintOf file.path.text)) = none := rfl
  have missing := Cache.lookup_of_absent serves absent launch.scanned.toNat file.modified
  have steady := common.steady launch among [] (by simp [EntryFiles])
  have finds : launch.finds tree file = Predictor.sourcesIn launch.resolver file map := by
    simp [finds, discoveries, loaded]
  rw [bare] at missing stored steady
  rw [finds] at stored
  have ran := run_of_stored valid (common.chosen launch among) opened (steady.listed.trans only)
    missing ((steady.loads listed).trans loaded) stored
  exact ⟨node, held, by rw [ran]; rfl⟩

/-- A session finds again what the session before it found for the only file that both list, however
it gives source URLs paths itself.
-/
theorem run_replays {other : Predictor} (common : CommonFolder launches tree made place folder)
    (among : first ∈ launches) (also : second ∈ launches)
    (valid : Predictor.ofConfig? first.config = .ok predictor)
    (sound : Predictor.ofConfig? second.config = .ok other)
    (only : first.listed tree = [file]) (same : second.listed tree = [file])
    (loaded : (SourceMap.load tree file).toOption = some map)
    (succeeds : ((⟨folder, {}, first.opened.toNat⟩ : Cache).write made first.scanned.toNat
      file.path.text file.modified (first.finds tree file)).1.toOption = some ())
    (prompt : first.scanned.toNat - first.opened.toNat < ({} : Cache.Policy).interval)
    (young : second.opened.toNat - first.scanned.toNat ≤ ({} : Cache.Policy).timeToLive)
    (still : second.scanned.toNat - first.scanned.toNat ≤ ({} : Cache.Policy).timeToLive)
    : (second.run (first.run tree).2).1
      = .ok (SourceIndex.ofDiscoveries (first.finds tree file)) := by
  obtain ⟨node, held, left⟩ :=
    exists_file_of_run common among valid only loaded succeeds prompt
  have serves : Serves made place ⟨folder, {}, second.opened.toNat⟩ :=
    ⟨common.serves.bare, common.serves.accepted⟩
  have holds : Holds folder _ [(_, node)] := (Holds.empty folder []).write held
  have fresh {now : Nat}
      (soon : now - first.scanned.toNat ≤ ({} : Cache.Policy).timeToLive)
      : (entryFor first.scanned.toNat file.path.text file.modified
          (first.finds tree file)).header.isExpired now ({} : Cache.Policy).timeToLive = false :=
    Cache.isExpired_eq_false.mpr soon
  have opened := Cache.openAt_fill serves holds {} second.opened.toNat
  rw [Cache.swept_singleton held (fresh young) (by decide), ← left] at opened
  have found := Cache.lookup_of_present serves holds List.lookup_cons_self held
    second.scanned.toNat file.modified
  rw [if_pos ⟨rfl, rfl⟩, if_neg (Bool.eq_false_iff.mp (fresh still)), ← left] at found
  have steady := common.steady second also _ (entryFiles_of_holds holds)
  rw [← left] at steady
  rw [run_of_cached sound (common.chosen second also) opened (steady.listed.trans same) found]
  rfl

end Replayed

/-- A map that lists `app:///a.ts`. -/
def sampleMapUrl : String :=
  "data:application/json,\x7b\x22version\x22:3,\x22sources\x22:[\x22app:///a.ts\x22],"
    ++ "\x22mappings\x22:\x22\x22\x7d"

def sampleScript : ByteArray := ("//# sourceMappingURL=" ++ sampleMapUrl).toUTF8

def sampleFile : CompiledFile := ⟨Path.ofString "/w/a.js", sampleMapUrl, 5⟩

/-- A workspace `/w` with one compiled file, and the folder `/c` with these files. -/
def sampleTree (files : List (FileName × FileNode)) : FileTree :=
  ⟨.folder
    [(Text.toBytes "c", .folder files),
     (Text.toBytes "w", .folder [(Text.toBytes "a.js", .file sampleScript 5)])], []⟩

/-- A session in `/w` with its cache in `/c`.  It takes the sources of `app:` to be in a folder. -/
def sampleLaunch (folder : String) : Launch where
  config :=
    { rootPath := Path.ofString "/w"
      outFiles := ["*.js"]
      pathOverrides := [⟨"app:///*", folder ++ "/*"⟩]
      prediction := { cacheDir := some (Path.ofString "/c") } }
  opened := 0
  scanned := 0

/-- What a session finds that takes the source to be at a path. -/
def sampleFound (source : String) : List Discovery :=
  [⟨"app:///a.ts", Path.ofString source, sampleFile⟩]

theorem inspect?_sample (files : List (FileName × FileNode))
    : OutFiles.inspect? (sampleTree files) sampleFile.path = .ok (some sampleFile) := by
  have node : (sampleTree files).node? sampleFile.path = .ok (.file sampleScript 5) := by cbv
  rw [OutFiles.inspect?, FileTree.read?, FileTree.modified?, node]
  simp only [bind, Except.bind, pure, Except.pure]
  refine congrArg Except.ok ?_
  decide +kernel

theorem listed_sample (folder : String) (files : List (FileName × FileNode))
    : (sampleLaunch folder).listed (sampleTree files) = [sampleFile] := by
  have root : OutFiles.rootNode? (sampleTree files) (Path.ofString "/w")
      = some (.folder [(Text.toBytes "a.js", .file sampleScript 5)]) := by cbv
  have patterns : OutFiles.relativePatterns (Path.ofString "/w")
      (sampleLaunch folder).config.resolvedOutFiles = ["*.js"] := by
    change OutFiles.relativePatterns (Path.ofString "/w")
      (sampleLaunch "").config.resolvedOutFiles = ["*.js"]
    decide +kernel
  have matching : (OutFiles.ofPatterns ["*.js"]).toOption.map (fun out =>
      OutFiles.filesAt out [] (.folder [(Text.toBytes "a.js", .file sampleScript 5)]))
      = some [[Text.toBytes "a.js"]] := by decide +kernel
  obtain ⟨out, read, walked⟩ := Option.map_eq_some_iff.mp matching
  have path : OutFiles.pathBelow (Path.ofString "/w") [Text.toBytes "a.js"] = sampleFile.path := by
    decide +kernel
  have options : PredictorOptions.ofConfig (sampleLaunch folder).config
      = ⟨Path.ofString "/w", ["*.js"], 10000, 16⟩ := by
    rw [← patterns]
    rfl
  simp [listed, options, Repository.folders, read, OutFiles.scan, root, walked, path,
    inspect?_sample]

theorem load_sample (tree : FileTree)
    : SourceMap.load tree sampleFile = SourceMap.load .empty sampleFile := by
  have inUrl : SourceMap.isDataUrl sampleFile.mapUrl = true := by decide +kernel
  rw [SourceMap.load, SourceMap.load, if_pos inUrl, if_pos inUrl]

theorem finds_sample (tree : FileTree)
    : (sampleLaunch "/x").finds tree sampleFile = sampleFound "/x/a.ts"
      ∧ (sampleLaunch "/y").finds tree sampleFile = sampleFound "/y/a.ts" := by
  rw [finds, finds, discoveries, discoveries, load_sample]
  decide +kernel

theorem regular_sample
    : (sampleTree []).root.Regular := by
  have plain : Path.IsPlain (Text.toBytes "c") ∧ Path.IsPlain (Text.toBytes "w")
      ∧ Path.IsPlain (Text.toBytes "a.js") :=
    ⟨⟨by decide, by decide, by decide, by decide⟩, ⟨by decide, by decide, by decide, by decide⟩,
      ⟨by decide, by decide, by decide, by decide⟩⟩
  have script : FileNode.Regular (.file sampleScript 5) := .file (by decide)
  refine .folder (by simp [plain]) ?_
  simp only [List.forall_mem_cons, List.not_mem_nil, false_implies, implies_true, and_true]
  exact ⟨.folder (by simp) (by simp), .folder (by simp [plain]) (by simpa using script)⟩

/-- Any sessions in the workspace share the folder for their caches. -/
theorem commonFolder_sample (folders : List String)
    : CommonFolder (folders.map sampleLaunch) (sampleTree []) (sampleTree []) [Text.toBytes "c"]
        (Path.ofString "/c") := by
  have empty : (sampleTree []).find? true (Path.ofString "/c")
      = .ok ([Text.toBytes "c"], .folder []) := by cbv
  obtain ⟨accepted, bare⟩ := FileTree.leadsTo_of_find? empty
  obtain ⟨outcome, makes, allowed⟩ := bare.makeFolders_eq
  obtain rfl := allowed.mpr accepted
  refine ⟨regular_sample, makes, empty, ?_, ?_⟩
  · intro launch member
    obtain ⟨folder, _, rfl⟩ := List.mem_map.mp member
    rfl
  · intro launch member files _
    obtain ⟨folder, _, rfl⟩ := List.mem_map.mp member
    have filled : (sampleTree []).fill [Text.toBytes "c"] files = sampleTree files := by rfl
    rw [filled]
    refine ⟨by rw [listed_sample, listed_sample], ?_⟩
    intro file listed
    rw [listed_sample, List.mem_singleton] at listed
    rw [listed, load_sample, load_sample (sampleTree [])]

theorem valid_sample
    : (∃ predictor, Predictor.ofConfig? (sampleLaunch "/x").config = .ok predictor)
      ∧ ∃ predictor, Predictor.ofConfig? (sampleLaunch "/y").config = .ok predictor := by
  have accepted : (Predictor.ofConfig? (sampleLaunch "/x").config).toOption.isSome = true
      ∧ (Predictor.ofConfig? (sampleLaunch "/y").config).toOption.isSome = true := by
    decide +kernel
  have given {outcome : Except PredictorError Predictor} (some : outcome.toOption.isSome = true)
      : ∃ predictor, outcome = .ok predictor := by
    cases outcome with
    | error e => cases some
    | ok predictor => exact ⟨predictor, rfl⟩
  exact ⟨given accepted.1, given accepted.2⟩

theorem write_found_sample
    : ((⟨Path.ofString "/c", {}, 0⟩ : Cache).write (sampleTree []) 0 sampleFile.path.text
        sampleFile.modified (sampleFound "/x/a.ts")).1.toOption = some () := by
  have fingerprint : fingerprintOf sampleFile.path.text
      = "18c06081806eca826afd6a945373060b2101565c45dc75371a3f26395ff00bf6" := by
    decide +kernel
  have replaced (bytes : ByteArray) : ((sampleTree []).replace
      ((⟨Path.ofString "/c", {}, 0⟩ : Cache).entryPath
        "18c06081806eca826afd6a945373060b2101565c45dc75371a3f26395ff00bf6") bytes
        (0 : Nat)).1.toOption = some () := by cbv
  rw [← fingerprint] at replaced
  exact Cache.write_succeeds (by decide +kernel) replaced

/-- After any sessions that share the folder of its cache, a session builds the index that it builds
without a cache, if it finds what they find.
-/
theorem run_agrees (common : CommonFolder (launch :: launches) tree made place folder)
    (valid : Predictor.ofConfig? launch.config = .ok predictor)
    (settled : Settled (launch :: launches) launch tree)
    : let current := runAll launches tree
      ∃ index other,
        (launch.run current).1 = .ok index
        ∧ (launch.withoutCache.run current).1 = .ok other
        ∧ index.Agrees other := by
  have among : launch ∈ launch :: launches := List.mem_cons_self
  have between := between_runAll common
    (fun other member => List.mem_cons_of_mem launch member) .untouched
  obtain ⟨found, ran, _, all⟩ := common.run_assembled among valid between
  obtain ⟨others, alone, same⟩ :=
    withoutCache_run_of_ok common.regular valid (common.steady_between among between)
  refine ⟨_, _, ran, alone, SourceIndex.agrees_of_perm ((all.perm ?_).trans same.symm)⟩
  rintro file listed _ ⟨other, member, twin, also, text, time, rfl⟩
  exact settled other member file listed twin also text time

/-- Two sessions with the same rules. -/
theorem run_agrees_sample
    : CommonFolder [sampleLaunch "/x", sampleLaunch "/x"] (sampleTree []) (sampleTree [])
        [Text.toBytes "c"] (Path.ofString "/c")
      ∧ (∃ predictor, Predictor.ofConfig? (sampleLaunch "/x").config = .ok predictor)
      ∧ Settled [sampleLaunch "/x", sampleLaunch "/x"] (sampleLaunch "/x") (sampleTree [])
      ∧ let current := runAll [sampleLaunch "/x"] (sampleTree [])
        ∃ index other,
          ((sampleLaunch "/x").run current).1 = .ok index
          ∧ ((sampleLaunch "/x").withoutCache.run current).1 = .ok other
          ∧ index.Agrees other := by
  have common := commonFolder_sample ["/x", "/x"]
  obtain ⟨predictor, valid⟩ := valid_sample.1
  have settled : Settled [sampleLaunch "/x", sampleLaunch "/x"] (sampleLaunch "/x")
      (sampleTree []) := by
    have text : ∀ file ∈ (sampleLaunch "/x").listed (sampleTree []),
        file.path.text?.isSome = true := by
      rw [listed_sample]
      decide
    exact settled_of_resolver regular_sample (by simp) text (by simpa using text)
  exact ⟨common, ⟨predictor, valid⟩, settled, run_agrees common valid settled⟩

/-- Two sessions with different rules: with the cache, the second one finds the source where the
first one takes it to be.
-/
theorem run_disagrees_sample
    : CommonFolder [sampleLaunch "/y", sampleLaunch "/x"] (sampleTree []) (sampleTree [])
        [Text.toBytes "c"] (Path.ofString "/c")
      ∧ (∃ predictor, Predictor.ofConfig? (sampleLaunch "/x").config = .ok predictor)
      ∧ (∃ predictor, Predictor.ofConfig? (sampleLaunch "/y").config = .ok predictor)
      ∧ let current := runAll [sampleLaunch "/x"] (sampleTree [])
        ∃ index other,
          ((sampleLaunch "/y").run current).1 = .ok index
          ∧ ((sampleLaunch "/y").withoutCache.run current).1 = .ok other
          ∧ ¬ index.Agrees other := by
  have common := commonFolder_sample ["/y", "/x"]
  obtain ⟨⟨predictor, valid⟩, other, sound⟩ := valid_sample
  have among : sampleLaunch "/x" ∈ ["/y", "/x"].map sampleLaunch := by simp
  have also : sampleLaunch "/y" ∈ ["/y", "/x"].map sampleLaunch := List.mem_cons_self
  have loads : (SourceMap.load (sampleTree []) sampleFile).toOption.isSome = true := by
    rw [load_sample]
    decide +kernel
  obtain ⟨map, loaded⟩ := Option.isSome_iff_exists.mp loads
  have finds := finds_sample (sampleTree [])
  have replayed := run_replays common among also valid sound (listed_sample _ _)
    (listed_sample _ _) loaded (by rw [finds.1]; exact write_found_sample) (by decide) (by decide)
    (by decide)
  have between := common.between_run among .untouched
  obtain ⟨found, alone, same⟩ :=
    withoutCache_run_of_ok common.regular sound (common.steady_between also between)
  refine ⟨common, ⟨predictor, valid⟩, ⟨other, sound⟩, _, _, replayed, alone, fun agrees => ?_⟩
  obtain rfl : found = sampleFound "/y/a.ts" := by
    rw [listed_sample, List.flatMap_singleton, finds.2] at same
    exact List.perm_singleton.mp same
  -- The source of the first session's rules is known with the cache only.
  have known : (SourceIndex.ofDiscoveries (sampleFound "/x/a.ts")).get (Path.ofString "/x/a.ts")
      = sampleFound "/x/a.ts" := by decide +kernel
  have unknown : (SourceIndex.ofDiscoveries (sampleFound "/y/a.ts")).get (Path.ofString "/x/a.ts")
      = [] := by decide +kernel
  rw [finds.1] at agrees
  obtain ⟨twin, listed, _⟩ := agrees.listed (by rw [known]; exact List.mem_singleton_self _)
  rw [unknown] at listed
  cases listed

end Launch

end EarlyBreak
