import EarlyBreak.CommandLine.Run
import EarlyBreak.Proofs.Config.Printed
import EarlyBreak.Proofs.Prediction.Launches
import EarlyBreak.Proofs.Prediction.Repetition

/-! What the report on several breakpoints says about each of them.  Breakpoints at other places
make no difference; one at the same place has its compiled places listed once more.
-/

namespace EarlyBreak.CommandLine

open Predictor (Ask Unambiguous placesAt)

variable {predictor : Predictor} {tree after : FileTree} {now i : Nat} {index : SourceIndex}
  {spec : BreakpointSpec} {specs : List BreakpointSpec} {asks : List Ask} {config : LaunchConfig}
  {path : Path} {texts : List String} {report : Report}

-----------------------------------------------------------------------------------------
-- Requests for single breakpoints
-----------------------------------------------------------------------------------------

/-- The request for a breakpoint, as it is made in a tree. -/
def BreakpointSpec.ask (tree : FileTree) (now : Nat) (spec : BreakpointSpec) : Ask :=
  ⟨tree, now, spec.request⟩

theorem same_refl (location : FileLocation) : location.same location = true := by
  simp [FileLocation.same, Path.same]

/-- Once the workspace was scanned, predicting leaves the tree as it is. -/
theorem tree_predict (scanned : predictor.index = some index) (tree : FileTree) (now : Nat)
    (request : BreakpointRequest)
    : (predictor.predict tree now request).2 = tree := by
  unfold Predictor.predict
  cases request.path with
  | none => rfl
  | some source => simp only [Predictor.prepare, scanned]

/-- A breakpoint is reported with what is predicted for its place, once it was asked for. -/
theorem getElem?_predictEach (scanned : predictor.index = some index)
    (specs : List BreakpointSpec) (i : Nat)
    : (predictEach now specs predictor tree)[i]?
      = specs[i]?.map fun spec =>
          ⟨spec.location,
            (predictor.askAll ((specs.take (i + 1)).map (·.ask tree now))).predicted
              spec.location⟩ := by
  induction specs generalizing predictor i with
  | nil => rfl
  | cons spec rest ih =>
      have still := tree_predict scanned tree now spec.request
      have first : (predictor.predict tree now spec.request).1
          = predictor.ask (spec.ask tree now) := rfl
      rw [predictEach]
      simp only [still, first]
      cases i with
      | zero => rfl
      | succ i => exact ih (Predictor.index_ask scanned _) i

/-- The compiled places of a breakpoint that was asked for do not depend on the other requests. -/
theorem placesAt_askAll (scanned : predictor.index = some index)
    (unambiguous : Unambiguous index predictor.memo tree) (there : ∀ ask ∈ asks, ask.tree = tree)
    (asked : spec.ask tree now ∈ asks)
    : placesAt index (predictor.askAll asks).memo spec.location
      = placesAt index (predictor.askAll [spec.ask tree now]).memo spec.location := by
  have alone : ∀ ask ∈ [spec.ask tree now], ask.tree = tree := List.forall_mem_singleton.mpr rfl
  refine List.flatMap_congr fun found listed => ?_
  have among : found ∈ asks.flatMap (Predictor.foundFor index ·.request) :=
    List.mem_flatMap.mpr ⟨_, asked, listed⟩
  have single : found ∈ [spec.ask tree now].flatMap (Predictor.foundFor index ·.request) :=
    List.mem_flatMap.mpr ⟨_, List.mem_singleton_self _, listed⟩
  rw [Predictor.find?_askAll_of_unambiguous scanned unambiguous there among,
    Predictor.find?_askAll_of_unambiguous scanned unambiguous alone single]

/-- One copy of a list for each element that passes is as many copies as elements pass. -/
theorem flatMap_ite_eq {α β : Type} (passes : α → Bool) (xs : List α) (ys : List β)
    : (xs.flatMap fun x => if passes x then ys else [])
      = (List.replicate (xs.countP passes) ys).flatten := by
  induction xs with
  | nil => rfl
  | cons x xs ih =>
      rw [List.flatMap_cons, ih]
      cases passed : passes x <;> simp [passed, List.replicate_succ]

/-- A place has its compiled places once for each request of it. -/
theorem predicted_askAll_specs (scanned : predictor.index = some index)
    (new : predictor.predictions = []) (tree : FileTree) (now : Nat) (specs : List BreakpointSpec)
    (location : FileLocation)
    : let final := predictor.askAll (specs.map (·.ask tree now))
      final.predicted location
        = (List.replicate (specs.countP (·.location.same location))
            (placesAt index final.memo location)).flatten := by
  intro final
  have before : predictor.predicted location = [] := by
    rw [Predictor.predicted, new]
    rfl
  have single (spec : BreakpointSpec)
      : (Predictor.lookupsOf index final.memo location (spec.ask tree now).request).filterMap
          (Predictor.placeOf? location)
        = if spec.location.same location then placesAt index final.memo location else [] :=
    Predictor.lookups_single index final.memo location spec.path spec.breakpoint
  rw [Predictor.predicted_askAll scanned, before, List.nil_append, List.flatMap_map,
    ← flatMap_ite_eq]
  exact List.flatMap_congr fun spec _ => single spec

/-- The entries of a report stand at the places that were asked for, in order. -/
theorem map_source_predictEach (now : Nat) (specs : List BreakpointSpec) (predictor : Predictor)
    (tree : FileTree)
    : (predictEach now specs predictor tree).map (·.source) = specs.map (·.location) := by
  induction specs generalizing predictor tree with
  | nil => rfl
  | cons spec rest ih => exact congrArg (spec.location :: ·) (ih _ _)

/-- Each breakpoint has the compiled places that it has on its own, once for each breakpoint up to
itself that is at the same place.
-/
theorem predictEach_alone (scanned : predictor.index = some index)
    (new : predictor.predictions = []) (unambiguous : Unambiguous index predictor.memo tree)
    (inside : specs[i]? = some spec)
    : let entries := predictEach now specs predictor tree
      ∃ alone,
        predictEach now [spec] predictor tree = [⟨spec.location, alone⟩]
        ∧ entries[i]?
          = some ⟨spec.location,
              (List.replicate ((entries.take (i + 1)).countP (·.source.same spec.location))
                alone).flatten⟩ := by
  intro entries
  refine ⟨placesAt index (predictor.askAll [spec.ask tree now]).memo spec.location, ?_, ?_⟩
  · have single := predicted_askAll_specs scanned new tree now [spec] spec.location
    simp only [List.countP_singleton, same_refl, if_true, List.replicate_one,
      List.flatten_singleton] at single
    exact congrArg (fun compiled => [PredictedBreakpoint.mk spec.location compiled]) single
  · have among : spec ∈ specs.take (i + 1) := by
      refine List.mem_of_getElem? (i := i) ?_
      rw [List.getElem?_take_of_lt (Nat.lt_succ_self i), inside]
    have there : ∀ ask ∈ (specs.take (i + 1)).map (·.ask tree now), ask.tree = tree := by
      intro ask member
      obtain ⟨other, -, rfl⟩ := List.mem_map.mp member
      rfl
    have count : (entries.take (i + 1)).countP (·.source.same spec.location)
        = (specs.take (i + 1)).countP (·.location.same spec.location) := by
      have sources := map_source_predictEach now specs predictor tree
      have counts := congrArg
        (fun places => (places.take (i + 1)).countP (·.same spec.location)) sources
      simp only [← List.map_take, List.countP_map] at counts
      exact counts
    rw [getElem?_predictEach scanned, inside, Option.map_some,
      predicted_askAll_specs scanned new tree,
      placesAt_askAll scanned unambiguous there (List.mem_map_of_mem among), count]

/-- Where sources name different maps for one compiled file, the source that is asked for first
decides which of them both have.
-/
theorem earlier_source_decides_map
    : let near := Predictor.startIn "/w/b.ts" Predictor.startFile
      let far := Predictor.startIn "/w/a.ts"
        { Predictor.startFile with mapUrl := Predictor.laterMapUrl }
      let compiled (specs : List BreakpointSpec) :=
        (predictEach 0 specs (Predictor.startWith [near, far]) .empty).map (·.compiled)
      compiled [⟨Path.ofString "/w/b.ts", 1, none⟩, ⟨Path.ofString "/w/a.ts", 1, none⟩]
        = [[⟨Path.ofString "/w/a.js", 1, 1⟩], [⟨Path.ofString "/w/a.js", 1, 1⟩]]
      ∧ compiled [⟨Path.ofString "/w/a.ts", 1, none⟩] = [[⟨Path.ofString "/w/a.js", 2, 1⟩]] := by
  decide +kernel

-----------------------------------------------------------------------------------------
-- Reports
-----------------------------------------------------------------------------------------

/-- A configuration gives a predictor of which nothing was asked yet, and no cache unless a folder
is named for it.
-/
theorem exists_cache_of_ofConfig
    (given : Predictor.ofConfig config tree now = (.ok predictor, after))
    : ∃ cache, predictor = { (⟨config, 0, 0⟩ : Launch).predictor with cache }
        ∧ (config.prediction.cacheDir = none → cache = none) := by
  unfold Predictor.ofConfig at given
  cases valid : Predictor.ofConfig? config with
  | error e =>
      rw [valid] at given
      cases given
  | ok bare =>
      have predicts : bare = (⟨config, 0, 0⟩ : Launch).predictor := Launch.ofConfig?_eq valid
      obtain rfl := predicts
      rw [valid] at given
      cases named : config.prediction.cacheDir with
      | none =>
          rw [named] at given
          cases given
          exact ⟨none, rfl, fun _ => rfl⟩
      | some folder =>
          simp only [named] at given
          split at given
          case h_1 => cases given
          case h_2 cache _ _ =>
            cases given
            exact ⟨some cache, rfl, nofun⟩

/-- A scan predicts nothing by itself. -/
theorem predictions_prepare_of_ofConfig
    (given : Predictor.ofConfig config tree now = (.ok predictor, after))
    : (predictor.prepare after now).2.1.predictions = [] := by
  obtain ⟨cache, rfl, -⟩ := exists_cache_of_ofConfig given
  have surveying : Predictor.Surveying (fun _ => True) []
      { (⟨config, 0, 0⟩ : Launch).predictor with cache } after :=
    ⟨⟨SourceMap.Memo.learned_empty, fun _ _ _ _ _ _ => trivial⟩, trivial, rfl⟩
  exact (surveying.prepare now).predictions

/-- Whether after the scan of a workspace all discoveries load alike that name one compiled file at
one time, unless a map of it was loaded during the scan.
-/
def ScansUnambiguously (tree : FileTree) (now : Nat) (path : Path) : Prop :=
  ∀ config predictor after, loadConfig tree path = .ok config
    → Predictor.ofConfig config tree now = (.ok predictor, after)
    → Unambiguous (predictor.prepare after now).1 (predictor.prepare after now).2.1.memo
        (predictor.prepare after now).2.2

/-- Without a cache the scan loads the maps of all that it brings to light. -/
theorem scansUnambiguously_of_no_cache (loaded : loadConfig tree path = .ok config)
    (bare : config.prediction.cacheDir = none)
    : ScansUnambiguously tree now path := by
  intro _ predictor after again given _ _ _ _ _ listed _ unknown
  obtain rfl := Except.ok.inj (loaded.symm.trans again)
  obtain ⟨cache, rfl, none⟩ := exists_cache_of_ofConfig given
  have known := Predictor.known_of_mem_prepare (none bare) rfl listed
  rw [unknown] at known
  cases known

theorem eq_ok_of_mapError {ε ε' α : Type} {outcome : Except ε α} {f : ε → ε'} {value : α}
    (mapped : outcome.mapError f = .ok value)
    : outcome = .ok value := by
  cases outcome with
  | error e => cases mapped
  | ok other => exact congrArg Except.ok (Except.ok.inj mapped)

/-- There is a report only if the configuration loads, all texts are breakpoints and the predictor
opens.
-/
theorem exists_of_reportFor (reported : reportFor tree now path texts = .ok report)
    : ∃ config specs predictor after,
        loadConfig tree path = .ok config
        ∧ texts.mapM (BreakpointSpec.parse config.rootPath) = .ok specs
        ∧ Predictor.ofConfig config tree now = (.ok predictor, after)
        ∧ report = reportOn config specs predictor after now := by
  simp only [reportFor, bind, Except.bind] at reported
  split at reported
  case h_1 => cases reported
  case h_2 config loaded =>
    split at reported
    case h_1 => cases reported
    case h_2 specs parsed =>
      split at reported
      case h_1 => cases reported
      case h_2 predictor given =>
        refine ⟨config, specs, predictor, (Predictor.ofConfig config tree now).2, loaded,
          eq_ok_of_mapError parsed, ?_, (Except.ok.inj reported).symm⟩
        exact Prod.ext (eq_ok_of_mapError given) rfl

/-- And then it is the one on those breakpoints. -/
theorem reportFor_eq (loaded : loadConfig tree path = .ok config)
    (parsed : texts.mapM (BreakpointSpec.parse config.rootPath) = .ok specs)
    (given : Predictor.ofConfig config tree now = (.ok predictor, after))
    : reportFor tree now path texts = .ok (reportOn config specs predictor after now) := by
  simp only [reportFor, loaded, parsed, given, Except.mapError, bind, Except.bind, pure,
    Except.pure]

/-- Texts that are read one by one are read in order. -/
theorem forall₂_of_mapM {ε α β : Type} {read : α → Except ε β} {xs : List α} {ys : List β}
    (reads : xs.mapM read = .ok ys)
    : List.Forall₂ (fun x y => read x = .ok y) xs ys := by
  induction xs generalizing ys with
  | nil =>
      obtain rfl := Except.ok.inj reads
      exact .nil
  | cons x xs ih =>
      simp only [List.mapM_cons, bind, Except.bind] at reads
      split at reads
      case h_1 => cases reads
      case h_2 y here =>
        split at reads
        case h_1 => cases reads
        case h_2 ys others =>
          obtain rfl := Except.ok.inj reads
          exact .cons here (ih others)

/-- One copy of a list for each member that passes up to a certain one gives the list itself exactly
if there is nothing in it, or if no member before that one passes.
-/
theorem copies_eq_iff {α β : Type} {passes : α → Bool} {xs : List α} {x : α} {ys : List β}
    (inside : xs[i]? = some x) (passed : passes x = true)
    : (List.replicate ((xs.take (i + 1)).countP passes) ys).flatten = ys
      ↔ ys = [] ∨ ∀ earlier ∈ xs.take i, passes earlier = false := by
  have last : (xs.take (i + 1)).countP passes = (xs.take i).countP passes + 1 := by
    rw [List.take_add_one, inside, List.countP_append, Option.toList_some, List.countP_singleton,
      if_pos passed]
  rw [last, List.replicate_succ, List.flatten_cons, List.append_right_eq_self,
    List.flatten_eq_nil_iff, List.forall_mem_replicate, List.countP_eq_zero, or_comm]
  simp only [Bool.not_eq_true]

/-- Requests make a difference to the breakpoints of a report only. -/
theorem reportOn_eq (config : LaunchConfig) (specs others : List BreakpointSpec)
    (predictor : Predictor) (tree : FileTree) (now : Nat)
    : reportOn config others predictor tree now
      = { reportOn config specs predictor tree now with
          breakpoints := (reportOn config others predictor tree now).breakpoints } :=
  rfl

-----------------------------------------------------------------------------------------
-- A sample workspace
-----------------------------------------------------------------------------------------

/-- A workspace `/w` with its configuration and one compiled file. -/
def sampleWorkspace (document script : ByteArray) : FileTree :=
  ⟨.folder [(Text.toBytes "w", .folder [(Text.toBytes "a.js", .file script 0),
    (Text.toBytes "l.json", .file document 0)])], []⟩

def sampleSettings : String :=
  "\x7b\"rootPath\":\"/w\",\"outFiles\":[\"*.js\"]\x7d"

def sampleConfig : LaunchConfig where
  rootPath := Path.ofString "/w"
  outFiles := ["*.js"]

def sampleScript : String := "//# sourceMappingURL=" ++ Predictor.startFile.mapUrl

def sampleTree : FileTree := sampleWorkspace sampleSettings.toUTF8 sampleScript.toUTF8

theorem loadConfig_sample
    : loadConfig sampleTree (Path.ofString "/w/l.json") = .ok sampleConfig := by
  have node (document script : ByteArray)
      : (sampleWorkspace document script).node? (Path.ofString "/w/l.json")
        = .ok (.file document 0) := by
    cbv
  have format : LaunchConfig.formatOf? (Path.ofString "/w/l.json") = some .json := by cbv
  have read : LaunchConfig.ofText .json sampleSettings = .ok sampleConfig := by cbv
  rw [loadConfig, sampleTree, LaunchConfig.load_of_node? (node _ _) format, read]
  rfl

theorem list?_sample
    : Repository.folders.list? sampleTree (Path.ofString "/w") ["*.js"]
      = some [Predictor.startFile] := by
  have node (document script : ByteArray)
      : (sampleWorkspace document script).node? Predictor.startFile.path
        = .ok (.file script 0) := by
    cbv
  have root (document script : ByteArray)
      : OutFiles.rootNode? (sampleWorkspace document script) (Path.ofString "/w")
        = some (.folder [(Text.toBytes "a.js", .file script 0),
            (Text.toBytes "l.json", .file document 0)]) := by
    cbv
  have matching : (OutFiles.ofPatterns ["*.js"]).toOption.map (fun out =>
        OutFiles.filesAt out [] (.folder [(Text.toBytes "a.js", .file sampleScript.toUTF8 0),
          (Text.toBytes "l.json", .file sampleSettings.toUTF8 0)]))
        = some [[Text.toBytes "a.js"]]
      ∧ OutFiles.pathBelow (Path.ofString "/w") [Text.toBytes "a.js"] = Predictor.startFile.path
      ∧ OutFiles.lastDeclaration? sampleScript.toUTF8.data.toList
        = some Predictor.startFile.mapUrl
      ∧ OutFiles.mapUrl? Predictor.startFile.path Predictor.startFile.mapUrl
        = some Predictor.startFile.mapUrl := by
    decide +kernel
  obtain ⟨walked, path, declared, url⟩ := matching
  obtain ⟨out, read, walked⟩ := Option.map_eq_some_iff.mp walked
  have inspected : OutFiles.inspect? sampleTree Predictor.startFile.path
      = .ok (some Predictor.startFile) := by
    simp only [OutFiles.inspect?, FileTree.read?, FileTree.modified?, sampleTree, node, declared,
      url, bind, Except.bind, pure, Except.pure, Option.bind_some]
    rfl
  simp only [Repository.folders, read, Option.map_some, OutFiles.scan, sampleTree, root, walked,
    List.filterMap_cons, List.filterMap_nil, path]
  rw [← sampleTree, inspected]

/-- What the configuration of the sample gives. -/
def samplePredictor : Predictor := (⟨sampleConfig, 0, 0⟩ : Launch).predictor

theorem ofConfig_sample
    : Predictor.ofConfig sampleConfig sampleTree 0 = (.ok samplePredictor, sampleTree) := by
  have accepted : (Predictor.ofConfig? sampleConfig).toOption.isSome = true := by cbv
  have bare : sampleConfig.prediction.cacheDir = none := rfl
  cases valid : Predictor.ofConfig? sampleConfig with
  | error e =>
      rw [valid] at accepted
      cases accepted
  | ok predictor =>
      have predicts : predictor = samplePredictor := Launch.ofConfig?_eq valid
      rw [Predictor.ofConfig, valid, bare, predicts]

theorem scan_sample
    : samplePredictor.scan sampleTree 0
      = samplePredictor.discoverAll sampleTree 0 [Predictor.startFile] := by
  have options : PredictorOptions.ofConfig sampleConfig
      = ⟨Path.ofString "/w", ["*.js"], 10000, 16⟩ := by
    cbv
  have short (patterns : List String)
      : Predictor.longScansOf ⟨Path.ofString "/w", patterns, 10000, 16⟩
          Repository.folders.duration = [] :=
    if_neg (show ¬ 10000 ≤ 0 by decide)
  simp only [Predictor.scan, samplePredictor, Launch.predictor, options, list?_sample, short,
    List.isEmpty_cons, Bool.false_eq_true, if_false, List.append_nil, Option.getD_some]

def sampleSource : FileLocation := ⟨Path.ofString "/w/a.ts", 1, 1⟩

def samplePlace : FileLocation := ⟨Predictor.startFile.path, 1, 1⟩

/-- A report on breakpoints of the sample. -/
def sampleReport (breakpoints : List PredictedBreakpoint) : Report :=
  ⟨Path.ofString "/w", .off, 1, 0, breakpoints⟩

theorem reportFor_sample
    : reportFor sampleTree 0 (Path.ofString "/w/l.json") ["a.ts:1", "a.ts:1:1"]
        = .ok (sampleReport
            [⟨sampleSource, [samplePlace]⟩, ⟨sampleSource, [samplePlace, samplePlace]⟩])
      ∧ reportFor sampleTree 0 (Path.ofString "/w/l.json") ["a.ts:1:1"]
        = .ok (sampleReport [⟨sampleSource, [samplePlace]⟩]) := by
  have together : ["a.ts:1", "a.ts:1:1"].mapM (BreakpointSpec.parse sampleConfig.rootPath)
      = .ok [⟨Path.ofString "/w/a.ts", 1, none⟩, ⟨Path.ofString "/w/a.ts", 1, some 1⟩] := by
    decide
  have single : ["a.ts:1:1"].mapM (BreakpointSpec.parse sampleConfig.rootPath)
      = .ok [⟨Path.ofString "/w/a.ts", 1, some 1⟩] := by
    decide
  have new : samplePredictor.index = none := rfl
  rw [reportFor_eq loadConfig_sample together ofConfig_sample,
    reportFor_eq loadConfig_sample single ofConfig_sample]
  simp only [reportOn, Predictor.prepare, new, scan_sample]
  decide +kernel

-----------------------------------------------------------------------------------------
-- Breakpoints on their own
-----------------------------------------------------------------------------------------

/-- Each breakpoint of a report is at the place that it has on its own, and the rest of the report
is the same.  Its compiled places are those that it has on its own, once for each breakpoint up to
itself that is at the same place; so they are the same exactly if there are none, or if no earlier
breakpoint is at its place.
-/
theorem reported_alone (reported : reportFor tree now path texts = .ok report)
    (unambiguous : ScansUnambiguously tree now path)
    : report.breakpoints.length = texts.length
      ∧ ∀ {i text}, texts[i]? = some text
        → ∃ entry alone,
            report.breakpoints[i]? = some entry
            ∧ reportFor tree now path [text] = .ok { report with breakpoints := [alone] }
            ∧ entry.source = alone.source
            ∧ entry.compiled
              = (List.replicate
                  ((report.breakpoints.take (i + 1)).countP (·.source.same entry.source))
                  alone.compiled).flatten
            ∧ (entry.compiled = alone.compiled
              ↔ alone.compiled = []
                ∨ ∀ earlier ∈ report.breakpoints.take i,
                    earlier.source.same entry.source = false) := by
  obtain ⟨config, specs, predictor, after, loaded, parsed, given, rfl⟩ :=
    exists_of_reportFor reported
  have scanned := Predictor.index_prepare predictor after now
  have apart := unambiguous config predictor after loaded given
  have nothing := predictions_prepare_of_ofConfig given
  obtain ⟨lengths, each⟩ := List.forall₂_iff_get.mp (forall₂_of_mapM parsed)
  have sources := map_source_predictEach now specs (predictor.prepare after now).2.1
    (predictor.prepare after now).2.2
  refine ⟨?_, fun {i text} named => ?_⟩
  · have same := congrArg List.length sources
    rw [List.length_map, List.length_map] at same
    exact same.trans lengths.symm
  obtain ⟨short, rfl⟩ := List.getElem?_eq_some_iff.mp named
  have inside : specs[i]? = some specs[i] := List.getElem?_eq_getElem (lengths ▸ short)
  have read : BreakpointSpec.parse config.rootPath texts[i] = .ok specs[i] := each i _ _
  obtain ⟨compiled, single, entry⟩ := predictEach_alone scanned nothing apart inside
  refine ⟨_, ⟨specs[i].location, compiled⟩, entry, ?_, rfl, rfl, ?_⟩
  · have alone : [texts[i]].mapM (BreakpointSpec.parse config.rootPath) = .ok [specs[i]] := by
      rw [List.mapM_cons, read]
      rfl
    rw [reportFor_eq loaded alone given, reportOn_eq config specs]
    exact congrArg (fun breakpoints => Except.ok { reportOn config specs predictor after now with
      breakpoints }) single
  · exact copies_eq_iff entry (same_refl _)

/-- A place that is named twice, once without its column. -/
theorem reported_alone_sample
    : let texts := ["a.ts:1", "a.ts:1:1"]
      let report := sampleReport
        [⟨sampleSource, [samplePlace]⟩, ⟨sampleSource, [samplePlace, samplePlace]⟩]
      let alone : PredictedBreakpoint := ⟨sampleSource, [samplePlace]⟩
      reportFor sampleTree 0 (Path.ofString "/w/l.json") texts = .ok report
      ∧ ScansUnambiguously sampleTree 0 (Path.ofString "/w/l.json")
      ∧ texts[1]? = some "a.ts:1:1"
      ∧ ∃ entry,
          report.breakpoints[1]? = some entry
          ∧ reportFor sampleTree 0 (Path.ofString "/w/l.json") ["a.ts:1:1"]
            = .ok { report with breakpoints := [alone] }
          ∧ entry.compiled
            = (List.replicate
                ((report.breakpoints.take 2).countP (·.source.same entry.source))
                alone.compiled).flatten := by
  obtain ⟨together, single⟩ := reportFor_sample
  have unambiguous : ScansUnambiguously sampleTree 0 (Path.ofString "/w/l.json") :=
    scansUnambiguously_of_no_cache loadConfig_sample rfl
  obtain ⟨entry, alone, listed, reported, -, copies, -⟩ :=
    (reported_alone together unambiguous).2 (i := 1) rfl
  have same := Except.ok.inj (single.symm.trans reported)
  obtain rfl : alone = ⟨sampleSource, [samplePlace]⟩ :=
    (List.cons.inj (Report.mk.inj same).2.2.2.2).1.symm
  exact ⟨together, unambiguous, rfl, entry, listed, reported, copies⟩

/-- What is reported on a place that was named before is not what is reported on it alone. -/
theorem not_reported_alone
    : ¬ ∀ {tree now path report} {texts : List String} {i : Nat} {text},
        reportFor tree now path texts = .ok report → texts[i]? = some text
        → ∃ entry alone, report.breakpoints[i]? = some entry
            ∧ reportFor tree now path [text] = .ok alone
            ∧ alone.breakpoints.map (·.compiled) = [entry.compiled] := by
  intro independent
  obtain ⟨together, single⟩ := reportFor_sample
  obtain ⟨entry, alone, listed, reported, same⟩ := independent (i := 1) together rfl
  obtain rfl := Option.some.inj listed
  obtain rfl := Except.ok.inj (single.symm.trans reported)
  have lengths : [1] = [2] := congrArg (List.map List.length) same
  cases lengths

end EarlyBreak.CommandLine
