import EarlyBreak.Prediction.Predictor.Basic

/-! Scanning a workspace for sources.  Several compiled files are in flight at once; each takes its
next step after the others in flight had one, and the next file starts when one is finished.
-/

namespace EarlyBreak

namespace Predictor

/-- The sources that the map of a compiled file lists and that have a path. -/
def sourcesIn (resolver : SourceResolver) (file : CompiledFile) (map : SourceMap) :
    List Discovery :=
  map.sources.filterMap fun url => (resolver.resolve? url).map (⟨url, ·, file⟩)

/-- What the cache has for a compiled file. -/
def cached (predictor : Predictor) (tree : FileTree) (now : Nat) (file : CompiledFile) :
    Option (List Discovery) × FileTree :=
  match predictor.cache with
  | none => (none, tree)
  | some cache => cache.lookup tree now file.path.text file.modified

/-- Stores what a compiled file brought to light, if there is a cache.  That it fails does not
matter.
-/
def remember (predictor : Predictor) (tree : FileTree) (now : Nat) (file : CompiledFile)
    (found : List Discovery) : Predictor × FileTree :=
  match predictor.cache with
  | none => (predictor, tree)
  | some cache =>
      let (_, cache, tree) := cache.store tree now file.path.text file.modified found
      ({ predictor with cache := some cache }, tree)

/-- What a compiled file in flight does next. -/
inductive Step where
  | start (file : CompiledFile)
  | lookup (file : CompiledFile)
  | load (file : CompiledFile)
  | store (file : CompiledFile) (found : List Discovery)

/-- Where a step leads: to the next one, or to all that the file brings to light. -/
inductive Progress where
  | next (step : Step)
  | finished (found : List Discovery)

/-- What comes after the map of a compiled file is known: what it lists is stored, if there is a
cache.
-/
def afterLoad (predictor : Predictor) (file : CompiledFile) (map : Option SourceMap) : Progress :=
  match map with
  | none => .finished []
  | some map =>
      let found := sourcesIn predictor.resolver file map
      if predictor.cache.isSome then .next (.store file found) else .finished found

/-- Asks for the map of a compiled file, which is loaded unless that was done before. -/
def askFor (predictor : Predictor) (file : CompiledFile) : Progress × Predictor :=
  let asked := { predictor with asked := predictor.asked ++ [file.path] }
  match predictor.memo.find? file with
  | some known => (predictor.afterLoad file known, asked)
  | none => (.next (.load file), asked)

/-- Takes a step of a compiled file. -/
def take (predictor : Predictor) (tree : FileTree) (now : Nat) :
    Step → Progress × Predictor × FileTree
  | .start file =>
      if predictor.cache.isSome then (.next (.lookup file), predictor, tree)
      else
        let (progress, predictor) := predictor.askFor file
        (progress, predictor, tree)
  | .lookup file =>
      match predictor.cached tree now file with
      | (some found, tree) => (.finished found, predictor, tree)
      | (none, tree) =>
          let (progress, predictor) := predictor.askFor file
          (progress, predictor, tree)
  | .load file =>
      let loaded := (SourceMap.load tree file).toOption
      (predictor.afterLoad file loaded,
        { predictor with memo := predictor.memo.insert file loaded }, tree)
  | .store file found =>
      let (predictor, tree) := predictor.remember tree now file found
      (.finished found, predictor, tree)

/-- The most steps that a compiled file takes. -/
def maxSteps : Nat := 4

/-- What compiled files bring to light, those in flight and those that wait to start, in the order
in which they are finished.  `fuel` bounds the number of steps.
-/
def runSteps (now : Nat) : Nat → List Step → List CompiledFile → Predictor → FileTree →
    List Discovery × Predictor × FileTree
  | fuel + 1, step :: inFlight, waiting, predictor, tree =>
      match predictor.take tree now step with
      | (.next step, predictor, tree) =>
          runSteps now fuel (inFlight ++ [step]) waiting predictor tree
      | (.finished found, predictor, tree) =>
          let starting := (waiting.take 1).map Step.start
          let (more, predictor, tree) :=
            runSteps now fuel (starting ++ inFlight) (waiting.drop 1) predictor tree
          (found ++ more, predictor, tree)
  | _, _, _, predictor, tree => ([], predictor, tree)

/-- What compiled files bring to light, as many of them in flight as the options allow. -/
def discoverAll (predictor : Predictor) (tree : FileTree) (now : Nat)
    (files : List CompiledFile) : List Discovery × Predictor × FileTree :=
  let width := max 1 predictor.options.concurrency
  runSteps now (maxSteps * files.length) ((files.take width).map Step.start) (files.drop width)
    predictor tree

/-- The scans that are long, of one that takes so many milliseconds. -/
def longScansOf (options : PredictorOptions) (duration : Nat) : List LongScan :=
  if options.longParseThreshold ≤ duration then
    [⟨options.outFiles, options.longParseThreshold⟩]
  else []

/-- Scans the workspace.  Without patterns there is nothing to list. -/
def scan (predictor : Predictor) (tree : FileTree) (now : Nat) :
    List Discovery × Predictor × FileTree :=
  let options := predictor.options
  let repository := predictor.repository
  if options.outFiles.isEmpty then ([], predictor, tree)
  else
    let longScans := predictor.longScans ++ longScansOf options repository.duration
    let files := (repository.list? tree options.rootPath options.outFiles).getD []
    { predictor with longScans }.discoverAll tree now files

end Predictor

end EarlyBreak
