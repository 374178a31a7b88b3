import EarlyBreak.Prediction.Predictor.Scan

/-! Predicting where breakpoints in sources bind.  The workspace is scanned once, when the first
question needs it; what was predicted is kept and looked up by the place that was asked for.
-/

namespace EarlyBreak

namespace Predictor

/-- The index, for which the workspace is scanned the first time. -/
def prepare (predictor : Predictor) (tree : FileTree) (now : Nat) :
    SourceIndex × Predictor × FileTree :=
  match predictor.index with
  | some index => (index, predictor, tree)
  | none =>
      let (found, predictor, tree) := predictor.scan tree now
      let index := SourceIndex.ofDiscoveries found
      (index, { predictor with index := some index }, tree)

/-- The number of scans that were made. -/
def scanCount (predictor : Predictor) : Nat := if predictor.index.isSome then 1 else 0

/-- What the repository was asked to list. -/
def listings (predictor : Predictor) : List (Path × List String) :=
  let options := predictor.options
  if predictor.index.isNone || options.outFiles.isEmpty then []
  else [(options.rootPath, options.outFiles)]

/-- Where the map of a compiled file puts a breakpoint: the closest place at or after it. -/
def place? (map : SourceMap) (found : Discovery) (source : Path)
    (breakpoint : SourceBreakpoint) : Option Prediction :=
  let column := breakpoint.columnOrFirst
  (map.generatedPosition? found.sourceUrl breakpoint.line (column - 1) .after).map
    fun position =>
      ⟨⟨source, breakpoint.line, column⟩,
        ⟨found.file.path, position.line, SourceMap.fromOne position.column⟩⟩

/-- The map of a compiled file. -/
def mapOf (predictor : Predictor) (tree : FileTree) (file : CompiledFile) :
    Option SourceMap × Predictor :=
  let (map, memo) := predictor.memo.load tree file
  (map, { predictor with memo, asked := predictor.asked ++ [file.path] })

/-- Predicts the breakpoints of a source by one compiled file. -/
def predictIn (source : Path) (breakpoints : List SourceBreakpoint) (tree : FileTree)
    (predictor : Predictor) (found : Discovery) : Predictor :=
  match predictor.mapOf tree found.file with
  | (none, predictor) => predictor
  | (some map, predictor) =>
      let new := breakpoints.filterMap (place? map found source)
      { predictor with predictions := predictor.predictions ++ new }

/-- Predicts the breakpoints of a request by each compiled file that has their source. -/
def predict (predictor : Predictor) (tree : FileTree) (now : Nat) (request : BreakpointRequest) :
    Predictor × FileTree :=
  match request.path with
  | none => (predictor, tree)
  | some source =>
      let (index, predictor, tree) := predictor.prepare tree now
      ((index.get source).foldl (predictIn source request.breakpoints tree) predictor, tree)

/-- The compiled places that were predicted for a place, in order. -/
def predicted (predictor : Predictor) (location : FileLocation) : List FileLocation :=
  (predictor.predictions.filter (·.source.same location)).map (·.compiled)

end Predictor

end EarlyBreak
