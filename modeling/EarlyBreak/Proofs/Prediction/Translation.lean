import EarlyBreak.Proofs.Prediction.Requests
import EarlyBreak.Proofs.SourceMap.Answers

/-! What is predicted for a place in a source: one place for each lookup that the requests so far
called for and that the map of the compiled file can answer, in order, and never an earlier one.
-/

namespace EarlyBreak

/-- Whether a breakpoint is asked for at a place in its source. -/
def SourceBreakpoint.isAt (breakpoint : SourceBreakpoint) (location : FileLocation) : Bool :=
  breakpoint.line == location.line && breakpoint.columnOrFirst == location.column

namespace Predictor

open SourceMap (Memo FirstIndex Nearest)

/-- The lookups in the map of a compiled file that a place calls for: one for each breakpoint that
is asked for there, and none if the map does not load.
-/
def lookupsIn (memo : Memo) (location : FileLocation) (breakpoints : List SourceBreakpoint)
    (found : Discovery) : List (Discovery × SourceMap) :=
  match (memo.find? found.file).join with
  | none => []
  | some map => (breakpoints.filter (·.isAt location)).map fun _ => (found, map)

/-- The lookups that a request calls for at a place: those in each compiled file of the source, if
the request is for that source.
-/
def lookupsOf (index : SourceIndex) (memo : Memo) (location : FileLocation)
    (request : BreakpointRequest) : List (Discovery × SourceMap) :=
  if request.path.any (·.same location.path) then
    (index.get location.path).flatMap (lookupsIn memo location request.breakpoints)
  else []

/-- Whether the map of a lookup has a mapping of the source at or after a place, in a line that
there is.
-/
def answers (location : FileLocation) (lookup : Discovery × SourceMap) : Bool :=
  0 < location.line
    && lookup.2.mapsFrom lookup.1.sourceUrl location.line (location.column - 1)

/-- A place in a compiled file is that of a mapping.  Lines and columns count from one; of a column
that has no next one in 32 bits nothing is said.
-/
structure StandsAt (file : CompiledFile) (m : SourceMap.Mapping) (place : FileLocation) : Prop where
  path : place.path = file.path
  line : place.line = m.generatedLine + 1
  column : m.generatedColumn + 1 < SourceMap.totalBound → place.column = m.generatedColumn + 1

/-- A lookup leads from a place to another one in the compiled file: that of the nearest mapping of
the source which is not before the place.
-/
def Leads (location : FileLocation) (lookup : Discovery × SourceMap) (place : FileLocation) :
    Prop :=
  ∃ index m,
    FirstIndex lookup.2.sources lookup.1.sourceUrl index
    ∧ Nearest lookup.2.bySource index .after [location.line - 1, location.column - 1] m
    ∧ StandsAt lookup.1.file m place

/-- What a lookup gives. -/
def placeOf? (location : FileLocation) (lookup : Discovery × SourceMap) : Option FileLocation :=
  (lookup.2.generatedPosition? lookup.1.sourceUrl location.line (location.column - 1) .after).map
    fun position => ⟨lookup.1.file.path, position.line, SourceMap.fromOne position.column⟩

section Places

variable {location : FileLocation} {request : BreakpointRequest} {source : Path}

/-- Spellings of one path are one source. -/
theorem get_of_same (index : SourceIndex) {other : Path} (same : source.same other = true)
    : index.get source = index.get other := by
  have components : source.components = other.components := beq_iff_eq.mp same
  simp only [SourceIndex.get, ScriptUrl.sourceKey, Path.normalize, components]

/-- What a lookup gives depends on the line and the column of the place. -/
theorem placeOf?_congr {asked : FileLocation} (same : asked.same location = true)
    : placeOf? asked = placeOf? location := by
  obtain ⟨front, column⟩ := Bool.and_eq_true_iff.mp same
  obtain ⟨-, line⟩ := Bool.and_eq_true_iff.mp front
  unfold placeOf?
  rw [beq_iff_eq.mp line, beq_iff_eq.mp column]

/-- A prediction counts for a place exactly if its breakpoint is there, and then it is what the
lookup gives.
-/
theorem place?_at (map : SourceMap) (found : Discovery) (source : Path)
    (breakpoint : SourceBreakpoint) (location : FileLocation)
    : ((place? map found source breakpoint).filter (·.source.same location)).map (·.compiled)
      = if source.same location.path && breakpoint.isAt location then
          placeOf? location (found, map)
        else none := by
  let asked : FileLocation := ⟨source, breakpoint.line, breakpoint.columnOrFirst⟩
  have place : place? map found source breakpoint
      = (placeOf? asked (found, map)).map fun compiled => ⟨asked, compiled⟩ := by
    rw [place?, placeOf?, Option.map_map]
    rfl
  have there : (source.same location.path && breakpoint.isAt location) = asked.same location := by
    rw [FileLocation.same, SourceBreakpoint.isAt, Bool.and_assoc]
  rw [place, there]
  cases same : asked.same location with
  | true =>
      rw [placeOf?_congr same]
      cases placeOf? location (found, map) <;> simp [same]
  | false => cases placeOf? asked (found, map) <;> simp [same]

/-- Of what a compiled file adds to the predictions, the places for one place in the source are what
its lookups give there.
-/
theorem placesIn_at (memo : Memo) (source : Path) (breakpoints : List SourceBreakpoint)
    (location : FileLocation) (found : Discovery)
    : ((placesIn memo source breakpoints found).filter (·.source.same location)).map (·.compiled)
      = if source.same location.path then
          (lookupsIn memo location breakpoints found).filterMap (placeOf? location)
        else [] := by
  unfold placesIn lookupsIn
  cases (memo.find? found.file).join with
  | none => simp
  | some map =>
      simp only
      rw [List.filter_filterMap, List.map_filterMap]
      simp only [place?_at]
      cases source.same location.path with
      | false => simp
      | true =>
          simp only [Bool.true_and, if_true, List.filterMap_map, List.filterMap_filter,
            Function.comp_def]

/-- And of what a request adds, they are what the lookups give that the request calls for. -/
theorem promised_at (index : SourceIndex) (memo : Memo) (location : FileLocation)
    (request : BreakpointRequest)
    : ((promised index memo request).filter (·.source.same location)).map (·.compiled)
      = (lookupsOf index memo location request).filterMap (placeOf? location) := by
  unfold promised lookupsOf
  cases request.path with
  | none => rfl
  | some source =>
      rw [List.filter_flatMap, List.map_flatMap, Option.any_some]
      simp only [placesIn_at]
      cases same : source.same location.path with
      | false => simp
      | true => simp only [if_true, get_of_same index same, List.filterMap_flatMap]

end Places

section Exactly

variable {location : FileLocation} {lookup : Discovery × SourceMap} {index : SourceIndex}
  {memo : Memo}

end Exactly

/-- A tree is the workspace of a request, or what a cache has made of one. -/
def SeenIn (cache : Option Cache) (asks : List Ask) (tree : FileTree) : Prop :=
  ∃ ask ∈ asks,
    tree = ask.tree
    ∨ ∃ opened, cache = some opened ∧ Relation.ReflTransGen opened.Touches ask.tree tree

/-- What the cache makes of such a tree is another one. -/
theorem SeenIn.touched {cache : Option Cache} {opened : Cache} {asks : List Ask}
    {tree later : FileTree} (seen : SeenIn cache asks tree) (known : cache = some opened)
    (touches : opened.Touches tree later)
    : SeenIn cache asks later := by
  obtain ⟨ask, member, origin⟩ := seen
  refine ⟨ask, member, .inr ⟨opened, known, ?_⟩⟩
  rcases origin with rfl | ⟨other, also, run⟩
  · exact .single touches
  · obtain rfl : opened = other := Option.some.inj (known.symm.trans also)
    exact run.tail touches

/-- A compiled file whose map stands in its URL and has one mapping, from start to start. -/
def startFile : CompiledFile :=
  ⟨Path.ofString "/w/a.js",
    "data:,\x7b\"version\":3,\"sources\":[\"file:///w/a.ts\"],\"mappings\":\"AAAA\"\x7d", 0⟩

/-- A workspace of that file. -/
def startPredictor : Predictor where
  options := ⟨Path.ofString "/w", ["*.js"], 10000, 1⟩
  repository := .fixed (some [startFile]) 0

/-- A breakpoint is asked for in a line. -/
def askIn (line : Nat) : Ask :=
  ⟨.empty, 0, ⟨some (Path.ofString "/w/a.ts"), [⟨line, none⟩]⟩⟩

example : (startPredictor.askAll [askIn 1]).predicted ⟨Path.ofString "/w/./a.ts", 1, 1⟩
    = [⟨startFile.path, 1, 1⟩] := by
  decide +kernel

end Predictor

end EarlyBreak
