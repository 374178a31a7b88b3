import EarlyBreak.Proofs.FileTree.Steps
import EarlyBreak.Proofs.Prediction.Catalogue
import EarlyBreak.Proofs.Prediction.Delivery
import EarlyBreak.Proofs.Prediction.Translation

/-! Whether the order shows in which discoveries arrive.  It does not in the index, up to the
spelling of paths.  What is predicted depends on it through the memo alone, which has one map for
a compiled file and time: of discoveries with different ones, the first to be asked for decides.
-/

namespace EarlyBreak

open SourceMap (Memo)

/-- What there is to a place up to the spelling of its path. -/
def FileLocation.content (location : FileLocation) : List Path.Component × Nat × Nat :=
  (location.path.components, location.line, location.column)

/-- Lists with the same keys in some order give the same, if elements with one key do. -/
theorem perm_flatMap_of_perm_map {α β κ : Type} {key : α → κ} {f g : α → List β} {xs ys : List α}
    (same : (xs.map key).Perm (ys.map key))
    (agree : ∀ x ∈ xs, ∀ y ∈ ys, key x = key y → f x = g y)
    : (xs.flatMap f).Perm (ys.flatMap g) := by
  induction xs generalizing ys with
  | nil =>
      have none : ys = [] := List.map_eq_nil_iff.mp same.nil_eq.symm
      rw [none]
      exact .refl _
  | cons x xs ih =>
      obtain ⟨y, among, twin⟩ := List.mem_map.mp (same.mem_iff.mp List.mem_cons_self)
      obtain ⟨front, back, rfl⟩ := List.append_of_mem among
      have rest : (xs.map key).Perm ((front ++ back).map key) := by
        rw [List.map_cons, List.map_append, List.map_cons, twin] at same
        rw [List.map_append]
        exact (same.trans List.perm_middle).cons_inv
      have others := ih rest fun z member y' member' =>
        agree z (List.mem_cons_of_mem _ member) y' (by
          rcases List.mem_append.mp member' with before | after
          · exact List.mem_append_left _ before
          · exact List.mem_append_right _ (List.mem_cons_of_mem _ after))
      rw [List.flatMap_cons, agree x List.mem_cons_self y among twin.symm]
      refine (others.append_left _).trans ?_
      rw [List.flatMap_append, List.flatMap_append, List.flatMap_cons]
      exact List.perm_append_comm_assoc _ _ _

theorem Url.ofPath?_congr {p q : Path} (same : p.components = q.components)
    : Url.ofPath? p = Url.ofPath? q := by
  have absolute : p.isAbsolute = q.isAbsolute := by
    rw [Bool.eq_iff_iff, Path.isAbsolute_iff, Path.isAbsolute_iff, same]
  rw [Url.ofPath?, Url.ofPath?, same, absolute]

namespace SourceMap

variable {tree : FileTree} {file other : CompiledFile}

/-- What is loaded depends on the path of a compiled file and the URL of its map. -/
theorem load_congr (twin : Memo.Twin file other) (url : file.mapUrl = other.mapUrl)
    : SourceMap.load tree file = SourceMap.load tree other := by
  simp only [SourceMap.load, url, Url.ofPath?_congr twin.1]

end SourceMap

namespace Predictor

variable {predictor first second : Predictor} {found others listed also : List Discovery}
  {tree : FileTree} {location : FileLocation} {memo other : Memo}

theorem memo_predictIn (source : Path) (breakpoints : List SourceBreakpoint) (tree : FileTree)
    (predictor : Predictor) (discovery : Discovery)
    : (predictIn source breakpoints tree predictor discovery).memo
      = (predictor.memo.load tree discovery.file).2 := by
  unfold predictIn mapOf
  cases predictor.memo.load tree discovery.file with
  | mk map memo => cases map <;> rfl

/-- The map of a compiled file that some discoveries lead to: that of the first one which a memo
does not tell apart from it.
-/
def mapAmong? (tree : FileTree) (listed : List Discovery) (file : CompiledFile) :
    Option (Option SourceMap) :=
  (listed.find? fun discovery => Memo.Twin discovery.file file).map fun discovery =>
    (SourceMap.load tree discovery.file).toOption

/-- What was not known of a compiled file is known by the first discovery that asks for it, by
induction along the discoveries.
-/
theorem find?_foldl_predictIn (source : Path) (breakpoints : List SourceBreakpoint)
    (tree : FileTree) (predictor : Predictor) (listed : List Discovery) (file : CompiledFile)
    : (listed.foldl (predictIn source breakpoints tree) predictor).memo.find? file
      = (predictor.memo.find? file).or (mapAmong? tree listed file) := by
  induction listed generalizing predictor with
  | nil => rw [List.foldl_nil, mapAmong?, List.find?_nil, Option.map_none, Option.or_none]
  | cons discovery rest ih =>
      rw [List.foldl_cons, ih, memo_predictIn, Memo.find?_load, Option.or_assoc, mapAmong?,
        mapAmong?, List.find?_cons]
      by_cases twin : Memo.Twin discovery.file file <;> simp [twin]

/-- An ask leaves what is known of a file, and adds the maps of the files that are found for it. -/
theorem find?_ask {index : SourceIndex} (scanned : predictor.index = some index) (ask : Ask)
    (file : CompiledFile)
    : (predictor.ask ask).memo.find? file
      = (predictor.memo.find? file).or
          (mapAmong? ask.tree (foundFor index ask.request) file) := by
  unfold Predictor.ask predict foundFor
  cases ask.request.path with
  | none => rw [mapAmong?, List.find?_nil, Option.map_none, Option.or_none]
  | some source =>
      simp only [prepare, scanned]
      exact find?_foldl_predictIn source ask.request.breakpoints ask.tree predictor _ file

theorem twin_of_content {a b : Discovery} (same : a.content = b.content)
    : Memo.Twin a.file b.file := by
  simp only [Discovery.content, Prod.mk.injEq] at same
  exact ⟨same.2.2.1, same.2.2.2.2⟩

/-- Discoveries lead to the same map in any order, if those that a memo does not tell apart load
alike.
-/
theorem mapAmong?_congr (same : (listed.map Discovery.content).Perm (also.map Discovery.content))
    (alike
      : ∀ a ∈ listed, ∀ b ∈ also,
          Memo.Twin a.file b.file
          → (SourceMap.load tree a.file).toOption = (SourceMap.load tree b.file).toOption)
    (file : CompiledFile)
    : mapAmong? tree listed file = mapAmong? tree also file := by
  -- Whatever one list has, the other one has a discovery with that content.
  have missing {xs ys : List Discovery}
      (same : (xs.map Discovery.content).Perm (ys.map Discovery.content))
      (unknown : xs.find? (fun d => Memo.Twin d.file file) = none)
      : ys.find? (fun d => Memo.Twin d.file file) = none := by
    rw [List.find?_eq_none] at unknown ⊢
    intro y member
    obtain ⟨x, among, equal⟩ := List.mem_map.mp (same.mem_iff.mpr (List.mem_map_of_mem member))
    have apart := unknown x among
    rw [decide_eq_true_eq] at apart ⊢
    exact fun (twin : Memo.Twin y.file file) => apart ((twin_of_content equal).trans twin)
  unfold mapAmong?
  cases here : listed.find? (fun d => Memo.Twin d.file file) with
  | none => rw [missing same here]
  | some a =>
      cases there : also.find? (fun d => Memo.Twin d.file file) with
      | none =>
          rw [missing same.symm there] at here
          cases here
      | some b =>
          have left : Memo.Twin a.file file := by simpa using List.find?_some here
          have right : Memo.Twin b.file file := by simpa using List.find?_some there
          rw [Option.map_some, Option.map_some, alike a (List.mem_of_find?_eq_some here) b
            (List.mem_of_find?_eq_some there) (left.trans right.symm)]

/-- The discoveries of the source that a request is for. -/
def requested (found : List Discovery) (request : BreakpointRequest) : List Discovery :=
  found.filter fun discovery =>
    request.path.any fun source =>
      ScriptUrl.sourceKey discovery.path == ScriptUrl.sourceKey source

theorem mem_requested_of_mem_foundFor {discovery : Discovery} {request : BreakpointRequest}
    (member : discovery ∈ foundFor (.ofDiscoveries found) request)
    : discovery ∈ requested found request := by
  unfold foundFor at member
  cases sourced : request.path with
  | none =>
      rw [sourced] at member
      cases member
  | some source =>
      rw [sourced] at member
      obtain ⟨there, key⟩ := (SourceIndex.covers_ofDiscoveries found).sound member
      exact List.mem_filter.mpr ⟨there, by simp [sourced, key]⟩

/-- Two predictors whose scans brought the same to light in different orders, and that know the same
of the maps of what was discovered.
-/
structure Counterparts (found others : List Discovery) (first second : Predictor) : Prop where
  index : first.index = some (.ofDiscoveries found)
  otherIndex : second.index = some (.ofDiscoveries others)
  maps
    : ∀ discovery ∈ found, first.memo.find? discovery.file = second.memo.find? discovery.file

theorem index_ask {index : SourceIndex} (scanned : predictor.index = some index) (ask : Ask)
    : (predictor.ask ask).index = some index :=
  (predicts_ask scanned ask).index.trans scanned

/-- The order of arrival does not matter to which contents are found for a request. -/
theorem perm_foundFor (same : found.Perm others) (request : BreakpointRequest)
    : ((foundFor (.ofDiscoveries found) request).map Discovery.content).Perm
        ((foundFor (.ofDiscoveries others) request).map Discovery.content) := by
  unfold foundFor
  cases request.path with
  | none => exact .refl _
  | some source => exact SourceIndex.perm_get same source

/-- A request leaves counterparts as they are, if the maps of its source load alike. -/
theorem Counterparts.ask (counterparts : Counterparts found others first second)
    (same : found.Perm others) {ask : Ask}
    (alike : Memo.Alike ask.tree ((requested found ask.request).map (·.file)))
    : Counterparts found others (first.ask ask) (second.ask ask) := by
  refine ⟨index_ask counterparts.index ask, index_ask counterparts.otherIndex ask, ?_⟩
  intro discovery member
  rw [find?_ask counterparts.index, find?_ask counterparts.otherIndex,
    counterparts.maps discovery member]
  refine congrArg _ (mapAmong?_congr (perm_foundFor same ask.request) ?_ discovery.file)
  intro a here b there twin
  have first := mem_requested_of_mem_foundFor here
  obtain ⟨known, key⟩ := List.mem_filter.mp (mem_requested_of_mem_foundFor there)
  have second : b ∈ requested found ask.request :=
    List.mem_filter.mpr ⟨same.mem_iff.mpr known, key⟩
  exact alike (List.mem_map_of_mem first) (List.mem_map_of_mem second) twin.1 twin.2

/-- And so do several, by induction along them. -/
theorem Counterparts.askAll (counterparts : Counterparts found others first second)
    (same : found.Perm others) {asks : List Ask}
    (alike : ∀ ask ∈ asks, Memo.Alike ask.tree ((requested found ask.request).map (·.file)))
    : Counterparts found others (first.askAll asks) (second.askAll asks) := by
  induction asks generalizing first second with
  | nil => exact counterparts
  | cons ask asks ih =>
      obtain ⟨here, later⟩ := List.forall_mem_cons.mp alike
      exact ih (counterparts.ask same here) later

/-- Requests add what their lookups give to what is predicted for a place. -/
theorem predicted_askAll {index : SourceIndex} (scanned : predictor.index = some index)
    (asks : List Ask) (location : FileLocation)
    : let final := predictor.askAll asks
      final.predicted location
        = predictor.predicted location
          ++ asks.flatMap fun ask =>
              (lookupsOf index final.memo location ask.request).filterMap (placeOf? location) := by
  intro final
  have predictions : final.predictions = _ :=
    (predicts_askAll scanned asks).predictions final.memo (.refl _)
  simp only [predicted, predictions, List.filter_append, List.map_append, List.filter_flatMap,
    List.map_flatMap, promised_at]

/-- Lookups in the same map for one source give the same places in the same file. -/
theorem places_congr {a b : Discovery} (same : a.content = b.content)
    (maps : memo.find? a.file = other.find? b.file) (location : FileLocation)
    (breakpoints : List SourceBreakpoint)
    : ((lookupsIn memo location breakpoints a).filterMap (placeOf? location)).map
          FileLocation.content
      = ((lookupsIn other location breakpoints b).filterMap (placeOf? location)).map
          FileLocation.content := by
  simp only [Discovery.content, Prod.mk.injEq] at same
  obtain ⟨url, -, path, -, -⟩ := same
  unfold lookupsIn
  rw [maps]
  cases (other.find? b.file).join with
  | none => rfl
  | some map =>
      simp only [List.filterMap_map, List.map_filterMap, Function.comp_def, placeOf?, url,
        Option.map_map, FileLocation.content, path]

/-- The order of arrival does not matter to which places the lookups of a request lead to. -/
theorem perm_lookups (counterparts : Counterparts found others first second)
    (same : found.Perm others) (location : FileLocation) (request : BreakpointRequest)
    : (((lookupsOf (.ofDiscoveries found) first.memo location request).filterMap
            (placeOf? location)).map FileLocation.content).Perm
        (((lookupsOf (.ofDiscoveries others) second.memo location request).filterMap
            (placeOf? location)).map FileLocation.content) := by
  unfold lookupsOf
  split
  case isFalse => exact .refl _
  case isTrue =>
    simp only [List.filterMap_flatMap, List.map_flatMap]
    refine perm_flatMap_of_perm_map (SourceIndex.perm_get same location.path) ?_
    intro a here b there equal
    refine places_congr equal ?_ location request.breakpoints
    have known := ((SourceIndex.covers_ofDiscoveries found).sound here).1
    rw [counterparts.maps a known, Memo.find?_congr (twin_of_content equal)]

/-- Counterparts predict the same. -/
theorem Counterparts.perm_predicted (counterparts : Counterparts found others first second)
    (same : found.Perm others) (before : first.predictions = second.predictions) {asks : List Ask}
    (alike : ∀ ask ∈ asks, Memo.Alike ask.tree ((requested found ask.request).map (·.file)))
    (location : FileLocation)
    : (((first.askAll asks).predicted location).map FileLocation.content).Perm
        (((second.askAll asks).predicted location).map FileLocation.content) := by
  have final := counterparts.askAll same alike
  have start : first.predicted location = second.predicted location := by
    rw [predicted, predicted, before]
  rw [predicted_askAll counterparts.index, predicted_askAll counterparts.otherIndex, start,
    List.map_append, List.map_append, List.map_flatMap, List.map_flatMap]
  exact (List.Perm.flatMap_left asks fun ask _ =>
    perm_lookups final same location ask.request).append_left _

/-- In whichever order discoveries arrive, the index has each of them once under its key and counts
the keys, a source has its compiled files in strictly increasing order, and all that is so for the
other order up to the order and the spelling of paths.  So are the predictions that requests add, if
discoveries of one source, one compiled file and one time load alike when they are asked for: as
they do if their maps have one URL.
-/
theorem arrival_order_unseen (same : found.Perm others)
    : let index := SourceIndex.ofDiscoveries found
      let otherIndex := SourceIndex.ofDiscoveries others
      index.Catalogues found
      ∧ (∀ source,
          ((index.get source).map Discovery.content).Perm
            ((otherIndex.get source).map Discovery.content)
          ∧ (index.compiledPaths source).map Path.components
            = (otherIndex.compiledPaths source).map Path.components)
      ∧ (∀ {first second},
          Counterparts found others first second
          → first.predictions = second.predictions
          → ∀ asks,
            (∀ ask ∈ asks, Memo.Alike ask.tree ((requested found ask.request).map (·.file)))
            → ∀ location,
              (((first.askAll asks).predicted location).map FileLocation.content).Perm
                (((second.askAll asks).predicted location).map FileLocation.content))
      ∧ ∀ request,
          (∀ a ∈ requested found request, ∀ b ∈ requested found request,
            Memo.Twin a.file b.file → a.file.mapUrl = b.file.mapUrl)
          → ∀ tree, Memo.Alike tree ((requested found request).map (·.file)) := by
  refine ⟨SourceIndex.catalogues_ofDiscoveries found, fun source => ?_, ?_, ?_⟩
  · exact ⟨SourceIndex.perm_get same source, SourceIndex.compiledPaths_of_perm same source⟩
  · intro first second counterparts before asks alike location
    exact counterparts.perm_predicted same before alike location
  · intro request urls tree file other member also components modified
    obtain ⟨a, here, rfl⟩ := List.mem_map.mp member
    obtain ⟨b, there, rfl⟩ := List.mem_map.mp also
    have twin : Memo.Twin a.file b.file := ⟨components, modified⟩
    rw [SourceMap.load_congr twin (urls a here b there twin)]

/-- A predictor in whose workspace this was discovered. -/
def startWith (found : List Discovery) : Predictor :=
  { startPredictor with index := some (.ofDiscoveries found) }

/-- A source that came to light in a compiled file. -/
def startIn (source : String) (file : CompiledFile) : Discovery :=
  ⟨"file:///w/a.ts", Path.ofString source, file⟩

/-- Spellings of a source that came to light in two compiled files, one of them twice. -/
def respelled : List Discovery :=
  [startIn "/w/a.ts" startFile,
    startIn "/w/b/../a.ts" { startFile with path := Path.ofString "/w/b.js" },
    startIn "/w/./a.ts" { startFile with path := Path.ofString "/w//a.js" }]

theorem arrival_order_unseen_respelled
    : let location : FileLocation := ⟨Path.ofString "/w/a.ts", 1, 1⟩
      let predicted (found : List Discovery) :=
        ((startWith found).askAll [askIn 1]).predicted location
      predicted respelled = [⟨Path.ofString "/w/a.js", 1, 1⟩, ⟨Path.ofString "/w/b.js", 1, 1⟩]
      ∧ ((predicted respelled).map FileLocation.content).Perm
          ((predicted respelled.reverse).map FileLocation.content) := by
  intro location predicted
  have urls : ∀ a ∈ requested respelled (askIn 1).request,
      ∀ b ∈ requested respelled (askIn 1).request,
        Memo.Twin a.file b.file → a.file.mapUrl = b.file.mapUrl := by decide +kernel
  obtain ⟨-, -, predicts, load⟩ := arrival_order_unseen (List.reverse_perm respelled).symm
  have counterparts : Counterparts respelled respelled.reverse (startWith respelled)
      (startWith respelled.reverse) := ⟨rfl, rfl, fun _ _ => rfl⟩
  refine ⟨by decide +kernel, predicts counterparts rfl [askIn 1] ?_ location⟩
  intro ask member
  obtain rfl := List.mem_singleton.mp member
  exact load _ urls _

/-- The map has its one mapping in the second line. -/
def laterMapUrl : String :=
  "data:,\x7b\"version\":3,\"sources\":[\"file:///w/a.ts\"],\"mappings\":\";AAAA\"\x7d"

/-- Where two discoveries of a source, a compiled file and a time have different maps, the first one
to arrive decides what both predict.
-/
theorem arrival_order_seen_by_memo
    : let near := startIn "/w/a.ts" startFile
      let far := startIn "/w/a.ts" { startFile with mapUrl := laterMapUrl }
      let predicted (found : List Discovery) :=
        ((startWith found).askAll [askIn 1]).predicted ⟨Path.ofString "/w/a.ts", 1, 1⟩
      [near, far].Perm [far, near]
      ∧ ¬ ((predicted [near, far]).map FileLocation.content).Perm
          ((predicted [far, near]).map FileLocation.content) := by
  intro near far predicted
  have first : predicted [near, far]
      = [⟨Path.ofString "/w/a.js", 1, 1⟩, ⟨Path.ofString "/w/a.js", 1, 1⟩] := by decide +kernel
  have second : predicted [far, near]
      = [⟨Path.ofString "/w/a.js", 2, 1⟩, ⟨Path.ofString "/w/a.js", 2, 1⟩] := by decide +kernel
  refine ⟨List.Perm.swap far near [], ?_⟩
  rw [first, second]
  decide +kernel

end Predictor

end EarlyBreak
