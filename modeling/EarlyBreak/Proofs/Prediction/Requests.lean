import EarlyBreak.Proofs.Prediction.Loading

/-! What requests add to the predictions.  The workspace is scanned for the first of them, and from
then on each adds what the index and the maps of its source promise.
-/

namespace EarlyBreak.Predictor

open SourceMap (Memo)

/-- A request, with the workspace and the time when it is made. -/
structure Ask where
  tree : FileTree
  now : Nat
  request : BreakpointRequest

/-- The predictor after a request. -/
def ask (predictor : Predictor) (ask : Ask) : Predictor :=
  (predictor.predict ask.tree ask.now ask.request).1

/-- The predictor after several requests. -/
def askAll (predictor : Predictor) (asks : List Ask) : Predictor := asks.foldl ask predictor

/-- What a compiled file adds to the predictions, by what is known of its map. -/
def placesIn (memo : Memo) (source : Path) (breakpoints : List SourceBreakpoint)
    (found : Discovery) : List Prediction :=
  match (memo.find? found.file).join with
  | none => []
  | some map => breakpoints.filterMap (place? map found source)

/-- The compiled files that a request is translated to. -/
def foundFor (index : SourceIndex) (request : BreakpointRequest) : List Discovery :=
  match request.path with
  | none => []
  | some source => index.get source

/-- What a request adds to the predictions. -/
def promised (index : SourceIndex) (memo : Memo) (request : BreakpointRequest) :
    List Prediction :=
  match request.path with
  | none => []
  | some source => (index.get source).flatMap (placesIn memo source request.breakpoints)

/-- What predicting adds to a predictor: the maps of some files are asked for, and there are new
predictions, by what is known of maps at any later time.
-/
structure Predicts (before after : Predictor) (found : List Discovery)
    (new : Memo → List Prediction) : Prop where
  index : after.index = before.index
  grows : before.memo.Grows after.memo
  answered : ∀ discovery ∈ found, ∃ known, after.memo.find? discovery.file = some known
  predictions
    : ∀ memo, after.memo.Grows memo → after.predictions = before.predictions ++ new memo

section Predicting

variable {before middle after predictor : Predictor} {found more : List Discovery}
  {new newer : Memo → List Prediction} {index : SourceIndex}

theorem Predicts.refl (predictor : Predictor) : Predicts predictor predictor [] fun _ => [] where
  index := rfl
  grows := .refl _
  answered := nofun
  predictions := fun _ _ => (List.append_nil _).symm

/-- What is added one after the other is added in all. -/
theorem Predicts.trans (first : Predicts before middle found new)
    (second : Predicts middle after more newer)
    : Predicts before after (found ++ more) fun memo => new memo ++ newer memo where
  index := second.index.trans first.index
  grows := first.grows.trans second.grows
  answered := by
    intro discovery member
    rcases List.mem_append.mp member with earlier | later
    · obtain ⟨known, answer⟩ := first.answered discovery earlier
      exact ⟨known, second.grows _ _ answer⟩
    · exact second.answered discovery later
  predictions := by
    intro memo grows
    rw [second.predictions memo grows, first.predictions memo (second.grows.trans grows),
      List.append_assoc]

/-- One discovery predicts its own places, and is looked up once. -/
theorem predicts_in (source : Path) (breakpoints : List SourceBreakpoint) (tree : FileTree)
    (predictor : Predictor) (discovery : Discovery)
    : Predicts predictor (predictIn source breakpoints tree predictor discovery) [discovery]
        (placesIn · source breakpoints discovery) := by
  obtain ⟨answer, grows⟩ := predictor.memo.load_grows tree discovery.file
  unfold predictIn mapOf
  cases loaded : predictor.memo.load tree discovery.file with
  | mk map memo =>
      rw [loaded] at answer grows
      have known (later : Memo) (still : memo.Grows later)
          : (later.find? discovery.file).join = map := by
        rw [still _ _ answer, Option.join_some]
      have answered : ∀ other ∈ [discovery], ∃ known, memo.find? other.file = some known := by
        intro other member
        exact ⟨map, List.mem_singleton.mp member ▸ answer⟩
      cases map with
      | none =>
          refine ⟨rfl, grows, answered, fun later still => ?_⟩
          simp only [placesIn, known later still, List.append_nil]
      | some map =>
          refine ⟨rfl, grows, answered, fun later still => ?_⟩
          simp only [placesIn, known later still]

/-- The compiled files of a source add to the predictions one after the other. -/
theorem predicts_foldl (source : Path) (breakpoints : List SourceBreakpoint) (tree : FileTree)
    (predictor : Predictor) (found : List Discovery)
    : Predicts predictor (found.foldl (predictIn source breakpoints tree) predictor) found
        fun memo => found.flatMap (placesIn memo source breakpoints) := by
  induction found generalizing predictor with
  | nil => exact .refl predictor
  | cons discovery rest ih => exact (predicts_in source breakpoints tree predictor _).trans (ih _)

/-- Once the workspace was scanned a request adds what it promises. -/
theorem predicts_ask (scanned : predictor.index = some index) (ask : Ask)
    : Predicts predictor (predictor.ask ask) (foundFor index ask.request)
        (promised index · ask.request) := by
  unfold Predictor.ask predict promised foundFor
  cases ask.request.path with
  | none => exact .refl predictor
  | some source =>
      simp only [prepare, scanned]
      exact predicts_foldl source ask.request.breakpoints ask.tree predictor (index.get source)

/-- And so do several requests, by induction along them. -/
theorem predicts_askAll (scanned : predictor.index = some index) (asks : List Ask)
    : Predicts predictor (predictor.askAll asks) (asks.flatMap (foundFor index ·.request))
        fun memo => asks.flatMap (promised index memo ·.request) := by
  induction asks generalizing predictor with
  | nil => exact .refl predictor
  | cons ask asks ih =>
      have first := predicts_ask scanned ask
      exact first.trans (ih (first.index.trans scanned))

/-- A question that was asked before finds the index. -/
theorem index_prepare (predictor : Predictor) (tree : FileTree) (now : Nat)
    : (predictor.prepare tree now).2.1.index = some (predictor.prepare tree now).1 := by
  unfold prepare
  split
  case h_1 known => exact known
  case h_2 => rfl

/-- A request keeps a predictor informed: its maps come from the tree that the scan has left. -/
theorem Informed.ask {trees : FileTree → Prop} (informed : Informed trees predictor) (ask : Ask)
    (there : trees ask.tree)
    : Informed trees (predictor.ask ask) := by
  have surveying : Surveying trees predictor.predictions predictor ask.tree :=
    ⟨informed, there, rfl⟩
  have prepared := surveying.prepare ask.now
  unfold Predictor.ask predict
  cases ask.request.path with
  | none => exact informed
  | some source => exact prepared.informed.foldl prepared.tree source _ _

theorem Informed.askAll {trees : FileTree → Prop} (informed : Informed trees predictor)
    (asks : List Ask) (there : ∀ ask ∈ asks, trees ask.tree)
    : Informed trees (predictor.askAll asks) := by
  induction asks generalizing predictor with
  | nil => exact informed
  | cons ask asks ih =>
      have first := informed.ask ask (there ask List.mem_cons_self)
      exact ih first fun other member => there other (List.mem_cons_of_mem ask member)

end Predicting

end EarlyBreak.Predictor
