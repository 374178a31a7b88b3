import EarlyBreak.Proofs.Prediction.Arrival

/-! What is predicted for a place that is asked for again.  The log keeps what each request added,
and the memo keeps the map that was loaded first; so a place has the same compiled places for every
request, and has them once for each of them.
-/

namespace EarlyBreak.Predictor

open SourceMap (Memo)

variable {predictor : Predictor} {tree later : FileTree} {now fuel : Nat} {index : SourceIndex}
  {memo other : Memo} {file : CompiledFile}

/-- Whatever one memo knows the map of, the other one knows a map of as well. -/
def Covered (memo other : Memo) : Prop :=
  ∀ file, (memo.find? file).isSome = true → (other.find? file).isSome = true

/-- Whether maps of all discoveries are known. -/
def Known (memo : Memo) (found : List Discovery) : Prop :=
  ∀ discovery ∈ found, (memo.find? discovery.file).isSome = true

theorem known_sourcesIn {resolver : SourceResolver} {map : SourceMap}
    (known : (memo.find? file).isSome = true)
    : Known memo (sourcesIn resolver file map) := by
  intro discovery member
  obtain ⟨url, -, resolved⟩ := List.mem_filterMap.mp member
  obtain ⟨path, -, rfl⟩ := Option.map_eq_some_iff.mp resolved
  exact known

/-- A step that stores nothing, as no step does without a cache. -/
def Step.IsBare (step : Step) : Prop := ∀ file found, step ≠ .store file found

/-- What a step does without a cache: it forgets no map, it leads to a step that stores nothing, and
it finishes with discoveries whose maps are known.
-/
structure Learns (before : Predictor) (progress : Progress) (after : Predictor) : Prop where
  cache : after.cache = none
  keeps : Covered before.memo after.memo
  next : ∀ {step}, progress = .next step → step.IsBare
  finished : ∀ {found}, progress = .finished found → Known after.memo found

/-- Without a cache a file is learned once its map is loaded. -/
theorem afterLoad_learns (bare : predictor.cache = none) {map : Option SourceMap}
    {after : Predictor} (still : after.cache = none) (keeps : Covered predictor.memo after.memo)
    (known : (after.memo.find? file).isSome = true)
    : Learns predictor (predictor.afterLoad file map) after := by
  cases map with
  | none =>
      refine ⟨still, keeps, by rintro _ ⟨⟩, ?_⟩
      rintro _ ⟨⟩ _ ⟨⟩
  | some map =>
      simp only [afterLoad, bare, Option.isSome_none, Bool.false_eq_true, if_false]
      refine ⟨still, keeps, by rintro _ ⟨⟩, ?_⟩
      rintro _ ⟨⟩
      exact known_sourcesIn known

/-- And so is each file that is asked for. -/
theorem askFor_learns (bare : predictor.cache = none) (file : CompiledFile)
    : Learns predictor (predictor.askFor file).1 (predictor.askFor file).2 := by
  rw [askFor]
  split
  case h_1 map known => exact afterLoad_learns bare bare (fun _ => id) (by simp [known])
  case h_2 =>
    refine ⟨bare, fun _ => id, ?_, by rintro _ ⟨⟩⟩
    rintro _ ⟨⟩ _ _ ⟨⟩

/-- Without a cache maps are loaded from the tree, which stays as it is. -/
theorem take_learns (bare : predictor.cache = none) (tree : FileTree) (now : Nat) {step : Step}
    (plain : step.IsBare)
    : Learns predictor (predictor.take tree now step).1 (predictor.take tree now step).2.1 := by
  cases step with
  | start file =>
      simp only [take, bare, Option.isSome_none, Bool.false_eq_true, if_false]
      exact askFor_learns bare file
  | lookup file =>
      simp only [take, cached, bare]
      exact askFor_learns bare file
  | load file =>
      have inserted (other : CompiledFile) := predictor.memo.find?_insert file other
        (SourceMap.load tree file).toOption
      rw [take]
      refine afterLoad_learns bare bare (fun other known => ?_) ?_
      · rw [inserted]
        split
        · rfl
        · exact known
      · rw [inserted, if_pos ⟨rfl, rfl⟩, Option.isSome_some]
  | store file found => exact absurd rfl (plain file found)

/-- Without a cache a scan knows the maps of all that it brings to light, by induction on the steps
that are left.
-/
theorem runSteps_learns {inFlight : List Step} (bare : predictor.cache = none)
    (plain : ∀ step ∈ inFlight, step.IsBare) (waiting : List CompiledFile) (tree : FileTree)
    : let outcome := runSteps now fuel inFlight waiting predictor tree
      Covered predictor.memo outcome.2.1.memo ∧ Known outcome.2.1.memo outcome.1 := by
  induction fuel generalizing inFlight waiting predictor tree with
  | zero =>
      rw [runSteps]
      · exact ⟨fun _ => id, List.forall_mem_nil _⟩
      · rintro _ _ _ ⟨⟩
  | succ fuel ih =>
      cases inFlight with
      | nil =>
          rw [runSteps]
          · exact ⟨fun _ => id, List.forall_mem_nil _⟩
          · rintro _ _ _ _ ⟨⟩
      | cons step rest =>
          obtain ⟨first, others⟩ := List.forall_mem_cons.mp plain
          have learns := take_learns bare tree now first
          cases taken : predictor.take tree now step with
          | mk progress state =>
              obtain ⟨after, later⟩ := state
              rw [taken] at learns
              cases progress with
              | next next =>
                  have flying : ∀ step ∈ rest ++ [next], step.IsBare := by
                    intro step member
                    rcases List.mem_append.mp member with old | new
                    · exact others step old
                    · exact List.mem_singleton.mp new ▸ learns.next rfl
                  obtain ⟨covered, known⟩ := ih learns.cache flying waiting later
                  simp only [runSteps, taken]
                  exact ⟨fun file here => covered file (learns.keeps file here), known⟩
              | finished found =>
                  have flying : ∀ step ∈ (waiting.take 1).map Step.start ++ rest, step.IsBare := by
                    intro step member
                    rcases List.mem_append.mp member with new | old
                    · obtain ⟨file, -, rfl⟩ := List.mem_map.mp new
                      rintro _ _ ⟨⟩
                    · exact others step old
                  obtain ⟨covered, known⟩ := ih learns.cache flying (waiting.drop 1) later
                  simp only [runSteps, taken]
                  refine ⟨fun file here => covered file (learns.keeps file here), ?_⟩
                  intro discovery member
                  rcases List.mem_append.mp member with here | there
                  · exact covered _ (learns.finished rfl discovery here)
                  · exact known discovery there

/-- After a scan without a cache all that it found is known. -/
theorem scan_learns (bare : predictor.cache = none) (tree : FileTree) (now : Nat)
    : Known (predictor.scan tree now).2.1.memo (predictor.scan tree now).1 := by
  have begun (longScans : List LongScan) (files : List CompiledFile)
      : let outcome := { predictor with longScans }.discoverAll tree now files
        Known outcome.2.1.memo outcome.1 := by
    have still : ({ predictor with longScans } : Predictor).cache = none := bare
    refine (runSteps_learns still ?_ _ tree).2
    intro step member
    obtain ⟨file, -, rfl⟩ := List.mem_map.mp member
    rintro _ _ ⟨⟩
  rw [scan]
  cases predictor.options.outFiles.isEmpty with
  | true => exact List.forall_mem_nil _
  | false => exact begun _ _

/-- So the maps of all that is in the index are known after it was made. -/
theorem known_of_mem_prepare (bare : predictor.cache = none) (new : predictor.index = none)
    {source : Path} {discovery : Discovery}
    (listed : discovery ∈ (predictor.prepare tree now).1.get source)
    : ((predictor.prepare tree now).2.1.memo.find? discovery.file).isSome = true := by
  have known := scan_learns bare tree now
  simp only [prepare, new] at listed ⊢
  exact known discovery ((SourceIndex.covers_ofDiscoveries _).sound listed).1

theorem mapAmong?_append (tree : FileTree) (found listed : List Discovery) (file : CompiledFile)
    : mapAmong? tree (found ++ listed) file
      = (mapAmong? tree found file).or (mapAmong? tree listed file) := by
  unfold mapAmong?
  rw [List.find?_append, Option.map_or]

/-- Requests in one tree ask for the maps of their discoveries in order. -/
theorem find?_askAll (scanned : predictor.index = some index) {asks : List Ask}
    (there : ∀ ask ∈ asks, ask.tree = tree) (file : CompiledFile)
    : (predictor.askAll asks).memo.find? file
      = (predictor.memo.find? file).or
          (mapAmong? tree (asks.flatMap (foundFor index ·.request)) file) := by
  induction asks generalizing predictor with
  | nil => simp [askAll, mapAmong?]
  | cons ask asks ih =>
      obtain ⟨here, others⟩ := List.forall_mem_cons.mp there
      have later := ih (index_ask scanned ask) others
      rw [askAll, List.foldl_cons, List.flatMap_cons, mapAmong?_append, ← Option.or_assoc, ← here,
        ← find?_ask scanned ask file, here]
      exact later

theorem exists_get_of_mem_foundFor {discovery : Discovery} {request : BreakpointRequest}
    (member : discovery ∈ foundFor index request)
    : ∃ source, discovery ∈ index.get source := by
  unfold foundFor at member
  split at member
  case h_1 => cases member
  case h_2 source _ => exact ⟨source, member⟩

/-- Whether all discoveries of an index load alike that a memo does not tell apart, unless it knows
their map already.
-/
def Unambiguous (index : SourceIndex) (memo : Memo) (tree : FileTree) : Prop :=
  ∀ source a other b, a ∈ index.get source → b ∈ index.get other → Memo.Twin a.file b.file
    → memo.find? b.file = none
    → (SourceMap.load tree a.file).toOption = (SourceMap.load tree b.file).toOption

/-- Without ambiguity, a discovery that is asked for has its own map, whatever was asked for before.
-/
theorem find?_askAll_of_unambiguous (scanned : predictor.index = some index)
    (unambiguous : Unambiguous index predictor.memo tree) {asks : List Ask}
    (there : ∀ ask ∈ asks, ask.tree = tree) {discovery : Discovery}
    (asked : discovery ∈ asks.flatMap (foundFor index ·.request))
    : (predictor.askAll asks).memo.find? discovery.file
      = (predictor.memo.find? discovery.file).or
          (some (SourceMap.load tree discovery.file).toOption) := by
  have inIndex {other : Discovery} (member : other ∈ asks.flatMap (foundFor index ·.request))
      : ∃ source, other ∈ index.get source := by
    obtain ⟨ask, -, member⟩ := List.mem_flatMap.mp member
    exact exists_get_of_mem_foundFor member
  rw [find?_askAll scanned there]
  cases known : predictor.memo.find? discovery.file with
  | some map => rfl
  | none =>
      obtain ⟨source, listed⟩ := inIndex asked
      rw [Option.none_or, Option.none_or, mapAmong?]
      cases first : (asks.flatMap (foundFor index ·.request)).find?
          (fun other => Memo.Twin other.file discovery.file) with
      | none =>
          have apart := List.find?_eq_none.mp first discovery asked
          exact absurd (decide_eq_true ⟨rfl, rfl⟩) apart
      | some other =>
          have twin : Memo.Twin other.file discovery.file := by simpa using List.find?_some first
          obtain ⟨source', also⟩ := inIndex (List.mem_of_find?_eq_some first)
          rw [Option.map_some, unambiguous source' other source discovery also listed twin known]

/-- The compiled places of a place in a source, by an index and what is known of maps. -/
def placesAt (index : SourceIndex) (memo : Memo) (location : FileLocation) : List FileLocation :=
  (index.get location.path).flatMap fun found =>
    ((memo.find? found.file).join.bind fun map => placeOf? location (found, map)).toList

/-- A request for a single breakpoint adds the compiled places of its place, and for no other. -/
theorem lookups_single (index : SourceIndex) (memo : Memo) (location : FileLocation)
    (source : Path) (breakpoint : SourceBreakpoint)
    : (lookupsOf index memo location ⟨some source, [breakpoint]⟩).filterMap (placeOf? location)
      = if (⟨source, breakpoint.line, breakpoint.columnOrFirst⟩ : FileLocation).same location then
          placesAt index memo location
        else [] := by
  have there : (⟨source, breakpoint.line, breakpoint.columnOrFirst⟩ : FileLocation).same location
      = (source.same location.path && breakpoint.isAt location) := by
    rw [FileLocation.same, SourceBreakpoint.isAt, Bool.and_assoc]
  have single (found : Discovery)
      : (lookupsIn memo location [breakpoint] found).filterMap (placeOf? location)
        = if breakpoint.isAt location then
            ((memo.find? found.file).join.bind fun map => placeOf? location (found, map)).toList
          else [] := by
    unfold lookupsIn
    cases (memo.find? found.file).join with
    | none => simp
    | some map =>
        cases isAt : breakpoint.isAt location with
        | false => simp [isAt]
        | true => cases given : placeOf? location (found, map) <;> simp [isAt, given]
  rw [there, lookupsOf, Option.any_some]
  cases source.same location.path with
  | false => rfl
  | true =>
      rw [if_pos rfl, Bool.true_and, placesAt, List.filterMap_flatMap]
      simp only [single]
      cases breakpoint.isAt location <;> simp

end EarlyBreak.Predictor
