import EarlyBreak.Prediction.Predictor.Scan
import Mathlib

/-! A scan of compiled files as a whole.  Whatever the files in flight do in which order, every file
is finished exactly once, so that the scan finds what the files bring to light one by one.
-/

namespace EarlyBreak.Predictor

variable {predictor after : Predictor} {tree later : FileTree} {now fuel : Nat} {step next : Step}
  {inFlight : List Step} {waiting files : List CompiledFile} {found : List Discovery}

namespace Step

/-- The compiled file of a step. -/
def file : Step → CompiledFile
  | start file => file
  | lookup file => file
  | load file => file
  | store file _ => file

/-- The most steps that are left, this one included. -/
def left : Step → Nat
  | start _ => 4
  | lookup _ => 3
  | load _ => 2
  | store _ _ => 1

theorem left_pos (step : Step)
    : 0 < step.left := by
  cases step <;> simp [left]

end Step

/-- Once a map is loaded only storing its file is left. -/
theorem afterLoad_next {file : CompiledFile} {map : Option SourceMap}
    (goesOn : predictor.afterLoad file map = .next next)
    : next.file = file ∧ next.left = 1 := by
  cases map with
  | none => cases goesOn
  | some map =>
      simp only [afterLoad] at goesOn
      split at goesOn
      · cases goesOn
        exact ⟨rfl, rfl⟩
      · cases goesOn

/-- A file that is asked for has two steps left at most. -/
theorem askFor_next {file : CompiledFile} (goesOn : (predictor.askFor file).1 = .next next)
    : next.file = file ∧ next.left ≤ 2 := by
  simp only [askFor] at goesOn
  split at goesOn
  · obtain ⟨same, left⟩ := afterLoad_next goesOn
    exact ⟨same, by rw [left]; decide⟩
  · cases goesOn
    exact ⟨rfl, Nat.le_refl 2⟩

/-- A step leads to another one of its file, and to fewer of them. -/
theorem take_next (goesOn : predictor.take tree now step = (.next next, after, later))
    : next.file = step.file ∧ next.left < step.left := by
  cases step with
  | start file =>
      simp only [take] at goesOn
      split at goesOn
      · cases goesOn
        exact ⟨rfl, by simp [Step.left]⟩
      · obtain ⟨same, left⟩ := askFor_next (congrArg Prod.fst goesOn)
        exact ⟨same, Nat.lt_of_le_of_lt left (by simp [Step.left])⟩
  | lookup file =>
      simp only [take] at goesOn
      split at goesOn
      · cases goesOn
      · obtain ⟨same, left⟩ := askFor_next (congrArg Prod.fst goesOn)
        exact ⟨same, Nat.lt_of_le_of_lt left (by simp [Step.left])⟩
  | load file =>
      obtain ⟨same, last⟩ := afterLoad_next (congrArg Prod.fst goesOn)
      exact ⟨same, by rw [last]; simp [Step.left]⟩
  | store file found => cases congrArg Prod.fst goesOn

/-- What each step of a scan has to do: to keep what holds of the predictor and its tree, to leave
the next step sound, and to finish with something that the file may bring to light.
-/
structure Delivers (now : Nat) (holds : Predictor → FileTree → Prop) (sound : Step → Prop)
    (brings : CompiledFile → List Discovery → Prop) : Prop where
  goesOn : ∀ {predictor tree step next after later},
    holds predictor tree → sound step
    → predictor.take tree now step = (.next next, after, later)
    → holds after later ∧ sound next
  finishes : ∀ {predictor tree step found after later},
    holds predictor tree → sound step
    → predictor.take tree now step = (.finished found, after, later)
    → holds after later ∧ brings step.file found

/-- Discoveries are put together from what each of some files brings to light, in any order. -/
inductive Assembled (brings : CompiledFile → List Discovery → Prop) :
    List CompiledFile → List Discovery → Prop where
  | nil : Assembled brings [] []
  | cons {file files found more}
      : brings file found
        → Assembled brings files more
        → Assembled brings (file :: files) (found ++ more)
  | reorder {files others found}
      : Assembled brings files found
        → files.Perm others
        → Assembled brings others found

variable {holds : Predictor → FileTree → Prop} {sound : Step → Prop}
  {brings : CompiledFile → List Discovery → Prop}

/-- If it is settled what each file brings to light, only the order is open. -/
theorem Assembled.perm {finds : CompiledFile → List Discovery}
    (assembled : Assembled brings files found)
    (settled : ∀ file ∈ files, ∀ found, brings file found → found = finds file)
    : found.Perm (files.flatMap finds) := by
  induction assembled with
  | nil => exact .refl _
  | @cons file files found more brought _ ih =>
      obtain rfl := settled file List.mem_cons_self found brought
      exact (ih fun other member => settled other (List.mem_cons_of_mem _ member)).append_left _
  | reorder _ same ih =>
      exact (ih fun file member => settled file (same.mem_iff.mp member)).trans
        (same.flatMap_right finds)

/-- All files in flight and all that wait are finished, by induction on the steps that are left. -/
theorem runSteps_assembled (delivers : Delivers now holds sound brings)
    (held : holds predictor tree) (soundly : ∀ step ∈ inFlight, sound step)
    (starts : ∀ file ∈ waiting, sound (.start file)) (busy : inFlight = [] → waiting = [])
    (enough : (inFlight.map Step.left).sum + 4 * waiting.length ≤ fuel)
    : let outcome := runSteps now fuel inFlight waiting predictor tree
      holds outcome.2.1 outcome.2.2
        ∧ Assembled brings (inFlight.map Step.file ++ waiting) outcome.1 := by
  induction fuel generalizing inFlight waiting predictor tree with
  | zero =>
      have idle : inFlight = [] := by
        cases inFlight with
        | nil => rfl
        | cons step rest =>
            have positive := step.left_pos
            simp only [List.map_cons, List.sum_cons] at enough
            omega
      simp only [runSteps, idle, busy idle]
      exact ⟨held, .nil⟩
  | succ fuel ih =>
      cases inFlight with
      | nil =>
          simp only [runSteps, busy rfl]
          exact ⟨held, .nil⟩
      | cons step rest =>
          have first := soundly step List.mem_cons_self
          have others := fun step member => soundly step (List.mem_cons_of_mem _ member)
          simp only [List.map_cons, List.sum_cons] at enough
          cases taken : predictor.take tree now step with
          | mk progress state =>
              obtain ⟨after, later⟩ := state
              cases progress with
              | next next =>
                  obtain ⟨kept, still⟩ := delivers.goesOn held first taken
                  obtain ⟨same, fewer⟩ := take_next taken
                  have flying : ∀ step ∈ rest ++ [next], sound step := by
                    intro step member
                    rcases List.mem_append.mp member with old | new
                    · exact others step old
                    · exact List.mem_singleton.mp new ▸ still
                  obtain ⟨keeps, all⟩ := ih kept flying starts (by simp) (by
                    simp only [List.map_append, List.map_cons, List.map_nil, List.sum_append,
                      List.sum_cons, List.sum_nil]
                    omega)
                  simp only [runSteps, taken]
                  refine ⟨keeps, all.reorder ?_⟩
                  simp only [List.map_append, List.map_cons, List.map_nil, same]
                  exact List.perm_append_comm.append_right waiting
              | finished found =>
                  obtain ⟨kept, brought⟩ := delivers.finishes held first taken
                  have flying : ∀ step ∈ (waiting.take 1).map Step.start ++ rest, sound step := by
                    intro step member
                    rcases List.mem_append.mp member with new | old
                    · obtain ⟨file, started, rfl⟩ := List.mem_map.mp new
                      exact starts file (List.mem_of_mem_take started)
                    · exact others step old
                  have fewer : (((waiting.take 1).map Step.start ++ rest).map Step.left).sum
                      + 4 * (waiting.drop 1).length ≤ fuel := by
                    have positive := step.left_pos
                    cases waiting with
                    | nil => simp at enough ⊢; omega
                    | cons file more =>
                        have whole : (Step.start file).left = 4 := rfl
                        simp [whole] at enough ⊢
                        omega
                  obtain ⟨keeps, all⟩ := ih kept flying
                    (fun file member => starts file (List.mem_of_mem_drop member))
                    (by cases waiting <;> simp) fewer
                  simp only [runSteps, taken]
                  refine ⟨keeps, .cons brought (all.reorder ?_)⟩
                  cases waiting with
                  | nil => simp
                  | cons file more => simpa [Step.file] using List.perm_middle.symm

/-- A scan finishes each of its files. -/
theorem discoverAll_assembled (delivers : Delivers now holds sound brings)
    (held : holds predictor tree) (starts : ∀ file ∈ files, sound (.start file))
    : let outcome := predictor.discoverAll tree now files
      holds outcome.2.1 outcome.2.2 ∧ Assembled brings files outcome.1 := by
  let width := max 1 predictor.options.concurrency
  have flying : ∀ step ∈ (files.take width).map Step.start, sound step := by
    intro step member
    obtain ⟨file, started, rfl⟩ := List.mem_map.mp member
    exact starts file (List.mem_of_mem_take started)
  have busy : (files.take width).map Step.start = [] → files.drop width = [] := by
    have positive : 0 < width := Nat.lt_of_lt_of_le Nat.zero_lt_one (Nat.le_max_left _ _)
    intro idle
    rw [List.map_eq_nil_iff, List.take_eq_nil_iff] at idle
    rcases idle with none | empty
    · omega
    · simp [empty]
  have weight (flying : List CompiledFile) :
      ((flying.map Step.start).map Step.left).sum = 4 * flying.length := by
    induction flying with
    | nil => rfl
    | cons file rest ih =>
        rw [List.map_cons, List.map_cons, List.sum_cons, ih, List.length_cons]
        simp only [Step.left]
        omega
  have enough : (((files.take width).map Step.start).map Step.left).sum
      + 4 * (files.drop width).length ≤ maxSteps * files.length := by
    rw [weight, List.length_take, List.length_drop, maxSteps]
    omega
  have names : ((files.take width).map Step.start).map Step.file = files.take width := by
    rw [List.map_map]
    exact List.map_id _
  have outcome := runSteps_assembled delivers held flying
    (fun file member => starts file (List.mem_of_mem_drop member)) busy enough
  rwa [names, List.take_append_drop] at outcome

end EarlyBreak.Predictor
