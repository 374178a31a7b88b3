import EarlyBreak.Proofs.Debugger.Simulated
import EarlyBreak.Proofs.Entry.Indices

/-! A registry and the simulated engine agree on what is installed, whatever fails on the way: a
breakpoint is there as long as some file waits on it, and it has to be removed exactly once, by the
hit that leaves no file waiting.
-/

namespace EarlyBreak.Entry

open Debugger

namespace Registry

variable {registry before after : Registry} {σ : Type}

-----------------------------------------------------------------------------------------
-- The breakpoints behind the slots
-----------------------------------------------------------------------------------------

/-- The breakpoint that a slot stands for, with its pattern. -/
def post? (registry : Registry) (slot : Nat) : Option (BreakpointId × String) :=
  (registry.record? slot).map fun record => (record.id, record.pattern)

/-- A post is held exactly if there is a record with its breakpoint and pattern. -/
theorem post?_eq_some_iff {slot : Nat} {id : BreakpointId} {pattern : String}
    : registry.post? slot = some (id, pattern)
      ↔ ∃ record,
          registry.record? slot = some record ∧ record.id = id ∧ record.pattern = pattern := by
  simp [post?]

theorem owns_iff_post? {id : BreakpointId}
    : registry.Owns id ↔ ∃ slot pattern, registry.post? slot = some (id, pattern) := by
  simp only [Owns, post?_eq_some_iff]
  constructor
  · rintro ⟨slot, record, live, named⟩
    exact ⟨slot, record.pattern, record, live, named, rfl⟩
  · rintro ⟨slot, -, record, live, named, -⟩
    exact ⟨slot, record, live, named⟩

theorem addPending_post? {slot : Nat} {record : Record}
    (live : registry.record? slot = some record) (file : String) (other : Nat)
    : (registry.addPending slot file).post? other = registry.post? other := by
  rw [post?, addPending_record? live, post?]
  split
  case isTrue same => simp [same, live]
  case isFalse => rfl

/-- A new record adds one post, in the slot where it is placed. -/
theorem Coherent.insert_post? (coherent : registry.Coherent) (record : Record)
    (matcher : Regex) (other : Nat)
    : (registry.insert record matcher).post? other
      = if other = (registry.place record).1 then some (record.id, record.pattern)
        else registry.post? other := by
  rw [post?, coherent.insert_record?, post?]
  split <;> rfl

/-- A record that loses a file and keeps another stays at its post. -/
theorem removePending_post?_of_some {slot : Nat} {record left : Record} {file : String}
    (live : registry.record? slot = some record) (rest : record.release [file] = some left)
    (other : Nat)
    : (registry.removePending slot record file).2.post? other = registry.post? other := by
  rw [post?, removePending_record? live, post?, rest]
  split
  case isTrue same => simp [same, live, Record.release_eq_some rest]
  case isFalse => rfl

/-- A record that loses its last file leaves its post, and no other does. -/
theorem removePending_post?_of_none {slot : Nat} {record : Record} {file : String}
    (live : registry.record? slot = some record) (rest : record.release [file] = none)
    (other : Nat)
    : (registry.removePending slot record file).2.post? other
      = if other = slot then none else registry.post? other := by
  rw [post?, removePending_record? live, post?, rest]
  split <;> rfl

theorem Coherent.owns_insert (coherent : registry.Coherent) (record : Record) (matcher : Regex)
    (id : BreakpointId)
    : (registry.insert record matcher).Owns id ↔ id = record.id ∨ registry.Owns id := by
  have vacant := coherent.record?_place record
  simp only [Owns, coherent.insert_record?]
  constructor
  · rintro ⟨slot, found, live, named⟩
    split at live
    · exact .inl (by rw [← named, Option.some.inj live])
    · exact .inr ⟨slot, found, live, named⟩
  · rintro (same | ⟨slot, found, live, named⟩)
    · exact ⟨(registry.place record).1, record, if_pos rfl, same.symm⟩
    · have elsewhere : slot ≠ (registry.place record).1 := by
        rintro rfl
        cases vacant.symm.trans live
      exact ⟨slot, found, by rw [if_neg elsewhere, live], named⟩

/-- Without its last file a record takes its breakpoint with it, and only that. -/
theorem Faithful.owns_removePending (faithful : registry.Faithful) {slot : Nat} {record : Record}
    {file : String} (live : registry.record? slot = some record)
    (rest : record.release [file] = none) (id : BreakpointId)
    : (registry.removePending slot record file).2.Owns id
      ↔ registry.Owns id ∧ id ≠ record.id := by
  simp only [Owns, removePending_record? live, rest]
  constructor
  · rintro ⟨other, found, alive, named⟩
    split at alive
    case isTrue => cases alive
    case isFalse elsewhere =>
      refine ⟨⟨other, found, alive, named⟩, ?_⟩
      rintro rfl
      exact elsewhere (faithful.slot_eq_of_id live alive named)
  · rintro ⟨⟨other, found, alive, named⟩, different⟩
    have elsewhere : other ≠ slot := by
      rintro rfl
      rw [live] at alive
      exact different (by rw [← named, Option.some.inj alive])
    exact ⟨other, found, by rw [if_neg elsewhere, alive], named⟩

-----------------------------------------------------------------------------------------
-- Which operation gives up a breakpoint
-----------------------------------------------------------------------------------------

/-- An operation is the hit of a breakpoint in a script of the only source that still waits on it.
-/
def Frees (registry : Registry) (id : BreakpointId) : Operation → Prop
  | .guard _ => False
  | .hit hit source =>
      hit = id
      ∧ ∃ slot record,
          registry.record? slot = some record
          ∧ record.id = id
          ∧ record.pending = [ScriptUrl.canonical source]

/-- An operation gives up a breakpoint exactly if it frees it, and then the record of the breakpoint
leaves its slot; every other record stays.
-/
structure GivesUp (before : Registry) (operation : Operation) (after : Registry)
    (given : Option BreakpointId) : Prop where
  frees : ∀ id, given = some id ↔ before.Frees id operation
  leaves
    : ∀ {slot record},
        before.record? slot = some record
        → (after.record? slot = none ↔ given = some record.id)

/-- Where nothing is freed and every slot in use stays in use, no breakpoint is given up. -/
theorem GivesUp.none {operation : Operation} (spares : ∀ id, ¬ before.Frees id operation)
    (stays : ∀ slot, before.post? slot ≠ Option.none → after.post? slot ≠ Option.none)
    : GivesUp before operation after .none where
  frees := fun id => iff_of_false nofun (spares id)
  leaves := by
    intro slot record live
    refine iff_of_false ?_ nofun
    simpa [post?, live] using stays slot

/-- A hit frees no breakpoint if nothing waits on it, or if some file is left that does. -/
theorem Faithful.not_frees_of_hit (faithful : registry.Faithful) {id : BreakpointId}
    {source : String}
    (kept
      : ∀ {slot record},
          registry.byBreakpoint.find? id = some slot
          → registry.record? slot = some record
          → record.pending ≠ [ScriptUrl.canonical source])
    (other : BreakpointId)
    : ¬ registry.Frees other (.hit id source) := by
  rintro ⟨rfl, slot, record, live, named, last⟩
  have found := faithful.named live
  rw [named] at found
  exact kept found live last

/-- With its last file a record gives up its breakpoint, and the others stay at their posts. -/
theorem Faithful.givesUp_some (faithful : before.Faithful) {id : BreakpointId} {source : String}
    {slot : Nat} {record : Record} (live : before.record? slot = some record)
    (named : record.id = id) (last : record.pending = [ScriptUrl.canonical source])
    (posts
      : ∀ other, after.post? other = if other = slot then Option.none else before.post? other)
    : GivesUp before (.hit id source) after (some id) where
  frees := by
    intro other
    constructor
    · rintro same
      obtain rfl := Option.some.inj same
      exact ⟨rfl, slot, record, live, named, last⟩
    · rintro ⟨rfl, -⟩
      rfl
  leaves := by
    intro other found alive
    have emptied := posts other
    constructor
    · intro vacant
      by_cases same : other = slot
      · rw [same, live] at alive
        rw [← Option.some.inj alive, named]
      · simp [post?, same, vacant, alive] at emptied
    · intro same
      have here : other = slot := by
        apply faithful.slot_eq_of_id live alive
        rw [named, Option.some.inj same]
      simpa [post?, here] using emptied

-----------------------------------------------------------------------------------------
-- Agreement with the engine
-----------------------------------------------------------------------------------------

/-- What a registry and the simulated engine agree on.  Installed is what the registry has and what
could not be removed; the ids are ones that were handed out; and what had to be removed, once each,
is none of the registry's.
-/
structure Agrees (registry : Registry) (target : Simulation) : Prop where
  coherent : registry.Coherent
  faithful : registry.Faithful
  installed
    : ∀ id,
        target.installed.has id = true ↔ registry.Owns id ∨ id ∈ target.failedRemovals
  placed
    : ∀ {slot id pattern},
        registry.post? slot = some (id, pattern)
        → target.installed.find? id = some (.atEntry pattern)
  issued : ∀ {id}, registry.Owns id ∨ id ∈ target.removals → target.Issued id
  once : target.removals.Nodup
  gone : ∀ {id}, id ∈ target.removals → ¬ registry.Owns id

theorem agrees_start : ({} : Registry).Agrees {} where
  coherent := coherent_empty
  faithful := faithful_empty
  installed := by
    intro id
    simp [not_owns_empty, Index.has, Index.find?, Simulation.failedRemovals]
  placed := by simp [post?, record?]
  issued := by simp [not_owns_empty, Simulation.removals]
  once := by simp [Simulation.removals]
  gone := by simp [Simulation.removals]

variable {target asked : Simulation}

/-- Agreement depends on the breakpoints behind the slots and on the engine's breakpoints only. -/
theorem Agrees.untouched (agrees : before.Agrees target) (coherent : after.Coherent)
    (faithful : after.Faithful) (posts : ∀ slot, after.post? slot = before.post? slot)
    (untouched : target.Untouched asked)
    : after.Agrees asked := by
  have owns (id : BreakpointId) : after.Owns id ↔ before.Owns id := by
    simp only [owns_iff_post?, posts]
  refine {
    coherent
    faithful
    installed := ?_
    placed := ?_
    issued := ?_
    once := ?_
    gone := ?_
  }
  · intro id
    rw [untouched.installed, untouched.failedRemovals, owns, agrees.installed]
  · intro slot id pattern post
    rw [untouched.installed]
    exact agrees.placed (posts slot ▸ post)
  · intro id known
    rw [untouched.removals, owns] at known
    exact Simulation.issued_mono (Nat.le_of_eq untouched.issued.symm) (agrees.issued known)
  · rw [untouched.removals]
    exact agrees.once
  · intro id removed
    rw [untouched.removals] at removed
    rw [owns]
    exact agrees.gone removed

/-- Agreement goes on when the engine sets a breakpoint under its next id and a new record stands
for it.
-/
theorem Agrees.insert (agrees : before.Agrees target) {record : Record} {matcher : Regex}
    (coherent : (before.insert record matcher).Coherent)
    (faithful : (before.insert record matcher).Faithful)
    (named : record.id = target.nextId (.atEntry record.pattern))
    (issued : asked.issued = target.issued + 1)
    (installed : asked.installed = target.installed.set record.id (.atEntry record.pattern))
    (removals : asked.removals = target.removals)
    (failedRemovals : asked.failedRemovals = target.failedRemovals)
    : (before.insert record matcher).Agrees asked := by
  have owns := agrees.coherent.owns_insert record matcher
  -- Ids count upwards, so the new one is neither in use nor given up before.
  have fresh {id : BreakpointId} (known : before.Owns id ∨ id ∈ target.removals)
      : id ≠ record.id := by
    rintro rfl
    exact target.not_issued_nextId _ (named ▸ agrees.issued known)
  refine {
    coherent
    faithful
    installed := ?_
    placed := ?_
    issued := ?_
    once := removals ▸ agrees.once
    gone := ?_
  }
  · intro id
    have before := agrees.installed id
    rw [Index.has] at before
    rw [installed, failedRemovals, owns, Index.has, Index.find?_set]
    by_cases same : id = record.id
    · simp [same]
    · simpa [same] using before
  · intro slot id pattern post
    rw [agrees.coherent.insert_post?] at post
    rw [installed, Index.find?_set]
    split at post
    · obtain ⟨rfl, rfl⟩ := Prod.mk.inj (Option.some.inj post)
      rw [if_pos rfl]
    · rw [if_neg (fresh (.inl (owns_iff_post?.mpr ⟨slot, pattern, post⟩)))]
      exact agrees.placed post
  · intro id known
    rw [owns, removals, or_assoc] at known
    rcases known with same | known
    · exact ⟨target.issued + 1, .atEntry record.pattern, Nat.le_of_eq issued.symm,
        same.trans named⟩
    · exact Simulation.issued_mono (by omega) (agrees.issued known)
  · intro id removed
    rw [removals] at removed
    rw [owns, not_or]
    exact ⟨fresh (.inr removed), agrees.gone removed⟩

/-- Agreement goes on when a record loses its last file and its breakpoint has to be removed,
whether or not that fails.
-/
theorem Agrees.removePending (agrees : before.Agrees target) {slot : Nat} {record : Record}
    {file : String} (live : before.record? slot = some record)
    (rest : record.release [file] = none)
    (coherent : (before.removePending slot record file).2.Coherent)
    (faithful : (before.removePending slot record file).2.Faithful)
    {reply : Reply}
    (replied : Engine.perform (.removeBreakpoint record.id) target = (reply, asked))
    : (before.removePending slot record file).2.Agrees asked
      ∧ asked.removals = target.removals ++ [record.id] := by
  have owns := agrees.faithful.owns_removePending live rest
  have owned : before.Owns record.id := ⟨slot, record, live, rfl⟩
  -- Else it would count as one that could not be removed, even if it is removed now.
  have unfailed : record.id ∉ target.failedRemovals := fun failed =>
    agrees.gone (Simulation.removals_of_failed failed) owned
  obtain ⟨issued, removals, outcome⟩ :=
    Simulation.perform_removeBreakpoint ((agrees.installed _).mpr (.inl owned)) replied
  refine ⟨{
    coherent
    faithful
    installed := ?_
    placed := ?_
    issued := ?_
    once := ?_
    gone := ?_
  }, removals⟩
  · intro id
    have before := agrees.installed id
    rw [owns]
    rcases outcome with ⟨left, failed⟩ | ⟨left, failed⟩
    · rw [Index.has] at before
      rw [left, failed, Index.has, Index.find?_unset]
      by_cases same : id = record.id
      · simp [same, unfailed]
      · simpa [same] using before
    · rw [left, failed, before, List.mem_append, List.mem_singleton]
      by_cases same : id = record.id
      · simp [same, owned]
      · simp [same]
  · intro other id pattern post
    have different := ((owns id).mp (owns_iff_post?.mpr ⟨other, pattern, post⟩)).2
    rw [removePending_post?_of_none live rest] at post
    split at post
    · cases post
    · rcases outcome with ⟨left, -⟩ | ⟨left, -⟩
      · rw [left, Index.find?_unset_of_ne different]
        exact agrees.placed post
      · rw [left]
        exact agrees.placed post
  · intro id known
    rw [owns, removals, List.mem_append, List.mem_singleton] at known
    apply Simulation.issued_mono (Nat.le_of_eq issued.symm)
    rcases known with ⟨still, -⟩ | earlier | same
    · exact agrees.issued (.inl still)
    · exact agrees.issued (.inr earlier)
    · exact agrees.issued (.inl (same ▸ owned))
  · rw [removals]
    refine List.nodup_append.mpr ⟨agrees.once, List.nodup_singleton _, ?_⟩
    intro id removed last member same
    rw [same, List.mem_singleton.mp member] at removed
    exact agrees.gone removed owned
  · intro id removed again
    rw [removals, List.mem_append, List.mem_singleton] at removed
    obtain ⟨still, different⟩ := (owns id).mp again
    rcases removed with earlier | same
    · exact agrees.gone earlier still
    · exact different same

/-- An operation keeps agreement; whether it gives up a breakpoint, and which, is told by what has
to be removed.
-/
theorem Agrees.effect (agrees : before.Agrees target) {operation : Operation}
    (effect : Effect before target operation after asked) (coherent : after.Coherent)
    : after.Agrees asked
      ∧ ∃ given,
          GivesUp before operation after given
          ∧ asked.removals = target.removals ++ given.toList := by
  have faithful : after.Faithful := by
    refine effect.faithful agrees.coherent agrees.faithful fun replied owned => ?_
    rcases Simulation.perform_setBreakpoint replied with ⟨named, -⟩ | ⟨unnamed, -⟩
    · obtain rfl := Option.some.inj (Except.ok.inj named)
      exact target.not_issued_nextId _ (agrees.issued (.inl owned))
    · exact unnamed _ rfl
  -- All but two effects leave the breakpoints behind the slots and in the engine alone.
  have quiet (posts : ∀ slot, after.post? slot = before.post? slot)
      (spares : ∀ id, ¬ before.Frees id operation) (untouched : target.Untouched asked)
      : after.Agrees asked
        ∧ ∃ given,
            GivesUp before operation after given
            ∧ asked.removals = target.removals ++ given.toList := by
    refine ⟨agrees.untouched coherent faithful posts untouched, none, .none spares ?_, ?_⟩
    · intro slot used
      rwa [posts slot]
    · rw [untouched.removals, Option.toList_none, List.append_nil]
  cases effect with
  | waiting => exact quiet (fun _ => rfl) (fun _ => id) ⟨rfl, rfl, rfl, rfl⟩
  | shared unknown live patterned =>
      exact quiet (addPending_post? live _) (fun _ => id) ⟨rfl, rfl, rfl, rfl⟩
  | refused replied unnamed =>
      rcases Simulation.perform_setBreakpoint replied with ⟨named, -⟩ | ⟨-, untouched⟩
      · exact (unnamed _ named).elim
      · exact quiet (fun _ => rfl) (fun _ => id) untouched
  | installed unknown unshared replied =>
      rcases Simulation.perform_setBreakpoint replied with
        ⟨named, issued, installed, removals, failedRemovals⟩ | ⟨unnamed, -⟩
      · obtain rfl := Option.some.inj (Except.ok.inj named)
        refine ⟨agrees.insert coherent faithful rfl issued installed removals failedRemovals,
          none, .none (fun _ => id) ?_, ?_⟩
        · intro slot used
          rw [agrees.coherent.insert_post?]
          split
          · exact Option.some_ne_none _
          · exact used
        · rw [removals, Option.toList_none, List.append_nil]
      · exact (unnamed _ rfl).elim
  | missed idle =>
      refine quiet (fun _ => rfl) ?_ ⟨rfl, rfl, rfl, rfl⟩
      refine agrees.faithful.not_frees_of_hit fun found live last => idle found live ?_
      rw [last]
      exact List.mem_singleton_self _
  | lessened found live waits rest =>
      refine quiet (removePending_post?_of_some live rest) ?_ ⟨rfl, rfl, rfl, rfl⟩
      refine agrees.faithful.not_frees_of_hit fun reached alive last => ?_
      obtain rfl := Option.some.inj (found.symm.trans reached)
      obtain rfl := Option.some.inj (live.symm.trans alive)
      have gone := Record.release_eq_none_iff.mpr fun file member => last ▸ member
      cases gone.symm.trans rest
  | dropped found live waits rest replied =>
      obtain ⟨same, alive, named⟩ := agrees.coherent.breakpoints found
      obtain rfl := Option.some.inj (live.symm.trans alive)
      have last := eq_singleton_of_pairwise (agrees.faithful.ordered live) waits
        fun file member => List.mem_singleton.mp (Record.release_eq_none_iff.mp rest file member)
      obtain ⟨kept, removals⟩ := agrees.removePending live rest coherent faithful replied
      refine ⟨kept, some _, named ▸ agrees.faithful.givesUp_some live rfl last ?_, removals⟩
      exact removePending_post?_of_none live rest

end Registry

-----------------------------------------------------------------------------------------
-- Trials
-----------------------------------------------------------------------------------------

/-- A registry and the simulated engine that it gives commands to. -/
structure Trial where
  registry : Registry := {}
  target : Simulation := {}

namespace Trial

/-- Something that happens in a trial. -/
inductive Step where
  | operate (operation : Operation)
  /-- From now on the engine answers in a certain way, and certain commands fail. -/
  | configure (mode : BreakpointMode) (failing : List CommandKind)

def advance (trial : Trial) : Step → Trial
  | .operate operation =>
      let (registry, target) := trial.registry.operate operation trial.target
      ⟨registry, target⟩
  | .configure mode failing => ⟨trial.registry, { trial.target with mode, failing }⟩

/-- A trial after several steps. -/
def run (trial : Trial) (steps : List Step) : Trial := steps.foldl advance trial

/-- A step is the hit that leaves no file waiting on a breakpoint. -/
def Frees (trial : Trial) (id : BreakpointId) : Step → Prop
  | .operate operation => trial.registry.Frees id operation
  | .configure _ _ => False

/-- Every step keeps agreement, and has a breakpoint removed exactly if it frees that breakpoint. -/
theorem agrees_advance {trial : Trial} (agrees : trial.registry.Agrees trial.target) (step : Step)
    : (trial.advance step).registry.Agrees (trial.advance step).target
      ∧ ∃ given : Option BreakpointId,
          (trial.advance step).target.removals = trial.target.removals ++ given.toList
          ∧ (∀ id, given = some id ↔ trial.Frees id step)
          ∧ ∀ slot record,
              trial.registry.record? slot = some record
              → ((trial.advance step).registry.record? slot = none ↔ given = some record.id) := by
  cases step with
  | operate operation =>
      have effect := agrees.coherent.effect operation trial.target
      have coherent := agrees.coherent.operate operation trial.target
      obtain ⟨kept, given, givesUp, removals⟩ := agrees.effect effect coherent
      exact ⟨kept, given, removals, givesUp.frees, fun _ _ => givesUp.leaves⟩
  | configure mode failing =>
      refine ⟨agrees.untouched agrees.coherent agrees.faithful (fun _ => rfl) ⟨rfl, rfl, rfl, rfl⟩,
        none, (List.append_nil _).symm, fun _ => iff_of_false nofun not_false, ?_⟩
      intro slot record live
      exact iff_of_false (by simp [advance, live]) nofun

/-- Registry and engine agree after any steps, by induction on them. -/
theorem agrees_run {trial : Trial} (agrees : trial.registry.Agrees trial.target)
    (steps : List Step)
    : (trial.run steps).registry.Agrees (trial.run steps).target := by
  induction steps generalizing trial with
  | nil => exact agrees
  | cons step steps ih => exact ih (agrees_advance agrees step).1

/-- At every moment of a trial, whatever failed before: installed are the breakpoints of the records
and those that could not be removed; the breakpoint of a record is at the very start of the scripts
with its pattern; no breakpoint had to be removed twice; and the next step has a breakpoint removed
exactly if it is the hit of the last file that waits on it, which is exactly if it drops the record.
-/
theorem installed_exactly (steps : List Step)
    : let trial := run {} steps
      (∀ id,
        trial.target.installed.has id = true
        ↔ trial.registry.Owns id ∨ id ∈ trial.target.failedRemovals)
      ∧ (∀ slot record,
          trial.registry.record? slot = some record
          → trial.target.installed.find? record.id = some ⟨record.pattern, 0, 0⟩)
      ∧ trial.target.removals.Nodup
      ∧ ∀ step,
          ∃ given : Option BreakpointId,
            (trial.advance step).target.removals = trial.target.removals ++ given.toList
            ∧ (∀ id, given = some id ↔ trial.Frees id step)
            ∧ ∀ slot record,
                trial.registry.record? slot = some record
                → ((trial.advance step).registry.record? slot = none
                    ↔ given = some record.id) := by
  intro trial
  have agrees : trial.registry.Agrees trial.target := agrees_run Registry.agrees_start steps
  refine ⟨agrees.installed, ?_, agrees.once, fun step => (agrees_advance agrees step).2⟩
  intro slot record live
  exact agrees.placed (Registry.post?_eq_some_iff.mpr ⟨record, live, rfl, rfl⟩)

-- A removal that failed leaves its breakpoint behind when the file is guarded again.
example
    : ((run {} [
        .operate (.guard "a.ts"),
        .configure .succeeds [.removeBreakpoint],
        .operate (.hit ("1:0:0:" ++ Entry.pattern "a.ts") "a.ts"),
        .operate (.guard "a.ts")
      ]).target.installed.map Prod.fst)
      = ["1:0:0:" ++ Entry.pattern "a.ts", "2:0:0:" ++ Entry.pattern "a.ts"] := by
  decide +kernel

end Trial

end EarlyBreak.Entry
