import EarlyBreak.Proofs.Entry.Records
import EarlyBreak.Proofs.Entry.Standing

/-! What a guard by patterns makes of a pause: whether the target goes on, what the user sees of the
pause, which files wait afterwards, and which breakpoints the engine has to remove.
-/

namespace EarlyBreak

open Debugger

namespace Debugger

variable {acts : List Act} {act : Act} {id : BreakpointId}

/-- The engine gave no breakpoint an id that was in use: handed out before, and not asked back
since.
-/
def Distinguishes (acts : List Act) : Prop :=
  ∀ earlier act later id,
    acts = earlier ++ act :: later → act.handedOut? = some id → ¬ Unrecalled earlier id

/-- What distinguishes breakpoints up to an act did so before it, and an id handed out in it is new.
-/
theorem Distinguishes.of_concat (distinct : Distinguishes (acts ++ [act]))
    : Distinguishes acts ∧ ∀ id, act.handedOut? = some id → ¬ Unrecalled acts id := by
  constructor
  · rintro earlier other later id rfl
    exact distinct earlier other (later ++ [act]) id (by simp)
  · exact fun id => distinct acts act [] id rfl

/-- An engine that hands out no id twice does so in particular for none in use. -/
theorem distinguishes_of_nodup (once : (acts.filterMap Act.handedOut?).Nodup)
    : Distinguishes acts := by
  rintro earlier act later id rfl handed ⟨before, first, since, rfl, also, -⟩
  rw [List.filterMap_append, List.filterMap_cons_some handed] at once
  refine (List.nodup_append.mp once).2.2 id ?_ id List.mem_cons_self rfl
  exact List.mem_filterMap.mpr ⟨first, by simp, also⟩

end Debugger

namespace Entry

/-- What is left of a record, if anything, when some breakpoints were hit in a script that covers
some files.
-/
def Record.afterHits (record : Record) (hits : List BreakpointId) (files : List String)
    : Option Record :=
  if record.id ∈ hits then record.release files else some record

/-- What is left of a record has its pattern and its breakpoint. -/
theorem Record.afterHits_eq_some {record left : Record} {hits : List BreakpointId}
    {files : List String} (remains : record.afterHits hits files = some left)
    : left.pattern = record.pattern ∧ left.id = record.id := by
  unfold afterHits at remains
  split at remains
  · rw [release_eq_some remains]
    exact ⟨rfl, rfl⟩
  · rw [Option.some.inj remains]
    exact ⟨rfl, rfl⟩

namespace Registry

variable {σ : Type} {registry before middle after : Registry} {recorded between told : Recorded σ}
  {operation : Operation} {ids : List BreakpointId} {files : List String} {id : BreakpointId}

/-- What is known of a registry while no id in use is handed out again: slots and indices are
together, records are found by their breakpoints, and the registry holds what was not asked back.
-/
structure Accountable (registry : Registry) (acts : List Act) : Prop where
  coherent : registry.Coherent
  faithful : registry.Faithful
  remembers : registry.Remembers acts

theorem accountable_empty : ({} : Registry).Accountable [] :=
  ⟨coherent_empty, faithful_empty, remembers_empty⟩

section Operations

variable [Engine σ]

/-- Each registry operation keeps the books right, by what it does to the records and asks of the
engine.
-/
theorem Accountable.effect (accountable : before.Accountable recorded.acts)
    (effect : Effect before recorded operation after told) (coherent : after.Coherent)
    (distinct : Distinguishes told.acts)
    : after.Accountable told.acts where
  coherent := coherent
  remembers := effect.remembers accountable.remembers
  faithful := by
    refine effect.faithful accountable.coherent accountable.faithful ?_
    rintro breakpoint id replied ⟨slot, record, live, rfl⟩
    rw [Recorded.acts_of_perform replied] at distinct
    -- The registry holds what its records have, so the engine has handed out an id in use.
    refine distinct.of_concat.2 record.id rfl ((accountable.remembers record.id).mp ?_)
    exact Index.has_iff.mpr ⟨slot, accountable.faithful.named live⟩

/-- All this is known after any operations, by induction along them from their end. -/
theorem accountable_operateAll (target : σ) (operations : List Operation)
    (distinct : Distinguishes (operateAll {} operations (⟨target, []⟩ : Recorded σ)).2.acts)
    : (operateAll {} operations (⟨target, []⟩ : Recorded σ)).1.Accountable
        (operateAll {} operations (⟨target, []⟩ : Recorded σ)).2.acts := by
  induction operations using List.reverseRecOn with
  | nil => exact accountable_empty
  | append_singleton earlier last ih =>
      rw [operateAll_append] at distinct ⊢
      have coherent : (operateAll {} earlier (⟨target, []⟩ : Recorded σ)).1.Coherent :=
        coherent_empty.operateAll _ _
      have effect := coherent.effect last (operateAll {} earlier (⟨target, []⟩ : Recorded σ)).2
      have before : Distinguishes (operateAll {} earlier (⟨target, []⟩ : Recorded σ)).2.acts := by
        rcases effect.commanded with same | ⟨command, reply, replied⟩
        · rwa [← same]
        · rw [Recorded.acts_of_perform replied] at distinct
          exact distinct.of_concat.1
      exact (ih before).effect effect (coherent.operate last _) distinct

end Operations

/-- A registry holds the breakpoints of its records. -/
theorem Accountable.holds_iff {acts : List Act} (accountable : registry.Accountable acts)
    : registry.holds id = true ↔ id ∈ registry.ids := by
  rw [ids, List.mem_map]
  constructor
  · intro held
    obtain ⟨slot, record, live, named⟩ := accountable.coherent.owns_of_holds held
    exact ⟨record, mem_records.mpr ⟨slot, live⟩, named⟩
  · rintro ⟨record, listed, rfl⟩
    obtain ⟨slot, live⟩ := mem_records.mp listed
    exact Index.has_iff.mpr ⟨slot, accountable.faithful.named live⟩

/-- A slot is reached from hit breakpoints exactly if the breakpoint of its record is among them. -/
theorem Faithful.reaches_iff (faithful : registry.Faithful) (coherent : registry.Coherent)
    {slot : Nat} {record : Record} (live : registry.record? slot = some record)
    : registry.Reaches ids slot ↔ record.id ∈ ids := by
  constructor
  · rintro ⟨id, member, found⟩
    obtain ⟨same, alive, rfl⟩ := coherent.breakpoints found
    rw [live] at alive
    exact Option.some.inj alive ▸ member
  · exact fun member => ⟨record.id, member, faithful.named live⟩

theorem Released.record?_eq (released : Released before after ids files)
    (coherent : before.Coherent) (faithful : before.Faithful) (slot : Nat)
    : after.record? slot = (before.record? slot).bind (·.afterHits ids files) := by
  cases live : before.record? slot with
  | none =>
      by_cases reached : before.Reaches ids slot
      · rw [released.hit reached, live, Option.bind_none, Option.bind_none]
      · rw [released.missed reached, live, Option.bind_none]
  | some record =>
      rw [Option.bind_some, Record.afterHits]
      split
      case isTrue hit =>
        rw [released.hit ((faithful.reaches_iff coherent live).mpr hit), live, Option.bind_some]
      case isFalse missed =>
        rw [released.missed (mt (faithful.reaches_iff coherent live).mp missed), live]

/-- Listed afterwards is what the hits leave of each record, in the same order. -/
theorem Released.records_eq (released : Released before after ids files)
    (coherent : before.Coherent) (faithful : before.Faithful) (afterCoherent : after.Coherent)
    : after.records = before.records.filterMap (·.afterHits ids files) := by
  have increasing : (before.records.filterMap (·.afterHits ids files)).Pairwise
      fun a b => a.pattern < b.pattern := by
    refine List.Pairwise.filterMap _ ?_ coherent.increasing_records
    intro a b less left remains right also
    rwa [(Record.afterHits_eq_some remains).1, (Record.afterHits_eq_some also).1]
  refine eq_of_increasing Record.pattern afterCoherent.increasing_records increasing ?_
  intro left
  simp only [mem_records, List.mem_filterMap, released.record?_eq coherent faithful,
    Option.bind_eq_some_iff]
  constructor
  · rintro ⟨slot, record, live, remains⟩
    exact ⟨record, ⟨slot, live⟩, remains⟩
  · rintro ⟨record, ⟨slot, live⟩, remains⟩
    exact ⟨slot, record, live, remains⟩

/-- Between two moments the engine was told to remove breakpoints, and nothing else: those that the
registry had and has no more, each as often as it has it less.
-/
def GivesBack (before : Registry) (recorded : Recorded σ) (after : Registry) (told : Recorded σ)
    : Prop :=
  ∃ recalls : List (BreakpointId × Reply),
    told.acts
      = recorded.acts ++ recalls.map (fun (id, reply) => .command (.removeBreakpoint id) reply)
    ∧ before.ids.Perm (after.ids ++ recalls.map Prod.fst)

theorem GivesBack.of_perm (same : before.ids.Perm after.ids)
    : GivesBack before recorded after recorded :=
  ⟨[], (List.append_nil _).symm, by simpa using same⟩

/-- What is given back in two steps is given back in all, by composing the permutations. -/
theorem GivesBack.trans (first : GivesBack before recorded middle between)
    (second : GivesBack middle between after told)
    : GivesBack before recorded after told := by
  obtain ⟨earlier, between, kept⟩ := first
  obtain ⟨later, told, left⟩ := second
  refine ⟨earlier ++ later, ?_, ?_⟩
  · rw [told, between, List.map_append, List.append_assoc]
  · rw [List.map_append]
    refine kept.trans ((left.append_right _).trans ?_)
    rw [List.append_assoc]
    exact List.perm_append_comm.append_left _

variable [Engine σ]

/-- A hit gives back the breakpoint of the record that it leaves empty. -/
theorem Effect.givesBack {source : String}
    (effect : Effect before recorded (.hit id source) after told)
    : GivesBack before recorded after told := by
  cases effect with
  | missed idle => exact .of_perm (.refl _)
  | lessened found live waits rest =>
      have ids := (perm_records_removePending live (ScriptUrl.canonical source)).map Record.id
      rw [rest, Record.release_eq_some rest] at ids
      exact .of_perm ids.cons_inv.symm
  | @dropped _ _ _ record reply _ found live waits rest replied =>
      have ids := (perm_records_removePending live (ScriptUrl.canonical source)).map Record.id
      rw [rest] at ids
      exact ⟨[(record.id, reply)], Recorded.acts_of_perform replied,
        ids.symm.trans (List.perm_append_singleton _ _).symm⟩

/-- The breakpoints of records are those of what is left of them and those of the others. -/
theorem perm_ids_afterHits (ids : List BreakpointId) (files : List String) (records : List Record)
    : (records.map Record.id).Perm
        ((records.filterMap (·.afterHits ids files)).map Record.id
          ++ (records.filter fun record => (record.afterHits ids files).isNone).map Record.id) := by
  induction records with
  | nil => exact .refl _
  | cons record records ih =>
      cases remains : record.afterHits ids files with
      | none =>
          simp only [List.filterMap_cons, List.filter_cons, remains, Option.isNone_none, if_true]
          exact (ih.cons record.id).trans List.perm_middle.symm
      | some left =>
          simp only [List.filterMap_cons, List.filter_cons, remains, Option.isNone_some,
            Bool.false_eq_true, if_false, List.map_cons, (Record.afterHits_eq_some remains).2]
          exact ih.cons record.id

end Registry

end Entry

namespace Guard

open Entry Entry.Registry

variable {σ : Type} [Engine σ] {registry : Registry} {recorded : Recorded σ}

/-- Hits of one breakpoint give back what they leave empty, by induction along the sources. -/
theorem resolveHits_givesBack (coherent : registry.Coherent) (id : BreakpointId)
    (urls : List String) (recorded : Recorded σ)
    : GivesBack registry recorded (resolveHits registry id urls recorded).1
        (resolveHits registry id urls recorded).2 := by
  induction urls generalizing registry recorded with
  | nil => exact .of_perm (.refl _)
  | cons url urls ih =>
      exact (coherent.effect_resolveHit id url recorded).givesBack.trans
        (ih (coherent.resolveHit id url recorded) _)

/-- So do hits of several breakpoints, by induction along them. -/
theorem resolveAll_givesBack (coherent : registry.Coherent) (ids : List BreakpointId)
    (urls : List String) (recorded : Recorded σ)
    : GivesBack registry recorded (resolveAll urls registry ids recorded).1
        (resolveAll urls registry ids recorded).2 := by
  induction ids generalizing registry recorded with
  | nil => exact .of_perm (.refl _)
  | cons id ids ih =>
      exact (resolveHits_givesBack coherent id urls recorded).trans
        (ih (resolveHits_released coherent id urls recorded).1 _)

/-- Judging a pause gives back the breakpoints of the records that it drops, and no others. -/
theorem classify_givesBack (coherent : registry.Coherent) (pause : Pause) (script : PausedScript)
    (recorded : Recorded σ)
    : GivesBack registry recorded
        ((Guard.regex registry).classify pause script recorded).2.1.entries
        ((Guard.regex registry).classify pause script recorded).2.2 :=
  resolveAll_givesBack coherent (pause.hits.filter registry.holds) script.urls recorded

/-- A pause that only entry breakpoints made can end exactly if it has a place and no breakpoint of
the user is there.
-/
theorem continuesOnEntry_iff {location : Option Location} {bound : List Location}
    : continuesOnEntry location bound = true
      ↔ ∃ place,
          location = some place
          ∧ ∀ other ∈ bound,
              (other.script, other.line, other.column.getD 0)
              ≠ (place.script, place.line, place.column.getD 0) := by
  cases location with
  | none => simp [continuesOnEntry]
  | some place => simp [continuesOnEntry, Location.samePosition]

/-- A decision on a pause is exact.  The target goes on exactly if entry breakpoints, and nothing
else, were hit at a place where no breakpoint of the user is.  Otherwise the user sees the pause,
without the entry breakpoints among its hits.  The files of the script wait no more on the records
that were hit, and those that are left empty are dropped, with one command for each.
-/
structure Classified (before : Registry) (recorded : Recorded σ) (pause : Pause)
    (script : PausedScript) (disposition : Disposition) (after : Registry) (told : Recorded σ)
    : Prop where
  resumes
    : disposition = .resume
      ↔ (∃ id ∈ pause.hits, id ∈ before.ids)
        ∧ (∀ id ∈ pause.hits, id ∈ before.ids)
        ∧ ∃ place,
            pause.location? = some place
            ∧ ∀ other ∈ script.bound,
                (other.script, other.line, other.column.getD 0)
                ≠ (place.script, place.line, place.column.getD 0)
  reduced
    : (∃ id ∈ pause.hits, id ∈ before.ids)
      → disposition ≠ .resume
      → disposition = .surface { pause with hits := pause.hits.filter (· ∉ before.ids) }
  unchanged : (∀ id ∈ pause.hits, id ∉ before.ids) → disposition = .surface pause
  records
    : after.records
      = before.records.filterMap
          (·.afterHits pause.hits (script.urls.map ScriptUrl.canonical))
  recalls
    : ∃ recalls : List (BreakpointId × Reply),
        told.acts
          = recorded.acts ++ recalls.map (fun (id, reply) => .command (.removeBreakpoint id) reply)
        ∧ (recalls.map Prod.fst).Perm
            ((before.records.filter fun record =>
              (record.afterHits pause.hits (script.urls.map ScriptUrl.canonical)).isNone).map
                Record.id)

/-- A pause that an entry breakpoint made, and that does not end, is shown without such hits. -/
theorem classify_reduced {pause : Pause} {script : PausedScript}
    (own : ∃ id ∈ pause.hits, registry.holds id = true)
    (shown : ((Guard.regex registry).classify pause script recorded).1 ≠ .resume)
    : ((Guard.regex registry).classify pause script recorded).1
      = .surface { pause with hits := pause.hits.filter (!registry.holds ·) } := by
  have some : (pause.hits.filter registry.holds).isEmpty = false := by
    simpa [List.filter_eq_nil_iff] using own
  simp only [classify, some, Bool.false_eq_true, if_false] at shown ⊢
  split at shown
  case isTrue => exact absurd rfl shown
  case isFalse other => rw [if_neg other]

/-- Every decision of a registry that knows the ids in use is exact. -/
theorem classified_of_accountable (accountable : registry.Accountable recorded.acts)
    (pause : Pause) (script : PausedScript)
    : ∃ disposition after told,
        (Guard.regex registry).classify pause script recorded = (disposition, .regex after, told)
        ∧ Classified registry recorded pause script disposition after told := by
  have held (id : BreakpointId) : registry.holds id = true ↔ id ∈ registry.ids :=
    accountable.holds_iff
  refine ⟨((Guard.regex registry).classify pause script recorded).1,
    ((Guard.regex registry).classify pause script recorded).2.1.entries,
    ((Guard.regex registry).classify pause script recorded).2.2, rfl, ?_⟩
  obtain ⟨coherent, released⟩ := classify_released
    (show (Guard.regex registry).entries.Coherent from accountable.coherent) pause script recorded
  have records : _ = registry.records.filterMap
      (·.afterHits pause.hits (script.urls.map ScriptUrl.canonical)) :=
    released.records_eq accountable.coherent accountable.faithful coherent
  refine { resumes := ?_, reduced := ?_, unchanged := ?_, records, recalls := ?_ }
  · rw [classify_eq_resume_iff]
    simp only [strategy, entries, held, continuesOnEntry_iff, reduceCtorEq, false_and, false_or,
      true_and]
  · intro own shown
    have others : pause.hits.filter (!registry.holds ·) = pause.hits.filter (· ∉ registry.ids) :=
      List.filter_congr fun id _ => by simp [← held]
    simp only [← held] at own
    rw [classify_reduced own shown, others]
  · intro foreign
    have other : (Guard.regex registry).isGuardPause pause = false := by
      simpa [isGuardPause, ← held] using foreign
    exact congrArg Prod.fst (classify_of_not_isGuardPause other script recorded)
  · obtain ⟨recalls, asked, given⟩ := classify_givesBack accountable.coherent pause script
      recorded
    have parted := perm_ids_afterHits pause.hits (script.urls.map ScriptUrl.canonical)
      registry.records
    rw [← records] at parted
    exact ⟨recalls, asked, (List.perm_append_left_iff _).mp (given.symm.trans parted)⟩

/-- After any operations, as long as the engine gives no breakpoint an id in use, every decision of
a guard by patterns is exact.
-/
theorem classified_of_distinguishes (target : σ) (operations : List Operation)
    (distinct : Distinguishes (operateAll {} operations (⟨target, []⟩ : Recorded σ)).2.acts)
    (pause : Pause) (script : PausedScript)
    : let state := operateAll {} operations (⟨target, []⟩ : Recorded σ)
      ∃ disposition after told,
        (Guard.regex state.1).classify pause script state.2 = (disposition, .regex after, told)
        ∧ Classified state.1 state.2 pause script disposition after told :=
  classified_of_accountable (accountable_operateAll target operations distinct) pause script

/-- Two files of one stem are guarded, and one of another. -/
def twoStems : List Operation := [.guard "a.ts", .guard "a.js", .guard "b.ts"]

/-- A pause that only the breakpoint of the first two made. -/
def ownPause : Pause :=
  ⟨"other", none, ["1:0:0:" ++ Entry.pattern "a.ts"], [⟨"0", "", ⟨"7", 0, none⟩, ""⟩]⟩

/-- The target goes on from it where the user's breakpoints are elsewhere. -/
theorem classified_ownPause
    : let state := operateAll {} twoStems (⟨({} : Simulation), []⟩ : Recorded Simulation)
      let script : PausedScript := ⟨["a.ts", "a.js"], [⟨"7", 0, some 4⟩]⟩
      ∃ after told,
        (Guard.regex state.1).classify ownPause script state.2 = (.resume, .regex after, told)
        ∧ Classified state.1 state.2 ownPause script .resume after told := by
  intro state script
  have goesOn : ((Guard.regex state.1).classify ownPause script state.2).1.isResume = true := by
    decide +kernel
  obtain ⟨disposition, after, told, decided, classified⟩ := classified_of_distinguishes
    ({} : Simulation) twoStems (distinguishes_of_nodup (by decide +kernel)) ownPause script
  rw [decided] at goesOn
  cases disposition with
  | resume => exact ⟨after, told, decided, classified⟩
  | surface shown => cases goesOn

end Guard

end EarlyBreak
