import EarlyBreak.Proofs.Binder.Session

/-! What every session keeps: scripts are known by their own ids, breakpoints are bound once in each
script, and the entry breakpoints are in step.
-/

namespace EarlyBreak.Session

open Debugger Entry Entry.Registry

/-- Where each bound script is bound is known, and each is bound once. -/
structure Memoized (bound : Index ScriptId (List Location)) (acts : List Act) : Prop where
  found
    : ∀ id locations,
        bound.find? id = some locations
        ↔ ∃ script, Act.bind script locations ∈ acts ∧ script.id = id
  once : (acts.filterMap Act.bound?).Nodup

section Binding

variable {bound known : Index ScriptId (List Location)} {acts told : List Act}
  {script : Script} {locations : List Location}

/-- A script is known to be bound exactly if it was. -/
theorem Memoized.mem_iff (memoized : Memoized bound acts) {id : ScriptId}
    : id ∈ acts.filterMap Act.bound? ↔ ∃ locations, bound.find? id = some locations := by
  simp only [mem_filterMap_bound?, memoized.found]
  exact exists_comm

/-- Whatever binds no script keeps what is known of bound scripts. -/
theorem Memoized.append {more : List Act} (memoized : Memoized bound acts)
    (unbound : ∀ act ∈ more, act.bound? = none)
    : Memoized bound (acts ++ more) where
  found := by
    intro id locations
    rw [memoized.found]
    constructor
    · rintro ⟨script, member, named⟩
      exact ⟨script, List.mem_append_left _ member, named⟩
    · rintro ⟨script, member, named⟩
      rcases List.mem_append.mp member with earlier | later
      · exact ⟨script, earlier, named⟩
      · cases unbound _ later
  once := by
    rw [List.filterMap_append, List.filterMap_eq_nil_iff.mpr unbound, List.append_nil]
    exact memoized.once

/-- Binding a script unless that was done keeps what is known of bound scripts. -/
theorem Binds.memoized (binds : Binds bound acts script locations known told)
    (memoized : Memoized bound acts)
    : Memoized known told := by
  cases binds with
  | already found same silent => rwa [same, silent]
  | anew unknown noted asked =>
      subst noted asked
      -- The script is bound for the first time, or it would have been found.
      have new : script.id ∉ acts.filterMap Act.bound? := by
        rw [memoized.mem_iff, unknown]
        exact fun known => nomatch known
      have absent : ∀ {other others}, Act.bind other others ∈ acts → other.id ≠ script.id :=
        fun member same => new (mem_filterMap_bound?.mpr ⟨_, _, member, same⟩)
      refine ⟨?_, ?_⟩
      · intro id others
        rw [Index.find?_set]
        simp only [List.mem_append, List.mem_singleton, Act.bind.injEq]
        split
        case isTrue same =>
          constructor
          · rintro ⟨rfl⟩
            exact ⟨script, .inr ⟨rfl, rfl⟩, same.symm⟩
          · rintro ⟨other, earlier | ⟨rfl, rfl⟩, named⟩
            · exact absurd (named.trans same) (absent earlier)
            · rfl
        case isFalse different =>
          rw [memoized.found]
          constructor
          · rintro ⟨other, member, named⟩
            exact ⟨other, .inl member, named⟩
          · rintro ⟨other, earlier | ⟨rfl, rfl⟩, named⟩
            · exact ⟨other, earlier, named⟩
            · exact absurd named.symm different
      · rw [List.filterMap_append]
        refine List.nodup_append.mpr ⟨memoized.once, by simp [Act.bound?], ?_⟩
        rintro id earlier other later rfl
        rw [List.mem_singleton.mp later] at earlier
        exact new earlier

/-- Binding a script, unless that was done, adds it to the bound scripts. -/
theorem Binds.mem_iff (binds : Binds bound acts script locations known told)
    (memoized : Memoized bound acts) {id : ScriptId}
    : id ∈ told.filterMap Act.bound? ↔ id ∈ acts.filterMap Act.bound? ∨ id = script.id := by
  cases binds with
  | already found same silent =>
      rw [silent, iff_self_or]
      rintro rfl
      exact memoized.mem_iff.mpr ⟨locations, found⟩
  | anew unknown noted asked => simp [asked, Act.bound?]

/-- Binding a script only adds to what was asked. -/
theorem Binds.acts_grow (binds : Binds bound acts script locations known told)
    : acts <+: told := by
  cases binds with
  | already found same silent => exact silent ▸ List.prefix_rfl
  | anew unknown noted asked => exact asked ▸ List.prefix_append _ _

end Binding

/-- Scripts are known by their own ids, where breakpoints are bound is known, and the entry
breakpoints are in step.
-/
structure Sound {σ : Type} (session : Session σ) : Prop where
  table
    : ∀ {id script}, session.binder.scripts.find? id = some script → script.id = id
  memoized : Memoized session.binder.bound session.target.acts
  coherent : session.entries.Coherent

variable {σ : Type}

theorem entries_start (strategy : Strategy) (target : σ) : (start strategy target).entries = {} :=
  (Guard.ofStrategy_start strategy).2

/-- Nothing is wrong before anything has happened. -/
theorem sound_start (strategy : Strategy) (target : σ)
    : Sound (start strategy target) where
  table := nofun
  memoized := ⟨by simp [start, Binder.ofStrategy, Index.find?], List.nodup_nil⟩
  coherent := by
    rw [entries_start]
    exact coherent_empty

variable [Engine σ] [BreakpointManager σ] {session : Session σ}

/-- Every step of a sound session is a change of one of the kinds. -/
theorem Sound.change (sound : Sound session) (step : Step)
    : Change session step (session.step step).1 (session.step step).2 := by
  cases step with
  | request source => exact change_request sound.coherent source
  | event event =>
      cases event with
      | scriptParsed script => exact change_scriptParsed session script
      | paused pause =>
          obtain ⟨disposition, answer, change⟩ := change_paused sound.coherent sound.table pause
          rwa [answer]
      | resumed => exact .resumed rfl rfl rfl rfl rfl

omit [Engine σ] in
/-- Where the script of a guard's pause is, and that the pause is the guard's. -/
theorem Sound.pausedIn?_eq_some (sound : Sound session) {pause : Pause} {script : Script}
    {urls : List String} (own : session.pausedIn? pause = some (script, urls))
    : session.binder.guard.isGuardPause pause = true
      ∧ ∃ location, pause.location? = some location ∧ location.script = script.id := by
  unfold pausedIn? at own
  split at own
  case isTrue guarded =>
    obtain ⟨⟨found, known⟩, lookup, pair⟩ := Option.map_eq_some_iff.mp own
    obtain ⟨rfl, -⟩ := Prod.mk.inj pair
    exact ⟨guarded, (pausedScript?_eq_some sound.table lookup).1⟩
  case isFalse => cases own

/-- Whatever is noted of a script under its own id, scripts are known by their own ids. -/
theorem table_note {scripts noted : Index ScriptId Script} {script : Script}
    (table : ∀ {id script}, scripts.find? id = some script → script.id = id)
    (known
      : ∀ id, noted.find? id = if id = script.id then some script else scripts.find? id)
    {id : ScriptId} {other : Script} (found : noted.find? id = some other)
    : other.id = id := by
  rw [known] at found
  split at found
  case isTrue same => rw [← Option.some.inj found, same]
  case isFalse => exact table found

/-- Every change keeps a session sound. -/
theorem Change.sound {step : Step} {answer : Option Disposition} {after : Session σ}
    (change : Change session step answer after) (sound : Sound session)
    : Sound after := by
  cases change with
  | requested scripts bound asked added state =>
      obtain ⟨more, told, maintain⟩ := asked
      refine ⟨fun found => sound.table (scripts ▸ found), ?_, added.coherent sound.coherent⟩
      rw [bound, told]
      exact sound.memoized.append fun act member => (maintain act member).bound?_eq
  | @deferred script _ scripts bound silent guard state defers =>
      have noted : ∀ id,
          after.binder.scripts.find? id
          = if id = script.id then some script else session.binder.scripts.find? id := by
        intro id
        rw [scripts, Index.find?_set]
      refine ⟨table_note sound.table noted, ?_, ?_⟩
      · rw [bound, silent]
        exact sound.memoized
      · rw [entries, guard]
        exact sound.coherent
  | @parsed script _ _ scripts binds guard state eager =>
      have noted : ∀ id,
          after.binder.scripts.find? id
          = if id = script.id then some script else session.binder.scripts.find? id := by
        intro id
        rw [scripts, Index.find?_set]
      refine ⟨table_note sound.table noted, binds.memoized sound.memoized, ?_⟩
      rw [entries, guard]
      exact sound.coherent
  | resumed scripts bound silent guard state | shown foreign scripts bound silent guard state =>
      refine ⟨fun found => sound.table (scripts ▸ found), ?_, ?_⟩
      · rw [bound, silent]
        exact sound.memoized
      · rw [entries, guard]
        exact sound.coherent
  | @settled _ _ _ _ disposition told removed _ _ own scripts binds maintained decided released
      coherent ended =>
      refine ⟨table_note sound.table scripts, ?_, coherent⟩
      have settled : Memoized after.binder.bound (told ++ removed) :=
        (binds.memoized sound.memoized).append fun act member =>
          (maintained act member).bound?_eq
      split at ended
      · obtain ⟨⟨reply, told⟩, -⟩ := ended
        rw [told]
        refine settled.append fun act member => ?_
        rw [List.mem_singleton.mp member]
        rfl
      · rwa [ended.1]

/-- A step only adds to what was asked of the target. -/
theorem Change.acts_grow {step : Step} {answer : Option Disposition} {after : Session σ}
    (change : Change session step answer after)
    : session.target.acts <+: after.target.acts := by
  cases change with
  | requested scripts bound asked added state =>
      obtain ⟨acts, told, -⟩ := asked
      exact ⟨acts, told.symm⟩
  | deferred scripts bound silent | resumed scripts bound silent
  | shown foreign scripts bound silent => exact silent ▸ List.prefix_rfl
  | parsed scripts binds guard state eager => exact binds.acts_grow
  | settled own scripts binds maintained decided released coherent ended =>
      refine binds.acts_grow.trans ?_
      split at ended
      · obtain ⟨⟨reply, told⟩, -⟩ := ended
        rw [told, List.append_assoc]
        exact List.prefix_append _ _
      · rw [ended.1]
        exact List.prefix_append _ _

omit [Engine σ] [BreakpointManager σ] in
/-- Once a pause in a script is decided on, that script is bound besides those that were. -/
theorem mem_boundIds_of_settled {before after : Session σ} {script : Script}
    {locations : List Location} {told removed : List Act} {resumes : Bool} {goes stays : Prop}
    (sound : Sound before)
    (binds
      : Binds before.binder.bound before.target.acts script locations after.binder.bound told)
    (maintained : ∀ act ∈ removed, act.Maintains)
    (ended
      : if resumes then
          (∃ reply, after.target.acts = told ++ removed ++ [.command .resume reply]) ∧ goes
        else after.target.acts = told ++ removed ∧ stays)
    {id : ScriptId}
    : id ∈ after.target.boundIds ↔ id ∈ before.target.boundIds ∨ id = script.id := by
  have unbound : removed.filterMap Act.bound? = [] :=
    List.filterMap_eq_nil_iff.mpr fun act member => (maintained act member).bound?_eq
  have same : after.target.boundIds = told.filterMap Act.bound? := by
    split at ended
    · obtain ⟨⟨reply, acts⟩, -⟩ := ended
      simp [Recorded.boundIds, acts, unbound, Act.bound?]
    · simp [Recorded.boundIds, ended.1, unbound]
  rw [same]
  exact binds.mem_iff sound.memoized

/-- A session that is sound stays so, by induction along the steps. -/
theorem Sound.run (sound : Sound session) (steps : List Step) : Sound (session.run steps) := by
  induction steps generalizing session with
  | nil => exact sound
  | cons step steps ih => exact ih (Change.sound (sound.change step) sound)

/-- Steps only add to what was asked, by induction along them. -/
theorem Sound.acts_grow (sound : Sound session) (steps : List Step)
    : session.target.acts <+: (session.run steps).target.acts := by
  induction steps generalizing session with
  | nil => exact List.prefix_rfl
  | cons step steps ih =>
      have change := sound.change step
      exact change.acts_grow.trans (ih (change.sound sound))

/-- Every session is sound at every moment. -/
theorem sound_run (strategy : Strategy) (target : σ) (steps : List Step)
    : Sound ((start strategy target).run steps) :=
  (sound_start strategy target).run steps

end EarlyBreak.Session
