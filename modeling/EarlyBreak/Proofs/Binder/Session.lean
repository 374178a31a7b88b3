import EarlyBreak.Binder.Basic
import EarlyBreak.Proofs.Binder.GuardSteps

/-! Sessions of a binder with a target: requests and notifications in any order, against an engine
and sources that answer in any way.  What one step can do is said here, once for all that follows
from it.
-/

namespace EarlyBreak

open Debugger Entry Entry.Registry

/-- A binder with its target, which writes down what it is asked. -/
structure Session (σ : Type) where
  binder : Binder
  target : Recorded σ

namespace Session

/-- Something that happens in a session. -/
inductive Step where
  /-- Breakpoints are requested in a source. -/
  | request (source : String)
  /-- The engine notifies of something. -/
  | event (event : Event)

variable {σ : Type}

/-- The session of a strategy before anything has happened. -/
def start (strategy : Strategy) (target : σ) : Session σ := ⟨.ofStrategy strategy, ⟨target, []⟩⟩

/-- The entry breakpoints of a session. -/
def entries (session : Session σ) : Registry := session.binder.guard.entries

/-- The scripts that were reported among some steps. -/
def reported (steps : List Step) : List Script :=
  steps.filterMap fun
    | .event (.scriptParsed script) => some script
    | _ => none

/-- A pause does not tell which script it is in: that of the innermost frame was never reported,
and the frame has no URL or is missing.
-/
def Unplaced (session : Session σ) (pause : Pause) : Prop :=
  (∀ location,
    pause.location? = some location → session.binder.scripts.find? location.script = none)
  ∧ ∀ frame, pause.frames.head? = some frame → frame.url = ""

variable [Engine σ] [BreakpointManager σ]

/-- What a step is answered with, and the session after it.  Only pauses are answered. -/
def step (session : Session σ) : Step → Option Disposition × Session σ
  | .request source =>
      let (binder, target) := session.binder.request source session.target
      (none, ⟨binder, target⟩)
  | .event event =>
      let (disposition, binder, target) := session.binder.handle event session.target
      (disposition, ⟨binder, target⟩)

/-- The session after several steps. -/
def run (session : Session σ) (steps : List Step) : Session σ :=
  steps.foldl (fun session step => (session.step step).2) session

theorem run_append (session : Session σ) (earlier later : List Step)
    : session.run (earlier ++ later) = (session.run earlier).run later :=
  List.foldl_append

/-- The script that a guard's pause is in, with the URLs of it and of its sources at that time. -/
def pausedIn? (session : Session σ) (pause : Pause) : Option (Script × List String) :=
  if session.binder.guard.isGuardPause pause then
    (session.binder.pausedScript? pause).map fun (script, known) =>
      (script, (Binder.candidates script (known.bind script session.target).2.2).1)
  else none

/-- The breakpoints in a script are bound at some locations, unless that was done before.  `bound`
and `acts` are what was noted of bound scripts and what the target was asked before, and `known`
and `told` the same afterwards.
-/
inductive Binds (bound : Index ScriptId (List Location)) (acts : List Act) (script : Script)
    (locations : List Location) (known : Index ScriptId (List Location)) (told : List Act)
    : Prop
  | already (found : bound.find? script.id = some locations) (same : known = bound)
    (silent : told = acts)
  | anew (unknown : bound.find? script.id = none)
    (noted : known = bound.set script.id locations)
    (asked : told = acts ++ [.bind script locations])

/-- What a step can do.  In this order: a request guards its file; a reported script is certain to
stop and waits; the breakpoints in a reported script are bound; the target goes on by itself; a
pause that the guard did not make, or in a script of which nothing is known, is shown; in any other
pause the breakpoints in its script are bound, what was hit is released, and then only the target
may go on.
-/
inductive Change (before : Session σ) : Step → Option Disposition → Session σ → Prop
  | requested {source : String} {after : Session σ}
    (scripts : after.binder.scripts = before.binder.scripts)
    (bound : after.binder.bound = before.binder.bound)
    (asked : Recorded.Extends Act.Maintains before.target after.target)
    (added : Added before.entries (ScriptUrl.canonical source) after.entries)
    (state
      : after.binder.state
        = if before.binder.state = .idle then Binder.runningState after.binder.guard
          else before.binder.state)
    : Change before (.request source) none after
  | deferred {script : Script} {after : Session σ}
    (scripts : after.binder.scripts = before.binder.scripts.set script.id script)
    (bound : after.binder.bound = before.binder.bound)
    (silent : after.target.acts = before.target.acts)
    (guard : after.binder.guard = before.binder.guard)
    (state : after.binder.state = before.binder.state)
    (defers
      : before.binder.guard.defers script.url (Binder.candidates script before.target).1 = true)
    : Change before (.event (.scriptParsed script)) none after
  | parsed {script : Script} {locations : List Location} {after : Session σ}
    (scripts : after.binder.scripts = before.binder.scripts.set script.id script)
    (binds
      : Binds before.binder.bound before.target.acts script locations after.binder.bound
          after.target.acts)
    (guard : after.binder.guard = before.binder.guard)
    (state : after.binder.state = before.binder.state)
    (eager
      : before.binder.guard.defers script.url (Binder.candidates script before.target).1 = false)
    : Change before (.event (.scriptParsed script)) none after
  | resumed {after : Session σ}
    (scripts : after.binder.scripts = before.binder.scripts)
    (bound : after.binder.bound = before.binder.bound)
    (silent : after.target.acts = before.target.acts)
    (guard : after.binder.guard = before.binder.guard)
    (state : after.binder.state = Binder.runningState before.binder.guard)
    : Change before (.event .resumed) none after
  | shown {pause : Pause} {after : Session σ} (foreign : before.pausedIn? pause = none)
    (scripts : after.binder.scripts = before.binder.scripts)
    (bound : after.binder.bound = before.binder.bound)
    (silent : after.target.acts = before.target.acts)
    (guard : after.binder.guard = before.binder.guard)
    (state : after.binder.state = .paused .userBreakpoint)
    : Change before (.event (.paused pause)) (some (.surface pause)) after
  | settled {pause : Pause} {script : Script} {urls : List String} {locations : List Location}
    {disposition : Disposition} {told removed : List Act} {engine : Recorded σ}
    {after : Session σ}
    (own : before.pausedIn? pause = some (script, urls))
    (scripts
      : ∀ id,
          after.binder.scripts.find? id
          = if id = script.id then some script else before.binder.scripts.find? id)
    (binds
      : Binds before.binder.bound before.target.acts script locations after.binder.bound told)
    (maintained : ∀ act ∈ removed, act.Maintains)
    (decided : (before.binder.guard.classify pause ⟨urls, locations⟩ engine).1 = disposition)
    (released
      : Released before.entries after.entries pause.hits (urls.map ScriptUrl.canonical))
    (coherent : after.entries.Coherent)
    (ended
      : if disposition.isResume then
          (∃ reply, after.target.acts = told ++ removed ++ [.command .resume reply])
          ∧ after.binder.state = Binder.runningState after.binder.guard
        else
          after.target.acts = told ++ removed
          ∧ after.binder.state = .paused .userBreakpoint)
    : Change before (.event (.paused pause)) (some disposition) after

omit [Engine σ] in
/-- Binding the breakpoints in a script binds them, by what is known of it, and leaves the rest of
the binder as it is.
-/
theorem binds_bind (binder : Binder) (script : Script) (target : Recorded σ)
    : ∃ locations known after,
        binder.bind script target = (locations, { binder with bound := known }, after)
        ∧ Binds binder.bound target.acts script locations known after.acts := by
  unfold Binder.bind
  cases found : binder.bound.find? script.id with
  | some locations => exact ⟨locations, _, _, rfl, .already found rfl rfl⟩
  | none => exact ⟨_, _, _, rfl, .anew found rfl rfl⟩

omit [BreakpointManager σ] in
/-- Preparing the target is at most one operation of the guard. -/
theorem setUp_eq (binder : Binder) (target : Recorded σ)
    : ∃ guard told,
        binder.setUp target = ({ binder with guard, isSetUp := true }, told)
        ∧ ((guard, told) = (binder.guard, target)
          ∨ (guard, told) = binder.guard.install target) := by
  unfold Binder.setUp
  cases done : binder.isSetUp with
  | true =>
      refine ⟨binder.guard, target, ?_, .inl rfl⟩
      rw [if_pos rfl, ← done]
  | false => exact ⟨_, _, rfl, .inr rfl⟩

/-- A request is a change of its kind. -/
theorem change_request {session : Session σ} (coherent : session.entries.Coherent)
    (source : String)
    : Change session (.request source) none (session.step (.request source)).2 := by
  obtain ⟨guard, told, prepared, operated⟩ := setUp_eq session.binder session.target
  have kept : guard.entries = session.entries
      ∧ Recorded.Extends Act.Maintains session.target told := by
    rcases operated with same | installed
    · obtain ⟨rfl, rfl⟩ := Prod.mk.inj same
      exact ⟨rfl, .refl _⟩
    · obtain ⟨rfl, rfl⟩ := Prod.mk.inj installed
      exact ⟨(session.binder.guard.install_entries session.target).1,
        session.binder.guard.install_extends session.target⟩
  obtain ⟨entries, asked⟩ := kept
  have added := Guard.request_added (entries ▸ coherent) source told
  rw [entries] at added
  simp only [step, Binder.request, prepared]
  exact .requested rfl rfl (asked.trans (guard.request_extends source told)) added rfl

/-- A reported script is a change of one of its kinds. -/
theorem change_scriptParsed (session : Session σ) (script : Script)
    : Change session (.event (.scriptParsed script)) none
        (session.step (.event (.scriptParsed script))).2 := by
  simp only [step, Binder.handle, Binder.scriptParsed]
  cases defers
    : session.binder.guard.defers script.url (Binder.candidates script session.target).1 with
  | true =>
      rw [if_pos rfl]
      exact .deferred rfl rfl rfl rfl rfl defers
  | false =>
      rw [if_neg Bool.false_ne_true]
      obtain ⟨locations, known, after, bound, binds⟩ := binds_bind
        { session.binder with scripts := session.binder.scripts.set script.id script } script
        (Binder.candidates script session.target).2
      rw [bound]
      exact .parsed rfl binds rfl rfl defers

omit [Engine σ] [BreakpointManager σ] in
/-- Nothing is known of the script that a pause is in exactly if the pause does not tell it. -/
theorem pausedScript?_eq_none_iff {session : Session σ} {pause : Pause}
    : session.binder.pausedScript? pause = none ↔ session.Unplaced pause := by
  unfold Binder.pausedScript? Binder.scriptOfFrame? Unplaced Pause.location?
  cases top : pause.frames.head? with
  | none => simp
  | some frame => cases known : session.binder.scripts.find? frame.location.script <;> simp [known]

/-- The script of a pause is that of the innermost frame, and it is known by its id from then on;
nothing else changes.
-/
theorem pausedScript?_eq_some {binder known : Binder} {pause : Pause} {script : Script}
    (table : ∀ {id script}, binder.scripts.find? id = some script → script.id = id)
    (found : binder.pausedScript? pause = some (script, known))
    : (∃ location, pause.location? = some location ∧ location.script = script.id)
      ∧ ∃ noted : Index ScriptId Script,
        known = { binder with scripts := noted }
        ∧ ∀ id,
          noted.find? id = if id = script.id then some script else binder.scripts.find? id := by
  unfold Binder.pausedScript? at found
  split at found
  case h_1 reported lookup =>
    obtain ⟨location, located, listed⟩ := Option.bind_eq_some_iff.mp lookup
    obtain ⟨rfl, rfl⟩ := Prod.mk.inj (Option.some.inj found)
    have named := table listed
    refine ⟨⟨location, located, named.symm⟩, _, rfl, ?_⟩
    intro id
    split
    case isTrue same => rw [same, named, listed]
    case isFalse => rfl
  case h_2 =>
    obtain ⟨unreported, framed, both⟩ := Option.map_eq_some_iff.mp found
    obtain ⟨rfl, rfl⟩ := Prod.mk.inj both
    refine ⟨?_, _, rfl, fun id => Index.find?_set _ _ _ _⟩
    unfold Binder.scriptOfFrame? at framed
    obtain ⟨frame, top, named⟩ := Option.bind_eq_some_iff.mp framed
    split at named
    · cases named
    · refine ⟨frame.location, by rw [Pause.location?, top, Option.map_some], ?_⟩
      rw [← Option.some.inj named]

omit [Engine σ] [BreakpointManager σ] in
/-- The state of a binder does not matter for the script that a pause is in. -/
theorem pausedScript?_of_state (binder : Binder) (state : BinderState) (pause : Pause)
    : ({ binder with state } : Binder).pausedScript? pause
      = (binder.pausedScript? pause).map fun (script, known) => (script, { known with state }) := by
  unfold Binder.pausedScript?
  cases pause.location?.bind fun location => binder.scripts.find? location.script with
  | some script => rfl
  | none => cases Binder.scriptOfFrame? pause <;> rfl

omit [Engine σ] in
/-- What binding asks of the target goes by what is known of bound scripts. -/
theorem bind_target_congr {binder other : Binder} (same : other.bound = binder.bound)
    (script : Script) (target : Recorded σ)
    : (other.bind script target).2.2 = (binder.bind script target).2.2 := by
  unfold Binder.bind
  rw [same]
  cases binder.bound.find? script.id <;> rfl

/-- A pause that the guard did not make, or in a script of which nothing is known, is shown. -/
theorem step_paused_of_foreign {session : Session σ} {pause : Pause}
    (foreign : session.pausedIn? pause = none)
    : session.step (.event (.paused pause))
      = (some (.surface pause),
          ⟨{ session.binder with state := .paused .userBreakpoint }, session.target⟩) := by
  simp only [step, Binder.handle, Binder.paused]
  cases guarded : session.binder.guard.isGuardPause pause with
  | false =>
      rw [if_neg Bool.false_ne_true]
      simp only [Binder.settle, Guard.classify_of_not_isGuardPause guarded]
  | true =>
      rw [pausedIn?, guarded, if_pos rfl, Option.map_eq_none_iff] at foreign
      rw [if_pos rfl, pausedScript?_of_state, foreign, Option.map_none]

/-- A pause of the guard in a script is settled once the breakpoints in the script are bound. -/
theorem step_paused_of_own {session : Session σ}
    (table : ∀ {id script}, session.binder.scripts.find? id = some script → script.id = id)
    {pause : Pause} {script : Script} {urls : List String}
    (own : session.pausedIn? pause = some (script, urls))
    : ∃ locations, ∃ binder : Binder, ∃ target : Recorded σ,
        session.step (.event (.paused pause))
          = (some (binder.settle pause ⟨urls, locations⟩ target).1,
              ⟨(binder.settle pause ⟨urls, locations⟩ target).2.1,
                (binder.settle pause ⟨urls, locations⟩ target).2.2⟩)
        ∧ binder.guard = session.binder.guard
        ∧ (∀ id,
            binder.scripts.find? id
            = if id = script.id then some script else session.binder.scripts.find? id)
        ∧ Binds session.binder.bound session.target.acts script locations binder.bound
            target.acts := by
  rw [pausedIn?] at own
  split at own
  case isFalse => cases own
  case isTrue guarded =>
    obtain ⟨⟨script, known⟩, found, same⟩ := Option.map_eq_some_iff.mp own
    obtain ⟨rfl, rfl⟩ := Prod.mk.inj same
    obtain ⟨-, noted, rfl, scripts⟩ := pausedScript?_eq_some table found
    let stopped : Binder := { session.binder with
      scripts := noted, state := .paused (session.binder.guard.kindOf pause) }
    obtain ⟨locations, bound, asked, binding, binds⟩ := binds_bind stopped script session.target
    have sameBound : ({ session.binder with scripts := noted } : Binder).bound = stopped.bound :=
      rfl
    have same := bind_target_congr sameBound script session.target
    rw [binding] at same
    refine ⟨locations, { stopped with bound }, (Binder.candidates script asked).2, ?_, rfl, scripts,
      binds⟩
    simp only [step, Binder.handle, Binder.paused]
    rw [if_pos guarded, pausedScript?_of_state, found, same]
    simp only [Option.map_some]
    rw [binding]

omit [BreakpointManager σ] in
/-- Settling a pause goes by what the guard decides: the target goes on, or it stays where it is for
the user to see.
-/
theorem settle_eq (binder : Binder) (pause : Pause) (script : PausedScript) (target : Recorded σ)
    : let decision := binder.guard.classify pause script target
      let outcome := binder.settle pause script target
      outcome.1 = decision.1
      ∧ outcome.2.1.guard = decision.2.1
      ∧ outcome.2.1.scripts = binder.scripts
      ∧ outcome.2.1.bound = binder.bound
      ∧ if decision.1.isResume then
          (∃ reply, outcome.2.2.acts = decision.2.2.acts ++ [.command .resume reply])
          ∧ outcome.2.1.state = Binder.runningState outcome.2.1.guard
        else
          outcome.2.2.acts = decision.2.2.acts
          ∧ outcome.2.1.state = .paused .userBreakpoint := by
  simp only [Binder.settle]
  cases binder.guard.classify pause script target with
  | mk disposition rest =>
      obtain ⟨guard, target⟩ := rest
      cases disposition with
      | resume => exact ⟨rfl, rfl, rfl, rfl, ⟨_, Recorded.perform_acts .resume target⟩, rfl⟩
      | surface shown => exact ⟨rfl, rfl, rfl, rfl, rfl, rfl⟩

/-- A pause is a change of one of its kinds: in a script of the guard it is decided on once the
breakpoints in the script are bound, and any other is shown.
-/
theorem change_paused {session : Session σ} (coherent : session.entries.Coherent)
    (table : ∀ {id script}, session.binder.scripts.find? id = some script → script.id = id)
    (pause : Pause)
    : ∃ disposition,
        (session.step (.event (.paused pause))).1 = some disposition
        ∧ Change session (.event (.paused pause)) (some disposition)
          (session.step (.event (.paused pause))).2 := by
  cases own : session.pausedIn? pause with
  | none =>
      rw [step_paused_of_foreign own]
      exact ⟨.surface pause, rfl, .shown own rfl rfl rfl rfl rfl⟩
  | some pair =>
      obtain ⟨script, urls⟩ := pair
      obtain ⟨locations, binder, target, settled, guard, scripts, binds⟩ :=
        step_paused_of_own table own
      obtain ⟨same, guarded, still, bound, ended⟩ :=
        settle_eq binder pause ⟨urls, locations⟩ target
      obtain ⟨after, released⟩ :=
        Guard.classify_released coherent pause ⟨urls, locations⟩ target
      obtain ⟨removed, told, maintained⟩ :=
        binder.guard.classify_extends pause ⟨urls, locations⟩ target
      rw [settled, same]
      rw [guard] at told guarded ended ⊢
      refine ⟨_, rfl, .settled own (still ▸ scripts) (bound ▸ binds) maintained rfl ?_ ?_ ?_⟩
      · simpa only [entries, guarded] using released
      · simpa only [entries, guarded] using after
      · rwa [← told]

end Session

end EarlyBreak
