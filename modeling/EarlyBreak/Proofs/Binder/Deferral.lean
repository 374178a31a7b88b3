import EarlyBreak.Debugger.Simulation
import EarlyBreak.Proofs.Binder.Soundness
import Mathlib.Data.List.Induction

/-! Whether scripts that wait for their entry pause are going to get one.  They are until a pause in
another script takes away the last entry breakpoint that stops them, and only then are they not.
-/

namespace EarlyBreak.Session

open Debugger Entry Entry.Registry

variable {σ : Type}

/-- Every script among some whose breakpoints are not bound is certain to stop. -/
def Guarded (session : Session σ) (scripts : List Script) : Prop :=
  ∀ script ∈ scripts,
    script.id ∉ session.target.boundIds → session.entries.willPauseFor script.url = true

variable [BreakpointManager σ]

/-- A pause of the guard in one script empties each entry breakpoint that stops another one, whose
breakpoints are not bound.
-/
def Strands (session : Session σ) (scripts : List Script) (pause : Pause) : Prop :=
  ∃ paused urls script,
    session.pausedIn? pause = some (paused, urls)
    ∧ script ∈ scripts
    ∧ script.id ≠ paused.id
    ∧ script.id ∉ session.target.boundIds
    ∧ ∀ slot matcher,
        session.entries.matchers.find? slot = some matcher
        → Stops matcher script.url
        → session.entries.Empties pause.hits (urls.map ScriptUrl.canonical) slot

variable [Engine σ] {before after : Session σ} {step : Step} {answer : Option Disposition}
  {scripts : List Script}

/-- A change keeps scripts guarded, those that it reports among them, unless it is a pause that
strands one.
-/
theorem Change.guarded (change : Change before step answer after) (sound : Sound before)
    (guarded : Guarded before scripts)
    (safe : ∀ pause, step = .event (.paused pause) → ¬ Strands before scripts pause)
    : Guarded after (scripts ++ reported [step]) := by
  intro script member unbound
  -- What was bound before is bound after, whatever the step is.
  have before_unbound : script.id ∉ before.target.boundIds := fun bound =>
    unbound ((change.acts_grow.sublist.filterMap Act.bound?).subset bound)
  have already : script ∈ scripts → before.entries.willPauseFor script.url = true :=
    fun known => guarded script known before_unbound
  cases change with
  | requested _ bound asked added state =>
      exact added.willPauseFor sound.coherent (already (by simpa [reported] using member))
  | resumed _ bound silent guard | shown foreign _ bound silent guard =>
      rw [entries, guard]
      exact already (by simpa [reported] using member)
  | deferred _ bound silent guard state defers =>
      rw [entries, guard]
      rcases List.mem_append.mp member with known | latest
      · exact already known
      · rw [List.mem_singleton.mp latest]
        exact Guard.willPauseFor_of_defers defers
  | parsed _ binds guard state eager =>
      rw [entries, guard]
      rcases List.mem_append.mp member with known | latest
      · exact already known
      · refine absurd ((binds.mem_iff sound.memoized).mpr (.inr ?_)) unbound
        rw [List.mem_singleton.mp latest]
  | @settled pause paused urls _ _ _ _ _ _ own _ binds maintained decided released coherent
      ended =>
      have known : script ∈ scripts := by simpa [reported] using member
      have other : script.id ≠ paused.id := fun same =>
        unbound ((mem_boundIds_of_settled sound binds maintained ended).mpr (.inr same))
      rw [released.willPauseFor_iff sound.coherent coherent]
      -- Were every expression that stops the script released, the pause would strand it.
      by_contra lost
      refine safe pause rfl ⟨paused, urls, script, own, known, other, before_unbound, ?_⟩
      intro slot matcher matched stops
      by_contra left
      exact lost ⟨slot, matcher, matched, stops, left⟩

/-- A pause that strands a script leaves it unguarded. -/
theorem Change.not_guarded {pause : Pause}
    (change : Change before (.event (.paused pause)) answer after) (sound : Sound before)
    (strands : Strands before scripts pause)
    : ¬ Guarded after scripts := by
  obtain ⟨paused, urls, script, own, known, other, unbound, lost⟩ := strands
  intro guarded
  cases change with
  | shown foreign => cases foreign.symm.trans own
  | settled same _ binds maintained decided released coherent ended =>
      obtain ⟨rfl, rfl⟩ := Prod.mk.inj (Option.some.inj (same.symm.trans own))
      have stops := guarded script known fun bound =>
        ((mem_boundIds_of_settled sound binds maintained ended).mp bound).elim unbound other
      obtain ⟨slot, matcher, matched, stop, left⟩ :=
        (released.willPauseFor_iff sound.coherent coherent).mp stops
      exact left (lost slot matcher matched stop)

/-- At every moment each reported script whose breakpoints are not bound is certain to stop, in
exactly the sessions where no guard's pause in one script empties all the entry breakpoints that
stop another such script.
-/
theorem guarded_iff_not_strands (strategy : Strategy) (target : σ) (steps : List Step)
    : let session := start strategy target
      (∀ done, done <+: steps → Guarded (session.run done) (reported done))
      ↔ ∀ done pause,
          done ++ [.event (.paused pause)] <+: steps
          → ¬ Strands (session.run done) (reported done) pause := by
  intro session
  have sound : ∀ done, Sound (session.run done) := sound_run strategy target
  have told : ∀ done step, reported (done ++ [step]) = reported done ++ reported [step] :=
    fun done step => List.filterMap_append
  constructor
  · intro guarded done pause before strands
    have after := guarded _ before
    have none : reported [.event (.paused pause)] = [] := rfl
    rw [run_append, told, none, List.append_nil] at after
    exact ((sound done).change (.event (.paused pause))).not_guarded (sound done) strands after
  · intro safe done before
    induction done using List.reverseRecOn with
    | nil => exact nofun
    | append_singleton done step ih =>
        have guarded := ih ((List.prefix_append _ _).trans before)
        rw [run_append, told]
        refine ((sound done).change step).guarded (sound done) guarded ?_
        rintro pause rfl
        exact safe done pause before

/-- Two scripts that were compiled from one source. -/
def sharedSource : Simulation := { sources := [("out/a.js", ["a.ts"]), ("esm/a.js", ["a.ts"])] }

/-- The source is requested, both scripts are reported, and the first one stops at its entry. -/
def firstStops : List Step :=
  [
    .request "a.ts",
    .event (.scriptParsed ⟨"1", "out/a.js", none⟩),
    .event (.scriptParsed ⟨"2", "esm/a.js", none⟩),
    .event (.paused
      ⟨"other", none, ["1:0:0:" ++ Entry.pattern "a.ts"],
        [⟨"0", "", ⟨"1", 0, some 0⟩, "out/a.js"⟩]⟩)
  ]

/-- The second script waits for a pause, and its entry breakpoint is gone with the first one. -/
theorem not_guarded_second_script
    : ¬ Guarded ((start .regex sharedSource).run firstStops) (reported firstStops) := by
  intro guarded
  have stops := guarded ⟨"2", "esm/a.js", none⟩ (by decide +kernel) (by decide +kernel)
  have lost : ((start .regex sharedSource).run firstStops).entries.willPauseFor "esm/a.js"
      = false := by decide +kernel
  cases stops.symm.trans lost

end EarlyBreak.Session
