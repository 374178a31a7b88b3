import EarlyBreak.Proofs.Entry.Installation
import EarlyBreak.Binder.Guard

/-! Which scripts the engine stops in, as against those that a guard counts on being stopped.  The
engine matches its patterns against the URL of a script as it is; a guard also takes a match of the
canonical form for a stop.
-/

namespace EarlyBreak

/-- Two texts that are escaped alike are the same. -/
theorem Regex.escape_injective {text other : List Char} (same : escape text = escape other)
    : text = other := by
  have backslash : metaChars.contains '\\' = true := by decide
  induction text generalizing other with
  | nil =>
      cases other with
      | nil => rfl
      | cons c rest =>
          simp only [escape, List.flatMap_nil, List.flatMap_cons] at same
          split at same <;> cases same
  | cons c rest ih =>
      cases other with
      | nil =>
          simp only [escape, List.flatMap_nil, List.flatMap_cons] at same
          split at same <;> cases same
      | cons d others =>
          simp only [escape, List.flatMap_cons] at same ih
          -- A lone character is never a backslash, as that one has a meaning.
          split at same <;> split at same <;>
            simp only [List.cons_append, List.nil_append, List.cons.injEq] at same
          · rw [same.2.1, ih same.2.2]
          · rename_i plain
            exact absurd backslash (same.1 ▸ plain)
          · rename_i plain _
            exact absurd backslash (same.1 ▸ plain)
          · rw [same.1, ih same.2]

namespace Entry

open Debugger

/-- The stem of an entry expression can be read off its written form. -/
theorem render_expression_injective {stem other : List Char}
    (same : (expression stem).render = (expression other).render)
    : stem = other := by
  simp only [expression, Regex.render, List.append_cancel_left_eq, List.append_cancel_right_eq]
    at same
  exact Regex.escape_injective same

/-- A pattern as the engine has it matches a text if it is the written form of an entry expression
that does.
-/
def Matches (pattern text : String) : Prop :=
  ∃ stem,
    pattern = String.ofList (expression stem).render
    ∧ (expression stem).search text.toList = true

/-- A rendered expression matches what the expression finds, as rendering is read back. -/
theorem matches_iff {stem : List Char} {text : String}
    : Matches (String.ofList (expression stem).render) text
      ↔ (expression stem).search text.toList = true := by
  constructor
  · rintro ⟨other, same, found⟩
    obtain rfl := render_expression_injective (String.ofList_injective same)
    exact found
  · exact fun found => ⟨stem, rfl, found⟩

/-- A breakpoint that is installed in the engine stops a script with a URL. -/
def Catches (target : Simulation) (url : String) : Prop :=
  ∃ id breakpoint,
    target.installed.find? id = some breakpoint ∧ Matches breakpoint.pattern url

namespace Registry

variable {registry before after : Registry} {σ : Type} [Engine σ] {engine asked : σ}
  {operation : Operation}

/-- Every slot in use has an entry expression. -/
def Expressed (registry : Registry) : Prop :=
  ∀ {slot matcher},
    registry.matchers.find? slot = some matcher → ∃ stem, matcher = expression stem

theorem expressed_empty : ({} : Registry).Expressed := by
  intro slot matcher found
  cases found

theorem place_matchers (registry : Registry) (record : Record)
    : (registry.place record).2.matchers = registry.matchers := by
  unfold place
  cases registry.free <;> rfl

/-- No operation gives a slot anything but an entry expression. -/
theorem Effect.expressed (effect : Effect before engine operation after asked)
    (coherent : before.Coherent) (expressed : before.Expressed)
    : after.Expressed := by
  intro slot matcher found
  cases effect with
  | waiting | refused | missed => exact expressed found
  | shared unknown live patterned =>
      simp only [Registry.addPending, live] at found
      exact expressed found
  | installed unknown unshared replied =>
      simp only [Registry.insert, place_matchers, Index.find?_set] at found
      split at found
      · exact ⟨_, (Option.some.inj found).symm⟩
      · exact expressed found
  | lessened reached live waits rest | dropped reached live waits rest replied =>
      exact expressed
        (((coherent.removePending_released reached live _).matchers slot matcher).mp found).1

/-- The expression of a slot matches what the pattern of its record matches. -/
theorem Coherent.search_iff_matches (coherent : registry.Coherent) (expressed : registry.Expressed)
    {slot : Nat} {matcher : Regex} {record : Record}
    (found : registry.matchers.find? slot = some matcher)
    (live : registry.record? slot = some record) (text : String)
    : matcher.search text.toList = true ↔ Matches record.pattern text := by
  obtain ⟨stem, rfl⟩ := expressed found
  rw [← coherent.rendered found live, matches_iff]

/-- A script is going to stop exactly if some record has a pattern that matches its URL as it is or
in canonical form.
-/
theorem Coherent.willPauseFor_iff_matches (coherent : registry.Coherent)
    (expressed : registry.Expressed) {url : String}
    : registry.willPauseFor url = true
      ↔ ∃ slot record,
          registry.record? slot = some record
          ∧ (Matches record.pattern url ∨ Matches record.pattern (ScriptUrl.canonical url)) := by
  simp only [coherent.willPauseFor_iff, Registry.Stops]
  constructor
  · rintro ⟨slot, matcher, found, stops⟩
    obtain ⟨record, live⟩ := (coherent.matchers slot).mp ⟨matcher, found⟩
    refine ⟨slot, record, live, ?_⟩
    rwa [← coherent.search_iff_matches expressed found live,
      ← coherent.search_iff_matches expressed found live]
  · rintro ⟨slot, record, live, stops⟩
    obtain ⟨matcher, found⟩ := (coherent.matchers slot).mpr ⟨record, live⟩
    refine ⟨slot, matcher, found, ?_⟩
    rwa [coherent.search_iff_matches expressed found live,
      coherent.search_iff_matches expressed found live]

end Registry

namespace Trial

/-- Every slot in use has an entry expression after any steps. -/
theorem expressed_run {trial : Trial} (agrees : trial.registry.Agrees trial.target)
    (expressed : trial.registry.Expressed) (steps : List Step)
    : (trial.run steps).registry.Expressed := by
  induction steps generalizing trial with
  | nil => exact expressed
  | cons step steps ih =>
      refine ih (agrees_advance agrees step).1 ?_
      cases step with
      | operate operation =>
          exact (agrees.coherent.effect operation trial.target).expressed agrees.coherent expressed
      | configure mode failing => exact expressed

/-- A guard leaves a script to its stop exactly if one of the script's sources is pending and some
record has a pattern that matches the script's URL as it is or in canonical form.
-/
theorem defers_iff {registry : Registry} (coherent : registry.Coherent)
    (expressed : registry.Expressed) (url : String) (candidates : List String)
    : (Guard.regex registry).defers url candidates = true
      ↔ (∃ candidate ∈ candidates, registry.Pending (ScriptUrl.canonical candidate))
        ∧ ∃ slot record,
            registry.record? slot = some record
            ∧ (Matches record.pattern url
                ∨ Matches record.pattern (ScriptUrl.canonical url)) := by
  simp only [Guard.defers, Bool.and_eq_true, List.any_eq_true, coherent.hasPending_iff,
    coherent.willPauseFor_iff_matches expressed]

/-- At every moment of a trial a guard leaves a script to a stop that does not come in exactly one
case: one of its sources is pending, some record has a pattern that matches the canonical form of
its URL, and no pattern that is installed matches the URL itself.
-/
theorem defers_uncaught_iff (steps : List Step) (url : String) (candidates : List String)
    : let trial := run {} steps
      ((Guard.regex trial.registry).defers url candidates = true ∧ ¬ Catches trial.target url)
      ↔ (∃ candidate ∈ candidates, trial.registry.Pending (ScriptUrl.canonical candidate))
        ∧ (∃ slot record,
            trial.registry.record? slot = some record
            ∧ Matches record.pattern (ScriptUrl.canonical url))
        ∧ ¬ Catches trial.target url := by
  intro trial
  have agrees : trial.registry.Agrees trial.target := agrees_run Registry.agrees_start steps
  have expressed : trial.registry.Expressed :=
    expressed_run Registry.agrees_start Registry.expressed_empty steps
  -- What a record matches the engine stops in, as the breakpoints of all records are installed.
  have caught {slot : Nat} {record : Record} (live : trial.registry.record? slot = some record)
      (matched : Matches record.pattern url)
      : Catches trial.target url :=
    ⟨record.id, .atEntry record.pattern,
      agrees.placed (Registry.post?_eq_some_iff.mpr ⟨record, live, rfl, rfl⟩), matched⟩
  rw [defers_iff agrees.coherent expressed]
  constructor
  · rintro ⟨⟨pending, slot, record, live, raw | canonical⟩, uncaught⟩
    · exact (uncaught (caught live raw)).elim
    · exact ⟨pending, ⟨slot, record, live, canonical⟩, uncaught⟩
  · rintro ⟨pending, ⟨slot, record, live, canonical⟩, uncaught⟩
    exact ⟨⟨pending, slot, record, live, .inr canonical⟩, uncaught⟩

/-- A script whose URL escapes the space in its name is left to a stop, but the only pattern that is
installed has the space.
-/
theorem defers_escaped_name
    : let trial := run {} [.operate (.guard "/work/src/a b.ts")]
      (Guard.regex trial.registry).defers "file:///work/out/a%20b.js" ["/work/src/a b.ts"] = true
      ∧ ¬ Catches trial.target "file:///work/out/a%20b.js" := by
  refine ⟨by decide +kernel, ?_⟩
  rintro ⟨id, breakpoint, installed, matched⟩
  have only : (run {} [.operate (.guard "/work/src/a b.ts")]).target.installed
      = [("1:0:0:" ++ Entry.pattern "/work/src/a b.ts",
          .atEntry (Entry.pattern "/work/src/a b.ts"))] := by decide +kernel
  rw [only, Index.find?, Index.find?] at installed
  split at installed
  · obtain rfl := Option.some.inj installed
    have found : (expression (stem "/work/src/a b.ts".toList)).search
        "file:///work/out/a%20b.js".toList = true := matches_iff.mp matched
    have missed : (expression (stem "/work/src/a b.ts".toList)).search
        "file:///work/out/a%20b.js".toList = false := by decide +kernel
    rw [missed] at found
    cases found
  · cases installed

end Trial

end Entry

end EarlyBreak
