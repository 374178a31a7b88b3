import EarlyBreak.Proofs.Binder.GuardSteps
import EarlyBreak.Proofs.Entry.Operation
import Mathlib.Data.List.Induction

/-! Which breakpoints the engine has, by its replies, and which of them a registry knows.  It knows
those that it never asked to remove: it forgets a breakpoint when it asks, whether or not the
engine gives it up.
-/

namespace EarlyBreak

open Debugger

namespace Debugger

/-- Something was asked, and only things of a kind have been since. -/
def Since (first only : Act → Prop) (acts : List Act) : Prop :=
  ∃ earlier act later,
    acts = earlier ++ act :: later ∧ first act ∧ ∀ other ∈ later, only other

theorem not_since_nil {first only : Act → Prop} : ¬ Since first only [] := by
  rintro ⟨earlier, act, later, none, -⟩
  simp at none

/-- Something has stood since an act exactly if the last act starts it, or it stood before and the
act lets it stand.
-/
theorem since_concat {first only : Act → Prop} {acts : List Act} {act : Act}
    : Since first only (acts ++ [act]) ↔ first act ∨ Since first only acts ∧ only act := by
  constructor
  · rintro ⟨earlier, begun, later, split, begins, rest⟩
    -- The last thing asked is the first of its kind, or one of those that followed.
    rcases List.eq_nil_or_concat later with rfl | ⟨before, last, rfl⟩
    · obtain ⟨-, same⟩ := List.append_inj' split rfl
      exact .inl (List.head_eq_of_cons_eq same ▸ begins)
    · rw [List.concat_eq_append] at split rest
      rw [← List.cons_append, ← List.append_assoc] at split
      obtain ⟨whole, same⟩ := List.append_inj' split rfl
      refine .inr ⟨⟨earlier, begun, before, whole, begins, ?_⟩, ?_⟩
      · exact fun other member => rest other (List.mem_append_left _ member)
      · exact List.head_eq_of_cons_eq same ▸ rest last (by simp)
  · rintro (begins | ⟨⟨earlier, begun, later, rfl, begins, rest⟩, still⟩)
    · exact ⟨acts, act, [], rfl, begins, by simp⟩
    · refine ⟨earlier, begun, later ++ [act], by simp, begins, ?_⟩
      intro other member
      rcases List.mem_append.mp member with old | new
      · exact rest other old
      · exact List.mem_singleton.mp new ▸ still

/-- The breakpoint that the engine was told to remove. -/
def Act.askedBack? : Act → Option BreakpointId
  | .command (.removeBreakpoint id) _ => some id
  | _ => none

variable {acts : List Act} {act : Act} {id : BreakpointId}

theorem Act.askedBack?_eq_some_iff
    : act.askedBack? = some id ↔ ∃ reply, act = .command (.removeBreakpoint id) reply := by
  constructor
  · intro asked
    unfold Act.askedBack? at asked
    split at asked
    case h_1 => exact ⟨_, by rw [Option.some.inj asked]⟩
    case h_2 => cases asked
  · rintro ⟨reply, rfl⟩
    rfl

/-- The engine has a breakpoint, by its replies: it handed the id out, and no command to remove it
has succeeded since.
-/
def Installed (acts : List Act) (id : BreakpointId) : Prop :=
  Since (·.handedOut? = some id)
    (fun act => ∀ reply, act ≠ .command (.removeBreakpoint id) (.ok reply)) acts

/-- The engine handed out a breakpoint and has not been asked to remove it since. -/
def Unrecalled (acts : List Act) (id : BreakpointId) : Prop :=
  Since (·.handedOut? = some id) (·.askedBack? ≠ some id) acts

/-- A command to remove a breakpoint has failed, and the id was not handed out again since. -/
def Stranded (acts : List Act) (id : BreakpointId) : Prop :=
  Since (fun act => ∃ e, act = .command (.removeBreakpoint id) (.error e))
    (·.handedOut? ≠ some id) acts

/-- What the engine has it was not asked to remove, or else it could not be removed; by induction
along what was asked, from the end.
-/
theorem Installed.stranded_iff (installed : Installed acts id)
    : Stranded acts id ↔ ¬ Unrecalled acts id := by
  induction acts using List.reverseRecOn with
  | nil => exact (not_since_nil installed).elim
  | append_singleton acts act ih =>
      simp only [Stranded, Unrecalled, Installed, since_concat] at installed ih ⊢
      by_cases handed : act.handedOut? = some id
      · -- No command to remove something hands anything out.
        have other : ¬ ∃ e, act = .command (.removeBreakpoint id) (.error e) := by
          rintro ⟨e, rfl⟩
          cases handed
        simp [handed, other]
      · obtain ⟨before, kept⟩ := installed.resolve_left handed
        by_cases failed : ∃ e, act = .command (.removeBreakpoint id) (.error e)
        · obtain ⟨e, rfl⟩ := failed
          simp [handed, Act.askedBack?]
        · have unasked : act.askedBack? ≠ some id := by
            rw [ne_eq, Act.askedBack?_eq_some_iff]
            rintro ⟨reply, same⟩
            cases reply with
            | error e => exact failed ⟨e, same⟩
            | ok reply => exact kept reply same
          rw [or_iff_right failed, or_iff_right handed, and_iff_left handed, ih before,
            and_iff_left unasked]

/-- What hands out nothing and removes nothing leaves that as it is. -/
theorem unrecalled_concat_of_other (silent : act.handedOut? = none) (spares : act.askedBack? = none)
    : Unrecalled (acts ++ [act]) id ↔ Unrecalled acts id := by
  simp only [Unrecalled, since_concat, silent, spares, reduceCtorEq, false_or, ne_eq,
    not_false_eq_true, and_true]

end Debugger

namespace Entry.Registry

variable {before after registry : Registry} {acts : List Act} {σ : Type}

/-- A registry holds exactly the breakpoints that were handed out and not asked back since. -/
def Remembers (registry : Registry) (acts : List Act) : Prop :=
  ∀ id, registry.holds id = true ↔ Unrecalled acts id

theorem remembers_empty : ({} : Registry).Remembers [] := by
  intro id
  simp only [not_since_nil, Unrecalled, iff_false]
  simp [holds, Index.has, Index.find?]

theorem holds_of_byBreakpoint (same : after.byBreakpoint = before.byBreakpoint)
    (id : BreakpointId)
    : after.holds id = before.holds id := by
  rw [holds, holds, same]

/-- A registry that holds the same breakpoints remembers the same, whatever else was asked. -/
theorem Remembers.concat_of_other (remembers : before.Remembers acts) {act : Act}
    (same : after.byBreakpoint = before.byBreakpoint) (silent : act.handedOut? = none)
    (spares : act.askedBack? = none)
    : after.Remembers (acts ++ [act]) := by
  intro id
  rw [holds_of_byBreakpoint same, remembers id, unrecalled_concat_of_other silent spares]

/-- A breakpoint that was handed out is held from then on. -/
theorem Remembers.insert (remembers : before.Remembers acts) {breakpoint : UrlBreakpoint}
    (record : Record) (matcher : Regex)
    : (before.insert record matcher).Remembers
        (acts ++ [.command (.setBreakpoint breakpoint) (.ok (some record.id))]) := by
  intro id
  have asked := remembers id
  rw [holds, Index.has_iff] at asked
  have handed : (Act.command (.setBreakpoint breakpoint) (.ok (some record.id))).handedOut?
      = some record.id := rfl
  have spares : (Act.command (.setBreakpoint breakpoint) (.ok (some record.id))).askedBack?
      ≠ some id := (Option.some_ne_none id).symm
  rw [holds, Index.has_iff, insert_byBreakpoint, Unrecalled, since_concat, Index.find?_set, handed]
  by_cases same : id = record.id
  · simp [same]
  · have different : ¬ some record.id = some id := fun equal => same (Option.some.inj equal).symm
    rw [if_neg same, or_iff_right different, and_iff_left spares]
    exact asked

theorem removePending_byBreakpoint {slot : Nat} {record left : Record} {file : String}
    (rest : record.release [file] = some left)
    : (before.removePending slot record file).2.byBreakpoint = before.byBreakpoint := by
  rw [Record.release_singleton] at rest
  split at rest
  case isTrue => cases rest
  case isFalse remain => simp only [Registry.removePending, remain, Bool.false_eq_true, if_false]

/-- A breakpoint that is to be removed is forgotten, whatever the engine replies. -/
theorem Remembers.drop (remembers : before.Remembers acts) {slot : Nat} {record : Record}
    {file : String} (rest : record.release [file] = none) (reply : Reply)
    : (before.removePending slot record file).2.Remembers
        (acts ++ [.command (.removeBreakpoint record.id) reply]) := by
  have emptied : (record.pending.filter (· != file)).isEmpty = true := by
    rw [Record.release_singleton] at rest
    split at rest
    case isTrue emptied => exact emptied
    case isFalse => cases rest
  have forgotten : (before.removePending slot record file).2.byBreakpoint
      = before.byBreakpoint.unset record.id := by
    simp only [Registry.removePending, emptied, if_true, Registry.drop]
  intro id
  have asked := remembers id
  rw [holds, Index.has_iff] at asked
  have silent : ¬ (Act.command (.removeBreakpoint record.id) reply).handedOut? = some id :=
    (Option.some_ne_none id).symm
  have recalled : (Act.command (.removeBreakpoint record.id) reply).askedBack? = some record.id :=
    rfl
  rw [holds, Index.has_iff, forgotten, Unrecalled, since_concat, Index.find?_unset,
    or_iff_right silent, recalled]
  by_cases same : id = record.id
  · simp [same]
  · have different : some record.id ≠ some id := fun equal => same (Option.some.inj equal).symm
    rw [if_neg same, and_iff_left different]
    exact asked

variable [Engine σ]

/-- Every operation keeps what a registry remembers in step with what was asked. -/
theorem Effect.remembers {operation : Operation} {recorded told : Recorded σ}
    (effect : Effect before recorded operation after told)
    (remembers : before.Remembers recorded.acts)
    : after.Remembers told.acts := by
  cases effect with
  | waiting | missed => exact remembers
  | shared unknown live patterned =>
      exact fun id => by rw [holds_of_byBreakpoint (addPending_byBreakpoint live _), remembers id]
  | lessened found live waits rest =>
      exact fun id => by rw [holds_of_byBreakpoint (removePending_byBreakpoint rest), remembers id]
  | @refused source reply _ replied unnamed =>
      rw [Recorded.acts_of_perform replied]
      refine remembers.concat_of_other rfl ?_ rfl
      cases reply with
      | error e => rfl
      | ok id =>
          cases id with
          | none => rfl
          | some id => exact absurd rfl (unnamed id)
  | @installed source id _ unknown unshared replied =>
      rw [Recorded.acts_of_perform replied]
      exact remembers.insert ⟨_, id, _⟩ _
  | dropped found live waits rest replied =>
      rw [Recorded.acts_of_perform replied]
      exact remembers.drop rest _

end Entry.Registry

namespace Guard

open Entry Entry.Registry

variable {guard : Guard} {σ : Type} [Engine σ] {recorded : Recorded σ}

/-- Installing the engine's hook has nothing to do with entry breakpoints. -/
theorem install_remembers (remembers : guard.entries.Remembers recorded.acts)
    : (guard.install recorded).1.entries.Remembers (guard.install recorded).2.acts := by
  unfold install
  split
  case h_1 kind =>
    split
    all_goals
      rename_i replied
      rw [Recorded.acts_of_perform replied]
      exact remembers.concat_of_other rfl rfl rfl
  case h_2 => exact remembers

/-- A request keeps what the entries remember in step with what was asked. -/
theorem request_remembers (coherent : guard.entries.Coherent)
    (remembers : guard.entries.Remembers recorded.acts) (source : String)
    : (guard.request source recorded).1.entries.Remembers
        (guard.request source recorded).2.acts := by
  unfold request
  split
  case h_1 registry => exact (coherent.effect_add source recorded).remembers remembers
  case h_2 => exact install_remembers remembers

/-- Hits of one breakpoint keep what a registry remembers in step, by induction along the sources.
-/
theorem resolveHits_remembers {registry : Registry} (coherent : registry.Coherent)
    (remembers : registry.Remembers recorded.acts) (id : BreakpointId) (urls : List String)
    : (resolveHits registry id urls recorded).1.Remembers
        (resolveHits registry id urls recorded).2.acts := by
  induction urls generalizing registry recorded with
  | nil => exact remembers
  | cons url urls ih =>
      exact ih (coherent.resolveHit id url recorded)
        ((coherent.effect_resolveHit id url recorded).remembers remembers)

/-- And hits of several breakpoints, by induction along them. -/
theorem resolveAll_remembers {registry : Registry} (coherent : registry.Coherent)
    (remembers : registry.Remembers recorded.acts) (ids : List BreakpointId) (urls : List String)
    : (resolveAll urls registry ids recorded).1.Remembers
        (resolveAll urls registry ids recorded).2.acts := by
  induction ids generalizing registry recorded with
  | nil => exact remembers
  | cons id ids ih =>
      exact ih (resolveHits_released coherent id urls recorded).1
        (resolveHits_remembers coherent remembers id urls)

/-- So does judging a pause. -/
theorem classify_remembers (coherent : guard.entries.Coherent)
    (remembers : guard.entries.Remembers recorded.acts) (pause : Pause) (script : PausedScript)
    : (guard.classify pause script recorded).2.1.entries.Remembers
        (guard.classify pause script recorded).2.2.acts := by
  cases guard with
  | off | instrument => exact remembers
  | regex registry => exact resolveAll_remembers coherent remembers _ script.urls

end Guard

end EarlyBreak
