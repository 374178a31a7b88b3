import EarlyBreak.Debugger.Engine

/-! A target that writes down what it is asked.  Commands may fail and sources may change in any
way that the target inside decides; the record only adds what was asked, in order.
-/

namespace EarlyBreak.Debugger

/-- Something that was asked of a target. -/
inductive Act where
  /-- A command to the engine, and its reply. -/
  | command (command : Command) (reply : Reply)
  /-- The breakpoints in a script had to be bound, and this is where they are. -/
  | bind (script : Script) (locations : List Location)

namespace Act

/-- Whether the engine was told to go on. -/
def isResume : Act → Bool
  | command .resume _ => true
  | _ => false

/-- The script whose breakpoints had to be bound. -/
def bound? : Act → Option ScriptId
  | bind script _ => some script.id
  | command _ _ => none

/-- The id that the engine handed out for a breakpoint. -/
def handedOut? : Act → Option BreakpointId
  | command (.setBreakpoint _) (.ok id) => id
  | _ => none

/-- Whether the engine's hook was installed. -/
def installsHook : Act → Bool
  | command (.setInstrumentation _) (.ok _) => true
  | _ => false

/-- Whether the engine was told to install or remove something. -/
def Maintains : Act → Prop
  | command .resume _ => False
  | command _ _ => True
  | bind _ _ => False

theorem Maintains.isResume_eq {act : Act} (maintains : act.Maintains)
    : act.isResume = false := by
  cases act with
  | command command reply => cases command <;> first | rfl | exact maintains.elim
  | bind script locations => rfl

theorem Maintains.bound?_eq {act : Act} (maintains : act.Maintains) : act.bound? = none := by
  cases act with
  | command command reply => rfl
  | bind script locations => exact maintains.elim

end Act

/-- The breakpoints in a script had to be bound if that was asked, wherever they are. -/
theorem mem_filterMap_bound? {acts : List Act} {id : ScriptId}
    : id ∈ acts.filterMap Act.bound?
      ↔ ∃ script locations, Act.bind script locations ∈ acts ∧ script.id = id := by
  rw [List.mem_filterMap]
  constructor
  · rintro ⟨act, member, named⟩
    cases act with
    | command command reply => cases named
    | bind script locations => exact ⟨script, locations, member, Option.some.inj named⟩
  · rintro ⟨script, locations, member, named⟩
    exact ⟨.bind script locations, member, congrArg some named⟩

/-- A target with a record of what it was asked. -/
structure Recorded (σ : Type) where
  target : σ
  acts : List Act := []

namespace Recorded

variable {σ : Type}

/-- Passes a command on and writes it down. -/
def perform [Engine σ] (command : Command) (recorded : Recorded σ) : Reply × Recorded σ :=
  let (reply, target) := Engine.perform command recorded.target
  (reply, ⟨target, recorded.acts ++ [.command command reply]⟩)

instance [Engine σ] : Engine (Recorded σ) := ⟨perform⟩

instance [BreakpointManager σ] : BreakpointManager (Recorded σ) where
  sourcePaths script recorded :=
    let (paths, target) := BreakpointManager.sourcePaths script recorded.target
    (paths, { recorded with target })
  resolvePending script recorded :=
    let (locations, target) := BreakpointManager.resolvePending script recorded.target
    (locations, ⟨target, recorded.acts ++ [.bind script locations]⟩)

/-- The scripts whose breakpoints had to be bound, in order. -/
def boundIds (recorded : Recorded σ) : List ScriptId := recorded.acts.filterMap Act.bound?

/-- The ids that the engine handed out for breakpoints, in order. -/
def handedOut (recorded : Recorded σ) : List BreakpointId :=
  recorded.acts.filterMap Act.handedOut?

/-- A command and its reply are written down at the end. -/
theorem perform_acts [Engine σ] (command : Command) (recorded : Recorded σ)
    : (Engine.perform command recorded).2.acts
      = recorded.acts ++ [.command command (Engine.perform command recorded).1] := rfl

theorem acts_of_perform [Engine σ] {command : Command} {recorded told : Recorded σ} {reply : Reply}
    (replied : Engine.perform command recorded = (reply, told))
    : told.acts = recorded.acts ++ [.command command reply] := by
  have acts := perform_acts command recorded
  rwa [replied] at acts

/-- What is read off the acts has one more part after a command. -/
theorem filterMap_of_perform [Engine σ] {α : Type} (part : Act → Option α) {command : Command}
    {recorded told : Recorded σ} {reply : Reply}
    (replied : Engine.perform command recorded = (reply, told))
    : told.acts.filterMap part
      = recorded.acts.filterMap part ++ (part (.command command reply)).toList := by
  rw [acts_of_perform replied, List.filterMap_append]
  cases read : part (.command command reply) with
  | none | some value => simp [read]

/-- Between two moments only things with a property were asked. -/
def Extends (property : Act → Prop) (before after : Recorded σ) : Prop :=
  ∃ acts, after.acts = before.acts ++ acts ∧ ∀ act ∈ acts, property act

/-- A command adds to the ids that were handed out what it was replied. -/
theorem handedOut_of_perform [Engine σ] {command : Command} {recorded told : Recorded σ}
    {reply : Reply} (replied : Engine.perform command recorded = (reply, told))
    : told.handedOut = recorded.handedOut ++ (Act.command command reply).handedOut?.toList :=
  filterMap_of_perform Act.handedOut? replied

namespace Extends

variable {property : Act → Prop} {before middle after : Recorded σ}

theorem of_acts_eq (same : after.acts = before.acts) : Extends property before after :=
  ⟨[], by rw [same, List.append_nil], by simp⟩

theorem refl (recorded : Recorded σ) : Extends property recorded recorded := of_acts_eq rfl

/-- What was asked in two spans follows one another. -/
theorem trans (first : Extends property before middle) (second : Extends property middle after)
    : Extends property before after := by
  obtain ⟨earlier, middleActs, earlierHold⟩ := first
  obtain ⟨later, afterActs, laterHold⟩ := second
  refine ⟨earlier ++ later, by rw [afterActs, middleActs, List.append_assoc], ?_⟩
  intro act member
  exact (List.mem_append.mp member).elim (earlierHold act) (laterHold act)

/-- A command that maintains the guard extends the record so. -/
theorem perform [Engine σ] (command : Command) (recorded : Recorded σ)
    (maintains : ∀ reply, (Act.command command reply).Maintains)
    : Extends Act.Maintains recorded (Engine.perform command recorded).2 := by
  refine ⟨_, perform_acts command recorded, ?_⟩
  intro act member
  rw [List.mem_singleton.mp member]
  exact maintains _

/-- While the guard is only maintained, no script is bound. -/
theorem boundIds_eq (extended : Extends Act.Maintains before after)
    : after.boundIds = before.boundIds := by
  obtain ⟨acts, afterActs, maintain⟩ := extended
  have none : acts.filterMap Act.bound? = [] :=
    List.filterMap_eq_nil_iff.mpr fun act member => (maintain act member).bound?_eq
  rw [boundIds, boundIds, afterActs, List.filterMap_append, none, List.append_nil]

end Extends

end Recorded

end EarlyBreak.Debugger
