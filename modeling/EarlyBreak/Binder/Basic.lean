import EarlyBreak.Binder.Guard

/-! The binder of a target: it guards the scripts that are to come, binds breakpoints before they
run, and lets the target go on from the guard's own pauses.
-/

namespace EarlyBreak

open Debugger

/-- What the target is doing, as far as guards are concerned. -/
inductive BinderState where
  | idle
  /-- A guard is armed; the next script will stop. -/
  | awaitingScript
  | paused (kind : PauseKind)
  deriving DecidableEq, Repr

/-- The binder of one target. -/
structure Binder where
  guard : Guard
  isSetUp : Bool := false
  /-- The scripts that the engine reported. -/
  scripts : Index ScriptId Script := []
  /-- Where the breakpoints of the scripts are bound, once that is known. -/
  bound : Index ScriptId (List Location) := []
  state : BinderState := .idle
  deriving Repr

namespace Binder

/-- The binder of a strategy. -/
def ofStrategy (strategy : Strategy) : Binder := { guard := .ofStrategy strategy }

/-- The state of a target that runs. -/
def runningState (guard : Guard) : BinderState :=
  if guard.isArmed then .awaitingScript else .idle

section Requests

variable {σ : Type} [Engine σ]

/-- Prepares the target unless that was done. -/
def setUp (binder : Binder) (target : σ) : Binder × σ :=
  if binder.isSetUp then (binder, target)
  else
    let (guard, target) := binder.guard.setUp target
    ({ binder with guard, isSetUp := true }, target)

/-- Guards a source that breakpoints were requested in. -/
def request (binder : Binder) (source : String) (target : σ) : Binder × σ :=
  let (binder, target) := binder.setUp target
  let (guard, target) := binder.guard.request source target
  let state := if binder.state = .idle then runningState guard else binder.state
  ({ binder with guard, state }, target)

end Requests

section Events

variable {σ : Type} [BreakpointManager σ]

/-- Texts without repetitions, each at its first place, behind some that are known. -/
def addNew (known : List String) : List String → List String
  | [] => known
  | text :: rest => addNew (if known.contains text then known else known ++ [text]) rest

/-- The canonical URL of a script, and then those of its sources. -/
def candidates (script : Script) (target : σ) : List String × σ :=
  let (paths, target) := BreakpointManager.sourcePaths script target
  (addNew [ScriptUrl.canonical script.url] (paths.map ScriptUrl.canonical), target)

/-- Binds the breakpoints in a script unless that was done. -/
def bind (binder : Binder) (script : Script) (target : σ) : List Location × Binder × σ :=
  match binder.bound.find? script.id with
  | some locations => (locations, binder, target)
  | none =>
      let (locations, target) := BreakpointManager.resolvePending script target
      (locations, { binder with bound := binder.bound.set script.id locations }, target)

/-- Takes note of a script.  Its breakpoints are bound at once unless it is certain to stop. -/
def scriptParsed (binder : Binder) (script : Script) (target : σ) : Binder × σ :=
  let binder := { binder with scripts := binder.scripts.set script.id script }
  let (urls, target) := candidates script target
  if binder.guard.defers script.url urls then (binder, target)
  else (binder.bind script target).2

/-- The script of the innermost frame, as far as the frame tells. -/
def scriptOfFrame? (pause : Pause) : Option Script := do
  let frame ← pause.frames.head?
  if frame.url.isEmpty then none else return ⟨frame.location.script, frame.url, none⟩

/-- The script that a guard's pause is in.  One that was never reported is taken from the innermost
frame.
-/
def pausedScript? (binder : Binder) (pause : Pause) : Option (Script × Binder) :=
  match pause.location?.bind fun location => binder.scripts.find? location.script with
  | some script => some (script, binder)
  | none =>
      (scriptOfFrame? pause).map fun script =>
        (script, { binder with scripts := binder.scripts.set script.id script })

variable [Engine σ]

/-- Decides on a pause and lets the target go on if it can. -/
def settle (binder : Binder) (pause : Pause) (script : PausedScript) (target : σ) :
    Disposition × Binder × σ :=
  match binder.guard.classify pause script target with
  | (.resume, guard, target) =>
      let (_, target) := Engine.perform .resume target
      (.resume, { binder with guard, state := runningState guard }, target)
  | (.surface shown, guard, target) =>
      (.surface shown, { binder with guard, state := .paused .userBreakpoint }, target)

/-- Handles a pause.  Before a guard's pause can end, the breakpoints in its script are bound; in a
script of which nothing is known it does not end.
-/
def paused (binder : Binder) (pause : Pause) (target : σ) : Disposition × Binder × σ :=
  let binder := { binder with state := .paused (binder.guard.kindOf pause) }
  if binder.guard.isGuardPause pause then
    match binder.pausedScript? pause with
    | none => (.surface pause, { binder with state := .paused .userBreakpoint }, target)
    | some (script, binder) =>
        let (bound, binder, target) := binder.bind script target
        let (urls, target) := candidates script target
        binder.settle pause ⟨urls, bound⟩ target
  else binder.settle pause ⟨[], []⟩ target

/-- Handles an event; a pause is decided on. -/
def handle (binder : Binder) (event : Event) (target : σ) :
    Option Disposition × Binder × σ :=
  match event with
  | .scriptParsed script =>
      let (binder, target) := binder.scriptParsed script target
      (none, binder, target)
  | .paused pause =>
      let (disposition, binder, target) := binder.paused pause target
      (some disposition, binder, target)
  | .resumed => (none, { binder with state := runningState binder.guard }, target)

end Events

end Binder

end EarlyBreak
