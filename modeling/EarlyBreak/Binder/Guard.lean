import EarlyBreak.Config.Strategy
import EarlyBreak.Entry.Registry

/-! Guards: what stops a script before its first statement, and which stops are the guard's own. -/

namespace EarlyBreak

open Debugger

/-- Why the target is stopped. -/
inductive PauseKind where
  | instrumentation
  | entryBreakpoint
  | userBreakpoint
  deriving DecidableEq, Repr

/-- What to do with a pause. -/
inductive Disposition where
  /-- Nothing is left for the user; the target goes on. -/
  | resume
  /-- The user sees the pause. -/
  | surface (pause : Pause)
  deriving Repr

/-- Whether the target goes on. -/
def Disposition.isResume : Disposition → Bool
  | resume => true
  | surface _ => false

/-- What is known of the script that a pause is in. -/
structure PausedScript where
  /-- Its canonical URL and those of its sources. -/
  urls : List String
  /-- Where the user's breakpoints in it are bound. -/
  bound : List Location
  deriving DecidableEq, Repr

/-- Whether a pause that only entry breakpoints made can end: no breakpoint of the user is at the
very place.
-/
def continuesOnEntry (location : Option Location) (bound : List Location) : Bool :=
  match location with
  | some location => !bound.any (·.samePosition location)
  | none => false

/-- A guard, by its strategy. -/
inductive Guard where
  | off
  /-- The engine's own hook, and whether it is installed. -/
  | instrument (kind : InstrumentationKind) (isInstalled : Bool)
  | regex (registry : Entry.Registry)
  deriving Repr

namespace Guard

/-- The guard of a strategy before anything is installed. -/
def ofStrategy : Strategy → Guard
  | .off => off
  | .instrument => instrument .scriptFirstStatement false
  | .regex => regex {}

/-- The strategy of a guard. -/
def strategy : Guard → Strategy
  | off => .off
  | instrument _ _ => .instrument
  | regex _ => .regex

/-- The kind of the pauses that a guard makes. -/
def pauseKind? : Guard → Option PauseKind
  | off => none
  | instrument _ _ => some .instrumentation
  | regex _ => some .entryBreakpoint

/-- Whether something is installed. -/
def isArmed : Guard → Bool
  | off => false
  | instrument _ isInstalled => isInstalled
  | regex registry => !registry.isEmpty

/-- Whether a script is certain to stop at the guard for one of the sources it covers. -/
def defers (guard : Guard) (scriptUrl : String) (candidates : List String) : Bool :=
  match guard with
  | regex registry => candidates.any registry.hasPending && registry.willPauseFor scriptUrl
  | _ => false

/-- Whether the guard may have made a pause. -/
def isGuardPause (guard : Guard) (pause : Pause) : Bool :=
  match guard with
  | off => false
  | instrument _ _ => pause.isInstrumentation
  | regex registry => pause.hits.any registry.holds

/-- The kind of a pause: that of the guard if it may have made the pause, else the user's. -/
def kindOf (guard : Guard) (pause : Pause) : PauseKind :=
  if guard.isGuardPause pause then guard.pauseKind?.getD .userBreakpoint else .userBreakpoint

section Commands

variable {σ : Type} [Engine σ]

/-- Installs the engine's hook unless that was done. -/
def install (guard : Guard) (engine : σ) : Guard × σ :=
  match guard with
  | instrument kind false =>
      match Engine.perform (.setInstrumentation kind) engine with
      | (.ok _, engine) => (instrument kind true, engine)
      | (.error _, engine) => (guard, engine)
  | guard => (guard, engine)

/-- Prepares the target once. -/
def setUp (guard : Guard) (engine : σ) : Guard × σ := guard.install engine

/-- Guards a source that breakpoints were requested in. -/
def request (guard : Guard) (source : String) (engine : σ) : Guard × σ :=
  match guard with
  | regex registry =>
      let (_, registry, engine) := registry.add source engine
      (regex registry, engine)
  | guard => guard.install engine

/-- Notes that one breakpoint was hit in a script that covers some sources. -/
def resolveHits (registry : Entry.Registry) (id : BreakpointId) :
    List String → σ → Entry.Registry × σ
  | [], engine => (registry, engine)
  | url :: urls, engine =>
      let (_, registry, engine) := registry.resolveHit id url engine
      resolveHits registry id urls engine

/-- Notes that several breakpoints were hit in a script that covers some sources. -/
def resolveAll (urls : List String) (registry : Entry.Registry) :
    List BreakpointId → σ → Entry.Registry × σ
  | [], engine => (registry, engine)
  | id :: ids, engine =>
      let (registry, engine) := resolveHits registry id urls engine
      resolveAll urls registry ids engine

/-- Decides on a pause.  The guard's own breakpoints are never shown to the user. -/
def classify (guard : Guard) (pause : Pause) (script : PausedScript) (engine : σ) :
    Disposition × Guard × σ :=
  match guard with
  | off => (.surface pause, off, engine)
  | instrument _ _ =>
      (if pause.isInstrumentation then .resume else .surface pause, guard, engine)
  | regex registry =>
      let own := pause.hits.filter registry.holds
      let others := pause.hits.filter (!registry.holds ·)
      let (registry, engine) := resolveAll script.urls registry own engine
      let disposition :=
        if own.isEmpty then Disposition.surface pause
        else if others.isEmpty && continuesOnEntry pause.location? script.bound then .resume
        else .surface { pause with hits := others }
      (disposition, regex registry, engine)

end Commands

end Guard

end EarlyBreak
