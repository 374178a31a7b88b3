import EarlyBreak.Debugger.Engine
import EarlyBreak.Entry.Pattern
import EarlyBreak.Index
import EarlyBreak.ScriptUrl

/-! Entry breakpoints, one for each pattern, and the requested files that wait on them.  The engine
has a breakpoint as long as a file waits on it.
-/

namespace EarlyBreak.Entry

open Debugger

/-- An entry breakpoint and the files that wait on it. -/
structure Record where
  pattern : String
  id : BreakpointId
  /-- The waiting files in increasing order. -/
  pending : List String
  deriving DecidableEq, Repr

/-- Adds a text to texts in increasing order. -/
def insertText (text : String) : List String → List String
  | [] => [text]
  | other :: rest =>
      if text = other then other :: rest
      else if text < other then text :: other :: rest
      else other :: insertText text rest

/-- The records in numbered slots, and where to find them by file, breakpoint and pattern. -/
structure Registry where
  slots : List (Option Record) := []
  /-- The empty slots, the one to fill next first. -/
  free : List Nat := []
  byFile : Index String Nat := []
  byBreakpoint : Index BreakpointId Nat := []
  byPattern : Index String Nat := []
  /-- The expression of each record, by slot. -/
  matchers : Index Nat Regex := []
  deriving Repr

namespace Registry

/-- The record in a slot. -/
def record? (registry : Registry) (slot : Nat) : Option Record := (registry.slots[slot]?).join

/-- The breakpoint of the record in a slot. -/
def idAt? (registry : Registry) (slot : Nat) : Option BreakpointId :=
  (registry.record? slot).map (·.id)

/-- Puts a record into the next empty slot, or into a new one. -/
def place (registry : Registry) (record : Record) : Nat × Registry :=
  match registry.free with
  | slot :: free =>
      (slot, { registry with slots := registry.slots.set slot (some record), free })
  | [] =>
      (registry.slots.length, { registry with slots := registry.slots ++ [some record] })

/-- Adds a record. -/
def insert (registry : Registry) (record : Record) (matcher : Regex) : Registry :=
  let (slot, placed) := registry.place record
  { placed with
    byFile := record.pending.foldl (fun byFile file => byFile.set file slot) placed.byFile
    byBreakpoint := placed.byBreakpoint.set record.id slot
    byPattern := placed.byPattern.set record.pattern slot
    matchers := placed.matchers.set slot matcher }

/-- Lets one more file wait on the record in a slot. -/
def addPending (registry : Registry) (slot : Nat) (file : String) : Registry :=
  match registry.record? slot with
  | none => registry
  | some record =>
      { registry with
        slots := registry.slots.set slot
          (some { record with pending := insertText file record.pending })
        byFile := registry.byFile.set file slot }

/-- Takes a record out of its slot. -/
def drop (registry : Registry) (slot : Nat) (record : Record) : Registry :=
  { registry with
    slots := registry.slots.set slot none
    free := slot :: registry.free
    byBreakpoint := registry.byBreakpoint.unset record.id
    byPattern := registry.byPattern.unset record.pattern
    matchers := registry.matchers.unset slot }

/-- Lets a file wait no more on the record in a slot.  A record that nothing waits on any more is
taken out and returned.
-/
def removePending (registry : Registry) (slot : Nat) (record : Record) (file : String) :
    Option Record × Registry :=
  let left := { record with pending := record.pending.filter (· != file) }
  let registry := { registry with byFile := registry.byFile.unset file }
  if left.pending.isEmpty then (some left, registry.drop slot left)
  else (none, { registry with slots := registry.slots.set slot (some left) })

/-- Whether a breakpoint is one of the registry. -/
def holds (registry : Registry) (id : BreakpointId) : Bool := registry.byBreakpoint.has id

/-- Whether a source file waits on an entry breakpoint. -/
def hasPending (registry : Registry) (source : String) : Bool :=
  registry.byFile.has (ScriptUrl.canonical source)

/-- Whether a script is going to hit an entry breakpoint, by its URL as it is or in canonical
form.
-/
def willPauseFor (registry : Registry) (url : String) : Bool :=
  registry.matchers.any fun (_, matcher) =>
    matcher.search url.toList || matcher.search (ScriptUrl.canonical url).toList

/-- Whether there are no records. -/
def isEmpty (registry : Registry) : Bool := registry.byBreakpoint.isEmpty

/-- The records, ordered by pattern. -/
def records (registry : Registry) : List Record :=
  (registry.slots.filterMap id).mergeSort fun a b => !decide (b.pattern < a.pattern)

section Commands

variable {σ : Type} [Engine σ]

/-- Guards a source file and returns its breakpoint.  Files with one pattern share a breakpoint; if
the engine sets none, nothing changes.  It is taken for granted that the expression of a stem can be
compiled: only a stem of megabytes gives one that is too large, and then nothing changes either.
-/
def add (registry : Registry) (source : String) (engine : σ) :
    Option BreakpointId × Registry × σ :=
  let file := ScriptUrl.canonical source
  match registry.byFile.find? file with
  | some slot => (registry.idAt? slot, registry, engine)
  | none =>
      let matcher := expression (stem file.toList)
      let pattern := String.ofList matcher.render
      match registry.byPattern.find? pattern with
      | some slot => (registry.idAt? slot, registry.addPending slot file, engine)
      | none =>
          match Engine.perform (.setBreakpoint (.atEntry pattern)) engine with
          | (.ok (some id), engine) =>
              (some id, registry.insert ⟨pattern, id, [file]⟩ matcher, engine)
          | (_, engine) => (none, registry, engine)

/-- Notes that a breakpoint was hit in a script that covers a source.  The answer is whether that
source waited on it.  A breakpoint on which nothing waits any more is removed.
-/
def resolveHit (registry : Registry) (id : BreakpointId) (source : String) (engine : σ) :
    Bool × Registry × σ :=
  let file := ScriptUrl.canonical source
  match registry.byBreakpoint.find? id with
  | none => (false, registry, engine)
  | some slot =>
      match registry.record? slot with
      | none => (false, registry, engine)
      | some record =>
          if record.pending.contains file then
            match registry.removePending slot record file with
            | (none, registry) => (true, registry, engine)
            | (some dropped, registry) =>
                (true, registry, (Engine.perform (.removeBreakpoint dropped.id) engine).2)
          else (false, registry, engine)

end Commands

end Registry

end EarlyBreak.Entry
