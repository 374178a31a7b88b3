import EarlyBreak.Binder.Basic
import EarlyBreak.Debugger.Simulation

/-! A binder that is fed by the events of its target.  Both the events and the pauses to show pass
through channels that forget the oldest when they are full.
-/

namespace EarlyBreak

open Debugger

/-- What waits between a sender and a receiver. -/
structure Channel (α : Type) where
  capacity : Nat
  /-- What waits, the oldest first. -/
  waiting : List α := []
  /-- How many were forgotten since the receiver last took something. -/
  missed : Nat := 0

namespace Channel

variable {α : Type}

/-- Sends to the receiver. -/
def send (channel : Channel α) (message : α) : Channel α :=
  let all := channel.waiting ++ [message]
  let excess := all.length - channel.capacity
  { channel with waiting := all.drop excess, missed := channel.missed + excess }

/-- The channel with nothing waiting. -/
def cleared (channel : Channel α) : Channel α := { channel with waiting := [], missed := 0 }

end Channel

/-- A binder with its target and the channels between them. -/
structure BinderLoop where
  binder : Binder
  target : Simulation
  events : Channel Event := { capacity := 64 }
  /-- Pauses for the user to see. -/
  surfaced : Channel Pause := { capacity := 32 }
  isRunning : Bool := true

namespace BinderLoop

/-- Passes on what the target has sent; nobody receives it once the loop has stopped. -/
def collect (loop : BinderLoop) : BinderLoop :=
  { loop with
    target := { loop.target with sent := [] }
    events :=
      if loop.isRunning then loop.target.sent.foldl Channel.send loop.events else loop.events }

/-- Handles one event. -/
def handle (loop : BinderLoop) (event : Event) : BinderLoop :=
  let (disposition, binder, target) := loop.binder.handle event loop.target
  let surfaced := match disposition with
    | some (.surface pause) => loop.surfaced.send pause
    | _ => loop.surfaced
  collect { loop with binder, target, surfaced }

/-- Handles what waits, and what comes of it, for a number of events. -/
def drain (loop : BinderLoop) : Nat → BinderLoop
  | 0 => loop
  | fuel + 1 =>
      match loop.events.waiting with
      | [] => loop
      | event :: rest =>
          ({ loop with events := { loop.events with waiting := rest } }.handle event).drain fuel

/-- Handles all that waits.  Only a pause brings about another event, and that is no pause. -/
def settle (loop : BinderLoop) : BinderLoop :=
  let loop := loop.collect
  if loop.isRunning then loop.drain (2 * loop.events.waiting.length) else loop

/-- Lets something else than the loop use the binder, and handles what comes of it. -/
def through {α : Type} (loop : BinderLoop) (use : Binder → Simulation → α × Binder × Simulation) :
    α × BinderLoop :=
  let (answer, binder, target) := use loop.binder loop.target
  (answer, settle { loop with binder, target })

/-- Sends an event.  The answer is how many receive it. -/
def push (loop : BinderLoop) (event : Event) : Nat × BinderLoop :=
  if loop.isRunning then (1, { loop with events := loop.events.send event }) else (0, loop)

/-- Stops the loop. -/
def cancel (loop : BinderLoop) : BinderLoop :=
  { loop with isRunning := false, events := loop.events.cleared }

end BinderLoop

end EarlyBreak
