import FleetAgent.Agent.Basic

/-!
# The listener

The listener follows the event bus and hands every event to the subscribers. When it is told to end,
it first hands on everything that is left on the bus, then tells the workers of the subscribers that
no more events come, and waits for them one after the other.

## Main definitions

* `ListenerStage`, `Listener`: what the listener is doing, and how far it has read the bus.
* `Agent.listen`: a section of the listener.
-/

namespace FleetAgent

/-- What the listener is doing. -/
inductive ListenerStage where
  /-- It follows the bus. -/
  | following
  /-- It hands on what is left on the bus. -/
  | draining
  /-- It waits for the end of the worker of a subscriber. -/
  | closing (subscriber : Nat)
deriving DecidableEq, Repr

/-- The listener. -/
structure Listener where
  /-- Its cursor on the bus. -/
  cursor : Nat
  /-- What it is doing. -/
  stage : ListenerStage := .following
deriving DecidableEq, Repr

namespace Agent

/-- A section of the listener after it has received something but an empty bus. -/
def forward (a : Agent) (l : Listener) : Received Notice → Turn Agent (Progress Listener Unit)
  | .item n => (a.onFanout (·.emit n)).map fun _ => .waiting l
  | .lagged skipped =>
    (a.logging ⟨.warn, target, "event listener lagged behind the bus",
      [("skipped", toString skipped)]⟩).map fun _ => .waiting l
  | .empty | .closed => { state := a, result := .waiting l }

/-- A section of the listener; nothing if it has to wait. -/
def listen (a : Agent) (l : Listener) : Option (Turn Agent (Progress Listener Unit)) :=
  match l.stage with
  | .following => match a.bus.receive l.cursor with
    | (.empty, _) | (.closed, _) =>
      if a.isFlushing then
        some { state := a, result := .waiting { l with stage := .draining } }
      else none
    | (got, cursor) => some (a.forward { l with cursor } got)
  | .draining => match a.bus.receive l.cursor with
    | (.empty, _) | (.closed, _) =>
      some ((a.onFanout Fanout.close).map fun _ => .waiting { l with stage := .closing 0 })
    | (got, cursor) => some (a.forward { l with cursor } got)
  | .closing i =>
    if a.fanout.boxes.length ≤ i then some
      { state := { a with listenerEnded := true }
        effects := [.signal .listenerEnded]
        result := .done () }
    else if a.fanout.hasEnded i then
      some { state := a, result := .waiting { l with stage := .closing (i + 1) } }
    else none

end Agent

end FleetAgent
