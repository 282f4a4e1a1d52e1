import FleetAgent.Subscriber.Basic

/-!
# Handing events to subscribers

An event is offered to the queue of every subscriber, without waiting. A queue that refuses it
gives rise to a notice of the refusal, unless the event is such a notice itself. The workers take
the events from the queues and process them.

## Main definitions

* `Fanout`: the queues of all subscribers.
* `Fanout.emit`: offers an event to all queues.
* `Fanout.close`: no more events come.
* `WorkerStage`, `Fanout.serve`, `Fanout.finish`: the sections of a worker.
-/

namespace FleetAgent

/-- The queues of all subscribers, in the order of their registration. -/
structure Fanout where
  /-- The queues; the number of a subscriber is the place of its queue. -/
  boxes : List Mailbox := []
deriving Inhabited

/-- What a worker is doing. -/
inductive WorkerStage where
  /-- It waits for an event. -/
  | idle
  /-- It processes an event. -/
  | busy (n : Notice)
deriving DecidableEq, Repr

namespace Fanout

/-- The queues of subscribers. -/
def ofSubscribers (subscribers : List Subscriber) : Fanout :=
  { boxes := subscribers.map fun s => { subscriber := s } }

/-- Offers an event to one queue, which is that of subscriber `i`. -/
def emitTo (n : Notice) (i : Nat) (m : Mailbox) : Turn Mailbox Unit :=
  match m.offer n with
  | .ok m' => { state := m', effects := [.signal (.queued i)], result := () }
  | .error refusal =>
    { state := m
      effects := if n.event.isOverflow then []
        else [.publish (Event.overflow m.subscriber.name refusal.reason)]
      result := () }

/-- Offers an event to the queues, of which the first is that of subscriber `i`. -/
def emitFrom (n : Notice) : (i : Nat) → List Mailbox → Turn (List Mailbox) Unit
  | _, [] => { state := [], result := () }
  | i, m :: ms =>
    let first := emitTo n i m
    let rest := emitFrom n (i + 1) ms
    { state := first.state :: rest.state
      effects := first.effects ++ rest.effects
      result := () }

/-- Offers an event to the queue of every subscriber. -/
def emit (f : Fanout) (n : Notice) : Turn Fanout Unit :=
  (emitFrom n 0 f.boxes).within fun boxes => { boxes }

/-- Tells every worker that no more events come. -/
def close (f : Fanout) : Turn Fanout Unit :=
  { state := { boxes := f.boxes.map ({ · with isFed := false }) }
    effects := (List.range f.boxes.length).map fun i => .signal (.queued i)
    result := () }

/-- Whether the worker of a subscriber has ended. -/
def hasEnded (f : Fanout) (i : Nat) : Bool := (f.boxes[i]?.map (!·.isServed)).getD true

/-- The queues with one of them changed. -/
def modifyBox (f : Fanout) (i : Nat) (g : Mailbox → Mailbox) : Fanout :=
  { boxes := f.boxes.modify i g }

/-- The end of a worker. The events that wait for it are lost. -/
def endWorker (f : Fanout) (i : Nat) : Turn Fanout Unit :=
  { state := f.modifyBox i ({ · with isServed := false, waiting := [] })
    effects := [.signal (.workerEnded i)]
    result := () }

/-- A section of a worker that waits for an event. Nothing within the result: the worker goes on
waiting. -/
def serve (f : Fanout) (i : Nat) : Turn Fanout (Option (Progress WorkerStage Unit)) :=
  match f.boxes[i]? with
  | none => { state := f, result := some (.done ()) }
  | some m => match m.pop? with
    | some (n, m') =>
      { state := f.modifyBox i fun _ => m'
        effects := .handled i n :: (m.subscriber.records n.event).map .log
        result := some (.waiting (.busy n)) }
    | none =>
      if m.isFed then { state := f, result := none }
      else (f.endWorker i).map fun _ => some (.done ())

/-- The section of a worker at the end of its processing of an event. A failure is reported under
the name of the subscriber; if the name cannot be asked for again, the worker ends. -/
def finish (f : Fanout) (i : Nat) (n : Notice) : Turn Fanout (Progress WorkerStage Unit) :=
  match f.boxes[i]? with
  | none => { state := f, result := .done () }
  | some m => match m.subscriber.failing n.event with
    | none => { state := f, result := .waiting .idle }
    | some failing =>
      if m.subscriber.keepsName then
        { state := f
          effects := [.publish (Event.panicked m.subscriber.name failing.info)]
          result := .waiting .idle }
      else (f.endWorker i).map .done

end Fanout

end FleetAgent
