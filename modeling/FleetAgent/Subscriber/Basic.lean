import FleetAgent.Effect
import FleetAgent.Log.Writer

/-!
# Subscribers

A subscriber processes events one at a time, in a worker of its own, from a queue of bounded length.
Processing an event may write log records and take time, and it may fail; a failure is reported
under the name of the subscriber, and the worker goes on with the next event.

## Main definitions

* `Failing`: what a failed processing leaves.
* `Subscriber`: a name, the capacity of the queue, and what processing an event is like.
* `Mailbox`: the queue of a subscriber.
* `Mailbox.offer`, `Mailbox.pop?`: adding and taking an event.
-/

namespace FleetAgent

/-- What a failed processing leaves: a text, or something else. -/
inductive Failing where
  /-- A text that describes the failure. -/
  | text (info : String)
  /-- Something that is no text. -/
  | other
deriving DecidableEq, Repr

/-- The description of a failure in its report. -/
def Failing.info : Failing → String
  | text info => info
  | other => "unknown panic"

/-- A subscriber. -/
structure Subscriber where
  /-- The name under which it is reported. -/
  name : String
  /-- The capacity that its queue asks for. -/
  capacity : Nat
  /-- The log records that processing an event writes at its start. -/
  records : Event → List LogRecord := fun _ => []
  /-- The time that processing an event takes. -/
  time : Event → Duration := fun _ => .zero
  /-- How processing an event fails, if it does. -/
  failing : Event → Option Failing := fun _ => none
  /-- Whether its name can be asked for again, as a report of a failure does. -/
  keepsName : Bool := true
deriving Inhabited

namespace Subscriber

/-- The capacity of a queue for which none is asked. -/
def standardCapacity : Nat := 256

/-- The capacity of the queue, at least one event. -/
def queueCapacity (s : Subscriber) : Nat := max s.capacity 1

/-- The log writer as a subscriber. -/
def logWriter : Subscriber :=
  { name := LogWriter.name, capacity := LogWriter.capacity,
    records := fun e => [LogWriter.record e] }

end Subscriber

/-- The queue of a subscriber. -/
structure Mailbox where
  /-- The subscriber. -/
  subscriber : Subscriber
  /-- The events that wait, the oldest first. -/
  waiting : List Notice := []
  /-- Whether more events may come. -/
  isFed : Bool := true
  /-- Whether the worker of the subscriber takes events. -/
  isServed : Bool := true
deriving Inhabited

/-- Why an event is refused by a queue. -/
inductive Refusal where
  /-- The queue is full. -/
  | full
  /-- The worker is gone. -/
  | closed
deriving DecidableEq, Repr

/-- The reason in the notice of a refused event. -/
def Refusal.reason : Refusal → String
  | full => "full"
  | closed => "closed"

namespace Mailbox

/-- Offers an event to the queue. -/
def offer (m : Mailbox) (n : Notice) : Except Refusal Mailbox :=
  if !m.isServed then .error .closed
  else if m.waiting.length < m.subscriber.queueCapacity then
    .ok { m with waiting := m.waiting ++ [n] }
  else .error .full

/-- Takes the oldest event. -/
def pop? (m : Mailbox) : Option (Notice × Mailbox) :=
  match m.waiting with
  | [] => none
  | n :: rest => some (n, { m with waiting := rest })

end Mailbox

end FleetAgent
