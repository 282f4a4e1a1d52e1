import FleetAgent.Time

/-!
# Events

What happens to the session, the heartbeat loop, the agent and its subscribers is told in events.
An event has a kind and those details that matter for it. When it is created it gets a number, so
that the order of creation can be restored from any collection of events.

## Main definitions

* `EventKind`: the kinds of events.
* `Event`: a kind with its details; `Event.of` has none, and one function adds each detail.
* `Notice`: an event with its number.
-/

namespace FleetAgent

/-- The kinds of events. -/
inductive EventKind where
  | subscriberPanicked
  | subscriberOverflow
  | sessionConnecting
  | sessionConnected
  | connectFailed
  | sessionDegraded
  | sessionRecovered
  | sessionLost
  | sessionClosed
  | heartbeatAcked
  | heartbeatMissed
  | configUpdated
  | terminateRequested
  | schedulerStarted
  | schedulerStopped
  | reconnectScheduled
  | shutdownRequested
deriving DecidableEq, Inhabited, Repr

namespace EventKind

/-- All kinds of events. -/
def all : List EventKind :=
  [.subscriberPanicked, .subscriberOverflow, .sessionConnecting, .sessionConnected,
    .connectFailed, .sessionDegraded, .sessionRecovered, .sessionLost, .sessionClosed,
    .heartbeatAcked, .heartbeatMissed, .configUpdated, .terminateRequested, .schedulerStarted,
    .schedulerStopped, .reconnectScheduled, .shutdownRequested]

/-- The name of the kind. -/
def name : EventKind → String
  | subscriberPanicked => "SubscriberPanicked"
  | subscriberOverflow => "SubscriberOverflow"
  | sessionConnecting => "SessionConnecting"
  | sessionConnected => "SessionConnected"
  | connectFailed => "ConnectFailed"
  | sessionDegraded => "SessionDegraded"
  | sessionRecovered => "SessionRecovered"
  | sessionLost => "SessionLost"
  | sessionClosed => "SessionClosed"
  | heartbeatAcked => "HeartbeatAcked"
  | heartbeatMissed => "HeartbeatMissed"
  | configUpdated => "ConfigUpdated"
  | terminateRequested => "TerminateRequested"
  | schedulerStarted => "SchedulerStarted"
  | schedulerStopped => "SchedulerStopped"
  | reconnectScheduled => "ReconnectScheduled"
  | shutdownRequested => "ShutdownRequested"

/-- The kind of a given name. -/
def ofName? (s : String) : Option EventKind := all.find? (·.name == s)

end EventKind

/-- Something that happened, with the details that matter for it. -/
structure Event where
  /-- What happened. -/
  kind : EventKind
  /-- The session concerned. -/
  session : Option String := none
  /-- The heart or the subscriber concerned. -/
  source : Option String := none
  /-- The sequence number of the heartbeat. -/
  sequence : Option Nat := none
  /-- The number of heartbeat failures in a row. -/
  failures : Option Nat := none
  /-- The number of the attempt to reconnect. -/
  attempt : Option Nat := none
  /-- The delay before the attempt, in milliseconds. -/
  delayMs : Option Nat := none
  /-- The time between two heartbeats, in milliseconds. -/
  intervalMs : Option Nat := none
  /-- The size of the configuration, in bytes. -/
  size : Option Nat := none
  /-- Why it happened. -/
  reason : Option String := none
deriving DecidableEq, Inhabited, Repr

namespace Event

/-- The event of a kind, without details. -/
def of (kind : EventKind) : Event := { kind }

/-- The whole milliseconds of a span as they stand in an event: a number of 32 bits, as longer
spans count as the longest such number. -/
def compactMillis (d : Duration) : Nat := min d.millis (UInt32.size - 1)

/-- The event with its session. -/
def withSession (e : Event) (s : String) : Event := { e with session := some s }

/-- The event with its heart or subscriber. -/
def withSource (e : Event) (s : String) : Event := { e with source := some s }

/-- The event with the sequence number of its heartbeat. -/
def withSequence (e : Event) (n : Nat) : Event := { e with sequence := some n }

/-- The event with its number of failures. -/
def withFailures (e : Event) (n : Nat) : Event := { e with failures := some n }

/-- The event with the number of its attempt. -/
def withAttempt (e : Event) (n : Nat) : Event := { e with attempt := some n }

/-- The event with its delay. -/
def withDelay (e : Event) (d : Duration) : Event := { e with delayMs := some (compactMillis d) }

/-- The event with its interval. -/
def withInterval (e : Event) (d : Duration) : Event :=
  { e with intervalMs := some (compactMillis d) }

/-- The event with its size. -/
def withSize (e : Event) (n : Nat) : Event := { e with size := some n }

/-- The event with its reason. -/
def withReason (e : Event) (s : String) : Event := { e with reason := some s }

/-- The notice that the queue of a subscriber refused an event. -/
def overflow (subscriber reason : String) : Event :=
  (of .subscriberOverflow).withSource subscriber |>.withReason
    ("subscriber=" ++ subscriber ++ " reason=" ++ reason)

/-- The notice that a subscriber failed on an event. -/
def panicked (subscriber info : String) : Event :=
  (of .subscriberPanicked).withSource subscriber |>.withReason info

/-- Whether the event is a notice of a refused event. -/
def isOverflow (e : Event) : Bool := e.kind = .subscriberOverflow

end Event

/-- An event with the number it got when it was created. -/
structure Notice where
  /-- The number of events created before it. -/
  seq : Nat
  /-- What happened. -/
  event : Event
deriving DecidableEq, Inhabited, Repr

/-- The events numbered in their order, from `first` on. -/
def Notice.numbered (first : Nat) : List Event → List Notice
  | [] => []
  | e :: es => ⟨first, e⟩ :: numbered (first + 1) es

end FleetAgent
