import FleetAgent.Config
import FleetAgent.Controller
import FleetAgent.Effect

/-!
# The session manager

A session manager holds at most one session with the controller. It is changed only in atomic
sections; a call that waits for the controller gives its two halves to two sections, and other calls
may act in between. The number of attempts to connect, the epoch, tells whether the session is still
the one for which the first half was done.

## Main definitions

* `Live`: an open session.
* `Session`: the manager, with its state, its epoch and its open session.
* `Session.disconnect`, in its two sections `beginDisconnect` and `finishDisconnect`, and
  `Session.reset`: the end of a session, and the way back to the start.
* `Session.client`: the open session for a status call.
* `Session.Snapshot`: what can be seen of the manager.
-/

namespace FleetAgent

/-- An open session. -/
structure Live where
  /-- The identifier that the controller gave. -/
  id : String
  /-- The sequence number of the next heartbeat. -/
  nextSequence : Nat := 0
  /-- The sequence number acknowledged last. -/
  lastAcked : Option Nat := none
  /-- The number of heartbeats failed in a row. -/
  failures : Nat := 0
  /-- When a heartbeat was acknowledged last. -/
  lastHeartbeat : Option Instant := none
  /-- The configuration received last. -/
  config : Option (List UInt8) := none
deriving DecidableEq, Inhabited, Repr

/-- The manager of a session. -/
structure Session where
  /-- How the server presents itself. -/
  host : Host
  /-- The address of the controller. -/
  address : String
  /-- The time limit of calls and the thresholds of failures. -/
  params : SessionParams
  /-- The state. -/
  state : SessionState := .disconnected
  /-- The number of attempts to connect. -/
  epoch : Nat := 0
  /-- The open session. -/
  live : Option Live := none
deriving DecidableEq, Inhabited, Repr

namespace Session

/-- The target of the log records of the session manager. -/
def target : String := "fleetlink::core::session"

/-- The refusal of an operation in the present state. -/
def invalid (s : Session) (op : String) : SessionError := .invalidState op s.state

/-- The open session, if the state is an established one. -/
def established? (s : Session) : Option Live :=
  if s.state.isEstablished then s.live else none

/-- The identifier of the open session, for a status call. -/
def client (s : Session) : Except SessionError String :=
  match s.established? with
  | some live => .ok live.id
  | none => .error (s.invalid "client")

/-- The first section of taking the session down: the open session is taken away. Nothing is to be
done if the session is closed. The stage is the identifier of the session that was open. -/
def beginDisconnect (s : Session) : Turn Session (Progress (Option String) Unit) :=
  if s.state = .closed then { state := s, result := .done () }
  else
    { state := { s with state := .shuttingDown, live := none }
      result := .waiting (s.live.map (·.id)) }

/-- The second section of taking the session down. -/
def finishDisconnect (s : Session) (session : Option String) : Turn Session Unit :=
  { state := { s with state := .closed }
    effects := [.publish { Event.of .sessionClosed with session }]
    result := () }

/-- Takes the session down, both sections in a row. -/
def disconnect (s : Session) : Turn Session Unit :=
  s.beginDisconnect.andThen fun progress s =>
    match progress with
    | .waiting session => s.finishDisconnect session
    | .done () => { state := s, result := () }

/-- Brings a closed manager back to the start. -/
def reset (s : Session) : Turn Session (Except SessionError Unit) :=
  if s.state = .closed then { state := { s with state := .disconnected }, result := .ok () }
  else { state := s, result := .error (s.invalid "reset") }

/-- Gives the session up: it is closed, and the loss is told. -/
def lose (s : Session) (failures : Nat) (reason : String) : Turn Session SessionError :=
  let session := (s.live.map (·.id)).getD ""
  { state := { s with state := .closed, live := none }
    effects := [
      .log ⟨.warn, target, "session lost", [("session", session), ("reason", reason)]⟩,
      .publish ((Event.of .sessionLost).withSession session |>.withFailures failures
        |>.withReason reason)]
    result := .lost session reason }

/-- What can be seen of the manager. -/
structure Snapshot where
  /-- The state. -/
  state : SessionState
  /-- The identifier of the open session. -/
  id : Option String
  /-- The number of heartbeats failed in a row. -/
  failures : Nat
  /-- The sequence number of the next heartbeat. -/
  nextSequence : Nat
  /-- The sequence number acknowledged last. -/
  lastAcked : Option Nat
  /-- When a heartbeat was acknowledged last. -/
  lastHeartbeat : Option Instant
  /-- The configuration received last. -/
  config : Option (List UInt8)
deriving DecidableEq, Repr

/-- What can be seen of the manager now. -/
def snapshot (s : Session) : Snapshot :=
  { state := s.state
    id := s.live.map (·.id)
    failures := (s.live.map (·.failures)).getD 0
    nextSequence := (s.live.map (·.nextSequence)).getD 0
    lastAcked := s.live.bind (·.lastAcked)
    lastHeartbeat := s.live.bind (·.lastHeartbeat)
    config := s.live.bind (·.config) }

end Session

end FleetAgent
