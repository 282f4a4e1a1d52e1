import FleetAgent.Session.Basic

/-!
# Opening a session

A session is opened by a channel to the controller and then the request for a session on it. The
attempt takes a new epoch; its answer counts only if no other attempt and no shutdown has come in
between.

## Main definitions

* `Connect`: the stages at which an attempt waits, each with its request.
* `Session.beginConnect`: the first section of an attempt.
* `Connect.resume`: the section after an answer of the controller.
* `Session.finishConnect`: the last section of an attempt.
-/

namespace FleetAgent

/-- The stages at which an attempt to open a session waits, with the epoch of the attempt. -/
inductive Connect where
  /-- The channel is being opened. -/
  | dialing (epoch : Nat)
  /-- The session is being asked for. -/
  | greeting (epoch : Nat)
deriving DecidableEq, Repr

namespace Connect

/-- The epoch of the attempt. -/
def epoch : Connect → Nat
  | dialing e | greeting e => e

/-- The request whose answer the stage waits for. -/
abbrev request (host : Host) : Connect → Request
  | dialing _ => .dial
  | greeting _ => .connect host

end Connect

namespace Session

/-- The first section of an attempt to open a session, which must be disconnected. -/
def beginConnect (s : Session) :
    Turn Session (Progress Connect (Except SessionError String)) :=
  if s.state ≠ .disconnected then { state := s, result := .done (.error (s.invalid "connect")) }
  else
    { state := { s with state := .connecting, epoch := s.epoch + 1 }
      effects := [
        .publish (.of .sessionConnecting),
        .log ⟨.debug, target, "connecting to controller", [("address", s.address)]⟩]
      result := .waiting (.dialing (s.epoch + 1)) }

/-- The last section of an attempt: the session is open, or the manager is disconnected again. An
attempt that has been overtaken changes nothing. -/
def finishConnect (s : Session) (epoch : Nat) (answer : Except ClientError String) :
    Turn Session (Except SessionError String) :=
  if s.epoch ≠ epoch ∨ s.state ≠ .connecting then
    { state := s, result := .error (s.invalid "connect") }
  else match answer with
    | .ok id =>
      { state := { s with state := .active, live := some { id } }
        effects := [.publish ((Event.of .sessionConnected).withSession id)]
        result := .ok id }
    | .error e =>
      { state := { s with state := .disconnected }
        effects := [.publish ((Event.of .connectFailed).withReason e.message)]
        result := .error (.connectionFailed e) }

end Session

namespace Connect

/-- The section after the answer that a stage waits for. -/
def resume (s : Session) : (stage : Connect) → (stage.request s.host).Answer →
    Turn Session (Progress Connect (Except SessionError String))
  | dialing epoch, .ok _ => { state := s, result := .waiting (.greeting epoch) }
  | dialing epoch, .error e => (s.finishConnect epoch (.error e)).map .done
  | greeting epoch, answer =>
    (s.finishConnect epoch (Request.accept (.connect s.host) answer)).map .done

end Connect

end FleetAgent
