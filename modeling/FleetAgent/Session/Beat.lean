import FleetAgent.Session.Basic

/-!
# Heartbeats

A heartbeat takes the next sequence number of the session, and its reply must name the same number.
A reply that does is an acknowledgement. Otherwise the heartbeat has failed: a failure that may pass
by itself counts, and from one threshold on the session is degraded, at the other it is given up; a
rejection gives the session up at once.

## Main definitions

* `BeatOutcome`: a heartbeat that did not end the session.
* `Beat`: a heartbeat that waits for its reply, with its request.
* `Session.beginBeat`: the first section of a heartbeat.
* `Session.apply`: what a reply means for the session.
* `Session.finishBeat`: the second section of a heartbeat.
-/

namespace FleetAgent

/-- The outcome of a heartbeat that did not end the session. -/
inductive BeatOutcome where
  /-- The controller acknowledged the heartbeat. -/
  | acked (sequence : Nat) (directive : Directive)
  /-- The heartbeat failed, as so many in a row did. -/
  | missed (sequence failures : Nat)
deriving DecidableEq, Repr

/-- A heartbeat that waits for its reply. -/
structure Beat where
  /-- The epoch of the session for which it was sent. -/
  epoch : Nat
  /-- The identifier of the session. -/
  session : String
  /-- Its sequence number. -/
  sequence : Nat
deriving DecidableEq, Repr

/-- The request whose answer a heartbeat waits for. -/
abbrev Beat.request (b : Beat) : Request := .heartbeat b.session b.sequence

/-- A reply must acknowledge the sequence number that was sent. -/
def HeartbeatReply.checkSequence (r : HeartbeatReply) (sent : Nat) :
    Except ClientError HeartbeatReply :=
  if r.sequence = sent then .ok r
  else .error (.protocol ("reply acknowledges sequence " ++ toString r.sequence ++ " but " ++
    toString sent ++ " was sent"))

namespace Session

/-- The first section of a heartbeat: it takes a sequence number of the open session. -/
def beginBeat (s : Session) : Turn Session (Progress Beat (Except SessionError BeatOutcome)) :=
  match s.established? with
  | none => { state := s, result := .done (.error (s.invalid "beat")) }
  | some live =>
    { state := { s with live := some { live with nextSequence := live.nextSequence + 1 } }
      result := .waiting ⟨s.epoch, live.id, live.nextSequence⟩ }

/-- The acknowledgement of a heartbeat: the failures are forgotten, and a degraded session has
recovered. -/
def acknowledge (s : Session) (live : Live) (now : Instant) (sequence : Nat)
    (reply : HeartbeatReply) : Turn Session (Except SessionError BeatOutcome) :=
  let about (kind : EventKind) : Event :=
    (Event.of kind).withSession live.id |>.withSequence sequence
  { state :=
      { s with
        state := if s.state = .degraded then .active else s.state
        live := some { live with
          failures := 0
          lastAcked := some sequence
          lastHeartbeat := some now
          config := reply.config.or live.config } }
    effects :=
      (if s.state = .degraded then [.publish (about .sessionRecovered)] else []) ++
      [.publish (about .heartbeatAcked)] ++
      (match reply.config with
        | some config => [.publish ((about .configUpdated).withSize config.length)]
        | none => []) ++
      (if reply.directive = .terminate then [.publish (about .terminateRequested)] else [])
    result := .ok (.acked sequence reply.directive) }

/-- A failure of a heartbeat that may pass by itself: it is counted, and the count is held against
the two thresholds. -/
def miss (s : Session) (live : Live) (sequence : Nat) (e : ClientError) :
    Turn Session (Except SessionError BeatOutcome) :=
  let failures := live.failures + 1
  let counted := { s with live := some { live with failures } }
  if s.params.loseAfter ≤ failures then
    (counted.lose failures (toString failures ++ " consecutive heartbeat failures, last: " ++
      e.message)).map .error
  else
    let degrades := s.params.degradeAfter ≤ failures ∧ s.state = .active
    { state := { counted with state := if degrades then .degraded else s.state }
      effects :=
        .publish ((Event.of .heartbeatMissed).withSession live.id |>.withSequence sequence
          |>.withFailures failures |>.withReason e.message) ::
        (if degrades then
          [.publish ((Event.of .sessionDegraded).withSession live.id |>.withFailures failures)]
        else [])
      result := .ok (.missed sequence failures) }

/-- What the answer to a heartbeat means for the session. -/
def apply (s : Session) (now : Instant) (sequence : Nat)
    (answer : Except ClientError HeartbeatReply) :
    Turn Session (Except SessionError BeatOutcome) :=
  match s.live with
  | none => { state := s, result := .error (s.invalid "beat") }
  | some live =>
    match answer.bind (·.checkSequence sequence) with
    | .ok reply => s.acknowledge live now sequence reply
    | .error e =>
      if e.isTransient then s.miss live sequence e
      else match e with
        | .rejected _ => (s.lose live.failures e.message).map .error
        | _ => { state := s, result := .error (.client e) }

/-- The second section of a heartbeat. Its answer counts only for the session for which it was
sent. -/
def finishBeat (s : Session) (now : Instant) (b : Beat)
    (answer : Except ClientError HeartbeatReply) :
    Turn Session (Except SessionError BeatOutcome) :=
  if s.epoch ≠ b.epoch ∨ ¬ s.state.isEstablished then
    { state := s, result := .error (s.invalid "beat") }
  else s.apply now b.sequence answer

end Session

end FleetAgent
