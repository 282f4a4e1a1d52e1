import FleetAgent.Session.Basic

/-!
# Status calls

On an open session the server can report that it is running and whether it accepts players, and
ask to be stopped. The readiness reported last is remembered, as is whether readiness is to be
reported without being asked.

## Main definitions

* `Cloud`: what the handle of the host remembers.
* `Report`: the three status calls.
* `StatusCall`: a status call that waits for its answer, with its request.
* `Session.beginStatus` and `StatusCall.finish`: the two sections of a status call.
-/

namespace FleetAgent

/-- What the handle of the host remembers. -/
structure Cloud where
  /-- Whether readiness is reported as soon as the host is enabled. -/
  autoReady : Bool := true
  /-- The readiness that was reported last. -/
  ready : Bool := false
deriving DecidableEq, Inhabited, Repr

/-- The status calls. -/
inductive Report where
  /-- The server is running. -/
  | running
  /-- The server accepts players, or does not. -/
  | ready (accepts : Bool)
  /-- The server asks to be stopped. -/
  | stop
deriving DecidableEq, Repr

/-- A status call that waits for its answer. -/
structure StatusCall where
  /-- The identifier of the session. -/
  session : String
  /-- What is reported. -/
  report : Report
deriving DecidableEq, Repr

namespace StatusCall

/-- The request whose answer the call waits for. -/
abbrev request (c : StatusCall) : Request :=
  match c.report with
  | .running => .setRunning c.session
  | .ready accepts => .setReady c.session accepts
  | .stop => .requestStop c.session

/-- The answer to the request of the call, which has no content. -/
def answer : (c : StatusCall) → c.request.Answer → Except ClientError Unit
  | ⟨_, .running⟩, a => a
  | ⟨_, .ready _⟩, a => a
  | ⟨_, .stop⟩, a => a

/-- The target of the log records of the handle. -/
def target : String := "fleetlink::api"

/-- The section after the answer: a readiness that was accepted is remembered. -/
def finish (c : StatusCall) (cloud : Cloud) (answer : Except ClientError Unit) :
    Turn Cloud (Except SessionError Unit) :=
  match answer with
  | .error e => { state := cloud, result := .error (.client e) }
  | .ok () => match c.report with
    | .ready accepts =>
      { state := { cloud with ready := accepts }
        effects := [.log ⟨.debug, target, "readiness reported",
          [("session", c.session), ("ready", toString accepts)]⟩]
        result := .ok () }
    | .running | .stop => { state := cloud, result := .ok () }

end StatusCall

/-- The first section of a status call: it needs an open session. -/
def Session.beginStatus (s : Session) (report : Report) :
    Progress StatusCall (Except SessionError Unit) :=
  match s.client with
  | .ok session => .waiting ⟨session, report⟩
  | .error e => .done (.error e)

end FleetAgent
