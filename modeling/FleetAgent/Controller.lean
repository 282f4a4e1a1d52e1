import FleetAgent.Error

/-!
# The controller

What an agent asks of the controller of its fleet, and what the controller answers. Every request
has its own type of answers, so an answer always fits the request it is given to.

## Main definitions

* `Host`: how a server presents itself.
* `Directive`, `HeartbeatReply`: the answer to a heartbeat.
* `Request` with `Request.Response`: the requests and their answers.
-/

namespace FleetAgent

/-- How a server presents itself. -/
structure Host where
  /-- The name of the server. -/
  name : String
  /-- The version of the agent. -/
  version : String
deriving DecidableEq, Inhabited, Repr

/-- The version of this agent. -/
def agentVersion : String := "0.1.0"

/-- The server of a name, with the version of this agent. -/
def Host.named (name : String) : Host := ⟨name, agentVersion⟩

/-- What the controller wants the agent to do. -/
inductive Directive where
  /-- To go on. -/
  | continue
  /-- To end. -/
  | terminate
deriving DecidableEq, Inhabited, Repr

/-- The answer to a heartbeat. -/
structure HeartbeatReply where
  /-- What the controller wants the agent to do. -/
  directive : Directive := .continue
  /-- The sequence number that is acknowledged. -/
  sequence : Nat
  /-- A new configuration. -/
  config : Option (List UInt8) := none
deriving DecidableEq, Inhabited, Repr

/-- A request to the controller. -/
inductive Request where
  /-- To open a channel. -/
  | dial
  /-- To open a session. -/
  | connect (host : Host)
  /-- To keep a session alive. -/
  | heartbeat (session : String) (sequence : Nat)
  /-- To note whether the server accepts players. -/
  | setReady (session : String) (ready : Bool)
  /-- To note that the server is running. -/
  | setRunning (session : String)
  /-- To stop the server. -/
  | requestStop (session : String)
deriving DecidableEq, Repr

/-- The answers to a request that succeeds. A session is answered with its identifier. -/
abbrev Request.Response : Request → Type
  | .connect _ => String
  | .heartbeat _ _ => HeartbeatReply
  | _ => Unit

/-- The answers to a request. -/
abbrev Request.Answer (r : Request) : Type := Except ClientError r.Response

namespace Request

/-- The session that the request names, if it names one. -/
def session? : Request → Option String
  | .heartbeat session _ | .setReady session _ | .setRunning session | .requestStop session =>
    some session
  | .dial | .connect _ => none

/-- Why a request is not sent at all: it names the empty session. -/
def refusal (r : Request) : Option ClientError :=
  if r.session? = some "" then some (.invalidRequest "session id is empty") else none

/-- The answer as the agent takes it: an empty identifier of a session is no answer. -/
def accept : (r : Request) → r.Answer → r.Answer
  | .connect _, .ok "" => .error (.protocol "controller assigned an empty session id")
  | _, answer => answer

end Request

end FleetAgent
