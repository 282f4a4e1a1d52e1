import FleetAgent.Controller
import FleetAgent.Rpc.Status
import FleetAgent.Url.Percent
import FleetAgent.Wire.Message

/-!
# Calls over the wire

A request is one call: a path, the token, and a frame that holds the message. The reply is a status
with at most one message. A status that is not the first one decides alone; otherwise the message
must be there and must be readable. A call may also come to nothing: the channel may not get ready
for it, it may break off, and its reply may not come in time.

## Main definitions

* `Call`: a request as it is sent, with `Call.ofRequest?`.
* `WireReply`: a reply as it arrives.
* `answer`: the answer that a reply gives to a request.
* `Fate`: what becomes of a call.
* `ask`: the answers that a client gets on a channel.
-/

namespace FleetAgent.Rpc

/-- A request as it is sent. -/
structure Call where
  /-- The path of the method. -/
  path : String
  /-- The token. -/
  authorization : String
  /-- The frame that holds the message. -/
  frame : List UInt8
deriving DecidableEq, Repr

/-- The path of a method of the service. -/
def methodPath (method : String) : String := "/fleetlink.v1.ControlPlane/" ++ method

/-- A message in its frame: a byte of zero, the length in four bytes, and the message. -/
def framed (message : List UInt8) : List UInt8 :=
  let n := message.length
  0 :: (n >>> 24).toUInt8 :: (n >>> 16).toUInt8 :: (n >>> 8).toUInt8 :: n.toUInt8 :: message

/-- The call of a request; opening a channel is none. -/
def Call.ofRequest? (token : String) : Request → Option Call
  | .dial => none
  | .connect host =>
    some ⟨methodPath "Connect", token,
      framed (Wire.ConnectRequest.schema.encode ⟨host.name, host.version⟩)⟩
  | .heartbeat session sequence =>
    some ⟨methodPath "Heartbeat", token,
      framed (Wire.HeartbeatRequest.schema.encode ⟨session, sequence.toUInt64⟩)⟩
  | .setReady session ready =>
    some ⟨methodPath "SetReady", token, framed (Wire.ReadyRequest.schema.encode ⟨session, ready⟩)⟩
  | .setRunning session =>
    some ⟨methodPath "SetRunning", token, framed (Wire.SessionRequest.schema.encode ⟨session⟩)⟩
  | .requestStop session =>
    some ⟨methodPath "RequestStop", token, framed (Wire.SessionRequest.schema.encode ⟨session⟩)⟩

/-- A reply as it arrives. -/
structure WireReply where
  /-- The bytes of the message, if there is one. -/
  body : Option (List UInt8) := none
  /-- The number of the status. -/
  code : Nat := 0
  /-- The message of the status, in percent encoding. -/
  message : String := ""
deriving DecidableEq, Inhabited, Repr

/-- The status of a reply. Its message must be a text in percent encoding. -/
def WireReply.status (r : WireReply) : Status :=
  match Wire.Kind.ofUtf8? (Url.percentDecode r.message.toList) with
  | some message => ⟨StatusCode.ofNumber r.code, message⟩
  | none => ⟨.unknown, "Error deserializing status message header: invalid utf-8 sequence"⟩

/-- The message of a reply, or the status with which the call ended instead. -/
def WireReply.read {M : Type} (r : WireReply) (schema : Wire.Schema M) : Except ClientError M :=
  let failed (s : Status) : Except ClientError M := .error s.toClientError
  let status := r.status
  if status.code ≠ .ok then failed status
  else match r.body with
    | none => failed ⟨.internal, "Missing response message."⟩
    | some bytes => match schema.decode bytes with
      | .error e => failed ⟨.internal, e.message⟩
      | .ok m => .ok m

/-- The answer to a heartbeat that a message gives; a directive that is not known is none. -/
def replyOfWire (m : Wire.HeartbeatResponse) : Except ClientError HeartbeatReply :=
  match Wire.DirectiveCode.ofInt32? m.directive with
  | some .continue => .ok ⟨.continue, m.sequence.toNat, m.configUpdate⟩
  | some .terminate => .ok ⟨.terminate, m.sequence.toNat, m.configUpdate⟩
  | none => .error (.protocol ("unknown directive " ++ toString m.directive.toInt))

/-- The answer that a reply gives to a request. -/
def answer : (r : Request) → WireReply → r.Answer
  | .dial, _ => .ok ()
  | .connect _, reply => (reply.read Wire.ConnectResponse.schema).map (·.sessionId)
  | .heartbeat _ _, reply => match reply.read Wire.HeartbeatResponse.schema with
    | .error e => .error e
    | .ok m => replyOfWire m
  | .setReady _ _, reply | .setRunning _, reply | .requestStop _, reply =>
    (reply.read Wire.Acknowledgement.schema).map fun _ => ()

/-- What becomes of a call. -/
inductive Fate where
  /-- Its reply arrives in time. -/
  | replied (reply : WireReply)
  /-- It breaks off, with a status instead of a reply. -/
  | broken (status : Status)
  /-- The channel does not get ready for it. -/
  | unready (reason : String)
  /-- It takes longer than the limit. -/
  | late (limit : Duration)
deriving DecidableEq, Repr

/-- The answer to a request with such a call. -/
def Fate.answer (r : Request) : Fate → r.Answer
  | replied reply => Rpc.answer r reply
  | broken status => .error status.toClientError
  | unready reason => .error (.transport ("channel not ready: " ++ reason))
  | late limit => .error (.timedOut limit)

/-- The answers that a client gets: the channel is opened or is not, and a request is refused, or
there is a call for it. -/
def ask (channel : Except ClientError Unit) (fate : Request → Fate) : (r : Request) → r.Answer
  | .dial => channel
  | r => match r.refusal with
    | some e => .error e
    | none => (fate r).answer r

end FleetAgent.Rpc
