import FleetAgent.Endpoint
import FleetAgent.Rpc.Call
import FleetAgent.Rpc.Certificate

/-!
# Channels to the controller

Before a channel is opened, the token, the length of the address and the certificate are checked,
in this order; then somebody must listen at the address, and speak in the clear.

## Main definitions

* `dial`: whether a channel can be opened.
* `Exchanged` and `exchange`: the answer to a request on an open channel, with the call that was
  sent.
-/

namespace FleetAgent.Rpc

/-- Whether the token can be sent along with a call: it holds no control character but tabs. -/
def isMetadata (token : String) : Bool :=
  token.toList.all fun c => c = '\t' || (0x20 ≤ c.toNat && c.toNat ≠ 0x7F)

/-- The greatest length of an address, in bytes. -/
def longestAddress : Nat := 65534

/-- Opens a channel to the endpoint. The peer at its address listens or does not, and if it does,
it speaks in the clear. -/
def dial (e : Endpoint) (listening : Bool) : Except ClientError Unit :=
  if !isMetadata e.token then .error (.invalidEndpoint "token is not valid ASCII metadata")
  else if longestAddress < e.address.render.utf8ByteSize then
    .error (.invalidEndpoint "uri too long")
  else if e.usesTls && !(e.certificate.map Certificate.accepted).getD true then
    .error (.invalidEndpoint "transport error")
  else if !listening || e.usesTls then .error (.transport "transport error")
  else .ok ()

/-- The answer to a request on an open channel, with the calls that were sent for it. -/
structure Exchanged where
  /-- The request. -/
  request : Request
  /-- The answer to it. -/
  answer : request.Answer
  /-- The calls that were sent. -/
  sent : List Call

/-- Makes a request on an open channel, on which the given reply arrives. -/
def exchange (e : Endpoint) (r : Request) (reply : WireReply) : Exchanged :=
  { request := r, answer := answer r reply, sent := (Call.ofRequest? e.token r).toList }

end FleetAgent.Rpc
