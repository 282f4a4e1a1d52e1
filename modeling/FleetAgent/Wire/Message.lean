import FleetAgent.Wire.Schema

/-!
# The messages of the control-plane service

## Main definitions

* `ConnectRequest`, `ConnectResponse`, `HeartbeatRequest`, `HeartbeatResponse`, `ReadyRequest`,
  `SessionRequest`: the six messages, each with its `schema`.
* `Acknowledgement`: the message without fields that answers the status calls.
* `DirectiveCode`: the directives that a heartbeat is answered with.
-/

namespace FleetAgent.Wire

/-- The field of a text, which is not written when it is empty. -/
def Field.text {M : Type} (number : Nat) (name : String) (get : M → String)
    (set : M → String → M) : Field M :=
  { number, name, kind := .text, get := fun m => if get m = "" then none else some (get m), set }

/-- The field of an integer of 64 bits, which is not written when it is zero. -/
def Field.natural {M : Type} (number : Nat) (name : String) (get : M → UInt64)
    (set : M → UInt64 → M) : Field M :=
  { number, name, kind := .natural, get := fun m => if get m = 0 then none else some (get m), set }

/-- The field of a flag, which is written only when it is set. -/
def Field.flag {M : Type} (number : Nat) (name : String) (get : M → Bool)
    (set : M → Bool → M) : Field M :=
  { number, name, kind := .flag, get := fun m => if get m then some true else none, set }

/-- The field of a choice, which is not written when it is zero. -/
def Field.choice {M : Type} (number : Nat) (name : String) (get : M → Int32)
    (set : M → Int32 → M) : Field M :=
  { number, name, kind := .choice, get := fun m => if get m = 0 then none else some (get m), set }

/-- The field of raw bytes that may be absent, and is written whenever they are present. -/
def Field.optionalBytes {M : Type} (number : Nat) (name : String)
    (get : M → Option (List UInt8)) (set : M → List UInt8 → M) : Field M :=
  { number, name, kind := .bytes, get, set }

/-- The request for a session. -/
structure ConnectRequest where
  /-- The name of the server. -/
  name : String := ""
  /-- The version of the agent. -/
  version : String := ""
deriving DecidableEq, Inhabited, Repr

/-- The description of a request for a session. -/
def ConnectRequest.schema : Schema ConnectRequest :=
  { name := "ConnectRequest", default := {},
    fields := [
      .text 1 "name" (·.name) fun m v => { m with name := v },
      .text 2 "version" (·.version) fun m v => { m with version := v }] }

/-- The answer to a request for a session. -/
structure ConnectResponse where
  /-- The identifier of the session. -/
  sessionId : String := ""
deriving DecidableEq, Inhabited, Repr

/-- The description of the answer to a request for a session. -/
def ConnectResponse.schema : Schema ConnectResponse :=
  { name := "ConnectResponse", default := {},
    fields := [.text 1 "session_id" (·.sessionId) fun m v => { m with sessionId := v }] }

/-- A heartbeat. -/
structure HeartbeatRequest where
  /-- The identifier of the session. -/
  sessionId : String := ""
  /-- The sequence number of the heartbeat. -/
  sequence : UInt64 := 0
deriving DecidableEq, Inhabited, Repr

/-- The description of a heartbeat. -/
def HeartbeatRequest.schema : Schema HeartbeatRequest :=
  { name := "HeartbeatRequest", default := {},
    fields := [
      .text 1 "session_id" (·.sessionId) fun m v => { m with sessionId := v },
      .natural 2 "sequence" (·.sequence) fun m v => { m with sequence := v }] }

/-- The answer to a heartbeat. -/
structure HeartbeatResponse where
  /-- The directive, of an open list. -/
  directive : Int32 := 0
  /-- The sequence number that is acknowledged. -/
  sequence : UInt64 := 0
  /-- A new configuration. -/
  configUpdate : Option (List UInt8) := none
deriving DecidableEq, Inhabited, Repr

/-- The description of the answer to a heartbeat. -/
def HeartbeatResponse.schema : Schema HeartbeatResponse :=
  { name := "HeartbeatResponse", default := {},
    fields := [
      .choice 1 "directive" (·.directive) fun m v => { m with directive := v },
      .natural 2 "sequence" (·.sequence) fun m v => { m with sequence := v },
      .optionalBytes 3 "config_update" (·.configUpdate)
        fun m v => { m with configUpdate := some v }] }

/-- The report whether the server accepts players. -/
structure ReadyRequest where
  /-- The identifier of the session. -/
  sessionId : String := ""
  /-- Whether the server accepts players. -/
  ready : Bool := false
deriving DecidableEq, Inhabited, Repr

/-- The description of the report whether the server accepts players. -/
def ReadyRequest.schema : Schema ReadyRequest :=
  { name := "ReadyRequest", default := {},
    fields := [
      .text 1 "session_id" (·.sessionId) fun m v => { m with sessionId := v },
      .flag 2 "ready" (·.ready) fun m v => { m with ready := v }] }

/-- A request that names only its session. -/
structure SessionRequest where
  /-- The identifier of the session. -/
  sessionId : String := ""
deriving DecidableEq, Inhabited, Repr

/-- The description of a request that names only its session. -/
def SessionRequest.schema : Schema SessionRequest :=
  { name := "SessionRequest", default := {},
    fields := [.text 1 "session_id" (·.sessionId) fun m v => { m with sessionId := v }] }

/-- The answer without content. -/
structure Acknowledgement where
deriving DecidableEq, Inhabited, Repr

/-- The description of the answer without content. -/
def Acknowledgement.schema : Schema Acknowledgement :=
  { name := "Empty", default := {}, fields := [] }

/-- The directives that a heartbeat can be answered with. -/
inductive DirectiveCode where
  | continue
  | terminate
deriving DecidableEq, Inhabited, Repr

namespace DirectiveCode

/-- The name of the directive. -/
def name : DirectiveCode → String
  | .continue => "Continue"
  | .terminate => "Terminate"

/-- The directive of a number. -/
def ofInt32? (n : Int32) : Option DirectiveCode :=
  if n = 0 then some .continue else if n = 1 then some .terminate else none

/-- The directive of a number, read leniently: an unknown one is no directive to do anything. -/
def ofInt32 (n : Int32) : DirectiveCode := (ofInt32? n).getD .continue

end DirectiveCode

end FleetAgent.Wire
