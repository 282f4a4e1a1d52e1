import FleetAgent.Session.State
import FleetAgent.Text.Quoted
import FleetAgent.Time

/-!
# Errors

The causes for which a call fails, one type for each layer: a single call to the controller, the
session, the configuration, the registration of the handle, and the agent as a whole. Each error
has a label that is stable across wordings, a message for people, and the list of messages of the
causes behind it.

## Main definitions

* `ClientError`, `SessionError`, `ConfigError`, `RegistrationError`, `RuntimeError`.
* `ClientError.isTransient`: whether a failed call counts towards the loss of the session.
* `Failure`: the label and the message of an error of any layer.
-/

namespace FleetAgent

/-- Why a single call to the controller failed. -/
inductive ClientError where
  /-- The controller could not be reached in time. -/
  | transport (reason : String)
  /-- The controller does not accept the session. -/
  | rejected (reason : String)
  /-- The answer does not fit the request. -/
  | protocol (reason : String)
  /-- The request was refused before it was sent. -/
  | invalidRequest (reason : String)
  /-- No channel can be opened to the endpoint. -/
  | invalidEndpoint (reason : String)
deriving DecidableEq, Repr

namespace ClientError

/-- The error of a call that was not answered within `d`. -/
def timedOut (d : Duration) : ClientError := .transport ("call timed out after " ++ d.brief)

/-- The stable label of the error. -/
def label : ClientError → String
  | transport _ => "client_transport"
  | rejected _ => "client_rejected"
  | protocol _ => "client_protocol"
  | invalidRequest _ => "client_invalid_request"
  | invalidEndpoint _ => "client_invalid_endpoint"

/-- The text of the error. -/
def message : ClientError → String
  | transport reason => "transport error: " ++ reason
  | rejected reason => "rejected by controller: " ++ reason
  | protocol reason => "protocol violation: " ++ reason
  | invalidRequest reason => "invalid request: " ++ reason
  | invalidEndpoint reason => "invalid endpoint: " ++ reason

/-- Whether the failure may pass by itself, so that it only counts towards the loss of the
session. -/
def isTransient : ClientError → Bool
  | transport _ | protocol _ => true
  | _ => false

/-- The error in diagnostic output. -/
def inspect (e : ClientError) : String :=
  let fields (name reason : String) :=
    name ++ " \x7b reason: " ++ Text.quoted reason ++ " \x7d"
  match e with
  | transport reason => fields "Transport" reason
  | rejected reason => fields "Rejected" reason
  | protocol reason => fields "Protocol" reason
  | invalidRequest reason => fields "InvalidRequest" reason
  | invalidEndpoint reason => fields "InvalidEndpoint" reason

end ClientError

/-- Why an operation on the session failed. -/
inductive SessionError where
  /-- The operation is not possible in the state in which the session is. -/
  | invalidState (op : String) (state : SessionState)
  /-- The session could not be opened. -/
  | connectionFailed (source : ClientError)
  /-- The session was given up. -/
  | lost (session reason : String)
  /-- A call on the open session failed. -/
  | client (source : ClientError)
deriving DecidableEq, Repr

namespace SessionError

/-- The stable label of the error. -/
def label : SessionError → String
  | invalidState _ _ => "session_invalid_state"
  | connectionFailed _ => "session_connection_failed"
  | lost _ _ => "session_lost"
  | client e => e.label

/-- The text of the error. -/
def message : SessionError → String
  | invalidState op state => op ++ " is not valid in state " ++ state.name
  | connectionFailed e => "connection failed: " ++ e.message
  | lost session reason => "session " ++ session ++ " lost: " ++ reason
  | client e => e.message

/-- The messages of the causes behind the error, the nearest first. A failed call on the open
session stands for itself and has none. -/
def sources : SessionError → List String
  | connectionFailed e => [e.message]
  | _ => []

/-- Whether the session was given up. -/
def isLost : SessionError → Bool
  | lost _ _ => true
  | _ => false

/-- The error in diagnostic output. -/
def inspect : SessionError → String
  | invalidState op state =>
    "InvalidState \x7b op: " ++ Text.quoted op ++ ", state: " ++ state.label ++ " \x7d"
  | connectionFailed e => "ConnectionFailed \x7b source: " ++ e.inspect ++ " \x7d"
  | lost session reason =>
    "SessionLost \x7b session: " ++ Text.quoted session ++ ", reason: " ++ Text.quoted reason ++
      " \x7d"
  | client e => "Client(" ++ e.inspect ++ ")"

end SessionError

/-- Why a configuration is refused. -/
inductive ConfigError where
  /-- A variable that is needed is not set. -/
  | missingVar (name : String)
  /-- A variable or a field has a value that cannot be used. -/
  | invalid (name reason : String)
deriving DecidableEq, Repr

namespace ConfigError

/-- The stable label of the error. -/
def label : ConfigError → String
  | missingVar _ => "config_missing_var"
  | invalid _ _ => "config_invalid"

/-- The text of the error. -/
def message : ConfigError → String
  | missingVar name => "missing environment variable " ++ name
  | invalid name reason => "invalid value for " ++ name ++ ": " ++ reason

end ConfigError

/-- Misuse of the registration of the control-plane handle. -/
inductive RegistrationError where
  /-- A handle is registered already. -/
  | alreadyRegistered
  /-- No handle is registered yet. -/
  | notRegistered
deriving DecidableEq, Repr

namespace RegistrationError

/-- The stable label of the error. -/
def label : RegistrationError → String
  | alreadyRegistered => "already_registered"
  | notRegistered => "not_registered"

/-- The text of the error. -/
def message : RegistrationError → String
  | alreadyRegistered => "control-plane handle already registered"
  | notRegistered => "control-plane handle not registered; call setup first"

end RegistrationError

/-- Why the agent as a whole failed. -/
inductive RuntimeError where
  /-- The registration was misused. -/
  | registration (e : RegistrationError)
  /-- The session failed. -/
  | session (e : SessionError)
  /-- The configuration was refused. -/
  | config (e : ConfigError)
  /-- A call to the controller failed. -/
  | client (e : ClientError)
  /-- The signals that ask for a shutdown cannot be received. -/
  | signal (reason : String)
  /-- The agent ended for a reason that it cannot recover from. -/
  | terminated (reason : String)
deriving DecidableEq, Repr

namespace RuntimeError

/-- The stable label of the error; an error of a lower layer keeps its own. -/
def label : RuntimeError → String
  | registration e => e.label
  | session e => e.label
  | config e => e.label
  | client e => e.label
  | signal _ => "runtime_signal"
  | terminated _ => "runtime_terminated"

/-- The text of the error; an error of a lower layer keeps its own. -/
def message : RuntimeError → String
  | registration e => e.message
  | session e => e.message
  | config e => e.message
  | client e => e.message
  | signal reason => "failed to listen for shutdown signals: " ++ reason
  | terminated reason => "agent terminated: " ++ reason

/-- The messages of the causes behind the error, the nearest first. -/
def sources : RuntimeError → List String
  | session e => e.sources
  | signal reason => [reason]
  | _ => []

end RuntimeError

/-- What an error of any layer shows of itself: its label and its text. -/
structure Failure where
  /-- The stable label. -/
  label : String
  /-- The text for people. -/
  message : String
deriving DecidableEq, Repr

/-- What the error shows of itself. -/
def ClientError.failure (e : ClientError) : Failure := ⟨e.label, e.message⟩

/-- What the error shows of itself. -/
def SessionError.failure (e : SessionError) : Failure := ⟨e.label, e.message⟩

/-- What the error shows of itself. -/
def ConfigError.failure (e : ConfigError) : Failure := ⟨e.label, e.message⟩

/-- What the error shows of itself. -/
def RegistrationError.failure (e : RegistrationError) : Failure := ⟨e.label, e.message⟩

/-- What the error shows of itself. -/
def RuntimeError.failure (e : RuntimeError) : Failure := ⟨e.label, e.message⟩

end FleetAgent
