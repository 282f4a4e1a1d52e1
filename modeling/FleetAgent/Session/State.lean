/-!
# The states of a session

A session manager stands in one of six states. Heartbeats and status calls are possible in the two
established ones.

## Main definitions

* `SessionState`: the six states, with their names.
* `SessionState.isEstablished`: whether heartbeats and status calls are possible.
-/

namespace FleetAgent

/-- The state of a session manager. -/
inductive SessionState where
  /-- No session and no attempt at one. -/
  | disconnected
  /-- An attempt to open a session is under way. -/
  | connecting
  /-- The session is open and its heartbeats are acknowledged. -/
  | active
  /-- The session is open, but heartbeats have been missed. -/
  | degraded
  /-- The session is being taken down. -/
  | shuttingDown
  /-- The session is gone. -/
  | closed
deriving DecidableEq, Inhabited, Repr

namespace SessionState

/-- All states. -/
def all : List SessionState :=
  [.disconnected, .connecting, .active, .degraded, .shuttingDown, .closed]

/-- The name of the state in messages. -/
def name : SessionState → String
  | disconnected => "disconnected"
  | connecting => "connecting"
  | active => "active"
  | degraded => "degraded"
  | shuttingDown => "shutting_down"
  | closed => "closed"

/-- The state of a given name. -/
def ofName? (s : String) : Option SessionState := all.find? (·.name == s)

/-- The name of the state in diagnostic output. -/
def label : SessionState → String
  | disconnected => "Disconnected"
  | connecting => "Connecting"
  | active => "Active"
  | degraded => "Degraded"
  | shuttingDown => "ShuttingDown"
  | closed => "Closed"

/-- Whether heartbeats and status calls are possible. -/
def isEstablished : SessionState → Bool
  | active | degraded => true
  | _ => false

end SessionState

end FleetAgent
