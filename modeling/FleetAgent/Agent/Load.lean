import FleetAgent.Agent.Basic

/-!
# Loading and enabling

When the host is loaded, the agent opens a session, registers its handle in the context of the host,
and starts the heartbeats; if another handle was registered meanwhile, the session is taken down
again. When the host is enabled, the agent reports that the server is running, and, unless the host
has turned that off, that it accepts players.

## Main definitions

* `Agent.beginLoad`, `Agent.resumeLoad`: the sections of loading.
* `Enable`, `Agent.beginEnable`, `Agent.resumeEnable`: the stages and the sections of enabling.
-/

namespace FleetAgent

namespace Agent

/-- The last section of loading, after the attempt to open a session. -/
def finishLoad (a : Agent) (opened : Except SessionError String) :
    Turn Agent (Except RuntimeError Unit) :=
  match opened with
  | .error e => { state := a, result := .error (.session e) }
  | .ok session => match a.registration.setup .own with
    | .error e =>
      (a.onSession Session.disconnect).andThen fun _ a =>
        (a.onSession Session.reset).map fun
          | .ok () => .error (.registration e)
          | .error e' => .error (.session e')
    | .ok registration =>
      ({ a with registration }.onScheduler Scheduler.start).andThen fun _ a =>
        (a.logging ⟨.info, target, "agent loaded",
          [("session", session), ("server", a.session.host.name)]⟩).map .ok

/-- What a part of an attempt to open a session means for loading. -/
def continueLoad (t : Turn Agent (Progress Connect (Except SessionError String))) :
    Turn Agent (Progress Connect (Except RuntimeError Unit)) :=
  t.andThen fun progress a => match progress with
    | .waiting stage => { state := a, result := .waiting stage }
    | .done opened => (a.finishLoad opened).map .done

/-- The first section of loading, which needs a context without a handle. -/
def beginLoad (a : Agent) : Turn Agent (Progress Connect (Except RuntimeError Unit)) :=
  if a.registration.isRegistered then
    { state := a, result := .done (.error (.registration .alreadyRegistered)) }
  else continueLoad (a.onSession Session.beginConnect)

/-- The section of loading after an answer of the controller. -/
def resumeLoad (a : Agent) (stage : Connect) (answer : (stage.request a.session.host).Answer) :
    Turn Agent (Progress Connect (Except RuntimeError Unit)) :=
  continueLoad ((Connect.resume a.session stage answer).within fun session => { a with session })

end Agent

/-- The stages at which enabling waits. -/
inductive Enable where
  /-- The report that the server is running. -/
  | running (call : StatusCall)
  /-- The report that the server accepts players. -/
  | readying (call : StatusCall)
deriving DecidableEq, Repr

/-- The status call whose answer the stage waits for. -/
def Enable.call : Enable → StatusCall
  | running call | readying call => call

namespace Agent

/-- The first section of enabling. -/
def beginEnable (a : Agent) : Turn Agent (Progress Enable (Except RuntimeError Unit)) :=
  { state := a, result := (a.session.beginStatus .running).map .running
      (·.mapError .session) }

/-- The section of enabling after an answer of the controller. -/
def resumeEnable (a : Agent) (stage : Enable) (answer : Except ClientError Unit) :
    Turn Agent (Progress Enable (Except RuntimeError Unit)) :=
  (a.onCloud fun cloud => stage.call.finish cloud answer).andThen fun outcome a =>
    match stage, outcome with
    | _, .error e => { state := a, result := .done (.error (.session e)) }
    | .readying _, .ok () => { state := a, result := .done (.ok ()) }
    | .running _, .ok () =>
      let a := { a with isEnabled := true }
      if a.cloud.autoReady then
        { state := a
          result := (a.session.beginStatus (.ready true)).map .readying (·.mapError .session) }
      else { state := a, result := .done (.ok ()) }

end Agent

end FleetAgent
