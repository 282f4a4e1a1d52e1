import FleetAgent.Bus.Basic
import FleetAgent.Registration
import FleetAgent.Scheduler.Basic
import FleetAgent.Session.Connect
import FleetAgent.Session.Status
import FleetAgent.Subscriber.Fanout

/-!
# The agent

An agent ties the session, the heartbeat scheduler, the handle of the host and the subscribers
together. Everything that its calls share is one state; what a call does between two waits is one
section on that state.

## Main definitions

* `Handle`: what is registered in the context of a host.
* `Agent`: the shared state.
* `Agent.perform`: the events that a section publishes, put on the bus.
* `Agent.requestShutdown`: tells every call to come to its end.
-/

namespace FleetAgent

/-- What is registered in the context of a host. -/
inductive Handle where
  /-- The handle of this agent. -/
  | own
  /-- Another one. -/
  | other
deriving DecidableEq, Repr

/-- Whose beats the scheduler drives. -/
inductive Heart where
  /-- The heartbeats of the session. -/
  | session
  /-- Those of a heart of its own. -/
  | own
deriving DecidableEq, Repr

/-- The state that the calls of an agent share. -/
structure Agent where
  /-- The settings. -/
  config : AgentConfig
  /-- The session manager. -/
  session : Session
  /-- Whose beats the scheduler drives. -/
  heart : Heart := .session
  /-- The heartbeat scheduler. -/
  scheduler : Scheduler
  /-- The termination notices. -/
  notices : NoticeQueue
  /-- What the handle of the host remembers. -/
  cloud : Cloud
  /-- The handle in the context of the host. -/
  registration : Registration Handle := {}
  /-- The queues of the subscribers. -/
  fanout : Fanout := {}
  /-- The event bus. -/
  bus : Bus Notice
  /-- The number of events created. -/
  created : Nat := 0
  /-- Whether the agent is told to shut down. -/
  isStopping : Bool := false
  /-- Whether the host has been enabled. -/
  isEnabled : Bool := false
  /-- The calls that watch the termination notices or are in line for it, the first one watching;
  each has a number. -/
  watchers : List Nat := []
  /-- The number of the next such call. -/
  nextWatcher : Nat := 0
  /-- Whether nobody has waited for the end of the listener yet. -/
  holdsListener : Bool := true
  /-- Whether the listener is told to forward what is left and to end. -/
  isFlushing : Bool := false
  /-- Whether the listener has ended. -/
  listenerEnded : Bool := false
deriving Inhabited

namespace Agent

/-- The target of the log records of the agent. -/
def target : String := "fleetlink::core::agent"

/-- How many termination notices can wait. -/
def noticeCapacity : Nat := 4

/-- Puts a new event on the bus. -/
def publish (a : Agent) (e : Event) : Agent :=
  { a with bus := a.bus.publish ⟨a.created, e⟩, created := a.created + 1 }

/-- The state after the effects of a section: its events are on the bus. -/
def perform (a : Agent) (effects : List Effect) : Agent :=
  effects.foldl (fun a effect => match effect with
    | .publish e => a.publish e
    | _ => a) a

/-- A section of the session manager as one of the agent. -/
def onSession {ρ : Type} (a : Agent) (f : Session → Turn Session ρ) : Turn Agent ρ :=
  (f a.session).within fun session => { a with session }

/-- A section of the scheduler as one of the agent. -/
def onScheduler {ρ : Type} (a : Agent) (f : Scheduler → Turn Scheduler ρ) : Turn Agent ρ :=
  (f a.scheduler).within fun scheduler => { a with scheduler }

/-- A section of the handle of the host as one of the agent. -/
def onCloud {ρ : Type} (a : Agent) (f : Cloud → Turn Cloud ρ) : Turn Agent ρ :=
  (f a.cloud).within fun cloud => { a with cloud }

/-- A section of the queues of the subscribers as one of the agent. -/
def onFanout {ρ : Type} (a : Agent) (f : Fanout → Turn Fanout ρ) : Turn Agent ρ :=
  (f a.fanout).within fun fanout => { a with fanout }

/-- A section that only writes a log record. -/
def logging (a : Agent) (r : LogRecord) : Turn Agent Unit :=
  { state := a, effects := [.log r], result := () }

/-- Tells every call to come to its end, once. -/
def requestShutdown (a : Agent) : Turn Agent Unit :=
  if a.isStopping then { state := a, result := () }
  else
    { state := { a with isStopping := true }
      effects := [.signal .stopping, .publish (.of .shutdownRequested)]
      result := () }

/-- The agent of a configuration that is valid. -/
def make (config : AgentConfig) (address : String) (host : Host)
    (subscribers : List Subscriber) : Except ConfigError Agent :=
  match config.validate with
  | .error e => .error e
  | .ok () => .ok
    { config
      session := { host, address, params := config.sessionParams }
      scheduler := Scheduler.make host.name config.interval
      notices := { capacity := noticeCapacity }
      cloud := { autoReady := config.autoReady }
      fanout := .ofSubscribers subscribers
      bus := (Bus.ofCapacity? config.clampedBusCapacity).getD { retained := 1 } }

end Agent

end FleetAgent
