import FleetAgent.Endpoint
import FleetAgent.Simulation.Host

/-!
# The start of a simulation

A simulation starts with a new agent, or with those parts of one that the host is going to drive.

## Main definitions

* `Premises`: what is given at the start: the controller, the server and the settings.
* `Simulation.ofSession`, `Simulation.ofScheduler`, `Simulation.ofAgent`: the simulations in the
  three settings.
-/

namespace FleetAgent

/-- What is given at the start of a simulation. -/
structure Simulation.Premises where
  /-- Where the controller is. -/
  address : String
  /-- How the server presents itself. -/
  host : Host
  /-- The settings. -/
  config : AgentConfig
  /-- What the controller does. -/
  book : ScriptBook := {}
  /-- The identifier of a session that the script does not name. -/
  session : String := "session-1"
  /-- Whether a channel to the controller can be opened at all. -/
  isReachable : Bool := true

namespace Simulation

/-- An agent of which only some parts are used: its session, the handle of the host, the bus, and
the scheduler with its termination notices. Its settings are not checked. -/
def Premises.parts (p : Premises) (params : SessionParams) (heart : Heart) (name : String)
    (noticeCapacity : Nat) : Agent :=
  { config := p.config
    session := { host := p.host, address := p.address, params }
    heart
    scheduler := Scheduler.make name p.config.interval
    notices := { capacity := noticeCapacity }
    cloud := { autoReady := p.config.autoReady }
    bus := (Bus.ofCapacity? p.config.busCapacity).getD { retained := 1 } }

/-- A simulation of an agent in a setting. -/
def Premises.start (p : Premises) (setting : Setting) (agent : Agent) : Simulation :=
  { setting, agent, book := p.book, session := p.session, isReachable := p.isReachable,
    cursor := agent.bus.subscribe }

/-- A simulation in which the host drives the session, with parameters of its own. -/
def ofSession (p : Premises) (params : SessionParams) : Simulation :=
  p.start .session (p.parts params .session p.host.name Agent.noticeCapacity)

/-- A simulation in which the host drives the session, with parameters of its own, and a scheduler,
which lets the session beat, or a heart of its own with a name. -/
def ofScheduler (p : Premises) (params : SessionParams) (heart : Option String)
    (noticeCapacity : Nat) : Simulation :=
  p.start .scheduler <| match heart with
    | none => p.parts params .session p.host.name noticeCapacity
    | some name => p.parts params .own name noticeCapacity

/-- Adds the workers of all subscribers. -/
def launchWorkers (s : Simulation) : Simulation :=
  (List.range s.agent.fanout.boxes.length).foldl
    (fun s i => s.launch (.ofActivity (.worker i .idle))) s

/-- A simulation in which the host drives an agent with subscribers, unless its settings are
refused. -/
def ofAgent (p : Premises) (subscribers : List Subscriber) : Except ConfigError Simulation :=
  (Agent.make p.config p.address p.host subscribers).map fun agent =>
    let s := (p.start .agent agent).launchWorkers
    s.launch (.ofActivity (.listener { cursor := agent.bus.subscribe }))

end Simulation

end FleetAgent
