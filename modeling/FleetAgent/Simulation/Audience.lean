import FleetAgent.Simulation.Start

/-!
# Subscribers without an agent

Here the host hands events to the subscribers itself. It may tell them that no more events come and
wait until they have processed what is left, or not wait for that.

## Main definitions

* `Simulation.ofSubscribers`: the simulation of subscribers alone.
* `Handing`, `HandingStep`: the steps of the host.
* `Simulation.runHanding`: the observations after the steps.
-/

namespace FleetAgent.Simulation

/-- A simulation of subscribers alone, on a bus of a capacity. -/
def ofSubscribers (p : Premises) (subscribers : List Subscriber) : Simulation :=
  let agent := p.parts p.config.sessionParams .session p.host.name Agent.noticeCapacity
  (p.start .session { agent with fanout := .ofSubscribers subscribers }).launchWorkers

/-- What the host does with the subscribers. -/
inductive Handing where
  /-- Hands an event to them. -/
  | emit (e : Event)
  /-- Lets time pass. -/
  | sleep (d : Duration)
  /-- Tells them that no more events come, and waits for them. -/
  | shutdown
  /-- Tells them that no more events come. -/
  | letGo

/-- A step of the host. -/
structure HandingStep where
  /-- What the step does. -/
  handing : Handing
  /-- How often it is done. -/
  times : Nat := 1
  /-- Whether all jobs in line take their turns afterwards. -/
  settles : Bool := true

/-- A new event, handed to all subscribers but not published. -/
def emit (s : Simulation) (e : Event) : Simulation :=
  let n : Notice := ⟨s.agent.created, e⟩
  { s with agent := { s.agent with created := s.agent.created + 1 } }.act
    (·.onFanout (·.emit n))

/-- Waits for the workers one after the other. -/
def waiter : Activity := .listener { cursor := 0, stage := .closing 0 }

/-- One step, done once. Once the subscribers are told that no more events come, none is handed to
them. -/
def hand (s : Simulation) : Handing → Simulation
  | .emit e => if s.isHeld then s.emit e else s
  | .sleep d => (s.attend .idle (some (s.now.after d))).2
  | .letGo => if s.isHeld then { s with isHeld := false }.act (·.onFanout Fanout.close) else s
  | .shutdown =>
    if s.isHeld then
      let s := { s with isHeld := false }.act (·.onFanout Fanout.close)
      let k := s.jobs.size
      ({ s with jobs := s.jobs.push (.ofActivity waiter) }.attend (.calling k) none).2
    else s

/-- A step done several times, with its observations. -/
def repeatHanding (p : HandingStep) : (times : Nat) → Simulation → List Observation × Simulation
  | 0, s => ([], s)
  | times + 1, s =>
    let s := s.hand p.handing
    let (r, s) := (if p.settles then s.settle else s).observe .nothing
    let (rs, s) := repeatHanding p times s
    (r :: rs, s)

/-- The observations after the steps. -/
def runHanding (s : Simulation) : List HandingStep → List Observation × Simulation
  | [] => ([], s)
  | p :: ps =>
    let (rs, s) := repeatHanding p p.times s
    let (more, s) := runHanding s ps
    (rs ++ more, s)

end FleetAgent.Simulation
