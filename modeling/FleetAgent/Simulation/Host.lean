import FleetAgent.Simulation.Turns

/-!
# The host

The host drives the agent, or parts of it, in steps: it makes calls, itself or in the background,
waits for calls in the background, lets time pass, and takes part from outside. After each step all
jobs in line take their turns, unless the step says otherwise, and the host looks around.

## Main definitions

* `HostCall`: the calls that the host can make, with `Simulation.callOf`.
* `Command`, `Step`: the steps of the host.
* `Simulation.command`: what a step comes to.
* `Observation`, `Simulation.observe`: what can be seen after a step.
* `Simulation.run`: the observations after the steps of a host.
-/

namespace FleetAgent.Simulation

/-- A call that the host can make, by the part of the agent on which it makes it. -/
inductive HostCall where
  /-- On the session. -/
  | session (op : Operation)
  /-- A heartbeat of the session, with the name of its heart. -/
  | namedBeat
  /-- On the handle of the host: the report that the server is running. -/
  | reportRunning
  /-- On the handle of the host. -/
  | cloud (op : Operation)
  /-- On the scheduler. -/
  | scheduler (op : Operation)
  /-- On the hooks of the agent. -/
  | hook (op : Operation)
  /-- On the agent: a look at its settings. -/
  | settings
  /-- The registration of another handle in the context. -/
  | registerOther
deriving DecidableEq, Repr

/-- The call that a job makes for the host. Of an agent the host has the handle only through the
context, and the scheduler only as long as it holds the agent; what a setting lacks is gone. -/
def callOf (s : Simulation) : HostCall → Call
  | .session op => .operation op
  | .namedBeat => .namedBeat
  | .reportRunning => match s.setting with
    | .agent => .gone
    | .session | .scheduler => .operation (.report .running)
  | .cloud op => match s.setting with
    | .agent => .registered op
    | .session | .scheduler => .operation op
  | .scheduler op => match s.setting with
    | .session => .gone
    | .scheduler | .agent => if s.isHeld then .operation op else .gone
  | .hook op => match s.setting with
    | .session | .scheduler => .gone
    | .agent => if s.isHeld then .operation op else .gone
  | .settings => match s.setting with
    | .session | .scheduler => .gone
    | .agent => if s.isHeld then .settings else .gone
  | .registerOther => match s.setting with
    | .session | .scheduler => .gone
    | .agent => .registerOther

/-- How the host makes a call. -/
inductive Manner where
  /-- It waits for the call, but not longer than some time. -/
  | within (limit : Duration)
  /-- It makes the call in the background, under a name. -/
  | background (name : String)
deriving DecidableEq, Repr

/-- What a step does. -/
inductive Command where
  /-- A call; one that runs is given a shutdown. -/
  | call (c : HostCall) (shutdown : Shutdown) (manner : Manner)
  /-- Waits for a call in the background, but not longer than some time. -/
  | await (name : String) (limit : Duration)
  /-- Gives up a call in the background. -/
  | abort (name : String)
  /-- Sends a signal that asks for a shutdown. -/
  | signal (signal : ShutdownSignal)
  /-- Publishes an event. -/
  | publish (e : Event)
  /-- Adds entries to the script of a procedure. -/
  | script (p : Procedure) (entries : Script)
  /-- Lets time pass. -/
  | sleep (d : Duration)
  /-- Takes the termination notices that wait. -/
  | notices
  /-- Watches the termination notices no longer. -/
  | closeNotices
  /-- Lets go of the agent, or the scheduler. -/
  | letGo

/-- A step of the host. -/
structure Step where
  /-- What the step does. -/
  command : Command
  /-- How often it is done. -/
  times : Nat := 1
  /-- Whether all jobs in line take their turns afterwards. -/
  settles : Bool := true

/-- The answer of a step that succeeded and has nothing to say. -/
def Answer.done : Answer := .outcome .finished

/-- The host makes a call. -/
def makeCall (s : Simulation) (c : HostCall) (shutdown : Shutdown) (manner : Manner) :
    Answer × Simulation :=
  let k := s.jobs.size
  let job := Job.ofCall (s.callOf c) shutdown
  match manner with
  | .background name =>
    let s := s.launch job
    (.nothing, { s with background := (name, k) :: s.background.filter (·.1 ≠ name) })
  | .within limit =>
    let s := { s with jobs := s.jobs.push job }
    match s.attend (.calling k) (some (s.now.after limit)) with
    | (some answer, s) => (answer, s)
    | (none, s) => (.pending, s.discard k .aborted)

/-- The host waits for a call in the background. A call that is not finished in time can be waited
for again. -/
def awaitCall (s : Simulation) (name : String) (limit : Duration) : Answer × Simulation :=
  match s.background.lookup name with
  | none => (.gone, s)
  | some k => match s.attend (.awaiting k) (some (s.now.after limit)) with
    | (some answer, s) =>
      (answer, { s with background := s.background.filter (·.1 ≠ name) })
    | (none, s) => (.pending, s)

/-- A signal reaches the calls that run and have begun to wait for it. -/
def deliver (s : Simulation) (signal : ShutdownSignal) : Simulation :=
  let isReached (j : Job) : Bool := match j.phase, j.shutdown with
    | .active (.run _ .queued), _ => false
    | .active (.run _ _), .onSignal => true
    | _, _ => false
  let reached := s.jobs.toList.zipIdx.filter fun (j, _) => isReached j
  reached.foldl (fun s (_, k) =>
    (s.modifyJob k ({ · with shutdown := .signalled signal })).wake k) s

/-- What a step comes to. -/
def command (s : Simulation) : Command → Answer × Simulation
  | .call c shutdown manner => s.makeCall c shutdown manner
  | .await name limit => s.awaitCall name limit
  | .abort name => (.done, match s.background.lookup name with
    | none => s
    | some k => s.abort k)
  | .signal signal => (.done, s.deliver signal)
  | .publish e => (.done, s.carryOut none [.publish e])
  | .script p entries => (.done, { s with book := s.book.append p entries })
  | .sleep d => (.done, (s.attend .idle (some (s.now.after d))).2)
  | .notices =>
    if s.setting = .scheduler ∧ s.agent.notices.isOpen then
      let waiting := s.agent.notices.waiting
      let notices := { s.agent.notices with waiting := [] }
      (.notices waiting, { s with agent := { s.agent with notices } })
    else (.unwatched, s)
  | .closeNotices =>
    if s.setting = .scheduler then
      (.done, { s with agent := { s.agent with notices := s.agent.notices.close } })
    else (.done, s)
  | .letGo => (.nothing, { s with isHeld := false }.releaseIfLast)

/-- What can be seen after a step. -/
structure Observation where
  /-- What the step came to. -/
  answer : Answer
  /-- Where the clock stands. -/
  now : Instant
  /-- The session. -/
  session : Session.Snapshot
  /-- What the host has received from the bus since the last observation. -/
  events : List (Received Notice)
  /-- The calls to the controller since the last observation. -/
  calls : List CallRecord
  /-- Whether heartbeats are made, and whether one is under way. -/
  beating : Option (Bool × Bool)
  /-- What the handle of the host remembers. -/
  cloud : Option Cloud
  /-- Whether a handle is registered in the context. -/
  isRegistered : Option Bool
  /-- What the subscribers have processed since the last observation. -/
  seen : List (String × List Sighting)
  /-- The log records since the last observation. -/
  logs : List LogRecord

/-- What a receiver gets from the bus until it finds nothing, at most so many times. -/
def receiveAll (b : Bus Notice) : (times : Nat) → (cursor : Nat) → List (Received Notice) × Nat
  | 0, cursor => ([], cursor)
  | times + 1, cursor => match b.receive cursor with
    | (.empty, _) | (.closed, _) => ([], cursor)
    | (got, cursor) =>
      let (more, cursor) := receiveAll b times cursor
      (got :: more, cursor)

/-- What each subscriber has processed since the last observation. -/
def seen (s : Simulation) : List (String × List Sighting) :=
  s.agent.fanout.boxes.zipIdx.map fun (m, i) =>
    (m.subscriber.name, (s.sightings.reverse.filter (·.1 = i)).map (·.2))

/-- The observation after a step. -/
def observe (s : Simulation) (answer : Answer) : Observation × Simulation :=
  let (events, cursor) :=
    receiveAll s.agent.bus (s.agent.bus.unread s.cursor + 1) s.cursor
  let isAgentHeld := s.setting = .agent ∧ s.isHeld
  let scheduler := s.agent.scheduler
  ({ answer
     now := s.now
     session := s.agent.session.snapshot
     events
     calls := s.calls.reverse
     beating :=
       if s.setting ≠ .session ∧ s.isHeld then some (scheduler.isRunning, scheduler.inFlight)
       else none
     cloud := if s.setting = .agent then none else some s.agent.cloud
     isRegistered := if isAgentHeld then some s.agent.registration.isRegistered else none
     seen := s.seen
     logs := s.logs.reverse },
    { s with cursor, calls := [], logs := [], sightings := [] })

/-- A step done once, with its observation. -/
def step (s : Simulation) (p : Step) : Observation × Simulation :=
  let (answer, s) := s.command p.command
  (if p.settles then s.settle else s).observe answer

/-- A step done several times, with its observations. -/
def repeatStep (p : Step) : (times : Nat) → Simulation → List Observation × Simulation
  | 0, s => ([], s)
  | times + 1, s =>
    let (r, s) := s.step p
    let (rs, s) := repeatStep p times s
    (r :: rs, s)

/-- The observations after the steps of a host. -/
def run (s : Simulation) : List Step → List Observation × Simulation
  | [] => ([], s)
  | p :: ps =>
    let (rs, s) := repeatStep p p.times s
    let (more, s) := run s ps
    (rs ++ more, s)

end FleetAgent.Simulation
