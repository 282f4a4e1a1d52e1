import FleetAgent.Simulation.Job

/-!
# Simulations

A simulation runs an agent with a scripted controller under a clock of its own. The jobs take turns:
a job goes on in atomic sections until it has to wait; jobs that can go on are in line, first come
first served. The clock stands still as long as a job is in line.

## Main definitions

* `Setting`: which parts of an agent the host drives.
* `Simulation`: the state of a simulation.
* `Simulation.wake`, `Simulation.carryOut`: jobs that can go on, and the effects of a section.
* `Simulation.enter`: a job begins to wait.
-/

namespace FleetAgent

/-- Which parts of an agent the host drives. -/
inductive Setting where
  /-- The session and the handle of the host. -/
  | session
  /-- The session, the handle of the host, and a scheduler. -/
  | scheduler
  /-- The agent as a whole. -/
  | agent
deriving DecidableEq, Inhabited, Repr

/-- A simulation. -/
structure Simulation where
  /-- Which parts of the agent the host drives. -/
  setting : Setting
  /-- The agent. -/
  agent : Agent
  /-- What the controller does. -/
  book : Simulation.ScriptBook := {}
  /-- The identifier of a session that the script does not name. -/
  session : String := "session-1"
  /-- Whether a channel to the controller can be opened at all. -/
  isReachable : Bool := true
  /-- Where the clock stands. -/
  now : Instant := 0
  /-- All jobs; the number of a job is its place. -/
  jobs : Array Simulation.Job := #[]
  /-- The numbers of the jobs in line, the first one first. -/
  line : List Nat := []
  /-- What the host is doing. -/
  front : Simulation.Front := .idle
  /-- Whether the host can go on. -/
  frontWoken : Bool := false
  /-- The jobs in the background, by their names. -/
  background : List (String × Nat) := []
  /-- Whether the host still holds the agent, or the scheduler. -/
  isHeld : Bool := true
  /-- Whether nobody holds the agent, or the scheduler, any more. -/
  isReleased : Bool := false
  /-- How far the host has read the bus. -/
  cursor : Nat := 0
  /-- The calls to the controller since the last observation, the newest first. -/
  calls : List Simulation.CallRecord := []
  /-- The log records since the last observation, the newest first. -/
  logs : List LogRecord := []
  /-- What subscribers have processed since the last observation, the newest first. -/
  sightings : List (Nat × Simulation.Sighting) := []
  /-- The greatest number of heartbeats that were under way at once. -/
  peak : Nat := 0
deriving Inhabited

namespace Simulation

/-- The simulation with one of its jobs changed. -/
def modifyJob (s : Simulation) (k : Nat) (f : Job → Job) : Simulation :=
  { s with jobs := s.jobs.modify k f }

/-- Lets a job go on: it gets in line, unless it is in line already or has ended. The call that the
host makes itself takes its turn outside of the line. -/
def wake (s : Simulation) (k : Nat) : Simulation :=
  if s.front = .calling k then { s with frontWoken := true }
  else match s.jobs[k]? with
    | none => s
    | some j =>
      if j.isQueued || j.answer?.isSome then s
      else { s.modifyJob k ({ · with isQueued := true }) with line := s.line ++ [k] }

/-- Lets every job go on that waits and meets a condition. -/
def wakeAll (s : Simulation) (isMeant : Nat → Job → Bool) : Simulation :=
  (s.jobs.toList.zipIdx.filter fun (j, k) => isMeant k j).foldl (fun s (_, k) => s.wake k) s

/-- Adds a job that is in line. -/
def launch (s : Simulation) (j : Job) : Simulation :=
  { s with jobs := s.jobs.push j }.wake s.jobs.size

/-- One effect of a section of the job of a number. -/
def carry (s : Simulation) (k : Option Nat) : Effect → Simulation
  | .publish _ => s.wakeAll fun i j => some i ≠ k && j.listensTo .published
  | .signal signal => s.wakeAll fun i j => some i ≠ k && j.listensTo signal
  | .log r => { s with logs := r :: s.logs }
  | .handled i n => { s with sightings := (i, ⟨s.now, n⟩) :: s.sightings }
  | .spawn loop => s.launch (.ofActivity (.loop loop none))

/-- The effects of a section of the job of a number, or of a section outside of all jobs. -/
def carryOut (s : Simulation) (k : Option Nat) (effects : List Effect) : Simulation :=
  effects.foldl (·.carry k) { s with agent := s.agent.perform effects }

/-- A section outside of all jobs. -/
def act {ρ : Type} (s : Simulation) (f : Agent → Turn Agent ρ) : Simulation :=
  let t := f s.agent
  { s with agent := t.state }.carryOut none t.effects

/-- Notes the number of heartbeats that are under way. -/
def notePeak (s : Simulation) : Simulation :=
  { s with peak := max s.peak (s.jobs.toList.filter (·.awaited.isHeartbeat)).length }

/-- Sends a request for a job. -/
def send (s : Simulation) (k : Nat) (r : Request) : Simulation :=
  let limit := s.agent.session.params.rpcTimeout
  if r = .dial ∧ !s.isReachable then
    let refused : Flight :=
      ⟨.dial, .error (.transport "transport error"), some s.now, s.now.after limit, limit⟩
    s.modifyJob k ({ · with awaited := .answer refused })
  else
    let (flight, record, book) :=
      Flight.send s.now limit s.agent.session.address s.session s.book r
    { s with book, calls := record.toList ++ s.calls }.modifyJob k
      ({ · with awaited := .answer flight }) |>.notePeak

/-- Lets a heart of its own beat for a job. -/
def sendBeat (s : Simulation) (k : Nat) : Simulation :=
  let (entry, book) := s.book.next .beat
  { s with book, calls := ⟨s.now, .beat, []⟩ :: s.calls }.modifyJob k
    ({ · with awaited := .ownBeat (entry.readyAt s.now) entry.beat })

/-- A job begins to wait at a stage. -/
def enter (s : Simulation) (k : Nat) (activity : Activity) : Simulation :=
  let now := s.now
  let pause := (s.agent.pause? activity).map now.after
  let s := s.modifyJob k fun j =>
    { j with
      phase := .active activity
      awaited := .nothing
      pause
      shutdown := match activity with
        | .run _ .watching => j.shutdown.watched now
        | _ => j.shutdown }
  match s.agent.request? activity with
  | some r => s.send k r
  | none => match activity with
    | .loop _ (some .own) => s.sendBeat k
    | _ => s

/-- Lets a job go on that is to be given up when it takes its turn. -/
def abort (s : Simulation) (k : Nat) : Simulation :=
  (s.modifyJob k ({ · with isAborted := true })).wake k

/-- Gives the listener up, unless somebody has waited for its end. -/
def dropListener (s : Simulation) : Simulation :=
  if s.agent.holdsListener then
    let listeners := s.jobs.toList.zipIdx.filter fun (j, _) => j.isListener
    listeners.foldl (fun s (_, k) => s.abort k)
      { s with agent := { s.agent with holdsListener := false } }
  else s

/-- The end of the agent when nobody holds it any more: the listener is given up, the heartbeats are
stopped, and nobody watches the termination notices. A scheduler by itself only stops. -/
def release (s : Simulation) : Simulation :=
  let s := { s with isReleased := true }
  match s.setting with
  | .session => s
  | .scheduler => s.act (·.onScheduler Scheduler.stop)
  | .agent =>
    let s := s.dropListener.act (·.onScheduler Scheduler.stop)
    { s with agent := { s.agent with notices := s.agent.notices.close } }

/-- Releases the agent, or the scheduler, once neither the host nor a job holds it. -/
def releaseIfLast (s : Simulation) : Simulation :=
  if s.isHeld || s.isReleased || s.jobs.any (·.holdsAgent) then s else s.release

/-- The end of a job. The host goes on if it waits for that. -/
def finish (s : Simulation) (k : Nat) (answer : Answer) : Simulation :=
  let s := s.modifyJob k fun j => { call := j.call, phase := .ended answer }
  let isAwaited := decide (s.front = .awaiting k)
  { s with frontWoken := s.frontWoken || isAwaited }.releaseIfLast

/-- Gives a job up: what it has changed stays as it is. -/
def discard (s : Simulation) (k : Nat) (answer : Answer) : Simulation :=
  match s.jobs[k]? with
  | some { phase := .active activity, .. } =>
    let closed (a : Agent) : Turn Agent Unit := match activity with
      | .listener _ => a.onFanout Fanout.close
      | activity => a.abandon activity
    ((s.modifyJob k ({ · with phase := .ended answer })).act closed).finish k answer
  | some { phase := .fresh, .. } => s.finish k answer
  | _ => s

end Simulation

end FleetAgent
