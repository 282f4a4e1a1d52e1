import FleetAgent.Agent.ShutdownSignal
import FleetAgent.Simulation.Flight

/-!
# Jobs

What goes on side by side in a simulation are jobs: calls of the host, heartbeat loops, the listener
and the workers of the subscribers. A job is an activity together with what it waits for.

## Main definitions

* `Call`: a call of the host as a job makes it.
* `Shutdown`: the shutdown that a call which runs is given.
* `Answer`: what a call of the host comes to.
* `Job`: a job, with `Job.delivery` and `Job.timers`.
* `Sighting`: what a subscriber has processed.
* `Front`: what the host itself is doing.
-/

namespace FleetAgent.Simulation

/-- A call of the host. -/
inductive Call where
  /-- A call on the agent or one of its parts. -/
  | operation (op : Operation)
  /-- A call on the handle that is registered in the context. -/
  | registered (op : Operation)
  /-- A heartbeat of the session, with the name of its heart. -/
  | namedBeat
  /-- The registration of another handle in the context. -/
  | registerOther
  /-- A look at the settings. -/
  | settings
  /-- A call on something that is not there. -/
  | gone
deriving DecidableEq, Repr

/-- Whether a call on the agent is one on its hooks or its scheduler, which the host must hold for
it. -/
def holdsAgent : Operation → Bool
  | .start | .stop | .join _ | .interval | .load | .enable | .disable | .run => true
  | _ => false

/-- Whether the call keeps the agent, or the scheduler, alive. -/
def Call.holdsAgent : Call → Bool
  | .operation op => Simulation.holdsAgent op
  | .settings => true
  | _ => false

/-- The shutdown that a call which runs is given. -/
inductive Shutdown where
  /-- It never comes. -/
  | never
  /-- It comes some time after the call begins to watch. -/
  | after (delay : Duration) (outcome : Except String Unit)
  /-- It comes at some time. -/
  | due (time : Instant) (outcome : Except String Unit)
  /-- It comes with a signal. -/
  | onSignal
  /-- A signal has come. -/
  | signalled (signal : ShutdownSignal)

namespace Shutdown

/-- The shutdown when the call begins to watch. -/
def watched (s : Shutdown) (now : Instant) : Shutdown :=
  match s with
  | after delay outcome => due (now.after delay) outcome
  | s => s

/-- The outcome of the shutdown, once it has come. -/
def outcome? (s : Shutdown) (now : Instant) : Option (Except String Unit) :=
  match s with
  | due time outcome => if time.reached now then some outcome else none
  | signalled _ => some (.ok ())
  | _ => none

/-- When the shutdown comes. -/
def timers : Shutdown → List Instant
  | due time _ => [time]
  | _ => []

end Shutdown

/-- What a call of the host comes to. -/
inductive Answer where
  /-- The call has no result to speak of. -/
  | nothing
  /-- The call has a result. -/
  | outcome (o : Outcome)
  /-- The result of a heartbeat, with the name of its heart. -/
  | named (heart : String) (o : Outcome)
  /-- The settings: the time between two heartbeats and the two thresholds. -/
  | settings (interval : Duration) (degradeAfter loseAfter : Nat)
  /-- The termination notices that waited. -/
  | notices (ts : List Termination)
  /-- Nobody watches the termination notices. -/
  | unwatched
  /-- What the call is made on is not there. -/
  | gone
  /-- The call is not finished. -/
  | pending
  /-- The call was given up. -/
  | aborted
deriving DecidableEq, Repr

/-- How far a job has come. -/
inductive Phase where
  /-- It has not begun. -/
  | fresh
  /-- It goes on. -/
  | active (activity : Activity)
  /-- It has ended. -/
  | ended (answer : Answer)
deriving DecidableEq, Repr

/-- A job. -/
structure Job where
  /-- The call that the job makes, if it is a call of the host. -/
  call : Option Call := none
  /-- How far it has come. -/
  phase : Phase
  /-- What it waits for from outside. -/
  awaited : Awaited := .nothing
  /-- Until when it waits at most, or at least. -/
  pause : Option Instant := none
  /-- The shutdown that it is given. -/
  shutdown : Shutdown := .never
  /-- Whether it is in line to go on. -/
  isQueued : Bool := false
  /-- Whether it is to be given up. -/
  isAborted : Bool := false

namespace Job

/-- A job that makes a call of the host. -/
def ofCall (c : Call) (shutdown : Shutdown) : Job := { call := some c, phase := .fresh, shutdown }

/-- A job of the agent itself. -/
def ofActivity (activity : Activity) : Job := { phase := .active activity }

/-- What the job has come to, if it has ended. -/
def answer? (j : Job) : Option Answer :=
  match j.phase with
  | .ended a => some a
  | _ => none

/-- Whether the job keeps the agent, or the scheduler, alive. -/
def holdsAgent (j : Job) : Bool := j.answer?.isNone && j.call.any (·.holdsAgent)

/-- Whether the job is the listener. -/
def isListener (j : Job) : Bool :=
  match j.phase with
  | .active (.listener _) => true
  | _ => false

/-- Whether the job waits and may go on after a signal. -/
def listensTo (j : Job) (s : Signal) : Bool :=
  match j.phase with
  | .active activity => Agent.listensTo activity s
  | _ => false

/-- What the surroundings have brought the job. -/
def delivery (j : Job) (now : Instant) : Delivery :=
  { now
    reply := j.awaited.replyTo? now
    ownBeat := j.awaited.ownBeat? now
    elapsed := j.pause.any (·.reached now)
    shutdown := j.shutdown.outcome? now }

/-- When a heartbeat loop that waits for its next tick goes on. -/
def tick (a : Agent) : Activity → List Instant
  | .loop k none => match a.scheduler.loops[k]? with
    | some { phase := .ticking ticker, .. } => [ticker.due]
    | _ => []
  | _ => []

/-- When something happens to the job. -/
def timers (j : Job) (a : Agent) : List Instant :=
  match j.phase with
  | .active activity =>
    j.awaited.timers ++ j.pause.toList ++ j.shutdown.timers ++ tick a activity
  | _ => []

/-- What the job comes to when its call has a result. -/
def answerOf (j : Job) (a : Agent) (o : Outcome) : Answer :=
  if j.call = some .namedBeat then .named a.session.host.name o else .outcome o

end Job

/-- An event whose processing a subscriber has begun, with the time at which it did. -/
structure Sighting where
  /-- When processing began. -/
  time : Instant
  /-- The event. -/
  notice : Notice
deriving DecidableEq, Repr

/-- What the host is doing. -/
inductive Front where
  /-- Nothing that could be waited for. -/
  | idle
  /-- It makes the call of the job of a number. -/
  | calling (job : Nat)
  /-- It waits for the end of the job of a number, which is in the background. -/
  | awaiting (job : Nat)
deriving DecidableEq, Inhabited, Repr

end FleetAgent.Simulation
