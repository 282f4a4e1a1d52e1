import FleetAgent.Agent.Disable
import FleetAgent.Agent.Listener
import FleetAgent.Agent.Load
import FleetAgent.Agent.Run

/-!
# Activities

Everything that goes on in an agent is an activity: a call that waits, a heartbeat loop, the
listener, or the worker of a subscriber. An activity waits for an answer of the controller, for some
time to pass, or for the agent to be in some state. What the surroundings have brought it is its
delivery; given that, it makes one section, or goes on waiting.

## Main definitions

* `Activity`: the activities, each with the stage at which it waits.
* `Operation`, `Agent.begin`: the calls of the host, and their first sections.
* `Outcome`: the results of calls.
* `Delivery`, `Agent.resume`: what an activity is given, and its next section.
* `Agent.abandon`: the end of a call that is given up while it waits.
-/

namespace FleetAgent

/-- A heartbeat of a loop that waits for its outcome. -/
inductive HeartBeat where
  /-- A heartbeat of the session. -/
  | session (beat : Beat)
  /-- A beat of a heart of its own. -/
  | own
deriving DecidableEq, Repr

/-- How a beat of a heart of its own comes out. -/
inductive OwnBeat where
  /-- It has an outcome like a heartbeat of the session. -/
  | outcome (result : Except SessionError BeatOutcome)
  /-- The heart breaks down. -/
  | broken

/-- What goes on in an agent, with the stage at which it waits. -/
inductive Activity where
  /-- An attempt to open a session. -/
  | connect (stage : Connect)
  /-- A heartbeat of the session. -/
  | beat (beat : Beat)
  /-- A status call. -/
  | status (call : StatusCall)
  /-- A wait for the end of a heartbeat loop. -/
  | join (loop : Nat) (grace : Duration)
  /-- Loading. -/
  | load (stage : Connect)
  /-- Enabling. -/
  | enable (stage : Enable)
  /-- Disabling. -/
  | disable (stage : Disable)
  /-- Running; the call has a number. -/
  | run (ticket : Nat) (stage : Run)
  /-- A heartbeat loop of a number, with the heartbeat that it waits for. -/
  | loop (number : Nat) (beat : Option HeartBeat)
  /-- The listener. -/
  | listener (listener : Listener)
  /-- The worker of a subscriber. -/
  | worker (subscriber : Nat) (stage : WorkerStage)
deriving DecidableEq, Repr

/-- The results of calls. -/
inductive Outcome where
  /-- The call has no result. -/
  | finished
  /-- The identifier of the session that was opened. -/
  | opened (session : String)
  /-- The outcome of a heartbeat. -/
  | beaten (beat : BeatOutcome)
  /-- A yes or a no. -/
  | verdict (b : Bool)
  /-- The identifier of the open session, and the time limit of its calls. -/
  | client (session : String) (timeout : Duration)
  /-- The state of the session, and how the server presents itself. -/
  | described (state : SessionState) (host : Host)
  /-- A span of time. -/
  | span (d : Duration)
  /-- The call failed. -/
  | failed (e : RuntimeError)
deriving DecidableEq, Repr

namespace Outcome

/-- The outcome of a call without a result that may fail. -/
def ofUnit {ε : Type} (wrap : ε → RuntimeError) : Except ε Unit → Outcome
  | .ok () => finished
  | .error e => failed (wrap e)

/-- The outcome of an attempt to open a session. -/
def ofOpened : Except SessionError String → Outcome
  | .ok session => opened session
  | .error e => failed (.session e)

/-- The outcome of a heartbeat. -/
def ofBeat : Except SessionError BeatOutcome → Outcome
  | .ok beat => beaten beat
  | .error e => failed (.session e)

end Outcome

/-- The calls of the host. -/
inductive Operation where
  /-- Opens a session. -/
  | connect
  /-- Sends a heartbeat. -/
  | beat
  /-- Takes the session down. -/
  | disconnect
  /-- Brings a closed session back to the start. -/
  | reset
  /-- Asks for the open session. -/
  | client
  /-- Asks for the state of the session. -/
  | state
  /-- Makes a status call. -/
  | report (r : Report)
  /-- Turns off that readiness is reported without being asked. -/
  | disableAutoReady
  /-- Starts the heartbeats. -/
  | start
  /-- Stops the heartbeats. -/
  | stop
  /-- Waits for the end of the heartbeats. -/
  | join (grace : Duration)
  /-- Asks for the time between two heartbeats. -/
  | interval
  /-- The host is loaded. -/
  | load
  /-- The host is enabled. -/
  | enable
  /-- The host shuts down. -/
  | disable
  /-- The host runs. -/
  | run
deriving DecidableEq, Repr

/-- What the surroundings have brought an activity. -/
structure Delivery where
  /-- Where the clock stands. -/
  now : Instant
  /-- A number that was drawn. -/
  draw : Nat := 0
  /-- The answer to the request that the activity waits for. -/
  reply : (r : Request) → Option r.Answer := fun _ => none
  /-- The outcome of the beat that a heart of its own makes for the activity. -/
  ownBeat : Option OwnBeat := none
  /-- Whether the time has passed that the activity waits for. -/
  elapsed : Bool := false
  /-- The shutdown that the call was given, once it has come. -/
  shutdown : Option (Except String Unit) := none
  /-- What a call that runs looks for first. -/
  order : List Concern := []

/-- The outcome of a section of an activity. -/
abbrev ActivityTurn := Turn Agent (Progress Activity Outcome)

namespace Agent

/-- The request for whose answer an activity waits. -/
def request? (a : Agent) : Activity → Option Request
  | .connect stage | .load stage | .run _ (.recovering _ _ (.connecting stage)) =>
    some (stage.request a.session.host)
  | .beat b | .loop _ (some (.session b)) => some b.request
  | .status call | .run _ (.recovering _ _ (.running call))
  | .run _ (.recovering _ _ (.readying call)) => some call.request
  | .enable stage => some stage.call.request
  | _ => none

/-- The time that an activity waits, at most or at least. -/
def pause? (a : Agent) : Activity → Option Duration
  | .join _ grace => some grace
  | .disable _ => some a.config.grace
  | .run _ (.recovering _ _ (.pausing delay)) => some delay
  | .worker i (.busy n) => a.fanout.boxes[i]?.map fun m => m.subscriber.time n.event
  | _ => none

/-- The result of a call without stages. -/
def immediate {ρ : Type} (t : Turn Agent ρ) (outcome : ρ → Outcome) : ActivityTurn :=
  t.map fun r => .done (outcome r)

/-- The result of the calls that only look at the agent. -/
def observing (a : Agent) (outcome : Outcome) : ActivityTurn :=
  { state := a, result := .done outcome }

/-- The first section of a call of the host. -/
def begin (a : Agent) : Operation → ActivityTurn
  | .connect => (a.onSession Session.beginConnect).map (·.map .connect .ofOpened)
  | .beat => (a.onSession Session.beginBeat).map (·.map .beat .ofBeat)
  | .disconnect => immediate (a.onSession Session.disconnect) fun _ => .finished
  | .reset => immediate (a.onSession Session.reset) (.ofUnit .session)
  | .client => a.observing <| match a.session.client with
    | .ok session => .client session a.session.params.rpcTimeout
    | .error e => .failed (.session e)
  | .state => a.observing (.described a.session.state a.session.host)
  | .report r =>
    { state := a, result := (a.session.beginStatus r).map .status (.ofUnit .session) }
  | .disableAutoReady =>
    { a with cloud := { a.cloud with autoReady := false } }.observing .finished
  | .start => immediate (a.onScheduler Scheduler.start) .verdict
  | .stop => immediate (a.onScheduler Scheduler.stop) fun _ => .finished
  | .join grace => (a.onScheduler Scheduler.beginJoin).map (·.map (.join · grace) .verdict)
  | .interval => a.observing (.span a.scheduler.period)
  | .load => a.beginLoad.map (·.map .load (.ofUnit id))
  | .enable => a.beginEnable.map (·.map .enable (.ofUnit id))
  | .disable => a.beginDisable.map (·.map .disable (.ofUnit id))
  | .run =>
    let (ticket, a) := a.beginRun
    { state := a, result := .waiting (.run ticket .queued) }

/-- A section of the scheduler with the termination notices as one of the agent. -/
def onLoop {ρ : Type} (a : Agent)
    (f : Scheduler → NoticeQueue → Turn (Scheduler × NoticeQueue) ρ) : Turn Agent ρ :=
  (f a.scheduler a.notices).within fun s => { a with scheduler := s.1, notices := s.2 }

/-- The section of a heartbeat loop after the outcome of a heartbeat. -/
def loopAfterBeat (a : Agent) (k : Nat) (outcome : Except SessionError BeatOutcome) :
    ActivityTurn :=
  (a.onLoop fun s q => s.finishBeat q k outcome).map fun
    | .ended => .done .finished
    | _ => .waiting (.loop k none)

/-- A section of a heartbeat loop outside its heartbeats; nothing if it has to wait. -/
def advanceLoop (a : Agent) (k : Nat) (now : Instant) : Option ActivityTurn :=
  let t := a.onScheduler (·.advance k now)
  match t.result with
  | .blocked => none
  | .again => some (t.map fun _ => .waiting (.loop k none))
  | .ended => some (t.map fun _ => .done .finished)
  | .beat => match a.heart with
    | .own => some (t.map fun _ => .waiting (.loop k (some .own)))
    | .session => some <| t.andThen fun _ a =>
      (a.onSession Session.beginBeat).andThen fun progress a => match progress with
        | .waiting beat =>
          { state := a, result := .waiting (.loop k (some (.session beat))) }
        | .done outcome => a.loopAfterBeat k outcome

/-- The section of a call that runs, with its end if it has come. -/
def closeRun (ticket : Nat) (t : Turn Agent RunProgress) : ActivityTurn :=
  t.andThen fun progress a => match progress with
    | .waiting stage => { state := a, result := .waiting (.run ticket stage) }
    | .done result => immediate (a.endRun ticket) fun _ => .ofUnit id result

/-- The next section of a recovery; nothing if it has to wait. -/
def resumeRecovery (a : Agent) (d : Delivery) (cause : SessionError) (attempt : Nat) :
    Recovery → Option (Turn Agent RunProgress)
  | .pausing _ => if d.elapsed then some (a.afterPause cause attempt d.draw) else none
  | .connecting stage => (d.reply (stage.request a.session.host)).map
    (a.resumeConnect cause attempt d.draw stage)
  | .running call | .readying call => (d.reply call.request).map fun answer =>
    a.resumeReport cause attempt call (call.answer answer)

/-- The next section of a call that runs; nothing if it has to wait. -/
def resumeRun (a : Agent) (d : Delivery) : Run → Option (Turn Agent RunProgress)
  | .queued => none
  | .watching => a.lookout d.order d.shutdown (a.onNotice d.draw)
  | .recovering cause attempt stage =>
    a.lookout d.order d.shutdown (a.resumeRecovery d cause attempt stage)

/-- The next section of an activity; nothing if it has to wait. -/
def resume (a : Agent) (d : Delivery) : Activity → Option ActivityTurn
  | .connect stage => (d.reply (stage.request a.session.host)).map fun answer =>
    ((Connect.resume a.session stage answer).within fun session => { a with session }).map
      (·.map .connect .ofOpened)
  | .beat b => (d.reply b.request).map fun answer =>
    immediate (a.onSession (·.finishBeat d.now b answer)) .ofBeat
  | .status call => (d.reply call.request).map fun answer =>
    immediate (a.onCloud fun cloud => call.finish cloud (call.answer answer)) (.ofUnit .session)
  | .join loop _ =>
    if a.scheduler.hasEnded loop then some (a.observing (.verdict true))
    else if d.elapsed then some (a.observing (.verdict false))
    else none
  | .load stage => (d.reply (stage.request a.session.host)).map fun answer =>
    (a.resumeLoad stage answer).map (·.map .load (.ofUnit id))
  | .enable stage => (d.reply stage.call.request).map fun answer =>
    (a.resumeEnable stage (stage.call.answer answer)).map (·.map .enable (.ofUnit id))
  | .disable stage =>
    let next (inTime : Bool) := (a.resumeDisable stage inTime).map (·.map .disable (.ofUnit id))
    if a.disableIsDue stage then some (next true)
    else if d.elapsed then some (next false)
    else none
  | .run ticket .queued =>
    if a.isFirst ticket then some { state := a, result := .waiting (.run ticket .watching) }
    else none
  | .run ticket stage => (a.resumeRun d stage).map (closeRun ticket)
  | .loop k none => a.advanceLoop k d.now
  | .loop k (some (.session b)) => (d.reply b.request).map fun answer =>
    (a.onSession (·.finishBeat d.now b answer)).andThen fun outcome a =>
      a.loopAfterBeat k outcome
  | .loop k (some .own) => d.ownBeat.map fun
    | .outcome result => a.loopAfterBeat k result
    | .broken => immediate (a.onScheduler (·.breakDown k)) fun _ => .finished
  | .listener l => (a.listen l).map (·.map (·.map .listener fun _ => .finished))
  | .worker i .idle =>
    let t := a.onFanout (·.serve i)
    t.result.map fun progress => t.map fun _ => progress.map (.worker i) fun _ => .finished
  | .worker i (.busy n) =>
    if d.elapsed then
      some ((a.onFanout (·.finish i n)).map (·.map (.worker i) fun _ => .finished))
    else none

/-- Whether an activity that waits may go on after a signal. -/
def listensTo : Activity → Signal → Bool
  | .join loop _, .loopEnded k => loop = k
  | .disable (.joining loop), .loopEnded k => loop = k
  | .disable .flushing, .listenerEnded => true
  | .run _ .queued, .watchFree => true
  | .run _ .watching, .notice => true
  | .run _ .watching, .stopping | .run _ (.recovering _ _ _), .stopping => true
  | .loop number none, .cancelled k => number = k
  | .loop _ none, .loopEnded _ => true
  | .listener _, .published | .listener _, .flush | .listener _, .workerEnded _ => true
  | .worker i .idle, .queued j => i = j
  | _, _ => false

/-- The end of a call that is given up while it waits. What it has changed stays as it is; only its
place in line is given back. -/
def abandon (a : Agent) : Activity → Turn Agent Unit
  | .run ticket _ => a.endRun ticket
  | _ => { state := a, result := () }

end Agent

end FleetAgent
