import FleetAgent.Simulation.Basic

/-!
# Taking turns

A job whose turn it is goes on until it has to wait. The host goes first whenever it can go on; then
all jobs in line take their turns. When nobody can go on, the clock jumps to the next instant at
which something happens. A call that the host makes is given up when its time is over; a call that
is finished just then counts as finished.

## Main definitions

* `Simulation.proceed`: the turn of a job.
* `Simulation.settle`: the turns of all jobs in line, without the clock.
* `Simulation.advanceTo`: the jump of the clock.
* `Simulation.attend`: the host waits for its call.
-/

namespace FleetAgent.Simulation

/-- What a section of a job leaves behind: the job waits at a stage, or has ended. -/
def conclude (s : Simulation) (k : Nat) (j : Job) (t : ActivityTurn) : Simulation :=
  let s := { s with agent := t.state }.carryOut (some k) t.effects
  match t.result with
  | .waiting activity => s.enter k activity
  | .done outcome => s.finish k (j.answerOf s.agent outcome)

/-- The first section of a call. -/
def beginCall (s : Simulation) (k : Nat) (j : Job) : Call → Simulation
  | .operation op => s.conclude k j (s.agent.begin op)
  | .namedBeat => s.conclude k j (s.agent.begin .beat)
  | .registered op => match s.agent.registration.get with
    | .error e => s.finish k (.outcome (.failed (.registration e)))
    | .ok .other => s.finish k (.outcome .finished)
    | .ok .own => s.conclude k j (s.agent.begin op)
  | .registerOther => match s.agent.registration.setup .other with
    | .error e => s.finish k (.outcome (.failed (.registration e)))
    | .ok registration =>
      { s with agent := { s.agent with registration } }.finish k (.outcome .finished)
  | .settings =>
    let c := s.agent.config
    s.finish k (.settings c.interval c.degradeAfter c.loseAfter)
  | .gone => s.finish k .gone

/-- Notes in the log that a signal was received by a call that runs. -/
def noteSignal (s : Simulation) (j : Job) : Simulation :=
  match j.shutdown with
  | .signalled signal => { s with logs := signal.record :: s.logs }
  | _ => s

/-- The turn of a job: at most so many sections, until it has to wait or has ended. -/
def proceedWithin (s : Simulation) (k : Nat) : (sections : Nat) → Simulation
  | 0 => s
  | sections + 1 => match s.jobs[k]? with
    | none => s
    | some j =>
      if j.isAborted then s.discard k .aborted
      else match j.phase with
        | .ended _ => s
        | .fresh => match j.call with
          | none => s
          | some c => (s.beginCall k j c).proceedWithin k sections
        | .active activity => match s.agent.resume (j.delivery s.now) activity with
          | none => s
          | some t => ((s.noteSignal j).conclude k j t).proceedWithin k sections

/-- The bound on sections, turns and jumps of the clock in one step of the host. -/
def patience : Nat := 1000000

/-- The turn of a job. -/
def proceed (s : Simulation) (k : Nat) : Simulation := s.proceedWithin k patience

/-- The turns of at most so many jobs in line. -/
def settleWithin (s : Simulation) : (turns : Nat) → Simulation
  | 0 => s
  | turns + 1 => match s.line with
    | [] => s
    | k :: line =>
      let s := { s with line }.modifyJob k ({ · with isQueued := false })
      (s.proceed k).settleWithin turns

/-- The turns of all jobs in line, and of those that get in line meanwhile. -/
def settle (s : Simulation) : Simulation := s.settleWithin patience

/-- The next instant at which something happens, or the time of the host is over. -/
def nextTime? (s : Simulation) (limit : Option Instant) : Option Instant :=
  let timers := limit.toList ++ s.jobs.toList.flatMap (·.timers s.agent)
  ((timers.map Instant.roundUp).filter (s.now < ·)).min?

/-- The jump of the clock to an instant at which something happens. -/
def advanceTo (s : Simulation) (time : Instant) (limit : Option Instant) : Simulation :=
  let s := { s with now := time }
  let s := s.wakeAll fun _ j => (j.timers s.agent).any fun t => t.roundUp = time
  if limit.any fun t => t.roundUp = time then { s with frontWoken := true } else s

/-- What the call that the host makes, or waits for, has come to. -/
def frontAnswer? (s : Simulation) : Option Answer :=
  match s.front with
  | .idle => none
  | .calling k | .awaiting k => s.jobs[k]?.bind (·.answer?)

/-- The host goes on: with its own call, if it makes one. -/
def proceedFront (s : Simulation) : Simulation :=
  let s := { s with frontWoken := false }
  match s.front with
  | .calling k => s.proceed k
  | .idle | .awaiting _ => s

/-- The host waits, for at most so many rounds. Nothing if its time is over before its call is
finished. -/
def attendWithin (limit : Option Instant) : (rounds : Nat) → Simulation →
    Option Answer × Simulation
  | 0, s => (none, s)
  | rounds + 1, s =>
    if s.frontWoken then
      let s := s.proceedFront
      match s.frontAnswer? with
      | some answer => (some answer, s)
      | none => if limit.any (·.reached s.now) then (none, s) else attendWithin limit rounds s
    else if s.line.isEmpty then
      match s.nextTime? limit with
      | some time => attendWithin limit rounds (s.advanceTo time limit)
      | none => (none, s)
    else attendWithin limit rounds s.settle

/-- The host does something that may have to wait, until its time is over. -/
def attend (s : Simulation) (front : Front) (limit : Option Instant) :
    Option Answer × Simulation :=
  let (answer, s) := attendWithin limit patience { s with front, frontWoken := true }
  (answer, { s with front := .idle, frontWoken := false })

end FleetAgent.Simulation
