import FleetAgent.Agent.Activity

/-!
# Gates

Whoever looks at the session or changes it takes its lock for that, and gives it back at once. So a
section that takes the lock several times can be overtaken in between: other tasks may have come
first whenever it is about to take the lock again. The same holds when a call that runs turns to a
recovery, where it looks at everything else once more. Such a place between two parts of a section
is a *gate*.

`Agent.begin` and `Agent.resume` are the sections in which nobody comes first at a gate. Here they
are given in their parts, each from one place, at a wait or at a gate, to the next.

## Main definitions

* `Gate`, `Place`: the gates, and the places at which a task can be.
* `Agent.beginPart`: the first part of a call of the host.
* `Agent.resumePart`: the part of an activity after a wait.
* `Agent.gatePart`: the part behind a gate.
-/

namespace FleetAgent

/-- How far a session has been taken down. -/
inductive Teardown where
  /-- The open session is to be taken away. -/
  | begin
  /-- The manager is to be closed; the session had an identifier, if there was one. -/
  | finish (session : Option String)
deriving DecidableEq, Repr

/-- What a recovery is about to do. -/
inductive Prospect where
  /-- It begins its first attempt. -/
  | starting
  /-- It brings the closed manager back to the start. -/
  | resetting
  /-- It opens a session. -/
  | opening
  /-- It reports that the server is running. -/
  | running
  /-- It reports that the server accepts players. -/
  | readying
deriving DecidableEq, Repr

/-- The gates. -/
inductive Gate where
  /-- Loading opens a session. -/
  | load
  /-- Loading takes the session down again, as another handle was registered. -/
  | yield (e : RegistrationError) (stage : Teardown)
  /-- Loading then brings the manager back to the start. -/
  | reset (e : RegistrationError)
  /-- Enabling reports that the server accepts players. -/
  | enable
  /-- Disabling takes the session down. -/
  | disable (stage : Teardown)
  /-- The host takes the session down itself. -/
  | disconnect (stage : Teardown)
  /-- A call that runs, of a number, goes on with its recovery at an attempt. -/
  | run (ticket : Nat) (cause : SessionError) (attempt : Nat) (stage : Prospect)
  /-- The heartbeat loop of a number beats. -/
  | beat (loop : Nat)
deriving DecidableEq, Repr

/-- Where a task can be between two parts. -/
inductive Place where
  /-- At a wait. -/
  | wait (w : Activity)
  /-- At a gate. -/
  | gate (g : Gate)
deriving DecidableEq, Repr

/-- The outcome of a part. -/
abbrev PartTurn := Turn Agent (Progress Place Outcome)

/-- The outcome of a part of a call that runs, before its end. -/
abbrev RunPart := Turn Agent (Progress Place (Except RuntimeError Unit))

/-- The parts of taking a session down. -/
def Session.takeDown (s : Session) : Teardown → Turn Session (Progress Teardown Unit)
  | .begin => s.beginDisconnect.map (·.map .finish id)
  | .finish session => (s.finishDisconnect session).map .done

/-- The outcome of loading that has given way to another handle, by what the last reset of the
manager has come to. -/
def Outcome.ofReset (e : RegistrationError) : Except SessionError Unit → Outcome
  | .ok () => .failed (.registration e)
  | .error e' => .failed (.session e')

namespace Agent

/-- A section without a gate as a part. -/
def ungated (t : ActivityTurn) : PartTurn := t.map (·.map .wait id)

/-- A section without a gate of a call that runs, of a number. -/
def ungatedRun (ticket : Nat) (t : Turn Agent RunProgress) : RunPart :=
  t.map (·.map (.wait <| .run ticket ·) id)

/-- A part of taking the session down, with what follows when that is done. -/
def takeDownPart (a : Agent) (stage : Teardown) (gate : Teardown → Gate) (next : Agent → PartTurn) :
    PartTurn :=
  (a.onSession (·.takeDown stage)).andThen fun progress a => match progress with
    | .waiting stage => { state := a, result := .waiting (.gate (gate stage)) }
    | .done () => next a

/-! ### Loading and enabling -/

/-- What a part of an attempt to open a session means for loading. -/
def loadPart (t : Turn Agent (Progress Connect (Except SessionError String))) : PartTurn :=
  t.andThen fun progress a => match progress with
    | .waiting stage => { state := a, result := .waiting (.wait (.load stage)) }
    | .done (.error e) => { state := a, result := .done (.failed (.session e)) }
    | .done (.ok session) => match a.registration.setup .own with
      | .error e => { state := a, result := .waiting (.gate (.yield e .begin)) }
      | .ok _ => ungated (immediate (a.finishLoad (.ok session)) (.ofUnit id))

/-- The part of enabling after an answer of the controller. -/
def enablePart (a : Agent) (stage : Enable) (answer : Except ClientError Unit) : PartTurn :=
  (a.onCloud fun cloud => stage.call.finish cloud answer).andThen fun outcome a =>
    match stage, outcome with
    | _, .error e => { state := a, result := .done (.failed (.session e)) }
    | .readying _, .ok () => { state := a, result := .done .finished }
    | .running _, .ok () =>
      let a := { a with isEnabled := true }
      { state := a
        result := if a.cloud.autoReady then .waiting (.gate .enable) else .done .finished }

/-! ### Disabling -/

/-- The part of disabling after the end of the heartbeat loop, or of the time for it. -/
def joinedPart (a : Agent) (inTime : Bool) : PartTurn :=
  (a.afterGrace inTime "heartbeat still in flight after grace period").map fun _ =>
    .waiting (.gate (.disable .begin))

/-- The first part of disabling. -/
def disablePart (a : Agent) : PartTurn :=
  a.requestShutdown.andThen fun _ a =>
    (a.onScheduler Scheduler.stop).andThen fun _ a =>
      (a.onScheduler Scheduler.beginJoin).andThen fun progress a => match progress with
        | .waiting loop => { state := a, result := .waiting (.wait (.disable (.joining loop))) }
        | .done inTime => a.joinedPart inTime

/-! ### Running -/

/-- The part of a call that watches for what the oldest termination notice asks of it. -/
def noticePart (a : Agent) (draw ticket : Nat) : Option RunPart :=
  match a.notices.pop? with
  | some (.lost cause, notices) =>
    some { state := { a with notices }, result := .waiting (.gate (.run ticket cause 1 .starting)) }
  | some (.requested, _) | none => (a.onNotice draw).map (ungatedRun ticket)

/-- What a part of an attempt to open a session means for a recovery. -/
def attemptPart (ticket : Nat) (cause : SessionError) (attempt draw : Nat)
    (t : Turn Agent (Progress Connect (Except SessionError String))) : RunPart :=
  t.andThen fun progress a => match progress with
    | .done (.ok session) => (a.reestablish attempt session).andThen fun _ a =>
      { state := a
        result := .waiting <| if a.isEnabled then .gate (.run ticket cause attempt .running)
          else .wait (.run ticket .watching) }
    | progress =>
      ungatedRun ticket (continueConnect cause attempt draw { state := a, result := progress })

/-- The part of a recovery that comes to the report that the server accepts players, if that was
the last. -/
def readyPart (a : Agent) (ticket : Nat) (cause : SessionError) (attempt : Nat) : RunPart :=
  { state := a
    result := .waiting <| if a.cloud.ready then .gate (.run ticket cause attempt .readying)
      else .wait (.run ticket .watching) }

/-- The part of a recovery after a wait; nothing if it has to wait on. -/
def recoveryPart (a : Agent) (d : Delivery) (ticket : Nat) (cause : SessionError) (attempt : Nat) :
    Recovery → Option RunPart
  | .pausing _ =>
    if d.elapsed then
      some
        { state := a
          result := .waiting <| .gate <| .run ticket cause attempt <|
            if a.session.state = .closed then .resetting else .opening }
    else none
  | .connecting stage => (d.reply (stage.request a.session.host)).map fun answer =>
    attemptPart ticket cause attempt d.draw
      ((Connect.resume a.session stage answer).within fun session => { a with session })
  | .running call | .readying call => (d.reply call.request).map fun answer =>
    a.finishReport call (call.answer answer) (.wait (.run ticket .watching))
      (·.readyPart ticket cause attempt)

/-- The part of a recovery behind a gate. -/
def prospectPart (a : Agent) (draw ticket : Nat) (cause : SessionError) (attempt : Nat) :
    Prospect → RunPart
  | .starting => ungatedRun ticket (a.beginAttempt cause attempt draw)
  | .resetting => (a.onSession Session.reset).map fun
    | .ok () => .waiting (.gate (.run ticket cause attempt .opening))
    | .error e => .done (.error (.session e))
  | .opening => attemptPart ticket cause attempt draw (a.onSession Session.beginConnect)
  | .running =>
    a.reportRunning (.wait <| .run ticket <| .recovering cause attempt <| .running ·)
      (·.readyPart ticket cause attempt)
  | .readying => ungatedRun ticket (a.reportReady cause attempt)

/-- The part of a call that runs after a wait; nothing if it has to wait on. -/
def runPart (a : Agent) (d : Delivery) (ticket : Nat) : Run → Option RunPart
  | .queued => none
  | .watching => a.lookout d.order d.shutdown (a.noticePart d.draw ticket)
  | .recovering cause attempt stage =>
    a.lookout d.order d.shutdown (a.recoveryPart d ticket cause attempt stage)

/-- The part of a call that runs, with its end if it has come. -/
def closePart (ticket : Nat) (t : RunPart) : PartTurn :=
  t.andThen fun progress a => match progress with
    | .waiting place => { state := a, result := .waiting place }
    | .done result => (a.endRun ticket).map fun _ => .done (.ofUnit id result)

/-! ### Heartbeat loops -/

/-- A part of a heartbeat loop outside its heartbeats; nothing if it has to wait. -/
def advancePart (a : Agent) (k : Nat) (now : Instant) : Option PartTurn :=
  let t := a.onScheduler (·.advance k now)
  match t.result, a.heart with
  | .beat, .session => some (t.map fun _ => .waiting (.gate (.beat k)))
  | _, _ => (a.advanceLoop k now).map ungated

/-- The part of a heartbeat loop that begins a heartbeat of the session. -/
def beatPart (a : Agent) (k : Nat) : PartTurn :=
  (a.onSession Session.beginBeat).andThen fun progress a => match progress with
    | .waiting beat =>
      { state := a, result := .waiting (.wait (.loop k (some (.session beat)))) }
    | .done outcome => ungated (a.loopAfterBeat k outcome)

/-! ### All parts -/

/-- The first part of a call of the host. -/
def beginPart (a : Agent) : Operation → PartTurn
  | .load =>
    if a.registration.isRegistered then
      { state := a, result := .done (.failed (.registration .alreadyRegistered)) }
    else { state := a, result := .waiting (.gate .load) }
  | .disable => a.disablePart
  | .disconnect =>
    a.takeDownPart .begin .disconnect fun a => { state := a, result := .done .finished }
  | op => ungated (a.begin op)

/-- The part of an activity after a wait; nothing if it has to wait on. -/
def resumePart (a : Agent) (d : Delivery) : Activity → Option PartTurn
  | .load stage => (d.reply (stage.request a.session.host)).map fun answer =>
    loadPart ((Connect.resume a.session stage answer).within fun session => { a with session })
  | .enable stage => (d.reply stage.call.request).map fun answer =>
    a.enablePart stage (stage.call.answer answer)
  | .disable (.joining loop) =>
    if a.scheduler.hasEnded loop then some (a.joinedPart true)
    else if d.elapsed then some (a.joinedPart false)
    else none
  | .run ticket .queued => (a.resume d (.run ticket .queued)).map ungated
  | .run ticket stage => (a.runPart d ticket stage).map (closePart ticket)
  | .loop k none => a.advancePart k d.now
  | w => (a.resume d w).map ungated

/-- The part behind a gate. -/
def passPart (a : Agent) (draw : Nat) : Gate → PartTurn
  | .load => loadPart (a.onSession Session.beginConnect)
  | .yield e stage => a.takeDownPart stage (.yield e) fun a =>
    { state := a, result := .waiting (.gate (.reset e)) }
  | .reset e => ungated (immediate (a.onSession Session.reset) (.ofReset e))
  | .enable => ungated
    { state := a
      result := (a.session.beginStatus (.ready true)).map (.enable <| .readying ·)
        (.ofUnit .session) }
  | .disable stage => a.takeDownPart stage .disable fun a =>
    ungated (a.beginFlush.map (·.map .disable (.ofUnit id)))
  | .disconnect stage => a.takeDownPart stage .disconnect fun a =>
    { state := a, result := .done .finished }
  | .run ticket cause attempt stage =>
    closePart ticket (a.prospectPart draw ticket cause attempt stage)
  | .beat k => a.beatPart k

/-- The part behind a gate after what a call that runs looks for there. -/
def gatePart (a : Agent) (d : Delivery) : Gate → Option PartTurn
  | .run ticket cause attempt stage =>
    (a.lookout d.order d.shutdown (some (a.prospectPart d.draw ticket cause attempt stage))).map
      (closePart ticket)
  | g => some (a.passPart d.draw g)

/-- The next part of a task; nothing if it has to wait on. -/
def partAt (a : Agent) (d : Delivery) : Place → Option PartTurn
  | .wait w => a.resumePart d w
  | .gate g => a.gatePart d g

end Agent

end FleetAgent
