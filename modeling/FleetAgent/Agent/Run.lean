import FleetAgent.Agent.Basic

/-!
# Running

While the host runs, one call watches the termination notices. It returns when it is asked to, when
the agent is disabled, or when the controller asks for the end. After the loss of the session it
tries to open a new one, with growing delays, as the settings allow; once it has one, it starts the
heartbeats again and repeats what was reported on the old session.

## Main definitions

* `Recovery`, `Run`: the stages of a recovery, and of the call.
* `Agent.beginRun`: the first section of the call, which gets in line.
* `Concern`, `Agent.lookout`: what the call looks for, and what it finds.
* `Agent.onNotice`: the section after a termination notice.
* `Agent.beginAttempt`, `Agent.afterPause`, `Agent.resumeConnect`, `Agent.resumeReport`: the
  sections of a recovery.
* `Agent.endRun`: the end of the call.
-/

namespace FleetAgent

/-- The stages at which a recovery waits. -/
inductive Recovery where
  /-- The delay before an attempt. -/
  | pausing (delay : Duration)
  /-- The attempt to open a session. -/
  | connecting (stage : Connect)
  /-- The report that the server is running. -/
  | running (call : StatusCall)
  /-- The report that the server accepts players. -/
  | readying (call : StatusCall)
deriving DecidableEq, Repr

/-- The stages at which the call waits. -/
inductive Run where
  /-- It is in line. -/
  | queued
  /-- It watches the termination notices. -/
  | watching
  /-- It recovers from the loss of the session, at an attempt of a number. -/
  | recovering (cause : SessionError) (attempt : Nat) (stage : Recovery)
deriving DecidableEq, Repr

/-- What the call looks for. Which of them counts when there are several is not laid down, so it
looks for them in any order. -/
inductive Concern where
  /-- The shutdown that the call was given. -/
  | shutdown
  /-- The end of the agent. -/
  | stopping
  /-- A notice, or something that the recovery waits for. -/
  | work
deriving DecidableEq, Repr

/-- Everything that the call looks for, in its usual order. -/
def Concern.all : List Concern := [.shutdown, .stopping, .work]

/-- The result of the call, or of a part of it: it waits, or has ended. -/
abbrev RunProgress := Progress Run (Except RuntimeError Unit)

namespace Agent

/-- The first section of the call: it gets a number and gets in line. -/
def beginRun (a : Agent) : Nat × Agent :=
  (a.nextWatcher,
    { a with watchers := a.watchers ++ [a.nextWatcher], nextWatcher := a.nextWatcher + 1 })

/-- Whether the call of a number is first in line. -/
def isFirst (a : Agent) (ticket : Nat) : Bool := a.watchers.head? = some ticket

/-- The end of the call of a number, also when it is given up: the next one may watch. -/
def endRun (a : Agent) (ticket : Nat) : Turn Agent Unit :=
  { state := { a with watchers := a.watchers.erase ticket }
    effects := if a.isFirst ticket then [.signal .watchFree] else []
    result := () }

/-- The outcome of the call when the shutdown that it was given has come. -/
def onShutdown {κ : Type} (a : Agent) (shutdown : Except String Unit) :
    Turn Agent (Progress κ (Except RuntimeError Unit)) :=
  match shutdown with
  | .error reason => { state := a, result := .done (.error (.signal reason)) }
  | .ok () => a.requestShutdown.map fun _ => .done (.ok ())

/-- The reason for the end after attempts that did not succeed. -/
def gaveUp (cause : SessionError) (attempts : Nat) : String :=
  if attempts = 0 then cause.message
  else cause.message ++ "; gave up after " ++ toString attempts ++ " reconnect attempts"

/-- The section that begins an attempt of a number to recover: it is announced with its delay,
for which a number is drawn. -/
def beginAttempt (a : Agent) (cause : SessionError) (attempt draw : Nat) : Turn Agent RunProgress :=
  match a.config.reconnect.schedule attempt with
  | none =>
    { state := a, result := .done (.error (.terminated (gaveUp cause (attempt - 1)))) }
  | some backoff =>
    let delay := (backoff.delay? (attempt - 1) draw).getD backoff.longest
    { state := a
      effects := [.publish ((Event.of .reconnectScheduled).withAttempt attempt |>.withDelay delay
        |>.withReason cause.message)]
      result := .waiting (.recovering cause attempt (.pausing delay)) }

/-- What a call that runs finds first, if it looks for things in an order. -/
def lookout {κ : Type} (a : Agent) (order : List Concern) (shutdown : Option (Except String Unit))
    (work : Option (Turn Agent (Progress κ (Except RuntimeError Unit)))) :
    Option (Turn Agent (Progress κ (Except RuntimeError Unit))) :=
  (order ++ Concern.all).findSome? fun
    | .shutdown => shutdown.map a.onShutdown
    | .stopping => if a.isStopping then some { state := a, result := .done (.ok ()) } else none
    | .work => work

/-- The section of a call that watches for what the oldest termination notice asks of it. Nothing if
there is no notice. -/
def onNotice (a : Agent) (draw : Nat) : Option (Turn Agent RunProgress) :=
  a.notices.pop?.map fun
    | (.requested, notices) =>
      { state := { a with notices }
        result := .done (.error (.terminated "controller requested termination")) }
    | (.lost cause, notices) => { a with notices }.beginAttempt cause 1 draw

/-- The section that reports on a new session that the server accepts players. -/
def reportReady (a : Agent) (cause : SessionError) (attempt : Nat) : Turn Agent RunProgress :=
  match a.session.beginStatus (.ready true) with
  | .waiting call =>
    { state := a, result := .waiting (.recovering cause attempt (.readying call)) }
  | .done (.error e) =>
    (a.logging ⟨.warn, target, "failed to report ready after reconnect",
      [("error", e.message)]⟩).map fun _ => .waiting .watching
  | .done (.ok ()) => { state := a, result := .waiting .watching }

/-- The section that repeats the report that the server accepts players, if that was the last. -/
def repeatReady (a : Agent) (cause : SessionError) (attempt : Nat) : Turn Agent RunProgress :=
  if a.cloud.ready then a.reportReady cause attempt
  else { state := a, result := .waiting .watching }

/-- The section that reports on a new session that the server is running. It goes on at once if that
fails. -/
def reportRunning {κ ρ : Type} (a : Agent) (stage : StatusCall → κ)
    (next : Agent → Turn Agent (Progress κ ρ)) : Turn Agent (Progress κ ρ) :=
  match a.session.beginStatus .running with
  | .waiting call => { state := a, result := .waiting (stage call) }
  | .done (.error e) =>
    (a.logging ⟨.warn, target, "failed to report running after reconnect",
      [("error", e.message)]⟩).andThen fun _ a => next a
  | .done (.ok ()) => next a

/-- The section that repeats the reports on a new session, if the host has been enabled. -/
def repeatReports (a : Agent) (cause : SessionError) (attempt : Nat) : Turn Agent RunProgress :=
  if a.isEnabled then
    a.reportRunning (.recovering cause attempt <| .running ·) (·.repeatReady cause attempt)
  else { state := a, result := .waiting .watching }

/-- The section after an attempt of a number has opened a session: the heartbeats are started
again. -/
def reestablish (a : Agent) (attempt : Nat) (session : String) : Turn Agent Bool :=
  (a.logging ⟨.info, target, "session re-established",
    [("session", session), ("attempt", toString attempt)]⟩).andThen fun _ a =>
    a.onScheduler Scheduler.start

/-- What a part of an attempt to open a session means for the recovery. -/
def continueConnect (cause : SessionError) (attempt draw : Nat)
    (t : Turn Agent (Progress Connect (Except SessionError String))) : Turn Agent RunProgress :=
  t.andThen fun progress a => match progress with
    | .waiting stage =>
      { state := a, result := .waiting (.recovering cause attempt (.connecting stage)) }
    | .done (.ok session) =>
      (a.reestablish attempt session).andThen fun _ a => a.repeatReports cause attempt
    | .done (.error (.connectionFailed e)) =>
      (a.logging ⟨.debug, target, "reconnect attempt failed",
        [("attempt", toString attempt), ("error", e.message)]⟩).andThen fun _ a =>
        a.beginAttempt cause (attempt + 1) draw
    | .done (.error e) => { state := a, result := .done (.error (.session e)) }

/-- The section after the delay before an attempt: a closed session is brought back to the start
first. -/
def afterPause (a : Agent) (cause : SessionError) (attempt draw : Nat) : Turn Agent RunProgress :=
  (if a.session.state = .closed then a.onSession Session.reset
    else { state := a, result := .ok () }).andThen fun outcome a =>
    match outcome with
    | .error e => { state := a, result := .done (.error (.session e)) }
    | .ok () => continueConnect cause attempt draw (a.onSession Session.beginConnect)

/-- The section of an attempt after an answer of the controller. -/
def resumeConnect (a : Agent) (cause : SessionError) (attempt draw : Nat) (stage : Connect)
    (answer : (stage.request a.session.host).Answer) : Turn Agent RunProgress :=
  continueConnect cause attempt draw
    ((Connect.resume a.session stage answer).within fun session => { a with session })

/-- The section after the answer to a repeated report; a failure is only logged. After the first
report the next one follows, then the call watches again. -/
def finishReport {κ ρ : Type} (a : Agent) (call : StatusCall) (answer : Except ClientError Unit)
    (watching : κ) (next : Agent → Turn Agent (Progress κ ρ)) : Turn Agent (Progress κ ρ) :=
  (a.onCloud fun cloud => call.finish cloud answer).andThen fun outcome a =>
    let failed (message : String) : Turn Agent Unit := match outcome with
      | .ok () => { state := a, result := () }
      | .error e => a.logging ⟨.warn, target, message, [("error", e.message)]⟩
    match call.report with
    | .running =>
      (failed "failed to report running after reconnect").andThen fun _ a => next a
    | .ready _ | .stop =>
      (failed "failed to report ready after reconnect").map fun _ => .waiting watching

/-- The section after the answer to a repeated report, up to the next one. -/
def resumeReport (a : Agent) (cause : SessionError) (attempt : Nat) (call : StatusCall)
    (answer : Except ClientError Unit) : Turn Agent RunProgress :=
  a.finishReport call answer .watching (·.repeatReady cause attempt)

end Agent

end FleetAgent
