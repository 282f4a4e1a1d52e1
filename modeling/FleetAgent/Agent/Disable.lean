import FleetAgent.Agent.Basic

/-!
# Disabling

When the host shuts down, the agent tells all its calls to come to an end, waits for the heartbeat
loop, takes the session down, and waits until the subscribers have processed what is left. It waits
no longer than the grace period each time, and says so in the log when that is over.

## Main definitions

* `Disable`: the stages at which disabling waits.
* `Agent.beginDisable`, `Agent.resumeDisable`: the sections of disabling.
-/

namespace FleetAgent

/-- The stages at which disabling waits. -/
inductive Disable where
  /-- The end of the heartbeat loop of a number. -/
  | joining (loop : Nat)
  /-- The end of the listener. -/
  | flushing
deriving DecidableEq, Repr

namespace Agent

/-- The end of a wait: a record in the log if the time for it has passed. -/
def afterGrace (a : Agent) (inTime : Bool) (message : String) : Turn Agent Unit :=
  if inTime then { state := a, result := () }
  else a.logging ⟨.warn, target, message, [("grace", a.config.grace.brief)]⟩

/-- The section that tells the listener to forward what is left, unless somebody has already
waited for it. -/
def beginFlush (a : Agent) : Turn Agent (Progress Disable (Except RuntimeError Unit)) :=
  if a.holdsListener then
    { state := { a with holdsListener := false, isFlushing := true }
      effects := [.signal .flush]
      result := .waiting .flushing }
  else { state := a, result := .done (.ok ()) }

/-- The section after the end of the heartbeat loop, or of the time for it. -/
def afterJoin (a : Agent) (inTime : Bool) :
    Turn Agent (Progress Disable (Except RuntimeError Unit)) :=
  (a.afterGrace inTime "heartbeat still in flight after grace period").andThen fun _ a =>
    (a.onSession Session.disconnect).andThen fun _ a => a.beginFlush

/-- The first section of disabling. -/
def beginDisable (a : Agent) : Turn Agent (Progress Disable (Except RuntimeError Unit)) :=
  a.requestShutdown.andThen fun _ a =>
    (a.onScheduler Scheduler.stop).andThen fun _ a =>
      (a.onScheduler Scheduler.beginJoin).andThen fun progress a =>
        match progress with
        | .waiting loop => { state := a, result := .waiting (.joining loop) }
        | .done inTime => a.afterJoin inTime

/-- The section of disabling after a wait, which ended in time or did not. -/
def resumeDisable (a : Agent) (stage : Disable) (inTime : Bool) :
    Turn Agent (Progress Disable (Except RuntimeError Unit)) :=
  match stage with
  | .joining _ => a.afterJoin inTime
  | .flushing =>
    (a.afterGrace inTime "subscribers still busy after grace period").map fun _ => .done (.ok ())

/-- Whether what the stage waits for has happened. -/
def disableIsDue (a : Agent) : Disable → Bool
  | .joining loop => a.scheduler.hasEnded loop
  | .flushing => a.listenerEnded

end Agent

end FleetAgent
