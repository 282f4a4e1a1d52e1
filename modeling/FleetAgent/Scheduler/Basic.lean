import FleetAgent.Effect
import FleetAgent.Scheduler.Notices
import FleetAgent.Scheduler.Ticker
import FleetAgent.Session.Beat

/-!
# The heartbeat scheduler

A scheduler lets a heart beat once every period in a loop of its own. A loop that is started waits
until the one before it has ended, so two heartbeats never overlap; a loop that is told to end does
so before its next heartbeat. A heartbeat that brings the order to end, or fails for good, ends its
loop and leaves a termination notice.

## Main definitions

* `LoopPhase`, `Loop`: what a heartbeat loop is doing, and whether it is told to end.
* `Scheduler`: all loops that were ever started, and the one that counts as the present one.
* `Scheduler.start`, `Scheduler.stop`, `Scheduler.beginJoin`, `Scheduler.isRunning`: the operations
  of the host.
* `Scheduler.advance`, `Scheduler.finishBeat`, `Scheduler.breakDown`: the sections of a loop.
-/

namespace FleetAgent

/-- How a heartbeat loop ended. -/
inductive Ending where
  /-- It was told to end. -/
  | stopped
  /-- The controller asked for it. -/
  | requested
  /-- Its heart failed for good. -/
  | lost
  /-- Its heart broke down. -/
  | broken
deriving DecidableEq, Repr

/-- What a heartbeat loop is doing. -/
inductive LoopPhase where
  /-- It waits for the end of the loop before it, if there is one. -/
  | queued (previous : Option Nat)
  /-- It waits for the next tick. -/
  | ticking (ticker : Ticker)
  /-- It waits for the outcome of a heartbeat. -/
  | beating (ticker : Ticker)
  /-- It has ended. -/
  | ended (how : Ending)
deriving DecidableEq, Repr

/-- A heartbeat loop. -/
structure Loop where
  /-- What it is doing. -/
  phase : LoopPhase
  /-- Whether it is told to end. -/
  isCancelled : Bool := false
deriving DecidableEq, Repr

/-- Whether the loop has ended. -/
def Loop.hasEnded (l : Loop) : Bool :=
  match l.phase with
  | .ended _ => true
  | _ => false

/-- A scheduler of heartbeats. -/
structure Scheduler where
  /-- The name of the heart. -/
  heart : String
  /-- The time between two heartbeats. -/
  period : Duration
  /-- All loops ever started; the number of a loop is its place. -/
  loops : List Loop := []
  /-- The number of the present loop. -/
  slot : Option Nat := none
  /-- Whether a heartbeat waits for its outcome. -/
  inFlight : Bool := false
deriving DecidableEq, Inhabited, Repr

namespace Scheduler

/-- The shortest period. -/
def shortestPeriod : Duration := .ofMillis 1

/-- A scheduler without a loop; a period below one millisecond counts as one. -/
def make (heart : String) (period : Duration) : Scheduler :=
  { heart, period := period.longer shortestPeriod }

/-- The target of the log records of the scheduler. -/
def target : String := "fleetlink::core::scheduler"

/-- Whether the loop of a number is told to end. -/
def isCancelled (s : Scheduler) (k : Nat) : Bool := (s.loops[k]?.map (·.isCancelled)).getD true

/-- Whether the loop of a number has ended. -/
def hasEnded (s : Scheduler) (k : Nat) : Bool := (s.loops[k]?.map (·.hasEnded)).getD true

/-- The scheduler with one of its loops changed. -/
def modifyLoop (s : Scheduler) (k : Nat) (f : Loop → Loop) : Scheduler :=
  { s with loops := s.loops.modify k f }

/-- Tells the loop of a number to end. -/
def cancelLoop (s : Scheduler) (k : Nat) : Turn Scheduler Unit :=
  { state := s.modifyLoop k ({ · with isCancelled := true })
    effects := if s.isCancelled k then [] else [.signal (.cancelled k)]
    result := () }

/-! ### Operations of the host -/

/-- Starts a loop, unless the present one has not been told to end. -/
def start (s : Scheduler) : Turn Scheduler Bool :=
  if s.slot.any (!s.isCancelled ·) then { state := s, result := false }
  else
    { state :=
        { s with
          loops := s.loops ++ [{ phase := .queued s.slot }]
          slot := some s.loops.length }
      effects := [
        .spawn s.loops.length,
        .publish ((Event.of .schedulerStarted).withSource s.heart |>.withInterval s.period)]
      result := true }

/-- Tells the present loop to end. -/
def stop (s : Scheduler) : Turn Scheduler Unit :=
  match s.slot with
  | some k => s.cancelLoop k
  | none => { state := s, result := () }

/-- Whether there is a present loop that is neither told to end nor has ended. -/
def isRunning (s : Scheduler) : Bool :=
  s.slot.any fun k => !s.isCancelled k && !s.hasEnded k

/-- The first section of waiting for the end of the present loop: it is told to end, and is the
present one no longer. Waiting ends with the loop, or when the time for it has passed. -/
def beginJoin (s : Scheduler) : Turn Scheduler (Progress Nat Bool) :=
  match s.slot with
  | none => { state := s, result := .done true }
  | some k => ({ s with slot := none }.cancelLoop k).map fun _ => .waiting k

/-! ### Sections of a loop -/

/-- What a loop does after a section. -/
inductive LoopMove where
  /-- It goes on at once. -/
  | again
  /-- It waits. -/
  | blocked
  /-- It lets the heart beat. -/
  | beat
  /-- It has ended. -/
  | ended
deriving DecidableEq, Repr

/-- The end of a loop, which is told to all who wait for it. -/
def endLoop (s : Scheduler) (k : Nat) (how : Ending) : Scheduler :=
  s.modifyLoop k fun l => { l with phase := .ended how }

/-- The event at the end of a loop. -/
def stoppedEvent (s : Scheduler) (reason : String) : Event :=
  (Event.of .schedulerStopped).withSource s.heart |>.withReason reason

/-- A section of the loop of a number outside its heartbeats. That it is told to end counts before
a tick that is due. -/
def advance (s : Scheduler) (k : Nat) (now : Instant) : Turn Scheduler LoopMove :=
  match s.loops[k]? with
  | none => { state := s, result := .ended }
  | some l => match l.phase with
    | .queued previous =>
      if previous.all s.hasEnded then
        { state := s.modifyLoop k ({ · with phase := .ticking (.start now s.period) })
          result := .again }
      else { state := s, result := .blocked }
    | .ticking ticker =>
      if l.isCancelled then
        { state := s.endLoop k .stopped
          effects := [.publish (s.stoppedEvent "stopped"), .signal (.loopEnded k)]
          result := .ended }
      else if ticker.isDue now then
        { state :=
            { s.modifyLoop k ({ · with phase := .beating (ticker.take now) }) with
              inFlight := true }
          result := .beat }
      else { state := s, result := .blocked }
    | .beating _ => { state := s, result := .blocked }
    | .ended _ => { state := s, result := .ended }

/-- The end of a loop by itself, with a termination notice that is offered to the queue. -/
def terminate (s : Scheduler) (q : NoticeQueue) (k : Nat) (t : Termination) :
    Turn (Scheduler × NoticeQueue) LoopMove :=
  let s := s.modifyLoop k ({ · with isCancelled := true })
  let heart := ("heart", s.heart)
  let (how, reason, before) := match t with
    | .requested => (Ending.requested, "terminate requested", [])
    | .lost e => (Ending.lost, "session lost",
        [Effect.log ⟨.debug, target, "heartbeat loop ending", [heart, ("error", e.message)]⟩])
  let (offer, q) := q.offer t
  let told : Effect := match offer with
    | .sent => .signal .notice
    | .full => .log ⟨.warn, target,
        "termination notice dropped, host is not draining notices",
        [heart, ("notice", t.inspect)]⟩
    | .closed => .log ⟨.debug, target, "no host listening for termination notices", [heart]⟩
  { state := (s.endLoop k how, q)
    effects := before ++
      [told, .publish (s.stoppedEvent reason), .signal (.loopEnded k)]
    result := .ended }

/-- The section of a loop after the outcome of a heartbeat. -/
def finishBeat (s : Scheduler) (q : NoticeQueue) (k : Nat)
    (outcome : Except SessionError BeatOutcome) : Turn (Scheduler × NoticeQueue) LoopMove :=
  let s := { s with inFlight := false }
  match outcome with
  | .ok (.acked _ .terminate) => s.terminate q k .requested
  | .ok _ =>
    { state :=
        (s.modifyLoop k fun l => match l.phase with
          | .beating ticker => { l with phase := .ticking ticker }
          | _ => l, q)
      result := .again }
  | .error e => s.terminate q k (.lost e)

/-- The end of a loop whose heart broke down in a heartbeat. Nothing else is done, so the heartbeat
counts as waiting for its outcome for good. -/
def breakDown (s : Scheduler) (k : Nat) : Turn Scheduler LoopMove :=
  { state := s.endLoop k .broken
    effects := [.signal (.loopEnded k)]
    result := .ended }

end Scheduler

end FleetAgent
