import FleetAgent.Event
import FleetAgent.Log.Record

/-!
# The log writer

The log writer is a subscriber that turns every event into one log record.

## Main definitions

* `LogWriter.name` and `LogWriter.capacity`: its name and the capacity of its queue.
* `LogWriter.record`: the record of an event.
-/

namespace FleetAgent.LogWriter

/-- The name of the log writer. -/
def name : String := "LogWriter"

/-- The capacity of the queue of the log writer. -/
def capacity : Nat := 1024

/-- The target of all its records. -/
def target : String := "fleetlink"

/-- The record of an event. A detail that the event lacks is shown as such where it is a number; a
session is then shown as `-`, a reason as nothing. -/
def record (e : Event) : LogRecord :=
  let session := ("session", e.session.getD "-")
  let reason := ("reason", e.reason.getD "")
  let heart := ("heart", e.source.getD "-")
  let subscriber := ("subscriber", e.source.getD "unknown")
  let failures := ("failures", LogRecord.optional e.failures)
  let sequence := ("sequence", LogRecord.optional e.sequence)
  match e.kind with
  | .sessionConnecting => ⟨.info, target, "connecting to controller", []⟩
  | .sessionConnected => ⟨.info, target, "session connected", [session]⟩
  | .connectFailed => ⟨.error, target, "connect failed", [reason]⟩
  | .sessionDegraded => ⟨.warn, target, "session degraded", [session, failures]⟩
  | .sessionRecovered => ⟨.info, target, "session recovered", [session, sequence]⟩
  | .sessionLost => ⟨.error, target, "session lost", [session, failures, reason]⟩
  | .sessionClosed => ⟨.info, target, "session closed", [session]⟩
  | .heartbeatAcked => ⟨.debug, target, "heartbeat acknowledged", [session, sequence]⟩
  | .heartbeatMissed =>
    ⟨.warn, target, "heartbeat missed", [session, sequence, failures, reason]⟩
  | .configUpdated =>
    ⟨.info, target, "configuration update received",
      [session, ("size", LogRecord.optional e.size)]⟩
  | .terminateRequested =>
    ⟨.warn, target, "controller requested termination", [session, sequence]⟩
  | .schedulerStarted =>
    ⟨.info, target, "heart started",
      [heart, ("interval_ms", LogRecord.optional e.intervalMs)]⟩
  | .schedulerStopped => ⟨.info, target, "heart stopped", [heart, reason]⟩
  | .reconnectScheduled =>
    ⟨.warn, target, "reconnect scheduled",
      [("attempt", LogRecord.optional e.attempt), ("delay_ms", LogRecord.optional e.delayMs),
        reason]⟩
  | .shutdownRequested => ⟨.info, target, "shutdown requested", []⟩
  | .subscriberOverflow => ⟨.warn, target, "subscriber overflow", [subscriber, reason]⟩
  | .subscriberPanicked => ⟨.error, target, "subscriber panicked", [subscriber, reason]⟩

end FleetAgent.LogWriter
