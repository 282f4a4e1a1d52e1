import FleetAgent.Log.Record

/-!
# Signals that ask for a shutdown

The surroundings ask a process to end by one of three signals. A call that runs until then notes the
signal in the log.

## Main definitions

* `ShutdownSignal`: the signals.
* `ShutdownSignal.record`: the record of a signal that was received.
-/

namespace FleetAgent

/-- A signal that asks for a shutdown. -/
inductive ShutdownSignal where
  | interrupt
  | terminate
  | quit
deriving DecidableEq, Inhabited, Repr

namespace ShutdownSignal

/-- The name of the signal. -/
def name : ShutdownSignal → String
  | interrupt => "SIGINT"
  | terminate => "SIGTERM"
  | quit => "SIGQUIT"

/-- The target of the record of a signal. -/
def target : String := "fleetlink::core::shutdown"

/-- The record of a signal that was received. -/
def record (s : ShutdownSignal) : LogRecord :=
  ⟨.info, target, "shutdown signal received", [("signal", s.name)]⟩

end ShutdownSignal

end FleetAgent
