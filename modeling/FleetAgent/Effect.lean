import FleetAgent.Event
import FleetAgent.Log.Record

/-!
# Effects of atomic sections

The parts of an agent act in atomic sections: between two waits of a call nothing else runs. A
section takes a state to a state with a result, and on its way it publishes events, writes log
records, and lets other calls go on that were waiting for it. These effects are listed in their
order.

## Main definitions

* `Signal`: what a call may be waiting for.
* `Effect`: what a section does besides changing its state.
* `Turn`: the outcome of a section.
* `Progress`: whether a call is finished or waits at some stage.
-/

namespace FleetAgent

/-- What a call may be waiting for. -/
inductive Signal where
  /-- An event was published. -/
  | published
  /-- The agent is told to shut down. -/
  | stopping
  /-- The heartbeat loop of a number is told to end. -/
  | cancelled (loop : Nat)
  /-- The heartbeat loop of a number has ended. -/
  | loopEnded (loop : Nat)
  /-- A termination notice has arrived, or none can arrive any more. -/
  | notice
  /-- The next call may watch the termination notices. -/
  | watchFree
  /-- The listener is told to forward what is left and to end. -/
  | flush
  /-- The listener has ended. -/
  | listenerEnded
  /-- The queue of a subscriber has got an event, or gets none any more. -/
  | queued (subscriber : Nat)
  /-- The worker of a subscriber has ended. -/
  | workerEnded (subscriber : Nat)
deriving DecidableEq, Repr

/-- What a section does besides changing its state. -/
inductive Effect where
  /-- An event is published. -/
  | publish (e : Event)
  /-- A log record is written. -/
  | log (r : LogRecord)
  /-- A subscriber begins to process an event. -/
  | handled (subscriber : Nat) (n : Notice)
  /-- Calls that wait for the signal can go on. -/
  | signal (s : Signal)
  /-- The heartbeat loop of a number is started as a task. -/
  | spawn (loop : Nat)
deriving DecidableEq, Repr

/-- The outcome of an atomic section. -/
structure Turn (σ ρ : Type) where
  /-- The state after the section. -/
  state : σ
  /-- The effects of the section, in their order. -/
  effects : List Effect := []
  /-- The result of the section. -/
  result : ρ

namespace Turn

variable {σ τ ρ υ : Type}

/-- The outcome as one on a larger state, which holds the state in one of its parts. -/
def within (t : Turn σ ρ) (put : σ → τ) : Turn τ ρ :=
  { state := put t.state, effects := t.effects, result := t.result }

/-- The outcome with another result. -/
def map (t : Turn σ ρ) (f : ρ → υ) : Turn σ υ :=
  { state := t.state, effects := t.effects, result := f t.result }

/-- Two sections without a wait between them. -/
def andThen (t : Turn σ ρ) (next : ρ → σ → Turn σ υ) : Turn σ υ :=
  let u := next t.result t.state
  { state := u.state, effects := t.effects ++ u.effects, result := u.result }

end Turn

/-- How far a call has come. -/
inductive Progress (κ ρ : Type) where
  /-- The call waits at a stage. -/
  | waiting (stage : κ)
  /-- The call is finished. -/
  | done (result : ρ)

namespace Progress

variable {κ κ' ρ ρ' : Type}

/-- The progress of a call that is part of a larger one. -/
def map (p : Progress κ ρ) (stage : κ → κ') (result : ρ → ρ') : Progress κ' ρ' :=
  match p with
  | waiting k => waiting (stage k)
  | done r => done (result r)

/-- The stage at which the call waits, unless it is finished. -/
def stage? : Progress κ ρ → Option κ
  | waiting k => some k
  | done _ => none

end Progress

end FleetAgent
