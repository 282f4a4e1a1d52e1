import FleetAgent.Error
import FleetAgent.Policy.Reconnect

/-!
# The configuration of an agent

## Main definitions

* `AgentConfig`: the settings, with their defaults.
* `AgentConfig.validate`: the conditions that the session relies on.
* `SessionParams`: the part of the settings that the session needs.
-/

namespace FleetAgent

/-- The settings of an agent. -/
structure AgentConfig where
  /-- The time between two heartbeats. -/
  interval : Duration := .ofSeconds 10
  /-- The time within which a call must be answered; none stands for the interval. -/
  rpcTimeout : Duration := .ofSeconds 5
  /-- The number of failures in a row from which the session counts as degraded. -/
  degradeAfter : Nat := 3
  /-- The number of failures in a row at which the session is given up. -/
  loseAfter : Nat := 6
  /-- The reaction to the loss of the session. -/
  reconnect : Reconnect := .never
  /-- How long a shutdown waits for a heartbeat in flight, and then for the subscribers. -/
  grace : Duration := .ofSeconds 5
  /-- The number of events that the bus retains. -/
  busCapacity : Nat := 1024
  /-- Whether readiness is reported as soon as the host is enabled. -/
  autoReady : Bool := true
deriving Inhabited

namespace AgentConfig

/-- The time within which a call must be answered: never longer than the interval. -/
def effectiveRpcTimeout (c : AgentConfig) : Duration :=
  if c.rpcTimeout = .zero then c.interval else c.rpcTimeout.shorter c.interval

/-- The capacity of the bus, at least one event. -/
def clampedBusCapacity (c : AgentConfig) : Nat := max c.busCapacity 1

/-- Refuses an interval of zero, and thresholds that are not `1 ≤ degradeAfter < loseAfter`. -/
def validate (c : AgentConfig) : Except ConfigError Unit :=
  if c.interval = .zero then .error (.invalid "interval" "must be greater than zero")
  else if c.degradeAfter = 0 then .error (.invalid "degrade_after" "must be at least 1")
  else if c.loseAfter ≤ c.degradeAfter then
    .error (.invalid "lose_after" ("must be greater than degrade_after (" ++
      toString c.loseAfter ++ " <= " ++ toString c.degradeAfter ++ ")"))
  else .ok ()

end AgentConfig

/-- The settings that the session needs. -/
structure SessionParams where
  /-- The time within which a call must be answered. -/
  rpcTimeout : Duration
  /-- The number of failures in a row from which the session counts as degraded. -/
  degradeAfter : Nat
  /-- The number of failures in a row at which the session is given up. -/
  loseAfter : Nat
deriving DecidableEq, Inhabited, Repr

/-- The settings of the session of an agent. -/
def AgentConfig.sessionParams (c : AgentConfig) : SessionParams :=
  ⟨c.effectiveRpcTimeout, c.degradeAfter, c.loseAfter⟩

end FleetAgent
