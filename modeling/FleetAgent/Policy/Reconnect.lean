import FleetAgent.Policy.Backoff

/-!
# What to do after the loss of a session

## Main definitions

* `Reconnect`: give up at once, or try again with growing delays, up to a number of attempts.
* `Reconnect.schedule`: the delays for an attempt, or nothing when it is not made.
-/

namespace FleetAgent

/-- The reaction to the loss of a session. -/
inductive Reconnect where
  /-- No attempt is made. -/
  | never
  /-- Attempts are made with growing delays; `maxAttempts` of 0 sets no limit. -/
  | backoff (policy : Backoff) (maxAttempts : Nat)
deriving Inhabited

namespace Reconnect

/-- Attempts without end, with the standard delays. -/
def unlimited : Reconnect := .backoff .standard 0

/-- Whether no attempt is ever made. -/
def isNever : Reconnect → Bool
  | never => true
  | backoff _ _ => false

/-- The delays for attempt `attempt`, counted from 1, or nothing when it is not made. -/
def schedule (r : Reconnect) (attempt : Nat) : Option Backoff :=
  match r with
  | never => none
  | backoff policy maxAttempts =>
    if maxAttempts ≠ 0 ∧ maxAttempts < attempt then none else some policy

end Reconnect

end FleetAgent
