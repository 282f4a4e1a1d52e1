import FleetAgent.Time

/-!
# Tickers

A ticker is due at its start and then once every period. A tick that is taken late, but not by more
than a small tolerance, leaves the next one where it was; one that is taken later leaves out the
ticks that have passed, so that the due instants stay whole periods apart from the start.

## Main definitions

* `Ticker`: a period and the instant at which the next tick is due.
* `Ticker.start`, `Ticker.take`: a new ticker, and the ticker after its tick was taken.
-/

namespace FleetAgent

/-- A ticker. -/
structure Ticker where
  /-- The time between two ticks. -/
  period : Duration
  /-- When the next tick is due. -/
  due : Instant
deriving DecidableEq, Inhabited, Repr

namespace Ticker

/-- A ticker whose first tick is due at once. -/
def start (now : Instant) (period : Duration) : Ticker := ⟨period, now⟩

/-- How late a tick may be taken without leaving out others. -/
def tolerance : Duration := .ofMillis 5

/-- Whether the next tick can be taken. -/
def isDue (t : Ticker) (now : Instant) : Bool := t.due.reached now

/-- When the tick after one that was due at `due` is due, if that one is taken at `now`. -/
def nextDue (period : Duration) (due now : Instant) : Instant :=
  if due.after tolerance < now then now + period.nanos - (now - due) % period.nanos
  else due.after period

/-- The ticker after its tick was taken. -/
def take (t : Ticker) (now : Instant) : Ticker := { t with due := nextDue t.period t.due now }

end Ticker

end FleetAgent
