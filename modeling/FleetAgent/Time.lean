import FleetAgent.Text.Digits

/-!
# Spans of time and instants of a clock

A span of time is a whole number of nanoseconds. An instant is the time that has passed since the
clock was started, also in nanoseconds; the clock itself stands only at whole milliseconds, so a
deadline between two of them is met at the later one (`Instant.reached`).

## Main definitions

* `Duration`: a span of time, with its whole seconds, its whole milliseconds and two texts:
  `Duration.exact` with all nine digits of the fraction, and `Duration.brief` in the largest unit
  that fits.
* `Instant`: a point of the clock, with `Instant.roundUp` to a whole millisecond.
-/

namespace FleetAgent

/-- A span of time in whole nanoseconds. -/
structure Duration where
  /-- The length in nanoseconds. -/
  nanos : Nat
deriving DecidableEq, Inhabited, Repr

namespace Duration

/-- The empty span. -/
def zero : Duration := ⟨0⟩

/-- The span of `s` seconds and `n` nanoseconds. -/
def ofParts (s n : Nat) : Duration := ⟨s * 1000000000 + n⟩

/-- The span of `s` seconds. -/
def ofSeconds (s : Nat) : Duration := ofParts s 0

/-- The span of `ms` milliseconds. -/
def ofMillis (ms : Nat) : Duration := ⟨ms * 1000000⟩

/-- The longest span that can be configured: 2⁶⁴ − 1 seconds and 999999999 nanoseconds. -/
def longest : Duration := ofParts (UInt64.size - 1) 999999999

/-- The whole seconds of the span. -/
def seconds (d : Duration) : Nat := d.nanos / 1000000000

/-- The nanoseconds left beside the whole seconds. -/
def subsecond (d : Duration) : Nat := d.nanos % 1000000000

/-- The whole milliseconds of the span. -/
def millis (d : Duration) : Nat := d.nanos / 1000000

/-- The shorter of two spans. -/
def shorter (a b : Duration) : Duration := if a.nanos ≤ b.nanos then a else b

/-- The longer of two spans. -/
def longer (a b : Duration) : Duration := if a.nanos ≤ b.nanos then b else a

/-- The span with its seconds and all nine digits of its fraction, as in `1.500000000`. -/
def exact (d : Duration) : String :=
  toString d.seconds ++ "." ++ Text.padded 9 d.subsecond

/-- A number of a unit whose fraction has `width` digits; a fraction of zero is left out. -/
def inUnit (whole fraction width : Nat) (unit : String) : String :=
  let digits := Text.trimZeros (Text.padded width fraction)
  toString whole ++ (if digits.isEmpty then "" else "." ++ digits) ++ unit

/-- The span in the largest unit among seconds, milli-, micro- and nanoseconds of which it holds
at least one, the fraction without trailing zeros: `2s`, `1.000001ms`, `1.5µs`, `0ns`. -/
def brief (d : Duration) : String :=
  if 1000000000 ≤ d.nanos then inUnit d.seconds d.subsecond 9 "s"
  else if 1000000 ≤ d.nanos then inUnit (d.nanos / 1000000) (d.nanos % 1000000) 6 "ms"
  else if 1000 ≤ d.nanos then inUnit (d.nanos / 1000) (d.nanos % 1000) 3 "µs"
  else inUnit d.nanos 0 0 "ns"

end Duration

/-- A point of the clock: the nanoseconds since it was started. -/
abbrev Instant := Nat

namespace Instant

/-- The instant at `ms` milliseconds. -/
def ofMillis (ms : Nat) : Instant := ms * 1000000

/-- The whole milliseconds passed at the instant. -/
def millis (t : Instant) : Nat := t / 1000000

/-- The instant `d` after `t`. -/
def after (t : Instant) (d : Duration) : Instant := t + d.nanos

/-- The first whole millisecond that is not before `t`. -/
def roundUp (t : Instant) : Instant := (t + 999999) / 1000000 * 1000000

/-- Whether a clock that stands at `now` has reached the deadline `t`, which is met at the whole
millisecond not before it. -/
def reached (t now : Instant) : Bool := decide (roundUp t ≤ now)

end Instant

end FleetAgent
