import FleetAgent.Policy.Jitter

/-!
# Exponential backoff

The delay before an attempt grows by a constant factor with each failed attempt, up to a longest
delay. The growth is computed in double precision: a span of time becomes a double number of
seconds, and the product becomes a span again by rounding to the nearest nanosecond, ties to the
even one.

## Main definitions

* `Backoff`: first delay, longest delay, factor and jitter.
* `Duration.toFloat` and `Duration.ofFloat?`: spans of time as double numbers of seconds.
* `floatPower`: a power with a natural exponent by repeated squaring.
* `Backoff.base?` and `Backoff.delay?`: the delay of an attempt without and with jitter.
-/

namespace FleetAgent

/-- The span as a double number of seconds. -/
def Duration.toFloat (d : Duration) : Float :=
  d.seconds.toFloat + d.subsecond.toFloat / 1000000000.0

/-- The quotient `n / m` rounded to the nearest integer, ties to the even one. -/
def divHalfEven (n m : Nat) : Nat :=
  let q := n / m
  let r := n % m
  if 2 * r < m then q
  else if m < 2 * r then q + 1
  else if q % 2 = 0 then q else q + 1

/-- The number of fractions that a double can have between two powers of two. -/
def fractionSize : Nat := 1 <<< 52

/-- The mantissa and the exponent of a finite nonnegative double: it is `m · 2^e / 2^1074`. -/
def floatParts (x : Float) : Nat × Nat :=
  let bits := x.toBits.toNat % (UInt64.size / 2)
  let e := bits / fractionSize
  let m := bits % fractionSize
  if e = 0 then (m, 0) else (m + fractionSize, e - 1)

/-- The span of a finite nonnegative double number of seconds, rounded to the nearest nanosecond;
nothing if it has 2⁶⁴ seconds or more. -/
def Duration.ofFloat? (x : Float) : Option Duration :=
  let (m, e) := floatParts x
  let d : Duration := ⟨divHalfEven ((m <<< e) * 1000000000) (1 <<< 1074)⟩
  if d.nanos ≤ Duration.longest.nanos then some d else none

/-- The power `x ^ n` by repeated squaring, times `r`. -/
def floatPower (r x : Float) (n : Nat) : Float :=
  let r := if n % 2 = 1 then r * x else r
  if h : n / 2 = 0 then r else floatPower r (x * x) (n / 2)
termination_by n
decreasing_by omega

/-- A delay that grows with the number of failed attempts. -/
structure Backoff where
  /-- The delay before the first attempt. -/
  first : Duration
  /-- The delay that no attempt exceeds. -/
  longest : Duration
  /-- The growth from one attempt to the next. -/
  factor : Float
  /-- How the delay is drawn. -/
  jitter : Jitter
deriving Inhabited

namespace Backoff

/-- From one second to one minute, doubled with each attempt and drawn from the second half. -/
def standard : Backoff :=
  { first := .ofSeconds 1, longest := .ofSeconds 60, factor := 2.0, jitter := .equal }

/-- The greatest exponent that the growth is computed with. -/
def greatestExponent : Nat := UInt32.size / 2 - 1

/-- The delay of an attempt (from 0) in seconds, before it is cut at the longest one. -/
def grown (b : Backoff) (attempt : Nat) : Float :=
  b.first.toFloat * floatPower 1.0 b.factor (min attempt greatestExponent)

/-- The delay of an attempt (from 0) without jitter: the longest delay if the growth exceeds it or
gives no number. Nothing if the growth is no span of time, which takes 2⁶⁴ seconds or more. -/
def base? (b : Backoff) (attempt : Nat) : Option Duration :=
  let s := b.grown attempt
  if !s.isFinite || s < 0.0 || s > b.longest.toFloat then some b.longest
  else Duration.ofFloat? s

/-- The delay of an attempt (from 0) for one draw. -/
def delay? (b : Backoff) (attempt draw : Nat) : Option Duration :=
  (b.base? attempt).map fun d => b.jitter.apply d draw

/-- The text of the failure to represent a delay. -/
def tooLong : String :=
  "cannot convert float seconds to Duration: value is either too big or NaN"

end Backoff

end FleetAgent
