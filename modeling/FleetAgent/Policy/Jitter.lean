import FleetAgent.Time

/-!
# Jitter

A delay before a new attempt may be drawn at random, so that many agents that lost the same
controller do not come back at once. The draw is a number from outside; the policy says which
delays it can give.

## Main definitions

* `Jitter`: no jitter, jitter over the whole delay, or over its second half.
* `Jitter.bounds?`: the least and the greatest delay that can be drawn, in milliseconds.
* `Jitter.apply`: the delay for one draw.
-/

namespace FleetAgent

/-- How a delay is drawn from a base delay. -/
inductive Jitter where
  /-- The base delay itself. -/
  | none
  /-- Any whole number of milliseconds up to the base delay. -/
  | full
  /-- Any whole number of milliseconds from half the base delay up to it. -/
  | equal
deriving DecidableEq, Inhabited, Repr

namespace Jitter

/-- The whole milliseconds that a draw is made from; a number of 64 bits, as longer delays count
as the longest such number. -/
def drawnMillis (d : Duration) : Nat := min d.millis (UInt64.size - 1)

/-- The least and the greatest number of milliseconds that can be drawn, or nothing where the
delay is certain: without jitter, and for a delay below one millisecond. -/
def bounds? (j : Jitter) (d : Duration) : Option (Nat × Nat) :=
  let ms := drawnMillis d
  if ms = 0 then Option.none
  else match j with
    | none => Option.none
    | full => some (0, ms)
    | equal => some (ms / 2, ms)

/-- The delay that a draw gives. A delay below one millisecond is no delay at all. -/
def apply (j : Jitter) (d : Duration) (draw : Nat) : Duration :=
  match j.bounds? d with
  | some (low, high) => .ofMillis (low + draw % (high - low + 1))
  | Option.none => if d.millis = 0 then .zero else d

/-- What is certain about the delays that can be drawn. -/
structure Certainty where
  /-- No draw is longer than the base delay. -/
  withinDelay : Bool
  /-- No draw is shorter than half the base delay. -/
  aboveHalf : Bool
  /-- Every draw is a whole number of milliseconds. -/
  wholeMillis : Bool
  /-- All the milliseconds that can be drawn, where they are few. -/
  values : Option (List Nat)
deriving DecidableEq, Repr

/-- The greatest number of milliseconds for which all draws are listed. -/
def listedMillis : Nat := 8

/-- What is certain about the delays that can be drawn, or the delay itself where it is. -/
def certainty (j : Jitter) (d : Duration) : Certainty ⊕ Duration :=
  match j.bounds? d with
  | some (low, high) => .inl
      { withinDelay := high ≤ d.millis
        aboveHalf := drawnMillis d / 2 ≤ low
        wholeMillis := true
        values := if d.millis ≤ listedMillis then
            some ((List.range (high - low + 1)).map (low + ·)) else Option.none }
  | Option.none => .inr (j.apply d 0)

end Jitter

end FleetAgent
