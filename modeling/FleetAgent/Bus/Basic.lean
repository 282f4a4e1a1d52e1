/-!
# The event bus

A bus hands every published item to every receiver. It retains a bounded number of the newest
items for all receivers together; a receiver is a cursor, the number of items published before
the next one it will get. A receiver that is further behind than the bus retains is told once how
many items it has lost, and goes on with the oldest one that is left.

## Main definitions

* `Bus`: the items published so far, of which the newest are retained.
* `Bus.ofCapacity?`: a bus that retains a capacity rounded up to a power of two.
* `Bus.publish`, `Bus.subscribe`, `Bus.receive`: the operations.
-/

namespace FleetAgent

/-- A bus for items of type `α`. -/
structure Bus (α : Type) where
  /-- How many of the newest items are retained. -/
  retained : Nat
  /-- How many items have been published. -/
  sent : Nat := 0
  /-- The retained items, the newest first. -/
  recent : List α := []
deriving Inhabited

/-- What a receiver gets from the bus. -/
inductive Received (α : Type) where
  /-- The next item. -/
  | item (a : α)
  /-- The number of items that were lost. -/
  | lagged (n : Nat)
  /-- Nothing is unread. -/
  | empty
  /-- Nothing is unread and nobody is left who could publish. -/
  | closed
deriving DecidableEq, Repr

namespace Bus

variable {α : Type}

/-- The capacity of a bus for which none is given. -/
def standardCapacity : Nat := 1024

/-- The greatest capacity that can be asked for. -/
def greatestCapacity : Nat := UInt64.size / 2 - 1

/-- A bus with the given capacity, at least one item, rounded up to a power of two; nothing if the
capacity is too great. -/
def ofCapacity? (capacity : Nat) : Option (Bus α) :=
  let capacity := max capacity 1
  if capacity ≤ greatestCapacity then some { retained := capacity.nextPowerOfTwo } else none

/-- The text of the refusal of a capacity. -/
def capacityRefused : String := "broadcast channel capacity exceeded `usize::MAX / 2`"

/-- Publishes an item; the oldest retained one gives way if there is no room. -/
def publish (b : Bus α) (a : α) : Bus α :=
  { b with sent := b.sent + 1, recent := (a :: b.recent).take b.retained }

/-- The cursor of a new receiver, which gets the items published from now on. -/
def subscribe (b : Bus α) : Nat := b.sent

/-- The number of items that the receiver has neither got nor been told to have lost. -/
def unread (b : Bus α) (cursor : Nat) : Nat := b.sent - cursor

/-- The next thing that the receiver gets, with its cursor after that. -/
def receive (b : Bus α) (cursor : Nat) : Received α × Nat :=
  let behind := b.unread cursor
  if b.retained < behind then (.lagged (behind - b.retained), b.sent - b.retained)
  else match behind with
    | 0 => (.empty, cursor)
    | k + 1 => match b.recent[k]? with
      | some a => (.item a, cursor + 1)
      | none => (.empty, cursor)

end Bus

end FleetAgent
