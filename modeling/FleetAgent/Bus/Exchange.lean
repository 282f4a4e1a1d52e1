import FleetAgent.Bus.Basic

/-!
# A bus with its handles and receivers

The handles of a bus all publish on the same bus; each can be cloned and dropped. Receivers are
numbered in the order in which they subscribed. When every handle is dropped, a receiver that has
read everything finds the bus closed.

## Main definitions

* `Exchange`: a bus, which of its handles are held, and the cursors of its receivers.
* `Exchange.Step` and `Exchange.step`: the operations and their answers.
-/

namespace FleetAgent

/-- A bus with its handles and receivers. -/
structure Exchange (α : Type) where
  /-- The bus that all handles share. -/
  bus : Bus α
  /-- For each handle, whether it is still held. -/
  handles : List Bool := [true]
  /-- For each receiver, its cursor while it is not dropped. -/
  cursors : List (Option Nat) := []
deriving Inhabited

namespace Exchange

variable {α : Type}

/-- An operation on an exchange. -/
inductive Step (α : Type) where
  /-- A new receiver. -/
  | subscribe (handle : Nat)
  /-- Items to publish, in order. -/
  | publish (handle : Nat) (items : List α)
  /-- One receive. -/
  | receive (receiver : Nat)
  /-- Receives up to the first that finds nothing. -/
  | drain (receiver : Nat)
  /-- A new handle. -/
  | clone (handle : Nat)
  /-- The end of a handle. -/
  | dropHandle (handle : Nat)
  /-- The end of a receiver. -/
  | dropReceiver (receiver : Nat)

/-- The answer to an operation. -/
inductive Answer (α : Type) where
  /-- The operation has no result. -/
  | done
  /-- The number of the new receiver or handle. -/
  | number (n : Nat)
  /-- What was received. -/
  | received (r : Received α)
  /-- All that was received, the last of them empty or closed. -/
  | drained (rs : List (Received α))

/-- Whether the handle is held. -/
def holds (x : Exchange α) (handle : Nat) : Bool := x.handles.getD handle false

/-- Whether nobody is left who could publish. -/
def isClosed (x : Exchange α) : Bool := x.handles.all (!·)

/-- One receive of a receiver; a receiver that is not there finds nothing. -/
def receive (x : Exchange α) (receiver : Nat) : Received α × Exchange α :=
  match x.cursors[receiver]? with
  | some (some cursor) =>
    match x.bus.receive cursor with
    | (.empty, _) => (if x.isClosed then .closed else .empty, x)
    | (got, cursor') => (got, { x with cursors := x.cursors.set receiver (some cursor') })
  | _ => (.closed, x)

/-- The receives up to the first that finds nothing, at most `fuel` of them. -/
def drain (x : Exchange α) (receiver : Nat) : (fuel : Nat) → List (Received α) × Exchange α
  | 0 => ([], x)
  | fuel + 1 => match x.receive receiver with
    | (.empty, x') => ([.empty], x')
    | (.closed, x') => ([.closed], x')
    | (got, x') =>
      let (more, x'') := drain x' receiver fuel
      (got :: more, x'')

/-- The number of receives that a receiver needs at most to find nothing: one for each unread
item, one for a loss, and one that finds nothing. -/
def drainBound (x : Exchange α) (receiver : Nat) : Nat :=
  match x.cursors[receiver]? with
  | some (some cursor) => x.bus.unread cursor + 2
  | _ => 2

/-- One operation. -/
def step (x : Exchange α) : Step α → Answer α × Exchange α
  | .subscribe handle =>
    if x.holds handle then
      (.number x.cursors.length, { x with cursors := x.cursors ++ [some x.bus.subscribe] })
    else (.done, x)
  | .publish handle items =>
    (.done, if x.holds handle then { x with bus := items.foldl Bus.publish x.bus } else x)
  | .receive receiver =>
    let (got, x') := x.receive receiver
    (.received got, x')
  | .drain receiver =>
    let (got, x') := x.drain receiver (x.drainBound receiver)
    (.drained got, x')
  | .clone handle =>
    if x.holds handle then (.number x.handles.length, { x with handles := x.handles ++ [true] })
    else (.done, x)
  | .dropHandle handle => (.done, { x with handles := x.handles.set handle false })
  | .dropReceiver receiver => (.done, { x with cursors := x.cursors.set receiver none })

/-- The answers to operations, one after the other. -/
def run (x : Exchange α) : List (Step α) → List (Answer α)
  | [] => []
  | s :: ss =>
    let (answer, x') := x.step s
    answer :: run x' ss

end Exchange

end FleetAgent
