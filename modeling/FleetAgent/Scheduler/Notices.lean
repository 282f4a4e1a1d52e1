import FleetAgent.Error

/-!
# Termination notices

A heartbeat loop that ends by itself leaves a notice why. Notices wait in a queue of bounded length
for whoever watches it; a notice that finds the queue full or unwatched is dropped.

## Main definitions

* `Termination`: why a loop ended by itself.
* `NoticeQueue`: the notices that wait.
* `NoticeQueue.offer`, `NoticeQueue.pop?`: adding and taking a notice.
-/

namespace FleetAgent

/-- Why a heartbeat loop ended by itself. -/
inductive Termination where
  /-- The controller asked for it. -/
  | requested
  /-- The session is gone or cannot be used. -/
  | lost (e : SessionError)
deriving DecidableEq, Repr

/-- The notice in diagnostic output. -/
def Termination.inspect : Termination → String
  | requested => "Requested"
  | lost e => "Lost(" ++ e.inspect ++ ")"

/-- The termination notices that wait. -/
structure NoticeQueue where
  /-- How many notices can wait. -/
  capacity : Nat
  /-- The notices, the oldest first. -/
  waiting : List Termination := []
  /-- Whether somebody may still watch the queue. -/
  isOpen : Bool := true
deriving DecidableEq, Inhabited, Repr

/-- What becomes of a notice that is offered to a queue. -/
inductive Offer where
  /-- It waits in the queue. -/
  | sent
  /-- The queue is full. -/
  | full
  /-- Nobody watches the queue. -/
  | closed
deriving DecidableEq, Repr

namespace NoticeQueue

/-- Offers a notice. -/
def offer (q : NoticeQueue) (t : Termination) : Offer × NoticeQueue :=
  if !q.isOpen then (.closed, q)
  else if q.waiting.length < q.capacity then (.sent, { q with waiting := q.waiting ++ [t] })
  else (.full, q)

/-- Takes the oldest notice. -/
def pop? (q : NoticeQueue) : Option (Termination × NoticeQueue) :=
  match q.waiting with
  | [] => none
  | t :: rest => some (t, { q with waiting := rest })

/-- The queue when nobody watches it any more. -/
def close (q : NoticeQueue) : NoticeQueue := { q with waiting := [], isOpen := false }

end NoticeQueue

end FleetAgent
