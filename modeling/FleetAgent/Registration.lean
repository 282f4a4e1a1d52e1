import FleetAgent.Error

/-!
# Registration of a handle

A registration holds at most one handle for good: the first setup stores it, and every later one
is refused and leaves it untouched.

## Main definitions

* `Registration`: at most one handle.
* `Registration.setup` and `Registration.get`.
* `Registration.race`: the number of setups that succeed when several are tried at once.
-/

namespace FleetAgent

/-- At most one handle of type `α`. -/
structure Registration (α : Type) where
  /-- The handle, once there is one. -/
  slot : Option α := none
deriving Inhabited

namespace Registration

variable {α : Type}

/-- Whether a handle is stored. -/
def isRegistered (r : Registration α) : Bool := r.slot.isSome

/-- Stores a handle unless there is one. -/
def setup (r : Registration α) (handle : α) : Except RegistrationError (Registration α) :=
  match r.slot with
  | some _ => .error .alreadyRegistered
  | none => .ok ⟨some handle⟩

/-- The stored handle. -/
def get (r : Registration α) : Except RegistrationError α :=
  match r.slot with
  | some handle => .ok handle
  | none => .error .notRegistered

/-- The setups of several handles in some order: how many of them succeeded, and the registration
after them. -/
def race (r : Registration α) : List α → Nat × Registration α
  | [] => (0, r)
  | handle :: handles =>
    match r.setup handle with
    | .ok r' =>
      let (won, r'') := race r' handles
      (won + 1, r'')
    | .error _ => race r handles

end Registration

end FleetAgent
