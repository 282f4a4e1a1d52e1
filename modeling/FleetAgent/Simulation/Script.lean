import FleetAgent.Agent.Activity

/-!
# Scripts for the controller

In a simulation the controller follows a script: for each procedure a list of entries, one for each
call. An entry says how long the answer takes, whether it comes at all, and whether the call
succeeds. When the list is used up, calls succeed at once.

## Main definitions

* `Procedure`: what can be called.
* `Entry`: how one call is answered, with `Entry.answer` and `Entry.beat`.
* `Script`, `ScriptBook`: the entries for one procedure, and for all of them.
-/

namespace FleetAgent.Simulation

/-- What can be called. The last one is the beat of a heart of its own. -/
inductive Procedure where
  | dial
  | connect
  | heartbeat
  | setReady
  | setRunning
  | requestStop
  | beat
deriving DecidableEq, Inhabited, Repr

namespace Procedure

/-- All procedures. -/
def all : List Procedure :=
  [.dial, .connect, .heartbeat, .setReady, .setRunning, .requestStop, .beat]

/-- The name of the procedure. -/
def name : Procedure → String
  | dial => "dial"
  | connect => "connect"
  | heartbeat => "heartbeat"
  | setReady => "set_ready"
  | setRunning => "set_running"
  | requestStop => "request_stop"
  | beat => "beat"

/-- The procedure of a given name. -/
def ofName? (s : String) : Option Procedure := all.find? (·.name == s)

/-- The procedure that a request calls. -/
def ofRequest : Request → Procedure
  | .dial => dial
  | .connect _ => connect
  | .heartbeat _ _ => heartbeat
  | .setReady _ _ => setReady
  | .setRunning _ => setRunning
  | .requestStop _ => requestStop

end Procedure

/-- How a call fails. All but the first are for a heart of its own. -/
inductive Fault where
  /-- The controller answers with an error. -/
  | client (e : ClientError)
  /-- The heart breaks down. -/
  | broken
  /-- The heartbeat is missed, as so many in a row were. -/
  | missed (failures : Nat)
  /-- The session is given up. -/
  | lost (session reason : String)
  /-- The session is closed. -/
  | invalid (op : String)
deriving DecidableEq, Repr

/-- How one call is answered. -/
structure Entry where
  /-- How long the answer takes. -/
  delay : Duration := .zero
  /-- Whether no answer ever comes. -/
  hangs : Bool := false
  /-- How the call fails, if it does. -/
  fault : Option Fault := none
  /-- The identifier of a session that is opened. -/
  session : Option String := none
  /-- The sequence number that is acknowledged, if it is another one than that which was sent. -/
  sequence : Option Nat := none
  /-- What the controller wants the agent to do. -/
  directive : Directive := .continue
  /-- A new configuration. -/
  config : Option (List UInt8) := none
deriving DecidableEq, Inhabited, Repr

namespace Entry

/-- When the answer to a call at `now` comes, if it comes at all. -/
def readyAt (e : Entry) (now : Instant) : Option Instant :=
  if e.hangs then none else some (now.after e.delay)

/-- The content of an answer without a fault. -/
def response (e : Entry) (session : String) : (r : Request) → r.Response
  | .dial => ()
  | .connect _ => e.session.getD session
  | .heartbeat _ sequence => ⟨e.directive, e.sequence.getD sequence, e.config⟩
  | .setReady _ _ => ()
  | .setRunning _ => ()
  | .requestStop _ => ()

/-- The answer to a request; a session that is opened has the given identifier unless the entry
names another one. -/
def answer (e : Entry) (session : String) (r : Request) : r.Answer :=
  match e.fault with
  | some (.client error) => .error error
  | _ => .ok (e.response session r)

/-- How a beat of a heart of its own comes out. -/
def beat (e : Entry) : OwnBeat :=
  let sequence := e.sequence.getD 0
  match e.fault with
  | some .broken => .broken
  | some (.client error) => .outcome (.error (.client error))
  | some (.missed failures) => .outcome (.ok (.missed sequence failures))
  | some (.lost session reason) => .outcome (.error (.lost session reason))
  | some (.invalid op) => .outcome (.error (.invalidState op .closed))
  | none => .outcome (.ok (.acked sequence e.directive))

end Entry

/-- The entries for one procedure, each with the number of calls that it answers. -/
abbrev Script := List (Nat × Entry)

/-- The entry for the next call, with the script after it. -/
def Script.next : Script → Entry × Script
  | [] => ({}, [])
  | (0, _) :: rest => Script.next rest
  | (1, e) :: rest => (e, rest)
  | (n + 2, e) :: rest => (e, (n + 1, e) :: rest)

/-- The scripts of all procedures. -/
structure ScriptBook where
  /-- The scripts, each with its procedure. -/
  scripts : List (Procedure × Script) := []
deriving Inhabited

namespace ScriptBook

/-- The script of a procedure. -/
def script (b : ScriptBook) (p : Procedure) : Script := (b.scripts.lookup p).getD []

/-- The book with another script for a procedure. -/
def replace (b : ScriptBook) (p : Procedure) (s : Script) : ScriptBook :=
  { scripts := (p, s) :: b.scripts.filter (·.1 ≠ p) }

/-- The book with more entries for a procedure. -/
def append (b : ScriptBook) (p : Procedure) (s : Script) : ScriptBook :=
  b.replace p (b.script p ++ s)

/-- The entry for the next call of a procedure, with the book after it. -/
def next (b : ScriptBook) (p : Procedure) : Entry × ScriptBook :=
  let (e, s) := (b.script p).next
  (e, b.replace p s)

end ScriptBook

end FleetAgent.Simulation
