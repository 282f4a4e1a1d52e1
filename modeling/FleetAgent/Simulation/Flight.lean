import FleetAgent.Simulation.Script

/-!
# Calls under way

A call to the controller is under way until its answer comes, or until the time limit of the call
has passed; an answer that comes just at the limit counts. The simulation notes every call when it
begins.

## Main definitions

* `CallRecord`: the note of a call.
* `Flight`: a call under way, with `Flight.reply?`.
* `Awaited`: what a job waits for from outside.
-/

namespace FleetAgent.Simulation

/-- An argument in the note of a call. -/
inductive Argument where
  | text (s : String)
  | number (n : Nat)
  | flag (b : Bool)
deriving DecidableEq, Repr

/-- The note of a call. -/
structure CallRecord where
  /-- When the call began. -/
  time : Instant
  /-- What was called. -/
  procedure : Procedure
  /-- With which arguments. -/
  arguments : List Argument
deriving DecidableEq, Repr

/-- The arguments of a request; a channel is opened to the given address. -/
def argumentsOf (address : String) : Request → List Argument
  | .dial => [.text address]
  | .connect host => [.text host.name, .text host.version]
  | .heartbeat session sequence => [.text session, .number sequence]
  | .setReady session ready => [.text session, .flag ready]
  | .setRunning session | .requestStop session => [.text session]

/-- A call under way. -/
structure Flight where
  /-- The request. -/
  request : Request
  /-- The answer to it. -/
  answer : request.Answer
  /-- When the answer comes, if it ever does. -/
  readyAt : Option Instant
  /-- When the call is given up. -/
  deadline : Instant
  /-- The time limit of the call. -/
  limit : Duration

namespace Flight

/-- Sends a request: the flight, and the note of the call if there was one. A request that names
the empty session is refused at once and never called. -/
def send (now : Instant) (limit : Duration) (address session : String) (book : ScriptBook)
    (r : Request) : Flight × Option CallRecord × ScriptBook :=
  let deadline := now.after limit
  match r.refusal with
  | some e => (⟨r, .error e, some now, deadline, limit⟩, none, book)
  | none =>
    let procedure := Procedure.ofRequest r
    let (entry, book) := book.next procedure
    (⟨r, entry.answer session r, entry.readyAt now, deadline, limit⟩,
      some ⟨now, procedure, argumentsOf address r⟩, book)

/-- The answer at `now`, once there is one: what the controller answers, or that the call was not
answered in time. -/
def reply? (f : Flight) (now : Instant) : Option f.request.Answer :=
  if f.readyAt.any (·.reached now) then some f.answer
  else if f.deadline.reached now then some (.error (.timedOut f.limit))
  else none

/-- The answer at `now` to the request of the flight; there is none to other requests. -/
def replyTo? (f : Flight) (now : Instant) (r : Request) : Option r.Answer :=
  if h : f.request = r then h ▸ f.reply? now else none

/-- When something happens to the call. -/
def timers (f : Flight) : List Instant := f.deadline :: f.readyAt.toList

/-- Whether the call is a heartbeat that has been sent. -/
def isHeartbeat (f : Flight) : Bool :=
  match f.request with
  | .heartbeat session _ => session ≠ ""
  | _ => false

end Flight

/-- What a job waits for from outside. -/
inductive Awaited where
  /-- Nothing. -/
  | nothing
  /-- The answer to a call. -/
  | answer (f : Flight)
  /-- The outcome of a beat of a heart of its own, which comes at some time or never. -/
  | ownBeat (readyAt : Option Instant) (outcome : OwnBeat)

namespace Awaited

/-- The answer at `now` to a request. -/
def replyTo? : Awaited → Instant → (r : Request) → Option r.Answer
  | .answer f, now, r => f.replyTo? now r
  | _, _, _ => none

/-- The outcome at `now` of a beat of a heart of its own. -/
def ownBeat? : Awaited → Instant → Option OwnBeat
  | .ownBeat readyAt outcome, now => if readyAt.any (·.reached now) then some outcome else none
  | _, _ => none

/-- When something happens to what is awaited. -/
def timers : Awaited → List Instant
  | .nothing => []
  | .answer f => f.timers
  | .ownBeat readyAt _ => readyAt.toList

/-- Whether a heartbeat is awaited. -/
def isHeartbeat : Awaited → Bool
  | .answer f => f.isHeartbeat
  | _ => false

end Awaited

end FleetAgent.Simulation
