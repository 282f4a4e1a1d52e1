import FleetAgent.Simulation.Flight

/-!
# Calls without an agent

Here the host makes calls to the controller itself, one after the other, on a channel with a time
limit.

## Main definitions

* `Caller`: the channel and the clock.
* `Caller.make`: the answer to a request, after the time that it takes.
* `Caller.run`: the answers to requests.
-/

namespace FleetAgent.Simulation

/-- A channel to the controller, with a clock. -/
structure Caller where
  /-- Where the controller is. -/
  address : String
  /-- The time limit of a call. -/
  limit : Duration
  /-- The identifier of a session that the script does not name. -/
  session : String := "session-1"
  /-- What the controller does. -/
  book : ScriptBook := {}
  /-- Where the clock stands. -/
  now : Instant := 0

/-- What a request came to. -/
structure Reply where
  /-- The request. -/
  request : Request
  /-- The answer. -/
  answer : request.Answer
  /-- Where the clock stands. -/
  now : Instant
  /-- The call, if there was one. -/
  call : Option CallRecord

/-- The answer of a flight that is waited for, with the time at which it comes. -/
def Flight.await (f : Flight) : f.request.Answer × Instant :=
  match f.readyAt with
  | some time =>
    if time.roundUp ≤ f.deadline.roundUp then (f.answer, time.roundUp)
    else (.error (.timedOut f.limit), f.deadline.roundUp)
  | none => (.error (.timedOut f.limit), f.deadline.roundUp)

namespace Caller

/-- Makes a request and waits for its answer. -/
def make (c : Caller) (r : Request) : Reply × Caller :=
  let (flight, call, book) := Flight.send c.now c.limit c.address c.session c.book r
  let (answer, now) := flight.await
  (⟨flight.request, flight.request.accept answer, now, call⟩, { c with book, now })

/-- The replies to requests, one after the other. -/
def run (c : Caller) : List Request → List Reply
  | [] => []
  | r :: rs =>
    let (reply, c) := c.make r
    reply :: run c rs

end Caller

end FleetAgent.Simulation
