import FleetAgent.Proofs.Agent.Outlet
import FleetAgent.Proofs.Agent.Traffic
import FleetAgent.Proofs.Bus.Log
import FleetAgent.Proofs.Subscriber.Fanout

/-!
# The audience of an agent

The listener of an agent and the workers of its subscribers, with the bus and the queues between
them, are the *audience* of the agent. Its calls and its heartbeat loops publish events, and so may
the host; and they tell the listener to end. All else that happens to the audience is a deed of its
own: the listener hands what it gets from the bus to the queues, and the workers take it from there.

What a subscriber does about an event may change from one event to the next. Its name and the
capacity of its queue do not.

## Main definitions

* `Agent.Audience`, `Agent.Traffic.audience`: the audience.
* `Agent.Deed`, `Agent.Attends`: what the audience may do, and what this changes.
* `Agent.Happening`, `Agent.Traffic.happen?`: a move of the agent, or something that others do.
* `Agent.Scene`, `Agent.Story`: what has happened to a new agent.
* `Agent.Traffic.play?`: the scenes while some things happen.
-/

namespace FleetAgent

@[simp]
theorem Notice.map_event_numbered (first : Nat) (es : List Event) :
    (numbered first es).map (·.event) = es := by
  induction es generalizing first with
  | nil => rfl
  | cons e es ih => simp [numbered, ih]

namespace Agent

/-! ### The audience -/

/-- The listener, the workers and what they go by. -/
@[ext]
structure Audience where
  /-- The event bus. -/
  bus : Bus Notice
  /-- The queues of the subscribers. -/
  fanout : Fanout
  /-- Whether the listener is told to forward what is left and to end. -/
  isFlushing : Bool
  /-- Whether it is known that the listener has ended. -/
  listenerEnded : Bool
  /-- The listener, unless it has ended. -/
  listener? : Option Listener
  /-- What the worker of a subscriber is doing, unless it has ended. -/
  worker? : Nat → Option WorkerStage

/-- What the audience does. -/
inductive Deed where
  /-- Something that others do. -/
  | other
  /-- The listener gets something from the bus. -/
  | receive (r : Received Notice)
  /-- The listener waits no longer for a worker. -/
  | await
  /-- The subscriber of a number begins to process an event. -/
  | start (i : Nat) (n : Notice)
  /-- The subscriber is done with an event, and may have failed on it. -/
  | finish (i : Nat) (n : Notice) (failing : Option Failing)
  /-- The worker of the subscriber ends, as no events will come. -/
  | leave (i : Nat)
deriving DecidableEq

namespace Audience

/-- The audience after the worker of a subscriber has come to a stage. -/
def work (v : Audience) (i : Nat) (stage : Option WorkerStage) : Audience :=
  { v with worker? := fun j => if j = i then stage else v.worker? j }

/-- The audience after the worker of a subscriber has ended. -/
def lose (v : Audience) (i : Nat) : Audience :=
  { v.work i none with fanout := v.fanout.modifyBox i Mailbox.left }

end Audience

/-- What may happen to the audience `v`: what it does, what is published, and the audience after
that. -/
inductive Attends (v : Audience) : Deed → List Notice → Audience → Prop
  -- by others
  | publish (es : List Notice) (isFlushing : Bool) (h : v.isFlushing → isFlushing) :
      Attends v .other es { v with bus := v.bus.publishAll es, isFlushing }
  | revise (i : Nat) (m : Mailbox) (s : Subscriber) (hm : v.fanout.boxes[i]? = some m)
      (hname : s.name = m.subscriber.name) (hcapacity : s.capacity = m.subscriber.capacity) :
      Attends v .other []
        { v with fanout := v.fanout.modifyBox i ({ · with subscriber := s }) }
  -- by the listener
  | hand (l : Listener) (n : Notice) (cursor first : Nat) (hl : v.listener? = some l)
      (hstage : ∀ i, l.stage ≠ .closing i) (hr : v.bus.receive l.cursor = (.item n, cursor)) :
      Attends v (.receive (.item n)) (Notice.numbered first (Fanout.overflows v.fanout.boxes n))
        { v with
          bus := v.bus.publishAll (Notice.numbered first (Fanout.overflows v.fanout.boxes n))
          fanout := ⟨v.fanout.boxes.map (·.offered n)⟩
          listener? := some { l with cursor } }
  | lag (l : Listener) (k cursor : Nat) (hl : v.listener? = some l)
      (hstage : ∀ i, l.stage ≠ .closing i) (hr : v.bus.receive l.cursor = (.lagged k, cursor)) :
      Attends v (.receive (.lagged k)) [] { v with listener? := some { l with cursor } }
  | drain (l : Listener) (hl : v.listener? = some l) (hstage : l.stage = .following)
      (hr : (v.bus.receive l.cursor).1 = .empty) (hflush : v.isFlushing) :
      Attends v (.receive .empty) [] { v with listener? := some { l with stage := .draining } }
  | close (l : Listener) (hl : v.listener? = some l) (hstage : l.stage = .draining)
      (hr : (v.bus.receive l.cursor).1 = .empty) :
      Attends v (.receive .empty) []
        { v with
          fanout := ⟨v.fanout.boxes.map ({ · with isFed := false })⟩
          listener? := some { l with stage := .closing 0 } }
  | await (l : Listener) (i : Nat) (hl : v.listener? = some l) (hstage : l.stage = .closing i)
      (hi : i < v.fanout.boxes.length) (hended : v.fanout.hasEnded i) :
      Attends v .await [] { v with listener? := some { l with stage := .closing (i + 1) } }
  | retire (l : Listener) (i : Nat) (hl : v.listener? = some l) (hstage : l.stage = .closing i)
      (hi : v.fanout.boxes.length ≤ i) :
      Attends v .await [] { v with listenerEnded := true, listener? := none }
  -- by the worker of a subscriber
  | start (i : Nat) (n : Notice) (rest : List Notice) (m : Mailbox)
      (hw : v.worker? i = some .idle) (hm : v.fanout.boxes[i]? = some m)
      (hqueue : m.waiting = n :: rest) :
      Attends v (.start i n) []
        { v.work i (some (.busy n)) with
          fanout := v.fanout.modifyBox i fun _ => { m with waiting := rest } }
  | leave (i : Nat) (m : Mailbox) (hw : v.worker? i = some .idle)
      (hm : v.fanout.boxes[i]? = some m) (hqueue : m.waiting = []) (hfed : m.isFed = false) :
      Attends v (.leave i) [] (v.lose i)
  | finish (i : Nat) (n : Notice) (m : Mailbox) (hw : v.worker? i = some (.busy n))
      (hm : v.fanout.boxes[i]? = some m) (hok : m.subscriber.failing n.event = none) :
      Attends v (.finish i n none) [] (v.work i (some .idle))
  | report (i : Nat) (n : Notice) (m : Mailbox) (failing : Failing) (first : Nat)
      (hw : v.worker? i = some (.busy n)) (hm : v.fanout.boxes[i]? = some m)
      (hfails : m.subscriber.failing n.event = some failing) (hname : m.subscriber.keepsName) :
      Attends v (.finish i n (some failing))
        [⟨first, .panicked m.subscriber.name failing.info⟩]
        { v.work i (some .idle) with
          bus := v.bus.publish ⟨first, .panicked m.subscriber.name failing.info⟩ }
  | collapse (i : Nat) (n : Notice) (m : Mailbox) (failing : Failing)
      (hw : v.worker? i = some (.busy n)) (hm : v.fanout.boxes[i]? = some m)
      (hfails : m.subscriber.failing n.event = some failing)
      (hname : m.subscriber.keepsName = false) :
      Attends v (.finish i n (some failing)) [] (v.lose i)

/-- What a worker is doing, if the activity is one. -/
def workerOf? : Option Activity → Option WorkerStage
  | some (.worker _ stage) => some stage
  | _ => none

/-- The listener, if the activity is it. -/
def listenerOf? : Option Activity → Option Listener
  | some (.listener l) => some l
  | _ => none

/-- The subscribers stay the same in number. -/
theorem Attends.length_boxes {v v' : Audience} {deed : Deed} {es : List Notice}
    (h : Attends v deed es v') : v'.fanout.boxes.length = v.fanout.boxes.length := by
  cases h <;> simp [Audience.work, Audience.lose]

/-- The listener is told to end for good. -/
theorem Attends.isFlushing {v v' : Audience} {deed : Deed} {es : List Notice}
    (h : Attends v deed es v') (hflush : v.isFlushing) : v'.isFlushing := by
  cases h with
  | publish es isFlushing h => exact h hflush
  | revise | hand | lag | drain | close | await | retire | start | leave | finish | report
  | collapse => exact hflush

namespace Traffic

/-- The number of the listener's task, behind the workers of the subscribers. -/
def seats (x : Traffic) : Nat := x.agent.fanout.boxes.length

/-- The audience of an agent. -/
def audience (x : Traffic) : Audience where
  bus := x.agent.bus
  fanout := x.agent.fanout
  isFlushing := x.agent.isFlushing
  listenerEnded := x.agent.listenerEnded
  listener? := listenerOf? (x.tasks.waiting? x.seats)
  worker? i := workerOf? (x.tasks.waiting? i)

/-- What the audience does in the next section of the task of a number. -/
def deed (x : Traffic) (k : Nat) : Deed :=
  match x.tasks.waiting? k with
  | some (.listener l) => match l.stage with
    | .closing _ => .await
    | _ => .receive (x.agent.bus.receive l.cursor).1
  | some (.worker i .idle) => match (x.agent.fanout.boxes[i]?).bind (·.waiting.head?) with
    | some n => .start i n
    | none => .leave i
  | some (.worker i (.busy n)) =>
    .finish i n ((x.agent.fanout.boxes[i]?).bind (·.subscriber.failing n.event))
  | _ => .other

end Traffic

/-! ### What happens to an agent -/

/-- Something that happens to an agent. -/
inductive Happening where
  /-- A move of the agent. -/
  | move (m : Move)
  /-- The host publishes an event, which it may have created before, or published already. -/
  | publish (n : Notice)
  /-- The subscriber of a number deals with events in another way from now on. -/
  | revise (i : Nat) (s : Subscriber)

namespace Traffic

/-- What is published when something happens, and the traffic after that; none if it cannot
happen. -/
def happen? (x : Traffic) : Happening → Option (List Notice × Traffic)
  | .move m => (x.step m).map fun t => (Notice.numbered x.agent.created t.published, t.state)
  | .publish n => some ([n], { x with agent := { x.agent with
      bus := x.agent.bus.publish n, created := max x.agent.created (n.seq + 1) } })
  | .revise i s =>
    ((x.agent.fanout.boxes[i]?).filter fun m =>
      m.subscriber.name = s.name && m.subscriber.capacity = s.capacity).map fun _ =>
      ([], { x with agent := { x.agent with
        fanout := x.agent.fanout.modifyBox i ({ · with subscriber := s }) } })

end Traffic

/-- Something that has happened to an agent. -/
structure Scene where
  /-- The traffic before it. -/
  before : Traffic
  /-- What happened. -/
  happening : Happening
  /-- The events that were published. -/
  published : List Notice
  /-- The traffic after it. -/
  after : Traffic

/-- What the audience has done. -/
def Scene.deed (s : Scene) : Deed :=
  match s.happening with
  | .move (.resume k _) => s.before.deed k
  | _ => .other

/-- What has happened to a new agent, in its order. -/
inductive Story : List Scene → Traffic → Prop
  | new {config : AgentConfig} {address : String} {host : Host} {subscribers : List Subscriber}
      {a : Agent} (ha : Agent.make config address host subscribers = .ok a) :
      Story [] (.ofAgent a)
  | snoc {h : List Scene} {x y : Traffic} {e : Happening} {es : List Notice}
      (hx : Story h x) (he : x.happen? e = some (es, y)) : Story (h ++ [⟨x, e, es, y⟩]) y

/-- Each scene has a story that leads to it. -/
theorem Story.exists_before {h : List Scene} {x : Traffic} (hx : Story h x) {s : Scene}
    (hs : s ∈ h) :
    ∃ before after, h = before ++ s :: after ∧ Story before s.before ∧
      s.before.happen? s.happening = some (s.published, s.after) := by
  induction hx with
  | new ha => cases hs
  | @snoc h x y e es hx he ih =>
    rcases List.mem_append.mp hs with hs | hs
    · obtain ⟨before, after, rfl, hbefore, hhappen⟩ := ih hs
      exact ⟨before, after ++ [⟨x, e, es, y⟩], by simp, hbefore, hhappen⟩
    · obtain rfl := List.mem_singleton.mp hs
      exact ⟨h, [], rfl, hx, he⟩

/-- The scenes while some things happen one after the other, if all of them can. -/
def Traffic.play? (x : Traffic) : List Happening → Option (List Scene × Traffic)
  | [] => some ([], x)
  | e :: es => (x.happen? e).bind fun (published, y) =>
    (y.play? es).map fun (h, z) => (⟨x, e, published, y⟩ :: h, z)

theorem Traffic.play?_cons {x y z : Traffic} {e : Happening} {published : List Notice}
    {es : List Happening} {h : List Scene} (he : x.happen? e = some (published, y))
    (hy : y.play? es = some (h, z)) :
    x.play? (e :: es) = some (⟨x, e, published, y⟩ :: h, z) := by
  simp only [play?, he, hy, Option.bind_some, Option.map_some]

theorem Traffic.play?_cons_eq_some_iff {x y : Traffic} {e : Happening} {es : List Happening}
    {h : List Scene} :
    x.play? (e :: es) = some (h, y) ↔ ∃ published z h', x.happen? e = some (published, z) ∧
      z.play? es = some (h', y) ∧ h = ⟨x, e, published, z⟩ :: h' := by
  refine ⟨fun hplay => ?_, fun ⟨published, z, h', hz, hy, hh⟩ => hh ▸ play?_cons hz hy⟩
  obtain ⟨⟨published, z⟩, hz, hplay⟩ := Option.bind_eq_some_iff.mp hplay
  obtain ⟨⟨h', y'⟩, hy, heq⟩ := Option.map_eq_some_iff.mp hplay
  cases heq
  exact ⟨published, z, h', hz, hy, rfl⟩

theorem Story.play? {h h' : List Scene} {x y : Traffic} (hx : Story h x) (es : List Happening)
    (hy : x.play? es = some (h', y)) : Story (h ++ h') y := by
  induction es generalizing h h' x with
  | nil =>
    cases hy
    rwa [List.append_nil]
  | cons e es ih =>
    obtain ⟨published, z, h', hz, hrest, rfl⟩ := Traffic.play?_cons_eq_some_iff.mp hy
    rw [← List.singleton_append, ← List.append_assoc]
    exact ih (hx.snoc hz) hrest

/-- Some things that can happen to a new agent. -/
theorem exists_story {config : AgentConfig} {address : String} {host : Host}
    {subscribers : List Subscriber} {a : Agent}
    (ha : Agent.make config address host subscribers = .ok a) (es : List Happening)
    (p : List Scene → Traffic → Bool)
    (h : ((Traffic.ofAgent a).play? es).any fun r => p r.1 r.2) :
    ∃ h x, Story h x ∧ p h x := by
  obtain ⟨⟨h, x⟩, hplay, hp⟩ := (Option.any_eq_true _ _).mp h
  exact ⟨h, x, (Story.new ha).play? es hplay, hp⟩

end Agent

end FleetAgent
