import FleetAgent.Proofs.Agent.Feedback
import FleetAgent.Simulation.Start

/-!
# Interference between subscribers

The subscribers of an agent have queues and workers of their own. What one of them does reaches
another through the notices of its refusals and failures only, which get on the bus and into the
queue of the other one like all events. There they may take the room of an event, which is refused
then. So a slow subscriber keeps events from a neighbour whose queue would have had room for them;
it does not if the queue of the neighbour refuses nothing but notices.

## Main definitions

* `Agent.ordinary`: the events that are no such notices.
* `Agent.Spared`: nothing but notices is lost on the way to a subscriber.
* `Agent.Idle`: nothing is left for a subscriber on the bus or in its queue.
* `Agent.timeline`, `Agent.Inbox`: what is offered to a subscriber, and when it takes the next
  event.

## Main results

* `Agent.ordinary_accepted_eq_iff`: a queue accepts all events but notices.
* `Agent.Story.inbox`: the timeline of a subscriber decides what it processes.
* `Agent.Spared.of_room`: a queue and a bus with room for everything are enough.
* `Agent.processed_alike`: when the neighbours of a subscriber do not matter to it.
* `Agent.alarm_missed`: a slow subscriber keeps an event from its neighbour.
-/

namespace FleetAgent

theorem Mailbox.capacity_offered (m : Mailbox) (n : Notice) :
    (m.offered n).subscriber.capacity = m.subscriber.capacity := by
  unfold offered
  split_ifs <;> rfl

namespace Agent

/-- The events among some that are no notices of refusals or failures, without the numbers of their
creation. -/
def ordinary (ns : List Notice) : List Event := (ns.map (·.event)).filter (!·.isFeedback)

theorem ordinary_cons (n : Notice) (ns : List Notice) :
    ordinary (n :: ns) = if n.event.isFeedback then ordinary ns else n.event :: ordinary ns := by
  cases hf : n.event.isFeedback <;> simp [ordinary, hf]

/-- The listener does not lag behind the bus. -/
def KeepsUp (h : List Scene) : Prop := ∀ r ∈ receipts h, r.isLagged = false

instance (h : List Scene) : Decidable (KeepsUp h) :=
  inferInstanceAs (Decidable (∀ r ∈ receipts h, r.isLagged = false))

/-- Nothing but notices is lost on the way to a subscriber. -/
structure Spared (i : Nat) (h : List Scene) : Prop where
  /-- The listener loses nothing. -/
  keepsUp : KeepsUp h
  /-- The queue refuses nothing but notices. -/
  accepts : ∀ s ∈ h, ∀ n, s.deed.offered? = some n → n.event.isFeedback = false →
    s.before.audience.accepted? i s.deed = some n

/-- Nothing is left for a subscriber on the bus or in its queue. -/
structure Idle (x : Traffic) (i : Nat) : Prop where
  /-- The listener finds nothing on the bus. -/
  read : x.audience.listener?.any fun l => (x.agent.bus.receive l.cursor).1 = .empty
  /-- The worker of the subscriber finds nothing in its queue. -/
  taken : (x.agent.fanout.boxes[i]?).any fun m => m.isServed && m.waiting.isEmpty

instance (x : Traffic) (i : Nat) : Decidable (Idle x i) :=
  decidable_of_iff (_ ∧ _) ⟨fun h => ⟨h.1, h.2⟩, fun h => ⟨h.read, h.taken⟩⟩

variable {h h' : List Scene} {x x' : Traffic} {v v' : Audience} {deed : Deed}
  {es : List Notice} {i : Nat} {m m' : Mailbox}

/-! ### What is lost on the way -/

theorem eq_of_accepted? {n n' : Notice} (hn : deed.offered? = some n)
    (hacc : v.accepted? i deed = some n') : n' = n := by
  obtain ⟨hn', -⟩ := Option.filter_eq_some_iff.mp hacc
  exact Option.some.inj (hn'.symm.trans hn)

/-- A queue that refuses nothing but notices accepts all other events. -/
theorem ordinary_accepted_eq_iff (i : Nat) (h : List Scene) :
    ordinary (accepted i h) = ordinary (received h) ↔
      ∀ s ∈ h, ∀ n, s.deed.offered? = some n → n.event.isFeedback = false →
        s.before.audience.accepted? i s.deed = some n := by
  induction h with
  | nil => simp [accepted, received]
  | cons s h ih =>
    rw [List.forall_mem_cons, ← ih]
    simp only [accepted, received, List.filterMap_cons]
    cases hn : s.deed.offered? with
    | none => simp [Audience.accepted?_of_none hn]
    | some n =>
      have hlength : (ordinary (accepted i h)).length ≤ (ordinary (received h)).length :=
        (((accepted_sublist i h).map _).filter _).length_le
      cases hf : n.event.isFeedback with
      | true =>
        cases hacc : s.before.audience.accepted? i s.deed with
        | none => simp [ordinary_cons, hf]
        | some n' =>
          obtain rfl := eq_of_accepted? hn hacc
          simp [ordinary_cons, hf]
      | false =>
        cases hacc : s.before.audience.accepted? i s.deed with
        | none =>
          -- the refused event is among those that the listener has got, but not among those
          -- accepted
          refine iff_of_false (fun heq => ?_) (by simp [hf])
          replace heq : ordinary (accepted i h) = n.event :: ordinary (received h) := by
            simpa [accepted, received, ordinary_cons, hf] using heq
          rw [heq, List.length_cons] at hlength
          exact Nat.not_succ_le_self _ hlength
        | some n' =>
          obtain rfl := eq_of_accepted? hn hacc
          simp [ordinary_cons, hf]

instance (i : Nat) (h : List Scene) : Decidable (Spared i h) :=
  decidable_of_iff (KeepsUp h ∧ ordinary (accepted i h) = ordinary (received h))
    ⟨fun hs => ⟨hs.1, (ordinary_accepted_eq_iff i h).mp hs.2⟩,
      fun hs => ⟨hs.keepsUp, (ordinary_accepted_eq_iff i h).mpr hs.accepts⟩⟩

/-- Without a lag the listener has got what was published up to some point. -/
theorem KeepsUp.received_prefix (hkeeps : KeepsUp h) (hx : Story h x) :
    received h <+: published h := by
  obtain ⟨unread, hreads⟩ := (accounts_of_story hx).reads
  have hitems := hreads.items_append hkeeps
  rw [receipts, List.filterMap_filterMap] at hitems
  exact ⟨unread, hitems⟩

/-- Without a lag the listener has got everything that was published when nothing is left on the
bus. -/
theorem KeepsUp.received_eq (hkeeps : KeepsUp h) (hx : Story h x) (hidle : Idle x i) :
    received h = published h := by
  obtain ⟨cursor, hcursor, hle, hreads⟩ := hx.reading.reads
  obtain ⟨l, hl, hr⟩ := (Option.any_eq_true _ _).mp hidle.read
  obtain ⟨-, -, hend⟩ := hx.reading.logs.reads_receive hle
  have hend : cursor = (published h).length := hend (hcursor l hl ▸ of_decide_eq_true hr)
  have hitems := hreads.items_append hkeeps
  rwa [hend, List.drop_length, List.append_nil, receipts, List.filterMap_filterMap] at hitems

/-- A subscriber has begun to process all that its queue has accepted when nothing is left there. -/
theorem Idle.started_eq (hidle : Idle x i) (hx : Story h x) : started i h = accepted i h := by
  obtain ⟨m, hm, htaken⟩ := (Option.any_eq_true _ _).mp hidle.taken
  obtain ⟨hserved, hempty⟩ := (Bool.and_eq_true _ _).mp htaken
  rw [List.isEmpty_iff] at hempty
  have hkept := (hx.account hm).kept (.inl hserved)
  rw [hempty, List.append_nil] at hkept
  exact hkept.symm

/-- A subscriber of which nothing is lost begins to process the events in the order in which they
were published. -/
theorem Spared.started_prefix (hs : Spared i h) (hx : Story h x) (hi : i < x.seats) :
    ordinary (started i h) <+: ordinary (published h) :=
  calc ordinary (started i h)
      <+: ordinary (accepted i h) := (((accounts_of_story hx).order i hi).map _).filter _
    _ = ordinary (received h) := (ordinary_accepted_eq_iff i h).mpr hs.accepts
    _ <+: ordinary (published h) := ((hs.keepsUp.received_prefix hx).map _).filter _

theorem Spared.started_eq (hs : Spared i h) (hx : Story h x) (hidle : Idle x i) :
    ordinary (started i h) = ordinary (published h) :=
  calc ordinary (started i h)
      = ordinary (accepted i h) := by rw [hidle.started_eq hx]
    _ = ordinary (received h) := (ordinary_accepted_eq_iff i h).mpr hs.accepts
    _ = ordinary (published h) := by rw [hs.keepsUp.received_eq hx hidle]

/-- Conversely nothing is lost of a subscriber that has begun to process everything. -/
theorem Spared.of_started_eq (hkeeps : KeepsUp h) (hx : Story h x) (hidle : Idle x i)
    (heq : ordinary (started i h) = ordinary (published h)) : Spared i h := by
  refine ⟨hkeeps, (ordinary_accepted_eq_iff i h).mp ?_⟩
  rw [← hidle.started_eq hx, heq, hkeeps.received_eq hx hidle]

/-! ### The timeline of a subscriber -/

/-- What concerns the queue of a subscriber. -/
inductive Tick where
  /-- An event is offered to it. -/
  | offered (e : Event)
  /-- The subscriber takes the oldest event. -/
  | taken
  /-- The worker of the subscriber ends. -/
  | ended

/-- What the audience does to the queue of a subscriber. -/
def Audience.tick? (v : Audience) (i : Nat) : Deed → Option Tick
  | .receive r => r.item?.map (.offered ·.event)
  | .start j _ => if j = i then some .taken else none
  | .finish j _ failing =>
    if j = i ∧ failing.isSome ∧ (v.fanout.boxes[i]?).any (·.subscriber.keepsName) = false then
      some .ended
    else none
  | .leave j => if j = i then some .ended else none
  | .other | .await => none

/-- The order in which events are offered to a subscriber and it takes them. -/
def timeline (i : Nat) (h : List Scene) : List Tick :=
  h.filterMap fun s => s.before.audience.tick? i s.deed

/-- The queue of a subscriber, and what it has taken from there. -/
@[ext]
structure Inbox where
  /-- The events that wait. -/
  waiting : List Event := []
  /-- The events that the subscriber has taken. -/
  taken : List Event := []
  /-- Whether the worker of the subscriber takes events. -/
  isServed : Bool := true

namespace Inbox

/-- The queue of a capacity after a tick. -/
def tick (capacity : Nat) (b : Inbox) : Tick → Inbox
  | .offered e =>
    if b.isServed ∧ b.waiting.length < capacity then { b with waiting := b.waiting ++ [e] } else b
  | .taken => match b.waiting with
    | [] => b
    | e :: rest => { b with waiting := rest, taken := b.taken ++ [e] }
  | .ended => { b with waiting := [], isServed := false }

/-- The queue of a subscriber that has begun to process some events. -/
def ofMailbox (m : Mailbox) (started : List Notice) : Inbox :=
  ⟨m.waiting.map (·.event), started.map (·.event), m.isServed⟩

theorem ofMailbox_offered (m : Mailbox) (started : List Notice) (n : Notice) :
    ofMailbox (m.offered n) started =
      (ofMailbox m started).tick m.subscriber.queueCapacity (.offered n.event) := by
  cases hr : m.refusal? with
  | none =>
    obtain ⟨hserved, hroom⟩ := Mailbox.refusal?_eq_none_iff.mp hr
    simp [Mailbox.offered_of_none hr, ofMailbox, tick, hserved, hroom]
  | some r =>
    rw [Mailbox.offered_of_some hr, ofMailbox, tick, if_neg]
    rintro ⟨hserved, hroom⟩
    have := Mailbox.refusal?_eq_none_iff.mpr ⟨hserved, by simpa using hroom⟩
    simp [this] at hr

end Inbox

/-- What the audience does to the queue of a subscriber and its capacity. -/
theorem Attends.inbox (hd : Attends v deed es v') (hm : v.fanout.boxes[i]? = some m)
    (hm' : v'.fanout.boxes[i]? = some m') (st : List Notice) :
    Inbox.ofMailbox m' (st ++ (deed.started? i).toList) = (v.tick? i deed).toList.foldl
        (Inbox.tick m.subscriber.queueCapacity) (Inbox.ofMailbox m st) ∧
      m'.subscriber.capacity = m.subscriber.capacity := by
  have hsame {a b : Mailbox} (h : some a = some b) : b = a := (Option.some.inj h).symm
  -- the queue stays as it is
  have hstill (htick : v.tick? i deed = none) (hst : deed.started? i = none)
      (hbox : m'.waiting = m.waiting ∧ m'.isServed = m.isServed ∧
        m'.subscriber.capacity = m.subscriber.capacity) :
      Inbox.ofMailbox m' (st ++ (deed.started? i).toList) = (v.tick? i deed).toList.foldl
          (Inbox.tick m.subscriber.queueCapacity) (Inbox.ofMailbox m st) ∧
        m'.subscriber.capacity = m.subscriber.capacity := by
    simp only [htick, hst, Inbox.ofMailbox, hbox, Option.toList_none, List.append_nil,
      List.foldl_nil, and_self]
  cases hd with
  | publish | lag | drain | await | retire =>
    obtain rfl := hsame (hm.symm.trans hm')
    exact hstill rfl rfl ⟨rfl, rfl, rfl⟩
  | revise j m₀ s hj hname hcapacity =>
    rw [Fanout.getElem?_modifyBox, hm] at hm'
    obtain rfl := hsame hm'
    by_cases hji : j = i
    · obtain rfl := hsame (hm.symm.trans (hji ▸ hj))
      exact hstill rfl rfl (by simpa [hji] using hcapacity)
    · exact hstill rfl rfl (by simp [hji])
  | close =>
    obtain ⟨m₀, hm₀, rfl⟩ := Option.map_eq_some_iff.mp ((List.getElem?_map ..).symm.trans hm')
    obtain rfl := hsame (hm.symm.trans hm₀)
    exact hstill rfl rfl ⟨rfl, rfl, rfl⟩
  | hand l n cursor first hl hstage hr =>
    obtain ⟨m₀, hm₀, rfl⟩ := Option.map_eq_some_iff.mp ((List.getElem?_map ..).symm.trans hm')
    obtain rfl := hsame (hm.symm.trans hm₀)
    have hnone : (Deed.receive (.item n)).started? i = none := rfl
    rw [hnone, Option.toList_none, List.append_nil, Inbox.ofMailbox_offered]
    exact ⟨rfl, m₀.capacity_offered n⟩
  | start j n rest m₀ hw hj hqueue =>
    rw [Fanout.getElem?_modifyBox, hm] at hm'
    obtain rfl := hsame hm'
    by_cases hji : j = i
    · subst hji
      obtain rfl := hsame (hm.symm.trans hj)
      simp [Deed.started?, Audience.tick?, Inbox.ofMailbox, Inbox.tick, hqueue]
    · exact hstill (if_neg hji) (if_neg hji) (by simp [hji])
  | leave j m₀ hw hj hqueue hfed =>
    rw [Audience.lose, Fanout.getElem?_modifyBox, hm] at hm'
    obtain rfl := hsame hm'
    by_cases hji : j = i
    · simp [Deed.started?, Audience.tick?, Inbox.ofMailbox, Inbox.tick, Mailbox.left, hji]
    · exact hstill (if_neg hji) rfl (by simp [hji])
  | finish j n m₀ hw hj hok =>
    obtain rfl := hsame (hm.symm.trans hm')
    exact hstill (by simp [Audience.tick?]) rfl ⟨rfl, rfl, rfl⟩
  | report j n m₀ failing first hw hj hfails hname =>
    obtain rfl := hsame (hm.symm.trans hm')
    refine hstill (if_neg ?_) rfl ⟨rfl, rfl, rfl⟩
    rintro ⟨rfl, -, hnone⟩
    simp [hj, hname] at hnone
  | collapse j n m₀ failing hw hj hfails hname =>
    rw [Audience.lose, Fanout.getElem?_modifyBox, hm] at hm'
    obtain rfl := hsame hm'
    by_cases hji : j = i
    · subst hji
      simp [Deed.started?, Audience.tick?, Inbox.ofMailbox, Inbox.tick, Mailbox.left, hj, hname]
    · exact hstill (if_neg fun h => hji h.1) rfl (by simp [hji])

theorem Attends.exists_mailbox (hd : Attends v deed es v') (hm' : v'.fanout.boxes[i]? = some m') :
    ∃ m, v.fanout.boxes[i]? = some m :=
  ⟨_, List.getElem?_eq_getElem (hd.length_boxes ▸ (List.getElem?_eq_some_iff.mp hm').1)⟩

/-- The timeline of a subscriber decides what waits in its queue and what it has begun to
process. -/
theorem Story.inbox (hx : Story h x) (hm : x.agent.fanout.boxes[i]? = some m) :
    (timeline i h).foldl (Inbox.tick m.subscriber.queueCapacity) {} =
      Inbox.ofMailbox m (started i h) := by
  induction hx generalizing m with
  | @new config address host subscribers a ha =>
    have hfanout : a.fanout = .ofSubscribers subscribers := congrArg Outlet.fanout (outlet_make ha)
    change a.fanout.boxes[i]? = some m at hm
    rw [hfanout] at hm
    obtain ⟨s, hs, rfl⟩ := Option.map_eq_some_iff.mp ((List.getElem?_map ..).symm.trans hm)
    rfl
  | @snoc h x y e es hx he ih =>
    have hattends := (hx.seated.attends_happen he).1
    obtain ⟨m₀, hm₀⟩ := hattends.exists_mailbox hm
    obtain ⟨hinbox, hcapacity⟩ := hattends.inbox hm₀ hm (started i h)
    rw [timeline, started, filterMap_concat, filterMap_concat, List.foldl_append,
      Subscriber.queueCapacity, hcapacity]
    exact (congrArg (fun b => List.foldl _ b _) (ih hm₀)).trans hinbox.symm

/-- Subscribers with queues of one capacity and with one timeline process the same events. -/
theorem started_eq_of_timeline_eq (hx : Story h x) (hx' : Story h' x')
    (hm : x.agent.fanout.boxes[i]? = some m) (hm' : x'.agent.fanout.boxes[i]? = some m')
    (hcapacity : m'.subscriber.capacity = m.subscriber.capacity)
    (htimeline : timeline i h = timeline i h') :
    (started i h).map (·.event) = (started i h').map (·.event) := by
  have hinbox' := hx'.inbox hm'
  rw [Subscriber.queueCapacity, hcapacity, ← htimeline] at hinbox'
  exact congrArg Inbox.taken ((hx.inbox hm).symm.trans hinbox')

/-! ### Room for everything -/

/-- A worker that has ended does not come back. -/
theorem Inbox.isServed_of_foldl {capacity : Nat} {b : Inbox} (ts : List Tick)
    (h : (ts.foldl (Inbox.tick capacity) b).isServed) : b.isServed := by
  induction ts generalizing b with
  | nil => exact h
  | cons t ts ih =>
    have hb := ih h
    cases t with
    | offered e =>
      simp only [tick] at hb
      split_ifs at hb <;> exact hb
    | taken =>
      simp only [tick] at hb
      split at hb <;> exact hb
    | ended => cases hb

/-- The queue of a subscriber has had its capacity before, and a worker if it still has one. -/
theorem Story.mailbox_before (hx : Story h x) (hm : x.agent.fanout.boxes[i]? = some m) {s : Scene}
    (hs : s ∈ h) : ∃ m₀, s.before.agent.fanout.boxes[i]? = some m₀ ∧
      m₀.subscriber.capacity = m.subscriber.capacity ∧ (m.isServed → m₀.isServed) := by
  induction hx generalizing m with
  | new ha => cases hs
  | @snoc h x y e es hx he ih =>
    have hattends := (hx.seated.attends_happen he).1
    obtain ⟨m₁, hm₁⟩ := hattends.exists_mailbox hm
    obtain ⟨hinbox, hcapacity⟩ := hattends.inbox hm₁ hm []
    have hserved (hm : m.isServed) : m₁.isServed :=
      Inbox.isServed_of_foldl _ ((congrArg Inbox.isServed hinbox).symm.trans hm)
    rcases List.mem_append.mp hs with hs | hs
    · obtain ⟨m₀, hm₀, hcapacity₀, hserved₀⟩ := ih hm₁ hs
      exact ⟨m₀, hm₀, hcapacity₀.trans hcapacity.symm, hserved₀ ∘ hserved⟩
    · obtain rfl := List.mem_singleton.mp hs
      exact ⟨m₁, hm₁, hcapacity.symm, hserved⟩

theorem Attends.retained_eq (hd : Attends v deed es v') : v'.bus.retained = v.bus.retained := by
  cases hd with
  | publish es | hand l n cursor first => exact Bus.retained_publishAll ..
  | revise | lag | drain | close | await | retire | start | leave | finish | report | collapse =>
    rfl

/-- The listener loses nothing while the bus retains everything that was published. -/
theorem Attends.isLagged_receipt {log : List Notice} (hd : Attends v deed es v')
    (h : v.bus.Logs log)
    (hroom : log.length ≤ v.bus.retained) {r : Received Notice} (hr : deed.receipt? = some r) :
    r.isLagged = false := by
  cases hd with
  | hand l n cursor first hl hstage hreceive | lag l k cursor hl hstage hreceive =>
    obtain rfl := Option.some.inj hr
    have hlag := h.isLagged_receive hroom l.cursor
    rwa [hreceive] at hlag
  | drain | close =>
    obtain rfl := Option.some.inj hr
    rfl
  | publish | revise | await | retire | start | leave | finish | report | collapse => cases hr

theorem KeepsUp.of_room (hx : Story h x) (hroom : (published h).length ≤ x.agent.bus.retained) :
    KeepsUp h := by
  induction hx with
  | new ha => exact fun r hr => by cases hr
  | @snoc h x y e es hx he ih =>
    have hattends := (hx.seated.attends_happen he).1
    have hretained : y.agent.bus.retained = x.agent.bus.retained := hattends.retained_eq
    rw [hretained, published_append, List.length_append] at hroom
    have hroom : (published h).length ≤ x.agent.bus.retained := Nat.le_of_add_right_le hroom
    intro r hr
    rw [receipts, filterMap_concat] at hr
    rcases List.mem_append.mp hr with hr | hr
    · exact ih hroom r hr
    · exact hattends.isLagged_receipt hx.reading.logs hroom (Option.mem_toList.mp hr)

/-- The queue of a subscriber refuses nothing if it has room for everything that is published, and
its worker is not lost. -/
theorem Spared.of_room (hx : Story h x) (hm : x.agent.fanout.boxes[i]? = some m)
    (hserved : m.isServed) (hbus : (published h).length ≤ x.agent.bus.retained)
    (hqueue : (published h).length ≤ m.subscriber.queueCapacity) : Spared i h := by
  refine ⟨.of_room hx hbus, fun s hs n hn _ => ?_⟩
  obtain ⟨before, after, rfl, hbefore, -⟩ := hx.exists_before hs
  obtain ⟨m₀, hm₀, hcapacity, hserved₀⟩ := hx.mailbox_before hm hs
  have hkept := (hbefore.account hm₀).kept (.inl (hserved₀ hserved))
  have hwaiting : m₀.waiting.length < m₀.subscriber.queueCapacity :=
    calc m₀.waiting.length
        ≤ (accepted i before).length := by rw [hkept, List.length_append]; exact Nat.le_add_left ..
      _ ≤ (received before).length := (accepted_sublist i before).length_le
      _ < (received (before ++ s :: after)).length := by
        simp [received, hn]
      _ ≤ (published (before ++ s :: after)).length := (received_sublist hx).length_le
      _ ≤ m.subscriber.queueCapacity := hqueue
      _ = m₀.subscriber.queueCapacity := congrArg (max · 1) hcapacity.symm
  have hnone : m₀.refusal? = none := Mailbox.refusal?_eq_none_iff.mpr ⟨hserved₀ hserved, hwaiting⟩
  simp [Audience.accepted?, hn, Traffic.audience, hm₀, hnone]

/-! ### Two runs -/

/-- Follow two agents that publish the same events, but for the notices of refusals and failures, in
any order of what happens to them. A subscriber processes the same events in both, as far as it has
got, if nothing but notices is lost on the way to it; and if this holds in one of them, it processes
the same in the other one only if it holds there too. With the same capacity it processes the same
events in any case, if they are offered to it in the same order, between the same events that it
takes. -/
theorem processed_alike (hx : Story h x) (hx' : Story h' x') (hi : i < x.seats) (hi' : i < x'.seats)
    (hsame : ordinary (published h) = ordinary (published h')) :
    (Spared i h → Spared i h' →
      (ordinary (started i h) <+: ordinary (started i h') ∨
        ordinary (started i h') <+: ordinary (started i h)) ∧
      (Idle x i → Idle x' i → ordinary (started i h) = ordinary (started i h'))) ∧
    (Spared i h → KeepsUp h' → Idle x i → Idle x' i →
      ordinary (started i h) = ordinary (started i h') → Spared i h') ∧
    ∀ m m', x.agent.fanout.boxes[i]? = some m → x'.agent.fanout.boxes[i]? = some m' →
      m'.subscriber.capacity = m.subscriber.capacity → timeline i h = timeline i h' →
        (started i h).map (·.event) = (started i h').map (·.event) := by
  refine ⟨fun hspared hspared' => ⟨?_, fun hidle hidle' => ?_⟩,
    fun hspared hkeeps hidle hidle' heq => ?_,
    fun m m' hm hm' => started_eq_of_timeline_eq hx hx' hm hm'⟩
  · exact List.prefix_or_prefix_of_prefix (hspared.started_prefix hx hi)
      (hsame ▸ hspared'.started_prefix hx' hi')
  · rw [hspared.started_eq hx hidle, hspared'.started_eq hx' hidle', hsame]
  · refine .of_started_eq hkeeps hx' hidle' ?_
    rw [← heq, hspared.started_eq hx hidle, hsame]

/-- A subscriber with room for some events, next to another one. -/
private def besideAlarm (capacity : Nat) (neighbour : Subscriber) : List Subscriber :=
  [{ name := "alarm", capacity, time := fun _ => .ofMillis 100 }, neighbour]

/-- The agent with both of them. -/
private def paired (capacity : Nat) (neighbour : Subscriber) : Agent :=
  match Agent.make {} "http://127.0.0.1:12892" (.named "lobby-1")
      (besideAlarm capacity neighbour) with
  | .ok a => a
  | .error _ => default

private theorem make_paired (capacity : Nat) (neighbour : Subscriber) :
    Agent.make {} "http://127.0.0.1:12892" (.named "lobby-1") (besideAlarm capacity neighbour) =
      .ok (paired capacity neighbour) := rfl

/-- A neighbour with room for one event. -/
private def archive (time : Duration) : Subscriber :=
  { name := "archive", capacity := 1, time := fun _ => time }

/-- A neighbour that fails on an event. -/
private def fragile : Subscriber :=
  { name := "archive", capacity := 1
    failing := fun e => if e.kind = .heartbeatMissed then some (.text "blew up") else none }

/-- What is published for both. -/
private def incident : List Event :=
  [.of .sessionConnected, .of .heartbeatAcked, .of .heartbeatMissed, .of .sessionLost]

/-- It is published, and then some tasks go on. -/
private def afterIncident (tasks : List Nat) : List Happening :=
  (Notice.numbered 0 incident).map .publish ++ tasks.map fun k => .move (.resume k Traffic.elapsed)

/-- The neighbour does not take anything, so three events are refused; or it takes them at once, and
fails on one. In both runs the first subscriber has room for the events and for the notices. -/
theorem processed_alike_of_pair :
    ∃ h x h' x', Story h x ∧ Story h' x' ∧ (published h).length = 7 ∧ (published h').length = 5 ∧
      Spared 0 h ∧ Spared 0 h' ∧ ordinary (started 0 h) = incident ∧
      ordinary (started 0 h) = ordinary (started 0 h') := by
  obtain ⟨h, x, hx, hp⟩ := exists_story (make_paired 8 (archive .zero))
    (afterIncident (List.replicate 7 2 ++ List.replicate 14 0))
    (fun h x => 0 < x.seats ∧ ordinary (published h) = incident ∧ (published h).length = 7 ∧
      Spared 0 h ∧ Idle x 0 ∧ ordinary (started 0 h) = incident) (by decide +kernel)
  obtain ⟨h', x', hx', hp'⟩ := exists_story (make_paired 8 fragile)
    (afterIncident ([2, 1, 1, 2, 1, 1, 2, 1, 1, 2, 1, 1, 2] ++ List.replicate 10 0))
    (fun h x => 0 < x.seats ∧ ordinary (published h) = incident ∧ (published h).length = 5 ∧
      Spared 0 h ∧ Idle x 0) (by decide +kernel)
  obtain ⟨hi, hsame, hlength, hspared, hidle, hstarted⟩ := of_decide_eq_true hp
  obtain ⟨hi', hsame', hlength', hspared', hidle'⟩ := of_decide_eq_true hp'
  exact ⟨h, x, h', x', hx, hx', hlength, hlength', hspared, hspared', hstarted,
    ((processed_alike hx hx' hi hi' (hsame.trans hsame'.symm)).1 hspared hspared').2 hidle hidle'⟩

/-- What the first of two subscribers, with room for three events, has begun to process a second
after a host has published these four at once, each with the time at which it began. -/
private def watched (neighbour : Subscriber) : List Simulation.Sighting :=
  match Simulation.ofAgent
      { address := "http://127.0.0.1:12892", host := .named "lobby-1", config := {} }
      (besideAlarm 3 neighbour) with
  | .error _ => []
  | .ok s =>
    let steps := incident.map (fun e => { command := .publish e }) ++
      [{ command := .sleep (.ofSeconds 1) }]
    (s.run steps).1.flatMap fun o => (o.seen.lookup "alarm").getD []

/-- A neighbour that takes a second for an event refuses the third one. The notice of this takes the
room of the fourth one in the queue of the first subscriber, which gets it if the neighbour takes no
time. -/
theorem alarm_missed :
    ordinary ((watched (archive (.ofSeconds 1))).map (·.notice)) =
        [.of .sessionConnected, .of .heartbeatAcked, .of .heartbeatMissed] ∧
      ordinary ((watched (archive .zero)).map (·.notice)) =
        [.of .sessionConnected, .of .heartbeatAcked, .of .heartbeatMissed, .of .sessionLost] := by
  decide +kernel

end Agent

end FleetAgent
