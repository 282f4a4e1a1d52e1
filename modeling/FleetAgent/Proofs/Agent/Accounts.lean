import FleetAgent.Proofs.Agent.Attendance

/-!
# What becomes of the events

Everything that is published on the bus of an agent is accounted for. The listener gets it in the
order of the bus, but for what it is told to have lost. Each subscriber is offered what the listener
gets. What its queue refuses is made known, once for each refusal; what its queue accepts, the
subscriber processes in this order, one event after the other. A failure on an event is made known
too, and the worker goes on with the next event.

## Main definitions

* `Agent.published`, `Agent.received`: the events that were published, and those that the listener
  got.
* `Agent.accepted`, `Agent.started`, `Agent.finished`: the events that the queue of a subscriber
  accepted, that the subscriber began to process, and that it was done with.
* `Agent.Account`: how these lists go with the queue of the subscriber and its worker.
* `Agent.Accounts`: what becomes of the events.

## Main results

* `Agent.Account.step`: the account of a subscriber after the audience has done something.
* `Agent.accounts_of_story`: all events are accounted for.
-/

namespace FleetAgent.Agent

theorem filterMap_concat {α β : Type} (f : α → Option β) (l : List α) (a : α) :
    (l ++ [a]).filterMap f = l.filterMap f ++ (f a).toList := by
  rw [List.filterMap_append]
  cases h : f a <;> simp [h]

/-! ### What the audience has done -/

namespace Deed

/-- What the listener has got from the bus. -/
def receipt? : Deed → Option (Received Notice)
  | receive r => some r
  | _ => none

/-- The event that is offered to the subscribers. -/
def offered? (d : Deed) : Option Notice := d.receipt?.bind Received.item?

@[simp]
theorem offered?_receive (r : Received Notice) : (receive r).offered? = r.item? := rfl

/-- The event that the subscriber of a number begins to process. -/
def started? (i : Nat) : Deed → Option Notice
  | start j n => if j = i then some n else none
  | _ => none

/-- The event with which the subscriber of a number is done. -/
def finished? (i : Nat) : Deed → Option Notice
  | finish j n _ => if j = i then some n else none
  | _ => none

/-- Whether a subscriber fails on an event of some kind. -/
def fails (p : Event → Bool) : Deed → Bool
  | finish _ n (some _) => p n.event
  | other | receive _ | await | start _ _ | finish _ _ none | leave _ => false

end Deed

namespace Audience

/-- The event that the queue of a subscriber accepts. -/
def accepted? (v : Audience) (i : Nat) (d : Deed) : Option Notice :=
  d.offered?.filter fun _ => (v.fanout.boxes[i]?).any (·.refusal?.isNone)

theorem accepted?_of_none {v : Audience} {i : Nat} {d : Deed} (hd : d.offered? = none) :
    v.accepted? i d = none := by
  rw [accepted?, hd, Option.filter_none]

/-- Whether a subscriber fails in a way that cannot be reported, as its name cannot be asked for.
Its worker ends then. -/
def Collapses (v : Audience) (i : Nat) (d : Deed) : Prop :=
  ∃ n failing, d = .finish i n (some failing) ∧
    (v.fanout.boxes[i]?).any (·.subscriber.keepsName) = false

end Audience

/-- The events that were published. -/
def published (h : List Scene) : List Notice := h.flatMap (·.published)

/-- What the listener has got from the bus. -/
def receipts (h : List Scene) : List (Received Notice) := h.filterMap (·.deed.receipt?)

/-- The events that the listener has got. -/
def received (h : List Scene) : List Notice := h.filterMap (·.deed.offered?)

/-- The events that the queue of a subscriber has accepted. -/
def accepted (i : Nat) (h : List Scene) : List Notice :=
  h.filterMap fun s => s.before.audience.accepted? i s.deed

/-- The events that a subscriber has begun to process. -/
def started (i : Nat) (h : List Scene) : List Notice := h.filterMap (·.deed.started? i)

/-- The events with which a subscriber is done. -/
def finished (i : Nat) (h : List Scene) : List Notice := h.filterMap (·.deed.finished? i)

theorem published_append (h h' : List Scene) : published (h ++ h') = published h ++ published h' :=
  List.flatMap_append

theorem published_singleton (s : Scene) : published [s] = s.published := by
  rw [published, List.flatMap_singleton]

theorem receipts_append (h h' : List Scene) : receipts (h ++ h') = receipts h ++ receipts h' :=
  List.filterMap_append

theorem receipts_singleton (s : Scene) : receipts [s] = s.deed.receipt?.toList := by
  rw [receipts, List.filterMap_cons]
  cases s.deed.receipt? <;> rfl

/-- The event that a worker processes. -/
def WorkerStage.event? : WorkerStage → Option Notice
  | .idle => none
  | .busy n => some n

/-! ### The account of a subscriber -/

/-- How the queue of a subscriber and its worker go with the events that the queue has accepted,
that the subscriber has begun to process, and that it was done with. Its worker may have been
`lost`. -/
structure Account (v : Audience) (i : Nat) (m : Mailbox) (accepted started finished : List Notice)
    (lost : Prop) : Prop where
  /-- The queue holds no more than its capacity. -/
  room : m.waiting.length ≤ m.subscriber.queueCapacity
  /-- The queue is served while there is a worker. -/
  served : m.isServed = (v.worker? i).isSome
  /-- A queue that is not served holds nothing. -/
  gone : m.isServed = false → m.waiting = []
  /-- What was accepted is processed in this order, and the rest waits. -/
  kept : m.isServed ∨ ¬ lost → accepted = started ++ m.waiting
  /-- What is processed was accepted before, in this order. -/
  order : started <+: accepted
  /-- The events are processed one after the other. -/
  alone : started = finished ++ ((v.worker? i).bind WorkerStage.event?).toList

variable {v v' : Audience} {deed : Deed} {es acc st fin : List Notice} {i : Nat} {m m' : Mailbox}
  {lost : Prop}

/-- The queue of the subscriber and its worker stay as they are. -/
theorem Account.frame {lost' : Prop} (h : Account v i m acc st fin lost)
    (hwaiting : m'.waiting = m.waiting) (hcapacity : m'.subscriber.capacity = m.subscriber.capacity)
    (hserved : m'.isServed = m.isServed) (hworker : v'.worker? i = v.worker? i)
    (hlost : lost → lost') : Account v' i m' acc st fin lost' where
  room := by rw [hwaiting, Subscriber.queueCapacity, hcapacity]; exact h.room
  served := by rw [hserved, hworker]; exact h.served
  gone hm := by rw [hwaiting]; exact h.gone (hserved ▸ hm)
  kept hl := by rw [hwaiting]; exact h.kept (hserved ▸ hl.imp_right (mt hlost))
  order := h.order
  alone := by rw [hworker]; exact h.alone

/-- The account of a subscriber after the audience has done something. -/
def AccountAfter (v : Audience) (deed : Deed) (v' : Audience) (i : Nat) (m' : Mailbox)
    (accepted started finished : List Notice) (lost : Prop) : Prop :=
  Account v' i m' (accepted ++ (v.accepted? i deed).toList)
    (started ++ (deed.started? i).toList) (finished ++ (deed.finished? i).toList)
    (lost ∨ v.Collapses i deed)

/-- Something is done that does not concern the subscriber. -/
theorem Account.still (h : Account v i m acc st fin lost) (hacc : v.accepted? i deed = none)
    (hst : deed.started? i = none) (hfin : deed.finished? i = none)
    (hwaiting : m'.waiting = m.waiting) (hcapacity : m'.subscriber.capacity = m.subscriber.capacity)
    (hserved : m'.isServed = m.isServed) (hworker : v'.worker? i = v.worker? i) :
    AccountAfter v deed v' i m' acc st fin lost := by
  rw [AccountAfter, hacc, hst, hfin]
  simpa only [Option.toList_none, List.append_nil] using
    h.frame hwaiting hcapacity hserved hworker .inl

/-- An event is offered to the queue. -/
theorem Account.hand (h : Account v i m acc st fin lost) (hm : v.fanout.boxes[i]? = some m)
    (n : Notice) (hworker : v'.worker? i = v.worker? i) :
    AccountAfter v (.receive (.item n)) v' i (m.offered n) acc st fin lost := by
  cases hr : m.refusal? with
  | some r =>
    rw [Mailbox.offered_of_some hr]
    have hacc : v.accepted? i (.receive (.item n)) = none := by
      simp [Audience.accepted?, Deed.offered?_receive, Received.item?, hm, hr]
    exact h.still hacc rfl rfl rfl rfl rfl hworker
  | none =>
    obtain ⟨hserved, hroom⟩ := Mailbox.refusal?_eq_none_iff.mp hr
    have hacc : v.accepted? i (.receive (.item n)) = some n := by
      simp [Audience.accepted?, Deed.offered?_receive, Received.item?, hm, hr]
    rw [Mailbox.offered_of_none hr, AccountAfter, hacc]
    simp only [Deed.started?, Deed.finished?, Option.toList_some, Option.toList_none,
      List.append_nil]
    exact
      { room := by simpa using Nat.succ_le_of_lt hroom
        served := by rw [hworker]; exact h.served
        gone := fun hm => absurd hserved (Bool.eq_false_iff.mp hm)
        kept := fun _ => by simp [h.kept (.inl hserved)]
        order := h.order.trans (List.prefix_append _ _)
        alone := by rw [hworker]; exact h.alone }

/-- The subscriber begins to process the oldest event of its queue. -/
theorem Account.start (h : Account v i m acc st fin lost) {n : Notice} {rest : List Notice}
    (hw : v.worker? i = some .idle) (hqueue : m.waiting = n :: rest)
    (hworker : v'.worker? i = some (.busy n)) :
    AccountAfter v (.start i n) v' i { m with waiting := rest } acc st fin lost := by
  have hserved : m.isServed := h.served.trans (by simp [hw])
  have hkept : acc = st ++ [n] ++ rest := by simpa [hqueue] using h.kept (.inl hserved)
  rw [AccountAfter, Audience.accepted?_of_none rfl]
  simp only [Deed.started?, Deed.finished?, ↓reduceIte, Option.toList_some, Option.toList_none,
    List.append_nil]
  exact
    { room := Nat.le_of_succ_le (by simpa [hqueue] using h.room)
      served := by simpa [hworker] using hserved
      gone := fun hm => absurd hserved (Bool.eq_false_iff.mp hm)
      kept := fun _ => hkept
      order := hkept ▸ List.prefix_append _ _
      alone := by simpa [hworker, hw, WorkerStage.event?] using h.alone }

/-- The subscriber is done with an event. -/
theorem Account.finish (h : Account v i m acc st fin lost) {n : Notice} (failing : Option Failing)
    (hw : v.worker? i = some (.busy n)) (hworker : v'.worker? i = some .idle) :
    AccountAfter v (.finish i n failing) v' i m acc st fin lost := by
  rw [AccountAfter, Audience.accepted?_of_none rfl]
  simp only [Deed.started?, Deed.finished?, ↓reduceIte, Option.toList_some, Option.toList_none,
    List.append_nil]
  exact
    { room := h.room
      served := by simpa [hworker, hw] using h.served
      gone := h.gone
      kept := fun _ => h.kept (.inl (h.served.trans (by simp [hw])))
      order := h.order
      alone := by simpa [hworker, hw, WorkerStage.event?] using h.alone }

/-- The worker ends. Its queue is empty, or it is lost. -/
theorem Account.lose {lost' : Prop} (h : Account v i m acc st fin lost)
    (hqueue : m.waiting = [] ∨ lost') (hlost : lost → lost') :
    Account (v.lose i) i m.left acc st (fin ++ ((v.worker? i).bind WorkerStage.event?).toList)
      lost' := by
  have hworker : (v.lose i).worker? i = none := if_pos rfl
  exact
    { room := Nat.zero_le _
      served := by rw [hworker]; rfl
      gone := fun _ => rfl
      kept := fun hl => by
        have hl' : ¬ lost' := hl.resolve_left Bool.false_ne_true
        rw [h.kept (.inr (mt hlost hl')), hqueue.resolve_right hl']
        rfl
      order := h.order
      alone := by simpa [hworker] using h.alone }

/-- The worker leaves when its queue is empty and nobody feeds it. -/
theorem Account.leave (h : Account v i m acc st fin lost) (hw : v.worker? i = some .idle)
    (hqueue : m.waiting = []) :
    AccountAfter v (.leave i) (v.lose i) i m.left acc st fin lost := by
  have hleft : Account (v.lose i) i m.left acc st _ (lost ∨ v.Collapses i (.leave i)) :=
    h.lose (.inl hqueue) .inl
  rw [AccountAfter, Audience.accepted?_of_none rfl]
  simpa [Deed.started?, Deed.finished?, hw, WorkerStage.event?] using hleft

/-- The worker breaks down with the subscriber, whose name cannot be asked for. -/
theorem Account.collapse (h : Account v i m acc st fin lost) (hm : v.fanout.boxes[i]? = some m)
    {n : Notice} (failing : Failing) (hw : v.worker? i = some (.busy n))
    (hname : m.subscriber.keepsName = false) :
    AccountAfter v (.finish i n (some failing)) (v.lose i) i m.left acc st fin lost := by
  have hcollapses : v.Collapses i (.finish i n (some failing)) :=
    ⟨n, failing, rfl, by simp [hm, hname]⟩
  have hleft : Account (v.lose i) i m.left acc st _
      (lost ∨ v.Collapses i (.finish i n (some failing))) :=
    h.lose (.inr (.inr hcollapses)) .inl
  rw [AccountAfter, Audience.accepted?_of_none rfl]
  simpa [Deed.started?, Deed.finished?, hw, WorkerStage.event?] using hleft

/-- What the audience does is put to the account of each subscriber. -/
theorem Account.step (h : Account v i m acc st fin lost) (hm : v.fanout.boxes[i]? = some m)
    (hd : Attends v deed es v') (hm' : v'.fanout.boxes[i]? = some m') :
    AccountAfter v deed v' i m' acc st fin lost := by
  have hsame {a b : Mailbox} (h : some a = some b) : b = a := (Option.some.inj h).symm
  cases hd with
  | publish | lag | drain | await | retire =>
    obtain rfl := hsame (hm.symm.trans hm')
    exact h.still rfl rfl rfl rfl rfl rfl rfl
  | revise j m₀ s hj hname hcapacity =>
    rw [Fanout.getElem?_modifyBox, hm] at hm'
    obtain rfl := hsame hm'
    refine h.still rfl rfl rfl ?_ ?_ ?_ rfl
    · split_ifs <;> rfl
    · split_ifs with hji
      · rw [hcapacity, Option.some.inj (hm.symm.trans (hji ▸ hj))]
      · rfl
    · split_ifs <;> rfl
  | close =>
    obtain ⟨m₀, hm₀, rfl⟩ := Option.map_eq_some_iff.mp ((List.getElem?_map ..).symm.trans hm')
    obtain rfl := hsame (hm.symm.trans hm₀)
    exact h.still rfl rfl rfl rfl rfl rfl rfl
  | hand l n cursor first hl hstage hr =>
    obtain ⟨m₀, hm₀, rfl⟩ := Option.map_eq_some_iff.mp ((List.getElem?_map ..).symm.trans hm')
    obtain rfl := hsame (hm.symm.trans hm₀)
    exact h.hand hm n rfl
  -- a worker is that of the subscriber, or of another one
  | start j n rest m₀ hw hj hqueue =>
    rw [Fanout.getElem?_modifyBox, hm] at hm'
    obtain rfl := hsame hm'
    by_cases hji : j = i
    · subst hji
      obtain rfl := hsame (hm.symm.trans hj)
      simp only [↓reduceIte]
      exact h.start hw hqueue (if_pos rfl)
    · simp only [hji, ↓reduceIte]
      exact h.still rfl (if_neg hji) rfl rfl rfl rfl (if_neg (Ne.symm hji))
  | leave j m₀ hw hj hqueue hfed =>
    rw [Audience.lose, Fanout.getElem?_modifyBox, hm] at hm'
    obtain rfl := hsame hm'
    by_cases hji : j = i
    · subst hji
      obtain rfl := hsame (hm.symm.trans hj)
      simp only [↓reduceIte]
      exact h.leave hw hqueue
    · simp only [hji, ↓reduceIte]
      exact h.still rfl rfl rfl rfl rfl rfl (if_neg (Ne.symm hji))
  | finish j n m₀ hw hj hok | report j n m₀ failing first hw hj hfails hname =>
    obtain rfl := hsame (hm.symm.trans hm')
    by_cases hji : j = i
    · subst hji
      exact h.finish _ hw (if_pos rfl)
    · exact h.still rfl rfl (if_neg hji) rfl rfl rfl (if_neg (Ne.symm hji))
  | collapse j n m₀ failing hw hj hfails hname =>
    rw [Audience.lose, Fanout.getElem?_modifyBox, hm] at hm'
    obtain rfl := hsame hm'
    by_cases hji : j = i
    · subst hji
      obtain rfl := hsame (hm.symm.trans hj)
      simp only [↓reduceIte]
      exact h.collapse hm failing hw hname
    · simp only [hji, ↓reduceIte]
      exact h.still rfl rfl (if_neg hji) rfl rfl rfl (if_neg (Ne.symm hji))

/-! ### All events -/

/-- How what the listener has got goes with the log of the bus and the cursor of the listener. -/
structure Reading (v : Audience) (log : List Notice) (rs : List (Received Notice)) : Prop where
  /-- The bus holds the end of the log. -/
  logs : v.bus.Logs log
  /-- The listener has got what is before its cursor. -/
  reads : ∃ cursor, (∀ l, v.listener? = some l → l.cursor = cursor) ∧ cursor ≤ log.length ∧
    Received.Reads rs log (log.drop cursor)

section Reading

variable {log : List Notice} {rs : List (Received Notice)} {l : Listener} {got : Received Notice}
  {cursor : Nat}

/-- Something is done that the listener has no part in. -/
theorem Reading.still (h : Reading v log rs) (es : List Notice)
    (hbus : v'.bus = v.bus.publishAll es)
    (hl : ∀ l', v'.listener? = some l' → ∃ l, v.listener? = some l ∧ l'.cursor = l.cursor) :
    Reading v' (log ++ es) rs := by
  obtain ⟨cursor, hcursor, hle, hreads⟩ := h.reads
  refine ⟨hbus ▸ h.logs.publishAll es, cursor, fun l' hl' => ?_, ?_, ?_⟩
  · obtain ⟨l, hl, heq⟩ := hl l' hl'
    exact heq.trans (hcursor l hl)
  · rw [List.length_append]
    exact Nat.le_add_right_of_le hle
  · rw [List.drop_append_of_le_length hle]
    exact hreads.publish es

/-- The listener gets an item, or is told of a loss. -/
theorem Reading.receive (h : Reading v log rs) (hl : v.listener? = some l)
    (hr : v.bus.receive l.cursor = (got, cursor)) (es : List Notice)
    (hbus : v'.bus = v.bus.publishAll es)
    (hl' : ∀ l', v'.listener? = some l' → l'.cursor = cursor) :
    Reading v' (log ++ es) (rs ++ [got]) := by
  obtain ⟨cursor', hcursor, hle, hreads⟩ := h.reads
  have hreceive := h.logs.reads_receive hle
  rw [← hcursor l hl, hr] at hreceive
  obtain ⟨hgot, hle', -⟩ := hreceive
  refine ⟨hbus ▸ h.logs.publishAll es, cursor, hl', ?_, ?_⟩
  · rw [List.length_append]
    exact Nat.le_add_right_of_le hle'
  · rw [List.drop_append_of_le_length hle']
    rw [← hcursor l hl] at hreads
    exact (hreads.append hgot).publish es

/-- The listener finds nothing on the bus. -/
theorem Reading.empty (h : Reading v log rs) (hl : v.listener? = some l) (hbus : v'.bus = v.bus)
    (hl' : ∀ l', v'.listener? = some l' → l'.cursor = l.cursor) :
    Reading v' log (rs ++ [.empty]) := by
  obtain ⟨cursor, hcursor, hle, hreads⟩ := h.reads
  exact ⟨hbus ▸ h.logs, cursor, fun l' h' => (hl' l' h').trans (hcursor l hl), hle,
    hreads.append (.empty (.nil _))⟩

theorem Reading.step (h : Reading v log rs) (hd : Attends v deed es v') :
    Reading v' (log ++ es) (rs ++ deed.receipt?.toList) := by
  have hstill (hd : deed.receipt? = none) (hbus : v'.bus = v.bus.publishAll es)
      (hl : ∀ l', v'.listener? = some l' → ∃ l, v.listener? = some l ∧ l'.cursor = l.cursor) :
      Reading v' (log ++ es) (rs ++ deed.receipt?.toList) := by
    rw [hd, Option.toList_none, List.append_nil]
    exact h.still es hbus hl
  cases hd with
  | hand l n cursor first hl hstage hr =>
    exact h.receive hl hr _ rfl fun l' hl' => Option.some.inj hl' ▸ rfl
  | lag l skipped cursor hl hstage hr =>
    exact h.receive hl hr [] rfl fun l' hl' => Option.some.inj hl' ▸ rfl
  | drain l hl | close l hl =>
    rw [List.append_nil]
    exact h.empty hl rfl fun l' hl' => Option.some.inj hl' ▸ rfl
  | await l i hl => exact hstill rfl rfl fun l' hl' => ⟨l, hl, Option.some.inj hl' ▸ rfl⟩
  | retire => exact hstill rfl rfl fun l' hl' => by cases hl'
  | publish | revise | start | leave | finish | report | collapse =>
    exact hstill rfl rfl fun l' hl' => ⟨l', hl', rfl⟩

end Reading

/-! ### What is made known -/

/-- An event that is offered to a subscriber is accepted, unless the queue is full or the worker is
gone. -/
theorem Account.accepts (h : Account v i m acc st fin lost) (hm : v.fanout.boxes[i]? = some m)
    {n : Notice} (hn : deed.offered? = some n) :
    v.accepted? i deed = some n ∨ m.waiting.length = m.subscriber.queueCapacity ∨
      v.worker? i = none := by
  cases hr : m.refusal? with
  | none => exact .inl (by simp [Audience.accepted?, hn, hm, hr])
  | some r =>
    cases r with
    | full => exact .inr (.inl (Nat.le_antisymm h.room (Mailbox.refusal?_eq_full_iff.mp hr).2))
    | closed =>
      have hserved := h.served.symm.trans (Mailbox.refusal?_eq_closed_iff.mp hr)
      exact .inr (.inr (by simpa using hserved))

/-- What the queue of a subscriber accepts was offered to it, in this order. -/
theorem accepted_sublist (i : Nat) (h : List Scene) : (accepted i h).Sublist (received h) := by
  induction h with
  | nil => exact .slnil
  | cons s h ih =>
    simp only [accepted, received, List.filterMap_cons, Audience.accepted?] at ih ⊢
    cases s.deed.offered? with
    | none => exact ih
    | some n =>
      simp only [Option.filter_some]
      split_ifs
      · exact ih.cons_cons n
      · exact ih.cons n

/-- Each refusal of an event is made known, unless the event makes known such a refusal. -/
theorem Attends.overflows (hd : Attends v deed es v') {n : Notice} (hn : deed.offered? = some n) :
    es.map (·.event) = Fanout.overflows v.fanout.boxes n := by
  cases hd with
  | hand l n' cursor first =>
    obtain rfl := Option.some.inj hn
    exact Notice.map_event_numbered first _
  | publish | revise | lag | drain | close | await | retire | start | leave | finish | report
  | collapse => cases hn

/-- A failure on an event is made known, and the worker goes on with its queue. -/
theorem Attends.fails {n : Notice} {failing : Failing}
    (hd : Attends v (.finish i n (some failing)) es v') (hm : v.fanout.boxes[i]? = some m)
    (hname : m.subscriber.keepsName) :
    es.map (·.event) = [.panicked m.subscriber.name failing.info] ∧ v'.worker? i = some .idle ∧
      v'.fanout = v.fanout := by
  cases hd with
  | report _ _ m' _ first hw hm' =>
    obtain rfl := Option.some.inj (hm.symm.trans hm')
    exact ⟨rfl, if_pos rfl, rfl⟩
  | collapse _ _ m' _ hw hm' hfails hname' =>
    obtain rfl := Option.some.inj (hm.symm.trans hm')
    exact absurd hname (by simp [hname'])

/-! ### All events -/

/-- Whether a subscriber fails in a way that cannot be reported. -/
def Scene.Collapses (i : Nat) (s : Scene) : Prop := s.before.audience.Collapses i s.deed

variable {h : List Scene} {x : Traffic}

theorem Story.reading (hx : Story h x) : Reading x.audience (published h) (receipts h) := by
  induction hx with
  | new ha =>
    rw [Traffic.audience_ofAgent ha]
    exact ⟨Bus.logs_nil _, 0, fun l hl => Option.some.inj hl ▸ rfl, Nat.le_refl 0, .nil _⟩
  | snoc hx he ih =>
    have hstep := ih.step (hx.seated.attends_happen he).1
    simpa only [published, receipts, List.flatMap_append, List.flatMap_singleton,
      filterMap_concat] using hstep

/-- The account of each subscriber. -/
theorem Story.account (hx : Story h x) {i : Nat} {m : Mailbox}
    (hm : x.agent.fanout.boxes[i]? = some m) :
    Account x.audience i m (accepted i h) (started i h) (finished i h)
      (∃ s ∈ h, s.Collapses i) := by
  induction hx generalizing m with
  | @new config address host subscribers a ha =>
    have hfanout : a.fanout = .ofSubscribers subscribers := congrArg Outlet.fanout (outlet_make ha)
    rw [Traffic.audience_ofAgent ha]
    change a.fanout.boxes[i]? = some m at hm
    rw [hfanout] at hm
    obtain ⟨s, hs, rfl⟩ := Option.map_eq_some_iff.mp ((List.getElem?_map ..).symm.trans hm)
    have hi : i < _ := (List.getElem?_eq_some_iff.mp hs).1
    exact
      { room := Nat.zero_le _
        served := by simp [hi]
        gone := fun _ => rfl
        kept := fun _ => rfl
        order := List.prefix_rfl
        alone := by simp [hi, WorkerStage.event?, started, finished] }
  | @snoc h x y e es hx he ih =>
    have hattends := (hx.seated.attends_happen he).1
    have hi : i < x.agent.fanout.boxes.length := by
      rw [← show y.agent.fanout.boxes.length = x.agent.fanout.boxes.length from
        hattends.length_boxes]
      exact (List.getElem?_eq_some_iff.mp hm).1
    have hstep := (ih (List.getElem?_eq_getElem hi)).step (List.getElem?_eq_getElem hi) hattends hm
    simpa only [AccountAfter, accepted, started, finished, Scene.Collapses, filterMap_concat,
      List.mem_append, List.mem_singleton, or_and_right, exists_or, exists_eq_left] using hstep

/-- What becomes of the events that are published while the scenes `h` take place. -/
structure Accounts (h : List Scene) (x : Traffic) : Prop where
  /-- The listener gets the events in the order of the bus, but for those that it is told to have
  lost. -/
  reads : ∃ unread, Received.Reads (receipts h) (published h) unread
  /-- The queue of a subscriber accepts some of what the listener has got, in this order. -/
  accepted_sublist : ∀ i, (accepted i h).Sublist (received h)
  /-- It refuses an event only if it holds as many as it can, or the worker is gone. -/
  accepts : ∀ s ∈ h, ∀ n, s.deed.offered? = some n → ∀ i m,
    s.before.agent.fanout.boxes[i]? = some m → s.before.audience.accepted? i s.deed = some n ∨
      m.waiting.length = m.subscriber.queueCapacity ∨ s.before.audience.worker? i = none
  /-- A subscriber begins to process what its queue has accepted, in this order. -/
  order : ∀ i, i < x.seats → started i h <+: accepted i h
  /-- It misses nothing of this: what is left waits, unless its worker is lost. -/
  keeps : ∀ i m, x.agent.fanout.boxes[i]? = some m →
    accepted i h = started i h ++ m.waiting ∨ ∃ s ∈ h, s.Collapses i
  /-- It processes one event after the other. -/
  alone : ∀ i, i < x.seats →
    started i h = finished i h ++ ((x.audience.worker? i).bind WorkerStage.event?).toList
  /-- With an event that the listener has got, a notice is published for each subscriber that
  refuses it, unless it is such a notice. -/
  overflows : ∀ s ∈ h, ∀ n, s.deed.offered? = some n →
    s.published.map (·.event) = Fanout.overflows s.before.agent.fanout.boxes n
  /-- With a failure one notice is published, and the worker goes on with its queue. -/
  fails : ∀ s ∈ h, ∀ i n failing m, s.deed = .finish i n (some failing) →
    s.before.agent.fanout.boxes[i]? = some m → m.subscriber.keepsName →
      s.published.map (·.event) = [.panicked m.subscriber.name failing.info] ∧
        s.after.audience.worker? i = some .idle ∧ s.after.agent.fanout = s.before.agent.fanout

/-- All events are accounted for. -/
theorem accounts_of_story (hx : Story h x) : Accounts h x := by
  have hbox {i : Nat} (hi : i < x.seats) : ∃ m, x.agent.fanout.boxes[i]? = some m :=
    ⟨_, List.getElem?_eq_getElem hi⟩
  refine ⟨?_, fun i => ?_, fun s hs n hn i m hm => ?_, fun i hi => ?_, fun i m hm => ?_,
    fun i hi => ?_, fun s hs n hn => ?_, fun s hs i n failing m hd hm hname => ?_⟩
  · obtain ⟨cursor, -, -, hreads⟩ := hx.reading.reads
    exact ⟨_, hreads⟩
  · exact accepted_sublist i h
  · obtain ⟨before, -, -, hbefore, -⟩ := hx.exists_before hs
    exact (hbefore.account hm).accepts hm hn
  · obtain ⟨m, hm⟩ := hbox hi
    exact (hx.account hm).order
  · by_cases hlost : ∃ s ∈ h, s.Collapses i
    · exact .inr hlost
    · exact .inl ((hx.account hm).kept (.inr hlost))
  · obtain ⟨m, hm⟩ := hbox hi
    exact (hx.account hm).alone
  · exact (hx.attends hs).overflows hn
  · have hattends := hx.attends hs
    rw [hd] at hattends
    exact hattends.fails hm hname

/-! ### Two subscribers -/

/-- A subscriber with room for one event, and one that fails on heartbeats. -/
private def neighbours : List Subscriber :=
  [{ name := "narrow", capacity := 1 },
    { name := "shaky", capacity := 8
      failing := fun e => if e.kind = .heartbeatAcked then some (.text "blew up") else none }]

/-- An agent with both of them, whose bus retains two events. -/
private def crowd : Agent :=
  match Agent.make { busCapacity := 2 } "http://127.0.0.1:12892" (.named "lobby-1") neighbours with
  | .ok a => a
  | .error _ => default

private theorem make_crowd :
    Agent.make { busCapacity := 2 } "http://127.0.0.1:12892" (.named "lobby-1") neighbours =
      .ok crowd := rfl

/-- Three events are published, of which the listener gets the last two; the second of them does not
fit into the queue of the first subscriber, and the other one fails on the first and goes on. -/
private def crowded : List Happening :=
  [.publish ⟨0, .of .heartbeatAcked⟩, .publish ⟨1, .of .heartbeatAcked⟩,
    .publish ⟨2, .of .heartbeatAcked⟩, .move (.resume 2 Traffic.elapsed),
    .move (.resume 2 Traffic.elapsed), .move (.resume 2 Traffic.elapsed),
    .move (.resume 1 Traffic.elapsed), .move (.resume 1 Traffic.elapsed),
    .move (.resume 1 Traffic.elapsed), .move (.resume 2 Traffic.elapsed)]

/-- An event is lost, another one is refused, and a subscriber fails. -/
theorem accounts_of_crowd : ∃ h x, Story h x ∧
    (receipts h = [.lagged 1, .item ⟨1, .of .heartbeatAcked⟩, .item ⟨2, .of .heartbeatAcked⟩,
      .item ⟨3, .overflow "narrow" "full"⟩] ∧
    started 1 h = [⟨1, .of .heartbeatAcked⟩, ⟨2, .of .heartbeatAcked⟩] ∧
    (published h).drop 3 = [⟨3, .overflow "narrow" "full"⟩, ⟨4, .panicked "shaky" "blew up"⟩]) ∧
    Accounts h x := by
  obtain ⟨h, x, hx, hp⟩ := exists_story make_crowd crowded
    (fun h _ => receipts h = [.lagged 1, .item ⟨1, .of .heartbeatAcked⟩,
        .item ⟨2, .of .heartbeatAcked⟩, .item ⟨3, .overflow "narrow" "full"⟩] ∧
      started 1 h = [⟨1, .of .heartbeatAcked⟩, ⟨2, .of .heartbeatAcked⟩] ∧
      (published h).drop 3 = [⟨3, .overflow "narrow" "full"⟩, ⟨4, .panicked "shaky" "blew up"⟩])
    (by decide +kernel)
  exact ⟨h, x, hx, of_decide_eq_true hp, accounts_of_story hx⟩

end FleetAgent.Agent
