import FleetAgent.Proofs.Session.History
import FleetAgent.Subscriber.Fanout

/-!
# What happens to the queues of subscribers

An event that is handed to the subscribers gets to the end of every queue that does not refuse it,
and the refusals are what is published. A worker takes the oldest event of its queue; it ends when
there is none and none will come, and when a failure of its subscriber cannot be reported.

## Main definitions

* `Mailbox.refusal?`, `Mailbox.offered`: why a queue refuses an event, and the queue after the
  offer.
* `Mailbox.left`: the queue of a worker that has ended.

## Main results

* `Fanout.boxes_emit`, `Fanout.published_emit`: handing an event to the subscribers.
* `Fanout.length_overflows_le`: how many notices an event gives rise to.
* `Fanout.serve_of_cons`, `Fanout.serve_of_nil`, `Fanout.finish_of_none`, `Fanout.finish_of_some`:
  the sections of a worker.
-/

namespace FleetAgent

namespace Mailbox

variable {m : Mailbox}

/-- Why the queue refuses an event, if it does. -/
def refusal? (m : Mailbox) : Option Refusal :=
  if !m.isServed then some .closed
  else if m.waiting.length < m.subscriber.queueCapacity then none
  else some .full

/-- The queue after an event was offered to it. -/
def offered (m : Mailbox) (n : Notice) : Mailbox :=
  if m.refusal?.isNone then { m with waiting := m.waiting ++ [n] } else m

/-- The queue of a worker that has ended. -/
def left (m : Mailbox) : Mailbox := { m with isServed := false, waiting := [] }

theorem refusal?_eq_closed_iff : m.refusal? = some .closed ↔ m.isServed = false := by
  unfold refusal?
  split_ifs <;> simp_all

theorem refusal?_eq_full_iff : m.refusal? = some .full ↔
    m.isServed ∧ m.subscriber.queueCapacity ≤ m.waiting.length := by
  unfold refusal?
  split_ifs <;> simp_all

theorem refusal?_eq_none_iff : m.refusal? = none ↔
    m.isServed ∧ m.waiting.length < m.subscriber.queueCapacity := by
  unfold refusal?
  split_ifs <;> simp_all

theorem offered_of_none (h : m.refusal? = none) (n : Notice) :
    m.offered n = { m with waiting := m.waiting ++ [n] } := by
  simp [offered, h]

theorem offered_of_some {r : Refusal} (h : m.refusal? = some r) (n : Notice) : m.offered n = m := by
  simp [offered, h]

theorem offer_of_none (h : m.refusal? = none) (n : Notice) : m.offer n = .ok (m.offered n) := by
  obtain ⟨hserved, hroom⟩ := refusal?_eq_none_iff.mp h
  simp [offer, hserved, hroom, offered_of_none h]

theorem offer_of_some {r : Refusal} (h : m.refusal? = some r) (n : Notice) :
    m.offer n = .error r := by
  cases r with
  | closed => simp [offer, refusal?_eq_closed_iff.mp h]
  | full =>
    obtain ⟨hserved, hroom⟩ := refusal?_eq_full_iff.mp h
    simp [offer, hserved, Nat.not_lt.mpr hroom]

end Mailbox

namespace Fanout

variable {f : Fanout} {i : Nat} {m : Mailbox}

/-- The events that are published when an event is handed to the subscribers: a notice of every
refusal, unless the event is such a notice. -/
def overflows (boxes : List Mailbox) (n : Notice) : List Event :=
  if n.event.isOverflow then []
  else boxes.filterMap fun m => m.refusal?.map fun r => .overflow m.subscriber.name r.reason

/-- An event gives rise to one notice for each subscriber at most, and a notice of a refusal to
none. -/
theorem length_overflows_le (boxes : List Mailbox) (n : Notice) :
    (overflows boxes n).length ≤ boxes.length * (!n.event.isOverflow).toNat := by
  unfold overflows
  cases n.event.isOverflow
  · simpa using List.length_filterMap_le ..
  · simp

theorem isOverflow_of_mem_overflows {boxes : List Mailbox} {n : Notice} {e : Event}
    (he : e ∈ overflows boxes n) : e.isOverflow := by
  unfold overflows at he
  split_ifs at he
  · cases he
  · obtain ⟨m, -, hm⟩ := List.mem_filterMap.mp he
    obtain ⟨r, -, rfl⟩ := Option.map_eq_some_iff.mp hm
    rfl

theorem state_emitFrom (n : Notice) (i : Nat) (boxes : List Mailbox) :
    (emitFrom n i boxes).state = boxes.map (·.offered n) := by
  induction boxes generalizing i with
  | nil => rfl
  | cons m ms ih =>
    simp only [emitFrom, ih, List.map_cons, List.cons.injEq, and_true]
    cases h : m.refusal? with
    | none => simp [emitTo, Mailbox.offer_of_none h]
    | some r => simp [emitTo, Mailbox.offer_of_some h, Mailbox.offered_of_some h]

theorem published_emitFrom (n : Notice) (i : Nat) (boxes : List Mailbox) :
    (emitFrom n i boxes).published = overflows boxes n := by
  induction boxes generalizing i with
  | nil => simp [emitFrom, overflows, Turn.published]
  | cons m ms ih =>
    simp only [Turn.published] at ih
    simp only [emitFrom, Turn.published, List.filterMap_append, ih]
    cases h : m.refusal? with
    | none =>
      simp only [emitTo, Mailbox.offer_of_none h, overflows, List.filterMap_cons, h,
        Option.map_none]
      rfl
    | some r =>
      simp only [emitTo, Mailbox.offer_of_some h, overflows, List.filterMap_cons, h,
        Option.map_some]
      split_ifs <;> rfl

@[simp]
theorem boxes_emit (f : Fanout) (n : Notice) :
    (f.emit n).state.boxes = f.boxes.map (·.offered n) :=
  state_emitFrom n 0 f.boxes

@[simp]
theorem published_emit (f : Fanout) (n : Notice) : (f.emit n).published = overflows f.boxes n :=
  published_emitFrom n 0 f.boxes

@[simp]
theorem published_close (f : Fanout) : f.close.published = [] := by
  simp [close, Turn.published, List.filterMap_map, Effect.published?]

@[simp]
theorem length_modifyBox (f : Fanout) (i : Nat) (g : Mailbox → Mailbox) :
    (f.modifyBox i g).boxes.length = f.boxes.length := by
  simp [modifyBox]

theorem getElem?_modifyBox (f : Fanout) (i : Nat) (g : Mailbox → Mailbox) (j : Nat) :
    (f.modifyBox i g).boxes[j]? = (f.boxes[j]?).map fun m => if i = j then g m else m := by
  simp only [modifyBox, List.getElem?_modify]
  cases f.boxes[j]? <;> rfl

/-! ### The sections of a worker -/

theorem serve_of_cons (hm : f.boxes[i]? = some m) {n : Notice} {rest : List Notice}
    (hqueue : m.waiting = n :: rest) :
    f.serve i =
      { state := f.modifyBox i fun _ => { m with waiting := rest }
        effects := .handled i n :: (m.subscriber.records n.event).map .log
        result := some (.waiting (.busy n)) } := by
  simp [serve, hm, Mailbox.pop?, hqueue]

theorem serve_of_nil (hm : f.boxes[i]? = some m) (hqueue : m.waiting = []) :
    f.serve i =
      if m.isFed then { state := f, result := none }
      else (f.endWorker i).map fun _ => some (.done ()) := by
  simp [serve, hm, Mailbox.pop?, hqueue]

theorem finish_of_none (hm : f.boxes[i]? = some m) {n : Notice}
    (hok : m.subscriber.failing n.event = none) :
    f.finish i n = { state := f, result := .waiting .idle } := by
  simp [finish, hm, hok]

theorem finish_of_some (hm : f.boxes[i]? = some m) {n : Notice} {failing : Failing}
    (hfails : m.subscriber.failing n.event = some failing) :
    f.finish i n =
      if m.subscriber.keepsName then
        { state := f
          effects := [.publish (.panicked m.subscriber.name failing.info)]
          result := .waiting .idle }
      else (f.endWorker i).map .done := by
  simp [finish, hm, hfails]

end Fanout

end FleetAgent
