import FleetAgent.Proofs.Agent.Flush

/-!
# Handing on what is left on the bus

Before the listener lets no more events into the queues, it hands on what is left on the bus. Every
queue may refuse such an event, and every refusal is told of on this very bus: there can be more to
hand on after a step than before. But a refused notice of a refusal is not told of. So an event that
is no such notice counts once for itself and once for each subscriber, a notice counts once, and
this sum falls with each step. What the bus overwrites meanwhile cannot be handed on any more and
only makes it smaller.

## Main definitions

* `Bus.backlog`: what a receiver can still get.
* `Agent.Audience.tellable`, `Agent.Audience.errand`: what the listener has left to do.
* `Agent.Audience.Spends`: how much of this is done.
* `Agent.OthersSilent`: nobody but the listener publishes.

## Main results

* `Agent.Attends.spends`: what the audience does takes from what is left to do.
* `Agent.Traffic.Seated.dwindles`: so does all that happens while others are silent.
* `Agent.Traffic.Seated.exists_play`: the listener comes to the end of the bus on its own.
* `Agent.drains_of_othersSilent`: it does so in a bounded number of steps, whatever else happens.
-/

namespace FleetAgent

/-! ### What a receiver can still get -/

namespace Bus

variable {α : Type} {b : Bus α} {cursor cursor' k : Nat} {a : α}

/-- What a receiver can still get, the newest item first. -/
def backlog (b : Bus α) (cursor : Nat) : List α := b.recent.take (b.unread cursor)

/-- The item that a receiver gets is the oldest one that it could get. -/
theorem backlog_of_item (h : b.receive cursor = (.item a, cursor')) :
    b.unread cursor = b.unread cursor' + 1 ∧ b.backlog cursor = b.backlog cursor' ++ [a] := by
  simp only [receive] at h
  split at h
  · cases h
  split at h
  · cases h
  · rename_i j hunread
    split at h
    · rename_i ha
      cases h
      have hrest : b.unread (cursor + 1) = j := by
        simp only [unread] at hunread ⊢
        omega
      rw [backlog, backlog, hunread, hrest, List.take_add_one, ha]
      exact ⟨rfl, rfl⟩
    · cases h

/-- A receiver that is told of a loss has less before it. -/
theorem backlog_of_lagged (h : b.receive cursor = (.lagged k, cursor')) :
    b.unread cursor' < b.unread cursor ∧ (b.backlog cursor').Sublist (b.backlog cursor) := by
  simp only [receive] at h
  split at h
  · rename_i hbehind
    cases h
    have hlt : b.unread (b.sent - b.retained) < b.unread cursor := by
      simp only [unread] at hbehind ⊢
      omega
    exact ⟨hlt, List.take_sublist_take_left (Nat.le_of_lt hlt)⟩
  · split at h
    · cases h
    · split at h <;> cases h

/-- A published item is one more to get, and may be in the place of others. -/
theorem backlog_publish (b : Bus α) (a : α) (cursor : Nat) :
    (b.publish a).unread cursor ≤ b.unread cursor + 1 ∧
      ((b.publish a).backlog cursor).Sublist (a :: b.backlog cursor) := by
  have hle : (b.publish a).unread cursor ≤ b.unread cursor + 1 := by
    simp only [publish, unread]
    omega
  refine ⟨hle, ?_⟩
  rw [backlog, backlog, ← List.take_succ_cons]
  simp only [publish, List.take_take]
  exact List.take_sublist_take_left (Nat.le_trans (Nat.min_le_left ..) hle)

/-- Items of another kind are published. -/
theorem backlog_publishAll (b : Bus α) (cursor : Nat) {p : α → Bool} {items : List α}
    (hitems : ∀ a ∈ items, p a = false) :
    (b.publishAll items).unread cursor ≤ b.unread cursor + items.length ∧
      ((b.publishAll items).backlog cursor).countP p ≤ (b.backlog cursor).countP p := by
  induction items generalizing b with
  | nil => exact ⟨Nat.le_refl _, Nat.le_refl _⟩
  | cons a items ih =>
    obtain ⟨ha, hitems⟩ := List.forall_mem_cons.mp hitems
    obtain ⟨hunread, hsublist⟩ := b.backlog_publish a cursor
    obtain ⟨hunreads, hcount⟩ := ih (b.publish a) hitems
    have hfirst := hsublist.countP_le (p := p)
    rw [List.countP_cons_of_neg (by simp [ha])] at hfirst
    refine ⟨?_, Nat.le_trans hcount hfirst⟩
    change ((b.publish a).publishAll items).unread cursor ≤ _
    rw [List.length_cons]
    omega

end Bus

/-- How often the listener finds nothing on the bus before it waits for the workers. -/
def ListenerStage.passes : ListenerStage → Nat
  | .following => 2
  | .draining => 1
  | .closing _ => 0

namespace Agent

variable {v v' : Audience} {deed : Deed} {es : List Notice}

/-! ### What the listener has left to do -/

namespace Audience

/-- The number of the events that the listener can still get and whose refusals are told of. -/
def tellable (v : Audience) : Nat :=
  v.listener?.elim 0 fun l => (v.bus.backlog l.cursor).countP fun n => !n.event.isOverflow

/-- What the listener has before it until it waits for the workers, if nothing is published any
more. -/
def errand (v : Audience) : Nat :=
  match v.listener? with
  | none => 0
  | some l => match l.stage with
    | .following | .draining => v.bus.unread l.cursor + l.stage.passes
    | .closing _ => 0

theorem tellable_of_listener {l : Listener} (hl : v.listener? = some l) :
    v.tellable = (v.bus.backlog l.cursor).countP fun n => !n.event.isOverflow := by
  rw [tellable, hl, Option.elim_some]

theorem errand_of_open {l : Listener} (hl : v.listener? = some l)
    (hstage : ∀ i, l.stage ≠ .closing i) : v.errand = v.bus.unread l.cursor + l.stage.passes := by
  simp only [errand, hl]
  cases hs : l.stage with
  | following | draining => rfl
  | closing i => exact absurd hs (hstage i)

theorem errand_of_closing {l : Listener} {i : Nat} (hl : v.listener? = some l)
    (hstage : l.stage = .closing i) : v.errand = 0 := by
  simp only [errand, hl, hstage]

theorem errand_le {l : Listener} (hl : v.listener? = some l) :
    v.errand ≤ v.bus.unread l.cursor + l.stage.passes := by
  cases hs : l.stage with
  | following | draining => exact Nat.le_of_eq (hs ▸ errand_of_open hl (by simp [hs]))
  | closing i => exact errand_of_closing hl hs ▸ Nat.zero_le _

/-- The audience has become `v'`, while so many notices were published and the listener has gone to
the bus so many times: what it had left to do accounts for both. -/
structure Spends (v : Audience) (notices receipts : Nat) (v' : Audience) : Prop where
  /-- The subscribers stay the same in number. -/
  seats : v'.fanout.boxes.length = v.fanout.boxes.length
  /-- The notices are those of refusals that could be told of. -/
  told : notices + v.fanout.boxes.length * v'.tellable ≤ v.fanout.boxes.length * v.tellable
  /-- What the listener has got was unread, or one of the notices. -/
  got : receipts + v'.errand ≤ v.errand + notices

/-- The listener has no part in what is done. -/
theorem Spends.still (hseats : v'.fanout.boxes.length = v.fanout.boxes.length)
    (hl : v'.listener? = v.listener?) (hbus : v'.bus = v.bus) : v.Spends 0 0 v' := by
  have htellable : v'.tellable = v.tellable := by rw [tellable, hl, hbus, tellable]
  have herrand : v'.errand = v.errand := by rw [errand, hl, hbus, errand]
  exact ⟨hseats, Nat.le_of_eq (by rw [htellable, Nat.zero_add]),
    Nat.le_of_eq (by rw [herrand, Nat.zero_add, Nat.add_zero])⟩

/-- The listener gets something from the bus, or finds nothing there. -/
theorem Spends.goes (hseats : v'.fanout.boxes.length = v.fanout.boxes.length) {l l' : Listener}
    (hl : v.listener? = some l) (hl' : v'.listener? = some l') (hstage : ∀ i, l.stage ≠ .closing i)
    {notices : Nat}
    (hunread : v'.bus.unread l'.cursor + l'.stage.passes + 1 ≤
      v.bus.unread l.cursor + l.stage.passes + notices)
    (hbacklog : notices + v.fanout.boxes.length *
        (v'.bus.backlog l'.cursor).countP (fun n => !n.event.isOverflow) ≤
      v.fanout.boxes.length * (v.bus.backlog l.cursor).countP fun n => !n.event.isOverflow) :
    v.Spends notices 1 v' := by
  have hle := errand_le hl'
  refine ⟨hseats, ?_, ?_⟩
  · rwa [tellable_of_listener hl, tellable_of_listener hl']
  · rw [errand_of_open hl hstage]
    omega

theorem Spends.trans {v'' : Audience} {m n m' n' : Nat} (h : v.Spends m n v')
    (h' : v'.Spends m' n' v'') : v.Spends (m + m') (n + n') v'' := by
  have htold := h.told
  have htold' := h'.told
  have hgot := h.got
  have hgot' := h'.got
  rw [h.seats] at htold'
  exact ⟨h'.seats.trans h.seats, by omega, by omega⟩

end Audience

/-- What the audience does takes from what the listener has left to do, if only the listener
publishes. -/
theorem Attends.spends (hd : Attends v deed es v') (hsilent : deed.receipt? = none → es = []) :
    v.Spends es.length deed.receipt?.toList.length v' := by
  have hseats := hd.length_boxes
  cases hd with
  | publish es =>
    obtain rfl := hsilent rfl
    exact .still hseats rfl rfl
  | report => cases hsilent rfl
  | revise | start | leave | finish | collapse => exact .still hseats rfl rfl
  | hand l n cursor first hl hstage hr =>
    obtain ⟨hunread, hbacklog⟩ := Bus.backlog_of_item hr
    have hevents := Notice.map_event_numbered first (Fanout.overflows v.fanout.boxes n)
    have hnotices (a : Notice)
        (ha : a ∈ Notice.numbered first (Fanout.overflows v.fanout.boxes n)) :
        (!a.event.isOverflow) = false := by
      have hmem := List.mem_map_of_mem (f := (·.event)) ha
      rw [Fanout.isOverflow_of_mem_overflows (hevents ▸ hmem), Bool.not_true]
    have hfew := Fanout.length_overflows_le v.fanout.boxes n
    rw [← hevents, List.length_map] at hfew
    obtain ⟨hunreads, hcount⟩ := v.bus.backlog_publishAll cursor hnotices
    refine .goes hseats hl rfl hstage (by dsimp only; omega) ?_
    -- the event leaves the backlog for notices of its refusals, and the refusals of these are not
    -- told of
    rw [hbacklog, List.countP_append, List.countP_singleton, Nat.mul_add, Nat.add_comm]
    refine Nat.add_le_add (Nat.mul_le_mul_left _ hcount) (Nat.le_trans hfew (Nat.le_of_eq ?_))
    cases n.event.isOverflow <;> rfl
  | lag l k cursor hl hstage hr =>
    obtain ⟨hunread, hbacklog⟩ := Bus.backlog_of_lagged hr
    refine .goes hseats hl rfl hstage (by dsimp only; omega) ?_
    rw [List.length_nil, Nat.zero_add]
    exact Nat.mul_le_mul_left _ hbacklog.countP_le
  | drain l hl hstage | close l hl hstage =>
    refine .goes hseats hl rfl (by simp [hstage]) ?_ (Nat.le_of_eq (Nat.zero_add _))
    rw [hstage]
    exact Nat.le_refl _
  | await l i hl hstage =>
    refine ⟨hseats, ?_, ?_⟩
    · rw [Audience.tellable_of_listener hl, List.length_nil, Nat.zero_add]
      exact Nat.le_refl _
    · rw [Audience.errand_of_closing hl hstage]
      exact Nat.le_refl 0
  | retire => exact ⟨hseats, Nat.zero_le _, Nat.zero_le _⟩

/-- Nothing is left on the bus for a listener that waits for the workers. -/
def Audience.Drained (v : Audience) : Prop :=
  ∀ l, v.listener? = some l → v.awaited?.isSome → (v.bus.receive l.cursor).1 = .empty

theorem Attends.drained (hd : Attends v deed es v') (hsilent : deed.receipt? = none → es = [])
    (hv : v.Drained) : v'.Drained := by
  have hstill (hl : v'.listener? = v.listener?) (hbus : v'.bus = v.bus) : v'.Drained :=
    fun l hl' hawaited => by
      rw [Audience.awaited?_congr hl hd.length_boxes] at hawaited
      exact hbus ▸ hv l (hl ▸ hl') hawaited
  have hopen {l : Listener} (hl : v'.listener? = some l) (hstage : ∀ i, l.stage ≠ .closing i) :
      v'.Drained := fun l' hl' hawaited => by
    rw [Audience.awaited?_of_open hl hstage] at hawaited
    cases hawaited
  cases hd with
  | publish es =>
    obtain rfl := hsilent rfl
    exact hstill rfl rfl
  | report => cases hsilent rfl
  | revise | start | leave | finish | collapse => exact hstill rfl rfl
  | hand l n cursor first hl hstage | lag l k cursor hl hstage => exact hopen rfl hstage
  | drain l hl hstage => exact hopen rfl (by simp)
  | close l hl hstage hr =>
    intro l' hl' _
    obtain rfl := Option.some.inj hl'
    exact hr
  | await l i hl hstage =>
    intro l' hl' _
    obtain rfl := Option.some.inj hl'
    exact hv l hl (by rw [Audience.awaited?_of_closing hl hstage]; rfl)
  | retire => exact fun l' hl' => by cases hl'

/-! ### What happens meanwhile -/

/-- Nobody but the listener publishes. -/
def OthersSilent (h : List Scene) : Prop := ∀ s ∈ h, s.deed.receipt? = none → s.published = []

namespace Traffic

variable {x y z : Traffic} {e : Happening} {happenings : List Happening} {h h' : List Scene}

/-- While the scenes have taken place and the traffic `x` has become `y`, what the listener has left
to do has dwindled. -/
structure Dwindles (x : Traffic) (h : List Scene) (y : Traffic) : Prop where
  /-- The listener and the workers keep their places. -/
  seated : y.Seated
  /-- The listener is told to end for good. -/
  flushing : x.agent.isFlushing → y.agent.isFlushing
  /-- Nothing comes on the bus once nothing is left. -/
  drained : x.audience.Drained → y.audience.Drained
  /-- What is done was to be done. -/
  spends : x.audience.Spends (published h).length (receipts h).length y.audience

theorem Dwindles.seats_eq (h : Dwindles x h' y) : y.seats = x.seats := h.spends.seats

theorem Dwindles.trans (hy : Dwindles x h y) (hz : Dwindles y h' z) : Dwindles x (h ++ h') z where
  seated := hz.seated
  flushing := hz.flushing ∘ hy.flushing
  drained := hz.drained ∘ hy.drained
  spends := by
    rw [published_append, receipts_append, List.length_append, List.length_append]
    exact hy.spends.trans hz.spends

/-- It dwindles with everything that happens. -/
theorem Seated.dwindles_happen (hx : x.Seated) {es : List Notice} (he : x.happen? e = some (es, y))
    (hsilent : OthersSilent [⟨x, e, es, y⟩]) : Dwindles x [⟨x, e, es, y⟩] y := by
  obtain ⟨hd, hy⟩ := hx.attends_happen he
  have hes := hsilent _ List.mem_cons_self
  refine ⟨hy, hd.isFlushing, hd.drained hes, ?_⟩
  rw [published_singleton, receipts_singleton]
  exact hd.spends hes

/-- It dwindles while things happen one after the other. -/
theorem Seated.dwindles (hx : x.Seated) (hplay : x.play? happenings = some (h, y))
    (hsilent : OthersSilent h) : Dwindles x h y := by
  induction happenings generalizing x h with
  | nil =>
    cases hplay
    exact ⟨hx, id, id, .still rfl rfl rfl⟩
  | cons e happenings ih =>
    obtain ⟨es, z, h', he, hrest, rfl⟩ := play?_cons_eq_some_iff.mp hplay
    obtain ⟨hfirst, hothers⟩ := List.forall_mem_cons.mp hsilent
    have hz := hx.dwindles_happen he (List.forall_mem_singleton.mpr hfirst)
    exact hz.trans (ih hz.seated hrest hothers)

end Traffic

/-! ### The end of the bus -/

theorem Audience.exists_open (h : v.awaited? = none) :
    ∃ l, v.listener? = some l ∧ ∀ i, l.stage ≠ .closing i := by
  cases hl : v.listener? with
  | none =>
    rw [awaited?_of_none hl] at h
    cases h
  | some l =>
    refine ⟨l, rfl, fun i hi => ?_⟩
    rw [awaited?_of_closing hl hi] at h
    cases h

/-- A listener that is told to end does not wait for events. -/
theorem exists_listen {a : Agent} {l : Listener} (hstage : ∀ i, l.stage ≠ .closing i)
    (hflush : a.isFlushing) : ∃ t, a.listen l = some t := by
  unfold listen
  cases hs : l.stage with
  | following =>
    dsimp only
    split
    · exact ⟨_, if_pos hflush⟩
    · exact ⟨_, if_pos hflush⟩
    · exact ⟨_, rfl⟩
  | draining =>
    dsimp only
    split <;> exact ⟨_, rfl⟩
  | closing i => exact absurd hs (hstage i)

namespace Traffic

variable {x : Traffic}

theorem waiting?_of_listener? {l : Listener} (hl : x.audience.listener? = some l) :
    x.tasks.waiting? x.seats = some (.listener l) := by
  change listenerOf? (x.tasks.waiting? x.seats) = some l at hl
  unfold listenerOf? at hl
  split at hl
  · rename_i hw
    rw [hw, Option.some.inj hl]
  · cases hl

/-- A listener that is told to end and still hands on what is left does not wait. -/
theorem exists_step_of_open (hopen : x.audience.awaited? = none) (hflush : x.agent.isFlushing)
    (d : Delivery) :
    ∃ t r, x.step (.resume x.seats d) = some t ∧ x.deed x.seats = .receive r := by
  obtain ⟨l, hl, hstage⟩ := Audience.exists_open hopen
  have hw := waiting?_of_listener? hl
  obtain ⟨v, hv⟩ := exists_listen hstage hflush
  have hsection : x.section? (.resume x.seats d) =
      some (v.map (·.map .listener fun _ => .finished)) := by
    simp only [section?, hw, Option.bind_some, resume, hv, Option.map_some]
  exact ⟨_, (x.agent.bus.receive l.cursor).1, step_eq_some_iff.mpr ⟨_, hsection, rfl⟩,
    deed_listener hw hstage⟩

/-- A listener that is told to end comes to the end of the bus if nothing else happens. -/
theorem Seated.exists_play (hx : x.Seated) (hflush : x.agent.isFlushing) (d : Delivery) :
    ∃ n h y, x.play? (List.replicate n (.move (.resume x.seats d))) = some (h, y) ∧
      OthersSilent h ∧ (receipts h).length = n ∧ y.audience.awaited?.isSome := by
  -- on both together: a notice adds one to what is unread, and takes one from what can be told of
  induction hn : x.audience.errand + x.seats * x.audience.tellable using Nat.strongRecOn
    generalizing x with
  | ind n ih =>
    cases hopen : x.audience.awaited? with
    | some i => exact ⟨0, [], x, rfl, List.forall_mem_nil _, rfl, by rw [hopen]; rfl⟩
    | none =>
      obtain ⟨t, r, ht, hr⟩ := exists_step_of_open hopen hflush d
      obtain ⟨es, he⟩ : ∃ es, x.happen? (.move (.resume x.seats d)) = some (es, t.state) :=
        ⟨_, congrArg (Option.map _) ht⟩
      have hdeed : (Scene.deed ⟨x, .move (.resume x.seats d), es, t.state⟩).receipt? = some r :=
        congrArg Deed.receipt? hr
      have hsilent : (Scene.deed ⟨x, .move (.resume x.seats d), es, t.state⟩).receipt? = none →
          es = [] := fun hnone => by
        rw [hdeed] at hnone
        cases hnone
      have hfirst := hx.dwindles_happen he (List.forall_mem_singleton.mpr hsilent)
      have htold : _ + x.seats * _ ≤ x.seats * _ := hfirst.spends.told
      have hgot := hfirst.spends.got
      rw [receipts_singleton, hdeed, Option.toList_some, List.length_singleton] at hgot
      have hless : t.state.audience.errand + t.state.seats * t.state.audience.tellable < n := by
        rw [hfirst.seats_eq]
        omega
      obtain ⟨k, h, y, hplay, hothers, hlength, hend⟩ :=
        ih _ hless hfirst.seated (hfirst.flushing hflush) rfl
      rw [hfirst.seats_eq] at hplay
      have hsilents := List.forall_mem_cons.mpr ⟨hsilent, hothers⟩
      refine ⟨k + 1, _, y, play?_cons he hplay, hsilents, ?_, hend⟩
      rw [← List.singleton_append, receipts_append, receipts_singleton, hdeed, Option.toList_some,
        List.length_append, List.length_singleton, hlength, Nat.add_comm]

end Traffic

/-- Whatever is on the bus and in the queues when the listener is told to end, it comes to the end
of the bus if nobody else publishes. It publishes at most one notice for each subscriber and each
event left that is no notice of a refusal; it gets no more than what was left and these notices, and
then finds nothing. Until then it can always go on, whatever else happens, and when it waits for the
workers nothing is left. -/
theorem drains_of_othersSilent {x : Traffic} {l : Listener} (hx : x.Seated)
    (hl : x.tasks.waiting? x.seats = some (.listener l)) (hstage : ∀ i, l.stage ≠ .closing i)
    (hflush : x.agent.isFlushing) :
    let notices := x.seats * (x.agent.bus.backlog l.cursor).countP fun n => !n.event.isOverflow
    let steps := x.agent.bus.unread l.cursor + notices + l.stage.passes
    (∀ happenings h y, x.play? happenings = some (h, y) → OthersSilent h →
      (published h).length ≤ notices ∧ (receipts h).length ≤ steps ∧ y.audience.Drained ∧
        (y.audience.awaited? = none → ∀ d, ∃ t, y.step (.resume x.seats d) = some t)) ∧
    ∀ d, ∃ n ≤ steps, ∃ h y, x.play? (List.replicate n (.move (.resume x.seats d))) = some (h, y) ∧
      y.audience.awaited?.isSome := by
  intro notices steps
  have hlistener := hx.listener?_audience hl
  have htellable : x.seats * x.audience.tellable = notices := by
    rw [Audience.tellable_of_listener hlistener]
    rfl
  have herrand : x.audience.errand = x.agent.bus.unread l.cursor + l.stage.passes :=
    Audience.errand_of_open hlistener hstage
  have hdrained : x.audience.Drained := fun l' hl' hawaited => by
    rw [Audience.awaited?_of_open hlistener hstage] at hawaited
    cases hawaited
  have hdwindles {happenings : List Happening} {h : List Scene} {y : Traffic}
      (hplay : x.play? happenings = some (h, y)) (hsilent : OthersSilent h) :
      Traffic.Dwindles x h y ∧ (published h).length ≤ notices ∧ (receipts h).length ≤ steps := by
    have hd := hx.dwindles hplay hsilent
    have htold : _ + x.seats * _ ≤ x.seats * _ := hd.spends.told
    have hgot := hd.spends.got
    exact ⟨hd, by omega, by omega⟩
  refine ⟨fun happenings h y hplay hsilent => ?_, fun d => ?_⟩
  · obtain ⟨hd, hnotices, hreceipts⟩ := hdwindles hplay hsilent
    refine ⟨hnotices, hreceipts, hd.drained hdrained, fun hopen d => ?_⟩
    obtain ⟨t, -, ht, -⟩ := Traffic.exists_step_of_open hopen (hd.flushing hflush) d
    exact ⟨t, hd.seats_eq ▸ ht⟩
  · obtain ⟨n, h, y, hplay, hsilent, hlength, hend⟩ := hx.exists_play hflush d
    obtain ⟨-, -, hreceipts⟩ := hdwindles hplay hsilent
    exact ⟨n, hlength ▸ hreceipts, h, y, hplay, hend⟩

/-! ### Two full queues -/

/-- The agent of two subscribers with room for one event each, and one event on the bus. -/
private def crammed : Agent :=
  match Agent.make { busCapacity := 1 } "http://127.0.0.1:12892" (.named "lobby-1")
    [{ name := "journal", capacity := 1 }, { name := "panel", capacity := 1 }] with
  | .ok a => a
  | .error _ => default

private theorem make_crammed :
    Agent.make { busCapacity := 1 } "http://127.0.0.1:12892" (.named "lobby-1")
      [{ name := "journal", capacity := 1 }, { name := "panel", capacity := 1 }] =
        .ok crammed := rfl

/-- The listener fills the queues with the first event, is told to end, finds nothing left on the
bus, and then two more events are published. -/
private def cramming : List Happening :=
  let go : Happening := .move (.resume 2 Traffic.elapsed)
  [.publish ⟨0, .of .heartbeatAcked⟩, go, .move (.call .disable), go, go, go, go, go,
    .publish ⟨5, .of .heartbeatAcked⟩, .publish ⟨6, .of .heartbeatAcked⟩]

/-- Of two events that are left one is lost. The other is refused twice, the first of the notices is
lost and the second one refused: the listener takes all of the five steps, and publishes two
notices. -/
theorem drains_of_crammed : ∃ h x l, Story h x ∧
    (x.tasks.waiting? x.seats = some (.listener l) ∧ l.stage = .draining ∧ x.agent.isFlushing ∧
      (x.play? (List.replicate 5 (.move (.resume x.seats Traffic.elapsed)))).any fun r =>
        (published r.1).length = 2 ∧ (receipts r.1).length = 5 ∧ r.2.audience.awaited? = some 0) ∧
    (∀ happenings h y, x.play? happenings = some (h, y) → OthersSilent h →
      (published h).length ≤ 2 ∧ (receipts h).length ≤ 5 ∧ y.audience.Drained ∧
        (y.audience.awaited? = none → ∀ d, ∃ t, y.step (.resume x.seats d) = some t)) ∧
    ∀ d, ∃ n ≤ 5, ∃ h y, x.play? (List.replicate n (.move (.resume x.seats d))) = some (h, y) ∧
      y.audience.awaited?.isSome := by
  obtain ⟨h, x, hx, hp⟩ := exists_story make_crammed cramming
    (fun _ x => (x.tasks.waiting? x.seats = some (.listener ⟨5, .draining⟩) ∧ x.agent.isFlushing ∧
        (x.play? (List.replicate 5 (.move (.resume x.seats Traffic.elapsed)))).any fun r =>
          (published r.1).length = 2 ∧ (receipts r.1).length = 5 ∧
            r.2.audience.awaited? = some 0) ∧
      x.agent.bus.unread 5 = 2 ∧
      x.seats * (x.agent.bus.backlog 5).countP (fun n => !n.event.isOverflow) = 2)
    (by decide +kernel)
  obtain ⟨⟨hl, hflush, hplay⟩, hunread, hnotices⟩ := of_decide_eq_true hp
  have hdrains := drains_of_othersSilent hx.seated hl (by simp) hflush
  simp only [hunread, hnotices] at hdrains
  exact ⟨h, x, _, hx, ⟨hl, rfl, hflush, hplay⟩, hdrains⟩

end Agent

end FleetAgent
