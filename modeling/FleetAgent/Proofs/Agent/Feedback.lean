import FleetAgent.Proofs.Agent.Accounts
import Mathlib.Algebra.BigOperators.Ring.List
import Mathlib.Algebra.Order.BigOperators.Group.Finset
import Mathlib.Algebra.Order.BigOperators.Group.List
import Mathlib.Algebra.Ring.Nat

/-!
# The feedback of notices

The notices of refusals and failures are events themselves: they get on the bus, from there to the
very subscribers that they tell of, and may give rise to other notices. A refused notice of a
refusal is not told of. A failure on a notice is, whatever the notice tells of. So the feedback dies
out if the subscribers fail on a bounded number of notices: what the listener and the workers do and
publish is bounded by the number of events that others publish and the number of these failures. A
subscriber that fails on every event, its own notices among them, keeps the feedback going without
end.

## Main definitions

* `Event.isFeedback`: the event is a notice of a refusal or of a failure.
* `Agent.told`, `Agent.relapses`: the number of events that others publish, and the number of
  failures on notices.
* `Agent.echoes`, `Agent.deeds`: the number of notices that the audience publishes, and the number
  of its deeds.

## Main results

* `Agent.feedback_bounded`: both are bounded.
* `Agent.feedback_without_end`: they are not if a subscriber fails on every event.
-/

namespace FleetAgent

/-- Whether the event is a notice of a refused event or of a failure. -/
def Event.isFeedback (e : Event) : Bool :=
  e.kind = .subscriberOverflow || e.kind = .subscriberPanicked

theorem Event.isOverflow_panicked (name info : String) :
    (panicked name info).isOverflow = false := rfl

namespace Agent

/-! ### Kinds of deeds -/

namespace Deed

/-- Whether the audience does something. -/
def isActive : Deed → Bool
  | other => false
  | receive _ | await | start _ _ | finish _ _ _ | leave _ => true

/-- Whether the listener gets something, or is told of a loss. -/
def isReceipt : Deed → Bool
  | receive r => r.item?.isSome || r.isLagged
  | other | await | start _ _ | finish _ _ _ | leave _ => false

/-- Whether the listener or a worker only comes closer to its end. -/
def isStep : Deed → Bool
  | receive r => !(r.item?.isSome || r.isLagged)
  | await | leave _ => true
  | other | start _ _ | finish _ _ _ => false

/-- Whether a subscriber begins to process an event of some kind. -/
def starts (p : Event → Bool) : Deed → Bool
  | start _ n => p n.event
  | other | receive _ | await | finish _ _ _ | leave _ => false

/-- Whether a subscriber is done with an event of some kind. -/
def finishes (p : Event → Bool) : Deed → Bool
  | finish _ n _ => p n.event
  | other | receive _ | await | start _ _ | leave _ => false

end Deed

/-- The number of events that others publish. -/
def told (h : List Scene) : Nat :=
  (h.map fun s => if s.deed.isActive then 0 else s.published.length).sum

/-- The number of notices that the audience publishes. -/
def echoes (h : List Scene) : Nat :=
  (h.map fun s => if s.deed.isActive then s.published.length else 0).sum

theorem told_append (h h' : List Scene) : told (h ++ h') = told h + told h' := by
  simp only [told, List.map_append, List.sum_append]

theorem echoes_append (h h' : List Scene) : echoes (h ++ h') = echoes h + echoes h' := by
  simp only [echoes, List.map_append, List.sum_append]

/-- The number of deeds of the audience. -/
def deeds (h : List Scene) : Nat := h.countP fun s => s.deed.isActive

/-- The number of failures on notices of refusals and failures. -/
def relapses (h : List Scene) : Nat := h.countP fun s => s.deed.fails Event.isFeedback

variable {h : List Scene} {x : Traffic} {v v' : Audience} {deed : Deed} {es : List Notice}

/-! ### The subscribers together -/

theorem countP_le_sum {α : Type} {l : List α} {n : Nat} {p : α → Bool} {q : Nat → α → Bool}
    (h : ∀ a ∈ l, p a → ∃ i < n, q i a) :
    l.countP p ≤ ∑ i ∈ Finset.range n, l.countP (q i) := by
  induction l with
  | nil => exact Nat.zero_le _
  | cons a l ih =>
    have hl := ih fun b hb => h b (List.mem_cons_of_mem _ hb)
    simp only [List.countP_cons, Finset.sum_add_distrib]
    refine Nat.add_le_add hl ?_
    split_ifs with hp
    · obtain ⟨i, hi, hq⟩ := h a List.mem_cons_self hp
      have hle := Finset.single_le_sum (f := fun i => if q i a then 1 else 0)
        (fun _ _ => Nat.zero_le _) (Finset.mem_range.mpr hi)
      simpa [hq] using hle
    · exact Nat.zero_le _

/-- Whoever processes an event is one of the subscribers. -/
theorem Attends.lt_of_finish {i : Nat} {n : Notice} {failing : Option Failing}
    (hd : Attends v (.finish i n failing) es v') : i < v.fanout.boxes.length := by
  cases hd with
  | finish _ _ m hw hm | report _ _ m _ _ hw hm | collapse _ _ m _ hw hm =>
    exact (List.getElem?_eq_some_iff.mp hm).1

theorem Attends.lt_of_start {i : Nat} {n : Notice} (hd : Attends v (.start i n) es v') :
    i < v.fanout.boxes.length := by
  cases hd with
  | start _ _ rest m hw hm => exact (List.getElem?_eq_some_iff.mp hm).1

/-- The listener gets what was published, in its order. -/
theorem received_sublist (hx : Story h x) : (received h).Sublist (published h) := by
  obtain ⟨unread, hreads⟩ := (accounts_of_story hx).reads
  have hitems := hreads.items_sublist
  rwa [receipts, List.filterMap_filterMap] at hitems

/-- What each of some subscribers makes of the events that the listener gets, all in all. -/
theorem sum_countP_le {f : Nat → List Notice} {l : List Notice} {n : Nat}
    (hf : ∀ i < n, (f i).Sublist l) (p : Event → Bool) :
    ∑ i ∈ Finset.range n, (f i).countP (fun a => p a.event) ≤ n * l.countP fun a => p a.event :=
  calc ∑ i ∈ Finset.range n, (f i).countP (fun a => p a.event)
      ≤ ∑ _i ∈ Finset.range n, l.countP fun a => p a.event :=
        Finset.sum_le_sum fun i hi => (hf i (Finset.mem_range.mp hi)).countP_le
    _ = n * l.countP fun a => p a.event := by
        rw [Finset.sum_const_nat fun _ _ => rfl, Finset.card_range]

/-- The subscribers begin to process no more events of some kind than the listener gets, each of
them. -/
theorem countP_starts_le (hx : Story h x) (p : Event → Bool) :
    h.countP (fun s => s.deed.starts p) ≤ x.seats * (received h).countP fun n => p n.event := by
  have haccounts := accounts_of_story hx
  calc h.countP (fun s => s.deed.starts p)
      ≤ ∑ i ∈ Finset.range x.seats,
          h.countP fun s => ((s.deed.started? i).map fun n => p n.event).getD false := by
        refine countP_le_sum fun s hs hp => ?_
        cases hd : s.deed with
        | start i n =>
          have hattends := hx.attends hs
          rw [hd] at hp hattends
          exact ⟨i, hx.seats_before hs ▸ hattends.lt_of_start,
            by simpa [Deed.started?, Deed.starts] using hp⟩
        | other | receive | await | finish | leave => simp [hd, Deed.starts] at hp
    _ = ∑ i ∈ Finset.range x.seats, (started i h).countP fun n => p n.event := by
        simp only [started, List.countP_filterMap]
    _ ≤ x.seats * (received h).countP fun n => p n.event :=
        sum_countP_le (fun i hi => (haccounts.order i hi).sublist.trans
          (haccounts.accepted_sublist i)) p

/-- They are done with no more events of some kind than they have begun to process. -/
theorem countP_finishes_le (hx : Story h x) (p : Event → Bool) :
    h.countP (fun s => s.deed.finishes p) ≤
      x.seats * (received h).countP fun n => p n.event := by
  have haccounts := accounts_of_story hx
  calc h.countP (fun s => s.deed.finishes p)
      ≤ ∑ i ∈ Finset.range x.seats,
          h.countP fun s => ((s.deed.finished? i).map fun n => p n.event).getD false := by
        refine countP_le_sum fun s hs hp => ?_
        cases hd : s.deed with
        | finish i n failing =>
          have hattends := hx.attends hs
          rw [hd] at hp hattends
          exact ⟨i, hx.seats_before hs ▸ hattends.lt_of_finish,
            by simpa [Deed.finished?, Deed.finishes] using hp⟩
        | other | receive | await | start | leave => simp [hd, Deed.finishes] at hp
    _ = ∑ i ∈ Finset.range x.seats, (finished i h).countP fun n => p n.event := by
        simp only [finished, List.countP_filterMap]
    _ ≤ x.seats * (received h).countP fun n => p n.event := by
        refine sum_countP_le (fun i hi => ?_) p
        have hdone : (finished i h).Sublist (started i h) := by
          rw [haccounts.alone i hi]
          exact List.sublist_append_left _ _
        exact hdone.trans ((haccounts.order i hi).sublist.trans (haccounts.accepted_sublist i))

/-! ### The notices -/

theorem countP_eq_sum {α : Type} (p : α → Bool) (l : List α) :
    l.countP p = (l.map fun a => (p a).toNat).sum := by
  induction l with
  | nil => rfl
  | cons a l ih => cases h : p a <;> simp [h, ih, Nat.add_comm]

theorem countP_received (p : Event → Bool) (h : List Scene) :
    (received h).countP (fun n => p n.event) =
      (h.map fun s => (s.deed.offered?.any fun n => p n.event).toNat).sum := by
  rw [received, List.countP_filterMap, countP_eq_sum]
  refine congrArg List.sum (List.map_congr_left fun s _ => ?_)
  cases s.deed.offered? <;> rfl

theorem countP_published (p : Event → Bool) (h : List Scene) :
    (published h).countP (fun n => p n.event) =
      (h.map fun s => (s.published.map (·.event)).countP p).sum := by
  simp only [published, List.countP_flatMap, List.countP_map, Function.comp_def]

theorem length_published (h : List Scene) : (published h).length = told h + echoes h := by
  simp only [published, List.length_flatMap, told, echoes, ← List.sum_map_add]
  refine congrArg List.sum (List.map_congr_left fun s _ => ?_)
  split_ifs <;> simp

/-- The audience publishes notices of the refusals of an event, or of a failure. -/
theorem Attends.published_cases (hd : Attends v deed es v') (hactive : deed.isActive) :
    (∃ n, deed.offered? = some n ∧ es.map (·.event) = Fanout.overflows v.fanout.boxes n) ∨
      (deed.offered? = none ∧ deed.fails (fun _ => true) ∧
        ∃ name info, es.map (·.event) = [.panicked name info]) ∨
      deed.offered? = none ∧ es = [] := by
  cases hd with
  | publish | revise => cases hactive
  | hand l n cursor first => exact .inl ⟨n, rfl, Notice.map_event_numbered first _⟩
  | report i n m failing first => exact .inr (.inl ⟨rfl, rfl, _, _, rfl⟩)
  | lag | drain | close | await | retire | start | leave | finish | collapse =>
    exact .inr (.inr ⟨rfl, rfl⟩)

/-- The number of failures. -/
def failures (h : List Scene) : Nat := h.countP fun s => s.deed.fails fun _ => true

/-- For each subscriber there is at most one notice of an event that the listener gets, and one of
each failure. -/
theorem echoes_le_add (hx : Story h x) :
    echoes h ≤ x.seats * (received h).countP (fun n => !n.event.isOverflow) + failures h := by
  rw [countP_received fun e => !e.isOverflow, failures, countP_eq_sum, echoes,
    ← List.sum_map_mul_left (r := x.seats), ← List.sum_map_add]
  refine List.sum_le_sum fun s hs => ?_
  have hlength : (s.published.map (·.event)).length = s.published.length := List.length_map _
  split_ifs with hactive
  · rcases (hx.attends hs).published_cases hactive with
      ⟨n, hn, hes⟩ | ⟨hn, hfails, name, info, hes⟩ | ⟨hn, hes⟩
    · have hle := Fanout.length_overflows_le s.before.agent.fanout.boxes n
      rw [← hlength, hes, hn, ← hx.seats_before hs]
      exact Nat.le_add_right_of_le hle
    · rw [← hlength, hes, hfails]
      exact Nat.le_add_left _ _
    · simp [hes]
  · exact Nat.zero_le _

/-- Of the events that are no notices of refusals, others have published all but the notices of
failures. -/
theorem countP_published_le (hx : Story h x) :
    (published h).countP (fun n => !n.event.isOverflow) ≤ told h + failures h := by
  rw [countP_published fun e => !e.isOverflow, failures, countP_eq_sum, told, ← List.sum_map_add]
  refine List.sum_le_sum fun s hs => ?_
  split_ifs with hactive
  · rcases (hx.attends hs).published_cases hactive with
      ⟨n, hn, hes⟩ | ⟨hn, hfails, name, info, hes⟩ | ⟨hn, hes⟩
    · have hzero : (s.published.map (·.event)).countP (fun e => !e.isOverflow) = 0 := by
        rw [hes, List.countP_eq_zero]
        intro e he
        simp [Fanout.isOverflow_of_mem_overflows he]
      rw [hzero]
      exact Nat.zero_le _
    · rw [hes, hfails]
      simp [Event.isOverflow_panicked]
    · simp [hes]
  · refine Nat.le_add_right_of_le ?_
    exact List.countP_le_length.trans_eq (List.length_map _)

/-- Of the events that are no notices, others have published all. -/
theorem countP_ordinary_le (hx : Story h x) :
    (published h).countP (fun n => !n.event.isFeedback) ≤ told h := by
  rw [countP_published fun e => !e.isFeedback, told]
  refine List.sum_le_sum fun s hs => ?_
  split_ifs with hactive
  · rcases (hx.attends hs).published_cases hactive with
      ⟨n, hn, hes⟩ | ⟨hn, hfails, name, info, hes⟩ | ⟨hn, hes⟩
    · rw [hes, Nat.le_zero, List.countP_eq_zero]
      intro e he
      rw [Event.isFeedback, ← Event.isOverflow, Fanout.isOverflow_of_mem_overflows he]
      exact Bool.false_ne_true
    · rw [hes]
      exact Nat.le_refl 0
    · simp [hes]
  · exact List.countP_le_length.trans_eq (List.length_map _)

/-- A failure is one on a notice, or one of those on the events that others publish. -/
theorem failures_le (hx : Story h x) : failures h ≤ x.seats * told h + relapses h := by
  have hsplit : failures h ≤ h.countP (fun s => s.deed.finishes fun e => !e.isFeedback) +
      relapses h := by
    rw [failures, relapses, countP_eq_sum, countP_eq_sum, countP_eq_sum, ← List.sum_map_add]
    refine List.sum_le_sum fun s _ => ?_
    cases hd : s.deed with
    | finish i n failing =>
      cases failing with
      | none => exact Nat.zero_le _
      | some failing => cases hn : n.event.isFeedback <;> simp [Deed.fails, Deed.finishes, hn]
    | other | receive | await | start | leave => exact Nat.zero_le _
  have hfinishes := countP_finishes_le hx fun e => !e.isFeedback
  have hreceived := (received_sublist hx).countP_le (p := fun n => !n.event.isFeedback)
  have hordinary := countP_ordinary_le hx
  have hle := Nat.mul_le_mul_left x.seats (hreceived.trans hordinary)
  omega

/-- The notices that the audience publishes. -/
theorem echoes_le (hx : Story h x) :
    echoes h ≤ x.seats * told h + (x.seats + 1) * (x.seats * told h + relapses h) := by
  have hechoes := echoes_le_add hx
  have hreceived := (received_sublist hx).countP_le (p := fun n => !n.event.isOverflow)
  have hle := Nat.mul_le_mul_left x.seats (hreceived.trans (countP_published_le hx))
  have hfailures := failures_le hx
  have hmul := Nat.mul_le_mul_left x.seats hfailures
  calc echoes h ≤ x.seats * (told h + failures h) + failures h :=
        hechoes.trans (Nat.add_le_add_right hle _)
    _ ≤ x.seats * told h + (x.seats * (x.seats * told h + relapses h) +
          (x.seats * told h + relapses h)) := by
        rw [Nat.mul_add, Nat.add_assoc]
        exact Nat.add_le_add_left (Nat.add_le_add hmul hfailures) _
    _ = x.seats * told h + (x.seats + 1) * (x.seats * told h + relapses h) := by
        rw [Nat.succ_mul]

/-! ### The deeds -/

/-- How often the listener can still find nothing on the bus, or wait no longer for a worker. -/
def Audience.patience (v : Audience) : Nat :=
  match v.listener? with
  | none => 0
  | some l => match l.stage with
    | .following => v.fanout.boxes.length + 3
    | .draining => v.fanout.boxes.length + 2
    | .closing i => v.fanout.boxes.length - i + 1

/-- The workers that have not ended. -/
def Audience.workers (v : Audience) : Finset Nat :=
  (Finset.range v.fanout.boxes.length).filter fun i => (v.worker? i).isSome

theorem Audience.patience_eq (hlength : v'.fanout.boxes.length = v.fanout.boxes.length)
    (hl : v'.listener?.map (·.stage) = v.listener?.map (·.stage)) : v'.patience = v.patience := by
  unfold patience
  rw [hlength]
  cases h : v.listener? <;> cases h' : v'.listener? <;> simp_all

theorem Audience.workers_eq (hlength : v'.fanout.boxes.length = v.fanout.boxes.length)
    (hw : ∀ i, (v'.worker? i).isSome = (v.worker? i).isSome) : v'.workers = v.workers := by
  simp only [workers, hlength, hw]

theorem Audience.isSome_worker?_work {i : Nat} {stage stage' : WorkerStage}
    (hw : v.worker? i = some stage) (j : Nat) :
    ((v.work i (some stage')).worker? j).isSome = (v.worker? j).isSome := by
  by_cases hj : j = i <;> simp [work, hj, hw]

theorem Audience.card_workers_lose {i : Nat} {m : Mailbox} {stage : WorkerStage}
    (hm : v.fanout.boxes[i]? = some m) (hw : v.worker? i = some stage) :
    (v.lose i).workers.card + 1 = v.workers.card := by
  have hi : i < v.fanout.boxes.length := (List.getElem?_eq_some_iff.mp hm).1
  have herase : (v.lose i).workers = v.workers.erase i := by
    ext j
    by_cases hj : j = i <;> simp [workers, lose, work, hj]
  rw [herase, Finset.card_erase_add_one (by simp [workers, hi, hw])]

/-- Of the patience of the listener and the workers that have not ended, each step takes one
away. -/
theorem Attends.steps_le (hd : Attends v deed es v') :
    v'.patience + v'.workers.card + deed.isStep.toNat ≤ v.patience + v.workers.card := by
  have hlength := hd.length_boxes
  -- most deeds leave the stage of the listener and the workers that there are as they are
  have hstill (hl : v'.listener?.map (·.stage) = v.listener?.map (·.stage))
      (hw : ∀ i, (v'.worker? i).isSome = (v.worker? i).isSome) (hstep : deed.isStep = false) :
      v'.patience + v'.workers.card + deed.isStep.toNat ≤ v.patience + v.workers.card := by
    rw [Audience.patience_eq hlength hl, Audience.workers_eq hlength hw, hstep]
    exact Nat.le_refl _
  cases hd with
  | publish | revise => exact hstill rfl (fun _ => rfl) rfl
  | hand l n cursor first hl | lag l skipped cursor hl =>
    exact hstill (by rw [hl]; rfl) (fun _ => rfl) rfl
  | start i n rest m hw => exact hstill rfl (Audience.isSome_worker?_work hw) rfl
  | finish i n m hw | report i n m failing first hw =>
    exact hstill rfl (Audience.isSome_worker?_work hw) rfl
  | drain l hl hstage | close l hl hstage | await l i hl hstage | retire l i hl hstage =>
    rw [Audience.workers_eq hlength fun _ => rfl]
    simp only [Audience.patience, hl, hstage, List.length_map]
    exact Nat.le_of_eq (by simp [Deed.isStep, Received.item?, Received.isLagged]; omega)
  | leave i m hw hm | collapse i n m failing hw hm =>
    have hpatience : (v.lose i).patience = v.patience := Audience.patience_eq hlength rfl
    rw [hpatience, ← Audience.card_workers_lose hm hw, Nat.add_assoc]
    exact Nat.add_le_add_left (Nat.add_le_add_left (Bool.toNat_le _) _) _

/-- The listener and the workers come to their ends in a bounded number of steps. -/
theorem countP_isStep_le (hx : Story h x) :
    h.countP (fun s => s.deed.isStep) + (x.audience.patience + x.audience.workers.card) ≤
      2 * x.seats + 3 := by
  induction hx with
  | @new config address host subscribers a ha =>
    have hseats : (Traffic.ofAgent a).seats = subscribers.length := by
      change (Traffic.ofAgent a).audience.fanout.boxes.length = _
      rw [Traffic.audience_ofAgent ha, Fanout.ofSubscribers, List.length_map]
    have hworkers : (Traffic.ofAgent a).audience.workers.card ≤ subscribers.length := by
      refine (Finset.card_filter_le _ _).trans_eq ?_
      rw [Finset.card_range]
      exact hseats
    have hpatience : (Traffic.ofAgent a).audience.patience = subscribers.length + 3 := by
      rw [Traffic.audience_ofAgent ha]
      simp [Audience.patience, Fanout.ofSubscribers]
    rw [hseats, hpatience, List.countP_nil]
    omega
  | @snoc h x y e es hx he ih =>
    have hattends := (hx.seated.attends_happen he).1
    have hseats : y.seats = x.seats := hattends.length_boxes
    have hsteps := hattends.steps_le
    rw [hseats, List.countP_append, List.countP_singleton]
    cases hstep : (Scene.deed ⟨x, e, es, y⟩).isStep <;>
      simp only [hstep, Bool.toNat_true, Bool.toNat_false, Bool.false_eq_true, ↓reduceIte]
        at hsteps ⊢ <;> omega

theorem countP_isReceipt_le (hx : Story h x) :
    h.countP (fun s => s.deed.isReceipt) ≤ (published h).length := by
  obtain ⟨unread, hreads⟩ := (accounts_of_story hx).reads
  refine le_trans (Nat.le_of_eq ?_) hreads.countP_le
  rw [receipts, List.countP_filterMap]
  congr 1
  funext s
  cases s.deed <;> rfl

/-- What the audience does is bounded by what is published. -/
theorem deeds_le (hx : Story h x) :
    deeds h ≤ (2 * x.seats + 1) * (told h + echoes h) + 2 * x.seats + 3 := by
  have hsplit : deeds h ≤ h.countP (fun s => s.deed.isReceipt) + h.countP (fun s => s.deed.isStep) +
      h.countP (fun s => s.deed.starts fun _ => true) +
      h.countP (fun s => s.deed.finishes fun _ => true) := by
    simp only [deeds, countP_eq_sum, ← List.sum_map_add]
    refine List.sum_le_sum fun s _ => ?_
    cases s.deed with
    | receive r =>
      cases hr : r.item?.isSome || r.isLagged <;>
        simp [Deed.isActive, Deed.isReceipt, Deed.isStep, Deed.starts, Deed.finishes, hr]
    | other | await | start | finish | leave => exact Nat.le_refl _
  have hreceipts := countP_isReceipt_le hx
  have hsteps := countP_isStep_le hx
  have hreceived := Nat.mul_le_mul_left x.seats (received_sublist hx).length_le
  have hstarts := countP_starts_le hx fun _ => true
  have hfinishes := countP_finishes_le hx fun _ => true
  rw [List.countP_true] at hstarts hfinishes
  rw [← length_published, Nat.succ_mul, Nat.mul_assoc]
  omega

/-- The feedback dies out: what the audience publishes and does is bounded by what others publish
and by the number of failures on notices. -/
theorem feedback_bounded (hx : Story h x) :
    echoes h ≤ x.seats * told h + (x.seats + 1) * (x.seats * told h + relapses h) ∧
      deeds h ≤ (2 * x.seats + 1) * (told h + echoes h) + 2 * x.seats + 3 :=
  ⟨echoes_le hx, deeds_le hx⟩

/-! ### A subscriber that fails on every event -/

/-- A subscriber that fails on every event. -/
private def brittle : Subscriber :=
  { name := "brittle", capacity := 1, failing := fun _ => some (.text "blew up") }

/-- Its agent. -/
private def echoing : Agent :=
  match Agent.make {} "http://127.0.0.1:12892" (.named "lobby-1") [brittle] with
  | .ok a => a
  | .error _ => default

private theorem make_echoing :
    Agent.make {} "http://127.0.0.1:12892" (.named "lobby-1") [brittle] = .ok echoing := rfl

/-- The listener gets an event, the subscriber begins to process it, and fails. -/
private def round : List Happening :=
  [.move (.resume 1 Traffic.elapsed), .move (.resume 0 Traffic.elapsed),
    .move (.resume 0 Traffic.elapsed)]

/-- One event is on the bus that the listener has not got. -/
private structure Echoes (x : Traffic) (cursor : Nat) (n : Notice) : Prop where
  tasks : x.tasks = [some (.worker 0 .idle), some (.listener { cursor })]
  fanout : x.agent.fanout = ⟨[{ subscriber := brittle }]⟩
  sent : x.agent.bus.sent = cursor + 1
  recent : x.agent.bus.recent.head? = some n
  retained : 0 < x.agent.bus.retained

private theorem Echoes.play {x : Traffic} {cursor : Nat} {n : Notice} (hx : Echoes x cursor n) :
    ∃ h y, x.play? round = some (h, y) ∧
      Echoes y (cursor + 1) ⟨x.agent.created, .panicked "brittle" "blew up"⟩ ∧ echoes h = 1 ∧
      told h = 0 := by
  obtain ⟨a, ts⟩ := x
  obtain ⟨htasks, hfanout, hsent, hrecent, hretained⟩ := hx
  dsimp only at htasks hfanout hsent hrecent hretained
  subst htasks
  have hreceive : a.bus.receive cursor = (.item n, cursor + 1) := by
    have hretained : ¬ a.bus.retained < 1 := Nat.not_lt.mpr hretained
    rw [List.head?_eq_getElem?] at hrecent
    simp [Bus.receive, Bus.unread, hsent, hrecent, hretained]
  have hlisten : a.listen { cursor } =
      some ((a.onFanout (·.emit n)).map fun _ => .waiting { cursor := cursor + 1 }) := by
    simp only [listen, hreceive, forward]
  have h1 : Traffic.happen? ⟨a, [some (.worker 0 .idle), some (.listener { cursor })]⟩
      (.move (.resume 1 Traffic.elapsed)) =
      some ([], ⟨{ a with fanout := ⟨[{ subscriber := brittle, waiting := [n] }]⟩ },
        [some (.worker 0 .idle), some (.listener { cursor := cursor + 1 })]⟩) := by
    have hresume : a.resume Traffic.elapsed (.listener { cursor }) =
        some ((a.onFanout (·.emit n)).map fun _ =>
          .waiting (.listener { cursor := cursor + 1 })) := by
      simp only [resume, hlisten]
      rfl
    simp only [Traffic.happen?, Traffic.step, Traffic.section?, Tasks.waiting?,
      List.getElem?_cons_succ, List.getElem?_cons_zero, Option.join_some, Option.bind_some, hresume,
      Option.map_some, onFanout, hfanout]
    rfl
  have h2 : Traffic.happen? ⟨{ a with fanout := ⟨[{ subscriber := brittle, waiting := [n] }]⟩ },
      [some (.worker 0 .idle), some (.listener { cursor := cursor + 1 })]⟩
      (.move (.resume 0 Traffic.elapsed)) =
      some ([], ⟨{ a with fanout := ⟨[{ subscriber := brittle }]⟩ },
        [some (.worker 0 (.busy n)), some (.listener { cursor := cursor + 1 })]⟩) := rfl
  have h3 : Traffic.happen? ⟨{ a with fanout := ⟨[{ subscriber := brittle }]⟩ },
      [some (.worker 0 (.busy n)), some (.listener { cursor := cursor + 1 })]⟩
      (.move (.resume 0 Traffic.elapsed)) =
      some ([⟨a.created, .panicked "brittle" "blew up"⟩],
        ⟨{ a with fanout := ⟨[{ subscriber := brittle }]⟩ }.publish (.panicked "brittle" "blew up"),
          [some (.worker 0 .idle), some (.listener { cursor := cursor + 1 })]⟩) := rfl
  refine
    ⟨_, _, Traffic.play?_cons h1 (Traffic.play?_cons h2 (Traffic.play?_cons h3 rfl)), ?_, ?_, ?_⟩
  · refine ⟨rfl, rfl, congrArg (· + 1) hsent, ?_, hretained⟩
    obtain ⟨k, hk⟩ := Nat.exists_eq_succ_of_ne_zero (Nat.ne_of_gt hretained)
    simp [publish, Bus.publish, hk]
  · rfl
  · rfl

/-- The feedback of one event if the subscriber fails on it and on the first notice of that only. -/
theorem feedback_of_echoing : ∃ h x, Story h x ∧
    (told h = 1 ∧ relapses h = 1 ∧ echoes h = 2 ∧ deeds h = 9) ∧
    echoes h ≤ x.seats * told h + (x.seats + 1) * (x.seats * told h + relapses h) ∧
      deeds h ≤ (2 * x.seats + 1) * (told h + echoes h) + 2 * x.seats + 3 := by
  obtain ⟨h, x, hx, hp⟩ := exists_story make_echoing
    (.publish ⟨0, .of .heartbeatAcked⟩ :: round ++ round ++
      .revise 0 { brittle with failing := fun _ => none } :: round)
    (fun h _ => told h = 1 ∧ relapses h = 1 ∧ echoes h = 2 ∧ deeds h = 9) (by decide +kernel)
  exact ⟨h, x, hx, of_decide_eq_true hp, feedback_bounded hx⟩

/-- What has happened to the agent after one event and so many rounds. -/
private def rounds : Nat → List Scene × Traffic
  | 0 => ((Traffic.ofAgent echoing).play? [.publish ⟨0, .of .heartbeatAcked⟩]).getD
      ([], .ofAgent echoing)
  | k + 1 => ((rounds k).2.play? round).elim (rounds k) fun r => ((rounds k).1 ++ r.1, r.2)

private theorem rounds_succ {k : Nat} {h : List Scene} {x : Traffic}
    (hplay : (rounds k).2.play? round = some (h, x)) : rounds (k + 1) = ((rounds k).1 ++ h, x) := by
  rw [rounds, hplay]
  rfl

private theorem echoes_rounds (k : Nat) : Story (rounds k).1 (rounds k).2 ∧
    (∃ cursor n, Echoes (rounds k).2 cursor n) ∧ told (rounds k).1 = 1 ∧
    echoes (rounds k).1 = k := by
  induction k with
  | zero =>
    exact ⟨(Story.new make_echoing).play? [.publish ⟨0, .of .heartbeatAcked⟩] rfl,
      ⟨0, ⟨0, .of .heartbeatAcked⟩, rfl, rfl, rfl, by decide +kernel, by decide +kernel⟩, rfl, rfl⟩
  | succ k ih =>
    obtain ⟨hstory, ⟨cursor, n, hechoes⟩, htold, hcount⟩ := ih
    obtain ⟨h, y, hplay, hy, hone, hnone⟩ := hechoes.play
    rw [rounds_succ hplay]
    refine ⟨hstory.play? round hplay, ⟨_, _, hy⟩, ?_, ?_⟩
    · rw [told_append, htold, hnone]
    · rw [echoes_append, hcount, hone]

/-- A subscriber that fails on every event keeps the feedback of one event going for ever. -/
theorem feedback_without_end : ∃ f : Nat → List Scene, ∀ k, (∃ x, Story (f k) x) ∧
    f k <+: f (k + 1) ∧ told (f k) = 1 ∧ echoes (f k) = k := by
  refine ⟨fun k => (rounds k).1, fun k => ?_⟩
  obtain ⟨hstory, ⟨cursor, n, hechoes⟩, htold, hcount⟩ := echoes_rounds k
  obtain ⟨h, y, hplay, -⟩ := hechoes.play
  have hmore : (rounds k).1 <+: (rounds (k + 1)).1 := by
    rw [rounds_succ hplay]
    exact List.prefix_append _ _
  exact ⟨⟨_, hstory⟩, hmore, htold, hcount⟩

end Agent

end FleetAgent
