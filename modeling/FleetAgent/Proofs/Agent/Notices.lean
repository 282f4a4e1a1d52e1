import FleetAgent.Proofs.Agent.Heartbeats

/-!
# Termination notices

The session of an agent has one keeper at most: a heartbeat loop that may still leave a notice, the
notice that such a loop has left, or the recovery that has taken the notice and may open a session
again. Loading makes the first keeper, and loads an agent only once. A loop that ends leaves its
notice in its place; a recovery takes the notice, and starts a loop when it has opened a session. So
the queue of the notices never fills up, and a loop is never refused because another one goes on.

## Main definitions

* `Agent.Traffic.keepers`: the number of keepers.
* `Agent.Traffic.Kept`: what holds of the keepers.
* `Agent.Traffic.Starts`: a move after which a loop is to be started.
* `Agent.Traffic.Tidy`: at most one notice waits or can come, none is dropped, and no start is
  refused.

## Main results

* `Agent.Pulse.pending_le`, `Agent.Shift.pending_le`: how a section changes what is pending.
* `Agent.Traffic.Runs.kept`: the number of keepers is at most one.
* `Agent.Traffic.tidy_of_runs`: the notices of an agent.
-/

namespace FleetAgent

/-! ### The queue of the notices -/

namespace NoticeQueue

variable (q : NoticeQueue) (t : Termination)

theorem offer_of_room (ho : q.isOpen) (hl : q.waiting.length < q.capacity) :
    q.offer t = (.sent, { q with waiting := q.waiting ++ [t] }) := by
  simp [offer, ho, hl]

theorem length_offer_le : (q.offer t).2.waiting.length ≤ q.waiting.length + 1 := by
  simp only [offer]
  split_ifs <;> simp

/-- Whether a queue is as long and as open as another. -/
def Like (q q' : NoticeQueue) : Prop := q'.isOpen = q.isOpen ∧ q'.capacity = q.capacity

theorem like_offer : q.Like (q.offer t).2 := by
  simp only [offer]
  split_ifs <;> exact ⟨rfl, rfl⟩

variable {q t}

theorem eq_of_pop? {q' : NoticeQueue} (h : q.pop? = some (t, q')) :
    q.waiting = t :: q'.waiting ∧ q.Like q' := by
  obtain ⟨capacity, waiting, isOpen⟩ := q
  cases waiting with
  | nil => cases h
  | cons t' rest =>
    cases h
    exact ⟨rfl, rfl, rfl⟩

end NoticeQueue

/-- What a section makes of a heartbeat loop, and the notice that the loop leaves, if it does. -/
inductive Loop.Turns (l : Loop) : Loop → Option Termination → Prop
  | goes {l' : Loop} (hsend : l'.canSend → l.canSend) (hend : l'.hasEnded = false) : Turns l l' none
  | stops (hsend : l.canSend = false) : Turns l ⟨.ended .stopped, true⟩ none
  | breaks (told : Bool) (hsend : l.canSend) : Turns l ⟨.ended .broken, told⟩ none
  | leaves (t : Termination) (hsend : l.canSend) : Turns l ⟨.ended t.ending, true⟩ (some t)

/-- A loop gives up that it may leave a notice for the notice that it leaves. -/
theorem Loop.Turns.canSend_le {l l' : Loop} {t? : Option Termination} (h : l.Turns l' t?) :
    l'.canSend.toNat + t?.isSome.toNat ≤ l.canSend.toNat := by
  cases h with
  | goes hsend hend =>
    cases hl' : l'.canSend with
    | false => simp
    | true => simp [hsend hl']
  | stops | breaks => simp [canSend]
  | leaves t hsend =>
    rw [hsend]
    exact Nat.le_refl 1

/-- A loop whose heart breaks down might have left a notice. -/
theorem Loop.Turns.canSend_of_isBroken {l l' : Loop} {t? : Option Termination} (h : l.Turns l' t?)
    (hb : l'.isBroken) : l'.canSend = false ∧ l.canSend ∧ t? = none := by
  cases h with
  | goes hsend hend => simp [isBroken, hend] at hb
  | stops | leaves => simp [isBroken] at hb
  | breaks told hsend => exact ⟨rfl, hsend, rfl⟩

namespace Agent

open Effect (spawned)

/-- The number of notices that wait and of loops that may still leave one. -/
def Core.pending (c : Core) : Nat := c.notices.waiting.length + c.scheduler.senders

/-- How many of the sessions to come depend on an activity: one, if it may open a session again. -/
def reopens (w : Option Activity) : Nat := (w.any mayReopen).toNat

/-- The stage at which the activity of a section has waited. -/
def Origin.activity? : Origin → Option Activity
  | stage w | abandoned w => some w
  | call _ | registration => none

/-! ### What a section does to what is pending -/

section

variable {minded : Prop} {c c' : Core} {d : Delivery} {k : Nat} {b : Option HeartBeat} {o : Origin}
  {loops : List Nat} {n : Option Activity}

theorem Pulse.reopens_eq (h : Pulse c d k b c' n) : reopens n = 0 := by
  rcases h.waits with rfl | ⟨b', l, rfl, -⟩ <;> rfl

theorem Pulse.registration_eq (h : Pulse c d k b c' n) : c'.registration = c.registration := by
  cases h <;> rfl

/-- A section of a loop changes this loop only. -/
theorem Pulse.exists_turns (h : Pulse c d k b c' n) :
    ∃ l l' t?, c.scheduler.loops[k]? = some l ∧ l.Turns l' t? ∧
      c'.scheduler.loops = (c.scheduler.setLoop k l').loops ∧
      c'.notices = t?.elim c.notices fun t => (c.notices.offer t).2 := by
  cases h with
  | opened ticker hl => exact ⟨_, ⟨.ticking ticker, _⟩, none, hl, .goes id rfl, rfl, rfl⟩
  | stopped hl => exact ⟨_, _, none, hl, .stops rfl, rfl, rfl⟩
  | began ticker' b s hl hh hb => exact ⟨_, _, none, hl, .goes (fun _ => rfl) rfl, rfl, rfl⟩
  | refused hl hs => exact ⟨_, _, some _, hl, .leaves (.lost _) rfl, rfl, rfl⟩
  | rested b s outcome hl hb ho => exact ⟨_, _, none, hl, .goes (fun _ => rfl) rfl, rfl, rfl⟩
  | failed b s outcome t hl hb ho => exact ⟨_, _, some t, hl, .leaves t rfl, rfl, rfl⟩
  | broke b hl => exact ⟨_, _, none, hl, .breaks _ rfl, rfl, rfl⟩

theorem Pulse.like_notices (h : Pulse c d k b c' n) : c.notices.Like c'.notices := by
  obtain ⟨l, l', t?, -, -, -, hq⟩ := h.exists_turns
  rw [hq]
  cases t? with
  | none => exact ⟨rfl, rfl⟩
  | some t => exact NoticeQueue.like_offer _ t

/-- A loop that ends with a notice leaves it in its place, and one whose heart breaks down leaves
nothing. -/
theorem Pulse.pending_le (h : Pulse c d k b c' n) :
    c'.pending ≤ c.pending ∧
      (c'.scheduler.isBroken → c.scheduler.isBroken ∨ c'.pending < c.pending) := by
  obtain ⟨l, l', t?, hl, hturns, hloops, hq⟩ := h.exists_turns
  have hsenders : c'.scheduler.senders = (c.scheduler.setLoop k l').senders := by
    rw [Scheduler.senders, hloops, Scheduler.senders]
  have hset := Scheduler.senders_setLoop hl l'
  have hle := hturns.canSend_le
  have hwaiting : c'.notices.waiting.length ≤ c.notices.waiting.length + t?.isSome.toNat := by
    rw [hq]
    cases t? with
    | none => exact Nat.le_refl _
    | some t => exact c.notices.length_offer_le t
  simp only [Core.pending, hsenders]
  refine ⟨by omega, fun hb => ?_⟩
  rw [Scheduler.isBroken, hloops] at hb
  refine (Scheduler.isBroken_of_setLoop hb).imp_right fun hb => ?_
  obtain ⟨hl', hl, rfl⟩ := hturns.canSend_of_isBroken hb
  simp only [hl', hl, Bool.toNat_false, Bool.toNat_true, Option.isSome_none] at hset hwaiting
  omega

/-- What is pending becomes more by the first start of the heartbeats only. A recovery stands for
the notice that it has taken, and a new loop for the recovery that has started it. -/
theorem Shift.pending_le (h : Shift minded c o c' loops n) (ho : ¬ o.OfLoop) :
    c'.pending + reopens n ≤ c.pending + reopens o.activity? ∨
      c.registration.slot = none ∧ c'.registration.slot ≠ none ∧ n = none ∧
        c'.pending ≤ c.pending + 1 := by
  have hstart := c.scheduler.senders_start_le
  simp only [Core.pending]
  cases h with
  | ended | registered | failed | yielded | shut => exact .inl (Nat.le_add_right _ _)
  | background o n hn =>
    rcases hn with ⟨l, rfl⟩ | ⟨i, stage, rfl⟩ | ⟨call, rfl, -⟩ <;> exact .inl (Nat.le_add_right _ _)
  | opening | dialled | enabling | lined | watching | reporting => exact .inl (Nat.le_add_right _ _)
  | reopening | redialled => exact .inl (Nat.le_refl _)
  | loaded stage id hs he hr =>
    exact .inr ⟨hr, Option.some_ne_none _, rfl, by dsimp only; omega⟩
  | disabling k hk =>
    have hstop := c.scheduler.senders_stop_le
    have hjoin := c.scheduler.stop.state.senders_beginJoin_le
    exact .inl (by dsimp only [reopens, Origin.activity?, mayReopen, Option.any]; omega)
  | disabled n hk hn | joined k n hn =>
    rcases hn with rfl | rfl <;> exact .inl (Nat.le_add_right _ _)
  | noticed ticket t q n hq hn =>
    obtain ⟨hwaiting, -⟩ := NoticeQueue.eq_of_pop? hq
    have hn : reopens n ≤ 1 := Bool.toNat_le _
    exact .inl (by dsimp only; rw [hwaiting, List.length_cons]; omega)
  | refailed ticket attempt cause stage n hm hs he hn =>
    have hn : reopens n ≤ 1 := Bool.toNat_le _
    exact .inl (Nat.add_le_add_left hn _)
  | recovered ticket attempt cause stage id n hm hs he hn =>
    have hn : reopens (some (.run ticket n)) = 0 := by
      rcases hn with rfl | ⟨call, rfl⟩ | ⟨call, rfl⟩ <;> rfl
    have ho : reopens (Origin.activity?
      (.stage (.run ticket (.recovering cause attempt (.connecting stage))))) = 1 := rfl
    exact .inl (by dsimp only; omega)
  | looped k b => exact absurd ⟨k, b, rfl⟩ ho

theorem Shift.isBroken_of (h : Shift minded c o c' loops n) (ho : ¬ o.OfLoop)
    (hb : c'.scheduler.isBroken) : c.scheduler.isBroken := by
  cases h with
  | loaded | recovered => exact Scheduler.isBroken_of_start hb
  | disabling => exact Scheduler.isBroken_of_stop (Scheduler.isBroken_of_beginJoin hb)
  | looped k b => exact absurd ⟨k, b, rfl⟩ ho
  | ended | registered | background | opening | dialled | failed | yielded | enabling | disabled
  | joined | lined | watching | shut | noticed | reopening | redialled | refailed | reporting =>
    exact hb

theorem Shift.like_notices (h : Shift minded c o c' loops n) (ho : ¬ o.OfLoop) :
    c.notices.Like c'.notices := by
  cases h with
  | noticed ticket t q n hq => exact (NoticeQueue.eq_of_pop? hq).2
  | looped k b => exact absurd ⟨k, b, rfl⟩ ho
  | ended | registered | background | opening | dialled | failed | loaded | yielded | enabling
  | disabling | disabled | joined | lined | watching | shut | reopening | redialled | refailed
  | recovered | reporting => exact ⟨rfl, rfl⟩

/-- A recovery that opens a session starts the heartbeats. -/
theorem Shift.starts_of_opens {ticket attempt : Nat} {cause : SessionError} {stage : Connect}
    (h : Shift minded c (.stage (.run ticket (.recovering cause attempt (.connecting stage)))) c'
      loops n)
    (hs : ¬ c.session.state.isEstablished) (hs' : c'.session.state.isEstablished) :
    c'.scheduler = c.scheduler.start.state ∧ loops = spawned c.scheduler.start.effects := by
  cases h with
  | recovered => exact ⟨rfl, rfl⟩
  | refailed => cases hs'
  | ended | background | enabling | watching | shut | redialled | reporting => exact absurd hs' hs

/-- There is no loop before the handle is registered, unless a recovery has started one. -/
theorem Shift.fresh (h : Shift minded c o c' loops n) (ho : ¬ o.OfLoop)
    (hr : c'.registration.slot = none) :
    c.registration.slot = none ∧
      (reopens o.activity? = 0 → c.scheduler.loops = [] → c'.scheduler.loops = []) := by
  cases h with
  | registered | loaded => cases hr
  | disabling =>
    refine ⟨hr, fun _ hl => ?_⟩
    rw [← List.length_eq_zero_iff] at hl ⊢
    exact (Scheduler.length_loops_beginJoin _).trans ((Scheduler.length_loops_stop _).trans hl)
  | recovered => exact ⟨hr, fun h => absurd h (Nat.succ_ne_zero 0)⟩
  | looped k b => exact absurd ⟨k, b, rfl⟩ ho
  | ended | background | opening | dialled | failed | yielded | enabling | disabled
  | joined | lined | watching | shut | noticed | reopening | redialled | refailed | reporting =>
    exact ⟨hr, fun _ => id⟩

end

/-! ### Traffic -/

namespace Traffic

variable {x : Traffic} {m : Move} {t : Turn Traffic (Progress Activity Outcome)} {o : Origin}

/-- The number of recoveries that may open a session again. -/
def reopeners (x : Traffic) : Nat := x.tasks.countP (·.any mayReopen)

/-- The number of keepers of the session: what is pending, and the recoveries. -/
def keepers (x : Traffic) : Nat := x.agent.core.pending + x.reopeners

/-- Of the keepers of the session there is one at most. There is none before the agent is loaded,
and none any more once a heart has broken down. -/
structure Kept (x : Traffic) : Prop where
  tended : x.Tended
  one : x.keepers ≤ 1
  fresh : x.agent.registration.slot = none → x.agent.scheduler.loops = [] ∧ x.keepers = 0
  broken : x.agent.scheduler.isBroken → x.keepers = 0
  isOpen : x.agent.notices.isOpen
  capacity : x.agent.notices.capacity = noticeCapacity

theorem activity?_of_origin? (ho : x.origin? m = some o) :
    m.resumes?.bind x.tasks.waiting? = o.activity? := by
  cases m with
  | call | register =>
    obtain rfl := Option.some.inj ho
    rfl
  | resume k d | abandon k =>
    obtain ⟨w, hw, rfl⟩ := Option.map_eq_some_iff.mp ho
    exact hw

/-- The number of tasks that wait at some kind of stage changes with the task of the move only,
unless new loops wait so. -/
theorem countP_tasks_step (ht : x.step m = some t) {p : Activity → Bool}
    (hp : ∀ k, p (.loop k none) = false) :
    t.state.tasks.countP (·.any p) + ((m.resumes?.bind x.tasks.waiting?).any p).toNat =
      x.tasks.countP (·.any p) + (t.result.stage?.any p).toNat := by
  have hlt (j : Nat) (hj : m.resumes? = some j) : j < x.tasks.length := by
    obtain ⟨w, hw⟩ := exists_waiting?_of_step ht hj
    exact Tasks.lt_of_waiting? hw
  have hnew (loops : List Nat) :
      (loops.map fun k => some (Activity.loop k none)).countP (·.any p) = 0 := by
    simp [List.countP_eq_zero, hp]
  obtain ⟨u, -, rfl⟩ := step_eq_some_iff.mp ht
  have hput : (x.tasks.put m.resumes? u.result.stage?).countP (·.any p) + _ = _ :=
    Tasks.countP_put p hlt
  simp only [List.countP_append, hnew]
  omega

theorem countP_step (ht : x.step m = some t) (ho : x.origin? m = some o) {p : Activity → Bool}
    (hp : ∀ k, p (.loop k none) = false) :
    t.state.tasks.countP (·.any p) + (o.activity?.any p).toNat =
      x.tasks.countP (·.any p) + (t.result.stage?.any p).toNat :=
  activity?_of_origin? ho ▸ countP_tasks_step ht hp

/-- The number of recoveries changes with the task of the move only. -/
theorem reopeners_step (ht : x.step m = some t) (ho : x.origin? m = some o) :
    t.state.reopeners + reopens o.activity? = x.reopeners + reopens t.result.stage? :=
  countP_step ht ho fun _ => rfl

theorem reopeners_ofAgent (a : Agent) : (ofAgent a).reopeners = 0 := by
  simp [reopeners, ofAgent, List.countP_eq_zero, mayReopen]

theorem kept_ofAgent {config : AgentConfig} {address : String} {host : Host}
    {subscribers : List Subscriber} {a : Agent}
    (ha : Agent.make config address host subscribers = .ok a) : (ofAgent a).Kept := by
  have hzero (h : a.core.pending = 0) : (ofAgent a).keepers = 0 :=
    (congrArg (· + (ofAgent a).reopeners) h).trans ((Nat.zero_add _).trans (reopeners_ofAgent a))
  simp only [Agent.make] at ha
  split at ha
  · cases ha
  · obtain rfl := Except.ok.inj ha
    have hkeepers := hzero rfl
    exact ⟨tended_ofAgent _, Nat.le_trans (Nat.le_of_eq hkeepers) (Nat.zero_le 1),
      fun _ => ⟨rfl, hkeepers⟩, fun _ => hkeepers, rfl, rfl⟩

/-- A recovery that may open a session again is the only keeper. -/
theorem Kept.eq_one (hx : x.Kept) (ho : x.origin? m = some o) (hr : reopens o.activity? ≠ 0) :
    x.agent.core.pending = 0 ∧ x.keepers = 1 := by
  have hpos : 0 < x.reopeners := by
    rw [← activity?_of_origin? ho] at hr
    cases hw : m.resumes?.bind x.tasks.waiting? with
    | none => simp [hw, reopens] at hr
    | some w =>
      obtain ⟨k, -, hk⟩ := Option.bind_eq_some_iff.mp hw
      refine List.countP_pos_iff.mpr ⟨some w, ?_, ?_⟩
      · exact List.mem_of_getElem? (Option.join_eq_some_iff.mp hk)
      · simpa [hw, reopens] using hr
  have := hx.one
  unfold keepers at *
  omega

/-- Once a heart has broken down or there is no keeper, no section of a loop makes one. -/
theorem Kept.of_pulse (hx : x.Kept) (ht : x.step m = some t) (htended : t.state.Tended)
    {d : Delivery} {k : Nat} {b : Option HeartBeat} (ho : x.origin? m = some (.stage (.loop k b)))
    (h : Pulse x.agent.core d k b t.state.agent.core t.result.stage?) : t.state.Kept := by
  have hstep := reopeners_step ht ho
  have hreopens := h.reopens_eq
  have hreopens' : reopens (Origin.stage (.loop k b)).activity? = 0 := rfl
  obtain ⟨hle, hbroken⟩ := h.pending_le
  obtain ⟨hopen, hcapacity⟩ := h.like_notices
  have hone := hx.one
  have hkeepers : t.state.keepers ≤ x.keepers := by
    unfold keepers
    omega
  refine ⟨htended, Nat.le_trans hkeepers hone, fun hr => ?_, fun hb => ?_, hopen.trans hx.isOpen,
    hcapacity.trans hx.capacity⟩
  · -- the loop of the section is there, so the agent has been loaded
    obtain ⟨l, -, -, hl, -⟩ := h.exists_turns
    obtain ⟨hnil, -⟩ := hx.fresh ((congrArg Registration.slot h.registration_eq).symm.trans hr)
    simp [hnil] at hl
  · rcases hbroken hb with hb | hlt
    · exact Nat.le_zero.mp (hx.broken hb ▸ hkeepers)
    · unfold keepers at *
      omega

/-- No section but loading makes a keeper where there is none, and then the agent has been
loaded. -/
theorem Kept.of_shift {minded : Prop} (hx : x.Kept) (ht : x.step m = some t)
    (htended : t.state.Tended) (ho : x.origin? m = some o) (hloop : ¬ o.OfLoop)
    (h : Shift minded x.agent.core o t.state.agent.core (spawned t.effects) t.result.stage?) :
    t.state.Kept := by
  have hstep := reopeners_step ht ho
  obtain ⟨hopen, hcapacity⟩ := h.like_notices hloop
  have hone := hx.one
  rcases h.pending_le hloop with hle | ⟨hfree, htaken, hn, hle⟩
  · have hkeepers : t.state.keepers ≤ x.keepers := by
      unfold keepers
      omega
    refine ⟨htended, Nat.le_trans hkeepers hone, fun hr => ?_, fun hb => ?_, hopen.trans hx.isOpen,
      hcapacity.trans hx.capacity⟩
    · obtain ⟨hfree, hloops⟩ := h.fresh hloop hr
      obtain ⟨hnil, hzero⟩ := hx.fresh hfree
      refine ⟨hloops ?_ hnil, Nat.le_zero.mp (hzero ▸ hkeepers)⟩
      by_contra hr
      exact absurd ((hx.eq_one ho hr).2.symm.trans hzero) Nat.one_ne_zero
    · exact Nat.le_zero.mp (hx.broken (h.isBroken_of hloop hb) ▸ hkeepers)
  · obtain ⟨hnil, hzero⟩ := hx.fresh hfree
    have hreopens : reopens t.result.stage? = 0 := by rw [hn]; rfl
    have hkeepers : t.state.keepers ≤ 1 := by
      unfold keepers at *
      omega
    refine ⟨htended, hkeepers, fun hr => absurd hr htaken, fun hb => ?_, hopen.trans hx.isOpen,
      hcapacity.trans hx.capacity⟩
    have hb := h.isBroken_of hloop hb
    simp [Scheduler.isBroken, hnil] at hb

/-- Every move keeps the number of keepers. -/
theorem Kept.step (hx : x.Kept) (hm : x.usesHooks m) (ht : x.step m = some t) : t.state.Kept := by
  have htended := hx.tended.step hm ht
  rcases hx.tended.pulse_or_shift hm ht with
    ⟨i, d, k, b, rfl, hi, -, hpulse⟩ | ⟨o, ho, hloop, hshift⟩
  · exact hx.of_pulse ht htended (by simp [origin?, hi]) hpulse
  · exact hx.of_shift ht htended ho hloop hshift

/-- In the traffic of an agent there is one keeper of the session at most. -/
theorem Runs.kept (hx : Runs usesHooks x) : x.Kept := by
  induction hx with
  | new ha => exact kept_ofAgent ha
  | step _ hm ht ih => exact ih.step hm ht

/-- In a move the heartbeats are to be started: a call that loads the agent succeeds, or a recovery
has opened a session. -/
inductive Starts (x : Traffic) (m : Move) (t : Turn Traffic (Progress Activity Outcome)) : Prop
  | loads (stage : Connect) (ho : x.origin? m = some (.stage (.load stage)))
      (hr : t.result = .done .finished)
  | recovers (ticket attempt : Nat) (cause : SessionError) (stage : Connect)
      (ho : x.origin? m =
        some (.stage (.run ticket (.recovering cause attempt (.connecting stage)))))
      (hs : ¬ x.agent.session.state.isEstablished) (hs' : t.state.agent.session.state.isEstablished)

/-- At most one notice waits or can come; a loop that ends by itself leaves its notice; and a loop
that is to be started is. -/
structure Tidy (x : Traffic) : Prop where
  pending : x.agent.notices.waiting.length + x.agent.scheduler.senders ≤ 1
  kept : ∀ m t k how, x.usesHooks m → x.step m = some t → x.agent.scheduler.hasEnded k = false →
    t.state.agent.scheduler.phase? k = some (.ended how) → how = .requested ∨ how = .lost →
    ∃ n : Termination, n.ending = how ∧ t.state.agent.notices.waiting = [n]
  started : ∀ m t, x.usesHooks m → x.step m = some t → x.Starts m t →
    x.agent.scheduler.start.result = true ∧
      t.state.agent.scheduler = x.agent.scheduler.start.state ∧
      spawned t.effects = [x.agent.scheduler.loops.length]

/-- A loop that ends by itself leaves its notice. -/
theorem Kept.leaves (hx : x.Kept) {d : Delivery} {k j : Nat} {b : Option HeartBeat} {c : Core}
    {n : Option Activity} {how : Ending} (h : Pulse x.agent.core d k b c n)
    (hrun : x.agent.scheduler.hasEnded j = false) (hend : c.scheduler.phase? j = some (.ended how))
    (hhow : how = .requested ∨ how = .lost) :
    ∃ n : Termination, n.ending = how ∧ c.notices.waiting = [n] := by
  obtain ⟨l, l', t?, hl, hturns, hloops, hq⟩ := h.exists_turns
  have hphase : (x.agent.core.scheduler.setLoop k l').phase? j = some (.ended how) := by
    rwa [Scheduler.phase?, ← hloops]
  rw [Scheduler.phase?_setLoop hl] at hphase
  split_ifs at hphase with hj
  · have hphase := Option.some.inj hphase
    cases hturns with
    | goes hsend hgoes => simp [Loop.hasEnded, hphase] at hgoes
    | stops => cases hphase; simp at hhow
    | breaks => cases hphase; simp at hhow
    | leaves n hsend =>
      refine ⟨n, LoopPhase.ended.inj hphase, ?_⟩
      have hpos := Scheduler.senders_pos hl hsend
      have hone := hx.one
      have hnil : x.agent.core.notices.waiting = [] := by
        rw [← List.length_eq_zero_iff]
        unfold keepers Core.pending at hone
        omega
      have hroom := NoticeQueue.offer_of_room x.agent.core.notices n hx.isOpen (by
        rw [hnil, core_notices, hx.capacity]
        exact Nat.succ_pos 3)
      rw [hq, Option.elim_some, hroom, hnil]
      rfl
  · obtain ⟨l, hl, hphase⟩ := Option.map_eq_some_iff.mp hphase
    simp [Scheduler.hasEnded, Loop.hasEnded, show x.agent.scheduler.loops[j]? = some l from hl,
      hphase] at hrun

/-- A loop that is to be started is. -/
theorem Kept.starts (hx : x.Kept) (hm : x.usesHooks m) (ht : x.step m = some t)
    (hstart : x.Starts m t) :
    (∀ k, x.agent.scheduler.slot = some k → x.agent.scheduler.isCancelled k) ∧
      t.state.agent.scheduler = x.agent.scheduler.start.state ∧
      spawned t.effects = spawned x.agent.scheduler.start.effects := by
  cases hstart with
  | loads stage ho hr =>
    have hloads := loads_of_finished ht (show x.origin? m = some (.ofLoad (some stage)) from ho) hr
    obtain ⟨hfree, -, -, hscheduler, hloops⟩ := hloads.of_ok
    obtain ⟨hnil, -⟩ := hx.fresh hfree
    exact ⟨fun k _ => by simp [Scheduler.isCancelled, hnil], hscheduler, hloops⟩
  | recovers ticket attempt cause stage ho hs hs' =>
    obtain ⟨hpending, hone⟩ := hx.eq_one ho Nat.one_ne_zero
    have hsenders : x.agent.scheduler.senders = 0 := (Nat.add_eq_zero_iff.mp hpending).2
    have hwhole : x.agent.scheduler.isBroken = false := by
      by_contra hb
      have hzero := hx.broken (by simpa using hb)
      exact absurd (hone.symm.trans hzero) Nat.one_ne_zero
    refine ⟨fun k _ => Scheduler.isCancelled_of_senders hsenders hwhole k, ?_⟩
    rcases hx.tended.pulse_or_shift hm ht with ⟨i, d, k, b, rfl, hi, -⟩ | ⟨o, ho', -, hshift⟩
    · simp [origin?, hi] at ho
    · obtain rfl := Option.some.inj (ho'.symm.trans ho)
      exact hshift.starts_of_opens hs hs'

/-- The notices of an agent. Follow any calls of the hooks of an agent, in any order of their
sections and answers, some of them given up. Then at most one notice waits or can still come from a
heartbeat loop, every loop that ends by itself leaves its notice, and every loop is started that
loading or a recovery is to start. -/
theorem tidy_of_runs (hx : Runs usesHooks x) : x.Tidy := by
  have hkept := hx.kept
  refine ⟨?_, fun m t k how hm ht hrun hend hhow => ?_, fun m t hm ht hstart => ?_⟩
  · exact Nat.le_trans (Nat.le_add_right _ _) hkept.one
  · rcases hkept.tended.pulse_or_shift hm ht with
      ⟨i, d, j, b, rfl, hi, -, hpulse⟩ | ⟨o, ho, hloop, hshift⟩
    · exact hkept.leaves hpulse hrun hend hhow
    · -- no other section ends a loop
      obtain ⟨l, hl, hended⟩ : ∃ l, x.agent.scheduler.loops[k]? = some l ∧ l.hasEnded = false := by
        cases hl : x.agent.scheduler.loops[k]? with
        | none => simp [Scheduler.hasEnded, hl] at hrun
        | some l => exact ⟨l, rfl, by simpa [Scheduler.hasEnded, hl] using hrun⟩
      obtain ⟨l', hl', hphase⟩ := hshift.keepsPhases hloop k l hl
      obtain ⟨l'', hl'', hend⟩ := Option.map_eq_some_iff.mp hend
      obtain rfl := Option.some.inj (hl'.symm.trans hl'')
      simp [Loop.hasEnded, hphase.symm.trans hend] at hended
  · obtain ⟨hc, hscheduler, hloops⟩ := hkept.starts hm ht hstart
    refine ⟨?_, hscheduler, hloops.trans ?_⟩ <;> rw [Scheduler.start_of_cancelled hc]
    rfl

/-- An agent that is loaded, whose heartbeat loop ends with the loss of the session, and whose
recovery opens another one. -/
theorem tidy_through_recovery :
    (∃ x t, Runs usesHooks x ∧ x.step (.resume 1 accepted) = some t ∧
      x.Starts (.resume 1 accepted) t ∧ x.Tidy) ∧
    (∃ x t, Runs usesHooks x ∧ x.step (.resume 2 rejected) = some t ∧
      x.agent.scheduler.hasEnded 0 = false ∧
      t.state.agent.scheduler.phase? 0 = some (.ended .lost) ∧ x.Tidy) ∧
    ∃ x t, Runs usesHooks x ∧ x.step (.resume 3 accepted) = some t ∧
      x.Starts (.resume 3 accepted) t ∧ x.Tidy := by
  refine ⟨?_, ?_, ?_⟩
  · obtain ⟨x, t, hx, ht, hp⟩ := exists_step_of_follow? (runs_lobby usesHooks)
      [.call .load, .resume 1 accepted] (.resume 1 accepted)
      (fun x t => x.tasks.waiting? 1 = some (.load (.greeting 1)) ∧ t.result = .done .finished)
      (by decide +kernel)
    obtain ⟨hw, hr⟩ := of_decide_eq_true hp
    exact ⟨x, t, hx, ht, .loads (.greeting 1) (by simp [origin?, hw]) hr, tidy_of_runs hx⟩
  · obtain ⟨x, t, hx, ht, hp⟩ := exists_step_of_follow? (runs_lobby usesHooks)
      (loading ++ [.resume 2 accepted, .resume 2 accepted]) (.resume 2 rejected)
      (fun x t => x.agent.scheduler.hasEnded 0 = false ∧
        t.state.agent.scheduler.phase? 0 = some (.ended .lost)) (by decide +kernel)
    obtain ⟨hrun, hend⟩ := of_decide_eq_true hp
    exact ⟨x, t, hx, ht, hrun, hend, tidy_of_runs hx⟩
  · obtain ⟨x, t, hx, ht, hp⟩ := exists_step_of_follow? (runs_lobby usesHooks)
      (loading ++ [.call .run, .resume 3 accepted, .resume 2 accepted, .resume 2 accepted,
        .resume 2 rejected, .resume 3 accepted, .resume 3 elapsed, .resume 3 accepted])
      (.resume 3 accepted)
      (fun x t => x.tasks.waiting? 3 = some (.run 0 (.recovering
          (.lost "session-1" "rejected by controller: unknown session") 1
          (.connecting (.greeting 2)))) ∧
        ¬ x.agent.session.state.isEstablished ∧ t.state.agent.session.state.isEstablished)
      (by decide +kernel)
    obtain ⟨hw, hs, hs'⟩ := of_decide_eq_true hp
    have ho := congrArg (Option.map Origin.stage) hw
    exact ⟨x, t, hx, ht, .recovers _ _ _ _ ho hs hs', tidy_of_runs hx⟩

end Traffic

end Agent

end FleetAgent
