import FleetAgent.Proofs.Agent.Notices
import FleetAgent.Proofs.Session.Answers

/-!
# What the tasks of an agent rely on

While an agent is not told to shut down, the tasks that drive its session do so one after another. A
call that loads the agent, or a recovery, finds the attempt still awaited that it has begun; a
recovery that waits for its delay finds the session closed or disconnected; and a heartbeat is
answered while its session is still open. So a notice that the session was lost waits only while the
session is closed, unless the answer to the heartbeat said nothing of the session.

Every section keeps what its own task relies on, and what the others do. They could be in its way
only if they might open a session as well, or leave a notice; but there is only one such task, loop
or notice.

## Main definitions

* `Agent.Core.Relies`: what a task that waits at a stage relies on.
* `Agent.Core.Rests`, `Agent.Core.Opens`, `Agent.Core.Beats`, `Agent.Core.Loses`: what a section
  does to the session.
* `Agent.Traffic.relatesAnswers`: the moves in which every answer to a heartbeat says something of
  the session.
* `Agent.Traffic.openers`: the number of tasks that may open a session, and of what is pending.
* `Agent.Traffic.Calm`, `Agent.Traffic.Steady`: what holds while the agent is not told to shut down.

## Main results

* `Agent.Shift.rests_or_opens`, `Agent.Pulse.settles`: what a section does to the session.
* `Agent.Shift.relies`, `Agent.Pulse.relies`: what a section leaves to its own task.
* `Agent.Traffic.Runs.steady`: the traffic of an agent is steady.
-/

namespace FleetAgent

theorem NoticeQueue.mem_of_mem_offer {q : NoticeQueue} {t t' : Termination}
    (h : t' ∈ (q.offer t).2.waiting) : t' ∈ q.waiting ∨ t' = t := by
  simp only [offer] at h
  split_ifs at h
  · exact .inl h
  · simpa using h
  · exact .inl h

/-- The answer to a heartbeat of the open session that says something of the session leaves it open,
or closes it. -/
theorem Session.keeps_or_closes {s : Session} {b : Beat}
    {answer : Except ClientError HeartbeatReply}
    (hrec : s.Recorded) (h : s.state.isEstablished) (he : s.epoch = b.epoch)
    (hsign : Sign.of b.sequence answer ≠ .unrelated) (now : Instant) :
    let u := s.finishBeat now b answer
    u.state.state.isEstablished ∧ u.state.epoch = s.epoch ∧ (∃ o, u.result = .ok o) ∨
      u.state.state = .closed ∧ ∃ e, u.result = .error e := by
  obtain ⟨live, hl⟩ := Option.isSome_iff_exists.mp (hrec.mpr h)
  have hj := judged_finishBeat he h hl now answer
  generalize Sign.of b.sequence answer = sign at hj hsign
  generalize s.finishBeat now b answer = u at hj ⊢
  cases hj with
  | acknowledged reply => exact .inl ⟨isEstablished_acknowledge h, rfl, _, rfl⟩
  | failed e =>
    by_cases hf : s.params.loseAfter ≤ live.failures + 1
    · rw [miss_of_le hf]
      exact .inr ⟨rfl, _, rfl⟩
    · refine .inl ⟨isEstablished_miss h (Nat.lt_of_not_le hf), ?_⟩
      simp only [miss, hf, ↓reduceIte]
      exact ⟨trivial, _, rfl⟩
  | rejected reason => exact .inr ⟨rfl, _, rfl⟩
  | unrelated e => exact absurd rfl hsign

namespace Agent

open Effect (spawned)

/-- Whether an activity may open a session: a call that loads the agent, or a recovery that waits
for its delay or for its connection. -/
def mayOpen : Activity → Bool
  | .load _ => true
  | w => mayReopen w

namespace Core

/-- What a task that waits at a stage relies on, while the agent is not told to shut down. -/
def Relies (c : Core) : Activity → Prop
  | .run _ (.recovering _ _ (.pausing _)) =>
    c.session.state = .closed ∨ c.session.state = .disconnected
  | .load stage | .run _ (.recovering _ _ (.connecting stage)) =>
    c.session.state = .connecting ∧ c.session.epoch = stage.epoch
  | .loop _ (some (.session b)) => c.session.state.isEstablished ∧ c.session.epoch = b.epoch
  | .disable _ => c.isStopping
  | _ => True

/-- Nothing happens to the session, and no loop or notice comes. -/
structure Rests (c c' : Core) : Prop where
  session : c'.session = c.session
  senders : c'.scheduler.senders ≤ c.scheduler.senders
  notices : ∀ t ∈ c'.notices.waiting, t ∈ c.notices.waiting

/-- A task goes on that may open a session, or such a task begins. -/
structure Opens (c c' : Core) (o : Origin) : Prop where
  shut : c.session.state.isEstablished = false
  task : o.activity?.any mayOpen ∨
    o = .call .load ∧ c.session.state = .disconnected ∧ c.registration.slot = none
  notices : c'.notices = c.notices
  scheduler : c'.scheduler = c.scheduler ∨ c'.session.state.isEstablished

/-- A heartbeat begins, or ends and leaves the session open. -/
structure Beats (c c' : Core) : Prop where
  before : c.session.state.isEstablished
  after : c'.session.state.isEstablished
  epoch : c'.session.epoch = c.session.epoch
  notices : ∀ e, .lost e ∈ c'.notices.waiting → .lost e ∈ c.notices.waiting

/-- A heartbeat ends with the loss of the session, and its loop with it. -/
structure Loses (c c' : Core) : Prop where
  before : c.session.state.isEstablished
  after : c'.session.state = .closed
  senders : c'.scheduler.senders + 1 = c.scheduler.senders

variable {c c' : Core} {w : Activity}

theorem Relies.of_rests (h : c.Relies w) (hc : c.Rests c') (hstop : c.isStopping → c'.isStopping) :
    c'.Relies w := by
  unfold Relies at h ⊢
  rw [hc.session]
  split at h <;> first | exact h | exact hstop h

/-- A task that may not open a session relies on the session only while it waits for a heartbeat. -/
theorem Relies.of_loop (h : c.Relies w) (hw : mayOpen w = false)
    (hloop : ∀ j b, w = .loop j (some (.session b)) →
      c'.session.state.isEstablished ∧ c'.session.epoch = b.epoch)
    (hstop : c.isStopping → c'.isStopping) : c'.Relies w := by
  unfold Relies at h ⊢
  split at h
  · cases hw
  · cases hw
  · cases hw
  · exact hloop _ _ rfl
  · exact hstop h
  · trivial

/-- While a task waits that may open a session, none is open. -/
theorem Relies.isEstablished_eq_false (h : c.Relies w) (hw : mayOpen w) :
    c.session.state.isEstablished = false := by
  have hshut {state : SessionState} (hs : c.session.state = state)
      (hstate : state.isEstablished = false) : c.session.state.isEstablished = false := hs ▸ hstate
  cases w with
  | load stage => exact hshut h.1 rfl
  | run ticket stage =>
    cases stage with
    | queued | watching => cases hw
    | recovering cause attempt stage =>
      cases stage with
      | pausing delay => exact h.elim (hshut · rfl) (hshut · rfl)
      | connecting stage => exact hshut h.1 rfl
      | running | readying => cases hw
  | connect | beat | status | join | enable | disable | loop | listener | worker => cases hw

/-- While a session is open, no task waits that may open one. -/
theorem Relies.mayOpen_eq_false (h : c.Relies w) (hs : c.session.state.isEstablished) :
    mayOpen w = false := by
  by_contra hw
  exact absurd (hs.symm.trans (h.isEstablished_eq_false (by simpa using hw))) (by simp)

end Core

/-! ### What a section does to the session -/

section

variable {minded : Prop} {c c' : Core} {d : Delivery} {k : Nat} {b : Option HeartBeat} {o : Origin}
  {loops : List Nat} {n : Option Activity} {w : Activity}

/-- Once an agent is told to shut down, it always is. -/
theorem Shift.isStopping_of (h : Shift minded c o c' loops n) (hs : c.isStopping) :
    c'.isStopping := by
  cases h with
  | disabling | disabled | shut => rfl
  | ended | registered | background | opening | dialled | failed | loaded | yielded | enabling
  | joined | lined | watching | noticed | reopening | redialled | refailed | recovered | reporting
  | looped => exact hs

theorem Shift.heart_eq (h : Shift minded c o c' loops n) : c'.heart = c.heart := by
  cases h <;> rfl

/-- The agent is told to shut down before a session is taken down. -/
theorem Shift.rests_or_opens (h : Shift minded c o c' loops n) (ho : ¬ o.OfLoop)
    (hrel : ∀ w, o = .stage w → c.Relies w) (hs : c'.isStopping = false) :
    c.Rests c' ∨ c.Opens c' o := by
  have hconnecting (hstate : c.session.state = .connecting) :
      c.session.state.isEstablished = false := hstate ▸ rfl
  cases h with
  | ended | registered | background | dialled | enabling | lined | watching | redialled
  | reporting =>
    exact .inl ⟨rfl, Nat.le_refl _, fun _ => id⟩
  | noticed ticket t q n hq hn =>
    refine .inl ⟨rfl, Nat.le_refl _, fun t' ht' => ?_⟩
    rw [(NoticeQueue.eq_of_pop? hq).1]
    exact List.mem_cons_of_mem t ht'
  | disabling | disabled | shut => cases hs
  | joined k => exact absurd (hs.symm.trans (hrel _ rfl)) Bool.noConfusion
  | opening hr hstate => exact .inr ⟨hstate ▸ rfl, .inr ⟨rfl, hstate, hr⟩, rfl, .inl rfl⟩
  | failed stage hstate | yielded stage hstate =>
    exact .inr ⟨hconnecting hstate, .inl rfl, rfl, .inl rfl⟩
  | loaded stage id hstate => exact .inr ⟨hconnecting hstate, .inl rfl, rfl, .inr rfl⟩
  | reopening ticket attempt cause delay hm hstate =>
    refine .inr ⟨?_, .inl rfl, rfl, .inl rfl⟩
    rcases hstate with hstate | hstate <;> rw [hstate] <;> rfl
  | refailed ticket attempt cause stage n hm hstate =>
    exact .inr ⟨hconnecting hstate, .inl rfl, rfl, .inl rfl⟩
  | recovered ticket attempt cause stage id n hm hstate =>
    exact .inr ⟨hconnecting hstate, .inl rfl, rfl, .inr rfl⟩
  | looped k b => exact absurd ⟨k, b, rfl⟩ ho

/-- What a task relies on at the stage that its section comes to. -/
theorem Shift.relies (h : Shift minded c o c' loops n) (ho : ¬ o.OfLoop)
    (hrel : ∀ w, o = .stage w → c.Relies w)
    (hlost : ∀ e, .lost e ∈ c.notices.waiting → c.session.state = .closed) (hn : n = some w) :
    c'.Relies w := by
  subst hn
  cases h with
  | background o n hn => rcases hn with ⟨l, rfl⟩ | ⟨i, stage, rfl⟩ | ⟨call, rfl, -⟩ <;> trivial
  | opening => exact ⟨rfl, rfl⟩
  | dialled e => exact hrel (.load (.dialing e)) rfl
  | enabling | lined | watching | reporting => trivial
  | disabling => exact (rfl : _ = true)
  | disabled n hk hn =>
    obtain rfl := Option.some.inj (hn.resolve_left (Option.some_ne_none _))
    exact (rfl : _ = true)
  | joined k n hn =>
    obtain rfl := Option.some.inj (hn.resolve_left (Option.some_ne_none _))
    exact hrel _ rfl
  | noticed ticket t q n hq hn =>
    obtain ⟨cause, delay, rfl, hw⟩ := hn.resolve_left (Option.some_ne_none _)
    obtain rfl := Option.some.inj hw
    refine .inl (hlost cause ?_)
    rw [(NoticeQueue.eq_of_pop? hq).1]
    exact List.mem_cons_self
  | reopening => exact ⟨rfl, rfl⟩
  | redialled ticket attempt cause e =>
    exact hrel (.run ticket (.recovering cause attempt (.connecting (.dialing e)))) rfl
  | refailed ticket attempt cause stage n hm hs he hn =>
    obtain ⟨delay, hn⟩ := hn.resolve_left (Option.some_ne_none _)
    obtain rfl := Option.some.inj hn
    exact .inr rfl
  | recovered ticket attempt cause stage id n hm hs he hn =>
    rcases hn with rfl | ⟨call, rfl⟩ | ⟨call, rfl⟩ <;> trivial
  | looped k b => exact absurd ⟨k, b, rfl⟩ ho

/-- A section of a loop leaves the session to itself, beats for it, or loses it, if no answer says
nothing of the session. -/
theorem Pulse.settles (h : Pulse c d k b c' n) (hrec : c.session.Recorded) (hb : b ≠ some .own)
    (hrel : c.Relies (.loop k b)) (hheart : c.heart = .session)
    (hopen : c.scheduler.senders ≠ 0 → c.session.state.isEstablished)
    (hsign : ∀ beat answer, b = some (.session beat) → d.reply beat.request = some answer →
      Session.Sign.of beat.sequence answer ≠ .unrelated) :
    c.Rests c' ∨ c.Beats c' ∨ c.Loses c' := by
  have hset {l l' : Loop} (hl : c.scheduler.loops[k]? = some l)
      (hle : l'.canSend.toNat ≤ l.canSend.toNat) :
      (c.scheduler.setLoop k l').senders ≤ c.scheduler.senders := by
    have := Scheduler.senders_setLoop hl l'
    omega
  cases h with
  | @opened previous told ticker hl =>
    exact .inl ⟨rfl, hset hl (Nat.le_refl _), fun _ => id⟩
  | stopped hl => exact .inl ⟨rfl, hset hl (Nat.zero_le _), fun _ => id⟩
  | broke b hl => exact .inl ⟨rfl, hset hl (Nat.zero_le _), fun _ => id⟩
  | refused hl hs =>
    have hest := hopen (Nat.pos_iff_ne_zero.mp (Scheduler.senders_pos hl rfl))
    obtain ⟨live, hlive⟩ := Option.isSome_iff_exists.mp (hrec.mpr hest)
    exact absurd (hs.symm.trans (Session.established?_eq_some_iff.mpr ⟨hest, hlive⟩)) (by simp)
  | began ticker b s hl hh hbegins =>
    cases b with
    | own => cases hh.symm.trans hheart
    | session beat =>
      obtain ⟨hresult, rfl⟩ := hbegins
      cases hlive : c.session.established? with
      | none => simp [Session.beginBeat_of_none hlive] at hresult
      | some live =>
        have hest := (Session.established?_eq_some_iff.mp hlive).1
        rw [Session.beginBeat_of_established hlive]
        exact .inr (.inl ⟨hest, hest, rfl, fun _ => id⟩)
  | rested b s outcome hl hends hnone =>
    cases b with
    | own => exact absurd rfl hb
    | session beat =>
      obtain ⟨answer, hreply, rfl, rfl⟩ := hends
      rcases Session.keeps_or_closes hrec hrel.1 hrel.2 (hsign beat answer rfl hreply) d.now with
        ⟨hest, hepoch, -⟩ | ⟨-, e, he⟩
      · exact .inr (.inl ⟨hrel.1, hest, hepoch, fun _ => id⟩)
      · simp [he, Termination.of?] at hnone
  | failed b s outcome t hl hends hsome =>
    cases b with
    | own => exact absurd rfl hb
    | session beat =>
      obtain ⟨answer, hreply, rfl, rfl⟩ := hends
      rcases Session.keeps_or_closes hrec hrel.1 hrel.2 (hsign beat answer rfl hreply) d.now with
        ⟨hest, hepoch, o, ho⟩ | ⟨hclosed, -⟩
      · refine .inr (.inl ⟨hrel.1, hest, hepoch, fun e he => ?_⟩)
        -- the notice that the loop leaves is not one of a loss
        rcases NoticeQueue.mem_of_mem_offer he with he | rfl
        · exact he
        · rw [ho] at hsome
          obtain ⟨sequence, directive⟩ | _ := o
          · cases directive <;> cases hsome
          · cases hsome
      · have := Scheduler.senders_setLoop hl ⟨.ended t.ending, true⟩
        exact .inr (.inr ⟨hrel.1, hclosed, this⟩)

/-- What a loop relies on at the stage that its section comes to. -/
theorem Pulse.relies (h : Pulse c d k b c' n) (hn : n = some w) : c'.Relies w := by
  subst hn
  cases h with
  | opened | rested => trivial
  | began ticker b s hl hh hbegins =>
    cases b with
    | own => trivial
    | session beat =>
      obtain ⟨hresult, rfl⟩ := hbegins
      cases hlive : c.session.established? with
      | none => simp [Session.beginBeat_of_none hlive] at hresult
      | some live =>
        rw [Session.beginBeat_of_established hlive] at hresult ⊢
        obtain rfl := Progress.waiting.inj hresult
        exact ⟨(Session.established?_eq_some_iff.mp hlive).1, rfl⟩

/-- The loops of a scheduler that drives the session wait for no other heartbeats. -/
theorem Pulse.ne_own (h : Pulse c d k b c' n) (hheart : c.heart = .session) (j : Nat) :
    n ≠ some (.loop j (some .own)) := by
  rintro rfl
  cases h with
  | began ticker b s hl hh => cases hh.symm.trans hheart

theorem Pulse.isStopping_eq (h : Pulse c d k b c' n) : c'.isStopping = c.isStopping := by
  cases h <;> rfl

/-- How many of the sessions to come depend on an activity: one, if it may open a session. -/
def opens (w : Option Activity) : Nat := (w.any mayOpen).toNat

theorem Pulse.opens_eq (h : Pulse c d k b c' n) : opens n = 0 := by
  rcases h.waits with rfl | ⟨b', l, rfl, -⟩ <;> rfl

/-- What is pending, and the tasks that may open a session, become more by the beginning of a load
only. -/
theorem Shift.opens_le (h : Shift minded c o c' loops n) (ho : ¬ o.OfLoop) :
    c'.pending + opens n ≤ c.pending + opens o.activity? ∨
      o = .call .load ∧ c.session.state = .disconnected ∧ c.registration.slot = none ∧
        c'.pending = c.pending := by
  have hone (w : Option Activity) : opens w ≤ 1 := Bool.toNat_le _
  have hstart := c.scheduler.senders_start_le
  simp only [Core.pending]
  cases h with
  | ended | registered | failed | yielded | shut => exact .inl (Nat.le_add_right _ _)
  | background o n hn =>
    rcases hn with ⟨l, rfl⟩ | ⟨i, stage, rfl⟩ | ⟨call, rfl, -⟩ <;> exact .inl (Nat.le_add_right _ _)
  | enabling | lined | watching | reporting => exact .inl (Nat.le_add_right _ _)
  | opening hr hs => exact .inr ⟨rfl, hs, hr, rfl⟩
  | dialled | reopening | redialled => exact .inl (Nat.le_refl _)
  | loaded stage id hs he hr =>
    have ho : opens (Origin.activity? (.stage (.load stage))) = 1 := rfl
    have hn : opens none = 0 := rfl
    exact .inl (by dsimp only; omega)
  | disabling k hk =>
    have hstop := c.scheduler.senders_stop_le
    have hjoin := c.scheduler.stop.state.senders_beginJoin_le
    exact .inl (by dsimp only [opens, Origin.activity?, mayOpen, mayReopen, Option.any]; omega)
  | disabled n hk hn | joined k n hn =>
    rcases hn with rfl | rfl <;> exact .inl (Nat.le_add_right _ _)
  | noticed ticket t q n hq hn =>
    have := hone n
    exact .inl (by dsimp only; rw [(NoticeQueue.eq_of_pop? hq).1, List.length_cons]; omega)
  | refailed ticket attempt cause stage n =>
    exact .inl (Nat.add_le_add_left (hone n) _)
  | recovered ticket attempt cause stage id n hm hs he hn =>
    have hn : opens (some (.run ticket n)) = 0 := by
      rcases hn with rfl | ⟨call, rfl⟩ | ⟨call, rfl⟩ <;> rfl
    have ho : opens (Origin.activity?
      (.stage (.run ticket (.recovering cause attempt (.connecting stage))))) = 1 := rfl
    exact .inl (by dsimp only; omega)
  | looped k b => exact absurd ⟨k, b, rfl⟩ ho

end

/-! ### Traffic -/

namespace Traffic

variable {allowed allowed' : Traffic → Move → Bool} {x : Traffic} {m : Move}
  {t : Turn Traffic (Progress Activity Outcome)} {o : Origin}

/-- Whether a move is one of a host that does not drive the session or the scheduler itself, and is
not one in which the answer to a heartbeat says nothing of the session. -/
def relatesAnswers (x : Traffic) (m : Move) : Bool :=
  x.usesHooks m && match m with
    | .resume k d => (x.tasks.waiting? k).all fun
      | .loop _ (some (.session b)) => (d.reply b.request).all fun answer =>
        Session.Sign.of b.sequence answer ≠ .unrelated
      | _ => true
    | _ => true

theorem usesHooks_of_relatesAnswers (hm : x.relatesAnswers m) : x.usesHooks m :=
  (Bool.and_eq_true_iff.mp hm).1

theorem sign_ne_of_relatesAnswers {k j : Nat} {d : Delivery} {b : Beat}
    {answer : Except ClientError HeartbeatReply} (hm : x.relatesAnswers (.resume k d))
    (hw : x.tasks.waiting? k = some (.loop j (some (.session b))))
    (ha : d.reply b.request = some answer) : Session.Sign.of b.sequence answer ≠ .unrelated := by
  have h := (Bool.and_eq_true_iff.mp hm).2
  simpa [hw, ha] using h

/-- The number of tasks that may open a session, of notices that wait and of loops that may still
leave one. -/
def openers (x : Traffic) : Nat := x.agent.core.pending + x.tasks.countP (·.any mayOpen)

/-- The order in which the tasks drive the session while the agent is not told to shut down. -/
structure Calm (x : Traffic) : Prop where
  one : x.openers ≤ 1
  relies : ∀ {i w}, x.tasks.waiting? i = some w → x.agent.core.Relies w
  lost : ∀ {e}, .lost e ∈ x.agent.notices.waiting → x.agent.session.state = .closed
  isOpen : x.agent.scheduler.senders ≠ 0 → x.agent.session.state.isEstablished

/-- What holds of an agent and its tasks, also while it is told to shut down. -/
structure Steady (x : Traffic) : Prop where
  kept : x.Kept
  heart : x.agent.heart = .session
  recorded : x.agent.session.Recorded
  driven : ∀ {i k}, x.tasks.waiting? i ≠ some (.loop k (some .own))
  calm : x.agent.isStopping = false → x.Calm

theorem openers_step (ht : x.step m = some t) (ho : x.origin? m = some o) :
    t.state.openers + opens o.activity? + x.agent.core.pending =
      x.openers + opens t.result.stage? + t.state.agent.core.pending := by
  have hcount : _ + opens o.activity? = _ + opens t.result.stage? :=
    countP_step ht ho (p := mayOpen) fun _ => rfl
  unfold openers
  omega

theorem Calm.relies_of_origin? (hx : x.Calm) (ho : x.origin? m = some o) :
    ∀ w, o = .stage w → x.agent.core.Relies w := by
  rintro w rfl
  obtain ⟨k, d, -, hk⟩ := exists_resume_of_origin? ho
  exact hx.relies hk

/-- When a load is to begin, nothing is pending, and no task waits that may open a session: there
has been no loop, and another load would not leave the session disconnected. -/
theorem Calm.openers_eq_zero (hx : x.Calm) (hkept : x.Kept)
    (hstate : x.agent.session.state = .disconnected) (hfree : x.agent.registration.slot = none) :
    x.openers = 0 := by
  obtain ⟨hpending, hreopeners⟩ := Nat.add_eq_zero_iff.mp (hkept.fresh hfree).2
  refine Nat.add_eq_zero_iff.mpr ⟨hpending, List.countP_eq_zero.mpr fun task hmem hmay => ?_⟩
  obtain ⟨w, rfl, hw⟩ := (Option.any_eq_true _ _).mp hmay
  obtain ⟨i, hi⟩ := List.mem_iff_getElem?.mp hmem
  have hi : x.tasks.waiting? i = some w := Option.join_eq_some_iff.mpr hi
  cases hreopen : mayReopen w with
  | true =>
    have hpos : 0 < x.reopeners := Tasks.countP_pos_of_waiting? hi hreopen
    omega
  | false =>
    cases w with
    | load stage => exact absurd (hstate.symm.trans (hx.relies hi).1) (by simp)
    | connect | beat | status | join | enable | disable | run | loop | listener | worker =>
      exact absurd (hreopen.symm.trans hw) (by simp)

/-- A section that may open a session is of the only task that may, and nothing is pending. -/
theorem Calm.alone (hx : x.Calm) (hkept : x.Kept) (ho : x.origin? m = some o) {c : Core}
    (h : x.agent.core.Opens c o) :
    x.agent.core.pending = 0 ∧ ∀ {i w}, x.tasks.waiting? i = some w → mayOpen w →
      i = x.tasks.place m.resumes? := by
  have hone := hx.one
  rcases h.task with hown | ⟨-, hstate, hfree⟩
  · rw [← activity?_of_origin? ho] at hown
    obtain ⟨w, hw, hmay⟩ := (Option.any_eq_true _ _).mp hown
    obtain ⟨k, hk, hkw⟩ := Option.bind_eq_some_iff.mp hw
    have hpos := Tasks.countP_pos_of_waiting? hkw hmay
    unfold openers at hone
    refine ⟨by omega, fun hi hw' => ?_⟩
    rw [hk]
    exact Tasks.eq_of_waiting? (by omega) hi hkw hw' hmay
  · obtain ⟨hpending, hcount⟩ := Nat.add_eq_zero_iff.mp (hx.openers_eq_zero hkept hstate hfree)
    refine ⟨hpending, fun hi hw => ?_⟩
    have hpos := Tasks.countP_pos_of_waiting? hi hw
    omega

/-- Every section of a loop leaves the agent calm. -/
theorem Steady.calm_of_pulse (hx : x.Steady) (hm : x.relatesAnswers m) (ht : x.step m = some t)
    {i k : Nat} {d : Delivery} {b : Option HeartBeat} (hmove : m = .resume i d)
    (hi : x.tasks.waiting? i = some (.loop k b)) (hnil : spawned t.effects = [])
    (h : Pulse x.agent.core d k b t.state.agent.core t.result.stage?)
    (hs : x.agent.isStopping = false) : t.state.Calm := by
  subst hmove
  obtain ⟨hone, hrelies, hlost, hopen⟩ := hx.calm hs
  have hopeners := openers_step ht (o := .stage (.loop k b)) (by simp [origin?, hi])
  have hzero : opens (Origin.activity? (.stage (.loop k b))) = 0 := rfl
  have hle := h.pending_le.1
  have hown := h.opens_eq
  have hwhere {j : Nat} {w : Activity} (hw : t.state.tasks.waiting? j = some w) :
      t.result.stage? = some w ∨ j ≠ i ∧ x.tasks.waiting? j = some w := by
    rcases waiting?_of_step ht hw with ⟨-, hw⟩ | hw | ⟨loop, hmem, -⟩
    · exact .inl hw
    · exact .inr hw
    · simp [hnil] at hmem
  have hstop : x.agent.core.isStopping → t.state.agent.core.isStopping := fun h' =>
    h.isStopping_eq.trans h'
  have hsettles := h.settles hx.recorded (fun hb => hx.driven (hb ▸ hi)) (hrelies hi) hx.heart hopen
    fun beat answer hb ha => sign_ne_of_relatesAnswers hm (hb ▸ hi) ha
  have hone' : t.state.openers ≤ 1 := by omega
  rcases hsettles with hrests | hbeats | hloses
  · refine ⟨hone', fun hw => ?_, fun he => ?_, fun hsenders => ?_⟩
    · rcases hwhere hw with hw | ⟨-, hw⟩
      · exact h.relies hw
      · exact (hrelies hw).of_rests hrests hstop
    · exact (congrArg Session.state hrests.session).trans (hlost (hrests.notices _ he))
    · have := hrests.senders
      refine (congrArg (·.state.isEstablished) hrests.session).trans
        (hopen fun hzero => hsenders ?_)
      exact Nat.le_zero.mp (hzero ▸ this)
  · refine ⟨hone', fun hw => ?_, fun he => ?_, fun _ => hbeats.after⟩
    · rcases hwhere hw with hw | ⟨-, hw⟩
      · exact h.relies hw
      · refine (hrelies hw).of_loop ((hrelies hw).mayOpen_eq_false hbeats.before) ?_ hstop
        rintro j beat rfl
        exact ⟨hbeats.after, hbeats.epoch.trans (hrelies hw).2⟩
    · have hclosed := hlost (hbeats.notices _ he)
      exact absurd (hbeats.before.symm.trans (congrArg SessionState.isEstablished hclosed))
        (by simp [SessionState.isEstablished])
  · have hsenders : t.state.agent.scheduler.senders = 0 := by
      have : t.state.agent.scheduler.senders + 1 = x.agent.scheduler.senders := hloses.senders
      have : x.agent.core.pending = x.agent.notices.waiting.length + x.agent.scheduler.senders :=
        rfl
      unfold openers at hone
      omega
    refine ⟨hone', fun {j w} hw => ?_, fun _ => hloses.after, fun h => absurd hsenders h⟩
    rcases hwhere hw with hw | ⟨hj, hw⟩
    · exact h.relies hw
    · refine (hrelies hw).of_loop ((hrelies hw).mayOpen_eq_false hloses.before) ?_ hstop
      -- the loop of another heartbeat could still leave a notice
      rintro k' beat rfl
      obtain ⟨l, hl, ticker, hphase⟩ := hx.kept.tended.waits hw
      have hl' := (h.loops_of_ne fun hk => hj (hx.kept.tended.unique (hk ▸ hw) hi)).trans hl
      have hsend : l.canSend := by simp [Loop.canSend, hphase]
      exact absurd hsenders (Nat.ne_of_gt (Scheduler.senders_pos hl' hsend))

/-- Every other section leaves the agent calm. -/
theorem Steady.calm_of_shift {minded : Prop} (hx : x.Steady) (ht : x.step m = some t)
    (ho : x.origin? m = some o) (hloop : ¬ o.OfLoop)
    (h : Shift minded x.agent.core o t.state.agent.core (spawned t.effects) t.result.stage?)
    (hs : t.state.agent.isStopping = false) : t.state.Calm := by
  have hcalm := hx.calm (by
    by_contra hstop
    exact absurd (hs.symm.trans (h.isStopping_of (by simpa using hstop))) (by simp))
  have hrel := hcalm.relies_of_origin? ho
  have ⟨hone, hrelies, hlost, hopen⟩ := hcalm
  have hopeners := openers_step ht ho
  have hstop : x.agent.core.isStopping → t.state.agent.core.isStopping := h.isStopping_of
  have hwhere {j : Nat} {w : Activity} (hw : t.state.tasks.waiting? j = some w) :
      t.state.agent.core.Relies w ∨
        j ≠ x.tasks.place m.resumes? ∧ x.tasks.waiting? j = some w := by
    rcases waiting?_of_step ht hw with ⟨-, hw⟩ | hw | ⟨loop, -, rfl⟩
    · exact .inl (h.relies hloop hrel (fun _ => hlost) hw)
    · exact .inr hw
    · exact .inl trivial
  have hone' : t.state.openers ≤ 1 := by
    rcases h.opens_le hloop with hle | ⟨rfl, hstate, hfree, hle⟩
    · omega
    · have hzero := hcalm.openers_eq_zero hx.kept hstate hfree
      have hn : opens t.result.stage? ≤ 1 := Bool.toNat_le _
      omega
  rcases h.rests_or_opens hloop hrel hs with hrests | hopens
  · refine ⟨hone', fun hw => ?_, fun he => ?_, fun hsenders => ?_⟩
    · rcases hwhere hw with hw | ⟨-, hw⟩
      · exact hw
      · exact (hrelies hw).of_rests hrests hstop
    · exact (congrArg Session.state hrests.session).trans (hlost (hrests.notices _ he))
    · have := hrests.senders
      refine (congrArg (·.state.isEstablished) hrests.session).trans
        (hopen fun hzero => hsenders ?_)
      exact Nat.le_zero.mp (hzero ▸ this)
  · obtain ⟨hpending, halone⟩ := hcalm.alone hx.kept ho hopens
    obtain ⟨hwaiting, hsenders⟩ := Nat.add_eq_zero_iff.mp hpending
    refine ⟨hone', fun {j w} hw => ?_, fun he => ?_, fun h => ?_⟩
    · rcases hwhere hw with hw | ⟨hj, hw⟩
      · exact hw
      · refine (hrelies hw).of_loop ?_ ?_ hstop
        · by_contra hmay
          exact hj (halone hw (by simpa using hmay))
        · rintro k' beat rfl
          exact absurd (hopens.shut.symm.trans (hrelies hw).1) (by simp)
    · have he : _ ∈ t.state.agent.core.notices.waiting := he
      rw [hopens.notices, List.eq_nil_of_length_eq_zero hwaiting] at he
      cases he
    · rcases hopens.scheduler with heq | hest
      · exact absurd ((congrArg Scheduler.senders heq).trans hsenders) h
      · exact hest

/-- Every move leaves the agent steady. -/
theorem Steady.step (hx : x.Steady) (hm : x.relatesAnswers m) (ht : x.step m = some t) :
    t.state.Steady := by
  have hhooks := usesHooks_of_relatesAnswers hm
  obtain ⟨o, ho, hshift⟩ := shift_of_usesHooks ht hhooks fun _ _ => hx.kept.tended.hooked
  refine ⟨hx.kept.step hhooks ht, hshift.heart_eq.trans hx.heart, hshift.recorded hx.recorded,
    fun {j j'} hw => ?_, fun hs => ?_⟩ <;>
  rcases hx.kept.tended.pulse_or_shift hhooks ht with
    ⟨i, d, k, b, hmove, hi, hnil, hpulse⟩ | ⟨o, ho, hloop, hshift⟩
  · rcases waiting?_of_step ht hw with ⟨-, hw⟩ | ⟨-, hw⟩ | ⟨loop, -, hw⟩
    · exact hpulse.ne_own hx.heart j' hw
    · exact hx.driven hw
    · cases hw
  · rcases waiting?_of_step ht hw with ⟨-, hw⟩ | ⟨-, hw⟩ | ⟨loop, -, hw⟩
    · exact hshift.ne_loop hloop _ _ hw
    · exact hx.driven hw
    · cases hw
  · exact hx.calm_of_pulse hm ht hmove hi hnil hpulse (hpulse.isStopping_eq.symm.trans hs)
  · exact hx.calm_of_shift ht ho hloop hshift hs

end Traffic

end Agent

end FleetAgent
