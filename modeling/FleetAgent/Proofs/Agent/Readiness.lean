import FleetAgent.Proofs.Agent.Recovery
import FleetAgent.Proofs.Agent.Reporting
import Mathlib.Data.List.Induction

/-!
# The readiness that is remembered

The handle of the host remembers the readiness that the controller accepted last. What the
controller was told last on the open session can be something else: reports overlap and are accepted
out of order, a report is accepted after a newer session was opened, or a session is opened before
the host is enabled and the readiness is not reported again. Otherwise the two agree as soon as no
report is in progress.

## Main definitions

* `Agent.Traffic.reported`, `Agent.Traffic.confirmed`: what was reported, and what of it was
  accepted.
* `Agent.Traffic.toldLast`: what was reported last on the open session.
* `Agent.Traffic.Entry.Granted`, `Agent.Traffic.Entry.Settled`, `Agent.Traffic.Entry.Renewed`: the
  conditions on the sections.
* `Agent.Traffic.record?`: the history of a list of moves.

## Main results

* `Agent.Traffic.client_of_begun?`: every status call is made on the open session.
* `Agent.Traffic.length_reported`: what was reported was accepted, or waits to be.
* `Agent.Traffic.renews_of_history`: what is remembered is told on a new session.
* `Agent.Traffic.reconnecting_of_opens`: through its hooks, an agent for which the server is
  remembered to accept players opens a session only in a recovery.
* `Agent.Traffic.ready_of_history`: what is remembered of the readiness.
-/

namespace FleetAgent.Agent

/-! ### What a handle is needed for -/

/-- Whether an activity is one that there is only once the handle is registered: a heartbeat loop, a
recovery or a status call. -/
def needsHandle : Activity → Bool
  | .loop _ _ | .run _ (.recovering _ _ _) | .status _ | .enable _ => true
  | _ => false

/-- Whether an activity is a recovery that opens a session. -/
def isReconnecting : Activity → Bool
  | .run _ (.recovering _ _ (.connecting _)) => true
  | _ => false

section

variable {minded : Prop} {c c' : Core} {o : Origin} {loops : List Nat} {n : Option Activity}

/-- Without such an activity, an open session and a notice, a section comes to none of them unless
it registers the handle. -/
theorem Shift.registers_or_rests (h : Shift minded c o c' loops n)
    (ho : ∀ w, o = .stage w → needsHandle w = false) (hclosed : ¬ c.session.state.isEstablished)
    (hcalm : c.notices.pop? = none) :
    c'.registration.slot = some .own ∨ ¬ c'.session.state.isEstablished ∧ c'.notices.pop? = none ∧
      loops = [] ∧ ∀ w, n = some w → needsHandle w = false := by
  have hflushing {n : Option Activity} (hn : n = none ∨ n = some (.disable .flushing))
      (w : Activity) (hw : n = some w) : needsHandle w = false := by
    rcases hn with rfl | rfl
    · cases hw
    · cases hw
      rfl
  cases h with
  | loaded => exact .inl rfl
  | background o n hn =>
    refine .inr ⟨hclosed, hcalm, rfl, fun w hw => ?_⟩
    obtain rfl := Option.some.inj hw
    rcases hn with ⟨l, rfl⟩ | ⟨i, stage, rfl⟩ | ⟨call, rfl, hs⟩
    · rfl
    · rfl
    · exact absurd hs hclosed
  | enabling o stage hs => exact absurd hs hclosed
  | noticed ticket t q n hq => cases hcalm.symm.trans hq
  | reopening | redialled | refailed | recovered | reporting | looped => cases ho _ rfl
  | ended | registered | shut => exact .inr ⟨hclosed, hcalm, rfl, fun w hw => by cases hw⟩
  | failed | yielded => exact .inr ⟨fun h => (by cases h), hcalm, rfl, fun w hw => by cases hw⟩
  | opening => exact .inr ⟨fun h => (by cases h), hcalm, rfl, fun w hw => by cases hw; rfl⟩
  | dialled | disabling | lined | watching =>
    exact .inr ⟨hclosed, hcalm, rfl, fun w hw => by cases hw; rfl⟩
  | disabled n hk hn | joined k n hn =>
    have hstate : ¬ c.session.disconnect.state.state.isEstablished := by
      simp [Session.state_disconnect, SessionState.isEstablished]
    exact .inr ⟨hstate, hcalm, rfl, hflushing hn⟩

/-- The handle stays registered. -/
theorem Shift.own_of_own (h : Shift minded c o c' loops n)
    (hown : c.registration.slot = some .own) :
    c'.registration.slot = some .own := by
  cases h with
  | registered hr | loaded stage id hs he hr => cases hr.symm.trans hown
  | ended | background | opening | dialled | failed | yielded | enabling | disabling | disabled
  | joined | lined | watching | shut | noticed | reopening | redialled | refailed | recovered
  | reporting | looped => exact hown

/-- A session is opened by loading, before the handle is registered, or by a recovery. -/
theorem Shift.opens (h : Shift minded c o c' loops n) (hclosed : ¬ c.session.state.isEstablished)
    (hopen : c'.session.state.isEstablished) :
    c.registration.slot = none ∨ ∃ w, o = .stage w ∧ isReconnecting w := by
  cases h with
  | loaded stage id hs he hr => exact .inl hr
  | recovered => exact .inr ⟨_, rfl, rfl⟩
  | looped k b s r q n hs =>
    rcases hs with rfl | rfl | ⟨now, beat, answer, rfl⟩
    · exact absurd hopen hclosed
    · exact absurd (Session.state_beginBeat_of_not hclosed ▸ hopen) hclosed
    · dsimp only at hopen
      rw [Session.finishBeat_of_stale (.inr hclosed)] at hopen
      exact absurd hopen hclosed
  | disabled | joined =>
    simp [Session.state_disconnect, SessionState.isEstablished] at hopen
  | ended | registered | background | dialled | enabling | disabling | lined | watching | shut
  | noticed | redialled | reporting => exact absurd hopen hclosed
  | opening | failed | yielded | reopening | refailed => cases hopen

end

/-- A new agent has no session, remembers nothing of the readiness and has no notice. -/
theorem make_rests {config : AgentConfig} {address : String} {host : Host}
    {subscribers : List Subscriber} {a : Agent}
    (ha : Agent.make config address host subscribers = .ok a) :
    ¬ a.session.state.isEstablished ∧ a.cloud.ready = false ∧ a.notices.pop? = none := by
  simp only [Agent.make] at ha
  split at ha
  · cases ha
  · obtain rfl := Except.ok.inj ha
    exact ⟨fun h => (by cases h), rfl, rfl⟩

namespace Traffic

/-! ### Reports -/

namespace Entry

variable (e : Entry)

/-- The stage at which the task of a section has waited. -/
def waited? : Option Activity := e.move.resumes?.bind e.before.tasks.waiting?

/-- The status call that a section begins. -/
def begun? : Option StatusCall := e.turn.result.stage?.bind call?

/-- The status call whose acceptance a section takes up. -/
def granted? : Option StatusCall :=
  match e.move with
  | .resume _ d => e.waited?.bind fun w => Agent.granted? d w e.turn.result.stage?
  | .call _ | .abandon _ | .register => none

/-- The readiness that a section reports. -/
def reports? : Option Bool := e.begun?.bind (·.flag?)

/-- The readiness whose acceptance a section takes up. -/
def confirms? : Option Bool := e.granted?.bind (·.flag?)

/-- Whether a section opens a session. -/
def opens : Bool :=
  !e.before.agent.session.state.isEstablished && e.turn.state.agent.session.state.isEstablished

end Entry

/-- The readiness that was reported, in the order of the reports. -/
def reported (h : List Entry) : List Bool := h.filterMap Entry.reports?

/-- The readiness that was accepted, in the order in which it was. -/
def confirmed (h : List Entry) : List Bool := h.filterMap Entry.confirms?

/-- The readiness that was reported last on the session that was opened last. -/
def toldLast (h : List Entry) : Option Bool :=
  h.foldl (fun last e => e.reports?.or (if e.opens then none else last)) none

/-- The number of tasks that wait for the answer to a status call of some kind. -/
def awaiting (x : Traffic) (p : StatusCall → Bool) : Nat :=
  x.tasks.countP (·.any fun w => (call? w).any p)

/-- Each report that the server is running, or whether it accepts players, ends with its
acceptance. -/
def Entry.Granted (e : Entry) : Prop :=
  ∀ w ∈ e.waited?, ∀ c ∈ call? w, c.report ≠ .stop → e.granted? = some c

/-- A session is not opened while a readiness that was reported on an older one is not yet
accepted. -/
def Entry.Settled (e : Entry) : Prop := e.opens → e.before.awaiting (·.flag?.isSome) = 0

/-- While it is remembered that the server accepts players, only the recovery of a host that is
enabled opens a session. -/
def Entry.Renewed (e : Entry) : Prop :=
  e.opens → e.before.agent.cloud.ready → e.before.agent.isEnabled ∧ e.waited?.any isReconnecting

instance : DecidablePred Entry.Granted := fun e =>
  inferInstanceAs
    (Decidable (∀ w ∈ e.waited?, ∀ c ∈ call? w, c.report ≠ .stop → e.granted? = some c))

instance : DecidablePred Entry.Settled := fun _ => inferInstanceAs (Decidable (_ → _))

instance : DecidablePred Entry.Renewed := fun _ => inferInstanceAs (Decidable (_ → _ → _))

variable {allowed : Traffic → Move → Bool} {h : List Entry} {x : Traffic} {m : Move}
  {t : Turn Traffic (Progress Activity Outcome)} {e : Entry}

@[simp]
theorem reported_concat : reported (h ++ [e]) = reported h ++ e.reports?.toList := by
  cases he : e.reports? <;> simp [reported, he]

@[simp]
theorem confirmed_concat : confirmed (h ++ [e]) = confirmed h ++ e.confirms?.toList := by
  cases he : e.confirms? <;> simp [confirmed, he]

@[simp]
theorem toldLast_concat :
    toldLast (h ++ [e]) =
      e.reports?.or (if e.opens then none else toldLast h) := by
  simp [toldLast]

/-- What was told last on the open session is what was reported last. -/
theorem getLast?_of_toldLast {b : Bool} (hb : toldLast h = some b) :
    (reported h).getLast? = some b := by
  induction h using List.reverseRecOn with
  | nil => cases hb
  | append_singleton h e ih =>
    rw [toldLast_concat] at hb
    rw [reported_concat]
    cases he : e.reports? with
    | some b' =>
      rw [he] at hb
      simpa using hb
    | none =>
      simp only [he, Option.none_or] at hb
      split_ifs at hb
      simpa using ih hb

/-! ### What is remembered -/

/-- Every status call is made on the session that is open. -/
theorem client_of_begun? (ht : x.step m = some t) {c : StatusCall}
    (hc : (⟨x, m, t⟩ : Entry).begun? = some c) : t.state.agent.session.client = .ok c.session := by
  obtain ⟨u, hu, rfl⟩ := step_eq_some_iff.mp ht
  have hclient : (u.state.perform u.effects).session.client = u.state.session.client :=
    congrArg (·.session.client) (core_perform (a := u.state) u.effects)
  refine hclient.trans ?_
  cases m with
  | call op =>
    obtain rfl := Option.some.inj hu
    exact client_of_begin hc
  | resume k d =>
    obtain ⟨w, -, hu⟩ := Option.bind_eq_some_iff.mp hu
    exact client_of_resume hu hc
  | abandon k =>
    obtain ⟨w, -, rfl⟩ := Option.map_eq_some_iff.mp hu
    cases hc
  | register =>
    simp only [section?] at hu
    split at hu <;> obtain rfl := Option.some.inj hu <;> cases hc

/-- What is remembered after a section is the readiness whose acceptance it takes up, or else what
was remembered before. -/
theorem ready_of_step (ht : x.step m = some t) :
    t.state.agent.cloud.ready =
        (⟨x, m, t⟩ : Entry).confirms?.getD x.agent.cloud.ready ∧
      x.agent.session.Becomes t.state.agent.session := by
  obtain ⟨u, hu, rfl⟩ := step_eq_some_iff.mp ht
  obtain ⟨hready, hsession⟩ := spares_perform u.state u.effects
  suffices h : u.state.cloud.ready = _ ∧ x.agent.session.Becomes u.state.session from
    ⟨hready.trans h.1, h.2.trans hsession⟩
  cases m with
  | call op =>
    obtain rfl := Option.some.inj hu
    exact ⟨(spares_begin op).ready, (spares_begin op).session⟩
  | resume k d =>
    obtain ⟨w, hk, hu⟩ := Option.bind_eq_some_iff.mp hu
    simpa [Remembers, Entry.confirms?, Entry.granted?, Entry.waited?, Move.resumes?, hk]
      using remembers_resume hu
  | abandon k =>
    obtain ⟨w, -, rfl⟩ := Option.map_eq_some_iff.mp hu
    exact ⟨(spares_abandon w).ready, (spares_abandon w).session⟩
  | register =>
    have hstate : u.state.cloud = x.agent.cloud ∧ u.state.session = x.agent.session := by
      simp only [section?] at hu
      split at hu <;> obtain rfl := Option.some.inj hu <;> exact ⟨rfl, rfl⟩
    exact ⟨congrArg Cloud.ready hstate.1, hstate.2 ▸ .refl⟩

/-- An open session has a record. -/
theorem exists_established? (hx : History allowed h x)
    (hopen : x.agent.session.state.isEstablished) :
    ∃ live, x.agent.session.established? = some live := by
  have hlive : x.agent.session.live.isSome := by
    induction hx with
    | new ha => exact absurd hopen (make_rests ha).1
    | step _ _ ht ih => exact (ready_of_step ht).2.isSome_live ih hopen
  obtain ⟨live, hlive⟩ := Option.isSome_iff_exists.mp hlive
  exact ⟨live, Session.established?_eq_some_iff.mpr ⟨hopen, hlive⟩⟩

/-- What is remembered is the readiness that was accepted last. -/
theorem ready_eq_getLast? (hx : History allowed h x) :
    x.agent.cloud.ready = (confirmed h).getLast?.getD false := by
  induction hx with
  | new ha => exact (make_rests ha).2.1
  | step hx hm ht ih =>
    rw [(ready_of_step ht).1, ih, confirmed_concat]
    cases Entry.confirms? _ <;> simp

/-! ### What waits -/

theorem Entry.call?_of_granted? {c : StatusCall} (hc : e.granted? = some c) :
    e.waited?.bind call? = some c := by
  obtain ⟨before, move, turn⟩ := e
  cases move with
  | call | abandon | register => cases hc
  | resume k d =>
    obtain ⟨w, hw, hc⟩ := Option.bind_eq_some_iff.mp hc
    rw [hw]
    exact (Option.filter_eq_some_iff.mp hc).1

/-- A report of the readiness that ends is accepted. -/
theorem Entry.Granted.flag?_eq (he : e.Granted) :
    e.confirms? = (e.waited?.bind call?).bind (·.flag?) := by
  unfold Entry.confirms?
  cases hc : e.waited?.bind call? with
  | none =>
    cases hg : e.granted? with
    | none => rfl
    | some c => cases hc.symm.trans (Entry.call?_of_granted? hg)
  | some c =>
    obtain ⟨w, hw, hcall⟩ := Option.bind_eq_some_iff.mp hc
    by_cases hstop : c.report = .stop
    · cases hg : e.granted? with
      | none => simp [StatusCall.flag?, hstop]
      | some c' => rw [Option.some.inj (hc.symm.trans (Entry.call?_of_granted? hg))]
    · rw [he w hw c hcall hstop]

/-- The number of calls that wait changes with the call that ends and the one that begins. -/
theorem awaiting_step (ht : x.step m = some t) (p : StatusCall → Bool) :
    t.state.awaiting p + (((⟨x, m, t⟩ : Entry).waited?.bind call?).any p).toNat =
      x.awaiting p + ((⟨x, m, t⟩ : Entry).begun?.any p).toNat := by
  rw [Entry.begun?, Option.any_bind, Option.any_bind]
  exact countP_tasks_step ht fun _ => rfl

theorem awaiting_ofAgent (a : Agent) (p : StatusCall → Bool) : (ofAgent a).awaiting p = 0 := by
  simp [awaiting, ofAgent, List.countP_eq_zero, call?]

/-- What was reported was accepted, or waits to be. -/
theorem length_reported (hx : History allowed h x) (hh : ∀ e ∈ h, e.Granted) :
    (reported h).length = (confirmed h).length + x.awaiting (·.flag?.isSome) := by
  induction hx with
  | new => exact (awaiting_ofAgent _ _).symm.trans (Nat.zero_add _).symm
  | @step h x m t hx hm ht ih =>
    have he : (⟨x, m, t⟩ : Entry).Granted := hh _ (by simp)
    have hstep := awaiting_step ht (·.flag?.isSome)
    have hlength (c? : Option StatusCall) :
        (c?.bind (·.flag?)).toList.length = (c?.any (·.flag?.isSome)).toNat := by
      rcases c? with _ | c
      · rfl
      · cases h : c.flag? <;> simp [h]
    rw [reported_concat, confirmed_concat, he.flag?_eq, Entry.reports?, List.length_append,
      List.length_append, hlength, hlength, ih fun e he => hh e (by simp [he])]
    omega

/-! ### A session that was told nothing -/

theorem eq_false_of_awaiting {p : StatusCall → Bool} {k : Nat} {w : Activity} {c : StatusCall}
    (hnone : x.awaiting p = 0) (hk : x.tasks.waiting? k = some w) (hc : call? w = some c) :
    p c = false := by
  by_contra hp
  have hpos := Tasks.countP_pos_of_waiting? (p := fun w => (call? w).any p) hk
    (by simpa [hc] using hp)
  exact Nat.ne_of_gt hpos hnone

theorem awaiting_mono {p q : StatusCall → Bool} (hpq : ∀ c, p c → q c) :
    x.awaiting p ≤ x.awaiting q := by
  refine List.countP_mono_left fun w? _ h => ?_
  obtain ⟨w, rfl, hw⟩ := (Option.any_eq_true _ _).mp h
  obtain ⟨c, hc, hp⟩ := (Option.any_eq_true _ _).mp hw
  simp [hc, hpq c hp]

/-- While no report of the readiness waits, what is remembered stays the same. -/
theorem ready_eq_of_awaiting (ht : x.step m = some t) (hnone : x.awaiting (·.flag?.isSome) = 0) :
    t.state.agent.cloud.ready = x.agent.cloud.ready := by
  rw [(ready_of_step ht).1, Entry.confirms?]
  cases hg : (⟨x, m, t⟩ : Entry).granted? with
  | none => rfl
  | some c =>
    obtain ⟨w, hw, hc⟩ := Option.bind_eq_some_iff.mp (Entry.call?_of_granted? hg)
    obtain ⟨k, -, hk⟩ := Option.bind_eq_some_iff.mp hw
    have hflag := eq_false_of_awaiting hnone hk hc
    rw [Option.bind_some, Option.not_isSome_iff_eq_none.mp (Bool.eq_false_iff.mp hflag)]
    rfl

/-- Nothing waits after a section that begins no report of the readiness if nothing has waited
before. -/
theorem awaiting_eq_zero (ht : x.step m = some t) (hzero : x.awaiting (·.flag?.isSome) = 0)
    (hnone : (⟨x, m, t⟩ : Entry).reports? = none) :
    t.state.awaiting (·.flag?.isSome) = 0 := by
  have hstep := awaiting_step ht (·.flag?.isSome)
  have hbegun : (⟨x, m, t⟩ : Entry).begun?.any (·.flag?.isSome) = false := by
    cases hb : (⟨x, m, t⟩ : Entry).begun? with
    | none => rfl
    | some c =>
      rw [Entry.reports?, hb, Option.bind_some] at hnone
      simp [hnone]
  rw [hbegun, hzero] at hstep
  exact (Nat.add_eq_zero_iff.mp hstep).1

/-- What holds while nothing was reported on the open session: nothing that was reported before
waits to be accepted, and what is remembered is about to be reported again. -/
structure Renews (x : Traffic) : Prop where
  settled : x.awaiting (·.flag?.isSome) = 0
  running : x.agent.cloud.ready → ∃ k ticket cause attempt call,
    x.tasks.waiting? k = some (.run ticket (.recovering cause attempt (.running call))) ∧
      call.report = .running

/-- The section in which a recovery opens a session. -/
theorem exists_reconnecting (hw : (⟨x, m, t⟩ : Entry).waited?.any isReconnecting) :
    ∃ k ticket cause attempt stage, m.resumes? = some k ∧ x.tasks.waiting? k =
      some (.run ticket (.recovering cause attempt (.connecting stage))) := by
  obtain ⟨w, hw, hreconnecting⟩ := (Option.any_eq_true _ _).mp hw
  obtain ⟨k, hk, hw⟩ := Option.bind_eq_some_iff.mp hw
  unfold isReconnecting at hreconnecting
  split at hreconnecting
  · exact ⟨k, _, _, _, _, hk, hw⟩
  · cases hreconnecting

/-- A section that opens a session and begins no report of the readiness. -/
theorem renews_of_opens (ht : x.step m = some t) (hsettled : (⟨x, m, t⟩ : Entry).Settled)
    (hrenewed : (⟨x, m, t⟩ : Entry).Renewed) (hopens : (⟨x, m, t⟩ : Entry).opens)
    (hnone : (⟨x, m, t⟩ : Entry).reports? = none) : Renews t.state := by
  have hsettled := hsettled hopens
  refine ⟨awaiting_eq_zero ht hsettled hnone, fun hready => ?_⟩
  rw [ready_eq_of_awaiting ht hsettled] at hready
  obtain ⟨henabled, hwaited⟩ := hrenewed hopens hready
  obtain ⟨k, ticket, cause, attempt, stage, hk, hw⟩ := exists_reconnecting hwaited
  simp only [Entry.opens, Bool.and_eq_true, Bool.not_eq_true'] at hopens
  have hstage := waiting?_step_of_waiting? ht hw
  rw [if_pos hk] at hstage
  obtain ⟨u, hu, rfl⟩ := step_eq_some_iff.mp ht
  have hclosed : ¬ x.agent.session.state.isEstablished := Bool.eq_false_iff.mp hopens.1
  have hopen : u.state.session.state.isEstablished := by
    have hcore := core_perform (a := u.state) u.effects
    exact (congrArg (·.session.state.isEstablished) hcore).symm.trans hopens.2
  cases m with
  | call | register => cases hk
  | resume k d =>
    cases hk
    simp only [section?, hw, Option.bind_some] at hu
    obtain ⟨call, hcall, hreport⟩ := running_of_opens hu hclosed hopen henabled
    exact ⟨k, ticket, cause, attempt, call, hstage.trans hcall, hreport⟩
  | abandon k =>
    -- a call that is given up leaves the session as it is
    obtain ⟨w, -, rfl⟩ := Option.map_eq_some_iff.mp hu
    have hsession : (x.agent.abandon w).state.session = x.agent.session := by cases w <;> rfl
    exact absurd (hsession ▸ hopen) hclosed

/-- A section on an open session that begins no report of the readiness. -/
theorem Renews.step (hr : Renews x) (ht : x.step m = some t)
    (he : (⟨x, m, t⟩ : Entry).Granted)
    {live : Live} (hlive : x.agent.session.established? = some live)
    (hnone : (⟨x, m, t⟩ : Entry).reports? = none) : Renews t.state := by
  refine ⟨awaiting_eq_zero ht hr.settled hnone, fun hready => ?_⟩
  rw [ready_eq_of_awaiting ht hr.settled] at hready
  obtain ⟨k, ticket, cause, attempt, call, hw, hcall⟩ := hr.running hready
  by_cases hk : m.resumes? = some k
  · have hwaited : (⟨x, m, t⟩ : Entry).waited? =
        some (.run ticket (.recovering cause attempt (.running call))) := by
      simp [Entry.waited?, hk, hw]
    have hgranted := he _ hwaited call rfl (by simp [hcall])
    obtain ⟨u, hu, rfl⟩ := step_eq_some_iff.mp ht
    cases m with
    | call | register => cases hk
    | abandon => cases hgranted
    | resume k d =>
      cases hk
      simp only [section?, hw, Option.bind_some] at hu
      simp only [Entry.granted?, hwaited, Option.bind_some] at hgranted
      have hstage := readying_of_granted hu hcall (by simp [hgranted]) hready hlive
      simp [Entry.reports?, Entry.begun?, hstage, call?, StatusCall.flag?] at hnone
  · refine ⟨k, ticket, cause, attempt, call, ?_, hcall⟩
    rw [waiting?_step_of_waiting? ht hw, if_neg hk]

/-- What is remembered is told on a new session. -/
theorem renews_of_history (hx : History allowed h x)
    (hh : ∀ e ∈ h, e.Granted ∧ e.Settled ∧ e.Renewed)
    (hopen : x.agent.session.state.isEstablished) (hnone : toldLast h = none) : Renews x := by
  induction hx with
  | new ha => exact absurd hopen (make_rests ha).1
  | @step h x m t hx hm ht ih =>
    obtain ⟨hgranted, hsettled, hrenewed⟩ := hh ⟨x, m, t⟩ (by simp)
    rw [toldLast_concat, Option.or_eq_none_iff] at hnone
    obtain ⟨hbegun, hlast⟩ := hnone
    by_cases hopens : (⟨x, m, t⟩ : Entry).opens
    · exact renews_of_opens ht hsettled hrenewed hopens hbegun
    · rw [if_neg hopens] at hlast
      have hbefore : x.agent.session.state.isEstablished := by
        simpa [Entry.opens, hopen] using hopens
      obtain ⟨live, hlive⟩ := exists_established? hx hbefore
      exact (ih (fun e he => hh e (by simp [he])) hbefore hlast).step ht hgranted hlive hbegun

/-! ### An agent that is used through its hooks -/

/-- What holds of the traffic of an agent until its handle is registered. -/
structure Fresh (x : Traffic) : Prop where
  silent : x.agent.cloud.ready = false
  closed : ¬ x.agent.session.state.isEstablished
  calm : x.agent.notices.pop? = none
  idle : ∀ {k w}, x.tasks.waiting? k = some w → needsHandle w = false

theorem fresh_ofAgent {config : AgentConfig} {address : String} {host : Host}
    {subscribers : List Subscriber} {a : Agent}
    (ha : Agent.make config address host subscribers = .ok a) : (ofAgent a).Fresh := by
  have hidle {k : Nat} {w : Activity} (hw : (ofAgent a).tasks.waiting? k = some w) :
      needsHandle w = false := by
    rcases waiting?_ofAgent hw with ⟨j, rfl⟩ | ⟨l, rfl⟩ <;> rfl
  obtain ⟨hclosed, hready, hnotices⟩ := make_rests ha
  exact ⟨hready, hclosed, hnotices, hidle⟩

theorem Fresh.awaiting (hf : Fresh x) (p : StatusCall → Bool) : x.awaiting p = 0 := by
  refine List.countP_eq_zero.mpr fun w? hmem h => ?_
  obtain ⟨w, rfl, hw⟩ := (Option.any_eq_true _ _).mp h
  obtain ⟨c, hc, -⟩ := (Option.any_eq_true _ _).mp hw
  obtain ⟨k, hk⟩ := List.getElem?_of_mem hmem
  have hneeds := hf.idle (Option.join_eq_some_iff.mpr hk)
  unfold call? at hc
  split at hc <;> first | cases hneeds | cases hc

/-- Until its handle is registered, nothing is remembered of the readiness of an agent. -/
theorem registered_or_fresh (hx : Runs usesHooks x) :
    x.agent.registration.slot = some .own ∨ Fresh x := by
  induction hx with
  | new ha => exact .inr (fresh_ofAgent ha)
  | @step x m t hx hm ht ih =>
    obtain ⟨o, ho, hshift⟩ := shift_of_usesHooks ht hm fun _ _ => hx.tended.hooked
    rcases ih with hown | hf
    · exact .inl (hshift.own_of_own hown)
    · have hneeds (w : Activity) (how : o = .stage w) : needsHandle w = false := by
        subst how
        obtain ⟨k, d, rfl, hk⟩ := exists_resume_of_origin? ho
        exact hf.idle hk
      refine (hshift.registers_or_rests hneeds hf.closed hf.calm).imp_right ?_
      rintro ⟨hclosed, hcalm, hloops, hn⟩
      refine ⟨(ready_eq_of_awaiting ht (hf.awaiting _)).trans hf.silent, hclosed, hcalm, ?_⟩
      intro k w hw
      rcases waiting?_of_step ht hw with ⟨-, hw⟩ | ⟨-, hw⟩ | ⟨loop, hmem, -⟩
      · exact hn w hw
      · exact hf.idle hw
      · rw [hloops] at hmem
        cases hmem

/-- Through its hooks an agent opens a session, while it is remembered that the server accepts
players, only in a recovery. -/
theorem reconnecting_of_opens (hx : History usesHooks h x) (he : e ∈ h) (hopens : e.opens)
    (hready : e.before.agent.cloud.ready) : e.waited?.any isReconnecting := by
  induction hx with
  | new => cases he
  | @step h x m t hx hm ht ih =>
    rcases List.mem_append.mp he with he | he
    · exact ih he
    · obtain rfl := List.mem_singleton.mp he
      obtain ⟨o, ho, hshift⟩ := shift_of_usesHooks ht hm fun _ _ => hx.runs.tended.hooked
      simp only [Entry.opens, Bool.and_eq_true, Bool.not_eq_true'] at hopens
      rcases hshift.opens (Bool.eq_false_iff.mp hopens.1) hopens.2 with hfree | ⟨w, rfl, hw⟩
      · rcases registered_or_fresh hx.runs with hown | hf
        · cases hfree.symm.trans hown
        · cases hf.silent.symm.trans hready
      · obtain ⟨k, d, rfl, hk⟩ := exists_resume_of_origin? ho
        simpa [Entry.waited?, Move.resumes?, hk] using hw

/-! ### Histories of moves -/

/-- The sections of a list of moves, and the traffic afterwards, if all of them are possible and
allowed. -/
def record? (allowed : Traffic → Move → Bool) (x : Traffic) :
    List Move → Option (List Entry × Traffic)
  | [] => some ([], x)
  | m :: ms => if allowed x m then
      (x.step m).bind fun t => (t.state.record? allowed ms).map fun r => (⟨x, m, t⟩ :: r.1, r.2)
    else none

theorem History.record? (hx : History allowed h x) (ms : List Move) {r : List Entry × Traffic}
    (hr : x.record? allowed ms = some r) : History allowed (h ++ r.1) r.2 := by
  induction ms generalizing h x r with
  | nil =>
    obtain rfl := Option.some.inj hr
    simpa using hx
  | cons m ms ih =>
    simp only [Traffic.record?] at hr
    split_ifs at hr with hm
    obtain ⟨t, ht, hr⟩ := Option.bind_eq_some_iff.mp hr
    obtain ⟨r', hr', rfl⟩ := Option.map_eq_some_iff.mp hr
    simpa using ih (hx.step hm ht) hr'

/-- Moves of a new agent. -/
theorem exists_history_record (allowed : Traffic → Move → Bool) (ms : List Move)
    (p : List Entry → Traffic → Bool)
    (h : ((ofAgent lobby).record? allowed ms).any fun r => p r.1 r.2) :
    ∃ h x, History allowed h x ∧ p h x := by
  obtain ⟨r, hr, hp⟩ := (Option.any_eq_true _ _).mp h
  exact ⟨r.1, r.2, by simpa using (History.new make_lobby).record? ms hr, hp⟩

/-- The session is lost, and the call that runs, the task 3, opens a new one. -/
def reconnecting : List Move :=
  [.resume 2 rejected, .resume 3 accepted, .resume 3 elapsed, .resume 3 accepted,
    .resume 3 accepted]

/-! ### The readiness that is remembered -/

/-- Follow any calls of a host on an agent, in any order of their sections and answers, some of them
given up. What the handle remembers of the readiness is what was accepted last. On an open session
it is what was reported last, if no report that the server is running, or whether it accepts
players, is in progress; all of them were accepted, those of the readiness in the order in which
they were made and before a newer session was opened; and while it was remembered that the server
accepts players, a session was opened only by the recovery of a host that had been enabled. -/
theorem ready_of_history (hx : History allowed h x) :
    x.agent.cloud.ready = (confirmed h).getLast?.getD false ∧
      ((∀ e ∈ h, e.Granted ∧ e.Settled ∧ e.Renewed) → confirmed h <+: reported h →
        x.agent.session.state.isEstablished → x.awaiting (·.report ≠ .stop) = 0 →
          x.agent.cloud.ready = (toldLast h).getD false) := by
  have hlast := ready_eq_getLast? hx
  refine ⟨hlast, fun hh hordered hopen hidle => ?_⟩
  have hsettled : x.awaiting (·.flag?.isSome) = 0 := by
    have hne (c : StatusCall) (hc : c.flag?.isSome) : decide (c.report ≠ .stop) :=
      decide_eq_true fun hstop => by simp [StatusCall.flag?, hstop] at hc
    exact Nat.eq_zero_of_le_zero (hidle ▸ awaiting_mono hne)
  cases htold : toldLast h with
  | some b =>
    have hlength := length_reported hx fun e he => (hh e he).1
    rw [hsettled, Nat.add_zero] at hlength
    rw [hlast, hordered.eq_of_length hlength.symm, getLast?_of_toldLast htold]
  | none =>
    by_contra hready
    obtain ⟨k, ticket, cause, attempt, call, hw, hcall⟩ :=
      (renews_of_history hx hh hopen htold).running (by simpa using hready)
    have hstop := eq_false_of_awaiting hidle hw rfl
    simp [hcall] at hstop

/-- The host is enabled, and the server accepts players; this is told again on a new session. -/
theorem ready_after_reconnect :
    ∃ h x, History usesHooks h x ∧ (∀ e ∈ h, e.Granted ∧ e.Settled ∧ e.Renewed) ∧
      confirmed h <+: reported h ∧ x.agent.session.state.isEstablished ∧
      x.awaiting (·.report ≠ .stop) = 0 ∧ toldLast h = some true ∧ x.agent.cloud.ready := by
  obtain ⟨h, x, hx, hp⟩ := exists_history_record usesHooks
    (running ++ [.call .enable, .resume 4 accepted, .resume 4 accepted] ++ reconnecting ++
      [.resume 3 accepted, .resume 3 accepted])
    (fun h x => (∀ e ∈ h, e.Granted ∧ e.Settled ∧ e.Renewed) ∧ confirmed h <+: reported h ∧
      x.agent.session.state.isEstablished ∧ x.awaiting (·.report ≠ .stop) = 0 ∧
      toldLast h = some true)
    (by decide +kernel)
  obtain ⟨hh, hordered, hopen, hidle, htold⟩ := of_decide_eq_true hp
  have hready := (ready_of_history hx).2 hh hordered hopen hidle
  rw [htold] at hready
  exact ⟨h, x, hx, hh, hordered, hopen, hidle, htold, hready⟩

/-- Whether an activity is a call that opens a session or reports something, or a recovery. -/
def isUnderway : Activity → Bool
  | .connect _ | .load _ | .enable _ | .status _ | .run _ (.recovering _ _ _) => true
  | _ => false

/-- Whether a call that enables the host returns in a section, without an error. -/
def Entry.enables (e : Entry) : Bool :=
  e.waited?.any (fun | .enable _ => true | _ => false) && e.turn.result = .done .finished

/-- The host has been enabled, every report that the server is running or accepts players has ended
with its acceptance, the session is open and nothing is underway; but what is remembered is not what
was told last on the open session. -/
def Strays (h : List Entry) (x : Traffic) : Prop :=
  h.any Entry.enables ∧ (∀ e ∈ h, e.Granted) ∧ x.agent.session.state.isEstablished ∧
    x.tasks.all (!·.any isUnderway) ∧ x.agent.cloud.ready ≠ (toldLast h).getD false

instance (h : List Entry) (x : Traffic) : Decidable (Strays h x) :=
  inferInstanceAs (Decidable (_ ∧ _))

/-- What is remembered strays from what was told last if reports overlap and are accepted in another
order; if a report is accepted after a newer session was opened; and if a session is opened before
the host is enabled while it is remembered that the server accepts players. -/
theorem readiness_strays :
    (∃ h x, History usesHooks h x ∧ Strays h x ∧ ∀ e ∈ h, e.Settled ∧ e.Renewed) ∧
    (∃ h x, History usesHooks h x ∧ Strays h x ∧ confirmed h <+: reported h ∧
      ∀ e ∈ h, e.Renewed) ∧
    ∃ h x, History usesHooks h x ∧ Strays h x ∧ confirmed h <+: reported h ∧
      ∀ e ∈ h, e.Settled := by
  refine ⟨?_, ?_, ?_⟩
  · obtain ⟨h, x, hx, hp⟩ := exists_history_record usesHooks
      (loading ++ [.call .enable, .resume 3 accepted, .resume 3 accepted,
        .call (.report (.ready true)), .call (.report (.ready false)),
        .resume 5 accepted, .resume 4 accepted])
      (fun h x => Strays h x ∧ ∀ e ∈ h, e.Settled ∧ e.Renewed)
      (by decide +kernel)
    exact ⟨h, x, hx, of_decide_eq_true hp⟩
  · obtain ⟨h, x, hx, hp⟩ := exists_history_record usesHooks
      (running ++ [.call .disableAutoReady, .call .enable, .resume 5 accepted,
        .call (.report (.ready true))] ++ reconnecting ++ [.resume 3 accepted, .resume 6 accepted])
      (fun h x => Strays h x ∧ confirmed h <+: reported h ∧ ∀ e ∈ h, e.Renewed)
      (by decide +kernel)
    exact ⟨h, x, hx, of_decide_eq_true hp⟩
  · obtain ⟨h, x, hx, hp⟩ := exists_history_record usesHooks
      (running ++ [.call (.report (.ready true)), .resume 4 accepted] ++ reconnecting ++
        [.call .disableAutoReady, .call .enable, .resume 7 accepted])
      (fun h x => Strays h x ∧ confirmed h <+: reported h ∧ ∀ e ∈ h, e.Settled)
      (by decide +kernel)
    exact ⟨h, x, hx, of_decide_eq_true hp⟩

end Traffic

end FleetAgent.Agent
