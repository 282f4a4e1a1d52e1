import FleetAgent.Proofs.Agent.Heartbeats
import FleetAgent.Proofs.Simulation.Plan

/-!
# The cadence of a loop

A heartbeat loop of the session comes from one stage of its plan to the next: it takes the tick that
is due and sends a heartbeat, waits until that is over, and then waits for the next tick or ends.
Each of these is one section, and a turn of the loop takes it to a stage at which it has to wait.

## Main definitions

* `Agent.Leads`: the next section of an activity, with what it makes of the core.
* `Simulation.Stage`: how far the loop has come.
* `Simulation.Plan.At`: the loop is at a stage of its plan; `Simulation.Plan.Settled`: it waits
  there.

## Main results

* `Simulation.Plan.At.opens`, `Simulation.Plan.At.beats`, `Simulation.Plan.At.finishes`: the
  sections.
* `Simulation.Plan.At.settled_proceed`: a turn of the loop.
-/

namespace FleetAgent

open Effect (spawned)

namespace Agent

/-- The next section of an activity that has come to be told to go on: the core afterwards, and the
stage at which the activity then waits, if it does. -/
def Leads (a : Agent) (d : Delivery) (activity : Activity) (c : Core) (next : Option Activity) :
    Prop :=
  ∃ t, a.resume d activity = some t ∧ t.state.core = c ∧ spawned t.effects = [] ∧
    t.result.stage? = next

variable {a : Agent} {d : Delivery} {l : Nat} {told : Bool} {ticker : Ticker}

theorem leads_of_queued {previous : Option Nat}
    (hl : a.scheduler.loops[l]? = some ⟨.queued previous, told⟩)
    (hp : previous.all a.scheduler.hasEnded) :
    a.Leads d (.loop l none)
      { a.core with
        scheduler := a.scheduler.setLoop l ⟨.ticking (.start d.now a.scheduler.period), told⟩ }
      (some (.loop l none)) := by
  have h : a.resume d (.loop l none) = some
      { state := { a with
          scheduler := a.scheduler.setLoop l ⟨.ticking (.start d.now a.scheduler.period), told⟩ }
        result := .waiting (.loop l none) } := by
    simp only [resume, advanceLoop, onScheduler, Scheduler.advance_of_queued hl hp, Turn.within]
    rfl
  exact ⟨_, h, rfl, rfl, rfl⟩

theorem resume_of_early (hl : a.scheduler.loops[l]? = some ⟨.ticking ticker, false⟩)
    (hdue : ticker.isDue d.now = false) : a.resume d (.loop l none) = none := by
  simp [resume, advanceLoop, onScheduler, Scheduler.advance_of_early hl hdue, Turn.within]

theorem leads_of_due {live : Live} (hl : a.scheduler.loops[l]? = some ⟨.ticking ticker, false⟩)
    (hdue : ticker.isDue d.now) (hh : a.heart = .session)
    (hlive : a.session.established? = some live) :
    a.Leads d (.loop l none)
      { a.core with
        session := a.session.beginBeat.state
        scheduler := { a.scheduler.setLoop l ⟨.beating (ticker.take d.now), false⟩ with
          inFlight := true } }
      (some (.loop l (some (.session ⟨a.session.epoch, live.id, live.nextSequence⟩)))) := by
  have hbegin := Session.beginBeat_of_established hlive
  have h : a.resume d (.loop l none) = some
      { state := { a with
          session := a.session.beginBeat.state
          scheduler := { a.scheduler.setLoop l ⟨.beating (ticker.take d.now), false⟩ with
            inFlight := true } }
        result := .waiting
          (.loop l (some (.session ⟨a.session.epoch, live.id, live.nextSequence⟩))) } := by
    simp only [resume, advanceLoop, onScheduler, Scheduler.advance_of_due hl hdue, Turn.within, hh,
      onSession, hbegin, Turn.andThen]
    rfl
  exact ⟨_, h, rfl, rfl, rfl⟩

section Finish

variable {beat : Beat} {answer : Except ClientError HeartbeatReply}

theorem resume_of_unanswered (h : d.reply beat.request = none) :
    a.resume d (.loop l (some (.session beat))) = none := by
  simp [resume, h]

theorem spawned_afterBeat :
    spawned ((a.onSession (·.finishBeat d.now beat answer)).andThen fun outcome a =>
      a.loopAfterBeat l outcome).effects = [] := by
  simp [onSession, loopAfterBeat, onLoop]

variable (hl : a.scheduler.loops[l]? = some ⟨.beating ticker, told⟩)
  (ha : d.reply beat.request = some answer)

include hl ha

theorem leads_of_none
    (ho : Termination.of? (a.session.finishBeat d.now beat answer).result = none) :
    a.Leads d (.loop l (some (.session beat)))
      { a.core with
        session := (a.session.finishBeat d.now beat answer).state
        scheduler := { a.scheduler.setLoop l ⟨.ticking ticker, told⟩ with inFlight := false } }
      (some (.loop l none)) := by
  let b : Agent := { a with session := (a.session.finishBeat d.now beat answer).state }
  obtain ⟨hcore, hnext⟩ := loopAfterBeat_of_none (a := b) hl ho
  exact ⟨_, congrArg (Option.map _) ha, hcore, spawned_afterBeat, hnext⟩

theorem leads_of_some {t : Termination}
    (ho : Termination.of? (a.session.finishBeat d.now beat answer).result = some t) :
    a.Leads d (.loop l (some (.session beat)))
      { a.core with
        session := (a.session.finishBeat d.now beat answer).state
        scheduler := { a.scheduler.setLoop l ⟨.ended t.ending, true⟩ with inFlight := false }
        notices := (a.notices.offer t).2 } none := by
  let b : Agent := { a with session := (a.session.finishBeat d.now beat answer).state }
  obtain ⟨hcore, hnext⟩ := loopAfterBeat_of_some (a := b) hl ho
  exact ⟨_, congrArg (Option.map _) ha, hcore, spawned_afterBeat, hnext⟩

end Finish

end Agent

namespace Simulation

/-! ### Stages -/

/-- How far the loop has come. -/
inductive Stage where
  /-- It is in line for its first section; a loop before it has ended. -/
  | opening (previous : Option Nat)
  /-- It waits for the tick of a heartbeat. -/
  | ticking (n : Nat)
  /-- It waits for the answer to a heartbeat. -/
  | beating (n : Nat)
  /-- It has ended with a heartbeat. -/
  | ended (n : Nat) (t : Termination) (answer : Answer)

/-- The number of heartbeats that have been sent. -/
def Stage.sent : Stage → Nat
  | opening _ => 0
  | ticking n => n
  | beating n | ended n _ _ => n + 1

namespace Plan

variable (p : Plan)

/-- What the loop is doing at a stage. -/
def loopAt : Stage → Loop
  | .opening previous => ⟨.queued previous, false⟩
  | .ticking n => ⟨.ticking ⟨p.period, p.tick n⟩, false⟩
  | .beating n => ⟨.beating ⟨p.period, p.tick (n + 1)⟩, false⟩
  | .ended _ t _ => ⟨.ended t.ending, true⟩

/-- The job of the loop of a number at a stage, in line or not. -/
def jobAt (l : Nat) : Stage → (isQueued : Bool) → Job
  | .opening _, isQueued | .ticking _, isQueued => .ofLoop l none .nothing isQueued
  | .beating n, isQueued =>
    .ofLoop l (some (.session (p.beat n))) (.answer (p.flight n)) isQueued
  | .ended _ _ answer, _ => .ofEnded answer

/-- The session manager at a stage. -/
def sessionAt : Stage → Session
  | .opening _ => p.manager
  | .ticking n => p.managerAt n
  | .beating n => (p.managerAt n).beginBeat.state
  | .ended n _ _ => p.managerAt (n + 1)

/-- When the loop goes on from a stage. -/
def event? : Stage → Option Instant
  | .opening _ => some p.first
  | .ticking n => some (p.tick n)
  | .beating n => some (p.overAt n)
  | .ended _ _ _ => none

/-- When the loop can be at a stage, after heartbeats with which it goes on. -/
def Meets (now : Instant) : Stage → Prop
  | .opening _ => now = p.first
  | .ticking n => p.Going n ∧ (∀ i < n, p.overAt i ≤ now) ∧ now ≤ p.tick n
  | .beating n => p.Going n ∧ p.tick n ≤ now ∧ now ≤ p.overAt n
  | .ended n t _ => p.Going n ∧ Termination.of? (p.outcome n) = some t ∧ p.overAt n ≤ now

/-- The loop of number `l`, which is the job of number `k`, is at a stage of its plan; the job is in
line or not. The `log` is of the calls that have been observed before. -/
structure At (p : Plan) (k l : Nat) (log : List CallRecord) (c : Course) (st : Stage)
    (isQueued : Bool) : Prop where
  alone : c.Alone k
  front : c.front = .idle
  line : c.line = if isQueued then [k] else []
  job : c.jobs k = some (p.jobAt l st isQueued)
  heart : c.core.heart = .session
  slot : c.core.scheduler.slot = some l
  period : c.core.scheduler.period = p.period
  loop : c.core.scheduler.loops[l]? = some (p.loopAt st)
  previous : ∀ i, st = .opening i → i.all c.core.scheduler.hasEnded
  session : c.core.session = p.sessionAt st
  name : c.session = p.session
  book : c.book = p.book.after .heartbeat st.sent
  calls : log ++ c.calls.reverse = (List.range st.sent).map p.record
  meets : p.Meets c.now st

variable {p} {k l n : Nat} {log : List CallRecord} {s : Simulation} {c : Course} {st : Stage}
  {isQueued : Bool}

/-! ### Sections -/

theorem reached_tick_iff {now : Instant} : (p.tick n).reached now = true ↔ p.tick n ≤ now := by
  rw [Instant.reached, tick_round, decide_eq_true_iff]

theorem replyTo?_flight {now : Instant} :
    (p.flight n).replyTo? now (p.beat n).request = (p.flight n).reply? now := dif_pos rfl

/-- The next event of a loop has not come yet if it is not there. -/
theorem At.lt_of_event? (h : p.At k l log c st isQueued) (he : p.event? st ≠ some c.now)
    {e : Instant} (hst : p.event? st = some e) : c.now < e := by
  have hne : c.now ≠ e := fun hnow => he (hst.trans (congrArg some hnow.symm))
  cases st with
  | opening previous => exact absurd (h.meets.trans (Option.some.inj hst)) hne
  | ticking n => exact Nat.lt_of_le_of_ne (h.meets.2.2.trans_eq (Option.some.inj hst)) hne
  | beating n => exact Nat.lt_of_le_of_ne (h.meets.2.2.trans_eq (Option.some.inj hst)) hne
  | ended n t answer => cases hst

/-- A loop that nothing has happened to waits. -/
theorem At.proceedWithin_eq (h : p.At k l log s.course st false) (he : p.event? st ≠ some s.now)
    (m : Nat) : s.proceedWithin k m = s := by
  cases st with
  | opening previous => exact absurd (congrArg some h.meets.symm) he
  | ticking n =>
    refine proceedWithin_of_blocked h.job (Agent.resume_of_early h.loop ?_) m
    exact Instant.reached_of_lt ((h.lt_of_event? he rfl).trans_eq tick_round.symm)
  | beating n =>
    refine proceedWithin_of_blocked h.job (Agent.resume_of_unanswered ?_) m
    exact replyTo?_flight.trans (Flight.reply?_of_lt (h.lt_of_event? he rfl))
  | ended n t answer => exact proceedWithin_of_ended h.job m

/-- The core when the loop of a number has come to a stage. -/
def coreAt (p : Plan) (c : Agent.Core) (l : Nat) (st : Stage) (inFlight : Bool) (q : NoticeQueue) :
    Agent.Core :=
  { c with
    session := p.sessionAt st
    scheduler := { c.scheduler.setLoop l (p.loopAt st) with inFlight }
    notices := q }

section Move

variable {st' : Stage} {inFlight : Bool} {q : NoticeQueue} (h : p.At k l log c st false)

include h

theorem At.getElem?_loops :
    (p.coreAt c.core l st' inFlight q).scheduler.loops[l]? = some (p.loopAt st') :=
  (Scheduler.getElem?_setLoop h.loop).trans (if_pos rfl)

/-- The loop comes to another stage. -/
theorem At.move (hsent : st'.sent = st.sent) (hnew : ∀ i, st' ≠ .opening i)
    (hmeets : p.Meets c.now st') :
    p.At k l log
      ({ c with core := p.coreAt c.core l st' inFlight q }.put k (p.jobAt l st' false))
      st' false where
  alone := Course.Alone.put (c := { c with core := p.coreAt c.core l st' inFlight q })
    ⟨h.alone.isHeld, h.alone.ended⟩ _
  front := h.front
  line := h.line
  job := Course.put_jobs_self
  heart := h.heart
  slot := h.slot
  period := h.period
  loop := h.getElem?_loops
  previous i hi := absurd hi (hnew i)
  session := rfl
  name := h.name
  book := by rw [hsent]; exact h.book
  calls := by rw [hsent]; exact h.calls
  meets := hmeets

end Move

/-- The heart of the loop has begun to beat. -/
theorem At.send (h : p.At k l log c (.ticking n) false) (hnow : c.now = p.tick n) :
    p.At k l log
      (Course.send { c with core := p.coreAt c.core l (.beating n) true c.core.notices } k
        (.ofLoop l (some (.session (p.beat n))) .nothing false) (p.beat n)) (.beating n) false := by
  let c' : Course := { c with core := p.coreAt c.core l (.beating n) true c.core.notices }
  obtain ⟨live, hlive⟩ := h.meets.1.stands
  have hlimit : (p.managerAt n).beginBeat.state.params.rpcTimeout = p.limit := by
    rw [hlive.beginBeat_eq]
    exact congrArg SessionParams.rpcTimeout hlive.params
  have hflight : Flight.ofBeat (p.beat n) (c.book.next .heartbeat).1 c.session c.now
      (p.managerAt n).beginBeat.state.params.rpcTimeout = p.flight n := by
    rw [h.book, h.name, hnow, hlimit]
    rfl
  have hsend : Course.send c' k (.ofLoop l (some (.session (p.beat n))) .nothing false) (p.beat n) =
      { c'.put k (p.jobAt l (.beating n) false) with
        book := p.book.after .heartbeat (n + 1)
        calls := p.record n :: c.calls } := by
    have hbook : (c.book.next .heartbeat).2 = p.book.after .heartbeat (n + 1) := by
      rw [h.book]
      rfl
    have hrecord : CallRecord.ofBeat (p.beat n) c.now = p.record n := by rw [hnow]; rfl
    rw [← hbook, ← hrecord]
    exact congrArg
      (fun f => { c'.put k (.ofLoop l (some (.session (p.beat n))) (.answer f) false) with
        book := (c.book.next .heartbeat).2
        calls := .ofBeat (p.beat n) c.now :: c.calls }) hflight
  have halone : (c'.put k (p.jobAt l (.beating n) false)).Alone k :=
    Course.Alone.put (c := c') ⟨h.alone.isHeld, h.alone.ended⟩ _
  have hcalls : log ++ (p.record n :: c.calls).reverse = (List.range (n + 1)).map p.record := by
    have hold : log ++ c.calls.reverse = (List.range n).map p.record := h.calls
    rw [List.reverse_cons, ← List.append_assoc, hold, List.range_succ, List.map_append]
    rfl
  exact hsend ▸
    { alone := ⟨halone.isHeld, halone.ended⟩
      front := h.front
      line := h.line
      job := Course.put_jobs_self
      heart := h.heart
      slot := h.slot
      period := h.period
      loop := h.getElem?_loops
      previous := fun i hi => nomatch hi
      session := rfl
      name := h.name
      book := rfl
      calls := hcalls
      meets := ⟨h.meets.1, hnow.ge, hnow.trans_le tick_le_overAt⟩ }

/-- A tick that is taken when it is due leaves the next one in its place. -/
theorem take_tick : Ticker.take ⟨p.period, p.tick n⟩ (p.tick n) = ⟨p.period, p.tick (n + 1)⟩ := by
  have hontime : ¬ (p.tick n).after Ticker.tolerance < p.tick n :=
    Nat.not_lt.mpr (Nat.le_add_right ..)
  rw [Ticker.take, Ticker.nextDue, if_neg hontime, tick_succ]
  rfl

/-- The loop makes a section, with which it comes to a stage. -/
def Comes (p : Plan) (k l : Nat) (log : List CallRecord) (s : Simulation) (st : Stage) : Prop :=
  ∃ s' : Simulation, (∀ m, s.proceedWithin k (m + 1) = s'.proceedWithin k m) ∧
    p.At k l log s'.course st false ∧ s'.now = s.now

/-- The loop begins to wait for its first tick. -/
theorem At.opens {previous : Option Nat} (h : p.At k l log s.course (.opening previous) false) :
    p.Comes k l log s (.ticking 0) := by
  let j := p.jobAt l (.opening previous) false
  have hnow : s.now = p.tick 0 := h.meets.trans (by simp [tick])
  obtain ⟨t, ht, hcore, hes, hnext⟩ := Agent.leads_of_queued (d := j.delivery s.now) h.loop
    (h.previous _ rfl)
  have hcore' : t.state.core =
      p.coreAt s.course.core l (.ticking 0) s.agent.scheduler.inFlight s.agent.notices := by
    have hticker : Ticker.start s.now s.agent.scheduler.period = ⟨p.period, p.tick 0⟩ :=
      congrArg₂ Ticker.mk h.period hnow
    exact hcore.trans (congrArg₂ (fun session ticker => { s.agent.core with
      session
      scheduler := s.agent.scheduler.setLoop l ⟨.ticking ticker, false⟩ }) h.session hticker)
  have hcourse := course_conclude_tick h.alone hes h.job hnext j
  rw [hcore'] at hcourse
  exact ⟨s.conclude k j t, proceedWithin_of_active h.job ht,
    hcourse ▸ h.move rfl (by simp) ⟨going_zero, (by simp), hnow.le⟩, congrArg Course.now hcourse⟩

/-- The heart of the loop begins to beat when its tick is due. -/
theorem At.beats (h : p.At k l log s.course (.ticking n) false) (hnow : s.now = p.tick n) :
    p.Comes k l log s (.beating n) := by
  let j := p.jobAt l (.ticking n) false
  obtain ⟨live, hlive⟩ := h.meets.1.stands
  have hsession : s.agent.session = p.managerAt n := h.session
  have hdue : Ticker.isDue ⟨p.period, p.tick n⟩ s.now := by
    rw [Ticker.isDue, reached_tick_iff, hnow]
  obtain ⟨t, ht, hcore, hes, hnext⟩ :=
    Agent.leads_of_due (d := j.delivery s.now) h.loop hdue h.heart
    (by rw [hsession]; exact hlive.established)
  have hcore' : t.state.core = p.coreAt s.course.core l (.beating n) true s.agent.notices := by
    have hticker : Ticker.take ⟨p.period, p.tick n⟩ s.now = ⟨p.period, p.tick (n + 1)⟩ :=
      hnow.symm ▸ take_tick
    exact hcore.trans (congrArg₂ (fun (session : Session) ticker => { s.agent.core with
      session := session.beginBeat.state
      scheduler := { s.agent.scheduler.setLoop l ⟨.beating ticker, false⟩ with inFlight := true } })
      hsession hticker)
  rw [hsession, ← hlive.beat_eq] at hnext
  have hcourse := course_conclude_beat h.alone hes h.job p.named hnext j
  rw [hcore'] at hcourse
  exact ⟨s.conclude k j t, proceedWithin_of_active h.job ht, hcourse ▸ h.send hnow,
    congrArg Course.now hcourse⟩

/-- When its heartbeat is over, the loop waits for the next tick or ends. -/
theorem At.finishes (h : p.At k l log s.course (.beating n) false) (hnow : s.now = p.overAt n) :
    p.Comes k l log s (.ticking (n + 1)) ∨ ∃ t answer, p.Comes k l log s (.ended n t answer) := by
  let j := p.jobAt l (.beating n) false
  have hsession : s.agent.session = (p.managerAt n).beginBeat.state := h.session
  have hreply : (j.delivery s.now).reply (p.beat n).request = some (p.answer n) :=
    replyTo?_flight.trans (hnow ▸ Flight.reply?_await _)
  have hfinish : s.agent.session.finishBeat s.now (p.beat n) (p.answer n) =
      (p.managerAt n).beginBeat.state.finishBeat (p.overAt n) (p.beat n) (p.answer n) := by
    rw [hsession, hnow]
  cases ho : Termination.of? (p.outcome n) with
  | none =>
    left
    obtain ⟨t, ht, hcore, hes, hnext⟩ := Agent.leads_of_none (d := j.delivery s.now) h.loop hreply
      ((congrArg (fun u : Turn Session _ => Termination.of? u.result) hfinish).trans ho)
    have hcore' : t.state.core =
        p.coreAt s.course.core l (.ticking (n + 1)) false s.agent.notices :=
      hcore.trans (congrArg (fun u : Turn Session _ => { s.agent.core with
        session := u.state
        scheduler := { s.agent.scheduler.setLoop l ⟨.ticking ⟨p.period, p.tick (n + 1)⟩, false⟩ with
          inFlight := false } }) hfinish)
    have hcourse := course_conclude_tick h.alone hes h.job hnext j
    rw [hcore'] at hcourse
    refine ⟨s.conclude k j t, proceedWithin_of_active h.job ht,
      hcourse ▸ h.move rfl (by simp) ⟨?_, ?_, ?_⟩, congrArg Course.now hcourse⟩
    · exact going_succ_iff.mpr ⟨h.meets.1, ho⟩
    · exact fun i hi => (monotone_overAt (Nat.le_of_lt_succ hi)).trans_eq hnow.symm
    · exact hnow.trans_le overAt_le_tick
  | some termination =>
    right
    obtain ⟨t, ht, hcore, hes, hnext⟩ := Agent.leads_of_some (d := j.delivery s.now) h.loop hreply
      ((congrArg (fun u : Turn Session _ => Termination.of? u.result) hfinish).trans ho)
    obtain ⟨answer, hcourse⟩ := course_conclude_end h.alone hes h.job hnext j
    have hcore' : t.state.core = p.coreAt s.course.core l (.ended n termination answer) false
        (s.agent.notices.offer termination).2 :=
      hcore.trans (congrArg (fun u : Turn Session _ => { s.agent.core with
        session := u.state
        scheduler := { s.agent.scheduler.setLoop l ⟨.ended termination.ending, true⟩ with
          inFlight := false }
        notices := (s.agent.notices.offer termination).2 }) hfinish)
    rw [hcore'] at hcourse
    exact ⟨termination, answer, s.conclude k j t, proceedWithin_of_active h.job ht,
      hcourse ▸ h.move rfl (by simp) ⟨h.meets.1, ho, hnow.ge⟩, congrArg Course.now hcourse⟩

/-! ### Turns -/

/-- The loop has come to a stage and waits there beyond `now`, or has ended. -/
def Settled (p : Plan) (k l : Nat) (log : List CallRecord) (now : Instant) (s : Simulation) :
    Prop :=
  s.now = now ∧ ∃ st, p.At k l log s.course st false ∧ p.event? st ≠ some now

theorem At.settled (h : p.At k l log s.course st false) (he : p.event? st ≠ some s.now) (m : Nat) :
    p.Settled k l log s.now (s.proceedWithin k m) := by
  rw [h.proceedWithin_eq he]
  exact ⟨rfl, st, h, he⟩

theorem Comes.settled {j : Nat} (h : p.Comes k l log s st)
    (hs : ∀ s' : Simulation, p.At k l log s'.course st false → s'.now = s.now →
      ∀ m, p.Settled k l log s'.now (s'.proceedWithin k (m + j))) (m : Nat) :
    p.Settled k l log s.now (s.proceedWithin k (m + (j + 1))) := by
  obtain ⟨s', hproceed, hat, hnow⟩ := h
  rw [← Nat.add_assoc, hproceed, ← hnow]
  exact hs s' hat hnow m

theorem settled_of_ticking (h : p.At k l log s.course (.ticking n) false) (m : Nat) :
    p.Settled k l log s.now (s.proceedWithin k (m + 2)) := by
  by_cases hnow : s.now = p.tick n
  · -- the heartbeat may be over at once, but the next one is not due then
    refine (h.beats hnow).settled (fun s' hat hs' => ?_) m
    by_cases hover : s'.now = p.overAt n
    · have hlate : p.event? (.ticking (n + 1)) ≠ some s'.now := fun he =>
        tick_lt_succ.ne' ((Option.some.inj he).trans (hs'.trans hnow))
      obtain hcomes | ⟨t, answer, hcomes⟩ := hat.finishes hover
      · exact hcomes.settled (j := 0) fun s'' hat' hs'' => hat'.settled (hs'' ▸ hlate)
      · exact hcomes.settled (j := 0) fun s'' hat' _ => hat'.settled (by simp [Plan.event?])
    · exact fun m => hat.settled (fun he => hover (Option.some.inj he).symm) (m + 1)
  · exact h.settled (fun he => hnow (Option.some.inj he).symm) (m + 2)

/-- A turn of the loop takes it to a stage at which it waits. -/
theorem At.settled_proceed (h : p.At k l log s.course st false) (m : Nat) :
    p.Settled k l log s.now (s.proceedWithin k (m + 3)) := by
  by_cases he : p.event? st = some s.now
  · cases st with
    | opening previous =>
      exact h.opens.settled (fun s' hat _ => settled_of_ticking hat) m
    | ticking n => exact settled_of_ticking h (m + 1)
    | beating n =>
      obtain hcomes | ⟨t, answer, hcomes⟩ := h.finishes (Option.some.inj he).symm
      · exact hcomes.settled (fun s' hat _ => settled_of_ticking hat) m
      · exact hcomes.settled (fun s' hat _ m => hat.settled (by simp [Plan.event?]) (m + 2)) m
    | ended n t answer => cases he
  · exact h.settled he (m + 3)

end Plan

end Simulation

end FleetAgent
