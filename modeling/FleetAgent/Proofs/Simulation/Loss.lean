import FleetAgent.Proofs.Session.Failures
import FleetAgent.Proofs.Simulation.Punctual
import Mathlib.Data.Nat.Find

/-!
# When a session is lost

A host starts the heartbeats of an open session and then only lets time pass. The loop keeps to its
plan whatever the script of the controller is, so its heartbeats are sent at the ticks of its period
until one of them ends it. Heartbeats that are not answered cost the session when as many of them as
it does not stand have met their time limit.

## Main definitions

* `Simulation.Step.start`: the host starts the heartbeats.
* `Simulation.IsOpen.plan`: the plan of the loop that is started.
* `Simulation.Plan.IsLast`: the heartbeat that ends the loop.

## Main results

* `Simulation.IsOpen.at_started`, `Simulation.IsOpen.exists_at_run`: the loop begins its plan and
  keeps to it.
* `Simulation.Plan.At.lt_sent_iff`, `Simulation.Plan.At.isRunning_iff`: what has been sent, and
  until when.
* `Simulation.lost_on_time`: heartbeats and the loss of the session are punctual.
-/

namespace FleetAgent

/-- A call may take no longer than the time between two heartbeats, -/
theorem AgentConfig.effectiveRpcTimeout_le (c : AgentConfig) :
    c.effectiveRpcTimeout.nanos ≤ c.interval.nanos := by
  rw [effectiveRpcTimeout, Duration.shorter]
  split_ifs with _ h
  · exact le_rfl
  · exact h
  · exact le_rfl

/-- but some time. -/
theorem AgentConfig.effectiveRpcTimeout_pos (c : AgentConfig) (h : 0 < c.interval.nanos) :
    0 < c.effectiveRpcTimeout.nanos := by
  rw [effectiveRpcTimeout, Duration.shorter]
  split_ifs with hzero
  · exact h
  · exact Nat.pos_of_ne_zero fun hnanos => hzero (congrArg Duration.mk hnanos)
  · exact h

namespace Simulation

/-- The step of a host that starts the heartbeats, and waits for that no longer than some time. -/
def Step.start (limit : Duration) : Step :=
  { command := .call (.scheduler .start) .never (.within limit) }

namespace IsOpen

variable {s : Simulation} {c : AgentConfig} {live : Live} (h : s.IsOpen c live)

include h

theorem interval_pos : 0 < c.interval.nanos := by
  obtain ⟨hi, -⟩ := AgentConfig.validate_eq_ok_iff.mp h.valid
  exact Nat.pos_of_ne_zero fun hzero => hi (congrArg Duration.mk hzero)

/-- An interval of whole milliseconds is the period of the scheduler. -/
theorem period_eq : s.agent.scheduler.period = c.interval := by
  have hle : Scheduler.shortestPeriod.nanos ≤ c.interval.nanos :=
    Nat.le_of_dvd h.interval_pos (Instant.roundUp_eq_self_iff.mp h.interval_round)
  rw [h.period, Duration.longer]
  split_ifs with hge
  · exact congrArg Duration.mk (Nat.le_antisymm hle hge)
  · rfl

theorem rpcTimeout_eq : s.agent.session.params.rpcTimeout = c.effectiveRpcTimeout :=
  congrArg SessionParams.rpcTimeout h.params

theorem loseAfter_eq : s.agent.session.params.loseAfter = c.loseAfter :=
  congrArg SessionParams.loseAfter h.params

/-- The plan of a loop that is started. -/
def plan : Plan where
  first := s.now
  period := c.interval
  session := s.session
  book := s.book
  manager := s.agent.session
  live := live
  established := h.established
  named := h.named
  first_round := h.now_round
  period_round := h.interval_round
  period_pos := h.interval_pos
  limit_pos := h.rpcTimeout_eq ▸ c.effectiveRpcTimeout_pos h.interval_pos
  limit_le := h.rpcTimeout_eq ▸ c.effectiveRpcTimeout_le

/-! ### The start -/

theorem isCancelled {k : Nat} (hk : s.agent.scheduler.slot = some k) :
    s.agent.scheduler.isCancelled k := by
  obtain ⟨how, hl⟩ := h.loops k hk
  simp [Scheduler.isCancelled, hl]

/-- A scheduler whose loop has ended starts another one. -/
theorem start_eq :
    s.agent.begin .start =
      { state := { s.agent with
          scheduler := { s.agent.scheduler with
            loops := s.agent.scheduler.loops ++ [{ phase := .queued s.agent.scheduler.slot }]
            slot := some s.agent.scheduler.loops.length } }
        effects := [
          .spawn s.agent.scheduler.loops.length,
          .publish ((Event.of .schedulerStarted).withSource s.agent.scheduler.heart
            |>.withInterval s.agent.scheduler.period)]
        result := .done (.verdict true) } := by
  simp only [Agent.begin, Agent.immediate, Agent.onScheduler,
    Scheduler.start_of_cancelled fun k hk => h.isCancelled hk]
  rfl

/-- The simulation when the host begins to make the call. -/
def calling (_ : s.IsOpen c live) : Simulation :=
  { s with
    jobs := s.jobs.push (.ofCall (.operation .start) .never)
    front := .calling s.jobs.size
    frontWoken := false }

/-- The loop gets in line, and nobody else hears of it. -/
theorem course_carryOut_start (e : Event) (a : Agent) :
    ({ h.calling with agent := a }.carryOut (some s.jobs.size)
        [.spawn s.agent.scheduler.loops.length, .publish e]).course =
      { (s.course.put s.jobs.size (.ofCall (.operation .start) .never)).put (s.jobs.size + 1)
          (.ofLoop s.agent.scheduler.loops.length none .nothing true) with
        core := a.core
        front := .calling s.jobs.size
        line := [s.jobs.size + 1] } := by
  let l := s.agent.scheduler.loops.length
  let before : Simulation := { h.calling with agent := a.perform [.spawn l, .publish e] }
  let after := before.launch (.ofActivity (.loop l none))
  have hsize : before.jobs.size = s.jobs.size + 1 := Array.size_push ..
  have hfront : before.front ≠ .calling before.jobs.size := by
    rw [hsize]
    exact fun hk => Nat.succ_ne_self _ (Front.calling.inj hk).symm
  have hbefore : before.course =
      { s.course.put s.jobs.size (.ofCall (.operation .start) .never) with
        core := a.core
        front := .calling s.jobs.size } := by
    rw [← course_push, ← Agent.core_perform]
    rfl
  have hafter : after.course =
      { (s.course.put s.jobs.size (.ofCall (.operation .start) .never)).put (s.jobs.size + 1)
          (.ofLoop l none .nothing true) with
        core := a.core
        front := .calling s.jobs.size
        line := [s.jobs.size + 1] } := by
    have hline : before.line = [] := h.line
    rw [course_launch hfront rfl rfl, hbefore, hsize, hline]
    rfl
  have hdeaf : (after.wakeAll fun i j => some i ≠ some s.jobs.size && j.listensTo .published) =
      after := by
    refine wakeAll_eq_self fun i j hj => ?_
    have hj : after.course.jobs i = some j := hj
    rw [hafter] at hj
    by_cases hi : i = s.jobs.size
    · simp [hi]
    by_cases hl : i = s.jobs.size + 1
    · subst hl
      obtain rfl := Option.some.inj (Course.put_jobs_self.symm.trans hj)
      exact Bool.and_false _
    · have hold : s.jobs[i]? = some j :=
        ((Course.put_jobs_of_ne hl).trans (Course.put_jobs_of_ne hi)).symm.trans hj
      simp [j.listensTo_of_isSome (h.jobs i j hold)]
  exact (congrArg course hdeaf).trans hafter

/-- The course when the call is finished. -/
theorem course_conclude :
    (h.calling.conclude s.jobs.size (.ofCall (.operation .start) .never)
      (s.agent.begin .start)).course =
      { ((s.course.put s.jobs.size (.ofCall (.operation .start) .never)).put (s.jobs.size + 1)
          (.ofLoop s.agent.scheduler.loops.length none .nothing true)).put s.jobs.size
          { call := some (.operation .start), phase := .ended (.outcome (.verdict true)) } with
        core := (s.agent.begin .start).state.core
        front := .calling s.jobs.size
        line := [s.jobs.size + 1] } := by
  rw [conclude, h.start_eq]
  have hcourse := h.course_carryOut_start ((Event.of .schedulerStarted).withSource
    s.agent.scheduler.heart |>.withInterval s.agent.scheduler.period) { s.agent with
      scheduler := { s.agent.scheduler with
        loops := s.agent.scheduler.loops ++ [{ phase := .queued s.agent.scheduler.slot }]
        slot := some s.agent.scheduler.loops.length } }
  dsimp only
  generalize Simulation.carryOut _ _ _ = after at hcourse ⊢
  have hj : after.jobs[s.jobs.size]? = some (.ofCall (.operation .start) .never) := by
    have hj : after.course.jobs s.jobs.size = _ := congrFun (congrArg Course.jobs hcourse) _
    exact hj.trans ((Course.put_jobs_of_ne (Nat.succ_ne_self _).symm).trans Course.put_jobs_self)
  have hheld : after.isHeld := (congrArg Course.isHeld hcourse).trans h.isHeld
  exact (course_finish hj hheld _).trans (by rw [hcourse]; rfl)

theorem proceed_calling :
    h.calling.proceed s.jobs.size =
      h.calling.conclude s.jobs.size (.ofCall (.operation .start) .never)
      (s.agent.begin .start) := by
  obtain ⟨r, hr⟩ : ∃ r, patience = r + 1 + 1 := ⟨999998, rfl⟩
  have hjob : h.calling.jobs[s.jobs.size]? = some (.ofCall (.operation .start) .never) := by
    simp [calling]
  have hended : (h.calling.conclude s.jobs.size (.ofCall (.operation .start) .never)
      (s.agent.begin .start)).jobs[s.jobs.size]? =
      some { call := some (.operation .start), phase := .ended (.outcome (.verdict true)) } :=
    (congrFun (congrArg Course.jobs h.course_conclude) _).trans Course.put_jobs_self
  rw [proceed, hr, proceedWithin, hjob]
  change (h.calling.conclude s.jobs.size (.ofCall (.operation .start) .never)
    (s.agent.begin .start)).proceedWithin s.jobs.size (r + 1) = _
  rw [proceedWithin, hended]
  rfl

/-- The simulation when the host goes on. -/
def started : Simulation :=
  { h.calling.conclude s.jobs.size (.ofCall (.operation .start) .never) (s.agent.begin .start) with
    front := .idle
    frontWoken := false }

theorem attend_calling (limit : Option Instant) :
    ({ s with jobs := s.jobs.push (.ofCall (.operation .start) .never) } : Simulation).attend
        (.calling s.jobs.size) limit = (some (.outcome (.verdict true)), h.started) := by
  obtain ⟨r, hr⟩ : ∃ r, patience = r + 1 := ⟨999999, rfl⟩
  let begun : Simulation := { s with
    jobs := s.jobs.push (.ofCall (.operation .start) .never)
    front := .calling s.jobs.size
    frontWoken := true }
  have hproceed : begun.proceedFront = h.calling.conclude s.jobs.size
      (.ofCall (.operation .start) .never) (s.agent.begin .start) := h.proceed_calling
  have hcourse := h.course_conclude
  have hanswer : begun.proceedFront.frontAnswer? = some (.outcome (.verdict true)) := by
    rw [hproceed]
    generalize h.calling.conclude _ _ _ = after at hcourse ⊢
    have hfront : after.front = .calling s.jobs.size := congrArg Course.front hcourse
    have hjob : after.jobs[s.jobs.size]? =
        some { call := some (.operation .start), phase := .ended (.outcome (.verdict true)) } :=
      (congrFun (congrArg Course.jobs hcourse) _).trans Course.put_jobs_self
    rw [frontAnswer?, hfront]
    simp [hjob, Job.answer?]
  rw [attend, hr, attendWithin_of_answer r rfl hanswer, hproceed]
  rfl

theorem course_started :
    h.started.course =
      { ((s.course.put s.jobs.size (.ofCall (.operation .start) .never)).put (s.jobs.size + 1)
          (.ofLoop s.agent.scheduler.loops.length none .nothing true)).put s.jobs.size
          { call := some (.operation .start), phase := .ended (.outcome (.verdict true)) } with
        core := (s.agent.begin .start).state.core
        front := .idle
        line := [s.jobs.size + 1] } :=
  congrArg (fun c => { c with front := .idle }) h.course_conclude

/-- The host starts the heartbeats. -/
theorem command_start (limit : Duration) :
    s.command (Step.start limit).command = (.outcome (.verdict true), h.started) := by
  have hcall : s.callOf (.scheduler .start) = .operation .start := by
    simp [callOf, h.setting, h.isHeld]
  rw [Step.start, command]
  refine makeCall_within ?_
  rw [hcall]
  exact h.attend_calling _

/-- The loop that is started is in line for its first section. -/
theorem at_started :
    h.plan.At (s.jobs.size + 1) s.agent.scheduler.loops.length [] h.started.course
      (.opening s.agent.scheduler.slot) true := by
  have hloops (k : Nat) (hk : s.agent.scheduler.slot = some k) :
      ∃ how, (s.agent.scheduler.loops ++ [⟨.queued s.agent.scheduler.slot, false⟩])[k]? =
        some ⟨.ended how, true⟩ := by
    obtain ⟨how, hl⟩ := h.loops k hk
    exact ⟨how, (List.getElem?_append_left (List.getElem?_eq_some_iff.mp hl).1).trans hl⟩
  rw [h.course_started, h.start_eq]
  exact
    { alone :=
        { isHeld := h.isHeld
          ended := fun i j hj hi => by
            by_cases hk : i = s.jobs.size
            · subst hk
              obtain rfl := Option.some.inj (Course.put_jobs_self.symm.trans hj)
              rfl
            · rw [Course.put_jobs_of_ne hk, Course.put_jobs_of_ne hi,
                Course.put_jobs_of_ne hk] at hj
              exact h.jobs i j hj }
      front := rfl
      line := rfl
      job := (Course.put_jobs_of_ne (Nat.succ_ne_self _)).trans Course.put_jobs_self
      heart := h.heart
      slot := rfl
      period := h.period_eq
      loop := List.getElem?_concat_length
      previous := fun i hi => by
        obtain rfl := Stage.opening.inj hi
        cases hslot : s.agent.scheduler.slot with
        | none => rfl
        | some k =>
          obtain ⟨how, hl⟩ := hloops k hslot
          rw [hslot] at hl
          simp [Scheduler.hasEnded, Loop.hasEnded, hl]
      session := rfl
      name := rfl
      book := rfl
      calls := by
        change [] ++ s.calls.reverse = []
        rw [h.calls]
        rfl
      meets := rfl }

theorem follows_started :
    h.plan.Follows (s.jobs.size + 1) s.agent.scheduler.loops.length [] h.started := by
  have hnow : h.started.now = s.now := congrArg Course.now h.course_started
  have he : h.plan.event? (.opening s.agent.scheduler.slot) = some h.started.now := by
    rw [hnow]
    rfl
  exact ⟨_, (decide_eq_true he).symm ▸ h.at_started⟩

theorem step_start (limit : Duration) :
    s.step (.start limit) = h.started.settle.observe (.outcome (.verdict true)) :=
  step_of_settles rfl (h.command_start limit)

theorem settled_step_start (limit : Duration) :
    h.plan.Settled (s.jobs.size + 1) s.agent.scheduler.loops.length (s.step (.start limit)).1.calls
      (s.step (.start limit)).2.now (s.step (.start limit)).2 := by
  have hsettled := h.follows_started.settle
  rw [h.step_start]
  generalize h.started.settle = s' at hsettled ⊢
  exact Plan.Settled.observe (hsettled.1.symm ▸ hsettled) _

/-- After the start the loop keeps to its plan, while the host only lets time pass. -/
theorem exists_at_run (limit : Duration) (ds : List Duration) :
    let r := s.run (.start limit :: ds.map .sleep)
    ∃ st, h.plan.At (s.jobs.size + 1) s.agent.scheduler.loops.length
      (r.1.flatMap (·.calls)) r.2.course
        st false ∧ h.plan.event? st ≠ some r.2.now ∧
      r.1.flatMap (·.calls) = (List.range st.sent).map h.plan.record := by
  have hstart := h.settled_step_start limit
  have hcalls : (s.step (.start limit)).2.calls = [] := by
    rw [h.step_start, calls_observe]
  have hnone := calls_run hcalls ds
  obtain ⟨-, st, hat, he⟩ := hstart.run ds
  have hlog := hat.calls
  rw [show (((s.step (.start limit)).2.run (ds.map .sleep)).2.course).calls = [] from hnone,
    List.reverse_nil, List.append_nil] at hlog
  rw [run_cons rfl]
  exact ⟨st, hat, he, hlog⟩

end IsOpen

/-! ### What has been sent, and until when -/

namespace Plan

variable {p : Plan} {k l n m : Nat} {log : List CallRecord} {c : Course} {st : Stage}

theorem Going.le (h : p.Going n) (hm : Termination.of? (p.outcome m) ≠ none) : n ≤ m := by
  by_contra hlt
  exact hm (h m (Nat.lt_of_not_le hlt))

/-- The heartbeat that ends the loop, if there is one: no heartbeat before it does. -/
def IsLast (p : Plan) (last : Option Nat) : Prop :=
  ∀ m, last = some m ↔ p.Going m ∧ Termination.of? (p.outcome m) ≠ none

theorem exists_isLast (p : Plan) : ∃ last, p.IsLast last := by
  classical
  by_cases h : ∃ m, Termination.of? (p.outcome m) ≠ none
  · refine ⟨some (Nat.find h), fun m => ?_⟩
    rw [Option.some.injEq, Nat.find_eq_iff, and_comm]
    simp only [Going, not_not]
  · refine ⟨none, fun m => ⟨nofun, fun hm => absurd ⟨m, hm.2⟩ h⟩⟩

/-- The loop is the one of which the scheduler says whether it runs. -/
theorem At.isRunning_eq {isQueued : Bool} (h : p.At k l log c st isQueued) :
    c.core.scheduler.isRunning = (!(p.loopAt st).isCancelled && !(p.loopAt st).hasEnded) := by
  simp [Scheduler.isRunning, h.slot, Scheduler.isCancelled, Scheduler.hasEnded, h.loop]

section Stages

variable (h : p.At k l log c st false) (he : p.event? st ≠ some c.now) {last : Option Nat}
  (hlast : p.IsLast last)

include h he hlast

/-- Heartbeats are sent at their ticks, as long as the loop goes on. -/
theorem At.lt_sent_iff (i : Nat) :
    i < st.sent ↔ p.tick i ≤ c.now ∧ ∀ m, last = some m → i ≤ m := by
  cases st with
  | opening previous => exact absurd (congrArg some h.meets.symm) he
  | ticking n =>
    have hlt : c.now < p.tick n := h.lt_of_event? he rfl
    constructor
    · intro hi
      exact ⟨tick_le_overAt.trans (h.meets.2.1 i hi), fun m hm =>
        (Nat.le_of_lt hi).trans (h.meets.1.le ((hlast m).mp hm).2)⟩
    · exact fun hi => strictMono_tick.lt_iff_lt.mp (hi.1.trans_lt hlt)
  | beating n =>
    have hlt : c.now < p.overAt n := h.lt_of_event? he rfl
    constructor
    · intro hi
      have hle := Nat.le_of_lt_succ hi
      exact ⟨(strictMono_tick.monotone hle).trans h.meets.2.1, fun m hm =>
        hle.trans (h.meets.1.le ((hlast m).mp hm).2)⟩
    · exact fun hi => strictMono_tick.lt_iff_lt.mp ((hi.1.trans_lt hlt).trans_le overAt_le_tick)
  | ended n t answer =>
    have hn : last = some n := (hlast n).mpr ⟨h.meets.1, by simp [h.meets.2.1]⟩
    constructor
    · intro hi
      have hle := Nat.le_of_lt_succ hi
      have hover := tick_le_overAt.trans h.meets.2.2
      refine ⟨(strictMono_tick.monotone hle).trans hover, fun m hm => ?_⟩
      rwa [← Option.some.inj (hn.symm.trans hm)]
    · exact fun hi => Nat.lt_succ_of_le (hi.2 n hn)

/-- The loop goes on until the heartbeat that ends it is over. -/
theorem At.isRunning_iff :
    c.core.scheduler.isRunning = true ↔ ∀ m, last = some m → c.now < p.overAt m := by
  rw [h.isRunning_eq]
  cases st with
  | opening previous => exact absurd (congrArg some h.meets.symm) he
  | ticking n =>
    have hlt : c.now < p.tick n := h.lt_of_event? he rfl
    refine iff_of_true rfl fun m hm => hlt.trans_le ?_
    exact (strictMono_tick.monotone (h.meets.1.le ((hlast m).mp hm).2)).trans tick_le_overAt
  | beating n =>
    have hlt : c.now < p.overAt n := h.lt_of_event? he rfl
    exact iff_of_true rfl fun m hm =>
      hlt.trans_le (monotone_overAt (h.meets.1.le ((hlast m).mp hm).2))
  | ended n t answer =>
    have hn : last = some n := (hlast n).mpr ⟨h.meets.1, by simp [h.meets.2.1]⟩
    exact iff_of_false Bool.false_ne_true fun hm => Nat.not_lt_of_le h.meets.2.2 (hm n hn)

omit hlast in
/-- While the loop goes on the session is open, with the acknowledgements of the heartbeats that are
over. -/
theorem At.exists_stands (hrun : c.core.scheduler.isRunning) :
    ∃ n live, p.Going n ∧ p.Stands n live ∧ c.core.session.state.isEstablished ∧
      c.core.session.snapshot.lastAcked = live.lastAcked := by
  cases st with
  | opening previous => exact absurd (congrArg some h.meets.symm) he
  | ticking n =>
    obtain ⟨live, hlive⟩ := h.meets.1.stands
    obtain ⟨hopen, heq⟩ := Session.established?_eq_some_iff.mp hlive.established
    have hsession : c.core.session = p.managerAt n := h.session
    exact ⟨n, live, h.meets.1, hlive, by rw [hsession]; exact hopen,
      by simp [hsession, Session.snapshot, heq]⟩
  | beating n =>
    obtain ⟨live, hlive⟩ := h.meets.1.stands
    obtain ⟨hopen, -⟩ := Session.established?_eq_some_iff.mp hlive.established
    have hsession : c.core.session = (p.managerAt n).beginBeat.state := h.session
    rw [hlive.beginBeat_eq] at hsession
    exact ⟨n, live, h.meets.1, hlive, by rw [hsession]; exact hopen,
      by simp [hsession, Session.snapshot]⟩
  | ended n t answer => cases h.isRunning_eq.symm.trans hrun

omit he in
/-- The loop has ended with its last heartbeat. -/
theorem At.of_not_isRunning (hrun : ¬ c.core.scheduler.isRunning = true) :
    ∃ n, last = some n ∧ st.sent = n + 1 ∧ c.core.session = p.managerAt (n + 1) := by
  rw [h.isRunning_eq] at hrun
  cases st with
  | opening previous | ticking n | beating n => exact absurd rfl hrun
  | ended n t answer =>
    exact ⟨n, (hlast n).mpr ⟨h.meets.1, by simp [h.meets.2.1]⟩, rfl, h.session⟩

end Stages

end Plan

namespace IsOpen

variable {s : Simulation} {c : AgentConfig} {live : Live} (h : s.IsOpen c live) (limit : Duration)

include h

theorem now_step_start : (s.step (.start limit)).2.now = s.now := by
  have hnow : h.started.now = s.now := congrArg Course.now h.course_started
  rw [h.step_start, now_observe, h.follows_started.settle.1, hnow]

/-- The host can let any time pass after the start. -/
theorem exists_run_now {time : Instant} (ht : s.now ≤ time) :
    ∃ ds : List Duration, (s.run (.start limit :: ds.map .sleep)).2.now = time.roundUp := by
  obtain ⟨a, ha⟩ := Instant.roundUp_eq_self_iff.mp h.now_round
  obtain ⟨b, hb⟩ := Instant.roundUp_eq_self_iff.mp time.roundUp_roundUp
  have hle : a ≤ b := by
    have hle := ht.trans time.le_roundUp
    rw [ha, hb] at hle
    exact Nat.le_of_mul_le_mul_left hle (by decide)
  have hnow := h.now_step_start limit
  obtain ⟨ds, hds⟩ :=
    (h.settled_step_start limit).exists_now (by rw [hnow]; exact h.now_round) (b - a)
  refine ⟨ds, ?_⟩
  rw [run_cons rfl, hds, hnow, hb, ha, Nat.mul_comm (b - a), ← Nat.mul_add, Nat.add_sub_cancel' hle]

/-- The heartbeats that have been sent are those of the plan whose ticks have come. -/
theorem sent_run {last : Option Nat} (hlast : h.plan.IsLast last) (ds : List Duration) :
    let r := s.run (.start limit :: ds.map .sleep)
    (r.2.agent.scheduler.isRunning = true ↔ ∀ n, last = some n → r.2.now < h.plan.overAt n) ∧
      ∃ count, r.1.flatMap (·.calls) = (List.range count).map h.plan.record ∧
        ∀ i, i < count ↔ h.plan.tick i ≤ r.2.now ∧ ∀ n, last = some n → i ≤ n := by
  intro r
  obtain ⟨st, hat, he, hlog⟩ := h.exists_at_run limit ds
  exact ⟨hat.isRunning_iff he hlast, st.sent, hlog, hat.lt_sent_iff he hlast⟩

/-- A heartbeat whose number was acknowledged last, while the loop goes on, leaves no failures. -/
theorem exists_stands_of_lastAcked {ds : List Duration} {i : Nat}
    (hrun : (s.run (.start limit :: ds.map .sleep)).2.agent.scheduler.isRunning)
    (hack : (s.run (.start limit :: ds.map .sleep)).2.agent.session.snapshot.lastAcked =
      some (live.nextSequence + i)) :
    h.plan.Going (i + 1) ∧ ∃ live', h.plan.Stands (i + 1) live' ∧ live'.failures = 0 := by
  obtain ⟨st, hat, he, -⟩ := h.exists_at_run limit ds
  obtain ⟨n, live', hgo, hlive, -, hsame⟩ := hat.exists_stands he hrun
  obtain ⟨hi, hzero⟩ := hgo.failures_eq_zero hlive h.acked (hsame.symm.trans hack)
  exact ⟨hgo.mono hi, hzero⟩

/-- Heartbeats that are not answered, from one on before which there were no failures, cost the
session. -/
theorem lost_run {m : Nat} (hgo : h.plan.Going m) {live' : Live} (hlive : h.plan.Stands m live')
    (hzero : live'.failures = 0)
    (hlate : ∀ i, m ≤ i → i < m + c.loseAfter →
      (s.book.entry .heartbeat i).IsLate c.effectiveRpcTimeout) (ds : List Duration) :
    let r := s.run (.start limit :: ds.map .sleep)
    let lost := h.plan.tick (m + c.loseAfter - 1) + Instant.roundUp c.effectiveRpcTimeout.nanos
    (r.2.now < lost → r.2.agent.scheduler.isRunning ∧ r.2.agent.session.state.isEstablished) ∧
      (lost ≤ r.2.now → ¬ r.2.agent.scheduler.isRunning ∧ r.2.agent.session.state = .closed ∧
        (r.1.flatMap (·.calls)).length = m + c.loseAfter) := by
  intro r lost
  have hlimit : h.plan.limit = c.effectiveRpcTimeout := h.rpcTimeout_eq
  have hlate' : ∀ i, m ≤ i → i < m + h.plan.manager.params.loseAfter →
      (h.plan.entry i).IsLate h.plan.limit := by
    intro i hi hlt
    rw [hlimit]
    exact hlate i hi (h.loseAfter_eq ▸ hlt)
  obtain ⟨-, -, hlose⟩ := AgentConfig.validate_eq_ok_iff.mp h.valid
  obtain ⟨j, hj⟩ : ∃ j, c.loseAfter = j + 1 := ⟨c.loseAfter - 1, by omega⟩
  have hj' : j + 1 = h.plan.manager.params.loseAfter := (h.loseAfter_eq.trans hj).symm
  -- the heartbeat with which the session is given up
  obtain ⟨hclosed, cause, houtcome⟩ := Plan.closed_of_late hgo hlive hzero hlate' hj'
  obtain ⟨hgo', -⟩ := Plan.going_of_late hgo hlive hzero hlate' (j := j) (by omega)
  obtain ⟨hover, -⟩ := Plan.overAt_of_isLate (hlate' (m + j) (by omega) (by omega))
  have hlost : lost = h.plan.overAt (m + j) := by
    rw [hover, hlimit, show m + j = m + c.loseAfter - 1 by omega]
  have hn : Termination.of? (h.plan.outcome (m + j)) ≠ none := by simp [houtcome, Termination.of?]
  obtain ⟨last, hlast⟩ := h.plan.exists_isLast
  have hlast' : last = some (m + j) := (hlast (m + j)).mpr ⟨hgo', hn⟩
  obtain ⟨st, hat, he, hlog⟩ := h.exists_at_run limit ds
  have hiff : r.2.agent.scheduler.isRunning = true ↔ r.2.now < lost := by
    rw [hlost]
    refine (hat.isRunning_iff he hlast).trans ⟨fun hm => hm _ hlast', fun hm n hn' => ?_⟩
    rwa [← Option.some.inj (hlast'.symm.trans hn')]
  constructor
  · intro hlt
    obtain ⟨n, live', -, -, hopen, -⟩ := hat.exists_stands he (hiff.mpr hlt)
    exact ⟨hiff.mpr hlt, hopen⟩
  · intro hle
    have hrun := hiff.not.mpr (Nat.not_lt_of_le hle)
    obtain ⟨n, hn', hsent, hsession⟩ := hat.of_not_isRunning hlast hrun
    obtain rfl := Option.some.inj (hlast'.symm.trans hn')
    refine ⟨hrun, (congrArg Session.state hsession).trans hclosed, ?_⟩
    rw [hlog, List.length_map, List.length_range, hsent, hj, Nat.add_assoc]

end IsOpen

/-- Heartbeats are punctual. Follow a host that starts the heartbeats of an open session, with an
interval of whole milliseconds and any script of the controller, and then lets any time pass. Up to
the heartbeat that ends the loop, if there is one, a heartbeat is sent at every tick, with the next
number, and none besides. If the heartbeat before the one of number `m` was acknowledged, or that is
the first one on a session without failures, and the answers to it and to those after it come too
late, then as many are sent after it as the session does not stand, and the session is lost when the
last of them has met its time limit. -/
theorem lost_on_time {s : Simulation} {c : AgentConfig} {live : Live} (h : s.IsOpen c live)
    (limit : Duration) :
    let run (ds : List Duration) := s.run (.start limit :: ds.map .sleep)
    let sent (ds : List Duration) := (run ds).1.flatMap (·.calls)
    let after (ds : List Duration) := (run ds).2
    let tick (i : Nat) : Instant := s.now + i * c.interval.nanos
    (∀ time, s.now ≤ time → ∃ ds, (after ds).now = time.roundUp) ∧
    (∃ last : Option (Nat × Instant),
      (∀ n stop, last = some (n, stop) → tick n ≤ stop ∧ stop ≤ tick (n + 1)) ∧
      ∀ ds, ((after ds).agent.scheduler.isRunning ↔
          ∀ n stop, last = some (n, stop) → (after ds).now < stop) ∧
        ∃ count, sent ds = (List.range count).map (fun i =>
            ⟨tick i, .heartbeat, [.text live.id, .number (live.nextSequence + i)]⟩) ∧
          ∀ i, i < count ↔ tick i ≤ (after ds).now ∧ ∀ n stop, last = some (n, stop) → i ≤ n) ∧
    ∀ m, (m = 0 ∧ live.failures = 0 ∨ ∃ i ds, m = i + 1 ∧ (after ds).agent.scheduler.isRunning ∧
        (after ds).agent.session.snapshot.lastAcked = some (live.nextSequence + i)) →
      (∀ i, m ≤ i → i < m + c.loseAfter →
        (s.book.entry .heartbeat i).IsLate c.effectiveRpcTimeout) →
      let lost := tick (m + c.loseAfter - 1) + Instant.roundUp c.effectiveRpcTimeout.nanos
      ∀ ds, ((after ds).now < lost → (after ds).agent.scheduler.isRunning ∧
            (after ds).agent.session.state.isEstablished) ∧
          (lost ≤ (after ds).now → ¬ (after ds).agent.scheduler.isRunning ∧
            (after ds).agent.session.state = .closed ∧ (sent ds).length = m + c.loseAfter) := by
  intro run sent after tick
  obtain ⟨last, hlast⟩ := h.plan.exists_isLast
  -- the heartbeat that ends the loop, with the time when it is over
  have hbound (P : Nat → Instant → Prop) :
      (∀ n stop, last.map (fun n => (n, h.plan.overAt n)) = some (n, stop) → P n stop) ↔
        ∀ n, last = some n → P n (h.plan.overAt n) := by
    simp only [Option.map_eq_some_iff, Prod.mk.injEq]
    exact ⟨fun hP n hn => hP n _ ⟨n, hn, rfl, rfl⟩,
      fun hP n stop ⟨_, hn, hm, ho⟩ => hm ▸ ho ▸ hP _ hn⟩
  refine ⟨fun time ht => h.exists_run_now limit ht, ⟨last.map fun n => (n, h.plan.overAt n), ?_,
    fun ds => ?_⟩, ?_⟩
  · refine (hbound _).mpr fun n _ => ?_
    exact ⟨Plan.tick_le_overAt (p := h.plan), Plan.overAt_le_tick (p := h.plan)⟩
  · obtain ⟨hrunning, count, hsent, hcount⟩ := h.sent_run limit hlast ds
    exact ⟨hrunning.trans (hbound _).symm, count, hsent, fun i =>
      (hcount i).trans (and_congr_right' (hbound fun n _ => i ≤ n).symm)⟩
  · rintro m (⟨rfl, hzero⟩ | ⟨i, ds, rfl, hrun, hack⟩) hlate
    · exact h.lost_run limit Plan.going_zero Plan.stands_zero hzero hlate
    · obtain ⟨hgo, live', hlive, hzero⟩ := h.exists_stands_of_lastAcked limit hrun hack
      exact h.lost_run limit hgo hlive hzero hlate

/-- A server whose controller acknowledges one heartbeat and answers no other one. The time limit of
a call lies between two milliseconds. -/
private def deserted : Premises where
  address := "http://127.0.0.1:12892"
  host := .named "lobby-1"
  config :=
    { interval := .ofMillis 100, rpcTimeout := ⟨30500000⟩, degradeAfter := 1, loseAfter := 2 }
  book := { scripts := [(.heartbeat, [(1, {}), (2, { hangs := true })])] }

/-- The host opens the session. -/
private def opening : Observation × Simulation :=
  (ofScheduler deserted deserted.config.sessionParams none 4).step (.connect (.ofSeconds 1))

/-- The heartbeats at 100 and 200 milliseconds are not answered, so the session is lost after
231. -/
theorem lost_on_time_when_deserted :
    let run (ds : List Duration) := opening.2.run (.start (.ofSeconds 1) :: ds.map .sleep)
    opening.2.IsOpen deserted.config { id := "session-1" } ∧
      ((run []).2.agent.scheduler.isRunning ∧
        (run []).2.agent.session.snapshot.lastAcked = some 0) ∧
      (∀ i, 1 ≤ i → i < 1 + deserted.config.loseAfter →
        (opening.2.book.entry .heartbeat i).IsLate deserted.config.effectiveRpcTimeout) ∧
      ∀ ds, ((run ds).2.now < .ofMillis 231 → (run ds).2.agent.scheduler.isRunning ∧
          (run ds).2.agent.session.state.isEstablished) ∧
        (.ofMillis 231 ≤ (run ds).2.now → ¬ (run ds).2.agent.scheduler.isRunning ∧
          (run ds).2.agent.session.state = .closed ∧
            ((run ds).1.flatMap (·.calls)).length = 3) := by
  intro run
  have hopen : opening.2.IsOpen deserted.config { id := "session-1" } :=
    (isAtRest_ofScheduler deserted rfl rfl 4).isOpen_connect
      (by decide +kernel : opening.1.answer = .outcome (.opened "session-1"))
  have hfirst : (run []).2.agent.scheduler.isRunning ∧
      (run []).2.agent.session.snapshot.lastAcked = some 0 := by decide +kernel
  have hlate (i : Nat) (h : 1 ≤ i) (hi : i < 1 + deserted.config.loseAfter) :
      (opening.2.book.entry .heartbeat i).IsLate deserted.config.effectiveRpcTimeout := by
    obtain rfl | rfl : i = 1 ∨ i = 2 := by
      change i < 3 at hi
      omega
    · exact .inl (by decide +kernel)
    · exact .inl (by decide +kernel)
  have hlost := (lost_on_time hopen (.ofSeconds 1)).2.2 1 (.inr ⟨0, [], rfl, hfirst⟩) hlate
  have htime : opening.2.now + 2 * deserted.config.interval.nanos +
      Instant.roundUp deserted.config.effectiveRpcTimeout.nanos = .ofMillis 231 := by decide +kernel
  exact ⟨hopen, hfirst, hlate, fun ds => ⟨fun hlt => (hlost ds).1 (hlt.trans_eq htime.symm),
    fun hle => (hlost ds).2 (htime.trans_le hle)⟩⟩

end Simulation

end FleetAgent
