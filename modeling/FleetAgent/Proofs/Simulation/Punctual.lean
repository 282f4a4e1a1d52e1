import FleetAgent.Proofs.Simulation.Cadence
import FleetAgent.Proofs.Simulation.Host

/-!
# Heartbeats on time

A loop that keeps to its plan does so while the host waits: when the loop is in line it takes its
turn, and when nobody is in line the clock jumps no further than to the next event of the plan. The
host sees the calls of the plan in the order in which they are made, and it can let any time pass.

## Main definitions

* `Simulation.Plan.Follows`: the loop is in line just when the next event of its plan has come.

## Main results

* `Simulation.Plan.Follows.settle`, `Simulation.Plan.Settled.advanceTo`: the turn of the loop, and
  the jump of the clock.
* `Simulation.Plan.Settled.run`: while the host only lets time pass, the loop keeps to its plan.
* `Simulation.Plan.Settled.exists_now`: a host can let any time pass.
-/

namespace FleetAgent.Simulation

namespace Plan

variable {p : Plan} {k l n : Nat} {log : List CallRecord} {s : Simulation} {st : Stage}
  {limit : Option Instant} {now time : Instant}

/-! ### Waiting -/

/-- The loop is at a stage of its plan, and in line just when the clock has come to its next
event. -/
def Follows (p : Plan) (k l : Nat) (log : List CallRecord) (s : Simulation) : Prop :=
  ∃ st, p.At k l log s.course st (decide (p.event? st = some s.now))

theorem Settled.follows (h : p.Settled k l log now s) : p.Follows k l log s := by
  obtain ⟨rfl, st, hat, he⟩ := h
  exact ⟨st, by rwa [decide_eq_false he]⟩

/-- The loop takes its turn. -/
theorem At.unqueue (h : p.At k l log s.course st true) :
    p.At k l log
      ({ s with line := [] }.modifyJob k ({ · with isQueued := false })).course st false := by
  have hjob : { p.jobAt l st true with isQueued := false } = p.jobAt l st false := by
    cases st <;> rfl
  rw [course_modifyJob (s := { s with line := [] }) h.job, hjob]
  have halone : ({ s with line := [] } : Simulation).course.Alone k :=
    ⟨h.alone.isHeld, h.alone.ended⟩
  exact { h with
    alone := halone.put _
    line := rfl
    job := Course.put_jobs_self }

theorem Settled.settleWithin_eq (h : p.Settled k l log now s) (m : Nat) : s.settleWithin m = s := by
  obtain ⟨-, st, hat, -⟩ := h
  exact settleWithin_of_nil hat.line m

/-- When everybody in line has taken a turn, the loop waits. -/
theorem Follows.settle (h : p.Follows k l log s) : p.Settled k l log s.now s.settle := by
  obtain ⟨st, hat⟩ := h
  by_cases he : p.event? st = some s.now
  · rw [decide_eq_true he] at hat
    have hturn : s.settle =
        ({ s with line := [] }.modifyJob k ({ · with isQueued := false }) |>.proceed k).settleWithin
          999999 := by
      have hline : s.line = [k] := hat.line
      rw [Simulation.settle, show patience = 999999 + 1 from rfl, settleWithin, hline]
    have hsettled := hat.unqueue.settled_proceed 999997
    rw [hturn, proceed_eq, hsettled.settleWithin_eq]
    exact hsettled
  · rw [decide_eq_false he] at hat
    rw [Simulation.settle, settleWithin_of_nil hat.line]
    exact ⟨rfl, st, hat, he⟩

/-- The next event of the job of a loop that waits is that of its stage. -/
theorem At.event?_jobAt (h : p.At k l log s.course st false) (he : p.event? st ≠ some s.now) :
    (p.jobAt l st false).event? s.agent s.now = p.event? st := by
  cases st with
  | opening previous => exact absurd (congrArg some h.meets.symm) he
  | ticking n =>
    have hlt : s.now < p.tick n := h.lt_of_event? he rfl
    have hloop : s.agent.scheduler.loops[l]? = some (p.loopAt (.ticking n)) := h.loop
    have htimers : (p.jobAt l (.ticking n) false).timers s.agent = [p.tick n] := by
      simp [jobAt, Job.ofLoop, Job.timers, Job.tick, hloop, loopAt, Awaited.timers, Shutdown.timers]
    refine Job.event?_eq_some_iff.mpr ⟨hlt, ⟨p.tick n, ?_, tick_round⟩, ?_⟩
    · simp [htimers]
    · simp [htimers, tick_round]
  | beating n =>
    have hlt : s.now < p.overAt n := h.lt_of_event? he rfl
    have htimers : (p.jobAt l (.beating n) false).timers s.agent = (p.flight n).timers := by
      simp [jobAt, Job.ofLoop, Job.timers, Job.tick, Awaited.timers, Shutdown.timers]
    refine Job.event?_eq_some_iff.mpr ⟨hlt, ?_, ?_⟩
    · rw [htimers]
      exact (p.flight n).await_mem_timers
    · rw [htimers]
      exact fun t ht _ => Flight.await_le ht
  | ended n t answer => rfl

/-- The clock goes on, but not beyond the next event. -/
theorem At.meets_later (h : p.At k l log s.course st false) (hlt : s.now < time)
    (hle : ∀ e, p.event? st = some e → time ≤ e) : p.Meets time st := by
  cases st with
  | opening previous => exact absurd (hlt.trans_le (hle _ rfl)) (h.meets ▸ lt_irrefl _)
  | ticking n => exact ⟨h.meets.1, fun i hi => (h.meets.2.1 i hi).trans hlt.le, hle _ rfl⟩
  | beating n => exact ⟨h.meets.1, h.meets.2.1.trans hlt.le, hle _ rfl⟩
  | ended n t answer => exact ⟨h.meets.1, h.meets.2.1, h.meets.2.2.trans hlt.le⟩

/-- The clock jumps, and the loop gets in line if its next event has come. -/
theorem Settled.advanceTo (h : p.Settled k l log s.now s) (ht : s.nextTime? limit = some time) :
    p.Follows k l log (s.advanceTo time limit) ∧ (s.advanceTo time limit).now = time := by
  obtain ⟨-, st, hat, he⟩ := h
  have hfront : s.front ≠ .calling k := fun hf => nomatch hat.front.symm.trans hf
  obtain ⟨hlt, hle, hcourse⟩ :=
    course_advanceTo_event hat.alone hfront hat.job (by cases st <;> rfl) ht
  rw [hat.event?_jobAt he] at hle hcourse
  have hmeets := hat.meets_later hlt hle
  have hnow : (s.advanceTo time limit).now = time :=
    (congrArg Course.now hcourse).trans (by split_ifs <;> rfl)
  refine ⟨⟨st, ?_⟩, hnow⟩
  rw [hnow, hcourse]
  split_ifs with hevent
  · have hjob : { p.jobAt l st false with isQueued := true } = p.jobAt l st true := by
      cases st <;> first | rfl | cases hevent
    have halone := hat.alone.put (p.jobAt l st true)
    rw [decide_eq_true hevent, hjob]
    exact { hat with
      alone := ⟨halone.isHeld, halone.ended⟩
      line := congrArg (· ++ [k]) hat.line
      job := Course.put_jobs_self
      meets := hmeets }
  · rw [decide_eq_false hevent]
    exact { hat with
      alone := ⟨hat.alone.isHeld, hat.alone.ended⟩
      meets := hmeets }

/-- Whether the host is told to go on does not matter to the loop. -/
theorem Follows.of_course {s' : Simulation} (h : p.Follows k l log s) (hc : s'.course = s.course) :
    p.Follows k l log s' := by
  obtain ⟨st, hat⟩ := h
  have hnow : s'.now = s.now := congrArg Course.now hc
  exact ⟨st, by rwa [hc, hnow]⟩

theorem Follows.front (h : p.Follows k l log s) : s.front = .idle :=
  h.choose_spec.front

theorem Follows.settled_of_nil (h : p.Follows k l log s) (hline : s.line = []) :
    p.Settled k l log s.now s := by
  have hsettled := h.settle
  rwa [Simulation.settle, settleWithin_of_nil hline] at hsettled

/-- The host lets time pass. -/
theorem Follows.attendWithin (h : p.Follows k l log s) (limit : Option Instant) (rounds : Nat) :
    p.Follows k l log (attendWithin limit rounds s).2 := by
  induction rounds generalizing s with
  | zero => exact h
  | succ rounds ih =>
    by_cases hw : s.frontWoken
    · rw [attendWithin_of_woken rounds h.front hw]
      split_ifs
      · exact h.of_course rfl
      · exact ih (h.of_course rfl)
    · by_cases hl : s.line = []
      · rw [attendWithin_of_nil rounds hw hl]
        cases ht : s.nextTime? limit with
        | none => exact h
        | some time => exact ih ((h.settled_of_nil hl).advanceTo ht).1
      · rw [attendWithin_of_line rounds hw hl]
        exact ih h.settle.follows

theorem Settled.attend (h : p.Settled k l log s.now s) (limit : Option Instant) :
    p.Follows k l log (s.attend .idle limit).2 := by
  have hstart : p.Follows k l log { s with front := .idle, frontWoken := true } :=
    h.follows.of_course (by simp [course, h.follows.front])
  have hwait := hstart.attendWithin limit patience
  exact hwait.of_course (by simp [Simulation.attend, course, hwait.front])

/-! ### What the host sees -/

/-- The host looks around: the calls since the last time are noted. -/
theorem Settled.observe (h : p.Settled k l log s.now s) (answer : Answer) :
    p.Settled k l (log ++ (s.observe answer).1.calls) (s.observe answer).2.now
      (s.observe answer).2 := by
  obtain ⟨-, st, hat, he⟩ := h
  have hcalls : (s.observe answer).1.calls = s.calls.reverse := rfl
  have hcourse : (s.observe answer).2.course = { s.course with calls := [] } := rfl
  refine ⟨rfl, st, ?_, he⟩
  rw [hcalls, hcourse]
  exact { hat with
    alone := ⟨hat.alone.isHeld, hat.alone.ended⟩
    calls := (List.append_nil _).trans hat.calls }

theorem Settled.sleep (h : p.Settled k l log s.now s) (d : Duration) :
    p.Settled k l (log ++ (s.step (.sleep d)).1.calls) (s.step (.sleep d)).2.now
      (s.step (.sleep d)).2 := by
  rw [step_sleep]
  have hwait := h.attend (some (s.now.after d))
  generalize (s.attend .idle (some (s.now.after d))).2 = s' at hwait ⊢
  have hsettled := hwait.settle
  generalize s'.settle = s'' at hsettled ⊢
  exact Settled.observe (hsettled.1.symm ▸ hsettled) .done

/-- While the host only lets time pass, the loop keeps to its plan. -/
theorem Settled.run (h : p.Settled k l log s.now s) (ds : List Duration) :
    p.Settled k l (log ++ (s.run (ds.map .sleep)).1.flatMap (·.calls)) (s.run (ds.map .sleep)).2.now
      (s.run (ds.map .sleep)).2 := by
  induction ds generalizing s log with
  | nil => simpa [Simulation.run] using h
  | cons d ds ih =>
    rw [List.map_cons, run_cons rfl, List.flatMap_cons, ← List.append_assoc]
    exact ih (h.sleep d)

/-- A host that waits for a millisecond does so. -/
theorem Settled.now_attend (h : p.Settled k l log s.now s) (hround : s.now.roundUp = s.now)
    {e : Instant} (he : e = s.now + 1000000) : (s.attend .idle (some e)).2.now = e := by
  obtain ⟨r, hr⟩ : ∃ r, patience = r + 1 + 1 + 1 := ⟨999997, rfl⟩
  have hround' : e.roundUp = e := by
    rw [Instant.roundUp_eq_self_iff, he]
    exact Nat.dvd_add (Instant.roundUp_eq_self_iff.mp hround) (Nat.dvd_refl _)
  have hlate : ¬ (some e).any (·.reached s.now) = true := by
    rw [Option.any_some, Instant.reached_of_lt]
    · exact Bool.false_ne_true
    · rw [hround', he]
      exact Nat.lt_add_of_pos_right (by decide)
  -- the host goes on at once, waits, and goes on again when its time is over
  let s' : Simulation := { s with front := .idle, frontWoken := false }
  have hline : s'.line = [] := by
    obtain ⟨-, st, hat, -⟩ := h
    exact hat.line
  have hsettled : p.Settled k l log s'.now s' :=
    (h.follows.of_course (by simp [s', course, h.follows.front])).settled_of_nil hline
  have htime : s'.nextTime? (some e) = some e := nextTime?_of_round (s := s') hround he
  obtain ⟨hfollows, hnow⟩ := hsettled.advanceTo htime
  have hreached : (some e).any (·.reached (s'.advanceTo e (some e)).now) = true := by
    rw [Option.any_some, Instant.reached, decide_eq_true_iff, hnow]
    exact hround'.le
  rw [Simulation.now_attend, hr, attendWithin_of_woken _ rfl rfl, if_neg hlate,
    attendWithin_of_nil _ Bool.false_ne_true hline, htime]
  dsimp only
  rw [now_attendWithin_of_reached r hfollows.front (frontWoken_advanceTo s' hround') hreached]
  exact hnow

theorem Settled.now_sleep (h : p.Settled k l log s.now s) (hround : s.now.roundUp = s.now) :
    (s.step (.sleep (.ofMillis 1))).2.now = s.now + 1000000 := by
  have he : s.now.after (.ofMillis 1) = s.now + 1000000 := by
    rw [Instant.after, Duration.ofMillis, Nat.one_mul]
  have hnow := h.now_attend hround he
  rw [step_sleep, now_observe, (h.attend _).settle.1, hnow, he]

/-- A host can let any time pass. -/
theorem Settled.exists_now (h : p.Settled k l log s.now s) (hround : s.now.roundUp = s.now)
    (millis : Nat) :
    ∃ ds : List Duration, (s.run (ds.map .sleep)).2.now = s.now + millis * 1000000 := by
  induction millis generalizing s log with
  | zero => exact ⟨[], (Nat.zero_mul _).symm ▸ rfl⟩
  | succ millis ih =>
    have hnow := h.now_sleep hround
    have hround' : (s.step (.sleep (.ofMillis 1))).2.now.roundUp =
        (s.step (.sleep (.ofMillis 1))).2.now := by
      rw [hnow, Instant.roundUp_eq_self_iff]
      exact Nat.dvd_add (Instant.roundUp_eq_self_iff.mp hround) (Nat.dvd_refl _)
    obtain ⟨ds, hds⟩ := ih (h.sleep (.ofMillis 1)) hround'
    refine ⟨.ofMillis 1 :: ds, ?_⟩
    rw [List.map_cons, run_cons rfl, hds, hnow, Nat.succ_mul, Nat.add_assoc, Nat.add_comm 1000000]

end Plan

end FleetAgent.Simulation
