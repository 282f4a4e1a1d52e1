import FleetAgent.Proofs.Simulation.Course
import FleetAgent.Simulation.Start

/-!
# The host at rest

A simulation is at rest when only its host can bring something about: it holds the scheduler, every
call has been finished, and so has every heartbeat loop. A host that opens a session then waits for
its call alone, as long as it wants to. If it gets a session, that is a new one, and the simulation
is at rest again.

## Main definitions

* `Simulation.Step.sleep`, `Simulation.Step.connect`: the host lets time pass, or opens a session.
* `Simulation.IsAtRest`, `Simulation.IsOpen`: the simulation is at rest, and a session is open.
* `Session.Connects`: what a section of an attempt to open a session leaves behind.
* `Simulation.Course.Opens`: the host opens a session.

## Main results

* `Simulation.attendWithin_of_woken`, `Simulation.attendWithin_of_nil`: a round of waiting.
* `Simulation.isAtRest_ofScheduler`: a simulation of a scheduler begins at rest.
* `Simulation.IsAtRest.isOpen_connect`: a host that has opened a session.
-/

namespace FleetAgent

open Effect (spawned)

namespace Simulation

/-- The step of a host that lets time pass. -/
def Step.sleep (d : Duration) : Step := { command := .sleep d }

section Host

variable {s : Simulation} {limit : Option Instant}

theorem settleWithin_of_nil (h : s.line = []) (m : Nat) : s.settleWithin m = s := by
  cases m with
  | zero => rfl
  | succ m => rw [settleWithin, h]

theorem proceed_eq (s : Simulation) (k : Nat) : s.proceed k = s.proceedWithin k (999997 + 3) := rfl

theorem attendWithin_of_woken (rounds : Nat) (hf : s.front = .idle) (hw : s.frontWoken) :
    attendWithin limit (rounds + 1) s =
      if limit.any (·.reached s.now) then (none, { s with frontWoken := false })
      else attendWithin limit rounds { s with frontWoken := false } := by
  have hfront : s.proceedFront = { s with frontWoken := false } := by
    simp [proceedFront, hf]
  have hnone : ({ s with frontWoken := false } : Simulation).frontAnswer? = none := by
    simp [frontAnswer?, hf]
  simp only [attendWithin, hw, ↓reduceIte, hfront, hnone]

theorem proceedFront_of_calling {k : Nat} (hf : s.front = .calling k) :
    s.proceedFront = { s with frontWoken := false }.proceed k := by
  unfold proceedFront
  dsimp only
  split <;> simp_all

theorem attendWithin_of_answer (rounds : Nat) (hw : s.frontWoken) {answer : Answer}
    (ha : s.proceedFront.frontAnswer? = some answer) :
    attendWithin limit (rounds + 1) s = (some answer, s.proceedFront) := by
  simp only [attendWithin, hw, ↓reduceIte, ha]

theorem attendWithin_of_line (rounds : Nat) (hw : ¬ s.frontWoken) (hl : s.line ≠ []) :
    attendWithin limit (rounds + 1) s = attendWithin limit rounds s.settle := by
  have hempty : ¬ s.line.isEmpty := fun h => hl (List.isEmpty_iff.mp h)
  rw [attendWithin, if_neg hw, if_neg hempty]

theorem attendWithin_of_nil (rounds : Nat) (hw : ¬ s.frontWoken) (hl : s.line = []) :
    attendWithin limit (rounds + 1) s = match s.nextTime? limit with
      | some time => attendWithin limit rounds (s.advanceTo time limit)
      | none => (none, s) :=
  (if_neg hw).trans (if_pos (List.isEmpty_iff.mpr hl))

theorem step_of_settles {p : Step} (hp : p.settles) {answer : Answer} {s' : Simulation}
    (hc : s.command p.command = (answer, s')) : s.step p = s'.settle.observe answer := by
  rw [step, hc]
  simp only [hp, ↓reduceIte]

theorem step_sleep (s : Simulation) (d : Duration) :
    s.step (.sleep d) = (s.attend .idle (some (s.now.after d))).2.settle.observe .done :=
  step_of_settles rfl (by rw [Step.sleep, command])

theorem now_observe (s : Simulation) (answer : Answer) : (s.observe answer).2.now = s.now := rfl

theorem calls_observe (s : Simulation) (answer : Answer) : (s.observe answer).2.calls = [] := rfl

theorem run_cons {p : Step} (hp : p.times = 1) (ps : List Step) :
    s.run (p :: ps) =
      ((s.step p).1 :: ((s.step p).2.run ps).1, ((s.step p).2.run ps).2) := by
  simp [run, hp, repeatStep]

/-- Within a millisecond nothing happens before its end. -/
theorem nextTime?_of_round {e : Instant} (hround : s.now.roundUp = s.now)
    (he : e = s.now + 1000000) :
    s.nextTime? (some e) = some e := by
  have hnow := Instant.roundUp_eq_self_iff.mp hround
  have hend : e.roundUp = e := by
    rw [Instant.roundUp_eq_self_iff, he]
    exact Nat.dvd_add hnow (Nat.dvd_refl _)
  have hlt : s.now < e := by
    rw [he]
    exact Nat.lt_add_of_pos_right (by decide)
  rw [nextTime?, List.min?_eq_some_iff]
  simp only [List.mem_filter, List.mem_map, decide_eq_true_eq, and_imp, forall_exists_index,
    forall_apply_eq_imp_iff₂]
  refine ⟨⟨⟨e, by simp, hend⟩, hlt⟩, fun t _ hlt => ?_⟩
  obtain ⟨a, ha⟩ := hnow
  obtain ⟨b, hb⟩ := Instant.roundUp_eq_self_iff.mp t.roundUp_roundUp
  rw [he, hb, ha, ← Nat.mul_succ]
  rw [hb, ha] at hlt
  exact Nat.mul_le_mul_left _ (Nat.lt_of_mul_lt_mul_left hlt)

theorem frontWoken_advanceTo (s : Simulation) {e : Instant} (he : e.roundUp = e) :
    (s.advanceTo e (some e)).frontWoken = true := by
  have hany : (some e).any (fun t => decide (t.roundUp = e)) = true := by
    rw [Option.any_some, decide_eq_true_iff]
    exact he
  rw [advanceTo, if_pos hany]

theorem exists_attendWithin {front : Front} {answer : Answer} {s' : Simulation}
    (h : s.attend front limit = (some answer, s')) :
    ∃ t, attendWithin limit patience { s with front, frontWoken := true } = (some answer, t) ∧
      s' = { t with front := .idle, frontWoken := false } := by
  rw [attend] at h
  obtain ⟨ha, rfl⟩ := Prod.mk.inj h
  exact ⟨_, Prod.ext ha rfl, rfl⟩

theorem now_attend (s : Simulation) (front : Front) (limit : Option Instant) :
    (s.attend front limit).2.now =
      (attendWithin limit patience { s with front, frontWoken := true }).2.now := by
  rw [attend]

/-- A host whose time is over waits no longer. -/
theorem now_attendWithin_of_reached (rounds : Nat) (hf : s.front = .idle) (hw : s.frontWoken)
    (hreached : limit.any (·.reached s.now)) :
    (attendWithin limit (rounds + 1) s).2.now = s.now := by
  rw [attendWithin_of_woken rounds hf hw, if_pos hreached]

/-- The host makes a call, and waits for the answer, -/
theorem makeCall_within {c : HostCall} {shutdown : Shutdown} {limit : Duration} {answer : Answer}
    {s' : Simulation}
    (h : let begun : Simulation := { s with jobs := s.jobs.push (.ofCall (s.callOf c) shutdown) }
      begun.attend (.calling s.jobs.size) (some (s.now.after limit)) = (some answer, s')) :
    s.makeCall c shutdown (.within limit) = (answer, s') := by
  unfold makeCall
  extract_lets k job _ begun
  have h' : begun.attend (.calling k) (some (begun.now.after limit)) = (some answer, s') := h
  dsimp only
  rw [h']

/-- or gives it up. -/
theorem makeCall_within_of_none {c : HostCall} {shutdown : Shutdown} {limit : Duration}
    {s' : Simulation}
    (h : let begun : Simulation := { s with jobs := s.jobs.push (.ofCall (s.callOf c) shutdown) }
      begun.attend (.calling s.jobs.size) (some (s.now.after limit)) = (none, s')) :
    (s.makeCall c shutdown (.within limit)).1 = .pending := by
  unfold makeCall
  extract_lets k job _ begun
  have h' : begun.attend (.calling k) (some (begun.now.after limit)) = (none, s') := h
  dsimp only
  rw [h']

theorem calls_run (hs : s.calls = []) (ds : List Duration) :
    (s.run (ds.map .sleep)).2.calls = [] := by
  induction ds generalizing s with
  | nil => exact hs
  | cons d ds ih =>
    rw [List.map_cons, run_cons rfl, step_sleep]
    exact ih (calls_observe ..)


end Host

end Simulation

/-! ### Sections of an attempt -/

namespace Session

/-- What a section of an attempt to open a session leaves behind: if there is a session, it is a new
one, with a name. -/
structure Connects (s : Session)
    (t : Turn Session (Progress Connect (Except SessionError String))) :
    Prop where
  params : t.state.params = s.params
  spawned_eq : spawned t.effects = []
  opened : ∀ id, t.result = .done (.ok id) → t.state.established? = some { id } ∧ id ≠ ""

variable {s : Session}

theorem connects_beginConnect (s : Session) : s.Connects s.beginConnect := by
  by_cases h : s.state = .disconnected
  · rw [beginConnect_of_disconnected h]
    exact ⟨rfl, rfl, by simp⟩
  · rw [beginConnect_of_ne h]
    exact ⟨rfl, rfl, by simp⟩

theorem connects_finishConnect (s : Session) (e : Nat) {answer : Except ClientError String}
    (h : answer ≠ .ok "") : s.Connects ((s.finishConnect e answer).map .done) := by
  by_cases hstale : s.epoch ≠ e ∨ s.state ≠ .connecting
  · rw [finishConnect_of_stale hstale]
    exact ⟨rfl, rfl, by simp⟩
  · obtain ⟨he, hs⟩ := not_or.mp hstale
    cases answer with
    | error cause =>
      rw [finishConnect_error (not_not.mp he) (not_not.mp hs)]
      exact ⟨rfl, rfl, by simp⟩
    | ok id =>
      rw [finishConnect_ok (not_not.mp he) (not_not.mp hs)]
      refine ⟨rfl, rfl, fun id' hid => ?_⟩
      obtain rfl : id = id' := by simpa [Turn.map] using hid
      exact ⟨rfl, fun hempty => h (congrArg _ hempty)⟩

end Session

theorem Connect.connects_resume (s : Session) (stage : Connect)
    (answer : (stage.request s.host).Answer) : s.Connects (stage.resume s answer) := by
  cases stage with
  | dialing e => cases answer with
    | ok _ => exact ⟨rfl, rfl, fun _ h => by cases h⟩
    | error cause => exact s.connects_finishConnect e (by simp)
  | greeting e => exact s.connects_finishConnect e (Request.accept_ne s.host answer)

/-- A section of an attempt to open a session, as one of a call of the host. -/
def Agent.connecting (a : Agent)
    (t : Turn Session (Progress Connect (Except SessionError String))) :
    ActivityTurn :=
  (t.within fun session => { a with session }).map (·.map .connect .ofOpened)

namespace Simulation

/-- The step of a host that opens a session, and waits for that no longer than some time. -/
def Step.connect (limit : Duration) : Step :=
  { command := .call (.session .connect) .never (.within limit) }

/-- How far the job has come with which the host opens a session. -/
structure Job.Opens (j : Job) (s : Session) : Prop where
  call : j.call = some (.operation .connect)
  isAborted : j.isAborted = false
  shutdown : j.shutdown = .never
  phase : match j.phase with
    | .fresh => True
    | .active activity => ∃ stage, activity = .connect stage
    | .ended answer => ∀ id, answer = .outcome (.opened id) → s.established? = some { id } ∧ id ≠ ""

namespace Course

/-- The host opens a session with the job of number `k`, alone; the course was `c` before. -/
structure Opens (c : Course) (k : Nat) (c' : Course) : Prop where
  alone : c'.Alone k
  front : c'.front = .calling k
  line : c'.line = []
  setting : c'.setting = c.setting
  heart : c'.core.heart = c.core.heart
  scheduler : c'.core.scheduler = c.core.scheduler
  params : c'.core.session.params = c.core.session.params
  now_round : c'.now.roundUp = c'.now
  job : ∃ j, c'.jobs k = some j ∧ j.Opens c'.core.session

end Course

variable {s : Simulation} {c : Course} {k : Nat} {j : Job} {limit : Option Instant}

/-- A job sends a request. -/
theorem exists_course_send (hj : s.jobs[k]? = some j) (r : Request) :
    ∃ awaited book calls,
      (s.send k r).course = { s.course.put k { j with awaited } with book, calls } := by
  rw [Simulation.send]
  dsimp only
  split_ifs
  · exact ⟨_, s.book, s.calls, course_modifyJob hj _⟩
  · let sent :=
      Flight.send s.now s.agent.session.params.rpcTimeout s.agent.session.address s.session
      s.book r
    exact ⟨_, sent.2.2, sent.2.1.toList ++ s.calls, course_modifyJob (s := { s with
      book := sent.2.2
      calls := sent.2.1.toList ++ s.calls }) hj _⟩

/-- The host waits for the next answer. -/
theorem exists_course_enter (hj : s.jobs[k]? = some j) (stage : Connect) :
    ∃ awaited book calls, (s.enter k (.connect stage)).course =
      { s.course.put k { j with phase := .active (.connect stage), awaited, pause := none } with
        book, calls } := by
  let f (j : Job) : Job :=
    { j with phase := .active (.connect stage), awaited := .nothing, pause := none }
  have hf : (s.modifyJob k f).jobs[k]? = some (f j) := by
    simp [modifyJob, Array.getElem?_modify, hj]
  obtain ⟨awaited, book, calls, h⟩ := exists_course_send hf (stage.request s.agent.session.host)
  refine ⟨awaited, book, calls, h.trans ?_⟩
  rw [course_modifyJob hj, Course.put_put]

namespace Course.Opens

/-- A section of the attempt. -/
theorem conclude (h : c.Opens k s.course) (hj : s.jobs[k]? = some j)
    (hopens : j.Opens s.agent.session)
    {t : Turn Session (Progress Connect (Except SessionError String))}
    (ht : s.agent.session.Connects t) :
    c.Opens k (s.conclude k j (s.agent.connecting t)).course := by
  let after : Simulation :=
    { s with agent := (s.agent.connecting t).state }.carryOut (some k) t.effects
  have hafter : after.course = { s.course with core := (s.agent.connecting t).state.core } :=
    course_act (t := s.agent.connecting t) h.alone ht.spawned_eq
  have hj' : after.jobs[k]? = some j := (congrFun (congrArg Course.jobs hafter) k).trans hj
  have halone : Course.Alone { s.course with core := (s.agent.connecting t).state.core } k :=
    ⟨h.alone.isHeld, h.alone.ended⟩
  cases hr : t.result with
  | waiting stage =>
    have henter : s.conclude k j (s.agent.connecting t) = after.enter k (.connect stage) := by
      simp only [Simulation.conclude, Agent.connecting, Turn.map, Turn.within, hr]
      rfl
    obtain ⟨awaited, book, calls, hcourse⟩ := exists_course_enter hj' stage
    have halone' := halone.put { j with phase := .active (.connect stage), awaited, pause := none }
    rw [henter, hcourse, hafter]
    exact
      { alone := ⟨halone'.isHeld, halone'.ended⟩
        front := h.front
        line := h.line
        setting := h.setting
        heart := h.heart
        scheduler := h.scheduler
        params := ht.params.trans h.params
        now_round := h.now_round
        job := ⟨_, put_jobs_self, hopens.call, hopens.isAborted, hopens.shutdown, stage, rfl⟩ }
  | done result =>
    have hfinish : s.conclude k j (s.agent.connecting t) =
        after.finish k (.outcome (.ofOpened result)) := by
      simp only [Simulation.conclude, Agent.connecting, Turn.map, Turn.within, hr, Progress.map,
        Job.answerOf, hopens.call]
      rfl
    have hheld : after.isHeld := (congrArg Course.isHeld hafter).trans h.alone.isHeld
    rw [hfinish, course_finish hj' hheld, hafter]
    refine
      { alone := halone.put _
        front := h.front
        line := h.line
        setting := h.setting
        heart := h.heart
        scheduler := h.scheduler
        params := ht.params.trans h.params
        now_round := h.now_round
        job := ⟨_, put_jobs_self, hopens.call, rfl, rfl, fun id hid => ?_⟩ }
    cases result with
    | error e => cases hid
    | ok id' =>
      obtain rfl : id' = id := by simpa [Outcome.ofOpened] using hid
      exact ht.opened id' hr

/-- The turn of the job. -/
theorem proceedWithin (h : c.Opens k s.course) (n : Nat) :
    c.Opens k (s.proceedWithin k n).course := by
  induction n generalizing s with
  | zero => exact h
  | succ n ih =>
    obtain ⟨j, hj, hopens⟩ := h.job
    have hj : s.jobs[k]? = some j := hj
    have hsignal : s.noteSignal j = s := by simp [noteSignal, hopens.shutdown]
    have hphase := hopens.phase
    cases hp : j.phase with
    | fresh =>
      have hturn : s.proceedWithin k (n + 1) =
          (s.conclude k j (s.agent.connecting s.agent.session.beginConnect)).proceedWithin k n := by
        simp only [Simulation.proceedWithin, hj, hopens.isAborted, hp, hopens.call]
        rfl
      rw [hturn]
      exact ih (h.conclude hj hopens s.agent.session.connects_beginConnect)
    | active activity =>
      rw [hp] at hphase
      obtain ⟨stage, rfl⟩ := hphase
      cases ha : (j.delivery s.now).reply (stage.request s.agent.session.host) with
      | none =>
        have hturn : s.proceedWithin k (n + 1) = s := by
          simp [Simulation.proceedWithin, hj, hopens.isAborted, hp, Agent.resume, ha]
        rwa [hturn]
      | some answer =>
        have hresume : s.agent.resume (j.delivery s.now) (.connect stage) =
            some (s.agent.connecting (stage.resume s.agent.session answer)) := by
          simp only [Agent.resume, ha]
          rfl
        have hturn : s.proceedWithin k (n + 1) =
            (s.conclude k j
              (s.agent.connecting (stage.resume s.agent.session answer))).proceedWithin k n := by
          simp only [Simulation.proceedWithin, hj, hopens.isAborted, hp, hresume, hsignal]
          rfl
        rw [hturn]
        exact ih (h.conclude hj hopens (stage.connects_resume s.agent.session answer))
    | ended answer =>
      have hturn : s.proceedWithin k (n + 1) = s := by
        simp [Simulation.proceedWithin, hj, hopens.isAborted, hp]
      rwa [hturn]

/-- The host is told to go on, or not. -/
theorem of_woken (h : c.Opens k s.course) (isWoken : Bool) :
    c.Opens k ({ s with frontWoken := isWoken } : Simulation).course := h

/-- The clock jumps. -/
theorem advanceTo (h : c.Opens k s.course) {time : Instant} (ht : s.nextTime? limit = some time) :
    c.Opens k (s.advanceTo time limit).course := by
  obtain ⟨j, hj, hopens⟩ := h.job
  obtain ⟨-, -, hround⟩ := nextTime?_bounds h.alone hj ht
  have hwake : ({ s with now := time }.wake k).course = { s.course with now := time } := by
    have hfront : ({ s with now := time } : Simulation).front = .calling k := h.front
    rw [wake, if_pos hfront]
    rfl
  rw [course_advanceTo h.alone hj, hwake, ite_self]
  exact { h with alone := ⟨h.alone.isHeld, h.alone.ended⟩, now_round := hround }

/-- The host waits for its call. -/
theorem attendWithin (h : c.Opens k s.course) (rounds : Nat) {answer : Answer} {s' : Simulation}
    (hs : attendWithin limit rounds s = (some answer, s')) :
    c.Opens k s'.course ∧ ∃ j, s'.jobs[k]? = some j ∧ j.answer? = some answer := by
  induction rounds generalizing s with
  | zero => cases hs
  | succ rounds ih =>
    by_cases hw : s.frontWoken
    · have hproceed : c.Opens k s.proceedFront.course := by
        rw [proceedFront_of_calling h.front]
        exact (h.of_woken false).proceedWithin patience
      have hanswer : s.proceedFront.frontAnswer? = s.proceedFront.jobs[k]?.bind (·.answer?) := by
        have hfront : s.proceedFront.front = .calling k := hproceed.front
        rw [frontAnswer?, hfront]
      rw [Simulation.attendWithin, if_pos hw] at hs
      cases ha : s.proceedFront.frontAnswer? with
      | none =>
        simp only [ha] at hs
        split_ifs at hs
        · cases hs
        · exact ih hproceed hs
      | some answer' =>
        simp only [ha, Prod.mk.injEq, Option.some.injEq] at hs
        obtain ⟨rfl, rfl⟩ := hs
        exact ⟨hproceed, Option.bind_eq_some_iff.mp (hanswer.symm.trans ha)⟩
    · by_cases hl : s.line = []
      · rw [attendWithin_of_nil rounds hw hl] at hs
        cases ht : s.nextTime? limit with
        | none =>
          rw [ht] at hs
          cases hs
        | some time =>
          rw [ht] at hs
          exact ih (h.advanceTo ht) hs
      · exact absurd h.line hl

end Course.Opens

/-! ### Rest -/

/-- Nothing goes on in a simulation in which a scheduler drives the session manager of a
configuration, with an interval of whole milliseconds: the host holds the scheduler, every call has
been finished, and so has every loop. -/
structure IsAtRest (s : Simulation) (c : AgentConfig) : Prop where
  valid : c.validate = .ok ()
  interval_round : Instant.roundUp c.interval.nanos = c.interval.nanos
  params : s.agent.session.params = c.sessionParams
  period : s.agent.scheduler.period = c.interval.longer Scheduler.shortestPeriod
  heart : s.agent.heart = .session
  setting : s.setting = .scheduler
  isHeld : s.isHeld
  now_round : s.now.roundUp = s.now
  front : s.front = .idle
  line : s.line = []
  calls : s.calls = []
  jobs : ∀ (k : Nat) (j : Job), s.jobs[k]? = some j → j.answer?.isSome
  loops : ∀ k, s.agent.scheduler.slot = some k →
    ∃ how, s.agent.scheduler.loops[k]? = some ⟨.ended how, true⟩

/-- A simulation at rest with an open session, which has a name and has sent the number that was
acknowledged last. -/
structure IsOpen (s : Simulation) (c : AgentConfig) (live : Live) : Prop extends s.IsAtRest c where
  established : s.agent.session.established? = some live
  named : live.id ≠ ""
  acked : ∀ a, live.lastAcked = some a → a < live.nextSequence

/-- A simulation of a scheduler begins at rest. -/
theorem isAtRest_ofScheduler (p : Premises) (h : p.config.validate = .ok ())
    (hround : Instant.roundUp p.config.interval.nanos = p.config.interval.nanos)
    (noticeCapacity : Nat) :
    (ofScheduler p p.config.sessionParams none noticeCapacity).IsAtRest p.config where
  valid := h
  interval_round := hround
  params := rfl
  period := rfl
  heart := rfl
  setting := rfl
  isHeld := rfl
  now_round := Instant.roundUp_eq_self_iff.mpr (Nat.dvd_zero _)
  front := rfl
  line := rfl
  calls := rfl
  jobs _ _ hj := by simp [ofScheduler, Premises.start] at hj
  loops _ hk := by cases hk

/-- When a host makes the call, the course is that of one who waits for a session to be opened. -/
theorem IsAtRest.opens_connect {config : AgentConfig} (h : s.IsAtRest config) :
    s.course.Opens s.jobs.size ({ s with
      jobs := s.jobs.push (.ofCall (.operation .connect) .never)
      front := .calling s.jobs.size
      frontWoken := true } : Simulation).course := by
  have hcourse := congrArg (fun c => { c with front := .calling s.jobs.size })
    (course_push s (.ofCall (.operation .connect) .never))
  refine (congrArg (s.course.Opens s.jobs.size) hcourse).mpr ?_
  exact
    { alone := ⟨h.isHeld, fun i j hj hi =>
        h.jobs i j ((Course.put_jobs_of_ne hi).symm.trans hj)⟩
      front := rfl
      line := h.line
      setting := rfl
      heart := rfl
      scheduler := rfl
      params := rfl
      now_round := h.now_round
      job := ⟨_, Course.put_jobs_self, rfl, rfl, rfl, trivial⟩ }

/-- A host that waits for its call opens a session. -/
theorem IsAtRest.isOpen_connect {config : AgentConfig} (h : s.IsAtRest config) {limit : Duration}
    {id : String} (ha : (s.step (.connect limit)).1.answer = .outcome (.opened id)) :
    (s.step (.connect limit)).2.IsOpen config { id } := by
  rcases hattend : ({ s with jobs := s.jobs.push (.ofCall (.operation .connect) .never) } :
    Simulation).attend (.calling s.jobs.size) (some (s.now.after limit)) with ⟨_ | answer, s'⟩
  · -- the host has given up
    have hpending := makeCall_within_of_none (c := .session .connect) hattend
    rw [step_of_settles (p := .connect limit) rfl (Prod.ext hpending rfl)] at ha
    cases ha
  · obtain ⟨t, ht, rfl⟩ := exists_attendWithin hattend
    obtain ⟨hopens, j, hj, hanswer⟩ := h.opens_connect.attendWithin patience ht
    have hstep := step_of_settles (p := .connect limit) rfl (makeCall_within hattend)
    rw [settle, settleWithin_of_nil (s := { t with front := .idle, frontWoken := false })
      hopens.line] at hstep
    rw [hstep] at ha ⊢
    obtain rfl : answer = .outcome (.opened id) := ha
    obtain ⟨j', hj', hjob⟩ := hopens.job
    obtain rfl : j' = j := Option.some.inj (hj'.symm.trans hj)
    have hphase : j'.phase = .ended (.outcome (.opened id)) := by
      cases hp : j'.phase <;> simp_all [Job.answer?]
    obtain ⟨hestablished, hnamed⟩ : t.agent.session.established? = some { id } ∧ id ≠ "" := by
      have hopened := hjob.phase
      rw [hphase] at hopened
      exact hopened id rfl
    exact
      { valid := h.valid
        interval_round := h.interval_round
        params := hopens.params.trans h.params
        period := (congrArg Scheduler.period hopens.scheduler).trans h.period
        heart := hopens.heart.trans h.heart
        setting := hopens.setting.trans h.setting
        isHeld := hopens.alone.isHeld
        now_round := hopens.now_round
        front := rfl
        line := hopens.line
        calls := rfl
        jobs := fun k j hk => by
          by_cases hi : k = s.jobs.size
          · subst hi
            rw [← Option.some.inj (hj.symm.trans hk), hanswer]
            rfl
          · exact hopens.alone.ended k j hk hi
        loops := fun k hk => by
          have hscheduler : t.agent.scheduler = s.agent.scheduler := hopens.scheduler
          change t.agent.scheduler.slot = some k at hk
          change ∃ how, t.agent.scheduler.loops[k]? = _
          rw [hscheduler] at hk ⊢
          exact h.loops k hk
        established := hestablished
        named := hnamed
        acked := by simp }

end Simulation

end FleetAgent
