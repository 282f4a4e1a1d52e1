import FleetAgent.Proofs.Agent.Core
import FleetAgent.Simulation.Host

/-!
# The course of a simulation

What decides how a simulation goes on is its *course*: the core of the agent, the script, the clock,
and the jobs with their line. What is on the bus and in the log follows the course and does not act
on it.

Here one job is *alone*: all others have ended, and the host only lets time pass. Then nobody is
woken but this job, and only by the clock.

## Main definitions

* `Simulation.Course`, `Simulation.course`: the course.
* `Simulation.Course.Alone`: a job is alone.

## Main results

* `Simulation.course_carryOut`: the effects of a section do not change the course.
* `Simulation.course_enter_tick`, `Simulation.course_enter_beat`, `Simulation.course_finish`: a
  heartbeat loop begins to wait, or has ended.
* `Simulation.proceedWithin_of_blocked`, `Simulation.proceedWithin_of_active`: a section of the job.
* `Simulation.course_advanceTo`: the clock jumps.
-/

namespace FleetAgent

/-! ### Whole milliseconds -/

namespace Instant

variable {t u : Instant}

theorem roundUp_eq_self_iff : t.roundUp = t ↔ 1000000 ∣ t := by
  unfold Instant roundUp at *
  omega

theorem le_roundUp (t : Instant) : t ≤ t.roundUp := by
  unfold Instant roundUp at *
  omega

theorem reached_of_lt (h : u < t.roundUp) : t.reached u = false := by
  rw [reached, decide_eq_false_iff_not]
  exact Nat.not_le_of_lt h

theorem reached_roundUp (t : Instant) : t.reached t.roundUp = true :=
  decide_eq_true (Nat.le_refl t.roundUp)

theorem roundUp_roundUp (t : Instant) : t.roundUp.roundUp = t.roundUp := by
  unfold Instant roundUp at *
  omega

theorem roundUp_le_iff (hu : u.roundUp = u) : t.roundUp ≤ u ↔ t ≤ u := by
  unfold Instant roundUp at *
  omega

theorem roundUp_add (ht : t.roundUp = t) (n : Nat) : roundUp (t + n) = t + roundUp n := by
  obtain ⟨q, rfl⟩ := roundUp_eq_self_iff.mp ht
  unfold Instant roundUp
  omega

end Instant

namespace Simulation

open Effect (spawned)

/-- What decides how a simulation goes on. -/
structure Course where
  /-- Which parts of the agent the host drives. -/
  setting : Setting
  /-- What decides about the session of the agent. -/
  core : Agent.Core
  /-- What the controller does. -/
  book : ScriptBook
  /-- The identifier of a session that the script does not name. -/
  session : String
  /-- Where the clock stands. -/
  now : Instant
  /-- The jobs, by their numbers. -/
  jobs : Nat → Option Job
  /-- The numbers of the jobs in line. -/
  line : List Nat
  /-- What the host is doing. -/
  front : Front
  /-- The calls to the controller since the last observation, the newest first. -/
  calls : List CallRecord
  /-- Whether the host still holds the agent, or the scheduler. -/
  isHeld : Bool

/-- The course of a simulation. -/
def course (s : Simulation) : Course :=
  { setting := s.setting
    core := s.agent.core
    book := s.book
    session := s.session
    now := s.now
    jobs := fun k => s.jobs[k]?
    line := s.line
    front := s.front
    calls := s.calls
    isHeld := s.isHeld }

namespace Course

/-- The course with another job of a number. -/
def put (c : Course) (k : Nat) (j : Job) : Course :=
  { c with jobs := Function.update c.jobs k (some j) }

/-- All jobs but one have ended, and the host holds the scheduler. -/
structure Alone (c : Course) (k : Nat) : Prop where
  isHeld : c.isHeld
  ended : ∀ i j, c.jobs i = some j → i ≠ k → j.answer?.isSome

variable {c : Course} {k : Nat} {j j' : Job}

@[simp]
theorem put_put : (c.put k j).put k j' = c.put k j' := by
  simp [put]

@[simp]
theorem put_jobs_self : (c.put k j).jobs k = some j := by
  simp [put]

theorem put_jobs_of_ne {i : Nat} (h : i ≠ k) : (c.put k j).jobs i = c.jobs i := by
  simp [put, h]

theorem Alone.put (h : c.Alone k) (j : Job) : (c.put k j).Alone k :=
  ⟨h.isHeld, fun i _ hj hi => h.ended i _ ((put_jobs_of_ne hi).symm.trans hj) hi⟩

end Course

variable {s : Simulation} {k : Nat} {j : Job}

theorem course_modifyJob (hj : s.jobs[k]? = some j) (f : Job → Job) :
    (s.modifyJob k f).course = s.course.put k (f j) := by
  simp only [modifyJob, course, Course.put, Course.mk.injEq, true_and, and_true]
  funext i
  rw [Array.getElem?_modify]
  by_cases hi : i = k
  · subst hi
    simp [hj]
  · simp [hi, Ne.symm hi]

/-! ### Waking -/

/-- A job that has ended listens to nothing. -/
theorem Job.listensTo_of_isSome (h : j.answer?.isSome) (signal : Signal) :
    j.listensTo signal = false := by
  cases hp : j.phase <;> simp_all [Job.answer?, Job.listensTo]

/-- Nothing happens any more to a job that has ended. -/
theorem Job.timers_of_isSome (h : j.answer?.isSome) (a : Agent) : j.timers a = [] := by
  cases hp : j.phase <;> simp_all [Job.answer?, Job.timers]

theorem wakeAll_eq (s : Simulation) (isMeant : Nat → Job → Bool) :
    s.wakeAll isMeant =
      (s.jobs.toList.zipIdx.filter fun p => isMeant p.2 p.1).foldl (fun s p => s.wake p.2) s :=
  rfl

theorem wakeAll_eq_self {isMeant : Nat → Job → Bool}
    (h : ∀ i j, s.jobs[i]? = some j → isMeant i j = false) : s.wakeAll isMeant = s := by
  have hnil : (s.jobs.toList.zipIdx.filter fun p => isMeant p.2 p.1) = [] := by
    rw [List.filter_eq_nil_iff]
    rintro ⟨j, i⟩ hmem
    have hj : s.jobs[i]? = some j := by simpa using List.mem_zipIdx_iff_getElem?.mp hmem
    simp [h i j hj]
  rw [wakeAll_eq, hnil, List.foldl_nil]

/-- A job that is in line is not put in line again. -/
theorem wake_wake (s : Simulation) (k : Nat) : (s.wake k).wake k = s.wake k := by
  by_cases hf : s.front = .calling k
  · simp [wake, hf]
  · cases hj : s.jobs[k]? with
    | none => simp [wake, hf, hj]
    | some j =>
      by_cases hq : j.isQueued || j.answer?.isSome
      · simp [wake, hf, hj, hq]
      · have hwoken : ({ s.modifyJob k ({ · with isQueued := true }) with line := s.line ++ [k] }
            : Simulation).jobs[k]? = some { j with isQueued := true } := by
          simp [modifyJob, Array.getElem?_modify, hj]
        have hwake : s.wake k =
            { s.modifyJob k ({ · with isQueued := true }) with line := s.line ++ [k] } := by
          simp only [wake, hf, hj, hq, ↓reduceIte, Bool.false_eq_true]
        rw [hwake, wake, if_neg (by exact hf), hwoken]
        rfl

/-- The only job that is meant is woken. -/
theorem wakeAll_eq_wake {isMeant : Nat → Job → Bool} (hj : s.jobs[k]? = some j) (hk : isMeant k j)
    (h : ∀ i j, s.jobs[i]? = some j → i ≠ k → isMeant i j = false) :
    s.wakeAll isMeant = s.wake k := by
  have hmem : (j, k) ∈ s.jobs.toList.zipIdx.filter fun p => isMeant p.2 p.1 := by
    refine List.mem_filter.mpr ⟨List.mem_zipIdx_iff_getElem?.mpr ?_, hk⟩
    simpa using hj
  have hall : ∀ p ∈ s.jobs.toList.zipIdx.filter fun p => isMeant p.2 p.1, p = (j, k) := by
    rintro ⟨j', i⟩ hmem
    obtain ⟨hget, hmeant⟩ := List.mem_filter.mp hmem
    have hget : s.jobs[i]? = some j' := by simpa using List.mem_zipIdx_iff_getElem?.mp hget
    have hi : i = k := by
      by_contra hi
      simp [h i j' hget hi] at hmeant
    subst hi
    rw [Option.some.inj (hget.symm.trans hj)]
  have hfold (n : Nat) (s : Simulation) :
      (List.replicate n (j, k)).foldl (fun s p => s.wake p.2) (s.wake k) = s.wake k := by
    induction n with
    | zero => rfl
    | succ n ih =>
      rwa [List.replicate_succ, List.foldl_cons, wake_wake]
  rw [wakeAll_eq, List.eq_replicate_of_mem hall]
  cases hn : (s.jobs.toList.zipIdx.filter fun p => isMeant p.2 p.1).length with
  | zero => simp [List.eq_nil_of_length_eq_zero hn] at hmem
  | succ n => exact hfold n s

/-- A job gets in line. -/
theorem course_wake (hf : s.front ≠ .calling k) (hj : s.jobs[k]? = some j)
    (hq : j.isQueued = false) (ha : j.answer? = none) :
    (s.wake k).course =
      { s.course.put k { j with isQueued := true } with line := s.line ++ [k] } := by
  simp only [wake, hf, hj, hq, ha, ↓reduceIte, Option.isSome_none, Bool.or_self, Bool.false_eq_true]
  exact congrArg (fun c => { c with line := s.line ++ [k] })
    (course_modifyJob hj ({ · with isQueued := true }))

/-- A new job has the next number, -/
theorem course_push (s : Simulation) (j : Job) :
    ({ s with jobs := s.jobs.push j } : Simulation).course = s.course.put s.jobs.size j := by
  simp only [course, Course.put, Course.mk.injEq, true_and, and_true]
  funext i
  rw [Array.getElem?_push]
  by_cases hi : i = s.jobs.size
  · simp [hi]
  · simp [hi]

/-- and gets in line. -/
theorem course_launch (hf : s.front ≠ .calling s.jobs.size) (hq : j.isQueued = false)
    (ha : j.answer? = none) :
    (s.launch j).course =
      { s.course.put s.jobs.size { j with isQueued := true } with
        line := s.line ++ [s.jobs.size] } := by
  have hj : ({ s with jobs := s.jobs.push j } : Simulation).jobs[s.jobs.size]? = some j := by simp
  rw [launch, course_wake (by exact hf) hj hq ha, course_push, Course.put_put]

/-! ### Effects -/

theorem course_carry (halone : s.course.Alone k) {e : Effect} (he : ∀ l, e ≠ .spawn l) :
    (s.carry (some k) e).course = s.course := by
  have hdeaf (signal : Signal) :
      s.wakeAll (fun i j => some i ≠ some k && j.listensTo signal) = s := by
    refine wakeAll_eq_self fun i j hj => ?_
    by_cases hi : i = k
    · simp [hi]
    · simp [j.listensTo_of_isSome (halone.ended i j hj hi)]
  cases e with
  | spawn l => exact absurd rfl (he l)
  | publish e => exact congrArg course (hdeaf .published)
  | signal signal => exact congrArg course (hdeaf signal)
  | log r | handled i n => rfl

/-- The effects of a section do not change the course. -/
theorem course_carryOut (halone : s.course.Alone k) {es : List Effect} (hes : spawned es = []) :
    (s.carryOut (some k) es).course = s.course := by
  have hfold : ∀ s : Simulation, s.course.Alone k →
      (es.foldl (·.carry (some k)) s).course = s.course := by
    induction es with
    | nil => exact fun _ _ => rfl
    | cons e es ih =>
      intro s halone
      have he : ∀ l, e ≠ .spawn l := by
        rintro l rfl
        simp at hes
      have htail : spawned es = [] := by
        cases e <;> simp_all
      have hcarry := course_carry halone he
      rw [List.foldl_cons, ih htail _ (hcarry ▸ halone), hcarry]
  have hperform : ({ s with agent := s.agent.perform es } : Simulation).course = s.course := by
    simp only [course, Agent.core_perform]
  rw [carryOut, hfold _ (hperform ▸ halone), hperform]

/-! ### Heartbeat loops -/

/-- The job of a heartbeat loop. -/
def Job.ofLoop (l : Nat) (beat : Option HeartBeat) (awaited : Awaited) (isQueued : Bool) : Job :=
  { phase := .active (.loop l beat), awaited, isQueued }

/-- The job of a heartbeat loop that has ended. -/
def Job.ofEnded (answer : Answer) : Job := { phase := .ended answer }

variable {l : Nat} {beat : Option HeartBeat} {awaited : Awaited} {isQueued : Bool}
  {t : ActivityTurn}

theorem course_enter_tick (hj : s.jobs[k]? = some (.ofLoop l beat awaited isQueued)) :
    (s.enter k (.loop l none)).course = s.course.put k (.ofLoop l none .nothing isQueued) :=
  course_modifyJob hj _

/-- The call of a heartbeat, under way. -/
def Flight.ofBeat (b : Beat) (e : Entry) (session : String) (now : Instant) (limit : Duration) :
    Flight :=
  ⟨b.request, e.answer session b.request, e.readyAt now, now.after limit, limit⟩

/-- The note of the call of a heartbeat. -/
def CallRecord.ofBeat (b : Beat) (now : Instant) : CallRecord :=
  ⟨now, .heartbeat, [.text b.session, .number b.sequence]⟩

theorem Flight.send_heartbeat {b : Beat} (hb : b.session ≠ "") (now : Instant) (limit : Duration)
    (address session : String) (book : ScriptBook) :
    send now limit address session book b.request =
      (.ofBeat b (book.next .heartbeat).1 session now limit, some (.ofBeat b now),
        (book.next .heartbeat).2) := by
  have hsend : b.request.refusal = none := by
    simp [Request.refusal, Request.session?, hb]
  simp only [send, hsend]
  rfl

/-- The course once a job has sent a heartbeat and waits for the answer. -/
def Course.send (c : Course) (k : Nat) (j : Job) (b : Beat) : Course :=
  let limit := c.core.session.params.rpcTimeout
  let flight := Flight.ofBeat b (c.book.next .heartbeat).1 c.session c.now limit
  { c.put k { j with awaited := .answer flight } with
    book := (c.book.next .heartbeat).2
    calls := .ofBeat b c.now :: c.calls }

theorem course_send {b : Beat} (hj : s.jobs[k]? = some j) (hb : b.session ≠ "") :
    (s.send k b.request).course = s.course.send k j b := by
  have hdial : ¬ (b.request = .dial ∧ (!s.isReachable) = true) := by
    rintro ⟨h, -⟩
    nomatch h
  rw [Simulation.send, if_neg hdial]
  simp only [Flight.send_heartbeat hb]
  exact course_modifyJob (s := { s with
    book := (s.book.next .heartbeat).2
    calls := .ofBeat b s.now :: s.calls }) hj _

/-- A loop whose heart has begun to beat waits for the answer of the controller. -/
theorem course_enter_beat {b : Beat} (hj : s.jobs[k]? = some (.ofLoop l beat awaited isQueued))
    (hb : b.session ≠ "") :
    (s.enter k (.loop l (some (.session b)))).course =
      s.course.send k (.ofLoop l (some (.session b)) .nothing isQueued) b := by
  let f (j : Job) : Job :=
    { j with phase := .active (.loop l (some (.session b))), awaited := .nothing, pause := none }
  have hf : (s.modifyJob k f).jobs[k]? = some (f (.ofLoop l beat awaited isQueued)) := by
    simp [modifyJob, Array.getElem?_modify, hj]
  refine (course_send hf hb).trans ?_
  rw [course_modifyJob hj, Course.send, Course.put_put]
  rfl

/-- The end of a job while the host holds the scheduler. -/
theorem course_finish (hj : s.jobs[k]? = some j) (hheld : s.isHeld) (answer : Answer) :
    (s.finish k answer).course = s.course.put k { call := j.call, phase := .ended answer } := by
  have h : (s.finish k answer).course =
      (s.modifyJob k fun j => { call := j.call, phase := .ended answer }).course := by
    simp [finish, releaseIfLast, modifyJob, hheld, course]
  rw [h, course_modifyJob hj]

/-! ### Sections of a loop -/

/-- The section of the loop has come to an end; what it leaves behind is still to be taken up. -/
theorem course_act (halone : s.course.Alone k) (hes : spawned t.effects = []) :
    ({ s with agent := t.state }.carryOut (some k) t.effects).course =
      { s.course with core := t.state.core } :=
  course_carryOut (s := { s with agent := t.state }) ⟨halone.isHeld, halone.ended⟩ hes

section Conclude

variable (halone : s.course.Alone k) (hes : spawned t.effects = [])
  (hj : s.jobs[k]? = some (.ofLoop l beat awaited isQueued))

include halone hes hj

theorem getElem?_act :
    ({ s with agent := t.state }.carryOut (some k) t.effects).jobs[k]? =
      some (.ofLoop l beat awaited isQueued) :=
  (congrFun (congrArg Course.jobs (course_act halone hes)) k).trans hj

/-- The loop waits for its next tick. -/
theorem course_conclude_tick (ht : t.result.stage? = some (.loop l none)) (j : Job) :
    (s.conclude k j t).course =
      { s.course with core := t.state.core }.put k (.ofLoop l none .nothing isQueued) := by
  obtain ⟨state, effects, result⟩ := t
  cases result with
  | done o => simp at ht
  | waiting activity =>
    obtain rfl := Option.some.inj ht
    exact (course_enter_tick (getElem?_act halone hes hj)).trans (by rw [course_act halone hes])

/-- The heart of the loop has begun to beat. -/
theorem course_conclude_beat {b : Beat} (hb : b.session ≠ "")
    (ht : t.result.stage? = some (.loop l (some (.session b)))) (j : Job) :
    (s.conclude k j t).course =
      Course.send { s.course with core := t.state.core } k
        (.ofLoop l (some (.session b)) .nothing isQueued) b := by
  obtain ⟨state, effects, result⟩ := t
  cases result with
  | done o => simp at ht
  | waiting activity =>
    obtain rfl := Option.some.inj ht
    exact (course_enter_beat (getElem?_act halone hes hj) hb).trans (by rw [course_act halone hes])

/-- The loop has ended. -/
theorem course_conclude_end (ht : t.result.stage? = none) (j : Job) :
    ∃ answer, (s.conclude k j t).course =
      { s.course with core := t.state.core }.put k (.ofEnded answer) := by
  obtain ⟨state, effects, result⟩ := t
  cases result with
  | waiting activity => simp at ht
  | done o =>
    have hcourse := course_act (t := ⟨state, effects, .done o⟩) halone hes
    have hheld := (congrArg Course.isHeld hcourse).trans halone.isHeld
    exact ⟨_, (course_finish (getElem?_act halone hes hj) hheld _).trans (by rw [hcourse]; rfl)⟩

end Conclude

/-- A loop that has nothing to do waits. -/
theorem proceedWithin_of_blocked (hj : s.jobs[k]? = some (.ofLoop l beat awaited isQueued))
    (h : s.agent.resume ((Job.ofLoop l beat awaited isQueued).delivery s.now) (.loop l beat) = none)
    (n : Nat) : s.proceedWithin k n = s := by
  cases n with
  | zero => rfl
  | succ n =>
    have haborted : (Job.ofLoop l beat awaited isQueued).isAborted = false := rfl
    have hphase : (Job.ofLoop l beat awaited isQueued).phase = .active (.loop l beat) := rfl
    simp only [proceedWithin, hj, haborted, hphase, h, Bool.false_eq_true, ↓reduceIte]

theorem proceedWithin_of_active (hj : s.jobs[k]? = some (.ofLoop l beat awaited isQueued))
    (h : s.agent.resume ((Job.ofLoop l beat awaited isQueued).delivery s.now) (.loop l beat) =
      some t) (n : Nat) :
    s.proceedWithin k (n + 1) =
      (s.conclude k (.ofLoop l beat awaited isQueued) t).proceedWithin k n := by
  have haborted : (Job.ofLoop l beat awaited isQueued).isAborted = false := rfl
  have hphase : (Job.ofLoop l beat awaited isQueued).phase = .active (.loop l beat) := rfl
  have hsignal : s.noteSignal (.ofLoop l beat awaited isQueued) = s := rfl
  simp only [proceedWithin, hj, haborted, hphase, h, hsignal, Bool.false_eq_true, ↓reduceIte]

theorem proceedWithin_of_ended {answer : Answer} (hj : s.jobs[k]? = some (.ofEnded answer))
    (n : Nat) :
    s.proceedWithin k n = s := by
  cases n with
  | zero => rfl
  | succ n => simp [proceedWithin, hj, Job.ofEnded]

/-! ### The clock -/

/-- When something happens to a job next, after `now`. -/
def Job.event? (j : Job) (a : Agent) (now : Instant) : Option Instant :=
  (((j.timers a).map Instant.roundUp).filter (now < ·)).min?

theorem Job.event?_eq_some_iff {a : Agent} {now e : Instant} :
    j.event? a now = some e ↔ now < e ∧ (∃ t ∈ j.timers a, t.roundUp = e) ∧
      ∀ t ∈ j.timers a, now < t.roundUp → e ≤ t.roundUp := by
  rw [Job.event?, List.min?_eq_some_iff]
  simp only [List.mem_filter, List.mem_map, decide_eq_true_eq, and_imp, forall_exists_index,
    forall_apply_eq_imp_iff₂]
  tauto

theorem mem_timers_iff (halone : s.course.Alone k) (hj : s.jobs[k]? = some j) {t : Instant} :
    t ∈ s.jobs.toList.flatMap (·.timers s.agent) ↔ t ∈ j.timers s.agent := by
  simp only [List.mem_flatMap, Array.mem_toList_iff]
  constructor
  · rintro ⟨j', hmem, ht⟩
    obtain ⟨i, hi⟩ := Array.getElem?_of_mem hmem
    by_cases hk : i = k
    · subst hk
      rwa [Option.some.inj (hj.symm.trans hi)]
    · simp [j'.timers_of_isSome (halone.ended i j' hi hk)] at ht
  · exact fun ht => ⟨j, Array.mem_of_getElem? hj, ht⟩

variable {limit : Option Instant} {time : Instant}

/-- The clock jumps at least beyond its place, and at most to the next event of the job. -/
theorem nextTime?_bounds (halone : s.course.Alone k) (hj : s.jobs[k]? = some j)
    (ht : s.nextTime? limit = some time) :
    s.now < time ∧ (∀ t ∈ j.timers s.agent, s.now < t.roundUp → time ≤ t.roundUp) ∧
      time.roundUp = time := by
  rw [nextTime?, List.min?_eq_some_iff] at ht
  simp only [List.mem_filter, List.mem_map, List.mem_append, mem_timers_iff halone hj,
    decide_eq_true_eq, and_imp, forall_exists_index, forall_apply_eq_imp_iff₂] at ht
  obtain ⟨⟨⟨t, -, rfl⟩, hlt⟩, hmin⟩ := ht
  exact ⟨hlt, fun t hmem => hmin t (.inr hmem), t.roundUp_roundUp⟩

/-- The clock jumps, and the job is woken if something happens to it then. -/
theorem course_advanceTo (halone : s.course.Alone k) (hj : s.jobs[k]? = some j) :
    (s.advanceTo time limit).course =
      if ∃ t ∈ j.timers s.agent, t.roundUp = time then ({ s with now := time }.wake k).course
      else { s.course with now := time } := by
  let later : Simulation := { s with now := time }
  have hcourse : (s.advanceTo time limit).course =
      (later.wakeAll fun _ j => (j.timers s.agent).any fun t => t.roundUp = time).course := by
    rw [advanceTo]
    split_ifs <;> rfl
  have hdeaf : ∀ i j', later.jobs[i]? = some j' → i ≠ k →
      ((j'.timers s.agent).any fun t => t.roundUp = time) = false := fun i j' hi hk => by
    simp [j'.timers_of_isSome (halone.ended i j' hi hk)]
  rw [hcourse]
  split_ifs with he
  · have hjob : ((j.timers s.agent).any fun t => t.roundUp = time) = true := by simpa using he
    rw [wakeAll_eq_wake (s := later) hj hjob hdeaf]
  · have hjob : ((j.timers s.agent).any fun t => t.roundUp = time) = false := by simpa using he
    rw [wakeAll_eq_self (s := later) fun i j' hi => ?_]
    · rfl
    · by_cases hk : i = k
      · subst hk
        rwa [← Option.some.inj (hj.symm.trans hi)]
      · exact hdeaf i j' hi hk

/-- At its next event a job that is not the call of the host gets in line. -/
theorem course_advanceTo_event (halone : s.course.Alone k) (hf : s.front ≠ .calling k)
    (hj : s.jobs[k]? = some j) (hq : j.isQueued = false) (ht : s.nextTime? limit = some time) :
    s.now < time ∧ (∀ e, j.event? s.agent s.now = some e → time ≤ e) ∧
      (s.advanceTo time limit).course =
        if j.event? s.agent s.now = some time then
          { s.course.put k { j with isQueued := true } with now := time, line := s.line ++ [k] }
        else { s.course with now := time } := by
  obtain ⟨hlt, hmin, -⟩ := nextTime?_bounds halone hj ht
  refine ⟨hlt, fun e he => ?_, ?_⟩
  · obtain ⟨hnow, ⟨t, hmem, rfl⟩, -⟩ := Job.event?_eq_some_iff.mp he
    exact hmin t hmem hnow
  · have hevent :
        (∃ t ∈ j.timers s.agent, t.roundUp = time) ↔ j.event? s.agent s.now = some time := by
      rw [Job.event?_eq_some_iff]
      exact ⟨fun h => ⟨hlt, h, hmin⟩, fun h => h.2.1⟩
    rw [course_advanceTo halone hj, if_congr hevent rfl rfl]
    split_ifs with he
    · have ha : j.answer? = none := by
        by_contra ha
        obtain ⟨-, ⟨t, hmem, -⟩, -⟩ := Job.event?_eq_some_iff.mp he
        simp [j.timers_of_isSome (Option.isSome_iff_ne_none.mpr ha)] at hmem
      rw [course_wake (s := { s with now := time }) hf hj hq ha]
      rfl
    · rfl

end Simulation

end FleetAgent
