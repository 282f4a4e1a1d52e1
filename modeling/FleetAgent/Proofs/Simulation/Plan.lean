import FleetAgent.Proofs.Scheduler.Senders
import FleetAgent.Proofs.Simulation.Course
import FleetAgent.Simulation.Caller
import Mathlib.Algebra.Order.Ring.Nat
import Mathlib.Order.Monotone.Basic

/-!
# The heartbeats that a script leads to

A loop that lets the heart of a session beat, and that nobody disturbs, sends its heartbeats at the
ticks of its period. Which they are, when each is over and what it makes of the session can be told
in advance from the script: this is its *plan*. A call is over no later than the time limit allows,
which is no longer than the period, so a heartbeat is over before the next one or just then.

## Main definitions

* `ScriptBook.entry`, `Entry.IsLate`: the entry for a call, and whether it answers too late.
* `Plan`: the plan, with `Plan.tick`, `Plan.flight`, `Plan.overAt`, `Plan.managerAt` and
  `Plan.outcome`.
* `Plan.Going`: the loop outlives a number of heartbeats.

## Main results

* `Flight.reply?_of_lt`, `Flight.reply?_await`: a call is over when its awaited answer says.
* `Plan.tick_le_overAt`, `Plan.overAt_le_tick`: a heartbeat is over within its period.
* `Plan.Going.stands`: as long as the loop goes on, the session stands open.
* `Plan.going_of_late`, `Plan.closed_of_late`: heartbeats that are not answered.
-/

namespace FleetAgent

/-! ### One heartbeat after the other -/

namespace Session

variable {s : Session} {live : Live}

/-- A heartbeat whose answer comes before anything else happens. -/
def beatOnce (s : Session) (live : Live) (now : Instant)
    (answer : Except ClientError HeartbeatReply) : Turn Session (Except SessionError BeatOutcome) :=
  s.beginBeat.state.finishBeat now ⟨s.epoch, live.id, live.nextSequence⟩ answer

/-- What a heartbeat that does not end the session leaves behind: it was acknowledged or has
failed. -/
structure Outlives (s : Session) (live : Live) (s' : Session) (live' : Live) : Prop where
  established : s'.established? = some live'
  epoch : s'.epoch = s.epoch
  params : s'.params = s.params
  id : live'.id = live.id
  sequence : live'.nextSequence = live.nextSequence + 1
  counted : live'.lastAcked = some live.nextSequence ∧ live'.failures = 0 ∨
    live'.lastAcked = live.lastAcked ∧ live'.failures = live.failures + 1

variable (h : s.established? = some live)

include h

theorem beatOnce_eq (now : Instant) (answer : Except ClientError HeartbeatReply) :
    s.beatOnce live now answer =
      { s with live := some { live with nextSequence := live.nextSequence + 1 } }.apply now
        live.nextSequence answer := by
  rw [beatOnce, beginBeat_of_established h]
  exact finishBeat_of_current (s := { s with live := some { live with
    nextSequence := live.nextSequence + 1 } }) (b := ⟨s.epoch, live.id, live.nextSequence⟩) rfl
    (established?_eq_some_iff.mp h).1 now answer

/-- The heartbeat has failed, and the session stands it. -/
theorem outlives_of_miss {e : ClientError} (hf : live.failures + 1 < s.params.loseAfter) :
    let begun := { live with nextSequence := live.nextSequence + 1 }
    let t := { s with live := some begun }.miss begun live.nextSequence e
    Termination.of? t.result = none ∧
      s.Outlives live t.state { begun with failures := live.failures + 1 } := by
  intro begun t
  have hopen : t.state.state.isEstablished :=
    isEstablished_miss (s := { s with live := some begun }) (established?_eq_some_iff.mp h).1 hf
  have ht : t.result = .ok (.missed live.nextSequence (live.failures + 1)) ∧
      t.state.live = some { begun with failures := live.failures + 1 } ∧
      t.state.epoch = s.epoch ∧ t.state.params = s.params := by
    have hf' : ¬ s.params.loseAfter ≤ begun.failures + 1 := Nat.not_le_of_lt hf
    simp [t, begun, miss, hf']
  obtain ⟨hresult, hlive, hepoch, hparams⟩ := ht
  refine ⟨by rw [hresult]; rfl, ?_⟩
  exact ⟨established?_eq_some_iff.mpr ⟨hopen, hlive⟩, hepoch, hparams, rfl, rfl, .inr ⟨rfl, rfl⟩⟩

/-- A heartbeat with which its loop goes on leaves the session open. -/
theorem outlives_of_beatOnce {now : Instant} {answer : Except ClientError HeartbeatReply}
    (ho : Termination.of? (s.beatOnce live now answer).result = none) :
    ∃ live', s.Outlives live (s.beatOnce live now answer).state live' := by
  obtain ⟨hopen, -⟩ := established?_eq_some_iff.mp h
  rw [beatOnce_eq h] at ho ⊢
  have hv := verdict_apply (s := { s with live := some { live with
    nextSequence := live.nextSequence + 1 } }) rfl now live.nextSequence answer
  generalize answer.bind _ = checked at hv
  generalize apply _ now _ answer = t at hv ho ⊢
  cases hv with
  | acked reply =>
    exact ⟨_, established?_eq_some_iff.mpr ⟨isEstablished_acknowledge hopen, rfl⟩, rfl, rfl, rfl,
      rfl, .inl ⟨rfl, rfl⟩⟩
  | missed e _ hf => exact ⟨_, (outlives_of_miss h hf).2⟩
  | worn | rejected | unrelated => cases ho

/-- A failure that may pass by itself, and is not one too many. -/
theorem outlives_of_error (now : Instant) {e : ClientError} (he : e.isTransient)
    (hf : live.failures + 1 < s.params.loseAfter) :
    Termination.of? (s.beatOnce live now (.error e)).result = none ∧
      ∃ live', s.Outlives live (s.beatOnce live now (.error e)).state live' ∧
        live'.failures = live.failures + 1 := by
  obtain ⟨ho, hlive⟩ := outlives_of_miss (e := e) h hf
  rw [beatOnce_eq h]
  simp only [apply, Except.bind, he, ↓reduceIte]
  exact ⟨ho, _, hlive, rfl⟩

/-- With one failure too many the session is given up. -/
theorem closed_of_error {now : Instant} {e : ClientError} (he : e.isTransient)
    (hf : s.params.loseAfter ≤ live.failures + 1) :
    (s.beatOnce live now (.error e)).state.state = .closed ∧
      ∃ cause, (s.beatOnce live now (.error e)).result = .error cause := by
  rw [beatOnce_eq h]
  simp only [apply, Except.bind, he, ↓reduceIte]
  rw [miss_of_le (by exact hf)]
  exact ⟨rfl, _, rfl⟩

end Session

namespace Simulation

/-! ### Calls -/

namespace ScriptBook

/-- The book after a number of calls of a procedure. -/
def after (b : ScriptBook) (p : Procedure) : (calls : Nat) → ScriptBook
  | 0 => b
  | n + 1 => ((b.after p n).next p).2

/-- The entry for a call of a procedure, after a number of others. -/
def entry (b : ScriptBook) (p : Procedure) (calls : Nat) : Entry := ((b.after p calls).next p).1

end ScriptBook

/-- Whether a call is given up before its answer comes, if it comes at all: the whole millisecond at
which its time limit is met comes first. -/
def Entry.IsLate (e : Entry) (limit : Duration) : Prop :=
  e.hangs ∨ Instant.roundUp limit.nanos < Instant.roundUp e.delay.nanos

namespace Flight

variable {f : Flight} {now : Instant}

theorem await_of_readyAt {time : Instant} (h : f.readyAt = some time) :
    f.await =
      if time.roundUp ≤ f.deadline.roundUp then (f.answer, time.roundUp)
      else (.error (.timedOut f.limit), f.deadline.roundUp) := by
  simp only [await, h]

theorem await_of_hangs (h : f.readyAt = none) :
    f.await = (.error (.timedOut f.limit), f.deadline.roundUp) := by
  simp only [await, h]

/-- A call is over at a time at which something happens to it. -/
theorem await_mem_timers (f : Flight) : ∃ t ∈ f.timers, t.roundUp = f.await.2 := by
  cases h : f.readyAt with
  | none => exact ⟨f.deadline, by simp [timers], by simp [await_of_hangs h]⟩
  | some time =>
    by_cases ht : time.roundUp ≤ f.deadline.roundUp
    · exact ⟨time, by simp [timers, h], by simp [await_of_readyAt h, ht]⟩
    · exact ⟨f.deadline, by simp [timers], by simp [await_of_readyAt h, ht]⟩

/-- Nothing happens to a call before it is over. -/
theorem await_le {t : Instant} (ht : t ∈ f.timers) : f.await.2 ≤ t.roundUp := by
  rw [timers, List.mem_cons, Option.mem_toList] at ht
  cases h : f.readyAt with
  | none =>
    obtain rfl | ht := ht
    · simp [await_of_hangs h]
    · simp [h] at ht
  | some time =>
    rw [await_of_readyAt h]
    obtain rfl | ht := ht
    · split_ifs with hle
      · simpa using hle
      · simp
    · obtain rfl := Option.some.inj (h.symm.trans ht)
      split_ifs with hle
      · simp
      · simpa using Nat.le_of_not_le hle

/-- There is no answer before the call is over. -/
theorem reply?_of_lt (h : now < f.await.2) : f.reply? now = none := by
  have hlate : ∀ t ∈ f.timers, t.reached now = false := fun t ht =>
    Instant.reached_of_lt (Nat.lt_of_lt_of_le h (await_le ht))
  have hready : f.readyAt.any (·.reached now) = false := by
    cases hr : f.readyAt with
    | none => rfl
    | some time =>
      rw [Option.any_some]
      exact hlate time (by simp [timers, hr])
  have hdeadline := hlate f.deadline (by simp [timers])
  simp only [reply?, hready, hdeadline, Bool.false_eq_true, ↓reduceIte]

/-- When the call is over, its answer is the one that is waited for. -/
theorem reply?_await (f : Flight) : f.reply? f.await.2 = some f.await.1 := by
  have hdeadline := f.deadline.reached_roundUp
  cases h : f.readyAt with
  | none =>
    rw [await_of_hangs h, reply?, h, Option.any_none, if_neg Bool.false_ne_true, if_pos hdeadline]
  | some time =>
    rw [await_of_readyAt h]
    by_cases ht : time.roundUp ≤ f.deadline.roundUp
    · rw [if_pos ht, reply?, h, Option.any_some, if_pos time.reached_roundUp]
    · have hlate := Instant.reached_of_lt (Nat.lt_of_not_le ht)
      rw [if_neg ht, reply?, h, Option.any_some, hlate, if_neg Bool.false_ne_true, if_pos hdeadline]

end Flight

/-! ### Plans -/

/-- What decides about the heartbeats of a loop that nobody disturbs. -/
structure Plan where
  /-- When the first heartbeat is sent. -/
  first : Instant
  /-- The time between two heartbeats. -/
  period : Duration
  /-- The identifier of a session that the script does not name. -/
  session : String
  /-- What the controller does. -/
  book : ScriptBook
  /-- The session manager before the first heartbeat. -/
  manager : Session
  /-- The session, which is open. -/
  live : Live
  established : manager.established? = some live
  named : live.id ≠ ""
  first_round : first.roundUp = first
  period_round : Instant.roundUp period.nanos = period.nanos
  period_pos : 0 < period.nanos
  limit_pos : 0 < manager.params.rpcTimeout.nanos
  limit_le : manager.params.rpcTimeout.nanos ≤ period.nanos

namespace Plan

variable (p : Plan) (n : Nat)

/-- The time limit of a call. -/
def limit : Duration := p.manager.params.rpcTimeout

/-- When a heartbeat is sent. -/
def tick : Instant := p.first + n * p.period.nanos

/-- A heartbeat, by its number in the loop. -/
def beat : Beat := ⟨p.manager.epoch, p.live.id, p.live.nextSequence + n⟩

/-- The entry of the script for a heartbeat. -/
def entry : Entry := p.book.entry .heartbeat n

/-- The call of a heartbeat. -/
def flight : Flight := .ofBeat (p.beat n) (p.entry n) p.session (p.tick n) p.limit

/-- When the call is over. -/
def overAt : Instant := (p.flight n).await.2

/-- The answer for which the call is waited. -/
def answer : Except ClientError HeartbeatReply := (p.flight n).await.1

/-- The session manager after a number of heartbeats. -/
def managerAt : (n : Nat) → Session
  | 0 => p.manager
  | n + 1 => ((managerAt n).beginBeat.state.finishBeat (p.overAt n) (p.beat n) (p.answer n)).state

/-- The outcome of a heartbeat. -/
def outcome : Except SessionError BeatOutcome :=
  ((p.managerAt n).beginBeat.state.finishBeat (p.overAt n) (p.beat n) (p.answer n)).result

/-- The note of the call of a heartbeat. -/
def record : CallRecord := .ofBeat (p.beat n) (p.tick n)

/-- The loop goes on after each of its first `n` heartbeats. -/
def Going : Prop := ∀ i < n, Termination.of? (p.outcome i) = none

variable {p n}

/-! ### The times -/

theorem tick_succ : p.tick (n + 1) = p.tick n + p.period.nanos := by
  rw [tick, tick, Nat.succ_mul, Nat.add_assoc]

theorem tick_round : (p.tick n).roundUp = p.tick n :=
  Instant.roundUp_eq_self_iff.mpr <| Nat.dvd_add (Instant.roundUp_eq_self_iff.mp p.first_round)
    (Nat.dvd_mul_left_of_dvd (Instant.roundUp_eq_self_iff.mp p.period_round) n)

theorem tick_lt_succ : p.tick n < p.tick (n + 1) := by
  rw [tick_succ]
  exact Nat.lt_add_of_pos_right p.period_pos

theorem strictMono_tick : StrictMono p.tick := strictMono_nat_of_lt_succ fun _ => tick_lt_succ

/-- A heartbeat is over when it is sent, or later, -/
theorem tick_le_overAt : p.tick n ≤ p.overAt n := by
  obtain ⟨t, hmem, ht⟩ := (p.flight n).await_mem_timers
  have hle : p.tick n ≤ t := by
    simp only [flight, Flight.ofBeat, Flight.timers, Entry.readyAt, List.mem_cons,
      Option.mem_toList] at hmem
    rcases hmem with rfl | hmem
    · exact Nat.le_add_right ..
    · split_ifs at hmem
      obtain rfl := Option.some.inj hmem
      exact Nat.le_add_right ..
  exact hle.trans (t.le_roundUp.trans_eq ht)

/-- but not later than the next one is sent. -/
theorem overAt_le_tick : p.overAt n ≤ p.tick (n + 1) := by
  have hdeadline : (p.tick n).after p.limit ≤ p.tick (n + 1) := by
    rw [tick_succ]
    exact Nat.add_le_add_left p.limit_le _
  have hmem : (p.tick n).after p.limit ∈ (p.flight n).timers := List.mem_cons_self
  exact (Flight.await_le hmem).trans ((Instant.roundUp_le_iff tick_round).mpr hdeadline)

theorem monotone_overAt : Monotone p.overAt :=
  monotone_nat_of_le_succ fun _ => overAt_le_tick.trans tick_le_overAt

/-- A heartbeat whose answer comes too late is over when its time limit is met. -/
theorem overAt_of_isLate (h : (p.entry n).IsLate p.limit) :
    p.overAt n = p.tick n + Instant.roundUp p.limit.nanos ∧
      p.answer n = .error (.timedOut p.limit) := by
  have hdeadline : Instant.roundUp ((p.tick n).after p.limit) =
      p.tick n + Instant.roundUp p.limit.nanos := Instant.roundUp_add tick_round _
  have hawait : (p.flight n).await =
      (.error (.timedOut p.limit), p.tick n + Instant.roundUp p.limit.nanos) := by
    rw [← hdeadline]
    by_cases hangs : (p.entry n).hangs
    · exact Flight.await_of_hangs (by simp [flight, Flight.ofBeat, Entry.readyAt, hangs])
    · have hready : (p.flight n).readyAt = some ((p.tick n).after (p.entry n).delay) := by
        simp [flight, Flight.ofBeat, Entry.readyAt, hangs]
      rw [Flight.await_of_readyAt hready, if_neg]
      · rfl
      · have hdelay : Instant.roundUp ((p.tick n).after (p.entry n).delay) =
            p.tick n + Instant.roundUp (p.entry n).delay.nanos := Instant.roundUp_add tick_round _
        rw [hdelay, show (p.flight n).deadline = (p.tick n).after p.limit from rfl, hdeadline]
        exact Nat.not_le_of_lt (Nat.add_lt_add_left (h.resolve_left hangs) _)
  exact ⟨congrArg Prod.snd hawait, congrArg Prod.fst hawait⟩

/-! ### What the heartbeats make of the session -/

/-- The session after a number of heartbeats is still the one with which the loop began. -/
structure Stands (p : Plan) (n : Nat) (live : Live) : Prop where
  established : (p.managerAt n).established? = some live
  epoch : (p.managerAt n).epoch = p.manager.epoch
  params : (p.managerAt n).params = p.manager.params
  id : live.id = p.live.id
  sequence : live.nextSequence = p.live.nextSequence + n

theorem stands_zero : p.Stands 0 p.live := ⟨p.established, rfl, rfl, rfl, rfl⟩

namespace Stands

variable {live live' : Live} (h : p.Stands n live)

include h

theorem beat_eq : p.beat n = ⟨(p.managerAt n).epoch, live.id, live.nextSequence⟩ := by
  rw [beat, h.epoch, h.id, h.sequence]

theorem beginBeat_eq :
    (p.managerAt n).beginBeat =
      { state := { p.managerAt n with
          live := some { live with nextSequence := live.nextSequence + 1 } }
        result := .waiting (p.beat n) } := by
  rw [Session.beginBeat_of_established h.established, h.beat_eq]

/-- The heartbeat is the only thing that happens to the session. -/
theorem finishBeat_eq :
    (p.managerAt n).beginBeat.state.finishBeat (p.overAt n) (p.beat n) (p.answer n) =
      (p.managerAt n).beatOnce live (p.overAt n) (p.answer n) := by
  rw [Session.beatOnce, h.beat_eq]

theorem managerAt_succ :
    p.managerAt (n + 1) = ((p.managerAt n).beatOnce live (p.overAt n) (p.answer n)).state :=
  congrArg Turn.state h.finishBeat_eq

theorem outcome_eq :
    p.outcome n = ((p.managerAt n).beatOnce live (p.overAt n) (p.answer n)).result :=
  congrArg Turn.result h.finishBeat_eq

theorem succ (hlive : (p.managerAt n).Outlives live (p.managerAt (n + 1)) live') :
    p.Stands (n + 1) live' :=
  ⟨hlive.established, hlive.epoch.trans h.epoch, hlive.params.trans h.params, hlive.id.trans h.id,
    by rw [hlive.sequence, h.sequence]; rfl⟩

/-- A heartbeat with which the loop goes on leaves the session open. -/
theorem outlives (ho : Termination.of? (p.outcome n) = none) :
    ∃ live', (p.managerAt n).Outlives live (p.managerAt (n + 1)) live' := by
  rw [h.outcome_eq] at ho
  rw [h.managerAt_succ]
  exact Session.outlives_of_beatOnce h.established ho

end Stands

theorem going_zero : p.Going 0 := fun _ hi => absurd hi (Nat.not_lt_zero _)

theorem going_succ_iff : p.Going (n + 1) ↔ p.Going n ∧ Termination.of? (p.outcome n) = none :=
  Nat.forall_lt_succ_right

theorem Going.mono {i : Nat} (h : p.Going n) (hi : i ≤ n) : p.Going i :=
  fun j hj => h j (hj.trans_le hi)

/-- As long as the loop goes on, the session stands open. -/
theorem Going.stands (h : p.Going n) : ∃ live, p.Stands n live := by
  induction n with
  | zero => exact ⟨p.live, stands_zero⟩
  | succ n ih =>
    obtain ⟨hn, ho⟩ := going_succ_iff.mp h
    obtain ⟨live, hlive⟩ := ih hn
    obtain ⟨live', hout⟩ := hlive.outlives ho
    exact ⟨live', hlive.succ hout⟩

/-- A number that was acknowledged by a heartbeat of the loop was so by the heartbeat that had it,
after which no failure counts any more. -/
theorem Going.failures_eq_zero (h : p.Going n) {live : Live} (hlive : p.Stands n live) {i : Nat}
    (hold : ∀ a, p.live.lastAcked = some a → a < p.live.nextSequence)
    (hack : live.lastAcked = some (p.live.nextSequence + i)) :
    i < n ∧ ∃ live', p.Stands (i + 1) live' ∧ live'.failures = 0 := by
  induction n generalizing live with
  | zero =>
    obtain rfl := Option.some.inj (p.established.symm.trans hlive.established)
    exact absurd (hold _ hack) (by omega)
  | succ n ih =>
    obtain ⟨hn, ho⟩ := going_succ_iff.mp h
    obtain ⟨before, hbefore⟩ := hn.stands
    obtain ⟨after, hafter⟩ := hbefore.outlives ho
    obtain rfl := Option.some.inj (hafter.established.symm.trans hlive.established)
    obtain ⟨hacked, hzero⟩ | ⟨hsame, -⟩ := hafter.counted
    · have hi : i = n := by
        have := hbefore.sequence
        have := Option.some.inj (hacked.symm.trans hack)
        omega
      subst hi
      exact ⟨Nat.lt_succ_self i, after, hbefore.succ hafter, hzero⟩
    · obtain ⟨hi, hlive'⟩ := ih hn hbefore (hsame ▸ hack)
      exact ⟨hi.trans (Nat.lt_succ_self n), hlive'⟩

section Late

variable {m : Nat} (hm : p.Going m) {live : Live} (hlive : p.Stands m live) (hf : live.failures = 0)
  (hlate : ∀ i, m ≤ i → i < m + p.manager.params.loseAfter → (p.entry i).IsLate p.limit)

include hm hlive hf hlate

/-- The session stands heartbeats that are not answered, as long as they are not too many. -/
theorem going_of_late {j : Nat} (hj : j < p.manager.params.loseAfter) :
    p.Going (m + j) ∧ ∃ live, p.Stands (m + j) live ∧ live.failures = j := by
  induction j with
  | zero => exact ⟨hm, live, hlive, hf⟩
  | succ j ih =>
    obtain ⟨hgo, before, hbefore, hcount⟩ := ih (Nat.lt_of_succ_lt hj)
    obtain ⟨-, hanswer⟩ := overAt_of_isLate (hlate (m + j) (Nat.le_add_right ..) (by omega))
    obtain ⟨ho, after, hafter, hcount'⟩ := Session.outlives_of_error
      hbefore.established (p.overAt (m + j)) (e := .timedOut p.limit) rfl
      (by rw [hbefore.params]; omega)
    rw [← hanswer] at ho hafter
    rw [← hbefore.managerAt_succ] at hafter
    refine ⟨going_succ_iff.mpr ⟨hgo, hbefore.outcome_eq ▸ ho⟩, after, hbefore.succ hafter, ?_⟩
    rw [hcount', hcount]

/-- With as many as it does not stand it is given up. -/
theorem closed_of_late {j : Nat} (hj : j + 1 = p.manager.params.loseAfter) :
    (p.managerAt (m + j + 1)).state = .closed ∧ ∃ cause, p.outcome (m + j) = .error cause := by
  obtain ⟨-, before, hbefore, hcount⟩ := going_of_late hm hlive hf hlate (j := j) (by omega)
  obtain ⟨-, hanswer⟩ := overAt_of_isLate (hlate (m + j) (Nat.le_add_right ..) (by omega))
  rw [hbefore.managerAt_succ, hbefore.outcome_eq, hanswer]
  exact Session.closed_of_error hbefore.established rfl (by rw [hbefore.params]; omega)

end Late

end Plan

end Simulation

end FleetAgent
