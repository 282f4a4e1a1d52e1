import FleetAgent.Proofs.Scheduler.Silence

/-!
# Heartbeats do not overlap

A loop that is started waits for the loop that was the present one before it, so the loops that have
not ended form a chain that leads from the present one back to the one that goes on; only the end of
the chain can let the heart beat. Waiting for the end of the present loop breaks the chain: the loop
is the present one no longer, also while its heartbeat goes on or when the time for the wait has
passed, and a loop started then waits for none. This is the only way to two heartbeats at once, and
it is a way: such a loop takes its first tick at once.

## Main definitions

* `Scheduler.Ahead`: the chain of loops that wait for one another.
* `Scheduler.Exclusive`: what all traffic without such a start keeps.
* `Scheduler.Traffic.Patient`: the traffic without such a start.

## Main results

* `Scheduler.Change.exclusive`: the sections that keep it.
* `Scheduler.Traffic.beats_exclusive`: heartbeats exclude one another exactly in patient traffic.
-/

namespace FleetAgent.Scheduler

/-- Whether the loop of the first number stands behind that of the second in a chain of loops of
which each waits for the end of the next. -/
inductive Ahead (s : Scheduler) : Nat → Nat → Prop
  | refl (k : Nat) : Ahead s k k
  | step {k p j : Nat} (h : s.phase? k = some (.queued (some p))) (hp : Ahead s p j) : Ahead s k j

/-- Every loop that goes on is told to end unless it is the present one, and every heartbeat belongs
to the loop at the end of the chain of the present one. -/
structure Exclusive (s : Scheduler) : Prop where
  cancelled : ∀ {j}, s.hasEnded j = false → s.slot ≠ some j → s.isCancelled j = true
  ahead : ∀ {k j}, s.slot = some k → s.IsBeating j → s.Ahead k j
  unique : ∀ {i j}, s.IsBeating i → s.IsBeating j → i = j
  inFlight : ∀ {k}, s.IsBeating k → s.inFlight = true
  broken : s.inFlight = true → (∃ k, s.IsBeating k) ∨ ∃ k, s.phase? k = some (.ended .broken)

variable {s s' : Scheduler} {b : Bool} {i j k : Nat} {l l' : Loop}

/-- The chain ends with a loop that does not wait for another one. -/
theorem Ahead.eq_of_ne_queued (h : s.Ahead k j) (hk : ∀ p, s.phase? k ≠ some (.queued (some p))) :
    j = k := by
  cases h with
  | refl => rfl
  | step h => exact absurd h (hk _)

/-- A chain stays if all its waits do. -/
theorem Ahead.mono (h : s.Ahead k j)
    (hq : ∀ i p, s.phase? i = some (.queued (some p)) → s'.phase? i = some (.queued (some p))) :
    s'.Ahead k j := by
  induction h with
  | refl k => exact .refl k
  | step h _ ih => exact .step (hq _ _ h) ih

theorem hasEnded_eq_false_of_isBeating (h : s.IsBeating k) : s.hasEnded k = false := by
  obtain ⟨ticker, c, hl⟩ := h.exists_loop
  simp [hasEnded, hl, Loop.hasEnded]

theorem hasEnded_eq_false_of_queued {p : Option Nat} (h : s.phase? k = some (.queued p)) :
    s.hasEnded k = false := by
  obtain ⟨l, hl, hp⟩ := Option.map_eq_some_iff.mp h
  simp [hasEnded, hl, Loop.hasEnded, hp]

/-- No chain leads from a loop that has ended to a heartbeat. -/
theorem not_ahead_of_hasEnded (h : s.hasEnded k = true) (hj : s.IsBeating j) : ¬ s.Ahead k j := by
  intro ha
  have hk := ha.eq_of_ne_queued fun p hp => by simp [hasEnded_eq_false_of_queued hp] at h
  subst hk
  simp [hasEnded_eq_false_of_isBeating hj] at h

/-! ### One loop is changed -/

theorem Exclusive.relieved (h : Exclusive s) : s.Relieved := fun _ => h.cancelled

/-- What is told to end stays so, and what has ended stays so, when one loop is changed. -/
theorem Exclusive.cancelled_of_change (h : Exclusive s) (hl : s.loops[k]? = some l)
    (hc : Loop.Change s l l' b) (hend : (s.setLoop k l').hasEnded j = false)
    (hj : s.slot ≠ some j) : (s.setLoop k l').isCancelled j = true :=
  (Change.moved k l l' b hl hc).relieved h.relieved j hend hj

/-- A section of a loop before and after which the heart does not beat for it. -/
theorem Exclusive.quiet (h : Exclusive s) (hl : s.loops[k]? = some l)
    (hc : Loop.Change s l l' s.inFlight) (hp : ∀ ticker, l.phase ≠ .beating ticker)
    (hp' : ∀ ticker, l'.phase ≠ .beating ticker) (hbroken : l.phase ≠ .ended .broken)
    (hahead : ∀ {i j}, s.IsBeating j → s.Ahead i j → (s.setLoop k l').Ahead i j) :
    Exclusive (s.setLoop k l') := by
  have hbeat {j : Nat} (hj : (s.setLoop k l').IsBeating j) : s.IsBeating j := by
    rw [isBeating_setLoop hl] at hj
    split_ifs at hj with hk
    · exact absurd hj.choose_spec (hp' _)
    · exact hj
  have hbeat' {j : Nat} (hj : s.IsBeating j) : (s.setLoop k l').IsBeating j := by
    have hk : j ≠ k := fun hk => not_isBeating_of_phase hl hp (hk ▸ hj)
    rw [isBeating_setLoop hl, if_neg hk]
    exact hj
  refine ⟨h.cancelled_of_change hl hc, fun hk hj => hahead (hbeat hj) (h.ahead hk (hbeat hj)),
    fun hi hj => h.unique (hbeat hi) (hbeat hj), fun hj => h.inFlight (hbeat hj), fun hf => ?_⟩
  rcases h.broken hf with ⟨j, hj⟩ | ⟨j, hj⟩
  · exact .inl ⟨j, hbeat' hj⟩
  · refine .inr ⟨j, ?_⟩
    rw [phase?_setLoop hl, if_neg]
    · exact hj
    · rintro rfl
      simp only [phase?, hl, Option.map_some, Option.some.injEq] at hj
      exact hbroken hj

/-- A loop whose wait is over goes on. -/
theorem Exclusive.opened (h : Exclusive s) {previous : Option Nat} {c : Bool}
    (hl : s.loops[k]? = some ⟨.queued previous, c⟩) (hprev : previous.all s.hasEnded)
    (ticker : Ticker) : Exclusive (s.setLoop k ⟨.ticking ticker, c⟩) := by
  refine h.quiet hl (.opened previous c ticker hprev) (by simp) (by simp) (by simp)
    fun {i j} hj ha => ?_
  induction ha with
  | refl i => exact .refl i
  | @step i p j hi hp ih =>
    by_cases hik : i = k
    · -- the next loop of the chain has ended, so the chain cannot lead to a heartbeat
      subst hik
      simp only [phase?, hl, Option.map_some, Option.some.injEq, LoopPhase.queued.injEq] at hi
      subst hi
      exact absurd hp (not_ahead_of_hasEnded (by simpa using hprev) hj)
    · exact .step (by rw [phase?_setLoop hl, if_neg hik]; exact hi) (ih hj)

/-- A loop that is told to end does so. -/
theorem Exclusive.stopped (h : Exclusive s) {ticker : Ticker}
    (hl : s.loops[k]? = some ⟨.ticking ticker, true⟩) :
    Exclusive (s.setLoop k ⟨.ended .stopped, true⟩) := by
  refine h.quiet hl (.stopped ticker) (by simp) (by simp) (by simp) fun {i j} _ ha =>
    ha.mono fun i p hi => ?_
  rw [phase?_setLoop hl, if_neg]
  · exact hi
  · rintro rfl
    simp [phase?, hl] at hi

/-- A loop lets the heart beat: it is the present one, at the end of its chain, so no other does. -/
theorem Exclusive.began (h : Exclusive s) {ticker : Ticker}
    (hl : s.loops[k]? = some ⟨.ticking ticker, false⟩) (ticker' : Ticker) :
    Exclusive { s.setLoop k ⟨.beating ticker', false⟩ with inFlight := true } := by
  have hslot : s.slot = some k := by
    by_contra hne
    have hc := h.cancelled (by simp [hasEnded, hl, Loop.hasEnded]) hne
    simp [isCancelled, hl] at hc
  have hnone (j : Nat) : ¬ s.IsBeating j := by
    intro hj
    have hk := (h.ahead hslot hj).eq_of_ne_queued fun p => by simp [phase?, hl]
    exact not_isBeating_of_phase hl (by simp) (hk ▸ hj)
  have hbeat {j : Nat} (hj : (s.setLoop k ⟨.beating ticker', false⟩).IsBeating j) : j = k := by
    rw [isBeating_setLoop hl] at hj
    split_ifs at hj with hk
    · exact hk
    · exact absurd hj (hnone j)
  refine ⟨h.cancelled_of_change hl (.began ticker ticker'), fun {i j} hi hj => ?_,
    fun hi hj => (hbeat hi).trans (hbeat hj).symm, fun _ => rfl, fun _ => .inl ⟨k, ?_⟩⟩
  · obtain rfl := hbeat hj
    obtain rfl := Option.some.inj (hslot.symm.trans hi)
    exact .refl j
  · exact (isBeating_setLoop hl).mpr (by simp)

/-- A heartbeat is over, or has broken down: no other one goes on. -/
theorem Exclusive.ceased (h : Exclusive s) {ticker : Ticker} {c : Bool}
    (hl : s.loops[k]? = some ⟨.beating ticker, c⟩) (hc : Loop.Change s ⟨.beating ticker, c⟩ l' b)
    (hb : b = true → l'.phase = .ended .broken) :
    Exclusive { s.setLoop k l' with inFlight := b } := by
  have hk : s.IsBeating k := ⟨ticker, by simp [phase?, hl]⟩
  have hnone (j : Nat) : ¬ (s.setLoop k l').IsBeating j := by
    intro hj
    rw [isBeating_setLoop hl] at hj
    split_ifs at hj with hjk
    · obtain ⟨ticker', hj⟩ := hj
      cases hc <;> cases hj
    · exact hjk (h.unique hj hk)
  refine ⟨h.cancelled_of_change hl hc, fun _ hj => absurd hj (hnone _),
    fun hi _ => absurd hi (hnone _), fun hj => absurd hj (hnone _), fun hf => .inr ⟨k, ?_⟩⟩
  have hphase : (s.setLoop k l').phase? k = some l'.phase := by rw [phase?_setLoop hl, if_pos rfl]
  exact hphase.trans (congrArg some (hb hf))

/-! ### The operations of the host -/

/-- The present loop is told to end, and may be the present one no longer. -/
theorem Exclusive.told (h : Exclusive s) (hk : s.slot = some k) {slot : Option Nat}
    (hslot : slot = s.slot ∨ slot = none) :
    Exclusive { (s.cancelLoop k).state with slot } := by
  have hbeat {j : Nat} : (s.cancelLoop k).state.IsBeating j ↔ s.IsBeating j := by
    simp only [IsBeating, phase?_cancelLoop]
  refine ⟨fun {j} hend hj => ?_, fun {i j} hi hj => ?_,
    fun hi hj => h.unique (hbeat.mp hi) (hbeat.mp hj), fun hj => h.inFlight (hbeat.mp hj),
    fun hf => ?_⟩
  · exact (Change.told k slot hk hslot).relieved h.relieved j hend hj
  · rcases hslot with rfl | rfl
    · exact (h.ahead hi (hbeat.mp hj)).mono fun i p hp => phase?_cancelLoop.trans hp
    · cases hi
  · rcases h.broken hf with ⟨j, hj⟩ | ⟨j, hj⟩
    · exact .inl ⟨j, hbeat.mpr hj⟩
    · exact .inr ⟨j, phase?_cancelLoop.trans hj⟩

/-- A loop is started, which waits for the loop that was the present one; no heartbeat belongs to a
loop that was given up. -/
theorem Exclusive.started (h : Exclusive s) (hc : ∀ k, s.slot = some k → s.isCancelled k)
    (hnone : s.slot = none → ∀ k, ¬ s.IsBeating k) :
    Exclusive { s with
      loops := s.loops ++ [{ phase := .queued s.slot }]
      slot := some s.loops.length } := by
  generalize hs' : ({ s with
      loops := s.loops ++ [{ phase := .queued s.slot }]
      slot := some s.loops.length } : Scheduler) = s'
  have hloop {j : Nat} (hj : j ≠ s.loops.length) : s'.loops[j]? = s.loops[j]? :=
    hs' ▸ getElem?_started hj _
  have hnew : s'.phase? s.loops.length = some (.queued s.slot) := by simp [← hs', phase?]
  have hslot : s'.slot = some s.loops.length := hs' ▸ rfl
  have hflight : s'.inFlight = s.inFlight := hs' ▸ rfl
  have hold {j : Nat} {p : LoopPhase} (hp : s.phase? j = some p) : s'.phase? j = some p := by
    have hj : j ≠ s.loops.length := fun hj => by simp [phase?, hj] at hp
    rwa [phase?, hloop hj]
  have hbeat {j : Nat} (hj : s'.IsBeating j) : s.IsBeating j := by
    obtain ⟨ticker, hp⟩ := hj
    have hj : j ≠ s.loops.length := fun hj => by simp [hj, hnew] at hp
    rw [phase?, hloop hj] at hp
    exact ⟨ticker, hp⟩
  refine ⟨fun {j} hend hj => ?_, fun {i j} hi hj => ?_, fun hi hj => h.unique (hbeat hi) (hbeat hj),
    fun hj => hflight.trans (h.inFlight (hbeat hj)), fun hf => ?_⟩
  · exact (hs' ▸ (Change.started hc).relieved h.relieved) j hend hj
  · obtain rfl := Option.some.inj (hslot.symm.trans hi)
    cases hk : s.slot with
    | none => exact absurd (hbeat hj) (hnone hk j)
    | some p =>
      rw [hk] at hnew
      exact .step hnew ((h.ahead hk (hbeat hj)).mono fun i p hp => hold hp)
  · rcases h.broken (hflight ▸ hf) with ⟨j, ticker, hj⟩ | ⟨j, hj⟩
    · exact .inl ⟨j, ticker, hold hj⟩
    · exact .inr ⟨j, hold hj⟩

/-- All sections keep heartbeats apart but the start of a loop beside a heartbeat that was given
up. -/
theorem Change.exclusive (hc : Change s b s') (h : Exclusive s)
    (hnone : b = true → s.slot = none → ∀ k, ¬ s.IsBeating k) : Exclusive s' := by
  cases hc with
  | still => exact h
  | started hcancel => exact h.started hcancel (hnone rfl)
  | told k slot hk hslot => exact h.told hk hslot
  | moved k l l' inFlight hl hchange =>
    cases hchange with
    | opened previous c ticker hprev => exact h.opened hl hprev ticker
    | stopped ticker => exact h.stopped hl
    | began ticker ticker' => exact h.began hl ticker'
    | rested ticker c => exact h.ceased hl (.rested ticker c) Bool.noConfusion
    | failed ticker c how hhow => exact h.ceased hl (.failed ticker c how hhow) Bool.noConfusion
    | broke ticker c => exact h.ceased hl (.broke ticker c) fun _ => rfl

theorem exclusive_make (heart : String) (period : Duration) : Exclusive (make heart period) := by
  have hnone {k : Nat} : ¬ (make heart period).IsBeating k := by simp [IsBeating, phase?, make]
  refine ⟨fun h => ?_, fun h => ?_, fun h => absurd h hnone, fun h => absurd h hnone, fun h => ?_⟩
  · simp [hasEnded, make] at h
  · cases h
  · cases h

namespace Traffic

variable {x : Traffic}

/-- A start while no loop is the present one and a heartbeat still goes on, which was given up. -/
def Overtakes (x : Traffic) (m : Move) : Prop :=
  m.starts = true ∧ x.scheduler.slot = none ∧ ∃ k, x.scheduler.IsBeating k

/-- The traffic that a new scheduler can come to while no start overtakes a heartbeat. -/
abbrev Patient : Traffic → Prop := Runs fun x m => ¬ x.Overtakes m

theorem Runs.exclusive (hx : Patient x) : Exclusive x.scheduler := by
  induction hx with
  | new heart period capacity => exact exclusive_make heart period
  | step _ hm h ih =>
    exact (change_turn hm).exclusive ih fun hs hslot k hk => h ⟨hs, hslot, k, hk⟩

/-- A loop that is started while no loop is the present one lets the heart beat at once. -/
theorem scheduler_after_start (h : x.scheduler.slot = none) {now : Instant}
    (hnow : now.roundUp = now) :
    (x.after [.start, .advance x.scheduler.loops.length now,
      .advance x.scheduler.loops.length now]).scheduler =
    { x.scheduler with
      loops := x.scheduler.loops ++
        [⟨.beating ((Ticker.start now x.scheduler.period).take now), false⟩]
      slot := some x.scheduler.loops.length
      inFlight := true } := by
  obtain ⟨s, q⟩ := x
  simp only at h
  let started : Scheduler :=
    { s with loops := s.loops ++ [⟨.queued s.slot, false⟩], slot := some s.loops.length }
  let ticker := Ticker.start now s.period
  have hqueued : started.loops[s.loops.length]? = some ⟨.queued s.slot, false⟩ := by simp [started]
  have hticking : (started.setLoop s.loops.length ⟨.ticking ticker, false⟩).loops[s.loops.length]? =
      some ⟨.ticking ticker, false⟩ := by
    rw [getElem?_setLoop hqueued, if_pos rfl]
  have hdue : ticker.isDue now = true := by
    simp [ticker, Ticker.start, Ticker.isDue, Instant.reached, hnow]
  have hstart : s.start.state = started := by rw [start_of_cancelled (by simp [h])]
  simp only [after, List.foldl_cons, List.foldl_nil, turn, onScheduler, Turn.state_map,
    Turn.state_within, hstart]
  rw [advance_of_queued hqueued (by simp [h])]
  change ((started.setLoop s.loops.length ⟨.ticking ticker, false⟩).advance _ now).state = _
  rw [advance_of_due hticking hdue]
  simp [started, setLoop, ticker]

/-- Heartbeats exclude one another. While no start overtakes a heartbeat, at most one loop lets the
heart beat at any time, and unless a heart has broken down, a heartbeat counts as in flight exactly
while one goes on. A start that overtakes a heartbeat leads to two at once, and a heart that breaks
down leaves its heartbeat in flight for good. -/
theorem beats_exclusive (hx : Patient x) :
    (∀ {i j}, x.scheduler.IsBeating i → x.scheduler.IsBeating j → i = j) ∧
    ((∀ k, x.scheduler.phase? k ≠ some (.ended .broken)) →
      (x.scheduler.inFlight = true ↔ ∃ k, x.scheduler.IsBeating k)) ∧
    (∀ {now : Instant}, now.roundUp = now → x.Overtakes .start →
      let y := x.after [.start, .advance x.scheduler.loops.length now,
        .advance x.scheduler.loops.length now]
      ∃ i j, i ≠ j ∧ y.scheduler.IsBeating i ∧ y.scheduler.IsBeating j) ∧
    (∀ {k}, x.scheduler.IsBeating k →
      (x.turn (.breakDown k)).state.scheduler.inFlight = true ∧
        ∀ j, ¬ (x.turn (.breakDown k)).state.scheduler.IsBeating j) := by
  have h := hx.exclusive
  refine ⟨h.unique, fun hbroken => ⟨fun hf => ?_, fun ⟨k, hk⟩ => h.inFlight hk⟩, ?_, ?_⟩
  · rcases h.broken hf with hk | ⟨k, hk⟩
    · exact hk
    · exact absurd hk (hbroken k)
  · rintro now hnow ⟨-, hslot, k, ticker, hk⟩
    have hlt : k < x.scheduler.loops.length := by
      by_contra hge
      simp [phase?, List.getElem?_eq_none (Nat.le_of_not_lt hge)] at hk
    refine ⟨k, x.scheduler.loops.length, Nat.ne_of_lt hlt, ⟨ticker, ?_⟩, ?_⟩
    · rw [scheduler_after_start hslot hnow, phase?, List.getElem?_append_left hlt]
      exact hk
    · rw [scheduler_after_start hslot hnow]
      exact ⟨(Ticker.start now x.scheduler.period).take now, by simp [phase?]⟩
  · intro k hk
    obtain ⟨ticker, hp⟩ := hk
    obtain ⟨l, hl, -⟩ := Option.map_eq_some_iff.mp hp
    have hstate : (x.turn (.breakDown k)).state.scheduler =
        x.scheduler.setLoop k { l with phase := .ended .broken } := by
      simp only [turn, onScheduler, Turn.state_map, Turn.state_within, breakDown_eq hl]
    rw [hstate]
    refine ⟨h.inFlight ⟨ticker, hp⟩, fun j hj => ?_⟩
    rw [isBeating_setLoop hl] at hj
    split_ifs at hj with hjk
    · obtain ⟨ticker', hj⟩ := hj
      cases hj
    · exact hjk (h.unique hj ⟨ticker, hp⟩)

/-- A loop that is started while its stopped predecessor still beats waits for it: one heartbeat at
most goes on, and it counts as in flight. -/
theorem beats_exclusive_after_restart :
    ∃ x, Patient x ∧ x.scheduler.loops.length = 2 ∧ x.scheduler.IsBeating 0 ∧
      (∀ {i j}, x.scheduler.IsBeating i → x.scheduler.IsBeating j → i = j) ∧
      (x.scheduler.inFlight = true ↔ ∃ k, x.scheduler.IsBeating k) := by
  have hx₀ : Patient ⟨.make "session" (.ofSeconds 1), { capacity := 4 }⟩ := .new ..
  have hx₁ := Runs.step (m := .start) hx₀ trivial fun h => by
    obtain ⟨k, ticker, hk⟩ := h.2.2
    simp [phase?, make] at hk
  have hx₂ := Runs.step (m := .advance 0 0) hx₁ trivial fun h => Bool.noConfusion h.1
  have hx₃ := Runs.step (m := .advance 0 0) hx₂ trivial fun h => Bool.noConfusion h.1
  have hx₄ := Runs.step (m := .stop) hx₃ trivial fun h => Bool.noConfusion h.1
  have hx₅ := Runs.step (m := .start) hx₄ trivial fun h => by cases h.2.1
  have hx := beats_exclusive hx₅
  refine ⟨_, hx₅, rfl, ⟨_, rfl⟩, hx.1, hx.2.1 fun k hk => ?_⟩
  obtain _ | _ | k := k <;> cases hk

/-- A wait for the end of a loop that beats takes the loop out of the chain, whether or not the wait
goes on. A loop that is started then lets the heart beat a second time, and when the first heartbeat
is over, none counts as in flight while the second goes on. -/
theorem beats_overlap_after_join :
    ∃ x y, Reachable x ∧ x.scheduler.IsBeating 0 ∧ x.scheduler.IsBeating 1 ∧
      Reachable y ∧ y.scheduler.IsBeating 1 ∧ y.scheduler.inFlight = false := by
  have hx₀ : Reachable ⟨.make "session" (.ofSeconds 1), { capacity := 4 }⟩ := .new ..
  have hx₁ := Runs.step (m := .start) hx₀ trivial trivial
  have hx₂ := Runs.step (m := .advance 0 0) hx₁ trivial trivial
  have hx₃ := Runs.step (m := .advance 0 0) hx₂ trivial trivial
  have hx₄ := Runs.step (m := .join) hx₃ trivial trivial
  have hx₅ := Runs.step (m := .start) hx₄ trivial trivial
  have hx₆ := Runs.step (m := .advance 1 0) hx₅ trivial trivial
  have hx₇ := Runs.step (m := .advance 1 0) hx₆ trivial trivial
  have hx₈ := Runs.step (m := .finishBeat 0 (.ok (.acked 0 .continue))) hx₇ ⟨_, rfl⟩ trivial
  exact ⟨_, _, hx₇, ⟨_, rfl⟩, ⟨_, rfl⟩, hx₈, ⟨_, rfl⟩, rfl⟩

end Traffic

end FleetAgent.Scheduler
