import FleetAgent.Proofs.Scheduler.Silence

/-!
# Starts

A start looks at the present loop, and at no more of it than whether it is told to end. Whether the
heartbeats count as running depends on whether it has ended as well. The two agree as long as every
loop that has ended is told to end, which a loop sees to itself when it ends by itself. Only a loop
whose heart breaks down ends without it. If this is the present loop, the scheduler is *stuck*: no
heartbeat goes on, and still every start is refused until the loop is told to end after all.

## Main definitions

* `Scheduler.Sealed`: every loop that has ended is told to end, unless its heart broke down.
* `Scheduler.IsStuck`: the heart of the present loop broke down before the loop was told to end.

## Main results

* `Scheduler.Change.sealed`: every section keeps this.
* `Scheduler.start_of_hasEnded`: the end of the present loop lets a new one start.
* `Scheduler.Traffic.start_iff_not_running`: the starts that create a loop.
-/

namespace FleetAgent

/-- A section that ends a loop leaves it told to end, unless the heart broke down. -/
theorem Loop.Change.sealed {s : Scheduler} {l l' : Loop} {b : Bool} (hc : Loop.Change s l l' b)
    {how : Ending} (hl' : l'.phase = .ended how) : how = .broken ∨ l'.isCancelled = true := by
  cases hc with
  | opened | began | rested => cases hl'
  | stopped | failed => exact .inr rfl
  | broke =>
    obtain rfl := LoopPhase.ended.inj hl'
    exact .inl rfl

namespace Scheduler

/-- Whether every loop that has ended is told to end, but for those whose heart broke down. -/
def Sealed (s : Scheduler) : Prop :=
  ∀ (k : Nat) (l : Loop) (how : Ending), s.loops[k]? = some l → l.phase = .ended how →
    how = .broken ∨ l.isCancelled = true

/-- Whether the heart of the present loop broke down before the loop was told to end. -/
def IsStuck (s : Scheduler) : Prop :=
  ∃ k, s.slot = some k ∧ s.loops[k]? = some ⟨.ended .broken, false⟩

variable {s s' : Scheduler} {b : Bool} {k : Nat} {l : Loop}

theorem sealed_make (heart : String) (period : Duration) : (make heart period).Sealed := by
  intro k l how hl
  simp [make] at hl

theorem Change.sealed (hc : Change s b s') (h : s.Sealed) : s'.Sealed := by
  intro j l how hl hp
  cases hc with
  | still => exact h j l how hl hp
  | started =>
    by_cases hj : j = s.loops.length
    · subst hj
      obtain rfl : (⟨.queued s.slot, false⟩ : Loop) = l := by simpa using hl
      cases hp
    · exact h j l how ((getElem?_started hj _).symm.trans hl) hp
  | told k slot =>
    obtain ⟨l₀, hl₀, rfl⟩ := Option.map_eq_some_iff.mp (getElem?_cancelLoop.symm.trans hl)
    split_ifs at hp ⊢
    · exact .inr rfl
    · exact h j l₀ how hl₀ hp
  | moved k l₀ l' inFlight hl₀ hchange =>
    rw [show ({ s.setLoop k l' with inFlight } : Scheduler).loops[j]? = _ from
      getElem?_setLoop hl₀] at hl
    split_ifs at hl
    · obtain rfl := Option.some.inj hl
      exact hchange.sealed hp
    · exact h j l how hl hp

/-! ### The present loop -/

theorem isRunning_of_none (h : s.slot = none) : s.isRunning = false := by
  simp [isRunning, h]

theorem isRunning_of_some (h : s.slot = some k) :
    s.isRunning = (!s.isCancelled k && !s.hasEnded k) := by
  simp [isRunning, h]

/-- A present loop that has not been told to end goes on, unless the scheduler is stuck. -/
theorem Sealed.hasEnded_iff (h : s.Sealed) (hk : s.slot = some k) (hc : s.isCancelled k = false) :
    s.hasEnded k = true ↔ s.IsStuck := by
  obtain ⟨l, hl⟩ : ∃ l, s.loops[k]? = some l := by
    by_contra hne
    have hnone := Option.eq_none_iff_forall_ne_some.mpr (not_exists.mp hne)
    simp [isCancelled, hnone] at hc
  obtain ⟨phase, c⟩ := l
  obtain rfl : c = false := by simpa [isCancelled, hl] using hc
  constructor
  · intro hend
    cases phase with
    | ended how =>
      rcases h k _ how hl rfl with rfl | hc
      · exact ⟨k, hk, hl⟩
      · cases hc
    | queued | ticking | beating => simp [hasEnded, hl, Loop.hasEnded] at hend
  · rintro ⟨j, hj, hbroken⟩
    obtain rfl := Option.some.inj (hk.symm.trans hj)
    simp [hasEnded, hbroken, Loop.hasEnded]

/-- What a start that is not refused does. -/
structure Starts (s : Scheduler) (t : Turn Scheduler Bool) : Prop where
  result : t.result = true
  /-- There is one loop more, which waits for the one that was the present one. -/
  loops : t.state.loops = s.loops ++ [{ phase := .queued s.slot }]
  /-- It is the present one. -/
  slot : t.state.slot = some s.loops.length
  /-- It is started as a task, and its start is told. -/
  effects : t.effects = [
    .spawn s.loops.length,
    .publish ((Event.of .schedulerStarted).withSource s.heart |>.withInterval s.period)]

theorem starts_of_cancelled (h : ∀ k, s.slot = some k → s.isCancelled k) : s.Starts s.start := by
  rw [start_of_cancelled h]
  exact ⟨rfl, rfl, rfl, rfl⟩

theorem starts_of_result (h : s.start.result = true) : s.Starts s.start := by
  refine starts_of_cancelled fun k hk => ?_
  by_contra hc
  rw [start_of_running hk (by simpa using hc)] at h
  cases h

/-- The end of the present loop lets a new one start, unless the heart broke down. -/
theorem start_of_hasEnded (h : s.Sealed) (hstuck : ¬ s.IsStuck)
    (hend : ∀ k, s.slot = some k → s.hasEnded k = true) : s.Starts s.start := by
  refine starts_of_cancelled fun k hk => ?_
  by_contra hc
  exact hstuck ((h.hasEnded_iff hk (by simpa using hc)).mp (hend k hk))

/-- Whatever has become of the present loop, after a stop a start creates a loop. -/
theorem start_of_stop (s : Scheduler) : s.stop.state.Starts s.stop.state.start := by
  refine starts_of_cancelled fun k hk => ?_
  have hslot : s.slot = some k := (slot_stop s).symm.trans hk
  rw [stop_of_some hslot, isCancelled_cancelLoop]
  simp

namespace Traffic

variable {x : Traffic}

theorem Runs.sealed (hx : Reachable x) : x.scheduler.Sealed := by
  induction hx with
  | new heart period => exact sealed_make heart period
  | step _ hm _ ih => exact (change_turn hm).sealed ih

/-- A start creates a loop exactly if the heartbeats are not running and the scheduler is not stuck;
otherwise it does nothing. While the scheduler is stuck the heartbeats are not running, and a start
is refused all the same, until the heartbeats are stopped. -/
theorem start_iff_not_running (hx : Reachable x) :
    (x.scheduler.Starts x.scheduler.start ↔
      x.scheduler.isRunning = false ∧ ¬ x.scheduler.IsStuck) ∧
    (¬ x.scheduler.Starts x.scheduler.start →
      x.scheduler.start = { state := x.scheduler, result := false }) ∧
    (x.scheduler.IsStuck → x.scheduler.isRunning = false ∧
      x.scheduler.start = { state := x.scheduler, result := false } ∧
      x.scheduler.stop.state.Starts x.scheduler.stop.state.start) := by
  have hsealed := hx.sealed
  generalize x.scheduler = s at hsealed
  have hrefused {k : Nat} (hk : s.slot = some k) (hc : s.isCancelled k = false) :
      ¬ s.Starts s.start := fun h => by simpa [start_of_running hk hc] using h.result
  have hstuck {k : Nat} (hk : s.slot = some k) (h : s.IsStuck) : s.isCancelled k = false := by
    obtain ⟨j, hj, hl⟩ := h
    obtain rfl := Option.some.inj (hk.symm.trans hj)
    simp [isCancelled, hl]
  cases hk : s.slot with
  | none =>
    have hstarts : s.Starts s.start := starts_of_cancelled (by simp [hk])
    have hnot : ¬ s.IsStuck := by
      rintro ⟨k, hk', -⟩
      simp [hk] at hk'
    exact ⟨iff_of_true hstarts ⟨isRunning_of_none hk, hnot⟩, fun h => absurd hstarts h,
      fun h => absurd h hnot⟩
  | some k =>
    cases hc : s.isCancelled k with
    | true =>
      have hstarts : s.Starts s.start := starts_of_cancelled fun j hj => by
        obtain rfl := Option.some.inj (hk.symm.trans hj)
        exact hc
      have hnot : ¬ s.IsStuck := fun h => by simp [hstuck hk h] at hc
      exact ⟨iff_of_true hstarts ⟨by simp [isRunning_of_some hk, hc], hnot⟩,
        fun h => absurd hstarts h, fun h => absurd h hnot⟩
    | false =>
      have hended := hsealed.hasEnded_iff hk hc
      refine ⟨iff_of_false (hrefused hk hc) fun h => h.2 (hended.mp ?_),
        fun _ => start_of_running hk hc, fun h => ⟨?_, start_of_running hk hc, start_of_stop s⟩⟩
      · simpa [isRunning_of_some hk, hc] using h.1
      · simp [isRunning_of_some hk, hended.mpr h]

/-- After the order to end a loop has ended by itself: a start creates another one. -/
theorem start_after_order :
    let x := (⟨.make "session" (.ofSeconds 1), { capacity := 4 }⟩ : Traffic).after
      [.start, .advance 0 0, .advance 0 0, .finishBeat 0 (.ok (.acked 0 .terminate))]
    Reachable x ∧ x.scheduler.isRunning = false ∧ ¬ x.scheduler.IsStuck ∧
      x.scheduler.Starts x.scheduler.start := by
  intro x
  have hx₀ : Reachable ⟨.make "session" (.ofSeconds 1), { capacity := 4 }⟩ := .new ..
  have hx₁ := Runs.step (m := .start) hx₀ trivial trivial
  have hx₂ := Runs.step (m := .advance 0 0) hx₁ trivial trivial
  have hx₃ := Runs.step (m := .advance 0 0) hx₂ trivial trivial
  have hx : Reachable x :=
    Runs.step (m := .finishBeat 0 (.ok (.acked 0 .terminate))) hx₃ ⟨_, rfl⟩ trivial
  have hrunning : x.scheduler.isRunning = false := rfl
  have hnot : ¬ x.scheduler.IsStuck := by
    rintro ⟨k, hk, hl⟩
    obtain rfl := Option.some.inj hk
    cases hl
  exact ⟨hx, hrunning, hnot, (start_iff_not_running hx).1.mpr ⟨hrunning, hnot⟩⟩

/-- The heart breaks down in the first heartbeat: the heartbeats are not running, and they cannot be
started. -/
theorem start_refused_after_breakdown :
    ∃ x, Reachable x ∧ x.scheduler.isRunning = false ∧ x.scheduler.start.result = false := by
  have hx₀ : Reachable ⟨.make "session" (.ofSeconds 1), { capacity := 4 }⟩ := .new ..
  have hx₁ := Runs.step (m := .start) hx₀ trivial trivial
  have hx₂ := Runs.step (m := .advance 0 0) hx₁ trivial trivial
  have hx₃ := Runs.step (m := .advance 0 0) hx₂ trivial trivial
  have hx₄ := Runs.step (m := .breakDown 0) hx₃ ⟨_, rfl⟩ trivial
  exact ⟨_, hx₄, rfl, rfl⟩

end Traffic

end Scheduler

end FleetAgent
