import FleetAgent.Proofs.Scheduler.Traffic

/-!
# Silence after a stop

A stop tells the present loop to end and no other, and so does a wait for the end of the present
loop. Still none of the loops that were started before lets the heart beat again: a loop is the
present one no longer only after it was told to end, by the wait that takes it out of its place or
before the start that replaces it. A loop that is told to end stays so, and does not begin a
heartbeat, whatever it is doing when it is told. Heartbeats begin again only in loops that are
started later.

## Main definitions

* `Scheduler.Relieved`: every loop but the present one is told to end.
* `Scheduler.Halted`: the loops below a number are told to end, or have ended.
* `Scheduler.Traffic.Continues`: what a scheduler comes to by a list of moves.
* `Scheduler.Traffic.Begins`: a loop begins a heartbeat.

## Main results

* `Scheduler.Change.relieved`, `Scheduler.Change.halted`: what every section keeps.
* `Scheduler.Traffic.begins_iff`: the sections in which a heartbeat begins.
* `Scheduler.Traffic.silent_after_halt`: the loops that begin a heartbeat after a stop.
-/

namespace FleetAgent

section Loop

variable {s : Scheduler} {l l' : Loop} {b : Bool}

/-- A loop that is told to end stays so. -/
theorem Loop.Change.isCancelled (hc : Loop.Change s l l' b) (hl : l.isCancelled = true) :
    l'.isCancelled = true := by
  cases hc with
  | opened | rested | broke => exact hl
  | stopped | failed => rfl
  | began => cases hl

/-- A loop that has ended has no further section. -/
theorem Loop.Change.hasEnded_eq_false (hc : Loop.Change s l l' b) : l.hasEnded = false := by
  cases hc <;> rfl

end Loop

namespace Scheduler

/-- Whether every loop that goes on is told to end, but for the present one. -/
def Relieved (s : Scheduler) : Prop :=
  ∀ j, s.hasEnded j = false → s.slot ≠ some j → s.isCancelled j = true

/-- Whether every loop below a number is told to end or has ended. -/
def Halted (s : Scheduler) (n : Nat) : Prop :=
  ∀ j < n, s.isCancelled j = true ∨ s.hasEnded j = true

variable {s s' : Scheduler} {b : Bool} {j k n : Nat} {l l' : Loop}

/-! ### One loop is changed -/

theorem isCancelled_of_change (hl : s.loops[k]? = some l) (hc : Loop.Change s l l' b)
    (hj : s.isCancelled j = true) : (s.setLoop k l').isCancelled j = true := by
  simp only [isCancelled, getElem?_setLoop hl]
  split_ifs with hjk
  · subst hjk
    exact hc.isCancelled (by simpa [isCancelled, hl] using hj)
  · exact hj

theorem hasEnded_of_change (hl : s.loops[k]? = some l) (hc : Loop.Change s l l' b)
    (hj : s.hasEnded j = true) : (s.setLoop k l').hasEnded j = true := by
  simp only [hasEnded, getElem?_setLoop hl]
  split_ifs with hjk
  · subst hjk
    simp [hasEnded, hl, hc.hasEnded_eq_false] at hj
  · exact hj

/-! ### A loop is started -/

/-- A new loop comes after all others. -/
theorem getElem?_started (hj : j ≠ s.loops.length) (l : Loop) :
    (s.loops ++ [l])[j]? = s.loops[j]? := by
  by_cases hlt : j < s.loops.length
  · exact List.getElem?_append_left hlt
  · rw [List.getElem?_eq_none (by simp; omega), List.getElem?_eq_none (by omega)]

/-! ### What every section keeps -/

theorem Change.relieved (hc : Change s b s') (h : s.Relieved) : s'.Relieved := by
  cases hc with
  | still => exact h
  | started hcancel =>
    intro j hend hj
    have hj : j ≠ s.loops.length := fun he => hj (he ▸ rfl)
    simp only [hasEnded, getElem?_started hj] at hend
    simp only [isCancelled, getElem?_started hj]
    by_cases hk : s.slot = some j
    · exact hcancel j hk
    · exact h j hend hk
  | told k slot hk hslot =>
    intro j hend hj
    change (s.cancelLoop k).state.isCancelled j = true
    rw [isCancelled_cancelLoop]
    by_cases hkj : k = j
    · simp [hkj]
    · have hs : s.slot ≠ some j := by simpa [hk] using hkj
      simp [h j (hasEnded_cancelLoop.symm.trans hend) hs]
  | moved k l l' inFlight hl hchange =>
    intro j hend hj
    -- What has ended stays so, so the loop was going on before the section.
    have hgoes : s.hasEnded j = false := by
      by_contra hne
      exact Bool.noConfusion
        (hend.symm.trans (hasEnded_of_change hl hchange (Bool.not_eq_false _ ▸ hne)))
    exact isCancelled_of_change hl hchange (h j hgoes hj)

theorem Change.length_le (hc : Change s b s') : s.loops.length ≤ s'.loops.length := by
  cases hc with
  | still => exact Nat.le_refl _
  | started => simp
  | told k => simp [cancelLoop, modifyLoop]
  | moved k l l' => simp [setLoop]

/-- A start is the only section that adds a loop. -/
theorem Change.length_eq (hc : Change s false s') : s'.loops.length = s.loops.length := by
  cases hc with
  | still => rfl
  | told k => simp [cancelLoop, modifyLoop]
  | moved k l l' => simp [setLoop]

theorem length_loops_start (h : s.start.state.loops.length ≠ s.loops.length) :
    s.start.result = true ∧ s.start.state.loops.length = s.loops.length + 1 := by
  by_cases hc : ∀ k, s.slot = some k → s.isCancelled k
  · rw [start_of_cancelled hc]
    exact ⟨rfl, by simp⟩
  · simp only [not_forall] at hc
    obtain ⟨k, hk, hc⟩ := hc
    rw [start_of_running hk (by simpa using hc)] at h
    exact absurd rfl h

theorem Change.halted (hc : Change s b s') (h : s.Halted n) (hn : n ≤ s.loops.length) :
    s'.Halted n := by
  intro j hj
  cases hc with
  | still => exact h j hj
  | started =>
    have hne : j ≠ s.loops.length := by omega
    simpa only [isCancelled, hasEnded, getElem?_started hne] using h j hj
  | told k =>
    refine (h j hj).imp (fun hc => ?_) fun he => hasEnded_cancelLoop.trans he
    exact isCancelled_cancelLoop.trans (by simp [hc])
  | moved k l l' inFlight hl hchange =>
    exact (h j hj).imp (isCancelled_of_change hl hchange) (hasEnded_of_change hl hchange)

/-- A loop begins a heartbeat only when it waits for a tick and is not told to end. -/
theorem Change.ticking_of_isBeating (hc : Change s b s') (hk : ¬ s.IsBeating k)
    (hk' : s'.IsBeating k) : ∃ ticker, s.loops[k]? = some ⟨.ticking ticker, false⟩ := by
  cases hc with
  | still => exact absurd hk' hk
  | started =>
    obtain ⟨ticker, hp⟩ := hk'
    by_cases hne : k = s.loops.length
    · simp [phase?, hne] at hp
    · exact absurd ⟨ticker, by simpa only [phase?, getElem?_started hne] using hp⟩ hk
  | told j =>
    obtain ⟨ticker, hp⟩ := hk'
    exact absurd ⟨ticker, phase?_cancelLoop.symm.trans hp⟩ hk
  | moved j l l' inFlight hl hchange =>
    replace hk' : (s.setLoop j l').IsBeating k := hk'
    rw [isBeating_setLoop hl] at hk'
    split_ifs at hk' with hkj
    · subst hkj
      obtain ⟨ticker, hp⟩ := hk'
      cases hchange with
      | began ticker => exact ⟨ticker, hl⟩
      | opened | stopped | rested | failed | broke => cases hp
    · exact absurd hk' hk

theorem Halted.not_ticking (h : s.Halted n) (hk : k < n) (ticker : Ticker) :
    s.loops[k]? ≠ some ⟨.ticking ticker, false⟩ := by
  intro hl
  rcases h k hk with hc | he
  · simp [isCancelled, hl] at hc
  · simp [hasEnded, hl, Loop.hasEnded] at he

/-! ### Stops and waits -/

theorem Relieved.halted_of_none (h : s.Relieved) (hslot : s.slot = none) : s.Halted n := by
  intro j _
  cases he : s.hasEnded j with
  | true => exact .inr rfl
  | false => exact .inl (h j he (by simp [hslot]))

theorem Relieved.halted_cancelLoop (h : s.Relieved) (hslot : s.slot = some k) :
    (s.cancelLoop k).state.Halted n := by
  intro j _
  rw [hasEnded_cancelLoop, isCancelled_cancelLoop]
  cases he : s.hasEnded j with
  | true => exact .inr rfl
  | false =>
    by_cases hkj : k = j
    · exact .inl (by simp [hkj])
    · exact .inl (by simp [h j he (by simpa [hslot] using hkj)])

theorem Relieved.halted_stop (h : s.Relieved) : s.stop.state.Halted n := by
  cases hslot : s.slot with
  | none => exact stop_of_none hslot ▸ h.halted_of_none hslot
  | some k => exact stop_of_some hslot ▸ h.halted_cancelLoop hslot

theorem Relieved.halted_beginJoin (h : s.Relieved) : s.beginJoin.state.Halted n := by
  cases hslot : s.slot with
  | none => exact beginJoin_of_none hslot ▸ h.halted_of_none hslot
  | some k => exact beginJoin_of_some hslot ▸ h.halted_cancelLoop hslot

/-! ### Loops leave one another alone -/

theorem phase?_modifyLoop_of_ne (hjk : j ≠ k) (f : Loop → Loop) :
    (s.modifyLoop j f).phase? k = s.phase? k := by
  simp only [phase?, modifyLoop, List.getElem?_modify_ne f s.loops hjk]

theorem phase?_advance_of_ne (hjk : j ≠ k) (now : Instant) :
    (s.advance j now).state.phase? k = s.phase? k := by
  cases hl : s.loops[j]? with
  | none => simp only [advance, hl]
  | some l =>
    obtain ⟨phase, c⟩ := l
    cases phase with
    | queued previous =>
      simp only [advance, hl]
      split_ifs
      · exact phase?_modifyLoop_of_ne hjk _
      · rfl
    | ticking ticker =>
      simp only [advance, hl]
      split_ifs
      · exact phase?_modifyLoop_of_ne hjk _
      · exact phase?_modifyLoop_of_ne hjk _
      · rfl
    | beating ticker | ended how => simp only [advance, hl]

theorem phase?_terminate_of_ne (hjk : j ≠ k) (q : NoticeQueue) (t : Termination) :
    (s.terminate q j t).state.1.phase? k = s.phase? k := by
  cases t <;> exact (phase?_modifyLoop_of_ne hjk _).trans (phase?_modifyLoop_of_ne hjk _)

theorem phase?_finishBeat_of_ne (hjk : j ≠ k) (q : NoticeQueue)
    (outcome : Except SessionError BeatOutcome) :
    (s.finishBeat q j outcome).state.1.phase? k = s.phase? k := by
  rcases outcome with e | ⟨sequence, _ | _⟩ | _
  · exact phase?_terminate_of_ne hjk q _
  · exact phase?_modifyLoop_of_ne hjk _
  · exact phase?_terminate_of_ne hjk q _
  · exact phase?_modifyLoop_of_ne hjk _

/-- A section that lets the heart beat is one of a loop that waits for a tick, which is due. -/
theorem ticking_of_beat {now : Instant} (h : (s.advance k now).result = .beat) :
    ∃ ticker, s.loops[k]? = some ⟨.ticking ticker, false⟩ ∧ ticker.isDue now = true := by
  cases hl : s.loops[k]? with
  | none => simp [advance, hl] at h
  | some l =>
    obtain ⟨phase, c⟩ := l
    cases phase with
    | queued previous =>
      simp only [advance, hl] at h
      split_ifs at h
    | ticking ticker =>
      simp only [advance, hl] at h
      split_ifs at h with hc hdue
      exact ⟨ticker, by simpa using hc, hdue⟩
    | beating ticker | ended how => simp [advance, hl] at h

/-! ### Traffic -/

theorem relieved_make (heart : String) (period : Duration) : (make heart period).Relieved := by
  intro j hend
  simp [hasEnded, make] at hend

/-- The loop whose section a move is. -/
def Move.loop? : Move → Option Nat
  | .advance k _ | .finishBeat k _ | .breakDown k => some k
  | _ => none

namespace Traffic

theorem Runs.relieved {x : Traffic} (hx : Reachable x) : x.scheduler.Relieved := by
  induction hx with
  | new heart period => exact relieved_make heart period
  | step _ hm _ ih => exact (change_turn hm).relieved ih

/-- The traffic that another comes to by a list of moves, each possible in its turn. -/
inductive Continues (x : Traffic) : List Move → Traffic → Prop
  | nil : Continues x [] x
  | snoc {ms : List Move} {y : Traffic} {m : Move} (hy : Continues x ms y) (hm : y.Possible m) :
      Continues x (ms ++ [m]) (y.turn m).state

/-- Whether the loop of a number begins a heartbeat in a move. -/
def Begins (x : Traffic) (m : Move) (k : Nat) : Prop :=
  ¬ x.scheduler.IsBeating k ∧ (x.turn m).state.scheduler.IsBeating k

variable {x y : Traffic} {m halt : Move} {ms : List Move} {k n : Nat}

/-- Only its own sections change what a loop is doing. -/
theorem phase?_turn (hl : x.scheduler.loops[k]? = some l) (hm : m.loop? ≠ some k) :
    (x.turn m).state.scheduler.phase? k = x.scheduler.phase? k := by
  cases m with
  | start =>
    change x.scheduler.start.state.phase? k = _
    by_cases hc : ∀ j, x.scheduler.slot = some j → x.scheduler.isCancelled j
    · have hne : k ≠ x.scheduler.loops.length := by
        rintro rfl
        simp at hl
      simp only [start_of_cancelled hc, phase?, getElem?_started hne]
    · simp only [not_forall] at hc
      obtain ⟨j, hj, hc⟩ := hc
      rw [start_of_running hj (by simpa using hc)]
  | stop =>
    change x.scheduler.stop.state.phase? k = _
    cases hslot : x.scheduler.slot with
    | none => rw [stop_of_none hslot]
    | some j => rw [stop_of_some hslot, phase?_cancelLoop]
  | join =>
    change x.scheduler.beginJoin.state.phase? k = _
    cases hslot : x.scheduler.slot with
    | none => rw [beginJoin_of_none hslot]
    | some j => rw [beginJoin_of_some hslot]; exact phase?_cancelLoop
  | take | close => rfl
  | advance j now =>
    have hjk : j ≠ k := fun h => hm (congrArg some h)
    exact phase?_advance_of_ne hjk now
  | finishBeat j outcome =>
    have hjk : j ≠ k := fun h => hm (congrArg some h)
    exact phase?_finishBeat_of_ne hjk _ outcome
  | breakDown j =>
    have hjk : j ≠ k := fun h => hm (congrArg some h)
    exact phase?_modifyLoop_of_ne hjk _

/-- A heartbeat begins in a section of its own loop, which lets the heart beat. -/
theorem begins_iff (hm : x.Possible m) :
    x.Begins m k ↔ ∃ now, m = .advance k now ∧ (x.scheduler.advance k now).result = .beat := by
  constructor
  · rintro ⟨hk, hk'⟩
    obtain ⟨ticker, hl⟩ := (change_turn hm).ticking_of_isBeating hk hk'
    have hown : m.loop? = some k := by
      by_contra hne
      obtain ⟨ticker', hp⟩ := hk'
      rw [phase?_turn hl hne] at hp
      exact hk ⟨ticker', hp⟩
    cases m with
    | advance j now =>
      obtain rfl := Option.some.inj hown
      refine ⟨now, rfl, ?_⟩
      cases hdue : ticker.isDue now with
      | true => rw [advance_of_due hl hdue]
      | false =>
        obtain ⟨ticker', hp⟩ := hk'
        simp only [turn, onScheduler, Turn.state_map, Turn.state_within,
          advance_of_early hl hdue] at hp
        exact absurd ⟨ticker', hp⟩ hk
    | finishBeat j | breakDown j => exact absurd (Option.some.inj hown ▸ hm) hk
    | start | stop | join | take | close => cases hown
  · rintro ⟨now, rfl, hbeat⟩
    obtain ⟨ticker, hl, hdue⟩ := ticking_of_beat hbeat
    refine ⟨not_isBeating_of_phase hl fun _ => nofun, ?_⟩
    simp only [turn, onScheduler, Turn.state_map, Turn.state_within, advance_of_due hl hdue]
    exact (isBeating_setLoop hl).mpr (by simp)

/-- Halted loops stay so. -/
theorem Continues.halted (hy : x.Continues ms y) (hn : n ≤ x.scheduler.loops.length)
    (h : x.scheduler.Halted n) : n ≤ y.scheduler.loops.length ∧ y.scheduler.Halted n := by
  induction hy with
  | nil => exact ⟨hn, h⟩
  | snoc _ hm ih =>
    have hc := change_turn hm
    exact ⟨Nat.le_trans ih.1 hc.length_le, hc.halted ih.2 ih.1⟩

/-- Every loop that came later was created by a start among the moves. -/
theorem Continues.exists_start (hy : x.Continues ms y) (hk : x.scheduler.loops.length ≤ k)
    (hk' : k < y.scheduler.loops.length) :
    ∃ before later z, ms = before ++ .start :: later ∧ x.Continues before z ∧
      z.scheduler.start.result = true ∧ z.scheduler.loops.length = k := by
  induction hy with
  | nil => omega
  | @snoc ms y m hy hm ih =>
    by_cases hlt : k < y.scheduler.loops.length
    · obtain ⟨before, later, z, rfl, hz⟩ := ih hlt
      exact ⟨before, later ++ [m], z, by simp, hz⟩
    · have hne : (y.turn m).state.scheduler.loops.length ≠ y.scheduler.loops.length := by omega
      cases m with
      | start =>
        obtain ⟨hresult, hlen⟩ := length_loops_start hne
        have hk' : k < y.scheduler.start.state.loops.length := hk'
        exact ⟨ms, [], y, rfl, hy, hresult, by omega⟩
      | stop | join | take | close | advance | finishBeat | breakDown =>
        exact absurd (change_turn hm).length_eq hne

/-- Once the heartbeats are stopped, or a wait for the end of the present loop has begun, no loop
that was started before begins a heartbeat again, whatever it was doing then and whatever happens
after. A loop that does was created by a later start. -/
theorem silent_after_halt (hx : Reachable x) (hhalt : halt = .stop ∨ halt = .join)
    (hy : (x.turn halt).state.Continues ms y) (hm : y.Possible m) :
    (∀ k < x.scheduler.loops.length, ¬ y.Begins m k) ∧
      ∀ k, y.Begins m k → ∃ before later z, ms = before ++ .start :: later ∧
        (x.turn halt).state.Continues before z ∧ z.scheduler.start.result = true ∧
        z.scheduler.loops.length = k := by
  have hhalted : (x.turn halt).state.scheduler.Halted x.scheduler.loops.length := by
    rcases hhalt with rfl | rfl
    · exact hx.relieved.halted_stop
    · exact hx.relieved.halted_beginJoin
  have hlen : (x.turn halt).state.scheduler.loops.length = x.scheduler.loops.length := by
    rcases hhalt with rfl | rfl
    · exact length_loops_stop x.scheduler
    · exact length_loops_beginJoin x.scheduler
  obtain ⟨-, hy'⟩ := hy.halted (Nat.le_of_eq hlen.symm) hhalted
  have hticking {k : Nat} (hk : y.Begins m k) :
      ∃ ticker, y.scheduler.loops[k]? = some ⟨.ticking ticker, false⟩ :=
    (change_turn hm).ticking_of_isBeating hk.1 hk.2
  have hsilent : ∀ k < x.scheduler.loops.length, ¬ y.Begins m k := by
    intro k hk hbegins
    obtain ⟨ticker, hl⟩ := hticking hbegins
    exact hy'.not_ticking hk ticker hl
  refine ⟨hsilent, fun k hbegins => hy.exists_start ?_ ?_⟩
  · rw [hlen]
    exact Nat.le_of_not_lt fun hk => hsilent k hk hbegins
  · obtain ⟨ticker, hl⟩ := hticking hbegins
    exact (List.getElem?_eq_some_iff.mp hl).1

/-- A loop whose heartbeat was given up by a wait goes on, and so does the one that was started
beside it, whose tick is due. After a stop neither lets the heart beat again; the loop that is
started then does. -/
theorem silent_after_halt_of_three :
    let x := (⟨.make "session" (.ofSeconds 1), { capacity := 4 }⟩ : Traffic).after
      [.start, .advance 0 0, .advance 0 0, .join, .start, .advance 1 0]
    let ms := [.start, .finishBeat 0 (.ok (.acked 0 .continue)), .advance 0 0, .advance 1 0,
      .advance 2 0]
    let y := (x.turn .stop).state.after ms
    Reachable x ∧ x.scheduler.loops.length = 2 ∧ x.scheduler.IsBeating 0 ∧
      (x.turn .stop).state.Continues ms y ∧ (∀ k < 2, ¬ y.Begins (.advance 2 0) k) ∧
      y.Begins (.advance 2 0) 2 := by
  intro x ms y
  have hx₀ : Reachable ⟨.make "session" (.ofSeconds 1), { capacity := 4 }⟩ := .new ..
  have hx₁ := Runs.step (m := .start) hx₀ trivial trivial
  have hx₂ := Runs.step (m := .advance 0 0) hx₁ trivial trivial
  have hx₃ := Runs.step (m := .advance 0 0) hx₂ trivial trivial
  have hx₄ := Runs.step (m := .join) hx₃ trivial trivial
  have hx₅ := Runs.step (m := .start) hx₄ trivial trivial
  have hx : Reachable x := Runs.step (m := .advance 1 0) hx₅ trivial trivial
  have hy₁ := Continues.snoc (x := (x.turn .stop).state) (m := .start) .nil trivial
  have hy₂ := hy₁.snoc (m := .finishBeat 0 (.ok (.acked 0 .continue))) ⟨_, rfl⟩
  have hy₃ := hy₂.snoc (m := .advance 0 0) trivial
  have hy₄ := hy₃.snoc (m := .advance 1 0) trivial
  have hy : (x.turn .stop).state.Continues ms y := hy₄.snoc (m := .advance 2 0) trivial
  have hsilent := silent_after_halt (m := .advance 2 0) hx (.inl rfl) hy trivial
  refine ⟨hx, rfl, ⟨_, rfl⟩, hy, hsilent.1, (begins_iff ?_).mpr ⟨0, rfl, by decide +kernel⟩⟩
  trivial

end Traffic

end Scheduler

end FleetAgent
