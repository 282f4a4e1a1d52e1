import FleetAgent.Proofs.Scheduler.Sections

/-!
# Loops that may still leave a notice

A heartbeat loop leaves a termination notice only at the end of a heartbeat. So a loop *may still
send* one if a heartbeat of it goes on, or if it has not been told to end and so may come to another
one. Starting a loop adds one to the number of these loops; telling a loop to end may take one away,
but not while its heartbeat goes on; the end of a loop takes it away.

## Main definitions

* `Loop.canSend`, `Scheduler.senders`: the loops that may still send a notice, and their number.
* `Loop.isBroken`, `Scheduler.isBroken`: the loops that have ended without being told to.
* `Termination.of?`: the notice that the outcome of a heartbeat leads to.
* `Scheduler.KeepsPhases`: the loops go on with what they are doing.

## Main results

* `Scheduler.senders_setLoop`, `Scheduler.senders_start`, `Scheduler.senders_stop_le`,
  `Scheduler.senders_beginJoin_le`: how the number changes.
* `Scheduler.isCancelled_of_senders`: when every loop is told to end.
* `Scheduler.finishBeat_of_none`, `Scheduler.finishBeat_of_some`: a loop after a heartbeat.
-/

namespace FleetAgent

/-- Whether a loop may still leave a termination notice. -/
def Loop.canSend (l : Loop) : Bool :=
  match l.phase with
  | .beating _ => true
  | .queued _ | .ticking _ => !l.isCancelled
  | .ended _ => false

/-- Whether a loop has ended without being told to, and without a word: its heart broke down. -/
def Loop.isBroken (l : Loop) : Bool := l.hasEnded && !l.isCancelled

/-- The notice with which a loop ends after a heartbeat, if it does. -/
def Termination.of? : Except SessionError BeatOutcome → Option Termination
  | .ok (.acked _ .terminate) => some .requested
  | .ok _ => none
  | .error e => some (.lost e)

/-- How a loop ends that leaves a notice. -/
def Termination.ending : Termination → Ending
  | requested => .requested
  | lost _ => .lost

namespace Scheduler

/-- The number of loops that may still leave a termination notice. -/
def senders (s : Scheduler) : Nat := s.loops.countP Loop.canSend

/-- Whether a loop has ended because its heart broke down. -/
def isBroken (s : Scheduler) : Bool := s.loops.any Loop.isBroken

/-- Every loop of `s` goes on in `s'` with what it is doing, though it may be told to end. -/
def KeepsPhases (s s' : Scheduler) : Prop :=
  ∀ (k : Nat) (l : Loop), s.loops[k]? = some l →
    ∃ l', s'.loops[k]? = some l' ∧ l'.phase = l.phase

variable {s : Scheduler} {k : Nat} {l l' : Loop} {ticker : Ticker} {c : Bool} {q : NoticeQueue}
  {outcome : Except SessionError BeatOutcome}

theorem senders_setLoop (hl : s.loops[k]? = some l) (l' : Loop) :
    (s.setLoop k l').senders + l.canSend.toNat = s.senders + l'.canSend.toNat := by
  obtain ⟨hk, hl⟩ := List.getElem?_eq_some_iff.mp hl
  have hpos : l.canSend = true → 0 < s.loops.countP Loop.canSend := fun h =>
    List.countP_pos_iff.mpr ⟨l, hl ▸ List.getElem_mem hk, h⟩
  simp only [senders, setLoop, List.countP_set hk, hl]
  cases h : l.canSend with
  | false => cases l'.canSend <;> simp
  | true =>
    have := hpos h
    cases l'.canSend <;> simp <;> omega

theorem senders_pos (hl : s.loops[k]? = some l) (h : l.canSend) : 0 < s.senders :=
  List.countP_pos_iff.mpr ⟨l, List.mem_of_getElem? hl, h⟩

theorem canSend_of_senders (h : s.senders = 0) (hl : s.loops[k]? = some l) : l.canSend = false := by
  by_contra hc
  have := senders_pos hl (by simpa using hc)
  omega

/-- A start that is not refused adds a loop that may send a notice. -/
theorem senders_start (h : ∀ k, s.slot = some k → s.isCancelled k) :
    s.start.state.senders = s.senders + 1 := by
  rw [start_of_cancelled h, senders, List.countP_append]
  rfl

/-- Telling a loop to end changes this loop only, and not what it is doing. -/
theorem cancelLoop_of_some (hl : s.loops[k]? = some l) :
    (s.cancelLoop k).state = s.setLoop k { l with isCancelled := true } :=
  modifyLoop_eq hl _

theorem cancelLoop_of_none (hl : s.loops[k]? = none) : (s.cancelLoop k).state = s := by
  simp [cancelLoop, modifyLoop, List.modify_eq_self (List.getElem?_eq_none_iff.mp hl)]

theorem senders_cancelLoop_le (s : Scheduler) (k : Nat) :
    (s.cancelLoop k).state.senders ≤ s.senders := by
  cases hl : s.loops[k]? with
  | none => exact Nat.le_of_eq (by rw [cancelLoop_of_none hl])
  | some l =>
    have hset := senders_setLoop hl { l with isCancelled := true }
    have hle : ({ l with isCancelled := true } : Loop).canSend.toNat ≤ l.canSend.toNat := by
      obtain ⟨phase, c⟩ := l
      cases phase <;> cases c <;> simp [Loop.canSend]
    rw [cancelLoop_of_some hl]
    omega

theorem senders_stop_le (s : Scheduler) : s.stop.state.senders ≤ s.senders := by
  cases hk : s.slot with
  | none => exact Nat.le_of_eq (by rw [stop_of_none hk])
  | some k =>
    rw [stop_of_some hk]
    exact senders_cancelLoop_le s k

theorem senders_beginJoin_le (s : Scheduler) : s.beginJoin.state.senders ≤ s.senders := by
  cases hk : s.slot with
  | none => exact Nat.le_of_eq (by rw [beginJoin_of_none hk])
  | some k =>
    rw [beginJoin_of_some hk]
    exact senders_cancelLoop_le { s with slot := none } k

theorem senders_start_le (s : Scheduler) : s.start.state.senders ≤ s.senders + 1 := by
  by_cases hc : ∀ k, s.slot = some k → s.isCancelled k
  · exact Nat.le_of_eq (senders_start hc)
  · simp only [not_forall] at hc
    obtain ⟨k, hk, hc⟩ := hc
    rw [start_of_running hk (by simpa using hc)]
    exact Nat.le_succ _

/-! ### Hearts that broke down -/

theorem isBroken_of_setLoop (h : (s.setLoop k l').isBroken) : s.isBroken ∨ l'.isBroken := by
  obtain ⟨l, hl, hb⟩ := List.any_eq_true.mp h
  rcases List.mem_or_eq_of_mem_set hl with hl | rfl
  · exact .inl (List.any_eq_true.mpr ⟨l, hl, hb⟩)
  · exact .inr hb

theorem isBroken_of_cancelLoop (h : (s.cancelLoop k).state.isBroken) : s.isBroken := by
  cases hl : s.loops[k]? with
  | none => rwa [cancelLoop_of_none hl] at h
  | some l =>
    rw [cancelLoop_of_some hl] at h
    exact (isBroken_of_setLoop h).resolve_right (by simp [Loop.isBroken])

theorem isBroken_of_stop (h : s.stop.state.isBroken) : s.isBroken := by
  cases hk : s.slot with
  | none => rwa [stop_of_none hk] at h
  | some k =>
    rw [stop_of_some hk] at h
    exact isBroken_of_cancelLoop h

theorem isBroken_of_beginJoin (h : s.beginJoin.state.isBroken) : s.isBroken := by
  cases hk : s.slot with
  | none => rwa [beginJoin_of_none hk] at h
  | some k =>
    rw [beginJoin_of_some hk] at h
    exact isBroken_of_cancelLoop (s := { s with slot := none }) h

theorem isBroken_of_start (h : s.start.state.isBroken) : s.isBroken := by
  by_cases hc : ∀ k, s.slot = some k → s.isCancelled k
  · rw [start_of_cancelled hc, isBroken, List.any_append] at h
    simpa [isBroken, Loop.isBroken, Loop.hasEnded] using h
  · simp only [not_forall] at hc
    obtain ⟨k, hk, hc⟩ := hc
    rwa [start_of_running hk (by simpa using hc)] at h

/-- If no loop may send a notice and no heart broke down, every loop is told to end. -/
theorem isCancelled_of_senders (h : s.senders = 0) (hb : s.isBroken = false) (k : Nat) :
    s.isCancelled k := by
  cases hl : s.loops[k]? with
  | none => simp [isCancelled, hl]
  | some l =>
    have hsend := canSend_of_senders h hl
    have hbroken : l.isBroken = false := by
      by_contra hc
      have : s.isBroken = true :=
        List.any_eq_true.mpr ⟨l, List.mem_of_getElem? hl, by simpa using hc⟩
      exact absurd (this.symm.trans hb) Bool.noConfusion
    obtain ⟨phase, c⟩ := l
    cases phase <;> simp_all [isCancelled, Loop.canSend, Loop.isBroken, Loop.hasEnded]

/-! ### What loops are doing -/

theorem KeepsPhases.refl (s : Scheduler) : s.KeepsPhases s := fun _ _ hl => ⟨_, hl, rfl⟩

theorem KeepsPhases.trans {s' s'' : Scheduler} (h : s.KeepsPhases s') (h' : s'.KeepsPhases s'') :
    s.KeepsPhases s'' := by
  intro k l hl
  obtain ⟨l', hl', hp'⟩ := h k l hl
  obtain ⟨l'', hl'', hp''⟩ := h' k l' hl'
  exact ⟨l'', hl'', hp''.trans hp'⟩

theorem KeepsPhases.hasEnded_of {s' : Scheduler} (h : s.KeepsPhases s') (hk : s'.hasEnded k) :
    s.hasEnded k := by
  cases hl : s.loops[k]? with
  | none => simp [hasEnded, hl]
  | some l =>
    obtain ⟨l', hl', hp⟩ := h k l hl
    simpa [hasEnded, hl, hl', Loop.hasEnded, hp] using hk

theorem keepsPhases_cancelLoop (s : Scheduler) (k : Nat) :
    s.KeepsPhases (s.cancelLoop k).state := by
  cases hk : s.loops[k]? with
  | none =>
    rw [cancelLoop_of_none hk]
    exact .refl s
  | some l =>
    intro j l' hl'
    rw [cancelLoop_of_some hk, getElem?_setLoop hk]
    split_ifs with hj
    · subst hj
      obtain rfl := Option.some.inj (hk.symm.trans hl')
      exact ⟨_, rfl, rfl⟩
    · exact ⟨l', hl', rfl⟩

theorem keepsPhases_stop (s : Scheduler) : s.KeepsPhases s.stop.state := by
  cases hk : s.slot with
  | none =>
    rw [stop_of_none hk]
    exact .refl s
  | some k =>
    rw [stop_of_some hk]
    exact keepsPhases_cancelLoop s k

theorem keepsPhases_beginJoin (s : Scheduler) : s.KeepsPhases s.beginJoin.state := by
  cases hk : s.slot with
  | none =>
    rw [beginJoin_of_none hk]
    exact .refl s
  | some k =>
    rw [beginJoin_of_some hk, Turn.state_map]
    exact keepsPhases_cancelLoop { s with slot := none } k

theorem keepsPhases_start (s : Scheduler) : s.KeepsPhases s.start.state := by
  by_cases hc : ∀ k, s.slot = some k → s.isCancelled k
  · intro k l hl
    rw [start_of_cancelled hc]
    obtain ⟨hk, -⟩ := List.getElem?_eq_some_iff.mp hl
    exact ⟨l, by simpa [List.getElem?_append_left hk] using hl, rfl⟩
  · simp only [not_forall] at hc
    obtain ⟨k, hk, hc⟩ := hc
    rw [start_of_running hk (by simpa using hc)]
    exact .refl s

/-! ### The end of a heartbeat -/

theorem terminate_eq (hl : s.loops[k]? = some l) (q : NoticeQueue) (t : Termination) :
    (s.terminate q k t).state = (s.setLoop k ⟨.ended t.ending, true⟩, (q.offer t).2) ∧
      (s.terminate q k t).result = .ended := by
  refine ⟨?_, rfl⟩
  have hend (how : Ending) : (s.modifyLoop k ({ · with isCancelled := true })).endLoop k how =
      s.setLoop k ⟨.ended how, true⟩ := by
    rw [endLoop, modifyLoop_modifyLoop, modifyLoop_eq hl]
    rfl
  cases t <;> simp only [terminate, Termination.ending, hend]

/-- A heartbeat after which its loop goes on. -/
theorem finishBeat_of_none (hl : s.loops[k]? = some ⟨.beating ticker, c⟩)
    (h : Termination.of? outcome = none) :
    s.finishBeat q k outcome =
      { state := ({ s.setLoop k ⟨.ticking ticker, c⟩ with inFlight := false }, q)
        result := .again } := by
  have hs : ({ s with inFlight := false } : Scheduler).loops[k]? = some ⟨.beating ticker, c⟩ := hl
  rcases outcome with e | ⟨sequence, _ | _⟩ | _
  · cases h
  · simp only [finishBeat, modifyLoop_eq hs]
    rfl
  · cases h
  · simp only [finishBeat, modifyLoop_eq hs]
    rfl

/-- A heartbeat with which its loop ends. -/
theorem finishBeat_of_some (hl : s.loops[k]? = some l) {t : Termination}
    (h : Termination.of? outcome = some t) :
    (s.finishBeat q k outcome).state =
        ({ s.setLoop k ⟨.ended t.ending, true⟩ with inFlight := false }, (q.offer t).2) ∧
      (s.finishBeat q k outcome).result = .ended := by
  have hs : ({ s with inFlight := false } : Scheduler).loops[k]? = some l := hl
  rcases outcome with e | ⟨sequence, _ | _⟩ | _
  · obtain rfl := Option.some.inj h
    exact terminate_eq hs q (.lost e)
  · cases h
  · obtain rfl := Option.some.inj h
    exact terminate_eq hs q .requested
  · cases h

end Scheduler

end FleetAgent
