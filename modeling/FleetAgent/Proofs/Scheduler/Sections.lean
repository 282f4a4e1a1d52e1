import FleetAgent.Proofs.Turn
import FleetAgent.Scheduler.Basic
import Mathlib.Tactic.Common

/-!
# The sections of a scheduler

What each section of a scheduler comes to. A section of a loop is given by what the loop is doing
when it goes on, and changes this loop only.

## Main definitions

* `Scheduler.phase?`, `Scheduler.IsBeating`: what the loop of a number is doing.
* `Scheduler.setLoop`: the scheduler with one of its loops changed.

## Main results

* `Scheduler.start_of_cancelled`, `Scheduler.start_of_running`: a start.
* `Scheduler.stop_of_some`, `Scheduler.beginJoin_of_some`: a stop, and the first section of a wait.
* `Scheduler.advance_of_queued`, `Scheduler.advance_of_waiting`, `Scheduler.advance_of_cancelled`,
  `Scheduler.advance_of_due`, `Scheduler.advance_of_early`: a section of a loop.
-/

namespace FleetAgent

namespace Scheduler

variable {s : Scheduler} {k j : Nat} {l l' : Loop} {previous : Option Nat} {ticker : Ticker}
  {c : Bool} {now : Instant}

/-- What the loop of a number is doing. -/
def phase? (s : Scheduler) (k : Nat) : Option LoopPhase := s.loops[k]?.map (·.phase)

/-- Whether the heart beats for the loop of a number. -/
def IsBeating (s : Scheduler) (k : Nat) : Prop := ∃ ticker, s.phase? k = some (.beating ticker)

theorem IsBeating.exists_loop (h : s.IsBeating k) :
    ∃ ticker c, s.loops[k]? = some ⟨.beating ticker, c⟩ := by
  obtain ⟨ticker, hp⟩ := h
  obtain ⟨⟨phase, c⟩, hl, rfl⟩ := Option.map_eq_some_iff.mp hp
  exact ⟨ticker, c, hl⟩

/-- The scheduler with another loop of a number. -/
def setLoop (s : Scheduler) (k : Nat) (l : Loop) : Scheduler := { s with loops := s.loops.set k l }

theorem modifyLoop_eq (h : s.loops[k]? = some l) (f : Loop → Loop) :
    s.modifyLoop k f = s.setLoop k (f l) := by
  have : Inhabited Loop := ⟨l⟩
  simp only [modifyLoop, setLoop, List.modify_eq_set, h, Option.getD_some]

theorem modifyLoop_modifyLoop (s : Scheduler) (k : Nat) (f g : Loop → Loop) :
    (s.modifyLoop k f).modifyLoop k g = s.modifyLoop k (g ∘ f) := by
  simp only [modifyLoop, List.modify_modify_eq]

theorem getElem?_setLoop (h : s.loops[k]? = some l) :
    (s.setLoop k l').loops[j]? = if j = k then some l' else s.loops[j]? := by
  obtain ⟨hk, -⟩ := List.getElem?_eq_some_iff.mp h
  simp only [setLoop, List.getElem?_set]
  by_cases hj : k = j
  · simp [hj, hj ▸ hk]
  · simp [hj, Ne.symm hj]

theorem phase?_setLoop (h : s.loops[k]? = some l) :
    (s.setLoop k l').phase? j = if j = k then some l'.phase else s.phase? j := by
  simp only [phase?, getElem?_setLoop h]
  split_ifs <;> rfl

theorem isBeating_setLoop (hl : s.loops[k]? = some l) :
    (s.setLoop k l').IsBeating j ↔
      if j = k then ∃ ticker, l'.phase = .beating ticker else s.IsBeating j := by
  simp only [IsBeating, phase?_setLoop hl]
  split_ifs <;> simp

theorem not_isBeating_of_phase (hl : s.loops[k]? = some l)
    (hp : ∀ ticker, l.phase ≠ .beating ticker) : ¬ s.IsBeating k := by
  intro hk
  obtain ⟨ticker, c, hk⟩ := hk.exists_loop
  obtain rfl := Option.some.inj (hl.symm.trans hk)
  exact hp ticker rfl

/-! ### Starts -/

theorem start_of_running (hk : s.slot = some k) (h : s.isCancelled k = false) :
    s.start = { state := s, result := false } := by
  simp [start, hk, h]

/-- A loop is started if the present one, if there is one, is told to end. -/
theorem start_of_cancelled (h : ∀ k, s.slot = some k → s.isCancelled k) :
    s.start =
      { state :=
          { s with
            loops := s.loops ++ [{ phase := .queued s.slot }]
            slot := some s.loops.length }
        effects := [
          .spawn s.loops.length,
          .publish ((Event.of .schedulerStarted).withSource s.heart |>.withInterval s.period)]
        result := true } := by
  cases hk : s.slot with
  | none => simp [start, hk]
  | some k => simp [start, hk, h k hk]

/-! ### Stops and waits -/

theorem getElem?_cancelLoop :
    (s.cancelLoop k).state.loops[j]? =
      s.loops[j]?.map fun l => if k = j then { l with isCancelled := true } else l := by
  simp only [cancelLoop, modifyLoop, List.getElem?_modify]
  rfl

theorem phase?_cancelLoop : (s.cancelLoop k).state.phase? j = s.phase? j := by
  simp only [phase?, getElem?_cancelLoop]
  cases s.loops[j]? with
  | none => rfl
  | some l => simp only [Option.map_some]; split_ifs <;> rfl

theorem hasEnded_cancelLoop : (s.cancelLoop k).state.hasEnded j = s.hasEnded j := by
  simp only [hasEnded, getElem?_cancelLoop]
  cases s.loops[j]? with
  | none => rfl
  | some l => simp only [Option.map_some, Option.getD_some]; split_ifs <;> rfl

theorem isCancelled_cancelLoop :
    (s.cancelLoop k).state.isCancelled j = (decide (k = j) || s.isCancelled j) := by
  simp only [isCancelled, getElem?_cancelLoop]
  cases s.loops[j]? with
  | none => simp
  | some l => by_cases hk : k = j <;> simp [hk]

theorem stop_of_none (h : s.slot = none) : s.stop = { state := s, result := () } := by
  simp only [stop, h]

theorem stop_of_some (h : s.slot = some k) : s.stop = s.cancelLoop k := by
  simp only [stop, h]

theorem beginJoin_of_none (h : s.slot = none) :
    s.beginJoin = { state := s, result := .done true } := by
  simp only [beginJoin, h]

theorem beginJoin_of_some (h : s.slot = some k) :
    s.beginJoin = ({ s with slot := none }.cancelLoop k).map fun _ => .waiting k := by
  simp only [beginJoin, h]

theorem slot_stop (s : Scheduler) : s.stop.state.slot = s.slot := by
  cases h : s.slot with
  | none => rw [stop_of_none h, h]
  | some k => rw [stop_of_some h, ← h]; rfl

theorem slot_beginJoin (s : Scheduler) : s.beginJoin.state.slot = none := by
  cases h : s.slot with
  | none => rw [beginJoin_of_none h, h]
  | some k => rw [beginJoin_of_some h]; rfl

theorem length_loops_stop (s : Scheduler) : s.stop.state.loops.length = s.loops.length := by
  cases h : s.slot with
  | none => rw [stop_of_none h]
  | some k => simp [stop_of_some h, cancelLoop, modifyLoop]

theorem length_loops_beginJoin (s : Scheduler) :
    s.beginJoin.state.loops.length = s.loops.length := by
  cases h : s.slot with
  | none => rw [beginJoin_of_none h]
  | some k => simp [beginJoin_of_some h, cancelLoop, modifyLoop]

/-! ### Loops -/

theorem advance_of_queued (hl : s.loops[k]? = some ⟨.queued previous, c⟩)
    (h : previous.all s.hasEnded) :
    s.advance k now =
      { state := s.setLoop k ⟨.ticking (.start now s.period), c⟩, result := .again } := by
  simp only [advance, hl, h, ↓reduceIte, modifyLoop_eq hl]

theorem advance_of_waiting (hl : s.loops[k]? = some ⟨.queued previous, c⟩)
    (h : previous.all s.hasEnded = false) :
    s.advance k now = { state := s, result := .blocked } := by
  simp only [advance, hl, h, Bool.false_eq_true, ↓reduceIte]

theorem advance_of_cancelled (hl : s.loops[k]? = some ⟨.ticking ticker, true⟩) :
    s.advance k now =
      { state := s.setLoop k ⟨.ended .stopped, true⟩
        effects := [.publish (s.stoppedEvent "stopped"), .signal (.loopEnded k)]
        result := .ended } := by
  simp only [advance, hl, ↓reduceIte, endLoop, modifyLoop_eq hl]

theorem advance_of_due (hl : s.loops[k]? = some ⟨.ticking ticker, false⟩) (h : ticker.isDue now) :
    s.advance k now =
      { state := { s.setLoop k ⟨.beating (ticker.take now), false⟩ with inFlight := true }
        result := .beat } := by
  simp only [advance, hl, h, Bool.false_eq_true, ↓reduceIte, modifyLoop_eq hl]

theorem advance_of_early (hl : s.loops[k]? = some ⟨.ticking ticker, false⟩)
    (h : ticker.isDue now = false) : s.advance k now = { state := s, result := .blocked } := by
  simp only [advance, hl, h, Bool.false_eq_true, ↓reduceIte]

theorem breakDown_eq (hl : s.loops[k]? = some l) :
    s.breakDown k =
      { state := s.setLoop k { l with phase := .ended .broken }
        effects := [.signal (.loopEnded k)]
        result := .ended } := by
  simp only [breakDown, endLoop, modifyLoop_eq hl]

/-! ### What loops leave alone -/

/-- Whether a scheduler has the same present loop as another, and as many loops. -/
def SameLoops (s s' : Scheduler) : Prop := s'.slot = s.slot ∧ s'.loops.length = s.loops.length

theorem sameLoops_modifyLoop (s : Scheduler) (k : Nat) (f : Loop → Loop) :
    s.SameLoops (s.modifyLoop k f) := ⟨rfl, by simp [modifyLoop]⟩

theorem SameLoops.trans {s s' s'' : Scheduler} (h : s.SameLoops s') (h' : s'.SameLoops s'') :
    s.SameLoops s'' := ⟨h'.1.trans h.1, h'.2.trans h.2⟩

theorem sameLoops_advance (s : Scheduler) (k : Nat) (now : Instant) :
    s.SameLoops (s.advance k now).state := by
  cases hl : s.loops[k]? with
  | none => simp [advance, hl, SameLoops]
  | some l =>
    simp only [advance, hl]
    cases l.phase with
    | queued previous =>
      dsimp only
      split_ifs
      · exact sameLoops_modifyLoop ..
      · exact ⟨rfl, rfl⟩
    | ticking ticker =>
      dsimp only
      split_ifs
      · exact sameLoops_modifyLoop ..
      · exact ⟨rfl, by simp [modifyLoop]⟩
      · exact ⟨rfl, rfl⟩
    | beating ticker | ended how => exact ⟨rfl, rfl⟩

theorem sameLoops_terminate (s : Scheduler) (q : NoticeQueue) (k : Nat) (t : Termination) :
    s.SameLoops (s.terminate q k t).state.1 := by
  cases t <;> exact (sameLoops_modifyLoop ..).trans (sameLoops_modifyLoop ..)

theorem sameLoops_finishBeat (s : Scheduler) (q : NoticeQueue) (k : Nat)
    (outcome : Except SessionError BeatOutcome) :
    s.SameLoops (s.finishBeat q k outcome).state.1 := by
  rcases outcome with e | ⟨sequence, _ | _⟩ | _
  · exact sameLoops_terminate { s with inFlight := false } q k (.lost e)
  · exact sameLoops_modifyLoop { s with inFlight := false } k _
  · exact sameLoops_terminate { s with inFlight := false } q k .requested
  · exact sameLoops_modifyLoop { s with inFlight := false } k _

theorem sameLoops_breakDown (s : Scheduler) (k : Nat) : s.SameLoops (s.breakDown k).state :=
  sameLoops_modifyLoop ..

end Scheduler

end FleetAgent
