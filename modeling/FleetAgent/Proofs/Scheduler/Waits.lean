import FleetAgent.Agent.Activity
import FleetAgent.Proofs.Scheduler.Exclusion

/-!
# Waits for the end of the heartbeats

A wait takes the present loop out of its place and returns yes once this loop has ended. A loop ends
only after the one that it waited for, so all loops of its chain have ended by then. Every other
loop that goes on stands in the chain of a loop that was taken out before, by another wait. So the
answer of a wait is about its own chain only: no loop is left exactly if the loops of all waits
before have ended as well. A wait that finds no present loop returns yes at once, though the
heartbeat may go on for which another wait had no time.

## Main definitions

* `Scheduler.awaited?`, `Scheduler.Returns`: what a wait comes to.
* `Scheduler.Covers`: the loops that go on are in the chains of certain loops.
* `Scheduler.Traffic.Takes`: a wait has taken a loop out of its place.

## Main results

* `Agent.resume_join`: the wait of a call.
* `Scheduler.Ahead.of_change`, `Scheduler.Change.covers`: chains lose only loops that have ended.
* `Scheduler.Traffic.ended_iff_of_returns`: what has ended when a wait returns yes.
-/

namespace FleetAgent

namespace Scheduler

/-- What a wait for the end of the loop of a number comes to, unless it goes on: yes if the loop has
ended, and no if the time for the wait has passed. -/
def awaited? (s : Scheduler) (k : Nat) (elapsed : Bool) : Option Bool :=
  if s.hasEnded k then some true else if elapsed then some false else none

/-- Whether a wait for the end of the heartbeats that begins at `x` returns `b` at `y`. Without a
present loop it does so at once. -/
def Returns (x y : Scheduler) (b : Bool) : Prop :=
  (x.beginJoin.result = .done b ∧ y = x.beginJoin.state) ∨
    ∃ k elapsed, x.beginJoin.result = .waiting k ∧ y.awaited? k elapsed = some b

end Scheduler

/-- The wait of a call, after its first section. -/
theorem Agent.resume_join (a : Agent) (d : Delivery) (k : Nat) (grace : Duration) :
    a.resume d (.join k grace) =
      (a.scheduler.awaited? k d.elapsed).map fun b => a.observing (.verdict b) := by
  simp only [resume, Scheduler.awaited?]
  split_ifs <;> rfl

namespace Scheduler

/-- Whether every loop that goes on stands in the chain of one of the given loops. -/
def Covers (s : Scheduler) (among : Nat → Prop) : Prop :=
  ∀ j, s.hasEnded j = false → ∃ k, among k ∧ s.Ahead k j

/-- Whether a heartbeat goes on while one counts as in flight, unless a heart broke down. -/
def Founded (s : Scheduler) : Prop :=
  s.inFlight = true → (∃ k, s.IsBeating k) ∨ ∃ k, s.phase? k = some (.ended .broken)

variable {s s' : Scheduler} {b : Bool} {i j k p : Nat} {l l' : Loop} {among among' : Nat → Prop}

theorem hasEnded_of_returns (h : Returns s s' true) (hk : s.slot = some k) :
    s'.hasEnded k = true := by
  rw [Returns, beginJoin_of_some hk] at h
  rcases h with ⟨hdone, -⟩ | ⟨j, elapsed, hj, h⟩
  · cases hdone
  · obtain rfl := Progress.waiting.inj hj
    by_contra hne
    rw [awaited?, if_neg hne] at h
    split_ifs at h
    cases h

/-! ### What becomes of a chain -/

/-- A loop goes on only when the loop that it waits for has ended. -/
theorem Change.hasEnded_of_queued (hc : Change s b s')
    (hi : s.phase? i = some (.queued (some p))) (hi' : s'.phase? i ≠ some (.queued (some p))) :
    s.hasEnded p = true ∧ s'.hasEnded p = true := by
  cases hc with
  | still => exact absurd hi hi'
  | started =>
    have hne : i ≠ s.loops.length := fun h => by simp [phase?, h] at hi
    exact absurd (by simpa only [phase?, getElem?_started hne] using hi) hi'
  | told k slot => exact absurd (phase?_cancelLoop.trans hi) hi'
  | moved k l l' inFlight hl hchange =>
    have hne : (s.setLoop k l').phase? i ≠ some (.queued (some p)) := hi'
    rw [phase?_setLoop hl] at hne
    split_ifs at hne with hik
    · subst hik
      have hp : l.phase = .queued (some p) := by simpa [phase?, hl] using hi
      have hend : s.hasEnded p = true := by
        cases hchange with
        | opened previous c ticker hprev =>
          obtain rfl := LoopPhase.queued.inj hp
          simpa using hprev
        | stopped | began | rested | failed | broke => cases hp
      exact ⟨hend, hasEnded_of_change hl hchange hend⟩
    · exact absurd hi hne

/-- A chain that leads to a loop that goes on stays. -/
theorem Ahead.of_change (h : s.Ahead k j) (hc : Change s b s') (hj : s'.hasEnded j = false) :
    s'.Ahead k j := by
  induction h with
  | refl k => exact .refl k
  | @step i p j hi hp ih =>
    by_cases hi' : s'.phase? i = some (.queued (some p))
    · exact .step hi' (ih hj)
    · -- the next loop of the chain has ended, so the chain ends there
      obtain ⟨hend, hend'⟩ := hc.hasEnded_of_queued hi hi'
      have hjp : j = p := hp.eq_of_ne_queued fun q hq => by
        simp [hasEnded_eq_false_of_queued hq] at hend
      rw [hjp, hend'] at hj
      cases hj

theorem Change.hasEnded (hc : Change s false s') (h : s.hasEnded j = true) :
    s'.hasEnded j = true := by
  cases hc with
  | still => exact h
  | told => exact hasEnded_cancelLoop.trans h
  | moved k l l' inFlight hl hchange => exact hasEnded_of_change hl hchange h

theorem Covers.mono (h : s.Covers among) (hle : ∀ k, among k → among' k) : s.Covers among' := by
  intro j hj
  obtain ⟨k, hk, ha⟩ := h j hj
  exact ⟨k, hle k hk, ha⟩

/-- Without a start no loop comes up that is not in the chains. -/
theorem Change.covers (hc : Change s false s') (h : s.Covers among) : s'.Covers among := by
  intro j hj
  have hgoes : s.hasEnded j = false := by
    by_contra hne
    exact Bool.noConfusion (hj.symm.trans (hc.hasEnded (by simpa using hne)))
  obtain ⟨k, hk, ha⟩ := h j hgoes
  exact ⟨k, hk, ha.of_change hc hj⟩

/-- A loop that is started stands before the chain of the one that was the present one. -/
theorem Covers.start (h : s.Covers fun k => s.slot = some k ∨ among k) :
    s.start.state.Covers fun k => s.start.state.slot = some k ∨ among k := by
  by_cases hcancel : ∀ k, s.slot = some k → s.isCancelled k
  · have hc : Change s true s.start.state := change_start s
    rw [start_of_cancelled hcancel] at hc ⊢
    intro j hj
    by_cases hne : j = s.loops.length
    · subst hne
      exact ⟨_, .inl rfl, .refl _⟩
    · have hgoes : s.hasEnded j = false := by
        simpa only [Scheduler.hasEnded, getElem?_started hne] using hj
      obtain ⟨k, hk, ha⟩ := h j hgoes
      have ha' := ha.of_change hc hj
      rcases hk with hk | hk
      · refine ⟨_, .inl rfl, .step ?_ ha'⟩
        simp [phase?, hk]
      · exact ⟨k, .inr hk, ha'⟩
  · simp only [not_forall] at hcancel
    obtain ⟨k, hk, hcancel⟩ := hcancel
    rw [start_of_running hk (by simpa using hcancel)]
    exact h

/-! ### Heartbeats that count as in flight -/

theorem Change.founded (hc : Change s b s') (h : s.Founded) : s'.Founded := by
  intro hf
  cases hc with
  | still => exact h hf
  | started =>
    have hold {j : Nat} {phase : LoopPhase} (hj : s.phase? j = some phase) :
        (s.loops ++ [{ phase := .queued s.slot }])[j]?.map (·.phase) = some phase := by
      have hne : j ≠ s.loops.length := fun h => by simp [phase?, h] at hj
      simpa only [getElem?_started hne, phase?] using hj
    exact (h hf).imp (.imp fun k => .imp fun ticker hk => hold hk) (.imp fun k hk => hold hk)
  | told =>
    exact (h hf).imp (.imp fun k => .imp fun ticker hk => phase?_cancelLoop.trans hk)
      (.imp fun k hk => phase?_cancelLoop.trans hk)
  | moved k l l' inFlight hl hchange =>
    have hself : (s.setLoop k l').phase? k = some l'.phase := by rw [phase?_setLoop hl, if_pos rfl]
    -- The other loops go on as before, and so does the flag if this loop neither beats nor did.
    have hold {j : Nat} {phase : LoopPhase} (hj : s.phase? j = some phase) (hne : l.phase ≠ phase) :
        (s.setLoop k l').phase? j = some phase := by
      rw [phase?_setLoop hl, if_neg]
      · exact hj
      · rintro rfl
        exact hne (by simpa [phase?, hl] using hj)
    have hquiet (hfs : s.inFlight = true) (hbeat : ∀ ticker, l.phase ≠ .beating ticker)
        (hbroken : l.phase ≠ .ended .broken) :
        (∃ k', (s.setLoop k l').IsBeating k') ∨
          ∃ k', (s.setLoop k l').phase? k' = some (.ended .broken) :=
      (h hfs).imp (.imp fun j => .imp fun ticker hj => hold hj (hbeat ticker))
        (.imp fun j hj => hold hj hbroken)
    cases hchange with
    | opened | stopped => exact hquiet hf (by simp) (by simp)
    | began ticker ticker' => exact .inl ⟨k, ticker', hself⟩
    | rested | failed => cases hf
    | broke => exact .inr ⟨k, hself⟩

namespace Traffic

variable {x y : Traffic} {before later ms : List Move} {m : Move} {heart : String}
  {period : Duration} {capacity : Nat}

/-- Whether a wait among the moves from `x` on has taken the loop of a number out of its place. -/
def Takes (x : Traffic) (ms : List Move) (k : Nat) : Prop :=
  ∃ before later z, ms = before ++ .join :: later ∧ x.Continues before z ∧
    z.scheduler.slot = some k

theorem Takes.snoc (h : x.Takes ms k) (m : Move) : x.Takes (ms ++ [m]) k := by
  obtain ⟨before, later, z, rfl, hz⟩ := h
  exact ⟨before, later ++ [m], z, by simp, hz⟩

theorem Runs.founded (hx : Reachable x) : x.scheduler.Founded := by
  induction hx with
  | new => nofun
  | step _ hm _ ih => exact (change_turn hm).founded ih

theorem Continues.reachable (hy : x.Continues ms y) (hx : Reachable x) : Reachable y := by
  induction hy with
  | nil => exact hx
  | snoc _ hm ih => exact .step ih hm trivial

/-- Only starts and waits change which loop is the present one. -/
theorem slot_turn (x : Traffic) (hstart : m ≠ .start) (hjoin : m ≠ .join) :
    (x.turn m).state.scheduler.slot = x.scheduler.slot := by
  cases m with
  | start => exact absurd rfl hstart
  | join => exact absurd rfl hjoin
  | stop => exact slot_stop _
  | take | close => rfl
  | advance k now => exact (sameLoops_advance _ k now).1
  | finishBeat k outcome => exact (sameLoops_finishBeat _ _ k outcome).1
  | breakDown k => exact (sameLoops_breakDown _ k).1

/-- Every loop that goes on stands in the chain of the present one, or of one that a wait has taken
out of its place. -/
theorem Continues.covers
    (hx : (⟨.make heart period, { capacity }⟩ : Traffic).Continues ms x) :
    x.scheduler.Covers fun k =>
      x.scheduler.slot = some k ∨ (⟨.make heart period, { capacity }⟩ : Traffic).Takes ms k := by
  induction hx with
  | nil =>
    intro j hj
    simp [hasEnded, make] at hj
  | @snoc ms y m hy hm ih =>
    cases m with
    | start => exact (ih.mono fun k hk => hk.imp_right (Takes.snoc · .start)).start
    | join =>
      refine ((change_turn (m := .join) hm).covers ih).mono fun k hk => .inr ?_
      rcases hk with hk | hk
      · exact ⟨ms, [], y, rfl, hy, hk⟩
      · exact hk.snoc .join
    | stop | take | close | advance | finishBeat | breakDown =>
      refine ((change_turn hm).covers ih).mono fun k hk => hk.imp (fun hk => ?_) (Takes.snoc · _)
      exact (slot_turn y (by simp) (by simp)).trans hk

/-- Without a start there is still no present loop, and no loop outside the chains. -/
theorem Continues.covers_of_not_mem {among : Nat → Prop} (hy : x.Continues ms y)
    (hstart : .start ∉ ms) (h : x.scheduler.Covers among) : y.scheduler.Covers among := by
  induction hy with
  | nil => exact h
  | @snoc ms y m hy hm ih =>
    have hne : m.starts = false := by
      cases m with
      | start => simp at hstart
      | stop | join | take | close | advance | finishBeat | breakDown => rfl
    have hc := change_turn hm
    rw [hne] at hc
    exact hc.covers (ih fun hmem => hstart (List.mem_append_left _ hmem))

/-- When a wait for the end of the heartbeats returns yes and none were started since it began, no
loop is left exactly if the loops that the waits before it have taken out of their place have ended
as well. Then no heartbeat goes on, and unless a heart broke down, none counts as in flight. -/
theorem ended_iff_of_returns
    (hx : (⟨.make heart period, { capacity }⟩ : Traffic).Continues before x)
    (hy : (x.turn .join).state.Continues later y) (hstart : .start ∉ later)
    (hreturns : Returns x.scheduler y.scheduler true) :
    ((∀ k, y.scheduler.hasEnded k = true) ↔
      ∀ k, (⟨.make heart period, { capacity }⟩ : Traffic).Takes before k →
        y.scheduler.hasEnded k = true) ∧
    ((∀ k, y.scheduler.hasEnded k = true) →
      (∀ k, ¬ y.scheduler.IsBeating k) ∧ y.scheduler.isRunning = false ∧
      ((∀ k, y.scheduler.phase? k ≠ some (.ended .broken)) → y.scheduler.inFlight = false)) := by
  have hjoin : Change x.scheduler false (x.turn .join).state.scheduler :=
    change_turn (m := .join) trivial
  have hcovers := hy.covers_of_not_mem hstart (hjoin.covers hx.covers)
  refine ⟨⟨fun h k _ => h k, fun h j => ?_⟩, fun h => ?_⟩
  · by_contra hj
    obtain ⟨k, hk, ha⟩ := hcovers j (by simpa using hj)
    -- The loop at the head of the chain has ended, and so the chain is this loop alone.
    have hend : y.scheduler.hasEnded k = true :=
      hk.elim (hasEnded_of_returns hreturns) (h k)
    have hjk : j = k := ha.eq_of_ne_queued fun p hp => by
      simp [hasEnded_eq_false_of_queued hp] at hend
    exact hj (hjk ▸ hend)
  · have hnone (k : Nat) : ¬ y.scheduler.IsBeating k := fun hk => by
      simpa [hasEnded_eq_false_of_isBeating hk] using h k
    refine ⟨hnone, ?_, fun hbroken => ?_⟩
    · cases hslot : y.scheduler.slot <;> simp [isRunning, hslot, h]
    · have hreach : Reachable y := by
        have hnew : Reachable ⟨.make heart period, { capacity }⟩ := .new ..
        exact hy.reachable (.step (hx.reachable hnew) (m := .join) trivial trivial)
      by_contra hf
      rcases hreach.founded (by simpa using hf) with ⟨k, hk⟩ | ⟨k, hk⟩
      · exact hnone k hk
      · exact hbroken k hk

/-- Two loops let the heart beat when the second wait begins. It returns yes, and the loop of the
first wait has ended by then as well, so no loop is left. -/
theorem ended_after_two_waits :
    let x₀ : Traffic := ⟨.make "session" (.ofSeconds 1), { capacity := 4 }⟩
    let before := [.start, .advance 0 0, .advance 0 0, .join, .start, .advance 1 0, .advance 1 0]
    let x := x₀.after before
    let later := [.finishBeat 1 (.ok (.acked 1 .continue)), .advance 1 0,
      .finishBeat 0 (.ok (.missed 0 1)), .advance 0 0]
    let y := (x.turn .join).state.after later
    x₀.Continues before x ∧ (x.turn .join).state.Continues later y ∧ .start ∉ later ∧
      x.scheduler.IsBeating 0 ∧ x.scheduler.IsBeating 1 ∧ Returns x.scheduler y.scheduler true ∧
      (∀ k, y.scheduler.hasEnded k = true) ∧ (∀ k, ¬ y.scheduler.IsBeating k) ∧
      y.scheduler.inFlight = false := by
  intro x₀ before x later y
  have hx₁ := Continues.snoc (x := x₀) (m := .start) .nil trivial
  have hx₂ := hx₁.snoc (m := .advance 0 0) trivial
  have hx₃ := hx₂.snoc (m := .advance 0 0) trivial
  have hx₄ := hx₃.snoc (m := .join) trivial
  have hx₅ := hx₄.snoc (m := .start) trivial
  have hx₆ := hx₅.snoc (m := .advance 1 0) trivial
  have hx : x₀.Continues before x := hx₆.snoc (m := .advance 1 0) trivial
  let ticker : Ticker := (Ticker.start 0 (.ofSeconds 1)).take 0
  have hy₁ := Continues.snoc (x := (x.turn .join).state)
    (m := .finishBeat 1 (.ok (.acked 1 .continue))) .nil ⟨ticker, by decide +kernel⟩
  have hy₂ := hy₁.snoc (m := .advance 1 0) trivial
  have hy₃ := hy₂.snoc (m := .finishBeat 0 (.ok (.missed 0 1))) ⟨ticker, by decide +kernel⟩
  have hy : (x.turn .join).state.Continues later y := hy₃.snoc (m := .advance 0 0) trivial
  have hstart : .start ∉ later := by decide
  have hreturns : Returns x.scheduler y.scheduler true :=
    .inr ⟨1, false, by decide +kernel, by decide +kernel⟩
  have hloops : y.scheduler.loops = [⟨.ended .stopped, true⟩, ⟨.ended .stopped, true⟩] := by
    decide +kernel
  have hended (k : Nat) : y.scheduler.hasEnded k = true := by
    obtain _ | _ | k := k <;> simp [hasEnded, hloops, Loop.hasEnded]
  have h := ended_iff_of_returns hx hy hstart hreturns
  obtain ⟨hnone, -, hflight⟩ := h.2 (h.1.mpr fun k _ => hended k)
  refine ⟨hx, hy, hstart, ⟨ticker, by decide +kernel⟩, ⟨ticker, by decide +kernel⟩,
    hreturns, hended, hnone, hflight fun k hk => ?_⟩
  obtain _ | _ | k := k <;> simp [phase?, hloops] at hk

/-- A wait takes the loop out of its place whose heartbeat goes on. Another wait then finds no
present loop and returns yes at once, while the heartbeat goes on and counts as in flight. -/
theorem returns_while_beating :
    ∃ before x, (⟨.make "session" (.ofSeconds 1), { capacity := 4 }⟩ : Traffic).Continues before x ∧
      Returns x.scheduler (x.turn .join).state.scheduler true ∧
      (x.turn .join).state.scheduler.hasEnded 0 = false ∧
      (x.turn .join).state.scheduler.IsBeating 0 ∧
      (x.turn .join).state.scheduler.inFlight = true := by
  have hx₁ := Continues.snoc (x := ⟨.make "session" (.ofSeconds 1), { capacity := 4 }⟩)
    (m := .start) .nil trivial
  have hx₂ := hx₁.snoc (m := .advance 0 0) trivial
  have hx₃ := hx₂.snoc (m := .advance 0 0) trivial
  have hx₄ := hx₃.snoc (m := .join) trivial
  exact ⟨_, _, hx₄, .inl ⟨rfl, rfl⟩, rfl, ⟨_, rfl⟩, rfl⟩

end Traffic

end Scheduler

end FleetAgent
