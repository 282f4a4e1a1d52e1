import FleetAgent.Proofs.Scheduler.Endings
import Mathlib.Algebra.Order.Ring.Nat

/-!
# The pace of a loop

A loop has its ticker made when it begins to wait for its first tick, and from then on it lets the
heart beat once for every tick that it takes. A tick that is taken late moves the next one, by one
rule or another, but always by whole periods: the instants at which ticks are due stay on the grid
of the periods from the start, and no two ticks are due at the same one. A tick is not taken before
it is due. So heartbeats are never closer than the grid allows, in the long run: however long some
of them take, the later ones do not make up for it.

## Main definitions

* `Tick`: a tick that is taken; `Ticker.Takes`: the ticks that a ticker can come to.
* `Scheduler.ticker?`: the ticker of the loop of a number.
* `Scheduler.Traffic.Entry.Opens`, `Scheduler.Traffic.Entry.tick?`: a section in which a loop has
  its ticker made, and the tick that it takes in a section.
* `Scheduler.Traffic.entries`: the sections of a list of moves.

## Main results

* `Ticker.exists_nextDue_eq`: the next tick is due whole periods later.
* `Scheduler.Traffic.paces_turn`: what a section does to the ticker of a loop.
* `Scheduler.Traffic.Continues.paced`: the ticks of a loop are those of its ticker.
* `Scheduler.Traffic.paced_of_continues`: when heartbeats begin.
-/

namespace FleetAgent

/-! ### The ticks of a ticker -/

/-- A tick that is taken. -/
structure Tick where
  /-- When it was due. -/
  due : Instant
  /-- When it is taken, and the heartbeat begins. -/
  taken : Instant
deriving DecidableEq, Repr

namespace Ticker

variable {period : Duration} {start due now : Instant} {ticks : List Tick} {t : Ticker}

theorem le_of_isDue (h : t.isDue now = true) : t.due ≤ now := by
  have hround : (t.due + 999999) / 1000000 * 1000000 ≤ now := of_decide_eq_true h
  unfold Instant at *
  omega

/-- Whether it was taken within the tolerance or later, the tick after it is due one or more whole
periods after it was. -/
theorem exists_nextDue_eq (period : Duration) (hdue : due ≤ now) :
    ∃ n : Nat, 0 < n ∧ nextDue period due now = due + n * period.nanos := by
  by_cases hlate : due.after tolerance < now
  · -- The ticks between are left out; what is left over of the last period is taken off again.
    refine ⟨(now - due) / period.nanos + 1, Nat.succ_pos _, ?_⟩
    have hdiv := Nat.div_add_mod (now - due) period.nanos
    have hmod := Nat.mod_le (now - due) period.nanos
    rw [nextDue, if_pos hlate, Nat.add_mul, one_mul, Nat.mul_comm ((now - due) / period.nanos)]
    unfold Instant at *
    omega
  · exact ⟨1, Nat.one_pos, by rw [nextDue, if_neg hlate, one_mul]; rfl⟩

/-- The ticks that a ticker can come to that was made at `start`, in their order, and when the next
one is due after them. Each is taken when it is due, or at any time later. -/
inductive Takes (period : Duration) (start : Instant) : List Tick → Instant → Prop
  | nil : Takes period start [] start
  | snoc {ticks : List Tick} {due now : Instant} (h : Takes period start ticks due)
      (hdue : due ≤ now) :
      Takes period start (ticks ++ [⟨due, now⟩]) (nextDue period due now)

namespace Takes

/-- The next tick is due on the grid, at least as many periods after the start as ticks were
taken. -/
theorem exists_due_eq (h : Takes period start ticks due) :
    ∃ n : Nat, ticks.length ≤ n ∧ due = start + n * period.nanos := by
  induction h with
  | nil => exact ⟨0, Nat.le_refl _, by rw [Nat.zero_mul]; rfl⟩
  | @snoc ticks due now _ hdue ih =>
    obtain ⟨n, hn, rfl⟩ := ih
    obtain ⟨m, hm, heq⟩ := exists_nextDue_eq period hdue
    refine ⟨n + m, ?_, by rw [heq, Nat.add_mul, Nat.add_assoc]⟩
    rw [List.length_append, List.length_singleton]
    omega

/-- Every tick was due on the grid, and was not taken before. -/
theorem on_grid (h : Takes period start ticks due) :
    ∀ x ∈ ticks, (∃ n : Nat, x.due = start + n * period.nanos) ∧ x.due ≤ x.taken := by
  induction h with
  | nil => simp
  | snoc h hdue ih =>
    intro x hx
    rcases List.mem_append.mp hx with hx | hx
    · exact ih x hx
    · obtain rfl := List.mem_singleton.mp hx
      obtain ⟨n, -, hn⟩ := h.exists_due_eq
      exact ⟨⟨n, hn⟩, hdue⟩

/-- The tick of a number was due at least as many periods after the start. -/
theorem le_due (h : Takes period start ticks due) (i : Nat) (hi : i < ticks.length) :
    start + i * period.nanos ≤ ticks[i].due := by
  induction h with
  | nil => simp at hi
  | @snoc ticks due now h hdue ih =>
    by_cases hlt : i < ticks.length
    · rw [List.getElem_append_left hlt]
      exact ih hlt
    · obtain rfl : i = ticks.length := by
        rw [List.length_append, List.length_singleton] at hi
        omega
      obtain ⟨n, hn, rfl⟩ := h.exists_due_eq
      rw [List.getElem_concat_length rfl]
      exact Nat.add_le_add_left (Nat.mul_le_mul_right _ hn) start

/-- All ticks were due before the next one is. -/
theorem due_lt (h : Takes period start ticks due) (hperiod : 0 < period.nanos) :
    ∀ x ∈ ticks, x.due < due := by
  induction h with
  | nil => simp
  | @snoc ticks due now h hdue ih =>
    obtain ⟨n, hn, heq⟩ := exists_nextDue_eq period hdue
    have hlt : due < nextDue period due now :=
      heq ▸ Nat.lt_add_of_pos_right (Nat.mul_pos hn hperiod)
    intro x hx
    rcases List.mem_append.mp hx with hx | hx
    · exact Nat.lt_trans (ih x hx) hlt
    · obtain rfl := List.mem_singleton.mp hx
      exact hlt

theorem pairwise_due (h : Takes period start ticks due) (hperiod : 0 < period.nanos) :
    ticks.Pairwise (·.due < ·.due) := by
  induction h with
  | nil => exact .nil
  | snoc h _ ih =>
    refine List.pairwise_append.mpr ⟨ih, List.pairwise_singleton _ _, fun x hx y hy => ?_⟩
    obtain rfl := List.mem_singleton.mp hy
    exact h.due_lt hperiod x hx

/-- Up to an instant, no more ticks are taken than are due on the grid. -/
theorem countP_le (h : Takes period start ticks due) (hperiod : 0 < period.nanos) (t : Instant) :
    ticks.countP (·.taken ≤ t) ≤ (t - start) / period.nanos + 1 := by
  induction h with
  | nil => exact Nat.zero_le _
  | @snoc ticks due now h hdue ih =>
    rw [List.countP_append, List.countP_singleton]
    by_cases ht : now ≤ t
    · -- All ticks so far may be among them, but the last one was due on the grid no later
      -- than at `t`.
      obtain ⟨n, hn, rfl⟩ := h.exists_due_eq
      have hle : n ≤ (t - start) / period.nanos :=
        (Nat.le_div_iff_mul_le hperiod).mpr (Nat.le_sub_of_add_le' (Nat.le_trans hdue ht))
      have hcount : ticks.countP (·.taken ≤ t) ≤ ticks.length := List.countP_le_length
      rw [if_pos (decide_eq_true ht)]
      omega
    · simpa [ht] using ih

end Takes

end Ticker

/-! ### The ticker of a loop -/

/-- The ticker of a loop, if it has one. -/
def LoopPhase.ticker? : LoopPhase → Option Ticker
  | ticking t | beating t => some t
  | queued _ | ended _ => none

namespace Scheduler

/-- No scheduler has a shorter period than the shortest one. -/
theorem shortestPeriod_le_longer (period : Duration) :
    shortestPeriod.nanos ≤ (period.longer shortestPeriod).nanos := by
  rw [Duration.longer]
  split_ifs with h
  · exact Nat.le_refl _
  · exact Nat.le_of_not_le h

/-- The ticker of the loop of a number, if the loop has one. -/
def ticker? (s : Scheduler) (k : Nat) : Option Ticker := (s.phase? k).bind (·.ticker?)

/-- Whether the loop of a number waits for the end of the one before it. -/
def IsQueued (s : Scheduler) (k : Nat) : Prop := ∃ previous, s.phase? k = some (.queued previous)

/-- Whether the loop of a number has had no ticker yet: it has not been started, or waits for the
end of the one before it. -/
def IsNew (s : Scheduler) (k : Nat) : Prop := s.phase? k = none ∨ s.IsQueued k

variable {s : Scheduler} {j k : Nat}

theorem period_advance (s : Scheduler) (k : Nat) (now : Instant) :
    (s.advance k now).state.period = s.period := by
  cases hl : s.loops[k]? with
  | none => simp only [advance, hl]
  | some l =>
    simp only [advance, hl]
    cases l.phase with
    | queued previous => dsimp only; split_ifs <;> rfl
    | ticking ticker => dsimp only; split_ifs <;> rfl
    | beating ticker | ended how => rfl

theorem period_finishBeat (s : Scheduler) (q : NoticeQueue) (k : Nat)
    (outcome : Except SessionError BeatOutcome) :
    (s.finishBeat q k outcome).state.1.period = s.period := by
  rcases outcome with e | ⟨n, _ | _⟩ | _ <;> rfl

/-- No section makes a ticker for a loop that is not there. -/
theorem Change.ticker?_eq_none {b : Bool} {s' : Scheduler} (hc : Change s b s')
    (hl : s.loops[k]? = none) : s'.ticker? k = none := by
  have hphase : s.phase? k = none := by simp [phase?, hl]
  cases hc with
  | still => simp [ticker?, hphase]
  | started =>
    by_cases hk : k = s.loops.length
    · simp [ticker?, phase?, hk, LoopPhase.ticker?]
    · simp only [ticker?, phase?, getElem?_started hk, hl]
      rfl
  | told j slot =>
    change ((s.cancelLoop j).state.phase? k).bind _ = none
    rw [phase?_cancelLoop, hphase]
    rfl
  | moved j l l' inFlight hj =>
    change ((s.setLoop j l').phase? k).bind _ = none
    have hjk : k ≠ j := by
      rintro rfl
      cases hl.symm.trans hj
    rw [phase?_setLoop hj, if_neg hjk, hphase]
    rfl

namespace Traffic

variable {x y : Traffic} {m : Move} {ms : List Move}

theorem period_turn (x : Traffic) (m : Move) :
    (x.turn m).state.scheduler.period = x.scheduler.period := by
  cases m with
  | start =>
    change x.scheduler.start.state.period = _
    rw [start]
    split_ifs <;> rfl
  | stop =>
    change x.scheduler.stop.state.period = _
    rw [stop]
    split <;> rfl
  | join =>
    change x.scheduler.beginJoin.state.period = _
    rw [beginJoin]
    split <;> rfl
  | take | close | breakDown => rfl
  | advance j now => exact period_advance _ j now
  | finishBeat j outcome => exact period_finishBeat _ _ j outcome

/-! ### The sections of a loop -/

namespace Entry

/-- Whether the loop of the number has its ticker made in the section, at the instant: it waits for
the loop before it no longer. -/
def Opens (a : Entry) (k : Nat) (now : Instant) : Prop :=
  a.move = .advance k now ∧ a.before.scheduler.IsQueued k ∧ ¬ a.turn.state.scheduler.IsQueued k

/-- The tick that the loop of the number takes in the section, if it lets the heart beat. -/
def tick? (a : Entry) (k : Nat) : Option Tick :=
  match a.move with
  | .advance j now =>
    if j = k ∧ (a.before.scheduler.advance j now).result = .beat then
      (a.before.scheduler.ticker? k).map fun t => ⟨t.due, now⟩
    else none
  | _ => none

/-- The loop of the number takes a tick in a section exactly if it begins a heartbeat in it. -/
theorem isSome_tick?_iff {a : Entry} (hm : a.before.Possible a.move) :
    (a.tick? k).isSome ↔ a.before.Begins a.move k := by
  rw [begins_iff hm, tick?]
  constructor
  · intro h
    split at h
    · next j now hmove =>
      split_ifs at h with hbeat
      · exact ⟨now, hbeat.1 ▸ hmove, hbeat.1 ▸ hbeat.2⟩
      · cases h
    · cases h
  · rintro ⟨now, hmove, hbeat⟩
    obtain ⟨ticker, hl, -⟩ := ticking_of_beat hbeat
    rw [hmove]
    simp [hbeat, ticker?, phase?, hl, LoopPhase.ticker?]

end Entry

/-- What a section does to the ticker of the loop of a number: it is made, its tick is taken, or it
stays what it is, unless the loop ends. -/
inductive Paces (a : Entry) (k : Nat) (s' : Scheduler) : Prop
  | opened (now : Instant) (ht : a.tick? k = none) (hq : a.before.scheduler.IsQueued k)
      (hm : a.move = .advance k now)
      (hp : s'.phase? k = some (.ticking (.start now a.before.scheduler.period)))
  | took (ticker : Ticker) (now : Instant) (ht : a.tick? k = some ⟨ticker.due, now⟩)
      (hdue : ticker.due ≤ now) (hl : a.before.scheduler.phase? k = some (.ticking ticker))
      (hp : s'.phase? k = some (.beating (ticker.take now)))
  | kept (ht : a.tick? k = none) (ho : a.before.scheduler.IsQueued k → s'.IsQueued k)
      (hq : s'.IsNew k → a.before.scheduler.IsNew k)
      (hp : ∀ ticker, s'.ticker? k = some ticker → a.before.scheduler.ticker? k = some ticker)

namespace Paces

variable {a : Entry} {s' : Scheduler}

/-- A section that does not change what the loop is doing. -/
theorem of_eq (ht : a.tick? k = none) (hp : s'.phase? k = a.before.scheduler.phase? k) :
    Paces a k s' :=
  .kept ht (fun ⟨previous, h⟩ => ⟨previous, hp.trans h⟩)
    (by simp only [IsNew, IsQueued, hp]; exact id) (by simp only [ticker?, hp]; exact fun _ => id)

/-- A section with which the loop ends. -/
theorem of_ended {ticker : Ticker} {how : Ending} (ht : a.tick? k = none)
    (hl : a.before.scheduler.ticker? k = some ticker) (hp : s'.phase? k = some (.ended how)) :
    Paces a k s' := by
  refine .kept ht ?_ ?_ ?_
  · rintro ⟨previous, h⟩
    simp [ticker?, h, LoopPhase.ticker?] at hl
  · simp [IsNew, IsQueued, hp]
  · simp [ticker?, hp, LoopPhase.ticker?]

/-- A section in which the loop is not there yet, or comes to be. -/
theorem of_none (ht : a.tick? k = none) (hl : a.before.scheduler.phase? k = none)
    (hp : s'.ticker? k = none) : Paces a k s' := by
  refine .kept ht ?_ (fun _ => .inl hl) ?_
  · rintro ⟨previous, h⟩
    cases hl.symm.trans h
  · simp [hp]

end Paces

/-- The sections of a loop outside its heartbeats. -/
theorem paces_advance (x : Traffic) (k : Nat) (now : Instant) :
    Paces ⟨x, .advance k now⟩ k (x.scheduler.advance k now).state := by
  have hnone (h : (x.scheduler.advance k now).result ≠ .beat) :
      Entry.tick? ⟨x, .advance k now⟩ k = none := by simp [Entry.tick?, h]
  cases hl : x.scheduler.loops[k]? with
  | none => exact .of_eq (hnone (by simp [advance, hl])) (by simp only [advance, hl])
  | some l =>
    obtain ⟨phase, c⟩ := l
    have hphase : x.scheduler.phase? k = some phase := by simp [phase?, hl]
    cases phase with
    | queued previous =>
      cases h : previous.all x.scheduler.hasEnded with
      | true =>
        refine .opened now (hnone ?_) ⟨previous, hphase⟩ rfl ?_ <;>
          simp [advance_of_queued hl h, phase?_setLoop hl]
      | false =>
        exact .of_eq (hnone (by simp [advance_of_waiting hl h])) (by rw [advance_of_waiting hl h])
    | ticking ticker =>
      cases c with
      | true =>
        have hticker : x.scheduler.ticker? k = some ticker := by
          rw [ticker?, hphase]
          rfl
        have hended : (x.scheduler.advance k now).state.phase? k = some (.ended .stopped) := by
          simp [advance_of_cancelled hl, phase?_setLoop hl]
        exact .of_ended (hnone (by simp [advance_of_cancelled hl])) hticker hended
      | false =>
        cases h : ticker.isDue now with
        | true =>
          refine .took ticker now ?_ (Ticker.le_of_isDue h) hphase ?_
          · simp [Entry.tick?, advance_of_due hl h, ticker?, hphase, LoopPhase.ticker?]
          · rw [advance_of_due hl h]
            exact (phase?_setLoop hl).trans (if_pos rfl)
        | false =>
          exact .of_eq (hnone (by simp [advance_of_early hl h])) (by rw [advance_of_early hl h])
    | beating ticker | ended how =>
      exact .of_eq (hnone (by simp [advance, hl])) (by simp only [advance, hl])

/-- The section of a loop after a heartbeat. -/
theorem paces_finishBeat (hk : x.scheduler.IsBeating k)
    (outcome : Except SessionError BeatOutcome) :
    Paces ⟨x, .finishBeat k outcome⟩ k (x.scheduler.finishBeat x.notices k outcome).state.1 := by
  obtain ⟨ticker, c, hl⟩ := hk.exists_loop
  have hticker : x.scheduler.ticker? k = some ticker := by
    simp [ticker?, phase?, hl, LoopPhase.ticker?]
  have hphase (l' : Loop) :
      ({ x.scheduler.setLoop k l' with inFlight := false } : Scheduler).phase? k = some l'.phase :=
    (phase?_setLoop hl).trans (if_pos rfl)
  cases ho : Termination.of? outcome with
  | none =>
    rw [finishBeat_of_none hl ho]
    refine .kept rfl ?_ ?_ ?_
    · rintro ⟨previous, h⟩
      simp [phase?, hl] at h
    · simp [IsNew, IsQueued, hphase]
    · intro ticker' h
      rw [ticker?, hphase] at h
      exact hticker.trans h
  | some t =>
    rw [(finishBeat_of_some hl ho).1]
    exact .of_ended rfl hticker (hphase _)

/-- What a section does to the ticker of a loop. -/
theorem paces_turn (hm : x.Possible m) (k : Nat) :
    Paces ⟨x, m⟩ k (x.turn m).state.scheduler := by
  by_cases hown : m.loop? = some k
  · cases m with
    | advance j now =>
      obtain rfl := Option.some.inj hown
      exact paces_advance x j now
    | finishBeat j outcome =>
      obtain rfl := Option.some.inj hown
      exact paces_finishBeat hm outcome
    | breakDown j =>
      obtain rfl := Option.some.inj hown
      obtain ⟨ticker, c, hl⟩ := hm.exists_loop
      have hticker : x.scheduler.ticker? j = some ticker := by
        simp [ticker?, phase?, hl, LoopPhase.ticker?]
      have hended : (x.turn (.breakDown j)).state.scheduler.phase? j = some (.ended .broken) := by
        simp [turn, onScheduler, breakDown_eq hl, phase?_setLoop hl]
      exact .of_ended rfl hticker hended
    | start | stop | join | take | close => cases hown
  · have ht : Entry.tick? ⟨x, m⟩ k = none := by
      cases m with
      | advance j now =>
        have hjk : j ≠ k := fun h => hown (congrArg some h)
        simp [Entry.tick?, hjk]
      | start | stop | join | take | close | finishBeat | breakDown => rfl
    cases hl : x.scheduler.loops[k]? with
    | some l => exact .of_eq ht (phase?_turn hl hown)
    | none => exact .of_none ht (by simp [phase?, hl]) ((change_turn hm).ticker?_eq_none hl)

/-! ### The ticks of a loop -/

/-- The sections of a list of moves. -/
def entries (x : Traffic) : List Move → List Entry
  | [] => []
  | m :: ms => ⟨x, m⟩ :: entries (x.turn m).state ms

/-- The ticks that the loop of a number takes in some sections. -/
def ticks (as : List Entry) (k : Nat) : List Tick := as.filterMap (·.tick? k)

theorem ticks_concat (as : List Entry) (a : Entry) (k : Nat) :
    ticks (as ++ [a]) k = ticks as k ++ (a.tick? k).toList := by
  rw [ticks, ticks, List.filterMap_append]
  cases h : a.tick? k <;> simp [h]

theorem entries_concat (x : Traffic) (ms : List Move) (m : Move) :
    x.entries (ms ++ [m]) = x.entries ms ++ [⟨x.after ms, m⟩] := by
  induction ms generalizing x with
  | nil => rfl
  | cons m' ms ih => exact congrArg _ (ih (x.turn m').state)

theorem Continues.eq_after (hy : x.Continues ms y) : y = x.after ms := by
  induction hy with
  | nil => rfl
  | snoc _ _ ih => rw [ih, after, after, List.foldl_append]; rfl

theorem Continues.period_eq (hy : x.Continues ms y) : y.scheduler.period = x.scheduler.period := by
  induction hy with
  | nil => rfl
  | snoc _ _ ih => exact (period_turn _ _).trans ih

/-- How the ticks of a loop stand after some sections: they are those of one ticker, which is the
ticker of the loop while it has one. As long as it has had none, there are no ticks. -/
structure Paced (period : Duration) (as : List Entry) (s : Scheduler) (k : Nat)
    (start due : Instant) :
    Prop where
  takes : Ticker.Takes period start (ticks as k) due
  opens : ∀ a ∈ as, ∀ now, a.Opens k now → now = start
  ticker : ∀ t, s.ticker? k = some t → t = ⟨period, due⟩
  fresh : s.IsNew k → ticks as k = [] ∧ ∀ a ∈ as, ∀ now, ¬ a.Opens k now

variable {period : Duration} {as : List Entry} {s : Scheduler} {start due : Instant}

theorem Paced.step (h : Paced period as x.scheduler k start due)
    (hperiod : x.scheduler.period = period) (hm : x.Possible m) :
    ∃ start due, Paced period (as ++ [⟨x, m⟩]) (x.turn m).state.scheduler k start due := by
  have hpaces := paces_turn hm k
  have hopens {start' : Instant} (hold : ∀ a ∈ as, ∀ now, a.Opens k now → now = start')
      (hnew : ∀ now, Entry.Opens ⟨x, m⟩ k now → now = start') :
      ∀ a ∈ as ++ [⟨x, m⟩], ∀ now, a.Opens k now → now = start' := by
    intro a ha
    rcases List.mem_append.mp ha with ha | ha
    · exact hold a ha
    · obtain rfl := List.mem_singleton.mp ha
      exact hnew
  cases hpaces with
  | opened now ht hq hmove hp =>
    -- This is the ticker of the loop: there was none before, and so there were no ticks.
    obtain ⟨hnil, hnone⟩ := h.fresh (.inr hq)
    refine ⟨now, now, ?_, hopens (fun a ha t ho => absurd ho (hnone a ha t)) ?_, ?_, ?_⟩
    · rw [ticks_concat, hnil, ht]
      exact .nil
    · rintro t ⟨hm', -⟩
      obtain ⟨-, rfl⟩ := Move.advance.inj (hmove.symm.trans hm')
      rfl
    · intro t hticker
      rw [ticker?, hp] at hticker
      obtain rfl := Option.some.inj hticker
      exact congrArg (Ticker.mk · now) hperiod
    · simp [IsNew, IsQueued, hp]
  | took ticker now ht hdue hl hp =>
    obtain rfl := h.ticker ticker (by rw [ticker?, hl]; rfl)
    refine ⟨start, Ticker.nextDue period due now, ?_, hopens h.opens ?_, ?_, ?_⟩
    · rw [ticks_concat, ht]
      exact .snoc h.takes hdue
    · rintro t ⟨-, ⟨previous, hq⟩, -⟩
      cases hl.symm.trans hq
    · intro t hticker
      rw [ticker?, hp] at hticker
      exact (Option.some.inj hticker).symm
    · simp [IsNew, IsQueued, hp]
  | kept ht ho hq hp =>
    have hnot : ∀ now, ¬ Entry.Opens ⟨x, m⟩ k now := fun now hopen => hopen.2.2 (ho hopen.2.1)
    have hticks : ticks (as ++ [⟨x, m⟩]) k = ticks as k := by
      rw [ticks_concat, ht, Option.toList_none, List.append_nil]
    refine ⟨start, due, hticks ▸ h.takes, hopens h.opens fun now hopen => absurd hopen (hnot now),
      fun t ht => h.ticker t (hp t ht), fun hnew => ?_⟩
    obtain ⟨hnil, hnone⟩ := h.fresh (hq hnew)
    refine ⟨hticks.trans hnil, fun a ha => ?_⟩
    rcases List.mem_append.mp ha with ha | ha
    · exact hnone a ha
    · obtain rfl := List.mem_singleton.mp ha
      exact hnot

/-- The ticks of a loop are those of its ticker. -/
theorem Continues.paced (hx : x.scheduler.loops = []) (hy : x.Continues ms y) (k : Nat) :
    ∃ start due, Paced x.scheduler.period (x.entries ms) y.scheduler k start due := by
  induction hy with
  | nil =>
    refine ⟨0, 0, .nil, by simp [entries], fun t ht => ?_, fun _ => ⟨rfl, by simp [entries]⟩⟩
    simp [ticker?, phase?, hx] at ht
  | snoc hy hm ih =>
    obtain ⟨start, due, h⟩ := ih
    rw [entries_concat, ← hy.eq_after]
    exact h.step hy.period_eq hm

theorem Continues.possible (hy : x.Continues ms y) :
    ∀ a ∈ x.entries ms, a.before.Possible a.move := by
  induction hy with
  | nil => simp [entries]
  | snoc hy hm ih =>
    intro a ha
    rw [entries_concat, ← hy.eq_after] at ha
    rcases List.mem_append.mp ha with ha | ha
    · exact ih a ha
    · obtain rfl := List.mem_singleton.mp ha
      exact hm

/-- When the heartbeats of a loop begin whose ticker is made at `start`, whatever else is done to
the scheduler and however long the heartbeats take. The ticks that it takes are its heartbeats. They
are due at instants that increase, each of them a whole number of periods after the start, and no
heartbeat begins before its tick is due. So the heartbeat of a number does not begin before as many
periods have passed, and up to an instant there are no more heartbeats than are due on the grid of
the periods. -/
theorem paced_of_continues {heart : String} {period : Duration} {q : NoticeQueue} {start : Instant}
    (hy : Continues ⟨.make heart period, q⟩ ms y)
    (hopen : ∃ a ∈ entries ⟨.make heart period, q⟩ ms, a.Opens k start) :
    let P := (period.longer shortestPeriod).nanos
    let as := entries ⟨.make heart period, q⟩ ms
    let ts := ticks as k
    (∀ a ∈ as, (a.tick? k).isSome ↔ a.before.Begins a.move k) ∧
    ts.Pairwise (·.due < ·.due) ∧
    (∀ x ∈ ts, (∃ n : Nat, x.due = start + n * P) ∧ x.due ≤ x.taken) ∧
    (∀ i (hi : i < ts.length), start + i * P ≤ ts[i].taken) ∧
    ∀ t, start ≤ t → ts.countP (·.taken ≤ t) ≤ (t - start) / P + 1 := by
  intro P as ts
  have hpos : 0 < (period.longer shortestPeriod).nanos :=
    Nat.lt_of_lt_of_le (by decide) (shortestPeriod_le_longer period)
  obtain ⟨start', due, h⟩ := hy.paced rfl k
  obtain ⟨a, ha, hopen⟩ := hopen
  obtain rfl := h.opens a ha start hopen
  have htakes : Ticker.Takes (period.longer shortestPeriod) start ts due := h.takes
  refine ⟨fun a ha => Entry.isSome_tick?_iff (hy.possible a ha), htakes.pairwise_due hpos,
    htakes.on_grid, fun i hi => ?_, fun t _ => htakes.countP_le hpos t⟩
  calc start + i * P ≤ ts[i].due := htakes.le_due i hi
    _ ≤ ts[i].taken := (htakes.on_grid _ (List.getElem_mem hi)).2

open Instant (ofMillis)

/-- With a period of two milliseconds, shorter than the tolerance: a heartbeat takes until nine
milliseconds, so that three ticks are left out, and another one until fifteen, after which two ticks
follow one another at once. -/
theorem paced_through_overruns :
    let moves : List Move :=
      [.start, .advance 0 0, .advance 0 0, .finishBeat 0 (.ok (.acked 0 .continue)),
        .advance 0 (ofMillis 9), .finishBeat 0 (.ok (.missed 1 1)), .advance 0 (ofMillis 9),
        .advance 0 (ofMillis 10), .finishBeat 0 (.ok (.acked 2 .continue)),
        .advance 0 (ofMillis 15), .finishBeat 0 (.ok (.acked 3 .continue)),
        .advance 0 (ofMillis 15)]
    let x : Traffic := ⟨.make "session" (.ofMillis 2), { capacity := 4 }⟩
    let ts := ticks (x.entries moves) 0
    x.Continues moves (x.after moves) ∧ (∃ a ∈ x.entries moves, a.Opens 0 0) ∧
      ts = [⟨0, 0⟩, ⟨ofMillis 2, ofMillis 9⟩, ⟨ofMillis 10, ofMillis 10⟩,
        ⟨ofMillis 12, ofMillis 15⟩, ⟨ofMillis 14, ofMillis 15⟩] ∧
      ts.countP (·.taken ≤ ofMillis 15) ≤ 8 := by
  intro moves x ts
  have h₁ := Continues.snoc (x := ⟨.make "session" (.ofMillis 2), { capacity := 4 }⟩)
    (m := .start) .nil trivial
  have h₂ := h₁.snoc (m := .advance 0 0) trivial
  have h₃ := h₂.snoc (m := .advance 0 0) trivial
  have h₄ := h₃.snoc (m := .finishBeat 0 (.ok (.acked 0 .continue))) ⟨_, rfl⟩
  have h₅ := h₄.snoc (m := .advance 0 (ofMillis 9)) trivial
  have h₆ := h₅.snoc (m := .finishBeat 0 (.ok (.missed 1 1))) ⟨_, rfl⟩
  have h₇ := h₆.snoc (m := .advance 0 (ofMillis 9)) trivial
  have h₈ := h₇.snoc (m := .advance 0 (ofMillis 10)) trivial
  have h₉ := h₈.snoc (m := .finishBeat 0 (.ok (.acked 2 .continue))) ⟨_, rfl⟩
  have h₁₀ := h₉.snoc (m := .advance 0 (ofMillis 15)) trivial
  have h₁₁ := h₁₀.snoc (m := .finishBeat 0 (.ok (.acked 3 .continue))) ⟨_, rfl⟩
  have hy : x.Continues moves (x.after moves) := h₁₁.snoc (m := .advance 0 (ofMillis 15)) trivial
  have hopen : ∃ a ∈ x.entries moves, a.Opens 0 0 := by
    refine ⟨_, List.mem_cons_of_mem _ List.mem_cons_self, rfl, ⟨_, rfl⟩, ?_⟩
    rintro ⟨previous, h⟩
    cases h
  obtain ⟨-, -, -, -, hcount⟩ := paced_of_continues hy hopen
  exact ⟨hy, hopen, by decide +kernel, hcount (ofMillis 15) (Nat.zero_le _)⟩

end Traffic

end Scheduler

end FleetAgent
