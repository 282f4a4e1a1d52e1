import FleetAgent.Proofs.Scheduler.Sections

/-!
# A scheduler among its loops

The host starts and stops the heartbeats of a scheduler, waits for their end, and takes the notices
that loops leave; the loops that were started go on in sections of their own, and a heartbeat may
take any time. The *traffic* of a scheduler is the scheduler with the queue of its notices. A
section changes one loop at most.

## Main definitions

* `Loop.Change`, `Scheduler.Change`: what a section may do to a loop, and to the scheduler.
* `Scheduler.Traffic`, `Scheduler.Move`, `Scheduler.Traffic.turn`: the sections.
* `Scheduler.Traffic.Runs`: the traffic of a new scheduler under a discipline.

## Main results

* `Scheduler.Traffic.change_turn`: every section does one of these things.
-/

namespace FleetAgent

/-- What a section of the scheduler `s` may make of a loop, and whether a heartbeat counts as in
flight afterwards. -/
inductive Loop.Change (s : Scheduler) : Loop → Loop → Bool → Prop
  | opened (previous : Option Nat) (c : Bool) (ticker : Ticker) (h : previous.all s.hasEnded) :
      Change s ⟨.queued previous, c⟩ ⟨.ticking ticker, c⟩ s.inFlight
  | stopped (ticker : Ticker) :
      Change s ⟨.ticking ticker, true⟩ ⟨.ended .stopped, true⟩ s.inFlight
  | began (ticker ticker' : Ticker) :
      Change s ⟨.ticking ticker, false⟩ ⟨.beating ticker', false⟩ true
  | rested (ticker : Ticker) (c : Bool) :
      Change s ⟨.beating ticker, c⟩ ⟨.ticking ticker, c⟩ false
  | failed (ticker : Ticker) (c : Bool) (how : Ending) (h : how = .requested ∨ how = .lost) :
      Change s ⟨.beating ticker, c⟩ ⟨.ended how, true⟩ false
  | broke (ticker : Ticker) (c : Bool) :
      Change s ⟨.beating ticker, c⟩ ⟨.ended .broken, c⟩ s.inFlight

namespace Scheduler

/-- What a section may do to the scheduler `s`, and whether it is a start. -/
inductive Change (s : Scheduler) : Bool → Scheduler → Prop
  | still (b : Bool) : Change s b s
  | started (h : ∀ k, s.slot = some k → s.isCancelled k) :
      Change s true
        { s with
          loops := s.loops ++ [{ phase := .queued s.slot }]
          slot := some s.loops.length }
  | told (k : Nat) (slot : Option Nat) (hk : s.slot = some k)
      (hslot : slot = s.slot ∨ slot = none) :
      Change s false { (s.cancelLoop k).state with slot }
  | moved (k : Nat) (l l' : Loop) (inFlight : Bool) (hl : s.loops[k]? = some l)
      (h : Loop.Change s l l' inFlight) : Change s false { s.setLoop k l' with inFlight }

variable {s : Scheduler} {k : Nat}

theorem change_start (s : Scheduler) : Change s true s.start.state := by
  by_cases h : ∀ k, s.slot = some k → s.isCancelled k
  · rw [start_of_cancelled h]
    exact .started h
  · simp only [not_forall] at h
    obtain ⟨k, hk, h⟩ := h
    rw [start_of_running hk (by simpa using h)]
    exact .still _

theorem change_stop (s : Scheduler) : Change s false s.stop.state := by
  cases hk : s.slot with
  | none => simpa only [stop, hk] using .still _
  | some k =>
    simp only [stop, hk]
    exact .told k s.slot hk (.inl rfl)

theorem change_beginJoin (s : Scheduler) : Change s false s.beginJoin.state := by
  cases hk : s.slot with
  | none => simpa only [beginJoin, hk] using .still _
  | some k =>
    simp only [beginJoin, hk]
    exact .told k none hk (.inr rfl)

/-- The sections of a loop outside its heartbeats. -/
theorem change_advance (s : Scheduler) (k : Nat) (now : Instant) :
    Change s false (s.advance k now).state := by
  cases hl : s.loops[k]? with
  | none => simpa only [advance, hl] using .still _
  | some l =>
    obtain ⟨phase, c⟩ := l
    cases phase with
    | queued previous =>
      cases h : previous.all s.hasEnded with
      | true =>
        rw [advance_of_queued hl h]
        exact .moved k _ _ _ hl (.opened previous c _ h)
      | false =>
        rw [advance_of_waiting hl h]
        exact .still _
    | ticking ticker =>
      cases c with
      | true =>
        rw [advance_of_cancelled hl]
        exact .moved k _ _ _ hl (.stopped ticker)
      | false =>
        cases h : ticker.isDue now with
        | true =>
          rw [advance_of_due hl h]
          exact .moved k _ _ _ hl (.began ticker _)
        | false =>
          rw [advance_of_early hl h]
          exact .still _
    | beating ticker => simpa only [advance, hl] using .still _
    | ended how => simpa only [advance, hl] using .still _

/-- The end of a loop by itself, after a heartbeat. -/
theorem change_terminate {ticker : Ticker} {c : Bool}
    (hl : s.loops[k]? = some ⟨.beating ticker, c⟩) (q : NoticeQueue) (t : Termination) :
    Change s false ({ s with inFlight := false }.terminate q k t).state.1 := by
  have hs : ({ s with inFlight := false } : Scheduler).loops[k]? = some ⟨.beating ticker, c⟩ := hl
  have hend (how : Ending) (h : how = .requested ∨ how = .lost) :
      Change s false (({ s with inFlight := false }.modifyLoop k
        ({ · with isCancelled := true })).endLoop k how) := by
    rw [endLoop, modifyLoop_modifyLoop, modifyLoop_eq hs]
    exact .moved k _ _ _ hl (.failed ticker c how h)
  cases t with
  | requested => exact hend _ (.inl rfl)
  | lost e => exact hend _ (.inr rfl)

/-- The section of a loop after a heartbeat. -/
theorem change_finishBeat (hk : s.IsBeating k) (q : NoticeQueue)
    (outcome : Except SessionError BeatOutcome) :
    Change s false (s.finishBeat q k outcome).state.1 := by
  obtain ⟨ticker, c, hl⟩ := hk.exists_loop
  have hs : ({ s with inFlight := false } : Scheduler).loops[k]? = some ⟨.beating ticker, c⟩ := hl
  have hrest : Change s false { s.setLoop k ⟨.ticking ticker, c⟩ with inFlight := false } :=
    .moved k _ _ _ hl (.rested ticker c)
  rcases outcome with e | ⟨sequence, _ | _⟩ | _
  · exact change_terminate hl q (.lost e)
  · simp only [finishBeat, modifyLoop_eq hs]
    exact hrest
  · exact change_terminate hl q .requested
  · simp only [finishBeat, modifyLoop_eq hs]
    exact hrest

/-- The end of a loop whose heart broke down. -/
theorem change_breakDown (hk : s.IsBeating k) : Change s false (s.breakDown k).state := by
  obtain ⟨ticker, c, hl⟩ := hk.exists_loop
  rw [breakDown_eq hl]
  exact .moved k _ _ _ hl (.broke ticker c)

/-! ### Traffic -/

/-- A scheduler with the queue of its termination notices. -/
structure Traffic where
  /-- The scheduler. -/
  scheduler : Scheduler
  /-- The notices. -/
  notices : NoticeQueue
deriving DecidableEq, Repr

/-- What may happen next on a scheduler. -/
inductive Move where
  /-- The host starts the heartbeats. -/
  | start
  /-- The host stops the heartbeats. -/
  | stop
  /-- The host begins to wait for the end of the present loop. -/
  | join
  /-- The host takes the oldest notice. -/
  | take
  /-- The host watches the notices no longer. -/
  | close
  /-- A section of the loop of a number outside its heartbeats. -/
  | advance (loop : Nat) (now : Instant)
  /-- A heartbeat of the loop of a number has come out. -/
  | finishBeat (loop : Nat) (outcome : Except SessionError BeatOutcome)
  /-- The heart breaks down in a heartbeat of the loop of a number. -/
  | breakDown (loop : Nat)
deriving DecidableEq, Repr

/-- Whether a move is a start. -/
def Move.starts : Move → Bool
  | .start => true
  | _ => false

namespace Traffic

/-- A section of the scheduler that leaves the notices alone. -/
def onScheduler {ρ : Type} (x : Traffic) (f : Scheduler → Turn Scheduler ρ) : Turn Traffic Unit :=
  ((f x.scheduler).within fun scheduler => { x with scheduler }).map fun _ => ()

/-- The section of a move. -/
def turn (x : Traffic) : Move → Turn Traffic Unit
  | .start => x.onScheduler start
  | .stop => x.onScheduler stop
  | .join => x.onScheduler beginJoin
  | .take =>
    { state := { x with notices := (x.notices.pop?.map (·.2)).getD x.notices }, result := () }
  | .close => { state := { x with notices := x.notices.close }, result := () }
  | .advance k now => x.onScheduler (·.advance k now)
  | .finishBeat k outcome =>
    ((x.scheduler.finishBeat x.notices k outcome).within fun s => ⟨s.1, s.2⟩).map fun _ => ()
  | .breakDown k => x.onScheduler (·.breakDown k)

/-- The traffic after some moves. -/
def after (x : Traffic) (ms : List Move) : Traffic := ms.foldl (fun x m => (x.turn m).state) x

/-- A heartbeat ends in a loop for which the heart beats; everything else may happen at any time. -/
def Possible (x : Traffic) : Move → Prop
  | .finishBeat k _ | .breakDown k => x.scheduler.IsBeating k
  | _ => True

/-- Every section does one of the things that a section may do. -/
theorem change_turn {x : Traffic} {m : Move} (hm : x.Possible m) :
    Change x.scheduler m.starts (x.turn m).state.scheduler := by
  cases m with
  | start => exact change_start _
  | stop => exact change_stop _
  | join => exact change_beginJoin _
  | take | close => exact .still _
  | advance k now => exact change_advance _ k now
  | finishBeat k outcome => exact change_finishBeat hm _ outcome
  | breakDown k => exact change_breakDown hm

/-- The traffic that a new scheduler can come to while its moves are allowed. -/
inductive Runs (allowed : Traffic → Move → Prop) : Traffic → Prop
  | new (heart : String) (period : Duration) (capacity : Nat) :
      Runs allowed ⟨.make heart period, { capacity }⟩
  | step {x : Traffic} {m : Move} (hx : Runs allowed x) (hm : x.Possible m) (h : allowed x m) :
      Runs allowed (x.turn m).state

/-- The traffic that a new scheduler can come to. -/
abbrev Reachable : Traffic → Prop := Runs fun _ _ => True

theorem Runs.reachable {allowed : Traffic → Move → Prop} {x : Traffic} (hx : Runs allowed x) :
    Reachable x := by
  induction hx with
  | new heart period capacity => exact .new heart period capacity
  | step _ hm _ ih => exact .step ih hm trivial

end Traffic

end Scheduler

end FleetAgent
