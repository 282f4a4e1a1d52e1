import FleetAgent.Proofs.Agent.Traffic
import FleetAgent.Proofs.Scheduler.Senders

/-!
# The heartbeat loops of an agent

What a section of a heartbeat loop does to the core: the loop waits for the one before it, ends
because it was told to, lets the heart beat, or takes note of the outcome of a heartbeat, with which
it may end and leave a notice. The task of a loop waits where the loop does, and no two tasks belong
to the same loop, so a section of a task is a section of one loop that finds what it expects.

## Main definitions

* `HeartBeat.Begins`, `HeartBeat.Ends`: the two halves of a heartbeat.
* `Agent.Pulse`: what a section of a heartbeat loop may do.
* `Agent.Traffic.Tended`: every task of a loop waits where its loop does.

## Main results

* `Agent.pulse_resume`: every section of a loop does one of these things.
* `Agent.Traffic.Runs.tended`: in the traffic of an agent every loop is tended.
-/

namespace FleetAgent

/-- Whether a loop waits where its task does: outside its heartbeats, or for the outcome of one. -/
def Loop.Waits (l : Loop) : Option HeartBeat → Prop
  | none => (∃ previous, l.phase = .queued previous) ∨ ∃ ticker, l.phase = .ticking ticker
  | some _ => ∃ ticker, l.phase = .beating ticker

theorem Loop.Waits.of_phase {l l' : Loop} {b : Option HeartBeat} (h : l.Waits b)
    (hp : l'.phase = l.phase) : l'.Waits b := by
  cases b <;> simpa only [Waits, hp] using h

namespace HeartBeat

/-- Whose beat it is. -/
def heart : HeartBeat → Heart
  | session _ => .session
  | own => .own

/-- A heartbeat begins: the session manager `s` becomes `s'`. -/
def Begins : HeartBeat → (s s' : Session) → Prop
  | session b, s, s' => s.beginBeat.result = .waiting b ∧ s' = s.beginBeat.state
  | own, s, s' => s' = s

/-- A heartbeat has an outcome, with what the surroundings bring: the session manager `s` becomes
`s'`. -/
def Ends (d : Delivery) : HeartBeat → (s s' : Session) → Except SessionError BeatOutcome → Prop
  | session b, s, s', outcome => ∃ answer, d.reply b.request = some answer ∧
      s' = (s.finishBeat d.now b answer).state ∧ outcome = (s.finishBeat d.now b answer).result
  | own, s, s', _ => s' = s

end HeartBeat

namespace Agent

open Effect (spawned)

/-- What a section of the heartbeat loop of a number may do to the core `c`, given the heartbeat
that it waits for and what the surroundings have brought: the core afterwards, and the stage at
which the loop now waits, if it does. -/
inductive Pulse (c : Core) (d : Delivery) (k : Nat) :
    Option HeartBeat → Core → Option Activity → Prop
  | opened {previous : Option Nat} {told : Bool} (ticker : Ticker)
      (hl : c.scheduler.loops[k]? = some ⟨.queued previous, told⟩) :
      Pulse c d k none { c with scheduler := c.scheduler.setLoop k ⟨.ticking ticker, told⟩ }
        (some (.loop k none))
  | stopped {ticker : Ticker} (hl : c.scheduler.loops[k]? = some ⟨.ticking ticker, true⟩) :
      Pulse c d k none { c with scheduler := c.scheduler.setLoop k ⟨.ended .stopped, true⟩ } none
  | began {ticker : Ticker} (ticker' : Ticker) (b : HeartBeat) (s : Session)
      (hl : c.scheduler.loops[k]? = some ⟨.ticking ticker, false⟩) (hh : c.heart = b.heart)
      (hb : b.Begins c.session s) :
      Pulse c d k none
        { c with
          session := s
          scheduler := { c.scheduler.setLoop k ⟨.beating ticker', false⟩ with inFlight := true } }
        (some (.loop k (some b)))
  | refused {ticker : Ticker} (hl : c.scheduler.loops[k]? = some ⟨.ticking ticker, false⟩)
      (hs : c.session.established? = none) :
      Pulse c d k none
        { c with
          scheduler := { c.scheduler.setLoop k ⟨.ended .lost, true⟩ with inFlight := false }
          notices := (c.notices.offer (.lost (c.session.invalid "beat"))).2 } none
  | rested {ticker : Ticker} {told : Bool} (b : HeartBeat) (s : Session)
      (outcome : Except SessionError BeatOutcome)
      (hl : c.scheduler.loops[k]? = some ⟨.beating ticker, told⟩)
      (hb : b.Ends d c.session s outcome) (ho : Termination.of? outcome = none) :
      Pulse c d k (some b)
        { c with
          session := s
          scheduler := { c.scheduler.setLoop k ⟨.ticking ticker, told⟩ with inFlight := false } }
        (some (.loop k none))
  | failed {ticker : Ticker} {told : Bool} (b : HeartBeat) (s : Session)
      (outcome : Except SessionError BeatOutcome) (t : Termination)
      (hl : c.scheduler.loops[k]? = some ⟨.beating ticker, told⟩)
      (hb : b.Ends d c.session s outcome) (ho : Termination.of? outcome = some t) :
      Pulse c d k (some b)
        { c with
          session := s
          scheduler := { c.scheduler.setLoop k ⟨.ended t.ending, true⟩ with inFlight := false }
          notices := (c.notices.offer t).2 } none
  | broke {ticker : Ticker} {told : Bool} (b : HeartBeat)
      (hl : c.scheduler.loops[k]? = some ⟨.beating ticker, told⟩) :
      Pulse c d k (some b)
        { c with scheduler := c.scheduler.setLoop k ⟨.ended .broken, told⟩ } none

theorem Pulse.of_eq {c c' c'' : Core} {d : Delivery} {k : Nat} {b : Option HeartBeat}
    {n n' : Option Activity} (h : Pulse c d k b c' n) (hc : c'' = c') (hn : n' = n) :
    Pulse c d k b c'' n' := by
  subst hc hn
  exact h

variable {a : Agent} {d : Delivery} {k : Nat} {l : Loop} {told : Bool} {ticker : Ticker}
  {outcome : Except SessionError BeatOutcome} {t : ActivityTurn}

/-! ### The sections of a loop -/

theorem loopAfterBeat_of_none (hl : a.scheduler.loops[k]? = some ⟨.beating ticker, told⟩)
    (ho : Termination.of? outcome = none) :
    (a.loopAfterBeat k outcome).state.core =
        { a.core with
          scheduler := { a.scheduler.setLoop k ⟨.ticking ticker, told⟩ with inFlight := false } } ∧
      (a.loopAfterBeat k outcome).result.stage? = some (.loop k none) := by
  simp only [loopAfterBeat, onLoop, Scheduler.finishBeat_of_none hl ho]
  exact ⟨rfl, rfl⟩

theorem loopAfterBeat_of_some (hl : a.scheduler.loops[k]? = some l) {n : Termination}
    (ho : Termination.of? outcome = some n) :
    (a.loopAfterBeat k outcome).state.core =
        { a.core with
          scheduler := { a.scheduler.setLoop k ⟨.ended n.ending, true⟩ with inFlight := false }
          notices := (a.notices.offer n).2 } ∧
      (a.loopAfterBeat k outcome).result.stage? = none := by
  obtain ⟨hstate, hresult⟩ := Scheduler.finishBeat_of_some (q := a.notices) hl ho
  simp only [loopAfterBeat, onLoop, Turn.state_map, Turn.state_within, Turn.result_map,
    Turn.result_within, hstate, hresult]
  exact ⟨rfl, rfl⟩

/-- The section of a loop after the outcome of a heartbeat of the session. -/
theorem pulse_finishBeat {beat : Beat} {answer : Except ClientError HeartbeatReply}
    (hl : a.scheduler.loops[k]? = some ⟨.beating ticker, told⟩)
    (ha : d.reply beat.request = some answer) :
    let u := (a.onSession (·.finishBeat d.now beat answer)).andThen fun outcome a =>
      a.loopAfterBeat k outcome
    Pulse a.core d k (some (.session beat)) u.state.core u.result.stage? := by
  let b : Agent := { a with session := (a.session.finishBeat d.now beat answer).state }
  have hb : HeartBeat.Ends d (.session beat) a.session b.session
      (a.session.finishBeat d.now beat answer).result := ⟨answer, ha, rfl, rfl⟩
  cases ho : Termination.of? (a.session.finishBeat d.now beat answer).result with
  | none =>
    obtain ⟨hc, hn⟩ := loopAfterBeat_of_none (a := b) hl ho
    exact .of_eq (.rested _ _ _ hl hb ho) hc hn
  | some n =>
    obtain ⟨hc, hn⟩ := loopAfterBeat_of_some (a := b) hl ho
    exact .of_eq (.failed _ _ _ n hl hb ho) hc hn

/-- The section of a loop whose tick is due: the heart beats, unless there is no session to keep
alive. -/
theorem pulse_of_due (hl : a.scheduler.loops[k]? = some ⟨.ticking ticker, false⟩)
    (hdue : ticker.isDue d.now) (h : a.advanceLoop k d.now = some t) :
    Pulse a.core d k none t.state.core t.result.stage? := by
  simp only [advanceLoop, onScheduler, Scheduler.advance_of_due hl hdue, Turn.within] at h
  split at h
  next hh =>
    obtain rfl := Option.some.inj h
    exact .began (ticker.take d.now) .own a.session hl hh rfl
  next hh =>
    obtain rfl := Option.some.inj h
    cases hlive : a.session.established? with
    | some live =>
      have hbegin := Session.beginBeat_of_established hlive
      have hpulse (b : Beat) (hb : a.session.beginBeat.result = .waiting b) :
          Pulse a.core d k none _ _ :=
        .began (ticker.take d.now) (.session b) a.session.beginBeat.state hl hh ⟨hb, rfl⟩
      rw [hbegin] at hpulse
      simp only [onSession, hbegin, Turn.andThen, Turn.within]
      exact hpulse _ rfl
    | none =>
      simp only [onSession, Session.beginBeat_of_none hlive, Turn.andThen, Turn.within]
      -- the heartbeat that has just begun is over in the same section
      let b : Agent := { a with
        scheduler := { a.scheduler.setLoop k ⟨.beating (ticker.take d.now), false⟩ with
          inFlight := true } }
      have hset : b.scheduler.loops[k]? = some ⟨.beating (ticker.take d.now), false⟩ :=
        (Scheduler.getElem?_setLoop hl).trans (if_pos rfl)
      have ho : Termination.of? (.error (a.session.invalid "beat")) = some (.lost _) := rfl
      obtain ⟨hc, hn⟩ := loopAfterBeat_of_some hset ho
      refine .of_eq (.refused hl hlive) (hc.trans ?_) hn
      simp only [b, core, Scheduler.setLoop, List.set_set, Termination.ending]

/-- Every section of a loop does one of these things, if its task waits where the loop does. -/
theorem pulse_resume {b : Option HeartBeat} (hl : a.scheduler.loops[k]? = some l) (hw : l.Waits b)
    (h : a.resume d (.loop k b) = some t) :
    Pulse a.core d k b t.state.core t.result.stage? := by
  obtain ⟨phase, told⟩ := l
  cases b with
  | none =>
    change a.advanceLoop k d.now = some t at h
    rcases hw with ⟨previous, rfl⟩ | ⟨ticker, rfl⟩
    · cases hp : previous.all a.scheduler.hasEnded with
      | true =>
        simp only [advanceLoop, onScheduler, Scheduler.advance_of_queued hl hp, Turn.within] at h
        obtain rfl := Option.some.inj h
        exact .opened _ hl
      | false =>
        simp [advanceLoop, onScheduler, Scheduler.advance_of_waiting hl hp, Turn.within] at h
    · cases told with
      | true =>
        simp only [advanceLoop, onScheduler, Scheduler.advance_of_cancelled hl, Turn.within] at h
        obtain rfl := Option.some.inj h
        exact .stopped hl
      | false =>
        cases hdue : ticker.isDue d.now with
        | true => exact pulse_of_due hl hdue h
        | false =>
          simp [advanceLoop, onScheduler, Scheduler.advance_of_early hl hdue, Turn.within] at h
  | some b =>
    obtain ⟨ticker, rfl⟩ := hw
    cases b with
    | session beat =>
      obtain ⟨answer, ha, rfl⟩ := Option.map_eq_some_iff.mp h
      exact pulse_finishBeat hl ha
    | own =>
      obtain ⟨beat, -, rfl⟩ := Option.map_eq_some_iff.mp h
      cases beat with
      | broken =>
        refine .of_eq (.broke .own hl) ?_ rfl
        simp [immediate, onScheduler, Scheduler.breakDown_eq hl, core]
      | outcome outcome =>
        cases ho : Termination.of? outcome with
        | none =>
          obtain ⟨hc, hn⟩ := loopAfterBeat_of_none hl ho
          exact .of_eq (.rested .own a.session outcome hl rfl ho) hc hn
        | some n =>
          obtain ⟨hc, hn⟩ := loopAfterBeat_of_some hl ho
          exact .of_eq (.failed .own a.session outcome n hl rfl ho) hc hn

/-! ### Loops and their tasks -/

section

variable {minded : Prop} {c c' : Core} {o : Origin} {loops : List Nat} {n : Option Activity}

/-- Whether a section belongs to a heartbeat loop. -/
def Origin.OfLoop (o : Origin) : Prop := ∃ k b, o = .stage (.loop k b)

/-- Nothing but a call of the host that drives the session or the scheduler leaves activities behind
that do. -/
theorem Shift.isDriven_eq_false (h : Shift minded c o c' loops n) {w : Activity} (hw : n = some w) :
    isDriven w = false := by
  subst hw
  cases h with
  | background o n hn => rcases hn with ⟨l, rfl⟩ | ⟨i, stage, rfl⟩ | ⟨call, rfl, -⟩ <;> rfl
  | disabled n hk hn | joined k n hn =>
    obtain rfl := Option.some.inj (hn.resolve_left (Option.some_ne_none _))
    rfl
  | noticed ticket t q n hq hn =>
    obtain ⟨cause, delay, -, hn⟩ := hn.resolve_left (Option.some_ne_none _)
    obtain rfl := Option.some.inj hn
    rfl
  | refailed ticket attempt cause stage n hm hs he hn =>
    obtain ⟨delay, hn⟩ := hn.resolve_left (Option.some_ne_none _)
    obtain rfl := Option.some.inj hn
    rfl
  | looped k b s r q n hs hr hn =>
    rcases hn with hn | hn | hn | ⟨beat, hn, -⟩
    · cases hn
    all_goals
      obtain rfl := Option.some.inj hn
      rfl
  | opening | dialled | enabling | disabling | lined | watching | reopening | redialled | recovered
  | reporting => rfl

/-- The loops that a section starts are new, and there is one at most. -/
theorem Shift.eq_nil_or_eq_of_start (h : Shift minded c o c' loops n) :
    loops = [] ∨ c'.scheduler = c.scheduler.start.state ∧
      loops = spawned c.scheduler.start.effects := by
  cases h with
  | loaded | recovered => exact .inr ⟨rfl, rfl⟩
  | ended | registered | background | opening | dialled | failed | yielded | enabling | disabling
  | disabled | joined | lined | watching | shut | noticed | reopening | redialled | refailed
  | reporting | looped => exact .inl rfl

/-- A heartbeat loop starts no other. -/
theorem Shift.eq_nil_of_ofLoop (h : Shift minded c o c' loops n) (ho : o.OfLoop) : loops = [] := by
  obtain ⟨k, b, rfl⟩ := ho
  cases h with
  | ended | background | enabling | looped => rfl

/-- All sections but those of the loops leave the loops to what they are doing. -/
theorem Shift.keepsPhases (h : Shift minded c o c' loops n) (ho : ¬ o.OfLoop) :
    c.scheduler.KeepsPhases c'.scheduler := by
  cases h with
  | loaded | recovered => exact Scheduler.keepsPhases_start _
  | disabling =>
    exact (Scheduler.keepsPhases_stop _).trans (Scheduler.keepsPhases_beginJoin _)
  | looped k b => exact absurd ⟨k, b, rfl⟩ ho
  | ended | registered | background | opening | dialled | failed | yielded | enabling | disabled
  | joined | lined | watching | shut | noticed | reopening | redialled | refailed | reporting =>
    exact .refl _

/-- The task of a section becomes that of a loop only if it is one. -/
theorem Shift.ne_loop (h : Shift minded c o c' loops n) (ho : ¬ o.OfLoop) (k : Nat)
    (b : Option HeartBeat) : n ≠ some (.loop k b) := by
  rintro rfl
  cases h with
  | background o n hn => rcases hn with ⟨l, hn⟩ | ⟨i, stage, hn⟩ | ⟨call, hn, -⟩ <;> cases hn
  | disabled n hk hn | joined k n hn => rcases hn with hn | hn <;> cases hn
  | noticed ticket t q n hq hn =>
    rcases hn with hn | ⟨cause, delay, -, hn⟩ <;> cases hn
  | refailed ticket attempt cause stage n hm hs he hn =>
    rcases hn with hn | ⟨delay, hn⟩ <;> cases hn
  | looped k b => exact ho ⟨k, b, rfl⟩

theorem Pulse.loops_of_ne {b : Option HeartBeat} (h : Pulse c d k b c' n) {j : Nat} (hj : j ≠ k) :
    c'.scheduler.loops[j]? = c.scheduler.loops[j]? := by
  cases h with
  | opened _ hl | stopped hl | began _ _ _ hl | refused hl | rested _ _ _ hl | failed _ _ _ _ hl
  | broke _ hl => exact (Scheduler.getElem?_setLoop hl).trans (if_neg hj)

/-- After its section a loop has ended or waits where its task does. -/
theorem Pulse.waits {b : Option HeartBeat} (h : Pulse c d k b c' n) :
    n = none ∨ ∃ b' l, n = some (.loop k b') ∧ c'.scheduler.loops[k]? = some l ∧ l.Waits b' := by
  have hset {l l' : Loop} (hl : c.scheduler.loops[k]? = some l) :
      (c.scheduler.setLoop k l').loops[k]? = some l' :=
    (Scheduler.getElem?_setLoop hl).trans (if_pos rfl)
  cases h with
  | stopped | refused | failed | broke => exact .inl rfl
  | opened ticker hl => exact .inr ⟨_, _, rfl, hset hl, .inr ⟨_, rfl⟩⟩
  | began ticker' b s hl => exact .inr ⟨_, _, rfl, hset hl, _, rfl⟩
  | rested b s outcome hl => exact .inr ⟨_, _, rfl, hset hl, .inr ⟨_, rfl⟩⟩

end

/-- The loop that a start begins. -/
theorem Scheduler.loops_start_of_spawned {s : Scheduler} {j : Nat}
    (hj : j ∈ spawned s.start.effects) :
    j = s.loops.length ∧ spawned s.start.effects = [j] ∧
      s.start.state.loops[j]? = some { phase := .queued s.slot } := by
  by_cases hc : ∀ k, s.slot = some k → s.isCancelled k
  · rw [Scheduler.start_of_cancelled hc] at hj ⊢
    obtain rfl := List.mem_singleton.mp hj
    exact ⟨rfl, rfl, by simp⟩
  · simp only [not_forall] at hc
    obtain ⟨k, hk, hc⟩ := hc
    rw [Scheduler.start_of_running hk (by simpa using hc)] at hj
    cases hj

/-- The loop that a section starts is a new one, and the only one. -/
theorem Shift.of_spawned {minded : Prop} {c c' : Core} {o : Origin} {loops : List Nat}
    {n : Option Activity} (h : Shift minded c o c' loops n) {j : Nat} (hj : j ∈ loops) :
    j = c.scheduler.loops.length ∧ loops = [j] ∧
      c'.scheduler.loops[j]? = some { phase := .queued c.scheduler.slot } := by
  rcases h.eq_nil_or_eq_of_start with rfl | ⟨hstate, rfl⟩
  · cases hj
  · rw [hstate]
    exact Scheduler.loops_start_of_spawned hj

namespace Traffic

/-- The tasks of an agent that its host does not drive: every task of a heartbeat loop waits where
its loop does, and no two belong to the same loop. -/
structure Tended (x : Traffic) : Prop where
  hooked : ∀ {i w}, x.tasks.waiting? i = some w → isDriven w = false
  waits : ∀ {i k b}, x.tasks.waiting? i = some (.loop k b) →
    ∃ l, x.agent.scheduler.loops[k]? = some l ∧ l.Waits b
  unique : ∀ {i j k b b'}, x.tasks.waiting? i = some (.loop k b) →
    x.tasks.waiting? j = some (.loop k b') → i = j

variable {x : Traffic} {m : Move} {t : Turn Traffic (Progress Activity Outcome)}

theorem waiting?_ofAgent {a : Agent} {i : Nat} {w : Activity}
    (hw : (ofAgent a).tasks.waiting? i = some w) :
    (∃ j, w = .worker j .idle) ∨ ∃ l, w = .listener l := by
  have hmem := List.mem_of_getElem? (Option.join_eq_some_iff.mp hw)
  rcases List.mem_append.mp hmem with hmem | hmem
  · obtain ⟨j, -, hj⟩ := List.mem_map.mp hmem
    obtain rfl := Option.some.inj hj
    exact .inl ⟨j, rfl⟩
  · obtain rfl := Option.some.inj (List.mem_singleton.mp hmem)
    exact .inr ⟨_, rfl⟩

theorem tended_ofAgent (a : Agent) : (ofAgent a).Tended := by
  have hne {i k : Nat} {b : Option HeartBeat} :
      (ofAgent a).tasks.waiting? i ≠ some (.loop k b) := fun hw => by
    rcases waiting?_ofAgent hw with ⟨j, h⟩ | ⟨l, h⟩ <;> cases h
  refine ⟨fun hw => ?_, fun hw => absurd hw hne, fun hw => absurd hw hne⟩
  rcases waiting?_ofAgent hw with ⟨j, rfl⟩ | ⟨l, rfl⟩ <;> rfl

/-- Every move is a section of a heartbeat loop, or another section of the agent. -/
theorem Tended.pulse_or_shift (hx : x.Tended) (hm : x.usesHooks m) (ht : x.step m = some t) :
    (∃ i d k b, m = .resume i d ∧ x.tasks.waiting? i = some (.loop k b) ∧ spawned t.effects = [] ∧
      Pulse x.agent.core d k b t.state.agent.core t.result.stage?) ∨
    ∃ o, x.origin? m = some o ∧ ¬ o.OfLoop ∧ Shift (x.mindsStopping m) x.agent.core o
      t.state.agent.core (spawned t.effects) t.result.stage? := by
  obtain ⟨o, ho, hshift⟩ := shift_of_usesHooks ht hm fun _ _ => hx.hooked
  by_cases hloop : o.OfLoop
  · obtain ⟨k, b, rfl⟩ := hloop
    obtain ⟨i, d, rfl, hi⟩ := exists_resume_of_origin? ho
    obtain ⟨l, hl, hw⟩ := hx.waits hi
    have hnil := hshift.eq_nil_of_ofLoop ⟨k, b, rfl⟩
    obtain ⟨u, hu, rfl⟩ := step_eq_some_iff.mp ht
    simp only [section?, hi, Option.bind_some] at hu
    refine .inl ⟨i, d, k, b, rfl, hi, hnil, .of_eq (pulse_resume hl hw hu) ?_ rfl⟩
    exact core_perform _ _
  · exact .inr ⟨o, ho, hloop, hshift⟩

/-- After a section of the loop `k`, the task `i`. -/
theorem Tended.of_pulse (hx : x.Tended) {i k : Nat} {d : Delivery} {b : Option HeartBeat}
    (ht : x.step (.resume i d) = some t) (hi : x.tasks.waiting? i = some (.loop k b))
    (hnil : spawned t.effects = [])
    (hpulse : Pulse x.agent.core d k b t.state.agent.core t.result.stage?) : t.state.Tended := by
  have hwhere {j : Nat} {w : Activity} (hw : t.state.tasks.waiting? j = some w) :
      j = i ∧ t.result.stage? = some w ∨ j ≠ i ∧ x.tasks.waiting? j = some w := by
    rcases waiting?_of_step ht hw with h | h | ⟨loop, hmem, -⟩
    · exact .inl h
    · exact .inr h
    · simp [hnil] at hmem
  -- the task goes on with its loop, and all other tasks belong to other loops
  have hown {w : Activity} (hw : t.result.stage? = some w) :
      ∃ b' l, w = .loop k b' ∧ t.state.agent.scheduler.loops[k]? = some l ∧ l.Waits b' := by
    rcases hpulse.waits with hn | ⟨b', l, hn, h⟩
    · cases hn.symm.trans hw
    · exact ⟨b', l, Option.some.inj (hw.symm.trans hn), h⟩
  have hother {j k' : Nat} {b' : Option HeartBeat} (hj : j ≠ i)
      (hw : x.tasks.waiting? j = some (.loop k' b')) : k' ≠ k := fun hk =>
    hj (hx.unique (hk ▸ hw) hi)
  refine ⟨fun hw => ?_, fun hw => ?_, fun {j j' k' b' b''} hw hw' => ?_⟩
  · rcases hwhere hw with ⟨-, hw⟩ | ⟨-, hw⟩
    · obtain ⟨b', l, rfl, -⟩ := hown hw
      rfl
    · exact hx.hooked hw
  · rcases hwhere hw with ⟨-, hw⟩ | ⟨hj, hw⟩
    · obtain ⟨b', l, hwait, hl, hwaits⟩ := hown hw
      cases hwait
      exact ⟨l, hl, hwaits⟩
    · obtain ⟨l, hl, hwaits⟩ := hx.waits hw
      exact ⟨l, (hpulse.loops_of_ne (hother hj hw)).trans hl, hwaits⟩
  · rcases hwhere hw with ⟨hj, hw⟩ | ⟨hj, hw⟩ <;> rcases hwhere hw' with ⟨hj', hw'⟩ | ⟨hj', hw'⟩
    · exact hj.trans hj'.symm
    · obtain ⟨_, _, hwait, -⟩ := hown hw
      cases hwait
      exact absurd rfl (hother hj' hw')
    · obtain ⟨_, _, hwait, -⟩ := hown hw'
      cases hwait
      exact absurd rfl (hother hj hw)
    · exact hx.unique hw hw'

/-- The task of a loop after another section: it was there before, or it is the one new task, that
of the loop which the section starts. -/
theorem waiting?_loop_of_shift {o : Origin} (ht : x.step m = some t) (hloop : ¬ o.OfLoop)
    (hshift : Shift (x.mindsStopping m) x.agent.core o t.state.agent.core (spawned t.effects)
      t.result.stage?) {j k : Nat} {b : Option HeartBeat}
    (hw : t.state.tasks.waiting? j = some (.loop k b)) :
    x.tasks.waiting? j = some (.loop k b) ∨
      k ∈ spawned t.effects ∧ b = none ∧
        j = (x.tasks.put m.resumes? t.result.stage?).length := by
  rw [waiting?_step ht] at hw
  dsimp only at hw
  split_ifs at hw with hlt hown
  · exact absurd hw (hshift.ne_loop hloop _ _)
  · exact .inl hw
  · obtain ⟨loop, hget, h⟩ := Option.map_eq_some_iff.mp hw
    cases h
    have hmem := List.mem_of_getElem? hget
    rw [(hshift.of_spawned hmem).2.1, List.getElem?_singleton] at hget
    split_ifs at hget with hzero
    exact .inr ⟨hmem, rfl, by omega⟩

/-- After another section the loops go on with what they are doing, and a new one may be started. -/
theorem Tended.of_shift (hx : x.Tended) {o : Origin} (ht : x.step m = some t) (hloop : ¬ o.OfLoop)
    (hshift : Shift (x.mindsStopping m) x.agent.core o t.state.agent.core (spawned t.effects)
      t.result.stage?) : t.state.Tended := by
  have hold {j k : Nat} {b : Option HeartBeat} (hw : x.tasks.waiting? j = some (.loop k b)) :
      k ∉ spawned t.effects := fun hmem => by
    obtain ⟨l, hl, -⟩ := hx.waits hw
    obtain ⟨hlt, -⟩ := List.getElem?_eq_some_iff.mp hl
    exact absurd (hshift.of_spawned hmem).1 (Nat.ne_of_lt hlt)
  refine ⟨fun hw => ?_, fun hw => ?_, fun hw hw' => ?_⟩
  · rcases waiting?_of_step ht hw with ⟨-, hw⟩ | ⟨-, hw⟩ | ⟨loop, -, rfl⟩
    · exact hshift.isDriven_eq_false hw
    · exact hx.hooked hw
    · rfl
  · rcases waiting?_loop_of_shift ht hloop hshift hw with hw | ⟨hmem, rfl, -⟩
    · obtain ⟨l, hl, hwaits⟩ := hx.waits hw
      obtain ⟨l', hl', hp⟩ := hshift.keepsPhases hloop _ l hl
      exact ⟨l', hl', hwaits.of_phase hp⟩
    · exact ⟨_, (hshift.of_spawned hmem).2.2, .inl ⟨_, rfl⟩⟩
  · rcases waiting?_loop_of_shift ht hloop hshift hw with hw | ⟨hmem, -, hj⟩ <;>
      rcases waiting?_loop_of_shift ht hloop hshift hw' with hw' | ⟨hmem', -, hj'⟩
    · exact hx.unique hw hw'
    · exact absurd hmem' (hold hw)
    · exact absurd hmem (hold hw')
    · exact hj.trans hj'.symm

/-- Every move leaves the loops tended. -/
theorem Tended.step (hx : x.Tended) (hm : x.usesHooks m) (ht : x.step m = some t) :
    t.state.Tended := by
  rcases hx.pulse_or_shift hm ht with ⟨i, d, k, b, rfl, hi, hnil, hpulse⟩ | ⟨o, -, hloop, hshift⟩
  · exact hx.of_pulse ht hi hnil hpulse
  · exact hx.of_shift ht hloop hshift

/-- In the traffic of an agent every loop is tended. -/
theorem Runs.tended (hx : Runs usesHooks x) : x.Tended := by
  induction hx with
  | new ha => exact tended_ofAgent _
  | step _ hm ht ih => exact ih.step hm ht

end Traffic

end Agent

end FleetAgent
