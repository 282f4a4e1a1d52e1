import FleetAgent.Proofs.Agent.GatedTraffic

/-!
# Shutting down for good

Once a call that disables the agent has returned, the agent is *down*: it is told to shut down, the
session is closed, and no load is about to change that. It stays so, whichever task goes on at
whichever place, if recoveries look at the shutdown before they open a session again. Nothing is
asked of the controller any more, except by a load whose channel was still being opened: it asks for
a session when that has been done.

There are three ways to come up again, and each is possible. A recovery that does not look at the
shutdown first opens a session. A load that has found another handle in the context brings the
manager back to the start, if it was still about to take its own session down when disabling had
closed it. And a load that succeeds after disabling has waited for the heartbeats, and before it
takes the session down, leaves a heartbeat loop behind, which ends at its first heartbeat as the
session is closed.

## Main definitions

* `Agent.Core.Down`, `Agent.Core.Descends`: the agent is down; what holds since a call that disables
  it.
* `Agent.Gated.considerate`: the moves in which the conditions are met.
* `Agent.Gated.Disables`, `Agent.Gated.Quiet`: a call that disables returns, and what is then.

## Main results

* `Agent.Part.down`, `Agent.Part.descends`, `Agent.Part.silent`: what every part keeps.
* `Agent.Gated.Since.down`: an agent that is down stays down.
* `Agent.Gated.quiet_of_disables`: disabling is for good.
-/

namespace FleetAgent.Agent

namespace Core

/-- The agent is told to shut down, and its session is closed. -/
structure Down (c : Core) : Prop where
  stopping : c.isStopping
  closed : c.session.state = .closed

/-- What holds of the core `c` since a call that disables the agent was made at the core `c₀`: there
is a present heartbeat loop only if loading has succeeded since. -/
structure Descends (c₀ c : Core) : Prop where
  stopping : c.isStopping
  unregistered : c.registration.slot = none → c₀.registration.slot = none
  loaded : c.scheduler.slot ≠ none → c₀.registration.slot = none ∧ c.registration.slot = some .own

end Core

/-! ### What a part keeps -/

variable {o : Whence} {c₀ c c' : Core} {p? : Option Place} {p : Place}

/-- The heartbeats of a closed session do nothing. -/
theorem eq_of_looped {s s' : Session} (hc : s.state = .closed)
    (hs : s' = s ∨ s' = s.beginBeat.state ∨
      ∃ now beat answer, s' = (s.finishBeat now beat answer).state) : s' = s := by
  have hest : ¬ s.state.isEstablished := by simp [hc, SessionState.isEstablished]
  rcases hs with rfl | rfl | ⟨now, beat, answer, rfl⟩
  · rfl
  · exact Session.state_beginBeat_of_not hest
  · rw [Session.finishBeat_of_stale (.inr hest)]

/-- An agent that is down stays down, unless a load gives way to another handle. -/
theorem Part.down (h : Part True c o c' p?) (hd : c.Down)
    (ho : ∀ p, o = .place p → p.yields = false) : c'.Down := by
  obtain ⟨hstop, hclosed⟩ := hd
  cases h with
  | rested | reporting | registered | dialled | joined | flushed | noticed | redialled =>
    exact ⟨hstop, hclosed⟩
  | opening hs | failed stage hs | loaded stage id hs | yielding stage id e hs =>
    exact absurd (hs.symm.trans hclosed) SessionState.noConfusion
  | lowering | lowered | reset => exact absurd (ho _ rfl) Bool.noConfusion
  | disabling | shut => exact ⟨rfl, hclosed⟩
  | closing hs => exact absurd hclosed hs
  | closed => exact ⟨hstop, rfl⟩
  | cleared ticket attempt cause hm => exact absurd (hstop.symm.trans (hm trivial)) Bool.noConfusion
  | reopening ticket attempt cause hm hs | refailed ticket attempt cause stage p? hm hs
  | recovered ticket attempt cause stage id p hm hs =>
    exact absurd (hs.symm.trans hclosed) SessionState.noConfusion
  | looped o s r q p? ho hs =>
    obtain rfl := eq_of_looped hclosed hs
    exact ⟨hstop, hclosed⟩

/-- The present heartbeat loop of an agent that is down is not replaced by another one. -/
theorem Part.slot_of_down (h : Part True c o c' p?) (hd : c.Down) :
    c'.scheduler.slot = c.scheduler.slot ∨ c'.scheduler.slot = none := by
  obtain ⟨hstop, hclosed⟩ := hd
  cases h with
  | loaded stage id hs => exact absurd (hs.symm.trans hclosed) SessionState.noConfusion
  | recovered ticket attempt cause stage id p hm =>
    exact absurd (hstop.symm.trans (hm trivial)) Bool.noConfusion
  | disabling => exact .inr (Scheduler.slot_beginJoin _)
  | looped o s r q p? ho hs hr => exact .inl hr.1
  | rested | reporting | registered | opening | dialled | failed | yielding | lowering | lowered
  | reset | joined | closing | closed | flushed | shut | noticed | cleared | reopening | redialled
  | refailed => exact .inl rfl

/-- Since a call that disables the agent a heartbeat loop is started by loading only. -/
theorem Part.descends (h : Part True c o c' p?) (hd : c₀.Descends c) : c₀.Descends c' := by
  obtain ⟨hstop, hreg, hloaded⟩ := hd
  cases h with
  | registered hr =>
    refine ⟨hstop, fun h => absurd h (Option.some_ne_none _), fun hslot => ?_⟩
    exact absurd (hr.symm.trans (hloaded hslot).2) (Option.some_ne_none _).symm
  | loaded stage id hs he hr =>
    exact ⟨hstop, fun h => absurd h (Option.some_ne_none _), fun _ => ⟨hreg hr, rfl⟩⟩
  | recovered ticket attempt cause stage id p hm =>
    exact absurd (hstop.symm.trans (hm trivial)) Bool.noConfusion
  | disabling => exact ⟨rfl, hreg, fun h => absurd (Scheduler.slot_beginJoin _) h⟩
  | shut => exact ⟨rfl, hreg, hloaded⟩
  | looped o s r q p? ho hs hr => exact ⟨hstop, hreg, fun h => hloaded (hr.1 ▸ h)⟩
  | rested | reporting | opening | dialled | failed | yielding | lowering | lowered | reset | joined
  | closing | closed | flushed | noticed | cleared | reopening | redialled | refailed =>
    exact ⟨hstop, hreg, hloaded⟩

theorem yields_of_rests (hp : p.rests ∨ p.reports) : p.yields = false := by
  cases p with
  | wait => rfl
  | gate g =>
    cases g with
    | yield | reset => simp [Place.rests, Place.reports] at hp
    | _ => rfl

/-- No load of an agent that is down comes to give way to another handle. -/
theorem Part.yields_of_down (h : Part True c o c' (some p)) (hd : c.Down)
    (ho : ∀ p, o = .place p → p.yields = false) : p.yields = false := by
  cases h with
  | rested o p? _ hp | noticed ticket q p? hp | refailed ticket attempt cause stage p? hm hs he hp
  | recovered ticket attempt cause stage id p hm hs he hp => exact yields_of_rests (.inl hp)
  | reporting o p _ hp => exact yields_of_rests (.inr hp)
  | yielding stage id e hs => exact absurd (hs.symm.trans hd.closed) SessionState.noConfusion
  | lowering | lowered => exact absurd (ho _ rfl) Bool.noConfusion
  | disabling p hp => rcases hp with rfl | ⟨k, rfl⟩ <;> rfl
  | closed stage p? hs hp =>
    obtain rfl := Option.some.inj (hp.resolve_left (Option.some_ne_none _))
    rfl
  | looped o s r q p? _ hs hr hp =>
    rcases hp with hp | ⟨k, beat, hp, -⟩
    · exact yields_of_rests (.inl hp)
    · obtain rfl := Option.some.inj hp
      rfl
  | opening | dialled | joined | closing | cleared | reopening | redialled => rfl

theorem requestAt?_of_rests (hp : p.rests) (a : Agent) : a.requestAt? p = none := by
  simp only [Place.rests] at hp
  split at hp <;> first | rfl | cases hp

/-- A part of an agent that is down sends no request, except for a load whose channel was being
opened. -/
theorem Part.silent (h : Part True c o c' (some p)) (hd : c.Down)
    (ho : ∀ p, o = .place p → p.yields = false) :
    (∀ a : Agent, a.requestAt? p = none) ∨
      ∃ e, o = .place (.wait (.load (.dialing e))) ∧ p = .wait (.load (.greeting e)) := by
  obtain ⟨hstop, hclosed⟩ := hd
  have hest : ¬ c.session.state.isEstablished := by simp [hclosed, SessionState.isEstablished]
  cases h with
  | dialled e => exact .inr ⟨e, rfl, rfl⟩
  | rested o p? _ hp | noticed ticket q p? hp | refailed ticket attempt cause stage p? hm hs he hp
  | recovered ticket attempt cause stage id p hm hs he hp =>
    exact .inl (requestAt?_of_rests hp)
  | reporting o p _ hp hs => exact absurd hs hest
  | opening hs | reopening ticket attempt cause hm hs =>
    exact absurd (hs.symm.trans hclosed) SessionState.noConfusion
  | lowering | lowered | joined | closing | cleared | yielding => exact .inl fun _ => rfl
  | disabling p hp => rcases hp with rfl | ⟨k, rfl⟩ <;> exact .inl fun _ => rfl
  | closed stage p? hs hp =>
    obtain rfl := Option.some.inj (hp.resolve_left (Option.some_ne_none _))
    exact .inl fun _ => rfl
  | redialled ticket attempt cause e hm =>
    exact absurd (hstop.symm.trans (hm trivial)) Bool.noConfusion
  | looped o s r q p? _ hs hr hp =>
    obtain rfl := eq_of_looped hclosed hs
    rcases hp with hp | ⟨k, beat, -, hs⟩
    · exact .inl (requestAt?_of_rests hp)
    · exact absurd hs hest

/-- A loop ends with its next heartbeat if the session is closed. -/
theorem result_beatPart_of_closed {a : Agent} (hs : a.session.state = .closed) (k : Nat) :
    (a.beatPart k).result = .done .finished := by
  have hnone : a.session.established? = none := by
    simp [Session.established?, hs, SessionState.isEstablished]
  simp only [beatPart, onSession, Session.beginBeat_of_none hnone]
  rfl

/-- A call that disables the agent goes on to places of its own. -/
theorem Part.disables (h : Part True c (.place p) c' p?) (hp : p.disables) :
    p?.all Place.disables := by
  have habsurd {q : Prop} (hp' : p.disables = false) : q :=
    absurd (hp.symm.trans hp') Bool.noConfusion
  cases h with
  | rested o p? ho | reporting o p ho | looped o s r q p? ho => exact habsurd ho
  | shut p hp => exact habsurd hp
  | joined | closing | flushed => rfl
  | closed stage p? hs hp => rcases hp with rfl | rfl <;> rfl
  | opening | dialled | failed | loaded | yielding | lowering | lowered | reset | noticed | cleared
  | reopening | redialled | refailed | recovered => cases hp

/-- A call that disables the agent has closed the session before it waits for the listener, or
returns. -/
theorem Part.closed_of_disables (h : Part True c (.place p) c' p?) (hp : p.disables)
    (hend : p? = none ∨ p? = some (.wait (.disable .flushing))) :
    p = .wait (.disable .flushing) ∨ c'.session.state = .closed ∧
      ∃ stage, p = .gate (.disable stage) ∧ (stage = .begin → c.session.state = .closed) := by
  have habsurd {q : Prop} (hp' : p.disables = false) : q :=
    absurd (hp.symm.trans hp') Bool.noConfusion
  cases h with
  | rested o p? ho | reporting o p ho | looped o s r q p? ho => exact habsurd ho
  | shut p hp => exact habsurd hp
  | joined | closing => simp at hend
  | closed stage p? hs => exact .inr ⟨rfl, stage, rfl, hs⟩
  | flushed => exact .inl rfl
  | opening | dialled | failed | loaded | yielding | lowering | lowered | reset | noticed | cleared
  | reopening | redialled | refailed | recovered => cases hp

/-- A call that disables the agent begins with telling every call to come to its end, and with
taking out the present heartbeat loop. -/
theorem Part.of_call (h : Part True c (.call .disable) c' p?) :
    c.Descends c' ∧ ∃ p, p? = some p ∧ p.disables ∧ p ≠ .wait (.disable .flushing) := by
  cases h with
  | rested o p? ho | reporting o p ho | looped o s r q p? ho => cases ho
  | disabling p hp =>
    refine ⟨⟨rfl, id, fun h => absurd (Scheduler.slot_beginJoin _) h⟩, p, rfl, ?_⟩
    rcases hp with rfl | ⟨k, rfl⟩
    · exact ⟨rfl, nofun⟩
    · exact ⟨rfl, by simp⟩

/-! ### Traffic -/

namespace Gated

/-- The core of the agent is down, and no load gives way to another handle. -/
structure Down (x : Gated) : Prop where
  core : x.agent.core.Down
  unyielding : ∀ k p, x.tasks.waiting? k = some p → p.yields = false

variable {x y z : Gated} {m : Move} {t : Turn Gated (Progress Place Outcome)} {o : Whence}

theorem Down.yields_of_whence? (hd : x.Down) (ho : x.whence? m = some o) (p : Place)
    (hp : o = .place p) : p.yields = false := by
  subst hp
  cases m with
  | resume k d =>
    obtain ⟨q, hk, hq⟩ := Option.map_eq_some_iff.mp ho
    obtain rfl := Whence.place.inj hq
    exact hd.unyielding k q hk
  | call | abandon | register => cases ho

/-- Every move keeps the agent down. -/
theorem Down.step (hd : x.Down) (hx : Runs mindsStopping x) (hm : x.mindsStopping m)
    (ht : x.step m = some t) : t.state.Down := by
  obtain ⟨o, ho, hpart⟩ := hx.part hm ht
  have hyields := hd.yields_of_whence? ho
  refine ⟨hpart.down hd.core hyields, fun k p hp => ?_⟩
  rcases waiting?_of_step ht hp with ⟨-, hplace⟩ | ⟨-, hp⟩ | ⟨loop, rfl⟩
  · rw [hplace] at hpart
    exact hpart.yields_of_down hd.core hyields
  · exact hd.unyielding k p hp
  · rfl

/-- An agent that is down stays down, no further heartbeat loop is started, and no load begins to
open a channel. -/
theorem Since.down (hy : Since mindsStopping x y) (hx : Runs mindsStopping x) (hd : x.Down) :
    y.Down ∧ (y.agent.scheduler.slot = x.agent.scheduler.slot ∨ y.agent.scheduler.slot = none) ∧
      ∀ k e, y.tasks.waiting? k = some (.wait (.load (.dialing e))) →
        x.tasks.waiting? k = some (.wait (.load (.dialing e))) := by
  induction hy with
  | refl => exact ⟨hd, .inl rfl, fun _ _ => id⟩
  | @step y m t hy hm ht ih =>
    obtain ⟨hdown, hslot, hload⟩ := ih
    have hrun := hx.since hy
    obtain ⟨o, ho, hpart⟩ := hrun.part hm ht
    refine ⟨hdown.step hrun hm ht, ?_, fun k e hk => ?_⟩
    · rcases hpart.slot_of_down hdown.core with h | h
      · exact hslot.imp h.trans h.trans
      · exact .inr h
    · rcases waiting?_of_step ht hk with ⟨-, hplace⟩ | ⟨-, hk⟩ | ⟨loop, hloop⟩
      · rw [hplace] at hpart
        rcases hpart.silent hdown.core (hdown.yields_of_whence? ho) with hnone | ⟨e', -, hgreet⟩
        · exact absurd (hnone default) (Option.some_ne_none _)
        · cases hgreet
      · exact hload k e hk
      · cases hloop

/-! ### The call that disables the agent -/

/-- Whether in a move the call of number `k`, which disables the agent, has closed the session. -/
def closes (x : Gated) (k : Nat) : Move → Bool
  | .resume j _ => j = k && match x.tasks.waiting? k with
    | some (.gate (.disable .begin)) => x.agent.session.state = .closed
    | some (.gate (.disable (.finish _))) => true
    | _ => false
  | _ => false

/-- Whether a move is one of a host that does not drive the session and the scheduler, recoveries
look at the shutdown before they go on, and no load gives way to another handle at the moment at
which the call of number `k`, which disables the agent, has closed the session. -/
def considerate (k : Nat) (x : Gated) (m : Move) : Bool :=
  x.mindsStopping m && (!x.closes k m || !x.tasks.any (·.any Place.yields))

/-- A call that disables the agent, made in the traffic `x`, has returned in the traffic `y`, and
the moves meanwhile were allowed. -/
inductive Disables (allowed : Gated → Move → Bool) (x : Gated) : Gated → Prop
  | mk {t₀ t : Turn Gated (Progress Place Outcome)} {z : Gated} {d : Delivery}
      (hcall : x.step (.call .disable) = some t₀) (hz : Since allowed t₀.state z)
      (hm : allowed z (.resume x.tasks.length d))
      (ht : z.step (.resume x.tasks.length d) = some t) (hdone : t.result.stage? = none) :
      Disables allowed x t.state

/-- The session of the traffic `z` is closed. The scheduler does not run, unless loading has
succeeded between the traffics `x` and `y`; a heartbeat loop ends with its next heartbeat. No part
sends a request, except for the attempts to load the agent whose channel was being opened in the
traffic `y`: each of them asks for a session when that has been done. -/
structure Quiet (x y z : Gated) : Prop where
  closed : z.agent.session.state = .closed
  stopped : x.agent.registration.slot ≠ none ∨ y.agent.registration.slot ≠ some .own →
    z.agent.scheduler.isRunning = false
  ending : ∀ k loop d t, z.tasks.waiting? k = some (.gate (.beat loop)) →
    z.step (.resume k d) = some t → t.result = .done .finished
  silent : ∀ m t r, z.mindsStopping m → z.step m = some t → sent? t = some r →
    r = .connect t.state.agent.session.host ∧
      ∃ k d e, m = .resume k d ∧ y.tasks.waiting? k = some (.wait (.load (.dialing e)))

/-- What holds of the traffic `y` since a call that disables the agent, of number `k`, was made in
the traffic `x`. -/
structure Disabling (y x : Gated) (k : Nat) : Prop where
  runs : Runs mindsStopping y
  descends : x.agent.core.Descends y.agent.core
  lt : k < y.tasks.length
  own : ∀ p, y.tasks.waiting? k = some p → p.disables
  flushing : y.tasks.waiting? k = some (.wait (.disable .flushing)) → y.Down

theorem mindsStopping_of_considerate {k : Nat} (hm : x.considerate k m) : x.mindsStopping m :=
  (Bool.and_eq_true_iff.mp hm).1

/-- No load gives way to another handle when the call has closed the session. -/
theorem yields_of_considerate {k : Nat} (hm : x.considerate k m) (hc : x.closes k m) {j : Nat}
    {p : Place} (hp : x.tasks.waiting? j = some p) : p.yields = false := by
  have hnone := (Bool.and_eq_true_iff.mp hm).2
  rw [hc, Bool.not_true, Bool.false_or, Bool.not_eq_true', List.any_eq_false] at hnone
  simpa using hnone _ (List.mem_of_getElem? (Option.join_eq_some_iff.mp hp))

/-- When the call has closed the session, the agent is down. -/
theorem Disabling.down {k : Nat} {d : Delivery} (hy : y.Disabling x k)
    (hm : y.considerate k (.resume k d)) (ht : y.step (.resume k d) = some t)
    (hend : t.result.stage? = none ∨ t.result.stage? = some (.wait (.disable .flushing))) :
    t.state.Down := by
  have hminds := mindsStopping_of_considerate hm
  obtain ⟨o, ho, hpart⟩ := hy.runs.part hminds ht
  obtain ⟨p, hk, rfl⟩ := Option.map_eq_some_iff.mp ho
  rcases hpart.closed_of_disables (hy.own p hk) hend with rfl | ⟨hclosed, stage, rfl, hs⟩
  · exact (hy.flushing hk).step hy.runs hminds ht
  · have hcloses : y.closes k (.resume k d) := by
      cases stage with
      | begin => simpa [closes, hk] using hs rfl
      | finish session => simp [closes, hk]
    refine ⟨⟨(hpart.descends hy.descends).stopping, hclosed⟩, fun j p hp => ?_⟩
    rcases waiting?_of_step ht hp with ⟨-, hplace⟩ | ⟨-, hp⟩ | ⟨loop, rfl⟩
    · rcases hend with hend | hend
      · cases hend.symm.trans hplace
      · obtain rfl := Option.some.inj (hend.symm.trans hplace)
        rfl
    · exact yields_of_considerate hm hcloses hp
    · rfl

/-- Every move keeps what holds since the call. -/
theorem Disabling.step {k : Nat} (hy : y.Disabling x k) (hm : y.considerate k m)
    (ht : y.step m = some t) : t.state.Disabling x k := by
  have hminds := mindsStopping_of_considerate hm
  obtain ⟨o, ho, hpart⟩ := hy.runs.part hminds ht
  have hwaiting := waiting?_step_of_lt ht hy.lt
  -- the call itself goes on only when it is resumed: it is not new, and a call given up is gone
  have hown {p : Place} (hk : k = y.tasks.place m.resumes?) (hp : t.result.stage? = some p) :
      ∃ d, m = .resume k d := by
    cases m with
    | call | register => exact absurd hk (Nat.ne_of_lt hy.lt)
    | resume i d =>
      obtain rfl := hk
      exact ⟨d, rfl⟩
    | abandon i => cases (stage?_of_abandon ht).symm.trans hp
  refine ⟨hy.runs.step hminds ht, hpart.descends hy.descends,
    Nat.lt_of_lt_of_le hy.lt (length_tasks_step ht).2, fun p hp => ?_, fun hp => ?_⟩
  · rw [hwaiting] at hp
    split_ifs at hp with hk
    · obtain ⟨d, rfl⟩ := hown hk hp
      obtain ⟨q, hq, rfl⟩ := Option.map_eq_some_iff.mp ho
      have hall := hpart.disables (hy.own q hq)
      rwa [hp] at hall
    · exact hy.own p hp
  · rw [hwaiting] at hp
    split_ifs at hp with hk
    · obtain ⟨d, rfl⟩ := hown hk hp
      exact hy.down hm ht (.inr hp)
    · exact (hy.flushing hp).step hy.runs hminds ht

/-- What holds since a call that disables the agent. -/
theorem disabling_of_call (hx : Runs mindsStopping x) (ht : x.step (.call .disable) = some t) :
    t.state.Disabling x x.tasks.length := by
  obtain ⟨o, ho, hpart⟩ := hx.part rfl ht
  obtain rfl := Option.some.inj ho
  obtain ⟨hdescends, p, hp, hdisables, hne⟩ := hpart.of_call
  have hwaiting : t.state.tasks.waiting? x.tasks.length = some p :=
    (waiting?_step_place ht).trans hp
  refine ⟨hx.step rfl ht, hdescends, (length_tasks_step ht).1, fun q hq => ?_, fun hq => ?_⟩
  · obtain rfl := Option.some.inj (hwaiting.symm.trans hq)
    exact hdisables
  · exact absurd (Option.some.inj (hwaiting.symm.trans hq)) hne

/-- Disabling is for good. Follow any calls of the hooks of an agent, in any order of their parts
and answers in which a recovery looks at the shutdown before it opens a session again. Once a call
that disables the agent has returned, and no load was giving way to another handle when it had
closed the session, the session is closed from then on, and no request is sent to the controller any
more, except by the loads whose channel was still being opened. The scheduler does not run, unless
loading has succeeded between the call and its return; a loop that this has left behind ends with
its first heartbeat. -/
theorem quiet_of_disables (hx : Runs mindsStopping x)
    (hy : Disables (considerate x.tasks.length) x y) (hz : Since mindsStopping y z) :
    Quiet x y z := by
  obtain @⟨t₀, t, u, d, hcall, hu, hm, ht, hdone⟩ := hy
  have hdisabling : u.Disabling x x.tasks.length :=
    hu.keeps (p := fun y => y.Disabling x x.tasks.length) (disabling_of_call hx hcall)
      fun hy hm ht => hy.step hm ht
  have hdown := hdisabling.down hm ht (.inl hdone)
  have hend := hdisabling.step hm ht
  obtain ⟨hzdown, hslot, hload⟩ := hz.down hend.runs hdown
  refine ⟨hzdown.core.closed, fun hreg => ?_, fun k loop d v hk hv => ?_,
    fun m v r hm' hv hr => ?_⟩
  · have hnone : t.state.agent.scheduler.slot = none := by
      by_contra hne
      obtain ⟨hfree, hown⟩ := hend.descends.loaded hne
      exact hreg.elim (absurd hfree) (absurd hown)
    have hslot : z.agent.scheduler.slot = none := hslot.elim (·.trans hnone) id
    simp [Scheduler.isRunning, hslot]
  · obtain ⟨u, hu, rfl⟩ := step_eq_some_iff.mp hv
    simp only [part?, hk, Option.bind_some] at hu
    obtain rfl := Option.some.inj hu
    exact result_beatPart_of_closed hzdown.core.closed loop
  · obtain ⟨o, ho, hpart⟩ := (hend.runs.since hz).part hm' hv
    obtain ⟨p, hp, hr⟩ := Option.bind_eq_some_iff.mp hr
    rw [hp] at hpart
    rcases hpart.silent hzdown.core (hzdown.yields_of_whence? ho) with hnone | ⟨e, rfl, rfl⟩
    · exact absurd (hr.symm.trans (hnone _)) (Option.some_ne_none r)
    · cases m with
      | resume k d =>
        obtain ⟨q, hk, hq⟩ := Option.map_eq_some_iff.mp ho
        obtain rfl := Whence.place.inj hq
        exact ⟨(Option.some.inj hr).symm, k, d, e, rfl, hload k e hk⟩
      | call | abandon | register => cases ho

/-! ### An agent that is disabled -/

/-- Follows moves, then a call that disables the agent, moves up to its return, and further
moves. -/
def disabling? (meanwhile : Nat → Gated → Move → Bool) (afterwards : Gated → Move → Bool)
    (x : Gated) (before between : List Move) (d : Delivery) (after : List Move) :
    Option (Gated × Gated × Gated) :=
  (x.follow? mindsStopping before).bind fun x =>
    (x.step (.call .disable)).bind fun t₀ =>
      (t₀.state.follow? (meanwhile x.tasks.length) between).bind fun u =>
        if meanwhile x.tasks.length u (.resume x.tasks.length d) then
          ((u.step (.resume x.tasks.length d)).filter (·.result.stage?.isNone)).bind fun t =>
            (t.state.follow? afterwards after).map fun z => (x, t.state, z)
        else none

theorem exists_of_disabling (hx : Runs mindsStopping x) (meanwhile : Nat → Gated → Move → Bool)
    (afterwards : Gated → Move → Bool) (before between : List Move) (d : Delivery)
    (after : List Move) (p : Gated → Gated → Bool)
    (h : (x.disabling? meanwhile afterwards before between d after).any fun r => p r.2.1 r.2.2) :
    ∃ x y z, Runs mindsStopping x ∧ Disables (meanwhile x.tasks.length) x y ∧
      Since afterwards y z ∧ p y z := by
  obtain ⟨⟨x', y, z⟩, hr, hp⟩ := (Option.any_eq_true _ _).mp h
  obtain ⟨x'', hx'', hr⟩ := Option.bind_eq_some_iff.mp hr
  obtain ⟨t₀, hcall, hr⟩ := Option.bind_eq_some_iff.mp hr
  obtain ⟨u, hu, hr⟩ := Option.bind_eq_some_iff.mp hr
  split_ifs at hr with hm
  obtain ⟨t, ht, hr⟩ := Option.bind_eq_some_iff.mp hr
  obtain ⟨ht, hdone⟩ := Option.filter_eq_some_iff.mp ht
  obtain ⟨z', hz, hr⟩ := Option.map_eq_some_iff.mp hr
  cases hr
  exact ⟨x', t.state, z, hx.since (since_of_follow? before hx''),
    ⟨hcall, since_of_follow? between hu, hm, ht, Option.isNone_iff_eq_none.mp hdone⟩,
    since_of_follow? after hz, hp⟩

theorem runs_lobby : Runs mindsStopping (ofAgent Traffic.lobby) :=
  ⟨_, _, _, _, _, Traffic.make_lobby, .refl⟩

open Traffic (accepted elapsed rejected)

/-- An agent begins to be loaded: it waits for the session, as the task 1. -/
def greeting : List Move := [.call .load, .resume 1 accepted, .resume 1 accepted]

/-- An agent is loaded: its heartbeat loop is the task 2. -/
def loading : List Move := greeting ++ [.resume 1 accepted]

/-- An agent that was loaded and has been disabled, with a call that runs afterwards. -/
theorem quiet_after_disable :
    ∃ x y z, Runs mindsStopping x ∧ Disables (considerate x.tasks.length) x y ∧
      Since mindsStopping y z ∧ Quiet x y z := by
  obtain ⟨x, y, z, hx, hy, hz, -⟩ := exists_of_disabling runs_lobby considerate mindsStopping
    loading
    [.resume 2 accepted, .resume 2 accepted, .resume 3 accepted, .resume 3 accepted,
      .resume 3 accepted]
    elapsed [.call .run, .resume 4 accepted, .resume 4 accepted] (fun _ _ => true)
    (by decide +kernel)
  exact ⟨x, y, z, hx, hy, hz, quiet_of_disables hx hy hz⟩

/-- A recovery that looks at its delay before the shutdown opens the session again. -/
theorem exists_reopened :
    ∃ x y z, Runs mindsStopping x ∧ Disables (considerate x.tasks.length) x y ∧
      Since usesHooks y z ∧ z.agent.session.state = .connecting := by
  obtain ⟨x, y, z, hx, hy, hz, hp⟩ := exists_of_disabling runs_lobby considerate usesHooks
    (loading ++ [.call .run, .resume 3 accepted, .resume 2 accepted, .resume 2 accepted,
      .resume 2 accepted, .resume 2 rejected, .resume 3 accepted, .resume 3 accepted])
    [.resume 4 accepted, .resume 4 accepted] elapsed
    [.resume 3 { elapsed with order := [.work] }, .resume 3 { elapsed with order := [.work] },
      .resume 3 { elapsed with order := [.work] }]
    (fun _ z => z.agent.session.state = .connecting) (by decide +kernel)
  exact ⟨x, y, z, hx, hy, hz, of_decide_eq_true hp⟩

/-- A load whose channel was being opened asks for a session. -/
theorem exists_greeting :
    ∃ x y m t host, Runs mindsStopping x ∧ Disables (considerate x.tasks.length) x y ∧
      y.mindsStopping m ∧ y.step m = some t ∧ sent? t = some (.connect host) := by
  obtain ⟨x, y, z, hx, hy, -, hp⟩ := exists_of_disabling runs_lobby considerate mindsStopping
    [.call .load, .resume 1 accepted] [.resume 2 accepted, .resume 2 accepted] elapsed []
    (fun y _ => y.mindsStopping (.resume 1 accepted) &&
      (y.step (.resume 1 accepted)).any fun t => sent? t = some (.connect (.named "lobby-1")))
    (by decide +kernel)
  obtain ⟨hm, hp⟩ := Bool.and_eq_true_iff.mp hp
  obtain ⟨t, ht, hsent⟩ := (Option.any_eq_true _ _).mp hp
  exact ⟨x, y, .resume 1 accepted, t, _, hx, hy, hm, ht, of_decide_eq_true hsent⟩

/-- A load that succeeds while the session is about to be taken down leaves a heartbeat loop
behind. -/
theorem exists_running :
    ∃ x y, Runs mindsStopping x ∧ Disables (considerate x.tasks.length) x y ∧
      y.agent.scheduler.isRunning := by
  obtain ⟨x, y, z, hx, hy, -, hp⟩ := exists_of_disabling runs_lobby considerate mindsStopping
    greeting [.resume 1 accepted, .resume 2 accepted, .resume 2 accepted] elapsed []
    (fun y _ => y.agent.scheduler.isRunning) (by decide +kernel)
  exact ⟨x, y, hx, hy, hp⟩

/-- A load that gives way to another handle brings the manager back to the start. -/
theorem exists_reset :
    ∃ x y z, Runs mindsStopping x ∧ Disables mindsStopping x y ∧ Since mindsStopping y z ∧
      z.agent.session.state = .disconnected := by
  obtain ⟨x, y, z, hx, hy, hz, hp⟩ := exists_of_disabling runs_lobby (fun _ => mindsStopping)
    mindsStopping
    (greeting ++ [.register, .resume 1 accepted])
    [.resume 1 accepted, .resume 3 accepted, .resume 1 accepted, .resume 3 accepted] elapsed
    [.resume 1 accepted]
    (fun _ z => z.agent.session.state = .disconnected) (by decide +kernel)
  exact ⟨x, y, z, hx, hy, hz, of_decide_eq_true hp⟩

/-- The conditions are needed, and what is left open may happen. -/
theorem up_after_disable :
    (∃ x y z, Runs mindsStopping x ∧ Disables (considerate x.tasks.length) x y ∧
      Since usesHooks y z ∧ z.agent.session.state = .connecting) ∧
    (∃ x y m t host, Runs mindsStopping x ∧ Disables (considerate x.tasks.length) x y ∧
      y.mindsStopping m ∧ y.step m = some t ∧ sent? t = some (.connect host)) ∧
    (∃ x y, Runs mindsStopping x ∧ Disables (considerate x.tasks.length) x y ∧
      y.agent.scheduler.isRunning) ∧
    ∃ x y z, Runs mindsStopping x ∧ Disables mindsStopping x y ∧ Since mindsStopping y z ∧
      z.agent.session.state = .disconnected :=
  ⟨exists_reopened, exists_greeting, exists_running, exists_reset⟩

end Gated

end FleetAgent.Agent
