import FleetAgent.Proofs.Session.Answers

/-!
# What the events tell

Whoever listens to the events of a session manager can keep a chronicle of it: the state, the
session that was opened last, its failures in a row, the number acknowledged last and the size of
its configuration. At every moment at which all calls wait for the controller or have returned,
this is what the manager shows of itself. Only a reset is not told: it leaves the chronicle at the
end of the last session.

The two sections of taking a session down follow each other at once here, as they do when all calls
are made in one thread, since there is nothing to wait for in between.

## Main definitions

* `Session.Chronicle`, `Session.Chronicle.hear`: what has been told, and one event more.
* `Session.Snapshot.outline`: what the manager shows of itself that is also told.
* `Session.Traffic.told`, `Session.Traffic.resetLast`: the chronicle of a history, and whether a
  reset came after all that it tells of the state.
* `Session.Traffic.Entry.IsPrompt`, `Session.Traffic.Rests`: the calls are made in one thread.

## Main results

* `Session.Chronicled.deed`: every section tells what it changes.
* `Session.Traffic.outline_eq_told`: the manager shows what was told.
-/

namespace FleetAgent

/-- The state of the manager that an event of the kind tells of. -/
def EventKind.sessionState? : EventKind → Option SessionState
  | .sessionConnecting => some .connecting
  | .connectFailed => some .disconnected
  | .sessionConnected | .sessionRecovered => some .active
  | .sessionDegraded => some .degraded
  | .sessionLost | .sessionClosed => some .closed
  | _ => none

namespace Session

/-- What the events have told of a session manager. -/
structure Chronicle where
  /-- The state. -/
  state : SessionState := .disconnected
  /-- The session that was opened last. -/
  id : Option String := none
  /-- The number of failures in a row of that session. -/
  failures : Nat := 0
  /-- The sequence number acknowledged last in that session. -/
  lastAcked : Option Nat := none
  /-- The size of the configuration received last in that session. -/
  size : Option Nat := none
deriving DecidableEq, Repr

namespace Chronicle

/-- The chronicle with one event more. -/
def hear (c : Chronicle) (e : Event) : Chronicle :=
  let state := e.kind.sessionState?.getD c.state
  match e.kind with
  | .sessionConnected => { state, id := e.session }
  | .heartbeatMissed => { c with state, failures := e.failures.getD 0 }
  | .heartbeatAcked => { c with state, failures := 0, lastAcked := e.sequence }
  | .configUpdated => { c with state, size := e.size }
  | _ => { c with state }

/-- What is to be seen according to the chronicle: but for the state nothing, unless the state is
an established one. -/
def shown (c : Chronicle) : Chronicle := if c.state.isEstablished then c else { state := c.state }

end Chronicle

/-- What the manager shows of itself that is also told. -/
def Snapshot.outline (s : Snapshot) : Chronicle :=
  { state := s.state
    id := s.id
    failures := s.failures
    lastAcked := s.lastAcked
    size := s.config.map List.length }

/-- Whether one of the events tells of the state. -/
def tellsState (events : List Event) : Bool := events.any (·.kind.sessionState?.isSome)

/-- Whether a section with such a result has brought a closed manager back to the start. -/
def Move.resets : Move → Progress Call Outcome → Bool
  | .reset, .done .finished => true
  | _, _ => false

theorem Move.resets_of_resumes? {m : Move} {k : Nat} {p : Progress Call Outcome}
    (h : m.resumes? = some k) : m.resets p = false := by
  cases m with
  | resume => rfl
  | connect | beat | disconnect | reset => cases h

/-! ### What the sections tell -/

/-- The chronicle `c` is right about the manager `s`, in which a reset came last if `r` says so. -/
structure Chronicled (s : Session) (c : Chronicle) (r : Bool) : Prop where
  state_eq : c.state = if r then .closed else s.state
  disconnected : r → s.state = .disconnected
  live_eq_none : s.state.isEstablished = false → s.live = none
  live_eq_some : s.state.isEstablished → ∃ live, s.live = some live ∧ c.id = some live.id ∧
    c.failures = live.failures ∧ c.lastAcked = live.lastAcked ∧ c.size = live.config.map List.length

variable {s : Session} {c : Chronicle} {r : Bool} {live : Live} {now : Instant} {sequence : Nat}
  {e : ClientError}

theorem hear_acknowledge (reply : HeartbeatReply) :
    (s.acknowledge live now sequence reply).published.foldl Chronicle.hear c =
      { state := if s.state = .degraded then .active else c.state
        id := c.id
        failures := 0
        lastAcked := some sequence
        size := (reply.config.map List.length).or c.size } := by
  rw [published_acknowledge]
  split_ifs <;> cases reply.config <;> rfl

theorem hear_miss (hf : live.failures + 1 < s.params.loseAfter) :
    (s.miss live sequence e).published.foldl Chronicle.hear c =
      { c with
        state :=
          if s.params.degradeAfter ≤ live.failures + 1 ∧ s.state = .active then .degraded
          else c.state
        failures := live.failures + 1 } := by
  rw [published_miss_of_lt hf]
  split_ifs <;> rfl

namespace Chronicled

theorem eq_false (h : Chronicled s c r) (hs : s.state ≠ .disconnected) : r = false := by
  cases r with
  | false => rfl
  | true => exact absurd (h.disconnected rfl) hs

theorem state_eq_of_ne (h : Chronicled s c r) (hs : s.state ≠ .disconnected) :
    c.state = s.state := by
  have hstate := h.state_eq
  rwa [h.eq_false hs] at hstate

theorem ne_disconnected (hs : s.state.isEstablished) : s.state ≠ .disconnected := by
  intro h
  simp [h, SessionState.isEstablished] at hs

/-- A manager without an established session is chronicled by its state. -/
theorem of_not_isEstablished (hstate : c.state = s.state) (hs : s.state.isEstablished = false)
    (hl : s.live = none) : Chronicled s c false where
  state_eq := hstate
  disconnected := Bool.noConfusion
  live_eq_none _ := hl
  live_eq_some hest := by simp [hs] at hest

/-- An acknowledgement tells all that it changes. -/
theorem acknowledge (h : Chronicled s c r) (hs : s.state.isEstablished) (hl : s.live = some live)
    (reply : HeartbeatReply) :
    Chronicled (s.acknowledge live now sequence reply).state
      ((s.acknowledge live now sequence reply).published.foldl Chronicle.hear c) false := by
  obtain ⟨live', hl', hid, -, -, hsize⟩ := h.live_eq_some hs
  obtain rfl := Option.some.inj (hl.symm.trans hl')
  have hest : (s.acknowledge live now sequence reply).state.state.isEstablished :=
    isEstablished_acknowledge hs
  rw [hear_acknowledge]
  constructor
  case state_eq =>
    rw [h.state_eq_of_ne (ne_disconnected hs)]
    rfl
  case disconnected => exact Bool.noConfusion
  case live_eq_none => simp [hest]
  case live_eq_some =>
    refine fun _ => ⟨_, rfl, hid, rfl, rfl, ?_⟩
    rw [hsize]
    cases reply.config <;> rfl

/-- A failure that is counted tells all that it changes. -/
theorem miss (h : Chronicled s c r) (hs : s.state.isEstablished) (hl : s.live = some live)
    (hf : live.failures + 1 < s.params.loseAfter) :
    Chronicled (s.miss live sequence e).state
      ((s.miss live sequence e).published.foldl Chronicle.hear c) false := by
  obtain ⟨live', hl', hid, -, hack, hsize⟩ := h.live_eq_some hs
  obtain rfl := Option.some.inj (hl.symm.trans hl')
  have hest : (s.miss live sequence e).state.state.isEstablished := isEstablished_miss hs hf
  rw [hear_miss hf]
  simp only [Session.miss, Nat.not_le_of_lt hf, ↓reduceIte] at hest ⊢
  constructor
  case state_eq =>
    rw [h.state_eq_of_ne (ne_disconnected hs)]
    rfl
  case disconnected => exact Bool.noConfusion
  case live_eq_none => simp [hest]
  case live_eq_some => exact fun _ => ⟨_, rfl, hid, rfl, hack, hsize⟩

/-- Every section tells what it changes, but the two of taking the session down and a reset. -/
theorem deed {m : Move} {call : Option Call} {u : CallTurn} (h : Chronicled s c r)
    (hd : Deed s m call u) (hcall : ∀ session, call ≠ some (.disconnect session))
    (hstage : ∀ session, u.result.stage? ≠ some (.disconnect session)) :
    Chronicled u.state (u.published.foldl Chronicle.hear c)
      (m.resets u.result || !tellsState u.published && r) := by
  cases hd with
  | declined op => cases m <;> exact h
  | opening hs => exact .of_not_isEstablished rfl rfl (h.live_eq_none (by rw [hs]; rfl))
  | dialed e => exact h
  | opened stage id he hs =>
    exact ⟨rfl, Bool.noConfusion, Bool.noConfusion, fun _ => ⟨_, rfl, rfl, rfl, rfl, rfl⟩⟩
  | refused stage cause he hs =>
    exact .of_not_isEstablished rfl rfl (h.live_eq_none (by rw [hs]; rfl))
  | sent live hs hl =>
    obtain ⟨live', hl', hknown⟩ := h.live_eq_some hs
    obtain rfl := Option.some.inj (hl.symm.trans hl')
    refine ⟨h.state_eq, h.disconnected, fun hs' => ?_, fun _ => ⟨_, rfl, hknown⟩⟩
    simp [hs] at hs'
  | @judged k now reply b live t he hs hl hv =>
    -- A session is open, so no reset came last.
    obtain rfl := h.eq_false (ne_disconnected hs)
    generalize (reply b.request).bind (·.checkSequence b.sequence) = checked at hv
    rw [Move.resets_of_resumes? rfl, Bool.false_or, Bool.and_false]
    cases hv with
    | acked reply => exact h.acknowledge hs hl reply
    | missed cause ht hf => exact h.miss hs hl hf
    | worn cause ht hf => exact .of_not_isEstablished rfl rfl rfl
    | rejected reason => exact .of_not_isEstablished rfl rfl rfl
    | unrelated cause ht hr => exact h
  | idle hs => exact h
  | closing hs => exact absurd rfl (hstage _)
  | closed session => exact absurd rfl (hcall session)
  | reset hs =>
    have hstate := h.state_eq_of_ne (by rw [hs]; exact SessionState.noConfusion)
    have hl := h.live_eq_none (by rw [hs]; rfl)
    exact ⟨hstate.trans hs, fun _ => rfl, fun _ => hl, Bool.noConfusion⟩

/-- The chronicle is right about what the manager shows of itself, but for a reset. -/
theorem outline (h : Chronicled s c r) :
    (r → c.state = .closed) ∧
      s.snapshot.outline = { c.shown with state := if r then .disconnected else c.state } := by
  have hstate := h.state_eq
  cases r with
  | true =>
    have hs := h.disconnected rfl
    have hl := h.live_eq_none (by rw [hs]; rfl)
    rw [if_pos rfl] at hstate
    refine ⟨fun _ => hstate, ?_⟩
    simp [Chronicle.shown, hstate, SessionState.isEstablished, snapshot, Snapshot.outline, hs, hl]
  | false =>
    replace hstate : c.state = s.state := hstate
    refine ⟨Bool.noConfusion, ?_⟩
    by_cases hest : s.state.isEstablished
    · obtain ⟨live, hl, hid, hfail, hack, hsize⟩ := h.live_eq_some hest
      simp [Chronicle.shown, hstate, hest, snapshot, Snapshot.outline, hl, hid, hfail, hack, hsize]
    · have hl := h.live_eq_none (by simpa using hest)
      simp [Chronicle.shown, hstate, hest, snapshot, Snapshot.outline, hl]

end Chronicled

/-! ### What a history tells -/

namespace Traffic

variable {x y : Traffic} {m : Move} {t : Turn Traffic (Progress Call Outcome)} {h : List Entry}
  {a : Entry}

/-- The chronicle of a history. -/
def told (h : List Entry) : Chronicle := (h.flatMap (·.turn.published)).foldl Chronicle.hear {}

/-- Whether a reset came after all that the history tells of the state. -/
def resetLast (h : List Entry) : Bool :=
  h.foldl (fun r a => a.move.resets a.turn.result || !tellsState a.turn.published && r) false

/-- A section of a call in one thread: the second section of taking the session down follows at
once on the first. -/
def Entry.IsPrompt (a : Entry) : Prop :=
  ∀ k c, a.before.calls.waiting? k = some c → c.isDisconnect → a.move.resumes? = some k

/-- No call is between the two sections of taking the session down. -/
def Rests (y : Traffic) : Prop :=
  ∀ k c, y.calls.waiting? k = some c → c.isDisconnect = false

instance (a : Entry) : Decidable a.IsPrompt :=
  decidable_of_iff (∀ k < a.before.calls.length, ∀ c ∈ a.before.calls.waiting? k,
      c.isDisconnect → a.move.resumes? = some k)
    ⟨fun h k c hk => h k (Tasks.lt_of_waiting? hk) c hk, fun h k _ c hk => h k c hk⟩

instance (y : Traffic) : Decidable y.Rests :=
  decidable_of_iff (∀ k < y.calls.length, ∀ c ∈ y.calls.waiting? k, c.isDisconnect = false)
    ⟨fun h k c hk => h k (Tasks.lt_of_waiting? hk) c hk, fun h k _ c hk => h k c hk⟩

theorem told_concat : told (h ++ [a]) = a.turn.published.foldl Chronicle.hear (told h) := by
  rw [told, List.flatMap_append, List.foldl_append, List.flatMap_singleton]
  rfl

theorem resetLast_concat : resetLast (h ++ [a]) =
    (a.move.resets a.turn.result || !tellsState a.turn.published && resetLast h) := by
  rw [resetLast, List.foldl_append]
  rfl

/-- No call is between the two sections after a section that brings none there. -/
theorem rests_of_step (ht : x.step m = some t)
    (hstage : ∀ c, t.result.stage? = some c → c.isDisconnect = false)
    (hx : ∀ j c, j ≠ x.caller m → x.calls.waiting? j = some c → c.isDisconnect = false) :
    t.state.Rests := by
  intro j c hj
  rw [waiting?_of_step ht] at hj
  split_ifs at hj with hjm
  · exact hstage c hj
  · exact hx j c hjm hj

/-- The first section of taking the session down takes its record away. -/
theorem live_eq_none_of_stage {s : Session} {call : Option Call} {u : CallTurn}
    {session : Option String} (hd : Deed s m call u)
    (hs : u.result.stage? = some (.disconnect session)) : u.state.live = none := by
  cases hd with
  | closing => rfl
  | declined | opening | dialed | opened | refused | sent | judged | idle | closed | reset =>
    simp [Session.declined] at hs

/-- How matters stand after a history in one thread: the chronicle is right, or one call is just
taking the session down. -/
inductive Abreast (h : List Entry) (y : Traffic) : Prop
  | resting (hr : y.Rests) (hc : Chronicled y.session (told h) (resetLast h))
  | closing (k : Nat) (session : Option String)
      (hk : y.calls.waiting? k = some (.disconnect session))
      (huniq : ∀ j c, y.calls.waiting? j = some c → c.isDisconnect → j = k)
      (hl : y.session.live = none)

/-- Every section in one thread keeps to this. -/
theorem Abreast.step (hy : Abreast h y) (ht : y.step m = some t)
    (hp : Entry.IsPrompt ⟨y, m, t⟩) : Abreast (h ++ [⟨y, m, t⟩]) t.state := by
  obtain ⟨u, hu, hut⟩ := step_eq_some_iff.mp ht
  have hd := deed_of_section? hu
  cases hy with
  | resting hr hc =>
    have hcall (session : Option String) : y.resumed? m ≠ some (.disconnect session) :=
      fun hcall => Bool.noConfusion (hr _ _ (waiting?_caller hcall))
    by_cases hstage : ∃ session, t.result.stage? = some (.disconnect session)
    · obtain ⟨session, hstage⟩ := hstage
      have hwait := waiting?_of_step ht
      refine .closing (y.caller m) session (by rw [hwait, if_pos rfl, hstage]) ?_ ?_
      · intro j c hj hc
        rw [hwait] at hj
        split_ifs at hj with hjm
        · exact hjm
        · simp [hr j c hj] at hc
      · subst hut
        exact live_eq_none_of_stage hd hstage
    · have hnone (c : Call) (hc : t.result.stage? = some c) : c.isDisconnect = false := by
        cases c with
        | disconnect session => exact absurd ⟨session, hc⟩ hstage
        | connect | beat => rfl
      refine .resting (rests_of_step ht hnone fun j c _ => hr j c) ?_
      subst hut
      rw [told_concat, resetLast_concat]
      exact hc.deed hd hcall fun session hs => hstage ⟨session, hs⟩
  | closing k session hk huniq hl =>
    -- In one thread this is the other section of the call that takes the session down.
    have hm := hp k _ hk rfl
    have hcall : y.resumed? m = some (.disconnect session) := by
      rw [resumed?, hm]
      exact hk
    have hcaller : y.caller m = k := by simp [caller, Tasks.place, hm]
    obtain rfl := eq_of_resumed_disconnect hu hcall
    subst hut
    refine .resting (rests_of_step ht ?_ fun j c hjm hj => ?_) ?_
    · intro c hc
      cases hc
    · by_contra hc
      exact hjm ((huniq j c hj (by simpa using hc)).trans hcaller.symm)
    · rw [told_concat, resetLast_concat]
      simp only [Move.resets_of_resumes? hm]
      exact .of_not_isEstablished rfl rfl hl

theorem Run.abreast {host : Host} {address : String} {params : SessionParams}
    (hy : Run ⟨{ host, address, params }, []⟩ h y) (hp : ∀ a ∈ h, a.IsPrompt) : Abreast h y := by
  induction hy with
  | nil =>
    refine .resting (fun k c hk => ?_) (.of_not_isEstablished rfl rfl rfl)
    simp [Tasks.waiting?] at hk
  | @snoc h y m t hy ht ih =>
    have hlast := hp _ (List.mem_append_right h (List.mem_singleton_self _))
    exact (ih fun a ha => hp a (List.mem_append_left _ ha)).step ht hlast

/-- The events tell what the manager shows of itself. Make any calls on a new manager, all in one
thread, and let the controller answer anything in any order: whenever no call is just taking the
session down, the state is the one told last; and in the established states, the session is the one
opened last, with the failures in a row, the number acknowledged last and the size of the
configuration that were told of it, while in the other states there is nothing to be seen of a
session. The one difference is after a reset: the manager is disconnected, and closed by what was
told. -/
theorem outline_eq_told {host : Host} {address : String} {params : SessionParams}
    (hy : Run ⟨{ host, address, params }, []⟩ h y) (hp : ∀ a ∈ h, a.IsPrompt) (hr : y.Rests) :
    (resetLast h → (told h).state = .closed) ∧
      y.session.snapshot.outline =
        { (told h).shown with
          state := if resetLast h then .disconnected else (told h).state } := by
  cases hy.abreast hp with
  | resting _ hc => exact hc.outline
  | closing k session hk => cases hr k _ hk

/-- A controller that accepts everything, and sends a configuration with every acknowledgement. -/
def updating : (r : Request) → r.Answer
  | .heartbeat _ sequence => .ok { sequence, config := some [123, 125] }
  | r => accepting r

/-- Of two overlapping heartbeats the second is acknowledged, with a configuration of two bytes,
and the first is not answered in time. In another history the session is taken down while a
heartbeat is under way, the manager is reset, and then the answer comes in. -/
theorem outline_eq_told_of_three :
    ∃ (x y z : Traffic) (h h' : List Entry), Run x h y ∧ Run x h' z ∧
      y.session.snapshot.outline = ⟨.active, some "session-1", 1, some 1, some 2⟩ ∧
      (told h').state = .closed ∧
      z.session.snapshot.outline = ⟨.disconnected, none, 0, none, none⟩ := by
  let x : Traffic :=
    ⟨{ host := .named "lobby-1", address := "http://127.0.0.1:12892",
       params := ⟨.ofSeconds 5, 3, 6⟩ }, []⟩
  have hy := Run.get_play? (x := x) [.connect, .resume 0 0 accepting, .resume 0 0 accepting, .beat,
    .beat, .resume 2 0 updating, .resume 1 0 silent] (by decide +kernel)
  have hz := Run.get_play? (x := x) [.connect, .resume 0 0 accepting, .resume 0 0 accepting, .beat,
    .disconnect, .resume 2 0 accepting, .reset, .resume 1 0 accepting] (by decide +kernel)
  obtain ⟨-, hopen⟩ := outline_eq_told hy (by decide +kernel) (by decide +kernel)
  obtain ⟨hclosed, hreset⟩ := outline_eq_told hz (by decide +kernel) (by decide +kernel)
  exact ⟨x, _, _, _, _, hy, hz, hopen.trans (by decide +kernel), hclosed (by decide +kernel),
    hreset.trans (by decide +kernel)⟩

end Traffic

end Session

end FleetAgent
