import FleetAgent.Agent.Activity
import FleetAgent.Proofs.Session.Sections
import FleetAgent.Proofs.Tasks

/-!
# A session manager among its calls

Any number of calls are made on one session manager, from different tasks. Each call goes on in
atomic sections; between two sections of a call any other call may be made or may go on, the
controller answers at any later time or never, and taking the session down is two sections. The
*traffic* of a manager is the manager together with the calls that were made on it.

A section *displaces* what the manager holds if it begins a newer attempt to open a session, takes
the session down, or gives it up. These are the sections after which an answer to an older request
must not count any more.

## Main definitions

* `Session.Call`, `Session.resume`: a call that waits, and its next section.
* `Session.Traffic`, `Session.Move`, `Session.Traffic.step`: the calls, and what may happen next.
* `Session.Traffic.Reachable`, `Session.Traffic.Since`: the traffic of a new manager, and what has
  happened from some moment on.
* `Session.Deed`: what a section does, with what it tells and how far its call has come.
* `Session.Shift`: what a section may do to the manager.

## Main results

* `Session.Traffic.deed_of_section?`, `Session.Traffic.shift_of_step`: every section does one of
  these things.
-/

namespace FleetAgent.Session

/-- A call on a session manager that waits between two of its sections. -/
inductive Call where
  /-- An attempt to open a session. -/
  | connect (stage : Connect)
  /-- A heartbeat. -/
  | beat (beat : Beat)
  /-- Taking the session down; the stage is the identifier of the session that was open. -/
  | disconnect (session : Option String)
deriving DecidableEq, Repr

/-- Whether the call is one that takes the session down. -/
def Call.isDisconnect : Call → Bool
  | .disconnect _ => true
  | _ => false

/-- The outcome of a section of a call. -/
abbrev CallTurn := Turn Session (Progress Call Outcome)

/-- The next section of a call, at some time and with what the controller answers. -/
def resume (s : Session) (now : Instant) (reply : (r : Request) → r.Answer) : Call → CallTurn
  | .connect stage =>
    (Connect.resume s stage (reply (stage.request s.host))).map (·.map .connect .ofOpened)
  | .beat b => (s.finishBeat now b (reply b.request)).map fun r => .done (.ofBeat r)
  | .disconnect session => (s.finishDisconnect session).map fun _ => .done .finished

/-- A controller that accepts everything and opens the session `session-1`. -/
def accepting : (r : Request) → r.Answer
  | .dial | .setReady _ _ | .setRunning _ | .requestStop _ => .ok ()
  | .connect _ => .ok "session-1"
  | .heartbeat _ sequence => .ok { sequence }

/-- What may happen next on a session manager. -/
inductive Move where
  /-- The first section of an attempt to open a session. -/
  | connect
  /-- The first section of a heartbeat. -/
  | beat
  /-- The first section of taking the session down. -/
  | disconnect
  /-- Bringing a closed manager back to the start. -/
  | reset
  /-- The next section of the call of a number, at some time and with what the controller
  answers. -/
  | resume (call : Nat) (now : Instant) (reply : (r : Request) → r.Answer)

/-- Whether a section with such a result displaces what the manager holds: a newer attempt begins,
the session is taken down, in one of the two sections of that, or it is given up. -/
def Move.displaces : Move → Progress Call Outcome → Bool
  | .connect, .waiting _ => true
  | .disconnect, .waiting _ => true
  | .resume .., .done .finished => true
  | .resume .., .done (.failed (.session (.lost _ _))) => true
  | _, _ => false

/-- The number of the call that goes on in a move, if it is not the first section of a new one. -/
def Move.resumes? : Move → Option Nat
  | .resume k _ _ => some k
  | _ => none

/-- A session manager with the calls made on it. -/
structure Traffic where
  /-- The session manager. -/
  session : Session
  /-- The calls. -/
  calls : Tasks Call := []

namespace Traffic

/-- The section of the manager in a move; none if the call of the move does not wait. -/
def section? (x : Traffic) : Move → Option CallTurn
  | .connect => some (x.session.beginConnect.map (·.map .connect .ofOpened))
  | .beat => some (x.session.beginBeat.map (·.map .beat .ofBeat))
  | .disconnect => some (x.session.beginDisconnect.map (·.map .disconnect fun _ => .finished))
  | .reset => some (x.session.reset.map fun r => .done (.ofUnit .session r))
  | .resume k now reply => (x.calls.waiting? k).map (x.session.resume now reply)

/-- The number of the call whose section a move is. -/
def caller (x : Traffic) (m : Move) : Nat := x.calls.place m.resumes?

/-- The call that goes on in a move, if it is not the first section of a new one. -/
def resumed? (x : Traffic) (m : Move) : Option Call := m.resumes?.bind x.calls.waiting?

/-- A move, if it is possible. -/
def step (x : Traffic) (m : Move) : Option (Turn Traffic (Progress Call Outcome)) :=
  (x.section? m).map fun t =>
    { state := ⟨t.state, x.calls.put m.resumes? t.result.stage?⟩
      effects := t.effects
      result := t.result }

/-- The traffic that a new session manager can come to. -/
inductive Reachable : Traffic → Prop
  | new (host : Host) (address : String) (params : SessionParams) :
      Reachable { session := { host, address, params } }
  | step {x : Traffic} {m : Move} {t : Turn Traffic (Progress Call Outcome)} (hx : Reachable x)
      (ht : x.step m = some t) : Reachable t.state

/-- What has happened from the traffic `x` on: moves have led to another traffic, and one of them
has displaced what the manager held, or none has. -/
inductive Since (x : Traffic) : Bool → Traffic → Prop
  | refl : Since x false x
  | step {d : Bool} {y : Traffic} {m : Move} {t : Turn Traffic (Progress Call Outcome)}
      (hy : Since x d y) (ht : y.step m = some t) : Since x (d || m.displaces t.result) t.state

theorem Since.reachable {x y : Traffic} {d : Bool} (h : Since x d y) (hx : Reachable x) :
    Reachable y := by
  induction h with
  | refl => exact hx
  | step _ ht ih => exact .step ih ht

/-- Follows a list of moves, if all of them are possible: whether one of them displaces what the
manager holds, or something was displaced before, and the traffic at the end. -/
def follow? (d : Bool) (x : Traffic) : List Move → Option (Bool × Traffic)
  | [] => some (d, x)
  | m :: ms => (x.step m).bind fun t => t.state.follow? (d || m.displaces t.result) ms

theorem Since.follow? {x y z : Traffic} {d d' : Bool} (hy : Since x d y) (ms : List Move)
    (hz : y.follow? d ms = some (d', z)) : Since x d' z := by
  induction ms generalizing d y with
  | nil =>
    obtain ⟨rfl, rfl⟩ := Prod.mk.inj (Option.some.inj hz)
    exact hy
  | cons m ms ih =>
    obtain ⟨t, ht, hz⟩ := Option.bind_eq_some_iff.mp hz
    exact ih (.step hy ht) hz

/-- Every move is a section of the manager, and changes the stage of its own call only. -/
theorem step_eq_some_iff {x : Traffic} {m : Move} {u : Turn Traffic (Progress Call Outcome)} :
    x.step m = some u ↔ ∃ t, x.section? m = some t ∧
      u = ⟨⟨t.state, x.calls.put m.resumes? t.result.stage?⟩, t.effects, t.result⟩ := by
  simp only [step, Option.map_eq_some_iff]
  exact exists_congr fun t => and_congr_right fun _ => eq_comm

/-- The call that goes on in a move waits. -/
theorem exists_waiting?_of_step {x : Traffic} {m : Move}
    {t : Turn Traffic (Progress Call Outcome)} (ht : x.step m = some t) {k : Nat}
    (hk : m.resumes? = some k) : ∃ c, x.calls.waiting? k = some c := by
  obtain ⟨u, hu, -⟩ := step_eq_some_iff.mp ht
  cases m with
  | resume j now reply =>
    obtain rfl := Option.some.inj hk
    obtain ⟨c, hc, -⟩ := Option.map_eq_some_iff.mp hu
    exact ⟨c, hc⟩
  | connect | beat | disconnect | reset => cases hk

/-- After a move its own call waits at the stage that the section came to, and every other call
where it did before. -/
theorem waiting?_of_step {x : Traffic} {m : Move} {t : Turn Traffic (Progress Call Outcome)}
    (ht : x.step m = some t) (k : Nat) :
    t.state.calls.waiting? k =
      if k = x.caller m then t.result.stage? else x.calls.waiting? k := by
  have hlt (j : Nat) (hj : m.resumes? = some j) : j < x.calls.length := by
    obtain ⟨c, hc⟩ := exists_waiting?_of_step ht hj
    exact Tasks.lt_of_waiting? hc
  obtain ⟨u, -, rfl⟩ := step_eq_some_iff.mp ht
  exact Tasks.waiting?_put hlt

/-- The call that goes on in a move is the one that the move names. -/
theorem waiting?_caller {x : Traffic} {m : Move} {c : Call} (h : x.resumed? m = some c) :
    x.calls.waiting? (x.caller m) = some c := by
  obtain ⟨k, hk, hc⟩ := Option.bind_eq_some_iff.mp h
  simp only [caller, Tasks.place, hk]
  exact hc

/-- A move that is not the first section of a new call goes on with a call that waits. -/
theorem exists_resumed?_eq_some {x : Traffic} {m : Move}
    {t : Turn Traffic (Progress Call Outcome)} (ht : x.step m = some t)
    (h : x.caller m < x.calls.length) : ∃ c, x.resumed? m = some c := by
  cases hk : m.resumes? with
  | none => exact absurd h (by simp [caller, Tasks.place, hk])
  | some k => simpa [resumed?, hk] using exists_waiting?_of_step ht hk

/-- The section of a call that is taking the session down is its second one. -/
theorem eq_of_resumed_disconnect {x : Traffic} {m : Move} {u : CallTurn} {session : Option String}
    (hu : x.section? m = some u) (hr : x.resumed? m = some (.disconnect session)) :
    u = (x.session.finishDisconnect session).map fun _ => .done .finished := by
  cases m with
  | resume k now reply =>
    obtain ⟨c, hc, rfl⟩ := Option.map_eq_some_iff.mp hu
    obtain rfl := Option.some.inj (hc.symm.trans hr)
    rfl
  | connect | beat | disconnect | reset => cases hr

/-- No call is forgotten. -/
theorem length_calls_le {x : Traffic} {m : Move} {t : Turn Traffic (Progress Call Outcome)}
    (ht : x.step m = some t) : x.calls.length ≤ t.state.calls.length := by
  obtain ⟨u, -, rfl⟩ := step_eq_some_iff.mp ht
  exact Tasks.length_le_put

end Traffic

/-! ### What a section does -/

/-- A section that is turned away with the present state. -/
def declined (s : Session) (op : String) : CallTurn :=
  { state := s, result := .done (.failed (.session (s.invalid op))) }

/-- Whether the manager turns a section of a move away. The call that goes on is given, unless it is
a new one. -/
def Declines (s : Session) : Move → Option Call → Prop
  | .connect, _ => s.state ≠ .disconnected
  | .beat, _ => s.established? = none
  | .reset, _ => s.state ≠ .closed
  | .resume .., some (.connect stage) => s.epoch ≠ stage.epoch ∨ s.state ≠ .connecting
  | .resume .., some (.beat b) => s.epoch ≠ b.epoch ∨ s.established? = none
  | _, _ => False

/-- What a section of a move does to the manager `s`. The call that goes on is given, unless it is a
new one. -/
inductive Deed (s : Session) : Move → Option Call → CallTurn → Prop
  | declined {m : Move} {c : Option Call} (op : String) (h : s.Declines m c) :
      Deed s m c (s.declined op)
  | opening (h : s.state = .disconnected) :
      Deed s .connect none
        { state := { s with state := .connecting, epoch := s.epoch + 1 }
          effects := [
            .publish (.of .sessionConnecting),
            .log ⟨.debug, target, "connecting to controller", [("address", s.address)]⟩]
          result := .waiting (.connect (.dialing (s.epoch + 1))) }
  | dialed {k : Nat} {now : Instant} {reply : (r : Request) → r.Answer} (e : Nat) :
      Deed s (.resume k now reply) (some (.connect (.dialing e)))
        { state := s, result := .waiting (.connect (.greeting e)) }
  | opened {k : Nat} {now : Instant} {reply : (r : Request) → r.Answer} (stage : Connect)
      (id : String) (he : s.epoch = stage.epoch) (h : s.state = .connecting) :
      Deed s (.resume k now reply) (some (.connect stage))
        { state := { s with state := .active, live := some { id } }
          effects := [.publish ((Event.of .sessionConnected).withSession id)]
          result := .done (.opened id) }
  | refused {k : Nat} {now : Instant} {reply : (r : Request) → r.Answer} (stage : Connect)
      (cause : ClientError) (he : s.epoch = stage.epoch) (h : s.state = .connecting) :
      Deed s (.resume k now reply) (some (.connect stage))
        { state := { s with state := .disconnected }
          effects := [.publish ((Event.of .connectFailed).withReason cause.message)]
          result := .done (.failed (.session (.connectionFailed cause))) }
  | sent (live : Live) (h : s.state.isEstablished) (hl : s.live = some live) :
      Deed s .beat none
        { state := { s with live := some { live with nextSequence := live.nextSequence + 1 } }
          result := .waiting (.beat ⟨s.epoch, live.id, live.nextSequence⟩) }
  | judged {k : Nat} {now : Instant} {reply : (r : Request) → r.Answer} (b : Beat) (live : Live)
      {t : Turn Session (Except SessionError BeatOutcome)} (he : s.epoch = b.epoch)
      (h : s.state.isEstablished) (hl : s.live = some live)
      (hv : Verdict s live now b.sequence ((reply b.request).bind (·.checkSequence b.sequence)) t) :
      Deed s (.resume k now reply) (some (.beat b)) (t.map fun r => .done (.ofBeat r))
  | idle (h : s.state = .closed) :
      Deed s .disconnect none { state := s, result := .done .finished }
  | closing (h : s.state ≠ .closed) :
      Deed s .disconnect none
        { state := { s with state := .shuttingDown, live := none }
          result := .waiting (.disconnect (s.live.map (·.id))) }
  | closed {k : Nat} {now : Instant} {reply : (r : Request) → r.Answer} (session : Option String) :
      Deed s (.resume k now reply) (some (.disconnect session))
        { state := { s with state := .closed }
          effects := [.publish { Event.of .sessionClosed with session }]
          result := .done .finished }
  | reset (h : s.state = .closed) :
      Deed s .reset none { state := { s with state := .disconnected }, result := .done .finished }

section

variable {s : Session} {k : Nat} {now : Instant} {reply : (r : Request) → r.Answer}

private theorem deed_finishConnect (stage : Connect) (answer : Except ClientError String) :
    Deed s (.resume k now reply) (some (.connect stage))
      ((s.finishConnect stage.epoch answer).map fun r => .done (.ofOpened r)) := by
  by_cases h : s.epoch = stage.epoch ∧ s.state = .connecting
  · cases answer with
    | ok id =>
      rw [finishConnect_ok h.1 h.2]
      exact .opened stage id h.1 h.2
    | error e =>
      rw [finishConnect_error h.1 h.2]
      exact .refused stage e h.1 h.2
  · rw [finishConnect_of_stale (not_and_or.mp h)]
    exact .declined "connect" (not_and_or.mp h)

private theorem deed_finishBeat (b : Beat) :
    Deed s (.resume k now reply) (some (.beat b))
      ((s.finishBeat now b (reply b.request)).map fun r => .done (.ofBeat r)) := by
  by_cases h : s.epoch ≠ b.epoch ∨ s.established? = none
  · rw [finishBeat_of_late h]
    exact .declined "beat" h
  · obtain ⟨he, hlive⟩ := not_or.mp h
    obtain ⟨live, hlive⟩ := Option.ne_none_iff_exists'.mp hlive
    obtain ⟨hest, hl⟩ := established?_eq_some_iff.mp hlive
    rw [finishBeat_of_current (not_not.mp he) hest]
    exact .judged b live (not_not.mp he) hest hl (verdict_apply hl now b.sequence (reply b.request))

end

/-- Every section does one of these things. -/
theorem Traffic.deed_of_section? {x : Traffic} {m : Move} {u : CallTurn}
    (hu : x.section? m = some u) : Deed x.session m (x.resumed? m) u := by
  cases m with
  | connect =>
    obtain rfl := Option.some.inj hu
    by_cases h : x.session.state = .disconnected
    · rw [beginConnect_of_disconnected h]
      exact .opening h
    · rw [beginConnect_of_ne h]
      exact .declined "connect" h
  | beat =>
    obtain rfl := Option.some.inj hu
    cases h : x.session.established? with
    | none =>
      rw [beginBeat_of_none h]
      exact .declined "beat" h
    | some live =>
      rw [beginBeat_of_established h]
      obtain ⟨hest, hl⟩ := established?_eq_some_iff.mp h
      exact .sent live hest hl
  | disconnect =>
    obtain rfl := Option.some.inj hu
    by_cases h : x.session.state = .closed
    · rw [beginDisconnect_of_closed h]
      exact .idle h
    · rw [beginDisconnect_of_ne h]
      exact .closing h
  | reset =>
    obtain rfl := Option.some.inj hu
    by_cases h : x.session.state = .closed
    · rw [reset_of_closed h]
      exact .reset h
    · rw [reset_of_ne h]
      exact .declined "reset" h
  | resume k now reply =>
    obtain ⟨c, hc, rfl⟩ := Option.map_eq_some_iff.mp hu
    simp only [resumed?, Move.resumes?, Option.bind_some, hc]
    cases c with
    | connect stage =>
      cases stage with
      | dialing e =>
        cases h : reply .dial with
        | ok _ =>
          simp only [resume, Connect.resume, h]
          exact .dialed e
        | error e' =>
          simp only [resume, Connect.resume, h]
          exact deed_finishConnect (.dialing e) (.error e')
      | greeting e => exact deed_finishConnect (.greeting e) _
    | beat b => exact deed_finishBeat b
    | disconnect session => exact .closed session

/-! ### What a section may do -/

/-- What a section may do to the manager `s`. The call that goes on is given, unless it is a new
one, and whether the section displaces what the manager holds. -/
inductive Shift (s : Session) : Option Call → Bool → Session → Prop
  | still (c : Option Call) : Shift s c false s
  | opening (h : s.state = .disconnected) :
      Shift s none true { s with state := .connecting, epoch := s.epoch + 1 }
  | opened (stage : Connect) (id : String) (h : s.state = .connecting)
      (he : s.epoch = stage.epoch) :
      Shift s (some (.connect stage)) false { s with state := .active, live := some { id } }
  | refused (stage : Connect) (h : s.state = .connecting) (he : s.epoch = stage.epoch) :
      Shift s (some (.connect stage)) false { s with state := .disconnected }
  | sent (live : Live) (h : s.state.isEstablished) (hl : s.live = some live) :
      Shift s none false
        { s with live := some { live with nextSequence := live.nextSequence + 1 } }
  | judged (b : Beat) (live live' : Live) (state : SessionState) (he : s.epoch = b.epoch)
      (h : s.state.isEstablished) (hl : s.live = some live) (hid : live'.id = live.id)
      (h' : state.isEstablished) :
      Shift s (some (.beat b)) false { s with state, live := some live' }
  | lost (b : Beat) (he : s.epoch = b.epoch) (h : s.state.isEstablished) :
      Shift s (some (.beat b)) true { s with state := .closed, live := none }
  | closing (h : s.state ≠ .closed) :
      Shift s none true { s with state := .shuttingDown, live := none }
  | closed (session : Option String) :
      Shift s (some (.disconnect session)) true { s with state := .closed }
  | reset (h : s.state = .closed) : Shift s none false { s with state := .disconnected }

/-- What an answer to a heartbeat means is one of the things that a section may do. -/
theorem Verdict.shift {s : Session} {live : Live} {b : Beat} {k : Nat} {now : Instant}
    {reply : (r : Request) → r.Answer} {checked : Except ClientError HeartbeatReply}
    {t : Turn Session (Except SessionError BeatOutcome)} (he : s.epoch = b.epoch)
    (h : s.state.isEstablished) (hl : s.live = some live)
    (hv : Verdict s live now b.sequence checked t) :
    Shift s (some (.beat b)) ((Move.resume k now reply).displaces (.done (.ofBeat t.result)))
      t.state := by
  cases hv with
  | acked reply =>
    have hest : (s.acknowledge live now b.sequence reply).state.state.isEstablished :=
      isEstablished_acknowledge h
    exact .judged b live _ _ he h hl rfl hest
  | missed e ht hf =>
    have hest : (s.miss live b.sequence e).state.state.isEstablished := isEstablished_miss h hf
    simp only [miss, Nat.not_le_of_lt hf, ↓reduceIte] at hest ⊢
    exact .judged b live _ _ he h hl rfl hest
  | worn e ht hf => exact .lost b he h
  | rejected reason => exact .lost b he h
  | unrelated e ht hr => exact .still _

/-- What a section does is one of the things that a section may do. -/
theorem Deed.shift {s : Session} {m : Move} {c : Option Call} {u : CallTurn} (h : Deed s m c u) :
    Shift s c (m.displaces u.result) u.state := by
  cases h with
  | declined op => cases m <;> exact .still c
  | opening h => exact .opening h
  | dialed e => exact .still _
  | opened stage id he h => exact .opened stage id h he
  | refused stage cause he h => exact .refused stage h he
  | sent live h hl => exact .sent live h hl
  | judged b live he h hl hv => exact hv.shift he h hl
  | idle h => exact .still _
  | closing h => exact .closing h
  | closed session => exact .closed session
  | reset h => exact .reset h

/-- Both halves of a heartbeat are among the things that a section may do. -/
theorem exists_shift_beginBeat (s : Session) : ∃ d, Shift s none d s.beginBeat.state := by
  cases h : s.established? with
  | none => exact ⟨_, by rw [beginBeat_of_none h]; exact .still none⟩
  | some live =>
    obtain ⟨hest, hl⟩ := established?_eq_some_iff.mp h
    exact ⟨_, by rw [beginBeat_of_established h]; exact .sent live hest hl⟩

theorem exists_shift_finishBeat (s : Session) (now : Instant) (b : Beat)
    (answer : Except ClientError HeartbeatReply) :
    ∃ d, Shift s (some (.beat b)) d (s.finishBeat now b answer).state := by
  by_cases h : s.epoch ≠ b.epoch ∨ s.established? = none
  · exact ⟨_, by rw [finishBeat_of_late h]; exact .still _⟩
  · obtain ⟨he, hlive⟩ := not_or.mp h
    obtain ⟨live, hlive⟩ := Option.ne_none_iff_exists'.mp hlive
    obtain ⟨hest, hl⟩ := established?_eq_some_iff.mp hlive
    rw [finishBeat_of_current (not_not.mp he) hest]
    have hshift : Shift s (some (.beat b)) ((Move.resume 0 now accepting).displaces _) _ :=
      (verdict_apply hl now b.sequence answer).shift (not_not.mp he) hest hl
    exact ⟨_, hshift⟩

/-- Every section does one of the things that a section may do. -/
theorem Traffic.shift_of_step {x : Traffic} {m : Move}
    {t : Turn Traffic (Progress Call Outcome)} (ht : x.step m = some t) :
    Shift x.session (x.resumed? m) (m.displaces t.result) t.state.session := by
  obtain ⟨u, hu, rfl⟩ := step_eq_some_iff.mp ht
  exact (deed_of_section? hu).shift

end FleetAgent.Session
