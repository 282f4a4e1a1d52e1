import FleetAgent.Proofs.Turn
import FleetAgent.Session.Beat
import FleetAgent.Session.Connect
import Mathlib.Tactic.Common

/-!
# The sections of a session manager

What each section of a session manager comes to, by the state in which it finds the manager. An
answer that comes too late is turned away; an answer to a heartbeat that still counts is one of five
*verdicts*.

## Main definitions

* `Session.Verdict`: what an answer to a heartbeat may mean for an open session.

## Main results

* `Session.finishConnect_of_stale`, `Session.finishBeat_of_stale`: answers that come too late.
* `Session.verdict_apply`: an answer that counts has one of the five meanings.
-/

namespace FleetAgent

/-- An answer with the empty identifier is not accepted. -/
theorem Request.accept_ne (host : Host) (answer : Except ClientError String) :
    accept (.connect host) answer ≠ .ok "" := by
  cases answer with
  | error e => simp [accept]
  | ok id => by_cases hid : id = "" <;> simp [accept, hid]

namespace Session

variable {s : Session}

/-! ### Opening a session -/

theorem beginConnect_of_disconnected (h : s.state = .disconnected) :
    s.beginConnect =
      { state := { s with state := .connecting, epoch := s.epoch + 1 }
        effects := [
          .publish (.of .sessionConnecting),
          .log ⟨.debug, target, "connecting to controller", [("address", s.address)]⟩]
        result := .waiting (.dialing (s.epoch + 1)) } := by
  simp only [beginConnect, h, ne_eq, not_true_eq_false, ↓reduceIte]

theorem beginConnect_of_ne (h : s.state ≠ .disconnected) :
    s.beginConnect = { state := s, result := .done (.error (s.invalid "connect")) } := by
  simp only [beginConnect, h, ne_eq, not_false_eq_true, ↓reduceIte]

/-- An attempt that is not the one that the manager waits for changes nothing. -/
theorem finishConnect_of_stale {e : Nat} (h : s.epoch ≠ e ∨ s.state ≠ .connecting)
    (answer : Except ClientError String) :
    s.finishConnect e answer = { state := s, result := .error (s.invalid "connect") } := by
  simp only [finishConnect, h, ↓reduceIte]

theorem finishConnect_ok {e : Nat} (he : s.epoch = e) (h : s.state = .connecting) (id : String) :
    s.finishConnect e (.ok id) =
      { state := { s with state := .active, live := some { id } }
        effects := [.publish ((Event.of .sessionConnected).withSession id)]
        result := .ok id } := by
  simp only [finishConnect, he, h, ne_eq, not_true_eq_false, or_self, ↓reduceIte]

theorem finishConnect_error {e : Nat} (he : s.epoch = e) (h : s.state = .connecting)
    (cause : ClientError) :
    s.finishConnect e (.error cause) =
      { state := { s with state := .disconnected }
        effects := [.publish ((Event.of .connectFailed).withReason cause.message)]
        result := .error (.connectionFailed cause) } := by
  simp only [finishConnect, he, h, ne_eq, not_true_eq_false, or_self, ↓reduceIte]

/-- An attempt opens a session only with the identifier that it is answered with. -/
theorem eq_ok_of_finishConnect {e : Nat} {answer : Except ClientError String} {id : String}
    (h : (s.finishConnect e answer).result = .ok id) : answer = .ok id := by
  by_cases hstale : s.epoch ≠ e ∨ s.state ≠ .connecting
  · rw [finishConnect_of_stale hstale] at h
    cases h
  · obtain ⟨he, hs⟩ := not_or.mp hstale
    cases answer with
    | ok id' =>
      rw [finishConnect_ok (not_not.mp he) (not_not.mp hs)] at h
      exact congrArg Except.ok (Except.ok.inj h)
    | error cause =>
      rw [finishConnect_error (not_not.mp he) (not_not.mp hs)] at h
      cases h

/-! ### Taking a session down -/

theorem beginDisconnect_of_closed (h : s.state = .closed) :
    s.beginDisconnect = { state := s, result := .done () } := by
  simp only [beginDisconnect, h, ↓reduceIte]

theorem beginDisconnect_of_ne (h : s.state ≠ .closed) :
    s.beginDisconnect =
      { state := { s with state := .shuttingDown, live := none }
        result := .waiting (s.live.map (·.id)) } := by
  simp only [beginDisconnect, h, ↓reduceIte]

theorem disconnect_of_closed (h : s.state = .closed) :
    s.disconnect = { state := s, result := () } := by
  rw [disconnect, beginDisconnect_of_closed h]
  rfl

theorem disconnect_of_ne (h : s.state ≠ .closed) :
    s.disconnect =
      { state := { s with state := .closed, live := none }
        effects := [.publish { Event.of .sessionClosed with session := s.live.map (·.id) }]
        result := () } := by
  rw [disconnect, beginDisconnect_of_ne h]
  rfl

theorem state_disconnect (s : Session) : s.disconnect.state.state = .closed := by
  by_cases h : s.state = .closed
  · rw [disconnect_of_closed h]
    exact h
  · rw [disconnect_of_ne h]

theorem reset_of_closed (h : s.state = .closed) :
    s.reset = { state := { s with state := .disconnected }, result := .ok () } := by
  simp only [reset, h, ↓reduceIte]

theorem reset_of_ne (h : s.state ≠ .closed) :
    s.reset = { state := s, result := .error (s.invalid "reset") } := by
  simp only [reset, h, ↓reduceIte]

/-! ### Heartbeats -/

theorem beginBeat_of_established {live : Live} (h : s.established? = some live) :
    s.beginBeat =
      { state := { s with live := some { live with nextSequence := live.nextSequence + 1 } }
        result := .waiting ⟨s.epoch, live.id, live.nextSequence⟩ } := by
  simp only [beginBeat, h]

theorem beginBeat_of_none (h : s.established? = none) :
    s.beginBeat = { state := s, result := .done (.error (s.invalid "beat")) } := by
  simp only [beginBeat, h]

theorem established?_eq_some_iff {live : Live} :
    s.established? = some live ↔ s.state.isEstablished ∧ s.live = some live := by
  simp only [established?]
  split_ifs with h <;> simp [h]

/-- No heartbeat is sent unless a session is open. -/
theorem state_beginBeat_of_not (h : ¬ s.state.isEstablished) : s.beginBeat.state = s := by
  rw [beginBeat_of_none]
  simp only [established?, h, Bool.false_eq_true, ↓reduceIte]

/-- An answer to a heartbeat of another session than the open one changes nothing. -/
theorem finishBeat_of_stale {b : Beat} (h : s.epoch ≠ b.epoch ∨ ¬ s.state.isEstablished)
    (now : Instant) (answer : Except ClientError HeartbeatReply) :
    s.finishBeat now b answer = { state := s, result := .error (s.invalid "beat") } := by
  simp only [finishBeat, h, ↓reduceIte]

theorem finishBeat_of_current {b : Beat} (he : s.epoch = b.epoch) (h : s.state.isEstablished)
    (now : Instant) (answer : Except ClientError HeartbeatReply) :
    s.finishBeat now b answer = s.apply now b.sequence answer := by
  simp only [finishBeat, he, h, ne_eq, not_true_eq_false, or_self, ↓reduceIte]

theorem apply_of_none (h : s.live = none) (now : Instant) (sequence : Nat)
    (answer : Except ClientError HeartbeatReply) :
    s.apply now sequence answer = { state := s, result := .error (s.invalid "beat") } := by
  simp only [apply, h]

/-- An answer to a heartbeat changes nothing unless the session for which it was sent is open. -/
theorem finishBeat_of_late {b : Beat} (h : s.epoch ≠ b.epoch ∨ s.established? = none)
    (now : Instant) (answer : Except ClientError HeartbeatReply) :
    s.finishBeat now b answer = { state := s, result := .error (s.invalid "beat") } := by
  by_cases hcur : s.epoch = b.epoch ∧ s.state.isEstablished
  · have hnone := h.resolve_left (not_not_intro hcur.1)
    simp only [established?, hcur.2, ↓reduceIte] at hnone
    rw [finishBeat_of_current hcur.1 hcur.2, apply_of_none hnone]
  · exact finishBeat_of_stale (not_and_or.mp hcur) now answer

/-- With too many failures in a row the session is given up. -/
theorem miss_of_le {live : Live} (hf : s.params.loseAfter ≤ live.failures + 1) (sequence : Nat)
    (e : ClientError) :
    s.miss live sequence e =
      ({ s with live := some { live with failures := live.failures + 1 } }.lose
        (live.failures + 1) (toString (live.failures + 1) ++
          " consecutive heartbeat failures, last: " ++ e.message)).map .error := by
  simp only [miss, hf, ↓reduceIte]

/-- What an answer to the heartbeat of a number may mean for the manager `s` with the open session
`live`: the answer, after its number was checked, is an acknowledgement, a failure that is counted,
the failure with which the session is given up, a rejection, or an error that says nothing about the
session. -/
inductive Verdict (s : Session) (live : Live) (now : Instant) (sequence : Nat) :
    Except ClientError HeartbeatReply → Turn Session (Except SessionError BeatOutcome) → Prop
  | acked (reply : HeartbeatReply) :
      Verdict s live now sequence (.ok reply) (s.acknowledge live now sequence reply)
  | missed (e : ClientError) (ht : e.isTransient)
      (hf : live.failures + 1 < s.params.loseAfter) :
      Verdict s live now sequence (.error e) (s.miss live sequence e)
  | worn (e : ClientError) (ht : e.isTransient) (hf : s.params.loseAfter ≤ live.failures + 1) :
      Verdict s live now sequence (.error e)
        (({ s with live := some { live with failures := live.failures + 1 } }.lose
          (live.failures + 1) (toString (live.failures + 1) ++
            " consecutive heartbeat failures, last: " ++ e.message)).map .error)
  | rejected (reason : String) :
      Verdict s live now sequence (.error (.rejected reason))
        ((s.lose live.failures (ClientError.rejected reason).message).map .error)
  | unrelated (e : ClientError) (ht : e.isTransient = false)
      (hr : ∀ reason, e ≠ .rejected reason) :
      Verdict s live now sequence (.error e) { state := s, result := .error (.client e) }

/-- An answer that counts has one of the five meanings. -/
theorem verdict_apply {live : Live} (hl : s.live = some live) (now : Instant) (sequence : Nat)
    (answer : Except ClientError HeartbeatReply) :
    Verdict s live now sequence (answer.bind (·.checkSequence sequence))
      (s.apply now sequence answer) := by
  simp only [apply, hl]
  cases answer.bind (·.checkSequence sequence) with
  | ok reply => exact .acked reply
  | error e =>
    by_cases ht : e.isTransient
    · simp only [ht, ↓reduceIte]
      by_cases hf : s.params.loseAfter ≤ live.failures + 1
      · simpa only [miss, hf, ↓reduceIte] using Verdict.worn e ht hf
      · exact .missed e ht (Nat.lt_of_not_le hf)
    · have ht' : e.isTransient = false := by simpa using ht
      simp only [ht', Bool.false_eq_true, ↓reduceIte]
      cases e with
      | rejected reason => exact .rejected reason
      | transport reason | protocol reason => simp [ClientError.isTransient] at ht'
      | invalidRequest reason | invalidEndpoint reason =>
        exact .unrelated _ rfl fun _ => ClientError.noConfusion

/-- A failure that is counted leaves the session established. -/
theorem isEstablished_miss {live : Live} {sequence : Nat} {e : ClientError}
    (h : s.state.isEstablished) (hf : live.failures + 1 < s.params.loseAfter) :
    (s.miss live sequence e).state.state.isEstablished := by
  simp only [miss, Nat.not_le_of_lt hf, ↓reduceIte]
  split_ifs
  · rfl
  · exact h

/-- An acknowledgement leaves the session established. -/
theorem isEstablished_acknowledge {live : Live} {now : Instant} {sequence : Nat}
    {reply : HeartbeatReply} (h : s.state.isEstablished) :
    (s.acknowledge live now sequence reply).state.state.isEstablished := by
  simp only [acknowledge]
  split_ifs
  · rfl
  · exact h

end Session

end FleetAgent
