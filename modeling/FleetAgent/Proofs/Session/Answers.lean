import FleetAgent.Proofs.Session.History

/-!
# The answers to heartbeats

What the answer to a heartbeat says of the session is one of four things: it acknowledges the
heartbeat, it is a failure that may pass by itself, it rejects the session, or it says nothing about
the session. A reply that names another sequence number is such a failure, and so is a call that is
not answered in time.

## Main definitions

* `Session.Sign`: what an answer says.
* `Session.Judged`: what comes of an answer, by what it says.
* `Session.Counts`: a failure is counted against the open session.

## Main results

* `Session.judged_finishBeat`: the answer to a heartbeat of the open session is judged by what it
  says.
* `Session.Traffic.counts_of_failed`: every failure is counted, and nothing else comes of it.
* `Session.Traffic.unchanged_of_failed`: a failure leaves the number acknowledged last and the
  configuration as they are, whichever session is open.
-/

namespace FleetAgent.Session

/-- What the answer to a heartbeat says of the session. -/
inductive Sign where
  /-- The heartbeat is acknowledged. -/
  | acknowledged
  /-- The heartbeat has failed, which may pass by itself. -/
  | failed
  /-- The session is not accepted any more. -/
  | rejected
  /-- Nothing is said of the session. -/
  | unrelated
deriving DecidableEq, Repr

namespace Sign

/-- What an error says. -/
def ofError : ClientError → Sign
  | .transport _ | .protocol _ => failed
  | .rejected _ => rejected
  | .invalidRequest _ | .invalidEndpoint _ => unrelated

/-- What the answer to the heartbeat of a sequence number says. -/
def of (sequence : Nat) : Except ClientError HeartbeatReply → Sign
  | .ok reply => if reply.sequence = sequence then acknowledged else failed
  | .error e => ofError e

/-- A heartbeat that is not answered in time has failed. -/
example (sequence : Nat) (d : Duration) : of sequence (.error (.timedOut d)) = failed := rfl

variable {sequence : Nat} {answer : Except ClientError HeartbeatReply} {reply : HeartbeatReply}
  {e : ClientError}

theorem ofError_eq_failed (h : e.isTransient) : ofError e = failed := by
  cases e with
  | transport | protocol => rfl
  | rejected | invalidRequest | invalidEndpoint => cases h

theorem ofError_eq_unrelated (h : e.isTransient = false) (hr : ∀ reason, e ≠ .rejected reason) :
    ofError e = unrelated := by
  cases e with
  | transport | protocol => cases h
  | rejected reason => exact absurd rfl (hr reason)
  | invalidRequest | invalidEndpoint => rfl

theorem of_eq_acknowledged (h : answer.bind (·.checkSequence sequence) = .ok reply) :
    of sequence answer = acknowledged := by
  cases answer with
  | ok r =>
    change r.checkSequence sequence = .ok reply at h
    by_cases hr : r.sequence = sequence
    · simp [of, hr]
    · simp [HeartbeatReply.checkSequence, hr] at h
  | error e => cases h

theorem of_eq_ofError (h : answer.bind (·.checkSequence sequence) = .error e) :
    of sequence answer = ofError e := by
  cases answer with
  | ok r =>
    change r.checkSequence sequence = .error e at h
    by_cases hr : r.sequence = sequence
    · simp [HeartbeatReply.checkSequence, hr] at h
    · simp only [HeartbeatReply.checkSequence, hr, ↓reduceIte] at h
      obtain rfl := Except.error.inj h
      simp [of, hr, ofError]
  | error e' =>
    obtain rfl := Except.error.inj h
    rfl

end Sign

/-- A controller that accepts everything, but does not answer to heartbeats in time. -/
def silent : (r : Request) → r.Answer
  | .heartbeat _ _ => .error (.timedOut (.ofSeconds 5))
  | r => accepting r

/-- A failure of the heartbeat of a sequence number is counted against the open session `live` of
the manager `s`, which is given up if that makes too many failures in a row. -/
def Counts (s : Session) (live : Live) (sequence : Nat)
    (t : Turn Traffic (Progress Call Outcome)) : Prop :=
  if live.failures + 1 < s.params.loseAfter then
    t.state.session.live = some { live with failures := live.failures + 1 } ∧
      t.result = .done (.beaten (.missed sequence (live.failures + 1)))
  else
    t.state.session.state = .closed ∧ t.state.session.live = none ∧
      ∃ reason, t.result = .done (.failed (.session (.lost live.id reason)))

variable {s : Session} {live : Live} {b : Beat} {now : Instant}
  {answer : Except ClientError HeartbeatReply}

/-- What comes of the answer to a heartbeat of the open session `live`, by what it says. -/
inductive Judged (s : Session) (live : Live) (now : Instant) (sequence : Nat) :
    Sign → Turn Session (Except SessionError BeatOutcome) → Prop
  | acknowledged (reply : HeartbeatReply) :
      Judged s live now sequence .acknowledged (s.acknowledge live now sequence reply)
  | failed (e : ClientError) : Judged s live now sequence .failed (s.miss live sequence e)
  | rejected (reason : String) :
      Judged s live now sequence .rejected ((s.lose live.failures reason).map .error)
  | unrelated (e : ClientError) :
      Judged s live now sequence .unrelated { state := s, result := .error (.client e) }

/-- The answer to a heartbeat of the open session is judged by what it says. -/
theorem judged_finishBeat (he : s.epoch = b.epoch) (h : s.state.isEstablished)
    (hl : s.live = some live) (now : Instant) (answer : Except ClientError HeartbeatReply) :
    Judged s live now b.sequence (Sign.of b.sequence answer) (s.finishBeat now b answer) := by
  rw [finishBeat_of_current he h]
  have hv := verdict_apply hl now b.sequence answer
  generalize hc : answer.bind (·.checkSequence b.sequence) = checked at hv
  generalize s.apply now b.sequence answer = t at hv ⊢
  cases hv with
  | acked reply =>
    rw [Sign.of_eq_acknowledged hc]
    exact .acknowledged reply
  | missed e ht hf =>
    rw [Sign.of_eq_ofError hc, Sign.ofError_eq_failed ht]
    exact .failed e
  | worn e ht hf =>
    rw [Sign.of_eq_ofError hc, Sign.ofError_eq_failed ht, ← miss_of_le hf]
    exact .failed e
  | rejected reason =>
    rw [Sign.of_eq_ofError hc]
    exact .rejected _
  | unrelated e ht hr =>
    rw [Sign.of_eq_ofError hc, Sign.ofError_eq_unrelated ht hr]
    exact .unrelated e

/-! ### What is told of an answer -/

section Published

variable {sequence : Nat} {e : ClientError} {event : Event}

theorem published_acknowledge (s : Session) (live : Live) (now : Instant) (sequence : Nat)
    (reply : HeartbeatReply) :
    let about (kind : EventKind) : Event :=
      (Event.of kind).withSession live.id |>.withSequence sequence
    (s.acknowledge live now sequence reply).published =
      (if s.state = .degraded then [about .sessionRecovered] else []) ++
      [about .heartbeatAcked] ++
      (reply.config.map fun config => (about .configUpdated).withSize config.length).toList ++
      (if reply.directive = .terminate then [about .terminateRequested] else []) := by
  simp only [acknowledge, Turn.published]
  split_ifs <;> cases reply.config <;> rfl

/-- The failures that are counted are told, and so is it if the session is degraded by them. -/
theorem published_miss_of_lt (hf : live.failures + 1 < s.params.loseAfter) :
    (s.miss live sequence e).published =
      ((Event.of .heartbeatMissed).withSession live.id |>.withSequence sequence
        |>.withFailures (live.failures + 1) |>.withReason e.message) ::
      if s.params.degradeAfter ≤ live.failures + 1 ∧ s.state = .active then
        [(Event.of .sessionDegraded).withSession live.id |>.withFailures (live.failures + 1)]
      else [] := by
  simp only [miss, Nat.not_le_of_lt hf, ↓reduceIte, Turn.published]
  split_ifs <;> rfl

theorem published_lose (s : Session) (failures : Nat) (reason : String) :
    (s.lose failures reason).published =
      [(Event.of .sessionLost).withSession ((s.live.map (·.id)).getD "") |>.withFailures failures
        |>.withReason reason] := rfl

/-- The kinds of the events that tell of an acknowledgement. -/
theorem kind_of_mem_published_acknowledge {reply : HeartbeatReply}
    (h : event ∈ (s.acknowledge live now sequence reply).published) :
    event.kind = .sessionRecovered ∨ event.kind = .heartbeatAcked ∨ event.kind = .configUpdated ∨
      event.kind = .terminateRequested := by
  rw [published_acknowledge, List.mem_append, List.mem_append, List.mem_append] at h
  rcases h with ((h | h) | h) | h
  · split_ifs at h
    · rw [List.mem_singleton.mp h]
      exact .inl rfl
    · cases h
  · rw [List.mem_singleton.mp h]
    exact .inr (.inl rfl)
  · obtain ⟨config, -, rfl⟩ := Option.map_eq_some_iff.mp (Option.mem_toList.mp h)
    exact .inr (.inr (.inl rfl))
  · split_ifs at h
    · rw [List.mem_singleton.mp h]
      exact .inr (.inr (.inr rfl))
    · cases h

/-- The kinds of the events that tell of a failure that is only counted. -/
theorem kind_of_mem_published_miss_of_lt (hf : live.failures + 1 < s.params.loseAfter)
    (h : event ∈ (s.miss live sequence e).published) :
    event.kind = .heartbeatMissed ∨ event.kind = .sessionDegraded := by
  rw [published_miss_of_lt hf] at h
  rcases List.mem_cons.mp h with rfl | h
  · exact .inl rfl
  · split_ifs at h
    · rw [List.mem_singleton.mp h]
      exact .inr rfl
    · cases h

/-- The kinds of the events that tell of a failure. -/
theorem kind_of_mem_published_miss (h : event ∈ (s.miss live sequence e).published) :
    event.kind = .heartbeatMissed ∨ event.kind = .sessionDegraded ∨ event.kind = .sessionLost := by
  by_cases hf : live.failures + 1 < s.params.loseAfter
  · exact (kind_of_mem_published_miss_of_lt hf h).imp_right .inl
  · rw [miss_of_le (Nat.le_of_not_lt hf), Turn.published_map, published_lose,
      List.mem_singleton] at h
    rw [h]
    exact .inr (.inr rfl)

end Published

namespace Traffic

variable {x : Traffic} {t : Turn Traffic (Progress Call Outcome)} {k : Nat}
  {reply : (r : Request) → r.Answer}

/-- The section after the answer to a heartbeat is its second one. -/
theorem finishBeat_of_step (ht : x.step (.resume k now reply) = some t)
    (hk : x.calls.waiting? k = some (.beat b)) :
    let u := x.session.finishBeat now b (reply b.request)
    t.state.session = u.state ∧ t.effects = u.effects ∧ t.result = .done (.ofBeat u.result) := by
  obtain ⟨u, hu, rfl⟩ := step_eq_some_iff.mp ht
  obtain ⟨c, hc, rfl⟩ := Option.map_eq_some_iff.mp hu
  obtain rfl := Option.some.inj (hk.symm.trans hc)
  exact ⟨rfl, rfl, rfl⟩

/-- Every failure of a heartbeat of the open session is counted. The reply has no other effect: no
acknowledgement, no new configuration and no directive is told. -/
theorem counts_of_failed (ht : x.step (.resume k now reply) = some t)
    (hk : x.calls.waiting? k = some (.beat b)) (he : x.session.epoch = b.epoch)
    (h : x.session.state.isEstablished) (hl : x.session.live = some live)
    (hs : Sign.of b.sequence (reply b.request) = .failed) :
    Counts x.session live b.sequence t ∧ ∀ event ∈ t.published, event.kind = .heartbeatMissed ∨
      event.kind = .sessionDegraded ∨ event.kind = .sessionLost := by
  obtain ⟨hstate, heffects, hresult⟩ := finishBeat_of_step ht hk
  have hj := judged_finishBeat he h hl now (reply b.request)
  generalize x.session.finishBeat now b (reply b.request) = u at hj hstate heffects hresult
  rw [hs] at hj
  obtain ⟨e⟩ := hj
  refine ⟨?_, fun event hmem => ?_⟩
  · rw [Counts, hstate, hresult]
    split_ifs with hf
    · simp [miss, Nat.not_le_of_lt hf, Outcome.ofBeat]
    · simp [miss, Nat.le_of_not_lt hf, lose, Outcome.ofBeat, Turn.map]
  · rw [Turn.published, heffects] at hmem
    exact kind_of_mem_published_miss hmem

/-- Whatever session is open, a failure changes neither the number acknowledged last nor the
configuration, it is told as a failure, and its call does not return an acknowledgement. -/
theorem unchanged_of_failed (ht : x.step (.resume k now reply) = some t)
    (hk : x.calls.waiting? k = some (.beat b))
    (hs : Sign.of b.sequence (reply b.request) = .failed) :
    (∀ live live', x.session.live = some live → t.state.session.live = some live' →
      live'.lastAcked = live.lastAcked ∧ live'.config = live.config) ∧
    (∀ n d, t.result ≠ .done (.beaten (.acked n d))) ∧
    ∀ event ∈ t.published, event.kind = .heartbeatMissed ∨ event.kind = .sessionDegraded ∨
      event.kind = .sessionLost := by
  by_cases hcur : x.session.epoch = b.epoch ∧ x.session.established?.isSome
  · obtain ⟨he, hest⟩ := hcur
    obtain ⟨live, hlive⟩ := Option.isSome_iff_exists.mp hest
    obtain ⟨hest, hl⟩ := established?_eq_some_iff.mp hlive
    obtain ⟨hcounts, hkinds⟩ := counts_of_failed ht hk he hest hl hs
    rw [Counts] at hcounts
    refine ⟨?_, ?_, hkinds⟩
    · intro live₀ live' hl₀ hl'
      obtain rfl := Option.some.inj (hl.symm.trans hl₀)
      split_ifs at hcounts
      · obtain rfl := Option.some.inj (hcounts.1.symm.trans hl')
        exact ⟨rfl, rfl⟩
      · cases hcounts.2.1.symm.trans hl'
    · intro n d hn
      split_ifs at hcounts
      · cases hcounts.2.symm.trans hn
      · obtain ⟨reason, hr⟩ := hcounts.2.2
        cases hr.symm.trans hn
  · obtain ⟨hstate, heffects, hresult⟩ := finishBeat_of_step ht hk
    have hlate := (not_and_or.mp hcur).imp_right Option.not_isSome_iff_eq_none.mp
    rw [finishBeat_of_late hlate] at hstate heffects hresult
    refine ⟨fun live live' hl hl' => ?_, fun n d hn => ?_, fun event hmem => ?_⟩
    · rw [hstate, hl] at hl'
      obtain rfl := Option.some.inj hl'
      exact ⟨rfl, rfl⟩
    · cases hresult.symm.trans hn
    · simp [Turn.published, heffects] at hmem

end Traffic

end FleetAgent.Session
