import FleetAgent.Proofs.Session.Answers
import FleetAgent.Proofs.Session.Epoch
import FleetAgent.Rpc.Call

/-!
# Sessions over the wire

On a channel a heartbeat that names a session has an answer that says something of the session,
whatever becomes of its call: the statuses, the replies that cannot be read and the limit of the
time give no other errors than failures and rejections. Only a heartbeat that names the empty
session is refused instead, and the session manager sends none: it opens no session with the empty
identifier. So its heartbeats fail with the present state or with the loss of the session, and never
with the error of a call.

## Main definitions

* `Session.Move.IsOverWire`: the answer in a move comes from a client on a channel.
* `Session.Traffic.Named`: no session has the empty identifier.
* `Session.Beats`: what a section of a heartbeat comes to over the wire.

## Main results

* `Rpc.sign_ask_eq_unrelated_iff`: the heartbeats whose answers say nothing of the session.
* `Session.Traffic.Reachable.named`: no session has the empty identifier.
* `Session.Traffic.beats_of_isOverWire`: how heartbeats fail over the wire.
-/

namespace FleetAgent

/-! ### The answers on a channel -/

namespace Rpc

open Session (Sign)

variable {e : ClientError} {session : String} {sequence : Nat}

/-- Every status says something of the session. -/
theorem sign_toClientError (s : Status) : Sign.ofError s.toClientError ≠ .unrelated := by
  obtain ⟨code, message⟩ := s
  cases code <;> simp [Status.toClientError, Sign.ofError]

theorem sign_of_read {M : Type} {reply : WireReply} {schema : Wire.Schema M}
    (h : reply.read schema = .error e) : Sign.ofError e ≠ .unrelated := by
  obtain ⟨s, rfl⟩ : ∃ s : Status, e = s.toClientError := by
    simp only [WireReply.read] at h
    split at h
    · exact ⟨_, (Except.error.inj h).symm⟩
    · split at h
      · exact ⟨_, (Except.error.inj h).symm⟩
      · split at h
        · exact ⟨_, (Except.error.inj h).symm⟩
        · cases h
  exact sign_toClientError s

theorem sign_of_replyOfWire {m : Wire.HeartbeatResponse} (h : replyOfWire m = .error e) :
    Sign.ofError e ≠ .unrelated := by
  simp only [replyOfWire] at h
  split at h
  · cases h
  · cases h
  · obtain rfl := Except.error.inj h
    exact Sign.noConfusion

/-- The answer to the call of a heartbeat says something of the session, whatever becomes of the
call. -/
theorem sign_answer (f : Fate) :
    Sign.of sequence (f.answer (.heartbeat session sequence)) ≠ .unrelated := by
  cases ha : f.answer (.heartbeat session sequence) with
  | ok reply =>
    simp only [Sign.of]
    split_ifs <;> simp
  | error e =>
    change Sign.ofError e ≠ .unrelated
    cases f with
    | replied reply =>
      simp only [Fate.answer, answer] at ha
      split at ha
      · obtain rfl := Except.error.inj ha
        exact sign_of_read ‹_›
      · exact sign_of_replyOfWire ha
    | broken status =>
      obtain rfl := Except.error.inj ha
      exact sign_toClientError status
    | unready | late =>
      obtain rfl := Except.error.inj ha
      exact Sign.noConfusion

/-- The answer to a heartbeat says nothing of the session exactly if it names the empty session, and
so is refused. -/
theorem sign_ask_eq_unrelated_iff (channel : Except ClientError Unit) (fate : Request → Fate) :
    Sign.of sequence (ask channel fate (.heartbeat session sequence)) = .unrelated ↔
      session = "" := by
  by_cases h : session = ""
  · exact iff_of_true (by simp [ask, Request.refusal, Request.session?, h, Sign.of, Sign.ofError]) h
  · refine iff_of_false ?_ h
    simpa [ask, Request.refusal, Request.session?, h] using
      sign_answer (fate (.heartbeat session sequence))

end Rpc

/-! ### The identifiers of sessions -/

/-- An attempt opens no session with the empty identifier. -/
theorem Connect.ne_empty_of_resume {s : Session} {id : String} (stage : Connect)
    (answer : (stage.request s.host).Answer)
    (h : (stage.resume s answer).result = .done (.ok id)) : id ≠ "" := by
  cases stage with
  | dialing e => cases answer with
    | ok _ => cases h
    | error cause => cases Session.eq_ok_of_finishConnect (Progress.done.inj h)
  | greeting e =>
    rintro rfl
    exact Request.accept_ne s.host answer (Session.eq_ok_of_finishConnect (Progress.done.inj h))

namespace Session

/-- Whether the answer in a move, if the move takes one, comes from a client on a channel. -/
def Move.IsOverWire : Move → Prop
  | .resume _ _ reply => ∃ channel fate, reply = Rpc.ask channel fate
  | _ => True

/-- What a section of a heartbeat of the manager `s` comes to over the wire. The heartbeat that goes
on is given, unless it is a new one. -/
inductive Beats (s : Session) : Option Beat → CallTurn → Prop
  | sent (b : Beat) {u : CallTurn} (hs : s.established?.isSome) (hu : u.state.Serves b)
      (hr : u.result = .waiting (.beat b)) : Beats s none u
  | beaten (b : Beat) (live live' : Live) (outcome : BeatOutcome) {u : CallTurn}
      (he : s.epoch = b.epoch) (hs : s.established? = some live)
      (hu : u.state.established? = some live') (hid : live'.id = live.id)
      (hr : u.result = .done (.beaten outcome)) : Beats s (some b) u
  | lost (b : Beat) (live : Live) (reason : String) {u : CallTurn}
      (he : s.epoch = b.epoch) (hs : s.established? = some live)
      (hu : u.state.state = .closed ∧ u.state.live = none)
      (hr : u.result = .done (.failed (.session (.lost live.id reason)))) : Beats s (some b) u
  | declined {b : Option Beat} {u : CallTurn}
      (hs : (∃ c, b = some c ∧ s.epoch ≠ c.epoch) ∨ s.established? = none)
      (hu : Discards s "beat" u) : Beats s b u

/-- No heartbeat fails with the error of a call. -/
theorem Beats.ne_client {s : Session} {b : Option Beat} {u : CallTurn} (h : s.Beats b u)
    (e : ClientError) : u.result ≠ .done (.failed (.session (.client e))) := by
  intro he
  cases h with
  | sent b hs hu hr | beaten b live live' outcome _ hs hu hid hr | lost b live reason _ hs hu hr =>
    cases hr.symm.trans he
  | declined hs hu => cases hu.result_eq.symm.trans he

/-- The answer to a heartbeat leaves the identifier of the session as it is. -/
theorem Verdict.id_eq {s : Session} {live live' : Live} {now : Instant} {sequence : Nat}
    {checked : Except ClientError HeartbeatReply}
    {t : Turn Session (Except SessionError BeatOutcome)}
    (hv : Verdict s live now sequence checked t)
    (hl : s.live = some live) (hl' : t.state.live = some live') : live'.id = live.id := by
  cases hv with
  | acked reply =>
    obtain rfl := Option.some.inj hl'
    rfl
  | missed e ht hf =>
    simp only [miss, Nat.not_le_of_lt hf, ↓reduceIte] at hl'
    obtain rfl := Option.some.inj hl'
    rfl
  | worn | rejected => cases hl'
  | unrelated =>
    obtain rfl := Option.some.inj (hl.symm.trans hl')
    rfl

namespace Traffic

variable {x : Traffic} {m : Move} {u : CallTurn} {b : Beat} {id : String}

/-- The identifier of a session that a section opens is not empty. -/
theorem ne_empty_of_opened (hu : x.section? m = some u) (hr : u.result = .done (.opened id)) :
    id ≠ "" := by
  cases m with
  | connect | beat | disconnect | reset =>
    have hd := deed_of_section? hu
    cases hd <;> cases hr
  | resume k now reply =>
    obtain ⟨c, hc, rfl⟩ := Option.map_eq_some_iff.mp hu
    cases c with
    | connect stage =>
      simp only [Session.resume, Turn.result_map] at hr
      refine stage.ne_empty_of_resume (reply (stage.request x.session.host)) ?_
      rcases h : (Connect.resume x.session stage _).result with stage' | e | id' <;> rw [h] at hr
      · cases hr
      · cases hr
      · rw [Outcome.opened.inj (Progress.done.inj hr)]
    | beat beat =>
      simp only [Session.resume, Turn.result_map] at hr
      rcases h : (x.session.finishBeat now beat _).result with e | outcome <;>
        rw [h] at hr <;> cases hr
    | disconnect session => cases hr

/-- A session that is open after a section was open before it under the same identifier, or was
opened in it. -/
theorem id_of_section? {live' : Live} (hu : x.section? m = some u)
    (hl' : u.state.live = some live') :
    (∃ live, x.session.live = some live ∧ live'.id = live.id) ∨
      u.result = .done (.opened live'.id) := by
  have hd := deed_of_section? hu
  generalize x.resumed? m = c at hd
  cases hd with
  | declined | opening | dialed | refused | idle | closed | reset => exact .inl ⟨live', hl', rfl⟩
  | opened stage id =>
    obtain rfl := Option.some.inj hl'
    exact .inr rfl
  | sent live h hl =>
    obtain rfl := Option.some.inj hl'
    exact .inl ⟨live, hl, rfl⟩
  | judged b live he h hl hv => exact .inl ⟨live, hl, hv.id_eq hl hl'⟩
  | closing => cases hl'

/-- No session has the empty identifier: neither the open one, nor one for whose heartbeat an answer
is waited for. -/
structure Named (x : Traffic) : Prop where
  live : ∀ {live}, x.session.live = some live → live.id ≠ ""
  beat : ∀ {k b}, x.calls.waiting? k = some (.beat b) → b.session ≠ ""

theorem Named.step {t : Turn Traffic (Progress Call Outcome)} (hx : x.Named)
    (ht : x.step m = some t) : t.state.Named := by
  obtain ⟨u, hu, heq⟩ := step_eq_some_iff.mp ht
  have hlive {live : Live} (hl : t.state.session.live = some live) : live.id ≠ "" := by
    rw [heq] at hl
    rcases id_of_section? hu hl with ⟨live₀, hl₀, hid⟩ | hr
    · rw [hid]
      exact hx.live hl₀
    · exact ne_empty_of_opened hu hr
  refine ⟨hlive, fun {k b} hk => ?_⟩
  rw [waiting?_of_step ht] at hk
  split_ifs at hk
  · -- A new heartbeat is one of the open session.
    have harr := arrival_of_step ht hk
    generalize x.resumed? m = c at harr
    cases harr with
    | beating b hs =>
      obtain ⟨live, hl, hid⟩ := Option.map_eq_some_iff.mp hs.2.2
      exact hid ▸ hlive hl
  · exact hx.beat hk

theorem Reachable.named (hx : Reachable x) : x.Named := by
  induction hx with
  | new host address params => exact ⟨nofun, fun h => by simp [Tasks.waiting?] at h⟩
  | step _ ht ih => exact ih.step ht

/-! ### Heartbeats over the wire -/

/-- The first section of a heartbeat. -/
theorem beats_beginBeat (hu : x.section? .beat = some u) : x.session.Beats none u := by
  obtain rfl := Option.some.inj hu
  cases h : x.session.established? with
  | none =>
    rw [beginBeat_of_none h]
    exact .declined (.inr h) ⟨rfl, rfl, rfl⟩
  | some live =>
    rw [beginBeat_of_established h]
    exact .sent _ (by simp [h]) ⟨rfl, (established?_eq_some_iff.mp h).1, rfl⟩ rfl

/-- The section of a heartbeat after its answer, if that says something of the session. -/
theorem beats_finishBeat {s : Session} {now : Instant} {answer : Except ClientError HeartbeatReply}
    (hsign : Sign.of b.sequence answer ≠ .unrelated) :
    s.Beats (some b) ((s.finishBeat now b answer).map fun r => .done (.ofBeat r)) := by
  by_cases hlate : s.epoch ≠ b.epoch ∨ s.established? = none
  · rw [finishBeat_of_late hlate]
    exact .declined (hlate.imp_left fun h => ⟨b, rfl, h⟩) ⟨rfl, rfl, rfl⟩
  · obtain ⟨he, hs⟩ := not_or.mp hlate
    replace he := not_not.mp he
    obtain ⟨live, hs⟩ := Option.ne_none_iff_exists'.mp hs
    obtain ⟨hest, hl⟩ := established?_eq_some_iff.mp hs
    rw [finishBeat_of_current he hest]
    have hv := verdict_apply hl now b.sequence answer
    generalize hc : answer.bind (·.checkSequence b.sequence) = checked at hv
    generalize s.apply now b.sequence answer = t at hv
    cases hv with
    | acked reply =>
      exact .beaten b live _ _ he hs
        (established?_eq_some_iff.mpr ⟨isEstablished_acknowledge hest, rfl⟩) rfl rfl
    | missed e ht hf =>
      refine .beaten b live { live with failures := live.failures + 1 }
        (.missed b.sequence (live.failures + 1)) he hs
        (established?_eq_some_iff.mpr ⟨isEstablished_miss hest hf, ?_⟩) rfl ?_ <;>
      simp [miss, Nat.not_le_of_lt hf, Outcome.ofBeat]
    | worn e ht hf => exact .lost b live _ he hs ⟨rfl, rfl⟩ rfl
    | rejected reason =>
      refine .lost b live (ClientError.rejected reason).message he hs ⟨rfl, rfl⟩ ?_
      simp [lose, hl, Outcome.ofBeat]
    | unrelated e ht hr =>
      exact absurd ((Sign.of_eq_ofError hc).trans (Sign.ofError_eq_unrelated ht hr)) hsign

/-- The section of a heartbeat after its answer over the wire. -/
theorem Named.beats (hx : x.Named) (hu : x.section? m = some u) (hm : m.IsOverWire)
    (hc : x.resumed? m = some (.beat b)) : x.session.Beats (some b) u := by
  cases m with
  | resume k now reply =>
    have hwait : x.calls.waiting? k = some (.beat b) := hc
    obtain ⟨channel, fate, rfl⟩ := hm
    obtain ⟨c, hw, rfl⟩ := Option.map_eq_some_iff.mp hu
    obtain rfl := Option.some.inj (hwait.symm.trans hw)
    exact beats_finishBeat fun h =>
      hx.beat hwait ((Rpc.sign_ask_eq_unrelated_iff channel fate).mp h)
  | connect | beat | disconnect | reset => cases hc

/-- Over the wire no section of a session manager fails with the error of a call, whatever calls are
made and in whatever order they go on. A heartbeat whose session is not the open one is turned away
in the present state. The heartbeats of the open session are sent, and when they are answered, the
session goes on, or else it is lost. -/
theorem beats_of_isOverWire (hx : Reachable x) (hu : x.section? m = some u) (hm : m.IsOverWire) :
    (∀ e, u.result ≠ .done (.failed (.session (.client e)))) ∧
    (m = .beat → x.session.Beats none u) ∧
    (∀ b, x.resumed? m = some (.beat b) → x.session.Beats (some b) u) := by
  have hbeats (b : Beat) (hc : x.resumed? m = some (.beat b)) := hx.named.beats hu hm hc
  refine ⟨fun e he => ?_, fun h => beats_beginBeat (h ▸ hu), hbeats⟩
  have hd := deed_of_section? hu
  generalize x.resumed? m = c at hd hbeats
  cases hd with
  | judged b => exact (hbeats b rfl).ne_client e he
  | declined | opening | dialed | opened | refused | sent | idle | closing | closed | reset =>
    cases he

/-- The controller opens a session, and does not know it any more when it is asked for a heartbeat:
with this the session is lost. -/
theorem lost_over_wire :
    ∃ x u m, Reachable x ∧ x.section? m = some u ∧ m.IsOverWire ∧
      x.resumed? m = some (.beat ⟨1, "s", 0⟩) ∧ x.session.Beats (some ⟨1, "s", 0⟩) u ∧
      u.result =
        .done (.failed (.session (.lost "s" "rejected by controller: NotFound: gone"))) := by
  let reply := Rpc.ask (.ok ()) fun r =>
    .replied (if r.session? = none then { body := some [10, 1, 115] }
      else { code := 5, message := "gone" })
  let s : Session := { host := .named "lobby-1", address := "", params := ⟨.ofSeconds 5, 3, 6⟩ }
  have hrun : Since ⟨s, []⟩ true
      ⟨{ s with state := .active, epoch := 1, live := some { id := "s", nextSequence := 1 } },
        [none, some (.beat ⟨1, "s", 0⟩)]⟩ :=
    Since.refl.follow? [.connect, .resume 0 0 reply, .resume 0 0 reply, .beat]
      (by with_unfolding_all rfl)
  have hx := hrun.reachable (.new ..)
  have hm : Move.IsOverWire (.resume 1 0 reply) := ⟨_, _, rfl⟩
  exact ⟨_, _, _, hx, rfl, hm, rfl, (beats_of_isOverWire hx rfl hm).2.2 _ rfl, rfl⟩

end Traffic

end Session

end FleetAgent
