import FleetAgent.Proofs.Session.Epoch
import FleetAgent.Proofs.Session.Reasons
import Mathlib.Data.List.DropRight
import Mathlib.Data.List.Infix

/-!
# Failures in a row

The record of a session counts the failures since the last acknowledgement, and the count decides
what becomes of the session: from one threshold on it is degraded, and at the other it is given up,
as it is with a rejection. The count can be read off the answers alone. Which failures they were
does not matter, but for the reasons that are told.

## Main definitions

* `Session.streak`: the number of failures since the last acknowledgement.
* `Session.Withstands`: the answers that a session outlives.
* `Session.Traffic.signs`: what the answers to the heartbeats of a session say, in a history.

## Main results

* `Session.Judged.counted`, `Session.Judged.loses`: what one answer makes of the session.
* `Session.Traffic.Follows.step`: every section leaves the session as its answers then say.
* `Session.Traffic.failures_counted`: the session stands as its answers say, and is given up by the
  first answer with which it must be.
-/

namespace FleetAgent

/-- A configuration is accepted if heartbeats are sent from time to time, and a session is degraded
by at least one failure, and by fewer than those with which it is given up. -/
theorem AgentConfig.validate_eq_ok_iff {c : AgentConfig} :
    c.validate = .ok () ↔
      c.interval ≠ .zero ∧ 1 ≤ c.degradeAfter ∧ c.degradeAfter < c.loseAfter := by
  rw [validate]
  split_ifs with hi hd hl
  · simp [hi]
  · simp [hd]
  · simp [Nat.not_lt_of_le hl]
  · simp [hi, Nat.one_le_iff_ne_zero.mpr hd, Nat.lt_of_not_le hl]

namespace Session

/-! ### The answers that a session outlives -/

/-- The number of failures since the last acknowledgement. -/
def streak (signs : List Sign) : Nat := (signs.rtakeWhile (· ≠ .acknowledged)).count .failed

/-- A session outlives answers if none of them rejects it and there are never `n` failures without
an acknowledgement in between. -/
def Withstands (n : Nat) (signs : List Sign) : Prop :=
  .rejected ∉ signs ∧ ∀ l, l <+: signs → streak l < n

instance (n : Nat) (signs : List Sign) : Decidable (Withstands n signs) :=
  decidable_of_iff (.rejected ∉ signs ∧ ∀ l ∈ signs.inits, streak l < n)
    (and_congr_right fun _ => forall_congr' fun _ => by rw [List.mem_inits])

section Streak

variable {n : Nat} {l : List Sign} {g : Sign}

theorem streak_nil : streak [] = 0 := by simp [streak]

theorem streak_concat_acknowledged : streak (l ++ [.acknowledged]) = 0 := by
  rw [streak, List.rtakeWhile_concat_neg _ _ _ (by decide), List.count_nil]

theorem streak_concat_failed : streak (l ++ [.failed]) = streak l + 1 := by
  rw [streak, List.rtakeWhile_concat_pos _ _ _ (by decide), List.count_append, ← streak,
    List.count_singleton_self]

theorem streak_concat_unrelated : streak (l ++ [.unrelated]) = streak l := by
  rw [streak, List.rtakeWhile_concat_pos _ _ _ (by decide), List.count_append, ← streak,
    List.count_singleton]
  rfl

theorem withstands_nil : Withstands n [] ↔ 0 < n := by
  simp [Withstands, streak_nil]

theorem withstands_concat :
    Withstands n (l ++ [g]) ↔ Withstands n l ∧ g ≠ .rejected ∧ streak (l ++ [g]) < n := by
  simp only [Withstands, List.mem_append, List.mem_singleton, not_or, List.prefix_concat_iff]
  constructor
  · rintro ⟨⟨hl, hg⟩, hlt⟩
    exact ⟨⟨hl, fun l' h => hlt l' (.inr h)⟩, Ne.symm hg, hlt _ (.inl rfl)⟩
  · rintro ⟨⟨hl, hlt⟩, hg, hlt'⟩
    refine ⟨⟨hl, Ne.symm hg⟩, ?_⟩
    rintro l' (rfl | h)
    · exact hlt'
    · exact hlt l' h

theorem Withstands.streak_lt (h : Withstands n l) : streak l < n := h.2 l (List.prefix_refl l)

end Streak

/-! ### The open session after answers -/

/-- The session of the epoch `e` is open, and its record and its state are what answers with such
signs make them. -/
structure Counted (e : Nat) (id : String) (signs : List Sign) (s : Session) : Prop where
  epoch_eq : s.epoch = e
  live : ∃ live, s.live = some live ∧ live.id = id ∧ live.failures = streak signs
  state_eq : s.state = if s.params.degradeAfter ≤ streak signs then .degraded else .active

/-- The session of the identifier `id` is given up: the manager is closed without a record, the
loss is told once, and the call fails with it. -/
structure Loses (id : String) (t : Turn Traffic (Progress Call Outcome)) : Prop where
  state_eq : t.state.session.state = .closed
  live_eq : t.state.session.live = none
  result_eq : ∃ reason, t.result = .done (.failed (.session (.lost id reason)))
  published_eq : ∃ event, t.published = [event] ∧ event.kind = .sessionLost ∧
    event.session = some id

/-- No session is given up: no loss is told, and the call does not fail with one. -/
structure Keeps {σ : Type} (t : Turn σ (Progress Call Outcome)) : Prop where
  result_ne : ∀ id reason, t.result ≠ .done (.failed (.session (.lost id reason)))
  kind_ne : ∀ event ∈ t.published, event.kind ≠ .sessionLost

variable {s s' : Session} {c : Option Call} {d : Bool} {e : Nat} {id : String} {l : List Sign}

theorem Shift.params_eq (h : Shift s c d s') : s'.params = s.params := by
  cases h <;> rfl

namespace Counted

theorem isEstablished (h : Counted e id l s) : s.state.isEstablished := by
  rw [h.state_eq]
  split_ifs <;> rfl

variable {live : Live} {now : Instant} {sequence : Nat}

/-- An acknowledgement leaves the session open, with no failures. -/
theorem acknowledge (h : Counted e id l s) (hl : s.live = some live)
    (hd : 0 < s.params.degradeAfter) (reply : HeartbeatReply) :
    Counted e id (l ++ [.acknowledged]) (s.acknowledge live now sequence reply).state := by
  obtain ⟨live', hl', hid, -⟩ := h.live
  obtain rfl := Option.some.inj (hl.symm.trans hl')
  refine ⟨h.epoch_eq, ⟨_, rfl, hid, streak_concat_acknowledged.symm⟩, ?_⟩
  change (if s.state = .degraded then SessionState.active else s.state) =
    if s.params.degradeAfter ≤ streak (l ++ [.acknowledged]) then .degraded else .active
  rw [streak_concat_acknowledged, if_neg (Nat.not_le_of_lt hd), h.state_eq]
  by_cases hdl : s.params.degradeAfter ≤ streak l <;> simp [hdl]

/-- A failure below the threshold leaves the session open, with one failure more. -/
theorem miss (h : Counted e id l s) (hl : s.live = some live)
    (hlt : streak l + 1 < s.params.loseAfter) (cause : ClientError) :
    Counted e id (l ++ [.failed]) (s.miss live sequence cause).state := by
  obtain ⟨live', hl', hid, hfail⟩ := h.live
  obtain rfl := Option.some.inj (hl.symm.trans hl')
  simp only [Session.miss, hfail, Nat.not_le_of_lt hlt, ↓reduceIte]
  refine ⟨h.epoch_eq, ⟨_, rfl, hid, streak_concat_failed.symm⟩, ?_⟩
  simp only [streak_concat_failed, h.state_eq]
  by_cases hdl : s.params.degradeAfter ≤ streak l
  · simp [hdl, Nat.le_succ_of_le hdl]
  · simp [hdl]

/-- An answer that says nothing of the session leaves it as it is. -/
theorem unrelated (h : Counted e id l s) : Counted e id (l ++ [.unrelated]) s := by
  obtain ⟨live, hl, hid, hfail⟩ := h.live
  refine ⟨h.epoch_eq, ⟨live, hl, hid, hfail.trans streak_concat_unrelated.symm⟩, ?_⟩
  rw [streak_concat_unrelated]
  exact h.state_eq

/-- Any section but the answer to a heartbeat of the session and a shutdown leaves the session as
it is. -/
theorem deed {m : Move} {u : CallTurn} (h : Counted e id l s) (hd : Deed s m c u)
    (hc : ∀ b, c = some (.beat b) → b.epoch ≠ e) (hm : m ≠ .disconnect)
    (hc' : ∀ session, c ≠ some (.disconnect session)) : Counted e id l u.state := by
  have hest := h.isEstablished
  cases hd with
  | declined | dialed => exact h
  | opening hs | opened stage id hs | refused stage cause hs | reset hs =>
    simp_all [SessionState.isEstablished]
  | sent live hs hl =>
    obtain ⟨live', hl', hid, hfail⟩ := h.live
    obtain rfl := Option.some.inj (hl.symm.trans hl')
    exact ⟨h.epoch_eq, ⟨_, rfl, hid, hfail⟩, h.state_eq⟩
  | judged b live he => exact absurd (he.symm.trans h.epoch_eq) (hc b rfl)
  | idle | closing => exact absurd rfl hm
  | closed session => exact absurd rfl (hc' session)

end Counted

/-- Only the answer to a heartbeat of the open session can give it up. -/
theorem Deed.keeps {m : Move} {u : CallTurn} (hd : Deed s m c u)
    (hc : ∀ b, c = some (.beat b) → s.epoch = b.epoch → s.state.isEstablished = false) :
    Keeps u := by
  cases hd with
  | judged b live he h => simp [hc b rfl he] at h
  | declined op => constructor <;> simp [Session.declined, invalid, Turn.published]
  | dialed | sent | idle | closing | reset => constructor <;> simp [Turn.published]
  | opening | opened | refused | closed =>
    constructor <;>
      simp [Turn.published, Effect.published?, Event.of, Event.withSession, Event.withReason]

namespace Judged

variable {live : Live} {now : Instant} {sequence : Nat} {g : Sign}
  {u : Turn Session (Except SessionError BeatOutcome)}

/-- An answer that the session outlives leaves it as the answers say. -/
theorem counted (hj : Judged s live now sequence g u) (hl : s.live = some live)
    (hc : Counted e id l s) (hd : 0 < s.params.degradeAfter)
    (hw : Withstands s.params.loseAfter (l ++ [g])) : Counted e id (l ++ [g]) u.state := by
  obtain ⟨-, hr, hlt⟩ := withstands_concat.mp hw
  cases hj with
  | acknowledged reply => exact hc.acknowledge hl hd reply
  | failed cause =>
    rw [streak_concat_failed] at hlt
    exact hc.miss hl hlt cause
  | rejected reason => exact absurd rfl hr
  | unrelated cause => exact hc.unrelated

/-- An answer that the session outlives does not give it up. -/
theorem keeps (hj : Judged s live now sequence g u) (hfail : live.failures = streak l)
    (hw : Withstands s.params.loseAfter (l ++ [g])) : Keeps (u.map fun r => .done (.ofBeat r)) := by
  obtain ⟨-, hr, hlt⟩ := withstands_concat.mp hw
  cases hj with
  | acknowledged reply =>
    refine ⟨fun id reason h => ?_, fun event hmem hk => ?_⟩
    · cases h
    · rw [Turn.published_map] at hmem
      have hkinds := kind_of_mem_published_acknowledge hmem
      simp [hk] at hkinds
  | failed cause =>
    rw [streak_concat_failed, ← hfail] at hlt
    refine ⟨fun id reason h => ?_, fun event hmem hk => ?_⟩
    · simp only [miss, Nat.not_le_of_lt hlt, ↓reduceIte] at h
      cases h
    · rw [Turn.published_map] at hmem
      have hkinds := kind_of_mem_published_miss_of_lt hlt hmem
      simp [hk] at hkinds
  | rejected reason => exact absurd rfl hr
  | unrelated cause => constructor <;> simp [Outcome.ofBeat, Turn.published]

/-- An answer that the session does not outlive gives it up. -/
theorem loses (hj : Judged s live now sequence g u) (hl : s.live = some live)
    (hfail : live.failures = streak l) (hw : Withstands s.params.loseAfter l)
    (hn : ¬ Withstands s.params.loseAfter (l ++ [g])) :
    ∃ s' failures reason, s'.live.map (·.id) = some live.id ∧
      u = (Session.lose s' failures reason).map .error := by
  rw [withstands_concat] at hn
  cases hj with
  | acknowledged reply =>
    have hlt : 0 < s.params.loseAfter := Nat.zero_lt_of_lt hw.streak_lt
    exact absurd ⟨hw, Sign.noConfusion, by rwa [streak_concat_acknowledged]⟩ hn
  | failed cause =>
    have hle : s.params.loseAfter ≤ live.failures + 1 := by
      by_contra hlt
      exact hn ⟨hw, Sign.noConfusion, by rw [streak_concat_failed]; omega⟩
    exact ⟨_, _, _, rfl, miss_of_le hle sequence cause⟩
  | rejected reason => exact ⟨s, _, _, congrArg (Option.map (·.id)) hl, rfl⟩
  | unrelated cause =>
    exact absurd ⟨hw, Sign.noConfusion, by rw [streak_concat_unrelated]; exact hw.streak_lt⟩ hn

end Judged

/-! ### The answers in a history -/

/-- Whether the move is the first section of taking the session down. -/
def Move.isDisconnect : Move → Bool
  | .disconnect => true
  | _ => false

namespace Traffic

variable {x y : Traffic} {m : Move} {t first : Turn Traffic (Progress Call Outcome)}
  {h : List Entry} {a : Entry} {g : Sign} {n : Nat}

/-- What the section says of the session of the epoch `e`, if it is the answer to a heartbeat of
that session. -/
def Entry.sign? (e : Nat) (a : Entry) : Option Sign :=
  match a.move, a.resumed? with
  | .resume _ _ reply, some (.beat b) =>
    if b.epoch = e then some (Sign.of b.sequence (reply b.request)) else none
  | _, _ => none

/-- What the answers to the heartbeats of the session of the epoch `e` say, in their order. -/
def signs (e : Nat) (h : List Entry) : List Sign := h.filterMap (Entry.sign? e)

/-- Whether the section is one of the two of taking the session down. -/
def Entry.takesDown (a : Entry) : Bool :=
  a.move.isDisconnect || a.resumed?.any Call.isDisconnect

/-- Nobody takes the session of the epoch `e` down while it is open. -/
def Undisturbed (e : Nat) (h : List Entry) : Prop :=
  ∀ a ∈ h, a.takesDown → a.before.session.epoch = e → a.before.session.state.isEstablished = false

instance (e : Nat) (h : List Entry) : Decidable (Undisturbed e h) :=
  inferInstanceAs (Decidable (∀ a ∈ h, _ → _ → _))

theorem signs_concat_of_none (ha : a.sign? e = none) : signs e (h ++ [a]) = signs e h := by
  simp [signs, ha]

theorem signs_concat_of_some (ha : a.sign? e = some g) : signs e (h ++ [a]) = signs e h ++ [g] := by
  simp [signs, ha]

theorem Entry.ne_of_sign?_eq_none (ha : a.sign? e = none) {b : Beat}
    (hc : a.resumed? = some (.beat b)) : b.epoch ≠ e := by
  rintro rfl
  cases hm : a.move with
  | resume k now reply => simp [sign?, hm, hc] at ha
  | connect | beat | disconnect | reset =>
    simp [resumed?, Traffic.resumed?, hm, Move.resumes?] at hc

theorem Entry.exists_of_sign?_eq_some (ha : a.sign? e = some g) :
    ∃ k now reply b, a.move = .resume k now reply ∧ a.before.calls.waiting? k = some (.beat b) ∧
      b.epoch = e ∧ Sign.of b.sequence (reply b.request) = g := by
  rw [sign?] at ha
  split at ha
  case h_1 k now reply b hm hc =>
    split_ifs at ha with hbe
    rw [resumed?, hm] at hc
    exact ⟨k, now, reply, b, hm, hc, hbe, Option.some.inj ha⟩
  case h_2 => cases ha

/-- The answer to a heartbeat of the open session leaves it as the answers say, if it outlives
them, and gives it up otherwise. -/
theorem judged_of_counted {k : Nat} {now : Instant} {reply : (r : Request) → r.Answer} {b : Beat}
    (ht : x.step (.resume k now reply) = some t) (hk : x.calls.waiting? k = some (.beat b))
    (hbe : b.epoch = e) (hc : Counted e id l x.session)
    (hw : Withstands x.session.params.loseAfter l) (hd : 0 < x.session.params.degradeAfter)
    (hg : Sign.of b.sequence (reply b.request) = g) :
    (Withstands x.session.params.loseAfter (l ++ [g]) →
      Counted e id (l ++ [g]) t.state.session ∧ Keeps t) ∧
    (¬ Withstands x.session.params.loseAfter (l ++ [g]) → Loses id t) := by
  obtain ⟨live, hl, hid, hfail⟩ := hc.live
  obtain ⟨hstate, heffects, hresult⟩ := finishBeat_of_step ht hk
  have he := hc.epoch_eq.trans hbe.symm
  have hj := judged_finishBeat he hc.isEstablished hl now (reply b.request)
  generalize x.session.finishBeat now b (reply b.request) = u at hj hstate heffects hresult
  have hpub : t.published = u.published := congrArg (List.filterMap Effect.published?) heffects
  rw [hg] at hj
  refine ⟨fun hw' => ⟨?_, ?_, ?_⟩, fun hn => ?_⟩
  · rw [hstate]
    exact hj.counted hl hc hd hw'
  · rw [hresult]
    exact (hj.keeps hfail hw').result_ne
  · rw [hpub]
    exact (hj.keeps hfail hw').kind_ne
  · obtain ⟨s', failures, reason, hid', rfl⟩ := hj.loses hl hfail hw hn
    have hsession : (s'.live.map (·.id)).getD "" = id := by rw [hid', hid]; rfl
    constructor
    case state_eq => exact congrArg Session.state hstate
    case live_eq => exact congrArg Session.live hstate
    case result_eq => exact ⟨reason, hsession ▸ hresult⟩
    case published_eq => exact ⟨_, hpub, rfl, congrArg some hsession⟩

/-- Only the answer to a heartbeat of the open session can give it up. -/
theorem keeps_of_step (ht : x.step m = some t) (hc : ∀ b, x.resumed? m = some (.beat b) →
    x.session.epoch = b.epoch → x.session.state.isEstablished = false) : Keeps t := by
  obtain ⟨u, hu, rfl⟩ := step_eq_some_iff.mp ht
  have hk := (deed_of_section? hu).keeps hc
  exact ⟨hk.result_ne, hk.kind_ne⟩

/-- A section that is not the answer to a heartbeat of the open session does not give it up, and
leaves it as it is unless it takes it down. -/
theorem unanswered_of_counted (ht : x.step m = some t) (hc : Counted e id l x.session)
    (ha : Entry.sign? e ⟨x, m, t⟩ = none) :
    Keeps t ∧ (Entry.takesDown ⟨x, m, t⟩ = false → Counted e id l t.state.session) := by
  have hother (b : Beat) (hb : x.resumed? m = some (.beat b)) : b.epoch ≠ e :=
    Entry.ne_of_sign?_eq_none ha hb
  refine ⟨keeps_of_step ht fun b hb he => ?_, fun hdown => ?_⟩
  · exact absurd (he.symm.trans hc.epoch_eq) (hother b hb)
  · obtain ⟨u, hu, rfl⟩ := step_eq_some_iff.mp ht
    refine hc.deed (deed_of_section? hu) hother ?_ ?_
    · rintro rfl
      simp [Entry.takesDown, Move.isDisconnect] at hdown
    · intro session hr
      simp [Entry.takesDown, Entry.resumed?, hr, Call.isDisconnect] at hdown

theorem withstands_of_concat (hw : Withstands n (signs e (h ++ [a]))) :
    Withstands n (signs e h) := by
  cases ha : a.sign? e with
  | none => rwa [signs_concat_of_none ha] at hw
  | some g =>
    rw [signs_concat_of_some ha] at hw
    exact (withstands_concat.mp hw).1

/-- What a section means for the open session: either the session outlives it and is left as its
answers then say, unless someone takes it down, or the section gives it up. -/
theorem stands_of_counted (ht : x.step m = some t) (hc : Counted e id (signs e h) x.session)
    (hw : Withstands x.session.params.loseAfter (signs e h))
    (hd : 0 < x.session.params.degradeAfter) :
    (Withstands x.session.params.loseAfter (signs e (h ++ [⟨x, m, t⟩])) → Keeps t ∧
      (Entry.takesDown ⟨x, m, t⟩ = false →
        Counted e id (signs e (h ++ [⟨x, m, t⟩])) t.state.session)) ∧
    (¬ Withstands x.session.params.loseAfter (signs e (h ++ [⟨x, m, t⟩])) → Loses id t) := by
  cases ha : Entry.sign? e ⟨x, m, t⟩ with
  | none =>
    rw [signs_concat_of_none ha]
    exact ⟨fun _ => unanswered_of_counted ht hc ha, fun hn => absurd hw hn⟩
  | some g =>
    obtain ⟨k, now, reply, b, rfl, hk, hbe, hg⟩ := Entry.exists_of_sign?_eq_some ha
    obtain ⟨hstands, hloses⟩ := judged_of_counted ht hk hbe hc hw hd hg
    rw [signs_concat_of_some ha]
    exact ⟨fun hw' => ⟨(hstands hw').2, fun _ => (hstands hw').1⟩, hloses⟩

theorem isPast_of_loses (ht : x.step m = some t) (he : x.session.epoch = e) (hl : Loses id t) :
    t.state.session.IsPast e := by
  refine ⟨he ▸ (shift_of_step ht).epoch_le, fun _ => ?_⟩
  rw [hl.state_eq]
  exact ⟨SessionState.noConfusion, rfl⟩

/-- How matters stand for the session of the epoch `e` after the history `h` of its time: as its
answers say, or it is gone since it has not outlived them. -/
structure Follows (e : Nat) (id : String) (h : List Entry) (y : Traffic) : Prop where
  counted : Withstands y.session.params.loseAfter (signs e h) → Counted e id (signs e h) y.session
  past : ¬ Withstands y.session.params.loseAfter (signs e h) → y.session.IsPast e

namespace Follows

variable (hy : Follows e id h y) (hd : 0 < y.session.params.degradeAfter) (ht : y.step m = some t)
include hy hd ht

/-- Every section leaves the session as its answers then say, unless someone takes it down. -/
theorem step (hup : Entry.takesDown ⟨y, m, t⟩ → y.session.epoch = e →
    y.session.state.isEstablished = false) : Follows e id (h ++ [⟨y, m, t⟩]) t.state := by
  have hparams : t.state.session.params = y.session.params := (shift_of_step ht).params_eq
  constructor <;> rw [hparams]
  case counted =>
    intro hw
    have hw' := withstands_of_concat hw
    have hc := hy.counted hw'
    -- The session has outlived the answers, so it is open, and then nobody takes it down.
    have hdown : Entry.takesDown ⟨y, m, t⟩ = false := by
      by_contra hdown
      have hest := hup (by simpa using hdown) hc.epoch_eq
      simp [hc.isEstablished] at hest
    exact ((stands_of_counted ht hc hw' hd).1 hw).2 hdown
  case past =>
    intro hn
    by_cases hw : Withstands y.session.params.loseAfter (signs e h)
    · have hc := hy.counted hw
      exact isPast_of_loses ht hc.epoch_eq ((stands_of_counted ht hc hw hd).2 hn)
    · exact (shift_of_step ht).isPast (hy.past hw)

/-- The first answer that the session does not outlive gives it up, and no other section does. -/
theorem loses_or_keeps (he : y.session.epoch = e) :
    if Withstands y.session.params.loseAfter (signs e h) ∧
        ¬ Withstands y.session.params.loseAfter (signs e (h ++ [⟨y, m, t⟩]))
      then Loses id t else Keeps t := by
  by_cases hw : Withstands y.session.params.loseAfter (signs e h)
  · have hstands := stands_of_counted ht (hy.counted hw) hw hd
    split_ifs with hn
    · exact hstands.2 hn.2
    · exact (hstands.1 (by_contra fun hn' => hn ⟨hw, hn'⟩)).1
  · rw [if_neg fun h => hw h.1]
    exact keeps_of_step ht fun _ _ _ => ((hy.past hw).2 he).2

end Follows

theorem Run.params_eq (hy : Run x h y) : y.session.params = x.session.params := by
  induction hy with
  | nil => rfl
  | snoc _ ht ih => exact (shift_of_step ht).params_eq.trans ih

/-- A new session stands as no answers say. -/
theorem follows_of_opened (ht : x.step m = some t) (hid : t.result = .done (.opened id))
    (hd : 0 < x.session.params.degradeAfter) (hl : 0 < x.session.params.loseAfter) :
    Follows t.state.session.epoch id [] t.state := by
  obtain ⟨-, hsession⟩ := opened_of_step ht hid
  constructor <;> rw [hsession]
  case counted =>
    refine fun _ => ⟨rfl, ⟨{ id }, rfl, rfl, streak_nil.symm⟩, ?_⟩
    change SessionState.active = if x.session.params.degradeAfter ≤ streak [] then _ else _
    rw [streak_nil, if_neg (Nat.not_le_of_lt hd)]
  case past => exact fun hn => absurd (withstands_nil.mpr hl) hn

/-- A session stands as its answers say in every history of its time. -/
theorem follows_of_run (hf : x.step m = some first) (hid : first.result = .done (.opened id))
    (hd : 0 < x.session.params.degradeAfter) (hl : 0 < x.session.params.loseAfter)
    (hy : Run first.state h y) (hup : Undisturbed first.state.session.epoch h) :
    Follows first.state.session.epoch id h y := by
  induction hy with
  | nil => exact follows_of_opened hf hid hd hl
  | @snoc h y m t hy ht ih =>
    have hparams := hy.params_eq.trans (shift_of_step hf).params_eq
    have hlast := hup _ (List.mem_append_right h (List.mem_singleton_self _))
    exact (ih fun a ha => hup a (List.mem_append_left _ ha)).step (hparams ▸ hd) ht hlast

/-- A session that nobody takes down stands as the answers to its heartbeats say. As long as none
of them has rejected it and there were never too many failures in a row, it is open, its record has
the number of failures since the last acknowledgement, which stays within 32 bits, and it is
degraded from the one threshold on. The first answer with which this is no longer so gives it up
and tells this once, and nothing else does. Which failures they were makes a difference for the
reasons only. -/
theorem failures_counted (hf : x.step m = some first) (hid : first.result = .done (.opened id))
    (hd : 1 ≤ x.session.params.degradeAfter)
    (hlose : x.session.params.degradeAfter < x.session.params.loseAfter)
    (hmax : x.session.params.loseAfter < UInt32.size) (hy : Run first.state h y)
    (hup : Undisturbed first.state.session.epoch h) :
    let e := first.state.session.epoch
    let p := x.session.params
    (Withstands p.loseAfter (signs e h) →
      y.session.epoch = e ∧ y.session.state.isEstablished ∧
      (∃ live, y.session.live = some live ∧ live.id = id ∧
        live.failures = streak (signs e h) ∧ live.failures + 1 < UInt32.size) ∧
      (y.session.state = .active ↔ streak (signs e h) < p.degradeAfter) ∧
      (y.session.state = .degraded ↔ p.degradeAfter ≤ streak (signs e h))) ∧
    (¬ Withstands p.loseAfter (signs e h) → y.session.IsPast e) ∧
    (∀ {m t}, y.step m = some t → y.session.epoch = e →
      if Withstands p.loseAfter (signs e h) ∧
          ¬ Withstands p.loseAfter (signs e (h ++ [⟨y, m, t⟩]))
        then Loses id t else Keeps t) ∧
    ∀ ms, List.Forall₂ Move.Alike (h.map Entry.move) ms →
      ∃ h', Run first.state h' y ∧ h'.map Entry.move = ms ∧
        List.Forall₂ (fun a a' => SameButReasons a.turn a'.turn) h h' := by
  intro e p
  have hfol : Follows e id h y := follows_of_run hf hid hd (Nat.lt_trans hd hlose) hy hup
  have hparams : y.session.params = p := hy.params_eq.trans (shift_of_step hf).params_eq
  refine ⟨fun hw => ?_, hparams ▸ hfol.past, fun {m t} ht he => ?_, fun ms hms => hy.alike hms⟩
  · have hc := hfol.counted (hparams ▸ hw)
    obtain ⟨live, hl, hlid, hfail⟩ := hc.live
    have hstate := hc.state_eq
    have hbound : live.failures + 1 < UInt32.size := by
      have hlt := hw.streak_lt
      rw [hfail]
      exact Nat.lt_of_le_of_lt hlt hmax
    rw [hparams] at hstate
    refine ⟨hc.epoch_eq, hc.isEstablished, ⟨live, hl, hlid, hfail, hbound⟩, ?_, ?_⟩ <;> rw [hstate]
    · split_ifs with hle <;> simpa using hle
    · split_ifs with hle <;> simpa using hle
  · rw [← hparams]
    exact hfol.loses_or_keeps (hparams ▸ hd) ht he

/-- A controller that accepts everything, but acknowledges the number after the one sent. -/
def ahead : (r : Request) → r.Answer
  | .heartbeat _ sequence => .ok { sequence := sequence + 1 }
  | r => accepting r

/-- A session that is degraded by one failure and given up at the second: the first of two
heartbeats is not answered, and might have been answered with the wrong number instead, as the
other is. -/
theorem failures_counted_of_two :
    ∃ (x y : Traffic) (m : Move) (first t : Turn Traffic (Progress Call Outcome))
      (h : List Entry), x.step m = some first ∧ first.result = .done (.opened "session-1") ∧
      Run first.state h y ∧ signs 1 h = [.failed] ∧ y.session.state = .degraded ∧
      y.step (.resume 2 0 ahead) = some t ∧ Loses "session-1" t ∧
      ∃ h', Run first.state h' y ∧ h'.map Entry.move = [.beat, .beat, .resume 1 0 ahead] ∧
        List.Forall₂ (fun a a' => SameButReasons a.turn a'.turn) h h' := by
  let lobby : Session :=
    { host := .named "lobby-1", address := "http://127.0.0.1:12892", params := ⟨.ofSeconds 5, 1, 2⟩
      state := .active, epoch := 1, live := some { id := "session-1" } }
  let x : Traffic :=
    ⟨{ lobby with state := .connecting, live := none }, [some (.connect (.greeting 1))]⟩
  have hy : Run ⟨lobby, [none]⟩ _ _ := Run.nil.play? [.beat, .beat, .resume 1 0 silent] rfl
  obtain ⟨hopen, -, hlost, halike⟩ := failures_counted (x := x) (m := .resume 0 0 accepting) rfl rfl
    (by decide) (by decide) (by decide) hy (by decide)
  obtain ⟨-, -, -, -, hdegraded⟩ := hopen (by decide)
  have hsecond := @hlost (.resume 2 0 ahead) _ rfl rfl
  rw [if_pos (by decide)] at hsecond
  have hfails (r : Request) :
      ahead r = silent r ∨ r.IsFailure (silent r) ∧ r.IsFailure (ahead r) := by
    cases r with
    | heartbeat session sequence => exact .inr ⟨rfl, if_neg (Nat.succ_ne_self sequence)⟩
    | dial | connect | setReady | setRunning | requestStop => exact .inl rfl
  have hother := halike [.beat, .beat, .resume 1 0 ahead]
    (.cons (.refl _) (.cons (.refl _) (.cons (.resume 1 0 hfails) .nil)))
  exact ⟨x, _, .resume 0 0 accepting, _, _, _, rfl, rfl, hy, rfl, hdegraded.mpr (by decide), rfl,
    hsecond, hother⟩

end Traffic

end Session

end FleetAgent
