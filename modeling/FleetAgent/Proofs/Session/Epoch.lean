import FleetAgent.Proofs.Session.Traffic

/-!
# Answers that come too late

A call on a session manager waits for the controller between two of its sections, and any number of
other calls may come in between. The epoch tells whether its answer still counts. An epoch names one
attempt and at most one session: no two attempts that wait share one, and once the attempt of an
epoch is over and its session is gone, the epoch is *past* and stays so. Every section that
displaces what the manager holds makes all epochs up to the present one past; every other section
leaves the open session open and the awaited attempt awaited.

## Main definitions

* `Session.Serves`, `Session.Awaits`, `Session.IsPast`: what an epoch stands for.
* `Session.Traffic.Distinct`: no two attempts that wait share an epoch.
* `Session.Discards`: a section that turns a late answer away.

## Main results

* `Session.Shift.isPast`, `Session.Shift.isPast_of_displaces`: how epochs become past and stay so.
* `Session.Traffic.Reachable.distinct`: attempts have epochs of their own.
* `Session.Traffic.answer_of_since`: an answer counts if and only if nothing has displaced what its
  call was begun for.
-/

namespace FleetAgent.Session

/-- The session for which a heartbeat was sent is the open one. -/
def Serves (s : Session) (b : Beat) : Prop :=
  s.epoch = b.epoch ∧ s.state.isEstablished ∧ s.live.map (·.id) = some b.session

/-- The attempt of an epoch is the one that the manager waits for. -/
def Awaits (s : Session) (e : Nat) : Prop := s.epoch = e ∧ s.state = .connecting

/-- The attempt of an epoch is over, and so is its session if it has come to one. -/
def IsPast (s : Session) (e : Nat) : Prop :=
  e ≤ s.epoch ∧ (s.epoch = e → s.state ≠ .connecting ∧ s.state.isEstablished = false)

/-- A section that turns a late answer away: it changes nothing, tells nothing, and its call fails
with the present state. -/
structure Discards (s : Session) (op : String) (t : CallTurn) : Prop where
  state_eq : t.state = s
  effects_eq : t.effects = []
  result_eq : t.result = .done (.failed (.session (.invalidState op s.state)))

variable {s s' : Session} {c : Option Call} {d : Bool} {e : Nat}

/-! ### Epochs -/

namespace Shift

theorem epoch_le (h : Shift s c d s') : s.epoch ≤ s'.epoch := by
  cases h with
  | opening => exact Nat.le_succ _
  | _ => exact Nat.le_refl _

/-- An epoch that is past stays so. -/
theorem isPast (h : Shift s c d s') (hp : s.IsPast e) : s'.IsPast e := by
  obtain ⟨hle, hp⟩ := hp
  refine ⟨Nat.le_trans hle h.epoch_le, fun he => ?_⟩
  cases h with
  | still => exact hp he
  | opening => exact absurd hle (Nat.not_le_of_lt (Nat.lt_of_succ_le (Nat.le_of_eq he)))
  | opened stage id hs => exact absurd hs (hp he).1
  | refused | lost | closing | closed | reset => exact ⟨SessionState.noConfusion, rfl⟩
  | sent live hs => exact hp he
  | judged b live live' state _ hs => exact absurd hs (by simp [(hp he).2])

/-- What is displaced is past. -/
theorem isPast_of_displaces (h : Shift s c true s') (hle : e ≤ s.epoch) : s'.IsPast e := by
  refine ⟨Nat.le_trans hle h.epoch_le, fun he => ?_⟩
  cases h with
  | opening => exact absurd hle (Nat.not_le_of_lt (Nat.lt_of_succ_le (Nat.le_of_eq he)))
  | lost | closing | closed => exact ⟨SessionState.noConfusion, rfl⟩

/-- The manager waits for an attempt only under an epoch that the attempt has begun. -/
theorem ne_connecting (h : Shift s c d s') (he : s'.epoch = s.epoch) (hs : s.state ≠ .connecting) :
    s'.state ≠ .connecting := by
  cases h with
  | still | sent => exact hs
  | opening => exact absurd he (Nat.succ_ne_self _)
  | judged b live live' state _ _ _ _ hest =>
    rintro rfl
    cases hest
  | opened | refused | lost | closing | closed | reset => exact SessionState.noConfusion

/-- A section that displaces nothing leaves the open session open. -/
theorem serves {b : Beat} (h : Shift s c false s') (hb : s.Serves b) : s'.Serves b := by
  obtain ⟨he, hest, hid⟩ := hb
  cases h with
  | still => exact ⟨he, hest, hid⟩
  | opened stage id hs | refused stage hs | reset hs =>
    simp [hs, SessionState.isEstablished] at hest
  | sent live hs hl => exact ⟨he, hest, by simpa [hl] using hid⟩
  | judged b' live live' state _ hs hl hid' hs' => exact ⟨he, hs', by simpa [hl, hid'] using hid⟩

/-- A section that displaces nothing leaves an attempt awaited, unless it is the attempt's own. -/
theorem awaits (h : Shift s c false s') (ha : s.Awaits e)
    (hc : ∀ stage, c = some (.connect stage) → stage.epoch ≠ e) : s'.Awaits e := by
  obtain ⟨he, hs⟩ := ha
  have hest : ¬ s.state.isEstablished := by simp [hs, SessionState.isEstablished]
  cases h with
  | still => exact ⟨he, hs⟩
  | opened stage id _ hse | refused stage _ hse => exact absurd (hse.symm.trans he) (hc stage rfl)
  | sent live hs' | judged b live live' state _ hs' => exact absurd hs' hest
  | reset hs' => simp [hs] at hs'

end Shift

/-! ### Late answers -/

/-- The answer to an attempt whose epoch is past is turned away. -/
theorem discards_of_isPast_connect {stage : Connect} (h : s.IsPast stage.epoch)
    (answer : Except ClientError String) :
    Discards s "connect"
      ((s.finishConnect stage.epoch answer).map fun r => .done (.ofOpened r)) := by
  have hstale : s.epoch ≠ stage.epoch ∨ s.state ≠ .connecting :=
    (em (s.epoch = stage.epoch)).symm.imp_right fun he => (h.2 he).1
  rw [finishConnect_of_stale hstale]
  exact ⟨rfl, rfl, rfl⟩

/-- The answer to a heartbeat whose epoch is past is turned away. -/
theorem discards_of_isPast_beat {b : Beat} (h : s.IsPast b.epoch) (now : Instant)
    (answer : Except ClientError HeartbeatReply) :
    Discards s "beat" ((s.finishBeat now b answer).map fun r => .done (.ofBeat r)) := by
  have hstale : s.epoch ≠ b.epoch ∨ ¬ s.state.isEstablished :=
    (em (s.epoch = b.epoch)).symm.imp_right fun he => by simp [(h.2 he).2]
  rw [finishBeat_of_stale hstale]
  exact ⟨rfl, rfl, rfl⟩

/-! ### The calls on a manager -/

namespace Traffic

variable {x y : Traffic} {m : Move} {t first : Turn Traffic (Progress Call Outcome)}

/-- A stage at which a section brings its call to a wait, by the stage at which the call has waited
before, if it is not a new one. -/
inductive Arrival (s s' : Session) : Option Call → Call → Prop
  | dialing (h : s'.Awaits (s.epoch + 1)) : Arrival s s' none (.connect (.dialing (s.epoch + 1)))
  | greeting (e : Nat) (h : s' = s) :
      Arrival s s' (some (.connect (.dialing e))) (.connect (.greeting e))
  | beating (b : Beat) (h : s'.Serves b) : Arrival s s' none (.beat b)
  | closing (session : Option String) : Arrival s s' none (.disconnect session)

/-- Every section that ends in a wait brings its call to one of these stages. -/
theorem arrival_of_step (ht : x.step m = some t) {c : Call} (hs : t.result.stage? = some c) :
    Arrival x.session t.state.session (x.resumed? m) c := by
  obtain ⟨u, hu, rfl⟩ := step_eq_some_iff.mp ht
  have hd := deed_of_section? hu
  generalize x.resumed? m = resumed at hd ⊢
  cases hd with
  | opening h =>
    obtain rfl := Option.some.inj hs
    exact .dialing ⟨rfl, rfl⟩
  | dialed e =>
    obtain rfl := Option.some.inj hs
    exact .greeting e rfl
  | sent live h hl =>
    obtain rfl := Option.some.inj hs
    exact .beating _ ⟨rfl, h, rfl⟩
  | closing h =>
    obtain rfl := Option.some.inj hs
    exact .closing _
  | declined | opened | refused | judged | idle | closed | reset => simp [declined] at hs

/-- No two attempts that wait share an epoch, and none has an epoch that is still to come. -/
structure Distinct (x : Traffic) : Prop where
  epoch_le : ∀ {k stage}, x.calls.waiting? k = some (.connect stage) →
    stage.epoch ≤ x.session.epoch
  inj : ∀ {j k stage stage'}, x.calls.waiting? j = some (.connect stage) →
    x.calls.waiting? k = some (.connect stage') → stage.epoch = stage'.epoch → j = k

/-- An attempt that waits after a move is the new one of the move, or has waited before it under the
same epoch. -/
theorem connect_of_waiting? (ht : x.step m = some t) {k : Nat} {stage : Connect}
    (hk : t.state.calls.waiting? k = some (.connect stage)) :
    (k = x.caller m ∧ stage.epoch = x.session.epoch + 1 ∧
      t.state.session.epoch = x.session.epoch + 1) ∨
    ∃ stage', x.calls.waiting? k = some (.connect stage') ∧ stage'.epoch = stage.epoch := by
  rw [waiting?_of_step ht] at hk
  split_ifs at hk with h
  · have harr := arrival_of_step ht hk
    cases hr : x.resumed? m with
    | none =>
      rw [hr] at harr
      cases harr with
      | dialing haw => exact .inl ⟨h, rfl, haw.1⟩
    | some c =>
      rw [hr] at harr
      cases harr with
      | greeting e => exact .inr ⟨.dialing e, h ▸ waiting?_caller hr, rfl⟩
  · exact .inr ⟨stage, hk, rfl⟩

theorem Distinct.step (hx : x.Distinct) (ht : x.step m = some t) : t.state.Distinct where
  epoch_le hk := by
    rcases connect_of_waiting? ht hk with ⟨-, he, hs⟩ | ⟨stage', hk', he⟩
    · omega
    · have hle := hx.epoch_le hk'
      have hmono := (shift_of_step ht).epoch_le
      omega
  inj hj hk heq := by
    rcases connect_of_waiting? ht hj with ⟨hj', he, -⟩ | ⟨stage, hj', he⟩ <;>
      rcases connect_of_waiting? ht hk with ⟨hk', he', -⟩ | ⟨stage', hk', he'⟩
    · exact hj'.trans hk'.symm
    · have hle := hx.epoch_le hk'
      omega
    · have hle := hx.epoch_le hj'
      omega
    · exact hx.inj hj' hk' (by omega)

/-- Attempts have epochs of their own, whatever calls are made and in whatever order they go on. -/
theorem Reachable.distinct (hx : Reachable x) : x.Distinct := by
  induction hx with
  | new host address params =>
    exact ⟨fun h => by simp [Tasks.waiting?] at h, fun h => by simp [Tasks.waiting?] at h⟩
  | step _ ht ih => exact ih.step ht

/-! ### The answer to a call -/

/-- How matters stand for the call of number `n`, whose epoch is `e` and whose stages are those of
`own`, when it was begun for what `held` says: if something has been displaced since then its epoch
is past, and otherwise `held` still holds as long as it waits. -/
structure Standing (n e : Nat) (own : Call → Prop) (held : Session → Prop) (d : Bool)
    (y : Traffic) : Prop where
  lt : n < y.calls.length
  epoch_le : e ≤ y.session.epoch
  own : ∀ {c}, y.calls.waiting? n = some c → own c
  past : d = true → y.session.IsPast e
  held : d = false → (y.calls.waiting? n).isSome → held y.session

variable {n : Nat} {own : Call → Prop} {held : Session → Prop} {c : Call}

/-- The standing of a call after its first section. -/
theorem standing_of_first (hf : x.step m = some first) (hnew : x.caller m = x.calls.length)
    (hc : first.result.stage? = some c) (hle : e ≤ first.state.session.epoch) (hown : own c)
    (hheld : held first.state.session) :
    Standing x.calls.length e own held false first.state := by
  have hwait := waiting?_of_step hf x.calls.length
  rw [if_pos hnew.symm, hc] at hwait
  refine ⟨?_, hle, fun h => ?_, Bool.noConfusion, fun _ _ => hheld⟩
  · exact Tasks.lt_of_waiting? hwait
  · rw [hwait] at h
    exact Option.some.inj h ▸ hown

/-- The standing of a call survives a move if the sections of other calls that displace nothing keep
what it was begun for. -/
theorem Standing.step (hy : Standing n e own held d y) (ht : y.step m = some t)
    (hown : ∀ e', own (.connect (.dialing e')) → own (.connect (.greeting e')))
    (hheld : y.caller m ≠ n → (y.calls.waiting? n).isSome →
      Shift y.session (y.resumed? m) false t.state.session → held y.session →
      held t.state.session) :
    Standing n e own held (d || m.displaces t.result) t.state := by
  have hshift := shift_of_step ht
  have hwait := waiting?_of_step ht n
  refine ⟨Nat.lt_of_lt_of_le hy.lt (length_calls_le ht), Nat.le_trans hy.epoch_le hshift.epoch_le,
    fun {c} hc => ?_, fun hd => ?_, fun hd hw => ?_⟩
  · rw [hwait] at hc
    split_ifs at hc with h
    · obtain ⟨c', hr⟩ := exists_resumed?_eq_some ht (h ▸ hy.lt)
      have harr := arrival_of_step ht hc
      have hc' := hy.own (h ▸ waiting?_caller hr)
      rw [hr] at harr
      cases harr with
      | greeting e' => exact hown e' hc'
    · exact hy.own hc
  · by_cases hdisp : m.displaces t.result
    · rw [hdisp] at hshift
      exact hshift.isPast_of_displaces hy.epoch_le
    · exact hshift.isPast (hy.past (by simpa [hdisp] using hd))
  · obtain ⟨hd, hdisp⟩ := Bool.or_eq_false_iff.mp hd
    rw [hwait] at hw
    rw [hdisp] at hshift
    split_ifs at hw with h
    · obtain ⟨c, hc⟩ := Option.isSome_iff_exists.mp hw
      obtain ⟨c', hr⟩ := exists_resumed?_eq_some ht (h ▸ hy.lt)
      have hw' : y.calls.waiting? n = some c' := h ▸ waiting?_caller hr
      have harr := arrival_of_step ht hc
      rw [hr] at harr
      cases harr with
      | greeting e' hsame => exact hsame ▸ hy.held hd (Option.isSome_of_mem hw')
    · exact hheld (Ne.symm h) hw hshift (hy.held hd hw)

/-- The standing of a heartbeat from its first section on. -/
theorem standing_beat {b : Beat} (hf : x.step .beat = some first)
    (hc : first.result = .waiting (.beat b)) (hy : Since first.state d y) :
    Standing x.calls.length b.epoch (· = .beat b) (·.Serves b) d y := by
  induction hy with
  | refl =>
    have hs : first.state.session.Serves b := by
      cases arrival_of_step hf (c := .beat b) (by rw [hc]; rfl) with
      | beating b hs => exact hs
    exact standing_of_first hf rfl (by rw [hc]; rfl) (Nat.le_of_eq hs.1.symm) rfl hs
  | step hy ht ih => exact ih.step ht (fun _ h => by cases h) fun _ _ hshift hs => hshift.serves hs

/-- The standing of an attempt from its first section on: what it waits for cannot be answered by
another attempt, since that has another epoch. -/
theorem standing_connect (hx : Reachable x) {stage : Connect} (hf : x.step .connect = some first)
    (hc : first.result = .waiting (.connect stage)) (hy : Since first.state d y) :
    Standing x.calls.length stage.epoch
      (fun c => ∃ stage', c = .connect stage' ∧ stage'.epoch = stage.epoch)
      (·.Awaits stage.epoch) d y := by
  have hreach := Reachable.step hx hf
  induction hy with
  | refl =>
    have hs : first.state.session.Awaits stage.epoch := by
      cases arrival_of_step hf (c := .connect stage) (by rw [hc]; rfl) with
      | dialing hs => exact hs
    exact standing_of_first hf rfl (by rw [hc]; rfl) (Nat.le_of_eq hs.1.symm) ⟨stage, rfl, rfl⟩ hs
  | @step d y m t hy ht ih =>
    refine ih.step ht (fun e' h => ?_) fun hcall hw hshift hs =>
      hshift.awaits hs fun stage' hr he => ?_
    · obtain ⟨stage', h, he⟩ := h
      cases h
      exact ⟨_, rfl, he⟩
    · obtain ⟨c, hw⟩ := Option.isSome_iff_exists.mp hw
      obtain ⟨stage'', rfl, he'⟩ := ih.own hw
      exact hcall ((hy.reachable hreach).distinct.inj (waiting?_caller hr) hw (he.trans he'.symm))

/-- An answer counts for what its call was begun for, or not at all. Follow any calls of a session
manager, in any order of their sections and answers, from the first section of a heartbeat on. If
nothing has been displaced when the heartbeat is answered, the session for which it was sent is the
open one; otherwise the answer is turned away. Likewise from the first section of an attempt on: if
nothing has been displaced, the manager still waits for this attempt; otherwise its answer is turned
away, or the channel was just opened, and the attempt goes on and changes nothing. -/
theorem answer_of_since (hx : Reachable x) {now : Instant} {reply : (r : Request) → r.Answer}
    {u : CallTurn} (hu : y.section? (.resume x.calls.length now reply) = some u) :
    (∀ b, x.step .beat = some first → first.result = .waiting (.beat b) →
      Since first.state d y →
      if d then Discards y.session "beat" u else y.session.Serves b) ∧
    (∀ stage, x.step .connect = some first → first.result = .waiting (.connect stage) →
      Since first.state d y →
      if d then
        Discards y.session "connect" u ∨
          y.calls.waiting? x.calls.length = some (.connect (.dialing stage.epoch)) ∧
            (∃ channel, reply .dial = .ok channel) ∧
            u = { state := y.session, result := .waiting (.connect (.greeting stage.epoch)) }
      else y.session.Awaits stage.epoch) := by
  obtain ⟨c, hc, rfl⟩ := Option.map_eq_some_iff.mp hu
  have hw := Option.isSome_of_mem hc
  refine ⟨fun b hf hb hy => ?_, fun stage hf hb hy => ?_⟩
  · have hst := standing_beat hf hb hy
    cases d with
    | false => exact hst.held rfl hw
    | true =>
      obtain rfl := hst.own hc
      exact discards_of_isPast_beat (hst.past rfl) now _
  · have hst := standing_connect hx hf hb hy
    cases d with
    | false => exact hst.held rfl hw
    | true =>
      obtain ⟨stage', rfl, he⟩ := hst.own hc
      have hpast : y.session.IsPast stage'.epoch := he ▸ hst.past rfl
      rw [if_pos rfl, ← he]
      cases stage' with
      | dialing e =>
        cases hr : reply .dial with
        | ok channel =>
          exact .inr ⟨hc, ⟨channel, rfl⟩, by simp only [resume, Connect.resume, hr]; rfl⟩
        | error e' =>
          simp only [resume, Connect.resume, hr]
          exact .inl (discards_of_isPast_connect hpast _)
      | greeting e => exact .inl (discards_of_isPast_connect hpast _)

/-- The manager of a server. -/
private def lobby : Session :=
  { host := .named "lobby-1", address := "http://127.0.0.1:12892", params := ⟨.ofSeconds 5, 3, 6⟩ }

/-- A heartbeat that is overtaken by a shutdown and a newer session, and an attempt that is
overtaken by a shutdown and a newer attempt: both answers are turned away. -/
theorem answers_after_shutdown_discarded :
    (∃ x y first b u, Reachable x ∧ x.step .beat = some first ∧
      first.result = .waiting (.beat b) ∧ Since first.state true y ∧ y.session.state = .active ∧
      y.section? (.resume x.calls.length 0 accepting) = some u ∧ Discards y.session "beat" u) ∧
    (∃ x y first stage u, Reachable x ∧ x.step .connect = some first ∧
      first.result = .waiting (.connect stage) ∧ Since first.state true y ∧
      y.session.state = .connecting ∧
      y.section? (.resume x.calls.length 0 accepting) = some u ∧
      (Discards y.session "connect" u ∨
        y.calls.waiting? x.calls.length = some (.connect (.dialing stage.epoch)) ∧
          (∃ channel, accepting .dial = .ok channel) ∧
          u = { state := y.session, result := .waiting (.connect (.greeting stage.epoch)) })) := by
  let opened (e : Nat) : Session :=
    { lobby with state := .active, epoch := e, live := some { id := "session-1" } }
  have hnew : Reachable ⟨lobby, []⟩ := .new ..
  have hx : Reachable ⟨opened 1, [none]⟩ :=
    (Since.refl.follow? [.connect, .resume 0 0 accepting, .resume 0 0 accepting] rfl).reachable hnew
  have hbeat : Since ⟨{ opened 1 with live := some { id := "session-1", nextSequence := 1 } },
      [none, some (.beat ⟨1, "session-1", 0⟩)]⟩ true
      ⟨opened 2, [none, some (.beat ⟨1, "session-1", 0⟩), none, none, none]⟩ :=
    Since.refl.follow? [.disconnect, .resume 2 0 accepting, .reset, .connect,
      .resume 4 0 accepting, .resume 4 0 accepting] rfl
  have hconnect : Since ⟨{ lobby with state := .connecting, epoch := 1 },
      [some (.connect (.dialing 1))]⟩ true
      ⟨{ lobby with state := .connecting, epoch := 2 },
        [some (.connect (.greeting 1)), none, none, some (.connect (.dialing 2))]⟩ :=
    Since.refl.follow? [.disconnect, .resume 1 0 accepting, .reset, .connect,
      .resume 0 0 accepting] rfl
  exact ⟨⟨_, _, _, _, _, hx, rfl, rfl, hbeat, rfl, rfl,
      (answer_of_since hx rfl).1 _ rfl rfl hbeat⟩,
    ⟨_, _, _, _, _, hnew, rfl, rfl, hconnect, rfl, rfl,
      (answer_of_since hnew rfl).2 _ rfl rfl hconnect⟩⟩

end Traffic

end FleetAgent.Session
