import FleetAgent.Proofs.Session.Answers
import FleetAgent.Proofs.Session.Epoch
import FleetAgent.Proofs.Session.Record

/-!
# Sequence numbers

Every heartbeat of a session takes a sequence number in its first section, and its answer must name
that number. Calls are numbered in the order of their first sections, so the order of the numbers
can be compared with the order of the calls.

## Main definitions

* `Session.Traffic.begun`, `Session.Traffic.acked`: the heartbeats of a session that a history has
  begun and acknowledged.
* `Session.Traffic.Numbered`: how these heartbeats are numbered.

## Main results

* `Session.Traffic.numbering_of_step`: what a section means for the numbers of a session.
* `Session.Traffic.numbered_of_run`: the heartbeats are numbered like this in every history of a
  session.
* `Session.Traffic.heartbeats_numbered`: the numbers are `0`, `1`, `2` and so on, none is
  acknowledged twice, and a reply that names another number is a failure.
* `Session.Traffic.acknowledged_in_order`, `Session.Traffic.acknowledged_out_of_order`: the numbers
  of acknowledgements increase if and only if the heartbeats are acknowledged in their order, which
  they need not be.
-/

namespace FleetAgent.Session

namespace Traffic

/-- A heartbeat, by the number of its call and by its sequence number. -/
structure Mark where
  /-- The number of the call. -/
  call : Nat
  /-- The sequence number. -/
  sequence : Nat
deriving DecidableEq, Repr

/-- The heartbeat that begins with the section, if the session of the epoch `e` is the open one. -/
def Entry.begun? (e : Nat) (a : Entry) : Option Mark :=
  match a.turn.result with
  | .waiting (.beat b) => if b.epoch = e then some ⟨a.caller, b.sequence⟩ else none
  | _ => none

/-- The heartbeat that the section acknowledges, if it is one of the session of the epoch `e`. -/
def Entry.acked? (e : Nat) (a : Entry) : Option Mark :=
  match a.turn.result, a.resumed? with
  | .done (.beaten (.acked sequence _)), some (.beat b) =>
    if b.epoch = e then some ⟨a.caller, sequence⟩ else none
  | _, _ => none

/-- The heartbeats of the session of the epoch `e` in the order of their first sections. -/
def begun (e : Nat) (h : List Entry) : List Mark := h.filterMap (Entry.begun? e)

/-- The heartbeats of the session of the epoch `e` in the order of their acknowledgements. -/
def acked (e : Nat) (h : List Entry) : List Mark := h.filterMap (Entry.acked? e)

variable {e : Nat} {x y : Traffic} {m : Move} {h : List Entry} {a : Entry}
  {t first : Turn Traffic (Progress Call Outcome)}

theorem begun_concat : begun e (h ++ [a]) = begun e h ++ (a.begun? e).toList := by
  cases ha : a.begun? e <;> simp [begun, ha]

theorem acked_concat : acked e (h ++ [a]) = acked e h ++ (a.acked? e).toList := by
  cases ha : a.acked? e <;> simp [acked, ha]

/-- A record that is held afterwards has the number that comes next and the one acknowledged last
from the record held before. -/
def KeepsNumbers (s s' : Session) : Prop :=
  ∀ live', s'.live = some live' → ∃ live, s.live = some live ∧
    live'.nextSequence = live.nextSequence ∧ live'.lastAcked = live.lastAcked

/-- What a section means for the sequence numbers of the session of the epoch `e`: it begins one of
its heartbeats, acknowledges one, or does neither. -/
inductive Entry.Numbering (e : Nat) (a : Entry) : Prop
  | begins (live : Live) (he : a.before.session.epoch = e) (hl : a.before.session.live = some live)
      (hm : a.move.resumes? = none)
      (hr : a.turn.result.stage? = some (.beat ⟨e, live.id, live.nextSequence⟩))
      (hl' : a.turn.state.session.live =
        some { live with nextSequence := live.nextSequence + 1 })
      (hb : a.begun? e = some ⟨a.caller, live.nextSequence⟩) (ha : a.acked? e = none)
  | acks (b : Beat) (live live' : Live) (he : a.before.session.epoch = e) (hbe : b.epoch = e)
      (hc : a.resumed? = some (.beat b)) (hr : a.turn.result.stage? = none)
      (hl : a.before.session.live = some live) (hl' : a.turn.state.session.live = some live')
      (hn : live'.nextSequence = live.nextSequence) (hn' : live'.lastAcked = some b.sequence)
      (hb : a.begun? e = none) (ha : a.acked? e = some ⟨a.caller, b.sequence⟩)
  | neither (hr : ∀ b, a.turn.result.stage? = some (.beat b) → b.epoch ≠ e)
      (hl : a.before.session.epoch = e → a.before.session.state ≠ .connecting →
        KeepsNumbers a.before.session a.turn.state.session)
      (hb : a.begun? e = none) (ha : a.acked? e = none)

/-- A section that neither begins nor acknowledges a heartbeat, and keeps the numbers of the record
if it does not open a session. -/
private theorem Entry.Numbering.of_ne (hb : ∀ b, a.turn.result ≠ .waiting (.beat b))
    (ha : ∀ n d, a.turn.result ≠ .done (.beaten (.acked n d)))
    (hl : a.before.session.state ≠ .connecting →
      KeepsNumbers a.before.session a.turn.state.session) : Entry.Numbering e a := by
  refine .neither (fun b hr => ?_) (fun _ => hl) ?_ ?_
  · cases hres : a.turn.result with
    | waiting c =>
      rw [hres] at hr
      obtain rfl := Option.some.inj hr
      exact absurd hres (hb b)
    | done o => simp [hres] at hr
  · rw [Entry.begun?]
    split
    · exact absurd ‹_› (hb _)
    · rfl
  · rw [Entry.acked?]
    split
    · exact absurd ‹_› (ha _ _)
    · rfl

private theorem keeps_of_eq {s s' : Session} (h : s'.live = s.live) : KeepsNumbers s s' :=
  fun live' hl => ⟨live', h ▸ hl, rfl, rfl⟩

private theorem keeps_of_none {s s' : Session} (h : s'.live = none) : KeepsNumbers s s' :=
  fun live' hl => by simp [h] at hl

/-- Every section means one of these things for the sequence numbers of a session. -/
theorem numbering_of_step (e : Nat) (ht : x.step m = some t) : Entry.Numbering e ⟨x, m, t⟩ := by
  obtain ⟨u, hu, rfl⟩ := step_eq_some_iff.mp ht
  have hd := deed_of_section? hu
  generalize hc : x.resumed? m = c at hd
  cases hd with
  | declined op h => exact .of_ne (by simp [declined]) (by simp [declined]) fun _ => keeps_of_eq rfl
  | opening h => exact .of_ne (by simp) (by simp) fun _ => keeps_of_eq rfl
  | dialed e' => exact .of_ne (by simp) (by simp) fun _ => keeps_of_eq rfl
  | opened stage id he h => exact .of_ne (by simp) (by simp) fun hs => absurd h hs
  | refused stage cause he h => exact .of_ne (by simp) (by simp) fun _ => keeps_of_eq rfl
  | sent live h hl =>
    by_cases he : x.session.epoch = e
    · refine .begins live he hl rfl ?_ rfl ?_ ?_ <;> simp [Entry.begun?, Entry.acked?, he]
    · refine .neither ?_ ?_ ?_ ?_ <;> simp [Entry.begun?, Entry.acked?, he]
  | @judged k now reply b live t he h hl hv =>
    generalize (reply b.request).bind (·.checkSequence b.sequence) = checked at hv
    cases hv with
    | acked reply =>
      by_cases hbe : b.epoch = e
      · refine .acks b live _ (he.trans hbe) hbe hc rfl hl rfl rfl rfl ?_ ?_
        · simp [Entry.begun?]
        · simp [Entry.acked?, Entry.resumed?, hc, hbe, acknowledge, Outcome.ofBeat]
      · refine .neither ?_ ?_ ?_ ?_
        · simp
        · exact fun he' => absurd (he.symm.trans he') hbe
        · simp [Entry.begun?]
        · simp [Entry.acked?, Entry.resumed?, hc, hbe, acknowledge, Outcome.ofBeat]
    | missed cause ht hf =>
      refine .of_ne (by simp) ?_ ?_
      · simp [miss, Nat.not_le_of_lt hf, Outcome.ofBeat]
      · rintro - live' hl'
        simp only [miss, Nat.not_le_of_lt hf, ↓reduceIte, Turn.state_map] at hl'
        obtain rfl := Option.some.inj hl'
        exact ⟨live, hl, rfl, rfl⟩
    | worn cause ht hf =>
      exact .of_ne (by simp) (by simp [lose, Outcome.ofBeat]) fun _ => keeps_of_none rfl
    | rejected reason =>
      exact .of_ne (by simp) (by simp [lose, Outcome.ofBeat]) fun _ => keeps_of_none rfl
    | unrelated cause ht hr =>
      exact .of_ne (by simp) (by simp [Outcome.ofBeat]) fun _ => keeps_of_eq rfl
  | idle h => exact .of_ne (by simp) (by simp) fun _ => keeps_of_eq rfl
  | closing h => exact .of_ne (by simp) (by simp) fun _ => keeps_of_none rfl
  | closed session => exact .of_ne (by simp) (by simp) fun _ => keeps_of_eq rfl
  | reset h => exact .of_ne (by simp) (by simp) fun _ => keeps_of_eq rfl

/-- How the heartbeats of the session of the epoch `e` are numbered, after the history `h` from its
opening on: in the order of their first sections, from zero on and without a gap. The record of the
session has the next number and the one acknowledged last. -/
structure Numbered (e : Nat) (h : List Entry) (y : Traffic) : Prop where
  epoch_le : e ≤ y.session.epoch
  settled : y.session.epoch = e → y.session.state ≠ .connecting
  sequences : (begun e h).map Mark.sequence = List.range (begun e h).length
  calls : (begun e h).Pairwise (·.call < ·.call)
  lt_length : ∀ p ∈ begun e h, p.call < y.calls.length
  waiting : ∀ {k b}, y.calls.waiting? k = some (.beat b) → b.epoch = e →
    ⟨k, b.sequence⟩ ∈ begun e h
  returned : ∀ p ∈ acked e h, p ∈ begun e h ∧ y.calls.waiting? p.call = none
  nodup : (acked e h).Pairwise (·.call ≠ ·.call)
  record : ∀ {live}, y.session.epoch = e → y.session.live = some live →
    live.nextSequence = (begun e h).length ∧
      live.lastAcked = (acked e h).getLast?.map Mark.sequence

/-- A call that has returned does not wait again. -/
theorem waiting?_eq_none_of_step (ht : x.step m = some t) {k : Nat} (hk : k < x.calls.length)
    (hw : x.calls.waiting? k = none) : t.state.calls.waiting? k = none := by
  rw [waiting?_of_step ht]
  split_ifs with h
  · obtain ⟨c, hc⟩ := exists_resumed?_eq_some ht (h ▸ hk)
    have hw' := waiting?_caller hc
    rw [← h, hw] at hw'
    cases hw'
  · exact hw

namespace Numbered

section Step

variable (hy : Numbered e h y) (ht : y.step m = some t)
include hy ht

private theorem epoch_of_step (he : t.state.session.epoch = e) : y.session.epoch = e := by
  have hle := hy.epoch_le
  have hmono := (shift_of_step ht).epoch_le
  omega

private theorem settled_of_step (he : t.state.session.epoch = e) :
    t.state.session.state ≠ .connecting := by
  have hey := hy.epoch_of_step ht he
  exact (shift_of_step ht).ne_connecting (he.trans hey.symm) (hy.settled hey)

private theorem returned_of_step {p : Mark} (hp : p ∈ acked e h) :
    p ∈ begun e h ∧ t.state.calls.waiting? p.call = none := by
  obtain ⟨hb, hw⟩ := hy.returned p hp
  exact ⟨hb, waiting?_eq_none_of_step ht (hy.lt_length p hb) hw⟩

/-- A section that begins a heartbeat of the session gives it the next number. -/
private theorem begins {live : Live} (he : y.session.epoch = e) (hl : y.session.live = some live)
    (hm : m.resumes? = none)
    (hr : t.result.stage? = some (.beat ⟨e, live.id, live.nextSequence⟩))
    (hl' : t.state.session.live = some { live with nextSequence := live.nextSequence + 1 })
    (hb : Entry.begun? e ⟨y, m, t⟩ = some ⟨y.caller m, live.nextSequence⟩)
    (ha : Entry.acked? e ⟨y, m, t⟩ = none) : Numbered e (h ++ [⟨y, m, t⟩]) t.state := by
  obtain ⟨hnext, hlast⟩ := hy.record he hl
  have hcaller : y.caller m = y.calls.length := by simp [caller, Tasks.place, hm]
  have hwait := waiting?_of_step ht
  have hlen : y.calls.length < t.state.calls.length :=
    Tasks.lt_of_waiting? ((hwait _).trans (by rw [if_pos hcaller.symm, hr]))
  have hbegun : begun e (h ++ [⟨y, m, t⟩]) =
      begun e h ++ [⟨y.calls.length, (begun e h).length⟩] := by
    rw [begun_concat, hb, hcaller, hnext]
    rfl
  have hacked : acked e (h ++ [⟨y, m, t⟩]) = acked e h := by simp [acked_concat, ha]
  constructor
  case epoch_le => exact Nat.le_trans hy.epoch_le (shift_of_step ht).epoch_le
  case settled => exact hy.settled_of_step ht
  case sequences =>
    rw [hbegun, List.map_append, hy.sequences, List.length_append, List.length_singleton,
      List.range_succ]
    rfl
  case calls =>
    rw [hbegun, List.pairwise_append]
    refine ⟨hy.calls, List.pairwise_singleton _ _, fun p hp q hq => ?_⟩
    rw [List.mem_singleton.mp hq]
    exact hy.lt_length p hp
  case lt_length =>
    rw [hbegun]
    intro p hp
    rcases List.mem_append.mp hp with hp | hp
    · exact Nat.lt_trans (hy.lt_length p hp) hlen
    · rw [List.mem_singleton.mp hp]
      exact hlen
  case waiting =>
    intro k b hk hbe
    rw [hbegun, List.mem_append]
    rw [hwait] at hk
    split_ifs at hk with hk'
    · obtain rfl := Call.beat.inj (Option.some.inj (hr.symm.trans hk))
      exact .inr (List.mem_singleton.mpr (by rw [hk', hcaller, hnext]))
    · exact .inl (hy.waiting hk hbe)
  case returned =>
    rw [hacked, hbegun]
    intro p hp
    obtain ⟨hb, hw⟩ := hy.returned_of_step ht hp
    exact ⟨List.mem_append_left _ hb, hw⟩
  case nodup =>
    rw [hacked]
    exact hy.nodup
  case record =>
    intro live' he' hl''
    obtain rfl := Option.some.inj (hl'.symm.trans hl'')
    rw [hacked, hbegun, List.length_append, List.length_singleton]
    exact ⟨by rw [← hnext], hlast⟩

/-- A section that begins no heartbeat of the session leaves the numbers as they are. -/
private theorem of_begun?_eq_none (hb : Entry.begun? e ⟨y, m, t⟩ = none)
    (hr : ∀ b, t.result.stage? = some (.beat b) → b.epoch ≠ e)
    (hreturned : ∀ p ∈ acked e (h ++ [⟨y, m, t⟩]),
      p ∈ begun e h ∧ t.state.calls.waiting? p.call = none)
    (hnodup : (acked e (h ++ [⟨y, m, t⟩])).Pairwise (·.call ≠ ·.call))
    (hrecord : ∀ {live}, t.state.session.epoch = e → t.state.session.live = some live →
      live.nextSequence = (begun e h).length ∧
        live.lastAcked = (acked e (h ++ [⟨y, m, t⟩])).getLast?.map Mark.sequence) :
    Numbered e (h ++ [⟨y, m, t⟩]) t.state := by
  have hbegun : begun e (h ++ [⟨y, m, t⟩]) = begun e h := by simp [begun_concat, hb]
  constructor <;> try rw [hbegun]
  case epoch_le => exact Nat.le_trans hy.epoch_le (shift_of_step ht).epoch_le
  case settled => exact hy.settled_of_step ht
  case sequences => exact hy.sequences
  case calls => exact hy.calls
  case lt_length => exact fun p hp => Nat.lt_of_lt_of_le (hy.lt_length p hp) (length_calls_le ht)
  case waiting =>
    intro k b hk hbe
    rw [waiting?_of_step ht] at hk
    split_ifs at hk with hk'
    · exact absurd hbe (hr b hk)
    · exact hy.waiting hk hbe
  case returned => exact hreturned
  case nodup => exact hnodup
  case record => exact hrecord

/-- A section that acknowledges a heartbeat of the session answers a call that has waited, unlike
those answered before. -/
private theorem acks {b : Beat} {live live' : Live} (he : y.session.epoch = e) (hbe : b.epoch = e)
    (hc : y.resumed? m = some (.beat b)) (hr : t.result.stage? = none)
    (hl : y.session.live = some live) (hl' : t.state.session.live = some live')
    (hn : live'.nextSequence = live.nextSequence) (hn' : live'.lastAcked = some b.sequence)
    (hb : Entry.begun? e ⟨y, m, t⟩ = none)
    (ha : Entry.acked? e ⟨y, m, t⟩ = some ⟨y.caller m, b.sequence⟩) :
    Numbered e (h ++ [⟨y, m, t⟩]) t.state := by
  obtain ⟨hnext, -⟩ := hy.record he hl
  have hcall := waiting?_caller hc
  have hacked : acked e (h ++ [⟨y, m, t⟩]) = acked e h ++ [⟨y.caller m, b.sequence⟩] := by
    simp [acked_concat, ha]
  refine hy.of_begun?_eq_none ht hb (by simp [hr]) ?_ ?_ ?_
  · rw [hacked]
    intro p hp
    rcases List.mem_append.mp hp with hp | hp
    · exact hy.returned_of_step ht hp
    · rw [List.mem_singleton.mp hp]
      exact ⟨hy.waiting hcall hbe, by rw [waiting?_of_step ht, if_pos rfl, hr]⟩
  · rw [hacked, List.pairwise_append]
    refine ⟨hy.nodup, List.pairwise_singleton _ _, fun p hp q hq => ?_⟩
    rw [List.mem_singleton.mp hq]
    intro heq
    -- A call that was acknowledged before has returned, but this one waits.
    have hw := (hy.returned p hp).2
    rw [heq, hcall] at hw
    cases hw
  · intro live'' _ hl''
    obtain rfl := Option.some.inj (hl'.symm.trans hl'')
    rw [hacked, List.getLast?_concat]
    exact ⟨hn.trans hnext, hn'⟩

theorem step : Numbered e (h ++ [⟨y, m, t⟩]) t.state := by
  cases numbering_of_step e ht with
  | begins live he hl hm hr hl' hb ha => exact hy.begins ht he hl hm hr hl' hb ha
  | acks b live live' he hbe hc hr hl hl' hn hn' hb ha =>
    exact hy.acks ht he hbe hc hr hl hl' hn hn' hb ha
  | neither hr hl hb ha =>
    have hacked : acked e (h ++ [⟨y, m, t⟩]) = acked e h := by simp [acked_concat, ha]
    refine hy.of_begun?_eq_none ht hb hr ?_ ?_ ?_ <;> rw [hacked]
    · exact fun p hp => hy.returned_of_step ht hp
    · exact hy.nodup
    · intro live' he hl'
      have hey := hy.epoch_of_step ht he
      obtain ⟨live, hlive, hn, hn'⟩ := hl hey (hy.settled hey) live' hl'
      obtain ⟨hnext, hlast⟩ := hy.record hey hlive
      exact ⟨hn.trans hnext, hn'.trans hlast⟩

end Step

/-- The place of a heartbeat of the session among all of them is its sequence number. -/
private theorem sequence_getElem (hy : Numbered e h y) {i : Nat} (hi : i < (begun e h).length) :
    (begun e h)[i].sequence = i := by
  have hmap : ((begun e h).map Mark.sequence)[i]? = some i := by
    rw [hy.sequences, List.getElem?_range hi]
  rw [List.getElem?_map, List.getElem?_eq_getElem hi] at hmap
  exact Option.some.inj hmap

/-- Heartbeats of the session that are begun later have greater numbers. -/
theorem sequence_lt_iff (hy : Numbered e h y) {p q : Mark} (hp : p ∈ begun e h)
    (hq : q ∈ begun e h) : p.sequence < q.sequence ↔ p.call < q.call := by
  obtain ⟨i, hi, rfl⟩ := List.getElem_of_mem hp
  obtain ⟨j, hj, rfl⟩ := List.getElem_of_mem hq
  have hmono := List.pairwise_iff_getElem.mp hy.calls
  rw [hy.sequence_getElem hi, hy.sequence_getElem hj]
  refine ⟨fun hij => hmono i j hi hj hij, fun hcall => ?_⟩
  rcases Nat.lt_trichotomy i j with hij | rfl | hij
  · exact hij
  · omega
  · have hji := hmono j i hj hi hij
    omega

theorem sequence_lt_length (hy : Numbered e h y) {p : Mark} (hp : p ∈ begun e h) :
    p.sequence < (begun e h).length := by
  obtain ⟨i, hi, rfl⟩ := List.getElem_of_mem hp
  rw [hy.sequence_getElem hi]
  exact hi

/-- No number is acknowledged twice. -/
theorem nodup_sequences (hy : Numbered e h y) : ((acked e h).map Mark.sequence).Nodup := by
  rw [List.Nodup, List.pairwise_map]
  refine hy.nodup.imp_of_mem fun {p q} hp hq hne heq => ?_
  have hpq := hy.sequence_lt_iff (hy.returned p hp).1 (hy.returned q hq).1
  have hqp := hy.sequence_lt_iff (hy.returned q hq).1 (hy.returned p hp).1
  omega

end Numbered

/-- The heartbeats that wait are of sessions that have been opened. -/
theorem Reachable.opened_of_waiting (hx : Reachable x) {k : Nat} {b : Beat}
    (hk : x.calls.waiting? k = some (.beat b)) :
    b.epoch ≤ x.session.epoch ∧ (x.session.epoch = b.epoch → x.session.state ≠ .connecting) := by
  induction hx generalizing k b with
  | new host address params => simp [Tasks.waiting?] at hk
  | @step x m t hx ht ih =>
    have hshift := shift_of_step ht
    rw [waiting?_of_step ht] at hk
    split_ifs at hk with h
    · have harr := arrival_of_step ht hk
      generalize x.resumed? m = c at harr
      cases harr with
      | beating b hs =>
        obtain ⟨he, hest, -⟩ := hs
        refine ⟨Nat.le_of_eq he.symm, fun _ hc => ?_⟩
        simp [hc, SessionState.isEstablished] at hest
    · obtain ⟨hle, hne⟩ := ih hk
      have hmono := hshift.epoch_le
      refine ⟨Nat.le_trans hle hmono, fun he => hshift.ne_connecting ?_ (hne ?_)⟩ <;> omega

/-- A new session has begun and acknowledged no heartbeat. -/
theorem numbered_of_opened (hx : Reachable x) (ht : x.step m = some t) {id : String}
    (hid : t.result = .done (.opened id)) : Numbered t.state.session.epoch [] t.state := by
  obtain ⟨hconn, hsession⟩ := opened_of_step ht hid
  constructor <;> try simp [begun, acked, hsession]
  intro k b hk hbe
  rw [waiting?_of_step ht] at hk
  split_ifs at hk
  · simp [hid] at hk
  · exact (hx.opened_of_waiting hk).2 hbe.symm hconn

/-- The heartbeats of a session are numbered in every history from its opening on. -/
theorem numbered_of_run (hx : Reachable x) (hf : x.step m = some first) {id : String}
    (hid : first.result = .done (.opened id)) (hy : Run first.state h y) :
    Numbered first.state.session.epoch h y := by
  induction hy with
  | nil => exact numbered_of_opened hx hf hid
  | snoc _ ht ih => exact ih.step ht

/-- The heartbeats of a session take the numbers `0`, `1`, `2` and so on, in the order of their
first sections, whatever becomes of them and whatever other calls are made. The record of the
session has the number that comes next, and a smaller one as the one acknowledged last; no number
is acknowledged twice. A reply that names another number than was sent never counts as an
acknowledgement: the number acknowledged last and the configuration stay, nothing but a failure is
told, and if the session for which it was sent is the open one, the failure is counted. -/
theorem heartbeats_numbered (hx : Reachable x) (hf : x.step m = some first) {id : String}
    (hid : first.result = .done (.opened id)) (hy : Run first.state h y) :
    let e := first.state.session.epoch
    (begun e h).map Mark.sequence = List.range (begun e h).length ∧
    (∀ live, y.session.epoch = e → y.session.live = some live →
      live.nextSequence = (begun e h).length ∧
        ∀ n, live.lastAcked = some n → n < (begun e h).length) ∧
    ((acked e h).map Mark.sequence).Nodup ∧
    ∀ {k now reply t b r}, y.step (.resume k now reply) = some t →
      y.calls.waiting? k = some (.beat b) → reply b.request = .ok r → r.sequence ≠ b.sequence →
      (∀ live live', y.session.live = some live → t.state.session.live = some live' →
        live'.lastAcked = live.lastAcked ∧ live'.config = live.config) ∧
      (∀ n d, t.result ≠ .done (.beaten (.acked n d))) ∧
      (∀ event ∈ t.published, event.kind = .heartbeatMissed ∨ event.kind = .sessionDegraded ∨
        event.kind = .sessionLost) ∧
      (y.session.epoch = b.epoch → y.session.state.isEstablished →
        ∃ live, y.session.live = some live ∧ Counts y.session live b.sequence t) := by
  have hnum := numbered_of_run hx hf hid hy
  refine ⟨hnum.sequences, fun live he hl => ?_, hnum.nodup_sequences, ?_⟩
  · obtain ⟨hnext, hlast⟩ := hnum.record he hl
    refine ⟨hnext, fun n hn => ?_⟩
    obtain ⟨p, hp, rfl⟩ := Option.map_eq_some_iff.mp (hlast.symm.trans hn)
    exact hnum.sequence_lt_length (hnum.returned p (List.mem_of_getLast? hp)).1
  · intro k now reply t b r ht hk hr hne
    have hs : Sign.of b.sequence (reply b.request) = .failed := by simp [hr, Sign.of, hne]
    obtain ⟨hkept, hresult, hkinds⟩ := unchanged_of_failed ht hk hs
    refine ⟨hkept, hresult, hkinds, fun he hest => ?_⟩
    have hreach := hy.reachable (.step hx hf)
    obtain ⟨live, hl⟩ := Option.isSome_iff_exists.mp (hreach.isSome_live hest)
    exact ⟨live, hl, (counts_of_failed ht hk he hest hl hs).1⟩

/-- A controller that accepts everything, but acknowledges the same number whatever was sent. -/
def echoing (n : Nat) : (r : Request) → r.Answer
  | .heartbeat _ _ => .ok { sequence := n }
  | r => accepting r

/-- The session of a server that has lost its first session with a heartbeat under way and has been
given the same identifier again: two heartbeats are begun, the late answer to the old one is turned
away, and the newer of the two is acknowledged first. The reply to the other names the wrong number
and is counted. -/
theorem heartbeats_numbered_after_reconnect :
    ∃ x m first id h y, Reachable x ∧ x.step m = some first ∧
      first.result = .done (.opened id) ∧ Run first.state h y ∧ first.state.session.epoch = 2 ∧
      begun 2 h = [⟨5, 0⟩, ⟨6, 1⟩] ∧ acked 2 h = [⟨6, 1⟩] ∧
      (begun 2 h).map Mark.sequence = List.range (begun 2 h).length ∧
      ∃ t live, y.step (.resume 5 0 (echoing 1)) = some t ∧ y.session.live = some live ∧
        Counts y.session live 0 t := by
  let lobby : Session :=
    { host := .named "lobby-1", address := "http://127.0.0.1:12892",
      params := ⟨.ofSeconds 5, 3, 6⟩ }
  let old : Call := .beat ⟨1, "session-1", 0⟩
  have hx : Reachable ⟨{ lobby with state := .connecting, epoch := 2 },
      [none, some old, none, none, some (.connect (.greeting 2))]⟩ :=
    (Since.refl.follow? [.connect, .resume 0 0 accepting, .resume 0 0 accepting, .beat, .disconnect,
      .resume 2 0 accepting, .reset, .connect, .resume 4 0 accepting] rfl).reachable (.new ..)
  have hy : Run ⟨{ lobby with state := .active, epoch := 2, live := some { id := "session-1" } },
      [none, some old, none, none, none]⟩ _ _ :=
    Run.nil.play? [.beat, .beat, .resume 1 0 accepting, .resume 6 0 accepting] rfl
  obtain ⟨hrange, -, -, hwrong⟩ := heartbeats_numbered hx (m := .resume 4 0 accepting) rfl rfl hy
  obtain ⟨-, -, -, hcounted⟩ := @hwrong 5 0 (echoing 1) _ _ _ rfl rfl rfl (by decide)
  obtain ⟨live, hl, hcounts⟩ := hcounted rfl rfl
  exact ⟨_, .resume 4 0 accepting, _, _, _, _, hx, rfl, rfl, hy, rfl, rfl, rfl, hrange, _, live,
    rfl, hl, hcounts⟩

/-! ### The order of acknowledgements -/

/-- The number that an acknowledgement of a section reports is the one of the heartbeat that the
section answers, and the record then has it as the one acknowledged last. -/
theorem sequence_of_acked {k n : Nat} {now : Instant} {reply : (r : Request) → r.Answer} {b : Beat}
    {d : Directive} (ht : x.step (.resume k now reply) = some t)
    (hk : x.calls.waiting? k = some (.beat b)) (hr : t.result = .done (.beaten (.acked n d))) :
    n = b.sequence ∧ ∃ live, t.state.session.live = some live ∧ live.lastAcked = some n := by
  have hc : x.resumed? (.resume k now reply) = some (.beat b) := hk
  have hacked : Entry.acked? b.epoch ⟨x, .resume k now reply, t⟩ = some ⟨k, n⟩ := by
    simp [Entry.acked?, Entry.resumed?, Entry.caller, caller, Tasks.place, Move.resumes?, hr, hc]
  cases numbering_of_step b.epoch ht with
  | begins live he hl hm hr' hl' hb ha => cases hm
  | acks b' live live' he hbe hc' hr' hl hl' hn hn' hb ha =>
    obtain rfl : b = b' := Call.beat.inj (Option.some.inj (hc.symm.trans hc'))
    obtain rfl : n = b.sequence :=
      congrArg Mark.sequence (Option.some.inj (hacked.symm.trans ha))
    exact ⟨rfl, live', hl', hn'⟩
  | neither hr' hl hb ha => cases hacked.symm.trans ha

/-- The acknowledgements of a session have increasing numbers if and only if its heartbeats are
acknowledged in the order in which they were begun. As long as no heartbeat that was begun later
has been acknowledged, every acknowledgement has a greater number than the one before, and a reply
that names a number that is not greater is counted as a failure. -/
theorem acknowledged_in_order (hx : Reachable x) (hf : x.step m = some first) {id : String}
    (hid : first.result = .done (.opened id)) (hy : Run first.state h y) :
    let e := first.state.session.epoch
    (((acked e h).map Mark.sequence).Pairwise (· < ·) ↔
      ((acked e h).map Mark.call).Pairwise (· < ·)) ∧
    ∀ {k now reply t b live}, y.step (.resume k now reply) = some t →
      y.calls.waiting? k = some (.beat b) → b.epoch = e → y.session.epoch = e →
      y.session.state.isEstablished → y.session.live = some live →
      (∀ p ∈ acked e h, p.call < k) →
      (∀ n d, t.result = .done (.beaten (.acked n d)) →
        (∃ live', t.state.session.live = some live' ∧ live'.lastAcked = some n) ∧
          ∀ last, live.lastAcked = some last → last < n) ∧
      (∀ r last, reply b.request = .ok r → live.lastAcked = some last → r.sequence ≤ last →
        Counts y.session live b.sequence t) := by
  intro e
  have hnum := numbered_of_run hx hf hid hy
  refine ⟨?_, fun {k now reply t b live} ht hk hbe he hest hl hlater => ?_⟩
  · simp only [List.pairwise_map]
    constructor
    · refine fun hincreasing => hincreasing.imp_of_mem fun hp hq hlt => ?_
      exact (hnum.sequence_lt_iff (hnum.returned _ hp).1 (hnum.returned _ hq).1).mp hlt
    · refine fun hordered => hordered.imp_of_mem fun hp hq hlt => ?_
      exact (hnum.sequence_lt_iff (hnum.returned _ hp).1 (hnum.returned _ hq).1).mpr hlt
  · have hlast (last : Nat) (hlast : live.lastAcked = some last) : last < b.sequence := by
      obtain ⟨p, hp, rfl⟩ := Option.map_eq_some_iff.mp ((hnum.record he hl).2.symm.trans hlast)
      have hp := List.mem_of_getLast? hp
      exact (hnum.sequence_lt_iff (hnum.returned p hp).1 (hnum.waiting hk hbe)).mpr (hlater p hp)
    refine ⟨fun n d hr => ?_, fun r last hr hl' hle => ?_⟩
    · obtain ⟨rfl, hlive⟩ := sequence_of_acked ht hk hr
      exact ⟨hlive, hlast⟩
    · have hne : r.sequence ≠ b.sequence := Nat.ne_of_lt (Nat.lt_of_le_of_lt hle (hlast last hl'))
      have hs : Sign.of b.sequence (reply b.request) = .failed := by simp [hr, Sign.of, hne]
      exact (counts_of_failed ht hk (he.trans hbe.symm) hest hl hs).1

/-- The manager of a server whose session has been opened, with an attempt that has returned. -/
private def openLobby : Session :=
  { host := .named "lobby-1", address := "http://127.0.0.1:12892", params := ⟨.ofSeconds 5, 3, 6⟩
    state := .active, epoch := 1, live := some { id := "session-1" } }

private theorem reachable_greeting :
    Reachable ⟨{ openLobby with state := .connecting, live := none },
      [some (.connect (.greeting 1))]⟩ :=
  (Since.refl.follow? [.connect, .resume 0 0 accepting] rfl).reachable (.new ..)

/-- Of two heartbeats the first is acknowledged first. The acknowledgement of the second then has a
greater number, and a reply that names the first again is counted as a failure. -/
theorem acknowledged_in_order_of_two :
    ∃ x m first id h y live, Reachable x ∧ x.step m = some first ∧
      first.result = .done (.opened id) ∧ Run first.state h y ∧ first.state.session.epoch = 1 ∧
      acked 1 h = [⟨1, 0⟩] ∧ y.session.live = some live ∧ live.lastAcked = some 0 ∧
      (∃ t, y.step (.resume 2 0 accepting) = some t ∧
        (∃ live', t.state.session.live = some live' ∧ live'.lastAcked = some 1) ∧ 0 < 1) ∧
      ∃ t, y.step (.resume 2 0 (echoing 0)) = some t ∧ Counts y.session live 1 t := by
  have hy : Run ⟨openLobby, [none]⟩ _ _ :=
    Run.nil.play? [.beat, .beat, .resume 1 0 accepting] rfl
  obtain ⟨-, hnext⟩ :=
    acknowledged_in_order reachable_greeting (m := .resume 0 0 accepting) rfl rfl hy
  have hlater (p : Mark) (hp : p ∈ [⟨1, 0⟩]) : p.call < 2 := by
    rw [List.mem_singleton.mp hp]
    decide
  have hacks := @hnext 2 0 accepting _ _ _ rfl rfl rfl rfl rfl rfl hlater
  have hechoes := @hnext 2 0 (echoing 0) _ _ _ rfl rfl rfl rfl rfl rfl hlater
  obtain ⟨hlive, hlt⟩ := hacks.1 1 .continue rfl
  have hcounts := hechoes.2 { sequence := 0 } 0 rfl rfl (Nat.le_refl 0)
  exact ⟨_, .resume 0 0 accepting, _, "session-1", _, _, _, reachable_greeting, rfl, rfl, hy, rfl,
    rfl, rfl, rfl, ⟨_, rfl, hlive, hlt 0 rfl⟩, _, rfl, hcounts⟩

/-- The first of two heartbeats is acknowledged after the second: the number acknowledged last goes
back from one to zero, and the reply, which names a number that is not greater, is not counted as a
failure. -/
theorem acknowledged_out_of_order :
    ∃ y t live live', Reachable y ∧ y.calls.waiting? 1 = some (.beat ⟨1, "session-1", 0⟩) ∧
      y.session.live = some live ∧ live.lastAcked = some 1 ∧
      y.step (.resume 1 0 accepting) = some t ∧ t.result = .done (.beaten (.acked 0 .continue)) ∧
      t.state.session.live = some live' ∧ live'.lastAcked = some 0 ∧ live'.failures = 0 := by
  have hopen : Run ⟨{ openLobby with state := .connecting, live := none },
      [some (.connect (.greeting 1))]⟩ _ _ :=
    Run.nil.play? [.resume 0 0 accepting, .beat, .beat, .resume 2 0 accepting] rfl
  exact ⟨_, _, _, _, hopen.reachable reachable_greeting, rfl, rfl, rfl, rfl, rfl, rfl, rfl, rfl⟩

end Traffic

end FleetAgent.Session
