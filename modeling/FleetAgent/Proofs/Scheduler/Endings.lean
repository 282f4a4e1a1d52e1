import FleetAgent.Proofs.Scheduler.Restart
import FleetAgent.Proofs.Scheduler.Senders
import FleetAgent.Proofs.Session.History

/-!
# The end of a loop

Whether a loop ends is decided between heartbeats, when it sees that it is told to end, or by the
outcome of a heartbeat: the order to end and an error end it, whatever it has been told meanwhile,
and no other outcome does. In the section in which it ends a loop tells of its end in one event, and
after a heartbeat it offers one termination notice to the queue. In all its other sections it tells
nothing and leaves the queue alone. What becomes of the notice makes no difference to the loop, nor
to a later start.

A *history* lists the sections of a scheduler. Others may use the queue of the notices as well, so
in a history each section finds it in any state.

## Main definitions

* `Effect.offer?`: what an effect tells of a notice that was offered.
* `Scheduler.Traffic.Entry`, `Scheduler.Traffic.History`: the sections that have taken place.
* `Scheduler.Traffic.Entry.Leaves`: a section in which a loop ends.
* `Scheduler.Traffic.Entry.Tells`, `Scheduler.Traffic.Entry.IsQuiet`: what a section tells.
* `Scheduler.Traffic.HasLeft`, `Scheduler.Traffic.IsSilent`: what a loop has told in a history.

## Main results

* `Scheduler.Traffic.comes_of_loop`: a section of a loop is quiet, or the loop ends in it.
* `Scheduler.Traffic.History.told`: a loop that has ended has told of it in one section.
* `Scheduler.Traffic.leaves_once`: how loops end.
-/

namespace FleetAgent

/-- What became of a termination notice that was offered, if the effect tells of one. -/
def Effect.offer? : Effect → Option Offer
  | .signal .notice => some .sent
  | .log r =>
    if r.message = "termination notice dropped, host is not draining notices" then some .full
    else if r.message = "no host listening for termination notices" then some .closed
    else none
  | _ => none

/-- The reason that a loop tells when it ends with a notice, or without one. -/
def Termination.reason : Option Termination → String
  | none => "stopped"
  | some .requested => "terminate requested"
  | some (.lost _) => "session lost"

/-- How a loop ends that leaves a notice, or none. -/
def Ending.of : Option Termination → Ending
  | none => .stopped
  | some t => t.ending

theorem Ending.of_ne_broken (notice : Option Termination) : of notice ≠ .broken := by
  rcases notice with _ | _ | _ <;> nofun

/-- The reason says whether there is a notice. -/
theorem Termination.reason_eq_stopped_iff (notice : Option Termination) :
    reason notice = "stopped" ↔ notice = none := by
  rcases notice with _ | _ | _ <;> simp [reason]

/-- The outcomes of a heartbeat that end its loop. -/
theorem Termination.of?_ne_none_iff {outcome : Except SessionError BeatOutcome} :
    of? outcome ≠ none ↔
      (∃ n, outcome = .ok (.acked n .terminate)) ∨ ∃ e, outcome = .error e := by
  rcases outcome with e | ⟨n, _ | _⟩ | _ <;> simp [of?]

namespace Scheduler

/-- Whether the loop of the number has been started and has ended. -/
def IsOver (s : Scheduler) (k : Nat) : Prop := ∃ how, s.phase? k = some (.ended how)

variable {s s' : Scheduler} {b : Bool} {k : Nat} {l : Loop} {q : NoticeQueue} {t : Termination}
  {outcome : Except SessionError BeatOutcome} {how : Ending}

theorem hasEnded_iff_isOver (hk : k < s.loops.length) : s.hasEnded k = true ↔ s.IsOver k := by
  rw [IsOver, phase?, hasEnded, List.getElem?_eq_getElem hk]
  cases h : s.loops[k].phase <;> simp [Loop.hasEnded, h]

theorem not_isOver_of_phase (hl : s.loops[k]? = some l) (hp : ∀ how, l.phase ≠ .ended how) :
    ¬ s.IsOver k := by
  rintro ⟨how, h⟩
  exact hp how (by simpa [phase?, hl] using h)

/-- A loop that is over after a section was there before it. -/
theorem Change.exists_loop (hc : Change s b s') (h : s'.phase? k = some (.ended how)) :
    ∃ l, s.loops[k]? = some l := by
  obtain ⟨l', hl', hp⟩ := Option.map_eq_some_iff.mp h
  cases hc with
  | still => exact ⟨l', hl'⟩
  | started =>
    by_cases hk : k = s.loops.length
    · subst hk
      obtain rfl : (⟨.queued s.slot, false⟩ : Loop) = l' := by simpa using hl'
      cases hp
    · exact ⟨l', (getElem?_started hk _).symm.trans hl'⟩
  | told j slot =>
    obtain ⟨l, hl, -⟩ := Option.map_eq_some_iff.mp (getElem?_cancelLoop.symm.trans hl')
    exact ⟨l, hl⟩
  | moved j l₀ l₁ inFlight hl₀ =>
    have hl' : (s.setLoop j l₁).loops[k]? = some l' := hl'
    rw [getElem?_setLoop hl₀] at hl'
    split_ifs at hl' with hkj
    · exact ⟨l₀, hkj ▸ hl₀⟩
    · exact ⟨l', hl'⟩

/-! ### What a loop tells at its end -/

theorem published_terminate (s : Scheduler) (q : NoticeQueue) (k : Nat) (t : Termination) :
    (s.terminate q k t).published = [s.stoppedEvent (Termination.reason (some t))] := by
  cases t with
  | requested =>
    simp only [terminate]
    cases (q.offer .requested).1 <;> rfl
  | lost e =>
    simp only [terminate]
    cases (q.offer (.lost e)).1 <;> rfl

theorem offers_terminate (s : Scheduler) (q : NoticeQueue) (k : Nat) (t : Termination) :
    (s.terminate q k t).effects.filterMap Effect.offer? = [(q.offer t).1] := by
  cases t with
  | requested =>
    simp only [terminate]
    cases (q.offer .requested).1 <;> simp [Effect.offer?]
  | lost e =>
    simp only [terminate]
    cases (q.offer (.lost e)).1 <;> simp [Effect.offer?]

theorem finishBeat_eq_terminate (s : Scheduler) (q : NoticeQueue) (k : Nat)
    (h : Termination.of? outcome = some t) :
    s.finishBeat q k outcome = { s with inFlight := false }.terminate q k t := by
  rcases outcome with e | ⟨n, _ | _⟩ | _
  · obtain rfl := Option.some.inj h
    rfl
  · cases h
  · obtain rfl := Option.some.inj h
    rfl
  · cases h

/-- What a loop is doing after a heartbeat: whether it has ended does not depend on the queue. -/
theorem phase?_finishBeat (hk : s.IsBeating k) (q : NoticeQueue)
    (outcome : Except SessionError BeatOutcome) (how : Ending) :
    (s.finishBeat q k outcome).state.1.phase? k = some (.ended how) ↔
      ∃ t, Termination.of? outcome = some t ∧ t.ending = how := by
  obtain ⟨ticker, c, hl⟩ := hk.exists_loop
  have hphase (l' : Loop) :
      ({ s.setLoop k l' with inFlight := false } : Scheduler).phase? k = some l'.phase :=
    (phase?_setLoop hl).trans (if_pos rfl)
  cases ht : Termination.of? outcome with
  | none =>
    rw [finishBeat_of_none hl ht]
    exact iff_of_false (fun h => by cases (hphase _).symm.trans h) (by simp)
  | some t =>
    rw [(finishBeat_of_some hl ht).1, hphase]
    simp

/-! ### Histories -/

namespace Traffic

/-- A section that has taken place. -/
structure Entry where
  /-- The scheduler before the section, with the queue as the section finds it. -/
  before : Traffic
  /-- The move that was made. -/
  move : Move

/-- What the section came to. -/
def Entry.turn (a : Entry) : Turn Traffic Unit := a.before.turn a.move

/-- The histories of a new scheduler, and what it comes to by them. Every section finds the queue of
the notices in any state. -/
inductive History : List Entry → Scheduler → Prop
  | new (heart : String) (period : Duration) : History [] (.make heart period)
  | snoc {h : List Entry} {s : Scheduler} {m : Move} (hs : History h s) (q : NoticeQueue)
      (hm : Possible ⟨s, q⟩ m) : History (h ++ [⟨⟨s, q⟩, m⟩]) (turn ⟨s, q⟩ m).state.scheduler

namespace Entry

variable {a : Entry} {notice : Option Termination}

/-- Whether the section is a start that creates the loop of the number. -/
def Creates (a : Entry) (k : Nat) : Prop :=
  a.move = .start ∧ a.before.scheduler.start.result = true ∧ a.before.scheduler.loops.length = k

/-- Whether the section is one of the loop of the number. -/
def IsOf (a : Entry) (k : Nat) : Prop := a.move.loop? = some k

/-- Whether the loop of the number ends in the section, and with which notice. It sees that it is
told to end while it waits for a tick, or its heartbeat brings the order to end or an error. -/
inductive Leaves (a : Entry) (k : Nat) : Option Termination → Prop
  | stopped (now : Instant) (ticker : Ticker) (hm : a.move = .advance k now)
      (hl : a.before.scheduler.loops[k]? = some ⟨.ticking ticker, true⟩) : Leaves a k none
  | requested (n : Nat) (hm : a.move = .finishBeat k (.ok (.acked n .terminate)))
      (hk : a.before.scheduler.IsBeating k) : Leaves a k (some .requested)
  | lost (e : SessionError) (hm : a.move = .finishBeat k (.error e))
      (hk : a.before.scheduler.IsBeating k) : Leaves a k (some (.lost e))

/-- The section tells of the end of a loop in one event, and offers the notice to the queue once, if
there is one. -/
structure Tells (a : Entry) (notice : Option Termination) : Prop where
  published : a.turn.published = [a.before.scheduler.stoppedEvent (Termination.reason notice)]
  offers : a.turn.effects.filterMap Effect.offer? =
    (notice.map fun t => (a.before.notices.offer t).1).toList
  notices : a.turn.state.notices =
    (notice.map fun t => (a.before.notices.offer t).2).getD a.before.notices

/-- Whether the section has no effects and leaves the queue alone. -/
def IsQuiet (a : Entry) : Prop := a.turn.effects = [] ∧ a.turn.state.notices = a.before.notices

/-- A loop ends without a notice exactly in a section outside its heartbeats. -/
theorem Leaves.eq_none_iff (h : a.Leaves k notice) :
    notice = none ↔ ∃ now, a.move = .advance k now := by
  cases h with
  | stopped now ticker hm => exact iff_of_true rfl ⟨now, hm⟩
  | requested n hm | lost e hm => exact iff_of_false nofun fun ⟨_, h⟩ => by cases hm.symm.trans h

theorem Tells.published_stopped_iff (h : a.Tells notice) :
    a.turn.published = [a.before.scheduler.stoppedEvent "stopped"] ↔ notice = none := by
  rw [h.published, ← Termination.reason_eq_stopped_iff]
  simp [stoppedEvent, Event.withReason]

theorem Tells.offers_nil_iff (h : a.Tells notice) :
    a.turn.effects.filterMap Effect.offer? = [] ↔ notice = none := by
  rw [h.offers]
  simp

end Entry

variable {x : Traffic} {m : Move} {h : List Entry}

/-- What a section of a loop may come to: it is quiet and does not end the loop, or the loop ends in
it and tells of its end. -/
def Comes (x : Traffic) (m : Move) (k : Nat) : Prop :=
  (Entry.IsQuiet ⟨x, m⟩ ∧ ∀ how, (x.turn m).state.scheduler.phase? k = some (.ended how) ↔
      x.scheduler.phase? k = some (.ended how)) ∨
    (¬ x.scheduler.IsOver k ∧ ∃ notice, Entry.Leaves ⟨x, m⟩ k notice ∧ Entry.Tells ⟨x, m⟩ notice ∧
      (x.turn m).state.scheduler.phase? k = some (.ended (.of notice)))

/-- The sections of a loop outside its heartbeats. -/
theorem comes_advance (x : Traffic) (k : Nat) (now : Instant) : x.Comes (.advance k now) k := by
  obtain ⟨s, q⟩ := x
  have hquiet {s' : Scheduler} {move : LoopMove}
      (h : s.advance k now = { state := s', result := move })
      (hphase : ∀ how, s'.phase? k = some (.ended how) ↔ s.phase? k = some (.ended how)) :
      Comes ⟨s, q⟩ (.advance k now) k := by
    refine .inl ⟨⟨?_, rfl⟩, fun how => ?_⟩
    · simp [Entry.turn, turn, onScheduler, h]
    · simpa [turn, onScheduler, h] using hphase how
  cases hl : s.loops[k]? with
  | none => exact hquiet (by simp only [advance, hl]; rfl) fun _ => .rfl
  | some l =>
    obtain ⟨phase, c⟩ := l
    have hset (l' : Loop) (hp : ∀ how, phase ≠ .ended how) (hp' : ∀ how, l'.phase ≠ .ended how)
        (how : Ending) :
        (s.setLoop k l').phase? k = some (.ended how) ↔ s.phase? k = some (.ended how) := by
      rw [phase?_setLoop hl, if_pos rfl, phase?, hl]
      simp [hp, hp']
    cases phase with
    | queued previous =>
      cases h : previous.all s.hasEnded with
      | true => exact hquiet (advance_of_queued hl h) (hset _ (by simp) (by simp))
      | false => exact hquiet (advance_of_waiting hl h) fun _ => .rfl
    | ticking ticker =>
      cases c with
      | true =>
        refine .inr ⟨not_isOver_of_phase hl (by simp), none, .stopped now ticker rfl hl, ?_, ?_⟩
        · constructor <;>
            simp [Entry.turn, turn, onScheduler, advance_of_cancelled hl, Turn.published,
              Effect.published?, Effect.offer?, Termination.reason]
        · simp [turn, onScheduler, advance_of_cancelled hl, phase?_setLoop hl, Ending.of]
      | false =>
        cases h : ticker.isDue now with
        | true =>
          exact hquiet (advance_of_due hl h) (hset ⟨_, _⟩ (by simp) (by simp))
        | false => exact hquiet (advance_of_early hl h) fun _ => .rfl
    | beating ticker | ended how => exact hquiet (by simp only [advance, hl]; rfl) fun _ => .rfl

/-- The section after a heartbeat with which the loop goes on. -/
theorem comes_of_none (hk : x.scheduler.IsBeating k) (ht : Termination.of? outcome = none) :
    x.Comes (.finishBeat k outcome) k := by
  have hphase := phase?_finishBeat hk x.notices outcome
  obtain ⟨ticker, c, hl⟩ := hk.exists_loop
  refine .inl ⟨⟨?_, ?_⟩, fun how => (hphase how).trans (iff_of_false (by simp [ht]) ?_)⟩
  · simp [Entry.turn, turn, finishBeat_of_none hl ht]
  · simp [Entry.turn, turn, finishBeat_of_none hl ht]
  · simp [phase?, hl]

/-- The section after a heartbeat with which the loop ends. -/
theorem comes_of_some (hk : x.scheduler.IsBeating k) (ht : Termination.of? outcome = some t)
    (hleaves : Entry.Leaves ⟨x, .finishBeat k outcome⟩ k (some t)) :
    x.Comes (.finishBeat k outcome) k := by
  have hphase := (phase?_finishBeat hk x.notices outcome t.ending).mpr ⟨t, ht, rfl⟩
  obtain ⟨ticker, c, hl⟩ := hk.exists_loop
  have heq := finishBeat_eq_terminate x.scheduler x.notices k ht
  refine .inr ⟨not_isOver_of_phase hl (by simp), some t, hleaves, ⟨?_, ?_, ?_⟩, hphase⟩
  · exact (congrArg Turn.published heq).trans (published_terminate _ _ _ _)
  · exact (congrArg (·.effects.filterMap Effect.offer?) heq).trans (offers_terminate _ _ _ _)
  · exact congrArg Prod.snd (finishBeat_of_some hl ht).1

/-- The section of a loop after a heartbeat. -/
theorem comes_finishBeat (hk : x.scheduler.IsBeating k)
    (outcome : Except SessionError BeatOutcome) :
    x.Comes (.finishBeat k outcome) k := by
  rcases outcome with e | ⟨n, _ | _⟩ | _
  · exact comes_of_some hk rfl (.lost e rfl hk)
  · exact comes_of_none hk rfl
  · exact comes_of_some hk rfl (.requested n rfl hk)
  · exact comes_of_none hk rfl

/-- A section of a loop is quiet and does not end the loop, or the loop ends in it and tells of its
end, unless its heart breaks down. -/
theorem comes_of_loop (hm : x.Possible m) (hk : m.loop? = some k) (hsound : m ≠ .breakDown k) :
    x.Comes m k := by
  cases m with
  | advance j now =>
    obtain rfl := Option.some.inj hk
    exact comes_advance x j now
  | finishBeat j outcome =>
    obtain rfl := Option.some.inj hk
    exact comes_finishBeat hm outcome
  | breakDown j =>
    obtain rfl := Option.some.inj hk
    exact absurd rfl hsound
  | start | stop | join | take | close => cases hk

/-- The sections of others neither end a loop nor bring one back. -/
theorem phase?_of_other (hm : x.Possible m) (hk : m.loop? ≠ some k) :
    (x.turn m).state.scheduler.phase? k = some (.ended how) ↔
      x.scheduler.phase? k = some (.ended how) := by
  constructor
  · intro h
    obtain ⟨l, hl⟩ := (change_turn hm).exists_loop h
    exact (phase?_turn hl hk).symm.trans h
  · intro h
    obtain ⟨l, hl, -⟩ := Option.map_eq_some_iff.mp h
    exact (phase?_turn hl hk).trans h

/-! ### What a loop has told -/

/-- In the history the loop has ended in one of its sections, and has told of its end there; in all
its other sections it was quiet. -/
def HasLeft (h : List Entry) (k : Nat) : Prop :=
  ∃ before a after notice, h = before ++ a :: after ∧ a.Leaves k notice ∧ a.Tells notice ∧
    ∀ b ∈ before ++ after, b.IsOf k → b.IsQuiet

/-- In the history the loop was quiet in all its sections. -/
def IsSilent (h : List Entry) (k : Nat) : Prop := ∀ b ∈ h, b.IsOf k → b.IsQuiet

theorem IsSilent.snoc (hh : IsSilent h k) {a : Entry} (ha : a.IsOf k → a.IsQuiet) :
    IsSilent (h ++ [a]) k := by
  intro b hb hk
  rcases List.mem_append.mp hb with hb | hb
  · exact hh b hb hk
  · obtain rfl := List.mem_singleton.mp hb
    exact ha hk

theorem HasLeft.snoc (hh : HasLeft h k) {a : Entry} (ha : a.IsOf k → a.IsQuiet) :
    HasLeft (h ++ [a]) k := by
  obtain ⟨before, a₀, after, notice, rfl, hleaves, htells, hquiet⟩ := hh
  refine ⟨before, a₀, after ++ [a], notice, by simp, hleaves, htells, ?_⟩
  rw [← List.append_assoc]
  exact IsSilent.snoc hquiet ha

/-- A loop that is over has left, in a way that is not a breakdown; one that is not was quiet so
far. -/
theorem History.told (hs : History h s) (hsound : ∀ a ∈ h, a.move ≠ .breakDown k) :
    (∀ how, s.phase? k = some (.ended how) → HasLeft h k ∧ how ≠ .broken) ∧
      (¬ s.IsOver k → IsSilent h k) := by
  induction hs with
  | new heart period =>
    exact ⟨fun how hp => by simp [phase?, make] at hp, fun _ => by simp [IsSilent]⟩
  | @snoc h s m hs q hm ih =>
    obtain ⟨hleft, hsilent⟩ := ih fun a ha => hsound a (List.mem_append_left _ ha)
    generalize ha : (⟨⟨s, q⟩, m⟩ : Entry) = a
    have hquiet (hq : a.IsOf k → a.IsQuiet)
        (hphase : ∀ how, (turn ⟨s, q⟩ m).state.scheduler.phase? k = some (.ended how) ↔
          s.phase? k = some (.ended how)) :
        (∀ how, (turn ⟨s, q⟩ m).state.scheduler.phase? k = some (.ended how) →
            HasLeft (h ++ [a]) k ∧ how ≠ .broken) ∧
          (¬ (turn ⟨s, q⟩ m).state.scheduler.IsOver k → IsSilent (h ++ [a]) k) := by
      refine ⟨fun how hp => ?_, fun hnot => ?_⟩
      · obtain ⟨hleft, hne⟩ := hleft how ((hphase how).mp hp)
        exact ⟨hleft.snoc hq, hne⟩
      · refine (hsilent ?_).snoc hq
        rintro ⟨how, hp⟩
        exact hnot ⟨how, (hphase how).mpr hp⟩
    by_cases hk : m.loop? = some k
    · rcases comes_of_loop hm hk (hsound ⟨⟨s, q⟩, m⟩ (by simp)) with
        ⟨hq, hphase⟩ | ⟨hnot, notice, hleaves, htells, hphase⟩
      · exact hquiet (fun _ => ha ▸ hq) hphase
      · rw [ha] at hleaves htells
        refine ⟨fun how hp => ⟨⟨h, a, [], notice, rfl, hleaves, htells, ?_⟩, ?_⟩,
          fun hnot' => absurd ⟨_, hphase⟩ hnot'⟩
        · rw [List.append_nil]
          exact hsilent hnot
        · obtain rfl := LoopPhase.ended.inj (Option.some.inj (hphase.symm.trans hp))
          exact Ending.of_ne_broken notice
    · subst ha
      exact hquiet (fun h => absurd h hk) fun how => phase?_of_other hm hk

theorem History.sealed (hs : History h s) : s.Sealed := by
  induction hs with
  | new heart period => exact sealed_make heart period
  | snoc _ q hm ih => exact (change_turn hm).sealed ih

/-- A loop that a start has created is there from then on. -/
theorem History.lt_length (hs : History h s) (hstart : ∃ a ∈ h, a.Creates k) :
    k < s.loops.length := by
  induction hs with
  | new => simp at hstart
  | @snoc h s m hs q hm ih =>
    obtain ⟨a, ha, hcreates⟩ := hstart
    rcases List.mem_append.mp ha with ha | ha
    · exact Nat.lt_of_lt_of_le (ih ⟨a, ha, hcreates⟩) (change_turn hm).length_le
    · obtain rfl := List.mem_singleton.mp ha
      obtain ⟨rfl, hresult, rfl⟩ := hcreates
      change s.loops.length < s.start.state.loops.length
      simp [(starts_of_result hresult).loops]

/-- How the loop ends that a start has created, if its heart does not break down. Once it has ended,
it has told of that in one section, in one event, and it has offered a termination notice once or
not at all; before, it has told nothing. The event says that it was stopped, and no notice is
offered, exactly if the loop saw that it was told to end outside a heartbeat. Otherwise the end came
with a heartbeat: with the order to end or an error, whatever the queue was like, and with no other
outcome. When it has ended and no other loop is the present one, a start creates the next one. -/
theorem leaves_once (hs : History h s) (hstart : ∃ a ∈ h, a.Creates k)
    (hsound : ∀ a ∈ h, a.move ≠ .breakDown k) :
    (s.hasEnded k = true → HasLeft h k) ∧ (s.hasEnded k = false → IsSilent h k) ∧
    (∀ a ∈ h, ∀ notice, a.Leaves k notice → a.Tells notice →
      (a.turn.published = [a.before.scheduler.stoppedEvent "stopped"] ↔
        ∃ now, a.move = .advance k now) ∧
      (a.turn.effects.filterMap Effect.offer? = [] ↔ ∃ now, a.move = .advance k now)) ∧
    (s.IsBeating k → ∀ q outcome, (s.finishBeat q k outcome).state.1.hasEnded k = true ↔
      (∃ n, outcome = .ok (.acked n .terminate)) ∨ ∃ e, outcome = .error e) ∧
    ((∀ j, s.slot = some j → j = k) → s.hasEnded k = true → s.Starts s.start) := by
  have hlt := hs.lt_length hstart
  obtain ⟨hleft, hsilent⟩ := hs.told hsound
  refine ⟨fun hend => ?_, fun hend => hsilent ?_, fun a ha notice hleaves htells => ?_,
    fun hk q outcome => ?_, fun hslot hend => ?_⟩
  · obtain ⟨how, hp⟩ := (hasEnded_iff_isOver hlt).mp hend
    exact (hleft how hp).1
  · rw [← hasEnded_iff_isOver hlt, hend]
    exact Bool.noConfusion
  · exact ⟨htells.published_stopped_iff.trans hleaves.eq_none_iff,
      htells.offers_nil_iff.trans hleaves.eq_none_iff⟩
  · have hlen : k < (s.finishBeat q k outcome).state.1.loops.length := by
      rw [(sameLoops_finishBeat s q k outcome).2]
      exact hlt
    rw [hasEnded_iff_isOver hlen, ← Termination.of?_ne_none_iff, IsOver]
    simp only [phase?_finishBeat hk]
    cases Termination.of? outcome <;> simp
  · refine start_of_hasEnded hs.sealed ?_ fun j hj => ?_
    · rintro ⟨j, hj, hl⟩
      obtain rfl := hslot j hj
      exact (hleft .broken (by simp [phase?, hl])).2 rfl
    · obtain rfl := hslot j hj
      exact hend

/-- A loop is told to end while its heartbeat goes on, and the heartbeat fails when the queue is
full. The loop has told of the loss, its notice has been dropped, and the next loop can be
started. -/
theorem left_by_loss :
    ∃ h s, History h s ∧ (∃ a ∈ h, a.Creates 0) ∧ (∀ a ∈ h, a.move ≠ .breakDown 0) ∧
      s.hasEnded 0 = true ∧ HasLeft h 0 ∧
      (∃ a ∈ h, a.turn.effects.filterMap Effect.offer? = [.full]) ∧ s.Starts s.start := by
  let lost : Move := .finishBeat 0 (.error (.lost "session" "gone"))
  have h₀ := History.new "session" (.ofSeconds 1)
  have h₁ := h₀.snoc { capacity := 1 } (m := .start) trivial
  have h₂ := h₁.snoc { capacity := 1 } (m := .advance 0 0) trivial
  have h₃ := h₂.snoc { capacity := 1 } (m := .advance 0 0) trivial
  have h₄ := h₃.snoc { capacity := 1 } (m := .stop) trivial
  have h := h₄.snoc { capacity := 1, waiting := [.requested] } (m := lost) ⟨_, rfl⟩
  obtain ⟨hleft, -, -, -, hnext⟩ :=
    leaves_once h ⟨_, List.mem_cons_self, rfl, rfl, rfl⟩ (by simp [lost])
  exact ⟨_, _, h, ⟨_, List.mem_cons_self, rfl, rfl, rfl⟩, by simp [lost], rfl, hleft rfl,
    ⟨_, List.mem_append_right _ (List.mem_singleton_self _), by decide +kernel⟩,
    hnext (fun j hj => (Option.some.inj hj).symm) rfl⟩

end Traffic

end Scheduler

end FleetAgent
