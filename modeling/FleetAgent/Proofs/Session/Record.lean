import FleetAgent.Proofs.Session.History

/-!
# The record of the open session

A manager should hold the record of a session exactly in the two established states. Every section
keeps this but one: the second section of a shutdown closes the manager in whatever state it finds
it. If another call has closed and reset the manager since the first section, and a session has been
opened again, the shutdown is *belated*: the manager is closed with the record of that session still
in place. The record stays there until another session is opened or taken down.

## Main definitions

* `Session.Recorded`: the record is held exactly in the established states.
* `Session.Traffic.Entry.isBelated`: a shutdown ends in an open session.
* `Session.Traffic.isLeftBehind`: after such an end the record has not been renewed.

## Main results

* `Session.Traffic.Reachable.isSome_live`: the record is never missing.
* `Session.Traffic.recorded_iff_of_step`: what a section means for the record.
* `Session.Traffic.recorded_iff_of_run`, `Session.Traffic.recorded_unless_left_behind`: the record
  is right after every history that has left none behind, and after no other.
* `Session.Traffic.exists_reachable_not_recorded`: a record can be left behind.
-/

namespace FleetAgent.Session

/-- The manager holds the record of a session exactly in the established states. -/
def Recorded (s : Session) : Prop := s.live.isSome ↔ s.state.isEstablished

variable {s s' : Session} {c : Option Call} {d : Bool}

theorem Recorded.live_eq_none (h : s.Recorded) (hs : s.state.isEstablished = false) :
    s.live = none := by
  rw [Recorded, hs] at h
  simpa using h

/-- Outside the established states the record is right if there is none. -/
theorem recorded_iff_of_not_isEstablished (hs : s.state.isEstablished = false) :
    s.Recorded ↔ s.live = none := by
  simp [Recorded, hs]

/-- Every section keeps the record right, but the end of a shutdown in an open session. -/
theorem Shift.recorded (h : Shift s c d s') (hs : s.Recorded)
    (hc : ∀ session, c = some (.disconnect session) → s.state.isEstablished = false) :
    s'.Recorded := by
  cases h with
  | still => exact hs
  | opening hst | refused stage hst | reset hst =>
    have hnone := hs.live_eq_none (by rw [hst]; rfl)
    simp [Recorded, hnone, SessionState.isEstablished]
  | opened => simp [Recorded, SessionState.isEstablished]
  | sent live hst => simp [Recorded, hst]
  | judged b live live' state _ _ _ _ hst => simp [Recorded, hst]
  | lost | closing => simp [Recorded, SessionState.isEstablished]
  | closed session =>
    have hnone := hs.live_eq_none (hc session rfl)
    simp [Recorded, hnone, SessionState.isEstablished]

/-- Taking the session down at once leaves no record. -/
theorem Recorded.disconnect (h : s.Recorded) : s.disconnect.state.Recorded := by
  by_cases hs : s.state = .closed
  · rwa [disconnect_of_closed hs]
  · rw [disconnect_of_ne hs]
    simp [Recorded, SessionState.isEstablished]

/-- Every section keeps a record in the established states. -/
theorem Shift.isSome_live (h : Shift s c d s') (hs : s.state.isEstablished → s.live.isSome) :
    s'.state.isEstablished → s'.live.isSome := by
  cases h with
  | still => exact hs
  | opened | sent | judged => exact fun _ => rfl
  | opening | refused | lost | closing | closed | reset => exact Bool.noConfusion

namespace Traffic

variable {x y : Traffic} {m : Move} {t : Turn Traffic (Progress Call Outcome)} {h : List Entry}
  {a : Entry}

/-- In the established states a record is always held. -/
theorem Reachable.isSome_live (hx : Reachable x) (h : x.session.state.isEstablished) :
    x.session.live.isSome := by
  induction hx with
  | new host address params => cases h
  | step _ ht ih => exact (shift_of_step ht).isSome_live ih h

/-! ### Records that are left behind -/

/-- Whether the section ends a shutdown while a session is open, which must have been opened since
the shutdown began. -/
def Entry.isBelated (a : Entry) : Bool :=
  match a.resumed? with
  | some (.disconnect _) => a.before.session.state.isEstablished
  | _ => false

/-- Whether the section makes a new record, or takes the present one away at the beginning of a
shutdown. -/
def Entry.renews (a : Entry) : Bool :=
  match a.turn.result with
  | .done (.opened _) | .waiting (.disconnect _) => true
  | _ => false

/-- Whether a belated shutdown has left a record behind that has not been renewed since. -/
def isLeftBehind (h : List Entry) : Bool :=
  h.foldl (fun left a => a.isBelated || left && !a.renews) false

theorem isLeftBehind_concat :
    isLeftBehind (h ++ [a]) = (a.isBelated || isLeftBehind h && !a.renews) := by
  simp [isLeftBehind]

/-- The end of a shutdown closes the manager, and leaves its record as it is. -/
theorem session_of_resumed_disconnect {session : Option String} (ht : x.step m = some t)
    (hr : x.resumed? m = some (.disconnect session)) :
    t.state.session = { x.session with state := .closed } ∧ t.result = .done .finished := by
  obtain ⟨u, hu, rfl⟩ := step_eq_some_iff.mp ht
  rw [eq_of_resumed_disconnect hu hr]
  exact ⟨rfl, rfl⟩

/-- A section that does not end a shutdown leaves the record right or wrong, as it was, unless it
renews it. -/
theorem recorded_iff_of_ne (ht : x.step m = some t)
    (hr : ∀ session, x.resumed? m ≠ some (.disconnect session)) :
    t.state.session.Recorded ↔ Entry.renews ⟨x, m, t⟩ ∨ x.session.Recorded := by
  have hkeep (h : x.session.Recorded) : t.state.session.Recorded :=
    (shift_of_step ht).recorded h fun session hs => absurd hs (hr session)
  obtain ⟨u, hu, rfl⟩ := step_eq_some_iff.mp ht
  refine ⟨fun h => ?_, fun h => h.elim (fun hnew => ?_) hkeep⟩
  · -- only outside the established states can the record have been wrong
    by_contra hnot
    obtain ⟨hnew, hwrong⟩ := not_or.mp hnot
    have hd := deed_of_section? hu
    generalize x.resumed? m = c at hd hr
    cases hd with
    | declined | dialed | idle => exact hwrong h
    | opening hst | refused stage cause he hst | reset hst =>
      have hest : x.session.state.isEstablished = false := by rw [hst]; rfl
      exact hwrong ((recorded_iff_of_not_isEstablished hest).mpr (h.live_eq_none rfl))
    | opened | closing => simp [Entry.renews] at hnew
    | sent live hst hl | judged b live he hst hl => simp [Recorded, hst, hl] at hwrong
    | closed session => exact hr session rfl
  · have hd := deed_of_section? hu
    generalize x.resumed? m = c at hd
    cases hd with
    | opened | closing => simp [Recorded, SessionState.isEstablished]
    | @judged k now reply b live r =>
      cases hres : r.result <;> simp [Entry.renews, Turn.map, hres, Outcome.ofBeat] at hnew
    | declined | opening | dialed | refused | sent | idle | closed | reset =>
      simp [Entry.renews, declined] at hnew

/-- What a section means for the record: it is right afterwards if it was so before or is renewed,
unless the section is the end of a belated shutdown. -/
theorem recorded_iff_of_step (ht : x.step m = some t)
    (hlive : x.session.state.isEstablished → x.session.live.isSome) :
    t.state.session.Recorded ↔ Entry.isBelated ⟨x, m, t⟩ = false ∧
      (Entry.renews ⟨x, m, t⟩ ∨ x.session.Recorded) := by
  by_cases hr : ∃ session, x.resumed? m = some (.disconnect session)
  · obtain ⟨session, hr⟩ := hr
    obtain ⟨hs, hres⟩ := session_of_resumed_disconnect ht hr
    have hrenews : Entry.renews ⟨x, m, t⟩ = false := by simp [Entry.renews, hres]
    have hbelated : Entry.isBelated ⟨x, m, t⟩ = x.session.state.isEstablished := by
      simp [Entry.isBelated, Entry.resumed?, hr]
    rw [hs, recorded_iff_of_not_isEstablished rfl, hrenews, hbelated]
    cases hest : x.session.state.isEstablished with
    | true =>
      obtain ⟨live, hl⟩ := Option.isSome_iff_exists.mp (hlive hest)
      simp [hl]
    | false => simp [recorded_iff_of_not_isEstablished hest]
  · have hr := not_exists.mp hr
    have hbelated : Entry.isBelated ⟨x, m, t⟩ = false := by
      rw [Entry.isBelated]
      split
      · exact absurd ‹_› (hr _)
      · rfl
    rw [recorded_iff_of_ne ht hr, hbelated]
    simp

/-- The record is right after a history that has left none behind, and after no other. -/
theorem recorded_iff_of_run {host : Host} {address : String} {params : SessionParams}
    (hy : Run { session := { host, address, params } } h y) :
    y.session.Recorded ↔ isLeftBehind h = false := by
  induction hy with
  | nil => simp [Recorded, SessionState.isEstablished, isLeftBehind]
  | snoc hy ht ih =>
    have hlive := (hy.reachable (.new host address params)).isSome_live
    rw [recorded_iff_of_step ht hlive, isLeftBehind_concat, ih]
    simp only [Bool.or_eq_false_iff, Bool.and_eq_false_iff, Bool.not_eq_false', or_comm]

/-- A manager holds the record of a session exactly while the session is active or degraded, unless
a belated shutdown has left a record behind: then it holds that one in a state that is not
established, until another session is opened or taken down. -/
theorem recorded_unless_left_behind {host : Host} {address : String} {params : SessionParams}
    (hy : Run { session := { host, address, params } } h y) :
    (isLeftBehind h = false →
      (y.session.live.isSome ↔ y.session.state = .active ∨ y.session.state = .degraded)) ∧
    (isLeftBehind h →
      y.session.live.isSome ∧ y.session.state ≠ .active ∧ y.session.state ≠ .degraded) := by
  have hest : y.session.state.isEstablished ↔
      y.session.state = .active ∨ y.session.state = .degraded := by
    cases y.session.state <;> simp [SessionState.isEstablished]
  rw [← not_or, ← hest]
  refine ⟨(recorded_iff_of_run hy).mpr, fun hleft => ?_⟩
  have hwrong : ¬ y.session.Recorded := by simp [recorded_iff_of_run hy, hleft]
  have hlive := (hy.reachable (.new host address params)).isSome_live
  by_cases hs : y.session.state.isEstablished
  · exact absurd (iff_of_true (hlive hs) hs) hwrong
  · refine ⟨?_, hs⟩
    by_contra hnone
    exact hwrong (iff_of_false hnone hs)

/-- A new manager. -/
private def newLobby :
    Session := { host := .named "lobby-1", address := "", params := ⟨.zero, 1, 2⟩ }

/-- A record that was left behind is still there while the next session is being opened, and the new
one takes its place. -/
theorem recorded_after_belated_shutdown :
    ∃ h y h' y', Run { session := newLobby } h y ∧ isLeftBehind h ∧ y.session.state = .connecting ∧
      (y.session.live.isSome ∧ y.session.state ≠ .active ∧ y.session.state ≠ .degraded) ∧
      Run { session := newLobby } (h ++ h') y' ∧ isLeftBehind (h ++ h') = false ∧
      y'.session.state = .active ∧
      (y'.session.live.isSome ↔ y'.session.state = .active ∨ y'.session.state = .degraded) := by
  have hleft : Run { session := newLobby } _ _ :=
    Run.nil.play? [.disconnect, .disconnect, .resume 1 0 accepting, .reset, .connect,
      .resume 3 0 accepting, .resume 3 0 accepting, .resume 0 0 accepting, .reset, .connect,
      .resume 5 0 accepting] rfl
  have hright : Run { session := newLobby } _ _ := hleft.snoc (m := .resume 5 0 accepting) rfl
  exact ⟨_, _, _, _, hleft, rfl, rfl, (recorded_unless_left_behind hleft).2 rfl, hright, rfl, rfl,
    (recorded_unless_left_behind hright).1 rfl⟩

/-- A shutdown is overtaken between its sections by another shutdown, a reset and a new attempt that
is accepted; its end closes the manager and leaves the record of the new session. -/
theorem exists_reachable_not_recorded :
    ∃ x, Reachable x ∧ x.session.state = .closed ∧ x.session.live = some { id := "session-1" } ∧
      ¬ x.session.Recorded := by
  have hrun : Run { session := newLobby } _ _ :=
    Run.nil.play? [.disconnect, .disconnect, .resume 1 0 accepting, .reset, .connect,
      .resume 3 0 accepting, .resume 3 0 accepting, .resume 0 0 accepting] rfl
  refine ⟨_, hrun.reachable (.new ..), rfl, rfl, fun h => ?_⟩
  exact absurd (h.mp rfl) Bool.false_ne_true

end Traffic

end FleetAgent.Session
