import FleetAgent.Proofs.Agent.Readiness

/-!
# Attempts to open a session

The session manager is connecting while an attempt to open a session waits for the controller: that
of a call that connects or loads, or that of a recovery. Its epoch tells the attempts apart, and the
answer to the attempt takes the manager out of the state. Nobody does so for an attempt that is
given up: if the host abandons the call, or a shutdown ends the call that runs while its recovery
waits, the manager stays connecting and refuses every further attempt, until the session is taken
down.

## Main definitions

* `Agent.attempt?`, `Agent.Traffic.attempt?`: the epoch of the attempt for which an activity, or the
  task of a number, waits.
* `Agent.Traffic.Entry.dropped?`: the attempt that is given up in a section.
* `Agent.Steers`: what a section does to the session manager and to the attempt of its task.

## Main results

* `Agent.Traffic.steers_of_step`: every section does one of these things.
* `Agent.Traffic.History.tracked`: where the attempts of an agent are.
* `Agent.Traffic.attempted_of_connecting`: the manager is connecting for an attempt that waits,
  unless that attempt was given up; then it stays connecting.
-/

namespace FleetAgent

namespace Session

variable {s s' : Session}

/-- What a section makes of the session manager that belongs to no attempt and does not begin one:
at most it takes the session down. -/
structure Aside (s s' : Session) : Prop where
  epoch : s'.epoch = s.epoch
  stays : s.state = .connecting → s'.state = .connecting ∨ s'.state = .closed
  connecting : s'.state = .connecting → s.state = .connecting

theorem Aside.of_eq (h : s' = s) : s.Aside s' := by
  subst h
  exact ⟨rfl, .inl, id⟩

theorem aside_disconnect (s : Session) : s.Aside s.disconnect.state := by
  by_cases h : s.state = .closed
  · rw [disconnect_of_closed h]
    exact .of_eq rfl
  · rw [disconnect_of_ne h]
    exact ⟨rfl, fun _ => .inr rfl, nofun⟩

theorem aside_reset (s : Session) : s.Aside s.reset.state := by
  by_cases h : s.state = .closed
  · rw [reset_of_closed h]
    exact ⟨rfl, fun hs => absurd (h.symm.trans hs) nofun, nofun⟩
  · rw [reset_of_ne h]
    exact .of_eq rfl

theorem aside_beginBeat (s : Session) : s.Aside s.beginBeat.state := by
  cases h : s.established? with
  | none => exact .of_eq (by rw [beginBeat_of_none h])
  | some live =>
    rw [beginBeat_of_established h]
    exact ⟨rfl, .inl, id⟩

theorem Shift.aside {b : Beat} {displaced : Bool} (h : Shift s (some (.beat b)) displaced s') :
    s.Aside s' := by
  have hne (hest : s.state.isEstablished) : s.state ≠ .connecting := fun hs => by
    simp [hs, SessionState.isEstablished] at hest
  cases h with
  | still => exact .of_eq rfl
  | judged b live live' state he hest hl hid hest' =>
    refine ⟨rfl, fun hs => absurd hs (hne hest), fun hs => ?_⟩
    simp [show state = .connecting from hs, SessionState.isEstablished] at hest'
  | lost b he hest => exact ⟨rfl, fun hs => absurd hs (hne hest), fun hs => by cases hs⟩

theorem aside_finishBeat (s : Session) (now : Instant) (b : Beat)
    (answer : Except ClientError HeartbeatReply) : s.Aside (s.finishBeat now b answer).state :=
  (s.exists_shift_finishBeat now b answer).elim fun _ => Shift.aside

end Session

namespace Agent

open Effect (spawned)

/-- The epoch of the attempt to open a session for which an activity waits. -/
def attempt? : Activity → Option Nat
  | .connect stage | .load stage | .run _ (.recovering _ _ (.connecting stage)) => some stage.epoch
  | _ => none

/-- Whether a call that runs has ended with a shutdown: the one that it was given, or that of the
agent. -/
def endsByShutdown : Progress Activity Outcome → Bool
  | .done .finished | .done (.failed (.signal _)) => true
  | _ => false

/-- What a section makes of the session manager `s` and of the attempt of its task: the attempt for
which the task has waited, the manager afterwards, the attempt for which the task waits then, and
the attempt that is given up. -/
inductive Steers (s : Session) : Option Nat → Session → Option Nat → Option Nat → Prop
  /-- The section belongs to no attempt. -/
  | aside (s' : Session) (h : s.Aside s') : Steers s none s' none none
  | opens (s' : Session) (h : s.state ≠ .connecting) (hs : s'.state = .connecting)
      (he : s'.epoch = s.epoch + 1) : Steers s none s' (some (s.epoch + 1)) none
  /-- The channel is open, and the attempt goes on. -/
  | goes (e : Nat) : Steers s (some e) s (some e) none
  /-- The attempt ends with an answer, which counts unless the attempt has been overtaken. -/
  | settles (e : Nat) (s' : Session) (he : s'.epoch = s.epoch)
      (h : s.state = .connecting ∧ s.epoch = e ∧ s'.state ≠ .connecting ∨
        (s.state ≠ .connecting ∨ s.epoch ≠ e) ∧ s' = s) :
      Steers s (some e) s' none none
  | drops (e : Nat) : Steers s (some e) s none (some e)

variable {a : Agent} {s s' : Session} {c c' : Core} {loops : List Nat} {minded : Prop}

/-- Whether a section belongs to an attempt, or may begin one. -/
def Origin.OfAttempt : Origin → Prop
  | .call .load | .stage (.load _) | .stage (.run _ _) => True
  | _ => False

/-- Most sections of an agent that is used through its hooks belong to no attempt. -/
theorem Shift.aside {o : Origin} {n : Option Activity} (h : Shift minded c o c' loops n)
    (ho : ¬ o.OfAttempt) : c.session.Aside c'.session ∧ n.bind attempt? = none := by
  cases h with
  | ended | registered | enabling | disabling | lined => exact ⟨.of_eq rfl, rfl⟩
  | background o n hn =>
    refine ⟨.of_eq rfl, ?_⟩
    obtain ⟨l, rfl⟩ | ⟨i, stage, rfl⟩ | ⟨call, rfl, -⟩ := hn <;> rfl
  | disabled n hk hn | joined k n hn =>
    refine ⟨Session.aside_disconnect _, ?_⟩
    obtain rfl | rfl := hn <;> rfl
  | looped k b s r q n hs hr hn =>
    refine ⟨?_, ?_⟩
    · obtain rfl | rfl | ⟨now, beat, answer, rfl⟩ := hs
      · exact .of_eq rfl
      · exact Session.aside_beginBeat _
      · exact Session.aside_finishBeat ..
    · obtain rfl | rfl | rfl | ⟨beat, rfl, -⟩ := hn <;> rfl
  | opening | dialled | failed | loaded | yielded | watching | shut | noticed | reopening
  | redialled | refailed | recovered | reporting => exact absurd trivial ho

theorem Loads.steers {stage? : Option Connect} {p : Progress Connect (Except RuntimeError Unit)}
    (h : Loads c stage? c' loops p) :
    Steers c.session (stage?.map Connect.epoch) c'.session (p.stage?.map Connect.epoch) none := by
  cases h with
  | taken | refused => exact .aside _ (.of_eq rfl)
  | opening hr hs => exact .opens _ (by simp [hs]) rfl rfl
  | dialled e => exact .goes e
  | overtaken stage h => exact .settles _ _ rfl (.inr ⟨h.symm, rfl⟩)
  | failed stage e hs he | loaded stage id hs he | yielded stage hs he =>
    exact .settles _ _ rfl (.inl ⟨hs, he, nofun⟩)

theorem Attempts.attempt?_eq_none {r : Reconnect} {cause : SessionError} {n : Nat}
    {p : RunProgress} (h : Attempts r cause n p) (ticket : Nat) :
    (p.map (.run ticket) (Outcome.ofUnit id)).stage?.bind attempt? = none ∧
      endsByShutdown (p.map (.run ticket) (Outcome.ofUnit id)) = false := by
  cases h <;> exact ⟨rfl, rfl⟩

theorem Watches.steers {d : Delivery} {stage : FleetAgent.Run} {p : RunProgress} (ticket : Nat)
    (h : Watches a d stage c' loops p) :
    Steers a.session (attempt? (.run ticket stage)) c'.session
      ((p.map (.run ticket) (Outcome.ofUnit id)).stage?.bind attempt?)
      (if endsByShutdown (p.map (.run ticket) (Outcome.ofUnit id)) then attempt? (.run ticket stage)
        else none) := by
  -- a shutdown ends the call without a look at the attempt
  have hshut : Steers a.session (attempt? (.run ticket stage)) a.session none
      (attempt? (.run ticket stage)) := by
    cases attempt? (.run ticket stage) with
    | none => exact .aside _ (.of_eq rfl)
    | some e => exact .drops e
  cases h with
  | failed | shut | stopped => exact hshut
  | requested q hq => exact .aside _ (.of_eq rfl)
  | lost cause q p hq hp =>
    obtain ⟨hn, hends⟩ := hp.attempt?_eq_none ticket
    rw [hn, hends]
    exact .aside _ (.of_eq rfl)
  | reopening cause attempt delay hm hs =>
    exact .opens _ (by obtain hs | hs := hs <;> simp [hs]) rfl rfl
  | barred => exact .aside _ (.of_eq rfl)
  | redialled cause attempt e => exact .goes e
  | refailed cause attempt stage p hm hs he hp =>
    obtain ⟨hn, hends⟩ := hp.attempt?_eq_none ticket
    rw [hn, hends]
    exact .settles _ _ rfl (.inl ⟨hs, he, nofun⟩)
  | recovered cause attempt stage id n hm hs he hn =>
    have hn : attempt? (.run ticket n) = none := by
      obtain rfl | ⟨call, rfl⟩ | ⟨call, rfl⟩ := hn <;> rfl
    simp only [Progress.map_waiting, Progress.stage?_waiting, Option.bind_some, hn]
    exact .settles _ _ rfl (.inl ⟨hs, he, nofun⟩)
  | overtaken cause attempt stage hm h => exact .settles _ _ rfl (.inr ⟨h.symm, rfl⟩)
  | reported cause attempt stage n hstage hn =>
    have hn : attempt? (.run ticket n) = none := by
      obtain rfl | ⟨-, call, rfl⟩ := hn <;> rfl
    obtain ⟨call, rfl | rfl⟩ := hstage <;>
      simp only [Progress.map_waiting, Progress.stage?_waiting, Option.bind_some, hn] <;>
      exact .aside _ (.of_eq rfl)

/-! ### All sections -/

theorem steers_beginConnect (s : Session) :
    Steers s none s.beginConnect.state (s.beginConnect.result.stage?.map Connect.epoch) none := by
  by_cases h : s.state = .disconnected
  · rw [Session.beginConnect_of_disconnected h]
    exact .opens _ (by simp [h]) rfl rfl
  · rw [Session.beginConnect_of_ne h]
    exact .aside _ (.of_eq rfl)

theorem steers_finishConnect (s : Session) (e : Nat) (answer : Except ClientError String) :
    Steers s (some e) (s.finishConnect e answer).state none none := by
  by_cases h : s.epoch = e ∧ s.state = .connecting
  · cases answer with
    | ok id =>
      rw [Session.finishConnect_ok h.1 h.2]
      exact .settles _ _ rfl (.inl ⟨h.2, h.1, nofun⟩)
    | error cause =>
      rw [Session.finishConnect_error h.1 h.2]
      exact .settles _ _ rfl (.inl ⟨h.2, h.1, nofun⟩)
  · rw [Session.finishConnect_of_stale (not_and_or.mp h)]
    exact .settles _ _ rfl (.inr ⟨(not_and_or.mp h).symm, rfl⟩)

theorem steers_resumeConnect (s : Session) (stage : Connect)
    (answer : (stage.request s.host).Answer) :
    let t := Connect.resume s stage answer
    Steers s (some stage.epoch) t.state (t.result.stage?.map Connect.epoch) none := by
  cases stage with
  | dialing e =>
    cases answer with
    | ok channel => exact .goes e
    | error cause => exact steers_finishConnect s e (.error cause)
  | greeting e => exact steers_finishConnect s e _

theorem bind_attempt?_map {ρ : Type} {w : Connect → Activity}
    (hw : ∀ stage, attempt? (w stage) = some stage.epoch) (p : Progress Connect ρ)
    (result : ρ → Outcome) :
    (p.map w result).stage?.bind attempt? = p.stage?.map Connect.epoch := by
  cases p with
  | waiting stage => exact hw stage
  | done r => rfl

/-- The first section of a call. -/
theorem steers_begin (a : Agent) (op : Operation) :
    Steers a.session none (a.begin op).state.session ((a.begin op).result.stage?.bind attempt?)
      none := by
  have hhook (hop : drives op = false) (hload : ¬ (Origin.call op).OfAttempt) :
      Steers a.session none (a.begin op).state.session
        ((a.begin op).result.stage?.bind attempt?) none := by
    have hshift : Does False a (.call op) (a.begin op) := shift_begin hop
    obtain ⟨haside, hn⟩ := hshift.aside hload
    rw [hn]
    exact .aside _ haside
  cases op with
  | connect =>
    simp only [begin, Turn.result_map, bind_attempt?_map (w := .connect) fun _ => rfl]
    exact steers_beginConnect a.session
  | load =>
    simp only [begin, Turn.result_map, bind_attempt?_map (w := .load) fun _ => rfl]
    exact loads_begin.steers
  | disconnect => exact .aside _ (Session.aside_disconnect _)
  | reset => exact .aside _ (Session.aside_reset _)
  | beat =>
    have hn : (a.begin .beat).result.stage?.bind attempt? = none := by
      cases h : a.session.beginBeat.result <;> simp [begin, onSession, h, attempt?]
    rw [hn]
    exact .aside _ (Session.aside_beginBeat _)
  | join grace =>
    have hn : (a.begin (.join grace)).result.stage?.bind attempt? = none := by
      cases h : a.scheduler.beginJoin.result <;> simp [begin, onScheduler, h, attempt?]
    rw [hn]
    exact .aside _ (.of_eq rfl)
  | start | stop => exact .aside _ (.of_eq rfl)
  | client | state | report | disableAutoReady | interval | enable | disable | run =>
    exact hhook rfl id

/-- The next section of an activity. -/
theorem steers_resume {d : Delivery} {w : Activity} {t : ActivityTurn}
    (ht : a.resume d w = some t) :
    Steers a.session (attempt? w) t.state.session (t.result.stage?.bind attempt?)
      (if isRun w && endsByShutdown t.result then attempt? w else none) := by
  have hother (hw : isDriven w = false) (hattempt : ¬ (Origin.stage w).OfAttempt)
      (hnone : attempt? w = none) : Steers a.session (attempt? w) t.state.session
        (t.result.stage?.bind attempt?)
        (if isRun w && endsByShutdown t.result then attempt? w else none) := by
    obtain ⟨haside, hn⟩ := (shift_resume hw ht).aside hattempt
    rw [hn, hnone, ite_self]
    exact .aside _ haside
  cases w with
  | connect stage =>
    obtain ⟨answer, -, rfl⟩ := Option.map_eq_some_iff.mp ht
    simp only [Turn.result_map, bind_attempt?_map (w := .connect) fun _ => rfl]
    exact steers_resumeConnect a.session stage answer
  | load stage =>
    obtain ⟨answer, -, rfl⟩ := Option.map_eq_some_iff.mp ht
    simp only [Turn.result_map, bind_attempt?_map (w := .load) fun _ => rfl]
    exact (loads_resume stage answer).steers
  | beat b =>
    obtain ⟨answer, -, rfl⟩ := Option.map_eq_some_iff.mp ht
    exact .aside _ (Session.aside_finishBeat ..)
  | join loop grace =>
    simp only [resume] at ht
    split_ifs at ht <;> obtain rfl := Option.some.inj ht <;> exact .aside _ (.of_eq rfl)
  | run ticket stage =>
    cases stage with
    | queued =>
      simp only [resume] at ht
      split_ifs at ht
      obtain rfl := Option.some.inj ht
      exact .aside _ (.of_eq rfl)
    | watching | recovering =>
      obtain ⟨u, hu, rfl⟩ := Option.map_eq_some_iff.mp ht
      obtain ⟨hcore, -, hresult⟩ := closeRun_spec ticket u
      rw [hresult, show (closeRun ticket u).state.session = u.state.core.session from
        congrArg Core.session hcore]
      exact (watches_resumeRun hu).steers ticket
  | status | enable | disable | loop | listener | worker => exact hother rfl id rfl

namespace Traffic

/-- The epoch of the attempt for which the task of a number waits. -/
def attempt? (x : Traffic) (k : Nat) : Option Nat := (x.tasks.waiting? k).bind Agent.attempt?

/-- The attempt that is given up in a section: that of a call that the host abandons, or that of a
recovery whose call ends with a shutdown. -/
def Entry.dropped? (n : Entry) : Option Nat :=
  match n.move with
  | .abandon k => n.before.attempt? k
  | .resume k _ =>
    if (n.before.tasks.waiting? k).any isRun && endsByShutdown n.turn.result then
      n.before.attempt? k
    else none
  | .call _ | .register => none

variable {allowed : Traffic → Move → Bool} {h : List Entry} {x y : Traffic} {m : Move}
  {t : Turn Traffic (Progress Activity Outcome)} {j k e : Nat}

/-- A section changes the attempt of its own task only. -/
theorem attempt?_step (ht : x.step m = some t) (k : Nat) :
    t.state.attempt? k = if k = x.tasks.place m.resumes? then t.result.stage?.bind Agent.attempt?
      else x.attempt? k := by
  have hplace : x.tasks.place m.resumes? < (x.tasks.put m.resumes? t.result.stage?).length := by
    cases hm : m.resumes? with
    | none => simp [Tasks.place, Tasks.put]
    | some j =>
      obtain ⟨w, hw⟩ := exists_waiting?_of_step ht hm
      simpa [Tasks.place, Tasks.put] using Tasks.lt_of_waiting? hw
  simp only [attempt?, waiting?_step ht]
  split_ifs with hk hown hown
  · rfl
  · rfl
  · omega
  · have hle := Nat.le_of_not_lt hk
    -- the loops that the section starts wait for no attempt
    rw [Tasks.waiting?_eq_none_of_le (Nat.le_trans Tasks.length_le_put hle), Option.bind_map]
    cases (spawned t.effects)[k - _]? <;> rfl

theorem attempt?_place (x : Traffic) (m : Move) :
    x.attempt? (x.tasks.place m.resumes?) = m.resumes?.bind x.attempt? := by
  cases hm : m.resumes? with
  | some k => rfl
  | none =>
    have hnone : x.tasks.waiting? x.tasks.length = none :=
      Tasks.waiting?_eq_none_of_le (Nat.le_refl _)
    simp [attempt?, Tasks.place, hnone]

/-- What every section does to the session manager and to the attempt of its task. -/
theorem steers_of_step (ht : x.step m = some t) :
    Steers x.agent.session (x.attempt? (x.tasks.place m.resumes?)) t.state.agent.session
      (t.result.stage?.bind Agent.attempt?) (Entry.dropped? ⟨x, m, t⟩) := by
  rw [attempt?_place x m]
  obtain ⟨u, hu, rfl⟩ := step_eq_some_iff.mp ht
  rw [show (u.state.perform u.effects).session = u.state.session from
    congrArg Core.session (core_perform u.state u.effects)]
  cases m with
  | call op =>
    obtain rfl := Option.some.inj hu
    exact steers_begin x.agent op
  | resume k d =>
    obtain ⟨w, hw, hu⟩ := Option.bind_eq_some_iff.mp hu
    have hsteers := steers_resume hu
    simpa only [Move.resumes?, Option.bind_some, attempt?, hw, Entry.dropped?, Option.any_some]
      using hsteers
  | abandon k =>
    obtain ⟨w, hw, rfl⟩ := Option.map_eq_some_iff.mp hu
    obtain ⟨hw, -⟩ := Option.filter_eq_some_iff.mp hw
    have hsession : (x.agent.abandon w).state.session = x.agent.session := by cases w <;> rfl
    simp only [Move.resumes?, Option.bind_some, attempt?, hw, Entry.dropped?, immediate,
      Turn.state_map, hsession]
    cases Agent.attempt? w with
    | none => exact .aside _ (.of_eq rfl)
    | some e => exact .drops e
  | register =>
    simp only [section?] at hu
    split at hu <;> obtain rfl := Option.some.inj hu <;> exact .aside _ (.of_eq rfl)

/-! ### Where the attempts are -/

/-- Where the attempts of an agent are after the sections of a history. -/
structure Tracked (h : List Entry) (x : Traffic) : Prop where
  le : ∀ {k e}, x.attempt? k = some e → e ≤ x.agent.session.epoch
  unique : ∀ {j k e}, x.attempt? j = some e → x.attempt? k = some e → j = k
  past : ∀ {n e}, n ∈ h → n.dropped? = some e →
    e ≤ x.agent.session.epoch ∧ ∀ k, x.attempt? k ≠ some e
  known : x.agent.session.state = .connecting →
    (∃ k, x.attempt? k = some x.agent.session.epoch) ∨
      ∃ n ∈ h, n.dropped? = some x.agent.session.epoch

/-- After a section that begins no attempt. -/
theorem Tracked.of_kept (hx : Tracked h x) (n : Entry)
    (hepoch : y.agent.session.epoch = x.agent.session.epoch)
    (hkept : ∀ {k e}, y.attempt? k = some e → x.attempt? k = some e)
    (hdropped : ∀ e, n.dropped? = some e →
      e ≤ x.agent.session.epoch ∧ ∀ k, y.attempt? k ≠ some e)
    (hknown : y.agent.session.state = .connecting →
      (∃ k, y.attempt? k = some x.agent.session.epoch) ∨
        (∃ n ∈ h, n.dropped? = some x.agent.session.epoch) ∨
        n.dropped? = some x.agent.session.epoch) : Tracked (h ++ [n]) y := by
  refine ⟨fun hk => hepoch ▸ hx.le (hkept hk), fun hj hk => hx.unique (hkept hj) (hkept hk),
    fun {n' e} hmem he => ?_, fun hs => ?_⟩
  · rw [hepoch]
    rcases List.mem_append.mp hmem with hmem | hmem
    · obtain ⟨hle, hnone⟩ := hx.past hmem he
      exact ⟨hle, fun k hk => hnone k (hkept hk)⟩
    · obtain rfl := List.mem_singleton.mp hmem
      exact hdropped e he
  · rw [hepoch]
    rcases hknown hs with hk | ⟨n', hmem, he⟩ | he
    · exact .inl hk
    · exact .inr ⟨n', List.mem_append_left _ hmem, he⟩
    · exact .inr ⟨n, List.mem_append_right _ (List.mem_singleton_self n), he⟩

variable {n : Entry} {own : Nat}

/-- After a section that leaves its task without an attempt: that attempt, if there was one, was
given up, or the manager is not connecting for it. -/
theorem Tracked.of_done (hx : Tracked h x)
    (hattempt : ∀ k, y.attempt? k = if k = own then none else x.attempt? k)
    (hepoch : y.agent.session.epoch = x.agent.session.epoch)
    (hdropped : ∀ e, n.dropped? = some e → x.attempt? own = some e)
    (hknown : y.agent.session.state = .connecting → x.agent.session.state = .connecting ∧
      (x.attempt? own = some x.agent.session.epoch →
        n.dropped? = some x.agent.session.epoch)) : Tracked (h ++ [n]) y := by
  have hkept {k e : Nat} (hk : y.attempt? k = some e) : k ≠ own ∧ x.attempt? k = some e := by
    rw [hattempt] at hk
    split_ifs at hk with hown
    exact ⟨hown, hk⟩
  refine hx.of_kept n hepoch (fun hk => (hkept hk).2) (fun e he => ?_) fun hs => ?_
  · have hown := hdropped e he
    refine ⟨hx.le hown, fun k hk => ?_⟩
    obtain ⟨hne, hk⟩ := hkept hk
    exact hne (hx.unique hk hown)
  · obtain ⟨hs, hgone⟩ := hknown hs
    rcases hx.known hs with ⟨k, hk⟩ | hn
    · by_cases hkown : k = own
      · subst hkown
        exact .inr (.inr (hgone hk))
      · exact .inl ⟨k, by rw [hattempt, if_neg hkown, hk]⟩
    · exact .inr (.inl hn)

/-- After a section that begins an attempt, the only one of its epoch. -/
theorem Tracked.of_opened (hx : Tracked h x)
    (hattempt : ∀ k, y.attempt? k =
      if k = own then some (x.agent.session.epoch + 1) else x.attempt? k)
    (hepoch : y.agent.session.epoch = x.agent.session.epoch + 1) (hdropped : n.dropped? = none) :
    Tracked (h ++ [n]) y := by
  have hnew {k e : Nat} (hk : y.attempt? k = some e) :
      k = own ∧ e = x.agent.session.epoch + 1 ∨ x.attempt? k = some e := by
    rw [hattempt] at hk
    split_ifs at hk with hkown
    · exact .inl ⟨hkown, (Option.some.inj hk).symm⟩
    · exact .inr hk
  refine ⟨fun hk => ?_, fun {j k e} hj hk => ?_, fun {n' e} hmem he => ?_, fun _ => ?_⟩
  · rw [hepoch]
    rcases hnew hk with ⟨-, rfl⟩ | hk
    · exact Nat.le_refl _
    · exact Nat.le_succ_of_le (hx.le hk)
  · -- no older attempt is in the new epoch
    rcases hnew hj with ⟨rfl, rfl⟩ | hj <;> rcases hnew hk with ⟨rfl, hne⟩ | hk
    · rfl
    · exact absurd (hx.le hk) (Nat.not_succ_le_self _)
    · exact absurd (hne ▸ hx.le hj) (Nat.not_succ_le_self _)
    · exact hx.unique hj hk
  · rcases List.mem_append.mp hmem with hmem | hmem
    · obtain ⟨hle, hnone⟩ := hx.past hmem he
      refine ⟨hepoch ▸ Nat.le_succ_of_le hle, fun k hk => ?_⟩
      rcases hnew hk with ⟨-, rfl⟩ | hk
      · exact absurd hle (Nat.not_succ_le_self _)
      · exact hnone k hk
    · obtain rfl := List.mem_singleton.mp hmem
      cases hdropped.symm.trans he
  · exact .inl ⟨own, by rw [hattempt, if_pos rfl, hepoch]⟩

theorem Tracked.step (hx : Tracked h x) (ht : x.step m = some t) :
    Tracked (h ++ [⟨x, m, t⟩]) t.state := by
  have hattempt := attempt?_step ht
  have hsteers := steers_of_step ht
  generalize (⟨x, m, t⟩ : Entry) = n at hsteers ⊢
  generalize x.tasks.place m.resumes? = own at hattempt hsteers
  generalize t.result.stage?.bind Agent.attempt? = after? at hattempt hsteers
  generalize hown : x.attempt? own = before? at hsteers
  generalize hdropped : n.dropped? = dropped? at hsteers
  generalize hs' : t.state.agent.session = s' at hsteers
  cases hsteers with
  | aside s' h =>
    exact hx.of_done hattempt (hs' ▸ h.epoch) (by simp [hdropped])
      fun hs => ⟨h.connecting (hs' ▸ hs), by simp [hown]⟩
  | opens s' h hs he => exact hx.of_opened hattempt (hs' ▸ he) hdropped
  | goes e =>
    have hsame (k : Nat) : t.state.attempt? k = x.attempt? k := by
      rw [hattempt]
      split_ifs with hk
      · rw [hk, hown]
      · rfl
    refine hx.of_kept n (hs' ▸ rfl) (fun hk => hsame _ ▸ hk) (by simp [hdropped]) fun hs => ?_
    simp only [hsame]
    exact (hx.known (hs' ▸ hs)).imp_right .inl
  | settles e s' he h =>
    refine hx.of_done hattempt (hs' ▸ he) (by simp [hdropped]) fun hs => ?_
    rw [hs'] at hs
    rcases h with ⟨-, -, hne⟩ | ⟨hstale, rfl⟩
    · exact absurd hs hne
    · -- the answer to an attempt that has been overtaken
      refine ⟨hs, fun hk => absurd (Option.some.inj (hk.symm.trans hown)) ?_⟩
      exact hstale.resolve_left (not_not_intro hs)
  | drops e =>
    exact hx.of_done hattempt (hs' ▸ rfl) (fun e' he => hown.trans (hdropped.symm.trans he))
      fun hs => ⟨hs' ▸ hs, fun hk => hdropped.trans (hown.symm.trans hk)⟩

theorem attempt?_ofAgent (a : Agent) (k : Nat) : (ofAgent a).attempt? k = none := by
  cases hw : (ofAgent a).tasks.waiting? k with
  | none => simp [attempt?, hw]
  | some w =>
    obtain ⟨i, rfl⟩ | ⟨l, rfl⟩ := waiting?_ofAgent hw <;> simp [attempt?, hw, Agent.attempt?]

theorem tracked_ofAgent {config : AgentConfig} {address : String} {host : Host}
    {subscribers : List Subscriber} {a : Agent}
    (ha : Agent.make config address host subscribers = .ok a) : Tracked [] (ofAgent a) := by
  have hnone := attempt?_ofAgent a
  have hstate : a.session.state = .disconnected := by
    simp only [Agent.make] at ha
    split at ha
    · cases ha
    · obtain rfl := Except.ok.inj ha
      rfl
  refine ⟨fun h => ?_, fun h => ?_, fun hn => ?_, fun h => ?_⟩
  · simp [hnone] at h
  · simp [hnone] at h
  · cases hn
  · exact absurd (hstate.symm.trans h) (by simp)

theorem History.tracked (hx : History allowed h x) : Tracked h x := by
  induction hx with
  | new ha => exact tracked_ofAgent ha
  | step _ _ ht ih => exact ih.step ht

/-! ### Attempts that were given up -/

/-- Whether the session manager is connecting in an epoch, but no task waits for its attempt. -/
structure Deserted (x : Traffic) (e : Nat) : Prop where
  state : x.agent.session.state = .connecting
  epoch : x.agent.session.epoch = e
  attempt : ∀ k, x.attempt? k ≠ some e

/-- Only the end of the session ends this. -/
theorem Deserted.step (hx : x.Deserted e) (ht : x.step m = some t) :
    t.state.agent.session.state = .closed ∨ t.state.Deserted e := by
  have hattempt := attempt?_step ht
  have hsteers := steers_of_step ht
  generalize Entry.dropped? ⟨x, m, t⟩ = dropped? at hsteers
  generalize x.tasks.place m.resumes? = own at hattempt hsteers
  generalize t.result.stage?.bind Agent.attempt? = after? at hattempt hsteers
  generalize hown : x.attempt? own = before? at hsteers
  generalize hs' : t.state.agent.session = s' at hsteers ⊢
  -- the task of the section did not wait for the attempt, and does not begin to do so
  have hstill (hstate : s'.state = .connecting) (hepoch : s'.epoch = x.agent.session.epoch)
      (hafter : after? ≠ some e) : t.state.Deserted e := by
    refine ⟨hs' ▸ hstate, hs' ▸ hepoch.trans hx.epoch, fun k => ?_⟩
    rw [hattempt]
    split_ifs with hk
    · exact hafter
    · exact hx.attempt k
  have hne : before? ≠ some e := hown ▸ hx.attempt own
  cases hsteers with
  | aside s' h =>
    rcases h.stays hx.state with hstate | hclosed
    · exact .inr (hstill hstate h.epoch nofun)
    · exact .inl hclosed
  | opens s' h hs he => exact absurd hx.state h
  | goes e => exact .inr (hstill hx.state rfl hne)
  | settles e' s' he h =>
    rcases h with ⟨-, he', -⟩ | ⟨-, rfl⟩
    · exact absurd (congrArg some (he'.symm.trans hx.epoch)) hne
    · exact .inr (hstill hx.state rfl nofun)
  | drops e => exact .inr (hstill hx.state rfl nofun)

/-- Every attempt to open a session is refused meanwhile. -/
theorem Deserted.refuses (hx : x.Deserted e) :
    x.agent.session.beginConnect =
      { state := x.agent.session
        result := .done (.error (.invalidState "connect" .connecting)) } := by
  have hne : x.agent.session.state ≠ .disconnected := by simp [hx.state]
  rw [Session.beginConnect_of_ne hne, Session.invalid, hx.state]

/-- The moves while the session is not closed. -/
def opened (x : Traffic) (_ : Move) : Bool := x.agent.session.state ≠ .closed

theorem Deserted.since (hx : x.Deserted e) (hy : Since opened x y) :
    y.agent.session.state = .closed ∨ y.Deserted e := by
  induction hy with
  | refl => exact .inr hx
  | step _ hm ht ih =>
    rcases ih with hclosed | hx
    · simp [opened, hclosed] at hm
    · exact hx.step ht

/-- Follow any calls of a host on an agent, and of the agent itself, in any order of their sections
and answers, any of them given up at any wait. While the session manager is connecting, a task waits
for the attempt of the present epoch, unless this attempt was given up. If it was, the manager stays
connecting in this epoch and refuses every further attempt until the session is closed. -/
theorem attempted_of_connecting (hx : History allowed h x)
    (hs : x.agent.session.state = .connecting) :
    ((∃ k, x.attempt? k = some x.agent.session.epoch) ↔
        ∀ n ∈ h, n.dropped? ≠ some x.agent.session.epoch) ∧
      ∀ n ∈ h, n.dropped? = some x.agent.session.epoch → ∀ y, Since opened x y →
        y.agent.session.state = .closed ∨
          y.agent.session.state = .connecting ∧
            y.agent.session.epoch = x.agent.session.epoch ∧
            y.agent.session.beginConnect.result =
              .done (.error (.invalidState "connect" .connecting)) := by
  have htracked := hx.tracked
  refine ⟨⟨?_, fun hnone => ?_⟩, fun n hn he y hy => ?_⟩
  · rintro ⟨k, hk⟩ n hn he
    exact (htracked.past hn he).2 k hk
  · rcases htracked.known hs with hk | ⟨n, hn, he⟩
    · exact hk
    · exact absurd he (hnone n hn)
  · have hdeserted : x.Deserted x.agent.session.epoch := ⟨hs, rfl, (htracked.past hn he).2⟩
    rcases hdeserted.since hy with hclosed | hy
    · exact .inl hclosed
    · exact .inr ⟨hy.state, hy.epoch, congrArg Turn.result hy.refuses⟩

/-- The host loads the agent and abandons the call while it waits for its channel. When the agent is
loaded again, the session manager is connecting still. -/
theorem attempted_of_connecting_after_abandon :
    ∃ h x y, History (fun _ _ => true) h x ∧ x.agent.session.state = .connecting ∧
      (∃ n ∈ h, n.dropped? = some x.agent.session.epoch) ∧
      (¬ ∃ k, x.attempt? k = some x.agent.session.epoch) ∧ Since opened x y ∧
      y.agent.session.state = .connecting ∧
      y.agent.session.beginConnect.result =
        .done (.error (.invalidState "connect" .connecting)) := by
  obtain ⟨h, x, hx, hp⟩ := exists_history_record (fun _ _ => true) [.call .load, .abandon 1]
    (fun h x => x.agent.session.state = .connecting ∧
      (∃ n ∈ h, n.dropped? = some x.agent.session.epoch) ∧
      (x.follow? opened [.call .load]).any fun y => y.agent.session.state = .connecting)
    (by decide +kernel)
  obtain ⟨hs, ⟨n, hn, he⟩, hy⟩ := of_decide_eq_true hp
  obtain ⟨y, hfollow, hy⟩ := (Option.any_eq_true _ _).mp hy
  have hconnecting : y.agent.session.state = .connecting := of_decide_eq_true hy
  have hsince := Since.refl.follow? _ hfollow
  obtain ⟨hiff, hstays⟩ := attempted_of_connecting hx hs
  refine ⟨h, x, y, hx, hs, ⟨n, hn, he⟩, fun hk => hiff.mp hk n hn he, hsince, hconnecting, ?_⟩
  rcases hstays n hn he y hsince with hclosed | ⟨-, -, hrefused⟩
  · exact absurd (hconnecting.symm.trans hclosed) nofun
  · exact hrefused

/-- The shutdown has failed that a call that runs was given. -/
def deterred : Delivery := { now := 0, shutdown := some (.error "no signal handler") }

/-- A shutdown that fails ends the call that runs while its recovery waits for its channel, in a
traffic of an agent that nobody drives and of which no call is abandoned. No task waits for an
attempt then, but the session manager is connecting, and a call that connects is refused. -/
theorem connecting_without_attempt :
    ∃ h x t, History usesHooks h x ∧ h.all (fun n => n.move matches .call _ | .resume _ _) ∧
      x.agent.session.state = .connecting ∧ (∀ w ∈ x.tasks, w.bind Agent.attempt? = none) ∧
      x.step (.call .connect) = some t ∧
      t.result = .done (.failed (.session (.invalidState "connect" .connecting))) := by
  obtain ⟨h, x, hx, hp⟩ := exists_history_record usesHooks
    (running ++ [.resume 2 rejected, .resume 3 accepted, .resume 3 elapsed, .resume 3 deterred])
    (fun h x => h.all (fun n => n.move matches .call _ | .resume _ _) ∧
      x.agent.session.state = .connecting ∧ (∀ w ∈ x.tasks, w.bind Agent.attempt? = none) ∧
      (x.step (.call .connect)).any fun t =>
        t.result = .done (.failed (.session (.invalidState "connect" .connecting))))
    (by decide +kernel)
  obtain ⟨hcalls, hs, hnone, ht⟩ := of_decide_eq_true hp
  obtain ⟨t, ht, hresult⟩ := (Option.any_eq_true _ _).mp ht
  exact ⟨h, x, t, hx, hcalls, hs, hnone, ht, of_decide_eq_true hresult⟩

end Traffic

end Agent

end FleetAgent
