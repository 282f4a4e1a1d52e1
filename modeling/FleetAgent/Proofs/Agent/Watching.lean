import FleetAgent.Proofs.Agent.Core

/-!
# Running

What the sections of a call that runs do, with what they come to. The call watches the termination
notices; after the loss of the session it makes attempts to open another one, each after a delay.
While it waits it also looks for its own shutdown and for that of the agent, in any order.

## Main definitions

* `Agent.Minds`: a call that runs looks at the shutdown of the agent before what its recovery waits
  for.
* `Agent.Attempts`: what the beginning of an attempt to recover comes to.
* `Agent.Watches`: what a section of a call that runs may do, and what it comes to.

## Main results

* `Agent.watches_resumeRun`: every section does one of these things.
-/

namespace FleetAgent.Agent

open Effect (spawned)

variable {a : Agent}

theorem isEstablished_of_beginStatus {s : Session} {report : Report} {call : StatusCall}
    (h : s.beginStatus report = .waiting call) : s.state.isEstablished := by
  simp only [Session.beginStatus, Session.client] at h
  cases hlive : s.established? with
  | none => simp [hlive] at h
  | some live => exact (Session.established?_eq_some_iff.mp hlive).1

theorem state_requestShutdown (a : Agent) :
    a.requestShutdown.state = { a with isStopping := true } := by
  by_cases h : a.isStopping
  · rw [requestShutdown, if_pos h]
    cases a
    subst h
    rfl
  · rw [requestShutdown, if_neg h]

theorem spawned_requestShutdown (a : Agent) : spawned a.requestShutdown.effects = [] := by
  simp only [requestShutdown]
  split_ifs <;> rfl

/-! ### What a call that runs looks for -/

/-- Whether a call that runs looks at the shutdown of the agent before what its recovery waits
for. -/
def Minds (order : List Concern) : Prop :=
  (order ++ Concern.all).find? (· ≠ .shutdown) = some .stopping

instance : DecidablePred Minds := fun _ => inferInstanceAs (Decidable (_ = _))

/-- What a call that runs finds: its own shutdown, that of the agent, or its work. It does not come
to its work while the agent is told to shut down if it looks at that first. -/
theorem lookout_eq_some {κ : Type} {order : List Concern} {shutdown : Option (Except String Unit)}
    {work : Option (Turn Agent (Progress κ (Except RuntimeError Unit)))}
    {t : Turn Agent (Progress κ (Except RuntimeError Unit))}
    (h : a.lookout order shutdown work = some t) :
    (∃ outcome, shutdown = some outcome ∧ t = a.onShutdown outcome) ∨
      a.isStopping ∧ t = { state := a, result := .done (.ok ()) } ∨
      work = some t ∧ (Minds order → a.isStopping = false) := by
  obtain ⟨before, concern, after, hlist, hfound, hbefore⟩ := List.findSome?_eq_some_iff.mp h
  cases concern with
  | shutdown =>
    obtain ⟨outcome, hout, rfl⟩ := Option.map_eq_some_iff.mp hfound
    exact .inl ⟨outcome, hout, rfl⟩
  | stopping =>
    dsimp only at hfound
    split_ifs at hfound with hs
    exact .inr (.inl ⟨hs, (Option.some.inj hfound).symm⟩)
  | work =>
    refine .inr (.inr ⟨hfound, fun hminds => ?_⟩)
    rw [Minds, hlist, List.find?_append] at hminds
    have hmem : Concern.stopping ∈ before := by
      cases hfind : before.find? (· ≠ .shutdown) with
      | none =>
        rw [hfind] at hminds
        cases hminds
      | some concern =>
        rw [hfind] at hminds
        obtain rfl := Option.some.inj hminds
        exact List.mem_of_find?_eq_some hfind
    simpa using hbefore _ hmem

/-- A call that runs goes on if its work can. -/
theorem isSome_lookout {κ : Type} {order : List Concern} {shutdown : Option (Except String Unit)}
    {work : Option (Turn Agent (Progress κ (Except RuntimeError Unit)))} (h : work.isSome) :
    (a.lookout order shutdown work).isSome :=
  List.findSome?_isSome_iff.mpr ⟨.work, by simp [Concern.all], h⟩

/-! ### The parts of a recovery -/

/-- What the beginning of an attempt of a number to recover comes to: its delay, or the end if the
settings allow no such attempt. -/
inductive Attempts (r : Reconnect) (cause : SessionError) (attempt : Nat) : RunProgress → Prop
  | gaveUp (reason : String) (h : r.schedule attempt = none) :
      Attempts r cause attempt (.done (.error (.terminated reason)))
  | pausing (delay : Duration) :
      Attempts r cause attempt (.waiting (.recovering cause attempt (.pausing delay)))

theorem beginAttempt_spec (a : Agent) (cause : SessionError) (attempt draw : Nat) :
    (a.beginAttempt cause attempt draw).state = a ∧
      spawned (a.beginAttempt cause attempt draw).effects = [] ∧
      Attempts a.config.reconnect cause attempt (a.beginAttempt cause attempt draw).result := by
  cases h : a.config.reconnect.schedule attempt with
  | none =>
    simp only [beginAttempt, h]
    exact ⟨trivial, rfl, .gaveUp _ h⟩
  | some backoff =>
    simp only [beginAttempt, h]
    exact ⟨trivial, rfl, .pausing _⟩

/-- The repetition of the report that the server accepts players. -/
theorem repeatReady_spec (a : Agent) (cause : SessionError) (attempt : Nat) :
    (a.repeatReady cause attempt).state = a ∧
      spawned (a.repeatReady cause attempt).effects = [] ∧
      ((a.repeatReady cause attempt).result = .waiting .watching ∨
        a.session.state.isEstablished ∧ ∃ call,
          (a.repeatReady cause attempt).result =
            .waiting (.recovering cause attempt (.readying call))) := by
  simp only [repeatReady, reportReady]
  split_ifs
  · cases h : a.session.beginStatus (.ready true) with
    | waiting call => exact ⟨rfl, rfl, .inr ⟨isEstablished_of_beginStatus h, call, rfl⟩⟩
    | done r => cases r <;> exact ⟨rfl, rfl, .inl rfl⟩
  · exact ⟨rfl, rfl, .inl rfl⟩

/-- The repetition of the reports on a new session. -/
theorem repeatReports_spec (a : Agent) (cause : SessionError) (attempt : Nat) :
    (a.repeatReports cause attempt).state = a ∧
      spawned (a.repeatReports cause attempt).effects = [] ∧
      ∃ n, (a.repeatReports cause attempt).result = .waiting n ∧
        (n = .watching ∨ (∃ call, n = .recovering cause attempt (.running call)) ∨
          ∃ call, n = .recovering cause attempt (.readying call)) := by
  obtain ⟨hstate, hes, hn⟩ := repeatReady_spec a cause attempt
  have hready : ∃ n, (a.repeatReady cause attempt).result = .waiting n ∧
      (n = .watching ∨ (∃ call, n = .recovering cause attempt (.running call)) ∨
        ∃ call, n = .recovering cause attempt (.readying call)) := by
    rcases hn with hn | ⟨-, call, hn⟩
    · exact ⟨_, hn, .inl rfl⟩
    · exact ⟨_, hn, .inr (.inr ⟨call, rfl⟩)⟩
  simp only [repeatReports, reportRunning]
  split_ifs
  · cases h : a.session.beginStatus .running with
    | waiting call => exact ⟨rfl, rfl, _, rfl, .inr (.inl ⟨call, rfl⟩)⟩
    | done r =>
      cases r with
      | ok => exact ⟨hstate, hes, hready⟩
      | error e => exact ⟨hstate, by simp [logging, hes], hready⟩
  · exact ⟨rfl, rfl, _, rfl, .inl rfl⟩

theorem continueConnect_opened (cause : SessionError) (attempt draw : Nat) (es : List Effect)
    (id : String) :
    continueConnect cause attempt draw { state := a, effects := es, result := .done (.ok id) } =
      let t := { a with scheduler := a.scheduler.start.state }.repeatReports cause attempt
      { state := t.state
        effects := es ++ (.log ⟨.info, target, "session re-established",
          [("session", id), ("attempt", toString attempt)]⟩ ::
            (a.scheduler.start.effects ++ t.effects))
        result := t.result } := rfl

theorem continueConnect_failed (cause : SessionError) (attempt draw : Nat) (es : List Effect)
    (e : ClientError) :
    continueConnect cause attempt draw
        { state := a, effects := es, result := .done (.error (.connectionFailed e)) } =
      let t := a.beginAttempt cause (attempt + 1) draw
      { state := t.state
        effects := es ++ (.log ⟨.debug, target, "reconnect attempt failed",
          [("attempt", toString attempt), ("error", e.message)]⟩ :: t.effects)
        result := t.result } := rfl

theorem afterPause_of_closed (h : a.session.state = .closed) (cause : SessionError)
    (attempt draw : Nat) :
    a.afterPause cause attempt draw = continueConnect cause attempt draw
      ({ a with session := { a.session with state := .disconnected } }.onSession
        Session.beginConnect) := by
  simp only [afterPause, h, ↓reduceIte, onSession, Session.reset_of_closed h]
  rfl

theorem afterPause_of_ne (h : a.session.state ≠ .closed) (cause : SessionError)
    (attempt draw : Nat) :
    a.afterPause cause attempt draw =
      continueConnect cause attempt draw (a.onSession Session.beginConnect) := by
  simp only [afterPause, h, ↓reduceIte]
  rfl

/-! ### The sections -/

/-- What a section of a call that runs may do to the agent `a`, given what the surroundings have
brought and the stage at which the call has waited: the core afterwards, the heartbeat loops that it
starts as tasks, and what the call has come to. -/
inductive Watches (a : Agent) (d : Delivery) : Run → Core → List Nat → RunProgress → Prop
  /-- The shutdown that the call was given has failed. -/
  | failed (stage : Run) (reason : String) (h : d.shutdown = some (.error reason)) :
      Watches a d stage a.core [] (.done (.error (.signal reason)))
  /-- The shutdown that the call was given has come. -/
  | shut (stage : Run) (h : d.shutdown = some (.ok ())) :
      Watches a d stage { a.core with isStopping := true } [] (.done (.ok ()))
  /-- The agent is told to shut down. -/
  | stopped (stage : Run) (h : a.isStopping) : Watches a d stage a.core [] (.done (.ok ()))
  | requested (q : NoticeQueue) (hq : a.notices.pop? = some (.requested, q)) :
      Watches a d .watching { a.core with notices := q } []
        (.done (.error (.terminated "controller requested termination")))
  | lost (cause : SessionError) (q : NoticeQueue) (p : RunProgress)
      (hq : a.notices.pop? = some (.lost cause, q)) (hp : Attempts a.config.reconnect cause 1 p) :
      Watches a d .watching { a.core with notices := q } [] p
  | reopening (cause : SessionError) (attempt : Nat) (delay : Duration)
      (hm : Minds d.order → a.isStopping = false)
      (hs : a.session.state = .closed ∨ a.session.state = .disconnected) :
      Watches a d (.recovering cause attempt (.pausing delay))
        { a.core with
          session := { a.session with state := .connecting, epoch := a.session.epoch + 1 } }
        [] (.waiting (.recovering cause attempt (.connecting (.dialing (a.session.epoch + 1)))))
  /-- The session manager is neither closed nor disconnected. -/
  | barred (cause : SessionError) (attempt : Nat) (delay : Duration)
      (hm : Minds d.order → a.isStopping = false)
      (hs : ¬ (a.session.state = .closed ∨ a.session.state = .disconnected)) :
      Watches a d (.recovering cause attempt (.pausing delay)) a.core []
        (.done (.error (.session (a.session.invalid "connect"))))
  | redialled (cause : SessionError) (attempt e : Nat) (hm : Minds d.order → a.isStopping = false) :
      Watches a d (.recovering cause attempt (.connecting (.dialing e))) a.core []
        (.waiting (.recovering cause attempt (.connecting (.greeting e))))
  | refailed (cause : SessionError) (attempt : Nat) (stage : Connect) (p : RunProgress)
      (hm : Minds d.order → a.isStopping = false) (hs : a.session.state = .connecting)
      (he : a.session.epoch = stage.epoch)
      (hp : Attempts a.config.reconnect cause (attempt + 1) p) :
      Watches a d (.recovering cause attempt (.connecting stage))
        { a.core with session := { a.session with state := .disconnected } } [] p
  | recovered (cause : SessionError) (attempt : Nat) (stage : Connect) (id : String) (n : Run)
      (hm : Minds d.order → a.isStopping = false) (hs : a.session.state = .connecting)
      (he : a.session.epoch = stage.epoch)
      (hn : n = .watching ∨ (∃ call, n = .recovering cause attempt (.running call)) ∨
        ∃ call, n = .recovering cause attempt (.readying call)) :
      Watches a d (.recovering cause attempt (.connecting stage))
        { a.core with
          session := { a.session with state := .active, live := some { id } }
          scheduler := a.scheduler.start.state }
        (spawned a.scheduler.start.effects) (.waiting n)
  /-- The attempt has been overtaken. -/
  | overtaken (cause : SessionError) (attempt : Nat) (stage : Connect)
      (hm : Minds d.order → a.isStopping = false)
      (h : a.session.epoch ≠ stage.epoch ∨ a.session.state ≠ .connecting) :
      Watches a d (.recovering cause attempt (.connecting stage)) a.core []
        (.done (.error (.session (a.session.invalid "connect"))))
  | reported (cause : SessionError) (attempt : Nat) (stage : Recovery) (n : Run)
      (hstage : ∃ call, stage = .running call ∨ stage = .readying call)
      (hn : n = .watching ∨ a.session.state.isEstablished ∧ ∃ call,
        n = .recovering cause attempt (.readying call)) :
      Watches a d (.recovering cause attempt stage) a.core [] (.waiting n)

/-- What a section of a call that runs does, as far as the core goes. -/
abbrev WatchesIn (a : Agent) (d : Delivery) (stage : Run) (t : Turn Agent RunProgress) : Prop :=
  Watches a d stage t.state.core (spawned t.effects) t.result

variable {d : Delivery}

theorem Watches.of_eq {stage : Run} {c c' : Core} {loops loops' : List Nat} {p p' : RunProgress}
    (h : Watches a d stage c loops p) (hc : c' = c) (hloops : loops' = loops) (hp : p' = p) :
    Watches a d stage c' loops' p' := by
  subst hc hloops hp
  exact h

/-- The end of an attempt to open a session. -/
theorem watches_finishConnect (cause : SessionError) (attempt draw : Nat) (stage : Connect)
    (answer : Except ClientError String) (hm : Minds d.order → a.isStopping = false) :
    WatchesIn a d (.recovering cause attempt (.connecting stage))
      (continueConnect cause attempt draw
        (((a.session.finishConnect stage.epoch answer).map .done).within
          fun session => { a with session })) := by
  by_cases h : a.session.epoch = stage.epoch ∧ a.session.state = .connecting
  · cases answer with
    | ok id =>
      rw [Session.finishConnect_ok h.1 h.2]
      simp only [Turn.map, Turn.within, continueConnect_opened]
      let b : Agent := { a with
        session := { a.session with state := .active, live := some { id } }
        scheduler := a.scheduler.start.state }
      obtain ⟨hstate, hes, n, hn, hstage⟩ := repeatReports_spec b cause attempt
      simp only [b] at hstate hes hn
      refine .of_eq (.recovered cause attempt stage id n hm h.2 h.1 hstage) ?_ ?_ hn
      · rw [hstate]
        rfl
      · simp [hes]
    | error e =>
      rw [Session.finishConnect_error h.1 h.2]
      simp only [Turn.map, Turn.within, continueConnect_failed]
      let b : Agent := { a with session := { a.session with state := .disconnected } }
      obtain ⟨hstate, hes, hn⟩ := beginAttempt_spec b cause (attempt + 1) draw
      simp only [b] at hstate hes hn
      refine .of_eq (.refailed cause attempt stage _ hm h.2 h.1 hn) ?_ (by simp [hes]) rfl
      rw [hstate]
      rfl
  · rw [Session.finishConnect_of_stale (not_and_or.mp h)]
    exact .overtaken cause attempt stage hm (not_and_or.mp h)

/-- The section of an attempt after an answer of the controller. -/
theorem watches_resumeConnect (cause : SessionError) (attempt draw : Nat) (stage : Connect)
    (answer : (stage.request a.session.host).Answer) (hm : Minds d.order → a.isStopping = false) :
    WatchesIn a d (.recovering cause attempt (.connecting stage))
      (a.resumeConnect cause attempt draw stage answer) := by
  cases stage with
  | dialing e =>
    cases answer with
    | ok channel => exact .redialled cause attempt e hm
    | error e' => exact watches_finishConnect cause attempt draw (.dialing e) (.error e') hm
  | greeting e => exact watches_finishConnect cause attempt draw (.greeting e) _ hm

/-- The section after the delay before an attempt. -/
theorem watches_afterPause (cause : SessionError) (attempt draw : Nat) (delay : Duration)
    (hm : Minds d.order → a.isStopping = false) :
    WatchesIn a d (.recovering cause attempt (.pausing delay))
      (a.afterPause cause attempt draw) := by
  by_cases hc : a.session.state = .closed
  · have hopen := Session.beginConnect_of_disconnected
      (s := { a.session with state := .disconnected }) rfl
    rw [afterPause_of_closed hc, onSession, hopen]
    exact .reopening cause attempt delay hm (.inl hc)
  · rw [afterPause_of_ne hc, onSession]
    by_cases hd : a.session.state = .disconnected
    · rw [Session.beginConnect_of_disconnected hd]
      exact .reopening cause attempt delay hm (.inr hd)
    · rw [Session.beginConnect_of_ne hd]
      exact .barred cause attempt delay hm (not_or.mpr ⟨hc, hd⟩)

/-- The section after the answer to a repeated report. -/
theorem watches_resumeReport (cause : SessionError) (attempt : Nat) (stage : Recovery)
    (call : StatusCall) (hstage : stage = .running call ∨ stage = .readying call)
    (answer : Except ClientError Unit) :
    WatchesIn a d (.recovering cause attempt stage) (a.resumeReport cause attempt call answer) := by
  have hstage : ∃ call, stage = .running call ∨ stage = .readying call := ⟨call, hstage⟩
  have hes := call.spawned_finish a.cloud answer
  rcases hu : call.finish a.cloud answer with ⟨cloud, es, outcome⟩
  rw [hu] at hes
  obtain ⟨hstate, hes', hn⟩ := repeatReady_spec { a with cloud } cause attempt
  have hready : Watches a d (.recovering cause attempt stage) a.core []
      ({ a with cloud }.repeatReady cause attempt).result := by
    rcases hn with hn | ⟨hest, call', hn⟩
    · exact .of_eq (.reported cause attempt stage _ hstage (.inl rfl)) rfl rfl hn
    · exact .of_eq (.reported cause attempt stage _ hstage (.inr ⟨hest, call', rfl⟩)) rfl rfl hn
  have hwatch : Watches a d (.recovering cause attempt stage) a.core [] (.waiting .watching) :=
    .reported cause attempt stage .watching hstage (.inl rfl)
  simp only [resumeReport, finishReport, onCloud, hu, Turn.within, Turn.andThen]
  cases hr : call.report with
  | running =>
    rcases outcome with e | ⟨⟨⟩⟩
    · dsimp only [logging]
      rw [hstate]
      exact .of_eq hready rfl (by simp [hes, hes']) rfl
    · dsimp only
      rw [hstate]
      exact .of_eq hready rfl (by simp [hes, hes']) rfl
  | ready _ | stop =>
    rcases outcome with e | ⟨⟨⟩⟩
    · exact .of_eq hwatch rfl (by simp [logging, hes]) rfl
    · exact .of_eq hwatch rfl (by simp [hes]) rfl

theorem watches_onShutdown (stage : Run) {outcome : Except String Unit}
    (h : d.shutdown = some outcome) : WatchesIn a d stage (a.onShutdown outcome) := by
  cases outcome with
  | error reason => exact .failed stage reason h
  | ok =>
    exact .of_eq (.shut stage h) (congrArg core (state_requestShutdown a))
      (spawned_requestShutdown a) rfl

/-- The section after a termination notice. -/
theorem watches_onNotice {draw : Nat} {t : Turn Agent RunProgress} (h : a.onNotice draw = some t) :
    WatchesIn a d .watching t := by
  obtain ⟨⟨termination, notices⟩, hq, rfl⟩ := Option.map_eq_some_iff.mp h
  cases termination with
  | requested => exact .requested notices hq
  | lost cause =>
    obtain ⟨hstate, hes, hn⟩ := beginAttempt_spec { a with notices } cause 1 draw
    exact .of_eq (.lost cause notices _ hq hn) (congrArg core hstate) hes rfl

/-- The sections of a call that runs. -/
theorem watches_resumeRun {stage : Run} {t : Turn Agent RunProgress}
    (h : a.resumeRun d stage = some t) : WatchesIn a d stage t := by
  cases stage with
  | queued => cases h
  | watching =>
    rcases lookout_eq_some h with ⟨outcome, hout, rfl⟩ | ⟨hs, rfl⟩ | ⟨hwork, -⟩
    · exact watches_onShutdown _ hout
    · exact .stopped _ hs
    · exact watches_onNotice hwork
  | recovering cause attempt stage =>
    rcases lookout_eq_some h with ⟨outcome, hout, rfl⟩ | ⟨hs, rfl⟩ | ⟨hwork, hm⟩
    · exact watches_onShutdown _ hout
    · exact .stopped _ hs
    · cases stage with
      | pausing delay =>
        simp only [resumeRecovery] at hwork
        split_ifs at hwork
        obtain rfl := Option.some.inj hwork
        exact watches_afterPause cause attempt d.draw delay hm
      | connecting stage =>
        obtain ⟨answer, -, rfl⟩ := Option.map_eq_some_iff.mp hwork
        exact watches_resumeConnect cause attempt d.draw stage answer hm
      | running call =>
        obtain ⟨answer, -, rfl⟩ := Option.map_eq_some_iff.mp hwork
        exact watches_resumeReport cause attempt _ call (.inl rfl) _
      | readying call =>
        obtain ⟨answer, -, rfl⟩ := Option.map_eq_some_iff.mp hwork
        exact watches_resumeReport cause attempt _ call (.inr rfl) _

/-- The end of a call that runs gives its place in line back, and nothing else. -/
theorem closeRun_spec (ticket : Nat) (t : Turn Agent RunProgress) :
    (closeRun ticket t).state.core = t.state.core ∧
      spawned (closeRun ticket t).effects = spawned t.effects ∧
      (closeRun ticket t).result = t.result.map (.run ticket) (.ofUnit id) := by
  obtain ⟨b, es, progress⟩ := t
  cases progress with
  | waiting stage => exact ⟨rfl, by simp [closeRun], rfl⟩
  | done result =>
    refine ⟨rfl, ?_, rfl⟩
    simp only [closeRun, endRun, immediate, Turn.andThen, Turn.map, Effect.spawned_append]
    split_ifs <;> simp

end FleetAgent.Agent
