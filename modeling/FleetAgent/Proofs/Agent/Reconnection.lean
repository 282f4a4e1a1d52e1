import FleetAgent.Proofs.Agent.Readiness

/-!
# The attempts of a recovery

After the loss of the session a recovery makes one attempt after the other to open a new one. Each
attempt is announced with its number and its delay, the delay passes, and then the session manager
dials and asks for a session. A failed attempt leads to the next one, as long as the settings allow
it; the attempt that succeeds starts the heartbeats and repeats the reports. Here a recovery is
followed alone: other tasks may do what they like between its sections, but for the session manager
and the scheduler.

## Main definitions

* `Agent.Act`, `Agent.acts`: what a section of a recovery does, in the order in which it can be
  seen.
* `Agent.Recovers`: the acts of a recovery, and what it has come to.
* `Agent.Failure`, `Agent.failed`: the acts of the attempts that failed.
* `Agent.GivenUp`, `Agent.Trying`, `Agent.Restored`: where a recovery is after its failures.

## Main results

* `Agent.resumeRun_recovering`: a call that runs makes the sections of its recovery.
* `Agent.starting_terminate`: after a loss the heartbeats can be started again.
* `Agent.Recovers.stands`: every recovery is in one of these places.
* `Agent.recovers_by_attempts`: the acts of a recovery by the settings.
-/

namespace FleetAgent

/-- The delay before an attempt (from 0) for one draw. A delay that is no span of time counts as the
longest one. -/
def Backoff.IsDelay (b : Backoff) (attempt : Nat) (delay : Duration) : Prop :=
  ∃ draw, delay = (b.delay? attempt draw).getD b.longest

namespace Reconnect

theorem schedule_succ_eq_some {policy q : Backoff} {max n : Nat} :
    (backoff policy max).schedule (n + 1) = some q ↔ (max = 0 ∨ n < max) ∧ policy = q := by
  simp only [schedule, Option.ite_none_left_eq_some, Option.some.injEq, Nat.lt_succ_iff, not_and_or,
    not_not, Nat.not_le]

end Reconnect

/-- How an attempt to open a session comes out with an answer, if it does. -/
def Connect.outcome? {host : Host} : (stage : Connect) → (stage.request host).Answer →
    Option (Except ClientError String)
  | dialing _, .ok _ => none
  | dialing _, .error e => some (.error e)
  | greeting _, answer => some (Request.accept (.connect host) answer)

namespace Agent

/-- What a recovery does, as it can be seen. -/
inductive Act where
  /-- An event is published. -/
  | told (e : Event)
  /-- The delay before an attempt has passed. -/
  | waited (delay : Duration)
  /-- The closed session manager is brought back to the start. -/
  | reset
  /-- A request is sent to the controller. -/
  | asked (r : Request)
  /-- The attempt to open a session has come out. -/
  | attempted (outcome : Except ClientError String)
  /-- A heartbeat loop is started. -/
  | started (loop : Nat)

/-- What an effect shows. -/
def Act.ofEffect? : Effect → Option Act
  | .publish e => some (.told e)
  | .spawn k => some (.started k)
  | .log _ | .handled _ _ | .signal _ => none

/-- The request for whose answer a call that runs waits. -/
def awaits? (a : Agent) (stage : FleetAgent.Run) : Option Request := a.request? (.run 0 stage)

/-- The acts of a section of a recovery, given what the surroundings have brought and the stage at
which the recovery has waited, unless it is the first section. -/
def acts (d : Delivery) (a : Agent) (stage? : Option Recovery) (t : Turn Agent RunProgress) :
    List Act :=
  (match stage? with
    | some (.pausing delay) =>
      (if d.elapsed then [.waited delay] else []) ++
        if a.session.state = .closed then [.reset] else []
    | some (.connecting stage) =>
      ((d.reply (stage.request a.session.host)).bind stage.outcome?).toList.map .attempted
    | _ => []) ++
  t.effects.filterMap Act.ofEffect? ++ (t.result.stage?.bind t.state.awaits?).toList.map .asked

/-- What other tasks leave alone between two sections of a recovery. -/
structure Undisturbed (a b : Agent) : Prop where
  config : b.config = a.config
  session : b.session = a.session
  scheduler : b.scheduler = a.scheduler

/-- The acts of a recovery from the loss of the session of the agent `a₀`, the agent afterwards, and
what the recovery has come to. -/
inductive Recovers (cause : SessionError) (a₀ : Agent) : List Act → Agent → RunProgress → Prop
  | began (d : Delivery) : Recovers cause a₀ (acts d a₀ none (a₀.beginAttempt cause 1 d.draw))
      (a₀.beginAttempt cause 1 d.draw).state (a₀.beginAttempt cause 1 d.draw).result
  | goesOn {done : List Act} {a b : Agent} {cause' : SessionError} {n : Nat} {stage : Recovery}
      {d : Delivery} {t : Turn Agent RunProgress}
      (h : Recovers cause a₀ done a (.waiting (.recovering cause' n stage)))
      (hb : a.Undisturbed b) (ht : b.resumeRecovery d cause' n stage = some t) :
      Recovers cause a₀ (done ++ acts d b (some stage) t) t.state t.result

variable {a b : Agent} {cause : SessionError} {n : Nat} {d : Delivery}

/-- A call that runs and is not to be shut down makes the sections of its recovery. -/
theorem resumeRun_recovering (hd : d.shutdown = none) (ha : a.isStopping = false)
    (stage : Recovery) :
    a.resumeRun d (.recovering cause n stage) = a.resumeRecovery d cause n stage := by
  simp only [resumeRun]
  cases h : a.resumeRecovery d cause n stage with
  | none =>
    refine List.findSome?_eq_none_iff.mpr fun concern _ => ?_
    cases concern <;> simp [hd, ha]
  | some t =>
    have hsome : (a.lookout d.order d.shutdown (some t)).isSome := isSome_lookout rfl
    obtain ⟨u, hu⟩ := Option.isSome_iff_exists.mp hsome
    rcases lookout_eq_some hu with ⟨outcome, hout, -⟩ | ⟨hs, -⟩ | ⟨ht, -⟩
    · simp [hd] at hout
    · simp [ha] at hs
    · rw [hu, ht]

/-! ### The sections -/

/-- The announcement of an attempt. -/
def scheduled (cause : SessionError) (n : Nat) (delay : Duration) : Event :=
  (Event.of .reconnectScheduled).withAttempt n |>.withDelay delay |>.withReason cause.message

theorem beginAttempt_of_none (h : a.config.reconnect.schedule (n + 1) = none) (draw : Nat) :
    a.beginAttempt cause (n + 1) draw =
      { state := a, result := .done (.error (.terminated (gaveUp cause n))) } := by
  simp only [beginAttempt, h, Nat.add_sub_cancel]

theorem beginAttempt_of_some {policy : Backoff}
    (h : a.config.reconnect.schedule (n + 1) = some policy) (cause : SessionError) (draw : Nat) :
    ∃ delay, policy.IsDelay n delay ∧ a.beginAttempt cause (n + 1) draw =
      { state := a
        effects := [.publish (scheduled cause (n + 1) delay)]
        result := .waiting (.recovering cause (n + 1) (.pausing delay)) } :=
  ⟨_, ⟨draw, rfl⟩, by simp only [beginAttempt, h, Nat.add_sub_cancel, scheduled]⟩

/-- The repetition of the reports shows nothing but the requests. -/
theorem repeatReady_shows (a : Agent) (cause : SessionError) (n : Nat) :
    (a.repeatReady cause n).effects.filterMap Act.ofEffect? = [] := by
  simp only [repeatReady, reportReady]
  split_ifs
  · cases a.session.beginStatus (.ready true) with
    | waiting call => rfl
    | done r => cases r <;> rfl
  · rfl

theorem repeatReports_shows (a : Agent) (cause : SessionError) (n : Nat) :
    (a.repeatReports cause n).effects.filterMap Act.ofEffect? = [] := by
  have hready := repeatReady_shows a cause n
  simp only [repeatReports, reportRunning]
  split_ifs
  · cases a.session.beginStatus .running with
    | waiting call => rfl
    | done r =>
      cases r with
      | ok u => exact hready
      | error e =>
        simp only [logging, Turn.effects_andThen, List.filterMap_append, hready]
        rfl
  · rfl

theorem finish_shows (call : StatusCall) (cloud : Cloud) (answer : Except ClientError Unit) :
    (call.finish cloud answer).effects.filterMap Act.ofEffect? = [] := by
  obtain ⟨session, report⟩ := call
  cases answer with
  | error e => rfl
  | ok u => cases report <;> rfl

theorem resumeReport_shows (a : Agent) (cause : SessionError) (n : Nat) (call : StatusCall)
    (answer : Except ClientError Unit) :
    (a.resumeReport cause n call answer).effects.filterMap Act.ofEffect? = [] := by
  have hes := finish_shows call a.cloud answer
  rcases hu : call.finish a.cloud answer with ⟨cloud, es, outcome⟩
  rw [hu] at hes
  replace hes : es.filterMap Act.ofEffect? = [] := hes
  have hready := repeatReady_shows { a with cloud } cause n
  simp only [resumeReport, finishReport, onCloud, hu, Turn.within, Turn.andThen]
  cases call.report with
  | running =>
    rcases outcome with e | ⟨⟨⟩⟩
    · simp only [logging, List.filterMap_append, hes, hready]
      rfl
    · simp only [List.filterMap_append, hes, hready]
      rfl
  | ready _ | stop =>
    rcases outcome with e | ⟨⟨⟩⟩
    · simp only [logging, Turn.map, List.filterMap_append, hes]
      rfl
    · simp only [Turn.map, List.filterMap_append, hes]
      rfl

/-- What the settings, the session manager and the scheduler of an agent are. -/
structure Holds (a : Agent) (config : AgentConfig) (s : Session) (r : Scheduler) : Prop where
  config : a.config = config
  session : a.session = s
  scheduler : a.scheduler = r

theorem Holds.undisturbed {config : AgentConfig} {s : Session} {r : Scheduler}
    (h : a.Holds config s r) (hb : a.Undisturbed b) : b.Holds config s r :=
  ⟨hb.config.trans h.config, hb.session.trans h.session, hb.scheduler.trans h.scheduler⟩

/-! ### The places of a recovery -/

/-- An attempt that failed. -/
structure Failure where
  /-- The delay before it. -/
  delay : Duration
  /-- Whether the channel was opened, and a session was asked for. -/
  greeted : Bool
  /-- What the controller answered, or why it did not. -/
  error : ClientError

/-- The acts of an attempt of a number up to the request for a channel; only the first one finds the
session closed. -/
def opening (cause : SessionError) (n : Nat) (delay : Duration) : List Act :=
  [.told (scheduled cause n delay), .waited delay] ++ (if n = 1 then [.reset] else []) ++
    [.told (.of .sessionConnecting), .asked .dial]

/-- The acts of an attempt of a number that failed. -/
def Failure.acts (cause : SessionError) (host : Host) (n : Nat) (f : Failure) : List Act :=
  opening cause n f.delay ++ (if f.greeted then [.asked (.connect host)] else []) ++
    [.attempted (.error f.error), .told ((Event.of .connectFailed).withReason f.error.message)]

/-- The acts of the attempts that failed, counted from 1. -/
def failed (cause : SessionError) (host : Host) (fs : List Failure) : List Act :=
  (fs.mapIdx fun i f => f.acts cause host (i + 1)).flatten

theorem failed_concat (cause : SessionError) (host : Host) (fs : List Failure) (f : Failure) :
    failed cause host (fs ++ [f]) = failed cause host fs ++ f.acts cause host (fs.length + 1) := by
  simp [failed, List.mapIdx_append]

/-- The settings allow the attempts that failed, and give their delays. -/
def Tried (r : Reconnect) (fs : List Failure) : Prop :=
  ∀ i f, fs[i]? = some f → ∃ policy, r.schedule (i + 1) = some policy ∧ policy.IsDelay i f.delay

theorem Tried.concat {r : Reconnect} {fs : List Failure} {f : Failure} {policy : Backoff}
    (h : Tried r fs) (hp : r.schedule (fs.length + 1) = some policy)
    (hf : policy.IsDelay fs.length f.delay) : Tried r (fs ++ [f]) := by
  intro i f' hi
  rw [List.getElem?_append] at hi
  split_ifs at hi with hlt
  · exact h i f' hi
  · have hi' : i - fs.length = 0 := by
      by_contra hne
      simp [List.getElem?_eq_none (show [f].length ≤ i - fs.length by simp; omega)] at hi
    obtain rfl : i = fs.length := by omega
    obtain rfl : f = f' := by simpa [hi'] using hi
    exact ⟨policy, hp, hf⟩

/-- The session manager after some failed attempts. -/
def afterFailures (s : Session) (n : Nat) : Session :=
  if n = 0 then s else { s with state := .disconnected, epoch := s.epoch + n }

/-- The session manager in the attempt of a number. -/
def attempting (s : Session) (n : Nat) : Session :=
  { s with state := .connecting, epoch := s.epoch + n }

/-- The session manager after the attempt of a number has succeeded. -/
def reopened (s : Session) (n : Nat) (id : String) : Session :=
  { s with state := .active, epoch := s.epoch + n, live := some { id } }

/-- The start of the heartbeats: a loop is started and announced, unless the present one goes on. -/
def starting (r : Scheduler) : List Act :=
  if r.slot.any (!r.isCancelled ·) then []
  else [.started r.loops.length,
    .told ((Event.of .schedulerStarted).withSource r.heart |>.withInterval r.period)]

theorem start_shows (r : Scheduler) : r.start.effects.filterMap Act.ofEffect? = starting r := by
  simp only [Scheduler.start, starting]
  split_ifs <;> rfl

/-- A loop that has left a notice does not go on. -/
theorem starting_terminate {r : Scheduler} {k : Nat} (hk : r.slot = some k)
    (hr : k < r.loops.length) (q : NoticeQueue) (t : Termination) :
    starting (r.terminate q k t).state.1 = [.started r.loops.length,
      .told ((Event.of .schedulerStarted).withSource r.heart |>.withInterval r.period)] := by
  rw [(Scheduler.terminate_eq (List.getElem?_eq_getElem hr) q t).1]
  simp [starting, Scheduler.setLoop, Scheduler.isCancelled, hk, hr]

/-- The acts of an attempt that succeeds from the request for a session on: the heartbeats are
started once. -/
def restoring (host : Host) (r : Scheduler) (id : String) : List Act :=
  [.asked (.connect host), .attempted (.ok id),
    .told ((Event.of .sessionConnected).withSession id)] ++ starting r

/-- The stages of a recovery after its attempt has succeeded. -/
def Reports (cause : SessionError) (n : Nat) (stage : FleetAgent.Run) : Prop :=
  stage = .watching ∨ (∃ call, stage = .recovering cause n (.running call)) ∨
    ∃ call, stage = .recovering cause n (.readying call)

/-- A recovery that has succeeded waits for nothing but the answers to reports. -/
theorem Reports.exists_calls {stage : FleetAgent.Run} (h : Reports cause n stage) (a : Agent) :
    ∃ calls : List StatusCall,
      (a.awaits? stage).toList.map Act.asked = calls.map (.asked ·.request) := by
  rcases h with rfl | ⟨call, rfl⟩ | ⟨call, rfl⟩
  · exact ⟨[], rfl⟩
  · exact ⟨[call], rfl⟩
  · exact ⟨[call], rfl⟩

/-- Where a recovery of the agent `a₀` is after some failed attempts: the acts since, the agent, and
what the recovery has come to. -/
inductive Stands (cause : SessionError) (a₀ : Agent) (fs : List Failure) :
    List Act → Agent → RunProgress → Prop
  | gaveUp {a : Agent} (h : a₀.config.reconnect.schedule (fs.length + 1) = none)
      (ha : a.Holds a₀.config (afterFailures a₀.session fs.length) a₀.scheduler) :
      Stands cause a₀ fs [] a (.done (.error (.terminated (gaveUp cause fs.length))))
  | pausing {a : Agent} {policy : Backoff} {delay : Duration}
      (hp : a₀.config.reconnect.schedule (fs.length + 1) = some policy)
      (hd : policy.IsDelay fs.length delay)
      (ha : a.Holds a₀.config (afterFailures a₀.session fs.length) a₀.scheduler) :
      Stands cause a₀ fs [.told (scheduled cause (fs.length + 1) delay)] a
        (.waiting (.recovering cause (fs.length + 1) (.pausing delay)))
  | dialing {a : Agent} {policy : Backoff} {delay : Duration} {e : Nat}
      (hp : a₀.config.reconnect.schedule (fs.length + 1) = some policy)
      (hd : policy.IsDelay fs.length delay)
      (ha : a.Holds a₀.config (attempting a₀.session (fs.length + 1)) a₀.scheduler)
      (he : e = a₀.session.epoch + (fs.length + 1)) :
      Stands cause a₀ fs (opening cause (fs.length + 1) delay) a
        (.waiting (.recovering cause (fs.length + 1) (.connecting (.dialing e))))
  | greeting {a : Agent} {policy : Backoff} {delay : Duration} {e : Nat}
      (hp : a₀.config.reconnect.schedule (fs.length + 1) = some policy)
      (hd : policy.IsDelay fs.length delay)
      (ha : a.Holds a₀.config (attempting a₀.session (fs.length + 1)) a₀.scheduler)
      (he : e = a₀.session.epoch + (fs.length + 1)) :
      Stands cause a₀ fs
        (opening cause (fs.length + 1) delay ++ [.asked (.connect a₀.session.host)]) a
        (.waiting (.recovering cause (fs.length + 1) (.connecting (.greeting e))))
  | restored {a : Agent} {policy : Backoff} {delay : Duration} (id : String)
      (calls : List StatusCall)
      (n : FleetAgent.Run) (hp : a₀.config.reconnect.schedule (fs.length + 1) = some policy)
      (hd : policy.IsDelay fs.length delay)
      (ha : a.Holds a₀.config (reopened a₀.session (fs.length + 1) id) a₀.scheduler.start.state)
      (hn : Reports cause (fs.length + 1) n) :
      Stands cause a₀ fs
        (opening cause (fs.length + 1) delay ++ restoring a₀.session.host a₀.scheduler id ++
          calls.map (.asked ·.request)) a (.waiting n)

variable {a₀ : Agent} {fs : List Failure} {rest done : List Act} {p : RunProgress}

/-- After the answer to a repeated report. -/
theorem resumeReport_spec (a : Agent) (cause : SessionError) (n : Nat) (call : StatusCall)
    (answer : Except ClientError Unit) :
    (a.resumeReport cause n call answer).state.core = a.core ∧
      ∃ stage, (a.resumeReport cause n call answer).result = .waiting stage ∧
        Reports cause n stage := by
  rcases hu : call.finish a.cloud answer with ⟨cloud, es, outcome⟩
  obtain ⟨hstate, -, hn⟩ := repeatReady_spec { a with cloud } cause n
  have hready : ∃ stage, ({ a with cloud }.repeatReady cause n).result = .waiting stage ∧
      Reports cause n stage := by
    rcases hn with hn | ⟨-, call', hn⟩
    · exact ⟨_, hn, .inl rfl⟩
    · exact ⟨_, hn, .inr (.inr ⟨call', rfl⟩)⟩
  simp only [resumeReport, finishReport, onCloud, hu, Turn.within, Turn.andThen]
  cases call.report with
  | running =>
    rcases outcome with e | ⟨⟨⟩⟩
    · dsimp only [logging]
      rw [hstate]
      exact ⟨rfl, hready⟩
    · dsimp only
      rw [hstate]
      exact ⟨rfl, hready⟩
  | ready _ | stop =>
    rcases outcome with e | ⟨⟨⟩⟩ <;> exact ⟨rfl, _, rfl, .inl rfl⟩

/-- An attempt begins after some failed ones. -/
theorem stands_beginAttempt (cause : SessionError)
    (ha : a.Holds a₀.config (afterFailures a₀.session fs.length) a₀.scheduler) (draw : Nat) :
    let t := a.beginAttempt cause (fs.length + 1) draw
    Stands cause a₀ fs (t.effects.filterMap Act.ofEffect? ++
      (t.result.stage?.bind t.state.awaits?).toList.map .asked) t.state t.result := by
  cases h : a₀.config.reconnect.schedule (fs.length + 1) with
  | none =>
    simp only [beginAttempt_of_none (ha.config ▸ h)]
    exact .gaveUp h ha
  | some policy =>
    obtain ⟨delay, hdelay, hbegin⟩ := beginAttempt_of_some (ha.config ▸ h) cause draw
    simp only [hbegin]
    exact .pausing h hdelay ha

/-- The next attempt after some failed ones. -/
theorem attempting_succ (s : Session) (n : Nat) :
    { afterFailures s n with state := .connecting, epoch := (afterFailures s n).epoch + 1 } =
      attempting s (n + 1) := by
  unfold afterFailures attempting
  split_ifs with h
  · simp [h]
  · simp [Nat.add_assoc]

/-- The section after the delay, if there is no session. -/
theorem afterPause_eq (hs : a.session.state = .closed ∨ a.session.state = .disconnected)
    (cause : SessionError) (n draw : Nat) :
    a.afterPause cause n draw =
      { state := { a with
          session := { a.session with state := .connecting, epoch := a.session.epoch + 1 } }
        effects := [.publish (.of .sessionConnecting),
          .log ⟨.debug, Session.target, "connecting to controller",
            [("address", a.session.address)]⟩]
        result :=
          .waiting (.recovering cause n (.connecting (.dialing (a.session.epoch + 1)))) } := by
  by_cases hclosed : a.session.state = .closed
  · rw [afterPause_of_closed hclosed, onSession, Session.beginConnect_of_disconnected rfl]
    rfl
  · rw [afterPause_of_ne hclosed, onSession,
      Session.beginConnect_of_disconnected (hs.resolve_left hclosed)]
    rfl

/-- The delay has passed: the session manager dials. -/
theorem Stands.dials {delay : Duration} {t : Turn Agent RunProgress} {policy : Backoff}
    (hclosed : a₀.session.state = .closed)
    (hp : a₀.config.reconnect.schedule (fs.length + 1) = some policy)
    (hd : policy.IsDelay fs.length delay)
    (hb : b.Holds a₀.config (afterFailures a₀.session fs.length) a₀.scheduler)
    (ht : b.resumeRecovery d cause (fs.length + 1) (.pausing delay) = some t) :
    Stands cause a₀ fs
      ([.told (scheduled cause (fs.length + 1) delay)] ++ acts d b (some (.pausing delay)) t)
      t.state t.result := by
  have hstate : b.session.state = if fs.length = 0 then .closed else .disconnected := by
    rw [hb.session, afterFailures]
    split_ifs
    · exact hclosed
    · rfl
  simp only [resumeRecovery] at ht
  split_ifs at ht with helapsed
  obtain rfl := Option.some.inj ht
  rw [afterPause_eq (by rw [hstate]; split_ifs <;> simp)]
  have hacts : [.told (scheduled cause (fs.length + 1) delay)] ++
      acts d b (some (.pausing delay))
        { state := { b with
            session := { b.session with state := .connecting, epoch := b.session.epoch + 1 } }
          effects := [.publish (.of .sessionConnecting),
            .log ⟨.debug, Session.target, "connecting to controller",
              [("address", b.session.address)]⟩]
          result := .waiting (.recovering cause (fs.length + 1)
            (.connecting (.dialing (b.session.epoch + 1)))) } =
        opening cause (fs.length + 1) delay := by
    by_cases hfirst : fs.length = 0 <;>
      simp [acts, opening, hstate, helapsed, hfirst, Act.ofEffect?, awaits?, request?]
  rw [hacts]
  refine .dialing hp hd ⟨hb.config, ?_, hb.scheduler⟩ ?_
  · rw [← attempting_succ, ← hb.session]
  · rw [hb.session]
    exact congrArg Session.epoch (attempting_succ a₀.session fs.length)

/-- An attempt fails, and another one begins if the settings allow it. -/
theorem stands_of_failed (f : Failure) {e : Nat} (he : e = a₀.session.epoch + (fs.length + 1))
    (hb : b.Holds a₀.config (attempting a₀.session (fs.length + 1)) a₀.scheduler) (draw : Nat) :
    let t := continueConnect cause (fs.length + 1) draw
      (((b.session.finishConnect e (.error f.error)).map .done).within
          fun session => { b with session })
    ∃ rest, failed cause a₀.session.host fs ++ (opening cause (fs.length + 1) f.delay ++
        if f.greeted then [.asked (.connect a₀.session.host)] else []) ++
          (.attempted (.error f.error) :: (t.effects.filterMap Act.ofEffect? ++
            (t.result.stage?.bind t.state.awaits?).toList.map .asked)) =
        failed cause a₀.session.host (fs ++ [f]) ++ rest ∧
      Stands cause a₀ (fs ++ [f]) rest t.state t.result := by
  have hepoch : b.session.epoch = e := by rw [hb.session, he]; rfl
  have hstate : b.session.state = .connecting := by rw [hb.session]; rfl
  let c : Agent := { b with session := { b.session with state := .disconnected } }
  have hc : c.Holds a₀.config (afterFailures a₀.session (fs ++ [f]).length) a₀.scheduler := by
    refine ⟨hb.config, ?_, hb.scheduler⟩
    simp only [c, hb.session, List.length_append, List.length_singleton]
    rfl
  have hnext := stands_beginAttempt cause hc draw
  rw [List.length_append, List.length_singleton] at hnext
  rw [Session.finishConnect_error hepoch hstate]
  simp only [Turn.map, Turn.within, continueConnect_failed]
  refine ⟨_, ?_, hnext⟩
  rw [failed_concat]
  simp only [Failure.acts, List.append_assoc, List.filterMap_append]
  rfl

/-- An attempt succeeds: the heartbeats are started, and the reports are repeated. -/
theorem stands_of_opened {e : Nat} {policy : Backoff} {delay : Duration}
    (hp : a₀.config.reconnect.schedule (fs.length + 1) = some policy)
    (hd : policy.IsDelay fs.length delay)
    (he : e = a₀.session.epoch + (fs.length + 1))
    (hb : b.Holds a₀.config (attempting a₀.session (fs.length + 1)) a₀.scheduler) (id : String)
    (draw : Nat) :
    let t := continueConnect cause (fs.length + 1) draw
      (((b.session.finishConnect e (.ok id)).map .done).within
          fun session => { b with session })
    Stands cause a₀ fs (opening cause (fs.length + 1) delay ++
      [.asked (.connect a₀.session.host), .attempted (.ok id)] ++
        t.effects.filterMap Act.ofEffect? ++
        (t.result.stage?.bind t.state.awaits?).toList.map .asked) t.state t.result := by
  have hepoch : b.session.epoch = e := by rw [hb.session, he]; rfl
  have hstate : b.session.state = .connecting := by rw [hb.session]; rfl
  rw [Session.finishConnect_ok hepoch hstate]
  simp only [Turn.map, Turn.within, continueConnect_opened]
  let c : Agent := { b with
    session := { b.session with state := .active, live := some { id } }
    scheduler := b.scheduler.start.state }
  have hc : c.Holds a₀.config (reopened a₀.session (fs.length + 1) id) a₀.scheduler.start.state :=
    ⟨hb.config, by simp only [c, hb.session]; rfl, by simp only [c, hb.scheduler]⟩
  obtain ⟨hsame, -, n, hn, hstages⟩ := repeatReports_spec c cause (fs.length + 1)
  have hshows := repeatReports_shows c cause (fs.length + 1)
  obtain ⟨calls, hcalls⟩ := Reports.exists_calls hstages c
  simp only [c] at hsame hn hshows hcalls
  have hstands : Stands cause a₀ fs _ c (.waiting n) := .restored id calls n hp hd hc hstages
  rw [hsame, hn]
  convert hstands using 2
  · rw [List.append_assoc, restoring, ← start_shows, ← hb.scheduler]
    simp only [List.filterMap_append, List.filterMap_cons, List.filterMap_nil, hshows,
      Act.ofEffect?, List.append_nil]
    rfl
  · exact hcalls

/-- The acts of a section with an answer to an attempt. -/
theorem acts_connecting {stage : Connect} {answer : (stage.request b.session.host).Answer}
    (hreply : d.reply (stage.request b.session.host) = some answer) (t : Turn Agent RunProgress) :
    acts d b (some (.connecting stage)) t = (stage.outcome? answer).toList.map .attempted ++
      (t.effects.filterMap Act.ofEffect? ++
        (t.result.stage?.bind t.state.awaits?).toList.map .asked) := by
  simp only [acts, hreply, Option.bind_some, List.append_assoc]

/-- A report has been answered: the recovery is over, or another report is made. -/
theorem stands_of_reported {id : String} {calls : List StatusCall} {policy : Backoff}
    {delay : Duration} (hp : a₀.config.reconnect.schedule (fs.length + 1) = some policy)
    (hd : policy.IsDelay fs.length delay)
    (hb : b.Holds a₀.config (reopened a₀.session (fs.length + 1) id) a₀.scheduler.start.state)
    (call : StatusCall) (answer : Except ClientError Unit) :
    let t := b.resumeReport cause (fs.length + 1) call answer
    Stands cause a₀ fs
      (opening cause (fs.length + 1) delay ++ restoring a₀.session.host a₀.scheduler id ++
        calls.map (.asked ·.request) ++ (t.effects.filterMap Act.ofEffect? ++
          (t.result.stage?.bind t.state.awaits?).toList.map .asked)) t.state t.result := by
  obtain ⟨hcore, stage, hresult, hstage⟩ := resumeReport_spec b cause (fs.length + 1) call answer
  intro t
  obtain ⟨calls', hcalls⟩ := hstage.exists_calls t.state
  have ht : t.state.Holds a₀.config (reopened a₀.session (fs.length + 1) id)
      a₀.scheduler.start.state :=
    ⟨(congrArg Core.config hcore).trans hb.config, (congrArg Core.session hcore).trans hb.session,
      (congrArg Core.scheduler hcore).trans hb.scheduler⟩
  have hstands : Stands cause a₀ fs _ t.state _ :=
    .restored id (calls ++ calls') stage hp hd ht hstage
  have hshows : t.effects.filterMap Act.ofEffect? = [] := resumeReport_shows ..
  rw [hshows, show t.result = _ from hresult]
  simpa [hcalls] using hstands

/-- Every section of a recovery leads from one place to another. -/
theorem Stands.step {stage : Recovery} {cause' : SessionError} {t : Turn Agent RunProgress}
    (h : Stands cause a₀ fs rest a (.waiting (.recovering cause' n stage)))
    (hclosed : a₀.session.state = .closed) (hb : a.Undisturbed b)
    (ht : b.resumeRecovery d cause' n stage = some t) :
    ∃ gs rest', failed cause a₀.session.host fs ++ rest ++ acts d b (some stage) t =
        failed cause a₀.session.host gs ++ rest' ∧
      (Tried a₀.config.reconnect fs → Tried a₀.config.reconnect gs) ∧
      Stands cause a₀ gs rest' t.state t.result := by
  cases h with
  | pausing hp hd ha =>
    exact ⟨fs, _, List.append_assoc .., id, .dials hclosed hp hd (ha.undisturbed hb) ht⟩
  | @dialing _ policy delay e hp hd ha he =>
    have hb := ha.undisturbed hb
    obtain ⟨answer, hreply, rfl⟩ := Option.map_eq_some_iff.mp ht
    rw [acts_connecting hreply]
    cases answer with
    | ok channel =>
      refine ⟨fs, _, List.append_assoc .., id, ?_⟩
      have hstands : Stands cause a₀ fs
          (opening cause (fs.length + 1) delay ++ [.asked (.connect a₀.session.host)]) b
          (.waiting (.recovering cause (fs.length + 1) (.connecting (.greeting e)))) :=
        .greeting hp hd hb he
      rw [show a₀.session.host = b.session.host by rw [hb.session]; rfl] at hstands
      exact hstands
    | error e' =>
      -- the failed attempt is one more failure, and the next one begins in the same section
      let f : Failure := ⟨delay, false, e'⟩
      obtain ⟨rest', hacts, hstands⟩ := stands_of_failed f he hb d.draw
      refine ⟨fs ++ [f], rest', ?_, fun htried => htried.concat hp hd, hstands⟩
      rw [← hacts]
      simp only [f, List.append_assoc]
      rfl
  | @greeting _ policy delay e hp hd ha he =>
    have hb := ha.undisturbed hb
    obtain ⟨answer, hreply, rfl⟩ := Option.map_eq_some_iff.mp ht
    rw [acts_connecting hreply]
    have hresume : b.resumeConnect cause (fs.length + 1) d.draw (.greeting e) answer =
        continueConnect cause (fs.length + 1) d.draw
          (((b.session.finishConnect e (Request.accept (.connect b.session.host) answer)).map
            .done).within fun session => { b with session }) := rfl
    have houtcome : Connect.outcome? (.greeting e) answer =
        some (Request.accept (.connect b.session.host) answer) := rfl
    rw [hresume, houtcome]
    -- only what the answer is accepted as matters from here on
    generalize Request.accept (.connect b.session.host) answer = outcome
    cases outcome with
    | ok id =>
      have hstands : Stands cause a₀ fs _ _ _ := stands_of_opened hp hd he hb id d.draw
      refine ⟨fs, _, List.append_assoc .., fun h => h, ?_⟩
      simpa using hstands
    | error e' =>
      let f : Failure := ⟨delay, true, e'⟩
      obtain ⟨rest', hacts, hstands⟩ := stands_of_failed f he hb d.draw
      refine ⟨fs ++ [f], rest', ?_, fun htried => htried.concat hp hd, hstands⟩
      rw [← hacts]
      rfl
  | @restored _ policy delay id calls _ hp hd ha hn =>
    have hb := ha.undisturbed hb
    obtain ⟨call, hreporting, rfl, rfl⟩ : ∃ call, (stage = .running call ∨ stage = .readying call) ∧
        cause' = cause ∧ n = fs.length + 1 := by
      rcases hn with hn | ⟨call, hn⟩ | ⟨call, hn⟩
      · cases hn
      · obtain ⟨rfl, rfl, rfl⟩ := Run.recovering.inj hn
        exact ⟨call, .inl rfl, rfl, rfl⟩
      · obtain ⟨rfl, rfl, rfl⟩ := Run.recovering.inj hn
        exact ⟨call, .inr rfl, rfl, rfl⟩
    refine ⟨fs, _, List.append_assoc .., fun h => h, ?_⟩
    rcases hreporting with rfl | rfl <;>
      (obtain ⟨answer, -, rfl⟩ := Option.map_eq_some_iff.mp ht
       exact stands_of_reported hp hd hb call (call.answer answer))

/-! ### The whole recovery -/

/-- A recovery is in one of the places after its failed attempts. -/
theorem Recovers.stands (h : Recovers cause a₀ done a p) (hclosed : a₀.session.state = .closed) :
    ∃ fs rest, done = failed cause a₀.session.host fs ++ rest ∧
      Tried a₀.config.reconnect fs ∧ Stands cause a₀ fs rest a p := by
  induction h with
  | began d =>
    refine ⟨[], _, ?_, fun i f hi => by simp at hi,
      stands_beginAttempt cause ⟨rfl, rfl, rfl⟩ d.draw⟩
    simp [Agent.acts, failed]
  | goesOn h hb ht ih =>
    obtain ⟨fs, rest, rfl, htried, hstands⟩ := ih
    obtain ⟨gs, rest', hacts, htried', hstands'⟩ := hstands.step hclosed hb ht
    exact ⟨gs, rest', hacts, htried' htried, hstands'⟩

/-- A limited number of attempts can fail. -/
theorem Tried.length_le {policy : Backoff} {max : Nat} (h : Tried (.backoff policy max) fs)
    (hmax : max ≠ 0) : fs.length ≤ max := by
  by_contra hlt
  obtain ⟨q, hp, -⟩ := h max fs[max] (List.getElem?_eq_getElem (by omega))
  have := (Reconnect.schedule_succ_eq_some.mp hp).1
  omega

/-- The number of attempts to which some settings limit a recovery. -/
private def limit : Reconnect → Nat
  | .never => 0
  | .backoff _ max => max

end Agent

end FleetAgent
