import FleetAgent.Proofs.Agent.Loading
import FleetAgent.Proofs.Agent.Watching
import FleetAgent.Proofs.Session.Record

/-!
# The sections of an agent

What each section of an agent does to the core, given the stage at which its activity has waited,
and the stage to which it comes. The host uses the agent through its hooks; it does not drive the
session or the scheduler itself.

A recovery that waits for its delay or for its connection looks for several things at once. That it
looks at the shutdown of the agent before it goes on is a condition on the order in which it does,
so the sections in which it goes on are given under this condition.

## Main definitions

* `Agent.Origin`: what a section belongs to.
* `Agent.Shift`: what a section may do.

## Main results

* `Agent.shift_begin`, `Agent.shift_resume`: every section does one of these things.
* `Agent.Shift.recorded`: the record of the open session is right after every section.
-/

namespace FleetAgent.Agent

open Effect (spawned)

/-- What a section belongs to. -/
inductive Origin where
  /-- It is the first section of a call of the host. -/
  | call (op : Operation)
  /-- It is the next section of an activity that has waited at a stage. -/
  | stage (w : Activity)
  /-- It is the end of a call that is given up while it waits at a stage. -/
  | abandoned (w : Activity)
  /-- Another handle is registered in the context of the host. -/
  | registration

/-- Whether a section belongs to disabling before the session is taken down. -/
def Origin.Closes : Origin → Prop
  | call .disable | stage (.disable (.joining _)) => True
  | _ => False

/-- What a section may do to the core `c`: what it belongs to, the core afterwards, the heartbeat
loops that it starts as tasks, and the stage at which its activity now waits, if it does. The
shutdown is `minded` if recoveries look at it first. -/
inductive Shift (minded : Prop) (c : Core) :
    Origin → Core → List Nat → Option Activity → Prop
  /-- The activity ends, and nothing else. -/
  | ended (o : Origin) (ho : ¬ o.Closes) : Shift minded c o c [] none
  | registered (hr : c.registration.slot = none) :
      Shift minded c .registration { c with registration := ⟨some .other⟩ } [] none
  /-- The listener, a worker or a status call goes on. -/
  | background (o : Origin) (n : Activity)
      (hn : (∃ l, n = .listener l) ∨ (∃ i stage, n = .worker i stage) ∨
        ∃ call, n = .status call ∧ c.session.state.isEstablished) :
      Shift minded c o c [] (some n)
  -- loading
  | opening (hr : c.registration.slot = none) (hs : c.session.state = .disconnected) :
      Shift minded c (.call .load)
        { c with session := { c.session with state := .connecting, epoch := c.session.epoch + 1 } }
        [] (some (.load (.dialing (c.session.epoch + 1))))
  | dialled (e : Nat) :
      Shift minded c (.stage (.load (.dialing e))) c [] (some (.load (.greeting e)))
  | failed (stage : Connect) (hs : c.session.state = .connecting)
      (he : c.session.epoch = stage.epoch) :
      Shift minded c (.stage (.load stage))
        { c with session := { c.session with state := .disconnected } } [] none
  | loaded (stage : Connect) (id : String) (hs : c.session.state = .connecting)
      (he : c.session.epoch = stage.epoch) (hr : c.registration.slot = none) :
      Shift minded c (.stage (.load stage))
        { c with
          session := { c.session with state := .active, live := some { id } }
          registration := ⟨some .own⟩
          scheduler := c.scheduler.start.state }
        (spawned c.scheduler.start.effects) none
  | yielded (stage : Connect) (hs : c.session.state = .connecting)
      (he : c.session.epoch = stage.epoch) (hr : c.registration.slot ≠ none) :
      Shift minded c (.stage (.load stage))
        { c with session := { c.session with state := .disconnected, live := none } } [] none
  -- enabling
  | enabling (o : Origin) (stage : Enable) (hs : c.session.state.isEstablished) :
      Shift minded c o c [] (some (.enable stage))
  -- disabling
  | disabling (k : Nat) (hk : c.scheduler.slot = some k) :
      Shift minded c (.call .disable)
        { c with isStopping := true, scheduler := c.scheduler.stop.state.beginJoin.state } []
        (some (.disable (.joining k)))
  | disabled (n : Option Activity) (hk : c.scheduler.slot = none)
      (hn : n = none ∨ n = some (.disable .flushing)) :
      Shift minded c (.call .disable)
        { c with isStopping := true, session := c.session.disconnect.state } [] n
  | joined (k : Nat) (n : Option Activity) (hn : n = none ∨ n = some (.disable .flushing)) :
      Shift minded c (.stage (.disable (.joining k)))
        { c with session := c.session.disconnect.state } [] n
  -- running
  | lined (ticket : Nat) : Shift minded c (.call .run) c [] (some (.run ticket .queued))
  | watching (ticket : Nat) (stage : Run) :
      Shift minded c (.stage (.run ticket stage)) c [] (some (.run ticket .watching))
  | shut (ticket : Nat) (stage : Run) :
      Shift minded c (.stage (.run ticket stage)) { c with isStopping := true } [] none
  | noticed (ticket : Nat) (t : Termination) (q : NoticeQueue) (n : Option Activity)
      (hq : c.notices.pop? = some (t, q))
      (hn : n = none ∨ ∃ cause delay, t = .lost cause ∧
        n = some (.run ticket (.recovering cause 1 (.pausing delay)))) :
      Shift minded c (.stage (.run ticket .watching)) { c with notices := q } [] n
  | reopening (ticket attempt : Nat) (cause : SessionError) (delay : Duration)
      (hm : minded → c.isStopping = false)
      (hs : c.session.state = .closed ∨ c.session.state = .disconnected) :
      Shift minded c (.stage (.run ticket (.recovering cause attempt (.pausing delay))))
        { c with session := { c.session with state := .connecting, epoch := c.session.epoch + 1 } }
        [] (some (.run ticket (.recovering cause attempt
          (.connecting (.dialing (c.session.epoch + 1))))))
  | redialled (ticket attempt : Nat) (cause : SessionError) (e : Nat)
      (hm : minded → c.isStopping = false) :
      Shift minded c
        (.stage (.run ticket (.recovering cause attempt (.connecting (.dialing e))))) c []
        (some (.run ticket (.recovering cause attempt (.connecting (.greeting e)))))
  | refailed (ticket attempt : Nat) (cause : SessionError) (stage : Connect)
      (n : Option Activity) (hm : minded → c.isStopping = false)
      (hs : c.session.state = .connecting) (he : c.session.epoch = stage.epoch)
      (hn : n = none ∨
        ∃ delay, n = some (.run ticket (.recovering cause (attempt + 1) (.pausing delay)))) :
      Shift minded c (.stage (.run ticket (.recovering cause attempt (.connecting stage))))
        { c with session := { c.session with state := .disconnected } } [] n
  | recovered (ticket attempt : Nat) (cause : SessionError) (stage : Connect) (id : String)
      (n : Run) (hm : minded → c.isStopping = false) (hs : c.session.state = .connecting)
      (he : c.session.epoch = stage.epoch)
      (hn : n = .watching ∨ (∃ call, n = .recovering cause attempt (.running call)) ∨
        ∃ call, n = .recovering cause attempt (.readying call)) :
      Shift minded c (.stage (.run ticket (.recovering cause attempt (.connecting stage))))
        { c with
          session := { c.session with state := .active, live := some { id } }
          scheduler := c.scheduler.start.state }
        (spawned c.scheduler.start.effects) (some (.run ticket n))
  | reporting (ticket attempt : Nat) (cause : SessionError) (stage : Recovery) (call : StatusCall)
      (hs : c.session.state.isEstablished) :
      Shift minded c (.stage (.run ticket (.recovering cause attempt stage))) c []
        (some (.run ticket (.recovering cause attempt (.readying call))))
  -- heartbeat loops
  | looped (k : Nat) (b : Option HeartBeat) (s : Session) (r : Scheduler) (q : NoticeQueue)
      (n : Option Activity)
      (hs : s = c.session ∨ s = c.session.beginBeat.state ∨
        ∃ now beat answer, s = (c.session.finishBeat now beat answer).state)
      (hr : c.scheduler.SameLoops r)
      (hn : n = none ∨ n = some (.loop k none) ∨ n = some (.loop k (some .own)) ∨
        ∃ beat, n = some (.loop k (some (.session beat))) ∧ s.state.isEstablished) :
      Shift minded c (.stage (.loop k b)) { c with session := s, scheduler := r, notices := q } [] n

variable {minded : Prop} {a : Agent}

/-- What a section of an agent does, as far as the core goes. -/
abbrev Does (minded : Prop) (a : Agent) (o : Origin) (t : ActivityTurn) : Prop :=
  Shift minded a.core o t.state.core (spawned t.effects) t.result.stage?

theorem Shift.of_eq {o : Origin} {c c' c'' : Core} {n n' : Option Activity}
    {loops loops' : List Nat} (h : Shift minded c o c' loops n) (hc : c'' = c')
    (hloops : loops' = loops) (hn : n' = n) : Shift minded c o c'' loops' n' := by
  subst hc hloops hn
  exact h

/-- Whether an activity may open a session again: a recovery that waits for its delay or for its
connection. -/
def mayReopen : Activity → Bool
  | .run _ (.recovering _ _ (.pausing _)) | .run _ (.recovering _ _ (.connecting _)) => true
  | _ => false

/-- The condition matters only to a recovery that may open a session again, once the agent is told
to shut down. -/
theorem Shift.imp {minded' : Prop} {o : Origin} {c c' : Core} {loops : List Nat}
    {n : Option Activity} (h : Shift minded c o c' loops n)
    (hm : minded' → ∀ w, o = .stage w → mayReopen w → c.isStopping → minded) :
    Shift minded' c o c' loops n := by
  have hstopping {w : Activity} (how : o = .stage w) (hw : mayReopen w)
      (h : minded → c.isStopping = false) : minded' → c.isStopping = false := fun hm' => by
    cases hs : c.isStopping with
    | false => rfl
    | true => exact hs ▸ h (hm hm' w how hw hs)
  cases h with
  | ended o ho => exact .ended o ho
  | registered hr => exact .registered hr
  | background o n hn => exact .background o n hn
  | opening hr hs => exact .opening hr hs
  | dialled e => exact .dialled e
  | failed stage hs he => exact .failed stage hs he
  | loaded stage id hs he hr => exact .loaded stage id hs he hr
  | yielded stage hs he hr => exact .yielded stage hs he hr
  | enabling o stage hs => exact .enabling o stage hs
  | disabling k hk => exact .disabling k hk
  | disabled n hk hn => exact .disabled n hk hn
  | joined k n hn => exact .joined k n hn
  | lined ticket => exact .lined ticket
  | watching ticket stage => exact .watching ticket stage
  | shut ticket stage => exact .shut ticket stage
  | noticed ticket t q n hq hn => exact .noticed ticket t q n hq hn
  | reopening ticket attempt cause delay h hs =>
    exact .reopening ticket attempt cause delay (hstopping rfl rfl h) hs
  | redialled ticket attempt cause e h =>
    exact .redialled ticket attempt cause e (hstopping rfl rfl h)
  | refailed ticket attempt cause stage n h hs he hn =>
    exact .refailed ticket attempt cause stage n (hstopping rfl rfl h) hs he hn
  | recovered ticket attempt cause stage id n h hs he hn =>
    exact .recovered ticket attempt cause stage id n (hstopping rfl rfl h) hs he hn
  | reporting ticket attempt cause stage call hs =>
    exact .reporting ticket attempt cause stage call hs
  | looped k b s r q n hs hr hn => exact .looped k b s r q n hs hr hn

/-! ### The record of the open session -/

/-- The record of the open session is right after every section of an agent. -/
theorem Shift.recorded {minded : Prop} {c c' : Core} {o : Origin} {loops : List Nat}
    {n : Option Activity} (h : Shift minded c o c' loops n) (hc : c.session.Recorded) :
    c'.session.Recorded := by
  have hnone (hs : c.session.state.isEstablished = false) : c.session.live = none :=
    hc.live_eq_none hs
  cases h with
  | ended | registered | background | dialled | enabling | disabling | lined | watching | shut
  | noticed | redialled | reporting => exact hc
  | opening hr hs => simp [Session.Recorded, hnone (by rw [hs]; rfl), SessionState.isEstablished]
  | reopening ticket attempt cause delay hm hs =>
    have hs : c.session.state.isEstablished = false := by rcases hs with hs | hs <;> rw [hs] <;> rfl
    simp [Session.Recorded, hnone hs, SessionState.isEstablished]
  | failed stage hs | refailed ticket attempt cause stage n hm hs =>
    simp [Session.Recorded, hnone (by rw [hs]; rfl), SessionState.isEstablished]
  | loaded | recovered | yielded => simp [Session.Recorded, SessionState.isEstablished]
  | disabled | joined => exact hc.disconnect
  | looped k b s r q n hs hr hn =>
    rcases hs with rfl | rfl | ⟨now, beat, answer, rfl⟩
    · exact hc
    · obtain ⟨d, hd⟩ := c.session.exists_shift_beginBeat
      exact hd.recorded hc fun session h => by cases h
    · obtain ⟨d, hd⟩ := c.session.exists_shift_finishBeat now beat answer
      exact hd.recorded hc fun session h => by cases h

/-! ### Loading -/

/-- What a section of loading belongs to, given the stage at which loading has waited. -/
def Origin.ofLoad : Option Connect → Origin
  | none => call .load
  | some s => stage (.load s)

/-- The sections of loading are among these. -/
theorem Loads.shift {c c' : Core} {stage? : Option Connect} {loops : List Nat}
    {p : Progress Connect (Except RuntimeError Unit)} (h : Loads c stage? c' loops p) :
    Shift minded c (.ofLoad stage?) c' loops (p.stage?.map .load) := by
  cases h with
  | taken | refused | overtaken => exact .ended _ id
  | opening hr hs => exact .opening hr hs
  | dialled e => exact .dialled e
  | failed stage e hs he => exact .failed stage hs he
  | loaded stage id hs he hr => exact .loaded stage id hs he hr
  | yielded stage hs he hr => exact .yielded stage hs he hr

theorem does_resumeLoad (stage : Connect) (answer : (stage.request a.session.host).Answer) :
    Does minded a (.stage (.load stage))
      ((a.resumeLoad stage answer).map (·.map .load (.ofUnit id))) :=
  .of_eq (loads_resume stage answer).shift rfl rfl (Progress.stage?_map ..)

theorem does_beginLoad :
    Does minded a (.call .load) (a.beginLoad.map (·.map .load (.ofUnit id))) :=
  .of_eq loads_begin.shift rfl rfl (Progress.stage?_map ..)

/-! ### Enabling and status calls -/

theorem does_report (report : Report) :
    Does minded a (.call (.report report))
      { state := a
        result := (a.session.beginStatus report).map .status (.ofUnit .session) } := by
  cases h : a.session.beginStatus report with
  | waiting call =>
    exact .background _ (.status call)
      (.inr (.inr ⟨call, rfl, isEstablished_of_beginStatus h⟩))
  | done r => exact .ended _ id

theorem does_beginEnable :
    Does minded a (.call .enable) (a.beginEnable.map (·.map .enable (.ofUnit id))) := by
  simp only [beginEnable]
  cases h : a.session.beginStatus .running with
  | waiting call => exact .enabling _ (.running call) (isEstablished_of_beginStatus h)
  | done r => exact .ended _ id

theorem does_resumeEnable (stage : Enable) (answer : Except ClientError Unit) :
    Does minded a (.stage (.enable stage))
      ((a.resumeEnable stage answer).map (·.map .enable (.ofUnit id))) := by
  have hes := stage.call.spawned_finish a.cloud answer
  rcases hu : stage.call.finish a.cloud answer with ⟨cloud, es, outcome⟩
  rw [hu] at hes
  simp only [resumeEnable, onCloud, hu, Turn.within, Turn.andThen]
  cases outcome with
  | error e => exact .of_eq (.ended _ id) rfl (by simp [hes]) rfl
  | ok =>
    cases stage with
    | readying call => exact .of_eq (.ended _ id) rfl (by simp [hes]) rfl
    | running call =>
      dsimp only
      split_ifs
      · cases h : a.session.beginStatus (.ready true) with
        | waiting call' =>
          have hshift : Shift minded a.core _ _ _ _ :=
            .enabling (.stage (.enable (.running call))) (.readying call')
              (isEstablished_of_beginStatus h)
          exact .of_eq hshift rfl (by simp [hes]) rfl
        | done r => exact .of_eq (.ended _ id) rfl (by simp [hes]) rfl
      · exact .of_eq (.ended _ id) rfl (by simp [hes]) rfl

theorem does_status (call : StatusCall) (answer : Except ClientError Unit) :
    Does minded a (.stage (.status call))
      (immediate (a.onCloud fun cloud => call.finish cloud answer) (.ofUnit .session)) :=
  .of_eq (.ended _ id) rfl (call.spawned_finish a.cloud answer) rfl

/-! ### Disabling -/

/-- After the heartbeat loop the session is taken down, and the listener is waited for unless
somebody has done so. -/
theorem afterJoin_spec (a : Agent) (inTime : Bool) :
    (a.afterJoin inTime).state.core = { a.core with session := a.session.disconnect.state } ∧
      spawned (a.afterJoin inTime).effects = [] ∧
      ((a.afterJoin inTime).result.stage? = none ∨
        (a.afterJoin inTime).result.stage? = some .flushing) := by
  cases inTime <;> cases h : a.holdsListener <;>
    simp [afterJoin, afterGrace, logging, onSession, beginFlush, h, core]

private theorem stage?_map_disable {p : Progress Disable (Except RuntimeError Unit)}
    (h : p.stage? = none ∨ p.stage? = some .flushing) :
    (p.map Activity.disable (Outcome.ofUnit id)).stage? = none ∨
      (p.map Activity.disable (Outcome.ofUnit id)).stage? = some (.disable .flushing) := by
  cases p with
  | waiting stage => simpa using h
  | done r => exact .inl rfl

theorem does_beginDisable :
    Does minded a (.call .disable) (a.beginDisable.map (·.map .disable (.ofUnit id))) := by
  have hes := spawned_requestShutdown a
  simp only [beginDisable, onScheduler, Turn.andThen, Turn.within, state_requestShutdown]
  cases hk : a.scheduler.slot with
  | none =>
    simp only [Scheduler.stop_of_none hk, Scheduler.beginJoin_of_none hk]
    obtain ⟨hc, hes', hn⟩ := afterJoin_spec { a with isStopping := true } true
    exact .of_eq (.disabled _ hk (stage?_map_disable hn)) hc (by simp [hes, hes']) rfl
  | some k =>
    have hjoin := Scheduler.beginJoin_of_some ((Scheduler.slot_stop a.scheduler).trans hk)
    have hshift : Shift minded a.core _ _ _ _ := .disabling k hk
    have hstate : a.core.scheduler.stop.state.beginJoin.state = _ := congrArg Turn.state hjoin
    rw [hstate] at hshift
    simp only [hjoin]
    exact .of_eq hshift rfl (by simp [hes]) rfl

theorem does_resumeDisable (stage : Disable) (inTime : Bool) :
    Does minded a (.stage (.disable stage))
      ((a.resumeDisable stage inTime).map (·.map .disable (.ofUnit id))) := by
  cases stage with
  | joining k =>
    obtain ⟨hc, hes, hn⟩ := afterJoin_spec a inTime
    exact .of_eq (.joined k _ (stage?_map_disable hn)) hc hes rfl
  | flushing => cases inTime <;> exact .ended _ id

/-! ### Running -/

/-- The sections of a call that runs are among these. -/
theorem Watches.shift {d : Delivery} {stage : Run} {c : Core} {loops : List Nat} {p : RunProgress}
    (h : Watches a d stage c loops p) (ticket : Nat) :
    Shift (Minds d.order) a.core (.stage (.run ticket stage)) c loops
      (p.stage?.map (Activity.run ticket)) := by
  have hattempt {cause : SessionError} {attempt : Nat} {p : RunProgress}
      (hp : Attempts a.config.reconnect cause attempt p) :
      p.stage?.map (Activity.run ticket) = none ∨ ∃ delay,
        p.stage?.map (Activity.run ticket) =
          some (.run ticket (.recovering cause attempt (.pausing delay))) := by
    cases hp with
    | gaveUp => exact .inl rfl
    | pausing delay => exact .inr ⟨delay, rfl⟩
  cases h with
  | failed | stopped | barred | overtaken => exact .ended _ id
  | shut => exact .shut ticket stage
  | requested q hq => exact .noticed ticket _ q none hq (.inl rfl)
  | lost cause q p hq hp =>
    refine .noticed ticket _ q _ hq ((hattempt hp).imp_right ?_)
    exact fun ⟨delay, h⟩ => ⟨cause, delay, rfl, h⟩
  | reopening cause attempt delay hm hs => exact .reopening ticket attempt cause delay hm hs
  | redialled cause attempt e hm => exact .redialled ticket attempt cause e hm
  | refailed cause attempt stage p hm hs he hp =>
    exact .refailed ticket attempt cause stage _ hm hs he (hattempt hp)
  | recovered cause attempt stage id n hm hs he hn =>
    exact .recovered ticket attempt cause stage id n hm hs he hn
  | reported cause attempt stage n hstage hn =>
    rcases hn with rfl | ⟨hs, call, rfl⟩
    · exact .watching ticket _
    · exact .reporting ticket attempt cause stage call hs

theorem does_resumeRun (ticket : Nat) (d : Delivery) (stage : Run) {t : Turn Agent RunProgress}
    (h : a.resumeRun d stage = some t) :
    Does (Minds d.order) a (.stage (.run ticket stage)) (closeRun ticket t) := by
  obtain ⟨hcore, hes, hresult⟩ := closeRun_spec ticket t
  exact .of_eq ((watches_resumeRun h).shift ticket) hcore hes
    ((congrArg Progress.stage? hresult).trans (Progress.stage?_map ..))

/-! ### Heartbeat loops -/

theorem loopAfterBeat_spec (a : Agent) (k : Nat) (outcome : Except SessionError BeatOutcome) :
    ∃ r q, (a.loopAfterBeat k outcome).state.core =
        { a.core with scheduler := r, notices := q } ∧ a.scheduler.SameLoops r ∧
      spawned (a.loopAfterBeat k outcome).effects = [] ∧
      ((a.loopAfterBeat k outcome).result.stage? = none ∨
        (a.loopAfterBeat k outcome).result.stage? = some (.loop k none)) := by
  refine ⟨_, _, rfl, a.scheduler.sameLoops_finishBeat a.notices k outcome,
    a.scheduler.spawned_finishBeat a.notices k outcome, ?_⟩
  simp only [loopAfterBeat, Turn.result_map]
  cases (a.onLoop fun s q => s.finishBeat q k outcome).result with
  | ended => exact .inl rfl
  | again | blocked | beat => exact .inr rfl

/-- The section of a loop after a heartbeat of the session. -/
theorem does_finishBeat (k : Nat) (b : Option HeartBeat) (now : Instant) (beat : Beat)
    (answer : Except ClientError HeartbeatReply) :
    Does minded a (.stage (.loop k b))
      ((a.onSession (·.finishBeat now beat answer)).andThen fun outcome a =>
        a.loopAfterBeat k outcome) := by
  obtain ⟨r, q, hc, hr, hes, hn⟩ := loopAfterBeat_spec
    { a with session := (a.session.finishBeat now beat answer).state } k
    (a.session.finishBeat now beat answer).result
  refine .of_eq (.looped k b _ r q _ (.inr (.inr ⟨now, beat, answer, rfl⟩)) hr ?_) hc ?_ rfl
  · exact hn.imp_right .inl
  · simp only [Turn.effects_andThen, Effect.spawned_append, onSession, Turn.effects_within,
      Session.spawned_finishBeat, List.nil_append]
    exact hes

/-- The sections of a loop outside its heartbeats. -/
theorem does_advanceLoop (k : Nat) (now : Instant) {t : ActivityTurn}
    (h : a.advanceLoop k now = some t) : Does minded a (.stage (.loop k none)) t := by
  have hsame := a.scheduler.sameLoops_advance k now
  have hspawn := a.scheduler.spawned_advance k now
  have hplain (n : Option Activity) (hn : n = none ∨ n = some (.loop k none) ∨
      n = some (.loop k (some .own))) : Shift minded a.core (.stage (.loop k none))
        { a.core with scheduler := (a.scheduler.advance k now).state } [] n :=
    .looped k none _ _ _ n (.inl rfl) hsame (hn.imp_right (Or.imp_right .inl))
  simp only [advanceLoop] at h
  cases hr : (a.onScheduler (·.advance k now)).result with
  | blocked => simp [hr] at h
  | again =>
    simp only [hr] at h
    obtain rfl := Option.some.inj h
    exact .of_eq (hplain _ (.inr (.inl rfl))) rfl hspawn rfl
  | ended =>
    simp only [hr] at h
    obtain rfl := Option.some.inj h
    exact .of_eq (hplain _ (.inl rfl)) rfl hspawn rfl
  | beat =>
    cases hh : a.heart with
    | own =>
      simp only [hr, hh] at h
      obtain rfl := Option.some.inj h
      exact .of_eq (hplain _ (.inr (.inr rfl))) rfl hspawn rfl
    | session =>
      simp only [hr, hh] at h
      obtain rfl := Option.some.inj h
      simp only [onScheduler, onSession, Turn.andThen, Turn.within]
      cases hlive : a.session.established? with
      | none =>
        let b : Agent := { a with scheduler := (a.scheduler.advance k now).state }
        let outcome : Except SessionError BeatOutcome := .error (a.session.invalid "beat")
        obtain ⟨r, q, hc, hr', hes, hn⟩ := loopAfterBeat_spec b k outcome
        have hshift : Shift minded a.core (.stage (.loop k none)) _ [] _ :=
          .looped k none _ r q _ (.inl rfl) (hsame.trans hr') (hn.imp_right .inl)
        simp only [Session.beginBeat_of_none hlive]
        exact .of_eq hshift hc (by simpa [hspawn] using hes) rfl
      | some live =>
        have hbegin := Session.beginBeat_of_established hlive
        have hshift (beat : Beat) : Shift minded a.core (.stage (.loop k none)) _ [] _ :=
          .looped k none a.session.beginBeat.state (a.scheduler.advance k now).state a.notices
            (some (.loop k (some (.session beat)))) (.inr (.inl rfl)) hsame
            (.inr (.inr (.inr ⟨beat, rfl, by
              rw [hbegin]
              exact (Session.established?_eq_some_iff.mp hlive).1⟩)))
        rw [hbegin] at hshift
        simp only [hbegin]
        exact .of_eq (hshift _) rfl (by simp [hspawn]) rfl

/-- The section of a loop after a beat of a heart of its own. -/
theorem does_ownBeat (k : Nat) (b : Option HeartBeat) (beat : OwnBeat) :
    Does minded a (.stage (.loop k b)) (match beat with
      | .outcome result => a.loopAfterBeat k result
      | .broken => immediate (a.onScheduler (·.breakDown k)) fun _ => .finished) := by
  cases beat with
  | outcome result =>
    obtain ⟨r, q, hc, hr, hes, hn⟩ := loopAfterBeat_spec a k result
    exact .of_eq (.looped k b _ r q _ (.inl rfl) hr (hn.imp_right .inl)) hc hes rfl
  | broken =>
    exact .looped k b _ _ _ none (.inl rfl) (a.scheduler.sameLoops_breakDown k) (.inl rfl)

/-! ### The listener and the workers -/

private theorem listening (o : Origin) (l : Listener) :
    Shift minded a.core o a.core [] (some (.listener l)) :=
  .background o (.listener l) (.inl ⟨l, rfl⟩)

theorem does_forward (o : Origin) (l : Listener) (got : Received Notice) :
    Does minded a o ((a.forward l got).map (·.map .listener fun _ => .finished)) := by
  cases got with
  | item n => exact .of_eq (listening o l) rfl (a.fanout.spawned_emit n) rfl
  | lagged skipped => exact listening o l
  | empty | closed => exact listening o l

theorem does_listen (l : Listener) {t : Turn Agent (Progress Listener Unit)}
    (h : a.listen l = some t) :
    Does minded a (.stage (.listener l)) (t.map (·.map .listener fun _ => .finished)) := by
  obtain ⟨cursor, stage⟩ := l
  rcases hgot : a.bus.receive cursor with ⟨got, cursor'⟩
  cases stage with
  | following =>
    cases got with
    | item | lagged =>
      simp only [listen, hgot] at h
      obtain rfl := Option.some.inj h
      exact does_forward ..
    | empty | closed =>
      simp only [listen, hgot] at h
      split_ifs at h
      obtain rfl := Option.some.inj h
      exact listening ..
  | draining =>
    cases got with
    | item | lagged =>
      simp only [listen, hgot] at h
      obtain rfl := Option.some.inj h
      exact does_forward ..
    | empty | closed =>
      simp only [listen, hgot] at h
      obtain rfl := Option.some.inj h
      exact .of_eq (listening ..) rfl a.fanout.spawned_close rfl
  | closing i =>
    simp only [listen] at h
    split_ifs at h
    · obtain rfl := Option.some.inj h
      exact .ended _ id
    · obtain rfl := Option.some.inj h
      exact listening ..

private theorem working (stage : WorkerStage) (i : Nat) (p : Progress WorkerStage Unit) :
    Shift minded a.core (.stage (.worker i stage)) a.core []
      (p.map (Activity.worker i) fun _ => Outcome.finished).stage? := by
  cases p with
  | waiting stage => exact .background _ (.worker i stage) (.inr (.inl ⟨i, stage, rfl⟩))
  | done r => exact .ended _ id

theorem does_serve (i : Nat) (p : Progress WorkerStage Unit) :
    Does minded a (.stage (.worker i .idle))
      ((a.onFanout (·.serve i)).map fun _ => p.map (.worker i) fun _ => .finished) :=
  .of_eq (working _ i p) rfl (a.fanout.spawned_serve i) rfl

theorem does_finishWork (i : Nat) (n : Notice) :
    Does minded a (.stage (.worker i (.busy n)))
      ((a.onFanout (·.finish i n)).map (·.map (.worker i) fun _ => .finished)) :=
  .of_eq (working _ i (a.fanout.finish i n).result) rfl (a.fanout.spawned_finish i n) rfl

/-! ### All sections -/

/-- The calls of the host that drive the session or the scheduler themselves. -/
def drives : Operation → Bool
  | .connect | .beat | .disconnect | .reset | .start | .stop | .join _ => true
  | _ => false

/-- The activities that such calls leave behind while they wait. -/
def isDriven : Activity → Bool
  | .connect _ | .beat _ | .join _ _ => true
  | _ => false

/-- The first section of a call of the host that does not drive the session or the scheduler. -/
theorem shift_begin {op : Operation} (hop : drives op = false) :
    Does minded a (.call op) (a.begin op) := by
  cases op with
  | connect | beat | disconnect | reset | start | stop | join grace => cases hop
  | client | state | disableAutoReady | interval => exact .ended _ id
  | report r => exact does_report r
  | load => exact does_beginLoad
  | enable => exact does_beginEnable
  | disable => exact does_beginDisable
  | run => exact .lined a.nextWatcher

/-- The next section of an activity that such calls, or the agent itself, leave behind. -/
theorem shift_resume {d : Delivery} {w : Activity} (hw : isDriven w = false) {t : ActivityTurn}
    (h : a.resume d w = some t) : Does (Minds d.order) a (.stage w) t := by
  cases w with
  | connect | beat | join => cases hw
  | status call =>
    obtain ⟨answer, -, rfl⟩ := Option.map_eq_some_iff.mp h
    exact does_status call _
  | load stage =>
    obtain ⟨answer, -, rfl⟩ := Option.map_eq_some_iff.mp h
    exact does_resumeLoad stage answer
  | enable stage =>
    obtain ⟨answer, -, rfl⟩ := Option.map_eq_some_iff.mp h
    exact does_resumeEnable stage _
  | disable stage =>
    simp only [resume] at h
    split_ifs at h
    · obtain rfl := Option.some.inj h
      exact does_resumeDisable stage true
    · obtain rfl := Option.some.inj h
      exact does_resumeDisable stage false
  | run ticket stage =>
    cases stage with
    | queued =>
      simp only [resume] at h
      split_ifs at h
      obtain rfl := Option.some.inj h
      exact .watching ticket _
    | watching | recovering =>
      obtain ⟨t, ht, rfl⟩ := Option.map_eq_some_iff.mp h
      exact does_resumeRun ticket d _ ht
  | loop k b =>
    cases b with
    | none => exact does_advanceLoop k d.now h
    | some b =>
      cases b with
      | session beat =>
        obtain ⟨answer, -, rfl⟩ := Option.map_eq_some_iff.mp h
        exact does_finishBeat k _ d.now beat answer
      | own =>
        obtain ⟨beat, -, rfl⟩ := Option.map_eq_some_iff.mp h
        exact does_ownBeat k _ beat
  | listener l =>
    obtain ⟨t, ht, rfl⟩ := Option.map_eq_some_iff.mp h
    exact does_listen l ht
  | worker i stage =>
    cases stage with
    | idle =>
      obtain ⟨p, -, rfl⟩ := Option.map_eq_some_iff.mp h
      exact does_serve i p
    | busy n =>
      simp only [resume] at h
      split_ifs at h
      obtain rfl := Option.some.inj h
      exact does_finishWork i n

end FleetAgent.Agent
