import FleetAgent.Proofs.Agent.Attendance
import FleetAgent.Proofs.Session.Record
import Mathlib.Logic.Relation

/-!
# What sections make of the reports

The handle of the host remembers the readiness that was accepted last. Only the section that takes
up such an answer changes that; every other one spares what is remembered, and does to the session
manager what its own sections may do. A call that runs may end while it waits for the answer to a
report, and then does not take it up.

## Main definitions

* `Session.Becomes`: what the sections of a session manager make of it.
* `Agent.call?`: the status call for whose answer an activity waits.
* `Agent.granted?`: the status call whose acceptance a section takes up.
* `Agent.Spares`: what sections do that take up no answer to a status call.
* `Agent.Remembers`: what a section after a wait does to the readiness that is remembered.

## Main results

* `Agent.spares_begin`, `Agent.remembers_resume`: what every section does.
* `Agent.client_of_begin`, `Agent.client_of_resume`: every status call is made on the open session.
* `Agent.running_of_opens`: a recovery that opens a session of an enabled host reports that it runs.
* `Agent.readying_of_granted`: after that it reports again that the server accepts players.
-/

namespace FleetAgent

namespace Session

variable {s s' : Session}

/-- What sections in a row make of a session manager. -/
abbrev Becomes (s s' : Session) : Prop :=
  Relation.ReflTransGen (fun s s' => ∃ c displaced, Shift s c displaced s') s s'

theorem Becomes.of_shift {c : Option Call} {displaced : Bool} (h : Shift s c displaced s') :
    s.Becomes s' :=
  .single ⟨c, displaced, h⟩

theorem becomes_beginConnect (s : Session) : s.Becomes s.beginConnect.state := by
  by_cases h : s.state = .disconnected
  · rw [beginConnect_of_disconnected h]
    exact .of_shift (.opening h)
  · rw [beginConnect_of_ne h]

theorem becomes_finishConnect (s : Session) (stage : Connect) (answer : Except ClientError String) :
    s.Becomes (s.finishConnect stage.epoch answer).state := by
  by_cases h : s.epoch = stage.epoch ∧ s.state = .connecting
  · cases answer with
    | ok id =>
      rw [finishConnect_ok h.1 h.2]
      exact .of_shift (.opened stage id h.2 h.1)
    | error e =>
      rw [finishConnect_error h.1 h.2]
      exact .of_shift (.refused stage h.2 h.1)
  · rw [finishConnect_of_stale (not_and_or.mp h)]

theorem becomes_resumeConnect (s : Session) (stage : Connect)
    (answer : (stage.request s.host).Answer) :
    s.Becomes (Connect.resume s stage answer).state := by
  cases stage with
  | dialing e =>
    cases answer with
    | ok channel => exact .refl
    | error e' => exact becomes_finishConnect s (.dialing e) (.error e')
  | greeting e => exact becomes_finishConnect s (.greeting e) _

theorem becomes_disconnect (s : Session) : s.Becomes s.disconnect.state := by
  by_cases h : s.state = .closed
  · rw [disconnect_of_closed h]
  · rw [disconnect_of_ne h]
    exact (Becomes.of_shift (.closing h)).tail ⟨_, _, .closed none⟩

theorem becomes_reset (s : Session) : s.Becomes s.reset.state := by
  by_cases h : s.state = .closed
  · rw [reset_of_closed h]
    exact .of_shift (.reset h)
  · rw [reset_of_ne h]

theorem becomes_beginBeat (s : Session) : s.Becomes s.beginBeat.state :=
  s.exists_shift_beginBeat.elim fun _ => .of_shift

theorem becomes_finishBeat (s : Session) (now : Instant) (b : Beat)
    (answer : Except ClientError HeartbeatReply) : s.Becomes (s.finishBeat now b answer).state :=
  (s.exists_shift_finishBeat now b answer).elim fun _ => .of_shift

/-- Sections keep a record in the established states. -/
theorem Becomes.isSome_live (h : s.Becomes s') (hs : s.state.isEstablished → s.live.isSome) :
    s'.state.isEstablished → s'.live.isSome := by
  induction h with
  | refl => exact hs
  | tail _ hshift ih =>
    obtain ⟨c, displaced, hshift⟩ := hshift
    exact hshift.isSome_live ih

end Session

/-- The readiness that a status call reports, if it reports one. -/
def StatusCall.flag? (c : StatusCall) : Option Bool :=
  match c.report with
  | .ready accepts => some accepts
  | .running | .stop => none

/-- A readiness is remembered when it is accepted. -/
theorem StatusCall.ready_finish (c : StatusCall) (cloud : Cloud)
    (answer : Except ClientError Unit) :
    (c.finish cloud answer).state.ready =
      if answer.isOk then c.flag?.getD cloud.ready else cloud.ready := by
  obtain ⟨session, report⟩ := c
  cases answer with
  | error e => rfl
  | ok u => cases report <;> rfl

namespace Agent

/-- The status call for whose answer an activity waits. -/
def call? : Activity → Option StatusCall
  | .status call | .run _ (.recovering _ _ (.running call))
  | .run _ (.recovering _ _ (.readying call)) => some call
  | .enable stage => some stage.call
  | _ => none

/-- Whether an activity is a call that runs. -/
def isRun : Activity → Bool
  | .run _ _ => true
  | _ => false

/-- The status call whose acceptance a section takes up, given what the surroundings have brought,
the stage at which the activity has waited, and the stage to which it comes. A call that runs may
end instead. -/
def granted? (d : Delivery) (w : Activity) (stage? : Option Activity) : Option StatusCall :=
  (call? w).filter fun c => (d.reply c.request).any (fun answer => (c.answer answer).isOk) &&
    (!isRun w || stage?.isSome)

section Spares

variable {a b c : Agent} {ρ υ : Type}

/-- What is remembered of the readiness is the same in the agents `a` and `b`, and the sections of
the session manager lead from the one to the other. -/
structure Spares (a b : Agent) : Prop where
  ready : b.cloud.ready = a.cloud.ready
  session : a.session.Becomes b.session

/-- The same of a section. -/
abbrev SparesIn (a : Agent) (t : Turn Agent ρ) : Prop := Spares a t.state

theorem Spares.of_eq (hready : b.cloud.ready = a.cloud.ready) (hsession : b.session = a.session) :
    Spares a b :=
  ⟨hready, hsession ▸ .refl⟩

theorem Spares.refl (a : Agent) : Spares a a := .of_eq rfl rfl

theorem Spares.trans (h : Spares a b) (h' : Spares b c) : Spares a c :=
  ⟨h'.ready.trans h.ready, h.session.trans h'.session⟩

/-- A section that is followed by another one without a wait. -/
theorem SparesIn.andThen {t : Turn Agent ρ} {next : ρ → Agent → Turn Agent υ} (h : SparesIn a t)
    (hnext : ∀ r b, SparesIn b (next r b)) : SparesIn a (t.andThen next) :=
  h.trans (hnext t.result t.state)

theorem spares_onSession {f : Session → Turn Session ρ}
    (hf : a.session.Becomes (f a.session).state) :
    SparesIn a (a.onSession f) :=
  ⟨rfl, hf⟩

theorem spares_onScheduler (f : Scheduler → Turn Scheduler ρ) : SparesIn a (a.onScheduler f) :=
  .of_eq rfl rfl

end Spares

variable (a : Agent)

theorem spares_requestShutdown : SparesIn a a.requestShutdown := by
  rw [SparesIn, state_requestShutdown]
  exact .of_eq rfl rfl

/-! ### Loading, enabling and disabling -/

theorem spares_finishLoad (opened : Except SessionError String) :
    SparesIn a (a.finishLoad opened) := by
  unfold finishLoad
  cases opened with
  | error e => exact .refl a
  | ok session =>
    cases a.registration.setup .own with
    | error e =>
      exact (spares_onSession (Session.becomes_disconnect _)).andThen fun _ b =>
        spares_onSession (Session.becomes_reset _)
    | ok registration => exact .of_eq rfl rfl

theorem spares_continueLoad {t : Turn Agent (Progress Connect (Except SessionError String))}
    (h : SparesIn a t) : SparesIn a (continueLoad t) := by
  refine h.andThen fun progress b => ?_
  cases progress with
  | waiting stage => exact .refl b
  | done opened => exact spares_finishLoad b opened

theorem spares_beginLoad : SparesIn a a.beginLoad := by
  unfold beginLoad
  split_ifs
  · exact .refl a
  · exact spares_continueLoad a (spares_onSession (Session.becomes_beginConnect _))

/-- An answer to a status call is taken up. -/
theorem spares_heard (call : StatusCall) (answer : Except ClientError Unit) :
    SparesIn { a with cloud := (call.finish a.cloud answer).state }
      (a.onCloud fun cloud => call.finish cloud answer) :=
  .refl _

/-- Enabling takes up the answer to its report. -/
theorem spares_resumeEnable (stage : Enable) (answer : Except ClientError Unit) :
    SparesIn { a with cloud := (stage.call.finish a.cloud answer).state }
      (a.resumeEnable stage answer) := by
  refine (spares_heard a stage.call answer).andThen fun outcome b => ?_
  cases outcome with
  | error e => exact .refl b
  | ok u =>
    cases stage with
    | readying => exact .refl b
    | running =>
      dsimp only
      split_ifs <;> exact .of_eq rfl rfl

theorem spares_afterGrace (inTime : Bool) (message : String) :
    SparesIn a (a.afterGrace inTime message) := by
  rw [SparesIn, state_afterGrace]
  exact .refl a

theorem spares_afterJoin (inTime : Bool) : SparesIn a (a.afterJoin inTime) := by
  refine (spares_afterGrace a inTime _).andThen fun _ b => ?_
  refine (spares_onSession (Session.becomes_disconnect _)).andThen fun _ b => ?_
  unfold beginFlush
  split_ifs <;> exact .of_eq rfl rfl

theorem spares_beginDisable : SparesIn a a.beginDisable := by
  refine (spares_requestShutdown a).andThen fun _ b => ?_
  refine (spares_onScheduler _).andThen fun _ b => ?_
  refine (spares_onScheduler _).andThen fun progress b => ?_
  cases progress with
  | waiting k => exact .refl b
  | done inTime => exact spares_afterJoin b inTime

theorem spares_resumeDisable (stage : Disable) (inTime : Bool) :
    SparesIn a (a.resumeDisable stage inTime) := by
  cases stage with
  | joining k => exact spares_afterJoin a inTime
  | flushing => exact spares_afterGrace a inTime _

/-! ### Running -/

theorem spares_onShutdown {κ : Type} (shutdown : Except String Unit) :
    SparesIn a (a.onShutdown (κ := κ) shutdown) := by
  cases shutdown with
  | error reason => exact .refl a
  | ok u => exact spares_requestShutdown a

theorem spares_beginAttempt (cause : SessionError) (attempt draw : Nat) :
    SparesIn a (a.beginAttempt cause attempt draw) := by
  rw [SparesIn, (beginAttempt_spec a cause attempt draw).1]
  exact .refl a

theorem spares_repeatReady (cause : SessionError) (attempt : Nat) :
    SparesIn a (a.repeatReady cause attempt) := by
  rw [SparesIn, (repeatReady_spec a cause attempt).1]
  exact .refl a

theorem spares_repeatReports (cause : SessionError) (attempt : Nat) :
    SparesIn a (a.repeatReports cause attempt) := by
  rw [SparesIn, (repeatReports_spec a cause attempt).1]
  exact .refl a

theorem spares_continueConnect (cause : SessionError) (attempt draw : Nat)
    {t : Turn Agent (Progress Connect (Except SessionError String))} (h : SparesIn a t) :
    SparesIn a (continueConnect cause attempt draw t) := by
  refine h.andThen fun progress b => ?_
  split
  · exact .refl b
  · refine SparesIn.andThen ?_ fun _ b => spares_repeatReports b cause attempt
    exact SparesIn.andThen (.refl b) fun _ b => spares_onScheduler _
  · exact SparesIn.andThen (.refl b) fun _ b => spares_beginAttempt b cause (attempt + 1) draw
  · exact .refl b

theorem spares_afterPause (cause : SessionError) (attempt draw : Nat) :
    SparesIn a (a.afterPause cause attempt draw) := by
  refine SparesIn.andThen ?_ fun outcome b => ?_
  · split_ifs
    · exact spares_onSession (Session.becomes_reset _)
    · exact .refl a
  · cases outcome with
    | error e => exact .refl b
    | ok u =>
      exact spares_continueConnect b cause attempt draw
        (spares_onSession (Session.becomes_beginConnect _))

theorem spares_onNotice {draw : Nat} {t : Turn Agent RunProgress} (ht : a.onNotice draw = some t) :
    SparesIn a t := by
  obtain ⟨⟨termination, notices⟩, -, rfl⟩ := Option.map_eq_some_iff.mp ht
  have hpop : Spares a { a with notices } := .of_eq rfl rfl
  cases termination with
  | requested => exact hpop
  | lost cause => exact hpop.trans (spares_beginAttempt { a with notices } cause 1 draw)

/-- A recovery takes up the answer to its report. -/
theorem spares_resumeReport (cause : SessionError) (attempt : Nat) (call : StatusCall)
    (answer : Except ClientError Unit) :
    SparesIn { a with cloud := (call.finish a.cloud answer).state }
      (a.resumeReport cause attempt call answer) := by
  refine (spares_heard a call answer).andThen fun outcome b => ?_
  cases call.report with
  | running =>
    refine SparesIn.andThen ?_ fun _ b => spares_repeatReady b cause attempt
    cases outcome <;> exact .refl b
  | ready | stop => cases outcome <;> exact .refl b

/-- The end of a call that runs. -/
theorem spares_closeRun (ticket : Nat) {t : Turn Agent RunProgress} (h : SparesIn a t) :
    SparesIn a (closeRun ticket t) := by
  refine h.andThen fun progress b => ?_
  cases progress with
  | waiting stage => exact .refl b
  | done result => exact .of_eq rfl rfl

theorem spares_lookout {order : List Concern} {shutdown : Option (Except String Unit)}
    {work : Option (Turn Agent RunProgress)} {t : Turn Agent RunProgress}
    (hwork : ∀ u, work = some u → SparesIn a u) (ht : a.lookout order shutdown work = some t) :
    SparesIn a t := by
  rcases lookout_eq_some ht with ⟨outcome, -, rfl⟩ | ⟨-, rfl⟩ | ⟨hu, -⟩
  · exact spares_onShutdown a outcome
  · exact .refl a
  · exact hwork t hu

theorem spares_resumeRun {d : Delivery} (ticket : Nat) {stage : Run} {t : Turn Agent RunProgress}
    (hw : call? (.run ticket stage) = none) (ht : a.resumeRun d stage = some t) : SparesIn a t := by
  cases stage with
  | queued => cases ht
  | watching => exact spares_lookout a (fun u hu => spares_onNotice a hu) ht
  | recovering cause attempt stage =>
    refine spares_lookout a (fun u hu => ?_) ht
    cases stage with
    | running | readying => cases hw
    | pausing delay =>
      simp only [resumeRecovery] at hu
      split_ifs at hu
      obtain rfl := Option.some.inj hu
      exact spares_afterPause a cause attempt d.draw
    | connecting stage =>
      obtain ⟨answer, -, rfl⟩ := Option.map_eq_some_iff.mp hu
      exact spares_continueConnect a cause attempt d.draw ⟨rfl, Session.becomes_resumeConnect ..⟩

/-! ### Heartbeat loops -/

theorem spares_advanceLoop {k : Nat} {now : Instant} {t : ActivityTurn}
    (ht : a.advanceLoop k now = some t) : SparesIn a t := by
  have hadvance : SparesIn a (a.onScheduler fun s => s.advance k now) := spares_onScheduler _
  unfold advanceLoop at ht
  dsimp only at ht
  split at ht
  · cases ht
  · obtain rfl := Option.some.inj ht
    exact hadvance
  · obtain rfl := Option.some.inj ht
    exact hadvance
  · split at ht
    · obtain rfl := Option.some.inj ht
      exact hadvance
    · obtain rfl := Option.some.inj ht
      refine hadvance.andThen fun _ b => ?_
      refine (spares_onSession (Session.becomes_beginBeat _)).andThen fun progress b => ?_
      cases progress with
      | waiting beat => exact .refl b
      | done outcome => exact .of_eq rfl rfl

/-! ### All sections -/

variable {a} {d : Delivery} {w : Activity} {c : StatusCall} {stage? : Option Activity}

/-- The first section of a call spares what is remembered. -/
theorem spares_begin (op : Operation) : SparesIn a (a.begin op) := by
  cases op with
  | connect => exact spares_onSession (Session.becomes_beginConnect _)
  | beat => exact spares_onSession (Session.becomes_beginBeat _)
  | disconnect => exact spares_onSession (Session.becomes_disconnect _)
  | reset => exact spares_onSession (Session.becomes_reset _)
  | load => exact spares_beginLoad a
  | disable => exact spares_beginDisable a
  | client | state | report | start | stop | join | interval | enable | disableAutoReady | run =>
    exact .of_eq rfl rfl

/-- The events that a section publishes are not what is remembered. -/
theorem spares_perform (a : Agent) (es : List Effect) : Spares a (a.perform es) := by
  induction es generalizing a with
  | nil => exact .refl a
  | cons e es ih =>
    rw [perform, List.foldl_cons, ← perform]
    exact Spares.trans (by cases e <;> exact .of_eq rfl rfl) (ih _)

theorem spares_abandon (w : Activity) : SparesIn a (a.abandon w) := by
  cases w <;> exact .of_eq rfl rfl

theorem granted?_of_none (hw : call? w = none) : granted? d w stage? = none := by
  rw [granted?, hw, Option.filter_none]

theorem granted?_of_ended (hw : isRun w) : granted? d w none = none := by
  simp [granted?, hw]

theorem granted?_of_reply (hw : call? w = some c) {answer : c.request.Answer}
    (hreply : d.reply c.request = some answer) (hruns : isRun w → stage?.isSome) :
    granted? d w stage? = if (c.answer answer).isOk then some c else none := by
  have hruns : (!isRun w || stage?.isSome) = true := by
    cases hrun : isRun w with
    | false => rfl
    | true => simpa using hruns hrun
  simp [granted?, hw, hreply, hruns, Option.filter]

/-- What a section does that takes up the answer to a status call. -/
theorem Spares.ready_of_reply (hw : call? w = some c) {answer : c.request.Answer}
    (hreply : d.reply c.request = some answer) (hruns : isRun w → stage?.isSome) {b : Agent}
    (h : Spares { a with cloud := (c.finish a.cloud (c.answer answer)).state } b) :
    b.cloud.ready = ((granted? d w stage?).bind StatusCall.flag?).getD a.cloud.ready := by
  rw [h.ready, StatusCall.ready_finish, granted?_of_reply hw hreply hruns]
  split_ifs <;> rfl

/-- A call that runs and waits for the answer to a report ends, or takes it up. -/
theorem resumeRun_of_call (ticket : Nat) {attempt : Nat} {cause : SessionError} {stage : Recovery}
    (hw : call? (.run ticket (.recovering cause attempt stage)) = some c)
    {t : Turn Agent RunProgress} (ht : a.resumeRun d (.recovering cause attempt stage) = some t) :
    (SparesIn a t ∧ t.result.stage? = none) ∨ ∃ answer, d.reply c.request = some answer ∧
      t = a.resumeReport cause attempt c (c.answer answer) := by
  rcases lookout_eq_some ht with ⟨outcome, -, rfl⟩ | ⟨-, rfl⟩ | ⟨hwork, -⟩
  · refine .inl ⟨spares_onShutdown a outcome, ?_⟩
    cases outcome <;> rfl
  · exact .inl ⟨.refl a, rfl⟩
  · cases stage with
    | pausing | connecting => cases hw
    | running call | readying call =>
      obtain rfl := Option.some.inj hw
      obtain ⟨answer, hreply, rfl⟩ := Option.map_eq_some_iff.mp hwork
      exact .inr ⟨answer, hreply, rfl⟩

/-- A recovery goes on after a report. -/
theorem isSome_stage?_resumeReport (cause : SessionError) (attempt : Nat) (call : StatusCall)
    (answer : Except ClientError Unit) :
    (a.resumeReport cause attempt call answer).result.stage?.isSome := by
  have hready (b : Agent) : (b.repeatReady cause attempt).result.stage?.isSome := by
    obtain ⟨-, -, h | ⟨-, call', h⟩⟩ := repeatReady_spec b cause attempt <;> rw [h] <;> rfl
  simp only [resumeReport, finishReport, Turn.result_andThen]
  cases call.report with
  | running => exact hready _
  | ready | stop => rfl

/-- A section after the wait of an activity remembers the readiness whose acceptance it takes up,
and spares what is remembered otherwise. -/
def Remembers (a : Agent) (d : Delivery) (w : Activity) (t : ActivityTurn) : Prop :=
  t.state.cloud.ready =
      ((granted? d w t.result.stage?).bind StatusCall.flag?).getD a.cloud.ready ∧
    a.session.Becomes t.state.session

theorem SparesIn.remembers {w : Activity} {t : ActivityTurn} (h : SparesIn a t)
    (hw : call? w = none) : Remembers a d w t := by
  rw [Remembers, granted?_of_none hw]
  exact ⟨h.ready, h.session⟩

theorem remembers_recovering {ticket attempt : Nat} {cause : SessionError} {stage : Recovery}
    {u : Turn Agent RunProgress} (hu : a.resumeRun d (.recovering cause attempt stage) = some u) :
    Remembers a d (.run ticket (.recovering cause attempt stage)) (closeRun ticket u) := by
  cases hw : call? (.run ticket (.recovering cause attempt stage)) with
  | none => exact (spares_closeRun a ticket (spares_resumeRun a ticket hw hu)).remembers hw
  | some c =>
    have hstage := congrArg Progress.stage? (closeRun_spec ticket u).2.2
    rw [Progress.stage?_map] at hstage
    rcases resumeRun_of_call ticket hw hu with ⟨hu, hended⟩ | ⟨answer, hreply, rfl⟩
    · have h := spares_closeRun a ticket hu
      rw [Remembers, hstage, hended, Option.map_none, granted?_of_ended rfl]
      exact ⟨h.ready, h.session⟩
    · have h := spares_closeRun _ ticket (spares_resumeReport a cause attempt c (c.answer answer))
      refine ⟨h.ready_of_reply hw hreply fun _ => ?_, h.session⟩
      rw [hstage, Option.isSome_map]
      exact isSome_stage?_resumeReport cause attempt c (c.answer answer)

theorem spares_resumeLoop {k : Nat} {beat : Option HeartBeat} {t : ActivityTurn}
    (ht : a.resume d (.loop k beat) = some t) : SparesIn a t := by
  cases beat with
  | none => exact spares_advanceLoop a ht
  | some beat =>
    cases beat with
    | own =>
      obtain ⟨beat, -, rfl⟩ := Option.map_eq_some_iff.mp ht
      cases beat <;> exact .of_eq rfl rfl
    | session beat =>
      obtain ⟨answer, -, rfl⟩ := Option.map_eq_some_iff.mp ht
      refine SparesIn.andThen ?_ fun outcome b => .of_eq rfl rfl
      exact spares_onSession (Session.becomes_finishBeat ..)

/-- What every later section does to the readiness that is remembered, and to the session. -/
theorem remembers_resume {t : ActivityTurn} (ht : a.resume d w = some t) : Remembers a d w t := by
  cases w with
  | connect stage =>
    obtain ⟨answer, -, rfl⟩ := Option.map_eq_some_iff.mp ht
    exact SparesIn.remembers ⟨rfl, Session.becomes_resumeConnect ..⟩ rfl
  | beat b =>
    obtain ⟨answer, -, rfl⟩ := Option.map_eq_some_iff.mp ht
    exact SparesIn.remembers ⟨rfl, Session.becomes_finishBeat ..⟩ rfl
  | status call =>
    obtain ⟨answer, hreply, rfl⟩ := Option.map_eq_some_iff.mp ht
    have h := spares_heard a call (call.answer answer)
    exact ⟨h.ready_of_reply rfl hreply (fun h => by cases h), h.session⟩
  | join loop grace =>
    simp only [resume] at ht
    split_ifs at ht <;> obtain rfl := Option.some.inj ht <;>
      exact SparesIn.remembers (.refl a) rfl
  | load stage =>
    obtain ⟨answer, -, rfl⟩ := Option.map_eq_some_iff.mp ht
    exact (spares_continueLoad a ⟨rfl, Session.becomes_resumeConnect ..⟩).remembers rfl
  | enable stage =>
    obtain ⟨answer, hreply, rfl⟩ := Option.map_eq_some_iff.mp ht
    have h := spares_resumeEnable a stage (stage.call.answer answer)
    exact ⟨h.ready_of_reply rfl hreply (fun h => by cases h), h.session⟩
  | disable stage =>
    simp only [resume] at ht
    split_ifs at ht <;> obtain rfl := Option.some.inj ht <;>
      exact (spares_resumeDisable a stage _).remembers rfl
  | run ticket stage =>
    cases stage with
    | queued =>
      simp only [resume] at ht
      split_ifs at ht
      obtain rfl := Option.some.inj ht
      exact SparesIn.remembers (.refl a) rfl
    | watching =>
      obtain ⟨u, hu, rfl⟩ := Option.map_eq_some_iff.mp ht
      exact (spares_closeRun a ticket (spares_resumeRun a ticket rfl hu)).remembers rfl
    | recovering cause attempt stage =>
      obtain ⟨u, hu, rfl⟩ := Option.map_eq_some_iff.mp ht
      exact remembers_recovering hu
  | loop k beat => exact (spares_resumeLoop ht).remembers rfl
  | listener | worker =>
    obtain ⟨fanout, listenerEnded, hstate⟩ :=
      exists_state_of_attends a rfl (fun _ h => by cases h) ht
    exact SparesIn.remembers (by rw [SparesIn, hstate]; exact .of_eq rfl rfl) rfl

/-! ### The session of a status call -/

theorem client_of_beginStatus {s : Session} {report : Report}
    (h : s.beginStatus report = .waiting c) :
    s.client = .ok c.session := by
  cases hclient : s.client with
  | error e => simp [Session.beginStatus, hclient] at h
  | ok session =>
    simp only [Session.beginStatus, hclient, Progress.waiting.injEq] at h
    rw [← h]

theorem client_of_repeatReady {cause : SessionError} {attempt ticket : Nat} {n : Run}
    (hn : (a.repeatReady cause attempt).result = .waiting n) (hc : call? (.run ticket n) = some c) :
    a.session.client = .ok c.session := by
  unfold repeatReady reportReady at hn
  split_ifs at hn
  · cases hs : a.session.beginStatus (.ready true) with
    | waiting call =>
      simp only [hs, Progress.waiting.injEq] at hn
      subst hn
      exact Option.some.inj hc ▸ client_of_beginStatus hs
    | done r =>
      have hn : Run.watching = n := by cases r <;> simpa [hs] using hn
      subst hn
      cases hc
  · cases hn
    cases hc

theorem client_of_repeatReports {cause : SessionError} {attempt ticket : Nat} {n : Run}
    (hn : (a.repeatReports cause attempt).result = .waiting n)
    (hc : call? (.run ticket n) = some c) :
    a.session.client = .ok c.session := by
  unfold repeatReports reportRunning at hn
  split_ifs at hn
  · cases hs : a.session.beginStatus .running with
    | waiting call =>
      simp only [hs, Progress.waiting.injEq] at hn
      subst hn
      exact Option.some.inj hc ▸ client_of_beginStatus hs
    | done r =>
      have hn : (a.repeatReady cause attempt).result = .waiting n := by
        cases r <;> simpa [hs, logging] using hn
      exact client_of_repeatReady hn hc
  · cases hn
    cases hc

theorem call?_of_attempts {r : Reconnect} {cause : SessionError} {attempt ticket : Nat} {n : Run}
    (h : Attempts r cause attempt (.waiting n)) : call? (.run ticket n) = none := by
  cases h
  rfl

theorem client_of_continueConnect {cause : SessionError} {attempt draw ticket : Nat} {n : Run}
    {u : Turn Agent (Progress Connect (Except SessionError String))}
    (hn : (continueConnect cause attempt draw u).result = .waiting n)
    (hc : call? (.run ticket n) = some c) :
    (continueConnect cause attempt draw u).state.session.client = .ok c.session := by
  obtain ⟨b, es, progress⟩ := u
  rcases progress with stage | (e | session)
  · cases hn
    cases hc
  · cases e with
    | connectionFailed e =>
      rw [continueConnect_failed] at hn
      have hattempts := (beginAttempt_spec b cause (attempt + 1) draw).2.2
      rw [hn] at hattempts
      cases (call?_of_attempts hattempts).symm.trans hc
    | _ => cases hn
  · rw [continueConnect_opened] at hn ⊢
    dsimp only at hn ⊢
    rw [(repeatReports_spec _ cause attempt).1]
    exact client_of_repeatReports hn hc

/-- After the report that the server is running, a recovery comes to the one that it accepts
players. -/
theorem result_resumeReport {cause : SessionError} {attempt : Nat} (hcall : c.report = .running)
    (answer : Except ClientError Unit) :
    (a.resumeReport cause attempt c answer).result =
      (({ a with cloud := (c.finish a.cloud answer).state } : Agent).repeatReady
        cause attempt).result := by
  simp only [resumeReport, finishReport, onCloud, Turn.result_andThen, Turn.state_within,
    Turn.result_within, hcall]
  cases (c.finish a.cloud answer).result <;> rfl

theorem session_resumeReport (cause : SessionError) (attempt : Nat) (call : StatusCall)
    (answer : Except ClientError Unit) :
    (a.resumeReport cause attempt call answer).state.session = a.session := by
  simp only [resumeReport, finishReport, onCloud, Turn.state_andThen, Turn.state_within,
    Turn.result_within]
  cases call.report with
  | running =>
    simp only [Turn.state_andThen, (repeatReady_spec _ cause attempt).1]
    cases (call.finish a.cloud answer).result <;> rfl
  | ready | stop => cases (call.finish a.cloud answer).result <;> rfl

theorem client_of_resumeReport {cause : SessionError} {attempt ticket : Nat} {n : Run}
    {call : StatusCall} {answer : Except ClientError Unit}
    (hn : (a.resumeReport cause attempt call answer).result = .waiting n)
    (hc : call? (.run ticket n) = some c) :
    (a.resumeReport cause attempt call answer).state.session.client = .ok c.session := by
  rw [session_resumeReport]
  cases hr : call.report with
  | running =>
    rw [result_resumeReport hr] at hn
    exact client_of_repeatReady (a := { a with cloud := (call.finish a.cloud answer).state }) hn hc
  | ready | stop =>
    simp only [resumeReport, finishReport, Turn.result_andThen, hr] at hn
    cases hn
    cases hc

/-- A call that runs makes its reports on the open session. -/
theorem client_of_resumeRun {ticket : Nat} {stage n : Run} {t : Turn Agent RunProgress}
    (ht : a.resumeRun d stage = some t) (hn : t.result = .waiting n)
    (hc : call? (.run ticket n) = some c) : t.state.session.client = .ok c.session := by
  obtain ⟨core, loops, hwatches⟩ : ∃ core loops, Watches a d stage core loops (.waiting n) :=
    ⟨_, _, Watches.of_eq (watches_resumeRun ht) rfl rfl hn.symm⟩
  cases stage with
  | queued => cases ht
  | watching =>
    cases hwatches with
    | lost cause q p hq hp => cases (call?_of_attempts hp).symm.trans hc
  | recovering cause attempt stage =>
    rcases lookout_eq_some ht with ⟨outcome, -, rfl⟩ | ⟨-, rfl⟩ | ⟨hwork, -⟩
    · cases outcome <;> cases hn
    · cases hn
    · cases stage with
      | pausing delay =>
        cases hwatches with
        | reopening => cases hc
        | reported cause attempt stage n hstage =>
          obtain ⟨call, hstage | hstage⟩ := hstage <;> cases hstage
      | connecting stage =>
        obtain ⟨answer, -, rfl⟩ := Option.map_eq_some_iff.mp hwork
        exact client_of_continueConnect hn hc
      | running call | readying call =>
        obtain ⟨answer, -, rfl⟩ := Option.map_eq_some_iff.mp hwork
        exact client_of_resumeReport hn hc

/-- The first section of a status call is on the open session. -/
theorem client_of_begin {op : Operation} (hc : (a.begin op).result.stage?.bind call? = some c) :
    (a.begin op).state.session.client = .ok c.session := by
  cases op with
  | report r =>
    cases hs : a.session.beginStatus r with
    | waiting call =>
      simp only [begin, hs] at hc
      exact Option.some.inj hc ▸ client_of_beginStatus hs
    | done => simp [begin, hs] at hc
  | enable =>
    cases hs : a.session.beginStatus .running with
    | waiting call =>
      simp only [begin, beginEnable, Turn.result_map, hs] at hc
      exact Option.some.inj hc ▸ client_of_beginStatus hs
    | done => simp [begin, beginEnable, hs] at hc
  | connect | beat | join | load | disable =>
    simp [begin, Progress.stage?_map, Option.bind_map, Function.comp_def, call?] at hc
  | disconnect | reset | client | state | start | stop | interval | disableAutoReady | run =>
    cases hc

/-- Enabling makes its second report on the open session. -/
theorem client_of_resumeEnable {stage : Enable} {answer : Except ClientError Unit} {n : Enable}
    (hn : (a.resumeEnable stage answer).result = .waiting n) :
    (a.resumeEnable stage answer).state.session.client = .ok n.call.session := by
  rcases hu : stage.call.finish a.cloud answer with ⟨cloud, es, outcome⟩
  simp only [resumeEnable, onCloud, hu, Turn.within, Turn.andThen] at hn ⊢
  cases outcome with
  | error e => cases hn
  | ok u =>
    cases stage with
    | readying call => cases hn
    | running call =>
      dsimp only at hn ⊢
      split_ifs at hn ⊢
      cases hs : a.session.beginStatus (.ready true) with
      | waiting call' =>
        simp only [hs, Progress.map_waiting, Progress.waiting.injEq] at hn
        exact hn ▸ client_of_beginStatus hs
      | done r => simp [hs] at hn

/-- So is a later one. -/
theorem client_of_resume {t : ActivityTurn} (ht : a.resume d w = some t)
    (hc : t.result.stage?.bind call? = some c) : t.state.session.client = .ok c.session := by
  obtain ⟨w', hw', hcall⟩ := Option.bind_eq_some_iff.mp hc
  have hrole : role w = .call := by
    rw [← role_resume ht hw']
    unfold call? at hcall
    split at hcall <;> first | rfl | cases hcall
  cases w with
  | disable | loop | listener | worker => cases hrole
  | connect | beat | status | load =>
    obtain ⟨answer, -, rfl⟩ := Option.map_eq_some_iff.mp ht
    simp [immediate, Progress.stage?_map, Option.bind_map, Function.comp_def, call?] at hc
  | join loop grace =>
    simp only [resume] at ht
    split_ifs at ht <;> obtain rfl := Option.some.inj ht <;> cases hc
  | enable stage =>
    obtain ⟨answer, -, rfl⟩ := Option.map_eq_some_iff.mp ht
    cases hn : (a.resumeEnable stage (stage.call.answer answer)).result with
    | done r =>
      rw [Turn.result_map, hn] at hc
      cases hc
    | waiting n =>
      rw [Turn.result_map, hn] at hc
      exact Option.some.inj hc ▸ client_of_resumeEnable hn
  | run ticket stage =>
    cases stage with
    | queued =>
      simp only [resume] at ht
      split_ifs at ht
      obtain rfl := Option.some.inj ht
      cases hc
    | watching | recovering =>
      obtain ⟨u, hu, rfl⟩ := Option.map_eq_some_iff.mp ht
      obtain ⟨hcore, -, hresult⟩ := closeRun_spec ticket u
      rw [hresult, Progress.stage?_map] at hc
      cases hn : u.result with
      | done r =>
        rw [hn] at hc
        cases hc
      | waiting n =>
        rw [hn] at hc
        exact (congrArg (·.session.client) hcore).trans (client_of_resumeRun hu hn hc)

/-! ### The reports of a recovery -/

theorem beginStatus_of_established {s : Session} {live : Live} (h : s.established? = some live)
    (report : Report) : s.beginStatus report = .waiting ⟨live.id, report⟩ := by
  simp [Session.beginStatus, Session.client, h]

/-- A recovery that opens a session of a host that is enabled reports that it is running. -/
theorem running_of_opens {ticket attempt : Nat} {cause : SessionError} {stage : Connect}
    {t : ActivityTurn}
    (ht : a.resume d (.run ticket (.recovering cause attempt (.connecting stage))) = some t)
    (hclosed : ¬ a.session.state.isEstablished) (hopen : t.state.session.state.isEstablished)
    (henabled : a.isEnabled) :
    ∃ call, t.result.stage? = some (.run ticket (.recovering cause attempt (.running call))) ∧
      call.report = .running := by
  obtain ⟨u, hu, rfl⟩ := Option.map_eq_some_iff.mp ht
  obtain ⟨hcore, -, hresult⟩ := closeRun_spec ticket u
  have hopen : u.state.session.state.isEstablished :=
    (congrArg (·.session.state.isEstablished) hcore).symm.trans hopen
  -- only the last section of the attempt opens the session, when it is accepted
  have hfinish (stage : Connect) (answer : Except ClientError String)
      (hu : u = continueConnect cause attempt d.draw
        (((a.session.finishConnect stage.epoch answer).map .done).within
          fun session => { a with session })) :
      ∃ call, u.result = .waiting (.recovering cause attempt (.running call)) ∧
        call.report = .running := by
    by_cases h : a.session.epoch = stage.epoch ∧ a.session.state = .connecting
    · cases answer with
      | ok id =>
        rw [Session.finishConnect_ok h.1 h.2] at hu
        simp only [Turn.map, Turn.within, continueConnect_opened] at hu
        rw [hu]
        refine ⟨⟨id, .running⟩, ?_, rfl⟩
        simp only [repeatReports, henabled, ↓reduceIte]
        rfl
      | error e =>
        rw [Session.finishConnect_error h.1 h.2] at hu
        simp only [Turn.map, Turn.within, continueConnect_failed] at hu
        rw [hu, (beginAttempt_spec ..).1] at hopen
        cases hopen
    · rw [Session.finishConnect_of_stale (not_and_or.mp h)] at hu
      rw [hu] at hopen
      exact absurd hopen hclosed
  have hrunning : ∃ call, u.result = .waiting (.recovering cause attempt (.running call)) ∧
      call.report = .running := by
    rcases lookout_eq_some hu with ⟨outcome, -, rfl⟩ | ⟨-, rfl⟩ | ⟨hwork, -⟩
    · cases outcome with
      | error reason => exact absurd hopen hclosed
      | ok =>
        have hstate := congrArg (·.session.state.isEstablished) (state_requestShutdown a)
        exact absurd (hstate.symm.trans hopen) hclosed
    · exact absurd hopen hclosed
    · obtain ⟨answer, -, rfl⟩ := Option.map_eq_some_iff.mp hwork
      cases stage with
      | dialing e =>
        cases answer with
        | ok channel => exact absurd hopen hclosed
        | error e' => exact hfinish (.dialing e) (.error e') rfl
      | greeting e => exact hfinish (.greeting e) _ rfl
  obtain ⟨call, hu, hcall⟩ := hrunning
  exact ⟨call, by rw [hresult, hu]; rfl, hcall⟩

/-- Once the report that the server is running is accepted, a recovery repeats that it accepts
players, if that is remembered and the session is open. -/
theorem readying_of_granted {ticket attempt : Nat} {cause : SessionError} {call : StatusCall}
    {t : ActivityTurn} {live : Live}
    (ht : a.resume d (.run ticket (.recovering cause attempt (.running call))) = some t)
    (hcall : call.report = .running)
    (hgranted : (granted? d (.run ticket (.recovering cause attempt (.running call)))
      t.result.stage?).isSome)
    (hready : a.cloud.ready) (hlive : a.session.established? = some live) :
    t.result.stage? = some (.run ticket (.recovering cause attempt
      (.readying ⟨live.id, .ready true⟩))) := by
  obtain ⟨u, hu, rfl⟩ := Option.map_eq_some_iff.mp ht
  have hstage := congrArg Progress.stage? (closeRun_spec ticket u).2.2
  rw [Progress.stage?_map] at hstage
  rw [hstage]
  rcases resumeRun_of_call ticket rfl hu with ⟨-, hended⟩ | ⟨answer, -, rfl⟩
  · rw [hstage, hended, Option.map_none, granted?_of_ended rfl] at hgranted
    cases hgranted
  · have hcloud : (call.finish a.cloud (call.answer answer)).state.ready = a.cloud.ready := by
      rw [StatusCall.ready_finish, StatusCall.flag?, hcall]
      split_ifs <;> rfl
    rw [result_resumeReport hcall, repeatReady, if_pos (hcloud.trans hready), reportReady,
      beginStatus_of_established hlive]
    rfl

end Agent

end FleetAgent
