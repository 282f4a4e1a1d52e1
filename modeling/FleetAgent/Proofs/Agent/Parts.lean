import FleetAgent.Agent.Gates
import FleetAgent.Proofs.Agent.Sections

/-!
# The parts of an agent

What each part of a section does to the core, given the place from which its task goes on, and the
place to which it comes. The host uses the agent through its hooks; it does not drive the session or
the scheduler itself.

A part of a recovery that may open a session again goes on after a look at several things. That it
looks at the shutdown of the agent first is a condition on the order in which it does, so these
parts are given under this condition.

## Main definitions

* `Agent.Whence`: from where a task goes on.
* `Agent.Part`: what a part may do.

## Main results

* `Agent.part_beginPart`, `Agent.part_partAt`: every part does one of these things.
-/

namespace FleetAgent

namespace Place

/-- Whether a place is one of a call that disables the agent. -/
def disables : Place → Bool
  | .wait (.disable _) | .gate (.disable _) => true
  | _ => false

/-- Whether a place is one of a load that gives way to another handle. -/
def yields : Place → Bool
  | .gate (.yield _ _) | .gate (.reset _) => true
  | _ => false

/-- Whether nothing is asked of the controller at a place, and no session is taken down there. -/
def rests : Place → Bool
  | .wait (.listener _) | .wait (.worker _ _) | .wait (.loop _ none) | .wait (.loop _ (some .own))
  | .wait (.run _ .queued) | .wait (.run _ .watching)
  | .wait (.run _ (.recovering _ _ (.pausing _))) => true
  | .gate .load | .gate .enable | .gate (.run _ _ _ _) | .gate (.beat _) => true
  | _ => false

/-- Whether the answer to a status call is waited for at a place. -/
def reports : Place → Bool
  | .wait (.status _) | .wait (.enable _)
  | .wait (.run _ (.recovering _ _ (.running _)))
  | .wait (.run _ (.recovering _ _ (.readying _))) =>
    true
  | _ => false

end Place

namespace Agent

/-- From where a task goes on. -/
inductive Whence where
  /-- It begins with a call of the host. -/
  | call (op : Operation)
  /-- It goes on from a place. -/
  | place (p : Place)
  /-- It is given up, or another handle is registered in the context of the host. -/
  | outside

/-- Whether a part is one of a call that disables the agent. -/
def Whence.disables : Whence → Bool
  | .call .disable => true
  | .call _ | .outside => false
  | .place p => p.disables

/-- What a part may do to the core `c`: from where its task goes on, the core afterwards, and the
place to which the task comes, unless it has ended. The shutdown is `minded` if recoveries look at
it first. -/
inductive Part (minded : Prop) (c : Core) : Whence → Core → Option Place → Prop
  /-- Nothing happens, and the task rests or ends. -/
  | rested (o : Whence) (p? : Option Place) (ho : o.disables = false) (hp : p?.all Place.rests) :
      Part minded c o c p?
  | reporting (o : Whence) (p : Place) (ho : o.disables = false) (hp : p.reports)
      (hs : c.session.state.isEstablished) : Part minded c o c (some p)
  | registered (hr : c.registration.slot = none) :
      Part minded c .outside { c with registration := ⟨some .other⟩ } none
  -- loading
  | opening (hs : c.session.state = .disconnected) :
      Part minded c (.place (.gate .load))
        { c with session := { c.session with state := .connecting, epoch := c.session.epoch + 1 } }
        (some (.wait (.load (.dialing (c.session.epoch + 1)))))
  | dialled (e : Nat) :
      Part minded c (.place (.wait (.load (.dialing e)))) c (some (.wait (.load (.greeting e))))
  | failed (stage : Connect) (hs : c.session.state = .connecting)
      (he : c.session.epoch = stage.epoch) :
      Part minded c (.place (.wait (.load stage)))
        { c with session := { c.session with state := .disconnected } } none
  | loaded (stage : Connect) (id : String) (hs : c.session.state = .connecting)
      (he : c.session.epoch = stage.epoch) (hr : c.registration.slot = none) :
      Part minded c (.place (.wait (.load stage)))
        { c with
          session := { c.session with state := .active, live := some { id } }
          registration := ⟨some .own⟩
          scheduler := c.scheduler.start.state } none
  /-- Loading gives way to another handle. -/
  | yielding (stage : Connect) (id : String) (e : RegistrationError)
      (hs : c.session.state = .connecting) (he : c.session.epoch = stage.epoch)
      (hr : c.registration.slot ≠ none) :
      Part minded c (.place (.wait (.load stage)))
        { c with session := { c.session with state := .active, live := some { id } } }
        (some (.gate (.yield e .begin)))
  | lowering (e : RegistrationError) (hs : c.session.state ≠ .closed) :
      Part minded c (.place (.gate (.yield e .begin)))
        { c with session := { c.session with state := .shuttingDown, live := none } }
        (some (.gate (.yield e (.finish (c.session.live.map (·.id))))))
  | lowered (e : RegistrationError) (stage : Teardown)
      (hs : stage = .begin → c.session.state = .closed) :
      Part minded c (.place (.gate (.yield e stage)))
        { c with session := { c.session with state := .closed } } (some (.gate (.reset e)))
  | reset (e : RegistrationError) (hs : c.session.state = .closed) :
      Part minded c (.place (.gate (.reset e)))
        { c with session := { c.session with state := .disconnected } } none
  -- disabling
  | disabling (p : Place)
      (hp : p = .gate (.disable .begin) ∨ ∃ k, p = .wait (.disable (.joining k))) :
      Part minded c (.call .disable)
        { c with isStopping := true, scheduler := c.scheduler.stop.state.beginJoin.state } (some p)
  | joined (k : Nat) :
      Part minded c (.place (.wait (.disable (.joining k)))) c (some (.gate (.disable .begin)))
  | closing (hs : c.session.state ≠ .closed) :
      Part minded c (.place (.gate (.disable .begin)))
        { c with session := { c.session with state := .shuttingDown, live := none } }
        (some (.gate (.disable (.finish (c.session.live.map (·.id))))))
  | closed (stage : Teardown) (p? : Option Place) (hs : stage = .begin → c.session.state = .closed)
      (hp : p? = none ∨ p? = some (.wait (.disable .flushing))) :
      Part minded c (.place (.gate (.disable stage)))
        { c with session := { c.session with state := .closed } } p?
  | flushed : Part minded c (.place (.wait (.disable .flushing))) c none
  -- running
  | shut (p : Place) (hp : p.disables = false) :
      Part minded c (.place p) { c with isStopping := true } none
  | noticed (ticket : Nat) (q : NoticeQueue) (p? : Option Place) (hp : p?.all Place.rests) :
      Part minded c (.place (.wait (.run ticket .watching))) { c with notices := q } p?
  | cleared (ticket attempt : Nat) (cause : SessionError) (hm : minded → c.isStopping = false)
      (hs : c.session.state = .closed) :
      Part minded c (.place (.gate (.run ticket cause attempt .resetting)))
        { c with session := { c.session with state := .disconnected } }
        (some (.gate (.run ticket cause attempt .opening)))
  | reopening (ticket attempt : Nat) (cause : SessionError) (hm : minded → c.isStopping = false)
      (hs : c.session.state = .disconnected) :
      Part minded c (.place (.gate (.run ticket cause attempt .opening)))
        { c with session := { c.session with state := .connecting, epoch := c.session.epoch + 1 } }
        (some (.wait (.run ticket (.recovering cause attempt
          (.connecting (.dialing (c.session.epoch + 1)))))))
  | redialled (ticket attempt : Nat) (cause : SessionError) (e : Nat)
      (hm : minded → c.isStopping = false) :
      Part minded c
        (.place (.wait (.run ticket (.recovering cause attempt (.connecting (.dialing e)))))) c
        (some (.wait (.run ticket (.recovering cause attempt (.connecting (.greeting e))))))
  | refailed (ticket attempt : Nat) (cause : SessionError) (stage : Connect) (p? : Option Place)
      (hm : minded → c.isStopping = false) (hs : c.session.state = .connecting)
      (he : c.session.epoch = stage.epoch) (hp : p?.all Place.rests) :
      Part minded c (.place (.wait (.run ticket (.recovering cause attempt (.connecting stage)))))
        { c with session := { c.session with state := .disconnected } } p?
  | recovered (ticket attempt : Nat) (cause : SessionError) (stage : Connect) (id : String)
      (p : Place) (hm : minded → c.isStopping = false) (hs : c.session.state = .connecting)
      (he : c.session.epoch = stage.epoch) (hp : p.rests) :
      Part minded c (.place (.wait (.run ticket (.recovering cause attempt (.connecting stage)))))
        { c with
          session := { c.session with state := .active, live := some { id } }
          scheduler := c.scheduler.start.state } (some p)
  -- heartbeat loops
  | looped (o : Whence) (s : Session) (r : Scheduler) (q : NoticeQueue) (p? : Option Place)
      (ho : o.disables = false)
      (hs : s = c.session ∨ s = c.session.beginBeat.state ∨
        ∃ now beat answer, s = (c.session.finishBeat now beat answer).state)
      (hr : c.scheduler.SameLoops r)
      (hp : p?.all Place.rests ∨
        ∃ k beat, p? = some (.wait (.loop k (some (.session beat)))) ∧ s.state.isEstablished) :
      Part minded c o { c with session := s, scheduler := r, notices := q } p?

variable {minded : Prop} {a : Agent} {o : Whence} {c c' : Core} {p? : Option Place}

/-- What a part of an agent does, as far as the core goes. -/
abbrev DoesPart (minded : Prop) (a : Agent) (o : Whence) (t : PartTurn) : Prop :=
  Part minded a.core o t.state.core t.result.stage?

theorem Part.of_eq {c'' : Core} {p?' : Option Place} (h : Part minded c o c' p?) (hc : c'' = c')
    (hp : p?' = p?) : Part minded c o c'' p?' := by
  subst hc hp
  exact h

theorem stage?_ungated (t : ActivityTurn) :
    (ungated t).result.stage? = t.result.stage?.map .wait :=
  Progress.stage?_map ..

/-! ### Taking the session down -/

section TakeDown

variable {gate : Teardown → Gate} {next : Agent → PartTurn}

theorem takeDownPart_of_closed (hs : a.session.state = .closed) :
    a.takeDownPart .begin gate next = next a := by
  simp only [takeDownPart, onSession, Session.takeDown, Session.beginDisconnect_of_closed hs]
  rfl

theorem takeDownPart_of_ne (hs : a.session.state ≠ .closed) :
    a.takeDownPart .begin gate next =
      { state := { a with session := { a.session with state := .shuttingDown, live := none } }
        result := .waiting (.gate (gate (.finish (a.session.live.map (·.id))))) } := by
  simp only [takeDownPart, onSession, Session.takeDown, Session.beginDisconnect_of_ne hs]
  rfl

/-- To close a session that is closed changes nothing. -/
theorem core_of_closed (hs : a.session.state = .closed) :
    a.core = { a.core with session := { a.session with state := .closed } } := by
  rw [← hs]
  rfl

end TakeDown

/-! ### Loading -/

/-- The end of an attempt to open a session, for loading. -/
theorem part_finishConnect (stage : Connect) (answer : Except ClientError String) :
    DoesPart minded a (.place (.wait (.load stage)))
      (loadPart (((a.session.finishConnect stage.epoch answer).map .done).within
        fun session => { a with session })) := by
  by_cases h : a.session.epoch = stage.epoch ∧ a.session.state = .connecting
  · cases answer with
    | ok id =>
      rw [Session.finishConnect_ok h.1 h.2]
      let b : Agent :=
        { a with session := { a.session with state := .active, live := some { id } } }
      cases hr : a.registration.slot with
      | none =>
        have hload := finishLoad_of_free (a := b) hr id
        simp only [loadPart, Turn.andThen, Turn.map, Turn.within, Registration.setup, hr]
        refine .of_eq (.loaded stage id h.2 h.1 hr) ?_ rfl
        exact congrArg (fun t => t.state.core) hload
      | some handle =>
        simp only [loadPart, Turn.andThen, Turn.map, Turn.within, Registration.setup, hr]
        exact .yielding stage id _ h.2 h.1 (hr ▸ Option.some_ne_none handle)
    | error e =>
      rw [Session.finishConnect_error h.1 h.2]
      exact .failed stage h.2 h.1
  · rw [Session.finishConnect_of_stale (not_and_or.mp h)]
    exact .rested _ none rfl rfl

/-- The part of loading behind its first gate. -/
theorem part_loadPart_begin : DoesPart minded a (.place (.gate .load))
    (loadPart (a.onSession Session.beginConnect)) := by
  by_cases hs : a.session.state = .disconnected
  · rw [onSession, Session.beginConnect_of_disconnected hs]
    exact .opening hs
  · rw [onSession, Session.beginConnect_of_ne hs]
    exact .rested _ none rfl rfl

/-- The part of loading after an answer of the controller. -/
theorem part_loadPart_resume (stage : Connect) (answer : (stage.request a.session.host).Answer) :
    DoesPart minded a (.place (.wait (.load stage)))
      (loadPart ((Connect.resume a.session stage answer).within
        fun session => { a with session })) := by
  cases stage with
  | dialing e =>
    cases answer with
    | ok channel => exact .dialled e
    | error cause => exact part_finishConnect (.dialing e) (.error cause)
  | greeting e => exact part_finishConnect (.greeting e) _

/-- The parts in which loading gives way to another handle. -/
theorem part_yield (draw : Nat) (e : RegistrationError) (stage : Teardown) :
    DoesPart minded a (.place (.gate (.yield e stage))) (a.passPart draw (.yield e stage)) := by
  cases stage with
  | begin =>
    by_cases hs : a.session.state = .closed
    · rw [passPart, takeDownPart_of_closed hs]
      exact .of_eq (.lowered e .begin fun _ => hs) (core_of_closed hs) rfl
    · rw [passPart, takeDownPart_of_ne hs]
      exact .lowering e hs
  | finish session => exact .lowered e (.finish session) nofun

theorem part_reset (draw : Nat) (e : RegistrationError) :
    DoesPart minded a (.place (.gate (.reset e))) (a.passPart draw (.reset e)) := by
  by_cases hs : a.session.state = .closed
  · simp only [passPart, onSession, Session.reset_of_closed hs]
    exact .reset e hs
  · simp only [passPart, onSession, Session.reset_of_ne hs]
    exact .rested _ none rfl rfl

/-! ### Enabling -/

theorem part_enablePart (stage : Enable) (answer : Except ClientError Unit) :
    DoesPart minded a (.place (.wait (.enable stage))) (a.enablePart stage answer) := by
  rcases hu : stage.call.finish a.cloud answer with ⟨cloud, es, outcome⟩
  simp only [enablePart, onCloud, hu, Turn.within, Turn.andThen]
  cases outcome with
  | error e => exact .rested _ none rfl rfl
  | ok =>
    cases stage with
    | readying call => exact .rested _ none rfl rfl
    | running call =>
      dsimp only
      split_ifs
      · exact .rested _ (some (.gate .enable)) rfl rfl
      · exact .rested _ none rfl rfl

theorem part_enable (draw : Nat) :
    DoesPart minded a (.place (.gate .enable)) (a.passPart draw .enable) := by
  cases h : a.session.beginStatus (.ready true) with
  | waiting call =>
    simp only [passPart, h]
    exact .reporting _ (.wait (.enable (.readying call))) rfl rfl (isEstablished_of_beginStatus h)
  | done r =>
    simp only [passPart, h]
    exact .rested _ none rfl rfl

/-! ### Disabling -/

theorem part_disablePart : DoesPart minded a (.call .disable) a.disablePart := by
  simp only [disablePart, onScheduler, Turn.andThen, Turn.within, state_requestShutdown]
  cases hk : a.scheduler.slot with
  | none =>
    have hstop := Scheduler.stop_of_none hk
    have hjoin := Scheduler.beginJoin_of_none hk
    have hpart : Part minded a.core (.call .disable) _ _ := .disabling _ (.inl rfl)
    simp only [core_scheduler, hstop, hjoin] at hpart ⊢
    exact hpart
  | some k =>
    have hjoin := Scheduler.beginJoin_of_some ((Scheduler.slot_stop a.scheduler).trans hk)
    have hpart : Part minded a.core (.call .disable) _ _ := .disabling _ (.inr ⟨k, rfl⟩)
    simp only [core_scheduler, hjoin] at hpart ⊢
    exact hpart

theorem part_joinedPart (k : Nat) (inTime : Bool) :
    DoesPart minded a (.place (.wait (.disable (.joining k)))) (a.joinedPart inTime) := by
  cases inTime <;> exact .joined k

/-- The parts in which disabling takes the session down. -/
theorem part_disable (draw : Nat) (stage : Teardown) :
    DoesPart minded a (.place (.gate (.disable stage))) (a.passPart draw (.disable stage)) := by
  have hflush (b : Agent) :
      (ungated (b.beginFlush.map (·.map .disable (.ofUnit id)))).state.core = b.core ∧
        ((ungated (b.beginFlush.map (·.map .disable (.ofUnit id)))).result.stage? = none ∨
          (ungated (b.beginFlush.map (·.map .disable (.ofUnit id)))).result.stage? =
            some (.wait (.disable .flushing))) := by
    cases h : b.holdsListener <;> simp [beginFlush, h, ungated, core]
  cases stage with
  | begin =>
    by_cases hs : a.session.state = .closed
    · rw [passPart, takeDownPart_of_closed hs]
      obtain ⟨hcore, hp⟩ := hflush a
      exact .of_eq (.closed .begin _ (fun _ => hs) hp) (hcore.trans (core_of_closed hs)) rfl
    · rw [passPart, takeDownPart_of_ne hs]
      exact .closing hs
  | finish session =>
    obtain ⟨hcore, hp⟩ := hflush { a with session := { a.session with state := .closed } }
    exact .of_eq (.closed (.finish session) _ (fun h => by cases h) hp) hcore rfl

/-! ### Running -/

section Running

variable {ticket : Nat} {t : RunPart}

/-- What a part of a call that runs does, as far as the core goes. -/
abbrev DoesRun (minded : Prop) (a : Agent) (p : Place) (t : RunPart) : Prop :=
  Part minded a.core (.place p) t.state.core t.result.stage?

/-- The end of a call that runs gives its place in line back, and nothing else. -/
theorem DoesRun.close {p : Place} (h : DoesRun minded a p t) :
    DoesPart minded a (.place p) (closePart ticket t) := by
  obtain ⟨b, es, place | result⟩ := t <;> exact h

/-- What a call that runs finds: the end of the call, or its work. -/
theorem part_lookout {p : Place} {order : List Concern} {shutdown : Option (Except String Unit)}
    {work : Option RunPart} (hp : p.disables = false)
    (hwork : ∀ t, work = some t → (Minds order → a.isStopping = false) →
      DoesRun (Minds order) a p t) (h : a.lookout order shutdown work = some t) :
    DoesRun (Minds order) a p t := by
  rcases lookout_eq_some h with ⟨outcome, -, rfl⟩ | ⟨-, rfl⟩ | ⟨h, hm⟩
  · rcases outcome with reason | ⟨⟨⟩⟩
    · exact .rested _ none hp rfl
    · exact .of_eq (.shut p hp) (congrArg core (state_requestShutdown a)) rfl
  · exact .rested _ none hp rfl
  · exact hwork t h hm

/-- What the beginning of an attempt to recover comes to. -/
theorem rests_beginAttempt (a : Agent) (cause : SessionError) (ticket attempt draw : Nat) :
    (ungatedRun ticket (a.beginAttempt cause attempt draw)).state.core = a.core ∧
      (ungatedRun ticket (a.beginAttempt cause attempt draw)).result.stage?.all Place.rests := by
  obtain ⟨hstate, -, hn⟩ := beginAttempt_spec a cause attempt draw
  refine ⟨congrArg core hstate, ?_⟩
  simp only [ungatedRun, Turn.result_map]
  generalize (a.beginAttempt cause attempt draw).result = progress at hn
  cases hn <;> rfl

variable (cause : SessionError) (attempt : Nat)

/-- The end of an attempt to open a session, for a recovery. -/
theorem part_attempt (draw : Nat) (stage : Connect) (answer : Except ClientError String)
    (hm : minded → a.isStopping = false) :
    DoesRun minded a (.wait (.run ticket (.recovering cause attempt (.connecting stage))))
      (attemptPart ticket cause attempt draw
        (((a.session.finishConnect stage.epoch answer).map .done).within
          fun session => { a with session })) := by
  by_cases h : a.session.epoch = stage.epoch ∧ a.session.state = .connecting
  · cases answer with
    | ok id =>
      rw [Session.finishConnect_ok h.1 h.2]
      refine .of_eq (.recovered ticket attempt cause stage id _ hm h.2 h.1 ?_) rfl rfl
      cases ha : a.isEnabled <;> rfl
    | error e =>
      rw [Session.finishConnect_error h.1 h.2]
      obtain ⟨hcore, hp⟩ := rests_beginAttempt
        { a with session := { a.session with state := .disconnected } }
        cause ticket (attempt + 1) draw
      exact .of_eq (.refailed ticket attempt cause stage _ hm h.2 h.1 hp) hcore rfl
  · rw [Session.finishConnect_of_stale (not_and_or.mp h)]
    exact .rested _ none rfl rfl

theorem part_attemptPart (draw : Nat) (stage : Connect)
    (answer : (stage.request a.session.host).Answer) (hm : minded → a.isStopping = false) :
    DoesRun minded a (.wait (.run ticket (.recovering cause attempt (.connecting stage))))
      (attemptPart ticket cause attempt draw
        ((Connect.resume a.session stage answer).within fun session => { a with session })) := by
  cases stage with
  | dialing e =>
    cases answer with
    | ok channel => exact .redialled ticket attempt cause e hm
    | error e' => exact part_attempt cause attempt draw (.dialing e) (.error e') hm
  | greeting e => exact part_attempt cause attempt draw (.greeting e) _ hm

theorem rests_readyPart (a : Agent) (ticket : Nat) :
    (a.readyPart ticket cause attempt).state.core = a.core ∧
      (a.readyPart ticket cause attempt).result.stage?.all Place.rests := by
  cases h : a.cloud.ready <;> simp [readyPart, h, Place.rests]

/-- The parts of a recovery after a report. -/
theorem part_finishReport (p : Place) (hp : p.disables = false) (call : StatusCall)
    (answer : Except ClientError Unit) :
    DoesRun minded a p
      (a.finishReport call answer (.wait (.run ticket .watching))
        (·.readyPart ticket cause attempt)) := by
  rcases hu : call.finish a.cloud answer with ⟨cloud, es, outcome⟩
  obtain ⟨hcore, hready⟩ := rests_readyPart cause attempt { a with cloud } ticket
  simp only [finishReport, onCloud, hu, Turn.within, Turn.andThen]
  cases call.report with
  | running => rcases outcome with e | ⟨⟨⟩⟩ <;> exact .of_eq (.rested _ _ hp hready) hcore rfl
  | ready | stop => rcases outcome with e | ⟨⟨⟩⟩ <;> exact .rested _ (some _) hp rfl

/-- The parts of a recovery after a wait. -/
theorem part_recoveryPart {d : Delivery} {stage : Recovery} (hm : minded → a.isStopping = false)
    (h : a.recoveryPart d ticket cause attempt stage = some t) :
    DoesRun minded a (.wait (.run ticket (.recovering cause attempt stage))) t := by
  cases stage with
  | pausing delay =>
    simp only [recoveryPart] at h
    by_cases hd : d.elapsed
    · rw [if_pos hd] at h
      obtain rfl := Option.some.inj h
      exact .rested _ (some _) rfl rfl
    · rw [if_neg hd] at h
      cases h
  | connecting stage =>
    obtain ⟨answer, -, rfl⟩ := Option.map_eq_some_iff.mp h
    exact part_attemptPart cause attempt d.draw stage answer hm
  | running call | readying call =>
    obtain ⟨answer, -, rfl⟩ := Option.map_eq_some_iff.mp h
    exact part_finishReport cause attempt _ rfl call _

/-- The parts of a recovery behind a gate. -/
theorem part_prospectPart (draw : Nat) (stage : Prospect) (hm : minded → a.isStopping = false) :
    DoesRun minded a (.gate (.run ticket cause attempt stage))
      (a.prospectPart draw ticket cause attempt stage) := by
  cases stage with
  | starting =>
    obtain ⟨hcore, hp⟩ := rests_beginAttempt a cause ticket attempt draw
    exact .of_eq (.rested _ _ rfl hp) hcore rfl
  | resetting =>
    by_cases hs : a.session.state = .closed
    · simp only [prospectPart, onSession, Session.reset_of_closed hs]
      exact .cleared ticket attempt cause hm hs
    · simp only [prospectPart, onSession, Session.reset_of_ne hs]
      exact .rested _ none rfl rfl
  | opening =>
    by_cases hs : a.session.state = .disconnected
    · simp only [prospectPart, onSession, Session.beginConnect_of_disconnected hs]
      exact .reopening ticket attempt cause hm hs
    · simp only [prospectPart, onSession, Session.beginConnect_of_ne hs]
      exact .rested _ none rfl rfl
  | running =>
    obtain ⟨hcore, hready⟩ := rests_readyPart cause attempt a ticket
    simp only [prospectPart, reportRunning]
    cases h : a.session.beginStatus .running with
    | waiting call => exact .reporting _ _ rfl rfl (isEstablished_of_beginStatus h)
    | done r => rcases r with e | ⟨⟨⟩⟩ <;> exact .of_eq (.rested _ _ rfl hready) hcore rfl
  | readying =>
    simp only [prospectPart, reportReady]
    cases h : a.session.beginStatus (.ready true) with
    | waiting call => exact .reporting _ _ rfl rfl (isEstablished_of_beginStatus h)
    | done r => rcases r with e | ⟨⟨⟩⟩ <;> exact .rested _ (some _) rfl rfl

/-- The part of a call that watches. -/
theorem part_noticePart {draw : Nat} (h : a.noticePart draw ticket = some t) :
    DoesRun minded a (.wait (.run ticket .watching)) t := by
  cases hq : a.notices.pop? with
  | none => simp [noticePart, onNotice, hq] at h
  | some q =>
    obtain ⟨termination, notices⟩ := q
    cases termination with
    | requested =>
      simp only [noticePart, onNotice, hq, Option.map_some] at h
      obtain rfl := Option.some.inj h
      exact .noticed ticket notices none rfl
    | lost cause =>
      simp only [noticePart, hq] at h
      obtain rfl := Option.some.inj h
      exact .noticed ticket notices (some _) rfl

/-- The parts of a call that runs after a wait. -/
theorem part_runPart {d : Delivery} {stage : FleetAgent.Run}
    (h : a.runPart d ticket stage = some t) :
    DoesRun (Minds d.order) a (.wait (.run ticket stage)) t := by
  cases stage with
  | queued => cases h
  | watching => exact part_lookout rfl (fun _ ht _ => part_noticePart ht) h
  | recovering cause attempt stage =>
    exact part_lookout rfl (fun _ ht hm => part_recoveryPart cause attempt hm ht) h

end Running

/-! ### Heartbeat loops -/

theorem part_loopAfterBeat (k : Nat) (outcome : Except SessionError BeatOutcome)
    (ho : o.disables = false) : DoesPart minded a o (ungated (a.loopAfterBeat k outcome)) := by
  obtain ⟨r, q, hcore, hr, -, hn⟩ := loopAfterBeat_spec a k outcome
  refine .of_eq (.looped o _ r q _ ho (.inl rfl) hr (.inl ?_)) hcore rfl
  rw [stage?_ungated]
  rcases hn with hn | hn <;> rw [hn] <;> rfl

theorem part_beatPart (k : Nat) :
    DoesPart minded a (.place (.gate (.beat k))) (a.beatPart k) := by
  cases hlive : a.session.established? with
  | none =>
    simp only [beatPart, onSession, Session.beginBeat_of_none hlive]
    exact part_loopAfterBeat k _ rfl
  | some live =>
    have hbegin := Session.beginBeat_of_established hlive
    have hest := (Session.established?_eq_some_iff.mp hlive).1
    have hpart (beat : Beat) : Part minded a.core (.place (.gate (.beat k))) _ _ :=
      .looped _ a.session.beginBeat.state a.scheduler a.notices
        (some (.wait (.loop k (some (.session beat))))) rfl (.inr (.inl rfl)) ⟨rfl, rfl⟩
        (.inr ⟨k, beat, rfl, by rw [hbegin]; exact hest⟩)
    rw [hbegin] at hpart
    simp only [beatPart, onSession, hbegin]
    exact hpart _

/-! ### Sections without gates -/

/-- From where a task goes on in a section. -/
def Origin.whence : Origin → Whence
  | .call op => .call op
  | .stage w => .place (.wait w)
  | .abandoned _ | .registration => .outside

/-- Whether a section belongs to a task that has no gates ahead. -/
def Origin.IsUngated : Origin → Prop
  | .call .load | .call .disable | .stage (.load _) | .stage (.disable _)
  | .stage (.run _ .watching) | .stage (.run _ (.recovering _ _ _)) => False
  | _ => True

theorem Origin.IsUngated.disables {o : Origin} (ho : o.IsUngated) : o.whence.disables = false := by
  cases o with
  | call op =>
    cases op with
    | disable => exact ho.elim
    | _ => rfl
  | stage w =>
    cases w with
    | disable => exact ho.elim
    | _ => rfl
  | abandoned | registration => rfl

/-- A section without gates is one part. -/
theorem Shift.part {o : Origin} {loops : List Nat} {n : Option Activity}
    (h : Shift minded c o c' loops n) (ho : o.IsUngated) :
    Part minded c o.whence c' (n.map .wait) := by
  cases h with
  | ended => exact .rested _ none ho.disables rfl
  | registered hr => exact .registered hr
  | background o n hn =>
    rcases hn with ⟨l, rfl⟩ | ⟨i, stage, rfl⟩ | ⟨call, rfl, hs⟩
    · exact .rested _ (some _) ho.disables rfl
    · exact .rested _ (some _) ho.disables rfl
    · exact .reporting _ _ ho.disables rfl hs
  | enabling o stage hs => exact .reporting _ _ ho.disables rfl hs
  | lined ticket => exact .rested _ (some _) rfl rfl
  | watching ticket stage => exact .rested _ (some _) rfl rfl
  | shut ticket stage => exact .shut _ rfl
  | looped k b s r q n hs hr hn =>
    refine .looped _ s r q _ rfl hs hr ?_
    rcases hn with rfl | rfl | rfl | ⟨beat, rfl, hest⟩
    · exact .inl rfl
    · exact .inl rfl
    · exact .inl rfl
    · exact .inr ⟨k, beat, rfl, hest⟩
  | opening | dialled | failed | loaded | yielded | disabling | disabled | joined | noticed
  | reopening | redialled | refailed | recovered | reporting => exact ho.elim

theorem part_ungated {o : Origin} {t : ActivityTurn} (h : Does minded a o t) (ho : o.IsUngated) :
    DoesPart minded a o.whence (ungated t) :=
  .of_eq (h.part ho) rfl (stage?_ungated t)

theorem part_advancePart (k : Nat) (now : Instant) {t : PartTurn}
    (h : a.advancePart k now = some t) : DoesPart minded a (.place (.wait (.loop k none))) t := by
  have hplain (h : (a.advanceLoop k now).map ungated = some t) :
      DoesPart minded a (.place (.wait (.loop k none))) t := by
    obtain ⟨u, hu, rfl⟩ := Option.map_eq_some_iff.mp h
    exact part_ungated (does_advanceLoop k now hu) trivial
  cases hr : (a.onScheduler (·.advance k now)).result with
  | again | blocked | ended =>
    simp only [advancePart, hr] at h
    exact hplain h
  | beat =>
    cases hh : a.heart with
    | own =>
      simp only [advancePart, hr, hh] at h
      exact hplain h
    | session =>
      simp only [advancePart, hr, hh] at h
      obtain rfl := Option.some.inj h
      exact .looped _ a.session _ a.notices (some _) rfl (.inl rfl)
        (a.scheduler.sameLoops_advance k now) (.inl rfl)

/-! ### All parts -/

/-- Whether a place is one of a call that drives the session or the scheduler itself. -/
def isDrivenAt : Place → Bool
  | .wait w => isDriven w
  | .gate (.disconnect _) => true
  | .gate _ => false

theorem isDrivenAt_of_rests {p : Place} (h : p.rests ∨ p.reports) : isDrivenAt p = false := by
  cases p with
  | wait w =>
    cases w with
    | connect | beat | join => simp [Place.rests, Place.reports] at h
    | _ => rfl
  | gate g =>
    cases g with
    | disconnect => simp [Place.rests, Place.reports] at h
    | _ => rfl

/-- No part comes to a place of a call that drives the session or the scheduler itself. -/
theorem Part.isDrivenAt_eq_false {p : Place} (h : Part minded c o c' (some p)) :
    isDrivenAt p = false := by
  cases h with
  | rested o p? ho hp | noticed ticket q p? hp | refailed ticket attempt cause stage p? hm hs he hp
  | recovered ticket attempt cause stage id p hm hs he hp => exact isDrivenAt_of_rests (.inl hp)
  | reporting o p ho hp => exact isDrivenAt_of_rests (.inr hp)
  | disabling p hp => rcases hp with rfl | ⟨k, rfl⟩ <;> rfl
  | closed stage p? hs hp =>
    obtain rfl := Option.some.inj (hp.resolve_left (Option.some_ne_none _))
    rfl
  | looped o s r q p? ho hs hr hp =>
    rcases hp with hp | ⟨k, beat, hp, -⟩
    · exact isDrivenAt_of_rests (.inl hp)
    · obtain rfl := Option.some.inj hp
      rfl
  | opening | dialled | yielding | lowering | lowered | joined | closing | cleared | reopening
  | redialled => rfl

/-- The first part of a call of the host that does not drive the session or the scheduler. -/
theorem part_beginPart {op : Operation} (hop : drives op = false) :
    DoesPart minded a (.call op) (a.beginPart op) := by
  cases op with
  | connect | beat | disconnect | reset | start | stop | join grace => cases hop
  | client | state | disableAutoReady | interval | report | enable | run =>
    exact part_ungated (shift_begin rfl) trivial
  | load =>
    simp only [beginPart]
    split_ifs
    · exact .rested _ none rfl rfl
    · exact .rested _ (some _) rfl rfl
  | disable => exact part_disablePart

/-- The part of an activity after a wait. -/
theorem part_resumePart {d : Delivery} {w : Activity} (hw : isDriven w = false) {t : PartTurn}
    (h : a.resumePart d w = some t) : DoesPart (Minds d.order) a (.place (.wait w)) t := by
  have hplain (ho : (Origin.stage w).IsUngated) (h : (a.resume d w).map ungated = some t) :
      DoesPart (Minds d.order) a (.place (.wait w)) t := by
    obtain ⟨u, hu, rfl⟩ := Option.map_eq_some_iff.mp h
    exact part_ungated (shift_resume hw hu) ho
  cases w with
  | connect | beat | join => cases hw
  | status | listener | worker => exact hplain trivial h
  | load stage =>
    obtain ⟨answer, -, rfl⟩ := Option.map_eq_some_iff.mp h
    exact part_loadPart_resume stage answer
  | enable stage =>
    obtain ⟨answer, -, rfl⟩ := Option.map_eq_some_iff.mp h
    exact part_enablePart stage _
  | disable stage =>
    cases stage with
    | joining k =>
      simp only [resumePart] at h
      split_ifs at h
      · obtain rfl := Option.some.inj h
        exact part_joinedPart k true
      · obtain rfl := Option.some.inj h
        exact part_joinedPart k false
    | flushing =>
      obtain ⟨u, hu, rfl⟩ := Option.map_eq_some_iff.mp h
      simp only [resume] at hu
      split_ifs at hu
      · obtain rfl := Option.some.inj hu
        exact .flushed
      · obtain rfl := Option.some.inj hu
        exact .flushed
  | run ticket stage =>
    cases stage with
    | queued => exact hplain trivial h
    | watching | recovering =>
      obtain ⟨t, ht, rfl⟩ := Option.map_eq_some_iff.mp h
      exact (part_runPart ht).close
  | loop k beat =>
    cases beat with
    | none => exact part_advancePart k d.now h
    | some beat => exact hplain trivial h

/-- The part behind a gate. -/
theorem part_gatePart {d : Delivery} {g : Gate} (hg : isDrivenAt (.gate g) = false)
    {t : PartTurn} (h : a.gatePart d g = some t) :
    DoesPart (Minds d.order) a (.place (.gate g)) t := by
  cases g with
  | run ticket cause attempt stage =>
    obtain ⟨t, ht, rfl⟩ := Option.map_eq_some_iff.mp h
    refine DoesRun.close (part_lookout rfl (fun u hu hm => ?_) ht)
    obtain rfl := Option.some.inj hu
    exact part_prospectPart cause attempt d.draw stage hm
  | load =>
    obtain rfl := Option.some.inj h
    exact part_loadPart_begin
  | yield e stage =>
    obtain rfl := Option.some.inj h
    exact part_yield d.draw e stage
  | reset e =>
    obtain rfl := Option.some.inj h
    exact part_reset d.draw e
  | enable =>
    obtain rfl := Option.some.inj h
    exact part_enable d.draw
  | disable stage =>
    obtain rfl := Option.some.inj h
    exact part_disable d.draw stage
  | disconnect => cases hg
  | beat k =>
    obtain rfl := Option.some.inj h
    exact part_beatPart k

/-- The next part of a task. -/
theorem part_partAt {d : Delivery} {p : Place} (hp : isDrivenAt p = false) {t : PartTurn}
    (h : a.partAt d p = some t) : DoesPart (Minds d.order) a (.place p) t := by
  cases p with
  | wait w => exact part_resumePart hp h
  | gate g => exact part_gatePart hp h

end Agent

end FleetAgent
