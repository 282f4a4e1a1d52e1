import FleetAgent.Proofs.Agent.Core

/-!
# Loading

What the sections of loading an agent do, with what they come to. Loading needs a context without a
handle and a session manager that is disconnected. It opens a session, registers the handle, and
starts the heartbeats; if another handle has been registered meanwhile, it takes the session down
again and brings the manager back to the start.

## Main definitions

* `Agent.Loads`: what a section of loading may do, and what it comes to.

## Main results

* `Agent.loads_begin`, `Agent.loads_resume`: every section does one of these things.
* `Agent.Loads.of_ok`: loading succeeds only when it registers the handle and starts the heartbeats.
* `Agent.Loads.of_ne_ok`, `Agent.Loads.disconnected`: loading that does not succeed leaves the
  scheduler and the context as they were, and the manager disconnected.
-/

namespace FleetAgent.Agent

open Effect (spawned)

/-- What a section of loading may do to the core `c`, given the stage at which loading has waited,
if it is not the first section: the core afterwards, the heartbeat loops that it starts as tasks,
and what loading has come to. -/
inductive Loads (c : Core) : Option Connect → Core → List Nat →
    Progress Connect (Except RuntimeError Unit) → Prop
  /-- There is a handle in the context. -/
  | taken (hr : c.registration.slot ≠ none) :
      Loads c none c [] (.done (.error (.registration .alreadyRegistered)))
  /-- The session manager is not disconnected. -/
  | refused (hr : c.registration.slot = none) (hs : c.session.state ≠ .disconnected) :
      Loads c none c [] (.done (.error (.session (c.session.invalid "connect"))))
  | opening (hr : c.registration.slot = none) (hs : c.session.state = .disconnected) :
      Loads c none
        { c with session := { c.session with state := .connecting, epoch := c.session.epoch + 1 } }
        [] (.waiting (.dialing (c.session.epoch + 1)))
  | dialled (e : Nat) : Loads c (some (.dialing e)) c [] (.waiting (.greeting e))
  /-- The attempt has been overtaken. -/
  | overtaken (stage : Connect)
      (h : c.session.epoch ≠ stage.epoch ∨ c.session.state ≠ .connecting) :
      Loads c (some stage) c [] (.done (.error (.session (c.session.invalid "connect"))))
  | failed (stage : Connect) (e : ClientError) (hs : c.session.state = .connecting)
      (he : c.session.epoch = stage.epoch) :
      Loads c (some stage) { c with session := { c.session with state := .disconnected } } []
        (.done (.error (.session (.connectionFailed e))))
  | loaded (stage : Connect) (id : String) (hs : c.session.state = .connecting)
      (he : c.session.epoch = stage.epoch) (hr : c.registration.slot = none) :
      Loads c (some stage)
        { c with
          session := { c.session with state := .active, live := some { id } }
          registration := ⟨some .own⟩
          scheduler := c.scheduler.start.state }
        (spawned c.scheduler.start.effects) (.done (.ok ()))
  | yielded (stage : Connect) (hs : c.session.state = .connecting)
      (he : c.session.epoch = stage.epoch) (hr : c.registration.slot ≠ none) :
      Loads c (some stage)
        { c with session := { c.session with state := .disconnected, live := none } } []
        (.done (.error (.registration .alreadyRegistered)))

variable {a : Agent} {c c' : Core} {stage? : Option Connect} {loops : List Nat}
  {p : Progress Connect (Except RuntimeError Unit)}

theorem Loads.of_eq {c'' : Core} {loops' : List Nat}
    {p' : Progress Connect (Except RuntimeError Unit)} (h : Loads c stage? c' loops p)
    (hc : c'' = c') (hloops : loops' = loops) (hp : p' = p) : Loads c stage? c'' loops' p' := by
  subst hc hloops hp
  exact h

theorem finishLoad_of_free (h : a.registration.slot = none) (id : String) :
    a.finishLoad (.ok id) =
      { state := { a with registration := ⟨some .own⟩, scheduler := a.scheduler.start.state }
        effects := a.scheduler.start.effects ++
          [.log ⟨.info, target, "agent loaded",
            [("session", id), ("server", a.session.host.name)]⟩]
        result := .ok () } := by
  simp only [finishLoad, Registration.setup, h]
  rfl

theorem finishLoad_of_taken (h : a.registration.slot ≠ none) (hs : a.session.state ≠ .closed)
    (id : String) :
    a.finishLoad (.ok id) =
      { state := { a with session := { a.session with state := .disconnected, live := none } }
        effects := [.publish
          { Event.of .sessionClosed with session := a.session.live.map (·.id) }]
        result := .error (.registration .alreadyRegistered) } := by
  obtain ⟨handle, h⟩ := Option.ne_none_iff_exists'.mp h
  simp only [finishLoad, Registration.setup, h, onSession, Session.disconnect_of_ne hs]
  rfl

theorem continueLoad_done (es : List Effect) (opened : Except SessionError String) :
    continueLoad { state := a, effects := es, result := .done opened } =
      { state := (a.finishLoad opened).state
        effects := es ++ (a.finishLoad opened).effects
        result := .done (a.finishLoad opened).result } := rfl

/-- The first section of loading. -/
theorem loads_begin :
    Loads a.core none a.beginLoad.state.core (spawned a.beginLoad.effects) a.beginLoad.result := by
  cases hr : a.registration.slot with
  | some handle =>
    simp only [beginLoad, Registration.isRegistered, hr, Option.isSome_some, ↓reduceIte]
    exact .taken (hr ▸ Option.some_ne_none handle)
  | none =>
    simp only [beginLoad, Registration.isRegistered, hr, Option.isSome_none, Bool.false_eq_true,
      ↓reduceIte, onSession]
    by_cases hs : a.session.state = .disconnected
    · rw [Session.beginConnect_of_disconnected hs]
      exact .opening hr hs
    · rw [Session.beginConnect_of_ne hs]
      exact .refused hr hs

/-- The end of an attempt to open a session, for loading. -/
theorem loads_finishConnect (stage : Connect) (answer : Except ClientError String) :
    let t := continueLoad (((a.session.finishConnect stage.epoch answer).map .done).within
      fun session => { a with session })
    Loads a.core (some stage) t.state.core (spawned t.effects) t.result := by
  by_cases h : a.session.epoch = stage.epoch ∧ a.session.state = .connecting
  · cases answer with
    | ok id =>
      rw [Session.finishConnect_ok h.1 h.2]
      simp only [Turn.map, Turn.within, continueLoad_done]
      let b : Agent :=
        { a with session := { a.session with state := .active, live := some { id } } }
      by_cases hr : a.registration.slot = none
      · have hload := finishLoad_of_free (a := b) hr id
        simp only [b] at hload
        rw [hload]
        exact .of_eq (.loaded stage id h.2 h.1 hr) rfl (by simp) rfl
      · have hload := finishLoad_of_taken (a := b) hr SessionState.noConfusion id
        simp only [b] at hload
        rw [hload]
        exact .yielded stage h.2 h.1 hr
    | error e =>
      rw [Session.finishConnect_error h.1 h.2]
      exact .failed stage e h.2 h.1
  · rw [Session.finishConnect_of_stale (not_and_or.mp h)]
    exact .overtaken stage (not_and_or.mp h)

/-- The next section of loading. -/
theorem loads_resume (stage : Connect) (answer : (stage.request a.session.host).Answer) :
    let t := a.resumeLoad stage answer
    Loads a.core (some stage) t.state.core (spawned t.effects) t.result := by
  cases stage with
  | dialing e =>
    cases answer with
    | ok channel => exact .dialled e
    | error cause => exact loads_finishConnect (.dialing e) (.error cause)
  | greeting e => exact loads_finishConnect (.greeting e) _

/-- Loading succeeds only when it registers the handle and starts the heartbeats. -/
theorem Loads.of_ok (h : Loads c stage? c' loops (.done (.ok ()))) :
    c.registration.slot = none ∧ c'.registration.slot = some .own ∧
      c'.session.state = .active ∧ c'.scheduler = c.scheduler.start.state ∧
      loops = spawned c.scheduler.start.effects := by
  cases h with
  | loaded stage id hs he hr => exact ⟨hr, rfl, rfl, rfl, rfl⟩

/-- Loading that does not succeed leaves the scheduler and the context as they were. -/
theorem Loads.of_ne_ok (h : Loads c stage? c' loops p) (hp : p ≠ .done (.ok ())) :
    c'.registration = c.registration ∧ c'.scheduler = c.scheduler ∧ loops = [] := by
  cases h with
  | loaded => exact absurd rfl hp
  | taken | refused | opening | dialled | overtaken | failed | yielded => exact ⟨rfl, rfl, rfl⟩

/-- Loading that ends without success leaves the manager disconnected, if it was so at first and
nobody else has touched it meanwhile. -/
theorem Loads.disconnected (h : Loads c stage? c' loops p) (hp : p ≠ .done (.ok ()))
    (hdone : p.stage? = none) (hfirst : stage? = none → c.session.state = .disconnected)
    (hnext : ∀ stage, stage? = some stage →
      c.session.state = .connecting ∧ c.session.epoch = stage.epoch) :
    c'.session.state = .disconnected := by
  cases h with
  | taken | refused => exact hfirst rfl
  | opening | dialled => cases hdone
  | overtaken stage h =>
    obtain ⟨hs, he⟩ := hnext stage rfl
    exact absurd h (not_or.mpr ⟨not_not_intro he, not_not_intro hs⟩)
  | failed | yielded => rfl
  | loaded => exact absurd rfl hp

end FleetAgent.Agent
