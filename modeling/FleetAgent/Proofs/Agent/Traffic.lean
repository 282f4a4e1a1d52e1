import FleetAgent.Proofs.Agent.Sections
import FleetAgent.Proofs.Session.Traffic

/-!
# An agent among its tasks

The host calls the hooks of an agent from any tasks, and gives up a call that waits whenever it
likes. Beside these calls the heartbeat loops go on, the listener, and the workers of the
subscribers. The *traffic* of an agent is the agent with its tasks. Between two waits of a task no
other task goes on; which one goes on next, what the controller answers and when, and in which order
a call that runs looks for the things that it waits for, is not laid down.

## Main definitions

* `Agent.Traffic`, `Agent.Move`, `Agent.Traffic.step`: the tasks, and what may happen next.
* `Agent.Traffic.Runs`, `Agent.Traffic.Since`: the traffic of a new agent while its moves are
  allowed, and what happens from some moment on.
* `Agent.Traffic.Entry`, `Agent.Traffic.History`: the sections that have taken place.
* `Agent.Traffic.usesHooks`, `Agent.Traffic.mindsStopping`: the moves of a host that does not drive
  the session and the scheduler, and those in which recoveries look at the shutdown before they go
  on.
* `Agent.Traffic.lobby`: an agent, with deliveries to its activities.

## Main results

* `Agent.Traffic.shift_of_usesHooks`: what every section does.
* `Agent.Traffic.loads_of_step`, `Agent.Traffic.watches_of_step`: what a section of loading or of a
  call that runs does, and what it comes to.
* `Agent.Traffic.waiting?_of_step`: where the tasks wait afterwards.
-/

namespace FleetAgent.Agent

open Effect (spawned)

/-- Whether an activity is a call of the host, which can be given up. -/
def isCall : Activity → Bool
  | .loop _ _ | .listener _ | .worker _ _ => false
  | _ => true

/-- What may happen next in an agent. -/
inductive Move where
  /-- The first section of a call of the host. -/
  | call (op : Operation)
  /-- The next section of the task of a number, with what the surroundings have brought it. -/
  | resume (task : Nat) (d : Delivery)
  /-- The host gives up the call of a number. -/
  | abandon (task : Nat)
  /-- Another handle is set up in the context of the host. -/
  | register

/-- The number of the task that goes on in a move, or is given up. -/
def Move.resumes? : Move → Option Nat
  | .resume k _ | .abandon k => some k
  | .call _ | .register => none

/-- An agent with its tasks. -/
structure Traffic where
  /-- The agent. -/
  agent : Agent
  /-- The tasks. -/
  tasks : Tasks Activity

namespace Traffic

/-- A new agent: the workers of its subscribers and its listener wait. -/
def ofAgent (a : Agent) : Traffic :=
  { agent := a
    tasks := (List.range a.fanout.boxes.length).map (fun i => some (.worker i .idle)) ++
      [some (.listener { cursor := a.bus.subscribe })] }

/-- What the section of a move belongs to. -/
def origin? (x : Traffic) : Move → Option Origin
  | .call op => some (.call op)
  | .resume k _ => (x.tasks.waiting? k).map .stage
  | .abandon k => (x.tasks.waiting? k).map .abandoned
  | .register => some .registration

/-- The section of a move; none if its task does not wait, or has to wait on. -/
def section? (x : Traffic) : Move → Option ActivityTurn
  | .call op => some (x.agent.begin op)
  | .resume k d => (x.tasks.waiting? k).bind (x.agent.resume d)
  | .abandon k => ((x.tasks.waiting? k).filter isCall).map fun w =>
    immediate (x.agent.abandon w) fun _ => .finished
  | .register => match x.agent.registration.setup .other with
    | .ok registration => some ({ x.agent with registration }.observing .finished)
    | .error e => some (x.agent.observing (.failed (.registration e)))

/-- A move, if it is possible. The heartbeat loops that its section starts are new tasks. -/
def step (x : Traffic) (m : Move) : Option (Turn Traffic (Progress Activity Outcome)) :=
  (x.section? m).map fun t =>
    { state :=
        { agent := t.state.perform t.effects
          tasks := x.tasks.put m.resumes? t.result.stage? ++
            (spawned t.effects).map fun k => some (.loop k none) }
      effects := t.effects
      result := t.result }

/-- The request that is sent after a section, if its task waits for the answer to one. -/
def sent? (t : Turn Traffic (Progress Activity Outcome)) : Option Request :=
  t.result.stage?.bind t.state.agent.request?

/-- Whether a move is one of a host that does not drive the session or the scheduler itself. -/
def usesHooks (_ : Traffic) : Move → Bool
  | .call op => !drives op
  | _ => true

/-- Whether a move is one of such a host, and not one in which a recovery goes on without having
looked at the shutdown of the agent. -/
def mindsStopping (x : Traffic) (m : Move) : Bool :=
  x.usesHooks m && match m with
    | .resume k d =>
      !(x.agent.isStopping && (x.tasks.waiting? k).any mayReopen) || decide (Minds d.order)
    | _ => true

/-- The traffic that a new agent can come to while its moves are allowed. -/
inductive Runs (allowed : Traffic → Move → Bool) : Traffic → Prop
  | new {config : AgentConfig} {address : String} {host : Host} {subscribers : List Subscriber}
      {a : Agent} (ha : Agent.make config address host subscribers = .ok a) :
      Runs allowed (ofAgent a)
  | step {x : Traffic} {m : Move} {t : Turn Traffic (Progress Activity Outcome)}
      (hx : Runs allowed x) (hm : allowed x m) (ht : x.step m = some t) : Runs allowed t.state

/-- The traffic that the traffic `x` can come to while its moves are allowed. -/
inductive Since (allowed : Traffic → Move → Bool) (x : Traffic) : Traffic → Prop
  | refl : Since allowed x x
  | step {y : Traffic} {m : Move} {t : Turn Traffic (Progress Activity Outcome)}
      (hy : Since allowed x y) (hm : allowed y m) (ht : y.step m = some t) : Since allowed x t.state

/-- A section that has taken place. -/
structure Entry where
  /-- The traffic before the section. -/
  before : Traffic
  /-- The move that was made. -/
  move : Move
  /-- What the section came to. -/
  turn : Turn Traffic (Progress Activity Outcome)

/-- The histories of a new agent while its moves are allowed. -/
inductive History (allowed : Traffic → Move → Bool) : List Entry → Traffic → Prop
  | new {config : AgentConfig} {address : String} {host : Host} {subscribers : List Subscriber}
      {a : Agent} (ha : Agent.make config address host subscribers = .ok a) :
      History allowed [] (ofAgent a)
  | step {h : List Entry} {x : Traffic} {m : Move} {t : Turn Traffic (Progress Activity Outcome)}
      (hx : History allowed h x) (hm : allowed x m) (ht : x.step m = some t) :
      History allowed (h ++ [⟨x, m, t⟩]) t.state

variable {allowed : Traffic → Move → Bool} {x y z : Traffic} {m : Move}
  {t : Turn Traffic (Progress Activity Outcome)}

theorem History.runs {h : List Entry} (hx : History allowed h x) : Runs allowed x := by
  induction hx with
  | new ha => exact .new ha
  | step _ hm ht ih => exact .step ih hm ht

/-- Every traffic has a history. -/
theorem Runs.exists_history (hx : Runs allowed x) : ∃ h, History allowed h x := by
  induction hx with
  | new ha => exact ⟨[], .new ha⟩
  | step _ hm ht ih =>
    obtain ⟨h, hx⟩ := ih
    exact ⟨_, hx.step hm ht⟩

/-- Follows a list of moves, if all of them are possible and allowed. -/
def follow? (allowed : Traffic → Move → Bool) (x : Traffic) : List Move → Option Traffic
  | [] => some x
  | m :: ms => if allowed x m then (x.step m).bind fun t => t.state.follow? allowed ms else none

theorem Since.follow? (hy : Since allowed x y) (ms : List Move)
    (hz : y.follow? allowed ms = some z) : Since allowed x z := by
  induction ms generalizing y with
  | nil =>
    obtain rfl := Option.some.inj hz
    exact hy
  | cons m ms ih =>
    simp only [Traffic.follow?] at hz
    split_ifs at hz with hm
    obtain ⟨t, ht, hz⟩ := Option.bind_eq_some_iff.mp hz
    exact ih (.step hy hm ht) hz

theorem Since.runs (hy : Since allowed x y) (hx : Runs allowed x) : Runs allowed y := by
  induction hy with
  | refl => exact hx
  | step _ hm ht ih => exact .step ih hm ht

/-- Every move is a section of the agent, changes the stage of its own task only, and adds the loops
that the section starts. -/
theorem step_eq_some_iff :
    x.step m = some t ↔ ∃ u, x.section? m = some u ∧
      t = ⟨⟨u.state.perform u.effects, x.tasks.put m.resumes? u.result.stage? ++
        (spawned u.effects).map fun k => some (.loop k none)⟩, u.effects, u.result⟩ := by
  simp only [step, Option.map_eq_some_iff]
  exact exists_congr fun u => and_congr_right fun _ => eq_comm

/-- The task that goes on in a move, or is given up, waits. -/
theorem exists_waiting?_of_step (ht : x.step m = some t) {k : Nat} (hk : m.resumes? = some k) :
    ∃ w, x.tasks.waiting? k = some w := by
  obtain ⟨u, hu, -⟩ := step_eq_some_iff.mp ht
  cases m with
  | call | register => cases hk
  | resume j d =>
    obtain rfl := Option.some.inj hk
    obtain ⟨w, hw, -⟩ := Option.bind_eq_some_iff.mp hu
    exact ⟨w, hw⟩
  | abandon j =>
    obtain rfl := Option.some.inj hk
    obtain ⟨w, hw, -⟩ := Option.map_eq_some_iff.mp hu
    exact ⟨w, (Option.filter_eq_some_iff.mp hw).1⟩

/-- After a move its own task waits at the stage that the section came to, every other task waits
where it did before, and the loops that the section starts are new tasks behind all others. -/
theorem waiting?_step (ht : x.step m = some t) (k : Nat) :
    t.state.tasks.waiting? k =
      let n := (x.tasks.put m.resumes? t.result.stage?).length
      if k < n then if k = x.tasks.place m.resumes? then t.result.stage? else x.tasks.waiting? k
      else (spawned t.effects)[k - n]?.map fun loop => .loop loop none := by
  have hlt (j : Nat) (hj : m.resumes? = some j) : j < x.tasks.length := by
    obtain ⟨w, hw⟩ := exists_waiting?_of_step ht hj
    exact Tasks.lt_of_waiting? hw
  obtain ⟨u, -, rfl⟩ := step_eq_some_iff.mp ht
  have hloops : (spawned u.effects).map (fun k => some (Activity.loop k none)) =
      ((spawned u.effects).map (Activity.loop · none)).map some := by
    rw [List.map_map]
    rfl
  simp only [hloops, Tasks.waiting?_put_append hlt, List.getElem?_map]

/-- After a move its own task waits at the stage that the section came to, every other task waits
where it did before, and the loops that the section starts wait for their first sections. -/
theorem waiting?_of_step (ht : x.step m = some t) {k : Nat} {w : Activity}
    (hw : t.state.tasks.waiting? k = some w) :
    k = x.tasks.place m.resumes? ∧ t.result.stage? = some w ∨
      k ≠ x.tasks.place m.resumes? ∧ x.tasks.waiting? k = some w ∨
      ∃ loop ∈ spawned t.effects, w = .loop loop none := by
  rw [waiting?_step ht] at hw
  dsimp only at hw
  split_ifs at hw with hk hown
  · exact .inl ⟨hown, hw⟩
  · exact .inr (.inl ⟨hown, hw⟩)
  · obtain ⟨loop, hloop, rfl⟩ := Option.map_eq_some_iff.mp hw
    exact .inr (.inr ⟨loop, List.mem_of_getElem? hloop, rfl⟩)

/-- A task that has waited waits on, unless the section is its own. -/
theorem waiting?_step_of_waiting? (ht : x.step m = some t) {k : Nat} {w : Activity}
    (hw : x.tasks.waiting? k = some w) :
    t.state.tasks.waiting? k = if m.resumes? = some k then t.result.stage? else some w := by
  have hlt := Tasks.lt_of_waiting? hw
  rw [waiting?_step ht]
  dsimp only
  rw [if_pos (Nat.lt_of_lt_of_le hlt Tasks.length_le_put), hw]
  refine if_congr ?_ rfl rfl
  cases m.resumes? with
  | none => exact iff_of_false (Nat.ne_of_lt hlt) nofun
  | some j => simp [Tasks.place, eq_comm]

/-- Only the next section of a task belongs to the stage at which it has waited. -/
theorem exists_resume_of_origin? {w : Activity} (ho : x.origin? m = some (.stage w)) :
    ∃ k d, m = .resume k d ∧ x.tasks.waiting? k = some w := by
  cases m with
  | call | register => cases ho
  | resume k d =>
    obtain ⟨w', hk, h⟩ := Option.map_eq_some_iff.mp ho
    obtain rfl := Origin.stage.inj h
    exact ⟨k, d, rfl, hk⟩
  | abandon k =>
    obtain ⟨w', -, h⟩ := Option.map_eq_some_iff.mp ho
    cases h

/-- The section of giving up a call. -/
theorem shift_abandon {minded : Prop} (a : Agent) (w : Activity) :
    Does minded a (.abandoned w) (immediate (a.abandon w) fun _ => .finished) := by
  cases w with
  | run ticket stage =>
    refine .of_eq (.ended _ id) rfl ?_ rfl
    simp only [abandon, endRun, immediate, Turn.effects_map]
    split_ifs <;> rfl
  | connect | beat | status | join | load | enable | disable | loop | listener | worker =>
    exact .ended _ id

/-- The section of setting up another handle. -/
theorem shift_register {minded : Prop} {u : ActivityTurn} (hu : x.section? .register = some u) :
    Does minded x.agent .registration u := by
  simp only [section?, Registration.setup] at hu
  cases hr : x.agent.registration.slot with
  | none =>
    rw [hr] at hu
    obtain rfl := Option.some.inj hu
    exact .registered hr
  | some handle =>
    rw [hr] at hu
    obtain rfl := Option.some.inj hu
    exact .ended _ id

/-- What every section of an agent does, if the host does not drive the session or the scheduler.
The shutdown is minded in a move in which no recovery goes on without having looked at it. -/
theorem shift_of_usesHooks (ht : x.step m = some t) (hm : x.usesHooks m)
    (hw : ∀ k w, x.tasks.waiting? k = some w → isDriven w = false) :
    ∃ o, x.origin? m = some o ∧ Shift (x.mindsStopping m) x.agent.core o t.state.agent.core
      (spawned t.effects) t.result.stage? := by
  obtain ⟨u, hu, rfl⟩ := step_eq_some_iff.mp ht
  simp only [core_perform]
  cases m with
  | call op =>
    obtain rfl := Option.some.inj hu
    exact ⟨_, rfl, shift_begin (by simpa [usesHooks] using hm)⟩
  | resume k d =>
    obtain ⟨w, hk, hu⟩ := Option.bind_eq_some_iff.mp hu
    refine ⟨.stage w, by simp [origin?, hk], ?_⟩
    refine (shift_resume (hw k w hk) hu).imp fun hminds w' hw' hr hs => ?_
    obtain rfl := Origin.stage.inj hw'
    simpa [mindsStopping, usesHooks, hk, hr, show x.agent.isStopping = true from hs] using hminds
  | abandon k =>
    obtain ⟨w, hk, rfl⟩ := Option.map_eq_some_iff.mp hu
    obtain ⟨hk, -⟩ := Option.filter_eq_some_iff.mp hk
    exact ⟨.abandoned w, by simp [origin?, hk], shift_abandon _ w⟩
  | register => exact ⟨.registration, rfl, shift_register hu⟩

/-- What a section of loading does, and what it comes to. -/
theorem loads_of_step (ht : x.step m = some t) {stage? : Option Connect}
    (ho : x.origin? m = some (.ofLoad stage?)) :
    ∃ p, Loads x.agent.core stage? t.state.agent.core (spawned t.effects) p ∧
      t.result = p.map .load (.ofUnit id) := by
  obtain ⟨u, hu, rfl⟩ := step_eq_some_iff.mp ht
  simp only [core_perform]
  cases stage? with
  | none =>
    cases m with
    | call op =>
      cases Option.some.inj ho
      obtain rfl := Option.some.inj hu
      exact ⟨_, loads_begin, rfl⟩
    | register => cases ho
    | resume k d | abandon k =>
      obtain ⟨w, -, h⟩ := Option.map_eq_some_iff.mp ho
      cases h
  | some stage =>
    obtain ⟨k, d, rfl, hk⟩ := exists_resume_of_origin? ho
    simp only [section?, hk, Option.bind_some] at hu
    obtain ⟨answer, -, rfl⟩ := Option.map_eq_some_iff.mp hu
    exact ⟨_, loads_resume stage answer, rfl⟩

/-- A section with which a call that loads the agent succeeds. -/
theorem loads_of_finished (ht : x.step m = some t) {stage? : Option Connect}
    (ho : x.origin? m = some (.ofLoad stage?)) (hr : t.result = .done .finished) :
    Loads x.agent.core stage? t.state.agent.core (spawned t.effects) (.done (.ok ())) := by
  obtain ⟨p, hloads, hp⟩ := loads_of_step ht ho
  rw [hr] at hp
  rcases p with stage | (e | ⟨⟨⟩⟩)
  · cases hp
  · cases hp
  · exact hloads

/-- Follows moves, and then one more. -/
theorem exists_step_of_follow? (hx : Runs allowed x) (ms : List Move) (m : Move)
    (p : Traffic → Turn Traffic (Progress Activity Outcome) → Bool)
    (h : (x.follow? allowed ms).any fun y => (y.step m).any (p y)) :
    ∃ y t, Runs allowed y ∧ y.step m = some t ∧ p y t := by
  obtain ⟨y, hy, h⟩ := (Option.any_eq_true _ _).mp h
  obtain ⟨t, ht, hp⟩ := (Option.any_eq_true _ _).mp h
  exact ⟨y, t, (Since.refl.follow? ms hy).runs hx, ht, hp⟩

/-- What the controller brings if it accepts everything. -/
def accepted : Delivery :=
  { now := 0, reply := fun r => some (Session.accepting r) }

/-- What the controller brings if it does not know the session of a heartbeat. -/
def rejected : Delivery :=
  { now := 0
    reply := fun
      | .heartbeat _ _ => some (.error (.rejected "unknown session"))
      | r => some (Session.accepting r) }

/-- The time is over for which a task waits. -/
def elapsed : Delivery := { now := 0, elapsed := true }

/-- An agent that tries three times to open a session again. -/
def lobby : Agent :=
  match Agent.make { reconnect := .backoff .standard 3 } "http://127.0.0.1:12892"
      (.named "lobby-1") []
  with
  | .ok a => a
  | .error _ => default

theorem make_lobby : Agent.make { reconnect := .backoff .standard 3 } "http://127.0.0.1:12892"
    (.named "lobby-1") [] = .ok lobby := rfl

theorem runs_lobby (allowed : Traffic → Move → Bool) : Runs allowed (ofAgent lobby) :=
  .new make_lobby

/-- The agent is loaded: its heartbeat loop is the task 2. -/
def loading : List Move := [.call .load, .resume 1 accepted, .resume 1 accepted]

end Traffic

end FleetAgent.Agent
