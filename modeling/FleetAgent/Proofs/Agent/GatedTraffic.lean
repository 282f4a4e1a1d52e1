import FleetAgent.Proofs.Agent.Parts
import FleetAgent.Proofs.Agent.Traffic

/-!
# An agent among its tasks, with gates

The traffic of an agent in which other tasks may go on between any two parts of a section, also
where a task is about to take the lock of the session, and where a call that runs turns to its
recovery. The tasks wait at gates like at any other place. A section without anybody at its gates is
one of the possibilities.

## Main definitions

* `Agent.Gated`, `Agent.Gated.step`: the tasks, each at a place, and what may happen next.
* `Agent.Gated.Since`, `Agent.Gated.Runs`: what happens from some moment on, and the traffic of a
  new agent, while the moves are allowed.
* `Agent.Gated.usesHooks`, `Agent.Gated.mindsStopping`: the moves of a host that does not drive the
  session and the scheduler, and those in which recoveries look at the shutdown before they go on.

## Main results

* `Agent.Gated.part_of_step`: what every move does.
* `Agent.Gated.waiting?_of_step`: where the tasks are afterwards.
-/

namespace FleetAgent.Agent

open Effect (spawned)

/-- Whether a place is one of a call of the host, which can be given up. -/
def isCallAt : Place → Bool
  | .wait w => isCall w
  | .gate (.beat _) => false
  | .gate _ => true

/-- Whether a task may open a session again when it goes on from a place: a recovery that waits for
its delay or for its connection, or is about to bring the manager back or to open a session. -/
def mayReopenAt : Place → Bool
  | .wait w => mayReopen w
  | .gate (.run _ _ _ .resetting) | .gate (.run _ _ _ .opening) => true
  | .gate _ => false

/-- The request for whose answer a task waits at a place. -/
def requestAt? (a : Agent) : Place → Option Request
  | .wait w => a.request? w
  | .gate _ => none

/-- The condition matters only to a recovery that may open a session again, once the agent is told
to shut down. -/
theorem Part.imp {minded minded' : Prop} {c c' : Core} {o : Whence} {p? : Option Place}
    (h : Part minded c o c' p?)
    (hm : minded' → ∀ p, o = .place p → mayReopenAt p → c.isStopping → minded) :
    Part minded' c o c' p? := by
  have hstopping {p : Place} (ho : o = .place p) (hp : mayReopenAt p)
      (h : minded → c.isStopping = false) : minded' → c.isStopping = false := fun hm' => by
    cases hs : c.isStopping with
    | false => rfl
    | true => exact hs ▸ h (hm hm' p ho hp hs)
  cases h with
  | rested o p? ho hp => exact .rested o p? ho hp
  | reporting o p ho hp hs => exact .reporting o p ho hp hs
  | registered hr => exact .registered hr
  | opening hs => exact .opening hs
  | dialled e => exact .dialled e
  | failed stage hs he => exact .failed stage hs he
  | loaded stage id hs he hr => exact .loaded stage id hs he hr
  | yielding stage id e hs he hr => exact .yielding stage id e hs he hr
  | lowering e hs => exact .lowering e hs
  | lowered e stage hs => exact .lowered e stage hs
  | reset e hs => exact .reset e hs
  | disabling p hp => exact .disabling p hp
  | joined k => exact .joined k
  | closing hs => exact .closing hs
  | closed stage p? hs hp => exact .closed stage p? hs hp
  | flushed => exact .flushed
  | shut p hp => exact .shut p hp
  | noticed ticket q p? hp => exact .noticed ticket q p? hp
  | cleared ticket attempt cause h hs =>
    exact .cleared ticket attempt cause (hstopping rfl rfl h) hs
  | reopening ticket attempt cause h hs =>
    exact .reopening ticket attempt cause (hstopping rfl rfl h) hs
  | redialled ticket attempt cause e h =>
    exact .redialled ticket attempt cause e (hstopping rfl rfl h)
  | refailed ticket attempt cause stage p? h hs he hp =>
    exact .refailed ticket attempt cause stage p? (hstopping rfl rfl h) hs he hp
  | recovered ticket attempt cause stage id p h hs he hp =>
    exact .recovered ticket attempt cause stage id p (hstopping rfl rfl h) hs he hp
  | looped o s r q p? ho hs hr hp => exact .looped o s r q p? ho hs hr hp

/-- An agent with its tasks, each at a place between two parts. -/
structure Gated where
  /-- The agent. -/
  agent : Agent
  /-- The tasks. -/
  tasks : Tasks Place

namespace Gated

/-- A new agent: the workers of its subscribers and its listener wait. -/
def ofAgent (a : Agent) : Gated :=
  { agent := a, tasks := (Traffic.ofAgent a).tasks.map (·.map .wait) }

/-- From where the task of a move goes on. -/
def whence? (x : Gated) : Move → Option Whence
  | .call op => some (.call op)
  | .resume k _ => (x.tasks.waiting? k).map .place
  | .abandon _ | .register => some .outside

/-- The end of a call that is given up at a place. -/
def abandonAt (a : Agent) : Place → PartTurn
  | .wait w => ungated (immediate (a.abandon w) fun _ => .finished)
  | .gate (.run ticket _ _ _) => ungated (immediate (a.endRun ticket) fun _ => .finished)
  | .gate _ => ungated (a.observing .finished)

/-- The part of a move; none if its task is not there, or has to wait on. -/
def part? (x : Gated) : Move → Option PartTurn
  | .call op => some (x.agent.beginPart op)
  | .resume k d => (x.tasks.waiting? k).bind (x.agent.partAt d)
  | .abandon k => ((x.tasks.waiting? k).filter isCallAt).map (abandonAt x.agent)
  | .register => (Traffic.section? ⟨x.agent, []⟩ .register).map ungated

/-- A move, if it is possible. The heartbeat loops that its part starts are new tasks. -/
def step (x : Gated) (m : Move) : Option (Turn Gated (Progress Place Outcome)) :=
  (x.part? m).map fun t =>
    { state :=
        { agent := t.state.perform t.effects
          tasks := x.tasks.put m.resumes? t.result.stage? ++
            ((spawned t.effects).map fun k => .wait (.loop k none)).map some }
      effects := t.effects
      result := t.result }

/-- The request that is sent in a part, if its task waits for the answer to one afterwards. -/
def sent? (t : Turn Gated (Progress Place Outcome)) : Option Request :=
  t.result.stage?.bind t.state.agent.requestAt?

/-- Whether a move is one of a host that does not drive the session or the scheduler itself. -/
def usesHooks (_ : Gated) : Move → Bool
  | .call op => !drives op
  | _ => true

/-- Whether a move is one of such a host, and not one in which a recovery goes on without having
looked at the shutdown of the agent. -/
def mindsStopping (x : Gated) (m : Move) : Bool :=
  x.usesHooks m && match m with
    | .resume k d =>
      !(x.agent.isStopping && (x.tasks.waiting? k).any mayReopenAt) || decide (Minds d.order)
    | _ => true

/-- The traffic that the traffic `x` can come to while its moves are allowed. -/
inductive Since (allowed : Gated → Move → Bool) (x : Gated) : Gated → Prop
  | refl : Since allowed x x
  | step {y : Gated} {m : Move} {t : Turn Gated (Progress Place Outcome)}
      (hy : Since allowed x y) (hm : allowed y m) (ht : y.step m = some t) : Since allowed x t.state

/-- The traffic that a new agent can come to while its moves are allowed. -/
def Runs (allowed : Gated → Move → Bool) (x : Gated) : Prop :=
  ∃ config address host subscribers a,
    Agent.make config address host subscribers = .ok a ∧ Since allowed (ofAgent a) x

variable {allowed : Gated → Move → Bool} {x y z : Gated} {m : Move}
  {t : Turn Gated (Progress Place Outcome)}

theorem Since.trans (hy : Since allowed x y) (hz : Since allowed y z) : Since allowed x z := by
  induction hz with
  | refl => exact hy
  | step _ hm ht ih => exact ih.step hm ht

/-- What is kept by every allowed move is kept for good. -/
theorem Since.keeps {p : Gated → Prop} (hy : Since allowed x y) (hx : p x)
    (hstep : ∀ {y m t}, p y → allowed y m → y.step m = some t → p t.state) : p y := by
  induction hy with
  | refl => exact hx
  | step _ hm ht ih => exact hstep ih hm ht

/-- Follows a list of moves, if all of them are possible and allowed. -/
def follow? (allowed : Gated → Move → Bool) (x : Gated) : List Move → Option Gated
  | [] => some x
  | m :: ms => if allowed x m then (x.step m).bind fun t => t.state.follow? allowed ms else none

theorem since_of_follow? (ms : List Move) (hy : x.follow? allowed ms = some y) :
    Since allowed x y := by
  induction ms generalizing x with
  | nil =>
    obtain rfl := Option.some.inj hy
    exact .refl
  | cons m ms ih =>
    simp only [follow?] at hy
    split_ifs at hy with hm
    obtain ⟨t, ht, hy⟩ := Option.bind_eq_some_iff.mp hy
    exact (Since.refl.step hm ht).trans (ih hy)

/-- Every move is a part of the agent, changes the place of its own task only, and adds the loops
that the part starts. -/
theorem step_eq_some_iff :
    x.step m = some t ↔ ∃ u, x.part? m = some u ∧
      t = ⟨⟨u.state.perform u.effects, x.tasks.put m.resumes? u.result.stage? ++
        ((spawned u.effects).map fun k => .wait (.loop k none)).map some⟩,
        u.effects, u.result⟩ := by
  simp only [step, Option.map_eq_some_iff]
  exact exists_congr fun u => and_congr_right fun _ => eq_comm

theorem lt_of_resumes? (ht : x.step m = some t) (j : Nat) (hj : m.resumes? = some j) :
    j < x.tasks.length := by
  obtain ⟨u, hu, -⟩ := step_eq_some_iff.mp ht
  cases m with
  | call | register => cases hj
  | resume i d =>
    obtain rfl := Option.some.inj hj
    obtain ⟨p, hp, -⟩ := Option.bind_eq_some_iff.mp hu
    exact Tasks.lt_of_waiting? hp
  | abandon i =>
    obtain rfl := Option.some.inj hj
    obtain ⟨p, hp, -⟩ := Option.map_eq_some_iff.mp hu
    exact Tasks.lt_of_waiting? (Option.filter_eq_some_iff.mp hp).1

/-- After a move its own task is at the place that the part came to, every other task where it was
before, and the loops that the part starts wait for their first parts. -/
theorem waiting?_of_step (ht : x.step m = some t) {k : Nat} {p : Place}
    (hp : t.state.tasks.waiting? k = some p) :
    k = x.tasks.place m.resumes? ∧ t.result.stage? = some p ∨
      k ≠ x.tasks.place m.resumes? ∧ x.tasks.waiting? k = some p ∨
      ∃ loop, p = .wait (.loop loop none) := by
  have hlt := lt_of_resumes? ht
  obtain ⟨u, -, rfl⟩ := step_eq_some_iff.mp ht
  refine (Tasks.of_waiting?_put_append hlt hp).imp_right (Or.imp_right fun hmem => ?_)
  obtain ⟨loop, -, rfl⟩ := List.mem_map.mp hmem
  exact ⟨loop, rfl⟩

theorem waiting?_step_place (ht : x.step m = some t) :
    t.state.tasks.waiting? (x.tasks.place m.resumes?) = t.result.stage? := by
  have hlt := lt_of_resumes? ht
  obtain ⟨u, -, rfl⟩ := step_eq_some_iff.mp ht
  rw [Tasks.waiting?_put_append hlt, if_pos (Tasks.place_lt_length_put hlt), if_pos rfl]

theorem waiting?_step_of_lt (ht : x.step m = some t) {k : Nat} (hk : k < x.tasks.length) :
    t.state.tasks.waiting? k =
      if k = x.tasks.place m.resumes? then t.result.stage? else x.tasks.waiting? k := by
  have hlt := lt_of_resumes? ht
  obtain ⟨u, -, rfl⟩ := step_eq_some_iff.mp ht
  rw [Tasks.waiting?_put_append hlt, if_pos (Nat.lt_of_lt_of_le hk Tasks.length_le_put)]

theorem length_tasks_step (ht : x.step m = some t) :
    x.tasks.place m.resumes? < t.state.tasks.length ∧ x.tasks.length ≤ t.state.tasks.length := by
  have hlt := lt_of_resumes? ht
  obtain ⟨u, -, rfl⟩ := step_eq_some_iff.mp ht
  simp only [List.length_append]
  have hplace : _ < (x.tasks.put m.resumes? u.result.stage?).length :=
    Tasks.place_lt_length_put hlt
  have hput : x.tasks.length ≤ (x.tasks.put m.resumes? u.result.stage?).length :=
    Tasks.length_le_put
  omega

/-- The part of giving up a call. -/
theorem part_abandonAt {minded : Prop} (a : Agent) (p : Place) :
    DoesPart minded a .outside (abandonAt a p) := by
  cases p with
  | wait w => exact part_ungated (Traffic.shift_abandon a w) trivial
  | gate g => cases g <;> exact .rested _ none rfl rfl

/-- A call that is given up is there no longer. -/
theorem stage?_of_abandon {k : Nat} (ht : x.step (.abandon k) = some t) :
    t.result.stage? = none := by
  obtain ⟨u, hu, rfl⟩ := step_eq_some_iff.mp ht
  obtain ⟨p, -, rfl⟩ := Option.map_eq_some_iff.mp hu
  cases p with
  | wait w => rfl
  | gate g => cases g <;> rfl

/-- What every move of a host does that does not drive the session or the scheduler. -/
theorem part_of_step (ht : x.step m = some t) (hm : x.mindsStopping m)
    (hp : ∀ k p, x.tasks.waiting? k = some p → isDrivenAt p = false) :
    ∃ o, x.whence? m = some o ∧
      Part True x.agent.core o t.state.agent.core t.result.stage? := by
  obtain ⟨u, hu, rfl⟩ := step_eq_some_iff.mp ht
  obtain ⟨hhooks, hminds⟩ := Bool.and_eq_true_iff.mp hm
  simp only [core_perform]
  cases m with
  | call op =>
    obtain rfl := Option.some.inj hu
    exact ⟨_, rfl, part_beginPart (by simpa [usesHooks] using hhooks)⟩
  | resume k d =>
    obtain ⟨p, hk, hu⟩ := Option.bind_eq_some_iff.mp hu
    refine ⟨.place p, by simp [whence?, hk], (part_partAt (hp k p hk) hu).imp ?_⟩
    intro _ p' hp' hr hs
    obtain rfl := Whence.place.inj hp'
    simpa [hk, hr, show x.agent.isStopping = true from hs] using hminds
  | abandon k =>
    obtain ⟨p, -, rfl⟩ := Option.map_eq_some_iff.mp hu
    exact ⟨.outside, rfl, part_abandonAt _ p⟩
  | register =>
    obtain ⟨v, hv, rfl⟩ := Option.map_eq_some_iff.mp hu
    exact ⟨.outside, rfl, part_ungated (Traffic.shift_register hv) trivial⟩

theorem isDrivenAt_ofAgent (a : Agent) {k : Nat} {p : Place}
    (hp : (ofAgent a).tasks.waiting? k = some p) : isDrivenAt p = false := by
  obtain ⟨w?, hmem, hw⟩ := List.mem_map.mp
    (List.mem_of_getElem? (Option.join_eq_some_iff.mp hp))
  obtain ⟨w, rfl, rfl⟩ := Option.map_eq_some_iff.mp hw
  rcases List.mem_append.mp hmem with hmem | hmem
  · obtain ⟨i, -, hi⟩ := List.mem_map.mp hmem
    obtain rfl := Option.some.inj hi
    rfl
  · obtain rfl := Option.some.inj (List.mem_singleton.mp hmem)
    rfl

/-- No task is one of a call that drives the session or the scheduler. -/
theorem Runs.isDrivenAt_eq_false (hx : Runs mindsStopping x) {k : Nat} {p : Place}
    (hp : x.tasks.waiting? k = some p) : isDrivenAt p = false := by
  obtain ⟨_, _, _, _, a, -, hx⟩ := hx
  refine hx.keeps (p := fun x => ∀ k p, x.tasks.waiting? k = some p → isDrivenAt p = false)
    (fun _ _ => isDrivenAt_ofAgent a) (fun {y m t} hy hm ht k p hp => ?_) k p hp
  obtain ⟨o, -, hpart⟩ := part_of_step ht hm hy
  rcases waiting?_of_step ht hp with ⟨-, hplace⟩ | ⟨-, hp⟩ | ⟨loop, rfl⟩
  · rw [hplace] at hpart
    exact hpart.isDrivenAt_eq_false
  · exact hy k p hp
  · rfl

theorem Runs.step (hx : Runs allowed x) (hm : allowed x m) (ht : x.step m = some t) :
    Runs allowed t.state := by
  obtain ⟨config, address, host, subscribers, a, ha, hx⟩ := hx
  exact ⟨config, address, host, subscribers, a, ha, hx.step hm ht⟩

theorem Runs.since (hx : Runs allowed x) (hy : Since allowed x y) : Runs allowed y := by
  obtain ⟨config, address, host, subscribers, a, ha, hx⟩ := hx
  exact ⟨config, address, host, subscribers, a, ha, hx.trans hy⟩

/-- What every move does, in the traffic of a new agent. -/
theorem Runs.part (hx : Runs mindsStopping x) (hm : x.mindsStopping m) (ht : x.step m = some t) :
    ∃ o, x.whence? m = some o ∧
      Part True x.agent.core o t.state.agent.core t.result.stage? :=
  part_of_step ht hm fun _ _ => hx.isDrivenAt_eq_false

end Gated

end FleetAgent.Agent
