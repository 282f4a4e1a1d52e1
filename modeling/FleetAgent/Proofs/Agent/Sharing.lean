import FleetAgent.Proofs.Agent.Heartbeats

/-!
# Agents that share a context

Several agents can share the context of a host, in which one handle can be registered for good, and
the host can register one itself. An agent looks whether there is a handle before it opens its
session, and registers its own afterwards; other agents may do the same in between. The first one
that comes to register its handle has won, and every other takes down the session that it may have
opened.

A load drives the session of its agent alone: there is one at a time, it begins with a manager that
is disconnected, and no other section touches the manager meanwhile.

## Main definitions

* `Agent.Sharing`, `Agent.Sharing.Move`, `Agent.Sharing.step`: the agents, and what may happen next.
* `Agent.Sharing.Run`: a history of such agents.
* `Agent.Sharing.Entry.registers`, `Agent.Sharing.Entry.loaded?`: a handle is registered; an agent
  is loaded.
* `Agent.Sharing.Entry.Unloaded`: what a call that loads an agent leaves behind if it does not
  succeed.
* `Agent.Sharing.Settled`: one handle is registered at most, and the loads that lost are undone.

## Main results

* `Agent.Sharing.Run.fit`: a load finds the manager as it has left it.
* `Agent.Sharing.settled_of_run`: one agent is loaded at most, and the others can be again.
-/

namespace FleetAgent.Agent

open Effect (spawned)

/-! ### Loads -/

/-- Whether a section belongs to a call that loads the agent. -/
def Origin.isLoad : Origin → Bool
  | call .load | stage (.load _) => true
  | _ => false

theorem Origin.eq_ofLoad {o : Origin} (h : o.isLoad) : ∃ stage?, o = .ofLoad stage? := by
  cases o with
  | call op => cases op <;> first | exact ⟨none, rfl⟩ | cases h
  | stage w => cases w <;> first | exact ⟨some _, rfl⟩ | cases h
  | abandoned | registration => cases h

/-- Whether an activity is a call that loads the agent. -/
def isLoad : Activity → Bool
  | .load _ => true
  | _ => false

section

variable {minded : Prop} {c c' : Core} {o : Origin} {loops : List Nat} {n : Option Activity}

/-- A call that loads the agent waits with the attempt that it has begun. -/
theorem Shift.load_of_eq (h : Shift minded c o c' loops n) {stage : Connect}
    (hn : n = some (.load stage)) :
    o = .call .load ∧ c'.session.state = .connecting ∧ c'.session.epoch = stage.epoch ∨
      ∃ e, o = .stage (.load (.dialing e)) ∧ stage = .greeting e ∧ c'.session = c.session := by
  subst hn
  cases h with
  | opening => exact .inl ⟨rfl, rfl, rfl⟩
  | dialled e => exact .inr ⟨e, rfl, rfl, rfl⟩
  | background o n hn => rcases hn with ⟨l, hn⟩ | ⟨i, stage, hn⟩ | ⟨call, hn, -⟩ <;> cases hn
  | disabled n hk hn | joined k n hn => rcases hn with hn | hn <;> cases hn
  | noticed ticket t q n hq hn => rcases hn with hn | ⟨cause, delay, -, hn⟩ <;> cases hn
  | refailed ticket attempt cause stage n hm hs he hn =>
    rcases hn with hn | ⟨delay, hn⟩ <;> cases hn
  | looped k b s r q n hs hr hn => rcases hn with hn | hn | hn | ⟨beat, hn, -⟩ <;> cases hn

/-- Only loading registers the handle of the agent. -/
theorem Shift.registration_eq (h : Shift minded c o c' loops n) (ho : o ≠ .registration)
    (hload : o.isLoad = false) : c'.registration = c.registration := by
  cases h with
  | registered => exact absurd rfl ho
  | loaded => cases hload
  | ended | background | opening | dialled | failed | yielded | enabling | disabling | disabled
  | joined | lined | watching | shut | noticed | reopening | redialled | refailed | recovered
  | reporting | looped => rfl

end

namespace Traffic

/-- Whether a call waits that loads the agent. -/
def isLoading (x : Traffic) : Bool := x.tasks.any (·.any isLoad)

/-- Whether a move, of which the turn `t` comes, is one of a host that uses the hooks of the agent,
loads it once at a time, and only while the session manager is disconnected; no other section
touches the manager meanwhile. Other handles are not registered behind the back of the context that
is shared. -/
def loadsAlone (x : Traffic) (m : Move) (t : Turn Traffic (Progress Activity Outcome)) : Bool :=
  x.usesHooks m &&
  (match m with
    | .register => false
    | .call .load => x.agent.session.state = .disconnected && !x.isLoading
    | _ => true) &&
  (!x.isLoading || (m.resumes?.bind x.tasks.waiting?).any isLoad ||
    t.state.agent.session = x.agent.session)

/-- A call that loads the agent finds the manager as it has left it, and is the only one. -/
structure Fit (x : Traffic) : Prop where
  tended : x.Tended
  recorded : x.agent.session.Recorded
  awaited : ∀ {k stage}, x.tasks.waiting? k = some (.load stage) →
    x.agent.session.state = .connecting ∧ x.agent.session.epoch = stage.epoch
  single : ∀ {k j stage stage'}, x.tasks.waiting? k = some (.load stage) →
    x.tasks.waiting? j = some (.load stage') → k = j

variable {x : Traffic} {m : Move} {t : Turn Traffic (Progress Activity Outcome)} {o : Origin}

theorem isLoading_of_waiting? {k : Nat} {stage : Connect}
    (hw : x.tasks.waiting? k = some (.load stage)) : x.isLoading :=
  List.any_eq_true.mpr ⟨_, List.mem_of_getElem? (Option.join_eq_some_iff.mp hw), rfl⟩

theorem fit_ofAgent {config : AgentConfig} {address : String} {host : Host}
    {subscribers : List Subscriber} {a : Agent}
    (ha : Agent.make config address host subscribers = .ok a) : (ofAgent a).Fit := by
  have hne {k : Nat} {stage : Connect} : (ofAgent a).tasks.waiting? k ≠ some (.load stage) :=
    fun hw => by rcases waiting?_ofAgent hw with ⟨j, h⟩ | ⟨l, h⟩ <;> cases h
  refine ⟨tended_ofAgent a, ?_, fun hw => absurd hw hne, fun hw => absurd hw hne⟩
  simp only [Agent.make] at ha
  split at ha
  · cases ha
  · obtain rfl := Except.ok.inj ha
    simp [Session.Recorded, ofAgent, SessionState.isEstablished]

/-- The context that an agent sees is not what a load relies on. -/
theorem Fit.withRegistration (hx : x.Fit) (r : Registration Handle) :
    Fit { x with agent := { x.agent with registration := r } } :=
  ⟨⟨hx.tended.hooked, hx.tended.waits, hx.tended.unique⟩, hx.recorded, hx.awaited, hx.single⟩

theorem eq_call_of_origin? {op : Operation} (ho : x.origin? m = some (.call op)) :
    m = .call op := by
  cases m with
  | call op' => exact congrArg _ (Origin.call.inj (Option.some.inj ho))
  | register => cases ho
  | resume k d | abandon k =>
    obtain ⟨w, -, h⟩ := Option.map_eq_some_iff.mp ho
    cases h

/-- When a load begins or goes on, it is the only one. -/
theorem Fit.eq_place (hx : x.Fit) (hm : x.loadsAlone m t) {stage : Connect} {j : Nat}
    (ho : x.origin? m = some (.call .load) ∨ ∃ e, x.origin? m = some (.stage (.load e)))
    (hj : x.tasks.waiting? j = some (.load stage)) : j = x.tasks.place m.resumes? := by
  rcases ho with ho | ⟨e, ho⟩
  · obtain rfl := eq_call_of_origin? ho
    simp [loadsAlone, isLoading_of_waiting? hj] at hm
  · obtain ⟨k, d, rfl, hk⟩ := exists_resume_of_origin? ho
    exact hx.single hj hk

/-- A section that is not of the load leaves the manager as it is. -/
theorem Fit.session_eq (hx : x.Fit) (hm : x.loadsAlone m t) {stage : Connect} {j : Nat}
    (hj : x.tasks.waiting? j = some (.load stage)) (hne : j ≠ x.tasks.place m.resumes?) :
    t.state.agent.session = x.agent.session := by
  have hload := isLoading_of_waiting? hj
  simp only [loadsAlone, Bool.and_eq_true, Bool.or_eq_true, hload, Bool.not_true,
    Bool.false_eq_true, false_or, decide_eq_true_eq] at hm
  refine hm.2.resolve_left fun hown => ?_
  obtain ⟨w, hw, hload⟩ := (Option.any_eq_true _ _).mp hown
  obtain ⟨k, hk, hw⟩ := Option.bind_eq_some_iff.mp hw
  cases w with
  | load stage' =>
    refine hne (hx.single hj hw |>.trans ?_)
    simp [Tasks.place, hk]
  | connect | beat | status | join | enable | disable | run | loop | listener | worker =>
    cases hload

/-- Every move keeps what a load relies on. -/
theorem Fit.step (hx : x.Fit) (hm : x.loadsAlone m t) (ht : x.step m = some t) : t.state.Fit := by
  have hhooks : x.usesHooks m := by
    simp only [loadsAlone, Bool.and_eq_true] at hm
    exact hm.1.1
  obtain ⟨o, ho, hshift⟩ := shift_of_usesHooks ht hhooks fun _ _ => hx.tended.hooked
  -- a load that waits now is the one of the move, or has waited before and another one goes on
  have hload {k : Nat} {stage : Connect} (hw : t.state.tasks.waiting? k = some (.load stage)) :
      (k = x.tasks.place m.resumes? ∧ t.result.stage? = some (.load stage)) ∨
        k ≠ x.tasks.place m.resumes? ∧ x.tasks.waiting? k = some (.load stage) := by
    rcases waiting?_of_step ht hw with hw | hw | ⟨loop, -, hw⟩
    · exact .inl hw
    · exact .inr hw
    · cases hw
  have hown {stage : Connect} (hn : t.result.stage? = some (.load stage)) :
      x.origin? m = some (.call .load) ∨ ∃ e, x.origin? m = some (.stage (.load e)) := by
    rcases hshift.load_of_eq hn with ⟨rfl, -⟩ | ⟨e, rfl, -⟩
    · exact .inl ho
    · exact .inr ⟨_, ho⟩
  refine ⟨hx.tended.step hhooks ht, hshift.recorded hx.recorded, fun {k stage} hw => ?_,
    fun {k j stage stage'} hw hw' => ?_⟩
  · rcases hload hw with ⟨hk, hn⟩ | ⟨hk, hw⟩
    · rcases hshift.load_of_eq hn with ⟨-, hs, he⟩ | ⟨e, rfl, rfl, hs⟩
      · exact ⟨hs, he⟩
      · obtain ⟨i, d, rfl, hi⟩ := exists_resume_of_origin? ho
        have hs : t.state.agent.session = x.agent.session := hs
        obtain ⟨hstate, hepoch⟩ := hx.awaited hi
        exact ⟨(congrArg Session.state hs).trans hstate, (congrArg Session.epoch hs).trans hepoch⟩
    · exact hx.session_eq hm hw hk ▸ hx.awaited hw
  · rcases hload hw with ⟨hk, hn⟩ | ⟨hk, hw⟩ <;> rcases hload hw' with ⟨hj, hn'⟩ | ⟨hj, hw'⟩
    · exact hk.trans hj.symm
    · exact absurd (hx.eq_place hm (hown hn) hw') hj
    · exact absurd (hx.eq_place hm (hown hn') hw) hk
    · exact hx.single hw hw'

/-- A call that loads the agent and does not succeed has not registered the handle nor started the
heartbeats, and leaves the manager disconnected. -/
theorem Fit.unloaded (hx : x.Fit) (hm : x.loadsAlone m t) (ht : x.step m = some t)
    (ho : (x.origin? m).any Origin.isLoad) (hr : t.result ≠ .done .finished) :
    t.state.agent.registration = x.agent.registration ∧
      t.state.agent.scheduler = x.agent.scheduler ∧ spawned t.effects = [] ∧
      (t.result.stage? = none → t.state.agent.session.state = .disconnected) := by
  obtain ⟨o, ho, hload⟩ := (Option.any_eq_true _ _).mp ho
  obtain ⟨stage?, rfl⟩ := Origin.eq_ofLoad hload
  obtain ⟨p, hloads, hp⟩ := loads_of_step ht ho
  have hne : p ≠ .done (.ok ()) := fun h => hr (by rw [hp, h]; rfl)
  obtain ⟨hreg, hscheduler, hloops⟩ := hloads.of_ne_ok hne
  refine ⟨hreg, hscheduler, hloops, fun hdone => ?_⟩
  rw [hp, Progress.stage?_map, Option.map_eq_none_iff] at hdone
  refine hloads.disconnected hne hdone (fun hfirst => ?_) fun stage hnext => ?_
  · subst hfirst
    obtain rfl := eq_call_of_origin? ho
    simp only [loadsAlone, Bool.and_eq_true, decide_eq_true_eq] at hm
    exact hm.1.2.1
  · subst hnext
    obtain ⟨k, d, rfl, hk⟩ := exists_resume_of_origin? ho
    exact hx.awaited hk

/-- Only a call that loads the agent changes the context, and only when it succeeds. -/
theorem registration_of_step (hx : x.Fit) (hm : x.loadsAlone m t) (ht : x.step m = some t) :
    (x.origin? m).any Origin.isLoad ∧ t.result = .done .finished ∧
        x.agent.registration.slot = none ∧ t.state.agent.registration.slot = some .own ∨
      ¬ ((x.origin? m).any Origin.isLoad ∧ t.result = .done .finished) ∧
        t.state.agent.registration = x.agent.registration := by
  have hhooks : x.usesHooks m := by
    simp only [loadsAlone, Bool.and_eq_true] at hm
    exact hm.1.1
  obtain ⟨o, ho, hshift⟩ := shift_of_usesHooks ht hhooks fun _ _ => hx.tended.hooked
  by_cases hload : o.isLoad
  · by_cases hr : t.result = .done .finished
    · obtain ⟨stage?, rfl⟩ := Origin.eq_ofLoad hload
      obtain ⟨hfree, hown, -⟩ := (loads_of_finished ht ho hr).of_ok
      exact .inl ⟨by simp [ho, hload], hr, hfree, hown⟩
    · obtain ⟨hreg, -⟩ := hx.unloaded hm ht (by simp [ho, hload]) hr
      exact .inr ⟨fun h => hr h.2, hreg⟩
  · refine .inr ⟨fun h => hload (by simpa [ho] using h.1), ?_⟩
    refine hshift.registration_eq ?_ (by simpa using hload)
    rintro rfl
    cases m with
    | register => simp [loadsAlone] at hm
    | call => cases ho
    | resume k d | abandon k =>
      obtain ⟨w, -, h⟩ := Option.map_eq_some_iff.mp ho
      cases h

end Traffic

/-! ### A context that is shared -/

/-- Whose handle is registered in a context that is shared. -/
inductive Owner where
  /-- That of the agent of a number. -/
  | agent (i : Nat)
  /-- One of the host. -/
  | host
deriving DecidableEq, Repr

/-- Agents that share a context. -/
structure Sharing where
  /-- The context. -/
  context : Registration Owner := {}
  /-- The agents with their tasks; the number of an agent is its place. -/
  members : List Traffic

namespace Sharing

/-- What may happen next. -/
inductive Move where
  /-- The host registers a handle. -/
  | setup
  /-- A move of the agent of a number. -/
  | member (i : Nat) (m : Agent.Move)

/-- What has happened. -/
inductive Deed where
  /-- The host has tried to register a handle. -/
  | setup (result : Except RegistrationError Unit)
  /-- The agent of a number, `x` in its context, has made a move, of which the turn `t` has come. -/
  | member (i : Nat) (x : Traffic) (m : Agent.Move) (t : Turn Traffic (Progress Activity Outcome))

/-- What has happened, with the context before and after. -/
structure Entry where
  /-- The context before. -/
  before : Registration Owner
  /-- What has happened. -/
  deed : Deed
  /-- The context after. -/
  after : Registration Owner

/-- A context as the agent of a number sees it. -/
def view (context : Registration Owner) (i : Nat) : Registration Handle :=
  ⟨context.slot.map fun o => if o = .agent i then .own else .other⟩

/-- The agent of a number with its tasks, in the context as it is. -/
def member? (s : Sharing) (i : Nat) : Option Traffic :=
  s.members[i]?.map fun x => { x with agent := { x.agent with registration := view s.context i } }

/-- The context when the agent of a number has made of its view `r`: a handle that was not there is
its own. -/
def write (context : Registration Owner) (i : Nat) (r : Registration Handle) : Registration Owner :=
  if context.isRegistered then context else ⟨r.slot.map fun _ => .agent i⟩

/-- What an agent registers in its view is registered in the context. -/
theorem setup_view {context : Registration Owner} {i : Nat} {r : Registration Handle}
    (h : (view context i).setup .own = .ok r) :
    context.setup (.agent i) = .ok (write context i r) := by
  obtain ⟨slot⟩ := context
  cases slot with
  | some o => cases h
  | none =>
    obtain rfl := Except.ok.inj h
    rfl

/-- An agent that leaves its view as it is leaves the context as it is. -/
theorem write_view (context : Registration Owner) (i : Nat) :
    write context i (view context i) = context := by
  obtain ⟨slot⟩ := context
  cases slot <;> rfl

/-- A move, if it is possible. -/
def step (s : Sharing) : Move → Option (Entry × Sharing)
  | .setup => match s.context.setup .host with
    | .ok context => some (⟨s.context, .setup (.ok ()), context⟩, { s with context })
    | .error e => some (⟨s.context, .setup (.error e), s.context⟩, s)
  | .member i m => (s.member? i).bind fun x => (x.step m).map fun t =>
    let context := write s.context i t.state.agent.registration
    (⟨s.context, .member i x m t, context⟩, { context, members := s.members.set i t.state })

namespace Entry

/-- Whether the agent of an entry is loaded alone. -/
def isAllowed (e : Entry) : Bool :=
  match e.deed with
  | .setup _ => true
  | .member _ x m t => x.loadsAlone m t

/-- Whether a registration succeeds. -/
def registers (e : Entry) : Bool := !e.before.isRegistered && e.after.isRegistered

/-- The agent that a call loads with success. -/
def loaded? (e : Entry) : Option Nat :=
  match e.deed with
  | .setup _ => none
  | .member i x m t =>
    if (x.origin? m).any Origin.isLoad ∧ t.result = .done .finished then some i else none

/-- A section of a call that loads an agent without success, or not yet, changes neither the context
nor the scheduler and starts no heartbeats; if the call has failed, the manager is disconnected and
holds no session, so that an attempt to open one is accepted again. -/
def Unloaded (e : Entry) : Prop :=
  match e.deed with
  | .setup _ => True
  | .member _ x m t => (x.origin? m).any Origin.isLoad → t.result ≠ .done .finished →
    e.after = e.before ∧ t.state.agent.scheduler = x.agent.scheduler ∧ spawned t.effects = [] ∧
      (t.result.stage? = none → t.state.agent.session.state = .disconnected ∧
        t.state.agent.session.live = none ∧
        ∃ stage, t.state.agent.session.beginConnect.result = .waiting stage)

end Entry

/-- The histories of new agents that share a context, each of which is loaded alone. -/
inductive Run : List Entry → Sharing → Prop
  | new {members : List Traffic}
      (h : ∀ x ∈ members, ∃ config address host subscribers a,
        Agent.make config address host subscribers = .ok a ∧ x = Traffic.ofAgent a) :
      Run [] { members }
  | step {es : List Entry} {s s' : Sharing} {m : Move} {e : Entry} (hs : Run es s)
      (he : s.step m = some (e, s')) (hm : e.isAllowed) : Run (es ++ [e]) s'

/-- At most one registration succeeds, be it that of a host or that of a load, and the handle that
is registered then stays. So one agent is loaded at most, and its handle is the registered one from
then on. A call that loads an agent without success leaves everything as it was. -/
structure Settled (es : List Entry) (s : Sharing) : Prop where
  once : es.countP Entry.registers = s.context.isRegistered.toNat
  registers : ∀ e ∈ es, e.registers ↔ e.deed = .setup (.ok ()) ∨ e.loaded?.isSome
  stays : ∀ e ∈ es, e.after.slot ≠ none → s.context.slot = e.after.slot
  loaded : (es.filterMap Entry.loaded?).length ≤ 1
  owner : ∀ i ∈ es.filterMap Entry.loaded?, s.context.slot = some (.agent i)
  unloaded : ∀ e ∈ es, e.Unloaded

variable {es : List Entry} {s s' : Sharing} {m : Move} {e : Entry}

theorem fit_of_member? (hs : ∀ x ∈ s.members, x.Fit) {i : Nat} {x : Traffic}
    (hx : s.member? i = some x) : x.Fit := by
  obtain ⟨y, hy, rfl⟩ := Option.map_eq_some_iff.mp hx
  exact (hs y (List.mem_of_getElem? hy)).withRegistration _

/-- Every move keeps what loads rely on. -/
theorem fit_of_step (hs : ∀ x ∈ s.members, x.Fit) (he : s.step m = some (e, s'))
    (hm : e.isAllowed) : ∀ x ∈ s'.members, x.Fit := by
  cases m with
  | setup =>
    simp only [step] at he
    split at he <;> (cases he; exact hs)
  | member i m =>
    obtain ⟨x, hx, he⟩ := Option.bind_eq_some_iff.mp he
    obtain ⟨t, ht, he⟩ := Option.map_eq_some_iff.mp he
    cases he
    intro y hy
    rcases List.mem_or_eq_of_mem_set hy with hy | rfl
    · exact hs y hy
    · exact (fit_of_member? hs hx).step hm ht

/-- In the histories of agents that share a context, loads find the managers as they have left
them. -/
theorem Run.fit (h : Run es s) : ∀ x ∈ s.members, x.Fit := by
  induction h with
  | new h =>
    intro x hx
    obtain ⟨config, address, host, subscribers, a, ha, rfl⟩ := h x hx
    exact Traffic.fit_ofAgent ha
  | step _ he hm ih => exact fit_of_step ih he hm

/-- What a move does to the context: the first registration succeeds, or nothing changes. -/
theorem context_of_step (hs : ∀ x ∈ s.members, x.Fit) (he : s.step m = some (e, s'))
    (hm : e.isAllowed) :
    e.before = s.context ∧ e.after = s'.context ∧
      (s.context.slot = none ∧ e.deed = .setup (.ok ()) ∧ e.loaded? = none ∧
          s'.context.slot = some .host ∨
        s.context.slot = none ∧ (∃ i, e.loaded? = some i ∧ s'.context.slot = some (.agent i)) ∨
        e.deed ≠ .setup (.ok ()) ∧ e.loaded? = none ∧ s'.context = s.context) := by
  cases m with
  | setup =>
    obtain ⟨⟨slot⟩, members⟩ := s
    cases slot with
    | some o =>
      cases he
      exact ⟨rfl, rfl, .inr (.inr ⟨(fun h => by cases h), rfl, rfl⟩)⟩
    | none =>
      cases he
      exact ⟨rfl, rfl, .inl ⟨rfl, rfl, rfl, rfl⟩⟩
  | member i m =>
    obtain ⟨x, hx, he⟩ := Option.bind_eq_some_iff.mp he
    obtain ⟨t, ht, he⟩ := Option.map_eq_some_iff.mp he
    cases he
    refine ⟨rfl, rfl, .inr ?_⟩
    have hview : x.agent.registration = view s.context i := by
      obtain ⟨y, -, rfl⟩ := Option.map_eq_some_iff.mp hx
      rfl
    rcases Traffic.registration_of_step (fit_of_member? hs hx) hm ht with
      ⟨hload, hr, hfree, hown⟩ | ⟨hload, hreg⟩
    · have hslot : s.context.slot = none := by
        rw [hview] at hfree
        exact Option.map_eq_none_iff.mp hfree
      refine .inl ⟨hslot, i, by simp [Entry.loaded?, hload, hr], ?_⟩
      simp [write, Registration.isRegistered, hslot, hown]
    · refine .inr ⟨(fun h => by cases h), by simpa [Entry.loaded?] using hload, ?_⟩
      rw [hreg, hview, write_view]

/-- A call that loads an agent without success leaves everything as it was. -/
theorem unloaded_of_step (hs : ∀ x ∈ s.members, x.Fit) (he : s.step m = some (e, s'))
    (hm : e.isAllowed) : e.Unloaded := by
  obtain ⟨hbefore, hafter, hcontext⟩ := context_of_step hs he hm
  cases m with
  | setup =>
    simp only [step] at he
    split at he <;> (cases he; trivial)
  | member i m =>
    obtain ⟨x, hx, he⟩ := Option.bind_eq_some_iff.mp he
    obtain ⟨t, ht, he⟩ := Option.map_eq_some_iff.mp he
    cases he
    intro hload hr
    have hfit := fit_of_member? hs hx
    obtain ⟨hreg, hscheduler, hloops, hdone⟩ := hfit.unloaded hm ht hload hr
    refine ⟨?_, hscheduler, hloops, fun hend => ?_⟩
    · rcases hcontext with ⟨-, h, -⟩ | ⟨-, j, hj, -⟩ | ⟨-, -, h⟩
      · cases h
      · simp [Entry.loaded?, hr] at hj
      · exact h
    · have hstate := hdone hend
      have hlive := (hfit.step hm ht).recorded.live_eq_none (by rw [hstate]; rfl)
      exact ⟨hstate, hlive, _, by rw [Session.beginConnect_of_disconnected hstate]⟩

private theorem forall_concat {p : Entry → Prop} (h : ∀ e ∈ es, p e) (he : p e) :
    ∀ e' ∈ es ++ [e], p e' :=
  List.forall_mem_append.mpr ⟨h, List.forall_mem_singleton.mpr he⟩

/-- Before the first registration no agent has been loaded. -/
theorem Settled.filterMap_eq_nil (h : Settled es s) (hs : s.context.slot = none) :
    es.filterMap Entry.loaded? = [] := by
  refine List.eq_nil_iff_forall_not_mem.mpr fun i hi => ?_
  exact absurd ((h.owner i hi).symm.trans hs) (Option.some_ne_none _)

/-- The history goes on with the first registration, of which the handle of `o` comes. -/
theorem Settled.first {o : Owner} (h : Settled es s) (hs : s.context.slot = none)
    (hs' : s'.context.slot = some o) (hbefore : e.before = s.context)
    (hafter : e.after = s'.context) (hdeed : e.deed = .setup (.ok ()) ∨ e.loaded?.isSome)
    (ho : ∀ i, e.loaded? = some i → o = .agent i) (hun : e.Unloaded) : Settled (es ++ [e]) s' := by
  have hnil := h.filterMap_eq_nil hs
  have hreg : e.registers := by
    simp [Entry.registers, Registration.isRegistered, hbefore, hafter, hs, hs']
  refine ⟨?_, forall_concat h.registers ?_, forall_concat (fun e' he' hne => ?_) fun _ => ?_, ?_,
    fun i hi => ?_, forall_concat h.unloaded hun⟩
  · simp [List.countP_append, h.once, Registration.isRegistered, hs, hs', hreg]
  · exact iff_of_true hreg hdeed
  · exact absurd ((h.stays e' he' hne).symm.trans hs) hne
  · rw [hafter]
  · cases hl : e.loaded? <;> simp [List.filterMap_append, hnil, hl]
  · rw [List.filterMap_append, hnil, List.nil_append] at hi
    obtain ⟨e', he', hl⟩ := List.mem_filterMap.mp hi
    obtain rfl := List.mem_singleton.mp he'
    rw [hs', ho i hl]

/-- The history goes on and leaves the context as it is. -/
theorem Settled.other (h : Settled es s) (hs' : s'.context = s.context)
    (hbefore : e.before = s.context) (hafter : e.after = s'.context)
    (hdeed : e.deed ≠ .setup (.ok ())) (hnone : e.loaded? = none) (hun : e.Unloaded) :
    Settled (es ++ [e]) s' := by
  have hreg : e.registers = false := by
    simp only [Entry.registers, hbefore, hafter, hs']
    cases s.context.isRegistered <;> rfl
  refine ⟨?_, forall_concat h.registers ?_, forall_concat (fun e' he' hne => ?_) fun _ => ?_, ?_,
    fun i hi => ?_, forall_concat h.unloaded hun⟩
  · simp [List.countP_append, h.once, hreg, hs']
  · simp [hreg, hdeed, hnone]
  · exact hs' ▸ h.stays e' he' hne
  · rw [hafter]
  · simpa [List.filterMap_append, hnone] using h.loaded
  · rw [hs']
    exact h.owner i (by simpa [List.filterMap_append, hnone] using hi)

/-- Every move keeps the history settled. -/
theorem Settled.step (h : Settled es s) (hs : ∀ x ∈ s.members, x.Fit)
    (he : s.step m = some (e, s')) (hm : e.isAllowed) : Settled (es ++ [e]) s' := by
  obtain ⟨hbefore, hafter, hcontext⟩ := context_of_step hs he hm
  have hun := unloaded_of_step hs he hm
  rcases hcontext with ⟨hfree, hdeed, hnone, hslot⟩ | ⟨hfree, i, hi, hslot⟩ | ⟨hdeed, hnone, hsame⟩
  · exact h.first hfree hslot hbefore hafter (.inl hdeed) (fun i hi => by simp [hnone] at hi) hun
  · refine h.first hfree hslot hbefore hafter (.inr (by simp [hi])) (fun j hj => ?_) hun
    rw [Option.some.inj (hi.symm.trans hj)]
  · exact h.other hsame hbefore hafter hdeed hnone hun

/-- Agents that share a context. Follow any number of new agents and a host that registers handles
of its own, in any order of the sections of all calls and with any answers, if each agent is loaded
once at a time, from a manager that is disconnected and that no other section touches. Then at most
one registration succeeds, at most one agent is loaded, its handle is the registered one for good,
and every call that loads an agent without success leaves the context, the heartbeats and the
manager as they were. -/
theorem settled_of_run (h : Run es s) : Settled es s := by
  induction h with
  | new h =>
    exact ⟨rfl, fun _ h => absurd h List.not_mem_nil, fun _ h => absurd h List.not_mem_nil,
      Nat.zero_le 1, fun _ h => absurd h List.not_mem_nil, fun _ h => absurd h List.not_mem_nil⟩
  | step hs he hm ih => exact ih.step hs.fit he hm

/-- Follows a list of moves, if all of them are possible and allowed. -/
def follow? (s : Sharing) : List Move → Option (List Entry × Sharing)
  | [] => some ([], s)
  | m :: ms => ((s.step m).filter (·.1.isAllowed)).bind fun p =>
    (p.2.follow? ms).map fun q => (p.1 :: q.1, q.2)

theorem Run.follow? (h : Run es s) (ms : List Move) {es' : List Entry}
    (hs : s.follow? ms = some (es', s')) : Run (es ++ es') s' := by
  induction ms generalizing es es' s with
  | nil =>
    cases hs
    rwa [List.append_nil]
  | cons m ms ih =>
    obtain ⟨⟨e, t⟩, he, hs⟩ := Option.bind_eq_some_iff.mp hs
    obtain ⟨⟨es₁, t₁⟩, ht, hes⟩ := Option.map_eq_some_iff.mp hs
    cases hes
    obtain ⟨he, hm⟩ := Option.filter_eq_some_iff.mp he
    rw [List.append_cons]
    exact ih (.step h he hm) ht

/-- Two agents that share a context. -/
private def pair : Sharing :=
  { members := [.ofAgent Traffic.lobby, .ofAgent Traffic.lobby] }

/-- Two agents come to open their sessions side by side. The second one is loaded; the first one
takes its session down again, and the host is refused as well. -/
theorem settled_after_race : ∃ es s, Run es s ∧ es.length = 7 ∧ es.filterMap Entry.loaded? = [1] ∧
    s.members.map (·.agent.session.state) = [.disconnected, .active] ∧ Settled es s := by
  have hnew : Run [] pair := .new fun x hx => by
    obtain rfl : x = .ofAgent Traffic.lobby := by simpa using hx
    exact ⟨_, _, _, _, _, Traffic.make_lobby, rfl⟩
  obtain ⟨⟨es, s⟩, hs, hp⟩ := (Option.any_eq_true _ _).mp
    (by decide +kernel : (pair.follow?
      [.member 0 (.call .load), .member 1 (.call .load), .member 0 (.resume 1 Traffic.accepted),
        .member 1 (.resume 1 Traffic.accepted), .member 1 (.resume 1 Traffic.accepted),
        .member 0 (.resume 1 Traffic.accepted), .setup]).any fun p =>
      p.1.length = 7 ∧ p.1.filterMap Entry.loaded? = [1] ∧
        p.2.members.map (·.agent.session.state) = [.disconnected, .active])
  obtain ⟨hlength, hloaded, hstates⟩ := of_decide_eq_true hp
  have hrun : Run es s := hnew.follow? _ hs
  exact ⟨es, s, hrun, hlength, hloaded, hstates, settled_of_run hrun⟩

end Sharing

end FleetAgent.Agent
