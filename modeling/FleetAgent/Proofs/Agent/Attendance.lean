import FleetAgent.Proofs.Agent.Audience

/-!
# What the audience attends to

The listener and the workers are tasks of the agent, in places of their own. No other task gets
there, and a section of another task changes nothing at these places.

## Main definitions

* `Agent.seat?`, `Agent.Traffic.Seated`: the places of the audience.

## Main results

* `Agent.Traffic.audience_step`: the audience after a section.
* `Agent.Story.seated`: the listener and the workers keep their places.
* `Agent.Story.attends`: whatever happens, the audience attends to it.
-/

namespace FleetAgent

namespace Agent

/-! ### Roles -/

/-- What an activity is there for. -/
inductive Role where
  /-- A call, but for disabling. -/
  | call
  /-- Disabling. -/
  | disabling
  /-- A heartbeat loop. -/
  | loop
  /-- The listener. -/
  | listener
  /-- The worker of a subscriber. -/
  | worker (i : Nat)

/-- The role of an activity. -/
def role : Activity → Role
  | .disable _ => .disabling
  | .loop _ _ => .loop
  | .listener _ => .listener
  | .worker i _ => .worker i
  | _ => .call

/-- The place of an activity in the audience, if it has one: that of the worker of a subscriber, or
that of the listener. -/
def seat? (w : Activity) : Option (Option Nat) :=
  match role w with
  | .worker i => some (some i)
  | .listener => some none
  | _ => none

theorem role_of_map {κ ε : Type} {p : Progress κ ε} {outcome : ε → Outcome}
    {w : Activity} {r : Role} (stage : κ → Activity) (hstage : ∀ k, role (stage k) = r)
    (hp : (p.map stage outcome).stage? = some w) : role w = r := by
  rw [Progress.stage?_map] at hp
  obtain ⟨k, -, rfl⟩ := Option.map_eq_some_iff.mp hp
  exact hstage k

/-- The role of a call. -/
theorem role_begin {a : Agent} {op : Operation} {w : Activity}
    (hw : (a.begin op).result.stage? = some w) :
    role w = if op = .disable then .disabling else .call := by
  cases op with
  | connect => exact role_of_map .connect (fun _ => rfl) hw
  | beat => exact role_of_map .beat (fun _ => rfl) hw
  | report => exact role_of_map .status (fun _ => rfl) hw
  | join grace => exact role_of_map (.join · grace) (fun _ => rfl) hw
  | load => exact role_of_map .load (fun _ => rfl) hw
  | enable => exact role_of_map .enable (fun _ => rfl) hw
  | disable => exact role_of_map .disable (fun _ => rfl) hw
  | disconnect | reset | client | state | disableAutoReady | start | stop | interval => cases hw
  | run => exact Option.some.inj hw ▸ rfl

theorem role_loopAfterBeat {a : Agent} {k : Nat} {outcome : Except SessionError BeatOutcome}
    {w : Activity} (hw : (a.loopAfterBeat k outcome).result.stage? = some w) : role w = .loop := by
  simp only [loopAfterBeat, Turn.result_map] at hw
  split at hw
  · cases hw
  · exact Option.some.inj hw ▸ rfl

theorem role_advanceLoop {a : Agent} {k : Nat} {now : Instant} {w : Activity} {t : ActivityTurn}
    (ht : a.advanceLoop k now = some t) (hw : t.result.stage? = some w) : role w = .loop := by
  unfold advanceLoop at ht
  dsimp only at ht
  split at ht
  · cases ht
  · obtain rfl := Option.some.inj ht
    exact Option.some.inj hw ▸ rfl
  · obtain rfl := Option.some.inj ht
    cases hw
  · -- the loop begins a beat, its own or one of the session
    split at ht <;> obtain rfl := Option.some.inj ht
    · exact Option.some.inj hw ▸ rfl
    · simp only [Turn.result_andThen] at hw
      split at hw
      · exact Option.some.inj hw ▸ rfl
      · exact role_loopAfterBeat hw

theorem role_resume_loop {a : Agent} {d : Delivery} {k : Nat} {beat : Option HeartBeat}
    {w : Activity} {t : ActivityTurn} (ht : a.resume d (.loop k beat) = some t)
    (hw : t.result.stage? = some w) : role w = .loop := by
  cases beat with
  | none => exact role_advanceLoop ht hw
  | some beat =>
    cases beat with
    | session beat =>
      obtain ⟨answer, -, rfl⟩ := Option.map_eq_some_iff.mp ht
      exact role_loopAfterBeat hw
    | own =>
      obtain ⟨beat, -, rfl⟩ := Option.map_eq_some_iff.mp ht
      cases beat with
      | outcome result => exact role_loopAfterBeat hw
      | broken => cases hw

/-- An activity keeps its role. -/
theorem role_resume {a : Agent} {d : Delivery} {w w' : Activity} {t : ActivityTurn}
    (ht : a.resume d w = some t) (hw : t.result.stage? = some w') : role w' = role w := by
  cases w with
  | connect =>
    obtain ⟨answer, -, rfl⟩ := Option.map_eq_some_iff.mp ht
    exact role_of_map .connect (fun _ => rfl) hw
  | load =>
    obtain ⟨answer, -, rfl⟩ := Option.map_eq_some_iff.mp ht
    exact role_of_map .load (fun _ => rfl) hw
  | beat | status =>
    obtain ⟨answer, -, rfl⟩ := Option.map_eq_some_iff.mp ht
    cases hw
  | enable =>
    obtain ⟨answer, -, rfl⟩ := Option.map_eq_some_iff.mp ht
    exact role_of_map .enable (fun _ => rfl) hw
  | join =>
    simp only [resume] at ht
    split_ifs at ht <;> exact absurd (Option.some.inj ht ▸ hw) (by simp [observing])
  | disable =>
    simp only [resume] at ht
    split_ifs at ht <;> obtain rfl := Option.some.inj ht <;>
      exact role_of_map .disable (fun _ => rfl) hw
  | run ticket stage =>
    cases stage with
    | queued =>
      simp only [resume] at ht
      split_ifs at ht
      obtain rfl := Option.some.inj ht
      exact Option.some.inj hw ▸ rfl
    | watching | recovering =>
      obtain ⟨u, hu, rfl⟩ := Option.map_eq_some_iff.mp ht
      rw [(closeRun_spec ticket u).2.2] at hw
      exact role_of_map (.run ticket) (fun _ => rfl) hw
  | loop k beat => exact role_resume_loop ht hw
  | listener =>
    obtain ⟨u, -, rfl⟩ := Option.map_eq_some_iff.mp ht
    exact role_of_map .listener (fun _ => rfl) hw
  | worker i stage =>
    cases stage with
    | idle =>
      obtain ⟨p, -, rfl⟩ := Option.map_eq_some_iff.mp ht
      exact role_of_map (.worker i) (fun _ => rfl) hw
    | busy n =>
      simp only [resume] at ht
      split_ifs at ht
      obtain rfl := Option.some.inj ht
      exact role_of_map (.worker i) (fun _ => rfl) hw

theorem listenerOf?_of_seat? {w : Activity} (h : seat? w ≠ some none) :
    listenerOf? (some w) = none := by
  cases w <;> first | rfl | exact absurd rfl h

theorem workerOf?_of_seat? {w : Activity} (h : ∀ i, seat? w ≠ some (some i)) :
    workerOf? (some w) = none := by
  cases w <;> first | rfl | exact absurd rfl (h _)

namespace Traffic

variable {x : Traffic} {m : Move} {t : Turn Traffic (Progress Activity Outcome)}

/-- The listener and the workers have their places among the tasks. -/
structure Seated (x : Traffic) : Prop where
  length : x.seats < x.tasks.length
  seat : ∀ {k w s}, x.tasks.waiting? k = some w → seat? w = some s →
    k = s.getD x.seats ∧ ∀ i, s = some i → i < x.seats

theorem Seated.of_eq (hx : x.Seated) {y : Traffic} (htasks : y.tasks = x.tasks)
    (hseats : y.seats = x.seats) : y.Seated where
  length := by rw [htasks, hseats]; exact hx.length
  seat hw hs := by rw [htasks] at hw; rw [hseats]; exact hx.seat hw hs

/-- The tasks of a new agent are the workers and the listener. -/
theorem waiting?_new (a : Agent) (k : Nat) :
    (ofAgent a).tasks.waiting? k =
      if k < a.fanout.boxes.length then some (.worker k .idle)
      else if k = a.fanout.boxes.length then some (.listener { cursor := a.bus.subscribe })
      else none := by
  simp only [ofAgent, Tasks.waiting?, List.getElem?_append, List.length_map, List.length_range,
    List.getElem?_map]
  split_ifs with hlt heq
  · simp [hlt]
  · simp [heq]
  · rw [List.getElem?_eq_none (by simp; omega)]
    rfl

theorem seated_ofAgent (a : Agent) : (ofAgent a).Seated := by
  refine ⟨by simp [ofAgent, seats], fun {k w s} hw hs => ?_⟩
  rw [waiting?_new] at hw
  split_ifs at hw with hlt heq
  · obtain rfl := Option.some.inj hw
    obtain rfl := Option.some.inj hs
    exact ⟨rfl, fun i hi => Option.some.inj hi ▸ hlt⟩
  · obtain rfl := Option.some.inj hw
    obtain rfl := Option.some.inj hs
    exact ⟨heq, fun i hi => by cases hi⟩

/-- The audience of a new agent waits for events. -/
theorem audience_ofAgent {config : AgentConfig} {address : String} {host : Host}
    {subscribers : List Subscriber} {a : Agent}
    (ha : Agent.make config address host subscribers = .ok a) :
    (ofAgent a).audience =
      { bus := (Bus.ofCapacity? config.clampedBusCapacity).getD { retained := 1 }
        fanout := .ofSubscribers subscribers
        isFlushing := false
        listenerEnded := false
        listener? := some { cursor := 0 }
        worker? := fun i => if i < subscribers.length then some .idle else none } := by
  have houtlet := outlet_make ha
  have hbus : a.bus = _ := congrArg Outlet.bus houtlet
  have hfanout : a.fanout = .ofSubscribers subscribers := congrArg Outlet.fanout houtlet
  have hlength : a.fanout.boxes.length = subscribers.length := by
    rw [hfanout, Fanout.ofSubscribers, List.length_map]
  have hcursor : a.bus.subscribe = 0 := by
    rw [Bus.subscribe, hbus, (Bus.logs_nil config.clampedBusCapacity).sent, List.length_nil]
  refine Audience.ext hbus hfanout (congrArg Outlet.isFlushing houtlet)
    (congrArg Outlet.listenerEnded houtlet) ?_ ?_
  · change listenerOf? ((ofAgent a).tasks.waiting? a.fanout.boxes.length) = _
    rw [waiting?_new, if_neg (Nat.lt_irrefl _), if_pos rfl, hcursor]
    rfl
  · funext i
    change workerOf? ((ofAgent a).tasks.waiting? i) =
      if i < subscribers.length then some .idle else none
    rw [waiting?_new, hlength]
    split_ifs <;> rfl

/-- The role of what a section comes to is that of its task, or that of the call. -/
theorem role_of_step (ht : x.step m = some t) {w : Activity} (hw : t.result.stage? = some w) :
    (∃ op, m = .call op ∧ role w = if op = .disable then .disabling else .call) ∨
      ∃ k d w', m = .resume k d ∧ x.tasks.waiting? k = some w' ∧ role w = role w' := by
  obtain ⟨u, hu, rfl⟩ := step_eq_some_iff.mp ht
  cases m with
  | call op =>
    obtain rfl := Option.some.inj hu
    exact .inl ⟨op, rfl, role_begin hw⟩
  | resume k d =>
    obtain ⟨w', hk, hu⟩ := Option.bind_eq_some_iff.mp hu
    exact .inr ⟨k, d, w', rfl, hk, role_resume hu hw⟩
  | abandon k =>
    obtain ⟨w', -, rfl⟩ := Option.map_eq_some_iff.mp hu
    cases hw
  | register =>
    simp only [section?] at hu
    split at hu <;> exact absurd (Option.some.inj hu ▸ hw) (by simp [observing])

/-- A section comes to a stage of the audience only if its task is part of it. -/
theorem exists_of_seat? (ht : x.step m = some t) {w : Activity} {s : Option Nat}
    (hw : t.result.stage? = some w) (hs : seat? w = some s) :
    ∃ k d w', m = .resume k d ∧ x.tasks.waiting? k = some w' ∧ seat? w' = some s := by
  rcases role_of_step ht hw with ⟨op, -, hrole⟩ | ⟨k, d, w', hm, hk, hrole⟩
  · rw [seat?, hrole] at hs
    split_ifs at hs
  · exact ⟨k, d, w', hm, hk, by rwa [seat?, ← hrole]⟩

theorem Seated.step (hx : x.Seated) (ht : x.step m = some t) (hseats : t.state.seats = x.seats) :
    t.state.Seated := by
  have hle : x.tasks.length ≤ t.state.tasks.length := by
    obtain ⟨u, -, rfl⟩ := step_eq_some_iff.mp ht
    rw [List.length_append]
    exact Nat.le_add_right_of_le Tasks.length_le_put
  refine ⟨hseats ▸ Nat.lt_of_lt_of_le hx.length hle, fun {k w s} hw hs => ?_⟩
  rw [hseats]
  rcases waiting?_of_step ht hw with ⟨rfl, hown⟩ | ⟨-, hw⟩ | ⟨loop, -, rfl⟩
  · obtain ⟨k, d, w', rfl, hk, hs⟩ := exists_of_seat? ht hown hs
    exact hx.seat hk hs
  · exact hx.seat hw hs
  · cases hs

/-- What the tasks at the places of the audience are doing after a section. -/
theorem apply_waiting?_step (ht : x.step m = some t) {β : Type}
    (f : Option Activity → Option β) (hnone : f none = none)
    (hseat : ∀ w, seat? w = none → f (some w) = none) (k : Nat) :
    f (t.state.tasks.waiting? k) =
      if m.resumes? = some k then f t.result.stage? else f (x.tasks.waiting? k) := by
  cases hk : x.tasks.waiting? k with
  | some w =>
    rw [waiting?_step_of_waiting? ht hk]
    split_ifs <;> rfl
  | none =>
    have hresumes : m.resumes? ≠ some k := fun h => by
      obtain ⟨w, hw⟩ := exists_waiting?_of_step ht h
      exact absurd (hk.symm.trans hw) (by simp)
    rw [if_neg hresumes, hnone]
    cases hw : t.state.tasks.waiting? k with
    | none => exact hnone
    | some w =>
      refine hseat w ?_
      rcases waiting?_of_step ht hw with ⟨rfl, hown⟩ | ⟨-, hw⟩ | ⟨loop, -, rfl⟩
      · cases hs : seat? w with
        | none => rfl
        | some s =>
          obtain ⟨k, d, w', rfl, hk', -⟩ := exists_of_seat? ht hown hs
          exact absurd (hk.symm.trans hk') (by simp)
      · exact absurd (hk.symm.trans hw) (by simp)
      · rfl

/-- The audience after a section. -/
theorem audience_step (ht : x.step m = some t) {u : ActivityTurn}
    (hu : x.section? m = some u) (hseats : u.state.fanout.boxes.length = x.seats) :
    t.state.audience =
      { bus := u.state.bus.publishAll (Notice.numbered u.state.created u.published)
        fanout := u.state.fanout
        isFlushing := u.state.isFlushing
        listenerEnded := u.state.listenerEnded
        listener? := if m.resumes? = some x.seats then listenerOf? u.result.stage?
          else x.audience.listener?
        worker? := fun i => if m.resumes? = some i then workerOf? u.result.stage?
          else x.audience.worker? i } := by
  obtain ⟨u', hu', rfl⟩ := step_eq_some_iff.mp ht
  obtain rfl := Option.some.inj (hu.symm.trans hu')
  have houtlet := outlet_perform u.state u.effects
  have hfanout : (u.state.perform u.effects).fanout = u.state.fanout :=
    congrArg Outlet.fanout houtlet
  have hplace : Traffic.seats ⟨u.state.perform u.effects, x.tasks.put m.resumes? u.result.stage? ++
      (Effect.spawned u.effects).map fun k => some (.loop k none)⟩ = x.seats := by
    rw [seats, hfanout, hseats]
  refine Audience.ext (congrArg Outlet.bus houtlet) hfanout (congrArg Outlet.isFlushing houtlet)
    (congrArg Outlet.listenerEnded houtlet) ?_ ?_
  · simp only [audience, hplace]
    exact apply_waiting?_step ht listenerOf? rfl (fun w hw => listenerOf?_of_seat? (by simp [hw])) _
  · funext i
    exact apply_waiting?_step ht workerOf? rfl (fun w hw => workerOf?_of_seat? (by simp [hw])) i

/-- A section of another task changes nothing at the places of the audience. -/
theorem apply_waiting?_of_other (ht : x.step m = some t)
    (hother : ∀ k w, m.resumes? = some k → x.tasks.waiting? k = some w → seat? w = none)
    {β : Type} (f : Option Activity → Option β) (hnone : f none = none)
    (hseat : ∀ w, seat? w = none → f (some w) = none) (k : Nat) :
    f (t.state.tasks.waiting? k) = f (x.tasks.waiting? k) := by
  rw [apply_waiting?_step ht f hnone hseat]
  split_ifs with hk
  · obtain ⟨w, hw⟩ := exists_waiting?_of_step ht hk
    rw [hw, hseat w (hother k w hk hw)]
    cases hr : t.result.stage? with
    | none => exact hnone
    | some w' =>
      refine hseat w' ?_
      cases hs : seat? w' with
      | none => rfl
      | some s =>
        obtain ⟨j, d, w'', rfl, hj, hs'⟩ := exists_of_seat? ht hr hs
        exact absurd ((hother j w'' rfl hj).symm.trans hs') (by simp)
  · rfl

/-- The audience after a section of another task. -/
theorem attends_of_other (ht : x.step m = some t) {u : ActivityTurn} (hu : x.section? m = some u)
    (hother : ∀ k w, m.resumes? = some k → x.tasks.waiting? k = some w → seat? w = none)
    {isHeld isFlushing : Bool} (hflush : x.agent.isFlushing → isFlushing)
    (houtlet : u.state.outlet =
      { x.agent.outlet with holdsListener := isHeld, isFlushing }) :
    Attends x.audience .other (Notice.numbered x.agent.created t.published) t.state.audience := by
  have hpub : u.published = t.published := by
    obtain ⟨u', hu', rfl⟩ := step_eq_some_iff.mp ht
    rw [Option.some.inj (hu.symm.trans hu')]
    rfl
  have hbus : u.state.bus = x.agent.bus := congrArg Outlet.bus houtlet
  have hcreated : u.state.created = x.agent.created := congrArg Outlet.created houtlet
  have hfanout : u.state.fanout = x.agent.fanout := congrArg Outlet.fanout houtlet
  have hflushing : u.state.isFlushing = isFlushing := congrArg Outlet.isFlushing houtlet
  have haudience := audience_step ht hu (congrArg (·.boxes.length) hfanout)
  have hseats : t.state.seats = x.seats :=
    (congrArg (·.fanout.boxes.length) haudience).trans (congrArg (·.boxes.length) hfanout)
  convert Attends.publish (v := x.audience) _ isFlushing hflush using 1
  refine Audience.ext ?_ ?_ ?_ ?_ ?_ ?_
  · rw [haudience, hbus, hcreated, hpub]
    rfl
  · rw [haudience]
    exact hfanout
  · rw [haudience]
    exact hflushing
  · rw [haudience]
    exact congrArg Outlet.listenerEnded houtlet
  · change listenerOf? (t.state.tasks.waiting? t.state.seats) =
      listenerOf? (x.tasks.waiting? x.seats)
    rw [hseats]
    exact apply_waiting?_of_other ht hother listenerOf? rfl
      (fun w hw => listenerOf?_of_seat? (by simp [hw])) x.seats
  · funext i
    exact apply_waiting?_of_other ht hother workerOf? rfl
      (fun w hw => workerOf?_of_seat? (by simp [hw])) i

theorem audience_resume {k : Nat} {d : Delivery} (ht : x.step (.resume k d) = some t)
    {u : ActivityTurn} (hu : x.section? (.resume k d) = some u)
    (hseats : u.state.fanout.boxes.length = x.seats) :
    t.published = u.published ∧ t.state.audience =
      { bus := u.state.bus.publishAll (Notice.numbered u.state.created u.published)
        fanout := u.state.fanout
        isFlushing := u.state.isFlushing
        listenerEnded := u.state.listenerEnded
        listener? := if k = x.seats then listenerOf? u.result.stage? else x.audience.listener?
        worker? := fun i =>
          if i = k then workerOf? u.result.stage? else x.audience.worker? i } := by
  refine ⟨?_, (audience_step ht hu hseats).trans ?_⟩
  · obtain ⟨u', hu', rfl⟩ := step_eq_some_iff.mp ht
    rw [← Option.some.inj (hu.symm.trans hu')]
    rfl
  · simp only [Move.resumes?, Option.some.injEq, eq_comm (a := k)]

/-- The audience after a section of the listener. -/
theorem Seated.audience_listen (hx : x.Seated) {k : Nat} {d : Delivery} {l : Listener}
    (hk : x.tasks.waiting? k = some (.listener l)) (ht : x.step (.resume k d) = some t)
    {v : Turn Agent (Progress Listener Unit)} (hv : x.agent.listen l = some v)
    (hseats : v.state.fanout.boxes.length = x.seats) :
    t.published = v.published ∧ t.state.audience =
      { bus := v.state.bus.publishAll (Notice.numbered v.state.created v.published)
        fanout := v.state.fanout
        isFlushing := v.state.isFlushing
        listenerEnded := v.state.listenerEnded
        listener? := v.result.stage?
        worker? := x.audience.worker? } := by
  have hu : x.section? (.resume k d) =
      some (v.map (·.map .listener fun _ => .finished)) := by
    simp [section?, hk, resume, hv]
  obtain ⟨hpub, haudience⟩ := audience_resume ht hu hseats
  refine ⟨hpub, haudience.trans (Audience.ext rfl rfl rfl rfl ?_ ?_)⟩
  · have hseat : k = x.seats := (hx.seat hk rfl).1
    dsimp only
    rw [if_pos hseat, Turn.result_map, Progress.stage?_map]
    cases v.result <;> rfl
  · funext i
    dsimp only [audience]
    split_ifs with hi
    · rw [Turn.result_map, Progress.stage?_map, hi, hk]
      cases v.result <;> rfl
    · rfl

theorem Seated.listener?_audience (hx : x.Seated) {k : Nat} {l : Listener}
    (hk : x.tasks.waiting? k = some (.listener l)) : x.audience.listener? = some l := by
  have hseat : x.seats = k := (hx.seat hk rfl).1.symm
  simp only [audience, hseat, hk]
  rfl

theorem deed_listener {k : Nat} {l : Listener} (hk : x.tasks.waiting? k = some (.listener l))
    (hstage : ∀ i, l.stage ≠ .closing i) :
    x.deed k = .receive (x.agent.bus.receive l.cursor).1 := by
  simp only [deed, hk]

/-- What the listener does with an item or a loss does not depend on whether it is told to end. -/
theorem Seated.attends_forward (hx : x.Seated) {k : Nat} {d : Delivery} {l : Listener}
    (hk : x.tasks.waiting? k = some (.listener l)) (ht : x.step (.resume k d) = some t)
    {v : Turn Agent (Progress Listener Unit)} (hv : x.agent.listen l = some v)
    (hstage : ∀ i, l.stage ≠ .closing i) {got : Received Notice} {cursor : Nat}
    (hr : x.agent.bus.receive l.cursor = (got, cursor)) (hempty : got ≠ .empty)
    (hforward : v = x.agent.forward { l with cursor } got) :
    Attends x.audience (x.deed k) (Notice.numbered x.agent.created t.published)
      t.state.audience := by
  have hl := hx.listener?_audience hk
  rw [deed_listener hk hstage, hr]
  cases got with
  | item n =>
    have hfanout : (x.agent.fanout.emit n).state = ⟨x.agent.fanout.boxes.map (·.offered n)⟩ := by
      rw [← Fanout.boxes_emit]
    have hseats : v.state.fanout.boxes.length = x.seats := by
      simp [hforward, forward, onFanout, seats]
    obtain ⟨hpub, haudience⟩ := hx.audience_listen hk ht hv hseats
    have hoverflows : v.published = Fanout.overflows x.agent.fanout.boxes n := by
      rw [hforward, ← Fanout.published_emit]
      rfl
    rw [hpub, haudience, hoverflows, hforward]
    simp only [forward, onFanout, Turn.state_map, Turn.state_within, hfanout]
    exact .hand l n cursor x.agent.created hl hstage hr
  | lagged skipped =>
    obtain ⟨hpub, haudience⟩ := hx.audience_listen hk ht hv (by rw [hforward]; rfl)
    rw [hpub, haudience, hforward]
    exact .lag l skipped cursor hl hstage hr
  | empty => exact absurd rfl hempty
  | closed => exact absurd (congrArg Prod.fst hr) (x.agent.bus.fst_receive_ne_closed l.cursor)

/-- A section of the listener. -/
theorem Seated.attends_listen (hx : x.Seated) {k : Nat} {d : Delivery} {l : Listener}
    (hk : x.tasks.waiting? k = some (.listener l)) (ht : x.step (.resume k d) = some t) :
    Attends x.audience (x.deed k) (Notice.numbered x.agent.created t.published)
      t.state.audience := by
  have hl := hx.listener?_audience hk
  obtain ⟨v, hv⟩ : ∃ v, x.agent.listen l = some v := by
    obtain ⟨u, hu, -⟩ := step_eq_some_iff.mp ht
    simp only [section?, hk, Option.bind_some] at hu
    obtain ⟨v, hv, -⟩ := Option.map_eq_some_iff.mp hu
    exact ⟨v, hv⟩
  have hclosed := x.agent.bus.fst_receive_ne_closed l.cursor
  have hlisten := hv
  unfold listen at hv
  cases hs : l.stage with
  | following =>
    have hstage (i : Nat) : l.stage ≠ .closing i := by simp [hs]
    rw [hs] at hv
    cases hr : x.agent.bus.receive l.cursor with | mk got cursor =>
    rw [hr] at hv hclosed
    cases got with
    | closed => exact absurd rfl hclosed
    | empty =>
      dsimp only at hv
      split_ifs at hv with hflush
      obtain rfl := Option.some.inj hv
      obtain ⟨hpub, haudience⟩ := hx.audience_listen hk ht hlisten rfl
      rw [hpub, haudience, deed_listener hk hstage, hr]
      exact .drain l hl hs (congrArg Prod.fst hr) hflush
    | item | lagged =>
      exact hx.attends_forward hk ht hlisten hstage hr (by simp)
        (by rw [hs]; exact (Option.some.inj hv).symm)
  | draining =>
    have hstage (i : Nat) : l.stage ≠ .closing i := by simp [hs]
    rw [hs] at hv
    cases hr : x.agent.bus.receive l.cursor with | mk got cursor =>
    rw [hr] at hv hclosed
    cases got with
    | closed => exact absurd rfl hclosed
    | empty =>
      obtain rfl := Option.some.inj hv
      have hseats : (x.agent.fanout.close).state.boxes.length = x.seats := by
        simp [Fanout.close, seats]
      obtain ⟨hpub, haudience⟩ := hx.audience_listen hk ht hlisten hseats
      have hnil : ((x.agent.onFanout Fanout.close).map fun _ => (Progress.waiting
          { l with stage := .closing 0 } : Progress Listener Unit)).published = [] :=
        Fanout.published_close x.agent.fanout
      rw [hpub, haudience, hnil, deed_listener hk hstage, hr]
      exact .close l hl hs (congrArg Prod.fst hr)
    | item | lagged =>
      exact hx.attends_forward hk ht hlisten hstage hr (by simp)
        (by rw [hs]; exact (Option.some.inj hv).symm)
  | closing i =>
    have hdeed : x.deed k = .await := by simp only [deed, hk, hs]
    rw [hs] at hv
    dsimp only at hv
    rw [hdeed]
    split_ifs at hv with hle hended
    · obtain rfl := Option.some.inj hv
      obtain ⟨hpub, haudience⟩ := hx.audience_listen hk ht hlisten rfl
      rw [hpub, haudience]
      exact .retire l i hl hs hle
    · obtain rfl := Option.some.inj hv
      obtain ⟨hpub, haudience⟩ := hx.audience_listen hk ht hlisten rfl
      rw [hpub, haudience]
      exact .await l i hl hs (Nat.lt_of_not_le hle) hended

/-- The audience after a section of the worker of a subscriber. -/
theorem Seated.audience_work (hx : x.Seated) {k i : Nat} {stage : WorkerStage} {d : Delivery}
    (hk : x.tasks.waiting? k = some (.worker i stage)) (ht : x.step (.resume k d) = some t)
    {v : Turn Agent (Progress WorkerStage Unit)}
    (hu : x.section? (.resume k d) = some (v.map (·.map (.worker i) fun _ => .finished)))
    (hseats : v.state.fanout.boxes.length = x.seats) :
    t.published = v.published ∧ t.state.audience =
      { x.audience.work i v.result.stage? with
        bus := v.state.bus.publishAll (Notice.numbered v.state.created v.published)
        fanout := v.state.fanout
        isFlushing := v.state.isFlushing
        listenerEnded := v.state.listenerEnded } := by
  obtain ⟨hki, hlt⟩ := hx.seat hk rfl
  obtain ⟨hpub, haudience⟩ := audience_resume ht hu hseats
  refine ⟨hpub, haudience.trans (Audience.ext rfl rfl rfl rfl ?_ ?_)⟩
  · exact if_neg (hki ▸ Nat.ne_of_lt (hlt i rfl))
  · funext j
    dsimp only [Audience.work]
    rw [show k = i from hki, Turn.result_map, Progress.stage?_map]
    split_ifs
    · cases v.result <;> rfl
    · rfl

/-- A section of the worker of a subscriber that waits for an event. -/
theorem Seated.attends_serve (hx : x.Seated) {k i : Nat} {d : Delivery}
    (hk : x.tasks.waiting? k = some (.worker i .idle)) (ht : x.step (.resume k d) = some t) :
    Attends x.audience (x.deed k) (Notice.numbered x.agent.created t.published)
      t.state.audience := by
  obtain ⟨hki, hlt⟩ := hx.seat hk rfl
  obtain ⟨m, hm⟩ : ∃ m, x.agent.fanout.boxes[i]? = some m :=
    ⟨_, List.getElem?_eq_getElem (hlt i rfl)⟩
  have hw : x.audience.worker? i = some .idle := by
    simp only [audience, ← show k = i from hki, hk, workerOf?]
  obtain ⟨u, hu, -⟩ := step_eq_some_iff.mp ht
  have hsection : x.section? (.resume k d) = ((x.agent.onFanout (·.serve i)).result).map fun p =>
      (x.agent.onFanout (·.serve i)).map fun _ => p.map (.worker i) fun _ => .finished := by
    simp only [section?, hk, Option.bind_some, resume]
  cases hq : m.waiting with
  | cons n rest =>
    have hserve := Fanout.serve_of_cons hm hq
    have hdeed : x.deed k = .start i n := by simp [deed, hk, hm, hq]
    have hnil : ((x.agent.onFanout (·.serve i)).map fun _ =>
        (.waiting (.busy n) : Progress WorkerStage Unit)).published = [] := by
      simp [Turn.published, onFanout, hserve, Effect.published?]
    obtain ⟨hpub, haudience⟩ := hx.audience_work hk ht
      (v := (x.agent.onFanout (·.serve i)).map fun _ => .waiting (.busy n))
      (hsection.trans (by simp only [onFanout, hserve]; rfl)) (by simp [onFanout, hserve, seats])
    rw [hpub, haudience, hnil, hdeed]
    simp only [onFanout, hserve]
    exact .start i n rest m hw hm hq
  | nil =>
    have hserve := Fanout.serve_of_nil hm hq
    have hdeed : x.deed k = .leave i := by simp [deed, hk, hm, hq]
    cases hfed : m.isFed with
    | true =>
      rw [hu] at hsection
      simp [onFanout, hserve, hfed] at hsection
    | false =>
      simp only [hfed, Bool.false_eq_true, ↓reduceIte] at hserve
      obtain ⟨hpub, haudience⟩ := hx.audience_work hk ht
        (v := (x.agent.onFanout (·.serve i)).map fun _ => .done ())
        (hsection.trans (by simp only [onFanout, hserve]; rfl))
        (by simp [onFanout, hserve, seats, Fanout.endWorker])
      have hnil : ((x.agent.onFanout (·.serve i)).map fun _ =>
          (.done () : Progress WorkerStage Unit)).published = [] := by
        simp only [onFanout, hserve]
        rfl
      rw [hpub, haudience, hnil, hdeed]
      simp only [onFanout, hserve]
      exact .leave i m hw hm hq hfed

/-- The section of the worker of a subscriber at the end of its processing of an event. -/
theorem Seated.attends_finish (hx : x.Seated) {k i : Nat} {n : Notice} {d : Delivery}
    (hk : x.tasks.waiting? k = some (.worker i (.busy n))) (ht : x.step (.resume k d) = some t) :
    Attends x.audience (x.deed k) (Notice.numbered x.agent.created t.published)
      t.state.audience := by
  obtain ⟨hki, hlt⟩ := hx.seat hk rfl
  obtain ⟨m, hm⟩ : ∃ m, x.agent.fanout.boxes[i]? = some m :=
    ⟨_, List.getElem?_eq_getElem (hlt i rfl)⟩
  have hw : x.audience.worker? i = some (.busy n) := by
    simp only [audience, ← show k = i from hki, hk, workerOf?]
  have hdeed : x.deed k = .finish i n (m.subscriber.failing n.event) := by simp [deed, hk, hm]
  have hsection : x.section? (.resume k d) =
      some ((x.agent.onFanout (·.finish i n)).map (·.map (.worker i) fun _ => .finished)) := by
    obtain ⟨u, hu, -⟩ := step_eq_some_iff.mp ht
    rw [hu]
    simp only [section?, hk, Option.bind_some, resume] at hu
    split_ifs at hu
    exact hu.symm
  rw [hdeed]
  cases hf : m.subscriber.failing n.event with
  | none =>
    have hfinish := Fanout.finish_of_none hm hf
    obtain ⟨hpub, haudience⟩ := hx.audience_work hk ht hsection (by simp [onFanout, hfinish, seats])
    rw [hpub, haudience]
    simp only [onFanout, hfinish]
    exact .finish i n m hw hm hf
  | some failing =>
    have hfinish := Fanout.finish_of_some hm hf
    cases hname : m.subscriber.keepsName with
    | true =>
      simp only [hname, ↓reduceIte] at hfinish
      obtain ⟨hpub, haudience⟩ := hx.audience_work hk ht hsection
        (by simp [onFanout, hfinish, seats])
      rw [hpub, haudience]
      simp only [onFanout, hfinish]
      exact .report i n m failing x.agent.created hw hm hf hname
    | false =>
      simp only [hname, Bool.false_eq_true, ↓reduceIte] at hfinish
      obtain ⟨hpub, haudience⟩ := hx.audience_work hk ht hsection
        (by simp [onFanout, hfinish, seats, Fanout.endWorker])
      rw [hpub, haudience]
      simp only [onFanout, hfinish]
      exact .collapse i n m failing hw hm hf hname

end Traffic

namespace Traffic

variable {x y : Traffic} {m : Move} {t : Turn Traffic (Progress Activity Outcome)}

/-- A section of a call of the host, of a heartbeat loop, or of the surroundings. -/
theorem attends_of_seat? (ht : x.step m = some t)
    (hother : ∀ k w, m.resumes? = some k → x.tasks.waiting? k = some w → seat? w = none) :
    Attends x.audience .other (Notice.numbered x.agent.created t.published) t.state.audience := by
  obtain ⟨u, hu, -⟩ := step_eq_some_iff.mp ht
  have hdisables {stage? stage?' : Option Disable}
      (h : WindsUp x.agent u.published stage? u.state.outlet stage?') :
      Attends x.audience .other (Notice.numbered x.agent.created t.published)
        t.state.audience := by
    obtain ⟨isHeld, isFlushing, hflush, houtlet⟩ := h.eq_with
    exact attends_of_other ht hu hother hflush houtlet
  have hkeeps (h : u.state.outlet = x.agent.outlet) :
      Attends x.audience .other (Notice.numbered x.agent.created t.published)
        t.state.audience :=
    attends_of_other ht hu hother id h
  cases m with
  | call op =>
    obtain rfl := Option.some.inj hu
    by_cases hop : op = .disable
    · subst hop
      obtain ⟨stage?, h, -⟩ := windsUp_begin x.agent
      exact hdisables h
    · exact hkeeps (leaves_begin x.agent hop).outlet
  | resume k d =>
    obtain ⟨w, hk, hu⟩ := Option.bind_eq_some_iff.mp hu
    have hseat := hother k w rfl hk
    cases hw : attends w with
    | false => exact hkeeps (outlet_resume x.agent hw hu)
    | true =>
      cases w with
      | disable stage =>
        obtain ⟨stage?, h, -⟩ := windsUp_resume x.agent hu
        exact hdisables h
      | listener | worker => cases hseat
      | connect | beat | status | join | load | enable | run | loop => cases hw
  | abandon k =>
    obtain ⟨w, -, rfl⟩ := Option.map_eq_some_iff.mp hu
    exact hkeeps (leaves_abandon x.agent w).outlet
  | register =>
    simp only [section?] at hu
    split at hu <;> exact hkeeps (Option.some.inj hu ▸ rfl)

/-- In every section the audience does its deed, or others do something. -/
theorem Seated.attends_step (hx : x.Seated) (ht : x.step m = some t) (es : List Notice)
    (y : Traffic) :
    Attends x.audience (Scene.deed ⟨x, .move m, es, y⟩)
      (Notice.numbered x.agent.created t.published) t.state.audience := by
  cases m with
  | call | register => exact attends_of_seat? ht fun k w hk => by cases hk
  | abandon k =>
    refine attends_of_seat? ht fun j w hj hw => ?_
    obtain rfl := Option.some.inj hj
    obtain ⟨u, hu, -⟩ := step_eq_some_iff.mp ht
    obtain ⟨w', hw', -⟩ := Option.map_eq_some_iff.mp hu
    obtain ⟨hk, hcall⟩ := Option.filter_eq_some_iff.mp hw'
    obtain rfl := Option.some.inj (hk.symm.trans hw)
    cases w' with
    | listener | worker => cases hcall
    | connect | beat | status | join | load | enable | disable | run | loop => rfl
  | resume k d =>
    obtain ⟨w, hk⟩ := exists_waiting?_of_step ht rfl
    have hother (hs : seat? w = none) (hdeed : x.deed k = .other) :
        Attends x.audience (x.deed k) (Notice.numbered x.agent.created t.published)
          t.state.audience := by
      rw [hdeed]
      refine attends_of_seat? ht fun j w' hj hw' => ?_
      obtain rfl := Option.some.inj hj
      rw [← Option.some.inj (hk.symm.trans hw'), hs]
    cases w with
    | listener l => exact hx.attends_listen hk ht
    | worker i stage =>
      cases stage with
      | idle => exact hx.attends_serve hk ht
      | busy n => exact hx.attends_finish hk ht
    | connect | beat | status | join | load | enable | disable | run | loop =>
      exact hother rfl (by simp [deed, hk])

/-- Whatever happens, the audience attends to it. -/
theorem Seated.attends_happen (hx : x.Seated) {e : Happening} {es : List Notice}
    (he : x.happen? e = some (es, y)) :
    Attends x.audience (Scene.deed ⟨x, e, es, y⟩) es y.audience ∧ y.Seated := by
  cases e with
  | move m =>
    obtain ⟨t, ht, h⟩ := Option.map_eq_some_iff.mp he
    cases h
    have hattends := hx.attends_step ht (Notice.numbered x.agent.created t.published) t.state
    exact ⟨hattends, hx.step ht hattends.length_boxes⟩
  | publish n =>
    cases he
    exact ⟨.publish (v := x.audience) [n] _ id, hx.of_eq rfl rfl⟩
  | revise i s =>
    obtain ⟨m, hm, h⟩ := Option.map_eq_some_iff.mp he
    obtain ⟨hm, hsame⟩ := Option.filter_eq_some_iff.mp hm
    cases h
    simp only [Bool.and_eq_true, decide_eq_true_eq] at hsame
    have hseats := Fanout.length_modifyBox x.agent.fanout i ({ · with subscriber := s })
    refine ⟨?_, hx.of_eq rfl hseats⟩
    have haudience : Traffic.audience { x with agent := { x.agent with
          fanout := x.agent.fanout.modifyBox i ({ · with subscriber := s }) } } =
        { x.audience with fanout := x.agent.fanout.modifyBox i ({ · with subscriber := s }) } :=
      Audience.ext rfl rfl rfl rfl (congrArg (listenerOf? ∘ x.tasks.waiting?) hseats) rfl
    rw [haudience]
    exact .revise (v := x.audience) i m s hm hsame.1.symm hsame.2.symm

end Traffic

/-- The listener and the workers keep their places. -/
theorem Story.seated {h : List Scene} {x : Traffic} (hx : Story h x) : x.Seated := by
  induction hx with
  | new ha => exact Traffic.seated_ofAgent _
  | snoc _ he ih => exact (ih.attends_happen he).2

/-- Whatever happens, the audience attends to it. -/
theorem Story.attends {h : List Scene} {x : Traffic} (hx : Story h x) {s : Scene} (hs : s ∈ h) :
    Attends s.before.audience s.deed s.published s.after.audience := by
  induction hx with
  | new ha => cases hs
  | snoc hx he ih =>
    rcases List.mem_append.mp hs with hs | hs
    · exact ih hs
    · obtain rfl := List.mem_singleton.mp hs
      exact (hx.seated.attends_happen he).1

/-- The subscribers of an agent stay the same in number. -/
theorem Story.seats_before (hx : Story h x) {s : Scene} (hs : s ∈ h) :
    s.before.seats = x.seats := by
  induction hx with
  | new ha => cases hs
  | snoc hx he ih =>
    have hseats := (hx.seated.attends_happen he).1.length_boxes
    rcases List.mem_append.mp hs with hs | hs
    · exact (ih hs).trans hseats.symm
    · obtain rfl := List.mem_singleton.mp hs
      exact hseats.symm

end Agent

end FleetAgent
