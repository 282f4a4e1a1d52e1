import FleetAgent.Proofs.Agent.Flush
import Mathlib.Data.List.Induction

/-!
# Disabling an agent

A call that disables the agent stops the heartbeats, waits for the present loop, closes the session,
tells the listener to end, and waits for that. If nothing was lost on the way and both have ended in
time, then every subscriber is done with all events that were published before the listener was told
to end when the call returns, and those of the shutdown itself are among them.

## Main definitions

* `Agent.Disabling`: a call that disables the agent, from its first section to its return.
* `Agent.Flushed`: what the subscribers are done with when it returns.

## Main results

* `Agent.Story.tells`: what is told of with the events.
* `Agent.flushed_of_disabling`: the final events get to every subscriber.
-/

namespace FleetAgent.Agent

/-! ### What is told of -/

/-- A loop waits for a beat of a heart of its own only if there is such a heart. -/
theorem own_of_resume {a : Agent} {d : Delivery} {w : Activity} {t : ActivityTurn} {k : Nat}
    (ht : a.resume d w = some t) (hw : t.result.stage? = some (.loop k (some .own))) :
    a.heart = .own := by
  have hrole := role_resume ht hw
  have hafter (b : Agent) (j : Nat) (o : Except SessionError BeatOutcome) :
      (b.loopAfterBeat j o).result.stage? ≠ some (.loop k (some .own)) := by
    simp only [loopAfterBeat, Turn.result_map]
    split <;> simp
  cases w with
  | loop j beat =>
    cases beat with
    | none =>
      change a.advanceLoop j d.now = some t at ht
      unfold advanceLoop at ht
      dsimp only at ht
      split at ht
      · cases ht
      · obtain rfl := Option.some.inj ht
        cases hw
      · obtain rfl := Option.some.inj ht
        cases hw
      · split at ht
        · assumption
        · obtain rfl := Option.some.inj ht
          simp only [Turn.result_andThen] at hw
          split at hw
          · cases hw
          · exact absurd hw (hafter _ _ _)
    | some beat =>
      cases beat with
      | session beat =>
        obtain ⟨answer, -, rfl⟩ := Option.map_eq_some_iff.mp ht
        exact absurd hw (hafter _ _ _)
      | own =>
        obtain ⟨beat, -, rfl⟩ := Option.map_eq_some_iff.mp ht
        cases beat with
        | outcome result => exact absurd hw (hafter _ _ _)
        | broken => cases hw
  | connect | beat | status | join | load | enable | disable | run | listener | worker =>
    cases hrole

namespace Traffic

variable {x y : Traffic} {m : Move} {t : Turn Traffic (Progress Activity Outcome)}

/-- Whether no loop waits for a beat of a heart of its own. -/
structure Beats (x : Traffic) : Prop where
  heart : x.agent.heart = .session
  loops : ∀ i k, x.tasks.waiting? i ≠ some (.loop k (some .own))

/-- What a section tells of. -/
theorem Beats.tells_step (hx : x.Beats) (ht : x.step m = some t) :
    Tells x.agent t.state.agent t.published := by
  obtain ⟨u, hu, rfl⟩ := step_eq_some_iff.mp ht
  have hsection : Tells x.agent u.state u.published := by
    cases m with
    | call op => exact Option.some.inj hu ▸ tells_begin x.agent op
    | resume i d =>
      obtain ⟨w, hw, hu⟩ := Option.bind_eq_some_iff.mp hu
      exact tells_resume x.agent (fun k hk => hx.loops i k (hk ▸ hw)) hu
    | abandon i =>
      obtain ⟨w, -, rfl⟩ := Option.map_eq_some_iff.mp hu
      exact (leaves_abandon x.agent w).toTells
    | register =>
      simp only [section?] at hu
      split at hu <;> exact Option.some.inj hu ▸ .of_keepsPhases rfl rfl (.refl _)
  have hcore := core_perform (a := u.state) u.effects
  have hscheduler : (u.state.perform u.effects).scheduler = u.state.scheduler :=
    congrArg Core.scheduler hcore
  have hperform : Tells u.state (u.state.perform u.effects) [] :=
    .of_keepsPhases (congrArg Core.heart hcore) (congrArg Core.isStopping hcore)
      (by rw [hscheduler]; exact .refl _)
  have htells := hsection.trans hperform
  rwa [List.append_nil] at htells

theorem Beats.step (hx : x.Beats) (ht : x.step m = some t) : t.state.Beats := by
  have hheart := (hx.tells_step ht).heart.trans hx.heart
  refine ⟨hheart, fun i k hi => ?_⟩
  rcases waiting?_of_step ht hi with ⟨-, hown⟩ | ⟨-, hi⟩ | ⟨loop, -, h⟩
  · rcases role_of_step ht hown with ⟨op, -, hrole⟩ | ⟨j, d, w', rfl, hj, -⟩
    · simp only [role] at hrole
      split_ifs at hrole
    · obtain ⟨u, hu, rfl⟩ := step_eq_some_iff.mp ht
      obtain ⟨w, -, hu⟩ := Option.bind_eq_some_iff.mp hu
      exact absurd ((own_of_resume hu hown).symm.trans hx.heart) (by simp)
  · exact hx.loops i k hi
  · cases h

/-- What is told of when something happens. -/
theorem Beats.tells_happen (hx : x.Beats) {e : Happening} {es : List Notice}
    (he : x.happen? e = some (es, y)) :
    Tells x.agent y.agent (es.map (·.event)) ∧ y.Beats := by
  cases e with
  | move m =>
    obtain ⟨t, ht, h⟩ := Option.map_eq_some_iff.mp he
    cases h
    rw [Notice.map_event_numbered]
    exact ⟨hx.tells_step ht, hx.step ht⟩
  | publish n =>
    cases he
    exact ⟨.of_keepsPhases rfl rfl (.refl _), hx.heart, hx.loops⟩
  | revise i s =>
    obtain ⟨m, -, h⟩ := Option.map_eq_some_iff.mp he
    cases h
    exact ⟨.of_keepsPhases rfl rfl (.refl _), hx.heart, hx.loops⟩

end Traffic

section Story

variable {h : List Scene} {x y : Traffic} {e : Happening} {es : List Notice}

theorem Story.beats (hx : Story h x) : x.Beats := by
  induction hx with
  | @new config address host subscribers a ha =>
    refine ⟨?_, fun i k hi => ?_⟩
    · simp only [Agent.make] at ha
      split at ha
      · cases ha
      · exact Except.ok.inj ha ▸ rfl
    · rw [Traffic.waiting?_new] at hi
      split_ifs at hi <;> cases hi
  | snoc hx he ih => exact (ih.tells_happen he).2

/-- What is told of with the events. -/
theorem Story.tells (hx : Story h x) (he : x.happen? e = some (es, y)) :
    Tells x.agent y.agent (es.map (·.event)) :=
  (hx.beats.tells_happen he).1

/-- The calls are told to end for good. -/
theorem Story.isStopping_of_mem (hx : Story h x) {s : Scene} (hs : s ∈ h)
    (hstop : s.after.agent.isStopping) : x.agent.isStopping := by
  induction hx with
  | new ha => cases hs
  | snoc hx he ih =>
    rcases List.mem_append.mp hs with hs | hs
    · exact (hx.tells he).stopping (ih hs)
    · rwa [List.mem_singleton.mp hs] at hstop

/-- The listener is told to end for good. -/
theorem Story.isFlushing_of_mem (hx : Story h x) {s : Scene} (hs : s ∈ h)
    (hflush : s.before.agent.isFlushing) : x.agent.isFlushing := by
  induction hx with
  | new ha => cases hs
  | snoc hx he ih =>
    refine (hx.seated.attends_happen he).1.isFlushing ?_
    rcases List.mem_append.mp hs with hs | hs
    · exact ih hs
    · rwa [List.mem_singleton.mp hs] at hflush

/-- That the calls are to end is told of. -/
theorem Story.requested (hx : Story h x) (hstop : x.agent.isStopping) :
    ∃ n ∈ published h, n.event.kind = .shutdownRequested := by
  induction hx with
  | @new config address host subscribers a ha =>
    simp only [Agent.make] at ha
    split at ha
    · cases ha
    · obtain rfl := Except.ok.inj ha
      cases hstop
  | snoc hx he ih =>
    rw [published_append, published_singleton]
    rcases (hx.tells he).stops hstop with hstop | ⟨e, he, hkind⟩
    · obtain ⟨n, hn, hkind⟩ := ih hstop
      exact ⟨n, List.mem_append_left _ hn, hkind⟩
    · obtain ⟨n, hn, rfl⟩ := List.mem_map.mp he
      exact ⟨n, List.mem_append_right _ hn, hkind⟩

theorem Story.of_concat {s : Scene} (hx : Story (h ++ [s]) x) :
    Story h s.before ∧ s.before.happen? s.happening = some (s.published, s.after) ∧
      x = s.after := by
  generalize hl : h ++ [s] = l at hx
  cases hx with
  | new ha => simp at hl
  | snoc hx he =>
    obtain ⟨rfl, hs⟩ := List.append_inj' hl rfl
    obtain rfl := List.singleton_inj.mp hs
    exact ⟨hx, he, rfl⟩

/-- What has happened up to a scene. -/
theorem Story.of_append {s : Scene} {h' : List Scene} (hx : Story (h ++ s :: h') x) :
    Story h s.before ∧ s.before.happen? s.happening = some (s.published, s.after) := by
  induction h' using List.reverseRecOn generalizing x with
  | nil => exact ⟨hx.of_concat.1, hx.of_concat.2.1⟩
  | append_singleton h' s' ih =>
    rw [← List.cons_append, ← List.append_assoc] at hx
    exact ih hx.of_concat.1

end Story

/-! ### The sections of disabling -/

/-- Whether it is a call that disables the agent. -/
def Happening.disables : Happening → Bool
  | .move (.call .disable) => true
  | _ => false

namespace Traffic

variable {x y : Traffic} {m : Move} {t : Turn Traffic (Progress Activity Outcome)}

theorem exists_step {es : List Notice}
    (he : x.happen? (.move m) = some (es, y)) :
    ∃ t, x.step m = some t ∧ es.map (·.event) = t.published ∧ y = t.state := by
  obtain ⟨t, ht, h⟩ := Option.map_eq_some_iff.mp he
  cases h
  exact ⟨t, ht, Notice.map_event_numbered _ _, rfl⟩

/-- The stage of disabling with which a move goes on, none if it is the call. -/
def winding? (x : Traffic) : Move → Option (Option Disable)
  | .call .disable => some none
  | .resume k _ => match x.tasks.waiting? k with
    | some (.disable stage) => some (some stage)
    | _ => none
  | _ => none

/-- A section of disabling. -/
theorem windsUp_step (ht : x.step m = some t) {stage? : Option Disable}
    (hm : x.winding? m = some stage?) :
    ∃ o stage?', WindsUp x.agent t.published stage? o stage?' ∧
      t.result.stage? = stage?'.map .disable ∧
      t.state.agent.holdsListener = o.holdsListener ∧ t.state.agent.isFlushing = o.isFlushing := by
  obtain ⟨u, hu, rfl⟩ := step_eq_some_iff.mp ht
  have houtlet := outlet_perform u.state u.effects
  have hholds := congrArg Outlet.holdsListener houtlet
  have hflush := congrArg Outlet.isFlushing houtlet
  cases m with
  | call op =>
    cases op with
    | disable =>
      cases hm
      obtain rfl := Option.some.inj hu
      obtain ⟨stage?', h, hresult⟩ := windsUp_begin x.agent
      exact ⟨_, stage?', h, hresult, hholds, hflush⟩
    | connect | beat | disconnect | reset | client | state | report | disableAutoReady | start
    | stop | join | interval | load | enable | run => cases hm
  | resume k d =>
    obtain ⟨w, hw, hu⟩ := Option.bind_eq_some_iff.mp hu
    simp only [winding?, hw] at hm
    split at hm
    · rename_i stage heq
      cases Option.some.inj heq
      obtain rfl := Option.some.inj hm
      obtain ⟨stage?', h, hresult⟩ := windsUp_resume x.agent hu
      exact ⟨_, stage?', h, hresult, hholds, hflush⟩
    · cases hm
  | abandon | register => cases hm

/-- Other sections do not tell the listener to end. -/
theorem holds_step (ht : x.step m = some t) (hm : x.winding? m = none) :
    t.state.agent.holdsListener = x.agent.holdsListener ∧
      t.state.agent.isFlushing = x.agent.isFlushing := by
  obtain ⟨u, hu, rfl⟩ := step_eq_some_iff.mp ht
  have houtlet := outlet_perform u.state u.effects
  have hsection : u.state.holdsListener = x.agent.holdsListener ∧
      u.state.isFlushing = x.agent.isFlushing := by
    have hleaves (h : u.state.outlet = x.agent.outlet) :
        u.state.holdsListener = x.agent.holdsListener ∧ u.state.isFlushing = x.agent.isFlushing :=
      ⟨congrArg Outlet.holdsListener h, congrArg Outlet.isFlushing h⟩
    cases m with
    | call op =>
      obtain rfl := Option.some.inj hu
      refine hleaves (leaves_begin x.agent fun hop => ?_).outlet
      rw [hop] at hm
      cases hm
    | resume k d =>
      obtain ⟨w, hw, hu⟩ := Option.bind_eq_some_iff.mp hu
      refine holds_resume x.agent (fun stage hs => ?_) hu
      simp only [winding?, hw, hs] at hm
      cases hm
    | abandon k =>
      obtain ⟨w, -, rfl⟩ := Option.map_eq_some_iff.mp hu
      exact hleaves (leaves_abandon x.agent w).outlet
    | register =>
      simp only [section?] at hu
      split at hu <;> exact hleaves (Option.some.inj hu ▸ rfl)
  exact ⟨(congrArg Outlet.holdsListener houtlet).trans hsection.1,
    (congrArg Outlet.isFlushing houtlet).trans hsection.2⟩

/-- The task of a section waits at the stage that the section came to. -/
theorem waiting?_place (ht : x.step m = some t) :
    t.state.tasks.waiting? (x.tasks.place m.resumes?) = t.result.stage? := by
  have hlt : x.tasks.place m.resumes? < (x.tasks.put m.resumes? t.result.stage?).length := by
    cases hm : m.resumes? with
    | none => simp [Tasks.place, Tasks.put]
    | some k =>
      obtain ⟨w, hw⟩ := exists_waiting?_of_step ht hm
      simpa [Tasks.place, Tasks.put] using Tasks.lt_of_waiting? hw
  rw [waiting?_step ht]
  dsimp only
  rw [if_pos hlt, if_pos rfl]

/-- Only a section of disabling comes to a stage of it. -/
theorem disable_of_step (ht : x.step m = some t) {i : Nat} {stage : Disable}
    (hi : t.state.tasks.waiting? i = some (.disable stage)) :
    i = x.tasks.place m.resumes? ∧ t.result.stage? = some (.disable stage) ∧
        (x.winding? m).isSome ∨
      i ≠ x.tasks.place m.resumes? ∧ x.tasks.waiting? i = some (.disable stage) := by
  rcases waiting?_of_step ht hi with ⟨hplace, hown⟩ | h | ⟨loop, -, h⟩
  · refine .inl ⟨hplace, hown, ?_⟩
    rcases role_of_step ht hown with ⟨op, rfl, hrole⟩ | ⟨k, d, w, rfl, hk, hrole⟩
    · by_cases hop : op = .disable
      · rw [hop]
        rfl
      · rw [if_neg hop] at hrole
        cases hrole
    · cases w with
      | disable stage => simp [winding?, hk]
      | connect | beat | status | join | load | enable | run | loop | listener | worker =>
        cases hrole
  · exact .inr h
  · cases h

/-- A section of disabling is the first one of the call, or one after a wait. -/
theorem winding?_eq_some {stage? : Option Disable} (hm : x.winding? m = some stage?) :
    m = .call .disable ∧ stage? = none ∨
      ∃ k d stage, m = .resume k d ∧ x.tasks.waiting? k = some (.disable stage) ∧
        stage? = some stage := by
  unfold winding? at hm
  split at hm
  · exact .inl ⟨rfl, (Option.some.inj hm).symm⟩
  · split at hm
    · exact .inr ⟨_, _, _, rfl, by assumption, (Option.some.inj hm).symm⟩
    · cases hm
  · cases hm

/-- Nothing else tells the listener to end, or comes to a stage of disabling. -/
theorem holds_happen {e : Happening} {es : List Notice} (he : x.happen? e = some (es, y))
    (hm : ∀ m, e = .move m → x.winding? m = none) :
    y.agent.holdsListener = x.agent.holdsListener ∧ y.agent.isFlushing = x.agent.isFlushing ∧
      ∀ i stage, y.tasks.waiting? i = some (.disable stage) →
        x.tasks.waiting? i = some (.disable stage) := by
  cases e with
  | move m =>
    obtain ⟨t, ht, h⟩ := Option.map_eq_some_iff.mp he
    cases h
    obtain ⟨hheld, hflush⟩ := holds_step ht (hm m rfl)
    refine ⟨hheld, hflush, fun i stage hi => ?_⟩
    rcases disable_of_step ht hi with ⟨-, -, hsome⟩ | ⟨-, hi⟩
    · rw [hm m rfl] at hsome
      cases hsome
    · exact hi
  | publish n =>
    cases he
    exact ⟨rfl, rfl, fun _ _ => id⟩
  | revise i s =>
    obtain ⟨m, -, h⟩ := Option.map_eq_some_iff.mp he
    cases h
    exact ⟨rfl, rfl, fun _ _ => id⟩

/-- Nobody has told the listener to end, or is about to. -/
structure Untold (x : Traffic) : Prop where
  held : x.agent.holdsListener
  following : x.agent.isFlushing = false
  free : ∀ i stage, x.tasks.waiting? i ≠ some (.disable stage)

/-- Whether a call is in progress that disables the agent. -/
def isDisabling (x : Traffic) : Bool := x.tasks.any fun w => match w with
  | some (.disable _) => true
  | _ => false

theorem free_of_isDisabling (h : x.isDisabling = false) (i : Nat) (stage : Disable) :
    x.tasks.waiting? i ≠ some (.disable stage) := fun hi => by
  have hmem := List.mem_of_getElem? (Option.join_eq_some_iff.mp hi)
  simpa using List.any_eq_false.mp h _ hmem

end Traffic

/-- The listener is told to end by the call that waits for it. -/
theorem Story.following {h : List Scene} {x : Traffic} (hx : Story h x)
    (hheld : x.agent.holdsListener) : x.agent.isFlushing = false := by
  induction hx with
  | new ha => exact congrArg Outlet.isFlushing (outlet_make ha)
  | @snoc h x y e es hx he ih =>
    by_cases hm : ∀ m, e = .move m → x.winding? m = none
    · obtain ⟨hheld', hflush, -⟩ := Traffic.holds_happen he hm
      exact hflush.trans (ih (hheld'.symm.trans hheld))
    · simp only [not_forall] at hm
      obtain ⟨m, rfl, hm⟩ := hm
      obtain ⟨stage?, hstage⟩ := Option.ne_none_iff_exists'.mp hm
      obtain ⟨t, ht, -, rfl⟩ := Traffic.exists_step he
      obtain ⟨o, stage?', hwinds, -, hheld', hflush⟩ := Traffic.windsUp_step ht hstage
      cases hwinds with
      | wait | leave => exact hflush.trans (ih (hheld'.symm.trans hheld))
      | tell => cases hheld'.symm.trans hheld

/-! ### A single call -/

/-- The section of the call of a number goes on after a wait, for which it was too late. -/
def Scene.isLate (k : Nat) (s : Scene) : Bool :=
  match s.happening, s.before.tasks.waiting? k with
  | .move (.resume j _), some (.disable stage) => j = k && !s.before.agent.disableIsDue stage
  | _, _ => false

/-- The call of a number returns after a wait. -/
def Scene.returns (k : Nat) (s : Scene) : Bool :=
  match s.happening, s.before.tasks.waiting? k with
  | .move (.resume j _), some (.disable _) => j = k && s.after.tasks.waiting? k = none
  | _, _ => false

/-- The ends of the loops since the scene `call` were told of in the scenes `es`. -/
def ToldStops (call : Scene) (es : List Scene) (x : Traffic) : Prop :=
  ∀ j, x.agent.scheduler.hasEnded j → call.before.agent.scheduler.hasEnded j ∨
    ∃ s ∈ es, ∃ n ∈ s.published, n.event.kind = .schedulerStopped

/-- The scene in which a call of which there is no other tells the listener to end, and those before
it since the call. -/
structure Telling (call : Scene) (mid : List Scene) (told : Scene) : Prop where
  /-- The listener is told now. -/
  tells : told.before.agent.isFlushing = false ∧ told.after.agent.isFlushing
  /-- The session is closed. -/
  closed : told.before.agent.session.state ≠ .closed →
    ∃ n ∈ told.published, n.event.kind = .sessionClosed
  /-- The heartbeat loop has ended for which the call has waited. -/
  joined : ∀ j, call.before.agent.scheduler.slot = some j → told.before.agent.scheduler.hasEnded j
  /-- The ends of the loops were told of. -/
  stopped : ToldStops call mid told.before

/-- How far the call of the number `k` is that began with `call`, after the scenes `es`, if there is
no other. -/
inductive Underway (call : Scene) (k : Nat) (es : List Scene) (x : Traffic) : Prop
  | joining (j : Nat) (hk : x.tasks.waiting? k = some (.disable (.joining j)))
      (hslot : call.before.agent.scheduler.slot = some j) (hheld : x.agent.holdsListener)
      (hflush : x.agent.isFlushing = false) (hstopped : ToldStops call es x)
  | flushing (hk : x.tasks.waiting? k = some (.disable .flushing)) (mid : List Scene) (told : Scene)
      (post : List Scene) (hes : es = mid ++ told :: post) (htold : Telling call mid told)
  | past (hk : ∀ stage, x.tasks.waiting? k ≠ some (.disable stage))

/-- No other call disables the agent. -/
def Alone (k : Nat) (x : Traffic) : Prop :=
  ∀ i stage, x.tasks.waiting? i = some (.disable stage) → i = k

theorem exists_event {es : List Notice} {kind : EventKind}
    (h : ∃ e ∈ es.map (·.event), e.kind = kind) : ∃ n ∈ es, n.event.kind = kind := by
  obtain ⟨e, he, hkind⟩ := h
  obtain ⟨n, hn, rfl⟩ := List.mem_map.mp he
  exact ⟨n, hn, hkind⟩

/-- All calls are told to end by one that disables the agent. -/
theorem Traffic.isStopping_of_call {x : Traffic} {t : Turn Traffic (Progress Activity Outcome)}
    (ht : x.step (.call .disable) = some t) : t.state.agent.isStopping := by
  obtain ⟨u, hu, rfl⟩ := step_eq_some_iff.mp ht
  obtain rfl := Option.some.inj hu
  have hcore := core_perform (a := (x.agent.begin .disable).state) (x.agent.begin .disable).effects
  exact (congrArg Core.isStopping hcore).trans (windsUp_beginDisable x.agent).2

theorem ToldStops.concat {call s : Scene} {es : List Scene} (h : ToldStops call es s.before)
    (htells : Tells s.before.agent s.after.agent (s.published.map (·.event))) :
    ToldStops call (es ++ [s]) s.after := by
  intro j hj
  rcases htells.ends j hj with hj | hstopped
  · rcases h j hj with hj | ⟨s', hs', hn⟩
    · exact .inl hj
    · exact .inr ⟨s', List.mem_append_left _ hs', hn⟩
  · exact .inr ⟨s, List.mem_append_right _ List.mem_cons_self, exists_event hstopped⟩

/-- The call begins. -/
theorem underway_of_call {call : Scene} (hx : call.before.Untold)
    (hcall : call.happening = .move (.call .disable))
    (he : call.before.happen? call.happening = some (call.published, call.after))
    (htells : Tells call.before.agent call.after.agent (call.published.map (·.event))) :
    Underway call call.before.tasks.length [call] call.after ∧
      Alone call.before.tasks.length call.after ∧ call.after.agent.isStopping := by
  rw [hcall] at he
  obtain ⟨t, ht, hes, hy⟩ := Traffic.exists_step he
  have hplace : t.state.tasks.waiting? call.before.tasks.length = t.result.stage? :=
    Traffic.waiting?_place ht
  obtain ⟨o, stage?', hwinds, hresult, hheld, hflush⟩ := Traffic.windsUp_step ht rfl
  rw [hresult] at hplace
  rw [← hy] at hplace hheld hflush
  refine ⟨?_, fun i stage hi => ?_, hy ▸ Traffic.isStopping_of_call ht⟩
  · cases hwinds with
    | wait j hslot =>
      refine .joining j hplace hslot (hheld.trans hx.held) (hflush.trans hx.following)
        fun i hi => (htells.ends i hi).imp_right fun h => ?_
      exact ⟨call, List.mem_cons_self, exists_event h⟩
    | tell _ _ hslot h hclosed =>
      refine .flushing hplace [] call [] rfl
        ⟨⟨hx.following, hflush⟩, fun hs => exists_event (hes ▸ hclosed hs), fun j hj => ?_,
          fun j hj => .inl hj⟩
      exact absurd ((hslot rfl).symm.trans hj) (by simp)
    | leave _ h =>
      rcases h with h | h
      · cases h
      · exact absurd hx.held (Bool.eq_false_iff.mp h)
  · rw [hy] at hi
    rcases Traffic.disable_of_step ht hi with ⟨h, -, -⟩ | ⟨-, hi⟩
    · exact h
    · exact absurd hi (hx.free i stage)

/-- The call goes on. -/
theorem Underway.happen {call s : Scene} {k : Nat} {es : List Scene}
    (h : Underway call k es s.before) (halone : Alone k s.before)
    (he : s.before.happen? s.happening = some (s.published, s.after))
    (htells : Tells s.before.agent s.after.agent (s.published.map (·.event)))
    (hcall : s.happening.disables = false) (hlate : s.isLate k = false) :
    Underway call k (es ++ [s]) s.after ∧ Alone k s.after := by
  by_cases hm : ∀ m, s.happening = .move m → s.before.winding? m = none
  · obtain ⟨hheld, hflush, htasks⟩ := Traffic.holds_happen he hm
    refine ⟨?_, fun i stage hi => halone i stage (htasks i stage hi)⟩
    by_cases hk : ∃ stage, s.after.tasks.waiting? k = some (.disable stage)
    · obtain ⟨stage, hk⟩ := hk
      have hbefore := htasks k stage hk
      cases h with
      | joining j hj hslot hheld' hflush' hstopped =>
        obtain rfl := Activity.disable.inj (Option.some.inj (hbefore.symm.trans hj))
        exact .joining j hk hslot (hheld.trans hheld') (hflush.trans hflush')
          (hstopped.concat htells)
      | flushing hj mid told post hes htold =>
        obtain rfl := Activity.disable.inj (Option.some.inj (hbefore.symm.trans hj))
        exact .flushing hk mid told (post ++ [s]) (by simp [hes]) htold
      | past hpast => exact absurd hbefore (hpast stage)
    · exact .past fun stage hstage => hk ⟨stage, hstage⟩
  · simp only [not_forall] at hm
    obtain ⟨m, hmove, hm⟩ := hm
    obtain ⟨stage?, hstage⟩ := Option.ne_none_iff_exists'.mp hm
    rcases Traffic.winding?_eq_some hstage with ⟨rfl, -⟩ | ⟨i, d, stage, rfl, hi, rfl⟩
    · rw [hmove] at hcall
      cases hcall
    obtain rfl := halone i stage hi
    rw [hmove] at he
    obtain ⟨t, ht, hes, hy⟩ := Traffic.exists_step he
    have hplace : t.state.tasks.waiting? i = t.result.stage? := Traffic.waiting?_place ht
    obtain ⟨o, stage?', hwinds, hresult, hheld, hflush⟩ := Traffic.windsUp_step ht hstage
    rw [hresult] at hplace
    rw [← hy] at hplace hheld hflush
    refine ⟨?_, fun j stage' hj => ?_⟩
    · cases h with
      | joining j hj hslot hheld' hflush' hstopped =>
        obtain rfl := Activity.disable.inj (Option.some.inj (hi.symm.trans hj))
        cases hwinds with
        | tell _ _ _ _ hclosed =>
          refine .flushing hplace es s [] rfl
            ⟨⟨hflush', hflush⟩, fun hs => exists_event (hes ▸ hclosed hs),
              fun j' hj' => ?_, hstopped⟩
          obtain rfl := Option.some.inj (hslot.symm.trans hj')
          simpa [Scene.isLate, hmove, hi, disableIsDue] using hlate
        | leave _ h =>
          rcases h with h | h
          · cases h
          · exact absurd hheld' (Bool.eq_false_iff.mp h)
      | flushing hj mid told post hes htold =>
        obtain rfl := Activity.disable.inj (Option.some.inj (hi.symm.trans hj))
        cases hwinds with
        | tell _ hstage => exact absurd rfl hstage
        | leave => exact .past fun stage' h => by simp [hplace] at h
      | past hpast => exact absurd hi (hpast stage)
    · rw [hy] at hj
      rcases Traffic.disable_of_step ht hj with ⟨h, -, -⟩ | ⟨-, hj⟩
      · exact h
      · exact halone j stage' hj

theorem Happening.eq_of_disables {e : Happening} (h : e.disables) : e = .move (.call .disable) := by
  unfold disables at h
  split at h
  · rfl
  · cases h

theorem Scene.eq_of_returns {k : Nat} {s : Scene} (h : s.returns k) :
    ∃ d stage, s.happening = .move (.resume k d) ∧
      s.before.tasks.waiting? k = some (.disable stage) ∧ s.after.tasks.waiting? k = none := by
  unfold returns at h
  split at h
  · rename_i j d stage hmove hk
    simp only [Bool.and_eq_true, decide_eq_true_eq] at h
    obtain ⟨rfl, hnone⟩ := h
    exact ⟨d, stage, hmove, hk, hnone⟩
  · cases h

section Story

variable {before during : List Scene} {call last : Scene} {x : Traffic}

/-- A call that disables the agent while no other one does: the scene with which it begins, what
happens then, and the scene with which it returns. -/
structure Disabling (call : Scene) (during : List Scene) (last : Scene) : Prop where
  /-- The call begins. -/
  calls : call.happening.disables
  /-- No call has waited for the end of the listener before. -/
  held : call.before.agent.holdsListener
  /-- No other call is in progress. -/
  free : call.before.isDisabling = false
  /-- No other call begins. -/
  alone : ∀ s ∈ during, s.happening.disables = false
  /-- The heartbeat loop and the listener end in time. -/
  inTime : ∀ s ∈ during ++ [last], s.isLate call.before.tasks.length = false
  /-- The call returns. -/
  returns : last.returns call.before.tasks.length

instance : Decidable (Disabling call during last) :=
  decidable_of_iff (call.happening.disables ∧ call.before.agent.holdsListener ∧
    call.before.isDisabling = false ∧ (∀ s ∈ during, s.happening.disables = false) ∧
    (∀ s ∈ during ++ [last], s.isLate call.before.tasks.length = false) ∧
    last.returns call.before.tasks.length)
    ⟨fun h => ⟨h.1, h.2.1, h.2.2.1, h.2.2.2.1, h.2.2.2.2.1, h.2.2.2.2.2⟩,
      fun h => ⟨h.calls, h.held, h.free, h.alone, h.inTime, h.returns⟩⟩

/-- What the subscribers are done with at the end `h` of such a call, and the events that are among
this. -/
structure Flushed (before mid : List Scene) (call told : Scene) (h : List Scene) (seats : Nat) :
    Prop where
  /-- The listener was told to end in the scene `told`. -/
  tells : told.before.agent.isFlushing = false ∧ told.after.agent.isFlushing
  /-- Every subscriber has processed what was published by then, once and in its order. -/
  processed : ∀ i < seats, published (before ++ mid ++ [told]) <+: finished i h
  /-- That the calls are to end. -/
  requested : ∃ n ∈ published (before ++ mid ++ [told]), n.event.kind = .shutdownRequested
  /-- The end of the present heartbeat loop, if it had not ended before. -/
  stopped : ∀ j, call.before.agent.scheduler.slot = some j →
    call.before.agent.scheduler.hasEnded j = false →
    ∃ s ∈ mid, ∃ n ∈ s.published, n.event.kind = .schedulerStopped
  /-- The end of the session, if it was not closed. -/
  closed : told.before.agent.session.state ≠ .closed →
    ∃ n ∈ told.published, n.event.kind = .sessionClosed

theorem Story.underway (hx : Story (before ++ call :: during) x) (hcall : call.happening.disables)
    (huntold : call.before.Untold) (halone : ∀ s ∈ during, s.happening.disables = false)
    (hlate : ∀ s ∈ during, s.isLate call.before.tasks.length = false) :
    Underway call call.before.tasks.length (call :: during) x ∧
      Alone call.before.tasks.length x ∧ call.after.agent.isStopping := by
  induction during using List.reverseRecOn generalizing x with
  | nil =>
    obtain ⟨hbefore, he, rfl⟩ := hx.of_concat
    exact underway_of_call huntold (Happening.eq_of_disables hcall) he (hbefore.tells he)
  | append_singleton during s ih =>
    rw [← List.cons_append, ← List.append_assoc] at hx
    obtain ⟨hbefore, he, rfl⟩ := hx.of_concat
    obtain ⟨hunder, hone, hstop⟩ := ih hbefore
      (fun s' hs' => halone s' (List.mem_append_left _ hs'))
      (fun s' hs' => hlate s' (List.mem_append_left _ hs'))
    obtain ⟨hunder, hone⟩ := hunder.happen hone he (hbefore.tells he) (halone s (by simp))
      (hlate s (by simp))
    exact ⟨hunder, hone, hstop⟩

/-- The call returns only after it has told the listener to end. -/
theorem Underway.told_of_returns {k : Nat} {es : List Scene} (h : Underway call k es last.before)
    (he : last.before.happen? last.happening = some (last.published, last.after))
    (hreturns : last.returns k) :
    last.before.tasks.waiting? k = some (.disable .flushing) ∧
      ∃ mid told post, es = mid ++ told :: post ∧ Telling call mid told := by
  obtain ⟨d, stage, hmove, hk, hnone⟩ := Scene.eq_of_returns hreturns
  cases h with
  | joining j hj hslot hheld =>
    -- the call goes on with waiting for the listener
    rw [hmove] at he
    obtain ⟨t, ht, -, hy⟩ := Traffic.exists_step he
    have hplace : t.state.tasks.waiting? k = t.result.stage? := Traffic.waiting?_place ht
    have hwinding : last.before.winding? (.resume k d) = some (some (.joining j)) := by
      simp [Traffic.winding?, hj]
    obtain ⟨o, stage?', hwinds, hresult, -⟩ := Traffic.windsUp_step ht hwinding
    rw [hresult, ← hy, hnone] at hplace
    cases hwinds with
    | tell => cases hplace
    | leave _ h =>
      rcases h with h | h
      · cases h
      · exact absurd hheld (Bool.eq_false_iff.mp h)
  | flushing hj mid told post hes htold => exact ⟨hj, mid, told, post, hes, htold⟩
  | past hpast => exact absurd hk (hpast stage)

/-- Whatever was published before the listener was told to end came before a moment at which it had
been told. -/
theorem Story.prefix_of_isFlushing {p q h₁ h₂ : List Scene} {told s : Scene}
    (hx : Story (p ++ told :: q) x) (htold : told.before.agent.isFlushing = false)
    (hsplit : p ++ told :: q = h₁ ++ s :: h₂) (hs : s.before.agent.isFlushing) :
    p ++ [told] <+: h₁ := by
  have hp : p ++ [told] <+: p ++ told :: q := ⟨q, by simp⟩
  have hh₁ : h₁ <+: p ++ told :: q := ⟨s :: h₂, hsplit.symm⟩
  rcases List.prefix_or_prefix_of_prefix hp hh₁ with h | h
  · exact h
  rcases List.prefix_concat_iff.mp h with rfl | ⟨r, rfl⟩
  · exact List.prefix_rfl
  refine absurd ?_ (Bool.eq_false_iff.mp htold)
  rw [List.append_assoc] at hsplit
  cases r with
  | nil =>
    obtain rfl : told = s := (List.cons.inj (List.append_cancel_left hsplit)).1
    exact hs
  | cons r rs =>
    obtain rfl : r = s := (List.cons.inj (List.append_cancel_left hsplit)).1
    exact hx.of_append.1.isFlushing_of_mem (by simp) hs

theorem Attends.listener?_of_other {v v' : Audience} {es : List Notice}
    (hd : Attends v .other es v') :
    v'.listener? = v.listener? := by
  cases hd <;> rfl

/-- When a call that disables the agent returns, every subscriber is done with all events that were
published before the listener was told to end, and those of the shutdown are among them. -/
theorem flushed_of_disabling (hx : Story (before ++ call :: (during ++ [last])) x)
    (hd : Disabling call during last)
    (hl : Lossless (before ++ call :: (during ++ [last]))) :
    ∃ mid told post, call :: during = mid ++ told :: post ∧
      Flushed before mid call told (before ++ call :: (during ++ [last])) x.seats := by
  have hlast : Story ((before ++ call :: during) ++ [last]) x := by simpa using hx
  obtain ⟨hbefore, he, rfl⟩ := hlast.of_concat
  have huntold : call.before.Untold :=
    { held := hd.held
      following := hbefore.of_append.1.following hd.held
      free := Traffic.free_of_isDisabling hd.free }
  obtain ⟨hunder, hone, hstop⟩ := hbefore.underway hd.calls huntold hd.alone
    fun s hs => hd.inTime s (List.mem_append_left _ hs)
  obtain ⟨hflushing, mid, told, post, hes, htold⟩ := hunder.told_of_returns he hd.returns
  obtain ⟨d, stage, hmove, -, -⟩ := Scene.eq_of_returns hd.returns
  have hended : last.before.agent.listenerEnded := by
    have hlate := hd.inTime last (by simp)
    simpa [Scene.isLate, hmove, hflushing, disableIsDue] using hlate
  have hgone : last.after.audience.listener? = none := by
    have hattends := (hbefore.seated.attends_happen he).1
    have hother : last.deed = .other := by simp [Scene.deed, hmove, Traffic.deed, hflushing]
    change Attends _ last.deed _ _ at hattends
    rw [hother] at hattends
    exact hattends.listener?_of_other.trans (hbefore.orderly.known hended)
  obtain ⟨h₁, s, h₂, hsplit, hs, hfinished⟩ := hx.finished_of_ended hgone hl
  have hwhole : before ++ call :: (during ++ [last]) =
      before ++ mid ++ told :: (post ++ [last]) := by
    rw [← List.cons_append, hes]
    simp
  rw [hwhole] at hx hsplit
  obtain ⟨hmid, htells⟩ := hx.of_append
  have hmem : call ∈ before ++ mid ++ [told] := by
    cases mid with
    | nil => simp [(List.cons.inj hes).1]
    | cons s mid => simp [(List.cons.inj hes).1]
  refine ⟨mid, told, post, hes, htold.tells, fun i hi => ?_, ?_, fun j hslot hnot => ?_,
    htold.closed⟩
  · obtain ⟨r, rfl⟩ := hx.prefix_of_isFlushing htold.tells.1 hsplit hs
    rw [hfinished i hi, published_append _ r]
    exact List.prefix_append _ _
  · exact (hmid.snoc htells).requested ((hmid.snoc htells).isStopping_of_mem hmem hstop)
  · rcases htold.stopped j (htold.joined j hslot) with hended | hstopped
    · exact absurd hended (Bool.eq_false_iff.mp hnot)
    · exact hstopped

end Story

/-! ### Two subscribers -/

instance (h : List Scene) : Decidable (Lossless h) :=
  decidable_of_iff ((∀ r ∈ receipts h, r.isLagged = false) ∧
    (∀ s ∈ h, s.deed.offered?.isSome → ∀ m ∈ s.before.agent.fanout.boxes, m.refusal? = none) ∧
    ∀ s ∈ h, s.deed.fails (fun _ => true) = false)
    ⟨fun h => ⟨h.1, h.2.1, h.2.2⟩, fun h => ⟨h.keepsUp, h.room, h.fine⟩⟩

/-- Whether the rest of the scenes, after some of them, is a call that disables the agent, and
nothing is lost. -/
private def isShutdown (k : Nat) (h : List Scene) : Bool :=
  match h.drop k with
  | call :: rest =>
    rest.getLast?.any fun last => Disabling call rest.dropLast last && Lossless h
  | [] => false

private theorem exists_of_isShutdown {k : Nat} {h : List Scene} (hp : isShutdown k h) :
    ∃ before call during last, h = before ++ call :: (during ++ [last]) ∧
      Disabling call during last ∧ Lossless h := by
  unfold isShutdown at hp
  split at hp
  · rename_i call rest hdrop
    obtain ⟨last, hlast, hp⟩ := (Option.any_eq_true _ _).mp hp
    simp only [Bool.and_eq_true, decide_eq_true_eq] at hp
    refine ⟨h.take k, call, rest.dropLast, last, ?_, hp⟩
    rw [List.dropLast_append_getLast? last hlast, ← hdrop, List.take_append_drop]
  · cases hp

/-- Two subscribers that never fail. -/
private def pair : List Subscriber :=
  [{ name := "journal", capacity := 16 }, { name := "panel", capacity := 16 }]

/-- Their agent. -/
private def crew : Agent :=
  match Agent.make {} "http://127.0.0.1:12892" (.named "lobby-1") pair with
  | .ok a => a
  | .error _ => default

private theorem make_crew : Agent.make {} "http://127.0.0.1:12892" (.named "lobby-1") pair =
    .ok crew := rfl

/-- The agent is loaded, the host publishes an event, and disables the agent. The loop ends, the
session is closed, and the listener and the workers come to their ends. -/
private def sunset : List Happening :=
  let go (k : Nat) : Happening := .move (.resume k { Traffic.accepted with elapsed := true })
  [.move (.call .load), go 3, go 3, .publish ⟨7, .of .heartbeatAcked⟩, .move (.call .disable),
    go 4, go 4, go 5] ++ List.replicate 9 (go 2) ++ List.replicate 15 (go 0) ++
    List.replicate 15 (go 1) ++ [go 2, go 2, go 2, go 5]

/-- Two subscribers have processed all seven events when the call returns, the last three of them
those of the shutdown. -/
theorem flushed_of_crew : ∃ before call during last x,
    Story (before ++ call :: (during ++ [last])) x ∧
    (Disabling call during last ∧ Lossless (before ++ call :: (during ++ [last])) ∧ x.seats = 2 ∧
      ((finished 1 (before ++ call :: (during ++ [last]))).map (·.event.kind)).drop 4 =
        [.shutdownRequested, .schedulerStopped, .sessionClosed]) ∧
    ∃ mid told post, call :: during = mid ++ told :: post ∧
      Flushed before mid call told (before ++ call :: (during ++ [last])) x.seats := by
  obtain ⟨h, x, hx, hp⟩ := exists_story make_crew sunset
    (fun h x => isShutdown 4 h && (x.seats = 2 ∧ ((finished 1 h).map (·.event.kind)).drop 4 =
      [.shutdownRequested, .schedulerStopped, .sessionClosed]))
    (by decide +kernel)
  simp only [Bool.and_eq_true, decide_eq_true_eq] at hp
  obtain ⟨hshutdown, hseats, hkinds⟩ := hp
  obtain ⟨before, call, during, last, rfl, hd, hl⟩ := exists_of_isShutdown hshutdown
  exact ⟨before, call, during, last, x, hx, ⟨hd, hl, hseats, hkinds⟩, flushed_of_disabling hx hd hl⟩

end FleetAgent.Agent
