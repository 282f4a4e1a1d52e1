import FleetAgent.Proofs.Agent.Watching
import FleetAgent.Proofs.Bus.Log
import FleetAgent.Proofs.Scheduler.Senders
import FleetAgent.Proofs.Session.History

/-!
# The outlet of an agent

The *outlet* of an agent is what its listener and the workers of its subscribers go by: the bus, the
queues, and how far the listener is told to go on. The calls and the heartbeat loops publish events,
and disabling tells the listener to end; otherwise they leave the outlet as it is. With these events
they tell that all calls are to end, and of the end of each heartbeat loop. Before it tells the
listener to end, disabling closes the session, and tells of that too.

## Main definitions

* `Agent.Outlet`, `Agent.outlet`: the outlet.
* `Agent.Outlet.flushed`: the outlet after the listener is told to end.
* `Agent.Tells`, `Agent.Leaves`: what a section tells of, and that it leaves the outlet as it is.
* `Agent.WindsUp`: what a section of disabling may do to the outlet.

## Main results

* `Agent.tells_begin`, `Agent.tells_resume`: what every section tells of.
* `Agent.leaves_begin`, `Agent.leaves_resume`: most sections leave the outlet as it is.
* `Agent.windsUp_begin`, `Agent.windsUp_resume`: what the sections of disabling do to it.
-/

namespace FleetAgent

namespace Scheduler

variable {s : Scheduler} {k j : Nat}

/-- Which loops have ended after a change of one that does not end with it. -/
theorem hasEnded_of_modifyLoop {f : Loop → Loop}
    (hf : ∀ l, s.loops[k]? = some l → (f l).hasEnded → l.hasEnded)
    (h : (s.modifyLoop k f).hasEnded j) : s.hasEnded j := by
  by_cases hj : k = j
  · subst hj
    cases hl : s.loops[k]? with
    | none => simp [hasEnded, hl]
    | some l =>
      simp only [hasEnded, hl, Option.map_some, Option.getD_some]
      exact hf l hl (by simpa [hasEnded, modifyLoop, hl] using h)
  · simpa [hasEnded, modifyLoop, hj] using h

/-- The end of a loop outside its heartbeats is told of. -/
theorem hasEnded_of_advance {now : Instant} (h : (s.advance k now).state.hasEnded j) :
    s.hasEnded j ∨ ∃ e ∈ (s.advance k now).published, e.kind = .schedulerStopped := by
  unfold advance at h ⊢
  split at h <;> rename_i hl
  · exact .inl h
  · split at h <;> rename_i hphase
    · split_ifs at h with hprevious
      · exact .inl (hasEnded_of_modifyLoop (fun _ _ h => by cases h) h)
      · exact .inl h
    · split_ifs at h ⊢ with hcancelled hdue
      · exact .inr ⟨_, List.mem_cons_self, rfl⟩
      · exact .inl (hasEnded_of_modifyLoop (s := s) (fun _ _ h => by cases h) h)
      · exact .inl h
    · exact .inl h
    · exact .inl h

/-- So is the end of a loop after a heartbeat. -/
theorem hasEnded_of_finishBeat {q : NoticeQueue} {outcome : Except SessionError BeatOutcome}
    (h : (s.finishBeat q k outcome).state.1.hasEnded j) :
    s.hasEnded j ∨ ∃ e ∈ (s.finishBeat q k outcome).published, e.kind = .schedulerStopped := by
  have hterminate (s' : Scheduler) (t : Termination) :
      ∃ e ∈ (s'.terminate q k t).published, e.kind = .schedulerStopped := by
    cases t <;> exact ⟨_, List.mem_filterMap.mpr
      ⟨_, List.mem_append_right _ (List.mem_cons_of_mem _ List.mem_cons_self), rfl⟩, rfl⟩
  rcases outcome with e | ⟨sequence, _ | _⟩ | _
  · exact .inr (hterminate _ _)
  · refine .inl (hasEnded_of_modifyLoop (s := { s with inFlight := false }) (fun l _ hl => ?_) h)
    split at hl
    · cases hl
    · exact hl
  · exact .inr (hterminate _ _)
  · refine .inl (hasEnded_of_modifyLoop (s := { s with inFlight := false }) (fun l _ hl => ?_) h)
    split at hl
    · cases hl
    · exact hl

end Scheduler

namespace Agent

/-- What the listener and the workers go by. -/
structure Outlet where
  /-- The event bus. -/
  bus : Bus Notice
  /-- The number of events created. -/
  created : Nat
  /-- The queues of the subscribers. -/
  fanout : Fanout
  /-- Whether nobody has waited for the end of the listener yet. -/
  holdsListener : Bool
  /-- Whether the listener is told to forward what is left and to end. -/
  isFlushing : Bool
  /-- Whether the listener has ended. -/
  listenerEnded : Bool

/-- The outlet of an agent. -/
def outlet (a : Agent) : Outlet :=
  { bus := a.bus
    created := a.created
    fanout := a.fanout
    holdsListener := a.holdsListener
    isFlushing := a.isFlushing
    listenerEnded := a.listenerEnded }

/-- The outlet after the listener is told to end. -/
def Outlet.flushed (o : Outlet) : Outlet := { o with holdsListener := false, isFlushing := true }

theorem outlet_make {config : AgentConfig} {address : String} {host : Host}
    {subscribers : List Subscriber} {a : Agent}
    (ha : Agent.make config address host subscribers = .ok a) :
    a.outlet =
      { bus := (Bus.ofCapacity? config.clampedBusCapacity).getD { retained := 1 }
        created := 0
        fanout := .ofSubscribers subscribers
        holdsListener := true
        isFlushing := false
        listenerEnded := false } := by
  simp only [Agent.make] at ha
  split at ha
  · cases ha
  · obtain rfl := Except.ok.inj ha
    rfl

/-! ### What sections tell -/

section Tells

variable {a b c : Agent} {es es' : List Event} {ρ υ : Type}

/-- What is told of with the events `es`, while the agent `a` becomes `b`: that all calls are to
end, and the end of each heartbeat loop. -/
structure Tells (a b : Agent) (es : List Event) : Prop where
  /-- The heart stays the same. -/
  heart : b.heart = a.heart
  /-- The calls are told to end for good. -/
  stopping : a.isStopping → b.isStopping
  /-- This is told of. -/
  stops : b.isStopping → a.isStopping ∨ ∃ e ∈ es, e.kind = .shutdownRequested
  /-- So is the end of a loop. -/
  ends : ∀ k, b.scheduler.hasEnded k →
    a.scheduler.hasEnded k ∨ ∃ e ∈ es, e.kind = .schedulerStopped

/-- The same, and the outlet stays as it is. -/
structure Leaves (a b : Agent) (es : List Event) : Prop extends Tells a b es where
  outlet : b.outlet = a.outlet

/-- The same of a section. -/
abbrev LeavesIn (a : Agent) (t : Turn Agent ρ) : Prop := Leaves a t.state t.published

theorem Tells.of_keepsPhases (hheart : b.heart = a.heart) (hstopping : b.isStopping = a.isStopping)
    (hphases : a.scheduler.KeepsPhases b.scheduler) : Tells a b es where
  heart := hheart
  stopping h := hstopping.trans h
  stops h := .inl (hstopping.symm.trans h)
  ends _ h := .inl (hphases.hasEnded_of h)

theorem or_exists_append {p : Prop} {kind : EventKind} (h : p ∨ ∃ e ∈ es, e.kind = kind)
    (es' : List Event) : p ∨ ∃ e ∈ es ++ es', e.kind = kind := by
  rcases h with h | ⟨e, he, hkind⟩
  · exact .inl h
  · exact .inr ⟨e, List.mem_append_left _ he, hkind⟩

theorem Tells.trans (h : Tells a b es) (h' : Tells b c es') : Tells a c (es ++ es') where
  heart := h'.heart.trans h.heart
  stopping := h'.stopping ∘ h.stopping
  stops hc := by
    rcases h'.stops hc with hb | ⟨e, he, hkind⟩
    · exact or_exists_append (h.stops hb) es'
    · exact .inr ⟨e, List.mem_append_right _ he, hkind⟩
  ends k hc := by
    rcases h'.ends k hc with hb | ⟨e, he, hkind⟩
    · exact or_exists_append (h.ends k hb) es'
    · exact .inr ⟨e, List.mem_append_right _ he, hkind⟩

theorem Leaves.of_keepsPhases (houtlet : b.outlet = a.outlet) (hheart : b.heart = a.heart)
    (hstopping : b.isStopping = a.isStopping) (hphases : a.scheduler.KeepsPhases b.scheduler) :
    Leaves a b es where
  toTells := .of_keepsPhases hheart hstopping hphases
  outlet := houtlet

theorem Leaves.refl (a : Agent) (es : List Event) : Leaves a a es :=
  .of_keepsPhases rfl rfl rfl (.refl _)

theorem Leaves.trans (h : Leaves a b es) (h' : Leaves b c es') : Leaves a c (es ++ es') where
  toTells := h.toTells.trans h'.toTells
  outlet := h'.outlet.trans h.outlet

/-- A section that is followed by another one without a wait. -/
theorem LeavesIn.andThen {t : Turn Agent ρ} {next : ρ → Agent → Turn Agent υ} (h : LeavesIn a t)
    (hnext : ∀ r b, LeavesIn b (next r b)) : LeavesIn a (t.andThen next) := by
  have htrans := h.trans (hnext t.result t.state)
  rwa [← Turn.published_andThen] at htrans

theorem Tells.andThen {t : Turn Agent ρ} {next : ρ → Agent → Turn Agent υ}
    (h : Tells a t.state t.published)
    (hnext : ∀ r b, Tells b (next r b).state (next r b).published) :
    Tells a (t.andThen next).state (t.andThen next).published := by
  have htrans := h.trans (hnext t.result t.state)
  rwa [← Turn.published_andThen] at htrans

end Tells

variable {ρ υ : Type} (a : Agent)

theorem leaves_onSession (f : Session → Turn Session ρ) : LeavesIn a (a.onSession f) :=
  .of_keepsPhases rfl rfl rfl (.refl _)

theorem leaves_onCloud (f : Cloud → Turn Cloud ρ) : LeavesIn a (a.onCloud f) :=
  .of_keepsPhases rfl rfl rfl (.refl _)

theorem leaves_start : LeavesIn a (a.onScheduler Scheduler.start) :=
  .of_keepsPhases rfl rfl rfl (Scheduler.keepsPhases_start _)

theorem leaves_stop : LeavesIn a (a.onScheduler Scheduler.stop) :=
  .of_keepsPhases rfl rfl rfl (Scheduler.keepsPhases_stop _)

theorem leaves_beginJoin : LeavesIn a (a.onScheduler Scheduler.beginJoin) :=
  .of_keepsPhases rfl rfl rfl (Scheduler.keepsPhases_beginJoin _)

theorem leaves_requestShutdown : LeavesIn a a.requestShutdown := by
  unfold requestShutdown
  split_ifs with h
  · exact .refl a _
  · exact
      { heart := rfl
        stopping := fun _ => rfl
        stops := fun _ => .inr ⟨.of .shutdownRequested, List.mem_cons_self, rfl⟩
        ends := fun _ => .inl
        outlet := rfl }

/-! ### Loading and enabling -/

theorem leaves_finishLoad (opened : Except SessionError String) :
    LeavesIn a (a.finishLoad opened) := by
  unfold finishLoad
  cases opened with
  | error e => exact .refl a _
  | ok session =>
    cases h : a.registration.setup .own with
    | error e =>
      exact (leaves_onSession a _).andThen fun _ b => leaves_onSession b Session.reset
    | ok registration =>
      have hstart : LeavesIn a ({ a with registration }.onScheduler Scheduler.start) :=
        .of_keepsPhases rfl rfl rfl (Scheduler.keepsPhases_start _)
      exact hstart.andThen fun _ b => .refl b _

theorem leaves_continueLoad {t : Turn Agent (Progress Connect (Except SessionError String))}
    (h : LeavesIn a t) : LeavesIn a (continueLoad t) := by
  refine h.andThen fun progress b => ?_
  cases progress with
  | waiting stage => exact .refl b _
  | done opened => exact leaves_finishLoad b opened

theorem leaves_beginLoad : LeavesIn a a.beginLoad := by
  unfold beginLoad
  split_ifs
  · exact .refl a _
  · exact leaves_continueLoad a (leaves_onSession a _)

theorem leaves_resumeEnable (stage : Enable) (answer : Except ClientError Unit) :
    LeavesIn a (a.resumeEnable stage answer) := by
  refine LeavesIn.andThen (leaves_onCloud a _) fun outcome b => ?_
  cases outcome with
  | error e => exact .refl b _
  | ok u =>
    cases stage with
    | readying => exact .refl b _
    | running =>
      dsimp only
      split_ifs <;> exact .of_keepsPhases rfl rfl rfl (.refl _)

/-! ### Running -/

theorem leaves_onShutdown {κ : Type} (shutdown : Except String Unit) :
    LeavesIn a (a.onShutdown (κ := κ) shutdown) := by
  cases shutdown with
  | error reason => exact .refl a _
  | ok u => exact leaves_requestShutdown a

theorem leaves_beginAttempt (cause : SessionError) (attempt draw : Nat) :
    LeavesIn a (a.beginAttempt cause attempt draw) := by
  unfold beginAttempt
  split <;> exact .refl a _

theorem leaves_repeatReady (cause : SessionError) (attempt : Nat) :
    LeavesIn a (a.repeatReady cause attempt) := by
  unfold repeatReady reportReady
  split_ifs
  · split <;> exact .refl a _
  · exact .refl a _

theorem leaves_repeatReports (cause : SessionError) (attempt : Nat) :
    LeavesIn a (a.repeatReports cause attempt) := by
  unfold repeatReports reportRunning
  split_ifs
  · split
    · exact .refl a _
    · exact LeavesIn.andThen (.refl a _) fun _ b => leaves_repeatReady b cause attempt
    · exact leaves_repeatReady a cause attempt
  · exact .refl a _

theorem leaves_continueConnect (cause : SessionError) (attempt draw : Nat)
    {t : Turn Agent (Progress Connect (Except SessionError String))} (h : LeavesIn a t) :
    LeavesIn a (continueConnect cause attempt draw t) := by
  refine h.andThen fun progress b => ?_
  split
  · exact .refl b _
  · refine LeavesIn.andThen ?_ fun _ b => leaves_repeatReports b cause attempt
    exact LeavesIn.andThen (.refl b _) fun _ b => leaves_start b
  · exact LeavesIn.andThen (.refl b _) fun _ b => leaves_beginAttempt b cause (attempt + 1) draw
  · exact .refl b _

theorem leaves_afterPause (cause : SessionError) (attempt draw : Nat) :
    LeavesIn a (a.afterPause cause attempt draw) := by
  refine LeavesIn.andThen ?_ fun outcome b => ?_
  · split_ifs
    · exact leaves_onSession a _
    · exact .refl a _
  · cases outcome with
    | error e => exact .refl b _
    | ok u => exact leaves_continueConnect b cause attempt draw (leaves_onSession b _)

theorem leaves_resumeReport (cause : SessionError) (attempt : Nat) (call : StatusCall)
    (answer : Except ClientError Unit) : LeavesIn a (a.resumeReport cause attempt call answer) := by
  refine LeavesIn.andThen (leaves_onCloud a _) fun outcome b => ?_
  cases call.report with
  | running =>
    refine LeavesIn.andThen ?_ fun _ b => leaves_repeatReady b cause attempt
    cases outcome <;> exact .refl b _
  | ready | stop => cases outcome <;> exact .refl b _

theorem leaves_resumeRecovery {d : Delivery} {cause : SessionError} {attempt : Nat}
    {stage : Recovery} {t : Turn Agent RunProgress}
    (ht : a.resumeRecovery d cause attempt stage = some t) : LeavesIn a t := by
  cases stage with
  | pausing =>
    simp only [resumeRecovery] at ht
    split_ifs at ht
    obtain rfl := Option.some.inj ht
    exact leaves_afterPause a cause attempt d.draw
  | connecting stage =>
    obtain ⟨answer, -, rfl⟩ := Option.map_eq_some_iff.mp ht
    exact leaves_continueConnect a cause attempt d.draw (.of_keepsPhases rfl rfl rfl (.refl _))
  | running call | readying call =>
    obtain ⟨answer, -, rfl⟩ := Option.map_eq_some_iff.mp ht
    exact leaves_resumeReport a cause attempt call (call.answer answer)

/-- Whatever a call that runs looks for first, it finds something that leaves the outlet as it
is. -/
theorem leaves_lookout {order : List Concern} {shutdown : Option (Except String Unit)}
    {work : Option (Turn Agent RunProgress)} {t : Turn Agent RunProgress}
    (hwork : ∀ u, work = some u → LeavesIn a u) (ht : a.lookout order shutdown work = some t) :
    LeavesIn a t := by
  obtain ⟨concern, -, hc⟩ := List.exists_of_findSome?_eq_some ht
  cases concern with
  | shutdown =>
    obtain ⟨s, -, rfl⟩ := Option.map_eq_some_iff.mp hc
    exact leaves_onShutdown a s
  | stopping =>
    dsimp only at hc
    split_ifs at hc
    obtain rfl := Option.some.inj hc
    exact .refl a _
  | work => exact hwork t hc

theorem leaves_resumeRun {d : Delivery} {stage : Run} {t : Turn Agent RunProgress}
    (ht : a.resumeRun d stage = some t) : LeavesIn a t := by
  cases stage with
  | queued => cases ht
  | watching =>
    refine leaves_lookout a (fun u hu => ?_) ht
    obtain ⟨⟨termination, notices⟩, -, rfl⟩ := Option.map_eq_some_iff.mp hu
    have hpop : Leaves a { a with notices } [] := .of_keepsPhases rfl rfl rfl (.refl _)
    cases termination with
    | requested => exact .of_keepsPhases rfl rfl rfl (.refl _)
    | lost cause => exact hpop.trans (leaves_beginAttempt { a with notices } cause 1 d.draw)
  | recovering cause attempt stage =>
    exact leaves_lookout a (fun u hu => leaves_resumeRecovery a hu) ht

theorem leaves_endRun (ticket : Nat) : LeavesIn a (a.endRun ticket) :=
  .of_keepsPhases rfl rfl rfl (.refl _)

theorem leaves_closeRun (ticket : Nat) {t : Turn Agent RunProgress} (h : LeavesIn a t) :
    LeavesIn a (closeRun ticket t) := by
  refine h.andThen fun progress b => ?_
  cases progress with
  | waiting stage => exact .refl b _
  | done result => exact leaves_endRun b ticket

/-! ### Heartbeat loops -/

theorem leaves_advance (k : Nat) (now : Instant) :
    LeavesIn a (a.onScheduler fun s => s.advance k now) where
  heart := rfl
  stopping := id
  stops := .inl
  ends _ := Scheduler.hasEnded_of_advance
  outlet := rfl

theorem leaves_loopAfterBeat (k : Nat) (outcome : Except SessionError BeatOutcome) :
    LeavesIn a (a.loopAfterBeat k outcome) where
  heart := rfl
  stopping := id
  stops := .inl
  ends _ := Scheduler.hasEnded_of_finishBeat
  outlet := rfl

theorem leaves_advanceLoop {k : Nat} {now : Instant} {t : ActivityTurn}
    (ht : a.advanceLoop k now = some t) : LeavesIn a t := by
  have hadvance := leaves_advance a k now
  unfold advanceLoop at ht
  dsimp only at ht
  split at ht
  · cases ht
  · obtain rfl := Option.some.inj ht
    exact hadvance
  · obtain rfl := Option.some.inj ht
    exact hadvance
  · split at ht
    · obtain rfl := Option.some.inj ht
      exact hadvance
    · obtain rfl := Option.some.inj ht
      refine hadvance.andThen fun _ b => (leaves_onSession b _).andThen fun progress b => ?_
      cases progress with
      | waiting beat => exact .refl b _
      | done outcome => exact leaves_loopAfterBeat b k outcome

/-! ### Disabling -/

/-- What a section of disabling does to the outlet, given the stage at which it has waited, and the
stage to which it comes: it tells the listener to end, unless somebody has done so. The session is
closed by then, which is told of with the events `es`. -/
inductive WindsUp (a : Agent) (es : List Event) : Option Disable → Outlet → Option Disable → Prop
  | wait (k : Nat) (hk : a.scheduler.slot = some k) :
      WindsUp a es none a.outlet (some (.joining k))
  | tell (stage? : Option Disable) (hstage : stage? ≠ some .flushing)
      (hslot : stage? = none → a.scheduler.slot = none) (hheld : a.holdsListener)
      (hclosed : a.session.state ≠ .closed → ∃ e ∈ es, e.kind = .sessionClosed) :
      WindsUp a es stage? a.outlet.flushed (some .flushing)
  | leave (stage? : Option Disable) (h : stage? = some .flushing ∨ a.holdsListener = false) :
      WindsUp a es stage? a.outlet none

/-- Disabling changes only what the listener is told. -/
theorem WindsUp.eq_with {o : Outlet} {es : List Event} {stage? stage?' : Option Disable}
    (h : WindsUp a es stage? o stage?') :
    ∃ isHeld isFlushing : Bool, (a.isFlushing → isFlushing) ∧
      o = { a.outlet with holdsListener := isHeld, isFlushing } := by
  cases h with
  | wait | leave => exact ⟨_, _, id, rfl⟩
  | tell => exact ⟨false, true, fun _ => rfl, rfl⟩

@[simp]
theorem state_afterGrace (inTime : Bool) (message : String) :
    (a.afterGrace inTime message).state = a := by
  unfold afterGrace
  split_ifs <;> rfl

theorem leaves_afterGrace (inTime : Bool) (message : String) :
    LeavesIn a (a.afterGrace inTime message) := by
  unfold afterGrace
  split_ifs <;> exact .refl a _

theorem tells_afterJoin (inTime : Bool) :
    Tells a (a.afterJoin inTime).state (a.afterJoin inTime).published := by
  refine (leaves_afterGrace a inTime _).toTells.andThen fun _ b => ?_
  refine (leaves_onSession b _).toTells.andThen fun _ b => ?_
  unfold beginFlush
  split_ifs <;> exact .of_keepsPhases rfl rfl (.refl _)

/-- The rest of the first section of disabling, once the heartbeats are stopped. -/
def awaitLoop : Turn Agent (Progress Disable (Except RuntimeError Unit)) :=
  (a.onScheduler Scheduler.beginJoin).andThen fun progress a => match progress with
    | .waiting loop => { state := a, result := .waiting (.joining loop) }
    | .done inTime => a.afterJoin inTime

theorem beginDisable_eq : a.beginDisable = a.requestShutdown.andThen fun _ a =>
    (a.onScheduler Scheduler.stop).andThen fun _ a => a.awaitLoop := rfl

theorem tells_awaitLoop : Tells a a.awaitLoop.state a.awaitLoop.published := by
  refine (leaves_beginJoin a).toTells.andThen fun progress b => ?_
  cases progress with
  | waiting k => exact .of_keepsPhases rfl rfl (.refl _)
  | done inTime => exact tells_afterJoin b inTime

theorem tells_beginDisable : Tells a a.beginDisable.state a.beginDisable.published :=
  (leaves_requestShutdown a).toTells.andThen fun _ b =>
    (leaves_stop b).toTells.andThen fun _ b => tells_awaitLoop b

theorem tells_resumeDisable (stage : Disable) (inTime : Bool) :
    Tells a (a.resumeDisable stage inTime).state (a.resumeDisable stage inTime).published := by
  cases stage with
  | joining k => exact tells_afterJoin a inTime
  | flushing => exact (leaves_afterGrace a inTime _).toTells

/-- The session is closed before the listener is told to end. -/
theorem windsUp_afterJoin {stage? : Option Disable} (hstage : stage? ≠ some .flushing)
    (hslot : stage? = none → a.scheduler.slot = none) (inTime : Bool) :
    WindsUp a (a.afterJoin inTime).published stage? (a.afterJoin inTime).state.outlet
      (a.afterJoin inTime).result.stage? := by
  have hclosed (hs : a.session.state ≠ .closed) :
      ∃ e ∈ (a.afterJoin inTime).published, e.kind = .sessionClosed := by
    refine ⟨{ Event.of .sessionClosed with session := a.session.live.map (·.id) }, ?_, rfl⟩
    rw [afterJoin, Turn.published_andThen, Turn.published_andThen, state_afterGrace]
    refine List.mem_append_right _ (List.mem_append_left _ ?_)
    simp [onSession, Session.disconnect, Session.beginDisconnect, hs, Session.finishDisconnect,
      Turn.published, Effect.published?]
  have hstate : (a.afterJoin inTime).state =
      (a.onSession Session.disconnect).state.beginFlush.state := by
    simp only [afterJoin, Turn.state_andThen, state_afterGrace]
  have hresult : (a.afterJoin inTime).result =
      (a.onSession Session.disconnect).state.beginFlush.result := by
    simp only [afterJoin, Turn.result_andThen, state_afterGrace]
  rw [hstate, hresult]
  unfold beginFlush
  split_ifs with h
  · exact .tell stage? hstage hslot h hclosed
  · exact .leave stage? (.inr (Bool.eq_false_iff.mpr h))

theorem WindsUp.congr {b : Agent} {o : Outlet} {es es' : List Event}
    {stage? stage?' : Option Disable}
    (h : WindsUp b es stage? o stage?') (houtlet : b.outlet = a.outlet)
    (hsession : b.session = a.session) (hslot : b.scheduler.slot = a.scheduler.slot)
    (hes : es ⊆ es') : WindsUp a es' stage? o stage?' := by
  have hheld : b.holdsListener = a.holdsListener := congrArg Outlet.holdsListener houtlet
  cases h with
  | wait k hk =>
    rw [houtlet]
    exact .wait k (hslot.symm.trans hk)
  | tell _ hstage hnone h hclosed =>
    rw [houtlet]
    refine .tell stage? hstage (fun hs => hslot.symm.trans (hnone hs))
      (hheld.symm.trans h) fun hs => ?_
    obtain ⟨e, he, hkind⟩ := hclosed (hsession ▸ hs)
    exact ⟨e, hes he, hkind⟩
  | leave _ h =>
    rw [houtlet]
    exact .leave stage? (h.imp_right hheld.symm.trans)

/-- The present heartbeat loop is waited for if there is one. -/
theorem windsUp_awaitLoop :
    WindsUp a a.awaitLoop.published none a.awaitLoop.state.outlet a.awaitLoop.result.stage? := by
  cases hslot : a.scheduler.slot with
  | none =>
    have hjoin : a.onScheduler Scheduler.beginJoin = { state := a, result := .done true } := by
      rw [onScheduler, Scheduler.beginJoin_of_none hslot]
      rfl
    have hafter : a.awaitLoop = a.afterJoin true := by
      rw [awaitLoop, hjoin]
      rfl
    rw [hafter]
    exact windsUp_afterJoin a (by simp) (fun _ => hslot) true
  | some k =>
    have hjoin := Scheduler.beginJoin_of_some hslot
    simp only [awaitLoop, onScheduler, hjoin]
    exact .wait k hslot

/-- All calls are told to end before. -/
theorem windsUp_beginDisable :
    WindsUp a a.beginDisable.published none a.beginDisable.state.outlet
        a.beginDisable.result.stage? ∧ a.beginDisable.state.isStopping := by
  let b : Agent := { a with isStopping := true, scheduler := a.scheduler.stop.state }
  have hb : (a.requestShutdown.state.onScheduler Scheduler.stop).state = b := by
    rw [state_requestShutdown]
    rfl
  have hstate : a.beginDisable.state = b.awaitLoop.state := by
    simp only [beginDisable_eq, Turn.state_andThen, hb]
  have hresult : a.beginDisable.result = b.awaitLoop.result := by
    simp only [beginDisable_eq, Turn.result_andThen, hb]
  have hpublished : b.awaitLoop.published ⊆ a.beginDisable.published := by
    intro e he
    rw [beginDisable_eq, Turn.published_andThen, Turn.published_andThen, hb]
    exact List.mem_append_right _ (List.mem_append_right _ he)
  rw [hstate, hresult]
  exact ⟨(windsUp_awaitLoop b).congr a rfl rfl (Scheduler.slot_stop _) hpublished,
    (tells_awaitLoop b).stopping rfl⟩

theorem windsUp_resumeDisable (stage : Disable) (inTime : Bool) :
    WindsUp a (a.resumeDisable stage inTime).published (some stage)
      (a.resumeDisable stage inTime).state.outlet (a.resumeDisable stage inTime).result.stage? := by
  cases stage with
  | joining k => exact windsUp_afterJoin a (by simp) (fun h => by cases h) inTime
  | flushing =>
    have hstate : (a.resumeDisable .flushing inTime).state = a := state_afterGrace a inTime _
    rw [hstate]
    exact .leave (some .flushing) (.inl rfl)

/-! ### All sections -/

/-- Whether an activity is one that attends to the outlet. -/
def attends : Activity → Bool
  | .disable _ | .listener _ | .worker _ _ => true
  | _ => false

/-- The first section of a call leaves the outlet as it is, but for disabling. -/
theorem leaves_begin {op : Operation} (hop : op ≠ .disable) : LeavesIn a (a.begin op) := by
  cases op with
  | disable => exact absurd rfl hop
  | load => exact leaves_beginLoad a
  | connect | beat | disconnect | reset => exact leaves_onSession a _
  | start => exact leaves_start a
  | stop => exact leaves_stop a
  | join => exact leaves_beginJoin a
  | client | state | report | interval | enable => exact .refl a _
  | disableAutoReady | run => exact .of_keepsPhases rfl rfl rfl (.refl _)

/-- The later sections of other activities leave the outlet as it is. -/
theorem leaves_resume {d : Delivery} {w : Activity} {t : ActivityTurn} (hw : attends w = false)
    (hown : ∀ k, w ≠ .loop k (some .own)) (ht : a.resume d w = some t) : LeavesIn a t := by
  cases w with
  | disable | listener | worker => cases hw
  | connect | beat | status =>
    obtain ⟨answer, -, rfl⟩ := Option.map_eq_some_iff.mp ht
    exact .of_keepsPhases rfl rfl rfl (.refl _)
  | load stage =>
    obtain ⟨answer, -, rfl⟩ := Option.map_eq_some_iff.mp ht
    exact leaves_continueLoad a (.of_keepsPhases rfl rfl rfl (.refl _))
  | join k grace =>
    simp only [resume] at ht
    split_ifs at ht <;> exact Option.some.inj ht ▸ .refl a _
  | enable stage =>
    obtain ⟨answer, -, rfl⟩ := Option.map_eq_some_iff.mp ht
    exact leaves_resumeEnable a stage (stage.call.answer answer)
  | run ticket stage =>
    cases stage with
    | queued =>
      simp only [resume] at ht
      split_ifs at ht
      exact Option.some.inj ht ▸ .refl a _
    | watching | recovering =>
      obtain ⟨u, hu, rfl⟩ := Option.map_eq_some_iff.mp ht
      exact leaves_closeRun a ticket (leaves_resumeRun a hu)
  | loop k beat =>
    cases beat with
    | none => exact leaves_advanceLoop a ht
    | some beat =>
      cases beat with
      | own => exact absurd rfl (hown k)
      | session beat =>
        obtain ⟨answer, -, rfl⟩ := Option.map_eq_some_iff.mp ht
        exact LeavesIn.andThen (leaves_onSession a _) fun outcome b =>
          leaves_loopAfterBeat b k outcome

/-- So does the end of a loop whose heart breaks down, though it is not told of. -/
theorem outlet_resume {d : Delivery} {w : Activity} {t : ActivityTurn} (hw : attends w = false)
    (ht : a.resume d w = some t) : t.state.outlet = a.outlet := by
  by_cases hown : ∀ k, w ≠ .loop k (some .own)
  · exact (leaves_resume a hw hown ht).outlet
  · simp only [not_forall, ne_eq, not_not] at hown
    obtain ⟨k, rfl⟩ := hown
    obtain ⟨beat, -, rfl⟩ := Option.map_eq_some_iff.mp ht
    cases beat <;> rfl

/-- A call that is given up leaves the outlet as it is. -/
theorem leaves_abandon (w : Activity) : LeavesIn a (a.abandon w) := by
  cases w with
  | run ticket => exact leaves_endRun a ticket
  | connect | beat | status | join | load | enable | disable | loop | listener | worker =>
    exact .refl a _

theorem windsUp_begin : ∃ stage?,
    WindsUp a (a.begin .disable).published none (a.begin .disable).state.outlet stage? ∧
      (a.begin .disable).result.stage? = stage?.map .disable :=
  ⟨_, (windsUp_beginDisable a).1, Progress.stage?_map _ _ _⟩

theorem windsUp_resume {d : Delivery} {stage : Disable} {t : ActivityTurn}
    (ht : a.resume d (.disable stage) = some t) :
    ∃ stage?, WindsUp a t.published (some stage) t.state.outlet stage? ∧
      t.result.stage? = stage?.map .disable := by
  simp only [resume] at ht
  split_ifs at ht with hdue helapsed
  · obtain rfl := Option.some.inj ht
    exact ⟨_, windsUp_resumeDisable a stage true, Progress.stage?_map _ _ _⟩
  · obtain rfl := Option.some.inj ht
    exact ⟨_, windsUp_resumeDisable a stage false, Progress.stage?_map _ _ _⟩

theorem exists_state_forward (l : Listener) (got : Received Notice) :
    ∃ fanout, (a.forward l got).state = { a with fanout } := by
  cases got <;> exact ⟨_, rfl⟩

theorem exists_state_listen {l : Listener} {t : Turn Agent (Progress Listener Unit)}
    (ht : a.listen l = some t) :
    ∃ fanout listenerEnded, t.state = { a with fanout, listenerEnded } := by
  unfold listen at ht
  split at ht
  · split at ht
    · split_ifs at ht
      obtain rfl := Option.some.inj ht
      exact ⟨_, _, rfl⟩
    · split_ifs at ht
      obtain rfl := Option.some.inj ht
      exact ⟨_, _, rfl⟩
    · obtain ⟨fanout, hstate⟩ := exists_state_forward a _ _
      exact ⟨fanout, _, Option.some.inj ht ▸ hstate⟩
  · split at ht
    · obtain rfl := Option.some.inj ht
      exact ⟨_, _, rfl⟩
    · obtain rfl := Option.some.inj ht
      exact ⟨_, _, rfl⟩
    · obtain ⟨fanout, hstate⟩ := exists_state_forward a _ _
      exact ⟨fanout, _, Option.some.inj ht ▸ hstate⟩
  · split_ifs at ht <;> obtain rfl := Option.some.inj ht <;> exact ⟨_, _, rfl⟩

/-- The listener and the workers change the queues and whether the listener has ended, and nothing
else. -/
theorem exists_state_of_attends {d : Delivery} {w : Activity} {t : ActivityTurn} (hw : attends w)
    (hdisable : ∀ stage, w ≠ .disable stage) (ht : a.resume d w = some t) :
    ∃ fanout listenerEnded, t.state = { a with fanout, listenerEnded } := by
  cases w with
  | disable stage => exact absurd rfl (hdisable stage)
  | listener l =>
    obtain ⟨u, hu, rfl⟩ := Option.map_eq_some_iff.mp ht
    exact exists_state_listen a hu
  | worker i stage =>
    cases stage with
    | idle =>
      obtain ⟨p, -, rfl⟩ := Option.map_eq_some_iff.mp ht
      exact ⟨_, _, rfl⟩
    | busy n =>
      simp only [resume] at ht
      split_ifs at ht
      obtain rfl := Option.some.inj ht
      exact ⟨_, _, rfl⟩
  | connect | beat | status | join | load | enable | run | loop => cases hw

theorem tells_begin (op : Operation) : Tells a (a.begin op).state (a.begin op).published := by
  by_cases hop : op = .disable
  · subst hop
    exact tells_beginDisable a
  · exact (leaves_begin a hop).toTells

theorem tells_resume {d : Delivery} {w : Activity} {t : ActivityTurn}
    (hown : ∀ k, w ≠ .loop k (some .own)) (ht : a.resume d w = some t) :
    Tells a t.state t.published := by
  cases hw : attends w with
  | false => exact (leaves_resume a hw hown ht).toTells
  | true =>
    by_cases hdisable : ∀ stage, w ≠ .disable stage
    · obtain ⟨fanout, listenerEnded, hstate⟩ := exists_state_of_attends a hw hdisable ht
      rw [hstate]
      exact .of_keepsPhases rfl rfl (.refl _)
    · simp only [not_forall, ne_eq, not_not] at hdisable
      obtain ⟨stage, rfl⟩ := hdisable
      simp only [resume] at ht
      split_ifs at ht <;> obtain rfl := Option.some.inj ht <;> exact tells_resumeDisable a stage _

/-- Only disabling tells the listener to end. -/
theorem holds_resume {d : Delivery} {w : Activity} {t : ActivityTurn}
    (hdisable : ∀ stage, w ≠ .disable stage) (ht : a.resume d w = some t) :
    t.state.holdsListener = a.holdsListener ∧ t.state.isFlushing = a.isFlushing := by
  cases hw : attends w with
  | false =>
    have houtlet := outlet_resume a hw ht
    exact ⟨congrArg Outlet.holdsListener houtlet, congrArg Outlet.isFlushing houtlet⟩
  | true =>
    obtain ⟨fanout, listenerEnded, hstate⟩ := exists_state_of_attends a hw hdisable ht
    rw [hstate]
    exact ⟨rfl, rfl⟩

/-- The number and the log of the events go on with those that a section publishes. -/
theorem outlet_perform (a : Agent) (es : List Effect) :
    (a.perform es).outlet =
      { a.outlet with
        bus := a.bus.publishAll (Notice.numbered a.created (es.filterMap Effect.published?))
        created := a.created + (es.filterMap Effect.published?).length } := by
  induction es generalizing a with
  | nil => rfl
  | cons e es ih =>
    rw [perform, List.foldl_cons, ← perform, ih]
    cases e with
    | publish e =>
      simp only [Effect.published?, List.filterMap_cons, Notice.numbered, List.length_cons]
      rw [← Nat.add_assoc, Nat.add_right_comm]
      rfl
    | log | handled | signal | spawn => rfl

end Agent

end FleetAgent
