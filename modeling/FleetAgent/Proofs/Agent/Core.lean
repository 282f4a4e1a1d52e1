import FleetAgent.Agent.Activity
import FleetAgent.Proofs.Session.Sections
import FleetAgent.Proofs.Scheduler.Sections

/-!
# The core of an agent

What decides about the session of an agent is its *core*: the settings, the session manager, the
scheduler with its termination notices, the registration of its handle, and whether it is told to
shut down. The bus, the queues of the subscribers and the handle of the host follow the core and do
not act on it.

## Main definitions

* `Agent.Core`, `Agent.core`: the core.
* `Effect.spawned`: the heartbeat loops that a section starts as tasks.
-/

namespace FleetAgent

/-- The heartbeat loops that are started as tasks by some effects. -/
def Effect.spawned (effects : List Effect) : List Nat :=
  effects.filterMap fun
    | .spawn k => some k
    | _ => none

namespace Effect

@[simp]
theorem spawned_nil : spawned [] = [] := rfl

@[simp]
theorem spawned_append (es es' : List Effect) : spawned (es ++ es') = spawned es ++ spawned es' :=
  List.filterMap_append

@[simp]
theorem spawned_publish (e : Event) (es : List Effect) : spawned (.publish e :: es) = spawned es :=
  rfl

@[simp]
theorem spawned_log (r : LogRecord) (es : List Effect) : spawned (.log r :: es) = spawned es := rfl

@[simp]
theorem spawned_handled (i : Nat) (n : Notice) (es : List Effect) :
    spawned (.handled i n :: es) = spawned es := rfl

@[simp]
theorem spawned_signal (s : Signal) (es : List Effect) : spawned (.signal s :: es) = spawned es :=
  rfl

@[simp]
theorem spawned_spawn (k : Nat) (es : List Effect) : spawned (.spawn k :: es) = k :: spawned es :=
  rfl

end Effect

namespace Agent

/-- What decides about the session of an agent. -/
structure Core where
  /-- The settings. -/
  config : AgentConfig
  /-- Whose beats the scheduler drives. -/
  heart : Heart
  /-- The session manager. -/
  session : Session
  /-- The heartbeat scheduler. -/
  scheduler : Scheduler
  /-- The termination notices. -/
  notices : NoticeQueue
  /-- The handle in the context of the host. -/
  registration : Registration Handle
  /-- Whether the agent is told to shut down. -/
  isStopping : Bool

/-- The core of an agent. -/
def core (a : Agent) : Core :=
  { config := a.config
    heart := a.heart
    session := a.session
    scheduler := a.scheduler
    notices := a.notices
    registration := a.registration
    isStopping := a.isStopping }

variable (a : Agent)

@[simp]
theorem core_config : a.core.config = a.config := rfl

@[simp]
theorem core_heart : a.core.heart = a.heart := rfl

@[simp]
theorem core_session : a.core.session = a.session := rfl

@[simp]
theorem core_scheduler : a.core.scheduler = a.scheduler := rfl

@[simp]
theorem core_notices : a.core.notices = a.notices := rfl

@[simp]
theorem core_registration : a.core.registration = a.registration := rfl

@[simp]
theorem core_isStopping : a.core.isStopping = a.isStopping := rfl

theorem core_perform (es : List Effect) : (a.perform es).core = a.core := by
  induction es generalizing a with
  | nil => rfl
  | cons e es ih =>
    rw [perform, List.foldl_cons, ← perform, ih]
    cases e <;> rfl

end Agent

/-! ### Sections that start no loop -/

open Effect (spawned)

namespace Session

variable (s : Session)

@[simp]
theorem spawned_disconnect : spawned s.disconnect.effects = [] := by
  by_cases h : s.state = .closed
  · rw [disconnect_of_closed h]
    rfl
  · rw [disconnect_of_ne h]
    rfl

@[simp]
theorem spawned_finishBeat (now : Instant) (b : Beat)
    (answer : Except ClientError HeartbeatReply) :
    spawned (s.finishBeat now b answer).effects = [] := by
  by_cases h : s.epoch = b.epoch ∧ s.state.isEstablished
  · rw [finishBeat_of_current h.1 h.2]
    cases hl : s.live with
    | none =>
      rw [apply_of_none hl]
      rfl
    | some live =>
      have hv := verdict_apply hl now b.sequence answer
      generalize answer.bind (·.checkSequence b.sequence) = checked at hv
      generalize s.apply now b.sequence answer = t at hv ⊢
      cases hv with
      | acked reply =>
        simp only [acknowledge]
        split_ifs <;> cases reply.config <;> rfl
      | missed e ht hf =>
        simp only [miss, Nat.not_le_of_lt hf, ↓reduceIte]
        split_ifs <;> rfl
      | worn | rejected | unrelated => rfl
  · rw [finishBeat_of_stale (not_and_or.mp h)]
    rfl

end Session

namespace Scheduler

variable (s : Scheduler)

@[simp]
theorem spawned_cancelLoop (k : Nat) : spawned (s.cancelLoop k).effects = [] := by
  simp only [cancelLoop]
  split_ifs <;> rfl

@[simp]
theorem spawned_stop : spawned s.stop.effects = [] := by
  cases h : s.slot <;> simp [stop, h]

@[simp]
theorem spawned_advance (k : Nat) (now : Instant) : spawned (s.advance k now).effects = [] := by
  cases hl : s.loops[k]? with
  | none => simp [advance, hl]
  | some l =>
    simp only [advance, hl]
    cases l.phase with
    | queued previous =>
      dsimp only
      split_ifs <;> rfl
    | ticking ticker =>
      dsimp only
      split_ifs <;> rfl
    | beating ticker | ended how => rfl

@[simp]
theorem spawned_terminate (q : NoticeQueue) (k : Nat) (t : Termination) :
    spawned (s.terminate q k t).effects = [] := by
  rcases h : q.offer t with ⟨offer, q'⟩
  cases t <;> cases offer <;> simp [terminate, h]

@[simp]
theorem spawned_finishBeat (q : NoticeQueue) (k : Nat)
    (outcome : Except SessionError BeatOutcome) :
    spawned (s.finishBeat q k outcome).effects = [] := by
  rcases outcome with e | ⟨sequence, _ | _⟩ | _
  · exact spawned_terminate _ q k (.lost e)
  · rfl
  · exact spawned_terminate _ q k .requested
  · rfl

end Scheduler

namespace Fanout

variable (f : Fanout)

theorem spawned_emitFrom (n : Notice) (i : Nat) (boxes : List Mailbox) :
    spawned (emitFrom n i boxes).effects = [] := by
  induction boxes generalizing i with
  | nil => rfl
  | cons m ms ih =>
    simp only [emitFrom, Effect.spawned_append, ih, List.append_nil]
    cases h : m.offer n with
    | ok m' => simp [emitTo, h]
    | error refusal =>
      simp only [emitTo, h]
      split_ifs <;> rfl

@[simp]
theorem spawned_emit (n : Notice) : spawned (f.emit n).effects = [] := spawned_emitFrom n 0 f.boxes

@[simp]
theorem spawned_close : spawned f.close.effects = [] := by
  simp [close, spawned, List.filterMap_map]

@[simp]
theorem spawned_serve (i : Nat) : spawned (f.serve i).effects = [] := by
  cases hm : f.boxes[i]? with
  | none => simp [serve, hm]
  | some m =>
    cases hp : m.pop? with
    | none => cases hf : m.isFed <;> simp [serve, hm, hp, hf, endWorker]
    | some p => simp [serve, hm, hp, spawned, List.filterMap_map]

@[simp]
theorem spawned_finish (i : Nat) (n : Notice) : spawned (f.finish i n).effects = [] := by
  cases hm : f.boxes[i]? with
  | none => simp [finish, hm]
  | some m =>
    cases hp : m.subscriber.failing n.event with
    | none => simp [finish, hm, hp]
    | some failing => cases hk : m.subscriber.keepsName <;> simp [finish, hm, hp, hk, endWorker]

end Fanout

@[simp]
theorem StatusCall.spawned_finish (call : StatusCall) (cloud : Cloud)
    (answer : Except ClientError Unit) : spawned (call.finish cloud answer).effects = [] := by
  cases answer with
  | error e => rfl
  | ok => cases h : call.report <;> simp [finish, h]

end FleetAgent
