import FleetAgent.Proofs.Session.Answers
import Mathlib.Data.List.Forall2

/-!
# Reasons of failures

A heartbeat can fail in several ways: the controller is not reached, it does not answer in time,
its answer does not fit the request, or it names another number. To the session they are all the
same. If some of the failures in a history are replaced by others, nothing is different but the
reasons in the texts that are told.

## Main definitions

* `Session.SameButReasons`: two sections that differ in the reasons only.
* `Session.Move.Alike`: moves with the same answers, but for failures of heartbeats.

## Main results

* `Session.Traffic.Run.alike`: histories of such moves differ in the reasons only.
-/

namespace FleetAgent

/-- The effect without the reason it gives. -/
def Effect.withoutReason : Effect → Effect
  | .publish e => .publish { e with reason := none }
  | .log r => .log { r with fields := r.fields.filter (·.1 ≠ "reason") }
  | e => e

/-- The outcome without the reason it gives for the loss of a session. -/
def Outcome.withoutReason : Outcome → Outcome
  | .failed (.session (.lost session _)) => .failed (.session (.lost session ""))
  | o => o

/-- The answer to the request is the failure of a heartbeat. -/
def Request.IsFailure : (r : Request) → r.Answer → Prop
  | .heartbeat _ sequence, answer => Session.Sign.of sequence answer = .failed
  | _, _ => False

namespace Session

/-- Two sections that differ in the reasons they give only. -/
structure SameButReasons {σ : Type} (t t' : Turn σ (Progress Call Outcome)) : Prop where
  state_eq : t'.state = t.state
  effects_eq : t'.effects.map Effect.withoutReason = t.effects.map Effect.withoutReason
  result_eq : t'.result.map id Outcome.withoutReason = t.result.map id Outcome.withoutReason

/-- Moves that are the same, but that the failure of a heartbeat may be another. -/
inductive Move.Alike : Move → Move → Prop
  | refl (m : Move) : Alike m m
  | resume (k : Nat) (now : Instant) {reply reply' : (r : Request) → r.Answer}
      (h : ∀ r, reply' r = reply r ∨ r.IsFailure (reply r) ∧ r.IsFailure (reply' r)) :
      Alike (.resume k now reply) (.resume k now reply')

variable {s : Session} {live : Live}

namespace SameButReasons

theorem refl {σ : Type} (t : Turn σ (Progress Call Outcome)) : SameButReasons t t := ⟨rfl, rfl, rfl⟩

/-- The call then waits at the same stage, or has returned. -/
theorem stage?_eq {σ : Type} {t t' : Turn σ (Progress Call Outcome)} (h : SameButReasons t t') :
    t'.result.stage? = t.result.stage? := by
  have hstage := congrArg Progress.stage? h.result_eq
  rwa [Progress.stage?_map, Progress.stage?_map, Option.map_id, id, id] at hstage

end SameButReasons

/-- What comes of a failure depends on its reason in the texts only. -/
theorem sameButReasons_miss (s : Session) (live : Live) (sequence : Nat) (e e' : ClientError) :
    SameButReasons ((s.miss live sequence e).map fun r => .done (.ofBeat r))
      ((s.miss live sequence e').map fun r => .done (.ofBeat r)) := by
  by_cases hf : s.params.loseAfter ≤ live.failures + 1
  · rw [miss_of_le hf, miss_of_le hf]
    constructor <;> rfl
  · simp only [miss, hf, ↓reduceIte]
    constructor
    · rfl
    · simp only [Turn.effects_map]
      split_ifs <;> rfl
    · rfl

/-- What comes of the failure of a heartbeat depends on its reason in the texts only, whichever
session is open. -/
theorem sameButReasons_finishBeat {b : Beat} (now : Instant)
    {answer answer' : Except ClientError HeartbeatReply}
    (h : Sign.of b.sequence answer = .failed) (h' : Sign.of b.sequence answer' = .failed) :
    SameButReasons ((s.finishBeat now b answer).map fun r => .done (.ofBeat r))
      ((s.finishBeat now b answer').map fun r => .done (.ofBeat r)) := by
  by_cases hlate : s.epoch ≠ b.epoch ∨ s.established? = none
  · rw [finishBeat_of_late hlate, finishBeat_of_late hlate]
    exact .refl _
  · obtain ⟨he, hlive⟩ := not_or.mp hlate
    replace he : s.epoch = b.epoch := not_not.mp he
    obtain ⟨live, hlive⟩ := Option.ne_none_iff_exists'.mp hlive
    obtain ⟨hest, hlive⟩ := established?_eq_some_iff.mp hlive
    have hj := judged_finishBeat he hest hlive now answer
    have hj' := judged_finishBeat he hest hlive now answer'
    generalize s.finishBeat now b answer = u at hj ⊢
    generalize s.finishBeat now b answer' = u' at hj' ⊢
    rw [h] at hj
    rw [h'] at hj'
    cases hj with
    | failed e =>
      cases hj' with
      | failed e' => exact sameButReasons_miss s live b.sequence e e'

/-- The next section of a call depends on the kind of a failure in the texts only. -/
theorem sameButReasons_resume {c : Call} (now : Instant) {reply reply' : (r : Request) → r.Answer}
    (h : ∀ r, reply' r = reply r ∨ r.IsFailure (reply r) ∧ r.IsFailure (reply' r)) :
    SameButReasons (s.resume now reply c) (s.resume now reply' c) := by
  cases c with
  | connect stage =>
    have hsame : reply' (stage.request s.host) = reply (stage.request s.host) := by
      refine (h _).resolve_right fun hfail => ?_
      cases stage with
      | dialing | greeting => exact hfail.1
    simp only [resume, hsame]
    exact .refl _
  | beat b =>
    rcases h b.request with hsame | ⟨hfail, hfail'⟩
    · simp only [resume, hsame]
      exact .refl _
    · exact sameButReasons_finishBeat now hfail hfail'
  | disconnect session => exact .refl _

namespace Traffic

variable {x y : Traffic} {m m' : Move} {t : Turn Traffic (Progress Call Outcome)} {h : List Entry}

/-- A section with another failure is possible as well, and differs in the reasons only. -/
theorem sameButReasons_of_step (ht : x.step m = some t) (hm : m.Alike m') :
    ∃ t', x.step m' = some t' ∧ SameButReasons t t' := by
  cases hm with
  | refl => exact ⟨t, ht, .refl t⟩
  | @resume k now reply reply' hr =>
    obtain ⟨u, hu, rfl⟩ := step_eq_some_iff.mp ht
    obtain ⟨c, hc, rfl⟩ := Option.map_eq_some_iff.mp hu
    have hsame := sameButReasons_resume (s := x.session) (c := c) now hr
    refine ⟨_, step_eq_some_iff.mpr ⟨x.session.resume now reply' c, ?_, rfl⟩, ?_⟩
    · simp only [section?, hc, Option.map_some]
    · refine ⟨?_, hsame.effects_eq, hsame.result_eq⟩
      simp only [hsame.state_eq, hsame.stage?_eq]
      rfl

/-- The moves that stand for those of a history with one section more. -/
private theorem exists_of_forall₂_concat {R : Move → Move → Prop} {l ms : List Move}
    (hms : List.Forall₂ R (l ++ [m]) ms) :
    ∃ ms' m', ms = ms' ++ [m'] ∧ List.Forall₂ R l ms' ∧ R m m' := by
  have hrev := List.forall₂_reverse_iff.mpr hms
  rw [List.reverse_append] at hrev
  obtain ⟨m', ms', hm, hms', heq⟩ := List.forall₂_cons_left_iff.mp hrev
  refine ⟨ms'.reverse, m', ?_, ?_, hm⟩
  · rw [← List.reverse_reverse ms, heq, List.reverse_cons]
  · rw [← List.reverse_reverse l]
    exact List.forall₂_reverse_iff.mpr hms'

/-- If failures of heartbeats in a history are replaced by other failures, the history is possible
as well and leads to the same traffic, and its sections differ in the reasons only. -/
theorem Run.alike (hy : Run x h y) {ms : List Move}
    (hms : List.Forall₂ Move.Alike (h.map Entry.move) ms) :
    ∃ h', Run x h' y ∧ h'.map Entry.move = ms ∧
      List.Forall₂ (fun a a' => SameButReasons a.turn a'.turn) h h' := by
  induction hy generalizing ms with
  | nil =>
    rw [List.map_nil, List.forall₂_nil_left_iff] at hms
    exact ⟨[], .nil, hms.symm, .nil⟩
  | @snoc h y m t hy ht ih =>
    rw [List.map_append] at hms
    obtain ⟨ms', m', rfl, hms', hm⟩ := exists_of_forall₂_concat hms
    obtain ⟨h', hy', rfl, hh⟩ := ih hms'
    obtain ⟨t', ht', hsame⟩ := sameButReasons_of_step ht hm
    -- Both sections lead to the same traffic, so that the histories can go on alike.
    refine ⟨h' ++ [⟨y, m', t'⟩], ?_, List.map_append, ?_⟩
    · rw [← hsame.state_eq]
      exact hy'.snoc ht'
    · exact List.rel_append hh (.cons hsame .nil)

end Traffic

end Session

end FleetAgent
