import FleetAgent.Proofs.Session.Traffic

/-!
# The history of a session manager

The history of the traffic of a session manager is the list of the sections that have taken place,
in their order, each with the traffic before it and with what it came to. What has been sent, what
was answered and what has been told can be read off a history, so that the present state of the
manager can be compared with it.

## Main definitions

* `Session.Traffic.Entry`: a section that has taken place.
* `Session.Traffic.Run`: the histories that lead from one traffic to another.
* `Session.Traffic.play?`: the history of a list of moves.

## Main results

* `Session.Traffic.opened_of_step`: how a session begins.
-/

namespace FleetAgent

/-- The event that an effect publishes. -/
def Effect.published? : Effect → Option Event
  | .publish e => some e
  | _ => none

/-- The events that a section publishes, in their order. -/
def Turn.published {σ ρ : Type} (t : Turn σ ρ) : List Event := t.effects.filterMap Effect.published?

@[simp]
theorem Turn.published_map {σ ρ υ : Type} (t : Turn σ ρ) (f : ρ → υ) :
    (t.map f).published = t.published := rfl

theorem Turn.published_andThen {σ ρ υ : Type} (t : Turn σ ρ) (next : ρ → σ → Turn σ υ) :
    (t.andThen next).published = t.published ++ (next t.result t.state).published :=
  List.filterMap_append

namespace Session.Traffic

/-- A section that has taken place. -/
structure Entry where
  /-- The traffic before the section. -/
  before : Traffic
  /-- The move that was made. -/
  move : Move
  /-- What the section came to. -/
  turn : Turn Traffic (Progress Call Outcome)

/-- The number of the call whose section it is. -/
def Entry.caller (a : Entry) : Nat := a.before.caller a.move

/-- The call that goes on in the section, if it is not a new one. -/
def Entry.resumed? (a : Entry) : Option Call := a.before.resumed? a.move

/-- The histories that lead from the traffic `x` to another. -/
inductive Run (x : Traffic) : List Entry → Traffic → Prop
  | nil : Run x [] x
  | snoc {h : List Entry} {y : Traffic} {m : Move} {t : Turn Traffic (Progress Call Outcome)}
      (hy : Run x h y) (ht : y.step m = some t) : Run x (h ++ [⟨y, m, t⟩]) t.state

/-- The history of a list of moves, after the history `h`, and the traffic at its end, if all of
the moves are possible. -/
def play? (h : List Entry) (x : Traffic) : List Move → Option (List Entry × Traffic)
  | [] => some (h, x)
  | m :: ms => (x.step m).bind fun t => play? (h ++ [⟨x, m, t⟩]) t.state ms

variable {x y z : Traffic} {m : Move} {t : Turn Traffic (Progress Call Outcome)}
  {h h' : List Entry}

theorem Run.play? (hy : Run x h y) (ms : List Move) (hz : play? h y ms = some (h', z)) :
    Run x h' z := by
  induction ms generalizing h y with
  | nil =>
    obtain ⟨rfl, rfl⟩ := Prod.mk.inj (Option.some.inj hz)
    exact hy
  | cons m ms ih =>
    obtain ⟨t, ht, hz⟩ := Option.bind_eq_some_iff.mp hz
    exact ih (hy.snoc ht) hz

/-- The history of a list of moves that are all possible. -/
theorem Run.get_play? (ms : List Move) (hs : (Traffic.play? [] x ms).isSome) :
    Run x ((Traffic.play? [] x ms).get hs).1 ((Traffic.play? [] x ms).get hs).2 :=
  Run.nil.play? ms (Option.some_get hs).symm

theorem Run.reachable (hy : Run x h y) (hx : Reachable x) : Reachable y := by
  induction hy with
  | nil => exact hx
  | snoc _ ht ih => exact .step ih ht

/-- A session begins when the awaited attempt succeeds, with a record of its own. -/
theorem opened_of_step (ht : x.step m = some t) {id : String}
    (hid : t.result = .done (.opened id)) :
    x.session.state = .connecting ∧
      t.state.session = { x.session with state := .active, live := some { id } } := by
  obtain ⟨u, hu, rfl⟩ := step_eq_some_iff.mp ht
  have hd := deed_of_section? hu
  generalize x.resumed? m = c at hd
  cases hd with
  | opened stage id' he h =>
    obtain rfl := Outcome.opened.inj (Progress.done.inj hid)
    exact ⟨h, rfl⟩
  | @judged k now reply b live r he h hl hv =>
    change Progress.done (Outcome.ofBeat r.result) = .done (.opened id) at hid
    cases hr : r.result <;> simp [hr, Outcome.ofBeat] at hid
  | declined | opening | dialed | refused | sent | idle | closing | closed | reset =>
    simp [declined] at hid

end Session.Traffic

end FleetAgent
