import FleetAgent.Effect

/-!
# Outcomes of sections

How the state, the effects and the result of an outcome go through the ways in which outcomes are
put together, and what the progress of a call that is part of a larger one comes to.
-/

namespace FleetAgent

namespace Turn

variable {σ τ ρ υ : Type} (t : Turn σ ρ)

@[simp]
theorem state_map (f : ρ → υ) : (t.map f).state = t.state := rfl

@[simp]
theorem effects_map (f : ρ → υ) : (t.map f).effects = t.effects := rfl

@[simp]
theorem result_map (f : ρ → υ) : (t.map f).result = f t.result := rfl

@[simp]
theorem state_within (put : σ → τ) : (t.within put).state = put t.state := rfl

@[simp]
theorem effects_within (put : σ → τ) : (t.within put).effects = t.effects := rfl

@[simp]
theorem result_within (put : σ → τ) : (t.within put).result = t.result := rfl

@[simp]
theorem state_andThen (next : ρ → σ → Turn σ υ) :
    (t.andThen next).state = (next t.result t.state).state := rfl

@[simp]
theorem effects_andThen (next : ρ → σ → Turn σ υ) :
    (t.andThen next).effects = t.effects ++ (next t.result t.state).effects := rfl

@[simp]
theorem result_andThen (next : ρ → σ → Turn σ υ) :
    (t.andThen next).result = (next t.result t.state).result := rfl

end Turn

deriving instance DecidableEq for Progress

namespace Progress

variable {κ κ' ρ ρ' : Type}

@[simp]
theorem map_waiting (k : κ) (stage : κ → κ') (result : ρ → ρ') :
    (waiting k).map stage result = waiting (stage k) := rfl

@[simp]
theorem map_done (r : ρ) (stage : κ → κ') (result : ρ → ρ') :
    (done r).map stage result = done (result r) := rfl

@[simp]
theorem stage?_waiting (k : κ) : (waiting k : Progress κ ρ).stage? = some k := rfl

@[simp]
theorem stage?_done (r : ρ) : (done r : Progress κ ρ).stage? = none := rfl

theorem stage?_map (p : Progress κ ρ) (stage : κ → κ') (result : ρ → ρ') :
    (p.map stage result).stage? = p.stage?.map stage := by
  cases p <;> rfl

end Progress

end FleetAgent
