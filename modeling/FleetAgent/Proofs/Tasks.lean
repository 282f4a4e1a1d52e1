import Mathlib.Tactic.Common

/-!
# Tasks by their numbers

Tasks go on side by side, and each has a number. A task that waits is kept with the stage at which
it does; of a task that has returned only the place is left, so that numbers do not change.

## Main definitions

* `Tasks`: the tasks, with `Tasks.waiting?` and `Tasks.place`.
* `Tasks.put`: the tasks after a section of one of them, or of a new one.

## Main results

* `Tasks.waiting?_put`, `Tasks.waiting?_put_append`: a section changes the stage of its own task
  only, and may start further tasks.
* `Tasks.countP_put`: how the number of tasks that wait at some kind of stage changes.
-/

namespace FleetAgent

/-- A list with at most one element of some kind has it in one place. -/
theorem eq_of_countP_le_one {α : Type} {l : List α} {p : α → Bool} (h : l.countP p ≤ 1) {i j : Nat}
    {a b : α} (hi : l[i]? = some a) (hj : l[j]? = some b) (ha : p a) (hb : p b) : i = j := by
  have hlt {i j : Nat} {a b : α} (hi : l[i]? = some a) (hj : l[j]? = some b) (ha : p a) (hb : p b) :
      ¬ i < j := fun hij => by
    have hsplit := congrArg (List.countP p) (List.take_append_drop (i + 1) l)
    rw [List.countP_append] at hsplit
    have hfirst : 0 < (l.take (i + 1)).countP p := List.countP_pos_iff.mpr
      ⟨a, List.mem_of_getElem? ((List.getElem?_take_of_lt (Nat.lt_succ_self i)).trans hi), ha⟩
    have hsecond : 0 < (l.drop (i + 1)).countP p := List.countP_pos_iff.mpr
      ⟨b, List.mem_of_getElem? ((List.getElem?_drop (i := i + 1) (j := j - (i + 1))).trans
        (by rwa [Nat.add_sub_cancel' hij])), hb⟩
    omega
  have := hlt hi hj ha hb
  have := hlt hj hi hb ha
  omega

/-- Tasks in the order of their first sections, each with the stage at which it waits, unless it has
returned; the number of a task is its place. -/
abbrev Tasks (κ : Type) : Type := List (Option κ)

namespace Tasks

variable {κ : Type} (ts : Tasks κ)

/-- The stage at which the task of a number waits, unless it has returned. -/
def waiting? (k : Nat) : Option κ := ts[k]?.join

/-- The number of a task that goes on, or of a new one. -/
def place (who : Option Nat) : Nat := who.getD ts.length

/-- The tasks after a section of the task of a number, or of a new one, which now waits at a stage
or has returned. -/
def put (who : Option Nat) (stage : Option κ) : Tasks κ :=
  match who with
  | some k => ts.set k stage
  | none => ts ++ [stage]

variable {ts} {who : Option Nat} {stage : Option κ} {k : Nat}

theorem lt_of_waiting? {c : κ} (h : ts.waiting? k = some c) : k < ts.length := by
  by_contra hk
  simp [waiting?, List.getElem?_eq_none (Nat.le_of_not_lt hk)] at h

theorem waiting?_eq_none_of_le (h : ts.length ≤ k) : ts.waiting? k = none := by
  simp [waiting?, List.getElem?_eq_none h]

theorem waiting?_append (us : Tasks κ) :
    waiting? (ts ++ us) k =
      if k < ts.length then ts.waiting? k else us.waiting? (k - ts.length) := by
  simp only [waiting?, List.getElem?_append]
  split_ifs <;> rfl

/-- After a section its own task waits at the stage that the section came to, and every other task
where it did before. -/
theorem waiting?_put (h : ∀ j, who = some j → j < ts.length) :
    waiting? (ts.put who stage) k = if k = ts.place who then stage else ts.waiting? k := by
  cases who with
  | none =>
    change waiting? (ts ++ [stage]) k = if k = ts.length then stage else ts.waiting? k
    rw [waiting?_append]
    rcases Nat.lt_trichotomy k ts.length with hk | hk | hk
    · rw [if_pos hk, if_neg (Nat.ne_of_lt hk)]
    · rw [if_neg (by omega), if_pos hk, hk, Nat.sub_self]
      rfl
    · rw [if_neg (by omega), if_neg (by omega), waiting?_eq_none_of_le (by simp; omega),
        waiting?_eq_none_of_le (Nat.le_of_lt hk)]
  | some j =>
    have hj := h j rfl
    simp only [put, place, Option.getD_some, waiting?, List.getElem?_set]
    by_cases hkj : j = k
    · simp [hkj, hkj ▸ hj]
    · simp [hkj, Ne.symm hkj]

/-- After a section that starts further tasks, its own task waits at the stage that the section came
to, every other task where it did before, and the further tasks are new ones behind all others. -/
theorem waiting?_put_append (h : ∀ j, who = some j → j < ts.length) (news : List κ) :
    waiting? (ts.put who stage ++ news.map some) k =
      if k < (ts.put who stage).length then if k = ts.place who then stage else ts.waiting? k
      else news[k - (ts.put who stage).length]? := by
  simp only [waiting?_append, waiting?_put h]
  refine if_congr Iff.rfl rfl ?_
  simp only [waiting?, List.getElem?_map]
  cases news[k - (ts.put who stage).length]? <;> rfl

theorem of_waiting?_put_append (h : ∀ j, who = some j → j < ts.length) {news : List κ} {c : κ}
    (hc : waiting? (ts.put who stage ++ news.map some) k = some c) :
    k = ts.place who ∧ stage = some c ∨ k ≠ ts.place who ∧ ts.waiting? k = some c ∨ c ∈ news := by
  rw [waiting?_put_append h] at hc
  split_ifs at hc with hk hown
  · exact .inl ⟨hown, hc⟩
  · exact .inr (.inl ⟨hown, hc⟩)
  · exact .inr (.inr (List.mem_of_getElem? hc))

theorem length_le_put : ts.length ≤ (ts.put who stage).length := by
  cases who <;> simp [put]

theorem place_lt_length_put (h : ∀ j, who = some j → j < ts.length) :
    ts.place who < (ts.put who stage).length := by
  cases who with
  | none => simp [place, put]
  | some j => simpa [place, put] using h j rfl

/-- The number of tasks that wait at some kind of stage is kept, but for the task of the section. -/
theorem countP_put (p : κ → Bool) (h : ∀ j, who = some j → j < ts.length) :
    (ts.put who stage).countP (·.any p) + ((who.bind ts.waiting?).any p).toNat =
      ts.countP (·.any p) + (stage.any p).toNat := by
  cases who with
  | none =>
    simp only [put, List.countP_append, List.countP_singleton, Option.bind_none, Option.any_none,
      Bool.toNat_false]
    cases stage.any p <;> rfl
  | some j =>
    have hj := h j rfl
    have hw : ts.waiting? j = ts[j] := by simp [waiting?, List.getElem?_eq_getElem hj]
    have hpos : ts[j].any p → 0 < ts.countP (·.any p) := fun hp =>
      List.countP_pos_iff.mpr ⟨ts[j], List.getElem_mem hj, hp⟩
    simp only [put, List.countP_set hj, Option.bind_some, hw]
    cases hp : ts[j].any p with
    | false => cases stage.any p <;> simp
    | true =>
      have := hpos hp
      cases stage.any p <;> simp <;> omega

/-- If at most one task waits at some kind of stage, it is the same one. -/
theorem eq_of_waiting? {p : κ → Bool} (h : ts.countP (·.any p) ≤ 1) {j : Nat} {c c' : κ}
    (hk : ts.waiting? k = some c) (hj : ts.waiting? j = some c') (hc : p c) (hc' : p c') : k = j :=
  eq_of_countP_le_one h (Option.join_eq_some_iff.mp hk) (Option.join_eq_some_iff.mp hj) hc hc'

theorem countP_pos_of_waiting? {p : κ → Bool} {c : κ} (hk : ts.waiting? k = some c) (hc : p c) :
    0 < ts.countP (·.any p) :=
  List.countP_pos_iff.mpr ⟨_, List.mem_of_getElem? (Option.join_eq_some_iff.mp hk), hc⟩

end Tasks

end FleetAgent
