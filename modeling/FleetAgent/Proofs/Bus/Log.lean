import FleetAgent.Bus.Basic
import Mathlib.Tactic.Common

/-!
# The bus as the end of a log

Everything that has been published on a bus, in its order, is the *log* of the bus; the bus holds
the end of it. A receiver reads the log from its cursor on: it gets one item after the other, and is
told how many of them it has lost.

## Main definitions

* `Received.Reads`: what a receiver makes of a log, and what it leaves unread.
* `Bus.Logs`: the bus holds the end of a log.

## Main results

* `Bus.Logs.publish`: an item gets to the end of the log.
* `Bus.Logs.receive_of_lt`, `Bus.Logs.receive_length`, `Bus.Logs.receive_of_le`: the ways in which a
  receive ends.
* `Bus.Logs.reads_receive`: one receive reads the log from the cursor on.
-/

namespace FleetAgent

variable {α : Type}

namespace Received

/-- The item that a receiver gets. -/
def item? : Received α → Option α
  | item a => some a
  | lagged _ | empty | closed => none

/-- Whether the receiver is told of a loss. -/
def isLagged : Received α → Bool
  | lagged _ => true
  | item _ | empty | closed => false

/-- What a receiver gets, one after the other, from a log of which it leaves a rest unread: the
items in their order, but for those that it is told to have lost. -/
inductive Reads : List (Received α) → List α → List α → Prop
  | nil (log : List α) : Reads [] log log
  | item {rs : List (Received α)} {log rest : List α} (a : α) (h : Reads rs log rest) :
      Reads (.item a :: rs) (a :: log) rest
  | lagged {rs : List (Received α)} {log rest : List α} (lost : List α) (hlost : lost ≠ [])
      (h : Reads rs log rest) : Reads (.lagged lost.length :: rs) (lost ++ log) rest
  | empty {rs : List (Received α)} {log rest : List α} (h : Reads rs log rest) :
      Reads (.empty :: rs) log rest

variable {log log' rest : List α} {rs rs' : List (Received α)}

namespace Reads

/-- A receiver goes on where it has stopped. -/
theorem append (h : Reads rs log log') (h' : Reads rs' log' rest) : Reads (rs ++ rs') log rest := by
  induction h with
  | nil => exact h'
  | item a _ ih => exact .item a (ih h')
  | lagged lost hlost _ ih => exact .lagged lost hlost (ih h')
  | empty _ ih => exact .empty (ih h')

/-- What is published later is unread. -/
theorem publish (h : Reads rs log rest) (more : List α) :
    Reads rs (log ++ more) (rest ++ more) := by
  induction h with
  | nil => exact .nil _
  | item a _ ih => exact .item a ih
  | lagged lost hlost _ ih => exact List.append_assoc lost _ more ▸ .lagged lost hlost ih
  | empty _ ih => exact .empty ih

/-- Without a loss the items are the log up to what is unread. -/
theorem items_append (h : Reads rs log rest) (hlost : ∀ r ∈ rs, r.isLagged = false) :
    rs.filterMap item? ++ rest = log := by
  induction h with
  | nil => rfl
  | item a _ ih => simpa [item?] using ih fun r hr => hlost r (List.mem_cons_of_mem _ hr)
  | lagged _ _ _ _ => exact Bool.noConfusion (hlost _ List.mem_cons_self)
  | empty _ ih =>
    rw [List.filterMap_cons_none rfl]
    exact ih fun r hr => hlost r (List.mem_cons_of_mem _ hr)

/-- The items stand in the log, in their order. -/
theorem items_sublist (h : Reads rs log rest) : (rs.filterMap item?).Sublist log := by
  induction h with
  | nil => exact List.nil_sublist _
  | item a _ ih => exact ih.cons_cons a
  | lagged lost _ _ ih => exact ih.trans (List.sublist_append_right lost _)
  | empty _ ih => exact ih

/-- Whatever a receiver gets, if it gets something, is part of the log. -/
theorem countP_le (h : Reads rs log rest) :
    rs.countP (fun r => r.item?.isSome || r.isLagged) ≤ log.length := by
  induction h with
  | nil => exact Nat.zero_le _
  | item a _ ih => simpa [item?] using ih
  | lagged lost hlost _ ih =>
    have hpos := List.length_pos_iff.mpr hlost
    rw [List.countP_cons_of_pos rfl, List.length_append]
    omega
  | empty _ ih => simpa [item?, isLagged] using ih

end Reads

end Received

namespace Bus

variable {b : Bus α} {log : List α} {cursor : Nat}

/-- The bus holds the end of a log. -/
structure Logs (b : Bus α) (log : List α) : Prop where
  sent : b.sent = log.length
  recent : b.recent = log.reverse.take b.retained

/-- Nothing has been published on a new bus. -/
theorem logs_nil (capacity : Nat) :
    ((ofCapacity? capacity : Option (Bus α)).getD { retained := 1 }).Logs [] := by
  unfold ofCapacity?
  dsimp only
  split_ifs <;> exact ⟨rfl, by simp⟩

theorem Logs.publish (h : b.Logs log) (a : α) : (b.publish a).Logs (log ++ [a]) where
  sent := by simp [Bus.publish, h.sent]
  recent := by
    simp only [Bus.publish, h.recent, List.reverse_append, List.reverse_singleton,
      List.singleton_append]
    cases b.retained with
    | zero => rfl
    | succ k =>
      rw [List.take_succ_cons, List.take_succ_cons, List.take_take, Nat.min_eq_left k.le_succ]

/-- The bus after some items were published, one after the other. -/
def publishAll (b : Bus α) (items : List α) : Bus α := items.foldl publish b

theorem Logs.publishAll (h : b.Logs log) (items : List α) :
    (b.publishAll items).Logs (log ++ items) := by
  induction items generalizing b log with
  | nil => rwa [List.append_nil]
  | cons a items ih => simpa [Bus.publishAll] using ih (h.publish a)

/-- Somebody may always publish. -/
theorem fst_receive_ne_closed (b : Bus α) (cursor : Nat) : (b.receive cursor).1 ≠ .closed := by
  simp only [receive]
  split_ifs
  · simp
  · split
    · simp
    · split <;> simp

theorem retained_publishAll (b : Bus α) (items : List α) :
    (b.publishAll items).retained = b.retained := by
  induction items generalizing b with
  | nil => rfl
  | cons a items ih => exact ih (b.publish a)

/-- A receiver loses nothing while the bus retains everything that was published. -/
theorem Logs.isLagged_receive (h : b.Logs log) (hroom : log.length ≤ b.retained) (cursor : Nat) :
    (b.receive cursor).1.isLagged = false := by
  have hbehind : ¬ b.retained < b.unread cursor := by
    simp only [unread, h.sent]
    omega
  simp only [receive, if_neg hbehind]
  split
  · rfl
  · split <;> rfl

/-- A receiver that is too far behind is told how many items it has lost, and moved to the oldest
retained one. -/
theorem Logs.receive_of_lt (h : b.Logs log) (hbehind : b.retained < log.length - cursor) :
    b.receive cursor = (.lagged (log.length - cursor - b.retained), log.length - b.retained) := by
  simp [receive, unread, h.sent, hbehind]

theorem Logs.receive_length (h : b.Logs log) : b.receive log.length = (.empty, log.length) := by
  simp [receive, unread, h.sent]

/-- The next item is among those that are retained. -/
theorem Logs.receive_of_le (h : b.Logs log) (hroom : log.length - cursor ≤ b.retained)
    (hlt : cursor < log.length) : b.receive cursor = (.item log[cursor], cursor + 1) := by
  obtain ⟨k, hk⟩ : ∃ k, log.length - cursor = k + 1 := ⟨log.length - cursor - 1, by omega⟩
  have hrecent : b.recent[k]? = some log[cursor] := by
    rw [h.recent, List.getElem?_take_of_lt (by omega), List.getElem?_reverse (by omega),
      List.getElem?_eq_getElem (by omega)]
    congr 2
    omega
  simp only [receive, unread, h.sent, hk, hrecent]
  exact if_neg (by omega)

/-- One receive reads the log from the cursor on. It finds nothing only at the end of the log. -/
theorem Logs.reads_receive (h : b.Logs log) (hcursor : cursor ≤ log.length) :
    Received.Reads [(b.receive cursor).1] (log.drop cursor) (log.drop (b.receive cursor).2) ∧
      (b.receive cursor).2 ≤ log.length ∧
      ((b.receive cursor).1 = .empty → cursor = log.length) := by
  by_cases hbehind : b.retained < log.length - cursor
  · -- the items between the cursor and what is retained are lost
    have hlost : log.drop cursor = (log.drop cursor).take (log.length - cursor - b.retained) ++
        log.drop (log.length - b.retained) := by
      have hdrop :=
        (List.take_append_drop (log.length - cursor - b.retained) (log.drop cursor)).symm
      rwa [List.drop_drop,
        show cursor + (log.length - cursor - b.retained) = log.length - b.retained
        by omega] at hdrop
    have hlength : ((log.drop cursor).take (log.length - cursor - b.retained)).length =
        log.length - cursor - b.retained := by
      simp
    rw [h.receive_of_lt hbehind]
    refine ⟨?_, Nat.sub_le _ _, by simp⟩
    have hne : (log.drop cursor).take (log.length - cursor - b.retained) ≠ [] :=
      List.ne_nil_of_length_pos (by omega)
    have hreads := Received.Reads.lagged _ hne (.nil (log.drop (log.length - b.retained)))
    rwa [← hlost, hlength] at hreads
  · rcases Nat.eq_or_lt_of_le hcursor with rfl | hlt
    · rw [h.receive_length]
      exact ⟨.empty (.nil _), Nat.le_refl _, fun _ => rfl⟩
    · rw [h.receive_of_le (Nat.le_of_not_lt hbehind) hlt]
      refine ⟨?_, hlt, by simp⟩
      rw [List.drop_eq_getElem_cons hlt]
      exact .item _ (.nil _)

end Bus

end FleetAgent
