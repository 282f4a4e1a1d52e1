import FleetAgent.Bus.Exchange
import FleetAgent.Proofs.Bus.Log

/-!
# The exchange as an unbounded log

A journal is what an exchange stands for: a log of everything that was published, which is never
overwritten, and one cursor for each receiver. A receiver that has more items unread than there is
room for skips the excess, the oldest of them, and is told how many they are; otherwise it reads the
log item by item.

The exchange retains only the end of the log, in one place for all receivers. Its answers are those
of the journal, whatever the operations are and however they are interleaved.

## Main definitions

* `Journal`, `Journal.step`, `Journal.run`: the log with its cursors, and the operations on it.
* `Exchange.Keeps`: the exchange holds what is needed of a journal.

## Main results

* `Exchange.Keeps.receive`, `Exchange.Keeps.drain`: what receivers get is what the log has for them.
* `Exchange.Keeps.step`, `Exchange.Keeps.run`: the exchange answers as the journal does.
-/

namespace FleetAgent

variable {α : Type}

/-- A log that is kept whole, with its handles and its receivers. -/
structure Journal (α : Type) where
  /-- How many items a receiver may leave unread without a loss. -/
  room : Nat
  /-- All that was published, in its order. -/
  log : List α := []
  /-- For each handle, whether it is still held. -/
  handles : List Bool := [true]
  /-- For each receiver, its cursor while it is not dropped. -/
  cursors : List (Option Nat) := []

namespace Journal

variable (j : Journal α) (receiver handle cursor : Nat)

/-- Whether the handle is held. -/
def holds : Bool := j.handles.getD handle false

/-- What a receiver is told that has read everything. -/
def nothing : Received α := if j.handles.all (!·) then .closed else .empty

/-- The items from a cursor on. -/
def unread : List α := j.log.drop cursor

/-- The number of unread items for which there is no room. -/
def excess : Nat := (j.unread cursor).length - j.room

/-- The journal with a receiver moved to a cursor. -/
def moved : Journal α := { j with cursors := j.cursors.set receiver (some cursor) }

/-- One receive. A receiver that is not there finds nothing. -/
def receive : Received α × Journal α :=
  match j.cursors[receiver]? with
  | some (some cursor) =>
    if 0 < j.excess cursor then
      (.lagged (j.excess cursor), j.moved receiver (cursor + j.excess cursor))
    else match j.unread cursor with
      | [] => (j.nothing, j)
      | a :: _ => (.item a, j.moved receiver (cursor + 1))
  | _ => (.closed, j)

/-- All that is unread, but for the excess, and then nothing. -/
def drain : List (Received α) × Journal α :=
  match j.cursors[receiver]? with
  | some (some cursor) =>
    ((if 0 < j.excess cursor then [.lagged (j.excess cursor)] else []) ++
      ((j.unread cursor).drop (j.excess cursor)).map .item ++ [j.nothing],
      j.moved receiver j.log.length)
  | _ => ([.closed], j)

/-- One operation. -/
def step : Exchange.Step α → Exchange.Answer α × Journal α
  | .subscribe handle =>
    if j.holds handle then
      (.number j.cursors.length, { j with cursors := j.cursors ++ [some j.log.length] })
    else (.done, j)
  | .publish handle items =>
    (.done, if j.holds handle then { j with log := j.log ++ items } else j)
  | .receive receiver => (j.receive receiver).map .received id
  | .drain receiver => (j.drain receiver).map .drained id
  | .clone handle =>
    if j.holds handle then (.number j.handles.length, { j with handles := j.handles ++ [true] })
    else (.done, j)
  | .dropHandle handle => (.done, { j with handles := j.handles.set handle false })
  | .dropReceiver receiver => (.done, { j with cursors := j.cursors.set receiver none })

/-- The answers to operations, one after the other. -/
def run (j : Journal α) : List (Exchange.Step α) → List (Exchange.Answer α)
  | [] => []
  | s :: ss => (j.step s).1 :: (j.step s).2.run ss

/-- The journal after operations. -/
def after (ss : List (Exchange.Step α)) : Journal α := ss.foldl (fun j s => (j.step s).2) j

variable {j} {receiver handle cursor}

theorem moved_moved (cursor' : Nat) : (j.moved receiver cursor).moved receiver cursor' =
    j.moved receiver cursor' := by
  rw [moved, moved, List.set_set]
  rfl

theorem cursors_moved_self (hr : j.cursors[receiver]? = some (some cursor)) (cursor' : Nat) :
    (j.moved receiver cursor').cursors[receiver]? = some (some cursor') := by
  obtain ⟨hlt, -⟩ := List.getElem?_eq_some_iff.mp hr
  exact List.getElem?_set_self hlt

theorem moved_self (hr : j.cursors[receiver]? = some (some cursor)) :
    j.moved receiver cursor = j := by
  obtain ⟨hlt, hget⟩ := List.getElem?_eq_some_iff.mp hr
  rw [moved, ← hget, List.set_getElem_self]

theorem length_unread (cursor : Nat) : (j.unread cursor).length = j.log.length - cursor :=
  List.length_drop

/-! ### The three ways in which a receive ends -/

theorem receive_of_excess (hr : j.cursors[receiver]? = some (some cursor))
    (hexcess : 0 < j.excess cursor) :
    j.receive receiver =
      (.lagged (j.excess cursor), j.moved receiver (cursor + j.excess cursor)) := by
  simp only [receive, hr]
  rw [if_pos hexcess]

theorem receive_of_nil (hr : j.cursors[receiver]? = some (some cursor))
    (hunread : j.unread cursor = []) :
    j.receive receiver = (j.nothing, j) := by
  have hexcess : ¬ 0 < j.excess cursor := by
    simp [excess, hunread]
  simp only [receive, hr, hunread]
  rw [if_neg hexcess]

theorem receive_of_cons {a : α} {more : List α} (hr : j.cursors[receiver]? = some (some cursor))
    (hroom : j.excess cursor = 0) (hunread : j.unread cursor = a :: more) :
    j.receive receiver = (.item a, j.moved receiver (cursor + 1)) := by
  simp only [receive, hr, hunread]
  rw [if_neg (by omega)]

end Journal

namespace Exchange

/-- The exchange after operations. -/
def after (x : Exchange α) (ss : List (Step α)) : Exchange α := ss.foldl (fun x s => (x.step s).2) x

/-- The bus holds the end of the log of the journal; the rest of the exchange is the same, and no
receiver is ahead of the log. -/
structure Keeps (x : Exchange α) (j : Journal α) : Prop where
  logs : x.bus.Logs j.log
  retained : x.bus.retained = j.room
  handles : x.handles = j.handles
  cursors : x.cursors = j.cursors
  le : ∀ cursor, some cursor ∈ j.cursors → cursor ≤ j.log.length

namespace Keeps

variable {x : Exchange α} {j : Journal α} {receiver cursor : Nat}

theorem le_of_getElem? (h : x.Keeps j) (hr : j.cursors[receiver]? = some (some cursor)) :
    cursor ≤ j.log.length :=
  h.le cursor (List.mem_of_getElem? hr)

theorem holds (h : x.Keeps j) (handle : Nat) : x.holds handle = j.holds handle := by
  rw [Exchange.holds, Journal.holds, h.handles]

theorem moved (h : x.Keeps j) (hle : cursor ≤ j.log.length) :
    ({ x with cursors := x.cursors.set receiver (some cursor) } : Exchange α).Keeps
      (j.moved receiver cursor) where
  logs := h.logs
  retained := h.retained
  handles := h.handles
  cursors := by rw [Journal.moved, h.cursors]
  le := by
    intro c hc
    rcases List.mem_or_eq_of_mem_set hc with hc | hc
    · exact h.le c hc
    · exact Option.some.inj hc ▸ hle

/-! ### Receiving -/

theorem excess_eq (h : x.Keeps j) (cursor : Nat) :
    j.excess cursor = j.log.length - cursor - x.bus.retained := by
  rw [Journal.excess, j.length_unread, h.retained]

/-- What a receiver gets is what the log has for it. -/
theorem receive (h : x.Keeps j) (receiver : Nat) :
    (x.receive receiver).1 = (j.receive receiver).1 ∧
      (x.receive receiver).2.Keeps (j.receive receiver).2 := by
  rcases hr : j.cursors[receiver]? with _ | _ | cursor
  · simp only [Exchange.receive, Journal.receive, h.cursors, hr]
    exact ⟨trivial, h⟩
  · simp only [Exchange.receive, Journal.receive, h.cursors, hr]
    exact ⟨trivial, h⟩
  have hle := h.le_of_getElem? hr
  have hexcess := h.excess_eq cursor
  have hcursor : x.cursors[receiver]? = some (some cursor) := h.cursors ▸ hr
  simp only [Exchange.receive, hcursor]
  by_cases hbehind : x.bus.retained < j.log.length - cursor
  · have hmoved : cursor + j.excess cursor = j.log.length - x.bus.retained := by
      omega
    rw [Journal.receive_of_excess hr (by omega), h.logs.receive_of_lt hbehind, hmoved, hexcess]
    exact ⟨rfl, h.moved (Nat.sub_le _ _)⟩
  rcases Nat.eq_or_lt_of_le hle with rfl | hlt
  · rw [Journal.receive_of_nil hr List.drop_length, h.logs.receive_length,
      Journal.nothing, ← h.handles]
    exact ⟨rfl, h⟩
  · rw [Journal.receive_of_cons hr (by omega) (List.drop_eq_getElem_cons hlt),
      h.logs.receive_of_le (Nat.le_of_not_lt hbehind) hlt]
    exact ⟨rfl, h.moved hlt⟩

/-- A receiver that has no more unread than there is room for reads all of it, and then finds
nothing. -/
theorem drain_unread {fuel : Nat} (h : x.Keeps j) (hr : j.cursors[receiver]? = some (some cursor))
    (hroom : j.excess cursor = 0) (hfuel : (j.unread cursor).length < fuel) :
    (x.drain receiver fuel).1 = (j.unread cursor).map .item ++ [j.nothing] ∧
      (x.drain receiver fuel).2.Keeps (j.moved receiver j.log.length) := by
  induction fuel generalizing x j cursor with
  | zero => exact absurd hfuel (Nat.not_lt_zero _)
  | succ fuel ih =>
    obtain ⟨hgot, hkeeps⟩ := h.receive receiver
    generalize hx : x.receive receiver = got at hgot hkeeps
    obtain ⟨got, x'⟩ := got
    rw [Exchange.drain, hx]
    cases hunread : j.unread cursor with
    | nil =>
      have hend : cursor = j.log.length :=
        Nat.le_antisymm (h.le_of_getElem? hr) (List.drop_eq_nil_iff.mp hunread)
      rw [Journal.receive_of_nil hr hunread] at hgot hkeeps
      obtain rfl : got = j.nothing := hgot
      rw [← hend, Journal.moved_self hr, Journal.nothing]
      split_ifs <;> exact ⟨rfl, hkeeps⟩
    | cons a more =>
      rw [Journal.receive_of_cons hr hroom hunread] at hgot hkeeps
      obtain rfl : got = .item a := hgot
      have hmore : (j.moved receiver (cursor + 1)).unread (cursor + 1) = more := by
        rw [Journal.unread, Journal.moved, ← List.drop_drop]
        exact congrArg (List.drop 1) hunread
      have hroom' : (j.moved receiver (cursor + 1)).excess (cursor + 1) = 0 := by
        rw [Journal.excess, hunread, List.length_cons] at hroom
        rw [Journal.excess, hmore]
        change more.length - j.room = 0
        omega
      obtain ⟨hgots, hkeeps'⟩ := ih hkeeps (Journal.cursors_moved_self hr _) hroom' (by
        rw [hmore]
        rw [hunread] at hfuel
        exact Nat.lt_of_succ_lt_succ hfuel)
      rw [hmore] at hgots
      rw [Journal.moved_moved] at hkeeps'
      exact ⟨congrArg (.item a :: ·) hgots, hkeeps'⟩

/-- What a receiver gets until it finds nothing is what the log has for it. -/
theorem drain (h : x.Keeps j) (receiver : Nat) :
    (x.drain receiver (x.drainBound receiver)).1 = (j.drain receiver).1 ∧
      (x.drain receiver (x.drainBound receiver)).2.Keeps (j.drain receiver).2 := by
  rcases hr : j.cursors[receiver]? with _ | _ | cursor
  · simp only [drainBound, Exchange.drain, Exchange.receive, Journal.drain, h.cursors, hr]
    exact ⟨trivial, h⟩
  · simp only [drainBound, Exchange.drain, Exchange.receive, Journal.drain, h.cursors, hr]
    exact ⟨trivial, h⟩
  have hlength := j.length_unread cursor
  have hbound : x.drainBound receiver = j.log.length - cursor + 2 := by
    simp only [drainBound, h.cursors, hr, Bus.unread, h.logs.sent]
  simp only [Journal.drain, hr, hbound]
  rcases Nat.eq_zero_or_pos (j.excess cursor) with hroom | hexcess
  · rw [if_neg (by omega), hroom]
    exact h.drain_unread hr hroom (by omega)
  -- The first receive tells of the loss. Then there is room for what is unread.
  obtain ⟨hgot, hkeeps⟩ := h.receive receiver
  generalize hx : x.receive receiver = got at hgot hkeeps
  obtain ⟨got, x'⟩ := got
  rw [Journal.receive_of_excess hr hexcess] at hgot hkeeps
  obtain rfl : got = .lagged (j.excess cursor) := hgot
  have hunread : (j.moved receiver (cursor + j.excess cursor)).unread (cursor + j.excess cursor) =
      (j.unread cursor).drop (j.excess cursor) := List.drop_drop.symm
  have hroom :
      (j.moved receiver (cursor + j.excess cursor)).excess (cursor + j.excess cursor) = 0 := by
    rw [Journal.excess, hunread, List.length_drop]
    change (j.unread cursor).length - ((j.unread cursor).length - j.room) - j.room = 0
    omega
  have hfuel :
      ((j.moved receiver (cursor + j.excess cursor)).unread (cursor + j.excess cursor)).length <
      j.log.length - cursor + 1 := by
    rw [hunread, List.length_drop]
    omega
  obtain ⟨hgots, hkeeps'⟩ := hkeeps.drain_unread (Journal.cursors_moved_self hr _) hroom hfuel
  rw [hunread] at hgots
  rw [Journal.moved_moved] at hkeeps'
  rw [Exchange.drain, hx, if_pos hexcess]
  exact ⟨congrArg (.lagged (j.excess cursor) :: ·) hgots, hkeeps'⟩

/-! ### Operations -/

/-- The exchange answers as the journal does. -/
theorem step (h : x.Keeps j) (s : Step α) :
    (x.step s).1 = (j.step s).1 ∧ (x.step s).2.Keeps (j.step s).2 := by
  cases s with
  | subscribe handle =>
    rw [Exchange.step, Journal.step, h.holds]
    split_ifs
    · refine ⟨by rw [h.cursors], h.logs, h.retained, h.handles, ?_, ?_⟩
      · rw [h.cursors, Bus.subscribe, h.logs.sent]
      · intro cursor hcursor
        rcases List.mem_append.mp hcursor with hcursor | hcursor
        · exact h.le cursor hcursor
        · exact Nat.le_of_eq (Option.some.inj (List.mem_singleton.mp hcursor))
    · exact ⟨rfl, h⟩
  | publish handle items =>
    rw [Exchange.step, Journal.step, h.holds]
    refine ⟨rfl, ?_⟩
    split_ifs
    · refine ⟨h.logs.publishAll items, ?_, h.handles, h.cursors, fun cursor hcursor => ?_⟩
      · exact (Bus.retained_publishAll x.bus items).trans h.retained
      · exact Nat.le_trans (h.le cursor hcursor) (by simp)
    · exact h
  | receive receiver =>
    obtain ⟨hgot, hkeeps⟩ := h.receive receiver
    exact ⟨congrArg Answer.received hgot, hkeeps⟩
  | drain receiver =>
    obtain ⟨hgots, hkeeps⟩ := h.drain receiver
    exact ⟨congrArg Answer.drained hgots, hkeeps⟩
  | clone handle =>
    rw [Exchange.step, Journal.step, h.holds]
    split_ifs
    · exact ⟨by rw [h.handles], h.logs, h.retained, by rw [h.handles], h.cursors, h.le⟩
    · exact ⟨rfl, h⟩
  | dropHandle handle =>
    exact ⟨rfl, h.logs, h.retained, by rw [Exchange.step, Journal.step, h.handles], h.cursors, h.le⟩
  | dropReceiver receiver =>
    refine ⟨rfl, h.logs, h.retained, h.handles, by rw [Exchange.step, Journal.step, h.cursors], ?_⟩
    intro cursor hcursor
    rcases List.mem_or_eq_of_mem_set hcursor with hcursor | hcursor
    · exact h.le cursor hcursor
    · cases hcursor

/-- Whatever the operations are, the answers are those of the journal. -/
theorem run (h : x.Keeps j) (ss : List (Step α)) : x.run ss = j.run ss := by
  induction ss generalizing x j with
  | nil => rfl
  | cons s ss ih =>
    obtain ⟨hanswer, hkeeps⟩ := h.step s
    rw [Exchange.run, Journal.run, ← hanswer, ← ih hkeeps]

theorem after (h : x.Keeps j) (ss : List (Step α)) : (x.after ss).Keeps (j.after ss) := by
  induction ss generalizing x j with
  | nil => exact h
  | cons s ss ih => exact ih (h.step s).2

end Keeps

end Exchange

end FleetAgent
