import FleetAgent.Proofs.Bus.Journal
import Mathlib.Algebra.Ring.Nat

/-!
# What the receivers of a bus get

A receiver reads the log of a bus from the item on that is published first after its subscription.
All that is published since then is at every time in one of three places: the receiver has got it,
it was told that it has lost it, or it is still unread. It loses no more than the oldest items that
are unread, and of them no more than the bus cannot retain.

This holds of the journal by one step of it and by induction, and of the exchange because it answers
alike.

## Main definitions

* `Exchange.given`: what operations give to one receiver.
* `Exchange.published`: what operations publish.
* `Journal.HasRead`: a receiver has read the log up to a cursor.

## Main results

* `Received.Reads.length_add`: items are received, lost or unread.
* `Journal.hasRead_step`, `Journal.hasRead_run`: what is read in one operation, and in many.
* `Exchange.accounts`: what a receiver gets after its subscription.
-/

namespace FleetAgent

variable {α : Type}

namespace Received

/-- Whether the receiver gets something: an item, or the number of those that it has lost. -/
def isGiven (r : Received α) : Bool := r.item?.isSome || r.isLagged

/-- The number of items that the receiver is told to have lost. -/
def lost : Received α → Nat
  | lagged n => n
  | item _ | empty | closed => 0

namespace Reads

variable {log rest : List α} {rs : List (Received α)}

theorem items (log : List α) : Reads (log.map .item) log [] := by
  induction log with
  | nil => exact .nil _
  | cons a _ ih => exact .item a ih

theorem skip {n : Nat} (hpos : 0 < n) (hle : n ≤ log.length) :
    Reads [.lagged n] log (log.drop n) := by
  have hne : log.take n ≠ [] := List.ne_nil_of_length_pos (by rw [List.length_take]; omega)
  have h := lagged (log.take n) hne (.nil (log.drop n))
  rwa [List.take_append_drop, List.length_take_of_le hle] at h

/-- What is published is received, lost or unread. -/
theorem length_add (h : Reads rs log rest) :
    (rs.filterMap item?).length + (rs.map lost).sum + rest.length = log.length := by
  induction h with
  | nil => simp
  | item a _ ih =>
    simp only [List.filterMap_cons, item?, List.map_cons, List.sum_cons, lost, List.length_cons]
    omega
  | lagged gone _ _ ih =>
    simp only [List.filterMap_cons, item?, List.map_cons, List.sum_cons, lost, List.length_append]
    omega
  | empty _ ih =>
    simp only [List.filterMap_cons, item?, List.map_cons, List.sum_cons, lost]
    omega

end Reads

end Received

namespace Exchange

/-- What an operation gives to a receiver, by its answer. -/
def Step.given (receiver : Nat) : Step α → Answer α → List (Received α)
  | .receive r, .received got => if r = receiver then [got].filter Received.isGiven else []
  | .drain r, .drained gots => if r = receiver then gots.filter Received.isGiven else []
  | _, _ => []

/-- What operations give to a receiver, by their answers. -/
def given (receiver : Nat) (ss : List (Step α)) (answers : List (Answer α)) : List (Received α) :=
  (List.zipWith (Step.given receiver) ss answers).flatten

/-- What an operation publishes, if it is known which handles are held. -/
def Step.publishes (holds : Nat → Bool) : Step α → List α
  | .publish handle items => if holds handle then items else []
  | _ => []

/-- What operations publish, one after the other. -/
def published (x : Exchange α) : List (Step α) → List α
  | [] => []
  | s :: ss => s.publishes x.holds ++ (x.step s).2.published ss

end Exchange

namespace Journal

variable {j j' : Journal α} {receiver cursor cursor' : Nat} {gets gets' : List (Received α)}

/-- The receiver has got something, and with it has read the log from one cursor to another. -/
structure HasRead (j : Journal α) (receiver cursor : Nat) (gets : List (Received α))
    (cursor' : Nat) :
    Prop where
  cursor_eq : j.cursors[receiver]? = some (some cursor')
  le : cursor ≤ cursor'
  le_length : cursor' ≤ j.log.length
  reads : Received.Reads gets (j.unread cursor) (j.unread cursor')

/-! ### One operation -/

theorem filter_isGiven_nothing (j : Journal α) : [j.nothing].filter Received.isGiven = [] := by
  rw [nothing]
  split_ifs <;> rfl

theorem filter_isGiven_items (items : List α) :
    (items.map Received.item).filter Received.isGiven = items.map .item :=
  List.filter_eq_self.mpr fun r hr => by
    obtain ⟨a, -, rfl⟩ := List.mem_map.mp hr
    rfl

/-- What a receiver reads in one receive. -/
theorem hasRead_receive (hr : j.cursors[receiver]? = some (some cursor))
    (hle : cursor ≤ j.log.length) :
    ∃ cursor', (j.receive receiver).2.HasRead receiver cursor
      ([(j.receive receiver).1].filter Received.isGiven) cursor' := by
  have hlength := j.length_unread cursor
  rcases Nat.eq_zero_or_pos (j.excess cursor) with hroom | hexcess
  · cases hunread : j.unread cursor with
    | nil =>
      rw [receive_of_nil hr hunread, filter_isGiven_nothing]
      exact ⟨cursor, hr, Nat.le_refl _, hle, .nil _⟩
    | cons a more =>
      rw [receive_of_cons hr hroom hunread]
      have hmore : j.unread (cursor + 1) = more := by
        rw [unread, ← List.drop_drop]
        exact congrArg (List.drop 1) hunread
      refine ⟨cursor + 1, cursors_moved_self hr _, Nat.le_succ _, ?_, ?_⟩
      · rw [hunread, List.length_cons] at hlength
        change cursor + 1 ≤ j.log.length
        omega
      · change Received.Reads [.item a] (j.unread cursor) (j.unread (cursor + 1))
        rw [hunread, hmore]
        exact .item a (.nil _)
  · rw [receive_of_excess hr hexcess]
    have hle' : j.excess cursor ≤ (j.unread cursor).length := Nat.sub_le _ _
    have hmore : j.unread (cursor + j.excess cursor) = (j.unread cursor).drop (j.excess cursor) :=
      List.drop_drop.symm
    refine ⟨cursor + j.excess cursor, cursors_moved_self hr _, Nat.le_add_right _ _, ?_, ?_⟩
    · change cursor + j.excess cursor ≤ j.log.length
      omega
    · change Received.Reads [.lagged (j.excess cursor)] (j.unread cursor)
        (j.unread (cursor + j.excess cursor))
      rw [hmore]
      exact .skip hexcess hle'

/-- What a receiver reads until it finds nothing: all of the log. -/
theorem hasRead_drain (hr : j.cursors[receiver]? = some (some cursor))
    (hle : cursor ≤ j.log.length) :
    (j.drain receiver).2.HasRead receiver cursor ((j.drain receiver).1.filter Received.isGiven)
      j.log.length := by
  have hdrain : j.drain receiver =
      ((if 0 < j.excess cursor then [.lagged (j.excess cursor)] else []) ++
        ((j.unread cursor).drop (j.excess cursor)).map .item ++ [j.nothing],
        j.moved receiver j.log.length) := by
    simp only [drain, hr]
  have hend : j.unread j.log.length = [] := List.drop_length
  have hitems := Received.Reads.items ((j.unread cursor).drop (j.excess cursor))
  rw [hdrain]
  refine ⟨cursors_moved_self hr _, hle, Nat.le_refl _, ?_⟩
  change Received.Reads _ (j.unread cursor) (j.unread j.log.length)
  rw [List.filter_append, List.filter_append, filter_isGiven_items, filter_isGiven_nothing, hend]
  split_ifs with hexcess
  · rw [List.append_nil]
    exact (Received.Reads.skip hexcess (Nat.sub_le _ _)).append hitems
  · rw [Nat.eq_zero_of_not_pos hexcess] at hitems ⊢
    simpa using hitems

/-- Nothing is changed but the cursor of a receiver that is there. -/
def Moves (j j' : Journal α) (receiver : Nat) : Prop :=
  j' = j ∨ ∃ cursor cursor', j.cursors[receiver]? = some (some cursor) ∧
    j' = j.moved receiver cursor'

theorem moves_receive (j : Journal α) (receiver : Nat) :
    j.Moves (j.receive receiver).2 receiver := by
  rw [receive]
  split
  · next cursor hr =>
    split_ifs
    · exact .inr ⟨cursor, _, hr, rfl⟩
    · split
      · exact .inl rfl
      · exact .inr ⟨cursor, _, hr, rfl⟩
  · exact .inl rfl

theorem moves_drain (j : Journal α) (receiver : Nat) : j.Moves (j.drain receiver).2 receiver := by
  rw [drain]
  split
  · next cursor hr => exact .inr ⟨cursor, _, hr, rfl⟩
  · exact .inl rfl

theorem Moves.log_eq (h : j.Moves j' receiver) : j'.log = j.log := by
  rcases h with rfl | ⟨_, _, _, rfl⟩ <;> rfl

theorem Moves.room_eq (h : j.Moves j' receiver) : j'.room = j.room := by
  rcases h with rfl | ⟨_, _, _, rfl⟩ <;> rfl

theorem Moves.cursor_eq {r : Nat} (h : j.Moves j' r)
    (hr : r ≠ receiver ∨ j.cursors[receiver]? = some none) :
    j'.cursors[receiver]? = j.cursors[receiver]? := by
  rcases h with rfl | ⟨cursor, cursor', hthere, rfl⟩
  · rfl
  · refine List.getElem?_set_ne ?_
    rintro rfl
    rcases hr with hne | hnone
    · exact hne rfl
    · cases hnone.symm.trans hthere

theorem room_step (j : Journal α) (s : Exchange.Step α) : (j.step s).2.room = j.room := by
  cases s with
  | subscribe handle | publish handle items | clone handle =>
    rw [step]
    split_ifs <;> rfl
  | receive r => exact (j.moves_receive r).room_eq
  | drain r => exact (j.moves_drain r).room_eq
  | dropHandle handle | dropReceiver r => rfl

/-- An operation appends what it publishes to the log. -/
theorem log_step (j : Journal α) (s : Exchange.Step α) :
    (j.step s).2.log = j.log ++ s.publishes j.holds := by
  cases s with
  | publish handle items =>
    rw [step, Exchange.Step.publishes]
    split_ifs
    · rfl
    · rw [List.append_nil]
  | subscribe handle | clone handle =>
    refine Eq.trans ?_ (List.append_nil _).symm
    rw [step]
    split_ifs <;> rfl
  | receive r => exact (j.moves_receive r).log_eq.trans (List.append_nil _).symm
  | drain r => exact (j.moves_drain r).log_eq.trans (List.append_nil _).symm
  | dropHandle handle | dropReceiver r => exact (List.append_nil _).symm

/-- A receiver that was dropped does not come back. -/
theorem cursor_step_of_dropped (hr : j.cursors[receiver]? = some none) (s : Exchange.Step α) :
    (j.step s).2.cursors[receiver]? = some none := by
  obtain ⟨hlt, -⟩ := List.getElem?_eq_some_iff.mp hr
  cases s with
  | subscribe handle =>
    rw [step]
    split_ifs
    · exact (List.getElem?_append_left hlt).trans hr
    · exact hr
  | publish handle items | clone handle =>
    rw [step]
    split_ifs <;> exact hr
  | receive r => exact ((j.moves_receive r).cursor_eq (.inr hr)).trans hr
  | drain r => exact ((j.moves_drain r).cursor_eq (.inr hr)).trans hr
  | dropHandle handle => exact hr
  | dropReceiver r =>
    rcases eq_or_ne r receiver with rfl | hne
    · exact List.getElem?_set_self hlt
    · exact (List.getElem?_set_ne hne).trans hr

/-- In one operation a receiver reads on, or it is dropped. -/
theorem hasRead_step (hr : j.cursors[receiver]? = some (some cursor)) (hle : cursor ≤ j.log.length)
    (s : Exchange.Step α) :
    (j.step s).2.cursors[receiver]? = some none ∨
      ∃ cursor', (j.step s).2.HasRead receiver cursor (s.given receiver (j.step s).1) cursor' := by
  obtain ⟨hlt, -⟩ := List.getElem?_eq_some_iff.mp hr
  -- Operations that are not its own leave the receiver where it is.
  have hstays (hcursor : (j.step s).2.cursors[receiver]? = j.cursors[receiver]?)
      (hgiven : s.given receiver (j.step s).1 = []) :
      ∃ cursor', (j.step s).2.HasRead receiver cursor (s.given receiver (j.step s).1) cursor' := by
    refine ⟨cursor, hcursor.trans hr, Nat.le_refl _, ?_, hgiven ▸ .nil _⟩
    rw [log_step, List.length_append]
    exact Nat.le_add_right_of_le hle
  cases s with
  | subscribe handle =>
    refine .inr (hstays ?_ rfl)
    rw [step]
    split_ifs
    · exact List.getElem?_append_left hlt
    · rfl
  | publish handle items | clone handle =>
    refine .inr (hstays ?_ rfl)
    rw [step]
    split_ifs <;> rfl
  | receive r =>
    rcases eq_or_ne r receiver with rfl | hne
    · obtain ⟨cursor', h⟩ := hasRead_receive hr hle
      have hgiven : Exchange.Step.given r (.receive r) (j.step (.receive r)).1 =
          [(j.receive r).1].filter Received.isGiven := if_pos rfl
      exact .inr ⟨cursor', hgiven ▸ h⟩
    · exact .inr (hstays ((j.moves_receive r).cursor_eq (.inl hne)) (if_neg hne))
  | drain r =>
    rcases eq_or_ne r receiver with rfl | hne
    · have hgiven : Exchange.Step.given r (.drain r) (j.step (.drain r)).1 =
          (j.drain r).1.filter Received.isGiven := if_pos rfl
      exact .inr ⟨j.log.length, hgiven ▸ hasRead_drain hr hle⟩
    · exact .inr (hstays ((j.moves_drain r).cursor_eq (.inl hne)) (if_neg hne))
  | dropHandle handle => exact .inr (hstays rfl rfl)
  | dropReceiver r =>
    rcases eq_or_ne r receiver with rfl | hne
    · exact .inl (List.getElem?_set_self hlt)
    · exact .inr (hstays (List.getElem?_set_ne hne) rfl)

/-- A receiver is told of a loss only if there is an excess, and the loss is the excess. -/
theorem eq_excess_of_lagged {n : Nat} (hr : j.cursors[receiver]? = some (some cursor))
    (hlag : (j.receive receiver).1 = .lagged n) : 0 < j.excess cursor ∧ n = j.excess cursor := by
  rcases Nat.eq_zero_or_pos (j.excess cursor) with hroom | hexcess
  · cases hunread : j.unread cursor with
    | nil =>
      rw [receive_of_nil hr hunread, nothing] at hlag
      split_ifs at hlag
    | cons a more =>
      rw [receive_of_cons hr hroom hunread] at hlag
      cases hlag
  · rw [receive_of_excess hr hexcess] at hlag
    exact ⟨hexcess, (Received.lagged.inj hlag).symm⟩

/-- A receiver finds nothing only if it has read everything. -/
theorem unread_eq_nil (hr : j.cursors[receiver]? = some (some cursor))
    (hnothing : (j.receive receiver).1.isGiven = false) : j.unread cursor = [] := by
  by_contra hne
  obtain ⟨a, more, hunread⟩ := List.exists_cons_of_ne_nil hne
  rcases Nat.eq_zero_or_pos (j.excess cursor) with hroom | hexcess
  · rw [receive_of_cons hr hroom hunread] at hnothing
    cases hnothing
  · rw [receive_of_excess hr hexcess] at hnothing
    cases hnothing

/-! ### Many operations -/

theorem room_after (j : Journal α) (ss : List (Exchange.Step α)) : (j.after ss).room = j.room := by
  induction ss generalizing j with
  | nil => rfl
  | cons s ss ih => exact (ih _).trans (j.room_step s)

theorem cursor_after_of_dropped (hr : j.cursors[receiver]? = some none)
    (ss : List (Exchange.Step α)) :
    (j.after ss).cursors[receiver]? = some none := by
  induction ss generalizing j with
  | nil => exact hr
  | cons s ss ih => exact ih (cursor_step_of_dropped hr s)

theorem exists_log_after (j : Journal α) (ss : List (Exchange.Step α)) :
    ∃ more, (j.after ss).log = j.log ++ more := by
  induction ss generalizing j with
  | nil => exact ⟨[], (List.append_nil _).symm⟩
  | cons s ss ih =>
    obtain ⟨more, hmore⟩ := ih (j.step s).2
    refine ⟨s.publishes j.holds ++ more, hmore.trans ?_⟩
    rw [log_step, List.append_assoc]

/-- What was read is the same part of a longer log. -/
theorem HasRead.trans {middle : Nat} {more : List α} (h : j.HasRead receiver cursor gets middle)
    (hlog : j'.log = j.log ++ more) (h' : j'.HasRead receiver middle gets' cursor') :
    j'.HasRead receiver cursor (gets ++ gets') cursor' where
  cursor_eq := h'.cursor_eq
  le := Nat.le_trans h.le h'.le
  le_length := h'.le_length
  reads := by
    have hmore (c : Nat) (hc : c ≤ j.log.length) : j'.unread c = j.unread c ++ more := by
      rw [unread, hlog, List.drop_append_of_le_length hc, unread]
    have hreads := h.reads.publish more
    rw [← hmore _ (Nat.le_trans h.le h.le_length), ← hmore _ h.le_length] at hreads
    exact hreads.append h'.reads

/-- What a receiver reads in many operations, if it is not dropped. -/
theorem hasRead_run (hr : j.cursors[receiver]? = some (some cursor)) (hle : cursor ≤ j.log.length)
    {ss : List (Exchange.Step α)} (hr' : (j.after ss).cursors[receiver]? = some (some cursor')) :
    (j.after ss).HasRead receiver cursor (Exchange.given receiver ss (j.run ss)) cursor' := by
  induction ss generalizing j cursor with
  | nil =>
    obtain rfl : cursor = cursor' := Option.some.inj (Option.some.inj (hr.symm.trans hr'))
    exact ⟨hr, Nat.le_refl _, hle, .nil _⟩
  | cons s ss ih =>
    rcases hasRead_step hr hle s with hdropped | ⟨middle, h⟩
    · cases (cursor_after_of_dropped hdropped ss).symm.trans hr'
    · obtain ⟨more, hmore⟩ := (j.step s).2.exists_log_after ss
      exact h.trans hmore (ih h.cursor_eq h.le_length hr')

end Journal

namespace Exchange

variable {x : Exchange α} {j : Journal α}

theorem Keeps.log_after (h : x.Keeps j) (ss : List (Step α)) :
    (j.after ss).log = j.log ++ x.published ss := by
  induction ss generalizing x j with
  | nil => exact (List.append_nil _).symm
  | cons s ss ih =>
    have hlog := ih (h.step s).2
    rw [j.log_step, ← funext h.holds, List.append_assoc] at hlog
    exact hlog

/-- A new exchange keeps an empty log. -/
theorem keeps_new {capacity : Nat} {b : Bus α} (hb : Bus.ofCapacity? capacity = some b) :
    Keeps { bus := b } { room := b.retained } := by
  have hlogs := Bus.logs_nil (α := α) capacity
  rw [hb] at hlogs
  exact ⟨hlogs, rfl, rfl, rfl, nofun⟩

/-- A new receiver begins at the end of what was published. -/
theorem cursor_of_subscribe {y : Exchange α} {handle receiver : Nat}
    (hy : x.step (.subscribe handle) = (.number receiver, y)) :
    y.cursors[receiver]? = some (some y.bus.sent) := by
  rw [step] at hy
  split_ifs at hy
  · obtain ⟨hnumber, rfl⟩ := Prod.mk.inj hy
    obtain rfl := Answer.number.inj hnumber
    exact List.getElem?_concat_length
  · cases (Prod.mk.inj hy).1

/-- What a receiver reads after its subscription, and what it leaves unread. -/
theorem Keeps.reads_of_subscribe {later : List (Step α)} {receiver cursor : Nat} (h : x.Keeps j)
    (hfirst : x.cursors[receiver]? = some (some x.bus.sent))
    (hlast : (x.after later).cursors[receiver]? = some (some cursor)) :
    (j.after later).unread cursor = (x.published later).drop (cursor - x.bus.sent) ∧
      Received.Reads (given receiver later (x.run later)) (x.published later)
        ((x.published later).drop (cursor - x.bus.sent)) := by
  rw [h.cursors, h.logs.sent] at hfirst
  rw [(h.after later).cursors] at hlast
  have hread := Journal.hasRead_run hfirst (Nat.le_refl _) hlast
  have hlog := h.log_after later
  have hpublished : (j.after later).unread j.log.length = x.published later := by
    rw [Journal.unread, hlog, List.drop_left]
  have hunread : (j.after later).unread cursor =
      (x.published later).drop (cursor - x.bus.sent) := by
    rw [Journal.unread, hlog, List.drop_append, List.drop_eq_nil_of_le hread.le, List.nil_append,
      ← h.logs.sent]
  have hreads := hread.reads
  rw [hpublished, hunread, ← h.run] at hreads
  exact ⟨hunread, hreads⟩

/-- A receiver is told of a loss when more is unread than is retained. Then exactly what is retained
is left. -/
theorem Keeps.of_lagged {receiver cursor n : Nat} (h : x.Keeps j)
    (hr : j.cursors[receiver]? = some (some cursor)) (hlag : (x.receive receiver).1 = .lagged n) :
    x.bus.retained < (j.unread cursor).length ∧ n = (j.unread cursor).length - x.bus.retained ∧
      (j.unread cursor).drop n = x.bus.recent.reverse ∧
      (x.receive receiver).2.cursors[receiver]? = some (some (cursor + n)) := by
  obtain ⟨hgot, hkeeps⟩ := h.receive receiver
  obtain ⟨hexcess, rfl⟩ := Journal.eq_excess_of_lagged hr (hgot ▸ hlag)
  have heq : j.excess cursor = (j.unread cursor).length - x.bus.retained := by
    rw [Journal.excess, h.retained]
  have hlength := j.length_unread cursor
  refine ⟨by omega, heq, ?_, ?_⟩
  · have hcursor : cursor + j.excess cursor = j.log.length - x.bus.retained := by
      omega
    rw [h.logs.recent, List.take_reverse, List.reverse_reverse, Journal.unread,
      List.drop_drop, hcursor]
  · rw [hkeeps.cursors, Journal.receive_of_excess hr hexcess]
    exact Journal.cursors_moved_self hr _

/-- What the receivers of a bus get, however they, those who publish and the handles are
interleaved. The answers of an exchange are those of an unbounded log with one cursor for each
receiver. A receiver reads what is published after its subscription, in its order and nothing twice,
except for losses that it is told of. All that was published since then is received, lost or unread.
A receiver is told of a loss only when more is unread than the bus retains, and then what is
retained is left to it; it finds nothing only when nothing is unread. -/
theorem accounts {capacity : Nat} {b : Bus α} (hb : Bus.ofCapacity? capacity = some b) :
    b.retained = (max capacity 1).nextPowerOfTwo ∧
    (∀ ss, run { bus := b } ss = Journal.run { room := b.retained } ss) ∧
    ∀ (before later : List (Step α)) (handle receiver cursor : Nat) (y : Exchange α),
      (after { bus := b } before).step (.subscribe handle) = (.number receiver, y) →
      (y.after later).cursors[receiver]? = some (some cursor) →
      let z := y.after later
      let gets := given receiver later (y.run later)
      let unread := (y.published later).drop (cursor - y.bus.sent)
      Received.Reads gets (y.published later) unread ∧
      (gets.filterMap Received.item?).length + (gets.map Received.lost).sum + unread.length =
        (y.published later).length ∧
      z.bus.unread cursor = unread.length ∧
      (∀ n, (z.receive receiver).1 = .lagged n →
        b.retained < unread.length ∧ n = unread.length - b.retained ∧
        unread.drop n = z.bus.recent.reverse ∧
        (z.receive receiver).2.cursors[receiver]? = some (some (cursor + n))) ∧
      ((z.receive receiver).1.isGiven = false → unread = []) := by
  have hretained : b.retained = (max capacity 1).nextPowerOfTwo := by
    simp only [Bus.ofCapacity?, Option.ite_none_right_eq_some, Option.some.injEq] at hb
    obtain ⟨-, rfl⟩ := hb
    rfl
  refine ⟨hretained, (keeps_new hb).run, ?_⟩
  intro before later handle receiver cursor y hy hr z gets unread
  have hkeeps := (((keeps_new hb).after before).step (.subscribe handle)).2
  simp only [hy] at hkeeps
  generalize hj :
    ((Journal.after { room := b.retained } before).step (.subscribe handle)).2 = j at hkeeps
  have hroom : (j.after later).room = b.retained := by
    rw [Journal.room_after, ← hj, Journal.room_step, Journal.room_after]
  obtain ⟨hunread, hreads⟩ := hkeeps.reads_of_subscribe (cursor_of_subscribe hy) hr
  have hz : z.Keeps (j.after later) := hkeeps.after later
  have hlast : (j.after later).cursors[receiver]? = some (some cursor) := hz.cursors ▸ hr
  refine ⟨hreads, hreads.length_add, ?_, fun n hlag => ?_, fun hnothing => ?_⟩
  · rw [Bus.unread, hz.logs.sent, ← Journal.length_unread, hunread]
  · have hlost := hz.of_lagged hlast hlag
    rwa [hunread, hz.retained, hroom] at hlost
  · rw [(hz.receive receiver).1] at hnothing
    exact hunread.symm.trans (Journal.unread_eq_nil hlast hnothing)

/-- A bus that retains four items: one is received, two are lost when four more are published than
fit, the next one is received, and the last four are unread. -/
theorem accounts_of_slow_receiver :
    let y : Exchange Nat := after { bus := { retained := 4 } } [.publish 0 [0], .subscribe 0]
    let later : List (Step Nat) :=
      [.publish 0 [1, 2, 3], .receive 0, .clone 0, .publish 1 [4, 5, 6, 7], .receive 0, .receive 0,
        .publish 0 [8]]
    let gets := given 0 later (y.run later)
    let unread := (y.published later).drop (5 - y.bus.sent)
    Bus.ofCapacity? 3 = some ({ retained := 4 } : Bus Nat) ∧
      (y.after later).cursors[0]? = some (some 5) ∧ gets = [.item 1, .lagged 2, .item 4] ∧
      y.published later = [1, 2, 3, 4, 5, 6, 7, 8] ∧ unread = [5, 6, 7, 8] ∧
      Received.Reads gets (y.published later) unread ∧
      (gets.filterMap Received.item?).length + (gets.map Received.lost).sum + unread.length =
        (y.published later).length := by
  intro y later gets unread
  have hb : Bus.ofCapacity? 3 = some ({ retained := 4 } : Bus Nat) := by
    have hpower : Nat.nextPowerOfTwo 3 = 4 := by decide +kernel
    have hfits : max 3 1 ≤ Bus.greatestCapacity := by decide
    simp only [Bus.ofCapacity?, if_pos hfits]
    exact congrArg (fun n => some ({ retained := n } : Bus Nat)) hpower
  have hcursor : (y.after later).cursors[0]? = some (some 5) := by decide +kernel
  obtain ⟨-, -, haccounts⟩ := accounts hb
  obtain ⟨hreads, hlength, -⟩ := haccounts [.publish 0 [0]] later 0 0 5 y rfl hcursor
  exact ⟨hb, hcursor, by decide +kernel, by decide +kernel, by decide +kernel, hreads, hlength⟩

end Exchange

end FleetAgent
