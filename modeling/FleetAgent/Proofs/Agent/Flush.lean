import FleetAgent.Proofs.Agent.Accounts
import Mathlib.Data.List.Basic

/-!
# The end of the listener

Once it is told to, the listener hands on what is left on the bus, lets no more events into the
queues, and waits for the workers one after the other. So when it has ended, every subscriber is
done with all that was on the bus when nothing was left to hand on, if nothing was lost on the way.

## Main definitions

* `Agent.Audience.awaited?`, `Agent.Audience.Orderly`: how far the listener is with its end.
* `Agent.Lossless`: nothing is lost on the way to the subscribers.

## Main results

* `Agent.Story.orderly`: the listener ends only when it is told to, after the workers.
* `Agent.Story.drained`: it has got everything before it lets no more events into the queues.
* `Agent.Story.finished_of_ended`: what the subscribers are done with when the listener has ended.
-/

namespace FleetAgent.Agent

variable {v v' : Audience} {deed : Deed} {es : List Notice}

/-! ### How far the listener is with its end -/

/-- The number of the workers for which the listener has waited, once it lets no more events into
the queues. -/
def Audience.awaited? (v : Audience) : Option Nat :=
  match v.listener? with
  | none => some v.fanout.boxes.length
  | some l => match l.stage with
    | .following | .draining => none
    | .closing i => some i

theorem Audience.awaited?_of_none (h : v.listener? = none) :
    v.awaited? = some v.fanout.boxes.length := by
  rw [awaited?, h]

theorem Audience.awaited?_of_closing {l : Listener} {i : Nat} (hl : v.listener? = some l)
    (hstage : l.stage = .closing i) : v.awaited? = some i := by
  simp only [awaited?, hl, hstage]

theorem Audience.awaited?_of_open {l : Listener} (hl : v.listener? = some l)
    (hstage : ∀ i, l.stage ≠ .closing i) : v.awaited? = none := by
  simp only [awaited?, hl]
  cases hs : l.stage with
  | following | draining => rfl
  | closing i => exact absurd hs (hstage i)

theorem Audience.awaited?_congr (hl : v'.listener? = v.listener?)
    (hlength : v'.fanout.boxes.length = v.fanout.boxes.length) : v'.awaited? = v.awaited? := by
  rw [awaited?, awaited?, hl, hlength]

/-- The listener ends only when it is told to, and after the workers for which it has waited. -/
structure Audience.Orderly (v : Audience) : Prop where
  /-- It goes on to its end only when it is told to. -/
  told : (∀ l, v.listener? = some l → l.stage ≠ .following) → v.isFlushing
  /-- Its end is known only then. -/
  known : v.listenerEnded → v.listener? = none
  /-- The workers for which it has waited have ended. -/
  gone : ∀ n, v.awaited? = some n → ∀ i < n, v.worker? i = none

/-- Something is done that the listener has no part in. -/
theorem Audience.Orderly.still (h : v.Orderly) (hl : v'.listener? = v.listener?)
    (hlength : v'.fanout.boxes.length = v.fanout.boxes.length)
    (hflush : v.isFlushing → v'.isFlushing) (hknown : v'.listenerEnded = v.listenerEnded)
    (hw : ∀ i, v.worker? i = none → v'.worker? i = none) : v'.Orderly where
  told := by rw [hl]; exact hflush ∘ h.told
  known := by rw [hl, hknown]; exact h.known
  gone n hn i hi := hw i (h.gone n (Audience.awaited?_congr hl hlength ▸ hn) i hi)

/-- The listener goes on. -/
theorem Audience.Orderly.goes (h : v.Orderly) {l l' : Listener} (hl : v.listener? = some l)
    (hl' : v'.listener? = some l') (hflush : l'.stage ≠ .following → v'.isFlushing)
    (hknown : v'.listenerEnded = v.listenerEnded)
    (hgone : ∀ n, v'.awaited? = some n → ∀ i < n, v'.worker? i = none) : v'.Orderly where
  told hstage := hflush (hstage l' hl')
  known hended := absurd ((hl.symm.trans (h.known (hknown.symm.trans hended)))) (by simp)
  gone := hgone

theorem Audience.Orderly.step (h : v.Orderly)
    (hserved : ∀ i m, v.fanout.boxes[i]? = some m → m.isServed = (v.worker? i).isSome)
    (hd : Attends v deed es v') : v'.Orderly := by
  have hlength := hd.length_boxes
  -- a worker that has ended does not come back
  have hwork {i : Nat} {stage stage' : WorkerStage} (hw : v.worker? i = some stage) (j : Nat)
      (hj : v.worker? j = none) : (v.work i (some stage')).worker? j = none := by
    have hne : j ≠ i := fun hji => by simp [hji, hw] at hj
    simpa [Audience.work, hne] using hj
  have hopen {l l' : Listener} (hl : v.listener? = some l) (hl' : v'.listener? = some l')
      (hstage : ∀ i, l'.stage ≠ .closing i) (hflush : l'.stage ≠ .following → v'.isFlushing)
      (hknown : v'.listenerEnded = v.listenerEnded) : v'.Orderly := by
    refine h.goes hl hl' hflush hknown fun n hn => ?_
    rw [Audience.awaited?_of_open hl' hstage] at hn
    cases hn
  cases hd with
  | publish es isFlushing hflush => exact h.still rfl rfl hflush rfl fun _ => id
  | revise => exact h.still rfl hlength id rfl fun _ => id
  | hand l n cursor first hl hstage | lag l k cursor hl hstage =>
    refine hopen hl rfl hstage (fun hs => h.told fun l' hl' => ?_) rfl
    rwa [← Option.some.inj (hl.symm.trans hl')]
  | drain l hl hstage hr hflush => exact hopen hl rfl (by simp) (fun _ => hflush) rfl
  | close l hl hstage hr =>
    refine h.goes hl rfl (fun _ => h.told fun l' hl' => ?_) rfl fun n hn i hi => ?_
    · rw [← Option.some.inj (hl.symm.trans hl'), hstage]
      simp
    · obtain rfl := Option.some.inj hn
      cases hi
  | await l i hl hstage hi hended =>
    refine h.goes hl rfl (fun _ => h.told fun l' hl' => ?_) rfl fun n hn j hj => ?_
    · rw [← Option.some.inj (hl.symm.trans hl'), hstage]
      simp
    · obtain rfl := Option.some.inj hn
      rcases Nat.lt_succ_iff_lt_or_eq.mp hj with hj | rfl
      · exact h.gone i (Audience.awaited?_of_closing hl hstage) j hj
      · have hm := List.getElem?_eq_getElem hi
        have hworker := hserved j _ hm
        simp only [Fanout.hasEnded, hm, Option.map_some, Option.getD_some] at hended
        simpa [hworker] using hended
  | retire l i hl hstage hi =>
    refine ⟨fun _ => h.told fun l' hl' => ?_, fun _ => rfl, fun n hn j hj => ?_⟩
    · rw [← Option.some.inj (hl.symm.trans hl'), hstage]
      simp
    · obtain rfl := Option.some.inj hn
      exact h.gone i (Audience.awaited?_of_closing hl hstage) j (Nat.lt_of_lt_of_le hj hi)
  | start i n rest m hw hm | finish i n m hw hm | report i n m failing first hw hm =>
    exact h.still rfl hlength id rfl (hwork hw)
  | leave i m hw hm | collapse i n m failing hw hm =>
    refine h.still rfl hlength id rfl fun j hj => ?_
    by_cases hji : j = i <;> simp [Audience.lose, Audience.work, hji, hj]

variable {h : List Scene} {x : Traffic}

theorem Story.orderly (hx : Story h x) : x.audience.Orderly := by
  induction hx with
  | new ha =>
    rw [Traffic.audience_ofAgent ha]
    exact
      { told := fun hstage => absurd rfl (hstage _ rfl)
        known := fun hended => by cases hended
        gone := fun n hn => by cases hn }
  | snoc hx he ih =>
    exact ih.step (fun i m hm => (hx.account hm).served) (hx.seated.attends_happen he).1

/-! ### What is left on the bus -/

/-- The listener gets nothing any more. -/
theorem Attends.receipt?_of_awaited? (hd : Attends v deed es v') (hv : v.awaited?.isSome) :
    deed.receipt? = none ∧ v'.awaited?.isSome := by
  have hsame (hl : v'.listener? = v.listener?) : v'.awaited?.isSome := by
    rwa [Audience.awaited?_congr hl hd.length_boxes]
  have hclosed {l : Listener} (hl : v.listener? = some l) (hstage : ∀ i, l.stage ≠ .closing i) :
      False := by
    rw [Audience.awaited?_of_open hl hstage] at hv
    cases hv
  cases hd with
  | publish | revise | start | leave | finish | report | collapse => exact ⟨rfl, hsame rfl⟩
  | hand l n cursor first hl hstage | lag l k cursor hl hstage => exact (hclosed hl hstage).elim
  | drain l hl hstage | close l hl hstage => exact (hclosed hl (by simp [hstage])).elim
  | await | retire => exact ⟨rfl, rfl⟩

/-- The listener lets no more events into the queues when nothing is left on the bus. -/
theorem Attends.closes (hd : Attends v deed es v') (hv : v.awaited? = none)
    (hv' : v'.awaited?.isSome) :
    ∃ l, v.listener? = some l ∧ l.stage = .draining ∧ (v.bus.receive l.cursor).1 = .empty ∧
      deed = .receive .empty := by
  have hsame (hl : v'.listener? = v.listener?) : False := by
    rw [Audience.awaited?_congr hl hd.length_boxes, hv] at hv'
    cases hv'
  cases hd with
  | publish | revise | start | leave | finish | report | collapse => exact (hsame rfl).elim
  | hand l n cursor first hl hstage | lag l k cursor hl hstage =>
    have hopen := Audience.awaited?_of_open (v := v) hl hstage
    simp only [Audience.awaited?, hl] at hopen hv'
    rw [hopen] at hv'
    cases hv'
  | drain l hl hstage => cases hv'
  | close l hl hstage hr => exact ⟨l, hl, hstage, hr, rfl⟩
  | await l i hl hstage | retire l i hl hstage =>
    rw [Audience.awaited?_of_closing hl hstage] at hv
    cases hv

/-- When the listener lets no more events into the queues, it has got everything, and been told to
end before. -/
theorem Story.drained (hx : Story h x) (hclosed : x.audience.awaited?.isSome) :
    ∃ h₁ s h₂, h = h₁ ++ s :: h₂ ∧ s.before.agent.isFlushing ∧
      Received.Reads (receipts h) (published h₁) [] := by
  induction hx with
  | new ha =>
    rw [Traffic.audience_ofAgent ha] at hclosed
    cases hclosed
  | @snoc h x y e es hx he ih =>
    have hd := (hx.seated.attends_happen he).1
    cases hv : x.audience.awaited? with
    | some n =>
      obtain ⟨hnone, -⟩ := hd.receipt?_of_awaited? (by rw [hv]; rfl)
      obtain ⟨h₁, s, h₂, rfl, hflush, hreads⟩ := ih (by rw [hv]; rfl)
      refine ⟨h₁, s, h₂ ++ [⟨x, e, es, y⟩], by simp, hflush, ?_⟩
      simpa only [receipts, filterMap_concat, hnone, Option.toList_none, List.append_nil]
        using hreads
    | none =>
      obtain ⟨l, hl, hstage, hr, hdeed⟩ := hd.closes hv hclosed
      obtain ⟨cursor, hcursor, hle, hreads⟩ := hx.reading.reads
      obtain ⟨-, -, hend⟩ := hx.reading.logs.reads_receive hle
      have hend : cursor = (published h).length := hend (hcursor l hl ▸ hr)
      rw [hend, List.drop_length] at hreads
      refine ⟨h, ⟨x, e, es, y⟩, [], rfl, hx.orderly.told fun l' hl' => ?_, ?_⟩
      · rw [← Option.some.inj (hl.symm.trans hl'), hstage]
        simp
      · simpa only [receipts, filterMap_concat, hdeed, Deed.receipt?, Option.toList_some] using
          hreads.append (.empty (.nil _))

/-! ### Nothing is lost -/

/-- Nothing is lost on the way to the subscribers. -/
structure Lossless (h : List Scene) : Prop where
  /-- The listener does not lag behind the bus. -/
  keepsUp : ∀ r ∈ receipts h, r.isLagged = false
  /-- No queue refuses an event. -/
  room : ∀ s ∈ h, s.deed.offered?.isSome → ∀ m ∈ s.before.agent.fanout.boxes, m.refusal? = none
  /-- No subscriber fails on an event. -/
  fine : ∀ s ∈ h, s.deed.fails (fun _ => true) = false

/-- Every queue accepts what the listener gets. -/
theorem Lossless.accepted_eq (hl : Lossless h) (hx : Story h x) {i : Nat} (hi : i < x.seats) :
    accepted i h = received h := by
  refine List.filterMap_congr fun s hs => ?_
  cases hn : s.deed.offered? with
  | none => exact Audience.accepted?_of_none hn
  | some n =>
    have hlt : i < s.before.agent.fanout.boxes.length :=
      Nat.lt_of_lt_of_eq hi (hx.seats_before hs).symm
    have hm := List.getElem?_eq_getElem hlt
    have hroom := hl.room s hs (by rw [hn]; rfl) _ (List.getElem_mem hlt)
    simp [Audience.accepted?, hn, Traffic.audience, hm, hroom]

/-- No worker is lost. -/
theorem Lossless.not_collapses (hl : Lossless h) (i : Nat) : ¬ ∃ s ∈ h, s.Collapses i := by
  rintro ⟨s, hs, n, failing, hd, -⟩
  have hfine := hl.fine s hs
  rw [hd] at hfine
  cases hfine

/-- Once the listener has ended, every subscriber is done with all that was published before some
moment at which the listener had been told to end. -/
theorem Story.finished_of_ended (hx : Story h x) (hended : x.audience.listener? = none)
    (hl : Lossless h) :
    ∃ h₁ s h₂, h = h₁ ++ s :: h₂ ∧ s.before.agent.isFlushing ∧
      ∀ i < x.seats, finished i h = published h₁ := by
  have hawaited := Audience.awaited?_of_none hended
  obtain ⟨h₁, s, h₂, hsplit, hflush, hreads⟩ := hx.drained (by rw [hawaited]; rfl)
  refine ⟨h₁, s, h₂, hsplit, hflush, fun i hi => ?_⟩
  have hm := List.getElem?_eq_getElem hi
  have haccount := hx.account hm
  have hworker : x.audience.worker? i = none := hx.orderly.gone _ hawaited i hi
  have hserved := haccount.served
  rw [hworker] at hserved
  have hkept := haccount.kept (.inr (hl.not_collapses i))
  have halone := haccount.alone
  have hitems := hreads.items_append hl.keepsUp
  rw [hworker] at halone
  rw [haccount.gone hserved, List.append_nil] at hkept
  rw [List.append_nil, receipts, List.filterMap_filterMap] at hitems
  calc finished i h = started i h := by rw [halone]; exact (List.append_nil _).symm
    _ = accepted i h := hkept.symm
    _ = received h := hl.accepted_eq hx hi
    _ = published h₁ := hitems

end FleetAgent.Agent
