import FleetAgent.Agent.Gates
import FleetAgent.Proofs.Agent.Watching

/-!
# Sections without anybody at the gates

A section is its parts in a row: if nobody comes first at the gates, and a call that runs goes on
there at once, then the parts come to what the section comes to. No section has more than four
gates.

## Main definitions

* `Agent.settle`: a part with those that follow behind gates.
* `Agent.ComesTo`: a part with those that follow is a section.

## Main results

* `Agent.settle_beginPart`, `Agent.settle_resumePart`: every section is its parts in a row.
-/

namespace FleetAgent

namespace Turn

variable {σ ρ υ ω : Type}

theorem andThen_assoc (t : Turn σ ρ) (f : ρ → σ → Turn σ υ) (g : υ → σ → Turn σ ω) :
    (t.andThen f).andThen g = t.andThen fun r s => (f r s).andThen g := by
  simp only [andThen, List.append_assoc]

theorem map_eq_andThen (t : Turn σ ρ) (f : ρ → υ) :
    t.map f = t.andThen fun r s => { state := s, result := f r } := by
  simp only [map, andThen, List.append_nil]

theorem map_andThen (t : Turn σ ρ) (f : ρ → σ → Turn σ υ) (g : υ → ω) :
    (t.andThen f).map g = t.andThen fun r s => (f r s).map g := rfl

theorem andThen_congr {t : Turn σ ρ} {f g : ρ → σ → Turn σ υ} (h : ∀ r s, f r s = g r s) :
    t.andThen f = t.andThen g :=
  congrArg t.andThen (funext₂ h)

end Turn

namespace Agent

variable {κ κ' ρ ω : Type} {a : Agent} {draw n ticket : Nat}

/-- A part with those that follow behind gates where nobody comes first, for a number of gates. -/
def settle (draw : Nat) : Nat → PartTurn → PartTurn
  | 0, t => t
  | n + 1, t => t.andThen fun progress a => match progress with
    | .waiting (.gate g) => settle draw n (a.passPart draw g)
    | progress => { state := a, result := progress }

theorem settle_andThen (n : Nat) (t : Turn Agent ρ) (f : ρ → Agent → PartTurn) :
    settle draw n (t.andThen f) = t.andThen fun r a => settle draw n (f r a) := by
  cases n with
  | zero => rfl
  | succ n => exact t.andThen_assoc f _

theorem settle_ungated (n : Nat) (t : ActivityTurn) : settle draw n (ungated t) = ungated t := by
  obtain ⟨b, es, progress⟩ := t
  cases n with
  | zero => rfl
  | succ n => cases progress <;> simp [settle, ungated, Turn.map, Turn.andThen, Progress.map]

/-- A part with those that follow behind gates, of which there are at most so many, is a section. -/
def ComesTo (draw n : Nat) (t : PartTurn) (u : ActivityTurn) : Prop :=
  ∀ m, n ≤ m → settle draw m t = ungated u

theorem comesTo_ungated (t : ActivityTurn) : ComesTo draw n (ungated t) t :=
  fun m _ => settle_ungated m t

theorem ComesTo.andThen {f : ρ → Agent → PartTurn} {g : ρ → Agent → ActivityTurn}
    (h : ∀ r b, ComesTo draw n (f r b) (g r b)) (t : Turn Agent ρ) :
    ComesTo draw n (t.andThen f) (t.andThen g) := fun m hm => by
  rw [settle_andThen]
  exact Turn.andThen_congr fun r b => h r b m hm

theorem ComesTo.map {f : ρ → Progress Place Outcome} {g : ρ → Agent → ActivityTurn}
    (h : ∀ r b, ComesTo draw n { state := b, result := f r } (g r b)) (t : Turn Agent ρ) :
    ComesTo draw n (t.map f) (t.andThen g) := by
  rw [Turn.map_eq_andThen]
  exact .andThen h t

theorem ComesTo.gate {g : Gate} {u : ActivityTurn} (h : ComesTo draw n (a.passPart draw g) u) :
    ComesTo draw (n + 1) { state := a, result := .waiting (.gate g) } u := fun m hm => by
  cases m with
  | zero => exact absurd hm (Nat.not_succ_le_zero n)
  | succ m => exact h m (Nat.le_of_succ_le_succ hm)

theorem ComesTo.mono {m : Nat} {t : PartTurn} {u : ActivityTurn} (h : ComesTo draw n t u)
    (hm : n ≤ m) : ComesTo draw m t u :=
  fun k hk => h k (Nat.le_trans hm hk)

/-! ### Taking the session down -/

/-- The session is taken down in two parts, with what follows. -/
theorem comesTo_takeDownPart (gate : Teardown → Gate) {next : Agent → PartTurn}
    {u : Agent → ActivityTurn}
    (hgate : ∀ (b : Agent) stage, b.passPart draw (gate stage) = b.takeDownPart stage gate next)
    (hnext : ∀ b, ComesTo draw n (next b) (u b)) :
    ComesTo draw (n + 1) (a.takeDownPart .begin gate next)
      ((a.onSession Session.disconnect).andThen fun _ a => u a) := by
  have hlast (b : Agent) (session : Option String) :
      ComesTo draw n (b.passPart draw (gate (.finish session)))
        ((b.onSession (·.finishDisconnect session)).andThen fun _ a => u a) := by
    rw [hgate]
    exact .andThen (fun _ c => hnext c) _
  by_cases h : a.session.state = .closed
  · simp only [takeDownPart, onSession, Session.takeDown, Session.beginDisconnect_of_closed h,
      Session.disconnect_of_closed h]
    exact (hnext a).mono (Nat.le_succ n)
  · simp only [takeDownPart, onSession, Session.takeDown, Session.disconnect,
      Session.beginDisconnect_of_ne h]
    let b : Agent := { a with session := { a.session with state := .shuttingDown, live := none } }
    exact .gate (hlast b _)

/-! ### Loading and enabling -/

/-- A load that gives way to another handle. -/
theorem comesTo_yield {e : RegistrationError} (h : a.registration.setup .own = .error e)
    (session : String) :
    ComesTo draw 3 { state := a, result := .waiting (.gate (.yield e .begin)) }
      (immediate (a.finishLoad (.ok session)) (.ofUnit id)) := by
  have hload : immediate (a.finishLoad (.ok session)) (.ofUnit id) =
      (a.onSession Session.disconnect).andThen fun _ a =>
        immediate (a.onSession Session.reset) (.ofReset e) := by
    simp only [finishLoad, h, immediate, Turn.map_andThen]
    refine Turn.andThen_congr fun _ b => ?_
    rcases b.onSession Session.reset with ⟨c, es, e' | ⟨⟨⟩⟩⟩ <;> rfl
  rw [hload]
  exact .gate (comesTo_takeDownPart (.yield e) (fun _ _ => rfl) fun b => .gate (comesTo_ungated _))

theorem comesTo_loadPart (t : Turn Agent (Progress Connect (Except SessionError String))) :
    ComesTo draw 3 (loadPart t) ((continueLoad t).map (·.map .load (.ofUnit id))) := by
  rw [continueLoad, Turn.map_andThen]
  refine .andThen (fun progress b => ?_) t
  rcases progress with stage | e | session
  · exact comesTo_ungated { state := b, result := .waiting (.load stage) }
  · exact comesTo_ungated (b.observing (.failed (.session e)))
  · cases h : b.registration.setup .own with
    | error e => exact comesTo_yield h session
    | ok registration => exact comesTo_ungated (immediate (b.finishLoad (.ok session)) (.ofUnit id))

theorem comesTo_enablePart (stage : Enable) (answer : Except ClientError Unit) :
    ComesTo draw 1 (a.enablePart stage answer)
      ((a.resumeEnable stage answer).map (·.map .enable (.ofUnit id))) := by
  rw [resumeEnable, Turn.map_andThen]
  refine .andThen (fun outcome b => ?_) _
  rcases outcome with e | ⟨⟨⟩⟩
  · cases stage <;> exact comesTo_ungated (b.observing (.failed (.session e)))
  · cases stage with
    | readying call => exact comesTo_ungated (b.observing .finished)
    | running call =>
      let c : Agent := { b with isEnabled := true }
      have hready :
          ungated
            { state := c
              result := (c.session.beginStatus (.ready true)).map
                (fun call => .enable (.readying call)) (.ofUnit .session) } =
          ungated
            { state := c
              result := ((c.session.beginStatus (.ready true)).map Enable.readying
                (·.mapError .session)).map .enable (.ofUnit id) } := by
        rcases c.session.beginStatus (.ready true) with call | e | ⟨⟨⟩⟩ <;> rfl
      dsimp only
      split_ifs
      · exact .gate fun m _ => (settle_ungated m _).trans hready
      · exact comesTo_ungated (c.observing .finished)

/-! ### Disabling -/

theorem comesTo_joinedPart (inTime : Bool) :
    ComesTo draw 2 (a.joinedPart inTime)
      ((a.afterJoin inTime).map (·.map .disable (.ofUnit id))) := by
  rw [afterJoin, Turn.map_andThen]
  exact .map (fun _ b => .gate (comesTo_takeDownPart .disable (fun _ _ => rfl)
    fun c => comesTo_ungated _)) _

theorem comesTo_disablePart :
    ComesTo draw 2 a.disablePart (a.beginDisable.map (·.map .disable (.ofUnit id))) := by
  rw [beginDisable, Turn.map_andThen]
  refine .andThen (fun _ b => ?_) _
  rw [Turn.map_andThen]
  refine .andThen (fun _ c => ?_) _
  rw [Turn.map_andThen]
  refine .andThen (fun progress d => ?_) _
  cases progress with
  | waiting loop =>
    exact comesTo_ungated { state := d, result := .waiting (.disable (.joining loop)) }
  | done inTime => exact comesTo_joinedPart inTime

/-! ### Running -/

/-- The end of a call that runs does not wait for anybody. -/
theorem closePart_ungatedRun (t : Turn Agent RunProgress) :
    closePart ticket (ungatedRun ticket t) = ungated (closeRun ticket t) := by
  obtain ⟨b, es, stage | result⟩ := t <;> rfl

/-- The parts of a call that runs are its section. -/
def RunComesTo (draw ticket n : Nat) (t : RunPart) (u : Turn Agent RunProgress) : Prop :=
  ComesTo draw n (closePart ticket t) (closeRun ticket u)

theorem runComesTo_ungated (t : Turn Agent RunProgress) :
    RunComesTo draw ticket n (ungatedRun ticket t) t := by
  rw [RunComesTo, closePart_ungatedRun]
  exact comesTo_ungated _

theorem runComesTo_waiting (stage : FleetAgent.Run) :
    RunComesTo draw ticket n { state := a, result := .waiting (.wait (.run ticket stage)) }
      { state := a, result := .waiting stage } :=
  runComesTo_ungated { state := a, result := .waiting stage }

theorem runComesTo_done (result : Except RuntimeError Unit) :
    RunComesTo draw ticket n { state := a, result := .done result }
      { state := a, result := .done result } :=
  runComesTo_ungated { state := a, result := .done result }

theorem RunComesTo.andThen {f : ρ → Agent → RunPart} {g : ρ → Agent → Turn Agent RunProgress}
    (h : ∀ r b, RunComesTo draw ticket n (f r b) (g r b)) (t : Turn Agent ρ) :
    RunComesTo draw ticket n (t.andThen f) (t.andThen g) := by
  simp only [RunComesTo, closePart, closeRun, Turn.andThen_assoc]
  exact .andThen h t

theorem RunComesTo.gate {cause : SessionError} {attempt : Nat} {stage : Prospect}
    {u : Turn Agent RunProgress}
    (h : RunComesTo draw ticket n (a.prospectPart draw ticket cause attempt stage) u) :
    RunComesTo draw ticket (n + 1)
      { state := a, result := .waiting (.gate (.run ticket cause attempt stage)) } u :=
  ComesTo.gate h

section Recovery

variable (cause : SessionError) (attempt : Nat)

theorem runComesTo_readyPart :
    RunComesTo draw ticket 1 (a.readyPart ticket cause attempt) (a.repeatReady cause attempt) := by
  simp only [readyPart, repeatReady]
  split_ifs
  · exact .gate (runComesTo_ungated _)
  · exact runComesTo_waiting _

theorem RunComesTo.reportRunning {next : Agent → RunPart} {next' : Agent → Turn Agent RunProgress}
    (h : ∀ b, RunComesTo draw ticket n (next b) (next' b)) :
    RunComesTo draw ticket n
      (a.reportRunning (.wait <| .run ticket <| .recovering cause attempt <| .running ·) next)
      (a.reportRunning (.recovering cause attempt <| .running ·) next') := by
  simp only [Agent.reportRunning]
  rcases a.session.beginStatus .running with call | e | ⟨⟨⟩⟩
  · exact runComesTo_waiting _
  · exact .andThen (fun _ b => h b) _
  · exact h a

theorem runComesTo_finishReport (call : StatusCall) (answer : Except ClientError Unit) :
    RunComesTo draw ticket 1
      (a.finishReport call answer (.wait (.run ticket .watching))
        (·.readyPart ticket cause attempt))
      (a.resumeReport cause attempt call answer) := by
  refine .andThen (fun outcome b => ?_) _
  cases call.report with
  | running => exact .andThen (fun _ c => runComesTo_readyPart cause attempt) _
  | ready | stop =>
    dsimp only
    rw [Turn.map_eq_andThen, Turn.map_eq_andThen]
    exact .andThen (fun _ c => runComesTo_waiting _) _

theorem runComesTo_attemptPart
    (t : Turn Agent (Progress Connect (Except SessionError String))) :
    RunComesTo draw ticket 2 (attemptPart ticket cause attempt draw t)
      (continueConnect cause attempt draw t) := by
  refine .andThen (fun progress b => ?_) t
  rcases progress with stage | e | session
  · exact runComesTo_waiting _
  · exact runComesTo_ungated
      (continueConnect cause attempt draw { state := b, result := .done (.error e) })
  · refine .andThen (fun _ c => ?_) _
    simp only [repeatReports]
    split_ifs
    · exact .gate (.reportRunning cause attempt fun _ => runComesTo_readyPart cause attempt)
    · exact runComesTo_waiting _

theorem runComesTo_pausing :
    RunComesTo draw ticket 4
      { state := a
        result := .waiting <| .gate <| .run ticket cause attempt <|
          if a.session.state = .closed then .resetting else .opening }
      (a.afterPause cause attempt draw) := by
  by_cases h : a.session.state = .closed
  · rw [if_pos h, afterPause, if_pos h]
    refine .gate ?_
    rw [prospectPart, Turn.map_eq_andThen]
    refine .andThen (fun outcome b => ?_) _
    rcases outcome with e | ⟨⟨⟩⟩
    · exact runComesTo_done _
    · exact .gate (runComesTo_attemptPart cause attempt _)
  · rw [if_neg h, afterPause_of_ne h]
    exact .gate (ComesTo.mono (runComesTo_attemptPart cause attempt _) (by decide))

/-- The parts of a recovery. -/
theorem settle_recoveryPart (d : Delivery) (stage : Recovery) :
    (a.recoveryPart d ticket cause attempt stage).map
        (fun t => settle d.draw 4 (closePart ticket t)) =
      (a.resumeRecovery d cause attempt stage).map fun t => ungated (closeRun ticket t) := by
  cases stage with
  | pausing delay =>
    have hpause : RunComesTo d.draw ticket 4 _ (a.afterPause cause attempt d.draw) :=
      runComesTo_pausing cause attempt
    rw [recoveryPart, resumeRecovery]
    by_cases hd : d.elapsed
    · rw [if_pos hd, if_pos hd]
      exact congrArg some (hpause 4 (Nat.le_refl 4))
    · rw [if_neg hd, if_neg hd]
      rfl
  | connecting stage =>
    have hattempt (answer : (stage.request a.session.host).Answer) :
        RunComesTo d.draw ticket 2
          (attemptPart ticket cause attempt d.draw
            ((Connect.resume a.session stage answer).within fun session => { a with session }))
          (a.resumeConnect cause attempt d.draw stage answer) :=
      runComesTo_attemptPart cause attempt _
    rw [recoveryPart, resumeRecovery, Option.map_map, Option.map_map]
    exact Option.map_congr fun answer _ => hattempt answer 4 (by decide)
  | running call | readying call =>
    have hreport (answer : Except ClientError Unit) :
        RunComesTo d.draw ticket 1
          (a.finishReport call answer (.wait (.run ticket .watching))
            (·.readyPart ticket cause attempt))
          (a.resumeReport cause attempt call answer) :=
      runComesTo_finishReport cause attempt call answer
    rw [recoveryPart, resumeRecovery, Option.map_map, Option.map_map]
    exact Option.map_congr fun answer _ => hreport (call.answer answer) 4 (by decide)

end Recovery

/-- The parts of a call that watches. -/
theorem settle_noticePart :
    (a.noticePart draw ticket).map (fun t => settle draw 4 (closePart ticket t)) =
      (a.onNotice draw).map fun t => ungated (closeRun ticket t) := by
  have hplain : ((a.onNotice draw).map (ungatedRun ticket)).map
      (fun t => settle draw 4 (closePart ticket t)) =
        (a.onNotice draw).map fun t => ungated (closeRun ticket t) := by
    rw [Option.map_map]
    exact Option.map_congr fun t _ => runComesTo_ungated t 4 (Nat.zero_le 4)
  cases h : a.notices.pop? with
  | none => simpa only [noticePart, h] using hplain
  | some p =>
    obtain ⟨termination, notices⟩ := p
    cases termination with
    | requested => simpa only [noticePart, h] using hplain
    | lost cause =>
      have hattempt : RunComesTo draw ticket 1
          { state := { a with notices }
            result := .waiting (.gate (.run ticket cause 1 .starting)) }
          ({ a with notices }.beginAttempt cause 1 draw) := .gate (runComesTo_ungated _)
      simp only [noticePart, onNotice, h, Option.map_some]
      exact congrArg some (hattempt 4 (by decide))

/-- What a call that runs finds is seen alike whatever it comes to. -/
theorem map_lookout {order : List Concern} {shutdown : Option (Except String Unit)}
    {work : Option (Turn Agent (Progress κ (Except RuntimeError Unit)))}
    {work' : Option (Turn Agent (Progress κ' (Except RuntimeError Unit)))}
    {f : Turn Agent (Progress κ (Except RuntimeError Unit)) → ω}
    {g : Turn Agent (Progress κ' (Except RuntimeError Unit)) → ω}
    (hdone : ∀ (t : Turn Agent Unit) r, f (t.map fun _ => .done r) = g (t.map fun _ => .done r))
    (hwork : work.map f = work'.map g) :
    (a.lookout order shutdown work).map f = (a.lookout order shutdown work').map g := by
  simp only [lookout, List.map_findSome?]
  congr 1
  funext concern
  cases concern with
  | shutdown =>
    simp only [Function.comp_apply, Option.map_map]
    refine Option.map_congr fun outcome _ => ?_
    rcases outcome with reason | ⟨⟨⟩⟩
    · exact hdone { state := a, result := () } _
    · exact hdone a.requestShutdown _
  | stopping =>
    simp only [Function.comp_apply]
    split_ifs
    · exact congrArg some (hdone { state := a, result := () } _)
    · rfl
  | work => exact hwork

theorem settle_runPart (d : Delivery) (stage : FleetAgent.Run) :
    (a.runPart d ticket stage).map (fun t => settle d.draw 4 (closePart ticket t)) =
      (a.resumeRun d stage).map fun t => ungated (closeRun ticket t) := by
  have hdone (t : Turn Agent Unit) (r : Except RuntimeError Unit) :
      settle d.draw 4 (closePart ticket (t.map fun _ => .done r)) =
        ungated (closeRun ticket (t.map fun _ => .done r)) :=
    runComesTo_ungated (t.map fun _ => .done r) 4 (Nat.zero_le 4)
  cases stage with
  | queued => rfl
  | watching => exact map_lookout hdone settle_noticePart
  | recovering cause attempt stage =>
    exact map_lookout hdone (settle_recoveryPart cause attempt d stage)

/-! ### Heartbeat loops -/

theorem comesTo_beatPart (k : Nat) :
    ComesTo draw n (a.beatPart k)
      ((a.onSession Session.beginBeat).andThen fun progress a => match progress with
        | .waiting beat =>
          { state := a, result := .waiting (.loop k (some (.session beat))) }
        | .done outcome => a.loopAfterBeat k outcome) := by
  refine .andThen (fun progress b => ?_) _
  cases progress with
  | waiting beat =>
    exact comesTo_ungated { state := b, result := .waiting (.loop k (some (.session beat))) }
  | done outcome => exact comesTo_ungated _

theorem map_settle_ungated (draw n : Nat) (t : Option ActivityTurn) :
    (t.map ungated).map (settle draw n) = t.map ungated := by
  rw [Option.map_map]
  exact Option.map_congr fun t _ => settle_ungated n t

theorem settle_advancePart (k : Nat) (now : Instant) :
    (a.advancePart k now).map (settle draw 4) = (a.advanceLoop k now).map ungated := by
  have hplain := map_settle_ungated draw 4 (a.advanceLoop k now)
  cases hr : (a.onScheduler (·.advance k now)).result with
  | again | blocked | ended => simpa only [advancePart, hr] using hplain
  | beat =>
    cases hh : a.heart with
    | own => simpa only [advancePart, hr, hh] using hplain
    | session =>
      simp only [advancePart, advanceLoop, hr, hh, Option.map_some]
      refine congrArg some (ComesTo.map (n := 1) (fun _ b => ?_) _ 4 (by decide))
      exact .gate (comesTo_beatPart k)

/-! ### All sections -/

/-- The first section of a call is its parts in a row. -/
theorem settle_beginPart (op : Operation) :
    settle draw 4 (a.beginPart op) = ungated (a.begin op) := by
  cases op with
  | load =>
    simp only [beginPart, begin, beginLoad]
    split_ifs
    · rfl
    · exact ComesTo.gate (comesTo_loadPart _) 4 (Nat.le_refl 4)
  | disable => exact comesTo_disablePart 4 (by decide)
  | disconnect =>
    have hdown : ComesTo draw 1 (a.takeDownPart .begin .disconnect fun a =>
        { state := a, result := .done .finished })
          ((a.onSession Session.disconnect).andThen fun _ a => a.observing .finished) :=
      comesTo_takeDownPart .disconnect (fun _ _ => rfl) fun b =>
        comesTo_ungated (b.observing .finished)
    exact (hdown 4 (by decide)).trans (congrArg ungated (Turn.map_eq_andThen _ _).symm)
  | connect | beat | reset | client | state | report | disableAutoReady | start | stop | join
  | interval | enable | run => exact settle_ungated 4 _

/-- The section of an activity is its parts in a row. -/
theorem settle_resumePart (d : Delivery) (w : Activity) :
    (a.resumePart d w).map (settle d.draw 4) = (a.resume d w).map ungated := by
  have hplain := map_settle_ungated d.draw 4 (a.resume d w)
  cases w with
  | connect | beat | status | join | listener | worker => exact hplain
  | load stage =>
    rw [resumePart, resume, Option.map_map, Option.map_map]
    exact Option.map_congr fun answer _ => comesTo_loadPart _ 4 (by decide)
  | enable stage =>
    rw [resumePart, resume, Option.map_map, Option.map_map]
    exact Option.map_congr fun answer _ => comesTo_enablePart stage _ 4 (by decide)
  | disable stage =>
    cases stage with
    | flushing => exact hplain
    | joining loop =>
      have hjoin (inTime : Bool) :
          settle d.draw 4 (a.joinedPart inTime) =
            ungated ((a.afterJoin inTime).map (·.map .disable (.ofUnit id))) :=
        comesTo_joinedPart inTime 4 (by decide)
      simp only [resumePart, resume, disableIsDue]
      split_ifs
      · exact congrArg some (hjoin true)
      · exact congrArg some (hjoin false)
      · rfl
  | run ticket stage =>
    cases stage with
    | queued => exact hplain
    | watching | recovering =>
      simp only [resumePart, resume, Option.map_map]
      exact settle_runPart d _
  | loop k beat =>
    cases beat with
    | none => exact settle_advancePart k d.now
    | some beat => exact hplain

end Agent

end FleetAgent
