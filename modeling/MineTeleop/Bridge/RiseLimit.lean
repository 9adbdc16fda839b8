import MineTeleop.Bridge.GearRejection
import MineTeleop.Bridge.StopReport

/-!
# The rise of the traction torque

The magnitude that one tick has reached is where the next one starts. Whatever comes between two
ticks can only drop it.

Proved here:

* `RiseLink`: the magnitude in memory is that of the latest tick, if that one drove, and zero
  otherwise; `riseLink_step` keeps it;
* `traction_rise`: in every run each driving tick starts from there or from zero, rises no faster
  than the rate, follows a lower target at once, and emits the magnitude rounded down to one step.
-/

namespace MineTeleop.Bridge

open Runs
open Vcu (CommandBatch)

/-! ## The regulation of a tick -/

section
variable (b : BridgeRuntime) (now : ℤ)

/-- The speed controller asks for a share of the torque limit. -/
def Regulated : Prop :=
  TractionPidActive (settledAt b now) (viewAt b now) now ∧ 0 < (regulatedAt b now).1

/-- The gear of the intent that is regulated. -/
def tractionGear : ℤ := (viewAt b now).intent.gear

/-- `target_motor_torque_nm`. -/
def targetTorqueNm : ℚ :=
  boundedMotorTorqueNm (regulatedAt b now).1 (sessionTorqueLimitNm (regulatedAt b now).2)

/-- Where the rise starts. -/
def startTorqueNm : ℚ := (regulatedAt b now).2.lastTractionTorqueMagnitudeNm

/-- The magnitude of this tick, before it is quantized. -/
def tractionTorqueNm : ℚ := (limitedAt b now).lastTractionTorqueMagnitudeNm

/-- The rise rate in force. -/
def riseRate : ℚ := b.speedControl.motorTorqueRiseRateNmPerS

end

section
variable {b : BridgeRuntime} {now : ℤ}

theorem regulatedAt_iterationView (b : BridgeRuntime) (now : ℤ) :
    iterationView (regulatedAt b now).2 = iterationView b := by
  rw [regulatedAt, regulateSpeed_iterationView, settledAt, settleLatches_iterationView,
    guarded_iterationView]

theorem Regulated.positive (h : Regulated b now) :
    0 < (viewAt b now).intent.normalizedLongitudinal := h.1.2.2.2.2.2.2.2.1

theorem Regulated.drives (h : Regulated b now) : tractionGear b now = 2 ∨ tractionGear b now = 3 :=
  h.1.2.2.2.2.2.2.2.2.1

theorem commands_settledAt (b : BridgeRuntime) (now : ℤ) : Commands b (settledAt b now) :=
  (commands_guarded b now).trans (commands_settleLatches _ _ now)

theorem Regulated.settled_ready (h : Regulated b now) :
    (settledAt b now).controller.state = .ready := h.1.2.2.2.2.2.2.2.2.2.1

theorem Regulated.ready (h : Regulated b now) : b.controller.state = .ready :=
  (commands_settledAt b now).keeps.2.2.2 h.settled_ready

theorem Regulated.noEstop (h : Regulated b now) : (settledAt b now).softwareEstop = false :=
  h.1.2.2.2.2.2.1

theorem Regulated.noPhysical (h : Regulated b now) :
    b.controller.physicalEmergencyLatched = false := by
  rw [← (commands_guarded b now).keeps.2.1]
  exact h.1.2.2.1

/-- The gear of the rise is the intent's, and a change of it starts from zero. -/
theorem Regulated.start (h : Regulated b now) :
    (regulatedAt b now).2.lastTractionGear = tractionGear b now ∧
      startTorqueNm b now =
        if (settledAt b now).lastTractionGear ≠ tractionGear b now then 0
        else (settledAt b now).lastTractionTorqueMagnitudeNm := by
  have hregulated : regulatedAt b now = regulateSpeed (settledAt b now) (viewAt b now) now
      (controlDtSeconds b now) := rfl
  have hforward : ¬((viewAt b now).intent.normalizedLongitudinal < 0 ∧
      (viewAt b now).physicalEmergencyLatched = false ∧
      (settledAt b now).hardOverspeedLatched = false) :=
    fun hbrakes => absurd hbrakes.1 (not_lt.mpr h.positive.le)
  unfold startTorqueNm
  rw [hregulated, regulateSpeed, if_neg hforward, if_pos h.1]
  exact ⟨rfl, rfl⟩

theorem Regulated.traction (h : Regulated b now) :
    tractionTorqueNm b now = riseLimitedMotorTorqueNm (startTorqueNm b now)
      (targetTorqueNm b now) (riseRate b) (controlDtSeconds b now) ∧
    (limitedAt b now).lastTractionGear = tractionGear b now := by
  have hspeed : (regulatedAt b now).2.speedControl = b.speedControl :=
    congrArg IterationView.speedControl (regulatedAt_iterationView b now)
  have hlimited : limitedAt b now =
      { (regulatedAt b now).2 with
        lastTractionTorqueMagnitudeNm :=
          riseLimitedMotorTorqueNm (startTorqueNm b now) (targetTorqueNm b now)
            (regulatedAt b now).2.speedControl.motorTorqueRiseRateNmPerS
            (controlDtSeconds b now) } := if_pos h
  unfold tractionTorqueNm riseRate
  rw [hlimited, ← hspeed]
  exact ⟨rfl, h.start.1⟩

theorem tractionTorqueNm_of_not_regulated (h : ¬Regulated b now) : tractionTorqueNm b now = 0 := by
  have hlimited : limitedAt b now = resetDirectTraction (regulatedAt b now).2 := if_neg h
  unfold tractionTorqueNm
  rw [hlimited]
  rfl

end

/-! ## One rise -/

section
variable {start target rate dt : ℚ}

theorem riseLimitedMotorTorqueNm_nonneg (hstart : 0 ≤ start) :
    0 ≤ riseLimitedMotorTorqueNm start target rate dt := by
  unfold riseLimitedMotorTorqueNm
  split_ifs with hzero hbelow hfree hinvalid
  · exact le_rfl
  · exact (lt_of_not_ge fun h => hzero (.inr h)).le
  · exact (lt_of_not_ge fun h => hzero (.inr h)).le
  · exact le_rfl
  · have hrate : 0 ≤ rate := le_of_not_gt fun h => hinvalid (.inl h)
    have hdt : 0 < dt := lt_of_not_ge fun h => hinvalid (.inr (.inr h))
    exact le_min (lt_of_not_ge fun h => hzero (.inr h)).le
      (add_nonneg hstart (mul_nonneg hrate hdt.le))

theorem riseLimitedMotorTorqueNm_le_add (hstart : 0 ≤ start) (hrate : 0 < rate) (hdt : 0 ≤ dt) :
    riseLimitedMotorTorqueNm start target rate dt ≤ start + rate * dt := by
  have hrise : 0 ≤ rate * dt := mul_nonneg hrate.le hdt
  unfold riseLimitedMotorTorqueNm
  split_ifs with hzero hbelow hfree
  · exact add_nonneg hstart hrise
  · exact hbelow.trans (le_add_of_nonneg_right hrise)
  · exact absurd hfree hrate.ne'
  · exact add_nonneg hstart hrise
  · exact min_le_right _ _

theorem riseLimitedMotorTorqueNm_of_le (hstart : 0 ≤ start) (htarget : 0 ≤ target)
    (h : target ≤ start) : riseLimitedMotorTorqueNm start target rate dt = target := by
  unfold riseLimitedMotorTorqueNm
  split_ifs with hzero
  · rcases hzero with hnegative | hnone
    · exact absurd hstart (not_le.mpr hnegative)
    · exact le_antisymm htarget hnone
  · rfl

end

/-! ## Ticks that drive -/

/-- A regulated tick that leaves the controller Ready and not stopped. -/
def TractionTick (st : Step BridgeRuntime Event Reply) (now : ℤ) : Prop :=
  st.event.tickTime? = some now ∧ st.before.running = true ∧ Regulated st.before now ∧
  st.after.controller.state = .ready ∧ st.after.controller.emergencyStop = false

/-- The latest tick of the loop. -/
def lastTick (past : History BridgeRuntime Event Reply) :
    Option (Step BridgeRuntime Event Reply) :=
  past.find? fun st => st.output.batch?.isSome

/-- The time since the latest tick; the first one counts a whole period. -/
def elapsedSeconds (past : History BridgeRuntime Event Reply) (now : ℤ) : ℚ :=
  match (lastTick past).bind fun st => st.event.tickTime? with
  | some last => (now - last) / nanosPerSecond
  | none => transmitPeriodSeconds

section
variable {b : BridgeRuntime} {now : ℤ} {chassis : ChassisOutcome}

/-- Whatever takes the command away takes the magnitude with it. -/
theorem commandChassis_estop_or_dropped (b : BridgeRuntime) (v : IntentView)
    (chassis : ChassisOutcome) :
    (commandChassis b v chassis).lastTractionTorqueMagnitudeNm = 0 ∨
      (commandChassis b v chassis).softwareEstop = b.softwareEstop := by
  cases chassis with
  | rejected => exact .inl rfl
  | raised => exact .inl rfl
  | controls wheels =>
    simp only [commandChassis]
    split
    · exact .inl rfl
    · simp only [enforceHardLatches, submitCommand]
      split
      · split
        · exact .inr rfl
        · exact .inl rfl
      · exact .inr rfl

theorem settleTick_estop_or_dropped (b : BridgeRuntime) (now : ℤ) (stateBefore : Vcu.State) :
    (settleTick b now stateBefore).lastTractionTorqueMagnitudeNm = 0 ∨
      (settleTick b now stateBefore).softwareEstop = b.softwareEstop := by
  have hrest : ∀ b', Slackens b' (updateFeedback
      (armFeedbackDeadline (latchSessionReady b' now) now)) := by
    intro b'
    unfold latchSessionReady armFeedbackDeadline
    split_ifs <;> exact ⟨rfl, .inr ⟨rfl, rfl⟩⟩
  have hdropped : ∀ {b'}, b'.lastTractionTorqueMagnitudeNm = 0 → (updateFeedback
      (armFeedbackDeadline (latchSessionReady b' now) now)).lastTractionTorqueMagnitudeNm = 0 := by
    intro b' hzero
    rcases (hrest b').2 with h | ⟨h, -⟩
    · exact h
    · rw [h, hzero]
  rw [settleTick_softwareEstop]
  by_cases hfault : (reportRevocation b).controller.state = .fault ∧ stateBefore ≠ .fault
  · refine .inl (hdropped ?_)
    rw [reportFault, if_pos hfault]
    rfl
  · have hsame : reportFault (reportRevocation b) stateBefore = reportRevocation b := if_neg hfault
    unfold settleTick
    rw [hsame]
    by_cases hrevoked : b.controller.handshakeRevoked = true ∧ b.handshakeRevokedReported = false
    · refine .inl (hdropped ?_)
      rw [reportRevocation, if_pos hrevoked]
      rfl
    · have hquiet : reportRevocation b = b := if_neg hrevoked
      exact .inr (by rw [hquiet])

/-- The magnitude a tick leaves behind: none, or that of its regulation. -/
theorem tick_reaches (hrun : b.running = true) (now : ℤ) (chassis : ChassisOutcome) :
    (tick b now chassis).2.lastControlTick = some now ∧
    ((tick b now chassis).2.lastTractionTorqueMagnitudeNm = 0 ∨
      Regulated b now ∧
        (tick b now chassis).2.lastTractionTorqueMagnitudeNm = tractionTorqueNm b now ∧
        (tick b now chassis).2.lastTractionGear = tractionGear b now ∧
        (tick b now chassis).2.softwareEstop = false) := by
  have hsettle := (eases_settleTick (ticked b now chassis) now b.controller.state).slackens
  have hclock : (guarded b now).lastControlTick = some now := (eases_guarded b now).slackens.1
  rw [tick_running hrun]
  have hticked : (ticked b now chassis).lastTractionTorqueMagnitudeNm =
      (prepareTick b now chassis).lastTractionTorqueMagnitudeNm := rfl
  have hestop : (ticked b now chassis).softwareEstop = (prepareTick b now chassis).softwareEstop :=
    rfl
  rcases prepareTick_cases b now chassis with hfault | hcommanded
  · have hzero : (prepareTick b now chassis).lastTractionTorqueMagnitudeNm = 0 := by
      rw [hfault]
      rfl
    refine ⟨hsettle.1.trans ?_, .inl ?_⟩
    · change (prepareTick b now chassis).lastControlTick = some now
      rw [hfault]
      exact hclock
    · rcases hsettle.2 with h | ⟨h, -⟩
      · exact h
      · rw [h, hticked, hzero]
  · obtain ⟨pid, valid, pidGear, target, magnitude, gear, hframe⟩ := limitedAt_frame b now
    have hcommand := (eases_commandChassis (limitedAt b now) (viewAt b now) chassis).slackens
    have hsettled := (eases_settleLatches (guarded b now) (viewAt b now) now).slackens.1
    have hlimitedClock : (limitedAt b now).lastControlTick = some now := by
      rw [hframe]
      exact hsettled.trans hclock
    have hprepared := hcommanded ▸ hcommand
    refine ⟨hsettle.1.trans (hprepared.1.trans hlimitedClock), ?_⟩
    rw [or_iff_not_imp_left]
    intro hne
    obtain ⟨hmagnitude, hgear⟩ := hsettle.2.resolve_left hne
    have hneTicked : (prepareTick b now chassis).lastTractionTorqueMagnitudeNm ≠ 0 :=
      fun hzero => hne (hmagnitude.trans (hticked.trans hzero))
    obtain ⟨hmagnitude', hgear'⟩ := hprepared.2.resolve_left hneTicked
    have hregulated : Regulated b now := by
      by_contra hno
      exact hneTicked (hmagnitude'.trans (tractionTorqueNm_of_not_regulated hno))
    have hcommandEstop : (prepareTick b now chassis).softwareEstop = (limitedAt b now).softwareEstop :=
      (hcommanded ▸ commandChassis_estop_or_dropped _ _ chassis).resolve_left hneTicked
    have hlimitedEstop : (limitedAt b now).softwareEstop = (settledAt b now).softwareEstop := by
      rw [hframe]
    refine ⟨hregulated, hmagnitude.trans (hticked.trans hmagnitude'),
      hgear.trans (hgear'.trans hregulated.traction.2), ?_⟩
    rw [(settleTick_estop_or_dropped _ now b.controller.state).resolve_left hne, hestop,
      hcommandEstop, hlimitedEstop]
    exact hregulated.noEstop

/-! ## Stops of a Ready controller -/

theorem advanceState_of_mismatch {c : Vcu.Controller} (h : Vcu.ReadyGearMismatch c) :
    (Vcu.advanceState c).state ≠ .ready := by
  have hcase := Vcu.advanceState_cases c
  generalize Vcu.advanceState c = result at hcase ⊢
  cases hcase with
  | emergency ha g =>
    have htarget := ha.2
    rw [h.1] at htarget
    exact absurd htarget (by decide)
  | handshakeLost hl => exact fun hready => Vcu.State.noConfusion hready
  | gearMismatch hg => exact fun hready => Vcu.State.noConfusion hready
  | stage ha hl hg => exact absurd h hg

/-- A controller that a tick leaves Ready but stopped has the bridge stopped as well. -/
theorem tick_ready_known (hi : BridgeInvariant b)
    (hk : b.controller.state = .ready → Known (stopView b)) (hrun : b.running = true)
    (hready : (tick b now chassis).2.controller.state = .ready)
    (hstop : (tick b now chassis).2.controller.emergencyStop = true) :
    (tick b now chassis).2.softwareEstop = true := by
  rw [tick_running hrun] at hready hstop ⊢
  dsimp only at hready hstop ⊢
  rw [settleTick_controller] at hready hstop
  have hadvanced : (Vcu.advanceState (prepareTick b now chassis).controller).state = .ready := hready
  have hstopped : (Vcu.advanceState (prepareTick b now chassis).controller).emergencyStop = true :=
    hstop
  rcases ready_of_advanceState hadvanced with hbefore | harming
  · have hknown := hk ((commands_prepareTick b now chassis).keeps.2.2.2 hbefore)
    exact tick_known_unless hi hknown
      (fun _ _ _ _ hmismatch => advanceState_of_mismatch hmismatch hadvanced) hstop
  · -- An arming controller that is stopped disarms instead of becoming Ready.
    have hcase := Vcu.advanceState_cases (prepareTick b now chassis).controller
    generalize Vcu.advanceState (prepareTick b now chassis).controller = result
      at hcase hadvanced hstopped
    cases hcase with
    | emergency ha g =>
      have hnot := Vcu.ready_of_stoppedState hadvanced
      exact absurd (harming.symm.trans hnot) (by decide)
    | handshakeLost hl => exact Vcu.State.noConfusion hadvanced
    | gearMismatch hg => exact Vcu.State.noConfusion hadvanced
    | stage ha hl hg =>
      obtain ⟨g, n, hframe⟩ := Vcu.advanceStage_frame (prepareTick b now chassis).controller
      rw [hframe] at hstopped
      have hon : (prepareTick b now chassis).controller.emergencyStop = true := hstopped
      refine absurd ⟨.inl hon, ?_⟩ ha
      rw [harming]
      decide

end

/-! ## The link between the ticks -/

/-- What the bridge remembers of the latest tick. -/
structure RiseLink (h : History BridgeRuntime Event Reply) (b : BridgeRuntime) : Prop where
  invariant : BridgeInvariant b
  known : b.controller.state = .ready → Known (stopView b)
  nonneg : 0 ≤ b.lastTractionTorqueMagnitudeNm
  clock : b.lastControlTick = (lastTick h).bind fun st => st.event.tickTime?
  reached : b.lastTractionTorqueMagnitudeNm = 0 ∨ b.controller.state ≠ .ready ∨
    ∃ st ∈ lastTick h, ∃ now, TractionTick st now ∧
      b.lastTractionTorqueMagnitudeNm = tractionTorqueNm st.before now ∧
      b.lastTractionGear = tractionGear st.before now

section
variable {opened b : BridgeRuntime} {h : History BridgeRuntime Event Reply} {now : ℤ}

theorem RiseLink.start_cases (hlink : RiseLink h b) (hregulated : Regulated b now) :
    startTorqueNm b now = 0 ∨ ∃ st ∈ lastTick h, ∃ last, TractionTick st last ∧
      tractionGear st.before last = tractionGear b now ∧
      startTorqueNm b now = tractionTorqueNm st.before last := by
  rw [hregulated.start.2]
  split
  · exact .inl rfl
  · rename_i hgear
    have hguarded := (eases_guarded b now).slackens
    have hsettled := hguarded.trans (eases_settleLatches _ (viewAt b now) now).slackens
    rcases hsettled.2 with hzero | ⟨hmagnitude, hsame⟩
    · exact .inl hzero
    · rcases hlink.reached with hzero | hnot | ⟨st, hst, last, htick, hreached, hheld⟩
      · exact .inl (hmagnitude.trans hzero)
      · exact absurd hregulated.ready hnot
      · refine .inr ⟨st, hst, last, htick, ?_, hmagnitude.trans hreached⟩
        rw [← hheld, ← hsame]
        exact not_not.mp hgear

theorem RiseLink.start_nonneg (hlink : RiseLink h b) (hregulated : Regulated b now) :
    0 ≤ startTorqueNm b now := by
  rw [hregulated.start.2]
  split
  · exact le_rfl
  · have hguarded := (eases_guarded b now).slackens
    have hsettled := hguarded.trans (eases_settleLatches _ (viewAt b now) now).slackens
    rcases hsettled.2 with hzero | ⟨hmagnitude, -⟩
    · exact hzero.ge
    · rw [settledAt, hmagnitude]
      exact hlink.nonneg

theorem lastTick_of_quiet {st : Step BridgeRuntime Event Reply} (hquiet : st.output.batch? = none) :
    lastTick (st :: h) = lastTick h := by
  simp [lastTick, hquiet]

/-- Between two ticks the link stays. -/
theorem RiseLink.call (hlink : RiseLink h b) {e : Event}
    (he : ∀ now chassis, e ≠ .tick now chassis)
    (hquiet : ((machine opened).observe b e).output.batch? = none) :
    RiseLink ((machine opened).observe b e :: h) (respond b e).2 := by
  have hcalls := calls_respond b e he
  have hslackens := slackens_respond b e he
  have hready : (respond b e).2.controller.state = .ready → b.controller.state = .ready :=
    hcalls.ready
  refine ⟨bridgeInvariant_respond b e hlink.invariant, fun hafter => ?_, ?_, ?_, ?_⟩
  · exact ((respond_cases b e he).keeps hlink.invariant.stops).2 (hlink.known (hready hafter))
  · rcases hslackens.2 with hzero | ⟨hmagnitude, -⟩
    · exact hzero.ge
    · rw [hmagnitude]
      exact hlink.nonneg
  · rw [lastTick_of_quiet hquiet, hslackens.1]
    exact hlink.clock
  · rw [lastTick_of_quiet hquiet]
    rcases hslackens.2 with hzero | ⟨hmagnitude, hgear⟩
    · exact .inl hzero
    · rw [hmagnitude, hgear]
      exact hlink.reached.imp id fun h => h.imp (fun hnot hafter => hnot (hready hafter)) id

/-- A tick of the loop that runs. -/
theorem RiseLink.tick (hlink : RiseLink h b) (hrun : b.running = true) (now : ℤ)
    (chassis : ChassisOutcome) :
    RiseLink ((machine opened).observe b (.tick now chassis) :: h) (tick b now chassis).2 := by
  have hlast : lastTick ((machine opened).observe b (.tick now chassis) :: h) =
      some ((machine opened).observe b (.tick now chassis)) := by
    have htransmits : ((machine opened).observe b (.tick now chassis)).output.batch?.isSome := by
      simp only [Machine.observe, machine, respond, tick_running hrun]
      rfl
    simp [lastTick, htransmits]
  obtain ⟨hclock, hreaches⟩ := tick_reaches hrun now chassis
  refine ⟨bridgeInvariant_tick hlink.invariant now chassis, fun hready hstop => ?_, ?_, ?_, ?_⟩
  · exact .inl (tick_ready_known hlink.invariant hlink.known hrun hready hstop)
  · rcases hreaches with hzero | ⟨hregulated, hmagnitude, -⟩
    · exact hzero.ge
    · rw [hmagnitude, hregulated.traction.1]
      exact riseLimitedMotorTorqueNm_nonneg (hlink.start_nonneg hregulated)
  · rw [hlast, hclock]
    rfl
  · rcases hreaches with hzero | ⟨hregulated, hmagnitude, hgear, hestop⟩
    · exact .inl hzero
    · refine .inr ?_
      rw [or_iff_not_imp_left]
      intro hnot
      have hready := not_not.mp hnot
      refine ⟨_, hlast, now, ⟨rfl, hrun, hregulated, hready, ?_⟩, hmagnitude, hgear⟩
      by_contra hon
      have hstop := tick_ready_known hlink.invariant hlink.known hrun hready
        (Bool.eq_true_of_not_eq_false hon)
      exact absurd (hstop.symm.trans hestop) Bool.noConfusion

theorem riseLink_step (hlink : RiseLink h b) (e : Event) :
    RiseLink ((machine opened).observe b e :: h) (respond b e).2 := by
  cases e with
  | tick now chassis =>
    cases hrun : b.running with
    | true => exact hlink.tick hrun now chassis
    | false =>
      have hsame : respond b (.tick now chassis) = (.transmitted none, b) := by
        simp only [respond, MineTeleop.Bridge.tick, if_pos hrun]
      have hquiet : ((machine opened).observe b (.tick now chassis)).output.batch? = none := by
        simp only [Machine.observe, machine, hsame]
        rfl
      rw [hsame]
      exact ⟨hlink.invariant, hlink.known, hlink.nonneg,
        by rw [lastTick_of_quiet hquiet]; exact hlink.clock,
        by rw [lastTick_of_quiet hquiet]; exact hlink.reached⟩
  | _ => exact hlink.call (fun _ _ h => Event.noConfusion h) rfl

theorem riseLink_opened (ho : Opened opened) : RiseLink [] opened := by
  have hview := ho.tractionView
  have hmagnitude : opened.lastTractionTorqueMagnitudeNm = 0 :=
    congrArg TractionView.lastTractionTorqueMagnitudeNm hview
  exact ⟨ho.fresh.invariant, fun _ => ho.fresh.known, hmagnitude.ge,
    congrArg TractionView.lastControlTick hview, .inl hmagnitude⟩

end

/-! ## The emitted torque -/

section
variable {b : BridgeRuntime} {now : ℤ} {chassis : ChassisOutcome}

/-- A command that the controller has taken, from the settled controller on. -/
theorem accepted_of_ready {c controller : Vcu.Controller} {command : Vcu.Command}
    (hcase : Vcu.SetCommandCase c command (true, controller))
    (hready : (Vcu.advanceState controller).state = .ready) :
    controller = { c with desired := command } := by
  cases hcase with
  | accepted hv hsame => rfl
  | regear hv hgear hstate =>
    rcases ready_of_advanceState hready with h | h
    · exact Vcu.State.noConfusion h
    · exact Vcu.State.noConfusion h

/-- What the parking of a settled bridge withholds is not withheld from a regulated tick. -/
theorem Regulated.not_withheld (h : Regulated b now) {command : Vcu.Command}
    (hready : (Vcu.advanceState { (settledAt b now).controller with desired := command }).state =
      .ready) :
    ¬Vcu.ParkingWithholds
      (Vcu.advanceState { (settledAt b now).controller with desired := command }) := by
  rintro ⟨⟨hauto, -⟩, hwithheld⟩
  rw [Vcu.advanceState_automaticParking] at hauto
  have henabled : automaticParkingEnabled (settledAt b now) = true := hauto
  rcases h.1.2.2.2.2.2.2.1 with hoff | ⟨hidle, -, hreleased⟩
  · exact absurd (henabled.symm.trans hoff) Bool.noConfusion
  · rcases hwithheld with (hrequested | hstate) | hnot
    · rw [Vcu.advanceState_automaticParkRequested] at hrequested
      have hexpired : IdlePark (settledAt b now) now := of_decide_eq_true hrequested
      exact hidle hexpired
    · exact hstate hready
    · rw [Vcu.advanceState_parkingReleased] at hnot
      exact hnot hreleased

theorem Regulated.not_braking (h : Regulated b now) (hi : BridgeInvariant b)
    {c : Vcu.Controller} (hfeedback : c.feedback = b.controller.feedback)
    (hstop : c.emergencyStop = false) (hready : c.state = .ready) : ¬Vcu.SafetyBrake c := by
  rintro (hon | hswitch | hmem)
  · exact absurd (hon.symm.trans hstop) Bool.noConfusion
  · rw [hfeedback] at hswitch
    have hlatched := hi.controller.latched_of_switch hswitch
    exact absurd (hlatched.symm.trans h.noPhysical) Bool.noConfusion
  · rw [hready] at hmem
    exact absurd hmem (by decide)

/-- The composed torque of a regulated tick. -/
theorem Regulated.composed (h : Regulated b now) (hi : BridgeInvariant b)
    (generated : Vcu.Command) :
    (composeCommand (limitedAt b now) (viewAt b now) generated).motorTorqueNm =
      fun _ => directionalMotorTorqueNm (tractionGear b now) (tractionTorqueNm b now) := by
  have hsession : (limitedAt b now).sessionReadyLatched = true :=
    (congrArg IterationView.sessionReadyLatched (limitedAt_iterationView b now)).trans
      (hi.latched_of_ready h.ready)
  have hforward : ¬(viewAt b now).intent.normalizedLongitudinal < 0 := not_lt.mpr h.positive.le
  simp only [composeCommand, hsession, hforward, decide_false, Bool.and_false]
  simp only [Bool.true_eq_false, Bool.false_eq_true, and_false, or_self, if_false]
  rfl

/-- The batch of a regulated tick that leaves the controller Ready and not stopped. -/
theorem Regulated.emits (h : Regulated b now) (hi : BridgeInvariant b)
    (hready : (ticked b now chassis).controller.state = .ready)
    (hstop : (ticked b now chassis).controller.emergencyStop = false) :
    (Vcu.commandBatch (ticked b now chassis).controller).motorTorque =
      fun _ => directionalMotorTorqueNm (tractionGear b now) (tractionTorqueNm b now) := by
  have hquiet : (prepareTick b now chassis).controller.emergencyStop = false := by
    by_contra hon
    have hstopped := Vcu.advanceState_stop_of_stop (prepareTick b now chassis).controller
      (Bool.eq_true_of_not_eq_false hon)
    exact absurd (hstopped.symm.trans hstop) Bool.noConfusion
  have haccepts : AcceptsIntent (prepareTick b now chassis).controller.state := by
    rcases ready_of_advanceState hready with hstate | hstate <;> (rw [hstate]; decide)
  obtain ⟨generated, controller, -, hcase, hprepared⟩ := prepareTick_delivers hquiet haccepts
  have hticked : (ticked b now chassis).controller = Vcu.advanceState controller := by
    rw [ticked, hprepared]
  rw [hticked] at hready hstop ⊢
  obtain rfl := accepted_of_ready hcase hready
  have hfeedback : (Vcu.advanceState { (settledAt b now).controller with
      desired := composeCommand (limitedAt b now) (viewAt b now) generated }).feedback =
        b.controller.feedback :=
    (Vcu.advanceState_feedback _).trans (commands_settledAt b now).keeps.1
  rw [Vcu.commandBatch_motorTorque, if_neg (h.not_braking hi hfeedback hstop hready),
    if_neg (h.not_withheld hready), if_pos hready, Vcu.advanceState_desired]
  exact h.composed hi generated

end

/-! ## The law of the rise -/

/-- What a driving tick does with the magnitude. -/
structure RiseLaw (st : Step BridgeRuntime Event Reply)
    (past : History BridgeRuntime Event Reply) (now : ℤ) : Prop where
  starts : startTorqueNm st.before now = 0 ∨ ∃ previous ∈ lastTick past, ∃ last,
    TractionTick previous last ∧
    tractionGear previous.before last = tractionGear st.before now ∧
    startTorqueNm st.before now = tractionTorqueNm previous.before last
  grows : 0 < riseRate st.before → tractionTorqueNm st.before now ≤
    startTorqueNm st.before now + riseRate st.before * elapsedSeconds past now
  follows : tractionTorqueNm st.before now ≤ targetTorqueNm st.before now ∧
    (targetTorqueNm st.before now ≤ startTorqueNm st.before now →
      tractionTorqueNm st.before now = targetTorqueNm st.before now)
  limited : tractionTorqueNm st.before now ≤ st.before.runtimeControl.maxMotorTorqueNm
  emitted : ∀ batch ∈ st.output.batch?, ∀ i,
    |batch.motorTorque i| ≤ tractionTorqueNm st.before now ∧
    tractionTorqueNm st.before now - motorTorqueResolutionNm < |batch.motorTorque i|

section
variable {b : BridgeRuntime} {h : History BridgeRuntime Event Reply} {now : ℤ}

theorem targetTorqueNm_nonneg (b : BridgeRuntime) (now : ℤ) : 0 ≤ targetTorqueNm b now :=
  boundedMotorTorqueNm_nonneg _ _

/-- The PID answers zero to a time step or a ceiling that is not positive. -/
theorem speedPidStep_asked {config : SpeedPidConfig} {state : SpeedPidState}
    {target measured ceiling dt : ℚ}
    (h : 0 < (speedPidStep config state target measured ceiling dt).1) : 0 < dt ∧ 0 < ceiling := by
  by_contra hno
  have hzero : speedPidStep config state target measured ceiling dt = (0, speedPidReset) := by
    refine if_pos ?_
    by_cases hdt : 0 < dt
    · exact .inr (.inr (.inl (not_lt.mp fun hceiling => hno ⟨hdt, hceiling⟩)))
    · exact .inr (.inr (.inr (.inl (not_lt.mp hdt))))
  rw [hzero] at h
  exact lt_irrefl 0 h

theorem sessionTorqueLimitNm_pos {dt : ℚ} (h : 0 < reachableNormalizedOutput b dt) :
    0 < sessionTorqueLimitNm b := by
  by_contra hno
  have hlimit := boundedMotorTorqueNm_of_nonpos 1 (not_lt.mp hno)
  simp only [reachableNormalizedOutput, hlimit, lt_irrefl, if_false] at h

/-- A regulated tick comes after its predecessor and has torque to give. -/
theorem Regulated.asked (hregulated : Regulated b now) :
    0 < controlDtSeconds b now ∧ 0 < sessionTorqueLimitNm b := by
  have hforward : ¬((viewAt b now).intent.normalizedLongitudinal < 0 ∧
      (viewAt b now).physicalEmergencyLatched = false ∧
      (settledAt b now).hardOverspeedLatched = false) :=
    fun hbrakes => absurd hbrakes.1 (not_lt.mpr hregulated.positive.le)
  have houtput := hregulated.2
  rw [regulatedAt, regulateSpeed, if_neg hforward, if_pos hregulated.1] at houtput
  obtain ⟨hdt, hceiling⟩ := speedPidStep_asked houtput
  have hview : iterationView (settledAt b now) = iterationView b := by
    rw [settledAt, settleLatches_iterationView, guarded_iterationView]
  have hsession : (settledAt b now).runtimeControl = b.runtimeControl :=
    congrArg IterationView.runtimeControl hview
  have hscale : (settledAt b now).fullScaleMotorTorqueNm = b.fullScaleMotorTorqueNm :=
    congrArg IterationView.fullScaleMotorTorqueNm hview
  have hlimit := sessionTorqueLimitNm_pos hceiling
  change 0 < min (settledAt b now).runtimeControl.maxMotorTorqueNm
    (settledAt b now).fullScaleMotorTorqueNm at hlimit
  rw [hsession, hscale] at hlimit
  exact ⟨hdt, hlimit⟩

/-- What one regulated tick does with the magnitude it starts from. -/
theorem Regulated.rise (hregulated : Regulated b now) (hstart : 0 ≤ startTorqueNm b now) :
    0 ≤ tractionTorqueNm b now ∧ tractionTorqueNm b now ≤ targetTorqueNm b now ∧
    (targetTorqueNm b now ≤ startTorqueNm b now → tractionTorqueNm b now = targetTorqueNm b now) ∧
    (0 < riseRate b →
      tractionTorqueNm b now ≤ startTorqueNm b now + riseRate b * controlDtSeconds b now) := by
  have htarget := targetTorqueNm_nonneg b now
  rw [hregulated.traction.1]
  refine ⟨riseLimitedMotorTorqueNm_nonneg hstart, riseLimitedMotorTorqueNm_le _ _ _ htarget, ?_, ?_⟩
  · exact riseLimitedMotorTorqueNm_of_le hstart htarget
  · exact fun hrate => riseLimitedMotorTorqueNm_le_add hstart hrate hregulated.asked.1.le

/-- The session profile and the full scale both limit the magnitude. -/
theorem Regulated.limits (hregulated : Regulated b now) (hstart : 0 ≤ startTorqueNm b now) :
    tractionTorqueNm b now ≤ b.runtimeControl.maxMotorTorqueNm ∧
      tractionTorqueNm b now ≤ maxFullScaleMotorTorqueNm := by
  have hsession : (regulatedAt b now).2.runtimeControl = b.runtimeControl :=
    congrArg IterationView.runtimeControl (regulatedAt_iterationView b now)
  have hscale : (regulatedAt b now).2.fullScaleMotorTorqueNm = b.fullScaleMotorTorqueNm :=
    congrArg IterationView.fullScaleMotorTorqueNm (regulatedAt_iterationView b now)
  have hlimit : targetTorqueNm b now ≤ min (sessionTorqueLimitNm b) maxFullScaleMotorTorqueNm := by
    rw [targetTorqueNm, sessionTorqueLimitNm, hsession, hscale]
    exact boundedMotorTorqueNm_le _ hregulated.asked.2.le
  have hboth := le_min_iff.mp ((hregulated.rise hstart).2.1.trans hlimit)
  exact ⟨(le_min_iff.mp hboth.1).1, hboth.2⟩

theorem RiseLink.elapsed (hlink : RiseLink h b) (now : ℤ) :
    controlDtSeconds b now = elapsedSeconds h now := by
  rw [controlDtSeconds, hlink.clock]
  rfl

/-- The batch of a driving tick carries the magnitude, rounded down to a step. -/
theorem Regulated.emitted (hregulated : Regulated b now) (hi : BridgeInvariant b)
    (hstart : 0 ≤ startTorqueNm b now) {chassis : ChassisOutcome} (hrun : b.running = true)
    (hready : (MineTeleop.Bridge.tick b now chassis).2.controller.state = .ready)
    (hstop : (MineTeleop.Bridge.tick b now chassis).2.controller.emergencyStop = false) :
    ∀ batch ∈ (MineTeleop.Bridge.tick b now chassis).1, ∀ i,
      |batch.motorTorque i| ≤ tractionTorqueNm b now ∧
      tractionTorqueNm b now - motorTorqueResolutionNm < |batch.motorTorque i| := by
  rw [tick_running hrun] at hready hstop ⊢
  dsimp only at hready hstop ⊢
  rw [settleTick_controller] at hready hstop
  rintro batch hbatch i
  obtain rfl := Option.some.inj hbatch
  have hemits := hregulated.emits hi hready hstop
  have hscale := (hregulated.limits hstart).2
  have htorque : (Vcu.commandBatch (ticked b now chassis).controller).motorTorque i =
      directionalMotorTorqueNm (tractionGear b now) (tractionTorqueNm b now) :=
    congrFun hemits i
  change |(Vcu.commandBatch (ticked b now chassis).controller).motorTorque i| ≤ _ ∧
    _ < |(Vcu.commandBatch (ticked b now chassis).controller).motorTorque i|
  rw [htorque]
  exact directionalMotorTorqueNm_step hregulated.drives (hregulated.rise hstart).1 hscale

/-- Every driving tick obeys the law. -/
theorem RiseLink.law (hlink : RiseLink h b) {opened : BridgeRuntime} {e : Event}
    (htick : TractionTick ((machine opened).observe b e) now) :
    RiseLaw ((machine opened).observe b e) h now := by
  obtain ⟨htime, hrun, hregulated, hready, hstop⟩ := htick
  have hstart := hlink.start_nonneg hregulated
  obtain ⟨hnonneg, hbelow, hfollows, hgrows⟩ := hregulated.rise hstart
  refine ⟨hlink.start_cases hregulated, ?_, ⟨hbelow, hfollows⟩, (hregulated.limits hstart).1, ?_⟩
  · rw [← hlink.elapsed now]
    exact hgrows
  · cases e with
    | tick now' chassis =>
      obtain rfl : now' = now := Option.some.inj htime
      exact hregulated.emitted hlink.invariant hstart hrun hready hstop
    | _ => cases htime

end

/-- Every driving tick in every run of an opened bridge. -/
theorem traction_rise {opened b : BridgeRuntime} {h : History BridgeRuntime Event Reply}
    (ho : Opened opened) (hr : Run (machine opened) h b) :
    Always (fun st past => ∀ now, TractionTick st now → RiseLaw st past now) h := by
  refine hr.always_of_link (C := fun _ => True) (R := RiseLink) (riseLink_opened ho) ?_ ?_
    (steps_true h)
  · exact fun h b e _ hlink _ => riseLink_step hlink e
  · exact fun h b e _ hlink _ now htick => hlink.law htick

/-- The armed bridge drives with a rise of 100 Nm/s. -/
def risingEvents : List Event :=
  (armEvents.map fun
    | .configure now entry config =>
      .configure now entry { config with motorTorqueRiseRateNmPerS := some 100 }
    | e => e) ++ [tickAt 220, .ingest (ms 230) (Vcu.vehicleSpeedFrame 0), tickAt 240]

/-- Two ticks of 20 ms have reached 4 Nm. -/
theorem traction_rise_bench :
    let run := (machine benchBridge).play risingEvents
    run.2.lastTractionTorqueMagnitudeNm = 4 ∧
      Always (fun st past => ∀ now, TractionTick st now → RiseLaw st past now) run.1 := by
  have hreached : ((machine benchBridge).play risingEvents).2.lastTractionTorqueMagnitudeNm = 4 := by
    decide +kernel
  exact ⟨hreached, traction_rise benchBridge_opened (Run.play _ _)⟩

end MineTeleop.Bridge
