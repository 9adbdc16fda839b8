import MineTeleop.Bridge.Iteration

/-!
# The composed traction gate

A torque that reaches the batch has gone through the speed regulation, the rise limit, the
composed command, the controller's command check and the controller's tick.  Read backwards, each
of them says what must have held.

Proved here:

* `prepareTick_delivers`: a controller that neither stops nor shuts down has taken the command
  composed in this iteration;
* `prepareTick_torque`: where the torque of that command comes from;
* `traction_gate`: the law for every tick of every run.
-/

namespace MineTeleop.Bridge

open Runs Runs.Machine
open Vcu (Controller Command CommandBatch CarriesTorque)

/-! ## The delivered command -/

theorem emergencyStop_emergencyStop (c : Controller) : (Vcu.emergencyStop c).emergencyStop = true := by
  obtain ⟨g, h⟩ := Vcu.emergencyStop_frame c
  rw [h]

theorem commandFromChassisControl_gear {gear : ℤ} {wheels : List WheelControl}
    {generated : Command} (h : commandFromChassisControl gear wheels = some generated) :
    generated.gear = gear := by
  unfold commandFromChassisControl at h
  split at h
  · cases h
  · obtain ⟨outputs, -, rfl⟩ := Option.map_eq_some_iff.mp h
    rfl

/-- Without a stop behind it the controller has accepted the composed command. -/
theorem commandChassis_delivers {b : BridgeRuntime} {v : IntentView} {chassis : ChassisOutcome}
    (hstop : (commandChassis b v chassis).controller.emergencyStop = false)
    (haccepts : AcceptsIntent (commandChassis b v chassis).controller.state) :
    ∃ generated controller, generated.gear = v.intent.gear ∧
      Vcu.SetCommandCase b.controller (composeCommand b v generated) (true, controller) ∧
      commandChassis b v chassis = { b with controller := controller } := by
  have hfault : ∀ b : BridgeRuntime,
      (latchChassisControlFault b).controller.emergencyStop ≠ false :=
    fun b h => Bool.noConfusion h
  cases chassis with
  | rejected => exact absurd hstop (hfault b)
  | raised => exact absurd hstop (hfault b)
  | controls wheels =>
    simp only [commandChassis] at hstop haccepts ⊢
    split at hstop
    · exact absurd hstop (hfault b)
    · rename_i generated hgen
      rw [hgen] at haccepts
      simp only [enforceHardLatches] at hstop haccepts ⊢
      split at hstop
      · rw [emergencyStop_emergencyStop] at hstop
        exact absurd hstop Bool.noConfusion
      · rename_i hlatch
        simp only [if_neg hlatch] at haccepts ⊢
        have hcase := Vcu.setCommand_cases b.controller (composeCommand b v generated)
        refine ⟨generated, (Vcu.setCommand b.controller (composeCommand b v generated)).2,
          commandFromChassisControl_gear hgen, ?_⟩
        unfold submitCommand at hstop haccepts ⊢
        split at hstop
        · rename_i hstate
          rw [if_pos hstate] at haccepts ⊢
          simp only at hstop haccepts ⊢
          split at hstop
          · rename_i haccepted
            rw [if_pos haccepted]
            refine ⟨?_, rfl⟩
            rw [← haccepted]
            exact hcase
          · change (Vcu.emergencyStop _).emergencyStop = false at hstop
            rw [emergencyStop_emergencyStop] at hstop
            exact absurd hstop Bool.noConfusion
        · rename_i hstate
          rw [if_neg hstate] at haccepts
          exact absurd haccepts hstate

/-! ## The stages of one iteration -/

/-- What the iteration reads of the bridge. -/
def viewAt (b : BridgeRuntime) (now : ℤ) : IntentView := intentView (guarded b now) now

/-- The bridge before the speed regulation. -/
def settledAt (b : BridgeRuntime) (now : ℤ) : BridgeRuntime :=
  settleLatches (guarded b now) (viewAt b now) now

def regulatedAt (b : BridgeRuntime) (now : ℤ) : ℚ × BridgeRuntime :=
  regulateSpeed (settledAt b now) (viewAt b now) now (controlDtSeconds b now)

/-- The bridge behind the rise limit. -/
def limitedAt (b : BridgeRuntime) (now : ℤ) : BridgeRuntime :=
  limitTraction (regulatedAt b now).2 (TractionPidActive (settledAt b now) (viewAt b now) now)
    (regulatedAt b now).1 (controlDtSeconds b now)

theorem limitedAt_controller (b : BridgeRuntime) (now : ℤ) :
    (limitedAt b now).controller = (settledAt b now).controller := by
  rw [limitedAt, limitTraction_controller, regulatedAt, regulateSpeed_controller]

theorem limitedAt_iterationView (b : BridgeRuntime) (now : ℤ) :
    iterationView (limitedAt b now) = iterationView b := by
  rw [limitedAt, limitTraction_iterationView, regulatedAt, regulateSpeed_iterationView, settledAt,
    settleLatches_iterationView, guarded_iterationView]

/-- A latched fault of ChassisControl delivers no command. -/
theorem holdChassisControlFault_refuses (b : BridgeRuntime)
    (hstop : (holdChassisControlFault b).controller.emergencyStop = false) :
    ¬AcceptsIntent (holdChassisControlFault b).controller.state := by
  have hcontroller : (holdChassisControlFault b).controller =
      if isDisarming b.controller.state = false ∧ b.controller.state ≠ .disarmed then
        Vcu.transportFault b.controller
      else b.controller := rfl
  rw [hcontroller] at hstop ⊢
  split at hstop
  · exact absurd hstop Bool.noConfusion
  · rename_i hstate
    rw [if_neg hstate]
    revert hstate
    generalize b.controller.state = state
    cases state <;> decide

theorem prepareTick_delivers {b : BridgeRuntime} {now : ℤ} {chassis : ChassisOutcome}
    (hstop : (prepareTick b now chassis).controller.emergencyStop = false)
    (haccepts : AcceptsIntent (prepareTick b now chassis).controller.state) :
    ∃ generated controller, generated.gear = (viewAt b now).intent.gear ∧
      Vcu.SetCommandCase (settledAt b now).controller
        (composeCommand (limitedAt b now) (viewAt b now) generated) (true, controller) ∧
      prepareTick b now chassis = { limitedAt b now with controller := controller } := by
  rw [prepareTick_eq] at hstop haccepts ⊢
  unfold updateCommandFromIntent at hstop haccepts ⊢
  split at hstop
  · rename_i hfault
    rw [if_pos hfault] at haccepts
    exact absurd haccepts (holdChassisControlFault_refuses _ hstop)
  · rename_i hfault
    rw [if_neg hfault] at haccepts ⊢
    rw [← limitedAt_controller]
    exact commandChassis_delivers (b := limitedAt b now) (v := viewAt b now) hstop haccepts

/-! ## Where the torque comes from -/

theorem composeCommand_torque {b : BridgeRuntime} {v : IntentView} {generated : Command}
    {i : Fin Vcu.motorCount} (h : (composeCommand b v generated).motorTorqueNm i ≠ 0) :
    (composeCommand b v generated).motorTorqueNm =
      fun _ => directionalMotorTorqueNm v.intent.gear b.lastTractionTorqueMagnitudeNm := by
  simp only [composeCommand] at h ⊢
  split at h
  · exact absurd rfl h
  · rename_i hno
    rw [if_neg hno]

theorem boundedMotorTorqueNm_of_nonpos (output : ℚ) {limit : ℚ} (hl : limit ≤ 0) :
    boundedMotorTorqueNm output limit = 0 :=
  if_pos (.inr hl)

/-- A traction that is not zero was regulated in this iteration, within every limit. -/
theorem limitTraction_pos {b : BridgeRuntime} {active : Prop} [Decidable active] {output dt : ℚ}
    (h : 0 < (limitTraction b active output dt).lastTractionTorqueMagnitudeNm) :
    active ∧ (limitTraction b active output dt).lastTractionTorqueMagnitudeNm ≤
      min (sessionTorqueLimitNm b) maxFullScaleMotorTorqueNm := by
  unfold limitTraction at h ⊢
  split at h
  · rename_i hactive
    rw [if_pos hactive]
    refine ⟨hactive.1, ?_⟩
    have hbounded := boundedMotorTorqueNm_nonneg output (sessionTorqueLimitNm b)
    have hlimit : 0 ≤ sessionTorqueLimitNm b := by
      by_contra hneg
      simp only [boundedMotorTorqueNm_of_nonpos output (not_le.mp hneg).le,
        riseLimitedMotorTorqueNm, le_refl, or_true, if_true] at h
      exact lt_irrefl 0 h
    calc _ ≤ boundedMotorTorqueNm output (sessionTorqueLimitNm b) :=
          riseLimitedMotorTorqueNm_le _ _ _ hbounded
      _ ≤ _ := boundedMotorTorqueNm_le output hlimit
  · exact absurd h (lt_irrefl 0)

/-- A torque of the prepared command: the gear's sign, the limits, and the regulation active. -/
theorem prepareTick_torque {b : BridgeRuntime} {now : ℤ} {chassis : ChassisOutcome}
    (hstop : (prepareTick b now chassis).controller.emergencyStop = false)
    (haccepts : AcceptsIntent (prepareTick b now chassis).controller.state)
    {i : Fin Vcu.motorCount}
    (htorque : (prepareTick b now chassis).controller.desired.motorTorqueNm i ≠ 0) :
    TractionPidActive (settledAt b now) (viewAt b now) now ∧
    (∃ controller, prepareTick b now chassis = { limitedAt b now with controller := controller }) ∧
    ∃ torque,
      (prepareTick b now chassis).controller.desired.motorTorqueNm = (fun _ => torque) ∧
      ((viewAt b now).intent.gear = 3 ∧ 0 < torque ∨ (viewAt b now).intent.gear = 2 ∧ torque < 0) ∧
      |torque| ≤ min (min b.runtimeControl.maxMotorTorqueNm b.fullScaleMotorTorqueNm)
        maxFullScaleMotorTorqueNm := by
  obtain ⟨generated, controller, -, hcase, hprepared⟩ := prepareTick_delivers hstop haccepts
  have hdesired : controller.desired =
      composeCommand (limitedAt b now) (viewAt b now) generated := by
    cases hcase with
    | accepted hv hsame => rfl
    | regear hv hgear hready => rfl
  have hprepared' : (prepareTick b now chassis).controller = controller := by rw [hprepared]
  rw [hprepared', hdesired] at htorque ⊢
  have hcomposed := composeCommand_torque htorque
  rw [hcomposed] at htorque ⊢
  obtain ⟨hsign, hbound⟩ := directionalMotorTorqueNm_bounds _ _ htorque
  have hpos : 0 < (limitedAt b now).lastTractionTorqueMagnitudeNm :=
    lt_of_lt_of_le (abs_pos.mpr htorque) hbound
  obtain ⟨hactive, hlimit⟩ := limitTraction_pos hpos
  refine ⟨hactive, ⟨controller, hprepared⟩, _, rfl, hsign, hbound.trans (hlimit.trans_eq ?_)⟩
  have hview : iterationView (regulatedAt b now).2 = iterationView b := by
    rw [regulatedAt, regulateSpeed_iterationView, settledAt, settleLatches_iterationView,
      guarded_iterationView]
  have hprofile : (regulatedAt b now).2.runtimeControl = b.runtimeControl :=
    congrArg IterationView.runtimeControl hview
  have hscale : (regulatedAt b now).2.fullScaleMotorTorqueNm = b.fullScaleMotorTorqueNm :=
    congrArg IterationView.fullScaleMotorTorqueNm hview
  rw [sessionTorqueLimitNm, hprofile, hscale]

/-! ## What the later stages leave alone -/

theorem limitedAt_frame (b : BridgeRuntime) (now : ℤ) : ∃ pid valid pidGear target magnitude gear,
    limitedAt b now =
      { settledAt b now with
        speedPidState := pid
        speedPidReferenceValid := valid
        speedPidGear := pidGear
        speedPidTargetMps := target
        lastTractionTorqueMagnitudeNm := magnitude
        lastTractionGear := gear } := by
  have hregulated : ∃ pid valid pidGear target magnitude gear, (regulatedAt b now).2 =
      { settledAt b now with
        speedPidState := pid
        speedPidReferenceValid := valid
        speedPidGear := pidGear
        speedPidTargetMps := target
        lastTractionTorqueMagnitudeNm := magnitude
        lastTractionGear := gear } := by
    unfold regulatedAt regulateSpeed
    split
    · exact ⟨_, _, _, _, _, _, rfl⟩
    · split <;> exact ⟨_, _, _, _, _, _, rfl⟩
  obtain ⟨pid, valid, pidGear, target, magnitude, gear, hr⟩ := hregulated
  unfold limitedAt limitTraction
  rw [hr]
  split <;> exact ⟨_, _, _, _, _, _, rfl⟩

/-- Behind a tick in Ready there is nothing left to report. -/
theorem settleTick_quiet {b : BridgeRuntime} (stateBefore : Vcu.State) (now : ℤ)
    (hrevoked : b.controller.handshakeRevoked = false) (hready : b.controller.state = .ready)
    (hlatched : b.sessionReadyLatched = true) : ∃ entry state valid telemetry,
    settleTick b now stateBefore =
      { b with
        armingFeedbackStateEntry := entry
        armingFeedbackState := state
        armingFeedbackDeadlineValid := valid
        telemetry := telemetry } := by
  have hrevocation : reportRevocation b = b := if_neg (by simp [hrevoked])
  have hfault : reportFault b stateBefore = b := if_neg (by simp [hready])
  have hsession : latchSessionReady b now = b := by
    rw [latchSessionReady, if_neg (by simp [BecomesReady, hlatched]),
      if_neg (by simp [LosesReady, hready, speedSafetyActiveState])]
  rw [settleTick, hrevocation, hfault, hsession]
  unfold armFeedbackDeadline
  split <;> exact ⟨_, _, _, _, rfl⟩

theorem settleLatches_intent {b : BridgeRuntime} {v : IntentView} (now : ℤ)
    (hphysical : v.physicalEmergencyLatched = false) :
    (settleLatches b v now).latestIntent = b.latestIntent ∧
      (settleLatches b v now).latestIntentValid = b.latestIntentValid := by
  have hreport : reportPhysicalEmergency b v = b := by
    rw [reportPhysicalEmergency, if_neg (by simp [hphysical])]
  rw [settleLatches_eq, latched, hreport]
  unfold clearSoftStop checkHardOverspeed checkArmingMotion
  cases b
  split <;> split <;> split <;> exact ⟨rfl, rfl⟩

theorem ready_of_advanceState {c : Controller} (h : (Vcu.advanceState c).state = .ready) :
    c.state = .ready ∨ c.state = .waitActuatorModes := by
  have hcase := Vcu.advanceState_cases c
  generalize Vcu.advanceState c = result at hcase h
  cases hcase with
  | emergency ha g => exact .inl (Vcu.ready_of_stoppedState h)
  | handshakeLost hl => exact Vcu.State.noConfusion h
  | gearMismatch hg => exact Vcu.State.noConfusion h
  | stage ha hl hg =>
    rcases Vcu.advanceStage_state c with hst | ⟨-, hst⟩ | ⟨-, hst⟩ | ⟨-, hst⟩ | ⟨-, hst⟩ |
      ⟨hst, -⟩ | ⟨-, hst⟩ | ⟨-, hst⟩ | ⟨-, hst⟩ | ⟨-, hst⟩ | ⟨-, hst⟩
    · exact .inl (hst ▸ h)
    · rw [hst] at h
      exact Vcu.State.noConfusion h
    · rw [h] at hst
      exact absurd hst (by decide)
    · rw [hst] at h
      exact Vcu.State.noConfusion h
    · rw [hst] at h
      exact Vcu.State.noConfusion h
    · exact .inr hst
    all_goals
      rw [hst] at h
      exact Vcu.State.noConfusion h

/-! ## The gate -/

/-- What a bridge with torque on its motors has behind the tick that put it there. -/
structure TractionGate (b : BridgeRuntime) (now : ℤ) (batch : CommandBatch) : Prop where
  profile : b.runtimeControl.active = true
  estop : b.softwareEstop = false
  watchdog : b.controlWatchdogLatched = false
  overspeed : b.hardOverspeedLatched = false
  physical : b.controller.physicalEmergencyLatched = false
  speedFresh : speedFeedbackFresh b now = true
  gearFresh : gearFeedbackFresh b now = true
  gear : b.controller.feedback.gear = b.latestIntent.gear
  sign : ∀ i, b.latestIntent.gear = 3 ∧ 0 < batch.motorTorque i ∨
    b.latestIntent.gear = 2 ∧ batch.motorTorque i < 0
  magnitude : ∀ i, |batch.motorTorque i| ≤
    min (min b.runtimeControl.maxMotorTorqueNm b.fullScaleMotorTorqueNm) maxFullScaleMotorTorqueNm
  ready : b.controller.state = .ready
  released : automaticParkingEnabled b = true →
    ¬IdlePark b now ∧ b.controller.feedback.ParkingBrakesAt Vcu.parkingBrakeRelease

/-- A law about a tick that puts torque on a motor. -/
def OnTraction (law : BridgeRuntime → ℤ → CommandBatch → BridgeRuntime → Prop)
    (st : Step BridgeRuntime Event Reply) : Prop :=
  ∀ now chassis batch, st.event = .tick now chassis → st.output = .transmitted (some batch) →
    CarriesTorque batch → law st.before now batch st.after

/-- Torque in the batch of a tick, traced back to the regulated iteration. -/
theorem tick_traction {b : BridgeRuntime} (hi : BridgeInvariant b) (now : ℤ)
    (chassis : ChassisOutcome)
    (htorque : CarriesTorque (Vcu.commandBatch
      (Vcu.advanceState (prepareTick b now chassis).controller))) :
    TractionPidActive (settledAt b now) (viewAt b now) now ∧
    (∃ entry state valid telemetry,
      settleTick (ticked b now chassis) now b.controller.state =
        { limitedAt b now with
          controller := (ticked b now chassis).controller
          armingFeedbackStateEntry := entry
          armingFeedbackState := state
          armingFeedbackDeadlineValid := valid
          telemetry := telemetry }) ∧
    (ticked b now chassis).controller.state = .ready ∧
    (ticked b now chassis).controller.feedback = b.controller.feedback ∧
    ∃ torque,
      (Vcu.commandBatch (ticked b now chassis).controller).motorTorque = (fun _ => torque) ∧
      ((viewAt b now).intent.gear = 3 ∧ 0 < torque ∨ (viewAt b now).intent.gear = 2 ∧ torque < 0) ∧
      |torque| ≤ min (min b.runtimeControl.maxMotorTorqueNm b.fullScaleMotorTorqueNm)
        maxFullScaleMotorTorqueNm := by
  have hcommands := commands_prepareTick b now chassis
  have hcontroller : ControllerInvariant (Vcu.advanceState (prepareTick b now chassis).controller) :=
    controllerInvariant_advanceState
      (Drives.keeps (drives_of_calls (calls_of_commands hcommands)) hi.controller)
  obtain ⟨hready, hpark, hsafety, i, hne⟩ := (Vcu.commandBatch_carriesTorque _).mp htorque
  have hadvanced : (Vcu.advanceState (prepareTick b now chassis).controller).emergencyStop =
      false := by
    by_contra hstop
    exact hsafety (Vcu.safetyBrake_of_emergencyStop (by simpa using hstop))
  have hstop : (prepareTick b now chassis).controller.emergencyStop = false := by
    by_contra hstop
    have hon := Vcu.advanceState_stop_of_stop (prepareTick b now chassis).controller
      (by simpa using hstop)
    exact absurd (hon.symm.trans hadvanced) Bool.noConfusion
  have haccepts : AcceptsIntent (prepareTick b now chassis).controller.state := by
    rcases ready_of_advanceState hready with h | h <;> (rw [h]; decide)
  rw [Vcu.advanceState_desired] at hne
  obtain ⟨hactive, ⟨controller, hprepared⟩, torque, hdesired, hsign, hbound⟩ :=
    prepareTick_torque hstop haccepts hne
  have hrevoked : (ticked b now chassis).controller.handshakeRevoked = false := by
    by_contra hrev
    have hon := hcontroller.latches.stop_of_revoked (by simpa [ticked] using hrev)
    exact absurd (hon.symm.trans hadvanced) Bool.noConfusion
  have hbefore : b.controller.state = .ready := by
    have hsettled : Commands b (settledAt b now) :=
      (commands_guarded b now).trans (commands_settleLatches _ _ now)
    exact hsettled.keeps.2.2.2 hactive.2.2.2.2.2.2.2.2.2.1
  have hlatched : (ticked b now chassis).sessionReadyLatched = true := by
    obtain ⟨fault, hticked, -⟩ := ticked_session b now chassis
    exact (congrArg SessionView.sessionReadyLatched hticked).trans (hi.latched_of_ready hbefore)
  obtain ⟨entry, state, valid, telemetry, hquiet⟩ :=
    settleTick_quiet b.controller.state now hrevoked hready hlatched
  refine ⟨hactive, ⟨entry, state, valid, telemetry, ?_⟩, hready, ?_, torque, ?_, hsign, hbound⟩
  · rw [hquiet, ticked, hprepared]
  · exact (Vcu.advanceState_feedback _).trans hcommands.keeps.1
  · rw [ticked, Vcu.commandBatch_motorTorque, if_neg hsafety, if_neg hpark, if_pos hready,
      Vcu.advanceState_desired, hdesired]

theorem speedFeedbackFresh_congr {b b' : BridgeRuntime} (now : ℤ)
    (hf : b'.controller.feedback = b.controller.feedback)
    (hview : iterationView b' = iterationView b) :
    speedFeedbackFresh b' now = speedFeedbackFresh b now := by
  have hseen : b'.lastSeen = b.lastSeen := congrArg IterationView.lastSeen hview
  have hspeed : b'.speedControl = b.speedControl := congrArg IterationView.speedControl hview
  simp only [speedFeedbackFresh, hf, hseen, hspeed]

theorem gearFeedbackFresh_congr {b b' : BridgeRuntime} (now : ℤ)
    (hf : b'.controller.feedback = b.controller.feedback)
    (hview : iterationView b' = iterationView b) :
    gearFeedbackFresh b' now = gearFeedbackFresh b now := by
  have hseen : b'.lastSeen = b.lastSeen := congrArg IterationView.lastSeen hview
  simp only [gearFeedbackFresh, feedbackIdFresh, hf, hseen]

theorem idlePark_congr {b b' : BridgeRuntime} (now : ℤ)
    (hview : iterationView b' = iterationView b) : IdlePark b' now ↔ IdlePark b now := by
  have hprofile : b'.runtimeControl = b.runtimeControl :=
    congrArg IterationView.runtimeControl hview
  have hidle : b'.operatorIdle = b.operatorIdle := congrArg IterationView.operatorIdle hview
  rw [IdlePark, IdlePark, hprofile, hidle]

theorem automaticParkingEnabled_congr {b b' : BridgeRuntime}
    (hview : iterationView b' = iterationView b) :
    automaticParkingEnabled b' = automaticParkingEnabled b := by
  have hprofile : b'.runtimeControl = b.runtimeControl :=
    congrArg IterationView.runtimeControl hview
  have hready : b'.sessionReadyLatched = b.sessionReadyLatched :=
    congrArg IterationView.sessionReadyLatched hview
  rw [automaticParkingEnabled, automaticParkingEnabled, hprofile, hready]

/-- The intent that asks for traction is the stored one. -/
theorem viewAt_intent {b : BridgeRuntime} {now : ℤ}
    (h : 0 < (viewAt b now).intent.normalizedLongitudinal) :
    (viewAt b now).intent = (guarded b now).latestIntent := by
  change 0 < (if (guarded b now).latestIntentValid then (guarded b now).latestIntent
    else {} : ControlIntent).normalizedLongitudinal at h
  change (if (guarded b now).latestIntentValid then (guarded b now).latestIntent
    else {} : ControlIntent) = _
  split at h
  · rename_i hvalid
    exact if_pos hvalid
  · exact absurd h (lt_irrefl 0)

theorem tractionGate_tick {b : BridgeRuntime} (hi : BridgeInvariant b) (now : ℤ)
    (chassis : ChassisOutcome)
    (htorque : CarriesTorque (Vcu.commandBatch
      (Vcu.advanceState (prepareTick b now chassis).controller))) :
    TractionGate (settleTick (ticked b now chassis) now b.controller.state) now
      (Vcu.commandBatch (Vcu.advanceState (prepareTick b now chassis).controller)) := by
  obtain ⟨hactive, ⟨entry, state, valid, telemetry, hafter⟩, hready, hfeedback, torque, hbatch,
    hsign, hbound⟩ := tick_traction hi now chassis htorque
  obtain ⟨-, hprofile, hphysical, hover, hwatchdog, hestop, hparking, hpositive, -, hstate, hspeed,
    hgear, -⟩ := hactive
  obtain ⟨pid, pidValid, pidGear, target, magnitude, gear, hlimited⟩ := limitedAt_frame b now
  have hview : iterationView (settleTick (ticked b now chassis) now b.controller.state) =
      iterationView b := by
    rw [hafter, ← limitedAt_iterationView b now]
    rfl
  have hcontroller : (settleTick (ticked b now chassis) now b.controller.state).controller =
      (ticked b now chassis).controller := settleTick_controller _ _ _
  have hfb : (settleTick (ticked b now chassis) now b.controller.state).controller.feedback =
      b.controller.feedback := by rw [hcontroller, hfeedback]
  have hguarded := (commands_guarded b now).keeps
  have hsettledView : iterationView (settledAt b now) = iterationView b := by
    rw [settledAt, settleLatches_iterationView, guarded_iterationView]
  have hsettledCommands : Commands b (settledAt b now) :=
    (commands_guarded b now).trans (commands_settleLatches _ _ now)
  have hintent : (settleTick (ticked b now chassis) now b.controller.state).latestIntent =
      (viewAt b now).intent := by
    have hsettled : (settledAt b now).latestIntent = (guarded b now).latestIntent :=
      (settleLatches_intent now hphysical).1
    rw [viewAt_intent hpositive, ← hsettled, hafter, hlimited]
  have hmatches := hgear
  simp only [viewAt, intentView, Bool.and_eq_true, decide_eq_true_eq] at hmatches
  refine ⟨?_, ?_, ?_, ?_, ?_, ?_, ?_, ?_, ?_, ?_, ?_, ?_⟩
  · rw [hafter, hlimited]
    exact hprofile
  · rw [hafter, hlimited]
    exact hestop
  · rw [hafter, hlimited]
    exact hwatchdog
  · rw [hafter, hlimited]
    exact hover
  · rw [hcontroller, ticked, Vcu.advanceState_physicalEmergencyLatched,
      (commands_prepareTick b now chassis).keeps.2.1, ← hguarded.2.1]
    exact hphysical
  · rw [speedFeedbackFresh_congr now hfb hview,
      ← speedFeedbackFresh_congr now hguarded.1 (guarded_iterationView b now)]
    exact hspeed
  · rw [gearFeedbackFresh_congr now hfb hview,
      ← gearFeedbackFresh_congr now hguarded.1 (guarded_iterationView b now)]
    exact hmatches.1
  · rw [hfb, hintent, ← hguarded.1]
    exact hmatches.2
  · intro i
    rw [hintent]
    change _ ∧ 0 < (Vcu.commandBatch (ticked b now chassis).controller).motorTorque i ∨
      _ ∧ (Vcu.commandBatch (ticked b now chassis).controller).motorTorque i < 0
    rw [hbatch]
    exact hsign
  · intro i
    have hp : (settleTick (ticked b now chassis) now b.controller.state).runtimeControl =
        b.runtimeControl := congrArg IterationView.runtimeControl hview
    have hs : (settleTick (ticked b now chassis) now b.controller.state).fullScaleMotorTorqueNm =
        b.fullScaleMotorTorqueNm := congrArg IterationView.fullScaleMotorTorqueNm hview
    rw [hp, hs]
    change |(Vcu.commandBatch (ticked b now chassis).controller).motorTorque i| ≤ _
    rw [hbatch]
    exact hbound
  · rw [hcontroller]
    exact hready
  · intro hauto
    rw [automaticParkingEnabled_congr hview, ← automaticParkingEnabled_congr hsettledView] at hauto
    rw [idlePark_congr now hview, ← idlePark_congr now hsettledView, hfb]
    rcases hparking with hoff | ⟨hidle, -, hreleased⟩
    · exact absurd (hauto.symm.trans hoff) Bool.noConfusion
    · refine ⟨hidle, ?_⟩
      rw [← hsettledCommands.keeps.1]
      exact hreleased.2

variable {opened b : BridgeRuntime} {h : History BridgeRuntime Event Reply}

theorem onTraction_tick {law : BridgeRuntime → ℤ → CommandBatch → BridgeRuntime → Prop}
    (hlaw : ∀ b now chassis, BridgeInvariant b → b.running = true →
      CarriesTorque (Vcu.commandBatch (ticked b now chassis).controller) →
      law b now (Vcu.commandBatch (ticked b now chassis).controller)
        (settleTick (ticked b now chassis) now b.controller.state))
    (ho : Opened opened) (hr : Run (machine opened) h b) : Steps (OnTraction law) h := by
  refine hr.always_of_invariant (I := BridgeInvariant) ho.fresh.invariant bridgeInvariant_respond
    fun b e hi => ?_
  rintro now chassis batch he hout htorque
  obtain rfl : e = .tick now chassis := he
  cases hrun : b.running with
  | false =>
    simp [Machine.observe, machine, respond, tick, hrun] at hout
  | true =>
    simp only [Machine.observe, machine, respond, tick_running hrun, Reply.transmitted.injEq,
      Option.some.injEq] at hout ⊢
    subst hout
    exact hlaw b now chassis hi hrun htorque

/-- **The composed traction gate.** In every run of an opened bridge, a tick whose batch carries
torque has every gate behind it. -/
theorem traction_gate (ho : Opened opened) (hr : Run (machine opened) h b) :
    Steps (OnTraction fun _ now batch after => TractionGate after now batch) h :=
  onTraction_tick (fun _ now chassis hi _ htorque => tractionGate_tick hi now chassis htorque) ho hr

/-! ## A driven run -/

/-- Eight wheels on which ChassisControl asks for nothing. -/
def coasting : ChassisOutcome :=
  .controls (List.replicate 8 ⟨some 0, some 0, some 0, some 0, some 0⟩)

def benchEnvironment : OpenEnvironment :=
  { interfaceNamed := true
    alreadyOpen := false
    initializes := true
    emergencySeed := coasting
    initialSeed := coasting
    logOpens := true
    socketOpens := true }

def benchConfig : OpenConfig :=
  { fullScaleMotorTorqueNm := some 300
    hardSpeedLimitMps := some 2
    controlTimeoutMs := 100
    speedFeedbackTimeoutMs := 40
    speedPidKp := some 1
    speedPidKi := some 0
    speedPidKd := some 0
    speedPidDerivativeFilterTauMs := some 0
    speedPidMaxDtMs := 200
    hardOverspeedMarginMps := some 1 }

def benchProfile : RuntimeControlConfig :=
  { profileVersion := 3
    profileRevision := 1
    targetSpeedLimitMps := some 1
    maxMotorTorqueNm := some 100
    maxBrakePressureBar := some 0
    maxSteeringRequest := some 1
    speedPidKp := some 1
    speedPidKi := some 0
    speedPidKd := some 0
    speedPidDerivativeFilterTauMs := some 0
    speedPidMaxDtMs := 200 }

def benchBridge : BridgeRuntime :=
  match openV2 benchEnvironment benchConfig with
  | .ok b => b
  | .error _ =>
    { fullScaleMotorTorqueNm := 0
      controlTimeoutMs := 0
      openSpeedControl := {}
      speedControl := {}
      physicalBrakeInput := false
      maxOrdinaryBrakeBar := 0
      controller := Vcu.reset }

theorem benchBridge_opened : Opened benchBridge := by
  have hok : (openV2 benchEnvironment benchConfig).isOk = true := by decide +kernel
  refine ⟨benchEnvironment, .inr (.inr ⟨benchConfig, .inl ?_⟩)⟩
  unfold benchBridge
  cases hopen : openV2 benchEnvironment benchConfig with
  | ok b => rfl
  | error code => simp [hopen, Except.isOk, Except.toBool] at hok

def ms (milliseconds : ℤ) : ℤ := milliseconds * nanosPerMilli

def tickAt (milliseconds : ℤ) : Event := .tick (ms milliseconds) coasting

/-- A quarter of the traction in D at one metre per second. -/
def driveIntent : ApplyArguments :=
  { targetGear := 3
    targetVx := some 1
    targetAx := some (1 / 4)
    steeringValues := some [] }

def drivingRecord : Vcu.FeedbackRecord := { Vcu.armedRecord with gearStatus := 3 }

/-- Profile, handshake and an intent in D, up to Ready at 200 ms. -/
def armEvents : List Event :=
  feedbackEvents 0 {} ++
  [.configure 0 .v2 benchProfile, .requestParallelHandshake 0, .applyState 0 driveIntent] ++
  [20, 40, 60, 80, 100, 120].map tickAt ++
  [.ingest (ms 120) (Vcu.handshakeFrame 5), tickAt 140,
    .ingest (ms 140) (Vcu.parkingBrakeFrame fun _ => 1), tickAt 160,
    .ingest (ms 160) (Vcu.vehicleStatusFrame 3), tickAt 180] ++
  feedbackEvents (ms 180) drivingRecord ++ [tickAt 200]

/-- The step transmits a batch with torque. -/
def EmitsTorque (st : Step BridgeRuntime Event Reply) : Prop :=
  ∃ batch ∈ st.output.batch?, CarriesTorque batch

instance : DecidablePred EmitsTorque := fun _ => inferInstanceAs (Decidable (∃ _ ∈ _, _))

/-- The bridge drives at 220 ms, and the gate holds of the whole run. -/
theorem traction_gate_driven :
    let run := (machine benchBridge).play (armEvents ++ [tickAt 220])
    (∃ st ∈ run.1, EmitsTorque st) ∧
      Steps (OnTraction fun _ now batch after => TractionGate after now batch) run.1 :=
  ⟨by decide +kernel, traction_gate benchBridge_opened (Run.play _ _)⟩

end MineTeleop.Bridge
