import MineTeleop.Bridge.Stops

/-!
# What one iteration of the loop keeps

Proved here:

* `prepareTick_iterationView`: the fields an iteration only reads before the controller ticks;
* `guarded_cases`: a watchdog that fires stops the bridge with a cause;
* `bridgeInvariant_of_run`: the invariant of the bridge in every run.
-/

namespace MineTeleop.Bridge

open Runs Runs.Machine
open Vcu (Controller Command CanFrame)

/-! ## What is only read -/

/-- The fields that nothing but a fault of ChassisControl writes between the clock reading and the
controller's tick. -/
structure IterationView where
  running : Bool
  fullScaleMotorTorqueNm : ℚ
  controlTimeoutMs : ℤ
  speedControl : SpeedControlSettings
  runtimeControl : RuntimeControlSettings
  lastSeen : BitVec 32 → Option ℤ
  operatorIdle : Vcu.OperatorIdleParking
  lastSuccessfulApply : ℤ
  lastSuccessfulApplyValid : Bool
  readySince : ℤ
  readySinceValid : Bool
  sessionReadyLatched : Bool
  handshakeRevokedReported : Bool
  chassisControlFaultLatched : Bool

def iterationView (b : BridgeRuntime) : IterationView :=
  { running := b.running
    fullScaleMotorTorqueNm := b.fullScaleMotorTorqueNm
    controlTimeoutMs := b.controlTimeoutMs
    speedControl := b.speedControl
    runtimeControl := b.runtimeControl
    lastSeen := b.lastSeen
    operatorIdle := b.operatorIdle
    lastSuccessfulApply := b.lastSuccessfulApply
    lastSuccessfulApplyValid := b.lastSuccessfulApplyValid
    readySince := b.readySince
    readySinceValid := b.readySinceValid
    sessionReadyLatched := b.sessionReadyLatched
    handshakeRevokedReported := b.handshakeRevokedReported
    chassisControlFaultLatched := b.chassisControlFaultLatched }

section
variable (b : BridgeRuntime) (v : IntentView) (now : ℤ) (dt : ℚ)

theorem checkFeedbackTimeout_iterationView :
    iterationView (checkFeedbackTimeout b now) = iterationView b := by
  unfold checkFeedbackTimeout
  split
  · cases b; rfl
  · rfl

theorem checkControlWatchdog_iterationView :
    iterationView (checkControlWatchdog b now) = iterationView b := by
  unfold checkControlWatchdog
  split
  · cases b; rfl
  · rfl

theorem reportPhysicalEmergency_iterationView :
    iterationView (reportPhysicalEmergency b v) = iterationView b := by
  unfold reportPhysicalEmergency
  split
  · extract_lets latched reset
    cases b
    split <;> rfl
  · rfl

theorem checkArmingMotion_iterationView :
    iterationView (checkArmingMotion b v) = iterationView b := by
  unfold checkArmingMotion
  split
  · cases b; rfl
  · rfl

theorem checkHardOverspeed_iterationView :
    iterationView (checkHardOverspeed b v) = iterationView b := by
  unfold checkHardOverspeed
  split
  · cases b; rfl
  · rfl

theorem clearSoftStop_iterationView :
    iterationView (clearSoftStop b v) = iterationView b := by
  unfold clearSoftStop
  split
  · cases b; rfl
  · rfl

theorem settleLatches_iterationView :
    iterationView (settleLatches b v now) = iterationView b := by
  rw [settleLatches_eq]
  change iterationView (clearSoftStop (latched b v) v) = _
  rw [clearSoftStop_iterationView, latched, checkHardOverspeed_iterationView,
    checkArmingMotion_iterationView, reportPhysicalEmergency_iterationView]

theorem regulateSpeed_iterationView :
    iterationView (regulateSpeed b v now dt).2 = iterationView b := by
  unfold regulateSpeed
  cases b
  split
  · rfl
  · split <;> rfl

theorem limitTraction_iterationView (active : Prop) [Decidable active] (output : ℚ) :
    iterationView (limitTraction b active output dt) = iterationView b := by
  unfold limitTraction
  cases b
  split <;> rfl

theorem submitCommand_iterationView (command : Command) :
    iterationView (submitCommand b command) = iterationView b := by
  unfold submitCommand
  cases b
  split
  · extract_lets result
    split <;> rfl
  · rfl

/-- A fault of ChassisControl is latched together with the software stop. -/
theorem commandChassis_iterationView (chassis : ChassisOutcome) : ∃ fault,
    iterationView (commandChassis b v chassis) =
      { iterationView b with chassisControlFaultLatched := fault } ∧
    (fault = true → b.chassisControlFaultLatched = true ∨
      (commandChassis b v chassis).softwareEstop = true) := by
  have hlatch : iterationView (latchChassisControlFault b) =
      { iterationView b with chassisControlFaultLatched := true } := by
    cases b
    rfl
  cases chassis with
  | rejected => exact ⟨true, hlatch, fun _ => .inr rfl⟩
  | raised => exact ⟨true, hlatch, fun _ => .inr rfl⟩
  | controls wheels =>
    simp only [commandChassis]
    split
    · exact ⟨true, hlatch, fun _ => .inr rfl⟩
    · exact ⟨b.chassisControlFaultLatched, submitCommand_iterationView b _, .inl⟩

theorem updateCommandFromIntent_iterationView (chassis : ChassisOutcome) : ∃ fault,
    iterationView (updateCommandFromIntent b now dt chassis) =
      { iterationView b with chassisControlFaultLatched := fault } ∧
    (fault = true → (updateCommandFromIntent b now dt chassis).softwareEstop = true) := by
  unfold updateCommandFromIntent
  split
  · refine ⟨b.chassisControlFaultLatched, ?_, fun _ => rfl⟩
    cases b
    rfl
  · rename_i hfault
    extract_lets v settled regulated limited
    have hview : iterationView limited = iterationView b := by
      rw [limitTraction_iterationView, regulateSpeed_iterationView, settleLatches_iterationView]
    obtain ⟨fault, hf, hestop⟩ := commandChassis_iterationView limited v chassis
    rw [hview] at hf
    refine ⟨fault, hf, fun h => (hestop h).resolve_left fun hlimited => hfault ?_⟩
    exact (congrArg IterationView.chassisControlFaultLatched hview).symm.trans hlimited

end

/-- The bridge once both watchdogs have been looked at. -/
def guarded (b : BridgeRuntime) (now : ℤ) : BridgeRuntime :=
  checkControlWatchdog (checkFeedbackTimeout { b with lastControlTick := some now } now) now

theorem prepareTick_eq (b : BridgeRuntime) (now : ℤ) (chassis : ChassisOutcome) :
    prepareTick b now chassis =
      updateCommandFromIntent (guarded b now) now (controlDtSeconds b now) chassis := rfl

theorem guarded_iterationView (b : BridgeRuntime) (now : ℤ) :
    iterationView (guarded b now) = iterationView b := by
  rw [guarded, checkControlWatchdog_iterationView, checkFeedbackTimeout_iterationView]
  rfl

theorem prepareTick_iterationView (b : BridgeRuntime) (now : ℤ) (chassis : ChassisOutcome) :
    ∃ fault, iterationView (prepareTick b now chassis) =
        { iterationView b with chassisControlFaultLatched := fault } ∧
      (fault = true → (prepareTick b now chassis).softwareEstop = true) := by
  rw [prepareTick_eq]
  obtain ⟨fault, hview, hestop⟩ :=
    updateCommandFromIntent_iterationView (guarded b now) now (controlDtSeconds b now) chassis
  rw [guarded_iterationView] at hview
  exact ⟨fault, hview, hestop⟩

/-! ## The watchdogs -/

/-- Neither watchdog fires, or the bridge is stopped with a cause. -/
theorem guarded_cases (b : BridgeRuntime) (now : ℤ) :
    guarded b now = { b with lastControlTick := some now } ∨
      ((guarded b now).softwareEstop = true ∧ (guarded b now).stopSource ≠ .none) := by
  have hfeedback : checkFeedbackTimeout { b with lastControlTick := some now } now =
        { b with lastControlTick := some now } ∨
      ((checkFeedbackTimeout { b with lastControlTick := some now } now).softwareEstop = true ∧
        (checkFeedbackTimeout { b with lastControlTick := some now } now).stopSource ≠ .none) := by
    unfold checkFeedbackTimeout
    split
    · exact .inr ⟨rfl, latchStopProvenance_source _ _ _⟩
    · exact .inl rfl
  unfold guarded checkControlWatchdog
  split
  · exact .inr ⟨rfl, latchStopProvenance_source _ _ _⟩
  · exact hfeedback

theorem guarded_fault (b : BridgeRuntime) (now : ℤ) :
    (guarded b now).chassisControlFaultLatched = b.chassisControlFaultLatched :=
  congrArg IterationView.chassisControlFaultLatched (guarded_iterationView b now)

theorem commands_guarded (b : BridgeRuntime) (now : ℤ) : Commands b (guarded b now) :=
  (commands_checkFeedbackTimeout { b with lastControlTick := some now } now).trans
    (commands_checkControlWatchdog _ now)

theorem keeps_guarded (b : BridgeRuntime) (now : ℤ) :
    Keeps (stopView b) (stopView (guarded b now)) :=
  (keeps_checkFeedbackTimeout { b with lastControlTick := some now } now).trans
    (keeps_checkControlWatchdog _ now)

/-! ## Up to the controller's tick -/

/-- A fault that the loop finds latched right after a handshake: the controller goes to Fault,
and the cause is recorded when the tick reports it. -/
def FaultAwaitsReport (b : BridgeRuntime) (stateBefore : Vcu.State) : Prop :=
  b.controller.state = .fault ∧ stateBefore ≠ .fault ∧ b.softwareEstop = true ∧
  (b.handshakeRevokedReported = true → b.controller.handshakeRevoked = true)

theorem stopInvariant_prepareTick {b : BridgeRuntime} (hi : BridgeInvariant b) (now : ℤ)
    (chassis : ChassisOutcome) :
    StopInvariant (stopView (prepareTick b now chassis)) ∨
      FaultAwaitsReport (prepareTick b now chassis) b.controller.state := by
  have hguarded := (keeps_guarded b now hi.stops).1
  cases hfault : b.chassisControlFaultLatched with
  | false =>
    refine .inl ((keeps_updateCommandFromIntent now _ chassis ?_ ?_) hguarded).1
    · exact Drives.keeps (drives_of_calls (calls_of_commands (commands_guarded b now)))
        hi.controller
    · rw [guarded_fault, hfault]
  | true =>
    have hhold : prepareTick b now chassis = holdChassisControlFault (guarded b now) := by
      rw [prepareTick_eq, updateCommandFromIntent, if_pos (by rw [guarded_fault, hfault])]
    have hcommands := commands_prepareTick b now chassis
    have hrep : (prepareTick b now chassis).handshakeRevokedReported = true →
        (prepareTick b now chassis).controller.handshakeRevoked = true := by
      obtain ⟨fault, hfields, -⟩ := prepareTick_iterationView b now chassis
      have hview : (prepareTick b now chassis).handshakeRevokedReported =
        b.handshakeRevokedReported := congrArg IterationView.handshakeRevokedReported hfields
      intro h
      rw [hcommands.keeps.2.2.1]
      exact hi.stops.revoked_of_reported (hview.symm.trans h)
    rw [hhold] at hrep ⊢
    by_cases hsource : (guarded b now).stopSource = .none
    · -- No cause yet: the fault was latched before the handshake.
      rcases guarded_cases b now with hsame | ⟨-, hne⟩
      · rw [hsame] at hsource
        have hinit : b.controller.state = .initial :=
          (hi.source_of_fault hfault).resolve_left (not_not.mpr hsource)
        refine .inr ⟨?_, ?_, rfl, hrep⟩
        · rw [hsame]
          have hstate : (holdChassisControlFault
              { b with lastControlTick := some now }).controller =
                if isDisarming b.controller.state = false ∧ b.controller.state ≠ .disarmed then
                  Vcu.transportFault b.controller
                else b.controller := rfl
          rw [hstate, if_pos (by rw [hinit]; decide)]
          rfl
        · rw [hinit]
          exact fun h => Vcu.State.noConfusion h
      · exact absurd hsource hne
    · exact .inl ⟨fun _ => hsource, fun _ => hsource, fun _ => rfl, fun _ => rfl, hrep⟩

/-! ## Behind the controller's tick -/

theorem stopInvariant_reportRevocation {b : BridgeRuntime} (hi : StopInvariant (stopView b)) :
    StopInvariant (stopView (reportRevocation b)) := by
  unfold reportRevocation
  split
  · rename_i h
    have hsource : (reportRevocation b).stopSource ≠ .none := by
      rw [reportRevocation, if_pos h]
      exact latchStopProvenance_source _ _ _
    rw [reportRevocation, if_pos h] at hsource
    exact ⟨fun _ => hsource, fun _ => hsource, fun _ => rfl, fun _ => rfl, fun _ => h.1⟩
  · exact hi

theorem reportRevocation_keeps (b : BridgeRuntime) :
    (b.softwareEstop = true → (reportRevocation b).softwareEstop = true) ∧
    ((b.handshakeRevokedReported = true → b.controller.handshakeRevoked = true) →
      (reportRevocation b).handshakeRevokedReported = true →
        b.controller.handshakeRevoked = true) := by
  unfold reportRevocation
  split
  · rename_i h
    exact ⟨fun _ => rfl, fun _ _ => h.1⟩
  · exact ⟨id, id⟩

/-- Reporting a new Fault gives any stop its cause. -/
theorem stopInvariant_reportFault {b : BridgeRuntime} {stateBefore : Vcu.State}
    (hi : StopInvariant (stopView b) ∨ FaultAwaitsReport b stateBefore) :
    StopInvariant (stopView (reportFault b stateBefore)) := by
  unfold reportFault
  split
  · have hsource : (latchStopProvenance b .softwareFault .vcuStateFault).stopSource ≠ .none :=
      latchStopProvenance_source b _ _
    have hrep : b.handshakeRevokedReported = true → b.controller.handshakeRevoked = true :=
      hi.elim (fun h => h.revoked_of_reported) fun h => h.2.2.2
    cases b
    exact ⟨fun _ => hsource, fun _ => hsource, fun _ => rfl, fun _ => rfl, hrep⟩
  · rename_i hno
    exact hi.resolve_right fun h => hno ⟨h.1, h.2.1⟩

theorem stopInvariant_latchSessionReady {b : BridgeRuntime} (hi : StopInvariant (stopView b))
    (now : ℤ) : StopInvariant (stopView (latchSessionReady b now)) := by
  unfold latchSessionReady
  split
  · exact ⟨hi.1, hi.2, fun h => Bool.noConfusion h, hi.4, hi.5⟩
  · split <;> exact hi

theorem armFeedbackDeadline_stopView (b : BridgeRuntime) (now : ℤ) :
    stopView (armFeedbackDeadline b now) = stopView b := by
  unfold armFeedbackDeadline
  cases b
  split <;> rfl

theorem updateFeedback_stopView (b : BridgeRuntime) : stopView (updateFeedback b) = stopView b := by
  cases b
  rfl

theorem stopInvariant_settleTick {b : BridgeRuntime} {stateBefore : Vcu.State}
    (hi : StopInvariant (stopView b) ∨ FaultAwaitsReport b stateBefore) (now : ℤ) :
    StopInvariant (stopView (settleTick b now stateBefore)) := by
  rw [settleTick, updateFeedback_stopView, armFeedbackDeadline_stopView]
  refine stopInvariant_latchSessionReady (stopInvariant_reportFault ?_) now
  refine hi.imp stopInvariant_reportRevocation fun h => ?_
  obtain ⟨hfault, hbefore, hestop, hrep⟩ := h
  have hkeeps := reportRevocation_keeps b
  rw [FaultAwaitsReport, reportRevocation_controller]
  exact ⟨hfault, hbefore, hkeeps.1 hestop, hkeeps.2 hrep⟩

theorem reported_session (b : BridgeRuntime) (stateBefore : Vcu.State) :
    sessionView (reportFault (reportRevocation b) stateBefore) = sessionView b := by
  have hrevocation : ∀ b : BridgeRuntime, sessionView (reportRevocation b) = sessionView b := by
    intro b
    unfold reportRevocation
    cases b
    split <;> rfl
  have hfault : ∀ b : BridgeRuntime, sessionView (reportFault b stateBefore) = sessionView b := by
    intro b
    unfold reportFault
    cases b
    split <;> rfl
  exact (hfault _).trans (hrevocation b)

theorem latchSessionReady_session (b : BridgeRuntime) (now : ℤ) :
    sessionView (latchSessionReady b now) =
      { sessionView b with
        sessionReadyLatched :=
          if BecomesReady b then true else if LosesReady b then false else b.sessionReadyLatched
        readySinceValid :=
          if BecomesReady b then true else if LosesReady b then false else b.readySinceValid
        readySince := if BecomesReady b then now else b.readySince } := by
  unfold latchSessionReady
  by_cases hb : BecomesReady b
  · simp only [if_pos hb]
    rfl
  · by_cases hl : LosesReady b <;> simp only [if_neg hb, hl, if_true, if_false] <;> rfl

/-- The session after an iteration, by the state the controller ticked to. -/
theorem settleTick_session (b : BridgeRuntime) (now : ℤ) (stateBefore : Vcu.State) :
    sessionView (settleTick b now stateBefore) =
      { sessionView b with
        sessionReadyLatched :=
          if BecomesReady b then true else if LosesReady b then false else b.sessionReadyLatched
        readySinceValid :=
          if BecomesReady b then true else if LosesReady b then false else b.readySinceValid
        readySince := if BecomesReady b then now else b.readySince } := by
  have hdeadline : ∀ b : BridgeRuntime,
      sessionView (updateFeedback (armFeedbackDeadline b now)) = sessionView b := by
    intro b
    unfold armFeedbackDeadline
    cases b
    split <;> rfl
  have hsession := reported_session b stateBefore
  have hcontroller : (reportFault (reportRevocation b) stateBefore).controller = b.controller := by
    rw [reportFault_controller, reportRevocation_controller]
  have hready : (reportFault (reportRevocation b) stateBefore).sessionReadyLatched =
      b.sessionReadyLatched := congrArg SessionView.sessionReadyLatched hsession
  have hvalid : (reportFault (reportRevocation b) stateBefore).readySinceValid =
      b.readySinceValid := congrArg SessionView.readySinceValid hsession
  have hsince : (reportFault (reportRevocation b) stateBefore).readySince =
      b.readySince := congrArg SessionView.readySince hsession
  have hbecomes : BecomesReady (reportFault (reportRevocation b) stateBefore) ↔ BecomesReady b := by
    simp only [BecomesReady, hcontroller, hready]
  have hloses : LosesReady (reportFault (reportRevocation b) stateBefore) ↔ LosesReady b := by
    simp only [LosesReady, hcontroller, hready]
  rw [settleTick, hdeadline, latchSessionReady_session, hsession]
  simp only [hbecomes, hloses, hready, hvalid, hsince]

theorem settleTick_softwareEstop (b : BridgeRuntime) (now : ℤ) (stateBefore : Vcu.State) :
    (settleTick b now stateBefore).softwareEstop =
      (reportFault (reportRevocation b) stateBefore).softwareEstop := by
  have hview : (settleTick b now stateBefore).softwareEstop =
      (latchSessionReady (reportFault (reportRevocation b) stateBefore) now).softwareEstop := by
    have hstops : stopView (settleTick b now stateBefore) =
        stopView (latchSessionReady (reportFault (reportRevocation b) stateBefore) now) := by
      rw [settleTick, updateFeedback_stopView, armFeedbackDeadline_stopView]
    exact congrArg StopView.estop hstops
  rw [hview]
  unfold latchSessionReady
  split
  · rfl
  · split <;> rfl

theorem reportFault_estop {b : BridgeRuntime} (h : b.softwareEstop = true)
    (stateBefore : Vcu.State) : (reportFault b stateBefore).softwareEstop = true := by
  unfold reportFault
  split
  · rfl
  · exact h

theorem settleTick_estop {b : BridgeRuntime} (h : b.softwareEstop = true) (now : ℤ)
    (stateBefore : Vcu.State) : (settleTick b now stateBefore).softwareEstop = true := by
  rw [settleTick_softwareEstop]
  exact reportFault_estop ((reportRevocation_keeps b).1 h) stateBefore

theorem advanceState_fault {c : Controller} (h : c.state = .fault) :
    (Vcu.advanceState c).state = .fault := by
  simp [Vcu.advanceState, Vcu.ArmingEmergency, Vcu.HandshakeLost, Vcu.ReadyGearMismatch,
    Vcu.advanceStage, Vcu.armingEmergencyTarget, h]

/-! ## The invariant in every run -/

/-- The bridge between the controller's tick and what the loop does about it. -/
def ticked (b : BridgeRuntime) (now : ℤ) (chassis : ChassisOutcome) : BridgeRuntime :=
  { prepareTick b now chassis with
    controller := Vcu.advanceState (prepareTick b now chassis).controller }

theorem tick_running {b : BridgeRuntime} (hrun : b.running = true) (now : ℤ)
    (chassis : ChassisOutcome) :
    tick b now chassis =
      (some (Vcu.commandBatch (Vcu.advanceState (prepareTick b now chassis).controller)),
        settleTick (ticked b now chassis) now b.controller.state) := by
  rw [tick, if_neg (by simp [hrun])]
  rfl

theorem ticked_stops {b : BridgeRuntime} (hi : BridgeInvariant b) (now : ℤ)
    (chassis : ChassisOutcome) :
    StopInvariant (stopView (ticked b now chassis)) ∨
      FaultAwaitsReport (ticked b now chassis) b.controller.state := by
  refine (stopInvariant_prepareTick hi now chassis).imp (fun h => ?_) fun h => ?_
  · refine ⟨h.1, fun hp => h.2 ?_, h.3, h.4, fun hr => ?_⟩
    · simpa [stopView, ticked] using hp
    · simpa [stopView, ticked] using h.5 hr
  · obtain ⟨hfault, hbefore, hestop, hrep⟩ := h
    exact ⟨advanceState_fault hfault, hbefore, hestop, by simpa [ticked] using hrep⟩

theorem ticked_session (b : BridgeRuntime) (now : ℤ) (chassis : ChassisOutcome) : ∃ fault,
    sessionView (ticked b now chassis) =
      { sessionView b with chassisControlFaultLatched := fault } ∧
    (fault = true → (ticked b now chassis).softwareEstop = true) := by
  obtain ⟨fault, hview, hestop⟩ := prepareTick_iterationView b now chassis
  refine ⟨fault, ?_, hestop⟩
  have h1 := congrArg IterationView.controlTimeoutMs hview
  have h2 := congrArg IterationView.sessionReadyLatched hview
  have h3 := congrArg IterationView.readySinceValid hview
  have h4 := congrArg IterationView.readySince hview
  have h5 := congrArg IterationView.chassisControlFaultLatched hview
  simp only [iterationView] at h1 h2 h3 h4 h5
  simp only [sessionView, ticked, h1, h2, h3, h4, h5]

theorem bridgeInvariant_tick {b : BridgeRuntime} (hi : BridgeInvariant b) (now : ℤ)
    (chassis : ChassisOutcome) : BridgeInvariant (tick b now chassis).2 := by
  have hcontroller := Drives.keeps (drives_tickEvent b now chassis) hi.controller
  cases hrun : b.running with
  | false =>
    rw [tick, if_pos hrun]
    exact hi
  | true =>
    rw [tick_running hrun] at hcontroller ⊢
    have hstops := stopInvariant_settleTick (ticked_stops hi now chassis) now
    obtain ⟨fault, hticked, hestop⟩ := ticked_session b now chassis
    have hsession := settleTick_session (ticked b now chassis) now b.controller.state
    rw [hticked] at hsession
    have hlatched := congrArg SessionView.sessionReadyLatched hsession
    have hsince := congrArg SessionView.readySinceValid hsession
    have hready : (ticked b now chassis).sessionReadyLatched = b.sessionReadyLatched :=
      congrArg SessionView.sessionReadyLatched hticked
    have hvalid : (ticked b now chassis).readySinceValid = b.readySinceValid :=
      congrArg SessionView.readySinceValid hticked
    simp only [sessionView] at hlatched hsince
    refine ⟨hcontroller, hstops, fun hfault => .inl ?_, fun hs => ?_, fun hl => ?_, ?_⟩
    · have hf : fault = true :=
        (congrArg SessionView.chassisControlFaultLatched hsession).symm.trans hfault
      exact hstops.source_of_estop (settleTick_estop (hestop hf) now _)
    · -- Ready after the tick: the latch is set now or was set before.
      rw [settleTick_controller] at hs
      simp only [hlatched, hready, BecomesReady, LosesReady, hs]
      cases b.sessionReadyLatched <;> simp [speedSafetyActiveState]
    · simp only [hlatched, hready] at hl
      simp only [hsince, hvalid]
      split_ifs at hl ⊢
      · rfl
      · exact hi.since_of_latched hl
    · have htimeout : (settleTick (ticked b now chassis) now b.controller.state).controlTimeoutMs =
          b.controlTimeoutMs := congrArg SessionView.controlTimeoutMs hsession
      rw [htimeout]
      exact hi.timeout

theorem bridgeInvariant_call {b b' : BridgeRuntime} (hi : BridgeInvariant b)
    (hcase : CallCase b b') (hcalls : Calls b b') : BridgeInvariant b' := by
  have hcontroller := Drives.keeps (drives_of_calls hcalls) hi.controller
  have hstops := (hcase.keeps hi.stops).1
  rcases hcase.session with hsession | ⟨hnot, hinit, htimeout, hfault⟩
  · have hlatched : b'.sessionReadyLatched = b.sessionReadyLatched :=
      congrArg SessionView.sessionReadyLatched hsession
    have hvalid : b'.readySinceValid = b.readySinceValid :=
      congrArg SessionView.readySinceValid hsession
    have hfault : b'.chassisControlFaultLatched = b.chassisControlFaultLatched :=
      congrArg SessionView.chassisControlFaultLatched hsession
    have htimeout : b'.controlTimeoutMs = b.controlTimeoutMs :=
      congrArg SessionView.controlTimeoutMs hsession
    refine ⟨hcontroller, hstops, fun h => hcase.source (hi.source_of_fault (hfault ▸ h)),
      fun hs => ?_, fun hl => ?_, htimeout ▸ hi.timeout⟩
    · rw [hlatched]
      exact hi.latched_of_ready (hcalls.ready hs)
    · rw [hvalid]
      exact hi.since_of_latched (hlatched ▸ hl)
  · refine ⟨hcontroller, hstops, fun _ => .inr hinit, fun hs => ?_, fun hl => ?_,
      htimeout ▸ hi.timeout⟩
    · exact absurd (hinit.symm.trans hs) Vcu.State.noConfusion
    · exact absurd (hl.symm.trans hnot) Bool.noConfusion

theorem bridgeInvariant_respond (b : BridgeRuntime) (e : Event) (hi : BridgeInvariant b) :
    BridgeInvariant (respond b e).2 := by
  cases e with
  | tick now chassis => exact bridgeInvariant_tick hi now chassis
  | _ =>
    exact bridgeInvariant_call hi (respond_cases b _ fun _ _ h => Event.noConfusion h)
      (calls_respond b _ fun _ _ h => Event.noConfusion h)

theorem bridgeInvariant_of_run {opened b : BridgeRuntime} {h : History BridgeRuntime Event Reply}
    (ho : Opened opened) (hr : Run (machine opened) h b) : BridgeInvariant b :=
  hr.invariant (I := BridgeInvariant) ho.fresh.invariant bridgeInvariant_respond

end MineTeleop.Bridge
