import MineTeleop.Bridge.Refinement

/-!
# What the bridge keeps about a stop

The bridge has four latches about a stop (the software stop, the control watchdog, the hard
overspeed and the reported revocation), the source of the stop, and the latches of the
controller.  `StopView` holds them together; `StopInvariant` relates them.

Proved here:

* `keeps_settleLatches`, `keeps_updateCommandFromIntent`: the stages of an iteration keep it;
* `updateCommandFromIntent_estop`: the physical switch raises the software stop;
* `CallCase.keeps`: so does every event between two ticks.
-/

namespace MineTeleop.Bridge

open Runs Runs.Machine
open Vcu (Controller Command CanFrame)

structure StopView where
  estop : Bool
  source : StopSource
  watchdog : Bool
  overspeed : Bool
  reported : Bool
  emergency : Bool
  physical : Bool
  revoked : Bool

def stopView (b : BridgeRuntime) : StopView :=
  { estop := b.softwareEstop
    source := b.stopSource
    watchdog := b.controlWatchdogLatched
    overspeed := b.hardOverspeedLatched
    reported := b.handshakeRevokedReported
    emergency := b.controller.emergencyStop
    physical := b.controller.physicalEmergencyLatched
    revoked := b.controller.handshakeRevoked }

structure StopInvariant (v : StopView) : Prop where
  source_of_estop : v.estop = true → v.source ≠ .none
  source_of_physical : v.physical = true → v.source ≠ .none
  estop_of_watchdog : v.watchdog = true → v.estop = true
  estop_of_overspeed : v.overspeed = true → v.estop = true
  revoked_of_reported : v.reported = true → v.revoked = true

/-- The bridge knows, or is about to be told, why the controller stops. -/
def Known (v : StopView) : Prop :=
  v.emergency = true → v.estop = true ∨ v.physical = true ∨
    (v.revoked = true ∧ v.reported = false)

/-- From `v` to `w` the invariant is kept, and so is the knowledge of the stop. -/
def Keeps (v w : StopView) : Prop := StopInvariant v → StopInvariant w ∧ (Known v → Known w)

theorem Keeps.refl (v : StopView) : Keeps v v := fun h => ⟨h, id⟩

theorem Keeps.trans {u v w : StopView} (huv : Keeps u v) (hvw : Keeps v w) : Keeps u w :=
  fun h => ⟨(hvw (huv h).1).1, fun hk => (hvw (huv h).1).2 ((huv h).2 hk)⟩

/-- Whatever stops the bridge with a source keeps both. -/
theorem Keeps.of_stopped {v w : StopView} (he : w.estop = true) (hs : w.source ≠ .none)
    (hp : w.reported = v.reported) (hr : v.revoked = w.revoked) : Keeps v w := fun h =>
  ⟨⟨fun _ => hs, fun _ => hs, fun _ => he, fun _ => he,
    fun hw => hr ▸ h.revoked_of_reported (hp ▸ hw)⟩, fun _ _ => .inl he⟩

theorem latchStopProvenance_source (b : BridgeRuntime) (source : StopSource)
    (reason : StopReason) : (latchStopProvenance b source reason).stopSource ≠ .none := by
  simp only [latchStopProvenance]
  split_ifs with hnone hsup hsup
  · exact fun h => StopSource.noConfusion h
  · exact fun h => hsup (.inl h)
  · exact fun h => hnone (.inl h)
  · exact fun h => hsup (.inl h)

@[simp] theorem emergencyStop_physicalEmergencyLatched (c : Controller) :
    (Vcu.emergencyStop c).physicalEmergencyLatched = c.physicalEmergencyLatched := by
  obtain ⟨g, h⟩ := Vcu.emergencyStop_frame c
  rw [h]

@[simp] theorem emergencyStop_handshakeRevoked (c : Controller) :
    (Vcu.emergencyStop c).handshakeRevoked = c.handshakeRevoked := by
  obtain ⟨g, h⟩ := Vcu.emergencyStop_frame c
  rw [h]

@[simp] theorem requestDisarm_handshakeRevoked (c : Controller) :
    (Vcu.requestDisarm c).handshakeRevoked = c.handshakeRevoked := by
  unfold Vcu.requestDisarm
  split_ifs <;> rfl

@[simp] theorem setCommand_handshakeRevoked (c : Controller) (command : Command) :
    (Vcu.setCommand c command).2.handshakeRevoked = c.handshakeRevoked := by
  have hcase := Vcu.setCommand_cases c command
  generalize Vcu.setCommand c command = result at hcase ⊢
  cases hcase <;> rfl

/-! ## The stages of an iteration -/

theorem keeps_checkFeedbackTimeout (b : BridgeRuntime) (now : ℤ) :
    Keeps (stopView b) (stopView (checkFeedbackTimeout b now)) := by
  unfold checkFeedbackTimeout
  split
  · exact .of_stopped rfl (latchStopProvenance_source _ _ _) rfl rfl
  · exact .refl _

theorem keeps_checkControlWatchdog (b : BridgeRuntime) (now : ℤ) :
    Keeps (stopView b) (stopView (checkControlWatchdog b now)) := by
  unfold checkControlWatchdog
  split
  · exact .of_stopped rfl (latchStopProvenance_source _ _ _) rfl
      (emergencyStop_handshakeRevoked _).symm
  · exact .refl _

theorem keeps_reportPhysicalEmergency (b : BridgeRuntime) (v : IntentView) :
    Keeps (stopView b) (stopView (reportPhysicalEmergency b v)) := by
  unfold reportPhysicalEmergency
  split
  · extract_lets latched reset
    split <;> cases b <;> exact .of_stopped rfl (latchStopProvenance_source _ _ _) rfl rfl
  · exact .refl _

theorem keeps_latchHardOverspeed (b : BridgeRuntime) (reason : StopReason) :
    Keeps (stopView b) (stopView (latchHardOverspeed b reason)) :=
  .of_stopped rfl (latchStopProvenance_source _ _ _) rfl (emergencyStop_handshakeRevoked _).symm

theorem keeps_checkArmingMotion (b : BridgeRuntime) (v : IntentView) :
    Keeps (stopView b) (stopView (checkArmingMotion b v)) := by
  unfold checkArmingMotion
  split
  · exact keeps_latchHardOverspeed b _
  · exact .refl _

theorem keeps_checkHardOverspeed (b : BridgeRuntime) (v : IntentView) :
    Keeps (stopView b) (stopView (checkHardOverspeed b v)) := by
  unfold checkHardOverspeed
  split
  · exact keeps_latchHardOverspeed b _
  · exact .refl _

theorem checkArmingMotion_estop {b : BridgeRuntime} {v : IntentView}
    (h : b.softwareEstop = true) : (checkArmingMotion b v).softwareEstop = true := by
  unfold checkArmingMotion
  split
  · rfl
  · exact h

theorem checkHardOverspeed_estop {b : BridgeRuntime} {v : IntentView}
    (h : b.softwareEstop = true) : (checkHardOverspeed b v).softwareEstop = true := by
  unfold checkHardOverspeed
  split
  · rfl
  · exact h

/-- A soft stop only clears without a hard latch, and then nothing stops any more. -/
theorem keeps_clearSoftStop {b : BridgeRuntime} {v : IntentView}
    (hv : b.controller.physicalEmergencyLatched = v.physicalEmergencyLatched)
    (hc : ControllerInvariant b.controller) :
    Keeps (stopView b) (stopView (clearSoftStop b v)) := by
  unfold clearSoftStop
  split
  · rename_i h
    obtain ⟨-, hphys, hover, hready, -⟩ := h
    rw [← hv] at hphys
    have hrev : b.controller.handshakeRevoked = false := by
      by_contra hr
      have hs := hc.latches.shutdown_of_revoked (by simpa using hr)
      rw [hready] at hs
      exact absurd hs (by decide)
    have hclear : Vcu.clearEmergencyStop b.controller =
        { b.controller with emergencyStop := false } := by
      simp [Vcu.clearEmergencyStop, hphys, hrev]
    intro hi
    rw [clearStopProvenance, stopView, hclear]
    refine ⟨⟨fun h => Bool.noConfusion h, fun h => ?_, fun h => Bool.noConfusion h,
      fun h => ?_, hi.revoked_of_reported⟩, fun _ h => Bool.noConfusion h⟩
    · exact absurd (hphys.symm.trans h) Bool.noConfusion
    · exact absurd (hover.symm.trans h) Bool.noConfusion
  · exact .refl _

theorem keeps_updateAutomaticParking (b : BridgeRuntime) (v : IntentView) (now : ℤ) :
    Keeps (stopView b) (stopView (updateAutomaticParking b v now)) :=
  .refl _

theorem keeps_regulateSpeed (b : BridgeRuntime) (v : IntentView) (now : ℤ) (dt : ℚ) :
    Keeps (stopView b) (stopView (regulateSpeed b v now dt).2) := by
  unfold regulateSpeed
  split
  · exact .refl _
  · split <;> exact .refl _

theorem keeps_limitTraction (b : BridgeRuntime) (active : Prop) [Decidable active]
    (output dt : ℚ) : Keeps (stopView b) (stopView (limitTraction b active output dt)) := by
  unfold limitTraction
  split <;> exact .refl _

theorem keeps_submitCommand (b : BridgeRuntime) (command : Command) :
    Keeps (stopView b) (stopView (submitCommand b command)) := by
  have hrev := setCommand_handshakeRevoked b.controller command
  have hcase := Vcu.setCommand_cases b.controller command
  unfold submitCommand
  split
  · generalize Vcu.setCommand b.controller command = result at hcase hrev ⊢
    extract_lets handed
    split
    · -- An accepted command leaves every flag of the view alone.
      rename_i haccepted
      cases hcase with
      | rejected => cases haccepted
      | moving g hgear hshut => cases haccepted
      | accepted hv hsame => exact .refl _
      | regear hv hgear hready => exact .refl _
    · exact .of_stopped rfl (latchStopProvenance_source _ _ _) rfl
        (hrev.symm.trans (emergencyStop_handshakeRevoked _).symm)
  · exact .refl _

theorem submitCommand_estop {b : BridgeRuntime} {command : Command}
    (h : b.softwareEstop = true) : (submitCommand b command).softwareEstop = true := by
  unfold submitCommand
  split
  · extract_lets result
    split
    · exact h
    · rfl
  · exact h

theorem keeps_enforceHardLatches {b : BridgeRuntime} {v : IntentView}
    (he : v.physicalEmergencyLatched = true → b.softwareEstop = true) :
    Keeps (stopView b) (stopView (enforceHardLatches b v)) := by
  intro hi
  unfold enforceHardLatches
  split
  · rename_i hlatch
    have hestop : b.softwareEstop = true := by
      rcases hlatch with h | h
      · exact he h
      · exact hi.estop_of_overspeed h
    refine ⟨⟨hi.1, fun h => hi.2 ?_, hi.3, hi.4, fun h => ?_⟩, fun _ _ => .inl hestop⟩
    · exact (emergencyStop_physicalEmergencyLatched _).symm.trans h
    · exact (emergencyStop_handshakeRevoked _).trans (hi.revoked_of_reported h)
  · exact ⟨hi, id⟩

theorem keeps_latchChassisControlFault (b : BridgeRuntime) :
    Keeps (stopView b) (stopView (latchChassisControlFault b)) :=
  .of_stopped rfl (latchStopProvenance_source _ _ _) rfl rfl

theorem keeps_commandChassis {b : BridgeRuntime} {v : IntentView}
    (he : v.physicalEmergencyLatched = true → b.softwareEstop = true) (chassis : ChassisOutcome) :
    Keeps (stopView b) (stopView (commandChassis b v chassis)) := by
  cases chassis with
  | rejected => exact keeps_latchChassisControlFault b
  | raised => exact keeps_latchChassisControlFault b
  | controls wheels =>
    simp only [commandChassis]
    split
    · exact keeps_latchChassisControlFault b
    · refine (keeps_submitCommand b _).trans (keeps_enforceHardLatches fun h => ?_)
      exact submitCommand_estop (he h)

theorem commandChassis_estop {b : BridgeRuntime} {v : IntentView} (h : b.softwareEstop = true)
    (chassis : ChassisOutcome) : (commandChassis b v chassis).softwareEstop = true := by
  cases chassis with
  | rejected => rfl
  | raised => rfl
  | controls wheels =>
    simp only [commandChassis]
    split
    · rfl
    · exact submitCommand_estop h

/-! ## An iteration up to the controller's tick -/

theorem keeps_latched (b : BridgeRuntime) (v : IntentView) :
    Keeps (stopView b) (stopView (latched b v)) :=
  ((keeps_reportPhysicalEmergency b v).trans (keeps_checkArmingMotion _ v)).trans
    (keeps_checkHardOverspeed _ v)

theorem keeps_settleLatches {b : BridgeRuntime} {now : ℤ}
    (hc : ControllerInvariant b.controller) :
    Keeps (stopView b) (stopView (settleLatches b (intentView b now) now)) := by
  have hcommands := commands_latched b (intentView b now)
  rw [settleLatches_eq]
  exact ((keeps_latched b _).trans (keeps_clearSoftStop hcommands.keeps.2.1
    (Drives.keeps (drives_of_calls (calls_of_commands hcommands)) hc))).trans
    (keeps_updateAutomaticParking _ _ now)

/-- The physical switch keeps the software stop up through every stage. -/
theorem settleLatches_estop {b : BridgeRuntime} {v : IntentView} (now : ℤ)
    (h : v.physicalEmergencyLatched = true) :
    (settleLatches b v now).softwareEstop = true := by
  have hreport : (reportPhysicalEmergency b v).softwareEstop = true := by
    unfold reportPhysicalEmergency
    rw [if_pos h]
    extract_lets latched reset
    split <;> rfl
  have hlatched : (latched b v).softwareEstop = true :=
    checkHardOverspeed_estop (checkArmingMotion_estop hreport)
  rw [settleLatches_eq, clearSoftStop, if_neg]
  · exact hlatched
  · exact fun hclears => absurd (h.symm.trans hclears.2.1) Bool.noConfusion

theorem limited_estop {b : BridgeRuntime} {v : IntentView} {now : ℤ} {dt output : ℚ}
    {active : Prop} [Decidable active] (h : b.softwareEstop = true) :
    (limitTraction (regulateSpeed b v now dt).2 active output dt).softwareEstop = true := by
  have hregulated : (regulateSpeed b v now dt).2.softwareEstop = true := by
    unfold regulateSpeed
    split
    · exact h
    · split <;> exact h
  unfold limitTraction
  split <;> exact hregulated

theorem keeps_updateCommandFromIntent {b : BridgeRuntime} (now : ℤ) (dt : ℚ)
    (chassis : ChassisOutcome) (hc : ControllerInvariant b.controller)
    (hfault : b.chassisControlFaultLatched = false) :
    Keeps (stopView b) (stopView (updateCommandFromIntent b now dt chassis)) := by
  unfold updateCommandFromIntent
  rw [if_neg (by simp [hfault])]
  extract_lets v settled regulated limited
  refine (keeps_settleLatches hc).trans (((keeps_regulateSpeed settled v now dt).trans
    (keeps_limitTraction _ _ _ dt)).trans (keeps_commandChassis (fun h => ?_) chassis))
  exact limited_estop (settleLatches_estop now h)

/-- With the physical switch latched the software stop is up when the controller ticks. -/
theorem updateCommandFromIntent_estop {b : BridgeRuntime} (now : ℤ) (dt : ℚ)
    (chassis : ChassisOutcome) (h : b.controller.physicalEmergencyLatched = true) :
    (updateCommandFromIntent b now dt chassis).softwareEstop = true := by
  unfold updateCommandFromIntent
  split
  · rfl
  · extract_lets v settled regulated limited
    exact commandChassis_estop (limited_estop (settleLatches_estop now h)) chassis

/-! ## Events between two ticks -/

/-- The fields about the session that only ticks and handshakes write. -/
structure SessionView where
  controlTimeoutMs : ℤ
  sessionReadyLatched : Bool
  readySinceValid : Bool
  readySince : ℤ
  chassisControlFaultLatched : Bool

def sessionView (b : BridgeRuntime) : SessionView :=
  ⟨b.controlTimeoutMs, b.sessionReadyLatched, b.readySinceValid, b.readySince,
    b.chassisControlFaultLatched⟩

/-- What an event other than a tick comes to. -/
inductive CallCase (b : BridgeRuntime) : BridgeRuntime → Prop
  | same (b' : BridgeRuntime) (hstop : stopView b' = stopView b)
      (hstate : b'.controller.state = b.controller.state)
      (hsession : sessionView b' = sessionView b) : CallCase b b'
  | stopped (b' : BridgeRuntime) (he : b'.softwareEstop = true) (hs : b'.stopSource ≠ .none)
      (hp : b'.handshakeRevokedReported = b.handshakeRevokedReported)
      (hr : b.controller.handshakeRevoked = b'.controller.handshakeRevoked)
      (hsession : sessionView b' = sessionView b) : CallCase b b'
  | ingested (now : ℤ) (frame : CanFrame) :
      CallCase b
        (recordFrame { b with controller := (Vcu.ingest b.controller frame).2 } now frame)
  | restarted (recovered : BridgeRuntime) (hsession : sessionView recovered = sessionView b)
      (haccepted : (Vcu.requestParallelHandshake b.controller).1 = true) :
      CallCase b (restartSession
        { recovered with controller := (Vcu.requestParallelHandshake b.controller).2 })

theorem storeIntent_cases (b : BridgeRuntime) (now : ℤ) (a : IntentArguments) :
    CallCase b (storeIntent b now a).2 := by
  unfold storeIntent
  split_ifs <;> exact .same _ rfl rfl rfl

theorem failControlApply_cases (b : BridgeRuntime) : CallCase b (failControlApply b) := by
  apply CallCase.stopped
  · rfl
  · exact latchStopProvenance_source b .softwareFault .controlApplyFailed
  · cases b; rfl
  · cases b; exact (emergencyStop_handshakeRevoked _).symm
  · cases b; rfl

theorem emergencyStop_cases (b : BridgeRuntime) : CallCase b (emergencyStop b).2 := by
  unfold emergencyStop
  split
  · exact .same _ rfl rfl rfl
  · apply CallCase.stopped
    · rfl
    · exact latchStopProvenance_source _ _ _
    · cases b; rfl
    · cases b; exact (emergencyStop_handshakeRevoked _).symm
    · cases b; rfl

theorem requestPark_cases (b : BridgeRuntime) : CallCase b (requestPark b).2 := by
  unfold requestPark
  split
  · exact .same _ rfl rfl rfl
  · apply CallCase.stopped
    · rfl
    · exact latchStopProvenance_source _ _ _
    · cases b; rfl
    · cases b; exact (requestDisarm_handshakeRevoked _).symm
    · cases b; rfl

theorem applyState_cases (b : BridgeRuntime) (now : ℤ) (a : ApplyArguments) :
    CallCase b (applyState b now a).2 := by
  unfold applyState
  split
  · exact failControlApply_cases b
  · split
    · exact requestPark_cases b
    · exact storeIntent_cases b now _

theorem installProfile_cases {b b' : BridgeRuntime} (hstop : stopView b' = stopView b)
    (hstate : b'.controller.state = b.controller.state)
    (hsession : sessionView b' = sessionView b) (now : ℤ) (config : RuntimeControlConfig)
    (riseRate : ℚ) (parking : ℤ) : CallCase b (installProfile b' now config riseRate parking) := by
  have hinstalled : stopView (installProfile b' now config riseRate parking) = stopView b' := by
    cases b'
    rfl
  have hsession' : sessionView (installProfile b' now config riseRate parking) =
      sessionView b' := by
    cases b'
    rfl
  exact .same _ (hinstalled.trans hstop) hstate (hsession'.trans hsession)

theorem configureRuntimeControl_cases (b : BridgeRuntime) (now : ℤ)
    (config : RuntimeControlConfig) (expected : ℕ) (riseRate : Double) (parking : ℤ) :
    CallCase b (configureRuntimeControl b now config expected riseRate parking).2.2 := by
  unfold configureRuntimeControl
  split
  · exact .same _ rfl rfl rfl
  split
  · exact .same _ rfl rfl rfl
  split
  · exact .same _ rfl rfl rfl
  split
  · exact .same _ rfl rfl rfl
  · extract_lets recovered
    have hrecovered : stopView recovered = stopView b ∧
        recovered.controller.state = b.controller.state ∧
        sessionView recovered = sessionView b := by
      unfold recovered
      cases b
      split <;> exact ⟨rfl, rfl, rfl⟩
    exact installProfile_cases hrecovered.1 hrecovered.2.1 hrecovered.2.2 now config _ parking

theorem configure_cases (b : BridgeRuntime) (now : ℤ) (entry : ProfileEntry)
    (config : RuntimeControlConfig) : CallCase b (configure b now entry config).2.2 := by
  cases entry with
  | v1 => exact configureRuntimeControl_cases b now config _ _ _
  | v2 => exact configureRuntimeControl_cases b now config _ _ _
  | v3 =>
    simp only [configure, configureRuntimeControlV3]
    split
    · exact .same _ rfl rfl rfl
    · exact configureRuntimeControl_cases b now config _ _ _

theorem requestParallelHandshake_cases (b : BridgeRuntime) (now : ℤ) :
    CallCase b (requestParallelHandshake b now).2 := by
  unfold requestParallelHandshake
  split
  · exact .same _ rfl rfl rfl
  split
  · exact .same _ rfl rfl rfl
  · rename_i hgate
    extract_lets recovered
    have hsession : sessionView recovered = sessionView b := by
      unfold recovered
      split <;> rfl
    have haccepted : (Vcu.requestParallelHandshake b.controller).1 = true := by
      by_contra hno
      exact hgate (.inr (.inr (.inr (.inr (by simpa using hno)))))
    exact .restarted recovered hsession haccepted

theorem ingest_cases (b : BridgeRuntime) (now : ℤ) (frame : CanFrame) :
    CallCase b (ingest b now frame) := by
  have hingested := CallCase.ingested (b := b) now frame
  unfold ingest
  split
  rename_i accepted controller heq
  split
  · simpa only [heq] using hingested
  · exact .same _ rfl rfl rfl

theorem whileRunning_cases {b next : BridgeRuntime} (h : CallCase b next) :
    CallCase b (whileRunning b next) := by
  unfold whileRunning
  split
  · exact h
  · exact .same _ rfl rfl rfl

theorem sendResult_cases (b : BridgeRuntime) (failed : Bool) :
    CallCase b (sendResult b failed) := by
  unfold sendResult
  extract_lets failures counted
  split
  · exact .stopped _ rfl (latchStopProvenance_source _ _ _) rfl rfl rfl
  · exact .same _ rfl rfl rfl

theorem respond_cases (b : BridgeRuntime) (e : Event)
    (he : ∀ now chassis, e ≠ .tick now chassis) : CallCase b (respond b e).2 := by
  cases e with
  | configure now entry config => exact configure_cases b now entry config
  | clearRuntimeControl => exact .same _ rfl rfl rfl
  | setStopContext context =>
    simp only [respond, setStopContext]
    split
    · split <;> exact .same _ rfl rfl rfl
    · exact .same _ rfl rfl rfl
  | emergencyStop => exact emergencyStop_cases b
  | requestParallelHandshake now => exact requestParallelHandshake_cases b now
  | requestPark => exact requestPark_cases b
  | applyState now arguments => exact applyState_cases b now arguments
  | failControlApply => exact failControlApply_cases b
  | ingest now frame => exact ingest_cases b now frame
  | receiveFailure receiveResult =>
    exact whileRunning_cases (.stopped _ rfl (latchStopProvenance_source _ _ _) rfl rfl rfl)
  | tick now chassis => exact absurd rfl (he now chassis)
  | sendResult failed => exact whileRunning_cases (sendResult_cases b failed)
  | ioException =>
    exact whileRunning_cases (.stopped _ rfl (latchStopProvenance_source _ _ _) rfl rfl rfl)
  | beginClose =>
    simp only [respond, beginClose]
    split
    · exact .same _ rfl rfl rfl
    · exact .stopped _ rfl (latchStopProvenance_source _ _ _) rfl
        (requestDisarm_handshakeRevoked _).symm rfl
  | finishClose =>
    simp only [respond, finishClose]
    split <;> exact .same _ rfl rfl rfl

/-! ## The invariant of the bridge -/

structure BridgeInvariant (b : BridgeRuntime) : Prop where
  controller : ControllerInvariant b.controller
  stops : StopInvariant (stopView b)
  source_of_fault : b.chassisControlFaultLatched = true →
    b.stopSource ≠ .none ∨ b.controller.state = .initial
  latched_of_ready : b.controller.state = .ready → b.sessionReadyLatched = true
  since_of_latched : b.sessionReadyLatched = true → b.readySinceValid = true
  timeout : ControlTimeoutValid b.controlTimeoutMs

theorem Fresh.invariant {b : BridgeRuntime} (h : Fresh b) : BridgeInvariant b := by
  have hphysical : b.controller.physicalEmergencyLatched = false := by
    by_contra hp
    have hstop := h.controller.latches.stop_of_physical (by simpa using hp)
    exact absurd (hstop.symm.trans h.noStop) Bool.noConfusion
  refine ⟨h.controller, ⟨?_, ?_, ?_, ?_, ?_⟩, ?_, ?_, ?_, h.timeout⟩
  · exact fun he => absurd (he.symm.trans h.noEstop) Bool.noConfusion
  · exact fun hp => absurd (hp.symm.trans hphysical) Bool.noConfusion
  · exact fun hw => absurd (hw.symm.trans h.noWatchdog) Bool.noConfusion
  · exact fun ho => absurd (ho.symm.trans h.noOverspeed) Bool.noConfusion
  · exact fun hr => absurd (hr.symm.trans h.notReported) Bool.noConfusion
  · exact fun hf => absurd (hf.symm.trans h.noFault) Bool.noConfusion
  · exact fun hs => absurd (h.standby.symm.trans hs) Vcu.State.noConfusion
  · exact fun hl => absurd (hl.symm.trans h.notReady) Bool.noConfusion

/-- The fields a received frame cannot reach. -/
theorem recordFrame_frame (b : BridgeRuntime) (now : ℤ) (frame : CanFrame) :
    (recordFrame b now frame).controller = b.controller ∧
    (recordFrame b now frame).softwareEstop = b.softwareEstop ∧
    (recordFrame b now frame).controlWatchdogLatched = b.controlWatchdogLatched ∧
    (recordFrame b now frame).hardOverspeedLatched = b.hardOverspeedLatched ∧
    (recordFrame b now frame).handshakeRevokedReported = b.handshakeRevokedReported ∧
    sessionView (recordFrame b now frame) = sessionView b := by
  unfold recordFrame
  cases b
  split <;> exact ⟨rfl, rfl, rfl, rfl, rfl, rfl⟩

theorem recordFrame_source (b : BridgeRuntime) (now : ℤ) (frame : CanFrame) :
    (b.controller.physicalEmergencyLatched = true ∧
      (recordFrame b now frame).stopSource ≠ .none) ∨
    (b.controller.physicalEmergencyLatched = false ∧
      (recordFrame b now frame).stopSource = b.stopSource) := by
  unfold recordFrame
  cases h : b.controller.physicalEmergencyLatched with
  | true => exact .inl ⟨rfl, latchStopProvenance_source _ _ _⟩
  | false => exact .inr ⟨rfl, rfl⟩

/-- A received frame keeps the invariant: a new latch of the switch comes with its cause, and a
new revocation is not reported yet. -/
theorem keeps_recordFrame (b : BridgeRuntime) (now : ℤ) (frame : CanFrame) :
    Keeps (stopView b) (stopView
      (recordFrame { b with controller := (Vcu.ingest b.controller frame).2 } now frame)) := by
  intro hi
  obtain ⟨hc, he, hw, ho, hr, -⟩ :=
    recordFrame_frame { b with controller := (Vcu.ingest b.controller frame).2 } now frame
  have hsource :=
    recordFrame_source { b with controller := (Vcu.ingest b.controller frame).2 } now frame
  simp only [stopView, hc, he, hw, ho, hr]
  refine ⟨⟨fun hestop => ?_, fun hp => ?_, hi.3, hi.4, fun hrep => ?_⟩, fun hk hstop => ?_⟩
  · rcases hsource with ⟨-, hs⟩ | ⟨-, hs⟩
    · exact hs
    · exact fun hnone => hi.source_of_estop hestop (hs.symm.trans hnone)
  · rcases hsource with ⟨-, hs⟩ | ⟨hno, -⟩
    · exact hs
    · exact absurd (hp.symm.trans hno) Bool.noConfusion
  · have hrev : b.controller.handshakeRevoked = true := hi.revoked_of_reported hrep
    simp [Vcu.ingest_handshakeRevoked, hrev]
  · rcases Vcu.ingest_stop b.controller frame with ⟨hsame, -, -, hrev⟩ | ⟨-, -, -, hsees⟩ |
      ⟨-, hrev, hno, -⟩
    · rcases hk (hsame.symm.trans hstop) with h | h | h
      · exact .inl h
      · refine .inr (.inl ?_)
        have hp : b.controller.physicalEmergencyLatched = true := h
        simp [Vcu.ingest_physicalEmergencyLatched, hp]
      · exact .inr (.inr ⟨hrev.trans h.1, h.2⟩)
    · exact .inr (.inl (by simp [Vcu.ingest_physicalEmergencyLatched, hsees]))
    · refine .inr (.inr ⟨hrev, ?_⟩)
      by_contra hrep
      have hyes : b.controller.handshakeRevoked = true :=
        hi.revoked_of_reported (by simpa [stopView] using hrep)
      exact absurd (hyes.symm.trans hno) Bool.noConfusion

/-- An accepted handshake request starts with nothing stopped. -/
theorem restartSession_view {c : Controller} (recovered : BridgeRuntime)
    (haccepted : (Vcu.requestParallelHandshake c).1 = true) :
    let b' := restartSession { recovered with controller := (Vcu.requestParallelHandshake c).2 }
    stopView b' = ⟨false, .none, false, false, false, false, false, false⟩ ∧
      b'.controller.state = .initial := by
  unfold Vcu.requestParallelHandshake at haccepted ⊢
  split at haccepted
  · exact absurd haccepted Bool.noConfusion
  · rename_i h
    rw [if_neg h]
    cases recovered
    exact ⟨rfl, rfl⟩

theorem keeps_started (v : StopView) :
    Keeps v ⟨false, .none, false, false, false, false, false, false⟩ := fun _ =>
  ⟨⟨fun h => Bool.noConfusion h, fun h => Bool.noConfusion h, fun h => Bool.noConfusion h,
    fun h => Bool.noConfusion h, fun h => Bool.noConfusion h⟩, fun _ h => Bool.noConfusion h⟩

theorem CallCase.keeps {b b' : BridgeRuntime} (h : CallCase b b') :
    Keeps (stopView b) (stopView b') := by
  cases h with
  | same _ hstop hstate hsession => rw [hstop]; exact .refl _
  | stopped _ he hs hp hr hsession => exact .of_stopped he hs hp hr
  | ingested now frame => exact keeps_recordFrame b now frame
  | restarted recovered hsession haccepted =>
    rw [(restartSession_view recovered haccepted).1]
    exact keeps_started _

/-- The session after a call: untouched, or started again. -/
theorem CallCase.session {b b' : BridgeRuntime} (h : CallCase b b') :
    sessionView b' = sessionView b ∨
      (b'.sessionReadyLatched = false ∧ b'.controller.state = .initial ∧
        b'.controlTimeoutMs = b.controlTimeoutMs ∧
        b'.chassisControlFaultLatched = b.chassisControlFaultLatched) := by
  cases h with
  | same _ hstop hstate hsession => exact .inl hsession
  | stopped _ he hs hp hr hsession => exact .inl hsession
  | ingested now frame =>
    exact .inl (recordFrame_frame { b with controller := _ } now frame).2.2.2.2.2
  | restarted recovered hsession haccepted =>
    exact .inr ⟨rfl, (restartSession_view recovered haccepted).2,
      congrArg SessionView.controlTimeoutMs hsession,
      congrArg SessionView.chassisControlFaultLatched hsession⟩

/-- A stop with no cause left over from a fault is only there right after a handshake. -/
theorem CallCase.source {b b' : BridgeRuntime} (h : CallCase b b')
    (hb : b.stopSource ≠ .none ∨ b.controller.state = .initial) :
    b'.stopSource ≠ .none ∨ b'.controller.state = .initial := by
  cases h with
  | same _ hstop hstate hsession =>
    have hs : b'.stopSource = b.stopSource := congrArg StopView.source hstop
    rw [hs, hstate]
    exact hb
  | stopped _ he hs hp hr hsession => exact .inl hs
  | ingested now frame =>
    obtain ⟨hc, -⟩ :=
      recordFrame_frame { b with controller := (Vcu.ingest b.controller frame).2 } now frame
    rcases recordFrame_source { b with controller := (Vcu.ingest b.controller frame).2 } now
      frame with ⟨-, hs⟩ | ⟨hno, hs⟩
    · exact .inl hs
    · rw [hs, hc]
      refine hb.imp id fun hinit => ?_
      rcases Vcu.ingest_stop b.controller frame with ⟨-, hst, -⟩ | ⟨-, -, -, hsees⟩ |
        ⟨-, -, -, hsees, -⟩
      · exact hst.trans hinit
      · exact absurd hno (by simp [Vcu.ingest_physicalEmergencyLatched, hsees])
      · have hmem := hsees.2.2.2
        rw [hinit] at hmem
        exact absurd hmem (by decide)
  | restarted recovered hsession haccepted =>
    exact .inr (restartSession_view recovered haccepted).2

end MineTeleop.Bridge
