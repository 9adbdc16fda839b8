import MineTeleop.Bridge.Traction

/-!
# The hard latches

The hard-overspeed latch and a latched I/O error should outlast everything but the one recovery
each of them has.  A receive failure stores the errno it gets; when that is the code of the
arming timeout and the flag of a recoverable timeout is still set, it passes for one.

Proved here:

* `respond_overspeed`, `respond_error`: what lets go of the latch, and of an error, in any state;
* `hard_latches_hold`: the law in every run in which no receive failure is taken for an arming
  timeout;
* `hard_latches_hold_fails`: a run in which one is, and a handshake clears it.
-/

namespace MineTeleop.Bridge

open Runs Runs.Machine
open Vcu (CarriesTorque CommandBatch Controller shutdownStates)

/-! ## The law -/

/-- A handshake request accepted from Disarmed, with fresh neutral and standstill feedback. -/
def RecoversOverspeed (st : Step BridgeRuntime Event Reply) : Prop :=
  ∃ now, st.event = .requestParallelHandshake now ∧ st.output = .accepted true ∧
    st.before.controller.state = .disarmed ∧ speedFeedbackFresh st.before now = true ∧
    gearFeedbackFresh st.before now = true ∧ st.before.controller.feedback.gear = 1 ∧
    |st.before.controller.feedback.speedMps| ≤ 1 / 10

/-- An accepted handshake request or profile that finds the arming timeout recoverable: in
Disarmed, with a fresh satisfied parking gate. -/
def RecoversTimeout (st : Step BridgeRuntime Event Reply) : Prop :=
  ∃ now, ArmingTimeoutRecoveryReady st.before now ∧
    (st.event = .requestParallelHandshake now ∧ st.output = .accepted true ∨
      ∃ entry config revision, st.event = .configure now entry config ∧
        st.output = .configured .none revision)

/-- The step records an error that is no recoverable arming timeout. -/
def RecordsHardError (st : Step BridgeRuntime Event Reply) : Prop :=
  st.before.running = true ∧
    match st.event with
    | .receiveFailure _ => True
    | .sendResult failed => failed = true ∧ st.before.consecutiveSendFailures + 1 = 3
    | .tick now _ =>
      RetainedFeedbackTimeout st.before now ∨
        (st.before.chassisControlFaultLatched = false ∧
          st.after.chassisControlFaultLatched = true)
    | .ioException => True
    | _ => False

structure HardLatchLaw (st : Step BridgeRuntime Event Reply)
    (past : History BridgeRuntime Event Reply) : Prop where
  overspeed : st.before.hardOverspeedLatched = true →
    st.after.hardOverspeedLatched = true ∨ RecoversOverspeed st
  traction : st.before.hardOverspeedLatched = true ∨ st.after.hardOverspeedLatched = true →
    ∀ batch ∈ st.output.batch?, ¬CarriesTorque batch
  error : st.before.ioError ≠ 0 → st.after.ioError ≠ 0 ∨ RecoversTimeout st
  hard : Since (fun _ => True) RecordsHardError (st :: past) → st.after.ioError ≠ 0

/-- The result of a failed receive is negative: the branch of the loop that takes it. -/
def FailureNegative (st : Step BridgeRuntime Event Reply) : Prop :=
  match st.event with
  | .receiveFailure receiveResult => receiveResult < 0
  | _ => True

/-- A receive failure with the code of the arming timeout, while a recoverable one is latched. -/
def TakenForTimeout (st : Step BridgeRuntime Event Reply) : Prop :=
  match st.event with
  | .receiveFailure receiveResult =>
    st.before.running = true ∧ st.before.recoverableArmingTimeout = true ∧
      receiveResult = -eTimedOut
  | _ => False

/-- A receive failure that keeps its own meaning. -/
def FailureDistinct (st : Step BridgeRuntime Event Reply) : Prop :=
  FailureNegative st ∧ ¬TakenForTimeout st

instance : DecidablePred FailureNegative := fun st => by
  unfold FailureNegative
  split <;> infer_instance

instance : DecidablePred TakenForTimeout := fun st => by
  unfold TakenForTimeout
  split <;> infer_instance

instance : DecidablePred FailureDistinct := fun _ => inferInstanceAs (Decidable (_ ∧ _))

instance : DecidablePred RecordsHardError := fun st => by
  unfold RecordsHardError
  split <;> infer_instance

/-! ## What keeps the latches -/

/-- An error that no recovery takes away, in a state that only a handshake leaves. -/
structure HardError (b : BridgeRuntime) : Prop where
  error : b.ioError ≠ 0
  hard : b.recoverableArmingTimeout = true → b.ioError ≠ -eTimedOut
  shutdown : b.controller.state ∈ shutdownStates

/-- From `c` to `c'` a shutdown goes on. -/
def StaysDown (c c' : Controller) : Prop := c.state ∈ shutdownStates → c'.state ∈ shutdownStates

structure Retains (b b' : BridgeRuntime) : Prop where
  overspeed : b.hardOverspeedLatched = true → b'.hardOverspeedLatched = true
  error : b.ioError ≠ 0 → b'.ioError ≠ 0
  hard : HardError b → HardError b'

/-- The fields of the latches. -/
def latchFields (b : BridgeRuntime) : Bool × ℤ × Bool :=
  (b.hardOverspeedLatched, b.ioError, b.recoverableArmingTimeout)

namespace Retains

theorem refl (b : BridgeRuntime) : Retains b b := ⟨id, id, id⟩

theorem trans {b b' b'' : BridgeRuntime} (h : Retains b b') (h' : Retains b' b'') :
    Retains b b'' :=
  ⟨fun ho => h'.overspeed (h.overspeed ho), fun he => h'.error (h.error he),
    fun he => h'.hard (h.hard he)⟩

/-- Nothing but a set overspeed latch is written. -/
theorem of_overspeed {b b' : BridgeRuntime}
    (hoverspeed : b.hardOverspeedLatched = true → b'.hardOverspeedLatched = true)
    (herror : b'.ioError = b.ioError)
    (hflag : b'.recoverableArmingTimeout = b.recoverableArmingTimeout)
    (hstate : StaysDown b.controller b'.controller) : Retains b b' :=
  ⟨hoverspeed, fun he => herror ▸ he,
    fun h => ⟨herror ▸ h.error, by rw [hflag, herror]; exact h.hard, hstate h.shutdown⟩⟩

theorem same {b b' : BridgeRuntime} (hfields : latchFields b' = latchFields b)
    (hstate : StaysDown b.controller b'.controller) : Retains b b' := by
  obtain ⟨hoverspeed, herror, hflag⟩ : b'.hardOverspeedLatched = b.hardOverspeedLatched ∧
      b'.ioError = b.ioError ∧ b'.recoverableArmingTimeout = b.recoverableArmingTimeout := by
    simpa [latchFields] using hfields
  exact of_overspeed (fun h => hoverspeed.trans h) herror hflag hstate

/-- A failure is recorded. -/
theorem failed {b b' : BridgeRuntime}
    (hoverspeed : b'.hardOverspeedLatched = b.hardOverspeedLatched) (he : HardError b') :
    Retains b b' :=
  ⟨fun h => hoverspeed.trans h, fun _ => he.error, fun _ => he⟩

end Retains

theorem staysDown_refl (c : Controller) : StaysDown c c := id

theorem staysDown_emergencyStop (c : Controller) : StaysDown c (Vcu.emergencyStop c) := by
  obtain ⟨g, h⟩ := Vcu.emergencyStop_frame c
  intro hs
  rw [h]
  show Vcu.stoppedState c.state ∈ shutdownStates
  rwa [Vcu.stoppedState_shutdown hs]

theorem staysDown_transportFault (c : Controller) : StaysDown c (Vcu.transportFault c) :=
  fun _ => (by decide : Vcu.State.fault ∈ shutdownStates)

theorem staysDown_setCommand (c : Controller) (command : Vcu.Command) :
    StaysDown c (Vcu.setCommand c command).2 := by
  intro hs
  have hcase := Vcu.setCommand_cases c command
  generalize Vcu.setCommand c command = result at hcase ⊢
  cases hcase with
  | rejected => exact hs
  | moving g hgear hshut =>
    show Vcu.stoppedState c.state ∈ shutdownStates
    rwa [Vcu.stoppedState_shutdown hs]
  | accepted hv hsame => exact hs
  | regear hv hgear hready =>
    rw [hready] at hs
    exact absurd hs (by decide)

theorem staysDown_requestDisarm (c : Controller) : StaysDown c (Vcu.requestDisarm c) := by
  intro hs
  unfold Vcu.requestDisarm
  split_ifs
  · exact hs
  · exact (by decide : Vcu.State.disarmed ∈ shutdownStates)
  · exact (by decide : Vcu.State.disarmManual ∈ shutdownStates)
  · exact hs
  · exact (by decide : Vcu.State.disarmTorque ∈ shutdownStates)

theorem staysDown_ingest (c : Controller) (frame : Vcu.CanFrame) :
    StaysDown c (Vcu.ingest c frame).2 := by
  intro hs
  rcases Vcu.ingest_stop c frame with ⟨-, hst, -⟩ | ⟨-, -, hst, -⟩ | ⟨-, -, -, -, hst⟩
  · rwa [hst]
  · rw [hst]
    exact Vcu.switchedState_shutdown hs
  · rw [hst]
    split <;> decide

/-! ## The stages of an iteration -/

section
variable (b : BridgeRuntime) (v : IntentView) (now : ℤ)

/-- A shutdown has no feedback deadline. -/
theorem noTimeout_of_shutdown (hs : b.controller.state ∈ shutdownStates) :
    ¬(RetainedFeedbackTimeout b now ∨ FirstArmingFeedbackTimeout b now) := by
  rintro (⟨-, hactive, -⟩ | ⟨-, -, -, -, hstale⟩)
  · generalize b.controller.state = s at hs hactive
    cases s <;> first | exact absurd hs (by decide) | exact absurd hactive (by decide)
  · unfold armingFeedbackFresh at hstale
    generalize b.controller.state = s at hs hstale
    cases s <;> first | exact absurd hs (by decide) | exact Bool.noConfusion hstale

theorem retains_checkFeedbackTimeout : Retains b (checkFeedbackTimeout b now) := by
  unfold checkFeedbackTimeout
  split
  · rename_i htimeout
    exact ⟨id, fun _ => (by decide : -eTimedOut ≠ 0),
      fun he => absurd htimeout (noTimeout_of_shutdown b now he.shutdown)⟩
  · exact .refl b

theorem retains_checkControlWatchdog : Retains b (checkControlWatchdog b now) := by
  unfold checkControlWatchdog
  split
  · exact .same rfl (staysDown_emergencyStop _)
  · exact .refl b

theorem retains_withdrawLatestTraction : Retains b (withdrawLatestTraction b) :=
  .of_overspeed id rfl rfl (staysDown_refl _)

theorem retains_latchStopProvenance (source : StopSource) (reason : StopReason) :
    Retains b (latchStopProvenance b source reason) :=
  .of_overspeed id rfl rfl (staysDown_refl _)

theorem retains_softStop (clear : Bool) :
    Retains b (resetSpeedPid { b with clearSoftStopRequested := clear, softwareEstop := true }) :=
  .same rfl (staysDown_refl _)

theorem retains_reportPhysicalEmergency : Retains b (reportPhysicalEmergency b v) := by
  have hreported (b : BridgeRuntime) : Retains b { b with physicalEmergencyReported := true } :=
    .same rfl (staysDown_refl _)
  unfold reportPhysicalEmergency
  split
  · refine (retains_latchStopProvenance b .physicalEmergency .physicalEmergencySwitch).trans ?_
    refine (retains_softStop _ false).trans ?_
    dsimp only
    split
    · exact .refl _
    · exact (hreported _).trans (retains_withdrawLatestTraction _)
  · exact .refl b

theorem retains_latchHardOverspeed (reason : StopReason) :
    Retains b (latchHardOverspeed b reason) :=
  .of_overspeed (fun _ => rfl) rfl rfl (staysDown_emergencyStop _)

theorem retains_checkArmingMotion : Retains b (checkArmingMotion b v) := by
  unfold checkArmingMotion
  split
  · exact retains_latchHardOverspeed b _
  · exact .refl b

theorem retains_checkHardOverspeed : Retains b (checkHardOverspeed b v) := by
  unfold checkHardOverspeed
  split
  · exact retains_latchHardOverspeed b _
  · exact .refl b

theorem retains_clearSoftStop : Retains b (clearSoftStop b v) := by
  unfold clearSoftStop
  split
  · refine .same rfl fun hs => ?_
    show (Vcu.clearEmergencyStop b.controller).state ∈ shutdownStates
    unfold Vcu.clearEmergencyStop
    split <;> exact hs
  · exact .refl b

theorem retains_settleLatches : Retains b (settleLatches b v now) :=
  (retains_reportPhysicalEmergency b v).trans
    ((retains_checkArmingMotion _ v).trans
      ((retains_checkHardOverspeed _ v).trans
        ((retains_clearSoftStop _ v).trans (.same rfl (staysDown_refl _)))))

theorem retains_regulateSpeed (dt : ℚ) : Retains b (regulateSpeed b v now dt).2 := by
  unfold regulateSpeed
  split
  · exact .same rfl (staysDown_refl _)
  · split <;> exact .same rfl (staysDown_refl _)

theorem retains_limitTraction (active : Prop) [Decidable active] (output dt : ℚ) :
    Retains b (limitTraction b active output dt) := by
  unfold limitTraction
  split <;> exact .same rfl (staysDown_refl _)

theorem retains_submitCommand (command : Vcu.Command) :
    Retains b (submitCommand b command) := by
  unfold submitCommand
  split
  · extract_lets result
    have hset := staysDown_setCommand b.controller command
    split
    · exact .same rfl hset
    · exact .same rfl fun hs => staysDown_emergencyStop _ (hset hs)
  · exact .refl b

theorem retains_enforceHardLatches : Retains b (enforceHardLatches b v) := by
  refine .same rfl fun hs => ?_
  show (enforceHardLatches b v).controller.state ∈ shutdownStates
  unfold enforceHardLatches
  split
  · exact staysDown_emergencyStop _ hs
  · exact hs

theorem hardError_latchChassisControlFault : HardError (latchChassisControlFault b) :=
  ⟨(by decide : -eFault ≠ 0), fun _ => (by decide : -eFault ≠ -eTimedOut),
    (by decide : Vcu.State.fault ∈ shutdownStates)⟩

theorem retains_latchChassisControlFault : Retains b (latchChassisControlFault b) :=
  .failed rfl (hardError_latchChassisControlFault b)

theorem retains_commandChassis (chassis : ChassisOutcome) :
    Retains b (commandChassis b v chassis) := by
  cases chassis with
  | rejected => exact retains_latchChassisControlFault b
  | raised => exact retains_latchChassisControlFault b
  | controls wheels =>
    simp only [commandChassis]
    split
    · exact retains_latchChassisControlFault b
    · exact (retains_submitCommand b _).trans (retains_enforceHardLatches _ v)

theorem retains_holdChassisControlFault : Retains b (holdChassisControlFault b) := by
  refine .same rfl fun hs => ?_
  show (holdChassisControlFault b).controller.state ∈ shutdownStates
  simp only [holdChassisControlFault, resetDirectTraction, resetSpeedPid]
  split
  · exact staysDown_transportFault _ hs
  · exact hs

theorem retains_updateCommandFromIntent (dt : ℚ) (chassis : ChassisOutcome) :
    Retains b (updateCommandFromIntent b now dt chassis) := by
  unfold updateCommandFromIntent
  split
  · exact retains_holdChassisControlFault b
  · extract_lets view settled regulated limited
    exact (retains_settleLatches b view now).trans
      ((retains_regulateSpeed settled view now dt).trans
        ((retains_limitTraction regulated.2 _ _ _).trans
          (retains_commandChassis limited view chassis)))

theorem retains_guarded : Retains b (guarded b now) :=
  (Retains.same rfl (staysDown_refl _) :
      Retains b { b with lastControlTick := some now }).trans
    ((retains_checkFeedbackTimeout _ now).trans (retains_checkControlWatchdog _ now))

theorem retains_prepareTick (chassis : ChassisOutcome) :
    Retains b (prepareTick b now chassis) := by
  rw [prepareTick_eq]
  exact (retains_guarded b now).trans (retains_updateCommandFromIntent _ now _ chassis)

theorem retains_ticked (chassis : ChassisOutcome) : Retains b (ticked b now chassis) :=
  (retains_prepareTick b now chassis).trans (.same rfl fun hs => Vcu.advanceState_shutdown hs)

theorem retains_reportRevocation : Retains b (reportRevocation b) := by
  unfold reportRevocation
  split
  · exact .same rfl (staysDown_refl _)
  · exact .refl b

theorem retains_reportFault (stateBefore : Vcu.State) : Retains b (reportFault b stateBefore) := by
  unfold reportFault
  split
  · exact .same rfl (staysDown_refl _)
  · exact .refl b

theorem retains_latchSessionReady : Retains b (latchSessionReady b now) := by
  unfold latchSessionReady
  split
  · exact .same rfl (staysDown_refl _)
  · split <;> exact .same rfl (staysDown_refl _)

theorem retains_armFeedbackDeadline : Retains b (armFeedbackDeadline b now) := by
  unfold armFeedbackDeadline
  split <;> exact .same rfl (staysDown_refl _)

theorem retains_settleTick (stateBefore : Vcu.State) :
    Retains b (settleTick b now stateBefore) :=
  (retains_reportRevocation b).trans
    ((retains_reportFault _ stateBefore).trans
      ((retains_latchSessionReady _ now).trans
        ((retains_armFeedbackDeadline _ now).trans (.same rfl (staysDown_refl _)))))

theorem retains_tick (chassis : ChassisOutcome) : Retains b (tick b now chassis).2 := by
  cases hrun : b.running with
  | false =>
    rw [tick, if_pos hrun]
    exact .refl b
  | true =>
    rw [tick_running hrun]
    exact (retains_ticked b now chassis).trans (retains_settleTick _ now b.controller.state)

end

/-! ## The other events -/

section
variable (b : BridgeRuntime) (now : ℤ)

/-- A stop with its cause, a change of the controller, and the traction taken away. -/
theorem retains_stop {b' : BridgeRuntime} (source : StopSource) (reason : StopReason)
    (h : Retains (latchStopProvenance b source reason) b') :
    Retains b { withdrawLatestTraction b' with softwareEstop := true } := by
  have hstopped (b : BridgeRuntime) : Retains b { b with softwareEstop := true } :=
    .same rfl (staysDown_refl _)
  refine (retains_latchStopProvenance b source reason).trans (h.trans ?_)
  exact (retains_withdrawLatestTraction b').trans (hstopped _)

theorem retains_requestPark : Retains b (requestPark b).2 := by
  have hdisarm (b : BridgeRuntime) : Retains b
      { b with
        gearRejectionLatched := false
        gearRejectionRetainedGear := 1
        controller := Vcu.requestDisarm b.controller } :=
    .same rfl (staysDown_requestDisarm _)
  unfold requestPark
  split
  · exact .refl b
  · have hconsumed : Retains b (consumeStopContext b .driverPage .vcuHandshakeDisconnect).2 :=
      .same rfl (staysDown_refl _)
    exact hconsumed.trans (retains_stop _ _ _ (hdisarm _))

theorem retains_holdRejectedGear (requestedLongitudinal : ℚ) :
    Retains b (holdRejectedGear b requestedLongitudinal) :=
  .of_overspeed id rfl rfl (staysDown_refl _)

theorem retains_storeIntent (a : IntentArguments) : Retains b (storeIntent b now a).2 := by
  have hlatched (b : BridgeRuntime) : Retains b
      { b with gearRejectionRetainedGear := retainedGear b, gearRejectionLatched := true } :=
    .same rfl (staysDown_refl _)
  have hreleased (b : BridgeRuntime) : Retains b { b with gearRejectionLatched := false } :=
    .same rfl (staysDown_refl _)
  have haccepted (b : BridgeRuntime) : Retains b (acceptIntent b now a) :=
    .of_overspeed id rfl rfl (staysDown_refl _)
  unfold storeIntent
  split_ifs
  · exact .refl b
  iterate 4 exact retains_withdrawLatestTraction b
  · exact retains_holdRejectedGear b _
  · exact (hlatched b).trans (retains_holdRejectedGear _ _)
  · exact (hreleased b).trans (haccepted _)

theorem retains_emergency (b : BridgeRuntime) : Retains b
    { b with
      controller := Vcu.emergencyStop b.controller
      clearSoftStopRequested := false } :=
  .same rfl (staysDown_emergencyStop _)

theorem retains_failControlApply : Retains b (failControlApply b) := by
  have hlatched (b : BridgeRuntime) : Retains b
      { b with softwareEstop := true, controlWatchdogLatched := true } :=
    .same rfl (staysDown_refl _)
  refine (retains_latchStopProvenance b .softwareFault .controlApplyFailed).trans ?_
  refine (retains_emergency _).trans ?_
  exact (retains_withdrawLatestTraction _).trans (hlatched _)

theorem retains_applyState (a : ApplyArguments) : Retains b (applyState b now a).2 := by
  unfold applyState
  split
  · exact retains_failControlApply b
  · split
    · exact retains_requestPark b
    · exact retains_storeIntent b now _

theorem retains_emergencyStop : Retains b (emergencyStop b).2 := by
  unfold emergencyStop
  split
  · exact .refl b
  · have hconsumed : Retains b (consumeStopContext b .unknown .legacyUnspecified).2 :=
      .same rfl (staysDown_refl _)
    exact hconsumed.trans (retains_stop _ _ _ (retains_emergency _))

theorem retains_beginClose : Retains b (beginClose b) := by
  unfold beginClose
  split
  · exact .refl b
  · exact .same rfl (staysDown_requestDisarm _)

theorem retains_ingest (frame : Vcu.CanFrame) : Retains b (ingest b now frame) := by
  have hstays := staysDown_ingest b.controller frame
  unfold ingest
  split
  rename_i accepted controller heq
  rw [heq] at hstays
  split
  · unfold recordFrame
    extract_lets caught
    refine .same ?_ ?_
    · unfold caught
      split <;> rfl
    · intro hs
      unfold caught
      split <;> exact hstays hs
  · exact .refl b

theorem retains_sendResult (failed : Bool) : Retains b (sendResult b failed) := by
  unfold sendResult
  extract_lets failures counted
  split
  · exact .failed rfl ⟨(by decide : -eIo ≠ 0), fun _ => (by decide : -eIo ≠ -eTimedOut),
      (by decide : Vcu.State.fault ∈ shutdownStates)⟩
  · exact .same rfl (staysDown_refl _)

theorem hardError_receiveFailure {receiveResult : ℤ} (hnegative : receiveResult < 0)
    (hdistinct : b.recoverableArmingTimeout = true → receiveResult ≠ -eTimedOut) :
    HardError (receiveFailure b receiveResult) :=
  ⟨hnegative.ne, hdistinct, (by decide : Vcu.State.fault ∈ shutdownStates)⟩

theorem hardError_sendResult {failed : Bool} (hfailed : failed = true)
    (hthird : b.consecutiveSendFailures + 1 = 3) : HardError (sendResult b failed) := by
  subst hfailed
  unfold sendResult
  extract_lets failures counted
  have hfailures : failures = 3 := hthird
  rw [if_pos hfailures]
  exact ⟨(by decide : -eIo ≠ 0), fun _ => (by decide : -eIo ≠ -eTimedOut),
    (by decide : Vcu.State.fault ∈ shutdownStates)⟩

theorem hardError_ioException : HardError (ioException b) :=
  ⟨(by decide : -eFault ≠ 0), fun _ => (by decide : -eFault ≠ -eTimedOut),
    (by decide : Vcu.State.fault ∈ shutdownStates)⟩

theorem retains_whileRunning {next : BridgeRuntime} (h : Retains b next) :
    Retains b (whileRunning b next) := by
  unfold whileRunning
  split
  · exact h
  · exact .refl b

end

/-! ## Profiles and handshakes -/

section
variable (b : BridgeRuntime) (now : ℤ)

/-- A hard error is never found recoverable. -/
theorem HardError.notRecoverable {b : BridgeRuntime} (h : HardError b) (now : ℤ) :
    ¬ArmingTimeoutRecoveryReady b now := fun hready => h.hard hready.1 hready.2.1

/-- What a call leaves of the latches, when it may find the timeout recoverable. -/
structure RetainsUnlessRecovered (accepted : Prop) (b' : BridgeRuntime) : Prop where
  hard : HardError b → HardError b'
  error : b.ioError ≠ 0 → b'.ioError ≠ 0 ∨ (ArmingTimeoutRecoveryReady b now ∧ accepted)

theorem Retains.unlessRecovered {b b' : BridgeRuntime} (h : Retains b b') (now : ℤ)
    (accepted : Prop) : RetainsUnlessRecovered b now accepted b' :=
  ⟨h.hard, fun he => .inl (h.error he)⟩

theorem configureRuntimeControl_latches (config : RuntimeControlConfig) (expected : ℕ)
    (riseRate : Double) (parking : ℤ) :
    let r := configureRuntimeControl b now config expected riseRate parking
    r.2.2.hardOverspeedLatched = b.hardOverspeedLatched ∧
      RetainsUnlessRecovered b now (r.1 = .none) r.2.2 := by
  unfold configureRuntimeControl
  split
  · exact ⟨rfl, (Retains.refl b).unlessRecovered now _⟩
  split
  · exact ⟨rfl, (Retains.refl b).unlessRecovered now _⟩
  split
  · exact ⟨rfl, (Retains.refl b).unlessRecovered now _⟩
  split
  · exact ⟨rfl, (Retains.refl b).unlessRecovered now _⟩
  by_cases hready : ArmingTimeoutRecoveryReady b now
  · rw [if_pos hready]
    exact ⟨rfl, fun he => absurd hready (he.notRecoverable now), fun _ => .inr ⟨hready, rfl⟩⟩
  · rw [if_neg hready]
    have hinstalled :
        Retains b (installProfile b now config riseRate.value parking) :=
      .same rfl (staysDown_refl _)
    exact ⟨rfl, hinstalled.unlessRecovered now _⟩

theorem configure_latches (entry : ProfileEntry) (config : RuntimeControlConfig) :
    (configure b now entry config).2.2.hardOverspeedLatched = b.hardOverspeedLatched ∧
      RetainsUnlessRecovered b now ((configure b now entry config).1 = .none)
        (configure b now entry config).2.2 := by
  cases entry with
  | v1 => exact configureRuntimeControl_latches b now config _ _ _
  | v2 => exact configureRuntimeControl_latches b now config _ _ _
  | v3 =>
    simp only [configure, configureRuntimeControlV3]
    split
    · exact ⟨rfl, (Retains.refl b).unlessRecovered now _⟩
    · exact configureRuntimeControl_latches b now config _ _ _

theorem requestParallelHandshake_latches :
    (b.hardOverspeedLatched = true →
      (requestParallelHandshake b now).2.hardOverspeedLatched = true ∨
      ((requestParallelHandshake b now).1 = true ∧ HardLatchRecoveryReady b now)) ∧
    RetainsUnlessRecovered b now ((requestParallelHandshake b now).1 = true)
      (requestParallelHandshake b now).2 := by
  unfold requestParallelHandshake
  split_ifs with hrunning hgate hready
  · exact ⟨.inl, (Retains.refl b).unlessRecovered now _⟩
  · exact ⟨.inl, (Retains.refl b).unlessRecovered now _⟩
  · refine ⟨fun _ => .inr ⟨rfl, by_contra fun hno => hgate (.inr (.inr (.inl hno)))⟩, ?_⟩
    exact ⟨fun he => absurd hready (he.notRecoverable now), fun _ => .inr ⟨hready, rfl⟩⟩
  · refine ⟨fun _ => .inr ⟨rfl, by_contra fun hno => hgate (.inr (.inr (.inl hno)))⟩, ?_⟩
    exact ⟨fun he => absurd (.inr ⟨he.error, hready⟩) hrunning,
      fun he => absurd (.inr ⟨he, hready⟩) hrunning⟩

end

/-! ## One event -/

section
variable {opened b : BridgeRuntime} {e : Event}

/-- Every event but a profile, a handshake request and a receive failure. -/
theorem respond_retains (hconfigure : ∀ now entry config, e ≠ .configure now entry config)
    (hhandshake : ∀ now, e ≠ .requestParallelHandshake now)
    (hreceive : ∀ receiveResult, e ≠ .receiveFailure receiveResult) :
    Retains b (respond b e).2 := by
  cases e with
  | configure now entry config => exact absurd rfl (hconfigure now entry config)
  | clearRuntimeControl => exact .same rfl (staysDown_refl _)
  | setStopContext context =>
    simp only [respond, setStopContext]
    split
    · split
      · exact .refl b
      · exact .same rfl (staysDown_refl _)
    · exact .refl b
  | emergencyStop => exact retains_emergencyStop b
  | requestParallelHandshake now => exact absurd rfl (hhandshake now)
  | requestPark => exact retains_requestPark b
  | applyState now arguments => exact retains_applyState b now arguments
  | failControlApply => exact retains_failControlApply b
  | ingest now frame => exact retains_ingest b now frame
  | receiveFailure receiveResult => exact absurd rfl (hreceive receiveResult)
  | tick now chassis => exact retains_tick b now chassis
  | sendResult failed => exact retains_whileRunning b (retains_sendResult b failed)
  | ioException => exact retains_whileRunning b (.failed rfl (hardError_ioException b))
  | beginClose => exact retains_beginClose b
  | finishClose =>
    simp only [respond, finishClose]
    split
    · exact .same rfl (staysDown_refl _)
    · exact .refl b

theorem respond_receiveFailure {receiveResult : ℤ}
    (hdistinct : FailureDistinct ((machine opened).observe b (.receiveFailure receiveResult))) :
    Retains b (respond b (.receiveFailure receiveResult)).2 := by
  rw [respond, whileRunning]
  split
  · rename_i hrun
    exact .failed rfl (hardError_receiveFailure b hdistinct.1
      fun hflag heq => hdistinct.2 ⟨hrun, hflag, heq⟩)
  · exact .refl b

/-- Only a handshake from Disarmed lets go of the overspeed latch. -/
theorem respond_overspeed (h : b.hardOverspeedLatched = true) :
    (respond b e).2.hardOverspeedLatched = true ∨
      RecoversOverspeed ((machine opened).observe b e) := by
  by_cases hconfigure : ∃ now entry config, e = .configure now entry config
  · obtain ⟨now, entry, config, rfl⟩ := hconfigure
    exact .inl ((configure_latches b now entry config).1.trans h)
  by_cases hhandshake : ∃ now, e = .requestParallelHandshake now
  · obtain ⟨now, rfl⟩ := hhandshake
    refine ((requestParallelHandshake_latches b now).1 h).imp id fun ⟨haccepted, hrecovery⟩ => ?_
    rcases hrecovery with hno | ⟨hstate, hspeed, hgear, hneutral, hstopped⟩
    · exact absurd (h.symm.trans hno) Bool.noConfusion
    · exact ⟨now, rfl, congrArg Reply.accepted haccepted, hstate, hspeed, hgear, hneutral,
        hstopped⟩
  by_cases hreceive : ∃ receiveResult, e = .receiveFailure receiveResult
  · obtain ⟨receiveResult, rfl⟩ := hreceive
    left
    simp only [respond, whileRunning]
    split <;> exact h
  · exact .inl ((respond_retains (fun now entry config heq => hconfigure ⟨now, entry, config, heq⟩)
      (fun now heq => hhandshake ⟨now, heq⟩)
      fun receiveResult heq => hreceive ⟨receiveResult, heq⟩).overspeed h)

/-- Only a recovery takes an error away, and never a hard one. -/
theorem respond_error (hdistinct : FailureDistinct ((machine opened).observe b e)) :
    (b.ioError ≠ 0 → (respond b e).2.ioError ≠ 0 ∨
        RecoversTimeout ((machine opened).observe b e)) ∧
      (HardError b → HardError (respond b e).2) := by
  by_cases hconfigure : ∃ now entry config, e = .configure now entry config
  · obtain ⟨now, entry, config, rfl⟩ := hconfigure
    obtain ⟨-, hretains⟩ := configure_latches b now entry config
    refine ⟨fun he => (hretains.error he).imp id fun ⟨hready, hissue⟩ => ?_, hretains.hard⟩
    exact ⟨now, hready, .inr ⟨entry, config, (configure b now entry config).2.1, rfl,
      congrArg (Reply.configured · _) hissue⟩⟩
  by_cases hhandshake : ∃ now, e = .requestParallelHandshake now
  · obtain ⟨now, rfl⟩ := hhandshake
    obtain ⟨-, hretains⟩ := requestParallelHandshake_latches b now
    refine ⟨fun he => (hretains.error he).imp id fun ⟨hready, haccepted⟩ => ?_, hretains.hard⟩
    exact ⟨now, hready, .inl ⟨rfl, congrArg Reply.accepted haccepted⟩⟩
  have hretains : Retains b (respond b e).2 := by
    by_cases hreceive : ∃ receiveResult, e = .receiveFailure receiveResult
    · obtain ⟨receiveResult, rfl⟩ := hreceive
      exact respond_receiveFailure hdistinct
    · exact respond_retains (fun now entry config heq => hconfigure ⟨now, entry, config, heq⟩)
        (fun now heq => hhandshake ⟨now, heq⟩)
        fun receiveResult heq => hreceive ⟨receiveResult, heq⟩
  exact ⟨fun he => .inl (hretains.error he), hretains.hard⟩

end

/-! ## Runs -/

variable {opened b : BridgeRuntime} {h : History BridgeRuntime Event Reply}

theorem commandChassis_fault (b : BridgeRuntime) (v : IntentView) (chassis : ChassisOutcome) :
    commandChassis b v chassis = latchChassisControlFault b ∨
      (commandChassis b v chassis).chassisControlFaultLatched = b.chassisControlFaultLatched := by
  cases chassis with
  | rejected => exact .inl rfl
  | raised => exact .inl rfl
  | controls wheels =>
    simp only [commandChassis]
    split
    · exact .inl rfl
    · exact .inr (congrArg IterationView.chassisControlFaultLatched
        (submitCommand_iterationView b _))

theorem hardError_updateCommandFromIntent {now : ℤ} {dt : ℚ} {chassis : ChassisOutcome}
    (hbefore : b.chassisControlFaultLatched = false)
    (hafter : (updateCommandFromIntent b now dt chassis).chassisControlFaultLatched = true) :
    HardError (updateCommandFromIntent b now dt chassis) := by
  unfold updateCommandFromIntent at hafter ⊢
  rw [if_neg (by simp [hbefore])] at hafter ⊢
  have hview : ∀ (active : Prop) [Decidable active] (output : ℚ),
      (limitTraction (regulateSpeed (settleLatches b (intentView b now) now) (intentView b now)
        now dt).2 active output dt).chassisControlFaultLatched = false := by
    intro active _ output
    have hsame : iterationView (limitTraction (regulateSpeed (settleLatches b (intentView b now)
        now) (intentView b now) now dt).2 active output dt) = iterationView b := by
      rw [limitTraction_iterationView, regulateSpeed_iterationView, settleLatches_iterationView]
    exact (congrArg IterationView.chassisControlFaultLatched hsame).trans hbefore
  rcases commandChassis_fault _ (intentView b now) chassis with hlatch | hsame
  · rw [hlatch]
    exact hardError_latchChassisControlFault _
  · exact absurd (hafter.symm.trans (hsame.trans (hview _ _))) Bool.noConfusion

/-- A critical feedback lost after Ready, or a ChassisControl fault, is a hard error behind the
tick. -/
theorem hardError_tick (hrun : b.running = true) {now : ℤ} {chassis : ChassisOutcome}
    (hfails : RetainedFeedbackTimeout b now ∨
      (b.chassisControlFaultLatched = false ∧
        (tick b now chassis).2.chassisControlFaultLatched = true)) :
    HardError (tick b now chassis).2 := by
  rw [tick_running hrun] at hfails ⊢
  have hadvanced : Retains (prepareTick b now chassis) (ticked b now chassis) :=
    .same rfl fun hs => Vcu.advanceState_shutdown hs
  refine (hadvanced.trans (retains_settleTick _ now b.controller.state)).hard ?_
  rw [prepareTick_eq]
  rcases hfails with hlost | ⟨hbefore, hafter⟩
  · -- The watchdog finds the session's feedback lost, so the timeout is not recoverable.
    refine (retains_updateCommandFromIntent _ now _ chassis).hard
      ((retains_checkControlWatchdog _ now).hard ?_)
    unfold checkFeedbackTimeout
    rw [if_pos (.inl hlost)]
    refine ⟨(by decide : -eTimedOut ≠ 0), fun hflag => ?_,
      (by decide : Vcu.State.fault ∈ shutdownStates)⟩
    have hfirst := of_decide_eq_true hflag
    exact absurd (hfirst.1.symm.trans hlost.1) Bool.noConfusion
  · refine hardError_updateCommandFromIntent ((guarded_fault b now).trans hbefore) ?_
    exact (congrArg SessionView.chassisControlFaultLatched
      (settleTick_session (ticked b now chassis) now b.controller.state)).symm.trans hafter

theorem hardError_recorded {e : Event}
    (hdistinct : FailureDistinct ((machine opened).observe b e))
    (hrecords : RecordsHardError ((machine opened).observe b e)) : HardError (respond b e).2 := by
  have hrun : b.running = true := hrecords.1
  have hrecorded := hrecords.2
  cases e with
  | receiveFailure receiveResult =>
    rw [respond, whileRunning, if_pos hrun]
    exact hardError_receiveFailure b hdistinct.1
      fun hflag heq => hdistinct.2 ⟨hrun, hflag, heq⟩
  | sendResult failed =>
    rw [respond, whileRunning, if_pos hrun]
    exact hardError_sendResult b hrecorded.1 hrecorded.2
  | tick now chassis => exact hardError_tick hrun hrecorded
  | ioException =>
    rw [respond, whileRunning, if_pos hrun]
    exact hardError_ioException b
  | _ => exact absurd hrecorded id

/-- A hard error that has been recorded is still there. -/
def ErrorRecord (h : History BridgeRuntime Event Reply) (b : BridgeRuntime) : Prop :=
  Since (fun _ => True) RecordsHardError h → HardError b

theorem errorRecord_step {e : Event} (hrecord : ErrorRecord h b)
    (hdistinct : FailureDistinct ((machine opened).observe b e)) :
    ErrorRecord ((machine opened).observe b e :: h) (respond b e).2 := by
  rintro (hnow | ⟨-, hsince⟩)
  · exact hardError_recorded hdistinct hnow
  · exact (respond_error hdistinct).2 (hrecord hsince)

/-- No torque while the overspeed latch is set, before the step or after it. -/
theorem overspeed_carries_no_torque (ho : Opened opened) (hr : Run (machine opened) h b)
    (e : Event) (hlatched : b.hardOverspeedLatched = true ∨
      (respond b e).2.hardOverspeedLatched = true) :
    ∀ batch ∈ (respond b e).1.batch?, ¬CarriesTorque batch := by
  intro batch hbatch htorque
  have hgate := (traction_gate ho (Run.step e hr)).1
  cases e with
  | tick now chassis =>
    have hoff := (hgate now chassis batch rfl (congrArg Reply.transmitted hbatch) htorque).overspeed
    have hon : (tick b now chassis).2.hardOverspeedLatched = true :=
      hlatched.elim (retains_tick b now chassis).overspeed id
    exact absurd (hon.symm.trans hoff) Bool.noConfusion
  | _ => exact absurd hbatch (Option.not_mem_none batch)

/-- **The hard latches hold** in every run in which no receive failure is taken for an arming
timeout. -/
theorem hard_latches_hold (ho : Opened opened) (hr : Run (machine opened) h b)
    (hc : Steps FailureDistinct h) : Always HardLatchLaw h := by
  refine Run.always_of_link (R := ErrorRecord) (fun hsince => absurd hsince (since_nil _ _))
    (fun _ _ _ _ hrecord hdistinct => errorRecord_step hrecord hdistinct)
    (fun past b e hr hrecord hdistinct => ?_) hr hc
  exact
    { overspeed := respond_overspeed
      traction := overspeed_carries_no_torque ho hr e
      error := (respond_error hdistinct).1
      hard := fun hsince => (errorRecord_step hrecord hdistinct hsince).error }

/-! ## A receive failure taken for a timeout -/

/-- The record of a parked vehicle, and a tick. -/
def parkedTick (milliseconds : ℤ) : List Event :=
  feedbackEvents (ms milliseconds) {} ++ [tickAt milliseconds]

/-- Arming times out at 640 ms, a read fails, and the vehicle is disarmed. -/
def timedOutEvents (receiveResult : ℤ) : List Event :=
  feedbackEvents 0 {} ++ [.requestParallelHandshake 0] ++ [20, 40, 60, 80, 100, 120].map tickAt ++
  [.ingest (ms 120) (Vcu.handshakeFrame 5), tickAt 140, tickAt 640,
    .receiveFailure receiveResult, .requestPark] ++
  [660, 680, 700, 720, 740].flatMap parkedTick

/-- A read that fails with ETIMEDOUT is cleared by the handshake. -/
theorem hard_latches_hold_fails :
    ¬∀ (opened b : BridgeRuntime) (h : History BridgeRuntime Event Reply), Opened opened →
      Run (machine opened) h b → Steps FailureNegative h → Always HardLatchLaw h := by
  intro hall
  have hlaw := hall benchBridge _ _ benchBridge_opened
    (Run.play _ (timedOutEvents (-eTimedOut) ++ [.requestParallelHandshake (ms 740)]))
    (by decide +kernel)
  rw [Machine.play_concat] at hlaw
  have hrecorded : Since (fun _ => True) RecordsHardError
      ((machine benchBridge).play (timedOutEvents (-eTimedOut))).1 := by
    decide +kernel
  exact hlaw.1.hard (.inr ⟨trivial, hrecorded⟩) (by decide +kernel)

/-- The same run with a read that fails with ENETDOWN: nothing clears it. -/
theorem hard_latches_hold_networkDown :
    let run := (machine benchBridge).play
      (timedOutEvents (-100) ++ [.requestParallelHandshake (ms 740)])
    run.2.ioError = -100 ∧ run.2.controller.state = .disarmed ∧ Always HardLatchLaw run.1 :=
  ⟨by decide +kernel, by decide +kernel,
    hard_latches_hold benchBridge_opened (Run.play _ _) (by decide +kernel)⟩

end MineTeleop.Bridge
