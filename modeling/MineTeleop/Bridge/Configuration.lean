import MineTeleop.Bridge.Traction

/-!
# Runtime configuration of the bridge

Proved here, for every run of an opened bridge:

* `configure_decides`: a rejected call changes nothing at all; an accepted one has passed its
  checks and installs the profile;
* `configuration_holds`: the revisions accepted between two clears only rise, what needs parking
  finds the vehicle parked, and behind an accepted call no batch carries torque before the next
  stored intent.
-/

namespace MineTeleop.Bridge

open Runs
open Vcu (CarriesTorque CommandBatch)

/-! ## What keeps the profile and the traction withdrawn -/

/-- The latest intent asks for no traction. -/
def Coasts (b : BridgeRuntime) : Prop := b.latestIntent.normalizedLongitudinal ≤ 0

/-- What bounds an intent: the limits of the vehicle and the profile in force. -/
structure ControlLimits where
  fullScaleMotorTorqueNm : ℚ
  hardSpeedLimitMps : ℚ
  maxOrdinaryBrakeBar : ℚ
  runtimeControl : RuntimeControlSettings

def controlLimits (b : BridgeRuntime) : ControlLimits :=
  { fullScaleMotorTorqueNm := b.fullScaleMotorTorqueNm
    hardSpeedLimitMps := b.speedControl.hardSpeedLimitMps
    maxOrdinaryBrakeBar := b.maxOrdinaryBrakeBar
    runtimeControl := b.runtimeControl }

/-- From `b` to `b'` the limits stay, and so does traction that has been withdrawn. -/
structure Restrains (b b' : BridgeRuntime) : Prop where
  limits : controlLimits b' = controlLimits b
  traction : Coasts b → Coasts b'

namespace Restrains

theorem refl (b : BridgeRuntime) : Restrains b b := ⟨rfl, id⟩

theorem trans {b b' b'' : BridgeRuntime} (h : Restrains b b') (h' : Restrains b' b'') :
    Restrains b b'' :=
  ⟨h'.limits.trans h.limits, fun hc => h'.traction (h.traction hc)⟩

/-- Neither field is written. -/
theorem same {b b' : BridgeRuntime} (hlimits : controlLimits b' = controlLimits b)
    (hintent : b'.latestIntent = b.latestIntent) : Restrains b b' :=
  ⟨hlimits, fun hc => by rw [Coasts, hintent]; exact hc⟩

end Restrains

theorem coasts_withdrawLatestTraction (b : BridgeRuntime) : Coasts (withdrawLatestTraction b) :=
  le_refl (0 : ℚ)

theorem restrains_withdraw {b b' : BridgeRuntime} (h : controlLimits b' = controlLimits b) :
    Restrains b (withdrawLatestTraction b') :=
  ⟨h, fun _ => coasts_withdrawLatestTraction b'⟩

section
variable (b : BridgeRuntime) (v : IntentView) (now : ℤ)

theorem restrains_checkFeedbackTimeout : Restrains b (checkFeedbackTimeout b now) := by
  unfold checkFeedbackTimeout
  split
  · exact restrains_withdraw rfl
  · exact .refl b

theorem restrains_checkControlWatchdog : Restrains b (checkControlWatchdog b now) := by
  unfold checkControlWatchdog
  split
  · exact restrains_withdraw rfl
  · exact .refl b

theorem restrains_reportPhysicalEmergency : Restrains b (reportPhysicalEmergency b v) := by
  unfold reportPhysicalEmergency
  split
  · extract_lets latched reset
    split
    · exact .same rfl rfl
    · exact restrains_withdraw rfl
  · exact .refl b

theorem restrains_latchHardOverspeed (reason : StopReason) :
    Restrains b (latchHardOverspeed b reason) := .same rfl rfl

theorem restrains_checkArmingMotion : Restrains b (checkArmingMotion b v) := by
  unfold checkArmingMotion
  split
  · exact restrains_latchHardOverspeed b _
  · exact .refl b

theorem restrains_checkHardOverspeed : Restrains b (checkHardOverspeed b v) := by
  unfold checkHardOverspeed
  split
  · exact restrains_latchHardOverspeed b _
  · exact .refl b

theorem restrains_clearSoftStop : Restrains b (clearSoftStop b v) := by
  unfold clearSoftStop
  split
  · exact .same rfl rfl
  · exact .refl b

theorem restrains_settleLatches : Restrains b (settleLatches b v now) :=
  (restrains_reportPhysicalEmergency b v).trans
    ((restrains_checkArmingMotion _ v).trans
      ((restrains_checkHardOverspeed _ v).trans
        ((restrains_clearSoftStop _ v).trans (.same rfl rfl))))

theorem restrains_regulateSpeed (dt : ℚ) : Restrains b (regulateSpeed b v now dt).2 := by
  unfold regulateSpeed
  split
  · exact .same rfl rfl
  · split <;> exact .same rfl rfl

theorem restrains_limitTraction (active : Prop) [Decidable active] (output dt : ℚ) :
    Restrains b (limitTraction b active output dt) := by
  unfold limitTraction
  split <;> exact .same rfl rfl

theorem restrains_submitCommand (command : Vcu.Command) : Restrains b (submitCommand b command) := by
  unfold submitCommand
  split
  · extract_lets result
    split <;> exact .same rfl rfl
  · exact .refl b

theorem restrains_latchChassisControlFault : Restrains b (latchChassisControlFault b) :=
  restrains_withdraw rfl

theorem restrains_commandChassis (chassis : ChassisOutcome) :
    Restrains b (commandChassis b v chassis) := by
  cases chassis with
  | rejected => exact restrains_latchChassisControlFault b
  | raised => exact restrains_latchChassisControlFault b
  | controls wheels =>
    simp only [commandChassis]
    split
    · exact restrains_latchChassisControlFault b
    · exact (restrains_submitCommand b _).trans (.same rfl rfl)

theorem restrains_prepareTick (chassis : ChassisOutcome) :
    Restrains b (prepareTick b now chassis) := by
  have hguarded : Restrains b (guarded b now) :=
    (Restrains.same rfl rfl : Restrains b { b with lastControlTick := some now }).trans
      ((restrains_checkFeedbackTimeout _ now).trans (restrains_checkControlWatchdog _ now))
  rw [prepareTick_eq]
  refine hguarded.trans ?_
  generalize guarded b now = g
  unfold updateCommandFromIntent
  split
  · exact .same rfl rfl
  · extract_lets view settled regulated limited
    exact (restrains_settleLatches g view now).trans
      ((restrains_regulateSpeed settled view now _).trans
        ((restrains_limitTraction regulated.2 _ _ _).trans
          (restrains_commandChassis limited view chassis)))

theorem restrains_reportRevocation : Restrains b (reportRevocation b) := by
  unfold reportRevocation
  split
  · exact ⟨rfl, fun _ => le_refl (0 : ℚ)⟩
  · exact .refl b

theorem restrains_reportFault (stateBefore : Vcu.State) :
    Restrains b (reportFault b stateBefore) := by
  unfold reportFault
  split
  · exact restrains_withdraw rfl
  · exact .refl b

theorem restrains_latchSessionReady : Restrains b (latchSessionReady b now) := by
  unfold latchSessionReady
  split
  · exact .same rfl rfl
  · split <;> exact .same rfl rfl

theorem restrains_armFeedbackDeadline : Restrains b (armFeedbackDeadline b now) := by
  unfold armFeedbackDeadline
  split <;> exact .same rfl rfl

theorem restrains_settleTick (stateBefore : Vcu.State) :
    Restrains b (settleTick b now stateBefore) :=
  (restrains_reportRevocation b).trans
    ((restrains_reportFault _ stateBefore).trans
      ((restrains_latchSessionReady _ now).trans
        ((restrains_armFeedbackDeadline _ now).trans (.same rfl rfl))))

theorem restrains_tick (chassis : ChassisOutcome) : Restrains b (tick b now chassis).2 := by
  cases hrun : b.running with
  | false =>
    rw [tick, if_pos hrun]
    exact .refl b
  | true =>
    have hticked : Restrains b (ticked b now chassis) :=
      (restrains_prepareTick b now chassis).trans (.same rfl rfl)
    rw [tick_running hrun]
    exact hticked.trans (restrains_settleTick _ now b.controller.state)

/-! ## The other events -/

/-- The call that stores an intent. -/
def StoresIntent (st : Step BridgeRuntime Event Reply) : Prop :=
  ∃ now arguments, st.event = .applyState now arguments ∧
    ∃ checked, arguments.checked? = some checked ∧ checked.gear ≠ 4 ∧
      st.output = .applied ⟨0, .none⟩

theorem restrains_latchStopProvenance (source : StopSource) (reason : StopReason) :
    Restrains b (latchStopProvenance b source reason) := .same rfl rfl

/-- A stop takes the traction away and holds the software stop. -/
theorem restrains_stop {b' : BridgeRuntime} (source : StopSource) (reason : StopReason)
    (h : Restrains (latchStopProvenance b source reason) b') :
    Restrains b { withdrawLatestTraction b' with softwareEstop := true } := by
  have hstopped (b : BridgeRuntime) : Restrains b { b with softwareEstop := true } :=
    .same rfl rfl
  refine (restrains_latchStopProvenance b source reason).trans (h.trans ?_)
  exact (restrains_withdraw rfl).trans (hstopped _)

theorem restrains_consumeStopContext (source : StopSource) (reason : StopReason) :
    Restrains b (consumeStopContext b source reason).2 := .same rfl rfl

theorem restrains_requestPark : Restrains b (requestPark b).2 := by
  have hdisarm (b : BridgeRuntime) : Restrains b
      { b with
        gearRejectionLatched := false
        gearRejectionRetainedGear := 1
        controller := Vcu.requestDisarm b.controller } :=
    .same rfl rfl
  unfold requestPark
  split
  · exact .refl b
  · exact (restrains_consumeStopContext b _ _).trans (restrains_stop _ _ _ (hdisarm _))

/-- An intent that is not stored leaves no traction behind. -/
theorem storeIntent_restrains (a : IntentArguments) :
    (storeIntent b now a).1 = .none ∧
        controlLimits (storeIntent b now a).2 = controlLimits b ∨
      (storeIntent b now a).1 ≠ .none ∧ Restrains b (storeIntent b now a).2 := by
  have hwithdrawn : Restrains b (withdrawLatestTraction b) := restrains_withdraw rfl
  have hheld (b : BridgeRuntime) (requestedLongitudinal : ℚ) :
      Restrains b (holdRejectedGear b requestedLongitudinal) := ⟨rfl, fun _ => min_le_left _ _⟩
  have hlatched (b : BridgeRuntime) : Restrains b
      { b with gearRejectionRetainedGear := retainedGear b, gearRejectionLatched := true } :=
    .same rfl rfl
  unfold storeIntent
  split_ifs
  · exact .inr ⟨by simp, .refl b⟩
  · exact .inr ⟨by simp, hwithdrawn⟩
  · exact .inr ⟨by simp, hwithdrawn⟩
  · exact .inr ⟨by simp, hwithdrawn⟩
  · exact .inr ⟨by simp, hwithdrawn⟩
  · exact .inr ⟨by simp, hheld b _⟩
  · exact .inr ⟨by simp, (hlatched b).trans (hheld _ _)⟩
  · exact .inl ⟨rfl, rfl⟩

theorem restrains_emergency : Restrains b
    { b with
      controller := Vcu.emergencyStop b.controller
      clearSoftStopRequested := false } := .same rfl rfl

theorem restrains_failControlApply : Restrains b (failControlApply b) := by
  have hlatched (b : BridgeRuntime) : Restrains b { b with controlWatchdogLatched := true } :=
    .same rfl rfl
  have hstopped := restrains_stop b .softwareFault .controlApplyFailed (restrains_emergency _)
  exact hstopped.trans (hlatched _)

theorem restrains_emergencyStop : Restrains b (emergencyStop b).2 := by
  unfold emergencyStop
  split
  · exact .refl b
  · refine (restrains_consumeStopContext b .unknown .legacyUnspecified).trans ?_
    exact restrains_stop _ _ _ (restrains_emergency _)

theorem restrains_restartSession : Restrains b (restartSession b) :=
  ⟨rfl, fun _ => le_refl (0 : ℚ)⟩

theorem restrains_recoverArmingTimeout : Restrains b (recoverArmingTimeout b) := .same rfl rfl

theorem restrains_requestParallelHandshake :
    Restrains b (requestParallelHandshake b now).2 := by
  have hcommanded (b : BridgeRuntime) (controller : Vcu.Controller) :
      Restrains b { b with controller := controller } := .same rfl rfl
  unfold requestParallelHandshake
  split
  · exact .refl b
  · split
    · exact .refl b
    · extract_lets recovered
      have hrecovered : Restrains b recovered := by
        unfold recovered
        split
        · exact restrains_recoverArmingTimeout b
        · exact .refl b
      exact (hrecovered.trans (hcommanded _ _)).trans (restrains_restartSession _)

theorem restrains_ingest (frame : Vcu.CanFrame) : Restrains b (ingest b now frame) := by
  unfold ingest
  split
  split
  · unfold recordFrame
    extract_lets recorded
    have hrecorded : Restrains b recorded := by
      unfold recorded
      split <;> exact .same rfl rfl
    exact hrecorded.trans (.same rfl rfl)
  · exact .refl b

theorem restrains_whileRunning {next : BridgeRuntime} (h : Restrains b next) :
    Restrains b (whileRunning b next) := by
  unfold whileRunning
  split
  · exact h
  · exact .refl b

theorem restrains_sendResult (failed : Bool) : Restrains b (sendResult b failed) := by
  unfold sendResult
  extract_lets failures counted
  split <;> exact .same rfl rfl

end

/-! ## What `configure` decides -/

/-- A limit goes up by more than the tolerance. -/
def RaisesLimit (b b' : BridgeRuntime) : Prop :=
  b.runtimeControl.targetSpeedLimitMps + tolerance < b'.runtimeControl.targetSpeedLimitMps ∨
  b.runtimeControl.maxMotorTorqueNm + tolerance < b'.runtimeControl.maxMotorTorqueNm

/-- Another PID, brake, steering, rise rate or parking parameter. -/
def ChangesDynamics (b b' : BridgeRuntime) : Prop :=
  b'.speedControl.pid ≠ b.speedControl.pid ∨
  b'.runtimeControl.maxBrakePressureBar ≠ b.runtimeControl.maxBrakePressureBar ∨
  b'.runtimeControl.maxSteeringRequest ≠ b.runtimeControl.maxSteeringRequest ∨
  b'.speedControl.motorTorqueRiseRateNmPerS ≠ b.speedControl.motorTorqueRiseRateNmPerS ∨
  b'.runtimeControl.parkingIdleTimeoutMs ≠ b.runtimeControl.parkingIdleTimeoutMs

/-- An accepted configuration. -/
structure Configures (b : BridgeRuntime) (now : ℤ) (config : RuntimeControlConfig)
    (b' : BridgeRuntime) : Prop where
  active : b'.runtimeControl.active = true
  revision : b'.runtimeControl.revision = config.profileRevision
  rises : b.runtimeControl.active = true → b.runtimeControl.revision < config.profileRevision
  parked : b.runtimeControl.active = false ∨ RaisesLimit b b' ∨ ChangesDynamics b b' →
    ParkedForConfiguration b now
  withdrawn : b'.latestIntent.normalizedLongitudinal = 0 ∧ b'.latestIntent.targetSpeedMps = 0

theorem configureRuntimeControl_decides (b : BridgeRuntime) (now : ℤ)
    (config : RuntimeControlConfig) (expected : ℕ) (riseRate : Double) (parking : ℤ) :
    let r := configureRuntimeControl b now config expected riseRate parking
    (r.1 ≠ .none ∧ r.2.1 = 0 ∧ r.2.2 = b) ∨
      (r.1 = .none ∧ r.2.1 = config.profileRevision ∧ Configures b now config r.2.2) := by
  unfold configureRuntimeControl
  split
  · exact .inl ⟨by simp, rfl, rfl⟩
  split
  · exact .inl ⟨by simp, rfl, rfl⟩
  split
  · exact .inl ⟨by simp, rfl, rfl⟩
  rename_i hrevision
  split
  · exact .inl ⟨by simp, rfl, rfl⟩
  rename_i hparking
  extract_lets recovered
  have hprofile : recovered.runtimeControl = b.runtimeControl ∧
      recovered.speedControl = b.speedControl := by
    unfold recovered
    split <;> exact ⟨rfl, rfl⟩
  refine .inr ⟨rfl, rfl, rfl, rfl, fun hactive => ?_, fun hneeds => ?_, rfl, rfl⟩
  · exact not_le.mp fun hle => hrevision ⟨hactive, hle⟩
  · by_contra hnot
    refine hparking ⟨?_, hnot⟩
    rcases hneeds with hinactive | hraises | hchanges
    · exact .inl hinactive
    · rcases hraises with hspeed | htorque
      · exact .inr (.inr (.inr (.inr (.inl hspeed))))
      · exact .inr (.inr (.inr (.inr (.inr (.inl htorque)))))
    · rcases hchanges with hchanged | hbrake | hsteering | hrise | hidle
      · refine .inr (.inl fun hsame => hchanged ?_)
        show config.pid?.getD recovered.speedControl.pid = b.speedControl.pid
        rw [hsame]
        rfl
      · exact .inr (.inr (.inr (.inr (.inr (.inr (.inl hbrake))))))
      · exact .inr (.inr (.inr (.inr (.inr (.inr (.inr hsteering))))))
      · exact .inr (.inr (.inl hrise))
      · exact .inr (.inr (.inr (.inl hidle)))

theorem configureRuntimeControl_none_iff (b : BridgeRuntime) (now : ℤ)
    (config : RuntimeControlConfig) (expected : ℕ) (riseRate : Double) (parking : ℤ) :
    (configureRuntimeControl b now config expected riseRate parking).1 = .none ↔
      ¬(b.running = false ∨ (b.ioError ≠ 0 ∧ ¬ArmingTimeoutRecoveryReady b now)) ∧
      ProfileArgumentsValid b config expected riseRate ∧
      ¬(b.runtimeControl.active = true ∧ config.profileRevision ≤ b.runtimeControl.revision) ∧
      ¬(RequiresParking b config riseRate.value parking ∧ ¬ParkedForConfiguration b now) := by
  unfold configureRuntimeControl
  split
  · rename_i hrun
    exact ⟨fun h => (nomatch h), fun h => absurd hrun h.1⟩
  rename_i hrun
  split
  · rename_i hvalid
    exact ⟨fun h => (nomatch h), fun h => absurd h.2.1 hvalid⟩
  rename_i hvalid
  split
  · rename_i hstale
    exact ⟨fun h => (nomatch h), fun h => absurd hstale h.2.2.1⟩
  rename_i hstale
  split
  · rename_i hparking
    exact ⟨fun h => (nomatch h), fun h => absurd hparking h.2.2.2⟩
  rename_i hparking
  exact ⟨fun _ => ⟨hrun, not_not.mp hvalid, hstale, hparking⟩, fun _ => rfl⟩

/-- What an accepted configuration leaves of the limits. -/
theorem configureRuntimeControl_limits {b : BridgeRuntime} {now : ℤ}
    {config : RuntimeControlConfig} {expected : ℕ} {riseRate : Double} {parking : ℤ}
    (h : (configureRuntimeControl b now config expected riseRate parking).1 = .none) :
    controlLimits (configureRuntimeControl b now config expected riseRate parking).2.2 =
      { controlLimits b with
        runtimeControl :=
          { active := true
            parkingIdleTimeoutMs := parking
            revision := config.profileRevision
            targetSpeedLimitMps := config.targetSpeedLimitMps.value
            maxMotorTorqueNm := config.maxMotorTorqueNm.value
            maxBrakePressureBar := config.maxBrakePressureBar.value
            maxSteeringRequest := config.maxSteeringRequest.value
            motorTorqueRiseRateNmPerS := riseRate.value } } := by
  obtain ⟨hrun, hvalid, hstale, hparking⟩ :=
    (configureRuntimeControl_none_iff b now config expected riseRate parking).mp h
  unfold configureRuntimeControl
  rw [if_neg hrun, if_neg (not_not.mpr hvalid), if_neg hstale, if_neg hparking]
  by_cases hready : ArmingTimeoutRecoveryReady b now
  · rw [if_pos hready]
    rfl
  · rw [if_neg hready]
    rfl

theorem configure_decides (b : BridgeRuntime) (now : ℤ) (entry : ProfileEntry)
    (config : RuntimeControlConfig) :
    let r := configure b now entry config
    (r.1 ≠ .none ∧ r.2.1 = 0 ∧ r.2.2 = b) ∨
      (r.1 = .none ∧ r.2.1 = config.profileRevision ∧ Configures b now config r.2.2) := by
  cases entry with
  | v1 => exact configureRuntimeControl_decides b now config _ _ _
  | v2 => exact configureRuntimeControl_decides b now config _ _ _
  | v3 =>
    simp only [configure, configureRuntimeControlV3]
    split
    · exact .inl ⟨by simp, rfl, rfl⟩
    · exact configureRuntimeControl_decides b now config _ _ _

/-! ## Runs -/

/-- A call of `configure` that is accepted with a revision. -/
def AcceptsRevision (revision : ℕ) (st : Step BridgeRuntime Event Reply) : Prop :=
  ∃ now entry config, st.event = .configure now entry config ∧
    st.output = .configured .none revision

def AcceptsProfile (st : Step BridgeRuntime Event Reply) : Prop :=
  ∃ revision, AcceptsRevision revision st

section
variable (opened b : BridgeRuntime) (e : Event)

/-- The events that may write the profile or store an intent. -/
def Steers : Event → Prop
  | .configure _ _ _ | .clearRuntimeControl | .applyState _ _ => True
  | _ => False

theorem restrains_respond (he : ¬Steers e) : Restrains b (respond b e).2 := by
  cases e with
  | configure | clearRuntimeControl | applyState => exact absurd trivial he
  | setStopContext context =>
    simp only [respond, setStopContext]
    split
    · split <;> exact .same rfl rfl
    · exact .refl b
  | emergencyStop => exact restrains_emergencyStop b
  | requestParallelHandshake now => exact restrains_requestParallelHandshake b now
  | requestPark => exact restrains_requestPark b
  | failControlApply => exact restrains_failControlApply b
  | ingest now frame => exact restrains_ingest b now frame
  | receiveFailure result =>
    have hfails : Restrains b (receiveFailure b result) := .same rfl rfl
    exact restrains_whileRunning b hfails
  | tick now chassis => exact restrains_tick b now chassis
  | sendResult failed => exact restrains_whileRunning b (restrains_sendResult b failed)
  | ioException =>
    have hends : Restrains b (ioException b) := .same rfl rfl
    exact restrains_whileRunning b hends
  | beginClose =>
    simp only [respond, beginClose]
    split <;> exact .same rfl rfl
  | finishClose =>
    simp only [respond, finishClose]
    split <;> exact .same rfl rfl

/-- An intent is applied, stored or not, under the profile that was there. -/
theorem applyState_restrains (now : ℤ) (a : ApplyArguments) :
    controlLimits (applyState b now a).2 = controlLimits b ∧
      (¬StoresIntent ((machine opened).observe b (.applyState now a)) →
        Restrains b (applyState b now a).2) := by
  have hrestrained : Restrains b (applyState b now a).2 →
      controlLimits (applyState b now a).2 = controlLimits b ∧
        (¬StoresIntent ((machine opened).observe b (.applyState now a)) →
          Restrains b (applyState b now a).2) := fun h => ⟨h.limits, fun _ => h⟩
  cases hchecked : a.checked? with
  | none =>
    refine hrestrained ?_
    simp only [applyState, hchecked]
    exact restrains_failControlApply b
  | some checked =>
    by_cases hgear : checked.gear = 4
    · refine hrestrained ?_
      simp only [applyState, hchecked, if_pos hgear]
      exact restrains_requestPark b
    · have happly : applyState b now a = (⟨if (storeIntent b now checked).1 = .none then 0 else -3,
          (storeIntent b now checked).1⟩, (storeIntent b now checked).2) := by
        simp only [applyState, hchecked, if_neg hgear]
      rw [happly]
      rcases storeIntent_restrains b now checked with ⟨hnone, hlimits⟩ | ⟨-, hkept⟩
      · refine ⟨hlimits, fun hquiet => (hquiet ⟨now, a, rfl, checked, hchecked, hgear, ?_⟩).elim⟩
        show Reply.applied (applyState b now a).1 = _
        rw [happly, hnone, if_pos rfl]
      · exact ⟨hkept.limits, fun _ => hkept⟩

/-- Only `configure` and `clear` write the profile, and nothing writes the vehicle's limits. -/
theorem respond_limits (hconfigure : ∀ now entry config, e ≠ .configure now entry config)
    (hclear : e ≠ .clearRuntimeControl) : controlLimits (respond b e).2 = controlLimits b := by
  cases e with
  | configure now entry config => exact absurd rfl (hconfigure now entry config)
  | clearRuntimeControl => exact absurd rfl hclear
  | applyState now a => exact (applyState_restrains b b now a).1
  | _ => exact (restrains_respond b _ id).limits

theorem respond_profile (hconfigure : ∀ now entry config, e ≠ .configure now entry config)
    (hclear : e ≠ .clearRuntimeControl) :
    (respond b e).2.runtimeControl = b.runtimeControl :=
  congrArg ControlLimits.runtimeControl (respond_limits b e hconfigure hclear)

/-- Only a stored intent gives traction back. -/
theorem respond_coasts (hquiet : ¬StoresIntent ((machine opened).observe b e)) (h : Coasts b) :
    Coasts (respond b e).2 := by
  cases e with
  | configure now entry config =>
    rcases configure_decides b now entry config with ⟨-, -, hsame⟩ | ⟨-, -, haccepted⟩
    · show Coasts (configure b now entry config).2.2
      rw [hsame]
      exact h
    · exact haccepted.withdrawn.1.le
  | clearRuntimeControl => exact le_refl (0 : ℚ)
  | applyState now a => exact ((applyState_restrains opened b now a).2 hquiet).traction h
  | _ => exact (restrains_respond b _ id).traction h

end

/-- What a call of `configure` does, with the revisions accepted before it, and what the batches
behind it carry. -/
structure ConfigurationLaw (st : Step BridgeRuntime Event Reply)
    (past : History BridgeRuntime Event Reply) : Prop where
  decides : ∀ now entry config, st.event = .configure now entry config →
    (∃ issue, issue ≠ .none ∧ st.output = .configured issue 0 ∧ st.after = st.before) ∨
    (st.output = .configured .none config.profileRevision ∧
      Configures st.before now config st.after)
  rises : ∀ revision earlier, AcceptsRevision revision st →
    Since (fun st => st.event ≠ .clearRuntimeControl) (AcceptsRevision earlier) past →
    earlier < revision
  withdrawn : Since (fun st => ¬StoresIntent st) AcceptsProfile past →
    ∀ batch ∈ st.output.batch?, ¬CarriesTorque batch

/-- What the bridge remembers of the calls so far. -/
structure ConfigurationRecord (h : History BridgeRuntime Event Reply) (b : BridgeRuntime) :
    Prop where
  revision : ∀ revision,
    Since (fun st => st.event ≠ .clearRuntimeControl) (AcceptsRevision revision) h →
    b.runtimeControl.active = true ∧ revision ≤ b.runtimeControl.revision
  withdrawn : Since (fun st => ¬StoresIntent st) AcceptsProfile h → Coasts b

section
variable {opened b : BridgeRuntime} {h : History BridgeRuntime Event Reply}

theorem observe_configure (opened b : BridgeRuntime) (now : ℤ) (entry : ProfileEntry)
    (config : RuntimeControlConfig) :
    let st := (machine opened).observe b (.configure now entry config)
    (∃ issue, issue ≠ .none ∧ st.output = .configured issue 0 ∧ st.after = b) ∨
    (st.output = .configured .none config.profileRevision ∧ Configures b now config st.after) := by
  rcases configure_decides b now entry config with ⟨hissue, hrevision, hsame⟩ |
    ⟨hissue, hrevision, haccepted⟩
  · refine .inl ⟨_, hissue, ?_, hsame⟩
    show Reply.configured _ (configure b now entry config).2.1 = _
    rw [hrevision]
  · refine .inr ⟨?_, haccepted⟩
    show Reply.configured (configure b now entry config).1 (configure b now entry config).2.1 = _
    rw [hissue, hrevision]

/-- What is accepted is installed. -/
theorem acceptsRevision_iff {revision : ℕ} {e : Event}
    (haccepts : AcceptsRevision revision ((machine opened).observe b e)) :
    ∃ now config, config.profileRevision = revision ∧ Configures b now config (respond b e).2 := by
  obtain ⟨now, entry, config, rfl, houtput⟩ := haccepts
  rcases observe_configure opened b now entry config with
    ⟨issue, hissue, hrejected, -⟩ | ⟨haccepted, hconfigures⟩
  · rw [hrejected] at houtput
    injection houtput with hnone
    exact absurd hnone hissue
  · rw [haccepted] at houtput
    injection houtput with _ hrevision
    exact ⟨now, config, hrevision, hconfigures⟩

theorem configurationRecord_step (hrecord : ConfigurationRecord h b) (e : Event) :
    ConfigurationRecord ((machine opened).observe b e :: h) (respond b e).2 := by
  constructor
  · rintro revision (haccepts | ⟨hclear, hsince⟩)
    · obtain ⟨now, config, hrevision, hconfigures⟩ := acceptsRevision_iff haccepts
      exact ⟨hconfigures.active, (hconfigures.revision.trans hrevision).ge⟩
    · obtain ⟨hactive, hle⟩ := hrecord.revision revision hsince
      by_cases hcall : ∃ now entry config, e = .configure now entry config
      · obtain ⟨now, entry, config, rfl⟩ := hcall
        rcases observe_configure opened b now entry config with
          ⟨-, -, -, hsame⟩ | ⟨-, hconfigures⟩
        · change (respond b _).2 = b at hsame
          rw [hsame]
          exact ⟨hactive, hle⟩
        · exact ⟨hconfigures.active,
            hle.trans ((hconfigures.rises hactive).le.trans hconfigures.revision.ge)⟩
      · rw [respond_profile b e (fun now entry config heq => hcall ⟨now, entry, config, heq⟩) hclear]
        exact ⟨hactive, hle⟩
  · rintro (⟨revision, haccepts⟩ | ⟨hquiet, hsince⟩)
    · obtain ⟨now, config, -, hconfigures⟩ := acceptsRevision_iff haccepts
      exact hconfigures.withdrawn.1.le
    · exact respond_coasts opened b e hquiet (hrecord.withdrawn hsince)

/-- A tick transmits torque only for an intent that asks for it. -/
theorem tick_coasts (hi : BridgeInvariant b) (hcoasts : Coasts b) (now : ℤ)
    (chassis : ChassisOutcome) : ∀ batch ∈ (tick b now chassis).1, ¬CarriesTorque batch := by
  cases hrun : b.running with
  | false =>
    rw [tick, if_pos hrun]
    simp
  | true =>
    rw [tick_running hrun]
    rintro _ ⟨⟩ htorque
    have hpositive := (tick_traction hi now chassis htorque).1.2.2.2.2.2.2.2.1
    have hguarded : Coasts (guarded b now) :=
      ((restrains_checkFeedbackTimeout _ now).trans (restrains_checkControlWatchdog _ now)).traction
        hcoasts
    rw [viewAt_intent hpositive] at hpositive
    exact absurd hpositive (not_lt.mpr hguarded)

theorem configurationLaw_step (hi : BridgeInvariant b) (hrecord : ConfigurationRecord h b)
    (e : Event) : ConfigurationLaw ((machine opened).observe b e) h := by
  constructor
  · rintro now entry config heq
    obtain rfl : e = .configure now entry config := heq
    exact observe_configure _ _ now entry config
  · intro revision earlier haccepts hsince
    obtain ⟨now, config, rfl, hconfigures⟩ := acceptsRevision_iff haccepts
    obtain ⟨hactive, hle⟩ := hrecord.revision earlier hsince
    exact hle.trans_lt (hconfigures.rises hactive)
  · intro hsince batch hbatch
    cases e with
    | tick now chassis => exact tick_coasts hi (hrecord.withdrawn hsince) now chassis batch hbatch
    | _ => cases hbatch

/-- Every call of `configure` in every run of an opened bridge. -/
theorem configuration_holds (ho : Opened opened) (hr : Run (machine opened) h b) :
    Always ConfigurationLaw h := by
  refine hr.always_of_link (C := fun _ => True) (R := fun h b => BridgeInvariant b ∧
    ConfigurationRecord h b) ⟨ho.fresh.invariant, fun _ hsince => hsince.elim, fun hsince =>
    hsince.elim⟩ ?_ ?_ (steps_true h)
  · exact fun h b e _ hrel _ => ⟨bridgeInvariant_respond b e hrel.1,
      configurationRecord_step hrel.2 e⟩
  · exact fun h b e _ hrel _ => configurationLaw_step hrel.1 hrel.2 e

end

/-- The driving bridge is configured anew, with less torque. -/
def slowerEvents : List Event :=
  armEvents ++ [tickAt 220, .configure (ms 230) .v2
    { benchProfile with profileRevision := 2, maxMotorTorqueNm := some 50 }, tickAt 240]

theorem configuration_holds_slower :
    Always ConfigurationLaw ((machine benchBridge).play slowerEvents).1 ∧
      ((machine benchBridge).play slowerEvents).2.runtimeControl.revision = 2 :=
  ⟨configuration_holds benchBridge_opened (Run.play _ _), by decide +kernel⟩

end MineTeleop.Bridge
