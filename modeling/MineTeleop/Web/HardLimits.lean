import MineTeleop.Configuration.Vehicle
import MineTeleop.Web.ControlLogic

/-!
# The limits of the vehicle on the driver page

`normalizeVehicleHardLimits` of `control_logic.js` reads the limits that the vehicle reports; a
report it refuses leaves the page without limits.

Proved here:

* `normalizeStages_profile`: the page reads a deceleration profile that the vehicle has accepted;
* `normalizeReadOnlyControlSafety_reported`, `normalizeVehicleHardLimits_reported`: it reads the
  report of a valid configuration that names its commissioning mode, as the vehicle means it;
* `vehicleControlLimits_readable`: so for the report of a vehicle that has loaded its file, and for
  no report of a file that leaves the mode empty.
-/

namespace MineTeleop.Web

open Documents
open Service (DecelerationStage ProfileValid)

variable (numberText : ℚ → String)

/-! ## Ranges -/

/-- The bounds that a limit may be set in. -/
structure Range (R : Type) where
  min : R
  max : R
  deriving DecidableEq

/-- The inner function of `normalizeSpeedPidLimits`. -/
def normalizeRange (value : Json) (minimum maximum : ℚ) (name : String) :
    Except String (Range ℚ) := do
  if ¬IsObjectValue value then .error (name ++ " must be an object")
  else
    let min ← requireFiniteRange numberText (property value "min") minimum maximum (name ++ ".min")
    let max ← requireFiniteRange numberText (property value "max") minimum maximum (name ++ ".max")
    if max < min then .error (name ++ ".min must not exceed max")
    else .ok ⟨min, max⟩

structure SpeedPidLimits where
  kp : Range ℚ
  ki : Range ℚ
  kd : Range ℚ
  derivativeFilterTauMs : Range ℚ
  maxDtMs : Range ℚ
  deriving DecidableEq

def normalizeSpeedPidLimits (value : Json) : Except String SpeedPidLimits := do
  if ¬IsObjectValue value then .error "speed_pid_limits must be an object"
  else
    let maxDtMs ← normalizeRange numberText (property value "max_dt_ms") 20 200
      "speed_pid_limits.max_dt_ms"
    if ¬IsSafeInteger maxDtMs.min ∨ ¬IsSafeInteger maxDtMs.max then
      .error "speed_pid_limits.max_dt_ms bounds must be integers"
    else
      let kp ← normalizeRange numberText (property value "kp") 0 100 "speed_pid_limits.kp"
      let ki ← normalizeRange numberText (property value "ki") 0 100 "speed_pid_limits.ki"
      let kd ← normalizeRange numberText (property value "kd") 0 100 "speed_pid_limits.kd"
      let derivativeFilterTauMs ← normalizeRange numberText
        (property value "derivative_filter_tau_ms") 0 2000
        "speed_pid_limits.derivative_filter_tau_ms"
      .ok { kp, ki, kd, derivativeFilterTauMs, maxDtMs }

/-! ## The read-only part -/

def readOnlyControlSafetyFields : List String :=
  ["control_rate_hz", "max_command_gap_ms", "degraded_timeout_ms", "control_timeout_ms",
    "deceleration_profile", "speed_feedback_timeout_ms", "hard_overspeed_margin_kph",
    "require_can_feedback_before_control", "require_local_estop_reset", "require_time_sync",
    "max_time_sync_uncertainty_ms", "time_sync_interval_ms", "time_sync_samples",
    "commissioning_mode"]

/-- The largest `int`. -/
def maxInt32 : ℤ := 2147483647

/-- The stages from `index` on, behind one with `previousAfterMs` and `previousBrake`. -/
def normalizeStages (previousAfterMs : ℤ) (previousBrake : ℚ) :
    ℕ → List Json → Except String (List DecelerationStage)
  | _, [] => .ok []
  | index, stage :: rest => do
    let name := "read_only_control_safety.deceleration_profile"
    if ¬HasExactly ["after_ms", "brake"] stage then
      .error (name ++ " stages require exactly after_ms and brake")
    else
      let afterMs ← requireIntegerRange numberText (property stage "after_ms") 0 maxInt32
        (name ++ "[" ++ toString index ++ "].after_ms")
      let brake ← requireFiniteRange numberText (property stage "brake") 0 1
        (name ++ "[" ++ toString index ++ "].brake")
      if (index = 0 ∧ afterMs ≠ 0) ∨ afterMs ≤ previousAfterMs then
        .error (name ++ " after_ms must start at 0 and strictly increase")
      else if brake < previousBrake then .error (name ++ " brake must not decrease")
      else
        let stages ← normalizeStages afterMs brake (index + 1) rest
        .ok (⟨afterMs, brake⟩ :: stages)

structure ReadOnlyControlSafety where
  controlRateHz : ℤ
  maxCommandGapMs : ℤ
  degradedTimeoutMs : ℤ
  controlTimeoutMs : ℤ
  decelerationProfile : List DecelerationStage
  speedFeedbackTimeoutMs : ℤ
  hardOverspeedMarginKph : ℚ
  requireCanFeedbackBeforeControl : Bool
  requireLocalEstopReset : Bool
  requireTimeSync : Bool
  maxTimeSyncUncertaintyMs : ℤ
  timeSyncIntervalMs : ℤ
  timeSyncSamples : ℤ
  commissioningMode : String
  deriving DecidableEq

def requireBoolean (value : Json) (field : String) : Except String Bool :=
  match property value field with
  | .boolean flag => .ok flag
  | _ => .error ("read_only_control_safety." ++ field ++ " must be boolean")

/-- `typeof value !== 'string' || value.length < 1` throws. -/
def requireText (value : Json) : Except String String :=
  match value with
  | .string text =>
    if text = "" then
      .error "read_only_control_safety.commissioning_mode must be a non-empty string"
    else .ok text
  | _ => .error "read_only_control_safety.commissioning_mode must be a non-empty string"

def requireStages (value : Json) : Except String (List Json) :=
  match value with
  | .array (first :: rest) => .ok (first :: rest)
  | _ => .error "read_only_control_safety.deceleration_profile must be a non-empty array"

def normalizeReadOnlyControlSafety (value : Json) : Except String ReadOnlyControlSafety := do
  if value.isObject = false then .error "read_only_control_safety must be an object"
  else if ¬HasExactly readOnlyControlSafetyFields value then
    .error "read_only_control_safety must contain exactly the fixed fields"
  else
    let integer (field : String) (minimum maximum : ℚ) :=
      requireIntegerRange numberText (property value field) minimum maximum
        ("read_only_control_safety." ++ field)
    let commissioningMode ← requireText (property value "commissioning_mode")
    let stages ← requireStages (property value "deceleration_profile")
    let decelerationProfile ← normalizeStages numberText (-1) 0 0 stages
    if 1 / 1000000000 < |(decelerationProfile.getLast?.elim 0 DecelerationStage.brake) - 1| then
      .error "read_only_control_safety.deceleration_profile must end at brake 1"
    else
      let controlRateHz ← integer "control_rate_hz" 20 20
      let maxCommandGapMs ← integer "max_command_gap_ms" 1 60000
      let degradedTimeoutMs ← integer "degraded_timeout_ms" 1 60000
      let controlTimeoutMs ← integer "control_timeout_ms" 1 60000
      let speedFeedbackTimeoutMs ← integer "speed_feedback_timeout_ms" 20 500
      let hardOverspeedMarginKph ← requireFiniteRange numberText
        (property value "hard_overspeed_margin_kph") 0 36
        "read_only_control_safety.hard_overspeed_margin_kph"
      let requireCanFeedbackBeforeControl ←
        requireBoolean value "require_can_feedback_before_control"
      let requireLocalEstopReset ← requireBoolean value "require_local_estop_reset"
      let requireTimeSync ← requireBoolean value "require_time_sync"
      let maxTimeSyncUncertaintyMs ← integer "max_time_sync_uncertainty_ms" 0 maxInt32
      let timeSyncIntervalMs ← integer "time_sync_interval_ms" 1 maxInt32
      let timeSyncSamples ← integer "time_sync_samples" 3 15
      if controlTimeoutMs ≤ degradedTimeoutMs ∨ controlTimeoutMs < speedFeedbackTimeoutMs then
        .error "read_only_control_safety timeout ordering is invalid"
      else if hardOverspeedMarginKph ≤ 0 then
        .error "read_only_control_safety.hard_overspeed_margin_kph must be greater than 0"
      else
        .ok
          { controlRateHz, maxCommandGapMs, degradedTimeoutMs, controlTimeoutMs
            decelerationProfile, speedFeedbackTimeoutMs, hardOverspeedMarginKph
            requireCanFeedbackBeforeControl, requireLocalEstopReset, requireTimeSync
            maxTimeSyncUncertaintyMs, timeSyncIntervalMs, timeSyncSamples, commissioningMode }

/-! ## The limits -/

structure VehicleHardLimits where
  maxSpeedKph : ℚ
  maxThrottle : ℚ
  maxTargetSpeedKph : ℚ
  fullScaleMotorTorqueNm : ℚ
  maxBrakePressureBar : ℚ
  maxSteeringAngleDeg : ℚ
  defaultSpeedPidKp : ℚ
  defaultSpeedPidKi : ℚ
  defaultSpeedPidKd : ℚ
  defaultSpeedPidDerivativeFilterTauMs : ℚ
  defaultSpeedPidMaxDtMs : ℤ
  defaultMotorTorqueRiseRateNmPerS : ℚ
  motorTorqueRiseRateLimitsNmPerS : Range ℚ
  speedPidLimits : SpeedPidLimits
  speedFeedbackTimeoutMs : ℤ
  hardOverspeedMarginKph : ℚ
  readOnlyControlSafety : ReadOnlyControlSafety
  deriving DecidableEq

/-- An explicit target speed, if the report has one; else the computed one. -/
def explicitTargetSpeedKph (value : Json) (computed : ℚ) : Except String ℚ :=
  match number? (property value "max_target_speed_kph") with
  | some _ => requireFiniteRange numberText (property value "max_target_speed_kph") 0 72
    "max_target_speed_kph"
  | none => .ok computed

def riseRateLimits (value : Json) : Except String (Range ℚ) := do
  if ¬IsObjectValue value then .error "motor_torque_rise_rate_limits_nm_per_s must be an object"
  else
    let min ← requireFiniteRange numberText (property value "min") 0 32000
      "motor_torque_rise_rate_limits_nm_per_s.min"
    let max ← requireFiniteRange numberText (property value "max") 0 32000
      "motor_torque_rise_rate_limits_nm_per_s.max"
    if max < min then .error "motor_torque_rise_rate_limits_nm_per_s.min must not exceed max"
    else .ok ⟨min, max⟩

def normalizeVehicleHardLimits (value : Json) : Except String VehicleHardLimits := do
  if ¬IsObjectValue value then .error "vehicle hard limits must be an object"
  else
    let finite (field : String) (minimum maximum : ℚ) :=
      requireFiniteRange numberText (property value field) minimum maximum field
    let integer (field : String) (minimum maximum : ℚ) :=
      requireIntegerRange numberText (property value field) minimum maximum field
    let maxSpeedKph ← finite "max_speed_kph" 0 72
    let maxThrottle ← finite "max_throttle" 0 1
    let computedTargetSpeedKph := maxSpeedKph * maxThrottle
    let explicit ← explicitTargetSpeedKph numberText value computedTargetSpeedKph
    let speedPidLimits ← normalizeSpeedPidLimits numberText (property value "speed_pid_limits")
    let readOnlyControlSafety ←
      normalizeReadOnlyControlSafety numberText (property value "read_only_control_safety")
    let motorTorqueRiseRateLimitsNmPerS ←
      riseRateLimits numberText (property value "motor_torque_rise_rate_limits_nm_per_s")
    let fullScaleMotorTorqueNm ← finite "full_scale_motor_torque_nm" 0 640
    let maxBrakePressureBar ← finite "max_brake_pressure_bar" 0 (3276 / 10)
    let maxSteeringAngleDeg ← finite "max_steering_angle_deg" 0 30
    let defaultSpeedPidKp ←
      finite "default_speed_pid_kp" speedPidLimits.kp.min speedPidLimits.kp.max
    let defaultSpeedPidKi ←
      finite "default_speed_pid_ki" speedPidLimits.ki.min speedPidLimits.ki.max
    let defaultSpeedPidKd ←
      finite "default_speed_pid_kd" speedPidLimits.kd.min speedPidLimits.kd.max
    let defaultSpeedPidDerivativeFilterTauMs ←
      finite "default_speed_pid_derivative_filter_tau_ms"
        speedPidLimits.derivativeFilterTauMs.min speedPidLimits.derivativeFilterTauMs.max
    let defaultSpeedPidMaxDtMs ←
      integer "default_speed_pid_max_dt_ms" speedPidLimits.maxDtMs.min speedPidLimits.maxDtMs.max
    let defaultMotorTorqueRiseRateNmPerS ←
      finite "default_motor_torque_rise_rate_nm_per_s" motorTorqueRiseRateLimitsNmPerS.min
        motorTorqueRiseRateLimitsNmPerS.max
    let speedFeedbackTimeoutMs ← integer "speed_feedback_timeout_ms" 20 500
    let hardOverspeedMarginKph ← finite "hard_overspeed_margin_kph" 0 36
    if defaultSpeedPidKp ≤ 0 then .error "default_speed_pid_kp must be greater than 0"
    else if hardOverspeedMarginKph ≤ 0 then
      .error "hard_overspeed_margin_kph must be greater than 0"
    else if property value "speed_feedback_timeout_ms_read_only" ≠ .boolean true ∨
        property value "hard_overspeed_margin_kph_read_only" ≠ .boolean true then
      .error "vehicle speed safety fields must be explicitly read-only"
    else if speedFeedbackTimeoutMs ≠ readOnlyControlSafety.speedFeedbackTimeoutMs ∨
        hardOverspeedMarginKph ≠ readOnlyControlSafety.hardOverspeedMarginKph then
      .error "flat and read_only_control_safety speed values must match"
    else
      .ok
        { maxSpeedKph, maxThrottle
          maxTargetSpeedKph := min maxSpeedKph (min computedTargetSpeedKph explicit)
          fullScaleMotorTorqueNm, maxBrakePressureBar, maxSteeringAngleDeg, defaultSpeedPidKp
          defaultSpeedPidKi, defaultSpeedPidKd, defaultSpeedPidDerivativeFilterTauMs
          defaultSpeedPidMaxDtMs, defaultMotorTorqueRiseRateNmPerS
          motorTorqueRiseRateLimitsNmPerS, speedPidLimits, speedFeedbackTimeoutMs
          hardOverspeedMarginKph, readOnlyControlSafety }

/-! ## What the vehicle reports -/

section
variable {numberText} {config : Configuration.VehicleConfig}

/-- The limits as the vehicle means them. -/
def reportedSafety (config : Configuration.VehicleConfig) : ReadOnlyControlSafety where
  controlRateHz := config.control.rateHz
  maxCommandGapMs := config.control.maxCommandGapMs
  degradedTimeoutMs := config.control.degradedTimeoutMs
  controlTimeoutMs := config.control.controlTimeoutMs
  decelerationProfile := config.control.decelerationProfile
  speedFeedbackTimeoutMs := config.fieldSafety.speedFeedbackTimeoutMs
  hardOverspeedMarginKph := config.fieldSafety.hardOverspeedMarginKph
  requireCanFeedbackBeforeControl := config.fieldSafety.requireCanFeedbackBeforeControl
  requireLocalEstopReset := config.fieldSafety.requireLocalEstopReset
  requireTimeSync := config.fieldSafety.requireTimeSync
  maxTimeSyncUncertaintyMs := config.fieldSafety.maxTimeSyncUncertaintyMs
  timeSyncIntervalMs := config.fieldSafety.timeSyncIntervalMs
  timeSyncSamples := config.fieldSafety.timeSyncSamples
  commissioningMode := config.fieldSafety.commissioningMode

def reportedLimits (config : Configuration.VehicleConfig) : VehicleHardLimits where
  maxSpeedKph := config.fieldSafety.maxSpeedKph
  maxThrottle := config.fieldSafety.maxThrottle
  maxTargetSpeedKph := config.fieldSafety.maxSpeedKph * config.fieldSafety.maxThrottle
  fullScaleMotorTorqueNm := config.fieldSafety.fullScaleMotorTorqueNm
  maxBrakePressureBar := config.fieldSafety.maxBrakePressureBar
  maxSteeringAngleDeg := config.fieldSafety.maxSteeringAngleDeg
  defaultSpeedPidKp := config.fieldSafety.speedPidKp
  defaultSpeedPidKi := config.fieldSafety.speedPidKi
  defaultSpeedPidKd := config.fieldSafety.speedPidKd
  defaultSpeedPidDerivativeFilterTauMs := config.fieldSafety.speedPidDerivativeFilterTauMs
  defaultSpeedPidMaxDtMs := config.fieldSafety.speedPidMaxDtMs
  defaultMotorTorqueRiseRateNmPerS := config.fieldSafety.motorTorqueRiseRateNmPerS
  motorTorqueRiseRateLimitsNmPerS := ⟨0, 32000⟩
  speedPidLimits := ⟨⟨0, 100⟩, ⟨0, 100⟩, ⟨0, 100⟩, ⟨0, 2000⟩, ⟨20, 200⟩⟩
  speedFeedbackTimeoutMs := config.fieldSafety.speedFeedbackTimeoutMs
  hardOverspeedMarginKph := config.fieldSafety.hardOverspeedMarginKph
  readOnlyControlSafety := reportedSafety config

/-- An integer that an `int` holds, in range. -/
theorem readsInteger (numberText : ℚ → String) {number : ℤ} {minimum maximum : ℚ} (name : String)
    (hmin : minimum ≤ number) (hmax : number ≤ maximum) (hnonneg : 0 ≤ number)
    (hsmall : number ≤ maxInt32) :
    requireIntegerRange numberText (.integer number) minimum maximum name = .ok number := by
  have hsafe : |number| ≤ maxSafeInteger := by
    rw [abs_of_nonneg hnonneg]
    exact hsmall.trans (by decide)
  exact requireIntegerRange_ok_iff.mpr ⟨rfl, hmin, hmax, hsafe⟩

theorem readsNumber (numberText : ℚ → String) {number minimum maximum : ℚ} (name : String)
    (hmin : minimum ≤ number) (hmax : number ≤ maximum) :
    requireFiniteRange numberText (.number number) minimum maximum name = .ok number :=
  requireFiniteRange_ok_iff.mpr ⟨rfl, hmin, hmax⟩

/-- Stages that rise are read as they are. -/
theorem normalizeStages_documents {stages : List DecelerationStage} :
    ∀ {previousAfterMs : ℤ} {previousBrake : ℚ} {index : ℕ},
      (∀ stage ∈ stages, previousAfterMs < stage.afterMs ∧ previousBrake ≤ stage.brake) →
      (∀ stage ∈ stages, (0 ≤ stage.afterMs ∧ stage.afterMs ≤ maxInt32) ∧
        0 ≤ stage.brake ∧ stage.brake ≤ 1) →
      stages.Pairwise (fun a b => a.afterMs < b.afterMs ∧ a.brake ≤ b.brake) →
      (index = 0 → ∀ first ∈ stages.head?, first.afterMs = 0) →
      normalizeStages numberText previousAfterMs previousBrake index
        (stages.map Configuration.stageDocument) = .ok stages := by
  induction stages with
  | nil => intros; rfl
  | cons stage rest ih =>
    intro previousAfterMs previousBrake index hlater hrange hrises hfirst
    obtain ⟨hafter, hbrake⟩ := hlater stage List.mem_cons_self
    obtain ⟨hafterRange, hbrakeRange⟩ := hrange stage List.mem_cons_self
    obtain ⟨hrest, hrises⟩ := List.pairwise_cons.mp hrises
    have hexact : HasExactly ["after_ms", "brake"] (Configuration.stageDocument stage) :=
      hasExactly_object rfl (by decide)
    have hstart : ¬((index = 0 ∧ stage.afterMs ≠ 0) ∨ stage.afterMs ≤ previousAfterMs) := by
      rintro (⟨hzero, hne⟩ | hle)
      · exact hne (hfirst hzero stage rfl)
      · omega
    have htail : normalizeStages numberText stage.afterMs stage.brake (index + 1)
        (rest.map Configuration.stageDocument) = .ok rest :=
      ih hrest (fun later h => hrange later (List.mem_cons_of_mem _ h)) hrises fun h => by omega
    have hreadAfter := fun name => readsInteger numberText name
      (show (0 : ℚ) ≤ stage.afterMs by exact_mod_cast hafterRange.1)
      (show (stage.afterMs : ℚ) ≤ maxInt32 by exact_mod_cast hafterRange.2)
      hafterRange.1 hafterRange.2
    rw [List.map_cons, normalizeStages]
    simp only [ite_error_eq_ok_iff, bind_eq_ok_iff]
    refine ⟨not_not.mpr hexact, stage.afterMs, hreadAfter _, stage.brake,
      readsNumber numberText _ hbrakeRange.1 hbrakeRange.2, hstart, not_lt.mpr hbrake, rest,
      htail, rfl⟩

theorem profile_afterMs_nonneg {stages : List DecelerationStage} (hvalid : ProfileValid stages) :
    ∀ stage ∈ stages, 0 ≤ stage.afterMs := by
  intro stage hmem
  obtain ⟨hstart, hrises, -, -⟩ := hvalid
  cases stages with
  | nil => cases hmem
  | cons first rest =>
    have hzero : first.afterMs = 0 := by simpa using hstart
    rcases List.mem_cons.mp hmem with rfl | hmem
    · exact hzero.ge
    · have hlater := ((List.pairwise_cons.mp hrises).1 stage hmem).1
      omega

theorem profile_brake_le_one {stages : List DecelerationStage} (hvalid : ProfileValid stages) :
    ∀ stage ∈ stages, stage.brake ≤ 1 := by
  intro stage hmem
  have hne := hvalid.ne_nil
  have hlast : (stages.getLast hne).brake = 1 :=
    hvalid.endsInFull _ (List.getLast?_eq_some_getLast hne)
  have hrises := hvalid.rises
  rw [← List.dropLast_append_getLast hne] at hrises hmem
  obtain ⟨-, -, hbefore⟩ := List.pairwise_append.mp hrises
  rcases List.mem_append.mp hmem with hmem | hmem
  · exact (hbefore stage hmem _ (List.mem_singleton_self _)).2.trans hlast.le
  · rw [List.mem_singleton.mp hmem]
    exact hlast.le

/-- The page reads the deceleration profile of a vehicle that has accepted it. -/
theorem normalizeStages_profile {stages : List DecelerationStage} (hvalid : ProfileValid stages)
    (hdelays : ∀ stage ∈ stages, Configuration.Int32Range stage.afterMs) :
    normalizeStages numberText (-1) 0 0 (stages.map Configuration.stageDocument) =
      .ok stages := by
  have hnonneg := profile_afterMs_nonneg hvalid
  refine normalizeStages_documents (fun stage hmem => ?_) (fun stage hmem => ?_) hvalid.rises
    fun _ first hfirst => ?_
  · have hafter := hnonneg stage hmem
    exact ⟨by omega, hvalid.brake_nonneg stage hmem⟩
  · have hmax : stage.afterMs < 2 ^ 31 := (hdelays stage hmem).2
    have hint : maxInt32 = 2147483647 := rfl
    exact ⟨⟨hnonneg stage hmem, by omega⟩, hvalid.brake_nonneg stage hmem,
      profile_brake_le_one hvalid stage hmem⟩
  · have hstart := hvalid.startsAtOnce
    rw [Option.mem_def.mp hfirst] at hstart
    simpa using hstart

/-! ## Reading the report -/

/-- An empty commissioning mode is refused, whatever else the report has. -/
theorem normalizeReadOnlyControlSafety_mode {value : Json} {safety : ReadOnlyControlSafety}
    (h : normalizeReadOnlyControlSafety numberText value = .ok safety) :
    property value "commissioning_mode" ≠ .string "" := by
  intro hempty
  simp only [normalizeReadOnlyControlSafety, ite_error_eq_ok_iff, bind_eq_ok_iff, hempty] at h
  obtain ⟨-, -, mode, hmode, -⟩ := h
  cases hmode

theorem normalizeReadOnlyControlSafety_reported (h : config.Valid)
    (hmode : config.fieldSafety.commissioningMode ≠ "") :
    normalizeReadOnlyControlSafety numberText (Configuration.readOnlyControlSafety config) =
      .ok (reportedSafety config) := by
  obtain ⟨hcontrol, hsafety⟩ := h
  have hrate := hcontrol.rate
  have hgap : 1 ≤ config.control.maxCommandGapMs ∧ config.control.maxCommandGapMs ≤ 60000 :=
    hcontrol.gap
  have htimeouts := hcontrol.timeout
  have hdegraded : 1 ≤ config.control.degradedTimeoutMs ∧
      config.control.degradedTimeoutMs ≤ 60000 := ⟨hcontrol.degraded, by omega⟩
  have htimeout : 1 ≤ config.control.controlTimeoutMs ∧
      config.control.controlTimeoutMs ≤ 60000 := by omega
  have hfeedback := hsafety.feedback
  have hsamples := hsafety.samples
  have hint : maxInt32 = 2147483647 := rfl
  have huncertainty : 0 ≤ config.fieldSafety.maxTimeSyncUncertaintyMs ∧
      config.fieldSafety.maxTimeSyncUncertaintyMs ≤ maxInt32 :=
    ⟨hsafety.uncertainty.1, Int.le_of_lt_add_one hsafety.uncertainty.2.2⟩
  have hinterval : 1 ≤ config.fieldSafety.timeSyncIntervalMs ∧
      config.fieldSafety.timeSyncIntervalMs ≤ maxInt32 :=
    ⟨hsafety.interval.1, Int.le_of_lt_add_one hsafety.interval.2.2⟩
  have hexact : HasExactly readOnlyControlSafetyFields
      (Configuration.readOnlyControlSafety config) := hasExactly_object rfl (by decide)
  have hmodeRead : requireText (.string config.fieldSafety.commissioningMode) =
      .ok config.fieldSafety.commissioningMode := if_neg hmode
  have hne := hcontrol.profile.ne_nil
  have hstagesRead : requireStages
      (.array (config.control.decelerationProfile.map Configuration.stageDocument)) =
        .ok (config.control.decelerationProfile.map Configuration.stageDocument) := by
    cases hprofile : config.control.decelerationProfile with
    | nil => exact absurd hprofile hne
    | cons first rest => rfl
  have hstages : normalizeStages numberText (-1) 0 0
      (config.control.decelerationProfile.map Configuration.stageDocument) =
        .ok config.control.decelerationProfile :=
    normalizeStages_profile hcontrol.profile hcontrol.delays
  have hlast : config.control.decelerationProfile.getLast?.elim 0 DecelerationStage.brake = 1 := by
    have hfound := List.getLast?_eq_some_getLast hne
    rw [hfound]
    exact hcontrol.profile.endsInFull _ hfound
  have hfull : ¬(1 / 1000000000 : ℚ) <
      |config.control.decelerationProfile.getLast?.elim 0 DecelerationStage.brake - 1| := by
    rw [hlast]
    norm_num
  have hordered : ¬(config.control.controlTimeoutMs ≤ config.control.degradedTimeoutMs ∨
      config.control.controlTimeoutMs < config.fieldSafety.speedFeedbackTimeoutMs) := by omega
  have hread : ∀ {number : ℤ} {minimum maximum : ℚ} (name : String),
      minimum ≤ number ∧ number ≤ maximum → 0 ≤ number ∧ number ≤ maxInt32 →
      requireIntegerRange numberText (.integer number) minimum maximum name = .ok number :=
    fun name hrange hsmall => readsInteger numberText name hrange.1 hrange.2 hsmall.1 hsmall.2
  simp only [normalizeReadOnlyControlSafety, ite_error_eq_ok_iff, bind_eq_ok_iff]
  refine ⟨Bool.noConfusion, not_not.mpr hexact, _, hmodeRead, _, hstagesRead, _, hstages, hfull,
    _, hread _ ?_ ?_, _, hread _ ?_ ?_, _, hread _ ?_ ?_, _, hread _ ?_ ?_, _, hread _ ?_ ?_, _,
    readsNumber numberText _ hsafety.margin.1.le hsafety.margin.2, _, rfl, _, rfl, _, rfl, _,
    hread _ ?_ ?_, _, hread _ ?_ ?_, _, hread _ ?_ ?_, hordered, not_le.mpr hsafety.margin.1, rfl⟩
  any_goals omega
  · exact ⟨by exact_mod_cast hrate.ge, by exact_mod_cast hrate.le⟩
  · exact_mod_cast hgap
  · exact_mod_cast hdegraded
  · exact_mod_cast htimeout
  · exact ⟨by exact_mod_cast hfeedback.1, by exact_mod_cast hfeedback.2.1⟩
  · exact_mod_cast huncertainty
  · exact_mod_cast hinterval
  · exact_mod_cast hsamples

theorem normalizeVehicleHardLimits_mode {value : Json} {limits : VehicleHardLimits}
    (h : normalizeVehicleHardLimits numberText value = .ok limits) :
    property (property value "read_only_control_safety") "commissioning_mode" ≠ .string "" := by
  simp only [normalizeVehicleHardLimits, ite_error_eq_ok_iff, bind_eq_ok_iff] at h
  obtain ⟨-, _, -, _, -, _, -, _, -, safety, hsafety, -⟩ := h
  exact normalizeReadOnlyControlSafety_mode hsafety

theorem normalizeRange_document {minimum maximum : ℚ} (name : String) (h : minimum ≤ maximum) :
    normalizeRange numberText (Configuration.rangeDocument minimum maximum) minimum maximum name =
      .ok ⟨minimum, maximum⟩ := by
  have hobject : IsObjectValue (Configuration.rangeDocument minimum maximum) := trivial
  simp only [normalizeRange, ite_error_eq_ok_iff, bind_eq_ok_iff]
  exact ⟨not_not.mpr hobject, minimum, readsNumber numberText _ le_rfl h, maximum,
    readsNumber numberText _ h le_rfl, not_lt.mpr h, rfl⟩

theorem normalizeSpeedPidLimits_reported :
    normalizeSpeedPidLimits numberText
        (property (Configuration.vehicleControlLimits config) "speed_pid_limits") =
      .ok (reportedLimits config).speedPidLimits := by
  have hobject : IsObjectValue
      (property (Configuration.vehicleControlLimits config) "speed_pid_limits") := trivial
  have hmaxDt : normalizeRange numberText (.object [("min", .integer 20), ("max", .integer 200)])
      20 200 "speed_pid_limits.max_dt_ms" = .ok ⟨20, 200⟩ := by
    simp only [normalizeRange, ite_error_eq_ok_iff, bind_eq_ok_iff, requireFiniteRange_ok_iff]
    exact ⟨not_not.mpr trivial, 20, ⟨rfl, le_rfl, by norm_num⟩, 200, ⟨rfl, by norm_num, le_rfl⟩,
      by norm_num, rfl⟩
  simp only [normalizeSpeedPidLimits, ite_error_eq_ok_iff, bind_eq_ok_iff]
  refine ⟨not_not.mpr hobject, _, hmaxDt, by decide, _, normalizeRange_document _ (by norm_num), _,
    normalizeRange_document _ (by norm_num), _, normalizeRange_document _ (by norm_num), _,
    normalizeRange_document _ (by norm_num), rfl⟩

theorem riseRateLimits_reported :
    riseRateLimits numberText
        (property (Configuration.vehicleControlLimits config)
          "motor_torque_rise_rate_limits_nm_per_s") = .ok ⟨0, 32000⟩ := by
  have hobject : IsObjectValue (property (Configuration.vehicleControlLimits config)
      "motor_torque_rise_rate_limits_nm_per_s") := trivial
  simp only [riseRateLimits, ite_error_eq_ok_iff, bind_eq_ok_iff]
  have hmax : (0 : ℚ) ≤ Bridge.maxMotorTorqueRiseRate := by
    norm_num [Bridge.maxMotorTorqueRiseRate]
  exact ⟨not_not.mpr hobject, 0, readsNumber numberText _ le_rfl (by norm_num), 32000,
    readsNumber numberText _ hmax le_rfl, by norm_num, rfl⟩

/-- The target speed that is computed is below the maximum. -/
theorem targetSpeed_eq (h : config.Valid) :
    min config.fieldSafety.maxSpeedKph
        (min (config.fieldSafety.maxSpeedKph * config.fieldSafety.maxThrottle)
          (config.fieldSafety.maxSpeedKph * config.fieldSafety.maxThrottle)) =
      config.fieldSafety.maxSpeedKph * config.fieldSafety.maxThrottle := by
  have hspeed := h.fieldSafety.maxSpeed.1
  have hthrottle := h.fieldSafety.maxThrottle.2
  rw [min_self]
  exact min_eq_right (mul_le_of_le_one_right hspeed hthrottle)

theorem normalizeVehicleHardLimits_reported (h : config.Valid)
    (hmode : config.fieldSafety.commissioningMode ≠ "") :
    normalizeVehicleHardLimits numberText (Configuration.vehicleControlLimits config) =
      .ok (reportedLimits config) := by
  have hsafety := h.fieldSafety
  have hspeedMax : config.fieldSafety.maxSpeedKph ≤ 72 :=
    hsafety.maxSpeed.2.trans (by
      norm_num [Service.chassisControlMaxTargetSpeedKph, Service.chassisControlMaxTargetSpeedMps])
  have hfeedback := hsafety.feedback
  have hmaxDt := hsafety.maxDt
  have hint : maxInt32 = 2147483647 := rfl
  have hobject : IsObjectValue (Configuration.vehicleControlLimits config) := trivial
  have hspeed : min config.fieldSafety.maxSpeedKph
      (min (config.fieldSafety.maxSpeedKph * config.fieldSafety.maxThrottle)
        (config.fieldSafety.maxSpeedKph * config.fieldSafety.maxThrottle)) =
      (reportedLimits config).maxTargetSpeedKph := targetSpeed_eq h
  have hreadOnly : normalizeReadOnlyControlSafety numberText
      (Configuration.readOnlyControlSafety config) = .ok (reportedSafety config) :=
    normalizeReadOnlyControlSafety_reported h hmode
  have hflags : property (Configuration.vehicleControlLimits config)
      "speed_feedback_timeout_ms_read_only" = .boolean true ∧
      property (Configuration.vehicleControlLimits config)
        "hard_overspeed_margin_kph_read_only" = .boolean true := ⟨rfl, rfl⟩
  simp only [normalizeVehicleHardLimits, ite_error_eq_ok_iff, bind_eq_ok_iff]
  refine ⟨not_not.mpr hobject,
    _, readsNumber numberText _ hsafety.maxSpeed.1 hspeedMax,
    _, readsNumber numberText _ hsafety.maxThrottle.1 hsafety.maxThrottle.2,
    _, rfl, _, normalizeSpeedPidLimits_reported, _, hreadOnly, _, riseRateLimits_reported,
    _, readsNumber numberText _ hsafety.fullScale.1 hsafety.fullScale.2,
    _, readsNumber numberText _ hsafety.brakePressure.1 hsafety.brakePressure.2,
    _, readsNumber numberText _ hsafety.steering.1 hsafety.steering.2,
    _, readsNumber numberText _ hsafety.kp.1.le hsafety.kp.2,
    _, readsNumber numberText _ hsafety.ki.1 hsafety.ki.2,
    _, readsNumber numberText _ hsafety.kd.1 hsafety.kd.2,
    _, readsNumber numberText _ hsafety.filter.1 hsafety.filter.2,
    _, readsInteger numberText _ ?_ ?_ ?_ ?_,
    _, readsNumber numberText _ hsafety.riseRate.1 hsafety.riseRate.2,
    _, readsInteger numberText _ ?_ ?_ ?_ ?_,
    _, readsNumber numberText _ hsafety.margin.1.le hsafety.margin.2,
    not_le.mpr hsafety.kp.1, not_le.mpr hsafety.margin.1,
    not_or.mpr ⟨not_not.mpr hflags.1, not_not.mpr hflags.2⟩,
    not_or.mpr ⟨not_not.mpr rfl, not_not.mpr rfl⟩, ?_⟩
  any_goals omega
  · change (20 : ℚ) ≤ config.fieldSafety.speedPidMaxDtMs
    exact_mod_cast hmaxDt.1
  · change (config.fieldSafety.speedPidMaxDtMs : ℚ) ≤ 200
    exact_mod_cast hmaxDt.2
  · exact_mod_cast hfeedback.1
  · exact_mod_cast hfeedback.2.1
  · rw [hspeed]
    rfl

/-! ## Files of the bench -/

/-- The conversions of the one number `0` and of texts. -/
def benchConversions : Configuration.Conversions where
  asInt node := if node.scalar? = some "0" then .ok 0 else .error "bad conversion"
  asDouble node := if node.scalar? = some "0" then .ok (some 0) else .error "bad conversion"
  asBool node :=
    if node.scalar? = some "true" then .ok true
    else if node.scalar? = some "false" then .ok false
    else .error "bad conversion"
  asString node := node.scalar?.elim (.error "bad conversion") .ok

/-- A file with one deceleration stage, and otherwise the defaults. -/
def benchFile (commissioningMode : String) : Configuration.Yaml :=
  .map
    [("control", .map [("timeout_action", .map [("deceleration_profile", .sequence
        [.map [("after_ms", .scalar "0"), ("brake", .scalar "vehicle_defined_max_safe")]])])]),
      ("field_safety", .map [("commissioning_mode", .scalar commissioningMode)])]

def benchConfiguration (commissioningMode : String) : Configuration.VehicleConfig where
  control := { decelerationProfile := [⟨0, 1⟩] }
  fieldSafety :=
    { commissioningMode := commissioningMode
      maxSpeedKph := 10
      maxThrottle := 1
      fullScaleMotorTorqueNm := 640
      motorTorqueRiseRateNmPerS := 0
      speedPidKp := 1
      speedPidKi := 2 / 10
      speedPidKd := 0
      speedPidDerivativeFilterTauMs := 100
      hardOverspeedMarginKph := 36 / 10
      maxBrakePressureBar := 3276 / 10
      maxSteeringAngleDeg := 30 }

theorem benchFile_loads :
    Configuration.loadVehicleConfig benchConversions (benchFile "bench") =
        .ok (benchConfiguration "bench") ∧
      Configuration.loadVehicleConfig benchConversions (benchFile "") =
        .ok (benchConfiguration "") := by
  decide +kernel

/-! ## The report of a loaded configuration -/

/-- The report of a vehicle that has loaded its file is read exactly when the file does not leave the
commissioning mode empty, and then with the limits that the vehicle has. -/
theorem vehicleControlLimits_readable (numberText : ℚ → String) {c : Configuration.Conversions}
    {root : Configuration.Yaml} {config : Configuration.VehicleConfig}
    (h : Configuration.loadVehicleConfig c root = .ok config) :
    normalizeVehicleHardLimits numberText (Configuration.vehicleControlLimits config) =
        .ok (reportedLimits config) ↔
      ¬Configuration.EmptyMode c root := by
  rw [Configuration.emptyMode_iff h]
  constructor
  · intro hread hempty
    apply normalizeVehicleHardLimits_mode hread
    change Json.string config.fieldSafety.commissioningMode = .string ""
    rw [hempty]
  · exact normalizeVehicleHardLimits_reported (Configuration.loadVehicleConfig_valid h)

theorem vehicleControlLimits_readable_bench :
    normalizeVehicleHardLimits (fun _ => "")
        (Configuration.vehicleControlLimits (benchConfiguration "bench")) =
        .ok (reportedLimits (benchConfiguration "bench")) ↔
      ¬Configuration.EmptyMode benchConversions (benchFile "bench") :=
  vehicleControlLimits_readable (fun _ => "") benchFile_loads.1

/-- A file that leaves its commissioning mode empty is loaded, and its limits are not read. -/
theorem vehicleControlLimits_unread :
    ¬∀ (numberText : ℚ → String) (c : Configuration.Conversions) (root : Configuration.Yaml)
      (config : Configuration.VehicleConfig), Configuration.loadVehicleConfig c root = .ok config →
      normalizeVehicleHardLimits numberText (Configuration.vehicleControlLimits config) =
        .ok (reportedLimits config) := by
  intro hall
  have hread := hall (fun _ => "") benchConversions (benchFile "") (benchConfiguration "")
    benchFile_loads.2
  exact normalizeVehicleHardLimits_mode hread rfl

end

end MineTeleop.Web
