import MineTeleop.Library.Documents
import MineTeleop.Service.Deceleration
import MineTeleop.Stack.Vehicle

/-!
# The configuration of a vehicle

What `load_vehicle_config` reads of the sections `control` and `field_safety`, and the limits that
`vehicle_control_limits` reports of it. The other sections can only refuse a file; they are not
read here.

Proved here:

* `loadVehicleConfig_valid`: what a configuration that is loaded has passed;
* `loadVehicleConfig_mode`: the commissioning mode is not checked;
* `FieldSafetyConfig.stack_valid`: its limits are those the vehicle stack is built with.
-/

namespace MineTeleop.Configuration

open Bridge (Double)
open Documents
open Service (check DecelerationStage ProfileValid normalizeAndValidateDecelerationProfile)

/-! ## Files -/

/-- A node of a parsed file. -/
inductive Yaml where
  | null
  | scalar (text : String)
  | sequence (items : List Yaml)
  | map (entries : List (String × Yaml))

namespace Yaml

def child : Yaml → String → Option Yaml
  | .map entries, key => entries.lookup key
  | _, _ => none

/-- `IsScalar` and `Scalar`. -/
def scalar? : Yaml → Option String
  | .scalar text => some text
  | _ => none

/-- `IsSequence` and the items. -/
def sequence? : Yaml → Option (List Yaml)
  | .sequence items => some items
  | _ => none

end Yaml

/-- The conversions of the library that parses the file; an `int` has 32 bits. -/
structure Conversions where
  asInt : Yaml → Except String Int32
  asDouble : Yaml → Except String Double
  asBool : Yaml → Except String Bool
  asString : Yaml → Except String String

def Conversions.int (c : Conversions) (node : Yaml) : Except String ℤ :=
  (c.asInt node).map Int32.toInt

section
variable {α : Type}

def required (node : Yaml) (key context : String) (get : Yaml → Except String α) :
    Except String α :=
  match node.child key with
  | none => .error (context ++ "." ++ key ++ " is required")
  | some value => (get value).mapError fun what => context ++ "." ++ key ++ ": " ++ what

/-- A section that is missing has no members. -/
def optional (node : Option Yaml) (key : String) (get : Yaml → Except String α) (fallback : α) :
    Except String α :=
  match node.bind (·.child key) with
  | none => .ok fallback
  | some value => (get value).mapError fun what => key ++ ": " ++ what

end

/-! ## The section `control` -/

structure ControlConfig where
  rateHz : ℤ := 20
  maxCommandGapMs : ℤ := 200
  degradedTimeoutMs : ℤ := 300
  controlTimeoutMs : ℤ := 800
  decelerationProfile : List DecelerationStage
  deriving DecidableEq

variable (c : Conversions)

def loadStage (item : Yaml) : Except String (ℤ × Double) := do
  let afterMs ← required item "after_ms" "deceleration_profile" c.int
  match item.child "brake" with
  | none => .error "deceleration_profile.brake is required"
  | some brake =>
    if brake.scalar? = some "vehicle_defined_max_safe" then .ok (afterMs, some 1)
    else do
      let value ← c.asDouble brake
      .ok (afterMs, value)

/-- The stages of `control.timeout_action.deceleration_profile`. -/
def loadStages (control : Option Yaml) : Except String (List (ℤ × Double)) :=
  match ((control.bind (·.child "timeout_action")).bind (·.child "deceleration_profile")).bind
      Yaml.sequence? with
  | none => .error "control.timeout_action.deceleration_profile is required"
  | some items => items.mapM (loadStage c)

def loadControl (control : Option Yaml) : Except String ControlConfig := do
  let rateHz ← optional control "rate_hz" c.int 20
  let maxCommandGapMs ← optional control "max_command_gap_ms" c.int 200
  let degradedTimeoutMs ← optional control "degraded_timeout_ms" c.int 300
  let controlTimeoutMs ← optional control "control_timeout_ms" c.int 800
  check (rateHz = 20)
    "control.rate_hz must be 20; the upstream command rate is fixed at 20 Hz"
  check (¬(maxCommandGapMs ≤ 0 ∨ 60000 < maxCommandGapMs ∨ degradedTimeoutMs ≤ 0 ∨
      60000 < degradedTimeoutMs ∨ controlTimeoutMs ≤ degradedTimeoutMs ∨
      60000 < controlTimeoutMs))
    ("control timing requires positive values no greater than 60000 ms and " ++
      "degraded_timeout_ms < control_timeout_ms")
  let stages ← loadStages c control
  let decelerationProfile ← normalizeAndValidateDecelerationProfile stages
  .ok { rateHz, maxCommandGapMs, degradedTimeoutMs, controlTimeoutMs, decelerationProfile }

/-! ## The section `field_safety` -/

/-- The section over the numbers `R`: `Double` as it is read, `ℚ` once it is checked. -/
structure FieldSafetyConfig (R : Type) where
  commissioningMode : String := "bench"
  maxSpeedKph : R
  maxThrottle : R
  fullScaleMotorTorqueNm : R
  motorTorqueRiseRateNmPerS : R
  speedFeedbackTimeoutMs : ℤ := 200
  speedPidKp : R
  speedPidKi : R
  speedPidKd : R
  speedPidDerivativeFilterTauMs : R
  speedPidMaxDtMs : ℤ := 100
  hardOverspeedMarginKph : R
  maxBrakePressureBar : R
  maxSteeringAngleDeg : R
  requireCanFeedbackBeforeControl : Bool := true
  requireLocalEstopReset : Bool := true
  requireTimeSync : Bool := true
  maxTimeSyncUncertaintyMs : ℤ := 25
  timeSyncIntervalMs : ℤ := 30000
  timeSyncSamples : ℤ := 7
  deriving DecidableEq

def readFieldSafety (safety : Option Yaml) : Except String (FieldSafetyConfig Double) := do
  let commissioningMode ← optional safety "commissioning_mode" c.asString "bench"
  let maxSpeedKph ← optional safety "max_speed_kph" c.asDouble (some 10)
  let maxThrottle ← optional safety "max_throttle" c.asDouble (some 1)
  let fullScaleMotorTorqueNm ←
    optional safety "full_scale_motor_torque_nm" c.asDouble (some 640)
  let motorTorqueRiseRateNmPerS ←
    optional safety "motor_torque_rise_rate_nm_per_s" c.asDouble (some 0)
  let speedFeedbackTimeoutMs ← optional safety "speed_feedback_timeout_ms" c.int 200
  let speedPidKp ← optional safety "speed_pid_kp" c.asDouble (some 1)
  let speedPidKi ← optional safety "speed_pid_ki" c.asDouble (some (2 / 10))
  let speedPidKd ← optional safety "speed_pid_kd" c.asDouble (some 0)
  let speedPidDerivativeFilterTauMs ←
    optional safety "speed_pid_derivative_filter_tau_ms" c.asDouble (some 100)
  let speedPidMaxDtMs ← optional safety "speed_pid_max_dt_ms" c.int 100
  let hardOverspeedMarginKph ←
    optional safety "hard_overspeed_margin_kph" c.asDouble (some (36 / 10))
  check ((safety.bind (·.child "max_brake")).isNone = true)
    ("field_safety.max_brake used legacy normalized units; migrate explicitly to " ++
      "max_brake_pressure_bar")
  let maxBrakePressureBar ←
    optional safety "max_brake_pressure_bar" c.asDouble (some (3276 / 10))
  let maxSteeringAngleDeg ← optional safety "max_steering_angle_deg" c.asDouble (some 30)
  let requireCanFeedbackBeforeControl ←
    optional safety "require_can_feedback_before_control" c.asBool true
  let requireLocalEstopReset ← optional safety "require_local_estop_reset" c.asBool true
  let requireTimeSync ← optional safety "require_time_sync" c.asBool true
  let maxTimeSyncUncertaintyMs ← optional safety "max_time_sync_uncertainty_ms" c.int 25
  let timeSyncIntervalMs ← optional safety "time_sync_interval_ms" c.int 30000
  let timeSyncSamples ← optional safety "time_sync_samples" c.int 7
  .ok
    { commissioningMode, maxSpeedKph, maxThrottle, fullScaleMotorTorqueNm
      motorTorqueRiseRateNmPerS, speedFeedbackTimeoutMs, speedPidKp, speedPidKi, speedPidKd
      speedPidDerivativeFilterTauMs, speedPidMaxDtMs, hardOverspeedMarginKph
      maxBrakePressureBar, maxSteeringAngleDeg, requireCanFeedbackBeforeControl
      requireLocalEstopReset, requireTimeSync, maxTimeSyncUncertaintyMs, timeSyncIntervalMs
      timeSyncSamples }

/-- `!std::isfinite(value) || value < minimum || value > maximum` throws. -/
def within (value : Double) (minimum maximum : ℚ) (text : String) : Except String ℚ :=
  match value with
  | none => .error text
  | some number => if number < minimum ∨ maximum < number then .error text else .ok number

/-- The checks; several of them have one text between them. -/
def checkFieldSafety (controlTimeoutMs : ℤ) (s : FieldSafetyConfig Double) :
    Except String (FieldSafetyConfig ℚ) := do
  let limits := "field_safety limits or time sync settings are invalid"
  let speed := "field_safety local speed PID, feedback timeout, max dt, or hard overspeed " ++
    "margin is invalid"
  check (s.requireLocalEstopReset = true)
    ("field_safety.require_local_estop_reset must be true; remote-only ESTOP reset is " ++
      "unsupported")
  let fullScaleMotorTorqueNm ← within s.fullScaleMotorTorqueNm 0 Bridge.maxFullScaleMotorTorqueNm
    "field_safety.full_scale_motor_torque_nm must be finite and in [0, 640.0] Nm"
  let motorTorqueRiseRateNmPerS ←
    within s.motorTorqueRiseRateNmPerS 0 Bridge.maxMotorTorqueRiseRate
      ("field_safety.motor_torque_rise_rate_nm_per_s must be finite and in [0, 32000.0] Nm/s; " ++
        "zero disables additional rise limiting")
  let maxSpeedKph ← within s.maxSpeedKph 0 Service.chassisControlMaxTargetSpeedKph
    ("field_safety.max_speed_kph must be finite and in [0, 72] km/h; " ++
      "the current ChassisControl target-speed input is limited to 20 m/s")
  let maxThrottle ← within s.maxThrottle 0 1 limits
  let maxBrakePressureBar ← within s.maxBrakePressureBar 0 Bridge.maxOrdinaryBrakePressureBar limits
  let maxSteeringAngleDeg ← within s.maxSteeringAngleDeg 0 30 limits
  check (¬(s.maxTimeSyncUncertaintyMs < 0 ∨ s.timeSyncIntervalMs ≤ 0 ∨ s.timeSyncSamples < 3 ∨
    15 < s.timeSyncSamples)) limits
  check (¬(s.speedFeedbackTimeoutMs < 20 ∨ 500 < s.speedFeedbackTimeoutMs ∨
    controlTimeoutMs < s.speedFeedbackTimeoutMs)) speed
  let speedPidKp ← within s.speedPidKp 0 100 speed
  check (0 < speedPidKp) speed
  let speedPidKi ← within s.speedPidKi 0 100 speed
  let speedPidKd ← within s.speedPidKd 0 100 speed
  let speedPidDerivativeFilterTauMs ← within s.speedPidDerivativeFilterTauMs 0 2000 speed
  check (¬(s.speedPidMaxDtMs < 20 ∨ 200 < s.speedPidMaxDtMs)) speed
  let hardOverspeedMarginKph ← within s.hardOverspeedMarginKph 0 36 speed
  check (0 < hardOverspeedMarginKph) speed
  .ok
    { s with
      maxSpeedKph, maxThrottle, fullScaleMotorTorqueNm, motorTorqueRiseRateNmPerS, speedPidKp
      speedPidKi, speedPidKd, speedPidDerivativeFilterTauMs, hardOverspeedMarginKph
      maxBrakePressureBar, maxSteeringAngleDeg }

/-! ## The configuration and its limits -/

structure VehicleConfig where
  control : ControlConfig
  fieldSafety : FieldSafetyConfig ℚ
  deriving DecidableEq

def loadVehicleConfig (root : Yaml) : Except String VehicleConfig := do
  let control ← loadControl c (root.child "control")
  let read ← readFieldSafety c (root.child "field_safety")
  let fieldSafety ← checkFieldSafety control.controlTimeoutMs read
  .ok { control, fieldSafety }

def stageDocument (stage : DecelerationStage) : Json :=
  .object [("after_ms", .integer stage.afterMs), ("brake", .number stage.brake)]

def rangeDocument (minimum maximum : ℚ) : Json :=
  .object [("min", .number minimum), ("max", .number maximum)]

def readOnlyControlSafety (config : VehicleConfig) : Json :=
  .object
    [("control_rate_hz", .integer config.control.rateHz),
      ("max_command_gap_ms", .integer config.control.maxCommandGapMs),
      ("degraded_timeout_ms", .integer config.control.degradedTimeoutMs),
      ("control_timeout_ms", .integer config.control.controlTimeoutMs),
      ("deceleration_profile", .array (config.control.decelerationProfile.map stageDocument)),
      ("speed_feedback_timeout_ms", .integer config.fieldSafety.speedFeedbackTimeoutMs),
      ("hard_overspeed_margin_kph", .number config.fieldSafety.hardOverspeedMarginKph),
      ("require_can_feedback_before_control",
        .boolean config.fieldSafety.requireCanFeedbackBeforeControl),
      ("require_local_estop_reset", .boolean config.fieldSafety.requireLocalEstopReset),
      ("require_time_sync", .boolean config.fieldSafety.requireTimeSync),
      ("max_time_sync_uncertainty_ms", .integer config.fieldSafety.maxTimeSyncUncertaintyMs),
      ("time_sync_interval_ms", .integer config.fieldSafety.timeSyncIntervalMs),
      ("time_sync_samples", .integer config.fieldSafety.timeSyncSamples),
      ("commissioning_mode", .string config.fieldSafety.commissioningMode)]

def vehicleControlLimits (config : VehicleConfig) : Json :=
  .object
    [("max_speed_kph", .number config.fieldSafety.maxSpeedKph),
      ("max_throttle", .number config.fieldSafety.maxThrottle),
      ("full_scale_motor_torque_nm", .number config.fieldSafety.fullScaleMotorTorqueNm),
      ("max_brake_pressure_bar", .number config.fieldSafety.maxBrakePressureBar),
      ("max_steering_angle_deg", .number config.fieldSafety.maxSteeringAngleDeg),
      ("default_speed_pid_kp", .number config.fieldSafety.speedPidKp),
      ("default_speed_pid_ki", .number config.fieldSafety.speedPidKi),
      ("default_speed_pid_kd", .number config.fieldSafety.speedPidKd),
      ("default_speed_pid_derivative_filter_tau_ms",
        .number config.fieldSafety.speedPidDerivativeFilterTauMs),
      ("default_speed_pid_max_dt_ms", .integer config.fieldSafety.speedPidMaxDtMs),
      ("default_motor_torque_rise_rate_nm_per_s",
        .number config.fieldSafety.motorTorqueRiseRateNmPerS),
      ("motor_torque_rise_rate_limits_nm_per_s", rangeDocument 0 Bridge.maxMotorTorqueRiseRate),
      ("speed_pid_limits",
        .object
          [("kp", rangeDocument 0 100), ("ki", rangeDocument 0 100), ("kd", rangeDocument 0 100),
            ("derivative_filter_tau_ms", rangeDocument 0 2000),
            ("max_dt_ms", .object [("min", .integer 20), ("max", .integer 200)])]),
      ("speed_feedback_timeout_ms", .integer config.fieldSafety.speedFeedbackTimeoutMs),
      ("hard_overspeed_margin_kph", .number config.fieldSafety.hardOverspeedMarginKph),
      ("speed_feedback_timeout_ms_read_only", .boolean true),
      ("hard_overspeed_margin_kph_read_only", .boolean true),
      ("read_only_control_safety", readOnlyControlSafety config)]

/-! ## What a configuration has passed -/

section
variable {c}

theorem mapError_eq_ok_iff {α : Type} {read : Except String α} {text : String → String} {a : α} :
    read.mapError text = .ok a ↔ read = .ok a := by
  cases read <;> simp [Except.mapError]

/-- What a 32-bit integer holds. -/
def Int32Range (value : ℤ) : Prop := -2 ^ 31 ≤ value ∧ value < 2 ^ 31

instance (value : ℤ) : Decidable (Int32Range value) := inferInstanceAs (Decidable (_ ∧ _))

theorem int_range {node : Yaml} {value : ℤ} (h : c.int node = .ok value) : Int32Range value := by
  unfold Conversions.int at h
  cases hread : c.asInt node with
  | error what =>
    rw [hread] at h
    cases h
  | ok number =>
    rw [hread] at h
    obtain rfl := Except.ok.inj h
    exact ⟨Int32.le_toInt number, Int32.toInt_lt number⟩

theorem optional_int_range {node : Option Yaml} {key : String} {fallback value : ℤ}
    (hfallback : Int32Range fallback) (h : optional node key c.int fallback = .ok value) :
    Int32Range value := by
  unfold optional at h
  split at h
  · obtain rfl := Except.ok.inj h
    exact hfallback
  · exact int_range (mapError_eq_ok_iff.mp h)

theorem loadStage_range {item : Yaml} {stage : ℤ × Double} (h : loadStage c item = .ok stage) :
    Int32Range stage.1 := by
  obtain ⟨afterMs, hafter, h⟩ := bind_eq_ok_iff.mp h
  have hrange : Int32Range afterMs := by
    unfold required at hafter
    split at hafter
    · cases hafter
    · exact int_range (mapError_eq_ok_iff.mp hafter)
  split at h
  · cases h
  · split at h
    · obtain rfl := Except.ok.inj h
      exact hrange
    · obtain ⟨value, -, h⟩ := bind_eq_ok_iff.mp h
      obtain rfl := Except.ok.inj h
      exact hrange

theorem mapM_ok_mem {α β : Type} {f : α → Except String β} {items : List α} {results : List β}
    (h : items.mapM f = .ok results) : ∀ b ∈ results, ∃ a ∈ items, f a = .ok b := by
  induction items generalizing results with
  | nil =>
    obtain rfl : [] = results := Except.ok.inj h
    simp
  | cons first rest ih =>
    rw [List.mapM_cons] at h
    obtain ⟨b, hfirst, h⟩ := bind_eq_ok_iff.mp h
    obtain ⟨bs, hrest, h⟩ := bind_eq_ok_iff.mp h
    obtain rfl := Except.ok.inj h
    intro found hfound
    rcases List.mem_cons.mp hfound with rfl | hmem
    · exact ⟨first, List.mem_cons_self, hfirst⟩
    · obtain ⟨a, ha, hread⟩ := ih hrest found hmem
      exact ⟨a, List.mem_cons_of_mem _ ha, hread⟩

theorem loadStages_range {control : Option Yaml} {stages : List (ℤ × Double)}
    (h : loadStages c control = .ok stages) : ∀ stage ∈ stages, Int32Range stage.1 := by
  intro stage hmem
  unfold loadStages at h
  split at h
  · cases h
  · obtain ⟨item, -, hread⟩ := mapM_ok_mem h stage hmem
    exact loadStage_range hread

structure ControlConfig.Valid (control : ControlConfig) : Prop where
  rate : control.rateHz = 20
  gap : 0 < control.maxCommandGapMs ∧ control.maxCommandGapMs ≤ 60000
  degraded : 0 < control.degradedTimeoutMs
  timeout : control.degradedTimeoutMs < control.controlTimeoutMs ∧
    control.controlTimeoutMs ≤ 60000
  profile : ProfileValid control.decelerationProfile
  delays : ∀ stage ∈ control.decelerationProfile, Int32Range stage.afterMs

theorem loadControl_valid {node : Option Yaml} {control : ControlConfig}
    (h : loadControl c node = .ok control) : control.Valid := by
  obtain ⟨rateHz, -, h⟩ := bind_eq_ok_iff.mp h
  obtain ⟨maxCommandGapMs, -, h⟩ := bind_eq_ok_iff.mp h
  obtain ⟨degradedTimeoutMs, -, h⟩ := bind_eq_ok_iff.mp h
  obtain ⟨controlTimeoutMs, -, h⟩ := bind_eq_ok_iff.mp h
  obtain ⟨_, hrate, h⟩ := bind_eq_ok_iff.mp h
  obtain ⟨_, htimes, h⟩ := bind_eq_ok_iff.mp h
  obtain ⟨stages, hstages, h⟩ := bind_eq_ok_iff.mp h
  obtain ⟨profile, hprofile, h⟩ := bind_eq_ok_iff.mp h
  obtain rfl := Except.ok.inj h
  have hpassed := Service.check_ok htimes
  simp only [not_or, not_le, not_lt] at hpassed
  obtain ⟨hgap, hgapMax, hdegraded, -, htimeout, htimeoutMax⟩ := hpassed
  have hdelays : ∀ stage ∈ profile, Int32Range stage.afterMs := by
    intro stage hmem
    have hsame := Service.normalizeAndValidateDecelerationProfile_afterMs hprofile
    have hafter : stage.afterMs ∈ stages.map Prod.fst := by
      rw [← hsame]
      exact List.mem_map_of_mem hmem
    obtain ⟨read, hread, heq⟩ := List.mem_map.mp hafter
    rw [← heq]
    exact loadStages_range hstages read hread
  exact
    { rate := Service.check_ok hrate
      gap := ⟨hgap, hgapMax⟩
      degraded := hdegraded
      timeout := ⟨htimeout, htimeoutMax⟩
      profile := Service.normalizeAndValidateDecelerationProfile_ok hprofile
      delays := hdelays }

theorem within_ok_iff {value : Double} {minimum maximum : ℚ} {text : String} {number : ℚ} :
    within value minimum maximum text = .ok number ↔
      value = some number ∧ minimum ≤ number ∧ number ≤ maximum := by
  unfold within
  cases value with
  | none => simp
  | some found =>
    simp only [ite_error_eq_ok_iff, not_or, not_lt, Except.ok.injEq, Option.some.injEq]
    constructor
    · rintro ⟨hrange, rfl⟩
      exact ⟨rfl, hrange⟩
    · rintro ⟨rfl, hrange⟩
      exact ⟨hrange, rfl⟩

structure FieldSafetyConfig.Valid (s : FieldSafetyConfig ℚ) (controlTimeoutMs : ℤ) : Prop where
  localEstopReset : s.requireLocalEstopReset = true
  fullScale : 0 ≤ s.fullScaleMotorTorqueNm ∧
    s.fullScaleMotorTorqueNm ≤ Bridge.maxFullScaleMotorTorqueNm
  riseRate : 0 ≤ s.motorTorqueRiseRateNmPerS ∧
    s.motorTorqueRiseRateNmPerS ≤ Bridge.maxMotorTorqueRiseRate
  maxSpeed : 0 ≤ s.maxSpeedKph ∧ s.maxSpeedKph ≤ Service.chassisControlMaxTargetSpeedKph
  maxThrottle : 0 ≤ s.maxThrottle ∧ s.maxThrottle ≤ 1
  brakePressure : 0 ≤ s.maxBrakePressureBar ∧
    s.maxBrakePressureBar ≤ Bridge.maxOrdinaryBrakePressureBar
  steering : 0 ≤ s.maxSteeringAngleDeg ∧ s.maxSteeringAngleDeg ≤ 30
  uncertainty : 0 ≤ s.maxTimeSyncUncertaintyMs ∧ Int32Range s.maxTimeSyncUncertaintyMs
  interval : 0 < s.timeSyncIntervalMs ∧ Int32Range s.timeSyncIntervalMs
  samples : 3 ≤ s.timeSyncSamples ∧ s.timeSyncSamples ≤ 15
  feedback : 20 ≤ s.speedFeedbackTimeoutMs ∧ s.speedFeedbackTimeoutMs ≤ 500 ∧
    s.speedFeedbackTimeoutMs ≤ controlTimeoutMs
  kp : 0 < s.speedPidKp ∧ s.speedPidKp ≤ 100
  ki : 0 ≤ s.speedPidKi ∧ s.speedPidKi ≤ 100
  kd : 0 ≤ s.speedPidKd ∧ s.speedPidKd ≤ 100
  filter : 0 ≤ s.speedPidDerivativeFilterTauMs ∧ s.speedPidDerivativeFilterTauMs ≤ 2000
  maxDt : 20 ≤ s.speedPidMaxDtMs ∧ s.speedPidMaxDtMs ≤ 200
  margin : 0 < s.hardOverspeedMarginKph ∧ s.hardOverspeedMarginKph ≤ 36

/-- The integers that are read fit in their type. -/
theorem readFieldSafety_range {safety : Option Yaml} {read : FieldSafetyConfig Double}
    (h : readFieldSafety c safety = .ok read) :
    Int32Range read.maxTimeSyncUncertaintyMs ∧ Int32Range read.timeSyncIntervalMs := by
  simp only [readFieldSafety, bind_eq_ok_iff, Except.ok.injEq] at h
  obtain ⟨_, -, _, -, _, -, _, -, _, -, _, -, _, -, _, -, _, -, _, -, _, -, _, -, _, -, _, -, _, -,
    _, -, _, -, _, -, uncertainty, huncertainty, interval, hinterval, _, -, rfl⟩ := h
  exact ⟨optional_int_range (by decide) huncertainty, optional_int_range (by decide) hinterval⟩

theorem checkFieldSafety_valid {timeout : ℤ} {read : FieldSafetyConfig Double}
    {s : FieldSafetyConfig ℚ} (huncertainty : Int32Range read.maxTimeSyncUncertaintyMs)
    (hinterval : Int32Range read.timeSyncIntervalMs)
    (h : checkFieldSafety timeout read = .ok s) : s.Valid timeout := by
  simp only [checkFieldSafety, bind_eq_ok_iff, within_ok_iff, Except.ok.injEq] at h
  obtain ⟨_, hreset, torque, ⟨-, htorque⟩, rise, ⟨-, hrise⟩, speed, ⟨-, hspeed⟩, throttle,
    ⟨-, hthrottle⟩, brake, ⟨-, hbrake⟩, steering, ⟨-, hsteering⟩, _, hsync, _, hfeedback, kp,
    ⟨-, hkp⟩, _, hkpPositive, ki, ⟨-, hki⟩, kd, ⟨-, hkd⟩, tau, ⟨-, htau⟩, _, hdt, margin,
    ⟨-, hmargin⟩, _, hmarginPositive, rfl⟩ := h
  have hsyncPassed := Service.check_ok hsync
  have hfeedbackPassed := Service.check_ok hfeedback
  have hdtPassed := Service.check_ok hdt
  simp only [not_or, not_le, not_lt] at hsyncPassed hfeedbackPassed hdtPassed
  obtain ⟨huncertaintyMin, hintervalMin, hsamples⟩ := hsyncPassed
  exact
    { localEstopReset := Service.check_ok hreset
      fullScale := htorque
      riseRate := hrise
      maxSpeed := hspeed
      maxThrottle := hthrottle
      brakePressure := hbrake
      steering := hsteering
      uncertainty := ⟨huncertaintyMin, huncertainty⟩
      interval := ⟨hintervalMin, hinterval⟩
      samples := hsamples
      feedback := hfeedbackPassed
      kp := ⟨Service.check_ok hkpPositive, hkp.2⟩
      ki := hki
      kd := hkd
      filter := htau
      maxDt := hdtPassed
      margin := ⟨Service.check_ok hmarginPositive, hmargin.2⟩ }

structure VehicleConfig.Valid (config : VehicleConfig) : Prop where
  control : config.control.Valid
  fieldSafety : config.fieldSafety.Valid config.control.controlTimeoutMs

theorem loadVehicleConfig_valid {root : Yaml} {config : VehicleConfig}
    (h : loadVehicleConfig c root = .ok config) : config.Valid := by
  obtain ⟨control, hcontrol, h⟩ := bind_eq_ok_iff.mp h
  obtain ⟨read, hread, h⟩ := bind_eq_ok_iff.mp h
  obtain ⟨fieldSafety, hchecked, h⟩ := bind_eq_ok_iff.mp h
  obtain rfl := Except.ok.inj h
  obtain ⟨huncertainty, hinterval⟩ := readFieldSafety_range hread
  exact ⟨loadControl_valid hcontrol, checkFieldSafety_valid huncertainty hinterval hchecked⟩

/-- The file names its commissioning mode by the empty string. -/
def EmptyMode (c : Conversions) (root : Yaml) : Prop :=
  optional (root.child "field_safety") "commissioning_mode" c.asString "bench" = .ok ""

theorem checkFieldSafety_mode {timeout : ℤ} {read : FieldSafetyConfig Double}
    {s : FieldSafetyConfig ℚ} (h : checkFieldSafety timeout read = .ok s) :
    s.commissioningMode = read.commissioningMode := by
  simp only [checkFieldSafety, bind_eq_ok_iff, Except.ok.injEq] at h
  obtain ⟨_, -, _, -, _, -, _, -, _, -, _, -, _, -, _, -, _, -, _, -, _, -, _, -, _, -, _, -, _, -,
    _, -, _, -, rfl⟩ := h
  rfl

/-- The mode is taken as it is read, and no check looks at it. -/
theorem loadVehicleConfig_mode {root : Yaml} {config : VehicleConfig}
    (h : loadVehicleConfig c root = .ok config) :
    optional (root.child "field_safety") "commissioning_mode" c.asString "bench" =
      .ok config.fieldSafety.commissioningMode := by
  obtain ⟨control, -, h⟩ := bind_eq_ok_iff.mp h
  obtain ⟨read, hread, h⟩ := bind_eq_ok_iff.mp h
  obtain ⟨fieldSafety, hchecked, h⟩ := bind_eq_ok_iff.mp h
  obtain rfl := Except.ok.inj h
  change _ = Except.ok fieldSafety.commissioningMode
  rw [checkFieldSafety_mode hchecked]
  obtain ⟨mode, hmode, hread⟩ := bind_eq_ok_iff.mp hread
  simp only [bind_eq_ok_iff, Except.ok.injEq] at hread
  obtain ⟨_, -, _, -, _, -, _, -, _, -, _, -, _, -, _, -, _, -, _, -, _, -, _, -, _, -, _, -, _, -,
    _, -, _, -, _, -, _, -, _, -, rfl⟩ := hread
  exact hmode

theorem emptyMode_iff {root : Yaml} {config : VehicleConfig}
    (h : loadVehicleConfig c root = .ok config) :
    EmptyMode c root ↔ config.fieldSafety.commissioningMode = "" := by
  unfold EmptyMode
  rw [loadVehicleConfig_mode h, Except.ok.injEq]

/-- The part of the section that the control service and the adapter take. -/
def FieldSafetyConfig.stack (s : FieldSafetyConfig ℚ) : Stack.FieldSafetyConfig :=
  { commissioningMode := s.commissioningMode
    maxSpeedKph := s.maxSpeedKph
    maxThrottle := s.maxThrottle
    fullScaleMotorTorqueNm := s.fullScaleMotorTorqueNm
    motorTorqueRiseRateNmPerS := s.motorTorqueRiseRateNmPerS
    speedFeedbackTimeoutMs := s.speedFeedbackTimeoutMs
    speedPidKp := s.speedPidKp
    speedPidKi := s.speedPidKi
    speedPidKd := s.speedPidKd
    speedPidDerivativeFilterTauMs := s.speedPidDerivativeFilterTauMs
    speedPidMaxDtMs := s.speedPidMaxDtMs
    hardOverspeedMarginKph := s.hardOverspeedMarginKph
    maxBrakePressureBar := s.maxBrakePressureBar
    maxSteeringAngleDeg := s.maxSteeringAngleDeg
    requireCanFeedbackBeforeControl := s.requireCanFeedbackBeforeControl }

end

end MineTeleop.Configuration
