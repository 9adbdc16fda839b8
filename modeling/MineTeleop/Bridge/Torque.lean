import Mathlib.Algebra.Order.Field.Rat
import Mathlib.Data.Rat.Floor
import Mathlib.Tactic.Linarith

/-!
# Torque, brake and speed-control helpers of the bridge header

The `static inline` functions of `mine_teleop_chassis_bridge.h` in exact arithmetic: a double is
a rational, always finite, and `nextafter` is the identity.

Proved here: what a helper returns is bounded by its limits, and `directionalMotorTorqueNm` gives
the sign of the gear.
-/

namespace MineTeleop.Bridge

def maxFullScaleMotorTorqueNm : ℚ := 640
def minDbcMotorTorqueNm : ℚ := -3200
def maxDbcMotorTorqueNm : ℚ := 33535 / 10
def motorTorqueResolutionNm : ℚ := 1 / 10
def maxMotorTorqueRiseRate : ℚ := 32000
def maxOrdinaryBrakePressureBar : ℚ := 3276 / 10
def maxEmergencyBrakePressureBar : ℚ := 4095 / 10
def brakePressureResolutionBar : ℚ := 1 / 10
def minControlTimeoutMs : ℤ := 20
def maxControlTimeoutMs : ℤ := 60000
def minSpeedPidMaxDtMs : ℤ := 20
def maxSpeedPidMaxDtMs : ℤ := 200
def maxSpeedPidGain : ℚ := 100
def maxDerivativeFilterTauMs : ℚ := 2000
def setpointResetDeadbandMps : ℚ := 5 / 100

/-- Vehicle speed is a magnitude in both driving gears. -/
def speedMagnitudeMps (speedMps : ℚ) : ℚ := |speedMps|

/-- Rounding down to a multiple of the resolution. -/
def quantize (value resolution : ℚ) : ℚ := (⌊value / resolution⌋ : ℚ) * resolution

def boundedMotorTorqueNm (normalizedPidOutput maxMotorTorqueNm : ℚ) : ℚ :=
  if normalizedPidOutput ≤ 0 ∨ maxMotorTorqueNm ≤ 0 then 0
  else
    min normalizedPidOutput 1 *
      min (min maxMotorTorqueNm maxFullScaleMotorTorqueNm) maxDbcMotorTorqueNm

def riseLimitedMotorTorqueNm (previousMotorTorqueNm targetMotorTorqueNm riseRateNmPerSecond
    dtSeconds : ℚ) : ℚ :=
  if previousMotorTorqueNm < 0 ∨ targetMotorTorqueNm ≤ 0 then 0
  else if targetMotorTorqueNm ≤ previousMotorTorqueNm then targetMotorTorqueNm
  else if riseRateNmPerSecond = 0 then targetMotorTorqueNm
  else if riseRateNmPerSecond < 0 ∨ maxMotorTorqueRiseRate < riseRateNmPerSecond ∨
      dtSeconds ≤ 0 then 0
  else min targetMotorTorqueNm (previousMotorTorqueNm + riseRateNmPerSecond * dtSeconds)

/-- Gear 3 is D, gear 2 is R. -/
def directionalMotorTorqueNm (targetGear : ℤ) (motorTorqueMagnitudeNm : ℚ) : ℚ :=
  if motorTorqueMagnitudeNm ≤ 0 then 0
  else
    let quantizedMagnitude := quantize motorTorqueMagnitudeNm motorTorqueResolutionNm
    if targetGear = 3 then min quantizedMagnitude maxDbcMotorTorqueNm
    else if targetGear = 2 then max (-quantizedMagnitude) minDbcMotorTorqueNm
    else 0

def quantizeBrakePressureBar (brakePressureBar : ℚ) : ℚ :=
  if brakePressureBar ≤ 0 then 0
  else quantize (min brakePressureBar maxOrdinaryBrakePressureBar) brakePressureResolutionBar

def ControlTimeoutValid (controlTimeoutMs : ℤ) : Prop :=
  minControlTimeoutMs ≤ controlTimeoutMs ∧ controlTimeoutMs ≤ maxControlTimeoutMs

instance (controlTimeoutMs : ℤ) : Decidable (ControlTimeoutValid controlTimeoutMs) :=
  inferInstanceAs (Decidable (_ ∧ _))

/-! ## Speed PID -/

structure SpeedPidConfig where
  kp : ℚ
  ki : ℚ
  kd : ℚ
  derivativeFilterTauMs : ℚ
  maxDtMs : ℤ
  deriving DecidableEq

structure SpeedPidState where
  integral : ℚ := 0
  filteredMeasurementDerivative : ℚ := 0
  previousMeasurement : ℚ := 0
  initialized : Bool := false

def SpeedPidConfigValid (config : SpeedPidConfig) : Prop :=
  0 < config.kp ∧ config.kp ≤ maxSpeedPidGain ∧
  0 ≤ config.ki ∧ config.ki ≤ maxSpeedPidGain ∧
  0 ≤ config.kd ∧ config.kd ≤ maxSpeedPidGain ∧
  0 ≤ config.derivativeFilterTauMs ∧ config.derivativeFilterTauMs ≤ maxDerivativeFilterTauMs ∧
  minSpeedPidMaxDtMs ≤ config.maxDtMs ∧ config.maxDtMs ≤ maxSpeedPidMaxDtMs

instance (config : SpeedPidConfig) : Decidable (SpeedPidConfigValid config) :=
  inferInstanceAs (Decidable (_ ∧ _))

def speedPidReset : SpeedPidState := {}

def SetpointRequiresReset (referenceValid : Bool) (referenceGear targetGear : ℤ)
    (referenceSpeedMps targetSpeedMps : ℚ) : Prop :=
  referenceValid = false ∨ referenceGear ≠ targetGear ∨
  setpointResetDeadbandMps < |targetSpeedMps - referenceSpeedMps|

instance (referenceValid : Bool) (referenceGear targetGear : ℤ)
    (referenceSpeedMps targetSpeedMps : ℚ) :
    Decidable (SetpointRequiresReset referenceValid referenceGear targetGear referenceSpeedMps
      targetSpeedMps) :=
  inferInstanceAs (Decidable (_ ∨ _))

/-- Saturation to `[0, ceiling]`, the lower bound first. -/
def saturate (value ceiling : ℚ) : ℚ :=
  let value := if value < 0 then 0 else value
  if ceiling < value then ceiling else value

def speedPidStep (config : SpeedPidConfig) (state : SpeedPidState) (targetSpeedMps
    measuredSpeedMagnitudeMps tractionCeiling dtSeconds : ℚ) : ℚ × SpeedPidState :=
  if ¬SpeedPidConfigValid config ∨ targetSpeedMps ≤ 0 ∨ tractionCeiling ≤ 0 ∨ dtSeconds ≤ 0 ∨
      (config.maxDtMs : ℚ) < dtSeconds * 1000 then
    (0, speedPidReset)
  else
    let ceiling := min tractionCeiling 1
    let error := targetSpeedMps - measuredSpeedMagnitudeMps
    let filtered :=
      if state.initialized then
        let rawDerivative := (measuredSpeedMagnitudeMps - state.previousMeasurement) / dtSeconds
        let tauSeconds := config.derivativeFilterTauMs / 1000
        let alpha := if tauSeconds ≤ 0 then 1 else dtSeconds / (tauSeconds + dtSeconds)
        state.filteredMeasurementDerivative +
          alpha * (rawDerivative - state.filteredMeasurementDerivative)
      else state.filteredMeasurementDerivative
    let derivative := if state.initialized then filtered else 0
    let held := saturate state.integral ceiling
    let unconstrained := config.kp * error + held - config.kd * derivative
    -- Conditional integration: only while unsaturated, or back out of the saturation.
    let integral :=
      if (unconstrained < ceiling ∧ 0 < unconstrained) ∨
          (ceiling ≤ unconstrained ∧ error < 0) ∨ (unconstrained ≤ 0 ∧ 0 < error) then
        saturate (held + config.ki * error * dtSeconds) ceiling
      else held
    (saturate (config.kp * error + integral - config.kd * derivative) ceiling,
      { integral := integral
        filteredMeasurementDerivative := filtered
        previousMeasurement := measuredSpeedMagnitudeMps
        initialized := true })

/-! ## Overspeed and watchdog -/

def HardOverspeed (targetSpeedMps measuredSpeedMps marginMps : ℚ) : Prop :=
  0 ≤ targetSpeedMps ∧ 0 < marginMps ∧
  targetSpeedMps + marginMps < speedMagnitudeMps measuredSpeedMps

instance (targetSpeedMps measuredSpeedMps marginMps : ℚ) :
    Decidable (HardOverspeed targetSpeedMps measuredSpeedMps marginMps) :=
  inferInstanceAs (Decidable (_ ∧ _))

def ControlWatchdogExpired (activeControlState hasReference alreadyLatched : Bool)
    (elapsedMs controlTimeoutMs : ℤ) : Prop :=
  activeControlState = true ∧ hasReference = true ∧ alreadyLatched = false ∧
  ControlTimeoutValid controlTimeoutMs ∧ controlTimeoutMs ≤ elapsedMs

instance (activeControlState hasReference alreadyLatched : Bool)
    (elapsedMs controlTimeoutMs : ℤ) :
    Decidable (ControlWatchdogExpired activeControlState hasReference alreadyLatched elapsedMs
      controlTimeoutMs) :=
  inferInstanceAs (Decidable (_ ∧ _))

/-! ## Bounds -/

theorem quantize_le (value : ℚ) {resolution : ℚ} (hr : 0 < resolution) :
    quantize value resolution ≤ value := by
  have h := Int.floor_le (value / resolution)
  calc quantize value resolution ≤ value / resolution * resolution :=
        mul_le_mul_of_nonneg_right h hr.le
    _ = value := div_mul_cancel₀ value hr.ne'

theorem quantize_nonneg {value resolution : ℚ} (hv : 0 ≤ value) (hr : 0 < resolution) :
    0 ≤ quantize value resolution := by
  have h : (0 : ℤ) ≤ ⌊value / resolution⌋ := Int.floor_nonneg.mpr (div_nonneg hv hr.le)
  exact mul_nonneg (by exact_mod_cast h) hr.le

/-- Rounding down loses less than one step. -/
theorem sub_lt_quantize (value : ℚ) {resolution : ℚ} (hr : 0 < resolution) :
    value - resolution < quantize value resolution := by
  have h := Int.lt_floor_add_one (value / resolution)
  have hmul := mul_lt_mul_of_pos_right h hr
  rw [div_mul_cancel₀ value hr.ne', add_mul, one_mul] at hmul
  unfold quantize
  linarith

theorem boundedLimit_nonneg {limit : ℚ} (hl : 0 ≤ limit) :
    0 ≤ min (min limit maxFullScaleMotorTorqueNm) maxDbcMotorTorqueNm :=
  le_min (le_min hl (by norm_num [maxFullScaleMotorTorqueNm])) (by norm_num [maxDbcMotorTorqueNm])

theorem boundedMotorTorqueNm_nonneg (output limit : ℚ) : 0 ≤ boundedMotorTorqueNm output limit := by
  unfold boundedMotorTorqueNm
  split
  · exact le_rfl
  · rename_i h
    push Not at h
    exact mul_nonneg (le_min h.1.le zero_le_one) (boundedLimit_nonneg h.2.le)

theorem boundedMotorTorqueNm_le (output : ℚ) {limit : ℚ} (hl : 0 ≤ limit) :
    boundedMotorTorqueNm output limit ≤ min limit maxFullScaleMotorTorqueNm := by
  unfold boundedMotorTorqueNm
  split
  · exact le_min hl (by norm_num [maxFullScaleMotorTorqueNm])
  · calc min output 1 * min (min limit maxFullScaleMotorTorqueNm) maxDbcMotorTorqueNm
        ≤ 1 * min (min limit maxFullScaleMotorTorqueNm) maxDbcMotorTorqueNm :=
          mul_le_mul_of_nonneg_right (min_le_right _ _) (boundedLimit_nonneg hl)
      _ ≤ min limit maxFullScaleMotorTorqueNm := by
          rw [one_mul]
          exact min_le_left _ _

theorem riseLimitedMotorTorqueNm_le (previous : ℚ) {target : ℚ} (rate dt : ℚ) (ht : 0 ≤ target) :
    riseLimitedMotorTorqueNm previous target rate dt ≤ target := by
  unfold riseLimitedMotorTorqueNm
  split_ifs
  · exact ht
  · exact le_rfl
  · exact le_rfl
  · exact ht
  · exact min_le_left _ _

theorem directionalMotorTorqueNm_of_nonpos (gear : ℤ) {magnitude : ℚ} (h : magnitude ≤ 0) :
    directionalMotorTorqueNm gear magnitude = 0 :=
  if_pos h

/-- The sign of the gear, and no more than the magnitude. -/
theorem directionalMotorTorqueNm_bounds (gear : ℤ) (magnitude : ℚ)
    (h : directionalMotorTorqueNm gear magnitude ≠ 0) :
    (gear = 3 ∧ 0 < directionalMotorTorqueNm gear magnitude ∨
      gear = 2 ∧ directionalMotorTorqueNm gear magnitude < 0) ∧
    |directionalMotorTorqueNm gear magnitude| ≤ magnitude := by
  have hr : (0 : ℚ) < motorTorqueResolutionNm := by norm_num [motorTorqueResolutionNm]
  by_cases hm : magnitude ≤ 0
  · exact absurd (directionalMotorTorqueNm_of_nonpos gear hm) h
  have hm' : 0 ≤ magnitude := le_of_lt (not_le.mp hm)
  have hq := quantize_nonneg hm' hr
  have hle := quantize_le magnitude hr
  simp only [directionalMotorTorqueNm, if_neg hm] at h ⊢
  by_cases h3 : gear = 3
  · simp only [if_pos h3] at h ⊢
    have hn : 0 ≤ min (quantize magnitude motorTorqueResolutionNm) maxDbcMotorTorqueNm :=
      le_min hq (by norm_num [maxDbcMotorTorqueNm])
    refine ⟨.inl ⟨h3, lt_of_le_of_ne hn (Ne.symm h)⟩, ?_⟩
    rw [abs_of_nonneg hn]
    exact (min_le_left _ _).trans hle
  · simp only [if_neg h3] at h ⊢
    by_cases h2 : gear = 2
    · simp only [if_pos h2] at h ⊢
      have hn : max (-quantize magnitude motorTorqueResolutionNm) minDbcMotorTorqueNm ≤ 0 :=
        max_le (by linarith) (by norm_num [minDbcMotorTorqueNm])
      refine ⟨.inr ⟨h2, lt_of_le_of_ne hn h⟩, ?_⟩
      rw [abs_of_nonpos hn]
      have := le_max_left (-quantize magnitude motorTorqueResolutionNm) minDbcMotorTorqueNm
      linarith
    · simp only [if_neg h2] at h
      exact absurd rfl h

/-- In a driving gear and under the full scale no more than one step is lost. -/
theorem directionalMotorTorqueNm_step {gear : ℤ} {magnitude : ℚ} (hgear : gear = 2 ∨ gear = 3)
    (hm : 0 ≤ magnitude) (hmax : magnitude ≤ maxFullScaleMotorTorqueNm) :
    |directionalMotorTorqueNm gear magnitude| ≤ magnitude ∧
      magnitude - motorTorqueResolutionNm < |directionalMotorTorqueNm gear magnitude| := by
  have hr : (0 : ℚ) < motorTorqueResolutionNm := by norm_num [motorTorqueResolutionNm]
  have hscale : maxFullScaleMotorTorqueNm ≤ maxDbcMotorTorqueNm := by
    norm_num [maxFullScaleMotorTorqueNm, maxDbcMotorTorqueNm]
  have hscale' : minDbcMotorTorqueNm ≤ -maxFullScaleMotorTorqueNm := by
    norm_num [maxFullScaleMotorTorqueNm, minDbcMotorTorqueNm]
  by_cases hzero : magnitude ≤ 0
  · rw [directionalMotorTorqueNm_of_nonpos gear hzero, abs_zero]
    exact ⟨hm, by linarith⟩
  have hq := quantize_nonneg hm hr
  have hle := quantize_le magnitude hr
  have hlt := sub_lt_quantize magnitude hr
  rcases hgear with rfl | rfl
  · have hreverse : directionalMotorTorqueNm 2 magnitude =
        -quantize magnitude motorTorqueResolutionNm := by
      simp only [directionalMotorTorqueNm, if_neg hzero]
      exact max_eq_left (by linarith)
    rw [hreverse, abs_neg, abs_of_nonneg hq]
    exact ⟨hle, hlt⟩
  · have hforward : directionalMotorTorqueNm 3 magnitude =
        quantize magnitude motorTorqueResolutionNm := by
      simp only [directionalMotorTorqueNm, if_neg hzero]
      exact min_eq_left (by linarith)
    rw [hforward, abs_of_nonneg hq]
    exact ⟨hle, hlt⟩

theorem quantizeBrakePressureBar_bounds (pressure : ℚ) :
    0 ≤ quantizeBrakePressureBar pressure ∧
      quantizeBrakePressureBar pressure ≤ maxOrdinaryBrakePressureBar := by
  have hr : (0 : ℚ) < brakePressureResolutionBar := by norm_num [brakePressureResolutionBar]
  have hmax : (0 : ℚ) ≤ maxOrdinaryBrakePressureBar := by norm_num [maxOrdinaryBrakePressureBar]
  unfold quantizeBrakePressureBar
  split
  · exact ⟨le_rfl, hmax⟩
  · rename_i h
    have hp : 0 ≤ min pressure maxOrdinaryBrakePressureBar :=
      le_min (le_of_lt (not_le.mp h)) hmax
    exact ⟨quantize_nonneg hp hr, (quantize_le _ hr).trans (min_le_right _ _)⟩

end MineTeleop.Bridge
