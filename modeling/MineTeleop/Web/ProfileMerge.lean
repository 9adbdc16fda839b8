import MineTeleop.Service.WireRoundTrip
import MineTeleop.Web.HardLimits

/-!
# A requested profile under the limits of the vehicle

`mergeControlProfileWithHardLimits` of `control_logic.js` lowers or raises what the driver asks for
into the limits that the vehicle reports, and the page sends profiles to the C++ side.

Proved here, for every profile and all limits that the page reads:

* `normalizeVehicleHardLimits_sound`: the limits lie in the ranges of a profile;
* `mergedProfile_valid`, `mergedProfile_within`: what is merged is a profile within the limits;
* `profile_fromJson_stringified`: what the page accepts, `SessionControlProfile::from_json` accepts;
* `profile_merge_law`: both, with idempotence, and nothing changes exactly within the limits.
-/

namespace MineTeleop.Web

open Documents
open Bridge (Double)
open Service (SessionControlProfile)

/-! ## Merging -/

def clamp (value minimum maximum : ℚ) : ℚ := min maximum (max minimum value)

def mergedDocument (requested : ControlProfile) (hard : VehicleHardLimits) : Json :=
  let maxBrake := min requested.maxBrakePressureBar hard.maxBrakePressureBar
  let pid := hard.speedPidLimits
  .object [("profile_version", .integer controlProfileVersion),
    ("parking_idle_timeout_ms", .integer requested.parkingIdleTimeoutMs),
    ("target_speed_kph", .number (min requested.targetSpeedKph hard.maxTargetSpeedKph)),
    ("max_motor_torque_nm", .number (min requested.maxMotorTorqueNm hard.fullScaleMotorTorqueNm)),
    ("max_brake_pressure_bar", .number maxBrake),
    ("service_brake_pressure_bar", .number (min requested.serviceBrakePressureBar maxBrake)),
    ("hard_brake_pressure_bar", .number (min requested.hardBrakePressureBar maxBrake)),
    ("max_steering_angle_deg",
      .number (min requested.maxSteeringAngleDeg hard.maxSteeringAngleDeg)),
    ("speed_pid_kp", .number (clamp requested.speedPidKp pid.kp.min pid.kp.max)),
    ("speed_pid_ki", .number (clamp requested.speedPidKi pid.ki.min pid.ki.max)),
    ("speed_pid_kd", .number (clamp requested.speedPidKd pid.kd.min pid.kd.max)),
    ("speed_pid_derivative_filter_tau_ms",
      .number (clamp requested.speedPidDerivativeFilterTauMs pid.derivativeFilterTauMs.min
        pid.derivativeFilterTauMs.max)),
    ("speed_pid_max_dt_ms",
      .number (clamp requested.speedPidMaxDtMs pid.maxDtMs.min pid.maxDtMs.max)),
    ("motor_torque_rise_rate_nm_per_s",
      .number (clamp requested.motorTorqueRiseRateNmPerS hard.motorTorqueRiseRateLimitsNmPerS.min
        hard.motorTorqueRiseRateLimitsNmPerS.max))]

def mergeControlProfileWithHardLimits (numberText : ℚ → String)
    (requestedValue hardLimitValue : Json) : Except String Json := do
  let requested ← normalizeControlProfile numberText requestedValue
  let hard ← normalizeVehicleHardLimits numberText hardLimitValue
  .ok (mergedDocument requested hard)

/-! ## Sending -/

/-- `JSON.stringify`, as it is parsed again: a number has no fraction or it has one. -/
def stringifiedNumber (value : ℚ) : Json :=
  if value.den = 1 then .integer value.num else .number value

mutual

def stringified : Json → Json
  | .null => .null
  | .boolean value => .boolean value
  | .integer value => .integer value
  | .number value => stringifiedNumber value
  | .string value => .string value
  | .array elements => .array (stringifiedElements elements)
  | .object members => .object (stringifiedMembers members)

def stringifiedElements : List Json → List Json
  | [] => []
  | element :: elements => stringified element :: stringifiedElements elements

def stringifiedMembers : List (String × Json) → List (String × Json)
  | [] => []
  | (key, value) :: members => (key, stringified value) :: stringifiedMembers members

end

/-- The profile with these values on the other side. -/
def ControlProfile.session (profile : ControlProfile) : SessionControlProfile Double where
  profileVersion := controlProfileVersion
  targetSpeedKph := some profile.targetSpeedKph
  maxMotorTorqueNm := some profile.maxMotorTorqueNm
  maxBrakePressureBar := some profile.maxBrakePressureBar
  serviceBrakePressureBar := some profile.serviceBrakePressureBar
  hardBrakePressureBar := some profile.hardBrakePressureBar
  maxSteeringAngleDeg := some profile.maxSteeringAngleDeg
  speedPidKp := some profile.speedPidKp
  speedPidKi := some profile.speedPidKi
  speedPidKd := some profile.speedPidKd
  speedPidDerivativeFilterTauMs := some profile.speedPidDerivativeFilterTauMs
  speedPidMaxDtMs := profile.speedPidMaxDtMs
  motorTorqueRiseRateNmPerS := some profile.motorTorqueRiseRateNmPerS
  parkingIdleTimeoutMs := profile.parkingIdleTimeoutMs

/-! ## Limits -/

/-- A range inside another one. -/
def Range.Inside (range : Range ℚ) (minimum maximum : ℚ) : Prop :=
  minimum ≤ range.min ∧ range.min ≤ range.max ∧ range.max ≤ maximum

def Range.Has (range : Range ℚ) (value : ℚ) : Prop := range.min ≤ value ∧ value ≤ range.max

instance (range : Range ℚ) (value : ℚ) : Decidable (range.Has value) :=
  inferInstanceAs (Decidable (_ ∧ _))

/-- The limits that the page has read. -/
structure VehicleHardLimits.Sound (hard : VehicleHardLimits) : Prop where
  targetSpeed : 0 ≤ hard.maxTargetSpeedKph ∧ hard.maxTargetSpeedKph ≤ 72
  fullScale : 0 ≤ hard.fullScaleMotorTorqueNm ∧ hard.fullScaleMotorTorqueNm ≤ 640
  brakePressure : 0 ≤ hard.maxBrakePressureBar ∧ hard.maxBrakePressureBar ≤ 3276 / 10
  steering : 0 ≤ hard.maxSteeringAngleDeg ∧ hard.maxSteeringAngleDeg ≤ 30
  kp : hard.speedPidLimits.kp.Inside 0 100
  proportional : 0 < hard.speedPidLimits.kp.max
  ki : hard.speedPidLimits.ki.Inside 0 100
  kd : hard.speedPidLimits.kd.Inside 0 100
  filter : hard.speedPidLimits.derivativeFilterTauMs.Inside 0 2000
  maxDt : hard.speedPidLimits.maxDtMs.Inside 20 200
  maxDtIntegers : IsSafeInteger hard.speedPidLimits.maxDtMs.min ∧
    IsSafeInteger hard.speedPidLimits.maxDtMs.max
  riseRate : hard.motorTorqueRiseRateLimitsNmPerS.Inside 0 32000

/-- Every field of the profile within its limit. -/
structure ControlProfile.Within (profile : ControlProfile) (hard : VehicleHardLimits) : Prop where
  targetSpeed : profile.targetSpeedKph ≤ hard.maxTargetSpeedKph
  motorTorque : profile.maxMotorTorqueNm ≤ hard.fullScaleMotorTorqueNm
  maxBrake : profile.maxBrakePressureBar ≤ hard.maxBrakePressureBar
  serviceBrake : profile.serviceBrakePressureBar ≤ hard.maxBrakePressureBar
  hardBrake : profile.hardBrakePressureBar ≤ hard.maxBrakePressureBar
  steering : profile.maxSteeringAngleDeg ≤ hard.maxSteeringAngleDeg
  kp : hard.speedPidLimits.kp.Has profile.speedPidKp
  ki : hard.speedPidLimits.ki.Has profile.speedPidKi
  kd : hard.speedPidLimits.kd.Has profile.speedPidKd
  filter : hard.speedPidLimits.derivativeFilterTauMs.Has profile.speedPidDerivativeFilterTauMs
  maxDt : hard.speedPidLimits.maxDtMs.Has profile.speedPidMaxDtMs
  riseRate : hard.motorTorqueRiseRateLimitsNmPerS.Has profile.motorTorqueRiseRateNmPerS

section
variable {numberText : ℚ → String} {value : Json} {minimum maximum : ℚ} {name : String}
  {range : Range ℚ}

theorem normalizeRange_inside
    (h : normalizeRange numberText value minimum maximum name = .ok range) :
    range.Inside minimum maximum := by
  simp only [normalizeRange, ite_error_eq_ok_iff, bind_eq_ok_iff, requireFiniteRange_ok_iff,
    not_lt] at h
  obtain ⟨-, low, ⟨-, hlow, -⟩, high, ⟨-, -, hhigh⟩, hordered, h⟩ := h
  obtain rfl := Except.ok.inj h
  exact ⟨hlow, hordered, hhigh⟩

theorem riseRateLimits_inside (h : riseRateLimits numberText value = .ok range) :
    range.Inside 0 32000 := by
  simp only [riseRateLimits, ite_error_eq_ok_iff, bind_eq_ok_iff, requireFiniteRange_ok_iff,
    not_lt] at h
  obtain ⟨-, low, ⟨-, hlow, -⟩, high, ⟨-, -, hhigh⟩, hordered, h⟩ := h
  obtain rfl := Except.ok.inj h
  exact ⟨hlow, hordered, hhigh⟩

theorem explicitTargetSpeedKph_nonneg {computed target : ℚ} (hcomputed : 0 ≤ computed)
    (h : explicitTargetSpeedKph numberText value computed = .ok target) : 0 ≤ target := by
  unfold explicitTargetSpeedKph at h
  split at h
  · exact (requireFiniteRange_ok_iff.mp h).2.1
  · exact Except.ok.inj h ▸ hcomputed

theorem normalizeSpeedPidLimits_inside {limits : SpeedPidLimits}
    (h : normalizeSpeedPidLimits numberText value = .ok limits) :
    limits.kp.Inside 0 100 ∧ limits.ki.Inside 0 100 ∧ limits.kd.Inside 0 100 ∧
      limits.derivativeFilterTauMs.Inside 0 2000 ∧ limits.maxDtMs.Inside 20 200 ∧
      IsSafeInteger limits.maxDtMs.min ∧ IsSafeInteger limits.maxDtMs.max := by
  simp only [normalizeSpeedPidLimits, ite_error_eq_ok_iff, bind_eq_ok_iff, not_or, not_not] at h
  obtain ⟨-, maxDt, hmaxDt, hintegers, kp, hkp, ki, hki, kd, hkd, filter, hfilter, h⟩ := h
  obtain rfl := Except.ok.inj h
  exact ⟨normalizeRange_inside hkp, normalizeRange_inside hki, normalizeRange_inside hkd,
    normalizeRange_inside hfilter, normalizeRange_inside hmaxDt, hintegers⟩

theorem normalizeVehicleHardLimits_sound {hard : VehicleHardLimits}
    (h : normalizeVehicleHardLimits numberText value = .ok hard) : hard.Sound := by
  simp only [normalizeVehicleHardLimits, ite_error_eq_ok_iff, bind_eq_ok_iff,
    requireFiniteRange_ok_iff, not_le] at h
  obtain ⟨-, speed, ⟨-, hspeed⟩, throttle, ⟨-, hthrottle⟩, explicit, hexplicit, pid, hpid, safety, -,
    rise, hrise, torque, ⟨-, htorque⟩, brake, ⟨-, hbrake⟩, steering, ⟨-, hsteering⟩, kp, ⟨-, hkp⟩,
    ki, -, kd, -, filter, -, dt, -, defaultRise, -, feedback, -, margin, -, hpositive, -, -, -, h⟩
    := h
  obtain rfl := Except.ok.inj h
  obtain ⟨hkpRange, hkiRange, hkdRange, hfilterRange, hmaxDt, hintegers⟩ :=
    normalizeSpeedPidLimits_inside hpid
  have hcomputed : 0 ≤ speed * throttle := mul_nonneg hspeed.1 hthrottle.1
  have hexplicitNonneg := explicitTargetSpeedKph_nonneg hcomputed hexplicit
  exact
    { targetSpeed := ⟨le_min hspeed.1 (le_min hcomputed hexplicitNonneg),
        (min_le_left _ _).trans hspeed.2⟩
      fullScale := htorque
      brakePressure := hbrake
      steering := hsteering
      kp := hkpRange
      proportional := hpositive.trans_le hkp.2
      ki := hkiRange
      kd := hkdRange
      filter := hfilterRange
      maxDt := hmaxDt
      maxDtIntegers := hintegers
      riseRate := riseRateLimits_inside hrise }

/-! ## Clamping -/

theorem clamp_has (hrange : range.min ≤ range.max) (value : ℚ) :
    range.Has (clamp value range.min range.max) :=
  ⟨le_min hrange (le_max_left _ _), min_le_left _ _⟩

theorem clamp_eq_self_iff (hrange : range.min ≤ range.max) (value : ℚ) :
    clamp value range.min range.max = value ↔ range.Has value := by
  constructor
  · intro h
    exact h ▸ clamp_has hrange value
  · rintro ⟨hmin, hmax⟩
    rw [clamp, max_eq_right hmin, min_eq_right hmax]

theorem Range.Inside.clamp {minimum maximum : ℚ} (h : range.Inside minimum maximum) (value : ℚ) :
    minimum ≤ clamp value range.min range.max ∧ clamp value range.min range.max ≤ maximum := by
  obtain ⟨hlow, hhigh⟩ := clamp_has h.2.1 value
  exact ⟨h.1.trans hlow, hhigh.trans h.2.2⟩

/-- An integer between integers. -/
theorem clamp_integer {low high : ℚ} (hlow : low.den = 1) (hhigh : high.den = 1) (value : ℤ) :
    (clamp value low high).den = 1 := by
  unfold Web.clamp
  rcases min_choice high (max low value) with hmin | hmin
  · rwa [hmin]
  · rw [hmin]
    rcases max_choice low (value : ℚ) with hmax | hmax
    · rwa [hmax]
    · rw [hmax]
      exact Rat.den_intCast value

end

/-! ## What is merged -/

/-- The profile that the page reads in a merged document. -/
def mergedProfile (requested : ControlProfile) (hard : VehicleHardLimits) : ControlProfile where
  parkingIdleTimeoutMs := requested.parkingIdleTimeoutMs
  targetSpeedKph := min requested.targetSpeedKph hard.maxTargetSpeedKph
  maxMotorTorqueNm := min requested.maxMotorTorqueNm hard.fullScaleMotorTorqueNm
  maxBrakePressureBar := min requested.maxBrakePressureBar hard.maxBrakePressureBar
  serviceBrakePressureBar := min requested.serviceBrakePressureBar
    (min requested.maxBrakePressureBar hard.maxBrakePressureBar)
  hardBrakePressureBar := min requested.hardBrakePressureBar
    (min requested.maxBrakePressureBar hard.maxBrakePressureBar)
  maxSteeringAngleDeg := min requested.maxSteeringAngleDeg hard.maxSteeringAngleDeg
  speedPidKp := clamp requested.speedPidKp hard.speedPidLimits.kp.min hard.speedPidLimits.kp.max
  speedPidKi := clamp requested.speedPidKi hard.speedPidLimits.ki.min hard.speedPidLimits.ki.max
  speedPidKd := clamp requested.speedPidKd hard.speedPidLimits.kd.min hard.speedPidLimits.kd.max
  speedPidDerivativeFilterTauMs := clamp requested.speedPidDerivativeFilterTauMs
    hard.speedPidLimits.derivativeFilterTauMs.min hard.speedPidLimits.derivativeFilterTauMs.max
  speedPidMaxDtMs := (clamp requested.speedPidMaxDtMs hard.speedPidLimits.maxDtMs.min
    hard.speedPidLimits.maxDtMs.max).num
  motorTorqueRiseRateNmPerS := clamp requested.motorTorqueRiseRateNmPerS
    hard.motorTorqueRiseRateLimitsNmPerS.min hard.motorTorqueRiseRateLimitsNmPerS.max

section
variable {requested profile : ControlProfile} {hard : VehicleHardLimits}

theorem mergedMaxDt (hhard : hard.Sound) (requested : ControlProfile) :
    ((mergedProfile requested hard).speedPidMaxDtMs : ℚ) =
      clamp requested.speedPidMaxDtMs hard.speedPidLimits.maxDtMs.min
        hard.speedPidLimits.maxDtMs.max :=
  Rat.coe_int_num_of_den_eq_one
    (clamp_integer hhard.maxDtIntegers.1.1 hhard.maxDtIntegers.2.1 _)

/-- Lowering the brake pressures by one bound keeps their order. -/
theorem mergedProfile_valid (h : requested.Valid) (hhard : hard.Sound) :
    (mergedProfile requested hard).Valid where
  parkingIdleTimeoutMs := h.parkingIdleTimeoutMs
  targetSpeedKph := ⟨le_min h.targetSpeedKph.1 hhard.targetSpeed.1,
    (min_le_left _ _).trans h.targetSpeedKph.2⟩
  maxMotorTorqueNm := ⟨le_min h.maxMotorTorqueNm.1 hhard.fullScale.1,
    (min_le_left _ _).trans h.maxMotorTorqueNm.2⟩
  maxBrakePressureBar := ⟨le_min h.maxBrakePressureBar.1 hhard.brakePressure.1,
    (min_le_left _ _).trans h.maxBrakePressureBar.2⟩
  serviceBrakePressureBar := ⟨le_min h.serviceBrakePressureBar.1
      (le_min h.maxBrakePressureBar.1 hhard.brakePressure.1),
    (min_le_left _ _).trans h.serviceBrakePressureBar.2⟩
  hardBrakePressureBar := ⟨le_min h.hardBrakePressureBar.1
      (le_min h.maxBrakePressureBar.1 hhard.brakePressure.1),
    (min_le_left _ _).trans h.hardBrakePressureBar.2⟩
  maxSteeringAngleDeg := ⟨le_min h.maxSteeringAngleDeg.1 hhard.steering.1,
    (min_le_left _ _).trans h.maxSteeringAngleDeg.2⟩
  speedPidKp := hhard.kp.clamp _
  speedPidKi := hhard.ki.clamp _
  speedPidKd := hhard.kd.clamp _
  speedPidDerivativeFilterTauMs := hhard.filter.clamp _
  speedPidMaxDtMs := by
    have hclamp := hhard.maxDt.clamp (requested.speedPidMaxDtMs : ℚ)
    rw [← mergedMaxDt hhard] at hclamp
    exact_mod_cast hclamp
  motorTorqueRiseRateNmPerS := hhard.riseRate.clamp _
  proportional := lt_min hhard.proportional (lt_max_of_lt_right h.proportional)
  ordered := ⟨min_le_min_right _ h.ordered.1, min_le_right _ _⟩

theorem mergedProfile_within (hhard : hard.Sound) (requested : ControlProfile) :
    (mergedProfile requested hard).Within hard where
  targetSpeed := min_le_right _ _
  motorTorque := min_le_right _ _
  maxBrake := min_le_right _ _
  serviceBrake := (min_le_right _ _).trans (min_le_right _ _)
  hardBrake := (min_le_right _ _).trans (min_le_right _ _)
  steering := min_le_right _ _
  kp := clamp_has hhard.kp.2.1 _
  ki := clamp_has hhard.ki.2.1 _
  kd := clamp_has hhard.kd.2.1 _
  filter := clamp_has hhard.filter.2.1 _
  maxDt := by
    rw [mergedMaxDt hhard]
    exact clamp_has hhard.maxDt.2.1 _
  riseRate := clamp_has hhard.riseRate.2.1 _

/-- Merging changes nothing exactly within the limits. -/
theorem mergedProfile_eq_self_iff (h : profile.Valid) (hhard : hard.Sound) :
    mergedProfile profile hard = profile ↔ profile.Within hard := by
  constructor
  · intro hsame
    exact hsame ▸ mergedProfile_within hhard profile
  · intro hwithin
    have hbrake : min profile.maxBrakePressureBar hard.maxBrakePressureBar =
        profile.maxBrakePressureBar := min_eq_left hwithin.maxBrake
    have hdt : (mergedProfile profile hard).speedPidMaxDtMs = profile.speedPidMaxDtMs := by
      have hclamp := mergedMaxDt hhard profile
      rw [(clamp_eq_self_iff hhard.maxDt.2.1 _).mpr hwithin.maxDt] at hclamp
      exact_mod_cast hclamp
    have hpressures := h.ordered
    unfold mergedProfile at hdt ⊢
    dsimp only at hdt
    rw [hdt, hbrake, min_eq_left hwithin.targetSpeed, min_eq_left hwithin.motorTorque,
      min_eq_left (hpressures.1.trans hpressures.2), min_eq_left hpressures.2,
      min_eq_left hwithin.steering,
      (clamp_eq_self_iff hhard.kp.2.1 _).mpr hwithin.kp,
      (clamp_eq_self_iff hhard.ki.2.1 _).mpr hwithin.ki,
      (clamp_eq_self_iff hhard.kd.2.1 _).mpr hwithin.kd,
      (clamp_eq_self_iff hhard.filter.2.1 _).mpr hwithin.filter,
      (clamp_eq_self_iff hhard.riseRate.2.1 _).mpr hwithin.riseRate]

theorem mergedDocument_exactly (requested : ControlProfile) (hard : VehicleHardLimits) :
    HasExactly controlProfileFields (mergedDocument requested hard) :=
  hasExactly_object rfl (by decide)

theorem normalizeControlProfile_merged (numberText : ℚ → String) (h : requested.Valid) (hhard : hard.Sound) :
    normalizeControlProfile numberText (mergedDocument requested hard) =
      .ok (mergedProfile requested hard) := by
  have hobject : IsObjectValue (mergedDocument requested hard) := trivial
  have hversion : number? (property (mergedDocument requested hard) "profile_version") =
      some (controlProfileVersion : ℚ) := rfl
  have hvalid := mergedProfile_valid h hhard
  simp only [normalizeControlProfile, ite_error_eq_ok_iff, bind_eq_ok_iff,
    requireFiniteRange_ok_iff, requireIntegerRange_ok_iff, Except.ok.injEq, not_le, not_or, not_lt]
  refine ⟨not_not.mpr hobject, not_not.mpr (mergedDocument_exactly requested hard),
    not_not.mpr hversion, _, ⟨rfl, ?_⟩, _, ⟨rfl, hvalid.targetSpeedKph⟩, _,
    ⟨rfl, hvalid.maxMotorTorqueNm⟩, _, ⟨rfl, hvalid.maxBrakePressureBar⟩, _,
    ⟨rfl, hvalid.serviceBrakePressureBar⟩, _, ⟨rfl, hvalid.hardBrakePressureBar⟩, _,
    ⟨rfl, hvalid.maxSteeringAngleDeg⟩, _, ⟨rfl, hvalid.speedPidKp⟩, _, ⟨rfl, hvalid.speedPidKi⟩, _,
    ⟨rfl, hvalid.speedPidKd⟩, _, ⟨rfl, hvalid.speedPidDerivativeFilterTauMs⟩,
    (mergedProfile requested hard).speedPidMaxDtMs, ⟨?_, ?_⟩, _,
    ⟨rfl, hvalid.motorTorqueRiseRateNmPerS⟩, hvalid.proportional, hvalid.ordered, rfl⟩
  · obtain ⟨hmin, hmax⟩ := h.parkingIdleTimeoutMs
    exact ⟨by exact_mod_cast hmin, by exact_mod_cast hmax, isSafe_of_le hmin (by omega)⟩
  · rw [mergedMaxDt hhard]
    rfl
  · obtain ⟨hmin, hmax⟩ := hvalid.speedPidMaxDtMs
    exact ⟨by exact_mod_cast hmin, by exact_mod_cast hmax, isSafe_of_le (by omega) (by omega)⟩

/-- The document shows no more than the profile. -/
theorem mergedDocument_congr {other : ControlProfile} (hhard : hard.Sound)
    (h : mergedProfile profile hard = mergedProfile other hard) :
    mergedDocument profile hard = mergedDocument other hard := by
  have hdt : clamp (profile.speedPidMaxDtMs : ℚ) hard.speedPidLimits.maxDtMs.min
      hard.speedPidLimits.maxDtMs.max = clamp (other.speedPidMaxDtMs : ℚ)
      hard.speedPidLimits.maxDtMs.min hard.speedPidLimits.maxDtMs.max := by
    rw [← mergedMaxDt hhard, ← mergedMaxDt hhard, h]
  unfold mergedProfile at h
  obtain ⟨h1, h2, h3, h4, h5, h6, h7, h8, h9, h10, h11, -, h12⟩ := ControlProfile.mk.inj h
  unfold mergedDocument
  dsimp only
  rw [hdt, h1, h2, h3, h5, h6, h4, h7, h8, h9, h10, h11, h12]

/-- A merged profile is merged to itself. -/
theorem mergedDocument_merged (h : requested.Valid) (hhard : hard.Sound) :
    mergedDocument (mergedProfile requested hard) hard = mergedDocument requested hard :=
  mergedDocument_congr hhard ((mergedProfile_eq_self_iff (mergedProfile_valid h hhard) hhard).mpr
    (mergedProfile_within hhard requested))

end

/-! ## What is sent -/

section
variable {numberText : ℚ → String} {value found : Json} {key : String} {profile : ControlProfile}

theorem getDouble_stringified {number : ℚ} (h : number? value = some number) :
    (stringified value).getDouble = .ok number := by
  cases value with
  | integer value => exact congrArg Except.ok (Option.some.inj h)
  | number value =>
    obtain rfl := Option.some.inj h
    show (stringifiedNumber value).getDouble = _
    unfold stringifiedNumber
    split
    · rename_i hden
      exact congrArg Except.ok (Rat.coe_int_num_of_den_eq_one hden)
    · rfl
  | _ => cases h

theorem stringified_integer {number : ℤ} (h : number? value = some (number : ℚ)) :
    stringified value = .integer number := by
  cases value with
  | integer value =>
    have hsame : (value : ℚ) = number := Option.some.inj h
    rw [stringified, Int.cast_injective hsame]
  | number value =>
    obtain rfl := Option.some.inj h
    rw [stringified, stringifiedNumber, if_pos (Rat.den_intCast number), Rat.num_intCast]
  | _ => cases h

theorem lookup_stringifiedMembers (members : List (String × Json)) (key : String) :
    (stringifiedMembers members).lookup key = (members.lookup key).map stringified := by
  induction members with
  | nil => rfl
  | cons member members ih =>
    rw [stringifiedMembers, List.lookup_cons, List.lookup_cons]
    cases key == member.1
    · exact ih
    · rfl

theorem find?_stringified (value : Json) (key : String) :
    (stringified value).find? key = (value.find? key).map stringified := by
  cases value with
  | object members => exact lookup_stringifiedMembers members key
  | number value =>
    show (stringifiedNumber value).find? key = none
    unfold stringifiedNumber
    split <;> rfl
  | _ => rfl

/-- A property that is a number is there. -/
theorem find?_of_number {number : ℚ} (h : number? (property value key) = some number) :
    ∃ found, value.find? key = some found ∧ number? found = some number := by
  unfold property at h
  cases hfound : value.find? key with
  | none =>
    rw [hfound] at h
    cases h
  | some found =>
    rw [hfound] at h
    exact ⟨found, rfl, h⟩

theorem field_double {number : ℚ} (h : number? (property value key) = some number) :
    (stringified value).field key Json.getDouble = .ok number := by
  obtain ⟨found, hfound, hnumber⟩ := find?_of_number h
  have hsent : (stringified value).find? key = some (stringified found) := by
    rw [find?_stringified, hfound]
    rfl
  rw [Json.field_of_find hsent, getDouble_stringified hnumber]

theorem find?_integer {number : ℤ} (h : number? (property value key) = some (number : ℚ)) :
    (stringified value).find? key = some (.integer number) := by
  obtain ⟨found, hfound, hnumber⟩ := find?_of_number h
  rw [find?_stringified, hfound, Option.map_some, stringified_integer hnumber]

theorem field_int {number : ℤ} (h : number? (property value key) = some (number : ℚ))
    (hmin : -2 ^ 31 ≤ number) (hmax : number < 2 ^ 31) :
    (stringified value).field key Json.getInt = .ok number := by
  rw [Json.field_of_find (find?_integer h), Json.getInt_integer hmin hmax]

theorem requireFiniteRange_pass {x minimum maximum : ℚ} (h : minimum ≤ x ∧ x ≤ maximum)
    (label : String) : Service.requireFiniteRange (some x) minimum maximum label = .ok x := by
  have hrange : ¬(x < minimum ∨ maximum < x) := not_or.mpr ⟨not_lt.mpr h.1, not_lt.mpr h.2⟩
  exact if_neg hrange

/-- The two sides have the same ranges. -/
theorem session_validate (h : profile.Valid) :
    ∃ checked, profile.session.validate = .ok checked := by
  have hspeed : 0 ≤ profile.targetSpeedKph ∧
      profile.targetSpeedKph ≤ Service.chassisControlMaxTargetSpeedKph :=
    ⟨h.targetSpeedKph.1, h.targetSpeedKph.2.trans (by
      norm_num [Service.chassisControlMaxTargetSpeedKph, Service.chassisControlMaxTargetSpeedMps])⟩
  have hversion : profile.session.profileVersion = Service.sessionControlProfileVersion := rfl
  simp only [SessionControlProfile.validate, bind_eq_ok_iff]
  exact ⟨_, (), Service.check_pass h.parkingIdleTimeoutMs _, (), Service.check_pass hversion _,
    _, requireFiniteRange_pass hspeed _, _, requireFiniteRange_pass h.maxMotorTorqueNm _,
    _, requireFiniteRange_pass h.maxBrakePressureBar _,
    _, requireFiniteRange_pass h.serviceBrakePressureBar _,
    _, requireFiniteRange_pass h.hardBrakePressureBar _, (), Service.check_pass h.ordered _,
    _, requireFiniteRange_pass h.maxSteeringAngleDeg _,
    _, requireFiniteRange_pass h.speedPidKp _, (), Service.check_pass h.proportional _,
    _, requireFiniteRange_pass h.speedPidKi _, _, requireFiniteRange_pass h.speedPidKd _,
    _, requireFiniteRange_pass h.speedPidDerivativeFilterTauMs _,
    (), Service.check_pass h.speedPidMaxDtMs _,
    _, requireFiniteRange_pass h.motorTorqueRiseRateNmPerS _, rfl⟩

/-- The properties of a value that the page has accepted. -/
theorem fields_stringified (h : normalizeControlProfile numberText value = .ok profile) :
    SessionControlProfile.fields (stringified value) = .ok profile.session ∧
      (stringified value).find? "parking_idle_timeout_ms" =
        some (.integer profile.parkingIdleTimeoutMs) := by
  have hvalid := normalizeControlProfile_valid h
  have hidle := hvalid.parkingIdleTimeoutMs
  have hmaxDt := hvalid.speedPidMaxDtMs
  simp only [normalizeControlProfile, ite_error_eq_ok_iff, bind_eq_ok_iff,
    requireFiniteRange_ok_iff, requireIntegerRange_ok_iff, not_not] at h
  obtain ⟨-, -, hversion, parking, ⟨hparking, -⟩, speed, ⟨hspeed, -⟩, torque, ⟨htorque, -⟩, brake,
    ⟨hbrake, -⟩, service, ⟨hservice, -⟩, hard, ⟨hhard, -⟩, steering, ⟨hsteering, -⟩, kp, ⟨hkp, -⟩,
    ki, ⟨hki, -⟩, kd, ⟨hkd, -⟩, tau, ⟨htau, -⟩, dt, ⟨hdt, -⟩, rise, ⟨hrise, -⟩, -, -, h⟩ := h
  obtain rfl := Except.ok.inj h
  dsimp only at hidle hmaxDt
  refine ⟨?_, find?_integer hparking⟩
  unfold SessionControlProfile.fields
  rw [field_int hparking (by omega) (by omega), field_int hversion (by decide) (by decide),
    field_double hspeed, field_double htorque, field_double hbrake, field_double hservice,
    field_double hhard, field_double hsteering, field_double hkp, field_double hki,
    field_double hkd, field_double htau, field_int hdt (by omega) (by omega), field_double hrise]
  rfl

theorem isObject_stringified (h : normalizeControlProfile numberText value = .ok profile) :
    (stringified value).isObject = true := by
  simp only [normalizeControlProfile, ite_error_eq_ok_iff, not_not] at h
  obtain ⟨-, hexact, -⟩ := h
  cases value with
  | object members => rfl
  | _ => exact hexact.elim

/-- What the page accepts is accepted on the other side, with the same values. -/
theorem profile_fromJson_stringified (h : normalizeControlProfile numberText value = .ok profile) :
    SessionControlProfile.fromJson (stringified value) = .ok profile.session := by
  have hvalid := normalizeControlProfile_valid h
  obtain ⟨hfields, hparking⟩ := fields_stringified h
  obtain ⟨checked, hchecked⟩ := session_validate hvalid
  have htimeout : Service.ParkingTimeout (.integer profile.parkingIdleTimeoutMs) :=
    hvalid.parkingIdleTimeoutMs
  unfold SessionControlProfile.fromJson
  rw [Service.bind_of_ok (Service.check_pass (isObject_stringified h) _),
    Service.bind_of_ok (Service.underHeading_pass _ (Json.member_of_find hparking)),
    Service.bind_of_ok (Service.check_pass htimeout _),
    Service.bind_of_ok (Service.underHeading_pass _ hfields), Service.bind_of_ok hchecked]

end

/-- A profile that the page accepts is accepted when it is sent; merged with the limits it is a
profile within them, the same exactly if it was within them, and merging it again does nothing. -/
theorem profile_merge_law {numberText : ℚ → String} {requestedValue : Json}
    {requested : ControlProfile}
    (h : normalizeControlProfile numberText requestedValue = .ok requested) :
    SessionControlProfile.fromJson (stringified requestedValue) = .ok requested.session ∧
      ∀ hardLimitValue hard, normalizeVehicleHardLimits numberText hardLimitValue = .ok hard →
        ∃ merged profile,
          mergeControlProfileWithHardLimits numberText requestedValue hardLimitValue =
            .ok merged ∧
          normalizeControlProfile numberText merged = .ok profile ∧
          profile.Within hard ∧
          mergeControlProfileWithHardLimits numberText merged hardLimitValue = .ok merged ∧
          (profile = requested ↔ requested.Within hard) := by
  refine ⟨profile_fromJson_stringified h, fun hardLimitValue hard hlimits => ?_⟩
  have hvalid := normalizeControlProfile_valid h
  have hhard := normalizeVehicleHardLimits_sound hlimits
  have hmerged := normalizeControlProfile_merged numberText hvalid hhard
  have hread : ∀ value profile, normalizeControlProfile numberText value = .ok profile →
      mergeControlProfileWithHardLimits numberText value hardLimitValue =
        .ok (mergedDocument profile hard) := by
    intro value profile hprofile
    unfold mergeControlProfileWithHardLimits
    rw [hprofile, hlimits]
    rfl
  refine ⟨mergedDocument requested hard, mergedProfile requested hard, hread _ _ h, hmerged,
    mergedProfile_within hhard requested, ?_, mergedProfile_eq_self_iff hvalid hhard⟩
  rw [hread _ _ hmerged, mergedDocument_merged hvalid hhard]

/-! ## A bench -/

/-- Twice the speed that the vehicle of the bench allows. -/
def benchRequest : ControlProfile where
  parkingIdleTimeoutMs := 500
  targetSpeedKph := 20
  maxMotorTorqueNm := 320
  maxBrakePressureBar := 100
  serviceBrakePressureBar := 50
  hardBrakePressureBar := 100
  maxSteeringAngleDeg := 30
  speedPidKp := 1
  speedPidKi := 2 / 10
  speedPidKd := 0
  speedPidDerivativeFilterTauMs := 100
  speedPidMaxDtMs := 100
  motorTorqueRiseRateNmPerS := 32000

theorem benchRequest_read : normalizeControlProfile (fun _ => "") benchRequest.document =
    .ok benchRequest := by decide +kernel

theorem benchLimits_read :
    normalizeVehicleHardLimits (fun _ => "")
        (Configuration.vehicleControlLimits (benchConfiguration "bench")) =
      .ok (reportedLimits (benchConfiguration "bench")) :=
  normalizeVehicleHardLimits_reported (Configuration.loadVehicleConfig_valid benchFile_loads.1)
    (by decide)

theorem profile_merge_law_bench :
    SessionControlProfile.fromJson (stringified benchRequest.document) = .ok benchRequest.session ∧
      ∃ merged profile,
        mergeControlProfileWithHardLimits (fun _ => "") benchRequest.document
            (Configuration.vehicleControlLimits (benchConfiguration "bench")) = .ok merged ∧
          normalizeControlProfile (fun _ => "") merged = .ok profile ∧
          profile.Within (reportedLimits (benchConfiguration "bench")) ∧
          mergeControlProfileWithHardLimits (fun _ => "") merged
            (Configuration.vehicleControlLimits (benchConfiguration "bench")) = .ok merged ∧
          (profile = benchRequest ↔
            benchRequest.Within (reportedLimits (benchConfiguration "bench"))) :=
  ⟨(profile_merge_law benchRequest_read).1,
    (profile_merge_law benchRequest_read).2 _ _ benchLimits_read⟩

example : mergedProfile benchRequest (reportedLimits (benchConfiguration "bench")) =
    { benchRequest with targetSpeedKph := 10 } := by decide +kernel

end MineTeleop.Web
