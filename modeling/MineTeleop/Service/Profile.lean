import MineTeleop.Service.Safety

/-!
# Session control profiles

The limits a session drives under, the request that carries them and its result.  The doubles of
a request may be NaN or infinite; an admitted profile is a profile over the rationals.
-/

namespace MineTeleop.Service

open Bridge (Double)

def sessionControlProfileVersion : ℤ := 4
def sessionControlProfileMaxAgeMs : ℤ := 2000
def chassisControlMaxTargetSpeedMps : ℚ := 20
def chassisControlMaxTargetSpeedKph : ℚ := chassisControlMaxTargetSpeedMps * (36 / 10)
def chassisControlMaxSteeringAngleDeg : ℚ := 30

/-- A profile over the numbers `R`: `Double` in a request, `ℚ` once it is admitted. -/
structure SessionControlProfile (R : Type) where
  profileVersion : ℤ := sessionControlProfileVersion
  targetSpeedKph : R
  maxMotorTorqueNm : R
  maxBrakePressureBar : R
  serviceBrakePressureBar : R
  hardBrakePressureBar : R
  maxSteeringAngleDeg : R
  speedPidKp : R
  speedPidKi : R
  speedPidKd : R
  speedPidDerivativeFilterTauMs : R
  speedPidMaxDtMs : ℤ := 100
  motorTorqueRiseRateNmPerS : R
  parkingIdleTimeoutMs : ℤ := 500
  deriving DecidableEq

def SessionControlProfile.validate (p : SessionControlProfile Double) :
    Except String (SessionControlProfile ℚ) := do
  check (0 ≤ p.parkingIdleTimeoutMs ∧ p.parkingIdleTimeoutMs ≤ 1000)
    "parking_idle_timeout_ms must be in [0, 1000]"
  check (p.profileVersion = sessionControlProfileVersion)
    "session control profile version must be 4"
  let targetSpeedKph ← requireFiniteRange p.targetSpeedKph 0 chassisControlMaxTargetSpeedKph
    "target_speed_kph"
  let maxMotorTorqueNm ← requireFiniteRange p.maxMotorTorqueNm 0
    Bridge.maxFullScaleMotorTorqueNm "max_motor_torque_nm"
  let maxBrakePressureBar ← requireFiniteRange p.maxBrakePressureBar 0
    Bridge.maxOrdinaryBrakePressureBar "max_brake_pressure_bar"
  let serviceBrakePressureBar ← requireFiniteRange p.serviceBrakePressureBar 0
    Bridge.maxOrdinaryBrakePressureBar "service_brake_pressure_bar"
  let hardBrakePressureBar ← requireFiniteRange p.hardBrakePressureBar 0
    Bridge.maxOrdinaryBrakePressureBar "hard_brake_pressure_bar"
  check (serviceBrakePressureBar ≤ hardBrakePressureBar ∧
    hardBrakePressureBar ≤ maxBrakePressureBar)
    "brake pressure must satisfy service <= hard <= max"
  let maxSteeringAngleDeg ← requireFiniteRange p.maxSteeringAngleDeg 0
    chassisControlMaxSteeringAngleDeg "max_steering_angle_deg"
  let speedPidKp ← requireFiniteRange p.speedPidKp 0 100 "speed_pid_kp"
  check (0 < speedPidKp) "speed_pid_kp must be positive"
  let speedPidKi ← requireFiniteRange p.speedPidKi 0 100 "speed_pid_ki"
  let speedPidKd ← requireFiniteRange p.speedPidKd 0 100 "speed_pid_kd"
  let speedPidDerivativeFilterTauMs ← requireFiniteRange p.speedPidDerivativeFilterTauMs 0 2000
    "speed_pid_derivative_filter_tau_ms"
  check (20 ≤ p.speedPidMaxDtMs ∧ p.speedPidMaxDtMs ≤ 200)
    "speed_pid_max_dt_ms must be in [20, 200]"
  let motorTorqueRiseRateNmPerS ← requireFiniteRange p.motorTorqueRiseRateNmPerS 0
    Bridge.maxMotorTorqueRiseRate "motor_torque_rise_rate_nm_per_s"
  .ok
    { profileVersion := p.profileVersion
      targetSpeedKph, maxMotorTorqueNm, maxBrakePressureBar, serviceBrakePressureBar
      hardBrakePressureBar, maxSteeringAngleDeg, speedPidKp, speedPidKi, speedPidKd
      speedPidDerivativeFilterTauMs
      speedPidMaxDtMs := p.speedPidMaxDtMs
      motorTorqueRiseRateNmPerS
      parkingIdleTimeoutMs := p.parkingIdleTimeoutMs }

structure SessionControlProfileRequest extends ProtocolMetadata where
  controlToken : String := ""
  profile : SessionControlProfile Double
  deriving DecidableEq

structure SessionControlProfileResult where
  vehicleId : String
  driverId : String
  sessionId : String
  seq : ℕ
  sentAtUtcMs : ℤ
  accepted : Bool
  idempotent : Bool
  appliedRevision : ℕ
  reason : String
  effectiveProfile : Option (SessionControlProfile ℚ)
  deriving DecidableEq

/-- The requests that differ at most in when they were sent. -/
def SessionControlProfileRequest.Identical (request previous : SessionControlProfileRequest) :
    Prop :=
  { request with sentAtUtcMs := previous.sentAtUtcMs } = previous

instance (request previous : SessionControlProfileRequest) :
    Decidable (request.Identical previous) :=
  inferInstanceAs (Decidable (_ = _))

/-! ## What an admitted profile has passed -/

structure SessionControlProfile.Admitted (p : SessionControlProfile ℚ) : Prop where
  targetSpeed : 0 ≤ p.targetSpeedKph ∧ p.targetSpeedKph ≤ chassisControlMaxTargetSpeedKph
  motorTorque : 0 ≤ p.maxMotorTorqueNm ∧ p.maxMotorTorqueNm ≤ Bridge.maxFullScaleMotorTorqueNm
  brakePressure : 0 ≤ p.maxBrakePressureBar ∧
    p.maxBrakePressureBar ≤ Bridge.maxOrdinaryBrakePressureBar
  steering : 0 ≤ p.maxSteeringAngleDeg ∧
    p.maxSteeringAngleDeg ≤ chassisControlMaxSteeringAngleDeg
  version : p.profileVersion = sessionControlProfileVersion
  parkingIdle : 0 ≤ p.parkingIdleTimeoutMs ∧ p.parkingIdleTimeoutMs ≤ 1000
  kp : 0 < p.speedPidKp ∧ p.speedPidKp ≤ 100
  ki : 0 ≤ p.speedPidKi ∧ p.speedPidKi ≤ 100
  kd : 0 ≤ p.speedPidKd ∧ p.speedPidKd ≤ 100
  filter : 0 ≤ p.speedPidDerivativeFilterTauMs ∧ p.speedPidDerivativeFilterTauMs ≤ 2000
  maxDt : 20 ≤ p.speedPidMaxDtMs ∧ p.speedPidMaxDtMs ≤ 200
  riseRate : 0 ≤ p.motorTorqueRiseRateNmPerS ∧
    p.motorTorqueRiseRateNmPerS ≤ Bridge.maxMotorTorqueRiseRate

theorem SessionControlProfile.validate_admitted {p : SessionControlProfile Double}
    {q : SessionControlProfile ℚ} (h : p.validate = .ok q) : q.Admitted := by
  unfold SessionControlProfile.validate at h
  obtain ⟨_, hidle, h⟩ := bind_ok h
  obtain ⟨_, hversion, h⟩ := bind_ok h
  obtain ⟨speed, hspeed, h⟩ := bind_ok h
  obtain ⟨torque, htorque, h⟩ := bind_ok h
  obtain ⟨brake, hbrake, h⟩ := bind_ok h
  obtain ⟨service, -, h⟩ := bind_ok h
  obtain ⟨hard, -, h⟩ := bind_ok h
  obtain ⟨-, -, h⟩ := bind_ok h
  obtain ⟨steering, hsteering, h⟩ := bind_ok h
  obtain ⟨kp, hkp, h⟩ := bind_ok h
  obtain ⟨_, hpositive, h⟩ := bind_ok h
  obtain ⟨ki, hki, h⟩ := bind_ok h
  obtain ⟨kd, hkd, h⟩ := bind_ok h
  obtain ⟨tau, htau, h⟩ := bind_ok h
  obtain ⟨_, hmaxDt, h⟩ := bind_ok h
  obtain ⟨rise, hrise, h⟩ := bind_ok h
  obtain rfl := Except.ok.inj h
  exact
    { targetSpeed := (requireFiniteRange_ok hspeed).2
      motorTorque := (requireFiniteRange_ok htorque).2
      brakePressure := (requireFiniteRange_ok hbrake).2
      steering := (requireFiniteRange_ok hsteering).2
      version := check_ok hversion
      parkingIdle := check_ok hidle
      kp := ⟨check_ok hpositive, (requireFiniteRange_ok hkp).2.2⟩
      ki := (requireFiniteRange_ok hki).2
      kd := (requireFiniteRange_ok hkd).2
      filter := (requireFiniteRange_ok htau).2
      maxDt := check_ok hmaxDt
      riseRate := (requireFiniteRange_ok hrise).2 }

end MineTeleop.Service
