import MineTeleop.Vcu.Tick

/-!
# What the command batch carries

One closed form for each field of `commandBatch` that a law speaks about.  Later modules use
these and never unfold the blocks.
-/

namespace MineTeleop.Vcu

open CommandBatch

/-- Some motor is given a nonzero torque. -/
def CarriesTorque (b : CommandBatch) : Prop := ∃ i, b.motorTorque i ≠ 0

instance (b : CommandBatch) : Decidable (CarriesTorque b) := inferInstanceAs (Decidable (∃ _, _))

/-- The batch asks for parallel control, enables a motor or selects a by-wire mode. -/
def HoldsAuthority (b : CommandBatch) : Prop :=
  b.handshakeRequest = intelligentHandshakeRequest ∨
  (∃ i, b.motorCommand i = motorEnable) ∨
  b.steeringMode = byWireMode ∨
  (∃ i, b.steeringAxisMode i = byWireMode) ∨
  (∃ i, b.brakeMode i = byWireMode)

instance (b : CommandBatch) : Decidable (HoldsAuthority b) := inferInstanceAs (Decidable (_ ∨ _))

theorem commandBatch_motorTorque (c : Controller) :
    (commandBatch c).motorTorque =
      if SafetyBrake c then fun _ => 0
      else if ParkingWithholds c then fun _ => 0
      else if c.state = .ready then c.desired.motorTorqueNm
      else fun _ => 0 := rfl

theorem commandBatch_handshakeRequest (c : Controller) :
    (commandBatch c).handshakeRequest =
      if c.state ∉ [.standby, .initial, .disarmed, .disarmManual] ∧ c.handshakeRevoked = false
      then intelligentHandshakeRequest else noRequest := by
  change (if c.state = .disarmManual then _ else if _ then _ else _) = _
  cases h : c.state <;> simp

theorem commandBatch_gear (c : Controller) :
    (commandBatch c).gear =
      if c.state = .disarmNeutral ∨ c.state ∈ [.disarmParkingBrake, .disarmManual] then
        neutralGear
      else if c.state ∈ [.waitGear, .waitActuatorModes, .ready, .disarmTorque, .disarmStop] then
        c.desired.gear
      else noRequest := rfl

theorem commandBatch_parkingBrake (c : Controller) :
    (commandBatch c).parkingBrake =
      if c.state ∈ [.disarmParkingBrake, .disarmManual] then fun _ => parkingBrakePark
      else if AutomaticParkingActive c then fun _ =>
        if ParkWanted c then (if ParkSafe c then parkingBrakePark else parkingBrakeHold)
        else parkingBrakeRelease
      else if c.state ∈ [.waitParkingBrakeReleased, .waitGear, .waitActuatorModes, .ready,
          .disarmTorque, .disarmStop, .disarmNeutral] ∧ c.handshakeRevoked = false then
        fun _ => parkingBrakeRelease
      else fun _ => parkingBrakeHold := rfl

theorem commandBatch_brakePressure (c : Controller) :
    (commandBatch c).brakePressure =
      if c.state = .disarmNeutral ∨ SafetyBrake c then c.emergency.brakePressureBar
      else if ParkingWithholds c then fun _ => c.parkingBrakeBar
      else if c.state ∈ [.waitGear, .waitActuatorModes, .ready] then c.desired.brakePressureBar
      else fun _ => 0 := by
  have h : (commandBatch c).brakePressure =
      if c.state = .disarmNeutral then c.emergency.brakePressureBar
      else if SafetyBrake c then c.emergency.brakePressureBar
      else if ParkingWithholds c then fun _ => c.parkingBrakeBar
      else if c.state ∈ [.waitGear, .waitActuatorModes, .ready] then c.desired.brakePressureBar
      else fun _ => 0 := rfl
  rw [h]
  by_cases hn : c.state = .disarmNeutral <;> simp only [hn, true_or, false_or, if_true, if_false]

theorem commandBatch_motorCommand (c : Controller) :
    (commandBatch c).motorCommand =
      if c.state = .disarmNeutral then fun _ => motorEnable
      else if SafetyBrakeHoldsModes c then fun _ => motorEnable
      else if c.state ∈ [.waitActuatorModes, .ready, .disarmTorque, .disarmStop] then
        fun _ => motorEnable
      else fun _ => 0 := rfl

theorem commandBatch_steeringMode (c : Controller) :
    (commandBatch c).steeringMode =
      if c.state ∈ [.waitParkingBrakeReleased, .waitGear, .waitActuatorModes, .ready,
          .disarmTorque, .disarmStop, .disarmNeutral] then byWireMode
      else noRequest := rfl

theorem commandBatch_steeringAxisMode (c : Controller) :
    (commandBatch c).steeringAxisMode =
      if c.state = .disarmNeutral then fun _ => byWireMode
      else if SafetyBrakeHoldsModes c then fun _ => byWireMode
      else if c.state ∈ [.waitGear, .waitActuatorModes, .ready, .disarmTorque, .disarmStop] then
        fun _ => byWireMode
      else fun _ => 0 := rfl

theorem commandBatch_brakeMode (c : Controller) :
    (commandBatch c).brakeMode =
      if c.state = .disarmNeutral then fun _ => byWireMode
      else if SafetyBrakeHoldsModes c then fun _ => byWireMode
      else if c.state ∈ [.waitGear, .waitActuatorModes, .ready, .disarmTorque, .disarmStop] then
        fun _ => byWireMode
      else fun _ => 0 := rfl

theorem commandBatch_motorMode (c : Controller) :
    (commandBatch c).motorMode =
      if c.state = .disarmNeutral then fun _ => motorTorqueMode
      else if SafetyBrakeHoldsModes c then fun _ => motorTorqueMode
      else if c.state ∈ [.waitActuatorModes, .ready, .disarmTorque, .disarmStop] then
        fun _ => motorTorqueMode
      else fun _ => 0 := rfl

theorem commandBatch_motorSpeed (c : Controller) :
    (commandBatch c).motorSpeed =
      if SafetyBrake c then fun _ => 0
      else if ParkingWithholds c then fun _ => 0
      else if c.state = .ready then c.desired.motorSpeedRpm
      else fun _ => 0 := rfl

theorem commandBatch_steeringAngle (c : Controller) :
    (commandBatch c).steeringAngle =
      if SafetyBrakeHoldsModes c then c.desired.steeringAngleDeg
      else if ParkingWithholds c then fun _ => 0
      else if c.state ∈ [.waitGear, .waitActuatorModes, .ready] then c.desired.steeringAngleDeg
      else fun _ => 0 := rfl

theorem commandBatch_steeringSpeed (c : Controller) :
    (commandBatch c).steeringSpeed =
      if SafetyBrakeHoldsModes c then c.desired.steeringSpeedDegps
      else if c.state ∈ [.waitGear, .waitActuatorModes, .ready] then c.desired.steeringSpeedDegps
      else fun _ => 0 := rfl

/-- Torque passes every block: Ready, no parking in the way, no safety brake. -/
theorem commandBatch_carriesTorque (c : Controller) :
    CarriesTorque (commandBatch c) ↔
      c.state = .ready ∧ ¬ParkingWithholds c ∧ ¬SafetyBrake c ∧
        ∃ i, c.desired.motorTorqueNm i ≠ 0 := by
  unfold CarriesTorque
  rw [commandBatch_motorTorque]
  split_ifs with hs hp hr <;> simp [*]

theorem safetyBrake_of_emergencyStop {c : Controller} (h : c.emergencyStop = true) :
    SafetyBrake c :=
  Or.inl h

theorem commandBatch_holdsAuthority (c : Controller) (h : HoldsAuthority (commandBatch c)) :
    c.state ∉ [.standby, .initial, .disarmed] := by
  intro hrest
  have hs : c.state = .standby ∨ c.state = .initial ∨ c.state = .disarmed := by simpa using hrest
  have hsafety : ¬SafetyBrakeHoldsModes c := by
    rintro ⟨-, hm⟩
    rcases hs with hs | hs | hs <;> simp [hs] at hm
  unfold HoldsAuthority at h
  rw [commandBatch_handshakeRequest, commandBatch_motorCommand, commandBatch_steeringMode,
    commandBatch_steeringAxisMode, commandBatch_brakeMode] at h
  rcases hs with hs | hs | hs <;>
    simp [hs, hsafety, noRequest, intelligentHandshakeRequest, motorEnable, byWireMode] at h

end MineTeleop.Vcu
