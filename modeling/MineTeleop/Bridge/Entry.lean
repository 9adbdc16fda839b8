import MineTeleop.Bridge.Runtime

/-!
# The entry points of the chassis bridge

Every C entry point that acts on the bridge, as a function of the bridge and the clock.  The
ChassisControl library is outside the repository: what it answers is an argument
(`ChassisOutcome`).
-/

namespace MineTeleop.Bridge

open Vcu (Command)

/-! ## ChassisControl -/

/-- The outputs the bridge checks of one wheel. -/
structure WheelControl where
  wheelTorque : Double
  wheelSpeed : Double
  epsAngReq : Double
  epsAngSpdReq : Double
  ehbBrkPresReq : Double

/-- What a call of `UpdateVehicleState` and `GetControlInfo` comes to. -/
inductive ChassisOutcome where
  | rejected
  | raised
  | controls (wheels : List WheelControl)

/-- The outputs that reach a command, once all five are finite. -/
structure WheelOutput where
  epsAngReq : ℚ := 0
  epsAngSpdReq : ℚ := 0
  ehbBrkPresReq : ℚ := 0

def WheelControl.finite? (control : WheelControl) : Option WheelOutput := do
  let _ ← control.wheelTorque
  let _ ← control.wheelSpeed
  let epsAngReq ← control.epsAngReq
  let epsAngSpdReq ← control.epsAngSpdReq
  let ehbBrkPresReq ← control.ehbBrkPresReq
  some ⟨epsAngReq, epsAngSpdReq, ehbBrkPresReq⟩

def allSome {α : Type} : List (Option α) → Option (List α)
  | [] => some []
  | none :: _ => none
  | some x :: rest => (allSome rest).map (x :: ·)

def clampValue (value minimum maximum : ℚ) : ℚ := max minimum (min maximum value)

/-- `command_from_chassis_control`; `none` where it throws. -/
def commandFromChassisControl (gear : ℤ) (controls : List WheelControl) : Option Command :=
  if controls.length < Vcu.motorCount then none
  else
    (allSome ((controls.take Vcu.motorCount).map WheelControl.finite?)).map fun outputs =>
      { gear := gear
        vehicleSpeedRequestKph := 0
        vehicleSpeedRequestValid := false
        motorTorqueNm := fun _ => 0
        motorSpeedRpm := fun _ => 0
        brakePressureBar := fun index =>
          quantizeBrakePressureBar (outputs.getD index.val {}).ehbBrkPresReq
        steeringAngleDeg := fun axis =>
          clampValue (outputs.getD (axis.val * 2) {}).epsAngReq (-30) 30
        steeringSpeedDegps := fun axis =>
          clampValue ((outputs.getD (axis.val * 2) {}).epsAngSpdReq * radiansToDegrees) 0 255 }

/-! ## Opening -/

/-- What opening depends on outside the configuration. -/
structure OpenEnvironment where
  interfaceNamed : Bool
  alreadyOpen : Bool
  initializes : Bool
  emergencySeed : ChassisOutcome
  initialSeed : ChassisOutcome
  logOpens : Bool
  socketOpens : Bool

/-- The command a seed state gives, or the result code of `open`. -/
def seedCommand (outcome : ChassisOutcome) : Except ℤ Command :=
  match outcome with
  | .rejected => .error (-2)
  | .raised => .error (-5)
  | .controls wheels =>
    match commandFromChassisControl 1 wheels with
    | some command => .ok command
    | none => .error (-5)

/-- `open_bridge`, with `BridgeRuntime::start`. -/
def openBridge (env : OpenEnvironment) (fullScaleMotorTorqueNm : ℚ) (controlTimeoutMs : ℤ)
    (speedControl : SpeedControlSettings) (physicalBrakeInput : Bool)
    (maxOrdinaryBrakeBar : ℚ) : Except ℤ BridgeRuntime :=
  if env.interfaceNamed = false ∨ env.alreadyOpen = true then .error (-1)
  else if env.initializes = false then .error (-2)
  else do
    let seed ← seedCommand env.emergencySeed
    let emergency : Command :=
      { seed with
        motorTorqueNm := fun _ => 0
        brakePressureBar := fun _ => maxEmergencyBrakePressureBar }
    let initial ← seedCommand env.initialSeed
    let seeded := Vcu.setCommand Vcu.reset initial
    let armed := Vcu.setEmergencyCommand seeded.2 emergency
    if seeded.1 = false ∨ armed.1 = false then .error (-2)
    else if env.logOpens = false then .error (-4)
    else if env.socketOpens = false then .error (-3)
    else
      .ok
        { fullScaleMotorTorqueNm := fullScaleMotorTorqueNm
          controlTimeoutMs := controlTimeoutMs
          openSpeedControl := speedControl
          speedControl := speedControl
          physicalBrakeInput := physicalBrakeInput
          maxOrdinaryBrakeBar := maxOrdinaryBrakeBar
          controller := armed.2 }

/-- The fields that `MineTeleopChassisOpenConfigV2` to `V4` share, and those V3 and V4 add. -/
structure OpenConfig where
  structSizeMatches : Bool := true
  fullScaleMotorTorqueNm : Double
  hardSpeedLimitMps : Double
  controlTimeoutMs : ℤ
  speedFeedbackTimeoutMs : ℤ
  speedPidKp : Double
  speedPidKi : Double
  speedPidKd : Double
  speedPidDerivativeFilterTauMs : Double
  speedPidMaxDtMs : ℤ
  hardOverspeedMarginMps : Double
  maxOrdinaryBrakePressureBar : Double := some 0
  motorTorqueRiseRateNmPerS : Double := some 0

/-- A finite value in a range. -/
def Double.InRange (d : Double) (minimum maximum : ℚ) : Prop := ∃ x ∈ d, minimum ≤ x ∧ x ≤ maximum

instance (d : Double) (minimum maximum : ℚ) : Decidable (d.InRange minimum maximum) :=
  match d with
  | none => .isFalse (by simp [Double.InRange])
  | some x => decidable_of_iff (minimum ≤ x ∧ x ≤ maximum) (by simp [Double.InRange])

def Double.value (d : Double) : ℚ := d.getD 0

/-- The PID gains, when they are finite. -/
def speedPid? (kp ki kd derivativeFilterTauMs : Double) (maxDtMs : ℤ) : Option SpeedPidConfig := do
  some ⟨← kp, ← ki, ← kd, ← derivativeFilterTauMs, maxDtMs⟩

def OpenConfig.pid? (config : OpenConfig) : Option SpeedPidConfig :=
  speedPid? config.speedPidKp config.speedPidKi config.speedPidKd
    config.speedPidDerivativeFilterTauMs config.speedPidMaxDtMs

/-- The checks that `open_v2` and `open_configured_bridge` share. -/
def OpenConfig.Valid (config : OpenConfig) : Prop :=
  config.structSizeMatches = true ∧
  config.fullScaleMotorTorqueNm.InRange 0 maxFullScaleMotorTorqueNm ∧
  config.hardSpeedLimitMps.InRange 0 20 ∧
  ControlTimeoutValid config.controlTimeoutMs ∧
  20 ≤ config.speedFeedbackTimeoutMs ∧ config.speedFeedbackTimeoutMs ≤ 500 ∧
  config.speedFeedbackTimeoutMs ≤ config.controlTimeoutMs ∧
  (∃ pid ∈ config.pid?, SpeedPidConfigValid pid) ∧
  config.hardOverspeedMarginMps.InRange 0 10 ∧ config.hardOverspeedMarginMps ≠ some 0

/-- The checks `open_configured_bridge` adds for V3 and V4. -/
def OpenConfig.ExtensionValid (config : OpenConfig) (riseRate : Double) : Prop :=
  config.maxOrdinaryBrakePressureBar.InRange 0 Bridge.maxOrdinaryBrakePressureBar ∧
  riseRate.InRange 0 maxMotorTorqueRiseRate

instance (config : OpenConfig) : Decidable config.Valid :=
  inferInstanceAs (Decidable (_ ∧ _))

instance (config : OpenConfig) (riseRate : Double) : Decidable (config.ExtensionValid riseRate) :=
  inferInstanceAs (Decidable (_ ∧ _))

def OpenConfig.speedControl (config : OpenConfig) (riseRate : ℚ) : SpeedControlSettings :=
  { enabled := true
    hardSpeedLimitMps := config.hardSpeedLimitMps.value
    speedFeedbackTimeoutMs := config.speedFeedbackTimeoutMs
    pid := config.pid?.getD ⟨1, 0, 0, 0, 100⟩
    hardOverspeedMarginMps := config.hardOverspeedMarginMps.value
    motorTorqueRiseRateNmPerS := riseRate }

/-- The legacy entry points have no speed controller and keep traction disabled. -/
def openLegacy (env : OpenEnvironment) : Except ℤ BridgeRuntime :=
  openBridge env 300 800 {} false 0

def openV1 (env : OpenEnvironment) (structSizeMatches : Bool) (fullScaleMotorTorqueNm : Double) :
    Except ℤ BridgeRuntime :=
  if structSizeMatches = false ∨
      ¬fullScaleMotorTorqueNm.InRange 0 maxFullScaleMotorTorqueNm then .error (-1)
  else openBridge env fullScaleMotorTorqueNm.value 800 {} false 0

def openV2 (env : OpenEnvironment) (config : OpenConfig) : Except ℤ BridgeRuntime :=
  if ¬config.Valid then .error (-1)
  else
    openBridge env config.fullScaleMotorTorqueNm.value config.controlTimeoutMs
      (config.speedControl 0) false 0

def openConfigured (env : OpenEnvironment) (config : OpenConfig) (riseRate : Double) :
    Except ℤ BridgeRuntime :=
  if ¬(config.Valid ∧ config.ExtensionValid riseRate) then .error (-1)
  else
    openBridge env config.fullScaleMotorTorqueNm.value config.controlTimeoutMs
      (config.speedControl riseRate.value) true config.maxOrdinaryBrakePressureBar.value

def openV3 (env : OpenEnvironment) (config : OpenConfig) : Except ℤ BridgeRuntime :=
  openConfigured env config (some 0)

def openV4 (env : OpenEnvironment) (config : OpenConfig) : Except ℤ BridgeRuntime :=
  openConfigured env config config.motorTorqueRiseRateNmPerS

/-- A bridge that some entry point has opened. -/
def Opened (b : BridgeRuntime) : Prop :=
  ∃ env, openLegacy env = .ok b ∨ (∃ size torque, openV1 env size torque = .ok b) ∨
    ∃ config, openV2 env config = .ok b ∨ openV3 env config = .ok b ∨ openV4 env config = .ok b

end MineTeleop.Bridge
