import MineTeleop.Stack.Adapter

/-!
# The vehicle

The control service and the dynamic library adapter that one configuration builds, as one
machine: an operation of the service with what the io thread does before each of its calls, or
the io thread alone.
-/

namespace MineTeleop.Stack

open Runs
open Bridge (Double)
open Service

/-! ## Configuration -/

structure ControlConfig where
  maxCommandGapMs : ℤ := 200
  degradedTimeoutMs : ℤ := 300
  controlTimeoutMs : ℤ := 800
  decelerationProfile : List (ℤ × Double)

structure FieldSafetyConfig where
  commissioningMode : String := "bench"
  maxSpeedKph : ℚ := 10
  maxThrottle : ℚ := 1
  fullScaleMotorTorqueNm : ℚ
  motorTorqueRiseRateNmPerS : ℚ
  speedFeedbackTimeoutMs : ℤ := 200
  speedPidKp : ℚ := 1
  speedPidKi : ℚ := 2 / 10
  speedPidKd : ℚ := 0
  speedPidDerivativeFilterTauMs : ℚ := 100
  speedPidMaxDtMs : ℤ := 100
  hardOverspeedMarginKph : ℚ := 36 / 10
  maxBrakePressureBar : ℚ
  maxSteeringAngleDeg : ℚ := 30
  requireCanFeedbackBeforeControl : Bool := true

/-- What loading a configuration checks of it; the adapter's constructor checks the rest again. -/
structure FieldSafetyConfig.Valid (c : FieldSafetyConfig) : Prop where
  maxSpeed : 0 ≤ c.maxSpeedKph ∧ c.maxSpeedKph ≤ chassisControlMaxTargetSpeedKph
  maxThrottle : 0 ≤ c.maxThrottle ∧ c.maxThrottle ≤ 1
  fullScale : 0 ≤ c.fullScaleMotorTorqueNm ∧
    c.fullScaleMotorTorqueNm ≤ Bridge.maxFullScaleMotorTorqueNm
  brakePressure : 0 ≤ c.maxBrakePressureBar ∧
    c.maxBrakePressureBar ≤ Bridge.maxOrdinaryBrakePressureBar
  steering : 0 ≤ c.maxSteeringAngleDeg ∧ c.maxSteeringAngleDeg ≤ 30

structure VehicleConfig where
  vehicleId : String
  control : ControlConfig
  fieldSafety : FieldSafetyConfig
  valid : fieldSafety.Valid
  canInterface : String := "can0"
  bridgeLibraryPath : String
  canBitrate : ℤ := 500000
  canTxQueueLength : ℤ := 100

/-- The arguments that `create_vehicle_adapter` passes on. -/
def VehicleConfig.adapterConfig (config : VehicleConfig) : AdapterConfig :=
  { libraryPath := config.bridgeLibraryPath
    canInterface := config.canInterface
    canBitrate := config.canBitrate
    canTxQueueLength := config.canTxQueueLength
    maxSpeedMps := config.fieldSafety.maxSpeedKph / (36 / 10)
    fullScaleMotorTorqueNm := config.fieldSafety.fullScaleMotorTorqueNm
    motorTorqueRiseRateNmPerS := config.fieldSafety.motorTorqueRiseRateNmPerS
    maxOrdinaryBrakePressureBar := config.fieldSafety.maxBrakePressureBar
    controlTimeoutMs := config.control.controlTimeoutMs
    speedFeedbackTimeoutMs := config.fieldSafety.speedFeedbackTimeoutMs
    speedPidKp := config.fieldSafety.speedPidKp
    speedPidKi := config.fieldSafety.speedPidKi
    speedPidKd := config.fieldSafety.speedPidKd
    speedPidDerivativeFilterTauMs := config.fieldSafety.speedPidDerivativeFilterTauMs
    speedPidMaxDtMs := config.fieldSafety.speedPidMaxDtMs
    hardOverspeedMarginMps := config.fieldSafety.hardOverspeedMarginKph / (36 / 10) }

instance (c : AdapterConfig) : Decidable c.Valid := decidable_of_iff _ (c.valid_iff).symm

def createVehicleAdapter (config : VehicleConfig) : Except Failure DynamicLibraryVehicleAdapter :=
  if valid : config.adapterConfig.Valid then .ok { config := config.adapterConfig, valid := valid }
  else .error (.invalidArgument "dynamic adapter configuration is incomplete")

/-- The constructor of `VehicleControlService`. -/
def createService (config : VehicleConfig) (driverId sessionId controlToken : String)
    (telemetryIntervalMs : ℤ) : Except Failure VehicleControlService := do
  let receiver ← ControlReceiver.create config.vehicleId driverId sessionId
    config.control.maxCommandGapMs protocolVersion true controlToken
  let safety ← SafetyStateMachine.create config.control.degradedTimeoutMs
    config.control.controlTimeoutMs config.control.decelerationProfile
  if telemetryIntervalMs ≤ 0 then
    .error (.invalidArgument "telemetry interval must be positive")
  else
    .ok
      { vehicleId := config.vehicleId
        driverId := driverId
        sessionId := sessionId
        controlToken := controlToken
        commissioningMode := config.fieldSafety.commissioningMode
        receiver := receiver
        safety := safety
        requireFeedbackBeforeControl := config.fieldSafety.requireCanFeedbackBeforeControl
        maxSpeedKph := config.fieldSafety.maxSpeedKph
        maxThrottle := config.fieldSafety.maxThrottle
        fullScaleMotorTorqueNm := config.fieldSafety.fullScaleMotorTorqueNm
        maxBrakePressureBar := config.fieldSafety.maxBrakePressureBar
        maxSteeringAngleDeg := config.fieldSafety.maxSteeringAngleDeg
        defaultSpeedPidKp := config.fieldSafety.speedPidKp
        defaultSpeedPidKi := config.fieldSafety.speedPidKi
        defaultSpeedPidKd := config.fieldSafety.speedPidKd
        defaultSpeedPidDerivativeFilterTauMs := config.fieldSafety.speedPidDerivativeFilterTauMs
        defaultSpeedPidMaxDtMs := config.fieldSafety.speedPidMaxDtMs
        defaultMotorTorqueRiseRateNmPerS := config.fieldSafety.motorTorqueRiseRateNmPerS
        telemetryIntervalMs := telemetryIntervalMs }

/-! ## The machine -/

/-- An operation with what happens before each of its calls, or a step of the io thread. -/
inductive Event where
  | operation (e : Service.Event) (script : ℕ → Interlude)
  | io (e : IoEvent)

/-- The adapter at the beginning of an operation: nothing logged, a new script. -/
def Chassis.scheduled (c : Chassis) (script : ℕ → Interlude) : Chassis :=
  { c with script := script, calls := 0, log := [] }

def respond (w : World Chassis) : Event → Reply × World Chassis
  | .operation e script =>
    Service.respond dynamicLibrary { w with adapter := w.adapter.scheduled script } e
  | .io e =>
    (.done, { w with trace := [], adapter := { w.adapter with log := [] }.deliver none e.toEvent })

/-- A vehicle that one configuration has built: not started, the library not loaded. -/
def Built (w : World Chassis) : Prop :=
  ∃ config driverId sessionId controlToken telemetryIntervalMs service adapter,
    createService config driverId sessionId controlToken telemetryIntervalMs = .ok service ∧
    createVehicleAdapter config = .ok adapter ∧
    w = ⟨service, { adapter := adapter }, []⟩

def machine (built : World Chassis) : Machine (World Chassis) Event Reply := ⟨built, respond⟩

/-! ## A vehicle on the bench -/

/-- The development configuration, without the feedback requirement. -/
def benchVehicleConfig : VehicleConfig :=
  { vehicleId := "vehicle-1"
    control := { decelerationProfile := [(0, some (3 / 10)), (500, some (6 / 10)), (1500, some 1)] }
    fieldSafety :=
      { maxSpeedKph := 40
        fullScaleMotorTorqueNm := 640
        motorTorqueRiseRateNmPerS := 0
        maxBrakePressureBar := 60
        requireCanFeedbackBeforeControl := false }
    valid := by constructor <;> decide +kernel
    bridgeLibraryPath := "chassis.so" }

def benchAdapter : DynamicLibraryVehicleAdapter :=
  { config := benchVehicleConfig.adapterConfig, valid := by decide +kernel }

def benchEnvironment : Bridge.OpenEnvironment :=
  { interfaceNamed := true
    alreadyOpen := false
    initializes := true
    emergencySeed := .controls (List.replicate 8 ⟨some 0, some 0, some 0, some 0, some 0⟩)
    initialSeed := .controls (List.replicate 8 ⟨some 0, some 0, some 0, some 0, some 0⟩)
    logOpens := true
    socketOpens := true }

def benchVehicle : World Chassis :=
  { service :=
      { benchService with
        requireFeedbackBeforeControl := false
        maxBrakePressureBar := 60 }
    adapter := { adapter := benchAdapter } }

theorem benchVehicle_built : Built benchVehicle := by
  have hreceiver : ControlReceiver.create benchVehicleConfig.vehicleId "driver-1" "session-1"
      benchVehicleConfig.control.maxCommandGapMs protocolVersion true "token" =
        .ok benchVehicle.service.receiver := rfl
  have hsafety : SafetyStateMachine.create benchVehicleConfig.control.degradedTimeoutMs
      benchVehicleConfig.control.controlTimeoutMs benchVehicleConfig.control.decelerationProfile =
        .ok benchVehicle.service.safety := by decide +kernel
  refine ⟨benchVehicleConfig, "driver-1", "session-1", "token", 100, benchVehicle.service,
    benchAdapter, ?_, dif_pos benchAdapter.valid, rfl⟩
  unfold createService
  rw [hreceiver, hsafety]
  rfl

/-- Nothing happens before the calls, and the clock stands at a millisecond. -/
def quietAt (milliseconds : ℤ) : ℕ → Interlude :=
  fun _ => { now := milliseconds * Bridge.nanosPerMilli, loading := .ok benchEnvironment }

/-- The frames of the parking gate, of a vehicle that is parked. -/
def gateFrames : List Vcu.CanFrame :=
  [Vcu.handshakeFrame 3, Vcu.vehicleStatusFrame 1, Vcu.parkingBrakeFrame fun _ => 2,
    Vcu.vehicleSpeedFrame 0, Vcu.driverIntentionFrame 1]

def gateEvents (milliseconds : ℤ) : List Event :=
  gateFrames.map fun frame => .io (.ingest (milliseconds * Bridge.nanosPerMilli) frame)

/-- The vehicle is started, found parked, and given a profile. -/
def sessionEvents (profile : SessionControlProfile Double) : List Event :=
  [.operation (.start 0) (quietAt 0)] ++ gateEvents 0 ++
  [.operation (.receiveSessionProfile (benchRequest 1 0 profile) 0) (quietAt 0)]

end MineTeleop.Stack
