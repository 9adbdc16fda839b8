import MineTeleop.Bridge.Entry

/-!
# Intents, profiles, stops and handshakes

The entry points through which the vehicle agent drives the bridge.
-/

namespace MineTeleop.Bridge

/-! ## Applying a control state -/

inductive ApplyIssue where
  | none
  | genericRejected
  | runtimeUnavailable
  | physicalEmergencyLatched
  | hardOverspeedLatched
  | driveGearChangeMovingOrStale
  | argumentsInvalid
  | internalError
  deriving DecidableEq, Repr

structure ApplyResult where
  resultCode : ℤ
  issue : ApplyIssue
  deriving DecidableEq

/-- The arguments of `apply_state_v3`: the steering is `none` for a null pointer or a negative
count. -/
structure ApplyArguments where
  targetGear : ℤ
  targetVx : Double
  targetAx : Double
  steeringValues : Option (List Double)
  operatorActive : ℤ := 0

/-- The arguments that reach `store_intent`. -/
structure IntentArguments where
  gear : ℤ
  targetSpeedMps : ℚ
  normalizedLongitudinal : ℚ
  steeringValues : List ℚ
  operatorActive : Bool

/-- The checks of `apply_state_v3`. -/
def ApplyArguments.checked? (a : ApplyArguments) : Option IntentArguments := do
  let steeringValues ← a.steeringValues
  let steeringValues ← allSome (steeringValues.take Vcu.steeringAxisCount)
  let targetVx ← a.targetVx
  let targetAx ← a.targetAx
  if (a.operatorActive = 0 ∨ a.operatorActive = 1) ∧ 1 ≤ a.targetGear ∧ a.targetGear ≤ 4 ∧
      0 ≤ targetVx ∧ targetVx ≤ 20 ∧ -1 ≤ targetAx ∧ targetAx ≤ 1 then
    some ⟨a.targetGear, targetVx, targetAx, steeringValues, decide (a.operatorActive ≠ 0)⟩
  else none

def tolerance : ℚ := 1 / 1000000000

/-- `runtime_control_` bounds that an intent exceeds. -/
def ExceedsProfile (b : BridgeRuntime) (a : IntentArguments) : Prop :=
  b.runtimeControl.targetSpeedLimitMps + tolerance < a.targetSpeedMps ∨
  (if 0 < b.fullScaleMotorTorqueNm then
      b.runtimeControl.maxMotorTorqueNm / b.fullScaleMotorTorqueNm
    else 0) + tolerance < a.normalizedLongitudinal ∨
  ∃ value ∈ a.steeringValues.take Vcu.steeringAxisCount,
    b.runtimeControl.maxSteeringRequest + tolerance < |value|

/-- The zero-traction command in the retained gear that ends a gear rejection. -/
def RetainedZeroOutput (b : BridgeRuntime) (a : IntentArguments) : Prop :=
  a.gear = b.gearRejectionRetainedGear ∧ a.targetSpeedMps ≤ tolerance ∧
  a.normalizedLongitudinal ≤ 0

def GearChanged (b : BridgeRuntime) (a : IntentArguments) : Prop :=
  b.latestIntentValid = false ∨ b.latestIntent.gear ≠ a.gear

/-- The vehicle is not known to stand still in a known gear. -/
def MovingOrStale (b : BridgeRuntime) (now : ℤ) : Prop :=
  speedFeedbackFresh b now = false ∨ gearFeedbackFresh b now = false ∨
  1 / 10 < |b.controller.feedback.speedMps|

instance (b : BridgeRuntime) (a : IntentArguments) : Decidable (ExceedsProfile b a) :=
  inferInstanceAs (Decidable (_ ∨ _))
instance (b : BridgeRuntime) (a : IntentArguments) : Decidable (RetainedZeroOutput b a) :=
  inferInstanceAs (Decidable (_ ∧ _))
instance (b : BridgeRuntime) (a : IntentArguments) : Decidable (GearChanged b a) :=
  inferInstanceAs (Decidable (_ ∨ _))
instance (b : BridgeRuntime) (now : ℤ) : Decidable (MovingOrStale b now) :=
  inferInstanceAs (Decidable (_ ∨ _))

/-- The gear a rejected change falls back to. -/
def retainedGear (b : BridgeRuntime) : ℤ :=
  if b.latestIntentValid = true ∧ 1 ≤ b.latestIntent.gear ∧ b.latestIntent.gear ≤ 3 then
    b.latestIntent.gear
  else reportedGearOrNeutral b

/-- The accepted branch of `store_intent`. -/
def acceptIntent (b : BridgeRuntime) (now : ℤ) (a : IntentArguments) : BridgeRuntime :=
  { b with
    intentGeneration := b.intentGeneration + 1
    operatorIdle :=
      b.operatorIdle.observe (a.operatorActive && decide (b.controller.state = .ready))
        (milliseconds now)
    latestIntent :=
      { gear := a.gear
        targetSpeedMps := a.targetSpeedMps
        normalizedLongitudinal := a.normalizedLongitudinal
        steering := fun axis => a.steeringValues.getD axis.val 0
        generation := b.intentGeneration + 1 }
    latestIntentValid := true
    lastSuccessfulApply := now
    lastSuccessfulApplyValid := true
    clearSoftStopRequested := true }

def storeIntent (b : BridgeRuntime) (now : ℤ) (a : IntentArguments) :
    ApplyIssue × BridgeRuntime :=
  if b.running = false ∨ b.ioError ≠ 0 then (.runtimeUnavailable, b)
  else if b.controller.physicalEmergencyLatched = true then
    (.physicalEmergencyLatched, withdrawLatestTraction b)
  else if b.hardOverspeedLatched = true then (.hardOverspeedLatched, withdrawLatestTraction b)
  else if 0 < a.normalizedLongitudinal ∧ b.runtimeControl.active = false then
    (.argumentsInvalid, withdrawLatestTraction b)
  else if b.runtimeControl.active = true ∧ ExceedsProfile b a then
    (.argumentsInvalid, withdrawLatestTraction b)
  else if b.gearRejectionLatched = true ∧ ¬RetainedZeroOutput b a then
    (.driveGearChangeMovingOrStale, holdRejectedGear b a.normalizedLongitudinal)
  else if GearChanged b a ∧ MovingOrStale b now then
    (.driveGearChangeMovingOrStale,
      holdRejectedGear
        { b with gearRejectionRetainedGear := retainedGear b, gearRejectionLatched := true }
        a.normalizedLongitudinal)
  else (.none, acceptIntent { b with gearRejectionLatched := false } now a)

def failControlApply (b : BridgeRuntime) : BridgeRuntime :=
  let b := latchStopProvenance b .softwareFault .controlApplyFailed
  let b := { b with controller := Vcu.emergencyStop b.controller, clearSoftStopRequested := false }
  { withdrawLatestTraction b with softwareEstop := true, controlWatchdogLatched := true }

def requestPark (b : BridgeRuntime) : Bool × BridgeRuntime :=
  if b.running = false then (false, b)
  else
    let consumed := consumeStopContext b .driverPage .vcuHandshakeDisconnect
    let b := latchStopProvenance consumed.2 consumed.1.source consumed.1.reason
    let b := withdrawLatestTraction
      { b with
        gearRejectionLatched := false
        gearRejectionRetainedGear := 1
        controller := Vcu.requestDisarm b.controller }
    (true, { b with softwareEstop := true })

/-- `apply_state_v3`: gear 4 asks for parking. -/
def applyState (b : BridgeRuntime) (now : ℤ) (a : ApplyArguments) : ApplyResult × BridgeRuntime :=
  match a.checked? with
  | none => (⟨-1, .argumentsInvalid⟩, failControlApply b)
  | some checked =>
    if checked.gear = 4 then
      let parked := requestPark b
      (if parked.1 then ⟨0, .none⟩ else ⟨-3, .genericRejected⟩, parked.2)
    else
      let stored := storeIntent b now checked
      (⟨if stored.1 = .none then 0 else -3, stored.1⟩, stored.2)

/-! ## Runtime control profiles -/

inductive RuntimeControlIssue where
  | none
  | genericRejected
  | runtimeUnavailable
  | argumentsInvalid
  | parkingRequired
  | staleRevision
  | internalError
  deriving DecidableEq, Repr

/-- `MineTeleopChassisRuntimeControlConfigV3`; V1 and V2 are prefixes of it. -/
structure RuntimeControlConfig where
  structSizeMatches : Bool := true
  profileVersion : ℕ
  profileRevision : ℕ
  targetSpeedLimitMps : Double
  maxMotorTorqueNm : Double
  maxBrakePressureBar : Double
  maxSteeringRequest : Double
  speedPidKp : Double
  speedPidKi : Double
  speedPidKd : Double
  speedPidDerivativeFilterTauMs : Double
  speedPidMaxDtMs : ℤ
  reserved : ℕ := 0
  motorTorqueRiseRateNmPerS : Double := some 0
  parkingIdleTimeoutMs : ℤ := 0
  parkingReserved : ℕ := 0

def RuntimeControlConfig.pid? (config : RuntimeControlConfig) : Option SpeedPidConfig :=
  speedPid? config.speedPidKp config.speedPidKi config.speedPidKd
    config.speedPidDerivativeFilterTauMs config.speedPidMaxDtMs

def ProfileArgumentsValid (b : BridgeRuntime) (config : RuntimeControlConfig)
    (expectedProfileVersion : ℕ) (riseRate : Double) : Prop :=
  config.structSizeMatches = true ∧ config.profileVersion = expectedProfileVersion ∧
  config.profileRevision ≠ 0 ∧ config.reserved = 0 ∧
  config.targetSpeedLimitMps.InRange 0 b.speedControl.hardSpeedLimitMps ∧
  config.maxMotorTorqueNm.InRange 0 b.fullScaleMotorTorqueNm ∧
  config.maxBrakePressureBar.InRange 0 b.maxOrdinaryBrakeBar ∧
  config.maxSteeringRequest.InRange 0 1 ∧
  riseRate.InRange 0 maxMotorTorqueRiseRate ∧
  ∃ pid ∈ config.pid?, SpeedPidConfigValid pid

instance (b : BridgeRuntime) (config : RuntimeControlConfig) (expectedProfileVersion : ℕ)
    (riseRate : Double) :
    Decidable (ProfileArgumentsValid b config expectedProfileVersion riseRate) :=
  inferInstanceAs (Decidable (_ ∧ _))

/-- The change needs the parking gate: anything but a pure decrease of speed or torque. -/
def RequiresParking (b : BridgeRuntime) (config : RuntimeControlConfig) (riseRate : ℚ)
    (parkingIdleTimeoutMs : ℤ) : Prop :=
  b.runtimeControl.active = false ∨ config.pid? ≠ some b.speedControl.pid ∨
  riseRate ≠ b.speedControl.motorTorqueRiseRateNmPerS ∨
  parkingIdleTimeoutMs ≠ b.runtimeControl.parkingIdleTimeoutMs ∨
  b.runtimeControl.targetSpeedLimitMps + tolerance < config.targetSpeedLimitMps.value ∨
  b.runtimeControl.maxMotorTorqueNm + tolerance < config.maxMotorTorqueNm.value ∨
  config.maxBrakePressureBar.value ≠ b.runtimeControl.maxBrakePressureBar ∨
  config.maxSteeringRequest.value ≠ b.runtimeControl.maxSteeringRequest

instance (b : BridgeRuntime) (config : RuntimeControlConfig) (riseRate : ℚ)
    (parkingIdleTimeoutMs : ℤ) :
    Decidable (RequiresParking b config riseRate parkingIdleTimeoutMs) :=
  inferInstanceAs (Decidable (_ ∨ _))

/-- Parked, with the controller in a state that allows a new configuration. -/
def ParkedForConfiguration (b : BridgeRuntime) (now : ℤ) : Prop :=
  (b.controller.state = .standby ∨ b.controller.state = .disarmed) ∧
  parkingGateFresh b now = true ∧ Vcu.ParkingReady b.controller

instance (b : BridgeRuntime) (now : ℤ) : Decidable (ParkedForConfiguration b now) :=
  inferInstanceAs (Decidable (_ ∧ _))

/-- The accepted branch of `configure_runtime_control`. -/
def installProfile (b : BridgeRuntime) (now : ℤ) (config : RuntimeControlConfig) (riseRate : ℚ)
    (parkingIdleTimeoutMs : ℤ) : BridgeRuntime :=
  let b := withdrawLatestTraction b
  let b :=
    { b with
      latestIntent := { b.latestIntent with targetSpeedMps := 0 }
      speedControl :=
        { b.speedControl with
          pid := config.pid?.getD b.speedControl.pid
          motorTorqueRiseRateNmPerS := riseRate }
      runtimeControl :=
        { active := true
          parkingIdleTimeoutMs := parkingIdleTimeoutMs
          revision := config.profileRevision
          targetSpeedLimitMps := config.targetSpeedLimitMps.value
          maxMotorTorqueNm := config.maxMotorTorqueNm.value
          maxBrakePressureBar := config.maxBrakePressureBar.value
          maxSteeringRequest := config.maxSteeringRequest.value
          motorTorqueRiseRateNmPerS := riseRate }
      operatorIdle := {} }
  { b with
    controller := Vcu.setAutomaticParking b.controller (automaticParkingEnabled b) true
      (speedFeedbackFresh b now && feedbackFresh b now &&
        decide (|b.controller.feedback.speedMps| ≤ 1 / 10))
      (automaticParkingPressureBar b) }

/-- The issue, the applied revision and the next bridge. -/
def configureRuntimeControl (b : BridgeRuntime) (now : ℤ) (config : RuntimeControlConfig)
    (expectedProfileVersion : ℕ) (riseRate : Double) (parkingIdleTimeoutMs : ℤ) :
    RuntimeControlIssue × ℕ × BridgeRuntime :=
  if b.running = false ∨ (b.ioError ≠ 0 ∧ ¬ArmingTimeoutRecoveryReady b now) then
    (.runtimeUnavailable, 0, b)
  else if ¬ProfileArgumentsValid b config expectedProfileVersion riseRate then
    (.argumentsInvalid, 0, b)
  else if b.runtimeControl.active = true ∧ config.profileRevision ≤ b.runtimeControl.revision then
    (.staleRevision, 0, b)
  else if RequiresParking b config riseRate.value parkingIdleTimeoutMs ∧
      ¬ParkedForConfiguration b now then
    (.parkingRequired, 0, b)
  else
    let b := if ArmingTimeoutRecoveryReady b now then recoverArmingTimeout b else b
    (.none, config.profileRevision,
      installProfile b now config riseRate.value parkingIdleTimeoutMs)

def configureRuntimeControlV1 (b : BridgeRuntime) (now : ℤ) (config : RuntimeControlConfig) :
    RuntimeControlIssue × ℕ × BridgeRuntime :=
  configureRuntimeControl b now config 2
    (some b.openSpeedControl.motorTorqueRiseRateNmPerS) (-1)

def configureRuntimeControlV2 (b : BridgeRuntime) (now : ℤ) (config : RuntimeControlConfig) :
    RuntimeControlIssue × ℕ × BridgeRuntime :=
  configureRuntimeControl b now config 3 config.motorTorqueRiseRateNmPerS (-1)

def configureRuntimeControlV3 (b : BridgeRuntime) (now : ℤ) (config : RuntimeControlConfig) :
    RuntimeControlIssue × ℕ × BridgeRuntime :=
  if config.structSizeMatches = false ∨ config.parkingReserved ≠ 0 ∨
      config.parkingIdleTimeoutMs < 0 ∨ 1000 < config.parkingIdleTimeoutMs then
    (.argumentsInvalid, 0, b)
  else
    configureRuntimeControl b now config 4 config.motorTorqueRiseRateNmPerS
      config.parkingIdleTimeoutMs

def clearRuntimeControl (b : BridgeRuntime) : BridgeRuntime :=
  let b := withdrawLatestTraction b
  { b with
    latestIntent := { b.latestIntent with targetSpeedMps := 0 }
    speedControl :=
      { b.speedControl with
        pid := b.openSpeedControl.pid
        motorTorqueRiseRateNmPerS := b.openSpeedControl.motorTorqueRiseRateNmPerS }
    runtimeControl := { parkingIdleTimeoutMs := b.runtimeControl.parkingIdleTimeoutMs }
    operatorIdle := {} }

/-! ## Stops -/

/-- `MineTeleopChassisStopContextV1`. -/
structure StopContextArguments where
  structSizeMatches : Bool := true
  stopSource : ℕ
  stopReason : ℕ
  reserved : ℕ := 0

/-- The context an argument names, unless it is malformed or claims the physical switch. -/
def StopContextArguments.checked? (a : StopContextArguments) : Option StopContext := do
  let source ← StopSource.ofId a.stopSource
  let reason ← StopReason.ofId a.stopReason
  if a.structSizeMatches = true ∧ a.reserved = 0 ∧
      (source = .none ↔ reason = .none) ∧ source ≠ .physicalEmergency ∧
      reason ≠ .physicalEmergencySwitch then
    some ⟨source, reason⟩
  else none

def setStopContext (b : BridgeRuntime) (a : StopContextArguments) : Bool × BridgeRuntime :=
  match a.checked? with
  | some context =>
    if b.running = false then (false, b) else (true, { b with pendingStopContext := context })
  | none => (false, b)

def emergencyStop (b : BridgeRuntime) : Bool × BridgeRuntime :=
  if b.running = false then (false, b)
  else
    let consumed := consumeStopContext b .unknown .legacyUnspecified
    let b := latchStopProvenance consumed.2 consumed.1.source consumed.1.reason
    let b := withdrawLatestTraction
      { b with
        controller := Vcu.emergencyStop b.controller
        clearSoftStopRequested := false }
    (true, { b with softwareEstop := true })

/-- `close` up to its wait: the second half is `finishClose`, with ticks in between. -/
def beginClose (b : BridgeRuntime) : BridgeRuntime :=
  if b.running = false then b
  else
    let consumed := consumeStopContext b .session .sessionLost
    let b := latchStopProvenance consumed.2 consumed.1.source consumed.1.reason
    { b with
      controller := Vcu.requestDisarm b.controller
      softwareEstop := true
      closing := true }

def finishClose (b : BridgeRuntime) : BridgeRuntime :=
  if b.closing then { b with running := false } else b

/-! ## Handshake -/

/-- A hard-overspeed latch is only let go after a complete disarm. -/
def HardLatchRecoveryReady (b : BridgeRuntime) (now : ℤ) : Prop :=
  b.hardOverspeedLatched = false ∨
  (b.controller.state = .disarmed ∧ speedFeedbackFresh b now = true ∧
    gearFeedbackFresh b now = true ∧ b.controller.feedback.gear = 1 ∧
    |b.controller.feedback.speedMps| ≤ 1 / 10)

def PhysicalLatchRecoveryReady (b : BridgeRuntime) (now : ℤ) : Prop :=
  b.controller.physicalEmergencyLatched = false ∨
  ((b.controller.state = .disarmed ∨ b.controller.state = .standby) ∧
    speedFeedbackFresh b now = true ∧ gearFeedbackFresh b now = true ∧
    b.controller.feedback.emergencySwitch = 0 ∧ b.controller.feedback.gear = 1 ∧
    |b.controller.feedback.speedMps| ≤ 1 / 10)

instance (b : BridgeRuntime) (now : ℤ) : Decidable (HardLatchRecoveryReady b now) :=
  inferInstanceAs (Decidable (_ ∨ _))
instance (b : BridgeRuntime) (now : ℤ) : Decidable (PhysicalLatchRecoveryReady b now) :=
  inferInstanceAs (Decidable (_ ∨ _))

/-- Everything an accepted handshake request clears. -/
def restartSession (b : BridgeRuntime) : BridgeRuntime :=
  let b := clearStopProvenance b
  { resetDirectTraction (resetSpeedPid
      { b with
        lastSuccessfulApplyValid := false
        operatorIdle := {}
        readySinceValid := false
        sessionReadyLatched := false
        feedbackWatchdogArmed := false
        armingFeedbackDeadlineValid := false
        controlWatchdogLatched := false
        hardOverspeedLatched := false
        physicalEmergencyReported := false
        handshakeRevokedReported := false
        recoverableArmingTimeout := false
        gearRejectionLatched := false
        gearRejectionRetainedGear := 1
        clearSoftStopRequested := false
        latestIntent := { generation := b.intentGeneration + 1 }
        latestIntentValid := true
        intentGeneration := b.intentGeneration + 1 }) with
    softwareEstop := false }

def requestParallelHandshake (b : BridgeRuntime) (now : ℤ) : Bool × BridgeRuntime :=
  if b.running = false ∨ (b.ioError ≠ 0 ∧ ¬ArmingTimeoutRecoveryReady b now) then (false, b)
  else if parkingGateFresh b now = false ∨ ¬Vcu.ParkingReady b.controller ∨
      ¬HardLatchRecoveryReady b now ∨ ¬PhysicalLatchRecoveryReady b now ∨
      (Vcu.requestParallelHandshake b.controller).1 = false then
    (false, b)
  else
    let recovered := if ArmingTimeoutRecoveryReady b now then recoverArmingTimeout b else b
    (true, restartSession
      { recovered with controller := (Vcu.requestParallelHandshake b.controller).2 })

end MineTeleop.Bridge
