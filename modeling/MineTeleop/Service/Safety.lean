import MineTeleop.Service.Command

/-!
# The safety state machine

What the vehicle does when commands stop arriving: `Degraded` withdraws the traction,
`TimeoutBrake` brakes by the deceleration profile, `Estop` and `Fault` stay.
-/

namespace MineTeleop.Service

open Bridge (Double)

inductive SafetyState where
  | init
  | standby
  | controlActive
  | degraded
  | timeoutBrake
  | estop
  | fault
  deriving DecidableEq, Repr

structure DecelerationStage where
  afterMs : ℤ
  brake : ℚ
  deriving DecidableEq

structure ControlOutput where
  gear : Gear := .N
  steering : ℚ := 0
  throttle : ℚ := 0
  brake : ℚ := 0
  estop : Bool := false
  fullEmergencyBrake : Bool := false
  deriving DecidableEq

/-! ## The deceleration profile -/

def brakeComparisonTolerance : ℚ := 1 / 1000000000

/-- The loop over the stages; `previousAfterMs` is -1 before the first one. -/
def normalizeStages (previousBrake : ℚ) (previousAfterMs : ℤ) :
    List (ℤ × Double) → Except String (List DecelerationStage)
  | [] => .ok []
  | (afterMs, rawBrake) :: rest => do
    check (0 ≤ afterMs) "deceleration after_ms must be non-negative"
    check (¬(0 ≤ previousAfterMs ∧ afterMs ≤ previousAfterMs))
      "deceleration after_ms values must be strictly increasing"
    let brake ← requireFiniteRange rawBrake 0 1 "deceleration brake"
    check (previousBrake ≤ brake + brakeComparisonTolerance)
      "deceleration brake stages must be non-decreasing"
    let normalized := if brake < previousBrake then previousBrake else brake
    let stages ← normalizeStages normalized afterMs rest
    .ok (⟨afterMs, normalized⟩ :: stages)

/-- The last stage must brake in full, and is set to do so. -/
def finishStages (stages : List DecelerationStage) : Except String (List DecelerationStage) :=
  match stages.getLast? with
  | none => .ok []
  | some last =>
    if |last.brake - 1| > brakeComparisonTolerance then
      .error "deceleration profile must end with full safety brake 1.0"
    else .ok (stages.dropLast ++ [{ last with brake := 1 }])

def normalizeAndValidateDecelerationProfile (profile : List (ℤ × Double)) :
    Except String (List DecelerationStage) := do
  check (profile ≠ []) "deceleration profile must not be empty"
  check ((profile.head?.map Prod.fst).getD 0 = 0)
    "deceleration profile must start at after_ms 0"
  let stages ← normalizeStages 0 (-1) profile
  finishStages stages

/-! ## The machine -/

structure SafetyStateMachine where
  degradedTimeoutMs : ℤ
  controlTimeoutMs : ℤ
  profile : List DecelerationStage
  state : SafetyState := .init
  lastValidCommand : Option DriverCommand := none
  lastValidReceiveMs : Option ℤ := none
  timeoutEnteredMs : Option ℤ := none
  deriving DecidableEq

namespace SafetyStateMachine

def create (degradedTimeoutMs controlTimeoutMs : ℤ) (profile : List (ℤ × Double)) :
    Except Failure SafetyStateMachine :=
  if degradedTimeoutMs ≤ 0 ∨ controlTimeoutMs ≤ degradedTimeoutMs then
    .error (.invalidArgument "control timeout must be greater than degraded timeout")
  else
    match normalizeAndValidateDecelerationProfile profile with
    | .error message => .error (.invalidArgument message)
    | .ok stages =>
      .ok
        { degradedTimeoutMs := degradedTimeoutMs
          controlTimeoutMs := controlTimeoutMs
          profile := stages }

def markReady (m : SafetyStateMachine) : SafetyStateMachine :=
  if m.state = .init then { m with state := .standby } else m

def onValidCommand (m : SafetyStateMachine) (command : DriverCommand) (timestampMs : ℤ) :
    SafetyStateMachine :=
  if command.estop then
    { m with
      lastValidCommand := some command
      lastValidReceiveMs := some timestampMs
      state := .estop }
  else if m.state = .estop ∨ m.state = .fault then m
  else
    { m with
      lastValidCommand := some command
      lastValidReceiveMs := some timestampMs
      timeoutEnteredMs := none
      state := .controlActive }

def tick (m : SafetyStateMachine) (timestampMs : ℤ) : SafetyStateMachine :=
  if m.state ∈ [.init, .standby, .estop, .fault] then m
  else
    match m.lastValidReceiveMs with
    | none => m
    | some last =>
      let elapsed := timestampMs - last
      if m.controlTimeoutMs ≤ elapsed then
        { m with
          timeoutEnteredMs :=
            if m.state ≠ .timeoutBrake then some timestampMs else m.timeoutEnteredMs
          state := .timeoutBrake }
      else if m.degradedTimeoutMs ≤ elapsed then { m with state := .degraded }
      else m

/-- The brake of the last stage whose delay has passed. -/
def brakeForTimeout (m : SafetyStateMachine) (timestampMs : ℤ) : ℚ :=
  let elapsed := timestampMs - m.timeoutEnteredMs.getD timestampMs
  m.profile.foldl (fun chosen stage => if stage.afterMs ≤ elapsed then stage.brake else chosen) 0

def currentOutput (m : SafetyStateMachine) (timestampMs : ℤ) : ControlOutput :=
  let gear := (m.lastValidCommand.map DriverCommand.gear).getD .N
  let steering := (m.lastValidCommand.map DriverCommand.steering).getD 0
  match m.state with
  | .controlActive =>
    match m.lastValidCommand with
    | some command => ⟨gear, steering, command.throttle, command.brake, false, false⟩
    | none => {}
  | .degraded =>
    ⟨gear, steering, 0, (m.lastValidCommand.map DriverCommand.brake).getD 0, false, false⟩
  | .timeoutBrake =>
    let brake := m.brakeForTimeout timestampMs
    ⟨gear, 0, 0, brake, false, decide (1 ≤ brake)⟩
  | .estop => ⟨gear, 0, 0, 1, true, true⟩
  | .fault => ⟨gear, 0, 0, 1, false, true⟩
  | .init | .standby => {}

def enterStandby (m : SafetyStateMachine) : SafetyStateMachine :=
  { m with
    lastValidCommand := none
    lastValidReceiveMs := none
    timeoutEnteredMs := none
    state := .standby }

def resetEstop (m : SafetyStateMachine) (localConfirmed : Bool) (authorizedBy : String) :
    Bool × SafetyStateMachine :=
  if m.state ≠ .estop ∨ localConfirmed = false ∨ authorizedBy = "" then (false, m)
  else (true, m.enterStandby)

def resetToStandby (m : SafetyStateMachine) : Bool × SafetyStateMachine :=
  if m.state = .estop ∨ m.state = .fault then (false, m) else (true, m.enterStandby)

def markFault (m : SafetyStateMachine) : SafetyStateMachine := { m with state := .fault }

/-! ### What a call does to the state -/

/-- Ticking only ever withdraws: to `Degraded` or to `TimeoutBrake`. -/
theorem tick_state (m : SafetyStateMachine) (t : ℤ) :
    (m.tick t).state = m.state ∨ (m.tick t).state = .degraded ∨
      (m.tick t).state = .timeoutBrake := by
  unfold tick
  split
  · exact .inl rfl
  · split
    · exact .inl rfl
    · extract_lets elapsed
      split
      · exact .inr (.inr rfl)
      · split
        · exact .inr (.inl rfl)
        · exact .inl rfl

theorem onValidCommand_state (m : SafetyStateMachine) (command : DriverCommand) (t : ℤ) :
    (m.onValidCommand command t).state =
      if command.estop then .estop
      else if m.state = .estop ∨ m.state = .fault then m.state else .controlActive := by
  unfold onValidCommand
  split
  · rfl
  · split <;> rfl

end SafetyStateMachine

end MineTeleop.Service
