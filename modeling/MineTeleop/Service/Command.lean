import MineTeleop.Bridge.Entry

/-!
# Driver commands

What arrives from the driver, the checks every message passes, and the receiver that admits a
command.  A message is a raw record whose doubles may be NaN or infinite; a `DriverCommand` has
passed `validate`, and its numbers are rationals.
-/

namespace MineTeleop.Service

open Bridge (Double)

/-! ## Failures -/

/-- What the functions of the vehicle side throw. -/
inductive Failure where
  | invalidArgument (what : String)
  | runtimeError (what : String)
  | controlRejected (issueCode : String) (resultCode : ℤ)
  deriving DecidableEq

/-- `std::to_string` of a double: six decimals. -/
def toFixed (x : ℚ) : String :=
  let micros := (|x| * 1000000 + 1 / 2).floor.toNat
  let digits := toString (micros % 1000000)
  (if x < 0 then "-" else "") ++ toString (micros / 1000000) ++ "." ++
    String.ofList (List.replicate (6 - digits.length) '0') ++ digits

def check (ok : Prop) [Decidable ok] (message : String) : Except String Unit :=
  if ok then .ok () else .error message

/-- The value, when it is finite and in range. -/
def requireFiniteRange (value : Double) (minimum maximum : ℚ) (label : String) : Except String ℚ :=
  match value with
  | some x =>
    if x < minimum ∨ maximum < x then
      .error (label ++ " must be a finite value in [" ++ toFixed minimum ++ ", " ++
        toFixed maximum ++ "]")
    else .ok x
  | none =>
    .error (label ++ " must be a finite value in [" ++ toFixed minimum ++ ", " ++
      toFixed maximum ++ "]")

/-! ## Messages -/

def protocolVersion : ℤ := 1

structure ProtocolMetadata where
  protocolVersion : ℤ := Service.protocolVersion
  vehicleId : String := ""
  driverId : String := ""
  sessionId : String := ""
  seq : ℕ := 0
  sentAtUtcMs : ℤ := 0
  deriving DecidableEq

def ProtocolMetadata.validate (m : ProtocolMetadata) : Except String Unit := do
  check (m.protocolVersion = Service.protocolVersion) "unsupported protocol_version"
  check (m.vehicleId ≠ "") "vehicle_id is required"
  check (m.driverId ≠ "") "driver_id is required"
  check (m.sessionId ≠ "") "session_id is required"
  check (m.seq ≠ 0) "seq must be positive"
  check (0 ≤ m.sentAtUtcMs) "sent_at_utc_ms must be non-negative"

inductive Gear where
  | P
  | R
  | N
  | D
  deriving DecidableEq

def Gear.ofString? (gear : String) : Option Gear :=
  if gear = "P" then some .P
  else if gear = "R" then some .R
  else if gear = "N" then some .N
  else if gear = "D" then some .D
  else none

def Gear.text : Gear → String
  | .P => "P"
  | .R => "R"
  | .N => "N"
  | .D => "D"

structure ControlCommand extends ProtocolMetadata where
  gear : String := "N"
  steering : Double := some 0
  throttle : Double := some 0
  brake : Double := some 0
  estop : Bool := false
  controlToken : String := ""
  operatorActive : Bool := false
  deriving DecidableEq

/-- A command that has passed its checks. -/
structure DriverCommand where
  gear : Gear := .N
  steering : ℚ := 0
  throttle : ℚ := 0
  brake : ℚ := 0
  estop : Bool := false
  operatorActive : Bool := false
  deriving DecidableEq

def ControlCommand.validate (command : ControlCommand) : Except String DriverCommand := do
  command.toProtocolMetadata.validate
  check (command.controlToken ≠ "") "control_token is required"
  match Gear.ofString? command.gear with
  | none => .error "gear must be one of P/R/N/D"
  | some gear =>
    let steering ← requireFiniteRange command.steering (-1) 1 "steering"
    let throttle ← requireFiniteRange command.throttle 0 1 "throttle"
    let brake ← requireFiniteRange command.brake 0 1 "brake"
    .ok ⟨gear, steering, throttle, brake, command.estop, command.operatorActive⟩

/-! ## The receiver -/

structure ReceiveResult where
  accepted : Bool
  reason : String
  command : Option DriverCommand := none
  warnings : List String := []
  issueCode : String := ""
  deriving DecidableEq

def ReceiveResult.rejected (reason : String) : ReceiveResult :=
  { accepted := false, reason := reason }

structure ControlReceiver where
  vehicleId : String
  driverId : String
  sessionId : String
  maxCommandGapMs : ℤ
  protocolVersion : ℤ := Service.protocolVersion
  controlAuthority : Bool := true
  controlToken : String
  timestampWarningSkewMs : ℤ := 5000
  lastSeq : Option ℕ := none
  lastValidReceiveMs : Option ℤ := none

/-- The constructor of `ControlReceiver`. -/
def ControlReceiver.create (vehicleId driverId sessionId : String) (maxCommandGapMs : ℤ)
    (protocolVersion : ℤ) (controlAuthority : Bool) (controlToken : String) :
    Except Failure ControlReceiver :=
  if vehicleId = "" ∨ driverId = "" ∨ sessionId = "" then
    .error (.invalidArgument "vehicle_id, driver_id, and session_id are required")
  else if maxCommandGapMs ≤ 0 then
    .error (.invalidArgument "control receiver timing values are invalid")
  else
    .ok
      { vehicleId := vehicleId
        driverId := driverId
        sessionId := sessionId
        maxCommandGapMs := maxCommandGapMs
        protocolVersion := protocolVersion
        controlAuthority := controlAuthority
        controlToken := controlToken }

/-- The part of `accept` behind the command's own checks. -/
def ControlReceiver.judge (r : ControlReceiver) (command : ControlCommand)
    (checked : DriverCommand) (receiveTimeMs : ℤ) : ReceiveResult × ControlReceiver :=
  let timestampDeltaMs := receiveTimeMs - command.sentAtUtcMs
  if command.protocolVersion ≠ r.protocolVersion then (.rejected "wrong_protocol_version", r)
  else if command.vehicleId ≠ r.vehicleId then (.rejected "wrong_vehicle", r)
  else if command.driverId ≠ r.driverId then (.rejected "wrong_driver", r)
  else if command.sessionId ≠ r.sessionId then (.rejected "wrong_session", r)
  else if r.controlAuthority = false then (.rejected "control_authority_missing", r)
  else if command.controlToken ≠ r.controlToken then (.rejected "control_token_invalid", r)
  else if ∃ last ∈ r.lastSeq, command.seq ≤ last then (.rejected "old_seq", r)
  else if command.estop = false ∧ r.maxCommandGapMs < timestampDeltaMs then
    (.rejected "command_age_exceeded", r)
  else if command.estop = false ∧ timestampDeltaMs < -r.maxCommandGapMs then
    (.rejected "command_timestamp_in_future", r)
  else if ∃ last ∈ r.lastValidReceiveMs, receiveTimeMs < last then
    (.rejected "receive_time_reversed", r)
  else if (∃ last ∈ r.lastValidReceiveMs, r.maxCommandGapMs < receiveTimeMs - last) ∧
      command.estop = false then
    -- The first command behind a gap is dropped, but the timing starts again.
    (.rejected "command_gap_exceeded", { r with lastValidReceiveMs := some receiveTimeMs })
  else
    ({ accepted := true
       reason := "accepted"
       command := some checked
       warnings :=
        if r.timestampWarningSkewMs < |timestampDeltaMs| then ["driver_timestamp_skew"] else [] },
      { r with lastSeq := some command.seq, lastValidReceiveMs := some receiveTimeMs })

def ControlReceiver.accept (r : ControlReceiver) (command : ControlCommand)
    (receiveTimeMs : ℤ) : Except Failure (ReceiveResult × ControlReceiver) :=
  if receiveTimeMs < 0 then
    .error (.invalidArgument "receive_time_ms must be non-negative")
  else
    match command.validate with
    | .error message => .ok (.rejected ("invalid_command:" ++ message), r)
    | .ok checked => .ok (r.judge command checked receiveTimeMs)

/-! ## Checks in sequence -/

theorem check_ok {ok : Prop} [Decidable ok] {message : String} {u : Unit}
    (h : check ok message = .ok u) : ok := by
  unfold check at h
  split at h
  · assumption
  · cases h

theorem requireFiniteRange_ok {value : Double} {minimum maximum x : ℚ} {label : String}
    (h : requireFiniteRange value minimum maximum label = .ok x) :
    value = some x ∧ minimum ≤ x ∧ x ≤ maximum := by
  unfold requireFiniteRange at h
  split at h
  · split at h
    · cases h
    · rename_i y hrange
      obtain rfl : y = x := Except.ok.inj h
      push Not at hrange
      exact ⟨rfl, hrange.1, hrange.2⟩
  · cases h

theorem bind_ok {ε α β : Type} {x : Except ε α} {f : α → Except ε β} {b : β}
    (h : (x >>= f) = .ok b) : ∃ a, x = .ok a ∧ f a = .ok b := by
  cases x with
  | error e => cases h
  | ok a => exact ⟨a, rfl, h⟩

/-- The numbers of a checked command are those of the message, in their ranges. -/
theorem ControlCommand.validate_ok {command : ControlCommand} {checked : DriverCommand}
    (h : command.validate = .ok checked) :
    command.estop = checked.estop ∧
    (command.steering = some checked.steering ∧ |checked.steering| ≤ 1) ∧
    (command.throttle = some checked.throttle ∧ 0 ≤ checked.throttle ∧ checked.throttle ≤ 1) ∧
    command.brake = some checked.brake ∧ 0 ≤ checked.brake ∧ checked.brake ≤ 1 := by
  unfold ControlCommand.validate at h
  obtain ⟨-, -, h⟩ := bind_ok h
  obtain ⟨-, -, h⟩ := bind_ok h
  split at h
  · cases h
  · obtain ⟨steering, hsteering, h⟩ := bind_ok h
    obtain ⟨throttle, hthrottle, h⟩ := bind_ok h
    obtain ⟨brake, hbrake, h⟩ := bind_ok h
    obtain rfl := Except.ok.inj h
    obtain ⟨hs, hslow, hshigh⟩ := requireFiniteRange_ok hsteering
    exact ⟨rfl, ⟨hs, abs_le.mpr ⟨hslow, hshigh⟩⟩, requireFiniteRange_ok hthrottle,
      requireFiniteRange_ok hbrake⟩

theorem Gear.text_ofString? {text : String} {gear : Gear} (h : Gear.ofString? text = some gear) :
    gear.text = text := by
  unfold Gear.ofString? at h
  split_ifs at h with hP hR hN hD
  · rw [← Option.some.inj h, hP]
    rfl
  · rw [← Option.some.inj h, hR]
    rfl
  · rw [← Option.some.inj h, hN]
    rfl
  · rw [← Option.some.inj h, hD]
    rfl

theorem ControlCommand.validate_gear {command : ControlCommand} {checked : DriverCommand}
    (h : command.validate = .ok checked) : checked.gear.text = command.gear := by
  unfold ControlCommand.validate at h
  obtain ⟨-, -, h⟩ := bind_ok h
  obtain ⟨-, -, h⟩ := bind_ok h
  split at h
  · cases h
  · rename_i gear hgear
    obtain ⟨steering, -, h⟩ := bind_ok h
    obtain ⟨throttle, -, h⟩ := bind_ok h
    obtain ⟨brake, -, h⟩ := bind_ok h
    obtain rfl := Except.ok.inj h
    exact Gear.text_ofString? hgear

/-! ## What an accepted command has passed -/

/-- The result carries a command exactly when it is accepted, and then the checked one. -/
def ReceiveResult.Carries (result : ReceiveResult) (checked : DriverCommand) : Prop :=
  (result.accepted = false ∧ result.command = none) ∨
  (result.accepted = true ∧ result.command = some checked)

theorem ControlReceiver.judge_carries (r : ControlReceiver) (command : ControlCommand)
    (checked : DriverCommand) (receiveTimeMs : ℤ) :
    (r.judge command checked receiveTimeMs).1.Carries checked := by
  have hite : ∀ (c : Prop) [Decidable c] (p q : ReceiveResult × ControlReceiver),
      p.1.Carries checked → q.1.Carries checked → (if c then p else q).1.Carries checked := by
    intro c _ p q hp hq
    split
    · exact hp
    · exact hq
  unfold ControlReceiver.judge
  iterate 11 refine hite _ _ _ (.inl ⟨rfl, rfl⟩) ?_
  exact .inr ⟨rfl, rfl⟩

theorem ControlReceiver.accept_carries {r r' : ControlReceiver} {command : ControlCommand}
    {receiveTimeMs : ℤ} {result : ReceiveResult}
    (h : r.accept command receiveTimeMs = .ok (result, r')) :
    (result.accepted = false ∧ result.command = none) ∨
      ∃ checked, command.validate = .ok checked ∧ result.Carries checked := by
  unfold ControlReceiver.accept at h
  split at h
  · cases h
  · split at h
    · cases h
      exact .inl ⟨rfl, rfl⟩
    · rename_i checked hvalid
      have hjudged := r.judge_carries command checked receiveTimeMs
      rw [Except.ok.inj h] at hjudged
      exact .inr ⟨checked, hvalid, hjudged⟩

end MineTeleop.Service
