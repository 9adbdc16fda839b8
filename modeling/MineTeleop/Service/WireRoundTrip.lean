import MineTeleop.Library.Members
import MineTeleop.Service.ProfileRequests
import MineTeleop.Service.Wire

/-!
# The documents of the control protocol

Commands, requests for a session profile and their results: what is written, and what is read.

Proved here:

* `controlCommand_roundTrips`, `profileRequest_roundTrips`, `profileResult_roundTrips`: a valid
  message is read back from the document it is written to, and a document that is read can be
  written and read again;
* `profileResult_effective`: a result has no effective profile exactly when the member is `null`;
  a document without the member is refused.
-/

namespace MineTeleop.Service

open Bridge (Double)
open Documents

/-! ## What is written -/

/-- A double that is not finite is dumped as `null`. -/
def jsonNumber : Double → Json
  | some value => .number value
  | none => .null

def ProtocolMetadata.members (m : ProtocolMetadata) : List (String × Json) :=
  [("protocol_version", .integer m.protocolVersion),
    ("vehicle_id", .string m.vehicleId),
    ("driver_id", .string m.driverId),
    ("session_id", .string m.sessionId),
    ("seq", .integer m.seq),
    ("sent_at_utc_ms", .integer m.sentAtUtcMs)]

def ProtocolMetadata.toJson (m : ProtocolMetadata) : Json := .object m.members

/-- The members that a command sets behind its metadata. -/
def ControlCommand.members (command : ControlCommand) : List (String × Json) :=
  [("type", .string "control_command"),
    ("gear", .string command.gear),
    ("steering", jsonNumber command.steering),
    ("throttle", jsonNumber command.throttle),
    ("brake", jsonNumber command.brake),
    ("estop", .boolean command.estop),
    ("operator_active", .boolean command.operatorActive),
    ("control_token", .string command.controlToken)]

def ControlCommand.toJson (command : ControlCommand) : Json :=
  command.toProtocolMetadata.toJson.setAll command.members

def SessionControlProfile.members (p : SessionControlProfile ℚ) : List (String × Json) :=
  [("profile_version", .integer p.profileVersion),
    ("parking_idle_timeout_ms", .integer p.parkingIdleTimeoutMs),
    ("target_speed_kph", .number p.targetSpeedKph),
    ("max_motor_torque_nm", .number p.maxMotorTorqueNm),
    ("max_brake_pressure_bar", .number p.maxBrakePressureBar),
    ("service_brake_pressure_bar", .number p.serviceBrakePressureBar),
    ("hard_brake_pressure_bar", .number p.hardBrakePressureBar),
    ("max_steering_angle_deg", .number p.maxSteeringAngleDeg),
    ("speed_pid_kp", .number p.speedPidKp),
    ("speed_pid_ki", .number p.speedPidKi),
    ("speed_pid_kd", .number p.speedPidKd),
    ("speed_pid_derivative_filter_tau_ms", .number p.speedPidDerivativeFilterTauMs),
    ("speed_pid_max_dt_ms", .integer p.speedPidMaxDtMs),
    ("motor_torque_rise_rate_nm_per_s", .number p.motorTorqueRiseRateNmPerS)]

/-- The members of a profile that passes its checks. -/
def SessionControlProfile.items (p : SessionControlProfile Double) :
    Except String (List (String × Json)) := do
  let checked ← p.validate
  .ok checked.members

def SessionControlProfile.toJson (p : SessionControlProfile Double) : Except String Json := do
  let items ← p.items
  .ok (.object items)

namespace SessionControlProfileRequest

def validate (request : SessionControlProfileRequest) : Except String Unit := do
  request.toProtocolMetadata.validate
  check (request.controlToken ≠ "") "control_token is required"
  let _ ← request.profile.validate
  .ok ()

/-- The members that a request sets between its metadata and its profile. -/
def members (request : SessionControlProfileRequest) : List (String × Json) :=
  [("type", .string "session_control_profile"),
    ("control_token", .string request.controlToken)]

def toJson (request : SessionControlProfileRequest) : Except String Json := do
  request.validate
  let items ← request.profile.items
  .ok ((request.toProtocolMetadata.toJson.setAll request.members).setAll items)

end SessionControlProfileRequest

/-- `SessionControlProfileResult` with the protocol version, and with the doubles of a profile that
has not been checked. -/
structure ProfileResultMessage extends ProtocolMetadata where
  accepted : Bool := false
  idempotent : Bool := false
  appliedRevision : ℕ := 0
  reason : String := ""
  effectiveProfile : Option (SessionControlProfile Double) := none
  deriving DecidableEq

namespace ProfileResultMessage

def checkEffectiveProfile (r : ProfileResultMessage) : Except String Unit :=
  match r.effectiveProfile with
  | none => .ok ()
  | some profile => profile.validate.map fun _ => ()

def validate (r : ProfileResultMessage) : Except String Unit := do
  r.toProtocolMetadata.validate
  check (r.reason ≠ "") "profile result reason is required"
  r.checkEffectiveProfile
  check (¬(r.accepted = true ∧ r.effectiveProfile = none))
    "accepted profile result requires an effective profile"
  check (¬(r.accepted = true ∧ r.appliedRevision ≠ r.seq))
    "accepted profile result requires applied_revision equal to seq"
  check (¬(r.accepted = false ∧ r.appliedRevision ≠ 0))
    "rejected profile result requires applied_revision zero"

def effectiveJson (r : ProfileResultMessage) : Except String Json :=
  match r.effectiveProfile with
  | none => .ok .null
  | some profile => profile.toJson

def members (r : ProfileResultMessage) (effective : Json) : List (String × Json) :=
  [("event", .string "session_control_profile_result"),
    ("last_request_seq", .integer r.seq),
    ("active", .boolean r.effectiveProfile.isSome),
    ("accepted", .boolean r.accepted),
    ("idempotent", .boolean r.idempotent),
    ("applied_revision", .integer r.appliedRevision),
    ("reason", .string r.reason),
    ("effective_profile", effective)]

def toJson (r : ProfileResultMessage) : Except String Json := do
  r.validate
  let effective ← r.effectiveJson
  .ok (r.toProtocolMetadata.toJson.setAll (r.members effective))

end ProfileResultMessage

/-- The result of the service, as a message. -/
def SessionControlProfileResult.message (r : SessionControlProfileResult) : ProfileResultMessage :=
  { vehicleId := r.vehicleId
    driverId := r.driverId
    sessionId := r.sessionId
    seq := r.seq
    sentAtUtcMs := r.sentAtUtcMs
    accepted := r.accepted
    idempotent := r.idempotent
    appliedRevision := r.appliedRevision
    reason := r.reason
    effectiveProfile := r.effectiveProfile.map (·.asRequested) }

/-! ## What is read -/

/-- An integer of the document in the range of the parking timeout. -/
def ParkingTimeout : Json → Prop
  | .integer value => 0 ≤ value ∧ value ≤ 1000
  | _ => False

instance (json : Json) : Decidable (ParkingTimeout json) := by
  cases json <;> unfold ParkingTimeout <;> infer_instance

/-- The readings behind the check of the parking timeout. -/
def SessionControlProfile.fields (value : Json) : Except String (SessionControlProfile Double) := do
  let parkingIdleTimeoutMs ← value.field "parking_idle_timeout_ms" Json.getInt
  let profileVersion ← value.field "profile_version" Json.getInt
  let targetSpeedKph ← value.field "target_speed_kph" Json.getDouble
  let maxMotorTorqueNm ← value.field "max_motor_torque_nm" Json.getDouble
  let maxBrakePressureBar ← value.field "max_brake_pressure_bar" Json.getDouble
  let serviceBrakePressureBar ← value.field "service_brake_pressure_bar" Json.getDouble
  let hardBrakePressureBar ← value.field "hard_brake_pressure_bar" Json.getDouble
  let maxSteeringAngleDeg ← value.field "max_steering_angle_deg" Json.getDouble
  let speedPidKp ← value.field "speed_pid_kp" Json.getDouble
  let speedPidKi ← value.field "speed_pid_ki" Json.getDouble
  let speedPidKd ← value.field "speed_pid_kd" Json.getDouble
  let speedPidDerivativeFilterTauMs ←
    value.field "speed_pid_derivative_filter_tau_ms" Json.getDouble
  let speedPidMaxDtMs ← value.field "speed_pid_max_dt_ms" Json.getInt
  let motorTorqueRiseRateNmPerS ← value.field "motor_torque_rise_rate_nm_per_s" Json.getDouble
  .ok
    { profileVersion := profileVersion
      targetSpeedKph := some targetSpeedKph
      maxMotorTorqueNm := some maxMotorTorqueNm
      maxBrakePressureBar := some maxBrakePressureBar
      serviceBrakePressureBar := some serviceBrakePressureBar
      hardBrakePressureBar := some hardBrakePressureBar
      maxSteeringAngleDeg := some maxSteeringAngleDeg
      speedPidKp := some speedPidKp
      speedPidKi := some speedPidKi
      speedPidKd := some speedPidKd
      speedPidDerivativeFilterTauMs := some speedPidDerivativeFilterTauMs
      speedPidMaxDtMs := speedPidMaxDtMs
      motorTorqueRiseRateNmPerS := some motorTorqueRiseRateNmPerS
      parkingIdleTimeoutMs := parkingIdleTimeoutMs }

def SessionControlProfile.fromJson (value : Json) :
    Except String (SessionControlProfile Double) := do
  check (value.isObject = true) "session control profile must be a JSON object"
  let parkingTimeout ← underHeading "invalid session control profile: "
    (value.member "parking_idle_timeout_ms")
  check (ParkingTimeout parkingTimeout) "parking_idle_timeout_ms must be an integer"
  let profile ← underHeading "invalid session control profile: "
    (SessionControlProfile.fields value)
  let _ ← profile.validate
  .ok profile

def SessionControlProfileRequest.fromJson (value : Json) :
    Except String SessionControlProfileRequest := do
  check (value.isObject = true) "type must be session_control_profile"
  let type ← value.value "type" Json.getString ""
  check (type = "session_control_profile") "type must be session_control_profile"
  let metadata ← ProtocolMetadata.fromJson value
  let controlToken ← underHeading "invalid session control profile request: "
    (value.field "control_token" Json.getString)
  let profile ← SessionControlProfile.fromJson value
  let request : SessionControlProfileRequest := ⟨metadata, controlToken, profile⟩
  request.validate
  .ok request

namespace ProfileResultMessage

/-- The readings between the metadata and the effective profile: what the document says of the
request and of the activity, and the result without its profile. -/
def fields (metadata : ProtocolMetadata) (value : Json) :
    Except String ((ℕ × Bool) × ProfileResultMessage × Json) := do
  let lastRequestSeq ← value.field "last_request_seq" Json.getUint64
  let active ← value.field "active" Json.getBoolean
  let accepted ← value.field "accepted" Json.getBoolean
  let idempotent ← value.field "idempotent" Json.getBoolean
  let appliedRevision ← value.field "applied_revision" Json.getUint64
  let reason ← value.field "reason" Json.getString
  let effective ← value.member "effective_profile"
  .ok ((lastRequestSeq, active),
    ⟨metadata, accepted, idempotent, appliedRevision, reason, none⟩, effective)

def readEffective : Json → Except String (Option (SessionControlProfile Double))
  | .null => .ok none
  | effective => (SessionControlProfile.fromJson effective).map some

def fromJson (value : Json) : Except String ProfileResultMessage := do
  check (value.isObject = true) "event must be session_control_profile_result"
  let event ← value.value "event" Json.getString ""
  check (event = "session_control_profile_result")
    "event must be session_control_profile_result"
  let metadata ← ProtocolMetadata.fromJson value
  let read ← underHeading "invalid session control profile result: " (fields metadata value)
  let effectiveProfile ← readEffective read.2.2
  let result : ProfileResultMessage := { read.2.1 with effectiveProfile := effectiveProfile }
  check (read.1.1 = result.seq)
    "session control profile result last_request_seq does not match seq"
  check (read.1.2 = result.effectiveProfile.isSome)
    "session control profile result active flag does not match effective_profile"
  result.validate
  .ok result

end ProfileResultMessage

theorem underHeading_pass {α : Type} (heading : String) {read : Except String α} {a : α}
    (h : read = .ok a) : underHeading heading read = .ok a := by
  rw [h]
  rfl

/-! ## Metadata -/

/-- The checks, and what the types of the numbers hold. -/
structure ProtocolMetadata.Valid (m : ProtocolMetadata) : Prop where
  checked : m.validate = .ok ()
  seq : m.seq < 2 ^ 64
  sentAtUtcMs : m.sentAtUtcMs < 2 ^ 63

theorem protocolMetadata_validate_ok {m : ProtocolMetadata} (h : m.validate = .ok ()) :
    m.protocolVersion = protocolVersion ∧ 0 ≤ m.sentAtUtcMs := by
  unfold ProtocolMetadata.validate at h
  obtain ⟨_, hversion, h⟩ := bind_ok h
  obtain ⟨_, -, h⟩ := bind_ok h
  obtain ⟨_, -, h⟩ := bind_ok h
  obtain ⟨_, -, h⟩ := bind_ok h
  obtain ⟨_, -, hsent⟩ := bind_ok h
  exact ⟨check_ok hversion, check_ok hsent⟩

theorem protocolMetadata_fields_of_has {m : ProtocolMetadata} (hm : m.Valid) {value : Json}
    (h : value.Has m.members) : ProtocolMetadata.fields value = .ok m := by
  obtain ⟨hversion, hsent⟩ := protocolMetadata_validate_ok hm.checked
  have hone : protocolVersion = 1 := rfl
  have hint : (Json.integer m.protocolVersion).getInt = .ok m.protocolVersion :=
    Json.getInt_integer (by omega) (by omega)
  have hsentAt : (Json.integer m.sentAtUtcMs).getInt64 = .ok m.sentAtUtcMs :=
    Json.getInt64_integer (by omega) hm.sentAtUtcMs
  simp only [Json.Has, ProtocolMetadata.members, List.forall_mem_cons] at h
  obtain ⟨hv, hvehicle, hdriver, hsession, hseq, hsentFound, -⟩ := h
  unfold ProtocolMetadata.fields
  rw [Json.field_of_find hv, Json.field_of_find hvehicle, Json.field_of_find hdriver,
    Json.field_of_find hsession, Json.field_of_find hseq, Json.field_of_find hsentFound, hint,
    Json.getUint64_integer hm.seq, hsentAt]
  rfl

theorem protocolMetadata_fromJson_of_has {m : ProtocolMetadata} (hm : m.Valid) {value : Json}
    (hobject : value.isObject = true) (h : value.Has m.members) :
    ProtocolMetadata.fromJson value = .ok m := by
  unfold ProtocolMetadata.fromJson
  rw [bind_of_ok (check_pass hobject _),
    bind_of_ok (underHeading_pass _ (protocolMetadata_fields_of_has hm h)),
    bind_of_ok hm.checked]

theorem protocolMetadata_fromJson_valid {value : Json} {m : ProtocolMetadata}
    (h : ProtocolMetadata.fromJson value = .ok m) : m.Valid := by
  have hread := protocolMetadata_fromJson_ok h
  unfold ProtocolMetadata.fromJson at h
  obtain ⟨_, -, h⟩ := bind_ok h
  obtain ⟨metadata, -, h⟩ := bind_ok h
  obtain ⟨_, hchecked, h⟩ := bind_ok h
  obtain rfl := Except.ok.inj h
  obtain ⟨found, -, hseq⟩ := Json.field_ok hread.seq
  obtain ⟨found', -, hsent⟩ := Json.field_ok hread.sentAtUtcMs
  exact ⟨hchecked, Json.getUint64_lt hseq, (Json.getInt64_bounds hsent).2⟩

/-! ## Commands -/

structure ControlCommand.Valid (command : ControlCommand) : Prop where
  metadata : command.toProtocolMetadata.Valid
  checked : ∃ checked, command.validate = .ok checked

theorem controlCommand_validate_ok {command : ControlCommand} {checked : DriverCommand}
    (h : command.validate = .ok checked) :
    command.steering = some checked.steering ∧ command.throttle = some checked.throttle ∧
    command.brake = some checked.brake := by
  unfold ControlCommand.validate at h
  obtain ⟨_, -, h⟩ := bind_ok h
  obtain ⟨_, -, h⟩ := bind_ok h
  split at h
  · cases h
  · obtain ⟨steering, hsteering, h⟩ := bind_ok h
    obtain ⟨throttle, hthrottle, h⟩ := bind_ok h
    obtain ⟨brake, hbrake, h⟩ := bind_ok h
    obtain rfl := Except.ok.inj h
    exact ⟨(requireFiniteRange_ok hsteering).1, (requireFiniteRange_ok hthrottle).1,
      (requireFiniteRange_ok hbrake).1⟩

theorem controlCommand_fields_of_has {command : ControlCommand} {checked : DriverCommand}
    (hchecked : command.validate = .ok checked) {value : Json} (h : value.Has command.members) :
    ControlCommand.fields command.toProtocolMetadata value = .ok command := by
  obtain ⟨hsteering, hthrottle, hbrake⟩ := controlCommand_validate_ok hchecked
  obtain ⟨metadata, gear, steering, throttle, brake, estop, controlToken, operatorActive⟩ := command
  subst hsteering hthrottle hbrake
  simp only [Json.Has, ControlCommand.members, List.forall_mem_cons, jsonNumber] at h
  obtain ⟨-, hgear, hsteering, hthrottle, hbrake, hestop, hactive, htoken, -⟩ := h
  unfold ControlCommand.fields
  rw [Json.field_of_find hgear, Json.field_of_find hsteering, Json.field_of_find hthrottle,
    Json.field_of_find hbrake, Json.value_of_find false hestop, Json.value_of_find false hactive,
    Json.field_of_find htoken]
  rfl

theorem ProtocolMetadata.members_nodup (m : ProtocolMetadata) :
    (m.members.map Prod.fst).Nodup := by
  simp [ProtocolMetadata.members]

theorem ControlCommand.members_nodup (command : ControlCommand) :
    (command.members.map Prod.fst).Nodup := by
  simp [ControlCommand.members]

theorem controlCommand_has (command : ControlCommand) :
    command.toJson.isObject = true ∧ command.toJson.Has command.toProtocolMetadata.members ∧
    command.toJson.Has command.members := by
  have hobject : command.toProtocolMetadata.toJson.isObject = true := rfl
  have hmetadata := Json.has_object command.toProtocolMetadata.members_nodup
  have hother : (command.toProtocolMetadata.members.map Prod.fst).Disjoint
      (command.members.map Prod.fst) := by
    simp [ProtocolMetadata.members, ControlCommand.members]
  exact ⟨(Json.isObject_setAll _ _).trans hobject,
    Json.Has.setAll hobject command.members_nodup hmetadata hother,
    Json.has_setAll hobject command.members_nodup⟩

theorem controlCommand_fromJson_toJson {command : ControlCommand} (h : command.Valid) :
    ControlCommand.fromJson command.toJson = .ok command := by
  obtain ⟨checked, hchecked⟩ := h.checked
  obtain ⟨hobject, hmetadata, hmembers⟩ := controlCommand_has command
  have htype : command.toJson.value "type" Json.getString "" = .ok "control_command" :=
    Json.value_of_find "" (hmembers _ List.mem_cons_self)
  have hfields := controlCommand_fields_of_has hchecked hmembers
  unfold ControlCommand.fromJson
  rw [bind_of_ok (check_pass hobject _), bind_of_ok htype, bind_of_ok (check_pass rfl _),
    bind_of_ok (protocolMetadata_fromJson_of_has h.metadata hobject hmetadata),
    bind_of_ok (underHeading_pass _ hfields), bind_of_ok hchecked]

theorem controlCommand_fromJson_valid {value : Json} {command : ControlCommand}
    (h : ControlCommand.fromJson value = .ok command) : command.Valid := by
  obtain ⟨-, -, hchecked⟩ := controlCommand_fromJson_ok h
  unfold ControlCommand.fromJson at h
  obtain ⟨_, -, h⟩ := bind_ok h
  obtain ⟨type, -, h⟩ := bind_ok h
  obtain ⟨_, -, h⟩ := bind_ok h
  obtain ⟨metadata, hmetadata, h⟩ := bind_ok h
  obtain ⟨read, hfields, h⟩ := bind_ok h
  obtain ⟨checked, -, h⟩ := bind_ok h
  obtain rfl := Except.ok.inj h
  have hsame := (controlCommand_fields_ok (underHeading_ok hfields)).1
  exact ⟨hsame ▸ protocolMetadata_fromJson_valid hmetadata, hchecked⟩

theorem controlCommand_roundTrips :
    RoundTrips ControlCommand.Valid (fun command => .ok command.toJson) ControlCommand.fromJson :=
  .of_valid (fun command h => ⟨command.toJson, rfl, controlCommand_fromJson_toJson h⟩)
    fun _ _ h => controlCommand_fromJson_valid h

/-! ## Profiles -/

theorem profile_items_of_validate {p : SessionControlProfile Double}
    {checked : SessionControlProfile ℚ} (h : p.validate = .ok checked) :
    p.items = .ok checked.members := by
  unfold SessionControlProfile.items
  rw [h]
  rfl

theorem SessionControlProfile.members_nodup (p : SessionControlProfile ℚ) :
    (p.members.map Prod.fst).Nodup := by
  simp [SessionControlProfile.members]

theorem profile_fields_of_has {p : SessionControlProfile ℚ} (hadmitted : p.Admitted)
    {value : Json} (h : value.Has p.members) :
    SessionControlProfile.fields value = .ok p.asRequested := by
  have hfour : sessionControlProfileVersion = 4 := rfl
  have hversion := hadmitted.version
  have hidle := hadmitted.parkingIdle
  have hdt := hadmitted.maxDt
  have hgetVersion : (Json.integer p.profileVersion).getInt = .ok p.profileVersion :=
    Json.getInt_integer (by omega) (by omega)
  have hgetIdle : (Json.integer p.parkingIdleTimeoutMs).getInt = .ok p.parkingIdleTimeoutMs :=
    Json.getInt_integer (by omega) (by omega)
  have hgetDt : (Json.integer p.speedPidMaxDtMs).getInt = .ok p.speedPidMaxDtMs :=
    Json.getInt_integer (by omega) (by omega)
  simp only [Json.Has, SessionControlProfile.members, List.forall_mem_cons] at h
  obtain ⟨hprofile, hparking, hspeed, htorque, hbrake, hservice, hhard, hsteering, hkp, hki, hkd,
    hfilter, hmaxDt, hrise, -⟩ := h
  unfold SessionControlProfile.fields
  rw [Json.field_of_find hparking, Json.field_of_find hprofile, Json.field_of_find hspeed,
    Json.field_of_find htorque, Json.field_of_find hbrake, Json.field_of_find hservice,
    Json.field_of_find hhard, Json.field_of_find hsteering, Json.field_of_find hkp,
    Json.field_of_find hki, Json.field_of_find hkd, Json.field_of_find hfilter,
    Json.field_of_find hmaxDt, Json.field_of_find hrise, hgetVersion, hgetIdle, hgetDt]
  rfl

theorem profile_fromJson_of_has {p : SessionControlProfile Double}
    {checked : SessionControlProfile ℚ} (hchecked : p.validate = .ok checked) {value : Json}
    (hobject : value.isObject = true) (h : value.Has checked.members) :
    SessionControlProfile.fromJson value = .ok p := by
  have hadmitted := SessionControlProfile.validate_admitted hchecked
  have hparking : value.member "parking_idle_timeout_ms" =
      .ok (.integer checked.parkingIdleTimeoutMs) :=
    Json.member_of_find (h _ (List.mem_cons_of_mem _ List.mem_cons_self))
  have htimeout : ParkingTimeout (.integer checked.parkingIdleTimeoutMs) := hadmitted.parkingIdle
  have hfields := profile_fields_of_has hadmitted h
  rw [asRequested_of_validate hchecked] at hfields
  unfold SessionControlProfile.fromJson
  rw [bind_of_ok (check_pass hobject _), bind_of_ok (underHeading_pass _ hparking),
    bind_of_ok (check_pass htimeout _), bind_of_ok (underHeading_pass _ hfields),
    bind_of_ok hchecked]

theorem profile_fromJson_toJson {p : SessionControlProfile Double}
    {checked : SessionControlProfile ℚ} (h : p.validate = .ok checked) :
    p.toJson = .ok (.object checked.members) ∧
      SessionControlProfile.fromJson (.object checked.members) = .ok p := by
  refine ⟨?_, profile_fromJson_of_has h rfl (Json.has_object checked.members_nodup)⟩
  rw [SessionControlProfile.toJson, bind_of_ok (profile_items_of_validate h)]

/-! ## Requests -/

namespace SessionControlProfileRequest

structure Valid (request : SessionControlProfileRequest) : Prop where
  metadata : request.toProtocolMetadata.Valid
  checked : request.validate = .ok ()

theorem validate_profile {request : SessionControlProfileRequest}
    (h : request.validate = .ok ()) : ∃ checked, request.profile.validate = .ok checked := by
  unfold validate at h
  obtain ⟨_, -, h⟩ := bind_ok h
  obtain ⟨_, -, h⟩ := bind_ok h
  obtain ⟨checked, hchecked, -⟩ := bind_ok h
  exact ⟨checked, hchecked⟩

theorem members_nodup (request : SessionControlProfileRequest) :
    (request.members.map Prod.fst).Nodup := by
  simp [members]

/-- The names of the metadata, of the request and of the profile are all different. -/
theorem members_disjoint (request : SessionControlProfileRequest) (p : SessionControlProfile ℚ) :
    (request.toProtocolMetadata.members.map Prod.fst).Disjoint (request.members.map Prod.fst) ∧
    (request.toProtocolMetadata.members.map Prod.fst).Disjoint (p.members.map Prod.fst) ∧
    (request.members.map Prod.fst).Disjoint (p.members.map Prod.fst) := by
  simp [members, ProtocolMetadata.members, SessionControlProfile.members]

theorem fromJson_toJson {request : SessionControlProfileRequest} (h : request.Valid) :
    ∃ value, request.toJson = .ok value ∧ fromJson value = .ok request := by
  obtain ⟨checked, hchecked⟩ := validate_profile h.checked
  obtain ⟨hrequestOther, hprofileOther, hother⟩ := members_disjoint request checked
  have hmetadata := Json.has_object request.toProtocolMetadata.members_nodup
  have hobject : (request.toProtocolMetadata.toJson.setAll request.members).isObject = true :=
    Json.isObject_setAll _ _
  have hnodup := checked.members_nodup
  refine ⟨(request.toProtocolMetadata.toJson.setAll request.members).setAll checked.members,
    ?_, ?_⟩
  · rw [toJson, bind_of_ok h.checked, bind_of_ok (profile_items_of_validate hchecked)]
  generalize hvalue :
    (request.toProtocolMetadata.toJson.setAll request.members).setAll checked.members = value
  have hvalueObject : value.isObject = true := by
    rw [← hvalue]
    exact (Json.isObject_setAll _ _).trans hobject
  have hvalueMetadata : value.Has request.toProtocolMetadata.members := by
    rw [← hvalue]
    exact Json.Has.setAll hobject hnodup
      (Json.Has.setAll rfl request.members_nodup hmetadata hrequestOther) hprofileOther
  have hvalueMembers : value.Has request.members := by
    rw [← hvalue]
    exact Json.Has.setAll hobject hnodup (Json.has_setAll rfl request.members_nodup) hother
  have hvalueProfile : value.Has checked.members := by
    rw [← hvalue]
    exact Json.has_setAll hobject hnodup
  have htype : value.value "type" Json.getString "" = .ok "session_control_profile" :=
    Json.value_of_find "" (hvalueMembers _ List.mem_cons_self)
  have htoken : value.field "control_token" Json.getString = .ok request.controlToken :=
    Json.field_of_find (hvalueMembers _ (List.mem_cons_of_mem _ List.mem_cons_self))
  rw [fromJson, bind_of_ok (check_pass hvalueObject _), bind_of_ok htype,
    bind_of_ok (check_pass rfl _),
    bind_of_ok (protocolMetadata_fromJson_of_has h.metadata hvalueObject hvalueMetadata),
    bind_of_ok (underHeading_pass _ htoken),
    bind_of_ok (profile_fromJson_of_has hchecked hvalueObject hvalueProfile)]
  exact bind_of_ok h.checked _

theorem fromJson_valid {value : Json} {request : SessionControlProfileRequest}
    (h : fromJson value = .ok request) : request.Valid := by
  unfold fromJson at h
  obtain ⟨_, -, h⟩ := bind_ok h
  obtain ⟨type, -, h⟩ := bind_ok h
  obtain ⟨_, -, h⟩ := bind_ok h
  obtain ⟨metadata, hmetadata, h⟩ := bind_ok h
  obtain ⟨controlToken, -, h⟩ := bind_ok h
  obtain ⟨profile, -, h⟩ := bind_ok h
  obtain ⟨_, hchecked, h⟩ := bind_ok h
  obtain rfl := Except.ok.inj h
  exact ⟨protocolMetadata_fromJson_valid hmetadata, hchecked⟩

theorem roundTrips : RoundTrips Valid toJson fromJson :=
  .of_valid (fun _ h => fromJson_toJson h) fun _ _ h => fromJson_valid h

end SessionControlProfileRequest

/-! ## Results -/

namespace ProfileResultMessage

structure Valid (r : ProfileResultMessage) : Prop where
  metadata : r.toProtocolMetadata.Valid
  checked : r.validate = .ok ()

theorem validate_parts {r : ProfileResultMessage} (h : r.validate = .ok ()) :
    (∀ p ∈ r.effectiveProfile, ∃ checked, p.validate = .ok checked) ∧
    (r.appliedRevision = r.seq ∨ r.appliedRevision = 0) := by
  unfold validate at h
  obtain ⟨_, -, h⟩ := bind_ok h
  obtain ⟨_, -, h⟩ := bind_ok h
  obtain ⟨_, heffective, h⟩ := bind_ok h
  obtain ⟨_, -, h⟩ := bind_ok h
  obtain ⟨_, haccepted, hrejected⟩ := bind_ok h
  refine ⟨fun p hp => ?_, ?_⟩
  · simp only [checkEffectiveProfile, Option.mem_def.mp hp] at heffective
    cases hchecked : p.validate with
    | error what =>
      rw [hchecked] at heffective
      cases heffective
    | ok checked => exact ⟨checked, rfl⟩
  · have hone := check_ok haccepted
    have hzero := check_ok hrejected
    cases hdecision : r.accepted with
    | true => exact .inl (by_contra fun hne => hone ⟨hdecision, hne⟩)
    | false => exact .inr (by_contra fun hne => hzero ⟨hdecision, hne⟩)

/-- The member is `null` when there is no profile, and else the profile's document. -/
theorem readEffective_effectiveJson {r : ProfileResultMessage}
    (h : ∀ p ∈ r.effectiveProfile, ∃ checked, p.validate = .ok checked) :
    ∃ effective, r.effectiveJson = .ok effective ∧
      readEffective effective = .ok r.effectiveProfile := by
  unfold effectiveJson
  cases hprofile : r.effectiveProfile with
  | none => exact ⟨.null, rfl, rfl⟩
  | some p =>
    obtain ⟨checked, hchecked⟩ := h p hprofile
    obtain ⟨hwritten, hread⟩ := profile_fromJson_toJson hchecked
    refine ⟨.object checked.members, hwritten, ?_⟩
    change (SessionControlProfile.fromJson (.object checked.members)).map some = .ok (some p)
    rw [hread]
    rfl

theorem members_nodup (r : ProfileResultMessage) (effective : Json) :
    ((r.members effective).map Prod.fst).Nodup := by
  simp [members]

theorem fields_of_has {r : ProfileResultMessage} (hseq : r.seq < 2 ^ 64)
    (hrevision : r.appliedRevision < 2 ^ 64) {value effective : Json}
    (h : value.Has (r.members effective)) :
    fields r.toProtocolMetadata value =
      .ok ((r.seq, r.effectiveProfile.isSome), { r with effectiveProfile := none }, effective) := by
  simp only [Json.Has, members, List.forall_mem_cons] at h
  obtain ⟨-, hlast, hactive, haccepted, hidempotent, happlied, hreason, heffective, -⟩ := h
  unfold fields
  rw [Json.field_of_find hlast, Json.field_of_find hactive, Json.field_of_find haccepted,
    Json.field_of_find hidempotent, Json.field_of_find happlied, Json.field_of_find hreason,
    Json.member_of_find heffective, Json.getUint64_integer hseq, Json.getUint64_integer hrevision]
  rfl

theorem fromJson_toJson {r : ProfileResultMessage} (h : r.Valid) :
    ∃ value, r.toJson = .ok value ∧ fromJson value = .ok r := by
  obtain ⟨hprofile, happlied⟩ := validate_parts h.checked
  obtain ⟨effective, hwritten, hread⟩ := readEffective_effectiveJson hprofile
  have hrevision : r.appliedRevision < 2 ^ 64 := by
    have hseq := h.metadata.seq
    omega
  have hother : (r.toProtocolMetadata.members.map Prod.fst).Disjoint
      ((r.members effective).map Prod.fst) := by
    simp [members, ProtocolMetadata.members]
  have hnodup := r.members_nodup effective
  have hobject : (r.toProtocolMetadata.toJson.setAll (r.members effective)).isObject = true :=
    Json.isObject_setAll _ _
  have hmetadata : (r.toProtocolMetadata.toJson.setAll (r.members effective)).Has
      r.toProtocolMetadata.members :=
    Json.Has.setAll rfl hnodup (Json.has_object r.toProtocolMetadata.members_nodup) hother
  have hmembers : (r.toProtocolMetadata.toJson.setAll (r.members effective)).Has
      (r.members effective) := Json.has_setAll rfl hnodup
  refine ⟨r.toProtocolMetadata.toJson.setAll (r.members effective), ?_, ?_⟩
  · rw [toJson, bind_of_ok h.checked, bind_of_ok hwritten]
  generalize r.toProtocolMetadata.toJson.setAll (r.members effective) = value
    at hobject hmetadata hmembers ⊢
  have hevent : value.value "event" Json.getString "" = .ok "session_control_profile_result" :=
    Json.value_of_find "" (hmembers _ List.mem_cons_self)
  rw [fromJson, bind_of_ok (check_pass hobject _), bind_of_ok hevent, bind_of_ok (check_pass rfl _),
    bind_of_ok (protocolMetadata_fromJson_of_has h.metadata hobject hmetadata),
    bind_of_ok (underHeading_pass _ (fields_of_has h.metadata.seq hrevision hmembers)),
    bind_of_ok hread]
  change (check (r.seq = r.seq) _ >>= fun _ =>
    check (r.effectiveProfile.isSome = r.effectiveProfile.isSome) _ >>= fun _ =>
    r.validate >>= fun _ => Except.ok r) = .ok r
  rw [bind_of_ok (check_pass rfl _), bind_of_ok (check_pass rfl _), bind_of_ok h.checked]

/-- What a document that is read says of the effective profile. -/
theorem fromJson_parts {value : Json} {r : ProfileResultMessage} (h : fromJson value = .ok r) :
    r.Valid ∧ ∃ effective, value.find? "effective_profile" = some effective ∧
      readEffective effective = .ok r.effectiveProfile := by
  unfold fromJson at h
  obtain ⟨_, -, h⟩ := bind_ok h
  obtain ⟨event, -, h⟩ := bind_ok h
  obtain ⟨_, -, h⟩ := bind_ok h
  obtain ⟨metadata, hmetadata, h⟩ := bind_ok h
  obtain ⟨read, hfields, h⟩ := bind_ok h
  obtain ⟨effectiveProfile, heffective, h⟩ := bind_ok h
  obtain ⟨_, -, h⟩ := bind_ok h
  obtain ⟨_, -, h⟩ := bind_ok h
  obtain ⟨_, hchecked, h⟩ := bind_ok h
  obtain rfl := Except.ok.inj h
  have hfields := underHeading_ok hfields
  unfold fields at hfields
  obtain ⟨lastRequestSeq, -, hfields⟩ := bind_ok hfields
  obtain ⟨active, -, hfields⟩ := bind_ok hfields
  obtain ⟨accepted, -, hfields⟩ := bind_ok hfields
  obtain ⟨idempotent, -, hfields⟩ := bind_ok hfields
  obtain ⟨appliedRevision, -, hfields⟩ := bind_ok hfields
  obtain ⟨reason, -, hfields⟩ := bind_ok hfields
  obtain ⟨effective, hmember, hfields⟩ := bind_ok hfields
  obtain rfl := Except.ok.inj hfields
  exact ⟨⟨protocolMetadata_fromJson_valid hmetadata, hchecked⟩, effective, Json.member_ok hmember,
    heffective⟩

theorem roundTrips : RoundTrips Valid toJson fromJson :=
  .of_valid (fun _ h => fromJson_toJson h) fun _ _ h => (fromJson_parts h).1

theorem readEffective_none_iff {effective : Json} {profile : Option (SessionControlProfile Double)}
    (h : readEffective effective = .ok profile) : profile = none ↔ effective = .null := by
  unfold readEffective at h
  split at h
  · obtain rfl := Except.ok.inj h
    simp
  · rename_i hnull
    cases hread : SessionControlProfile.fromJson effective with
    | error what =>
      rw [hread] at h
      cases h
    | ok p =>
      rw [hread] at h
      obtain rfl := Except.ok.inj h
      simpa using hnull

/-- A result has no effective profile exactly when the document has `null` for it. -/
theorem effective_iff {value : Json} {r : ProfileResultMessage} (h : fromJson value = .ok r) :
    value.contains "effective_profile" = true ∧
    (r.effectiveProfile = none ↔ value.find? "effective_profile" = some .null) := by
  obtain ⟨-, effective, hfound, hread⟩ := fromJson_parts h
  have hnone := readEffective_none_iff hread
  refine ⟨by rw [Json.contains, hfound]; rfl, hnone.trans ?_⟩
  rw [hfound]
  simp

end ProfileResultMessage

/-! ## The three kinds of document -/

/-- A member with a default that is absent has the default, and one that is there its value. -/
def ReadWithDefault (value : Json) (key : String) (read : Bool) : Prop :=
  (value.find? key = none ∧ read = false) ∨ value.find? key = some (.boolean read)

theorem readWithDefault_of_value {value : Json} {key : String} {read : Bool}
    (h : value.value key Json.getBoolean false = .ok read) : ReadWithDefault value key read := by
  rcases Json.value_ok h with ⟨habsent, rfl⟩ | ⟨found, hfound, hget⟩
  · exact .inl ⟨habsent, rfl⟩
  · cases found with
    | boolean flag =>
      obtain rfl := Except.ok.inj hget
      exact .inr hfound
    | _ => cases hget

theorem controlCommand_defaults {value : Json} {command : ControlCommand}
    (h : ControlCommand.fromJson value = .ok command) :
    ReadWithDefault value "estop" command.estop ∧
    ReadWithDefault value "operator_active" command.operatorActive := by
  unfold ControlCommand.fromJson at h
  obtain ⟨_, -, h⟩ := bind_ok h
  obtain ⟨type, -, h⟩ := bind_ok h
  obtain ⟨_, -, h⟩ := bind_ok h
  obtain ⟨metadata, -, h⟩ := bind_ok h
  obtain ⟨read, hfields, h⟩ := bind_ok h
  obtain ⟨checked, -, h⟩ := bind_ok h
  obtain rfl := Except.ok.inj h
  have hfields := underHeading_ok hfields
  unfold ControlCommand.fields at hfields
  obtain ⟨gear, -, hfields⟩ := bind_ok hfields
  obtain ⟨steering, -, hfields⟩ := bind_ok hfields
  obtain ⟨throttle, -, hfields⟩ := bind_ok hfields
  obtain ⟨brake, -, hfields⟩ := bind_ok hfields
  obtain ⟨estop, hestop, hfields⟩ := bind_ok hfields
  obtain ⟨operatorActive, hactive, hfields⟩ := bind_ok hfields
  obtain ⟨controlToken, -, hfields⟩ := bind_ok hfields
  obtain rfl := Except.ok.inj hfields
  exact ⟨readWithDefault_of_value hestop, readWithDefault_of_value hactive⟩

/-- Every valid message is read back from its document, every document that is read is written
again as one that is read as the same, and no member that may be absent is mistaken. -/
theorem documents_round_trip :
    RoundTrips ControlCommand.Valid (fun command => .ok command.toJson) ControlCommand.fromJson ∧
    RoundTrips SessionControlProfileRequest.Valid SessionControlProfileRequest.toJson
      SessionControlProfileRequest.fromJson ∧
    RoundTrips ProfileResultMessage.Valid ProfileResultMessage.toJson
      ProfileResultMessage.fromJson ∧
    (∀ value command, ControlCommand.fromJson value = .ok command →
      ReadWithDefault value "estop" command.estop ∧
      ReadWithDefault value "operator_active" command.operatorActive) ∧
    (∀ value r, ProfileResultMessage.fromJson value = .ok r →
      value.contains "effective_profile" = true ∧
      (r.effectiveProfile = none ↔ value.find? "effective_profile" = some .null)) :=
  ⟨controlCommand_roundTrips, SessionControlProfileRequest.roundTrips,
    ProfileResultMessage.roundTrips, fun _ _ h => controlCommand_defaults h,
    fun _ _ h => ProfileResultMessage.effective_iff h⟩

/-- A rejected result without a profile. -/
def refusedResult : ProfileResultMessage :=
  { vehicleId := "v1", driverId := "d1", sessionId := "s1", seq := 3, reason := "parking_required" }

example : (refusedResult.toJson.bind ProfileResultMessage.fromJson) = .ok refusedResult := by
  decide +kernel

end MineTeleop.Service
