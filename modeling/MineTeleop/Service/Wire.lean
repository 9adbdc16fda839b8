import MineTeleop.Library.Documents
import MineTeleop.Service.Command

/-!
# Commands as documents

A command is read from a JSON document field by field, and then checked.

Proved here, for every document:

* `controlCommand_fromJson_ok`: a document that is read has the fields of the command, and the
  command passes its checks;
* `controlCommand_fromJson_speaks`: one that is not is refused with a text.
-/

namespace MineTeleop.Service

open Bridge (Double)
open Documents

/-- The exceptions of the document, under a heading. -/
def underHeading {α : Type} (heading : String) : Except String α → Except String α
  | .ok a => .ok a
  | .error what => .error (heading ++ what)

theorem underHeading_ok {α : Type} {heading : String} {read : Except String α} {a : α}
    (h : underHeading heading read = .ok a) : read = .ok a := by
  cases read with
  | ok b => exact h
  | error what => cases h

theorem bind_of_ok {α β : Type} {x : Except String α} {a : α} (h : x = .ok a)
    (f : α → Except String β) : (x >>= f) = f a := by
  rw [h]
  rfl

def ProtocolMetadata.fields (value : Json) : Except String ProtocolMetadata := do
  let protocolVersion ← value.field "protocol_version" Json.getInt
  let vehicleId ← value.field "vehicle_id" Json.getString
  let driverId ← value.field "driver_id" Json.getString
  let sessionId ← value.field "session_id" Json.getString
  let seq ← value.field "seq" Json.getUint64
  let sentAtUtcMs ← value.field "sent_at_utc_ms" Json.getInt64
  .ok ⟨protocolVersion, vehicleId, driverId, sessionId, seq, sentAtUtcMs⟩

def ProtocolMetadata.fromJson (value : Json) : Except String ProtocolMetadata := do
  check (value.isObject = true) "protocol message must be a JSON object"
  let metadata ← underHeading "invalid protocol metadata: " (ProtocolMetadata.fields value)
  metadata.validate
  .ok metadata

/-- The fields behind the metadata. -/
def ControlCommand.fields (metadata : ProtocolMetadata) (value : Json) :
    Except String ControlCommand := do
  let gear ← value.field "gear" Json.getString
  let steering ← value.field "steering" Json.getDouble
  let throttle ← value.field "throttle" Json.getDouble
  let brake ← value.field "brake" Json.getDouble
  let estop ← value.value "estop" Json.getBoolean false
  let operatorActive ← value.value "operator_active" Json.getBoolean false
  let controlToken ← value.field "control_token" Json.getString
  .ok ⟨metadata, gear, some steering, some throttle, some brake, estop, controlToken,
    operatorActive⟩

def ControlCommand.fromJson (value : Json) : Except String ControlCommand := do
  check (value.isObject = true) "control command must be a JSON object"
  let type ← value.value "type" Json.getString ""
  check (type = "control_command") "type must be control_command"
  let metadata ← ProtocolMetadata.fromJson value
  let command ← underHeading "invalid control command: " (ControlCommand.fields metadata value)
  let _ ← command.validate
  .ok command

/-! ## What has been read -/

/-- The document has the fields of the metadata that are read again. -/
structure ProtocolMetadata.ReadFrom (m : ProtocolMetadata) (value : Json) : Prop where
  sessionId : value.field "session_id" Json.getString = .ok m.sessionId
  seq : value.field "seq" Json.getUint64 = .ok m.seq
  sentAtUtcMs : value.field "sent_at_utc_ms" Json.getInt64 = .ok m.sentAtUtcMs

theorem protocolMetadata_fields_ok {value : Json} {m : ProtocolMetadata}
    (h : ProtocolMetadata.fields value = .ok m) : m.ReadFrom value := by
  unfold ProtocolMetadata.fields at h
  obtain ⟨protocolVersion, -, h⟩ := bind_ok h
  obtain ⟨vehicleId, -, h⟩ := bind_ok h
  obtain ⟨driverId, -, h⟩ := bind_ok h
  obtain ⟨sessionId, hsession, h⟩ := bind_ok h
  obtain ⟨seq, hseq, h⟩ := bind_ok h
  obtain ⟨sentAtUtcMs, hsent, h⟩ := bind_ok h
  obtain rfl := Except.ok.inj h
  exact ⟨hsession, hseq, hsent⟩

theorem protocolMetadata_fromJson_ok {value : Json} {m : ProtocolMetadata}
    (h : ProtocolMetadata.fromJson value = .ok m) : m.ReadFrom value := by
  unfold ProtocolMetadata.fromJson at h
  obtain ⟨_, -, h⟩ := bind_ok h
  obtain ⟨metadata, hfields, h⟩ := bind_ok h
  obtain ⟨_, -, h⟩ := bind_ok h
  obtain rfl := Except.ok.inj h
  exact protocolMetadata_fields_ok (underHeading_ok hfields)

theorem controlCommand_fields_ok {metadata : ProtocolMetadata} {value : Json}
    {command : ControlCommand} (h : ControlCommand.fields metadata value = .ok command) :
    command.toProtocolMetadata = metadata ∧
      value.value "estop" Json.getBoolean false = .ok command.estop := by
  unfold ControlCommand.fields at h
  obtain ⟨gear, -, h⟩ := bind_ok h
  obtain ⟨steering, -, h⟩ := bind_ok h
  obtain ⟨throttle, -, h⟩ := bind_ok h
  obtain ⟨brake, -, h⟩ := bind_ok h
  obtain ⟨estop, hestop, h⟩ := bind_ok h
  obtain ⟨operatorActive, -, h⟩ := bind_ok h
  obtain ⟨controlToken, -, h⟩ := bind_ok h
  obtain rfl := Except.ok.inj h
  exact ⟨rfl, hestop⟩

theorem controlCommand_fromJson_ok {value : Json} {command : ControlCommand}
    (h : ControlCommand.fromJson value = .ok command) :
    command.toProtocolMetadata.ReadFrom value ∧
      value.value "estop" Json.getBoolean false = .ok command.estop ∧
      ∃ checked, command.validate = .ok checked := by
  unfold ControlCommand.fromJson at h
  obtain ⟨_, -, h⟩ := bind_ok h
  obtain ⟨type, -, h⟩ := bind_ok h
  obtain ⟨_, -, h⟩ := bind_ok h
  obtain ⟨metadata, hmetadata, h⟩ := bind_ok h
  obtain ⟨read, hfields, h⟩ := bind_ok h
  obtain ⟨checked, hchecked, h⟩ := bind_ok h
  obtain rfl := Except.ok.inj h
  obtain ⟨hsame, hestop⟩ := controlCommand_fields_ok (underHeading_ok hfields)
  exact ⟨hsame ▸ protocolMetadata_fromJson_ok hmetadata, hestop, checked, hchecked⟩

/-! ## What is refused -/

theorem check_speaks (ok : Prop) [Decidable ok] {message : String} (h : message ≠ "") :
    Speaks (check ok message) := by
  unfold check
  split
  · exact speaks_ok ()
  · exact speaks_error h

theorem requireFiniteRange_speaks (value : Double) (minimum maximum : ℚ) (label : String) :
    Speaks (requireFiniteRange value minimum maximum label) := by
  have htext : label ++ " must be a finite value in [" ++ toFixed minimum ++ ", " ++
      toFixed maximum ++ "]" ≠ "" := append_ne_empty_right _ (by decide)
  unfold requireFiniteRange
  split
  · split
    · exact speaks_error htext
    · exact speaks_ok _
  · exact speaks_error htext

theorem protocolMetadata_validate_speaks (m : ProtocolMetadata) : Speaks m.validate := by
  refine (check_speaks _ (by decide)).bind fun _ => ?_
  refine (check_speaks _ (by decide)).bind fun _ => ?_
  refine (check_speaks _ (by decide)).bind fun _ => ?_
  refine (check_speaks _ (by decide)).bind fun _ => ?_
  refine (check_speaks _ (by decide)).bind fun _ => ?_
  exact check_speaks _ (by decide)

theorem controlCommand_validate_speaks (command : ControlCommand) : Speaks command.validate := by
  refine (protocolMetadata_validate_speaks _).bind fun _ => ?_
  refine (check_speaks _ (by decide)).bind fun _ => ?_
  split
  · exact speaks_error (by decide)
  · refine (requireFiniteRange_speaks _ _ _ _).bind fun steering => ?_
    refine (requireFiniteRange_speaks _ _ _ _).bind fun throttle => ?_
    exact (requireFiniteRange_speaks _ _ _ _).bind fun brake => speaks_ok _

theorem underHeading_speaks {α : Type} (heading : String) {read : Except String α}
    (h : Speaks read) : Speaks (underHeading heading read) := by
  cases read with
  | ok a => exact speaks_ok a
  | error what => exact speaks_error (append_ne_empty_right heading (h what rfl))

theorem protocolMetadata_fields_speaks (value : Json) : Speaks (ProtocolMetadata.fields value) := by
  refine (value.field_speaks _ Json.getInt_speaks).bind fun protocolVersion => ?_
  refine (value.field_speaks _ Json.getString_speaks).bind fun vehicleId => ?_
  refine (value.field_speaks _ Json.getString_speaks).bind fun driverId => ?_
  refine (value.field_speaks _ Json.getString_speaks).bind fun sessionId => ?_
  refine (value.field_speaks _ Json.getUint64_speaks).bind fun seq => ?_
  exact (value.field_speaks _ Json.getInt64_speaks).bind fun sentAtUtcMs => speaks_ok _

theorem controlCommand_fields_speaks (metadata : ProtocolMetadata) (value : Json) :
    Speaks (ControlCommand.fields metadata value) := by
  refine (value.field_speaks _ Json.getString_speaks).bind fun gear => ?_
  refine (value.field_speaks _ Json.getDouble_speaks).bind fun steering => ?_
  refine (value.field_speaks _ Json.getDouble_speaks).bind fun throttle => ?_
  refine (value.field_speaks _ Json.getDouble_speaks).bind fun brake => ?_
  refine (value.value_speaks _ false Json.getBoolean_speaks).bind fun estop => ?_
  refine (value.value_speaks _ false Json.getBoolean_speaks).bind fun operatorActive => ?_
  exact (value.field_speaks _ Json.getString_speaks).bind fun controlToken => speaks_ok _

theorem controlCommand_fromJson_speaks (value : Json) : Speaks (ControlCommand.fromJson value) := by
  refine (check_speaks _ (by decide)).bind fun _ => ?_
  refine (value.value_speaks _ "" Json.getString_speaks).bind fun type => ?_
  refine (check_speaks _ (by decide)).bind fun _ => ?_
  have hmetadata : Speaks (ProtocolMetadata.fromJson value) := by
    refine (check_speaks _ (by decide)).bind fun _ => ?_
    refine (underHeading_speaks _ (protocolMetadata_fields_speaks value)).bind fun metadata => ?_
    exact (protocolMetadata_validate_speaks metadata).bind fun _ => speaks_ok metadata
  refine hmetadata.bind fun metadata => ?_
  refine (underHeading_speaks _ (controlCommand_fields_speaks metadata value)).bind fun command => ?_
  exact (controlCommand_validate_speaks command).bind fun _ => speaks_ok command

end MineTeleop.Service
