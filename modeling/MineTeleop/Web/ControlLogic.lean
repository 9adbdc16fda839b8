import MineTeleop.Library.Documents
import Mathlib.Algebra.Order.Group.Unbundled.Abs
import Mathlib.Data.List.Dedup
import Mathlib.Algebra.Order.Ring.Int

/-!
# The control profile of the driver page

The part of `control_logic.js` that reads a control profile and follows the profile's status. A
property that is absent is undefined; the module treats it as it treats null. Numbers are exact,
and `numberText` is the decimal text the language gives them.

Proved here:

* `normalizeControlProfile_document`: a profile that passes its checks is read back from its
  document;
* `controlProfilesEqual_iff`: which profiles the page takes for equal.
-/

namespace MineTeleop.Web

open Documents

/-! ## Values of the language -/

def property (value : Json) (key : String) : Json := (value.find? key).getD .null

def truthy : Json → Bool
  | .null => false
  | .boolean value => value
  | .integer value => decide (value ≠ 0)
  | .number value => decide (value ≠ 0)
  | .string value => decide (value ≠ "")
  | .array _ => true
  | .object _ => true

/-- `typeof value === 'number'`; a document does not tell an integer from a number. -/
def number? : Json → Option ℚ
  | .integer value => some value
  | .number value => some value
  | _ => none

def maxSafeInteger : ℤ := 2 ^ 53 - 1

/-- `Number.isSafeInteger`. -/
def IsSafeInteger (number : ℚ) : Prop := number.den = 1 ∧ |number.num| ≤ maxSafeInteger

instance (number : ℚ) : Decidable (IsSafeInteger number) := inferInstanceAs (Decidable (_ ∧ _))

/-- The value when it is a safe integer. -/
def safeInteger? (value : Json) : Option ℤ :=
  match number? value with
  | some number => if IsSafeInteger number then some number.num else none
  | none => none

section
variable (numberText : ℚ → String)

mutual

/-- `String(value)`. -/
def jsString : Json → String
  | .null => "null"
  | .boolean value => if value then "true" else "false"
  | .integer value => numberText value
  | .number value => numberText value
  | .string value => value
  | .array elements => joined elements
  | .object _ => "[object Object]"

/-- An array's elements with commas between them; null is the empty text there. -/
def joined : List Json → String
  | [] => ""
  | [.null] => ""
  | [element] => jsString element
  | .null :: elements => "," ++ joined elements
  | element :: elements => jsString element ++ "," ++ joined elements

end

/-! ## Ranges -/

def requireFiniteRange (value : Json) (minimum maximum : ℚ) (name : String) : Except String ℚ :=
  let text := name ++ " must be finite and in [" ++ numberText minimum ++ ", " ++
    numberText maximum ++ "]"
  match number? value with
  | none => .error text
  | some number => if number < minimum ∨ maximum < number then .error text else .ok number

def requireIntegerRange (value : Json) (minimum maximum : ℚ) (name : String) : Except String ℤ := do
  let number ← requireFiniteRange numberText value minimum maximum name
  if IsSafeInteger number then .ok number.num else .error (name ++ " must be an integer")

/-! ## Profiles -/

def controlProfileVersion : ℤ := 4

def controlProfileFields : List String :=
  ["profile_version", "parking_idle_timeout_ms", "target_speed_kph", "max_motor_torque_nm",
    "max_brake_pressure_bar", "service_brake_pressure_bar", "hard_brake_pressure_bar",
    "max_steering_angle_deg", "speed_pid_kp", "speed_pid_ki", "speed_pid_kd",
    "speed_pid_derivative_filter_tau_ms", "speed_pid_max_dt_ms",
    "motor_torque_rise_rate_nm_per_s"]

/-- A profile behind `profile_version`. -/
structure ControlProfile where
  parkingIdleTimeoutMs : ℤ
  targetSpeedKph : ℚ
  maxMotorTorqueNm : ℚ
  maxBrakePressureBar : ℚ
  serviceBrakePressureBar : ℚ
  hardBrakePressureBar : ℚ
  maxSteeringAngleDeg : ℚ
  speedPidKp : ℚ
  speedPidKi : ℚ
  speedPidKd : ℚ
  speedPidDerivativeFilterTauMs : ℚ
  speedPidMaxDtMs : ℤ
  motorTorqueRiseRateNmPerS : ℚ
  deriving DecidableEq

def ControlProfile.document (profile : ControlProfile) : Json :=
  .object [("profile_version", .integer controlProfileVersion),
    ("parking_idle_timeout_ms", .integer profile.parkingIdleTimeoutMs),
    ("target_speed_kph", .number profile.targetSpeedKph),
    ("max_motor_torque_nm", .number profile.maxMotorTorqueNm),
    ("max_brake_pressure_bar", .number profile.maxBrakePressureBar),
    ("service_brake_pressure_bar", .number profile.serviceBrakePressureBar),
    ("hard_brake_pressure_bar", .number profile.hardBrakePressureBar),
    ("max_steering_angle_deg", .number profile.maxSteeringAngleDeg),
    ("speed_pid_kp", .number profile.speedPidKp),
    ("speed_pid_ki", .number profile.speedPidKi),
    ("speed_pid_kd", .number profile.speedPidKd),
    ("speed_pid_derivative_filter_tau_ms", .number profile.speedPidDerivativeFilterTauMs),
    ("speed_pid_max_dt_ms", .integer profile.speedPidMaxDtMs),
    ("motor_torque_rise_rate_nm_per_s", .number profile.motorTorqueRiseRateNmPerS)]

/-- The object has the fields as its keys, each and no other. -/
def HasExactly (fields : List String) : Json → Prop
  | .object members =>
    (members.map Prod.fst).dedup.length = fields.length ∧
      ∀ field ∈ fields, field ∈ members.map Prod.fst
  | _ => False

instance (fields : List String) : (value : Json) → Decidable (HasExactly fields value)
  | .object _ => inferInstanceAs (Decidable (_ ∧ _))
  | .null | .boolean _ | .integer _ | .number _ | .string _ | .array _ => .isFalse id

/-- `!value || typeof value !== 'object'` does not hold. -/
def IsObjectValue : Json → Prop
  | .object _ | .array _ => True
  | _ => False

instance : DecidablePred IsObjectValue
  | .object _ | .array _ => .isTrue trivial
  | .null | .boolean _ | .integer _ | .number _ | .string _ => .isFalse id

def normalizeControlProfile (value : Json) : Except String ControlProfile := do
  if ¬IsObjectValue value then .error "control profile must be an object"
  else if ¬HasExactly controlProfileFields value then
    .error "control profile must contain exactly the V4 fields"
  else if number? (property value "profile_version") ≠ some (controlProfileVersion : ℚ) then
    .error ("profile_version must be " ++ numberText controlProfileVersion)
  else
    let finite (name : String) (maximum : ℚ) :=
      requireFiniteRange numberText (property value name) 0 maximum name
    let parkingIdleTimeoutMs ← requireIntegerRange numberText
      (property value "parking_idle_timeout_ms") 0 1000 "parking_idle_timeout_ms"
    let targetSpeedKph ← finite "target_speed_kph" 72
    let maxMotorTorqueNm ← finite "max_motor_torque_nm" 640
    let maxBrakePressureBar ← finite "max_brake_pressure_bar" (3276 / 10)
    let serviceBrakePressureBar ← finite "service_brake_pressure_bar" (3276 / 10)
    let hardBrakePressureBar ← finite "hard_brake_pressure_bar" (3276 / 10)
    let maxSteeringAngleDeg ← finite "max_steering_angle_deg" 30
    let speedPidKp ← finite "speed_pid_kp" 100
    let speedPidKi ← finite "speed_pid_ki" 100
    let speedPidKd ← finite "speed_pid_kd" 100
    let speedPidDerivativeFilterTauMs ← finite "speed_pid_derivative_filter_tau_ms" 2000
    let speedPidMaxDtMs ← requireIntegerRange numberText
      (property value "speed_pid_max_dt_ms") 20 200 "speed_pid_max_dt_ms"
    let motorTorqueRiseRateNmPerS ← finite "motor_torque_rise_rate_nm_per_s" 32000
    if speedPidKp ≤ 0 then .error "speed_pid_kp must be greater than 0"
    else if hardBrakePressureBar < serviceBrakePressureBar ∨
        maxBrakePressureBar < hardBrakePressureBar then
      .error ("brake pressures must satisfy service_brake_pressure_bar <= " ++
        "hard_brake_pressure_bar <= max_brake_pressure_bar")
    else
      .ok
        { parkingIdleTimeoutMs
          targetSpeedKph
          maxMotorTorqueNm
          maxBrakePressureBar
          serviceBrakePressureBar
          hardBrakePressureBar
          maxSteeringAngleDeg
          speedPidKp
          speedPidKi
          speedPidKd
          speedPidDerivativeFilterTauMs
          speedPidMaxDtMs
          motorTorqueRiseRateNmPerS }

/-- The comparison of two profiles that have been read. -/
def ControlProfile.Alike (left right : ControlProfile) : Prop :=
  left.targetSpeedKph = right.targetSpeedKph ∧
  left.maxMotorTorqueNm = right.maxMotorTorqueNm ∧
  left.maxBrakePressureBar = right.maxBrakePressureBar ∧
  left.serviceBrakePressureBar = right.serviceBrakePressureBar ∧
  left.hardBrakePressureBar = right.hardBrakePressureBar ∧
  left.maxSteeringAngleDeg = right.maxSteeringAngleDeg ∧
  left.speedPidKp = right.speedPidKp ∧
  left.speedPidKi = right.speedPidKi ∧
  left.speedPidKd = right.speedPidKd ∧
  left.speedPidDerivativeFilterTauMs = right.speedPidDerivativeFilterTauMs ∧
  left.speedPidMaxDtMs = right.speedPidMaxDtMs ∧
  left.motorTorqueRiseRateNmPerS = right.motorTorqueRiseRateNmPerS

instance (left right : ControlProfile) : Decidable (left.Alike right) :=
  inferInstanceAs (Decidable (_ ∧ _))

def controlProfilesEqual (leftValue rightValue : Json) : Bool :=
  match normalizeControlProfile numberText leftValue,
    normalizeControlProfile numberText rightValue with
  | .ok left, .ok right => decide (left.Alike right)
  | _, _ => false

/-! ## The status of the profile -/

structure ControlProfileState where
  requestedProfile : Json := .null
  pendingRequestSeq : ℤ := 0
  effectiveProfile : Json := .null
  effectiveRequestSeq : ℤ := 0
  effectiveAppliedRevision : ℤ := 0
  acknowledged : Bool := false
  reason : String := ""
  deriving DecidableEq

/-- What `reduceControlProfileStatus` returns. -/
structure ReducedStatus where
  state : ControlProfileState
  matched : Bool
  invalidated : Bool

/-- No profile is in force any more. -/
def ControlProfileState.invalidate (state : ControlProfileState) (reason : String) :
    ReducedStatus where
  state :=
    { state with
      effectiveProfile := .null
      effectiveRequestSeq := 0
      effectiveAppliedRevision := 0
      acknowledged := false
      reason := reason }
  matched := true
  invalidated := true

/-- `String(status.reason || fallback)`. -/
def statusReason (status : Json) (fallback : String) : String :=
  let reason := property status "reason"
  if truthy reason then jsString numberText reason else fallback

/-- `status.accepted !== true || status.active !== true` does not hold. -/
def InForce (status : Json) : Prop :=
  property status "accepted" = .boolean true ∧ property status "active" = .boolean true

instance (status : Json) : Decidable (InForce status) := inferInstanceAs (Decidable (_ ∧ _))

/-- The branch of a request that is pending. -/
def reducePending (state : ControlProfileState) (status : Json) : ReducedStatus :=
  if safeInteger? (property status "last_request_seq") ≠ some state.pendingRequestSeq then
    ⟨state, false, false⟩
  else
    let settled := { state with pendingRequestSeq := 0 }
    if ¬InForce status then
      settled.invalidate (statusReason numberText status "profile_rejected")
    else
      match safeInteger? (property status "applied_revision") with
      | none => settled.invalidate "applied_revision_mismatch"
      | some appliedRevision =>
        if appliedRevision ≤ 0 ∨ appliedRevision ≠ state.pendingRequestSeq then
          settled.invalidate "applied_revision_mismatch"
        else
          match normalizeControlProfile numberText (property status "effective_profile") with
          | .error message => settled.invalidate ("invalid_effective_profile: " ++ message)
          | .ok effectiveProfile =>
            if controlProfilesEqual numberText effectiveProfile.document state.requestedProfile =
                false then
              settled.invalidate "effective_profile_mismatch"
            else
              { state :=
                  { settled with
                    effectiveProfile := effectiveProfile.document
                    effectiveRequestSeq := state.pendingRequestSeq
                    effectiveAppliedRevision := appliedRevision
                    acknowledged := true
                    reason := statusReason numberText status "accepted" }
                matched := true
                invalidated := false }

/-- The branch of a profile that has been acknowledged. -/
def reduceAcknowledged (state : ControlProfileState) (status : Json) : ReducedStatus :=
  let replaced := state.invalidate (statusReason numberText status "profile_inactive_or_replaced")
  if ¬InForce status ∨
      safeInteger? (property status "last_request_seq") ≠ some state.effectiveRequestSeq then
    replaced
  else
    match safeInteger? (property status "applied_revision") with
    | none => replaced
    | some appliedRevision =>
      if appliedRevision ≤ 0 ∨ appliedRevision ≠ state.effectiveAppliedRevision then replaced
      else
        match normalizeControlProfile numberText (property status "effective_profile") with
        | .error message => state.invalidate ("invalid_effective_profile: " ++ message)
        | .ok effectiveProfile =>
          if controlProfilesEqual numberText effectiveProfile.document state.effectiveProfile =
              false then
            state.invalidate "effective_profile_changed"
          else
            { state :=
                { state with
                  effectiveProfile := effectiveProfile.document
                  reason := statusReason numberText status
                    (if state.reason = "" then "accepted" else state.reason) }
              matched := true
              invalidated := false }

def reduceControlProfileStatus (state : ControlProfileState) (statusValue : Json) :
    ReducedStatus :=
  let status := if IsObjectValue statusValue then statusValue else .object []
  if IsSafeInteger state.pendingRequestSeq ∧ 0 < state.pendingRequestSeq then
    reducePending numberText state status
  else if state.acknowledged then reduceAcknowledged numberText state status
  else ⟨state, false, false⟩

end

/-! ## What has been read -/

section
variable {numberText : ℚ → String} {value : Json} {minimum maximum : ℚ} {name : String}

theorem requireFiniteRange_ok_iff {number : ℚ} :
    requireFiniteRange numberText value minimum maximum name = .ok number ↔
      number? value = some number ∧ minimum ≤ number ∧ number ≤ maximum := by
  unfold requireFiniteRange
  cases number? value with
  | none => simp
  | some found =>
    simp only [ite_error_eq_ok_iff, not_or, not_lt, Except.ok.injEq, Option.some.injEq]
    constructor
    · rintro ⟨hrange, rfl⟩
      exact ⟨rfl, hrange⟩
    · rintro ⟨rfl, hrange⟩
      exact ⟨hrange, rfl⟩

theorem requireIntegerRange_ok_iff {number : ℤ} :
    requireIntegerRange numberText value minimum maximum name = .ok number ↔
      number? value = some (number : ℚ) ∧ minimum ≤ number ∧ number ≤ maximum ∧
        |number| ≤ maxSafeInteger := by
  simp only [requireIntegerRange, bind_eq_ok_iff, requireFiniteRange_ok_iff]
  constructor
  · rintro ⟨found, ⟨hfound, hmin, hmax⟩, h⟩
    split at h
    · rename_i hsafe
      obtain rfl := Except.ok.inj h
      have hinteger : ((found.num : ℤ) : ℚ) = found := Rat.coe_int_num_of_den_eq_one hsafe.1
      rw [hinteger]
      exact ⟨hfound, hmin, hmax, hsafe.2⟩
    · cases h
  · rintro ⟨hfound, hmin, hmax, hsafe⟩
    have hinteger : IsSafeInteger (number : ℚ) := ⟨Rat.den_intCast number, hsafe⟩
    exact ⟨number, ⟨hfound, hmin, hmax⟩, by rw [if_pos hinteger]; rfl⟩

theorem isSafe_of_le {number : ℤ} (hmin : 0 ≤ number) (hmax : number ≤ 1000) :
    |number| ≤ maxSafeInteger := by
  rw [abs_of_nonneg hmin]
  exact hmax.trans (by decide)

/-- The checks of a profile. -/
structure ControlProfile.Valid (profile : ControlProfile) : Prop where
  parkingIdleTimeoutMs : 0 ≤ profile.parkingIdleTimeoutMs ∧ profile.parkingIdleTimeoutMs ≤ 1000
  targetSpeedKph : 0 ≤ profile.targetSpeedKph ∧ profile.targetSpeedKph ≤ 72
  maxMotorTorqueNm : 0 ≤ profile.maxMotorTorqueNm ∧ profile.maxMotorTorqueNm ≤ 640
  maxBrakePressureBar : 0 ≤ profile.maxBrakePressureBar ∧
    profile.maxBrakePressureBar ≤ 3276 / 10
  serviceBrakePressureBar : 0 ≤ profile.serviceBrakePressureBar ∧
    profile.serviceBrakePressureBar ≤ 3276 / 10
  hardBrakePressureBar : 0 ≤ profile.hardBrakePressureBar ∧
    profile.hardBrakePressureBar ≤ 3276 / 10
  maxSteeringAngleDeg : 0 ≤ profile.maxSteeringAngleDeg ∧ profile.maxSteeringAngleDeg ≤ 30
  speedPidKp : 0 ≤ profile.speedPidKp ∧ profile.speedPidKp ≤ 100
  speedPidKi : 0 ≤ profile.speedPidKi ∧ profile.speedPidKi ≤ 100
  speedPidKd : 0 ≤ profile.speedPidKd ∧ profile.speedPidKd ≤ 100
  speedPidDerivativeFilterTauMs : 0 ≤ profile.speedPidDerivativeFilterTauMs ∧
    profile.speedPidDerivativeFilterTauMs ≤ 2000
  speedPidMaxDtMs : 20 ≤ profile.speedPidMaxDtMs ∧ profile.speedPidMaxDtMs ≤ 200
  motorTorqueRiseRateNmPerS : 0 ≤ profile.motorTorqueRiseRateNmPerS ∧
    profile.motorTorqueRiseRateNmPerS ≤ 32000
  proportional : 0 < profile.speedPidKp
  ordered : profile.serviceBrakePressureBar ≤ profile.hardBrakePressureBar ∧
    profile.hardBrakePressureBar ≤ profile.maxBrakePressureBar

theorem normalizeControlProfile_valid {profile : ControlProfile}
    (h : normalizeControlProfile numberText value = .ok profile) : profile.Valid := by
  simp only [normalizeControlProfile, ite_error_eq_ok_iff, bind_eq_ok_iff,
    requireFiniteRange_ok_iff, requireIntegerRange_ok_iff, Except.ok.injEq, not_le, not_or,
    not_lt] at h
  obtain ⟨-, -, -, parking, ⟨-, hparking⟩, speed, ⟨-, hspeed⟩, torque, ⟨-, htorque⟩, brake,
    ⟨-, hbrake⟩, service, ⟨-, hservice⟩, hard, ⟨-, hhard⟩, steering, ⟨-, hsteering⟩, kp, ⟨-, hkp⟩,
    ki, ⟨-, hki⟩, kd, ⟨-, hkd⟩, tau, ⟨-, htau⟩, dt, ⟨-, hdt⟩, rise, ⟨-, hrise⟩, hpositive, hordered,
    rfl⟩ := h
  refine ⟨?_, hspeed, htorque, hbrake, hservice, hhard, hsteering, hkp, hki, hkd, htau, ?_, hrise,
    hpositive, hordered⟩
  · exact ⟨by exact_mod_cast hparking.1, by exact_mod_cast hparking.2.1⟩
  · exact ⟨by exact_mod_cast hdt.1, by exact_mod_cast hdt.2.1⟩

/-- An object written with the fields, each once. -/
theorem hasExactly_object {members : List (String × Json)} {fields : List String}
    (hkeys : members.map Prod.fst = fields) (hnodup : fields.Nodup) :
    HasExactly fields (.object members) := by
  subst hkeys
  exact ⟨congrArg List.length (List.dedup_eq_self.mpr hnodup), fun _ h => h⟩

theorem hasExactly_document (profile : ControlProfile) :
    HasExactly controlProfileFields profile.document := hasExactly_object rfl (by decide)

/-- A profile that has been read is read back from its own document. -/
theorem normalizeControlProfile_document {profile : ControlProfile} (h : profile.Valid) :
    normalizeControlProfile numberText profile.document = .ok profile := by
  have hobject : IsObjectValue profile.document := trivial
  have hversion : number? (property profile.document "profile_version") =
      some (controlProfileVersion : ℚ) := rfl
  simp only [normalizeControlProfile, ite_error_eq_ok_iff, bind_eq_ok_iff,
    requireFiniteRange_ok_iff, requireIntegerRange_ok_iff, Except.ok.injEq, not_le, not_or, not_lt]
  refine ⟨not_not.mpr hobject, not_not.mpr (hasExactly_document profile), not_not.mpr hversion,
    _, ⟨rfl, ?_⟩, _, ⟨rfl, h.targetSpeedKph⟩, _, ⟨rfl, h.maxMotorTorqueNm⟩, _,
    ⟨rfl, h.maxBrakePressureBar⟩, _, ⟨rfl, h.serviceBrakePressureBar⟩, _,
    ⟨rfl, h.hardBrakePressureBar⟩, _, ⟨rfl, h.maxSteeringAngleDeg⟩, _, ⟨rfl, h.speedPidKp⟩, _,
    ⟨rfl, h.speedPidKi⟩, _, ⟨rfl, h.speedPidKd⟩, _, ⟨rfl, h.speedPidDerivativeFilterTauMs⟩, _,
    ⟨rfl, ?_⟩, _, ⟨rfl, h.motorTorqueRiseRateNmPerS⟩, h.proportional, h.ordered, rfl⟩
  · obtain ⟨hmin, hmax⟩ := h.parkingIdleTimeoutMs
    exact ⟨by exact_mod_cast hmin, by exact_mod_cast hmax, isSafe_of_le hmin (by omega)⟩
  · obtain ⟨hmin, hmax⟩ := h.speedPidMaxDtMs
    exact ⟨by exact_mod_cast hmin, by exact_mod_cast hmax, isSafe_of_le (by omega) (by omega)⟩

/-- The profiles that the page takes for equal. -/
theorem controlProfilesEqual_iff {leftValue rightValue : Json} :
    controlProfilesEqual numberText leftValue rightValue = true ↔
      ∃ left right, normalizeControlProfile numberText leftValue = .ok left ∧
        normalizeControlProfile numberText rightValue = .ok right ∧ left.Alike right := by
  unfold controlProfilesEqual
  split
  · rename_i left right hleft hright
    rw [hleft, hright, decide_eq_true_iff]
    constructor
    · exact fun halike => ⟨left, right, rfl, rfl, halike⟩
    · rintro ⟨_, _, ⟨⟩, ⟨⟩, halike⟩
      exact halike
  · rename_i hno
    refine iff_of_false Bool.false_ne_true ?_
    rintro ⟨left, right, hleft, hright, -⟩
    exact hno left right hleft hright

/-- A profile that has been read, against a document. -/
theorem controlProfilesEqual_document {reported : ControlProfile} {reportedValue : Json}
    (h : normalizeControlProfile numberText reportedValue = .ok reported) (value : Json) :
    controlProfilesEqual numberText reported.document value = true ↔
      ∃ profile, normalizeControlProfile numberText value = .ok profile ∧
        reported.Alike profile := by
  have hread : normalizeControlProfile numberText reported.document = .ok reported :=
    normalizeControlProfile_document (normalizeControlProfile_valid h)
  rw [controlProfilesEqual_iff]
  constructor
  · rintro ⟨left, profile, hleft, hprofile, halike⟩
    obtain rfl := Except.ok.inj (hread.symm.trans hleft)
    exact ⟨profile, hprofile, halike⟩
  · rintro ⟨profile, hprofile, halike⟩
    exact ⟨reported, profile, hread, hprofile, halike⟩

theorem ControlProfile.Alike.trans {left middle right : ControlProfile} (h : left.Alike middle)
    (h' : middle.Alike right) : left.Alike right := by
  obtain ⟨h1, h2, h3, h4, h5, h6, h7, h8, h9, h10, h11, h12⟩ := h
  unfold ControlProfile.Alike
  rw [h1, h2, h3, h4, h5, h6, h7, h8, h9, h10, h11, h12]
  exact h'

theorem ControlProfile.Alike.symm {left right : ControlProfile} (h : left.Alike right) :
    right.Alike left := by
  obtain ⟨h1, h2, h3, h4, h5, h6, h7, h8, h9, h10, h11, h12⟩ := h
  exact ⟨h1.symm, h2.symm, h3.symm, h4.symm, h5.symm, h6.symm, h7.symm, h8.symm, h9.symm,
    h10.symm, h11.symm, h12.symm⟩

/-- Two profiles of the same parking delay that the page takes for equal are equal. -/
theorem ControlProfile.Alike.eq {left right : ControlProfile} (h : left.Alike right)
    (hparking : left.parkingIdleTimeoutMs = right.parkingIdleTimeoutMs) : left = right := by
  obtain ⟨h1, h2, h3, h4, h5, h6, h7, h8, h9, h10, h11, h12⟩ := h
  cases left
  cases right
  simp only [ControlProfile.mk.injEq]
  exact ⟨hparking, h1, h2, h3, h4, h5, h6, h7, h8, h9, h10, h11, h12⟩

end

end MineTeleop.Web
