import MineTeleop.Service.Agreement

/-!
# Requests for a session profile

What a request is answered with, and what is left of it in the service.  Proved here, for every
adapter and every order of operations:

* `profile_requests`: the revisions that reach the adapter strictly increase, a request that is
  given again is answered with the earlier decision or refused, an old or conflicting one changes
  nothing, and every result passes its own checks.
-/

namespace MineTeleop.Service

open Bridge (Double)
open Programs
open Runs

variable {σ : Type}

/-! ## The checks of a result -/

/-- The profile as a request would carry it. -/
def SessionControlProfile.asRequested (p : SessionControlProfile ℚ) :
    SessionControlProfile Double :=
  { profileVersion := p.profileVersion
    targetSpeedKph := some p.targetSpeedKph
    maxMotorTorqueNm := some p.maxMotorTorqueNm
    maxBrakePressureBar := some p.maxBrakePressureBar
    serviceBrakePressureBar := some p.serviceBrakePressureBar
    hardBrakePressureBar := some p.hardBrakePressureBar
    maxSteeringAngleDeg := some p.maxSteeringAngleDeg
    speedPidKp := some p.speedPidKp
    speedPidKi := some p.speedPidKi
    speedPidKd := some p.speedPidKd
    speedPidDerivativeFilterTauMs := some p.speedPidDerivativeFilterTauMs
    speedPidMaxDtMs := p.speedPidMaxDtMs
    motorTorqueRiseRateNmPerS := some p.motorTorqueRiseRateNmPerS
    parkingIdleTimeoutMs := p.parkingIdleTimeoutMs }

namespace SessionControlProfileResult

/-- The effective profile, if the result has one, passes the checks of a profile. -/
def checkEffectiveProfile (r : SessionControlProfileResult) : Except String Unit :=
  match r.effectiveProfile with
  | none => .ok ()
  | some profile => profile.asRequested.validate.map fun _ => ()

def validate (r : SessionControlProfileResult) : Except String Unit := do
  ProtocolMetadata.validate
    { vehicleId := r.vehicleId
      driverId := r.driverId
      sessionId := r.sessionId
      seq := r.seq
      sentAtUtcMs := r.sentAtUtcMs }
  check (r.reason ≠ "") "profile result reason is required"
  r.checkEffectiveProfile
  check (¬(r.accepted = true ∧ r.effectiveProfile = none))
    "accepted profile result requires an effective profile"
  check (¬(r.accepted = true ∧ r.appliedRevision ≠ r.seq))
    "accepted profile result requires applied_revision equal to seq"
  check (¬(r.accepted = false ∧ r.appliedRevision ≠ 0))
    "rejected profile result requires applied_revision zero"

end SessionControlProfileResult

/-- An admitted profile is the one that was requested. -/
theorem asRequested_of_validate {p : SessionControlProfile Double} {q : SessionControlProfile ℚ}
    (h : p.validate = .ok q) : q.asRequested = p := by
  unfold SessionControlProfile.validate at h
  obtain ⟨_, -, h⟩ := bind_ok h
  obtain ⟨_, -, h⟩ := bind_ok h
  obtain ⟨speed, hspeed, h⟩ := bind_ok h
  obtain ⟨torque, htorque, h⟩ := bind_ok h
  obtain ⟨brake, hbrake, h⟩ := bind_ok h
  obtain ⟨service, hservice, h⟩ := bind_ok h
  obtain ⟨hard, hhard, h⟩ := bind_ok h
  obtain ⟨_, -, h⟩ := bind_ok h
  obtain ⟨steering, hsteering, h⟩ := bind_ok h
  obtain ⟨kp, hkp, h⟩ := bind_ok h
  obtain ⟨_, -, h⟩ := bind_ok h
  obtain ⟨ki, hki, h⟩ := bind_ok h
  obtain ⟨kd, hkd, h⟩ := bind_ok h
  obtain ⟨tau, htau, h⟩ := bind_ok h
  obtain ⟨_, -, h⟩ := bind_ok h
  obtain ⟨rise, hrise, h⟩ := bind_ok h
  obtain rfl := Except.ok.inj h
  unfold SessionControlProfile.asRequested
  rw [← (requireFiniteRange_ok hspeed).1, ← (requireFiniteRange_ok htorque).1,
    ← (requireFiniteRange_ok hbrake).1, ← (requireFiniteRange_ok hservice).1,
    ← (requireFiniteRange_ok hhard).1, ← (requireFiniteRange_ok hsteering).1,
    ← (requireFiniteRange_ok hkp).1, ← (requireFiniteRange_ok hki).1,
    ← (requireFiniteRange_ok hkd).1, ← (requireFiniteRange_ok htau).1,
    ← (requireFiniteRange_ok hrise).1]

/-- An admitted profile passes the checks again. -/
theorem validate_asRequested {p : SessionControlProfile Double} {q : SessionControlProfile ℚ}
    (h : p.validate = .ok q) : q.asRequested.validate = .ok q := by
  rw [asRequested_of_validate h]
  exact h

/-- The profile has passed the checks of a request. -/
def SessionControlProfile.Checked (p : SessionControlProfile ℚ) : Prop :=
  p.asRequested.validate = .ok p

/-- What a result always has, whatever becomes of the profile behind it. -/
structure SessionControlProfileResult.Sound (r : SessionControlProfileResult) : Prop where
  vehicle : r.vehicleId ≠ ""
  driver : r.driverId ≠ ""
  session : r.sessionId ≠ ""
  seq : r.seq ≠ 0
  reason : r.reason ≠ ""
  accepted : r.accepted = true → r.appliedRevision = r.seq
  rejected : r.accepted = false → r.appliedRevision = 0

theorem check_pass {ok : Prop} [Decidable ok] (h : ok) (message : String) :
    check ok message = .ok () := if_pos h

theorem SessionControlProfileResult.Sound.validate {r : SessionControlProfileResult}
    (h : r.Sound) (hsent : 0 ≤ r.sentAtUtcMs)
    (hprofile : ∀ p ∈ r.effectiveProfile, p.Checked)
    (haccepted : r.accepted = true → r.effectiveProfile ≠ none) : r.validate = .ok () := by
  have heffective : r.checkEffectiveProfile = .ok () := by
    unfold SessionControlProfileResult.checkEffectiveProfile
    split
    · rfl
    · rename_i p hp
      have hchecked : p.asRequested.validate = .ok p := hprofile p hp
      rw [hchecked]
      rfl
  have hnone : ¬(r.accepted = true ∧ r.effectiveProfile = none) :=
    fun hnone => haccepted hnone.1 hnone.2
  have hrevision : ¬(r.accepted = true ∧ r.appliedRevision ≠ r.seq) :=
    fun hother => hother.2 (h.accepted hother.1)
  have hzero : ¬(r.accepted = false ∧ r.appliedRevision ≠ 0) :=
    fun hother => hother.2 (h.rejected hother.1)
  unfold SessionControlProfileResult.validate ProtocolMetadata.validate
  rw [check_pass rfl, check_pass h.vehicle, check_pass h.driver, check_pass h.session,
    check_pass h.seq, check_pass hsent, check_pass h.reason, heffective, check_pass hnone,
    check_pass hrevision, check_pass hzero]
  rfl

theorem sound_cleared {r : SessionControlProfileResult} (h : r.Sound) : r.cleared.Sound :=
  ⟨h.vehicle, h.driver, h.session, h.seq, (by decide : "session_profile_cleared" ≠ ""), nofun,
    fun _ => rfl⟩

/-! ## What a request is answered with -/

section
variable {s : VehicleControlService} {request : SessionControlProfileRequest} {t : ℤ}

theorem checkProfile_checked {profile : SessionControlProfile ℚ}
    (h : s.checkProfile request t = .proceed profile) : request.profile.validate = .ok profile := by
  unfold VehicleControlService.checkProfile at h
  split at h
  · cases h
  rename_i checked hvalid
  extract_lets delta at h
  split at h
  · cases h
  split at h
  · cases h
  unfold VehicleControlService.checkVehicleLimits at h
  split_ifs at h
  cases h
  exact hvalid

/-- The request is meant for this service, and could be remembered by it. -/
structure Addressed (s : VehicleControlService) (request : SessionControlProfileRequest) : Prop where
  metadata : request.toProtocolMetadata.validate = .ok ()
  token : request.controlToken ≠ ""
  vehicle : request.vehicleId = s.vehicleId
  driver : request.driverId = s.driverId
  session : request.sessionId = s.sessionId
  authentic : request.controlToken = s.controlToken

theorem decideProfile_addressed (h : Addressed s request) :
    s.decideProfile request t = s.checkSequence request t := by
  unfold VehicleControlService.decideProfile
  rw [h.metadata]
  dsimp only
  rw [if_neg h.token, if_neg (not_not.mpr h.vehicle), if_neg (not_not.mpr h.driver),
    if_neg (not_not.mpr h.session), if_neg (not_not.mpr h.authentic)]

/-- A request that does not reach the order of requests is refused without a trace. -/
theorem decideProfile_cases (s : VehicleControlService) (request : SessionControlProfileRequest)
    (t : ℤ) :
    (∃ reason, reason ≠ "" ∧ s.decideProfile request t = .reply false reason) ∨
      Addressed s request ∧ s.decideProfile request t = s.checkSequence request t := by
  unfold VehicleControlService.decideProfile
  split
  · rename_i message _
    refine .inl ⟨_, ?_, rfl⟩
    simp
  rename_i hmetadata
  split
  · exact .inl ⟨_, by decide, rfl⟩
  rename_i htoken
  split
  · exact .inl ⟨_, by decide, rfl⟩
  rename_i hvehicle
  split
  · exact .inl ⟨_, by decide, rfl⟩
  rename_i hdriver
  split
  · exact .inl ⟨_, by decide, rfl⟩
  rename_i hsession
  split
  · exact .inl ⟨_, by decide, rfl⟩
  rename_i hauthentic
  exact .inr ⟨⟨hmetadata, htoken, not_not.mp hvehicle, not_not.mp hdriver, not_not.mp hsession,
    not_not.mp hauthentic⟩, rfl⟩

/-- What a decision stands on. -/
inductive Decided (s : VehicleControlService) (request : SessionControlProfileRequest) (t : ℤ) :
    VehicleControlService.ProfileDecision → Prop
  | replies {idempotent : Bool} {reason : String} (hreason : reason ≠ "") :
      Decided s request t (.reply idempotent reason)
  | replays {previous : SessionControlProfileRequest} {last : SessionControlProfileResult}
      (haddressed : Addressed s request) (hprevious : s.lastSessionProfileRequest = some previous)
      (hsame : request.Identical previous) (hlast : s.lastSessionProfileResult = some last)
      (haccepted : s.activeSessionProfile = none → last.accepted = false) :
      Decided s request t (.replay
        { last with
          sentAtUtcMs := t
          idempotent := true
          effectiveProfile := s.activeSessionProfile })
  | refuses {reason : String} (haddressed : Addressed s request) (hreason : reason ≠ "") :
      Decided s request t (.refuse reason)
  | proceeds {profile : SessionControlProfile ℚ} (haddressed : Addressed s request)
      (hchecked : request.profile.validate = .ok profile) :
      Decided s request t (.proceed profile)

theorem checkProfile_decided (h : Addressed s request) :
    Decided s request t (s.checkProfile request t) := by
  cases hdecide : s.checkProfile request t with
  | proceed profile => exact .proceeds h (checkProfile_checked hdecide)
  | replay result =>
    unfold VehicleControlService.checkProfile VehicleControlService.checkVehicleLimits at hdecide
    split at hdecide
    · cases hdecide
    · extract_lets at hdecide
      split_ifs at hdecide
  | reply idempotent reason =>
    unfold VehicleControlService.checkProfile VehicleControlService.checkVehicleLimits at hdecide
    split at hdecide
    · cases hdecide
      exact .replies (by simp)
    · extract_lets at hdecide
      split_ifs at hdecide
      · cases hdecide
        exact .replies (by decide)
      · cases hdecide
        exact .replies (by decide)
  | refuse reason =>
    unfold VehicleControlService.checkProfile VehicleControlService.checkVehicleLimits at hdecide
    split at hdecide
    · cases hdecide
    · extract_lets at hdecide
      split_ifs at hdecide
      all_goals
        cases hdecide
        exact .refuses h (by decide)

theorem decideProfile_decided (s : VehicleControlService) (request : SessionControlProfileRequest)
    (t : ℤ) : Decided s request t (s.decideProfile request t) := by
  obtain ⟨reason, hreason, hdecide⟩ | ⟨haddressed, hdecide⟩ := decideProfile_cases s request t
  · rw [hdecide]
    exact .replies hreason
  rw [hdecide]
  unfold VehicleControlService.checkSequence
  split
  · exact checkProfile_decided haddressed
  rename_i previous hprevious
  split
  · exact .replies (by decide)
  split
  · split
    · exact .replies (by decide)
    rename_i hsame
    split
    · exact .replies (by decide)
    rename_i last hlast
    split
    · exact .replies (by decide)
    rename_i hcleared
    exact .replays haddressed hprevious (not_not.mp hsame) hlast
      fun hnone => eq_false_of_ne_true fun haccepted => hcleared ⟨hnone, haccepted⟩
  · exact checkProfile_decided haddressed

/-- The last request once more. -/
theorem decideProfile_replays {previous : SessionControlProfileRequest}
    {last : SessionControlProfileResult} (haddressed : Addressed s request)
    (hprevious : s.lastSessionProfileRequest = some previous) (hsame : request.Identical previous)
    (hlast : s.lastSessionProfileResult = some last)
    (haccepted : last.accepted = true → s.activeSessionProfile ≠ none) :
    s.decideProfile request t = .replay
      { last with
        sentAtUtcMs := t
        idempotent := true
        effectiveProfile := s.activeSessionProfile } := by
  have hseq : request.seq = previous.seq := congrArg (fun r => r.seq) hsame
  rw [decideProfile_addressed haddressed]
  unfold VehicleControlService.checkSequence
  rw [hprevious]
  dsimp only
  rw [if_neg hseq.not_lt, if_pos hseq, if_neg (not_not.mpr hsame), hlast]
  dsimp only
  rw [if_neg fun hcleared => haccepted hcleared.2 hcleared.1]

/-- An old number, or the last one with something else behind it. -/
def OutOfOrder (s : VehicleControlService) (request : SessionControlProfileRequest) : Prop :=
  ∃ previous ∈ s.lastSessionProfileRequest,
    request.seq < previous.seq ∨ request.seq = previous.seq ∧ ¬request.Identical previous

theorem decideProfile_outOfOrder (h : OutOfOrder s request) :
    ∃ reason, s.decideProfile request t = .reply false reason := by
  obtain ⟨previous, hprevious, horder⟩ := h
  obtain ⟨reason, -, hdecide⟩ | ⟨-, hdecide⟩ := decideProfile_cases s request t
  · exact ⟨reason, hdecide⟩
  rw [hdecide]
  unfold VehicleControlService.checkSequence
  rw [Option.mem_def.mp hprevious]
  dsimp only
  rcases horder with hold | ⟨hsame, hother⟩
  · rw [if_pos hold]
    exact ⟨_, rfl⟩
  · rw [if_neg hsame.not_lt, if_pos hsame, if_pos hother]
    exact ⟨_, rfl⟩

end

/-! ## What the service remembers of a request -/

/-- The request has been remembered with a result, from `w` to `w'`. -/
structure Remembers (request : SessionControlProfileRequest) (t : ℤ) (w : World σ)
    (accepted : Bool) (reason : String) (w' : World σ) : Prop where
  stated : reason ≠ ""
  lastRequest : w'.service.lastSessionProfileRequest = some request
  lastResult : w'.service.lastSessionProfileResult =
    some (w'.service.profileResult request t accepted false reason)
  inForce : accepted = true → w'.service.activeSessionProfile ≠ none
  kept : accepted = false → ∀ p ∈ w'.service.activeSessionProfile,
    p ∈ w.service.activeSessionProfile
  checked : ∀ p ∈ w'.service.activeSessionProfile,
    p ∈ w.service.activeSessionProfile ∨ request.profile.validate = .ok p

/-- How a request is answered, from `w` to `w'`. -/
inductive ProfileAnswer (request : SessionControlProfileRequest) (t : ℤ) (w : World σ) :
    SessionControlProfileResult → World σ → Prop
  | replies {idempotent : Bool} {reason : String}
      (hdecide : w.service.decideProfile request t = .reply idempotent reason) :
      ProfileAnswer request t w (w.service.profileResult request t false idempotent reason) w
  | replays {result : SessionControlProfileResult}
      (hdecide : w.service.decideProfile request t = .replay result) :
      ProfileAnswer request t w result
        (w.withService fun s => { s with lastSessionProfileResult := some result })
  | remembers {accepted : Bool} {reason : String} {w' : World σ}
      (hdecide : ProfileDecision.Remembered (w.service.decideProfile request t))
      (h : Remembers request t w accepted reason w') :
      ProfileAnswer request t w (w'.service.profileResult request t accepted false reason) w'

section
variable {adapter : VehicleAdapter σ} {w w₀ : World σ} {request : SessionControlProfileRequest}
  {t : ℤ} {profile : SessionControlProfile ℚ}

theorem cacheResult_answered {accepted : Bool} {reason : String} (hreason : reason ≠ "")
    (hdecide : ProfileDecision.Remembered (w₀.service.decideProfile request t))
    (haccepted : accepted = true → w.service.activeSessionProfile ≠ none)
    (hkept : accepted = false → ∀ p ∈ w.service.activeSessionProfile,
      p ∈ w₀.service.activeSessionProfile)
    (hchecked : ∀ p ∈ w.service.activeSessionProfile,
      p ∈ w₀.service.activeSessionProfile ∨ request.profile.validate = .ok p) :
    Ensures (cacheResult request t accepted reason) w
      (fun result w' => ProfileAnswer request t w₀ result w')
      fun _ _ => False := by
  unfold cacheResult
  rw [ensures_bind, ensures_getService, ensures_bind, ensures_modifyService]
  have hremembers : Remembers request t w₀ accepted reason (w.withService fun s =>
      { s with
        lastSessionProfileRequest := some request
        lastSessionProfileResult :=
          some (w.service.profileResult request t accepted false reason) }) :=
    { stated := hreason
      lastRequest := rfl
      lastResult := rfl
      inForce := haccepted
      kept := hkept
      checked := hchecked }
  exact .remembers hdecide hremembers

theorem parkingRefusal_reason :
    Ensures (parkingRefusal adapter) w (fun refusal _ => ∀ reason ∈ refusal, reason ≠ "")
      fun _ _ => False := by
  have hreason : ∀ {message : String}, message ≠ "" → ∀ reason ∈ some message, reason ≠ "" :=
    fun hmessage _ hreason => Option.some.inj hreason ▸ hmessage
  unfold parkingRefusal
  rw [ensures_bind, ensures_tryCatch, ensures_map]
  refine ensures_call (fun status _ => ?_) fun _ _ => hreason (by decide)
  refine Ensures.ite (fun _ => hreason (by decide)) fun _ => ?_
  exact Ensures.ite (fun _ => hreason (by decide)) fun _ => nofun

theorem adoptSessionProfile_answered
    (hdecide : w₀.service.decideProfile request t = .proceed profile)
    (hchecked : request.profile.validate = .ok profile) :
    Ensures (adoptSessionProfile adapter request profile t) w
      (fun result w' => ProfileAnswer request t w₀ result w')
      fun _ _ => False := by
  have hremembered : ProfileDecision.Remembered (w₀.service.decideProfile request t) := by
    rw [hdecide]
    trivial
  unfold adoptSessionProfile
  rw [ensures_bind, ensures_tryCatch, ensures_bind]
  refine installSessionProfile_ensures.mono ?_ ?_
  · rintro _ w₁ -
    rw [ensures_pure, if_pos rfl, ensures_bind, ensures_modifyService]
    refine cacheResult_answered (by decide) hremembered (fun _ => Option.some_ne_none profile)
      nofun fun p hp => .inr ?_
    obtain rfl := Option.some.inj hp
    exact hchecked
  · rintro _ w₁ -
    rw [ensures_bind]
    refine abandonSessionProfile_ensures.mono ?_ fun _ _ h => h
    rintro _ w₂ ⟨-, -, -, hnone, -⟩
    have hno : ∀ p, p ∉ w₂.service.activeSessionProfile := by
      rw [hnone]
      exact fun p => Option.not_mem_none p
    rw [ensures_pure, if_neg (by simp)]
    exact cacheResult_answered (by decide) hremembered nofun (fun _ p hp => absurd hp (hno p))
      fun p hp => absurd hp (hno p)

theorem changeSessionProfile_answered
    (hdecide : w.service.decideProfile request t = .proceed profile)
    (hchecked : request.profile.validate = .ok profile) :
    Ensures (changeSessionProfile adapter request profile t) w
      (fun result w' => ProfileAnswer request t w result w')
      fun _ w' => w' = w.after adapter .status := by
  unfold changeSessionProfile
  rw [ensures_bind, ensures_getService, ensures_bind]
  refine ensures_call (fun status _ => ?_) fun _ _ => rfl
  extract_lets bypass proceed
  have hproceeds : ∀ (refusal : Option String) (w₁ : World σ), w₁.service = w.service →
      (∀ reason ∈ refusal, reason ≠ "") →
      Ensures (proceed refusal) w₁
        (fun result w' => ProfileAnswer request t w result w')
        fun _ w' => w' = w.after adapter .status := by
    intro refusal w₁ hservice hreason
    cases refusal with
    | some reason =>
      have hremembered : ProfileDecision.Remembered (w.service.decideProfile request t) := by
        rw [hdecide]
        trivial
      have hsame : ∀ p ∈ w₁.service.activeSessionProfile, p ∈ w.service.activeSessionProfile := by
        rw [hservice]
        exact fun _ hp => hp
      refine (cacheResult_answered (hreason reason rfl) hremembered
        (fun haccepted => absurd haccepted Bool.false_ne_true) (fun _ => hsame)
        fun p hp => .inl (hsame p hp)).mono (fun _ _ h => h) fun _ _ h => h.elim
    | none =>
      exact (adoptSessionProfile_answered hdecide hchecked).mono (fun _ _ h => h)
        fun _ _ h => h.elim
  refine Ensures.ite (fun _ => ?_) fun _ => hproceeds none _ rfl nofun
  rw [ensures_bind]
  refine (parkingRefusal_ensures.and parkingRefusal_reason).mono ?_ fun _ _ h => h.1.elim
  rintro refusal w₁ ⟨⟨-, hservice, -⟩, hreason⟩
  exact hproceeds refusal w₁ hservice hreason

theorem receiveSessionProfile_answered :
    Ensures (receiveSessionProfile adapter request t) w
      (fun result w' => w.service.started = true ∧ 0 ≤ t ∧ ProfileAnswer request t w result w')
      fun _ w' => (w.service.started = true → 0 ≤ t →
          ProfileDecision.Remembered (w.service.decideProfile request t)) ∧
        (w' = w ∨ ProfileDecision.Remembered (w.service.decideProfile request t) ∧
          w' = w.after adapter .status) := by
  unfold receiveSessionProfile
  rw [ensures_bind, ensures_getService]
  refine Ensures.ite (fun hstopped => ⟨fun hstarted => ?_, .inl rfl⟩) fun hstarted =>
    Ensures.ite (fun hbefore => ⟨fun _ ht => absurd hbefore (not_lt.mpr ht), .inl rfl⟩)
      fun hbefore => ?_
  · exact absurd (hstopped.symm.trans hstarted) Bool.false_ne_true
  have hstarted : w.service.started = true := eq_true_of_ne_false hstarted
  have ht := not_lt.mp hbefore
  have hdecided := decideProfile_decided w.service request t
  cases hdecide : w.service.decideProfile request t with
  | reply idempotent reason => exact ⟨hstarted, ht, .replies hdecide⟩
  | replay result =>
    rw [ensures_bind, ensures_modifyService]
    exact ⟨hstarted, ht, .replays hdecide⟩
  | refuse reason =>
    rw [hdecide] at hdecided
    cases hdecided with
    | refuses _ hreason =>
      exact (cacheResult_answered hreason (by rw [hdecide]; trivial)
        (fun haccepted => absurd haccepted Bool.false_ne_true) (fun _ _ hp => hp)
        fun _ hp => .inl hp).mono (fun _ _ h => ⟨hstarted, ht, h⟩) fun _ _ h => h.elim
  | proceed profile =>
    rw [hdecide] at hdecided
    cases hdecided with
    | proceeds _ hchecked =>
      exact (changeSessionProfile_answered hdecide hchecked).mono
        (fun _ _ h => ⟨hstarted, ht, h⟩) fun _ _ h => ⟨fun _ _ => trivial, .inr ⟨trivial, h⟩⟩

end

/-! ## The law -/

/-- The revisions that have been passed to the adapter, the latest first. -/
def revisions (h : ServiceHistory σ) : List ℕ :=
  h.flatMap fun st => (configureCalls st.after.trace).map ConfigureCall.revision

def Observation.ClearsProfile : Observation → Prop
  | .called .clearRuntimeControlProfile _ _ => True
  | _ => False

/-- The adapter has been told to forget its profile. -/
def Cleared (trace : List Observation) : Prop := ∃ o ∈ trace, o.ClearsProfile

def Clears (st : ServiceStep σ) : Prop := Cleared st.after.trace

/-- The step decides a new request, and remembers it. -/
structure Decides (st : ServiceStep σ) (request : SessionControlProfileRequest)
    (result : SessionControlProfileResult) : Prop where
  event : ∃ t, st.event = .receiveSessionProfile request t
  output : st.output = .profile result
  newer : ∀ previous ∈ st.before.service.lastSessionProfileRequest, previous.seq < request.seq
  remembered : st.after.service.lastSessionProfileRequest = some request

structure SameDecision (result decided : SessionControlProfileResult) : Prop where
  accepted : result.accepted = decided.accepted
  appliedRevision : result.appliedRevision = decided.appliedRevision
  reason : result.reason = decided.reason

/-- The result is the decision on the last request that was remembered, or a refusal when the
profile has been cleared since. -/
def Repeats (past : ServiceHistory σ) (request : SessionControlProfileRequest)
    (result : SessionControlProfileResult) : Prop :=
  ∃ later st past' decided, past = later ++ st :: past' ∧ Decides st request decided ∧
    (∀ st' ∈ later, st'.after.service.lastSessionProfileRequest = some request) ∧
    ((∀ st' ∈ later, ¬Clears st') → SameDecision result decided) ∧
    ((∃ st' ∈ later, Clears st') → result.accepted = false)

/-- What a request for a profile may do, and how it is answered. -/
structure ProfileRequestLaw (st : ServiceStep σ) (past : ServiceHistory σ) : Prop where
  valid : ∀ result, st.output = .profile result → result.validate = .ok ()
  outOfOrder : ∀ request t, st.event = .receiveSessionProfile request t →
    OutOfOrder st.before.service request →
      st.after = { st.before with trace := [] } ∧
      ∀ result, st.output = .profile result → result.accepted = false
  untouched : ∀ request t previous, st.event = .receiveSessionProfile request t →
    previous ∈ st.before.service.lastSessionProfileRequest → request.Identical previous →
      st.after.adapter = st.before.adapter ∧ st.after.trace = [] ∧
      st.after.service.activeSessionProfile = st.before.service.activeSessionProfile
  repeats : ∀ request t previous, st.event = .receiveSessionProfile request t →
    previous ∈ st.before.service.lastSessionProfileRequest → request.Identical previous →
    st.before.service.started = true → 0 ≤ t → 0 ≤ request.sentAtUtcMs →
      ∃ result, st.output = .profile result ∧ result.idempotent = true ∧
        Repeats past previous result

/-! ## Operations that are no request -/

/-- The fields that a request is checked against. -/
def VehicleControlService.identity (s : VehicleControlService) :
    String × String × String × String :=
  (s.vehicleId, s.driverId, s.sessionId, s.controlToken)

section
variable {adapter : VehicleAdapter σ} {start : VehicleControlService} {e : Event} {w w' : World σ}

theorem identity_respond (adapter : VehicleAdapter σ) (w : World σ) (e : Event) :
    (respond adapter w e).2.service.identity = w.service.identity := by
  refine (respond_ended adapter w e).keeps
    (I := fun w' => w'.service.identity = w.service.identity) (fun _ _ hmove hsame => ?_)
    (fun _ _ _ _ hsame => hsame) rfl
  refine Eq.trans ?_ hsame
  cases hmove <;> rfl

def AdapterCall.Configures : AdapterCall → Prop
  | .configureRuntimeControlProfile _ _ => True
  | _ => False

/-- The last request stays, and so do its result and the profile unless both are cleared. -/
structure KeepsRequest (w w' : World σ) : Prop where
  request : w'.service.lastSessionProfileRequest = w.service.lastSessionProfileRequest
  calls : configureCalls w'.trace = []
  result : w'.service.lastSessionProfileResult = w.service.lastSessionProfileResult ∧
      w'.service.activeSessionProfile = w.service.activeSessionProfile ∧
      (Cleared w'.trace → w.service.activeSessionProfile = none ∨ w.service.started = false) ∨
    Cleared w'.trace ∧ w'.service.activeSessionProfile = none ∧
      w'.service.lastSessionProfileResult =
        w.service.lastSessionProfileResult.map SessionControlProfileResult.cleared

theorem cleared_cons {o : Observation} {trace : List Observation} (ho : ¬o.ClearsProfile) :
    Cleared (o :: trace) ↔ Cleared trace := by
  unfold Cleared
  simp [ho]

theorem keepsRequest_of_same {w₁ w₂ : World σ} (h : KeepsRequest w w₁)
    (hrequest : w₂.service.lastSessionProfileRequest = w₁.service.lastSessionProfileRequest)
    (hresult : w₂.service.lastSessionProfileResult = w₁.service.lastSessionProfileResult)
    (hprofile : w₂.service.activeSessionProfile = w₁.service.activeSessionProfile)
    (hcleared : Cleared w₂.trace ↔ Cleared w₁.trace)
    (hcalls : configureCalls w₂.trace = configureCalls w₁.trace) : KeepsRequest w w₂ := by
  refine ⟨hrequest.trans h.request, hcalls.trans h.calls, ?_⟩
  rw [hresult, hprofile, hcleared]
  exact h.result

theorem configureCalls_after {c : AdapterCall} (w : World σ) (hc : ¬c.Configures) :
    configureCalls (w.after adapter c).trace = configureCalls w.trace := by
  cases c with
  | configureRuntimeControlProfile => exact absurd trivial hc
  | _ => rfl

/-- The calls that leave the profile of the adapter alone. -/
theorem keepsRequest_after {c : AdapterCall} {w₁ : World σ} (h : KeepsRequest w w₁)
    (hc : ¬c.Configures) (hclears : c ≠ .clearRuntimeControlProfile) :
    KeepsRequest w (w₁.after adapter c) := by
  refine keepsRequest_of_same h rfl rfl rfl (cleared_cons ?_) (configureCalls_after w₁ hc)
  cases c with
  | clearRuntimeControlProfile => exact absurd rfl hclears
  | _ => exact id

theorem keepsRequest_stop {w₁ : World σ} (h : KeepsRequest w w₁) (output : ControlOutput)
    (context : Bridge.StopContext) :
    KeepsRequest w (w₁.after adapter (.applySafeStop output context)) :=
  keepsRequest_after h id nofun

theorem keepsRequest_revoked {w₁ : World σ} (h : KeepsRequest w w₁) :
    KeepsRequest w ((w₁.withService VehicleControlService.revoked).after adapter
      .clearRuntimeControlProfile) := by
  refine ⟨h.request, (configureCalls_after _ id).trans h.calls, .inr ⟨?_, rfl, ?_⟩⟩
  · exact ⟨_, List.mem_cons_self .., trivial⟩
  · show w₁.service.lastSessionProfileResult.map _ = _
    rcases h.result with ⟨hsame, -⟩ | ⟨-, -, hcleared⟩
    · rw [hsame]
    · rw [hcleared, Option.map_map]
      rfl

/-- The adapter is told to forget a profile that it may not have. -/
theorem keepsRequest_forgets {w₁ : World σ} (h : KeepsRequest w w₁)
    (hsession : w₁.service.activeSessionProfile = none ∨ w.service.started = false) :
    KeepsRequest w (w₁.after adapter .clearRuntimeControlProfile) := by
  refine ⟨h.request, (configureCalls_after w₁ id).trans h.calls, ?_⟩
  rcases h.result with ⟨hresult, hprofile, -⟩ | ⟨-, hrest⟩
  · rw [hprofile] at hsession
    exact .inl ⟨hresult, hprofile, fun _ => hsession⟩
  · exact .inr ⟨⟨_, List.mem_cons_self .., trivial⟩, hrest⟩

theorem keepsRequest_move {w₁ w₂ : World σ} (he : ∀ request t, e ≠ .receiveSessionProfile request t)
    (hmove : Move adapter w.service e w₁ w₂) (h : KeepsRequest w w₁) : KeepsRequest w w₂ := by
  cases hmove with
  | asks c hc hsession =>
    cases c with
    | configureRuntimeControlProfile | applyControl | applySafeStop => exact hc.elim
    | clearRuntimeControlProfile => exact keepsRequest_forgets h (hsession trivial)
    | _ => exact keepsRequest_after h id nofun
  | books _ _ _ _ _ _ hrequest =>
    obtain ⟨rfl, rfl⟩ | ⟨request, t, rfl⟩ := hrequest
    · exact keepsRequest_of_same h rfl rfl rfl Iff.rfl rfl
    · exact absurd rfl (he _ _)
  | revokes => exact keepsRequest_revoked h
  | stops | zeroes => exact keepsRequest_stop h _ _
  | stopsFirst => exact keepsRequest_revoked (keepsRequest_stop h _ _)
  | configures | reapplies | adopts => exact absurd rfl (he _ _)
  | controls => exact keepsRequest_after h id nofun
  | starts | closes => exact keepsRequest_of_same h rfl rfl rfl Iff.rfl rfl
  | readies | ticks | faults | latches | activates | stands | releases =>
    exact keepsRequest_of_same h rfl rfl rfl (cleared_cons id) rfl
  | accepts =>
    refine keepsRequest_of_same h rfl rfl rfl ?_ ?_
    · show Cleared (ite _ _ _) ↔ _
      split
      · exact cleared_cons id
      · exact Iff.rfl
    · show configureCalls (ite _ _ _) = _
      split <;> rfl

theorem not_cleared_nil : ¬Cleared [] := fun ⟨_, ho, _⟩ => absurd ho List.not_mem_nil

theorem keepsRequest_respond (adapter : VehicleAdapter σ) (w : World σ)
    (he : ∀ request t, e ≠ .receiveSessionProfile request t) :
    KeepsRequest w (respond adapter w e).2 :=
  (respond_ended adapter w e).keeps (I := KeepsRequest w)
    (fun _ _ hmove h => keepsRequest_move he hmove h) (fun _ _ _ _ h => keepsRequest_stop h _ _)
    ⟨rfl, rfl, .inl ⟨rfl, rfl, fun hcleared => absurd hcleared not_cleared_nil⟩⟩

end

/-! ## Every run -/

/-- What the constructor leaves: it refuses empty names. -/
structure Constructed (s : VehicleControlService) : Prop where
  vehicle : s.vehicleId ≠ ""
  driver : s.driverId ≠ ""
  session : s.sessionId ≠ ""
  profile : s.activeSessionProfile = none
  request : s.lastSessionProfileRequest = none
  result : s.lastSessionProfileResult = none

/-- The result that is kept for the last request. -/
structure Kept (past : ServiceHistory σ) (s : VehicleControlService)
    (previous : SessionControlProfileRequest) (last : SessionControlProfileResult) : Prop where
  sound : last.Sound
  accepted : last.accepted = true → s.activeSessionProfile ≠ none
  repeats : Repeats past previous last

/-- What service and history are at any time. -/
structure RequestInvariant (past : ServiceHistory σ) (w : World σ) : Prop where
  vehicle : w.service.vehicleId ≠ ""
  driver : w.service.driverId ≠ ""
  session : w.service.sessionId ≠ ""
  stopped : w.service.started = false → w.service.activeSessionProfile = none
  checked : ∀ p ∈ w.service.activeSessionProfile, p.Checked
  bounded : ∀ revision ∈ revisions past, ∃ previous ∈ w.service.lastSessionProfileRequest,
    revision ≤ previous.seq
  increasing : (revisions past).Pairwise (· > ·)
  kept : ∀ previous ∈ w.service.lastSessionProfileRequest, Addressed w.service previous ∧
    ∃ last ∈ w.service.lastSessionProfileResult, Kept past w.service previous last

section
variable {past : ServiceHistory σ} {st : ServiceStep σ}

/-- One more step that remembers no other request. -/
theorem Repeats.later {request : SessionControlProfileRequest}
    {result result' : SessionControlProfileResult} (h : Repeats past request result)
    (hremembered : st.after.service.lastSessionProfileRequest = some request)
    (hsame : ¬Clears st → SameDecision result' result)
    (hcleared : result'.accepted = true → result.accepted = true ∧ ¬Clears st) :
    Repeats (st :: past) request result' := by
  obtain ⟨later, first, past', decided, rfl, hdecides, hlater, hdecision, hrefused⟩ := h
  refine ⟨st :: later, first, past', decided, rfl, hdecides,
    List.forall_mem_cons.mpr ⟨hremembered, hlater⟩, fun hclear => ?_, fun hclear => ?_⟩
  · obtain ⟨hnow, hclear⟩ := List.forall_mem_cons.mp hclear
    have hnew := hsame hnow
    have hold := hdecision hclear
    exact ⟨hnew.accepted.trans hold.accepted, hnew.appliedRevision.trans hold.appliedRevision,
      hnew.reason.trans hold.reason⟩
  · refine eq_false_of_ne_true fun haccepted => ?_
    obtain ⟨hold, hnow⟩ := hcleared haccepted
    obtain ⟨st', hmem, hclears⟩ := hclear
    rcases List.mem_cons.mp hmem with rfl | hmem
    · exact hnow hclears
    · exact Bool.false_ne_true ((hrefused ⟨st', hmem, hclears⟩).symm.trans hold)

theorem Addressed.of_identity {s s' : VehicleControlService}
    {request : SessionControlProfileRequest} (h : Addressed s request)
    (hsame : s'.identity = s.identity) : Addressed s' request := by
  obtain ⟨hvehicle, hdriver, hsession, htoken⟩ : s'.vehicleId = s.vehicleId ∧
      s'.driverId = s.driverId ∧ s'.sessionId = s.sessionId ∧ s'.controlToken = s.controlToken := by
    simpa [VehicleControlService.identity] using hsame
  exact ⟨h.metadata, h.token, h.vehicle.trans hvehicle.symm, h.driver.trans hdriver.symm,
    h.session.trans hsession.symm, h.authentic.trans htoken.symm⟩

end

section
variable {adapter : VehicleAdapter σ} {built w : World σ} {past : ServiceHistory σ}

theorem identity_fields {s s' : VehicleControlService} (h : s'.identity = s.identity) :
    s'.vehicleId = s.vehicleId ∧ s'.driverId = s.driverId ∧ s'.sessionId = s.sessionId := by
  unfold VehicleControlService.identity at h
  obtain ⟨hvehicle, hrest⟩ := Prod.mk.inj h
  obtain ⟨hdriver, hrest⟩ := Prod.mk.inj hrest
  exact ⟨hvehicle, hdriver, (Prod.mk.inj hrest).1⟩

theorem stopped_respond (h : w.service.started = false → w.service.activeSessionProfile = none)
    (e : Event) : (respond adapter w e).2.service.started = false →
      (respond adapter w e).2.service.activeSessionProfile = none := by
  have hadapter : HoldsProfiles adapter fun _ _ => True :=
    ⟨fun _ _ _ _ _ => trivial, fun _ _ _ _ _ => trivial⟩
  exact (agreed_respond hadapter w e ⟨fun _ _ => trivial, h⟩).stopped

theorem requestInvariant_other (hi : RequestInvariant past w) {e : Event}
    (he : ∀ request t, e ≠ .receiveSessionProfile request t) :
    RequestInvariant ((machine adapter built).observe w e :: past) (respond adapter w e).2 := by
  have hkeeps := keepsRequest_respond adapter w he
  have hidentity := identity_respond adapter w e
  obtain ⟨hvehicle, hdriver, hsession⟩ := identity_fields hidentity
  have hrevisions : revisions ((machine adapter built).observe w e :: past) = revisions past := by
    show (configureCalls (respond adapter w e).2.trace).map _ ++ _ = _
    rw [hkeeps.calls]
    rfl
  refine
    { vehicle := hvehicle ▸ hi.vehicle
      driver := hdriver ▸ hi.driver
      session := hsession ▸ hi.session
      stopped := stopped_respond hi.stopped e
      checked := fun p hp => ?_
      bounded := fun revision hrevision => ?_
      increasing := by rw [hrevisions]; exact hi.increasing
      kept := fun previous hprevious => ?_ }
  · rcases hkeeps.result with ⟨-, hsame, -⟩ | ⟨-, hnone, -⟩
    · exact hi.checked p (hsame ▸ hp)
    · rw [hnone] at hp
      exact absurd hp (Option.not_mem_none p)
  · rw [hrevisions] at hrevision
    rw [hkeeps.request]
    exact hi.bounded revision hrevision
  · have hremembered : (respond adapter w e).2.service.lastSessionProfileRequest = some previous :=
      hprevious
    rw [hkeeps.request] at hprevious
    obtain ⟨haddressed, last, hlast, hkept⟩ := hi.kept previous hprevious
    refine ⟨haddressed.of_identity hidentity, ?_⟩
    rcases hkeeps.result with ⟨hresult, hprofile, hclears⟩ | ⟨hcleared, hnone, hresult⟩
    · refine ⟨last, hresult ▸ hlast, hkept.sound, hprofile ▸ hkept.accepted, ?_⟩
      refine hkept.repeats.later hremembered (fun _ => ⟨rfl, rfl, rfl⟩) fun haccepted =>
        ⟨haccepted, fun hcleared => ?_⟩
      rcases hclears hcleared with hnone | hstopped
      · exact hkept.accepted haccepted hnone
      · exact hkept.accepted haccepted (hi.stopped hstopped)
    · have hlast' : (respond adapter w e).2.service.lastSessionProfileResult = some last.cleared := by
        rw [hresult, Option.mem_def.mp hlast]
        rfl
      refine ⟨last.cleared, hlast', sound_cleared hkept.sound, nofun, ?_⟩
      exact hkept.repeats.later hremembered (fun hno => absurd hcleared hno) nofun

/-- A request throws and remembers nothing, or it is answered. -/
inductive Requested (adapter : VehicleAdapter σ) (request : SessionControlProfileRequest) (t : ℤ)
    (w : World σ) : Reply → World σ → Prop
  | threw {failure : Failure} {w' : World σ}
      (hrefused : w.service.started = true → 0 ≤ t →
        ProfileDecision.Remembered (w.service.decideProfile request t))
      (hafter : w' = w ∨ ProfileDecision.Remembered (w.service.decideProfile request t) ∧
        w' = w.after adapter .status) :
      Requested adapter request t w (.threw failure) w'
  | answered {result : SessionControlProfileResult} {w' : World σ}
      (ht : 0 ≤ t) (h : ProfileAnswer request t w result w') (houtcome : ProfileOutcome adapter request t w w') :
      Requested adapter request t w (.profile result) w'

theorem respond_requested (adapter : VehicleAdapter σ) (w : World σ)
    (request : SessionControlProfileRequest) (t : ℤ) :
    Requested adapter request t { w with trace := [] }
      (respond adapter w (.receiveSessionProfile request t)).1
      (respond adapter w (.receiveSessionProfile request t)).2 := by
  refine respond_ensures adapter (Q := Requested adapter request t { w with trace := [] })
    ((ensures_map _ _).mpr ?_)
  refine (receiveSessionProfile_answered.and receiveSessionProfile_outcome).mono ?_ ?_
  · rintro result w' ⟨⟨-, ht, hanswered⟩, houtcome⟩
    exact .answered ht hanswered houtcome
  · rintro failure w' ⟨⟨hrefused, hafter⟩, -⟩
    exact .threw hrefused hafter

theorem profileResult_sound {s : VehicleControlService} {request : SessionControlProfileRequest}
    {t : ℤ} {accepted idempotent : Bool} {reason : String} (hvehicle : s.vehicleId ≠ "")
    (hdriver : s.driverId ≠ "") (hsession : s.sessionId ≠ "") (hreason : reason ≠ "") :
    (s.profileResult request t accepted idempotent reason).Sound := by
  refine ⟨hvehicle, hdriver, hsession, ?_, hreason, fun haccepted => ?_, fun hrejected => ?_⟩
  · show (if request.seq = 0 then 1 else request.seq) ≠ 0
    split
    · decide
    · assumption
  · exact if_pos haccepted
  · exact if_neg (by rw [show accepted = false from hrejected]; exact Bool.false_ne_true)

/-- At most one call configures the adapter, with the number of the request. -/
theorem ProfileOutcome.calls {request : SessionControlProfileRequest} {t : ℤ} {w w' : World σ}
    (h : ProfileOutcome adapter request t w w') :
    configureCalls w'.trace = configureCalls w.trace ∨
      ∃ call : ConfigureCall, call.revision = request.seq ∧
        configureCalls w'.trace = call :: configureCalls w.trace := by
  cases h with
  | leaves _ _ _ _ hcalls => exact .inl hcalls
  | adopts _ _ _ _ _ _ _ _ _ hcalls => exact .inr ⟨_, rfl, hcalls⟩
  | abandons _ _ _ _ _ _ _ _ _ hcalls => exact .inr ⟨_, rfl, hcalls⟩

variable {st : ServiceStep σ} {request : SessionControlProfileRequest} {t : ℤ}

/-- A step that decides nothing: profile, request and decision stay. -/
theorem RequestInvariant.carry (hi : RequestInvariant past st.before)
    (hidentity : st.after.service.identity = st.before.service.identity)
    (hstarted : st.after.service.started = st.before.service.started)
    (hprofile : st.after.service.activeSessionProfile = st.before.service.activeSessionProfile)
    (hrequest :
      st.after.service.lastSessionProfileRequest = st.before.service.lastSessionProfileRequest)
    (hresult : ∀ last ∈ st.before.service.lastSessionProfileResult, last.Sound →
      ∃ last' ∈ st.after.service.lastSessionProfileResult, last'.Sound ∧ SameDecision last' last)
    (hcalls : configureCalls st.after.trace = []) (hclears : ¬Clears st) :
    RequestInvariant (st :: past) st.after := by
  obtain ⟨hvehicle, hdriver, hsession⟩ := identity_fields hidentity
  have hrevisions : revisions (st :: past) = revisions past := by
    show (configureCalls st.after.trace).map _ ++ _ = _
    rw [hcalls]
    rfl
  refine
    { vehicle := hvehicle ▸ hi.vehicle
      driver := hdriver ▸ hi.driver
      session := hsession ▸ hi.session
      stopped := by rw [hstarted, hprofile]; exact hi.stopped
      checked := by rw [hprofile]; exact hi.checked
      bounded := by rw [hrevisions, hrequest]; exact hi.bounded
      increasing := by rw [hrevisions]; exact hi.increasing
      kept := fun previous hprevious => ?_ }
  have hremembered : st.after.service.lastSessionProfileRequest = some previous := hprevious
  rw [hrequest] at hprevious
  obtain ⟨haddressed, last, hlast, hkept⟩ := hi.kept previous hprevious
  obtain ⟨last', hlast', hsound, hsame⟩ := hresult last hlast hkept.sound
  refine ⟨haddressed.of_identity hidentity, last', hlast', hsound, ?_, ?_⟩
  · rw [hprofile, hsame.accepted]
    exact hkept.accepted
  · exact hkept.repeats.later hremembered (fun _ => hsame) fun haccepted =>
      ⟨hsame.accepted.symm.trans haccepted, hclears⟩

/-- A step that remembers a new request. -/
theorem RequestInvariant.remembers (hi : RequestInvariant past st.before)
    (hevent : st.event = .receiveSessionProfile request t)
    (hidentity : st.after.service.identity = st.before.service.identity)
    (hstopped : st.after.service.started = false → st.after.service.activeSessionProfile = none)
    (haddressed : Addressed st.before.service request)
    (hnewer : ∀ previous ∈ st.before.service.lastSessionProfileRequest, previous.seq < request.seq)
    {accepted : Bool} {reason : String}
    (houtput : st.output = .profile (st.after.service.profileResult request t accepted false reason))
    (h : Remembers request t { st.before with trace := [] } accepted reason st.after)
    (hcalls : configureCalls st.after.trace = [] ∨ ∃ call : ConfigureCall,
      call.revision = request.seq ∧ configureCalls st.after.trace = [call]) :
    RequestInvariant (st :: past) st.after := by
  obtain ⟨hvehicle, hdriver, hsession⟩ := identity_fields hidentity
  have hvehicle : st.after.service.vehicleId ≠ "" := hvehicle ▸ hi.vehicle
  have hdriver : st.after.service.driverId ≠ "" := hdriver ▸ hi.driver
  have hsession : st.after.service.sessionId ≠ "" := hsession ▸ hi.session
  have holder : ∀ revision ∈ revisions past, revision < request.seq := by
    intro revision hrevision
    obtain ⟨previous, hprevious, hle⟩ := hi.bounded revision hrevision
    exact hle.trans_lt (hnewer previous hprevious)
  have hrevisions : revisions (st :: past) = revisions past ∨
      revisions (st :: past) = request.seq :: revisions past := by
    rcases hcalls with hnone | ⟨call, hrevision, hcall⟩
    · left
      show (configureCalls st.after.trace).map _ ++ _ = _
      rw [hnone]
      rfl
    · right
      show (configureCalls st.after.trace).map _ ++ _ = _
      rw [hcall, ← hrevision]
      rfl
  refine
    { vehicle := hvehicle
      driver := hdriver
      session := hsession
      stopped := hstopped
      checked := fun p hp => ?_
      bounded := fun revision hrevision => ⟨request, h.lastRequest, ?_⟩
      increasing := ?_
      kept := fun previous hprevious => ?_ }
  · rcases h.checked p hp with hold | hnew
    · exact hi.checked p hold
    · exact validate_asRequested hnew
  · rcases hrevisions with hsame | hnew
    · rw [hsame] at hrevision
      exact (holder revision hrevision).le
    · rw [hnew] at hrevision
      rcases List.mem_cons.mp hrevision with rfl | hold
      · exact le_refl _
      · exact (holder revision hold).le
  · rcases hrevisions with hsame | hnew
    · rw [hsame]
      exact hi.increasing
    · rw [hnew]
      exact List.pairwise_cons.mpr ⟨holder, hi.increasing⟩
  · obtain rfl : request = previous := Option.some.inj (h.lastRequest.symm.trans hprevious)
    refine ⟨haddressed.of_identity hidentity, _, h.lastResult,
      profileResult_sound hvehicle hdriver hsession h.stated, h.inForce, ?_⟩
    exact ⟨[], st, past, _, rfl, ⟨⟨t, hevent⟩, houtput, hnewer, h.lastRequest⟩,
      fun _ hst => absurd hst List.not_mem_nil, fun _ => ⟨rfl, rfl, rfl⟩,
      fun ⟨_, hst, _⟩ => absurd hst List.not_mem_nil⟩

theorem remembered_addressed {s : VehicleControlService}
    (h : ProfileDecision.Remembered (s.decideProfile request t)) : Addressed s request := by
  have hdecided := decideProfile_decided s request t
  generalize s.decideProfile request t = decision at h hdecided
  cases hdecided with
  | replies | replays => exact h.elim
  | refuses haddressed => exact haddressed
  | proceeds haddressed => exact haddressed

theorem requestInvariant_requested (hi : RequestInvariant past st.before)
    (hevent : st.event = .receiveSessionProfile request t)
    (hidentity : st.after.service.identity = st.before.service.identity)
    (hstopped : st.after.service.started = false → st.after.service.activeSessionProfile = none)
    (h : Requested adapter request t { st.before with trace := [] } st.output st.after) :
    RequestInvariant (st :: past) st.after := by
  have hquiet : ∀ w' : World σ, st.after = w' → w'.service = st.before.service →
      configureCalls w'.trace = [] → ¬Cleared w'.trace → RequestInvariant (st :: past) st.after := by
    rintro w' rfl hservice hcalls hclears
    refine hi.carry hidentity (by rw [hservice]) (by rw [hservice]) (by rw [hservice])
      (fun last hlast hsound => ?_) hcalls hclears
    exact ⟨last, by rw [hservice]; exact hlast, hsound, rfl, rfl, rfl⟩
  suffices hcases : ∀ output w', st.output = output → st.after = w' →
      Requested adapter request t { st.before with trace := [] } output w' →
      RequestInvariant (st :: past) st.after from hcases _ _ rfl rfl h
  intro output w' houtput hafter h
  cases h with
  | threw _ hcases =>
    rcases hcases with hsame | ⟨-, hasked⟩
    · exact hquiet _ (hafter.trans hsame) rfl rfl not_cleared_nil
    · refine hquiet _ (hafter.trans hasked) rfl rfl ?_
      exact fun hcleared => not_cleared_nil ((cleared_cons id).mp hcleared)
  | answered ht hanswered houtcome =>
    cases hanswered with
    | replies => exact hquiet _ hafter rfl rfl not_cleared_nil
    | @replays result hdecide =>
      have hdecided := decideProfile_decided st.before.service request t
      rw [show st.before.service.decideProfile request t = _ from hdecide] at hdecided
      cases hdecided with
      | @replays previous last _ _ _ hlast =>
        refine hi.carry hidentity (by rw [hafter]; rfl) (by rw [hafter]; rfl)
          (by rw [hafter]; rfl) (fun last' hlast' hsound => ?_) (by rw [hafter]; rfl) ?_
        · obtain rfl := Option.some.inj (hlast.symm.trans hlast')
          refine ⟨{ last with
            sentAtUtcMs := t
            idempotent := true
            effectiveProfile := st.before.service.activeSessionProfile },
            by rw [hafter]; rfl, ?_, rfl, rfl, rfl⟩
          exact ⟨hsound.vehicle, hsound.driver, hsound.session, hsound.seq, hsound.reason,
            hsound.accepted, hsound.rejected⟩
        · unfold Clears
          rw [hafter]
          exact not_cleared_nil
    | remembers hdecide hremembers =>
      subst hafter
      refine hi.remembers hevent hidentity hstopped (remembered_addressed hdecide)
        (decideProfile_newer _ _ _ hdecide) houtput hremembers ?_
      exact houtcome.calls

/-- A result passes its checks. -/
theorem requested_valid (hi : RequestInvariant past st.before)
    (hafter : RequestInvariant (st :: past) st.after)
    (h : Requested adapter request t { st.before with trace := [] } st.output st.after)
    {result : SessionControlProfileResult} (houtput : st.output = .profile result) :
    result.validate = .ok () := by
  generalize hworld : st.after = w' at h
  rw [houtput] at h
  cases h with
  | answered ht hanswered =>
    have hsent : 0 ≤ max t 0 := le_max_right t 0
    cases hanswered with
    | @replies idempotent reason hdecide =>
      have hdecided := decideProfile_decided st.before.service request t
      rw [show st.before.service.decideProfile request t = _ from hdecide] at hdecided
      cases hdecided with
      | replies hreason =>
        exact (profileResult_sound hi.vehicle hi.driver hi.session hreason).validate hsent
          hi.checked nofun
    | @replays result hdecide =>
      have hdecided := decideProfile_decided st.before.service request t
      rw [show st.before.service.decideProfile request t = _ from hdecide] at hdecided
      cases hdecided with
      | @replays previous last _ hprevious _ hlast haccepted =>
        obtain ⟨-, last', hlast', hkept⟩ := hi.kept previous hprevious
        obtain rfl := Option.some.inj (hlast.symm.trans hlast')
        have hsound := hkept.sound
        refine SessionControlProfileResult.Sound.validate ?_ ht hi.checked hkept.accepted
        exact ⟨hsound.vehicle, hsound.driver, hsound.session, hsound.seq, hsound.reason,
          hsound.accepted, hsound.rejected⟩
    | remembers hdecide hremembers =>
      subst hworld
      exact (profileResult_sound hafter.vehicle hafter.driver hafter.session
        hremembers.stated).validate hsent hafter.checked hremembers.inForce

theorem requested_outOfOrder {output : Reply} {w' : World σ}
    (h : Requested adapter request t w output w') (horder : OutOfOrder w.service request) :
    w' = w ∧ ∀ result, output = .profile result → result.accepted = false := by
  obtain ⟨reason, hdecide⟩ := decideProfile_outOfOrder (t := t) horder
  have hnot : ¬ProfileDecision.Remembered (w.service.decideProfile request t) := by
    rw [hdecide]
    exact id
  cases h with
  | threw _ hcases =>
    refine ⟨hcases.resolve_right fun hasked => hnot hasked.1, fun result heq => ?_⟩
    cases heq
  | answered _ hanswered =>
    cases hanswered with
    | replies =>
      refine ⟨rfl, fun result heq => ?_⟩
      obtain rfl := Reply.profile.inj heq
      rfl
    | replays hreplay => cases hdecide.symm.trans hreplay
    | remembers hremembered => exact absurd hremembered hnot

/-- The last request is not decided again. -/
theorem decideProfile_again {s : VehicleControlService} {previous : SessionControlProfileRequest}
    (hprevious : previous ∈ s.lastSessionProfileRequest) (hsame : request.Identical previous) :
    ¬ProfileDecision.Remembered (s.decideProfile request t) := by
  intro hremembered
  have hnewer := decideProfile_newer _ _ _ hremembered previous hprevious
  have hseq : request.seq = previous.seq := congrArg (fun r => r.seq) hsame
  omega

theorem requested_untouched {output : Reply} {w' : World σ}
    (h : Requested adapter request t w output w') {previous : SessionControlProfileRequest}
    (hprevious : previous ∈ w.service.lastSessionProfileRequest)
    (hsame : request.Identical previous) :
    w'.adapter = w.adapter ∧ w'.trace = w.trace ∧
      w'.service.activeSessionProfile = w.service.activeSessionProfile := by
  have hnot := decideProfile_again (t := t) hprevious hsame
  cases h with
  | threw _ hcases =>
    rw [hcases.resolve_right fun hasked => hnot hasked.1]
    exact ⟨rfl, rfl, rfl⟩
  | answered _ hanswered =>
    cases hanswered with
    | replies | replays => exact ⟨rfl, rfl, rfl⟩
    | remembers hremembered => exact absurd hremembered hnot

theorem Addressed.again {s : VehicleControlService} {previous : SessionControlProfileRequest}
    (h : Addressed s previous) (hsame : request.Identical previous)
    (hsent : 0 ≤ request.sentAtUtcMs) : Addressed s request := by
  have hfield : ∀ {α : Type} (f : SessionControlProfileRequest → α),
      f { request with sentAtUtcMs := previous.sentAtUtcMs } = f previous := fun f => congrArg f hsame
  have hmetadata := h.metadata
  unfold ProtocolMetadata.validate at hmetadata
  obtain ⟨_, hversion, hmetadata⟩ := bind_ok hmetadata
  obtain ⟨_, hvehicle, hmetadata⟩ := bind_ok hmetadata
  obtain ⟨_, hdriver, hmetadata⟩ := bind_ok hmetadata
  obtain ⟨_, hsession, hmetadata⟩ := bind_ok hmetadata
  obtain ⟨_, hseq, -⟩ := bind_ok hmetadata
  have hv : request.vehicleId = previous.vehicleId := hfield fun r => r.vehicleId
  have hd : request.driverId = previous.driverId := hfield fun r => r.driverId
  have hs : request.sessionId = previous.sessionId := hfield fun r => r.sessionId
  have hq : request.seq = previous.seq := hfield fun r => r.seq
  have hp : request.protocolVersion = previous.protocolVersion := hfield fun r => r.protocolVersion
  have ht : request.controlToken = previous.controlToken := hfield fun r => r.controlToken
  refine ⟨?_, ht ▸ h.token, hv.trans h.vehicle, hd.trans h.driver, hs.trans h.session,
    ht.trans h.authentic⟩
  unfold ProtocolMetadata.validate
  rw [hp, hv, hd, hs, hq, hversion, hvehicle, hdriver, hsession, hseq, check_pass hsent]
  rfl

theorem Repeats.same {previous : SessionControlProfileRequest}
    {result result' : SessionControlProfileResult} (h : Repeats past previous result)
    (hsame : SameDecision result' result) : Repeats past previous result' := by
  obtain ⟨later, first, past', decided, rfl, hdecides, hlater, hdecision, hrefused⟩ := h
  refine ⟨later, first, past', decided, rfl, hdecides, hlater, fun hclear => ?_, fun hclear => ?_⟩
  · have hold := hdecision hclear
    exact ⟨hsame.accepted.trans hold.accepted, hsame.appliedRevision.trans hold.appliedRevision,
      hsame.reason.trans hold.reason⟩
  · exact hsame.accepted.trans (hrefused hclear)

theorem requested_repeats (hi : RequestInvariant past w) {output : Reply} {w' : World σ}
    (h : Requested adapter request t w output w') {previous : SessionControlProfileRequest}
    (hprevious : previous ∈ w.service.lastSessionProfileRequest)
    (hsame : request.Identical previous) (hstarted : w.service.started = true) (ht : 0 ≤ t)
    (hsent : 0 ≤ request.sentAtUtcMs) :
    ∃ result, output = .profile result ∧ result.idempotent = true ∧
      Repeats past previous result := by
  obtain ⟨haddressed, last, hlast, hkept⟩ := hi.kept previous hprevious
  have hreplay := decideProfile_replays (t := t) (haddressed.again hsame hsent) hprevious hsame hlast
    hkept.accepted
  have hnot := decideProfile_again (t := t) hprevious hsame
  cases h with
  | threw hrefused => exact absurd (hrefused hstarted ht) hnot
  | answered _ hanswered =>
    cases hanswered with
    | replies hdecide => cases hreplay.symm.trans hdecide
    | @replays result hdecide =>
      obtain rfl := VehicleControlService.ProfileDecision.replay.inj (hreplay.symm.trans hdecide)
      exact ⟨_, rfl, rfl, hkept.repeats.same ⟨rfl, rfl, rfl⟩⟩
    | remembers hremembered => exact absurd hremembered hnot

/-- Only a request is answered with a result. -/
theorem respond_profile {e : Event} (he : ∀ request t, e ≠ .receiveSessionProfile request t)
    (result : SessionControlProfileResult) : (respond adapter w e).1 ≠ .profile result := by
  refine respond_ensures adapter (Q := fun reply _ => reply ≠ .profile result) ?_
  cases e with
  | receiveSessionProfile request t => exact absurd rfl (he request t)
  | start | tick | close =>
    exact (ensures_bind _ _).mpr (ensures_of_forall (fun _ _ => (nomatch ·)) fun _ _ => (nomatch ·))
  | receiveCommand | requestVcuHandshake | disconnectVcuHandshake | resetEstop =>
    exact (ensures_map _ _).mpr (ensures_of_forall (fun _ _ => (nomatch ·)) fun _ _ => (nomatch ·))

theorem requestInvariant_step (hi : RequestInvariant past w) (e : Event) :
    RequestInvariant ((machine adapter built).observe w e :: past) (respond adapter w e).2 := by
  by_cases he : ∃ request t, e = .receiveSessionProfile request t
  · obtain ⟨request, t, rfl⟩ := he
    have hinvariant : RequestInvariant past
        ((machine adapter built).observe w (.receiveSessionProfile request t)).before := hi
    exact requestInvariant_requested hinvariant rfl (identity_respond adapter w _)
      (stopped_respond hi.stopped _) (respond_requested adapter w request t)
  · exact requestInvariant_other hi fun request t heq => he ⟨request, t, heq⟩

theorem profileRequestLaw_step (hi : RequestInvariant past w) (e : Event) :
    ProfileRequestLaw ((machine adapter built).observe w e) past := by
  have hafter : RequestInvariant ((machine adapter built).observe w e :: past)
      (respond adapter w e).2 := requestInvariant_step hi e
  refine ⟨fun result houtput => ?_, fun request t heq horder => ?_,
    fun request t previous heq hprevious hsame => ?_,
    fun request t previous heq hprevious hsame hstarted ht hsent => ?_⟩
  · by_cases he : ∃ request t, e = .receiveSessionProfile request t
    · obtain ⟨request, t, rfl⟩ := he
      exact requested_valid hi hafter (respond_requested adapter w request t) houtput
    · exact absurd houtput (respond_profile (fun request t heq => he ⟨request, t, heq⟩) result)
  · obtain rfl : e = .receiveSessionProfile request t := heq
    exact requested_outOfOrder (respond_requested adapter w request t) horder
  · obtain rfl : e = .receiveSessionProfile request t := heq
    exact requested_untouched (respond_requested adapter w request t) hprevious hsame
  · obtain rfl : e = .receiveSessionProfile request t := heq
    have hbegun : RequestInvariant past { w with trace := [] } :=
      ⟨hi.vehicle, hi.driver, hi.session, hi.stopped, hi.checked, hi.bounded, hi.increasing, hi.kept⟩
    exact requested_repeats hbegun (respond_requested adapter w request t) hprevious hsame hstarted
      ht hsent

/-- The requests of a service that has just been constructed, in any order with its other
operations and whatever the adapter answers. -/
theorem profile_requests (hbuilt : Constructed built.service) {h : ServiceHistory σ}
    (hr : Run (machine adapter built) h w) :
    (revisions h).Pairwise (· > ·) ∧ Always ProfileRequestLaw h := by
  have hinit : RequestInvariant [] built := by
    refine
      { vehicle := hbuilt.vehicle
        driver := hbuilt.driver
        session := hbuilt.session
        stopped := fun _ => hbuilt.profile
        checked := fun p hp => ?_
        bounded := fun _ hrevision => absurd hrevision List.not_mem_nil
        increasing := List.Pairwise.nil
        kept := fun previous hprevious => ?_ }
    · rw [hbuilt.profile] at hp
      exact absurd hp (Option.not_mem_none p)
    · rw [hbuilt.request] at hprevious
      exact absurd hprevious (Option.not_mem_none previous)
  have hstep : ∀ past w e, Run (machine adapter built) past w → RequestInvariant past w → True →
      RequestInvariant ((machine adapter built).observe w e :: past) (respond adapter w e).2 :=
    fun _ _ e _ hi _ => requestInvariant_step hi e
  refine ⟨(hr.link hinit hstep (steps_true h)).increasing, ?_⟩
  exact hr.always_of_link hinit hstep (fun _ _ e _ hi _ => profileRequestLaw_step hi e)
    (steps_true h)

end

/-- A request, the same once more, and a newer one. -/
def requestEvents : List Event :=
  [.start 0, .receiveSessionProfile (benchRequest 1 0 benchProfile) 0,
    .receiveSessionProfile (benchRequest 1 0 benchProfile) 10,
    .receiveSessionProfile (benchRequest 2 20 benchProfile) 20]

theorem constructed_benchService : Constructed benchService :=
  ⟨by decide, by decide, by decide, rfl, rfl, rfl⟩

theorem profile_requests_repeated :
    revisions ((machine mock ⟨benchService, {}, []⟩).play requestEvents).1 = [2, 1] ∧
    Always ProfileRequestLaw ((machine mock ⟨benchService, {}, []⟩).play requestEvents).1 :=
  ⟨by decide +kernel, (profile_requests constructed_benchService (Run.play _ requestEvents)).2⟩

end MineTeleop.Service
