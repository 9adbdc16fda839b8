import Mathlib.Tactic.Linarith
import Mathlib.Tactic.FieldSimp
import MineTeleop.Stack.Calls

/-!
# The limits of service, adapter and bridge

Proved here, for every run of a vehicle that one configuration has built:

* `vehicleInvariant_of_run`: the bridge has the vehicle's limits, the profile the service has in
  force, and no revision beyond the service's last request.
-/

namespace MineTeleop.Stack

open Runs
open Bridge (BridgeRuntime ChassisOutcome ControlLimits Double controlLimits RuntimeControlSettings)
open Service

/-! ## What the bridge installs -/

/-- The settings that a profile comes to. -/
def profileSettings (profile : SessionControlProfile ℚ) (revision : ℕ) : RuntimeControlSettings :=
  { parkingIdleTimeoutMs := profile.parkingIdleTimeoutMs
    active := true
    revision := revision
    targetSpeedLimitMps := profile.targetSpeedKph / (36 / 10)
    maxMotorTorqueNm := profile.maxMotorTorqueNm
    maxBrakePressureBar := profile.maxBrakePressureBar
    maxSteeringRequest := profile.maxSteeringAngleDeg / chassisControlMaxSteeringAngleDeg
    motorTorqueRiseRateNmPerS := profile.motorTorqueRiseRateNmPerS }

/-- The limits of a bridge that a configuration has opened. -/
def openedLimits (config : AdapterConfig) (settings : RuntimeControlSettings) : ControlLimits :=
  { fullScaleMotorTorqueNm := config.fullScaleMotorTorqueNm
    hardSpeedLimitMps := config.maxSpeedMps
    maxOrdinaryBrakeBar := config.maxOrdinaryBrakePressureBar
    runtimeControl := settings }

/-- The profile lies in the ranges that a bridge with these limits checks. -/
structure InRange (limits : ControlLimits) (profile : SessionControlProfile ℚ) : Prop where
  targetSpeed : 0 ≤ profile.targetSpeedKph ∧
    profile.targetSpeedKph / (36 / 10) ≤ limits.hardSpeedLimitMps
  motorTorque : 0 ≤ profile.maxMotorTorqueNm ∧
    profile.maxMotorTorqueNm ≤ limits.fullScaleMotorTorqueNm
  brakePressure : 0 ≤ profile.maxBrakePressureBar ∧
    profile.maxBrakePressureBar ≤ limits.maxOrdinaryBrakeBar
  steering : 0 ≤ profile.maxSteeringAngleDeg ∧
    profile.maxSteeringAngleDeg ≤ chassisControlMaxSteeringAngleDeg

/-- The gains of a profile. -/
def speedPid (profile : SessionControlProfile ℚ) : Bridge.SpeedPidConfig :=
  { kp := profile.speedPidKp
    ki := profile.speedPidKi
    kd := profile.speedPidKd
    derivativeFilterTauMs := profile.speedPidDerivativeFilterTauMs
    maxDtMs := profile.speedPidMaxDtMs }

/-- What the bridge checks of a profile besides the ranges. -/
structure Dynamic (profile : SessionControlProfile ℚ) (revision : ℕ) : Prop where
  version : profile.profileVersion.toNat = 4
  revision : revision ≠ 0
  riseRate : 0 ≤ profile.motorTorqueRiseRateNmPerS ∧
    profile.motorTorqueRiseRateNmPerS ≤ Bridge.maxMotorTorqueRiseRate
  pid : Bridge.SpeedPidConfigValid (speedPid profile)

section
variable {profile : SessionControlProfile ℚ} {revision : ℕ}
  {b : BridgeRuntime} {now : ℤ}

theorem inRange_some {x minimum maximum : ℚ} :
    Double.InRange (some x) minimum maximum ↔ minimum ≤ x ∧ x ≤ maximum := by
  constructor
  · rintro ⟨y, hy, hrange⟩
    obtain rfl : x = y := Option.some.inj hy
    exact hrange
  · exact fun hrange => ⟨x, rfl, hrange⟩

/-- In the units of the profile. -/
theorem inRange_iff (limits : ControlLimits) :
    (0 ≤ profile.targetSpeedKph / (36 / 10) ∧
      profile.targetSpeedKph / (36 / 10) ≤ limits.hardSpeedLimitMps) ∧
    (0 ≤ profile.maxMotorTorqueNm ∧ profile.maxMotorTorqueNm ≤ limits.fullScaleMotorTorqueNm) ∧
    (0 ≤ profile.maxBrakePressureBar ∧
      profile.maxBrakePressureBar ≤ limits.maxOrdinaryBrakeBar) ∧
    (0 ≤ profile.maxSteeringAngleDeg / chassisControlMaxSteeringAngleDeg ∧
      profile.maxSteeringAngleDeg / chassisControlMaxSteeringAngleDeg ≤ 1) ↔
    InRange limits profile := by
  have hmax : chassisControlMaxSteeringAngleDeg = 30 := rfl
  constructor
  · rintro ⟨hspeed, htorque, hbrake, hsteering⟩
    rw [hmax] at hsteering
    exact ⟨⟨by linarith [hspeed.1], hspeed.2⟩, htorque, hbrake,
      ⟨by linarith [hsteering.1], by linarith [hsteering.2]⟩⟩
  · rintro ⟨hspeed, htorque, hbrake, hsteering⟩
    rw [hmax] at hsteering ⊢
    exact ⟨⟨by linarith [hspeed.1], hspeed.2⟩, htorque, hbrake,
      ⟨by linarith [hsteering.1], by linarith [hsteering.2]⟩⟩

theorem profileArgumentsValid_iff :
    Bridge.ProfileArgumentsValid b (runtimeControlConfig profile revision) 4
        (some profile.motorTorqueRiseRateNmPerS) ↔
      Dynamic profile revision ∧ InRange (controlLimits b) profile := by
  have hpid : (∃ pid ∈ (runtimeControlConfig profile revision).pid?,
      Bridge.SpeedPidConfigValid pid) ↔ Bridge.SpeedPidConfigValid (speedPid profile) := by
    constructor
    · rintro ⟨pid, hpid, hvalid⟩
      obtain rfl : speedPid profile = pid := Option.some.inj hpid
      exact hvalid
    · exact fun hvalid => ⟨_, rfl, hvalid⟩
  unfold Bridge.ProfileArgumentsValid
  rw [hpid, inRange_some, ← inRange_iff]
  simp only [runtimeControlConfig, inRange_some, controlLimits]
  constructor
  · rintro ⟨-, hversion, hrevision, -, hspeeds, htorques, hbrakes, hsteering, hrise, hvalid⟩
    exact ⟨⟨hversion, hrevision, hrise, hvalid⟩, hspeeds, htorques, hbrakes, hsteering⟩
  · rintro ⟨⟨hversion, hrevision, hrise, hvalid⟩, hspeeds, htorques, hbrakes, hsteering⟩
    exact ⟨trivial, hversion, hrevision, trivial, hspeeds, htorques, hbrakes, hsteering, hrise,
      hvalid⟩

/-- The V3 entry point adds the check of the parking timeout. -/
theorem configure_v3 (hidle : 0 ≤ profile.parkingIdleTimeoutMs ∧
    profile.parkingIdleTimeoutMs ≤ 1000) :
    Bridge.configure b now .v3 (runtimeControlConfig profile revision) =
      Bridge.configureRuntimeControl b now (runtimeControlConfig profile revision) 4
        (some profile.motorTorqueRiseRateNmPerS) profile.parkingIdleTimeoutMs := by
  refine if_neg ?_
  rintro (hsize | hreserved | hlow | hhigh)
  · cases hsize
  · exact hreserved rfl
  · exact absurd hidle.1 (not_le.mpr hlow)
  · exact absurd hidle.2 (not_le.mpr hhigh)

theorem parkingIdle_of_configures
    (h : (Bridge.configure b now .v3 (runtimeControlConfig profile revision)).1 = .none) :
    0 ≤ profile.parkingIdleTimeoutMs ∧ profile.parkingIdleTimeoutMs ≤ 1000 := by
  by_contra hnot
  have hrefused : (Bridge.configure b now .v3 (runtimeControlConfig profile revision)).1 =
      .argumentsInvalid := by
    refine congrArg Prod.fst (if_pos ?_)
    rcases not_and_or.mp hnot with hlow | hhigh
    · exact .inr (.inr (.inl (not_le.mp hlow)))
    · exact .inr (.inr (.inr (not_le.mp hhigh)))
  rw [hrefused] at h
  cases h

/-- What an accepted profile has passed, and what it leaves. -/
theorem configure_accepts
    (h : (Bridge.configure b now .v3 (runtimeControlConfig profile revision)).1 = .none) :
    InRange (controlLimits b) profile ∧
    (Bridge.configure b now .v3 (runtimeControlConfig profile revision)).2.1 = revision ∧
    controlLimits (Bridge.configure b now .v3 (runtimeControlConfig profile revision)).2.2 =
      { controlLimits b with runtimeControl := profileSettings profile revision } := by
  have hv3 : Bridge.configure b now .v3 (runtimeControlConfig profile revision) = _ :=
    configure_v3 (parkingIdle_of_configures h)
  rw [hv3] at h ⊢
  have hvalid := ((Bridge.configureRuntimeControl_none_iff ..).mp h).2.1
  have hdecides := Bridge.configureRuntimeControl_decides b now
    (runtimeControlConfig profile revision) 4 (some profile.motorTorqueRiseRateNmPerS)
    profile.parkingIdleTimeoutMs
  refine ⟨(profileArgumentsValid_iff.mp hvalid).2, ?_, ?_⟩
  · rcases hdecides with ⟨hissue, -⟩ | ⟨-, hrevision, -⟩
    · exact absurd h hissue
    · exact hrevision
  · rw [Bridge.configureRuntimeControl_limits h]
    rfl

/-- A bridge opened with a configuration has its limits, and no profile. -/
theorem openV4_limits {a : DynamicLibraryVehicleAdapter} {env : Bridge.OpenEnvironment}
    (h : Bridge.openV4 env a.openConfig = .ok b) :
    controlLimits b = openedLimits a.config {} := by
  unfold Bridge.openV4 Bridge.openConfigured at h
  split at h
  · cases h
  unfold Bridge.openBridge at h
  split at h
  · cases h
  split at h
  · cases h
  obtain ⟨seed, -, h⟩ := Service.bind_ok h
  extract_lets emergency at h
  obtain ⟨initial, -, h⟩ := Service.bind_ok h
  extract_lets seeded armed at h
  split_ifs at h
  obtain rfl := Except.ok.inj h
  rfl

/-- Settings do not touch the limits that the bridge was opened with. -/
theorem openedLimits_of_settings {b' : BridgeRuntime} {config : AdapterConfig}
    {settings : RuntimeControlSettings}
    (h : controlLimits b' = { controlLimits b with runtimeControl := settings })
    (hb : controlLimits b = openedLimits config b.runtimeControl) :
    controlLimits b' = openedLimits config b'.runtimeControl := by
  have hsettings : b'.runtimeControl = settings := congrArg ControlLimits.runtimeControl h
  rw [h, hb, hsettings]
  rfl

theorem seedCommand_error {seed : ChassisOutcome} {code : ℤ}
    (h : Bridge.seedCommand seed = .error code) : code ≠ 0 := by
  unfold Bridge.seedCommand at h
  split at h
  · cases h
    decide
  · cases h
    decide
  · split at h
    · cases h
    · cases h
      decide

/-- Opening never fails with the code of success. -/
theorem openV4_error {config : Bridge.OpenConfig} {env : Bridge.OpenEnvironment} {code : ℤ}
    (h : Bridge.openV4 env config = .error code) : code ≠ 0 := by
  have hfails : ∀ {n : ℤ}, n ≠ 0 → (Except.error n : Except ℤ BridgeRuntime) = .error code →
      code ≠ 0 := fun hn heq => Except.error.inj heq ▸ hn
  unfold Bridge.openV4 Bridge.openConfigured Bridge.openBridge at h
  split at h
  · exact hfails (by decide) h
  split at h
  · exact hfails (by decide) h
  split at h
  · exact hfails (by decide) h
  cases hemergency : Bridge.seedCommand env.emergencySeed with
  | error n =>
    rw [hemergency] at h
    exact hfails (seedCommand_error hemergency) h
  | ok seed =>
    cases hinitial : Bridge.seedCommand env.initialSeed with
    | error n =>
      rw [hemergency, hinitial] at h
      exact hfails (seedCommand_error hinitial) h
    | ok initial =>
      rw [hemergency, hinitial] at h
      change (if _ then _ else _) = Except.error code at h
      split at h
      · exact hfails (by decide) h
      split at h
      · exact hfails (by decide) h
      split at h
      · exact hfails (by decide) h
      · cases h

end

/-! ## What adapter and bridge hold -/

/-- Adapter and bridge have the profile. -/
def Holds (profile : SessionControlProfile ℚ) (c : Chassis) : Prop :=
  ∃ revision b, c.bridge = some b ∧ b.runtimeControl = profileSettings profile revision ∧
    c.adapter.sessionMotorTorqueLimitNm = profile.maxMotorTorqueNm ∧
    c.adapter.sessionBrakePressureLimitBar = profile.maxBrakePressureBar ∧
    InRange (controlLimits b) profile

/-- The bridge is there while the adapter is open, with the limits of its configuration. -/
structure Matched (c : Chassis) : Prop where
  opened : c.adapter.opened = true → c.bridge ≠ none
  limits : ∀ b ∈ c.bridge, controlLimits b = openedLimits c.adapter.config b.runtimeControl

section
variable {c c' : Chassis}

theorem sameLimits_advance (c : Chassis) : SameLimits c c.advance :=
  sameLimits_of_moves (advance_quiet c) id

theorem SameLimits.bridge_some {b : BridgeRuntime} (h : SameLimits c c') (hb : c.bridge = some b) :
    ∃ b', c'.bridge = some b' ∧ controlLimits b' = controlLimits b := by
  have hmap := h.bridge
  rw [hb] at hmap
  exact Option.map_eq_some_iff.mp hmap

theorem SameLimits.holds {profile : SessionControlProfile ℚ} (h : SameLimits c c')
    (hc : Holds profile c) : Holds profile c' := by
  obtain ⟨revision, b, hb, hsettings, htorque, hbrake, hrange⟩ := hc
  obtain ⟨b', hb', hlimits⟩ := h.bridge_some hb
  refine ⟨revision, b', hb', ?_, ?_, ?_, hlimits ▸ hrange⟩
  · exact (congrArg ControlLimits.runtimeControl hlimits).trans hsettings
  · exact (congrArg AdapterLimits.sessionMotorTorqueLimitNm h.adapter).trans htorque
  · exact (congrArg AdapterLimits.sessionBrakePressureLimitBar h.adapter).trans hbrake

theorem SameLimits.matched (h : SameLimits c c') (hconfig : c'.adapter.config = c.adapter.config)
    (hc : Matched c) : Matched c' := by
  refine ⟨fun hopened hnone => ?_, fun b' hb' => ?_⟩
  · have hsome := hc.opened ((congrArg AdapterLimits.opened h.adapter).symm.trans hopened)
    have hmap := h.bridge
    rw [hnone] at hmap
    exact hsome (Option.map_eq_none_iff.mp hmap.symm)
  · have hmap := h.bridge
    rw [Option.mem_def.mp hb'] at hmap
    obtain ⟨b, hb, hlimits⟩ := Option.map_eq_some_iff.mp hmap.symm
    have hsettings : b.runtimeControl = b'.runtimeControl :=
      congrArg ControlLimits.runtimeControl hlimits
    rw [← hlimits, hc.limits b hb, hconfig, hsettings]

/-! ### The calls that reconfigure -/

/-- The bridge behind the call that configures it. -/
def Chassis.configured (c : Chassis) (b : BridgeRuntime) (now : ℤ)
    (profile : SessionControlProfile ℚ) (revision : ℕ) : Chassis :=
  c.feed (some (.configureRuntimeControlProfile profile revision)) b
    (.configure now .v3 (runtimeControlConfig profile revision))

/-- What a call to configure comes to. -/
inductive ConfigureOutcome (c : Chassis) (now : ℤ) (profile : SessionControlProfile ℚ)
    (revision : ℕ) : Except Failure ℕ × Chassis → Prop
  | closed (h : c.adapter.opened = false) :
      ConfigureOutcome c now profile revision (.error Chassis.notOpen, c)
  | exceeds (failure : Failure) (h : c.adapter.ExceedsVehicleLimits profile revision) :
      ConfigureOutcome c now profile revision (.error failure, c)
  | missing (failure : Failure) (hopened : c.adapter.opened = true) (hb : c.bridge = none) :
      ConfigureOutcome c now profile revision (.error failure, c)
  | refuses (failure : Failure) (b : BridgeRuntime) (hb : c.bridge = some b)
      (hissue : (Bridge.configure b now .v3 (runtimeControlConfig profile revision)).1 ≠ .none) :
      ConfigureOutcome c now profile revision
        (.error failure, c.configured b now profile revision)
  | installs (b : BridgeRuntime) (hopened : c.adapter.opened = true) (hb : c.bridge = some b)
      (hissue : (Bridge.configure b now .v3 (runtimeControlConfig profile revision)).1 = .none) :
      ConfigureOutcome c now profile revision
        (.ok revision, (c.configured b now profile revision).withAdapter fun a =>
          { a with
            sessionMotorTorqueLimitNm := profile.maxMotorTorqueNm
            sessionBrakePressureLimitBar := profile.maxBrakePressureBar
            runtimeControlProfileRevision := revision })

theorem configureRuntimeControlProfile_outcome (c : Chassis) (now : ℤ)
    (profile : SessionControlProfile ℚ) (revision : ℕ) :
    ConfigureOutcome c now profile revision
      (c.configureRuntimeControlProfile now profile revision) := by
  unfold Chassis.configureRuntimeControlProfile
  split
  · rename_i hclosed
    exact .closed hclosed
  rename_i hopened
  split
  · rename_i hexceeds
    exact .exceeds _ hexceeds
  unfold Chassis.configureV3
  cases hb : c.bridge with
  | none => exact .missing _ (by simpa using hopened) hb
  | some b =>
    by_cases hissue :
        (Bridge.configure b now .v3 (runtimeControlConfig profile revision)).1 = .none
    · dsimp only
      rw [if_neg (not_not.mpr hissue), (configure_accepts hissue).2.1]
      exact .installs b (by simpa using hopened) hb hissue
    · dsimp only
      rw [if_pos hissue]
      exact .refuses _ b hb hissue

/-- Everything is as it was, or the bridge has no profile any more. -/
def Blanks (c c' : Chassis) : Prop :=
  SameLimits c c' ∨
    ((Matched c → Matched c') ∧ ∀ b ∈ c'.bridge, b.runtimeControl.active = false)

theorem openAdapter_blanks (c : Chassis) (loading : Except String Bridge.OpenEnvironment) :
    Blanks c (c.openAdapter loading).2 := by
  unfold Chassis.openAdapter
  split
  · exact .inl ⟨rfl, rfl⟩
  rename_i env
  unfold Chassis.openV4
  split
  · rename_i code herror
    have hcode : code ≠ 0 := openV4_error herror
    unfold Chassis.checkResult
    dsimp only
    rw [if_neg hcode]
    exact .inl ⟨rfl, rfl⟩
  · rename_i b hopens
    have hlimits := openV4_limits hopens
    have hb : b.runtimeControl = {} := congrArg ControlLimits.runtimeControl hlimits
    refine .inr ⟨fun _ => ⟨fun _ => Option.some_ne_none b, ?_⟩, ?_⟩
    · rintro b' hb'
      obtain rfl : b = b' := Option.some.inj hb'
      rw [hb]
      exact hlimits
    · rintro b' hb'
      obtain rfl : b = b' := Option.some.inj hb'
      rw [hb]

theorem closeAdapter_blanks (c : Chassis) (closing : List IoEvent) :
    Blanks c (c.closeAdapter closing).2 := by
  unfold Chassis.closeAdapter
  split
  · exact .inl ⟨rfl, rfl⟩
  · refine .inr ⟨fun _ => ⟨fun hopened => absurd hopened Bool.false_ne_true, ?_⟩, ?_⟩
    · exact fun b hb => absurd hb (Option.not_mem_none b)
    · exact fun b hb => absurd hb (Option.not_mem_none b)

theorem clearRuntimeControlProfile_blanks (c : Chassis) :
    Blanks c c.clearRuntimeControlProfile.2 := by
  unfold Chassis.clearRuntimeControlProfile
  split
  · exact .inl ⟨rfl, rfl⟩
  unfold Chassis.deliver Chassis.checkResult
  cases hb : c.bridge with
  | none => exact .inl ⟨rfl, rfl⟩
  | some b =>
    refine .inr ⟨fun hmatched => ⟨fun _ => Option.some_ne_none _, ?_⟩, ?_⟩
    · rintro b' hb'
      obtain rfl : Bridge.clearRuntimeControl b = b' := Option.some.inj hb'
      exact openedLimits_of_settings rfl (hmatched.limits b hb)
    · rintro b' hb'
      obtain rfl : Bridge.clearRuntimeControl b = b' := Option.some.inj hb'
      rfl

/-- What a call does to the limits: nothing, or one of the changes above. -/
theorem answer_limits (c : Chassis) (call : AdapterCall) :
    SameLimits c (dynamicLibrary.answer call c).2 ∨
    (call.Forgets ∧ Blanks c.advance (dynamicLibrary.answer call c).2) ∨
    ∃ profile revision, call = .configureRuntimeControlProfile profile revision := by
  cases call with
  | configureRuntimeControlProfile profile revision => exact .inr (.inr ⟨profile, revision, rfl⟩)
  | openAdapter => exact .inr (.inl ⟨trivial, openAdapter_blanks _ _⟩)
  | closeAdapter => exact .inr (.inl ⟨trivial, closeAdapter_blanks _ _⟩)
  | clearRuntimeControlProfile => exact .inr (.inl ⟨trivial, clearRuntimeControlProfile_blanks _⟩)
  | _ => exact .inl (sameLimits_of_moves (dynamicLibrary_moves c _) id)

theorem SameLimits.trans {c'' : Chassis} (h : SameLimits c c') (h' : SameLimits c' c'') :
    SameLimits c c'' :=
  ⟨h'.adapter.trans h.adapter, h'.bridge.trans h.bridge⟩

/-- The profile that a configuration leaves. -/
theorem ConfigureOutcome.holds {now : ℤ} {profile : SessionControlProfile ℚ} {revision n : ℕ}
    {r : Except Failure ℕ × Chassis} (h : ConfigureOutcome c now profile revision r)
    (hok : r.1 = .ok n) : Holds profile r.2 := by
  cases h with
  | closed | exceeds | missing | refuses => cases hok
  | installs b _ hb hissue =>
    obtain ⟨hrange, -, hlimits⟩ := configure_accepts hissue
    refine ⟨revision, _, rfl, congrArg ControlLimits.runtimeControl hlimits, rfl, rfl, ?_⟩
    exact hlimits ▸ ⟨hrange.1, hrange.2, hrange.3, hrange.4⟩

/-- Bridge and vehicle match before and behind a configuration. -/
theorem ConfigureOutcome.matched {now : ℤ} {profile : SessionControlProfile ℚ} {revision : ℕ}
    {r : Except Failure ℕ × Chassis} (h : ConfigureOutcome c now profile revision r)
    (hc : Matched c) : Matched r.2 := by
  have hconfigured : ∀ b, c.bridge = some b →
      controlLimits (Bridge.configure b now .v3 (runtimeControlConfig profile revision)).2.2 =
        openedLimits c.adapter.config
          (Bridge.configure b now .v3 (runtimeControlConfig profile revision)).2.2.runtimeControl := by
    intro b hb
    have hlimits := hc.limits b hb
    rcases Bridge.configure_decides b now .v3 (runtimeControlConfig profile revision) with
      ⟨-, -, hsame⟩ | ⟨hnone, -⟩
    · rw [hsame]
      exact hlimits
    · exact openedLimits_of_settings (configure_accepts hnone).2.2 hlimits
  cases h with
  | closed | exceeds | missing => exact hc
  | refuses _ b hb =>
    refine ⟨fun _ => Option.some_ne_none _, fun b' hb' => ?_⟩
    obtain rfl := Option.some.inj hb'
    exact hconfigured b hb
  | installs b _ hb =>
    refine ⟨fun _ => Option.some_ne_none _, fun b' hb' => ?_⟩
    obtain rfl := Option.some.inj hb'
    exact hconfigured b hb

theorem matched_answer (call : AdapterCall) (hc : Matched c) :
    Matched (dynamicLibrary.answer call c).2 := by
  have hadvance : Matched c.advance :=
    (sameLimits_advance c).matched (config_of_moves (advance_quiet c)) hc
  rcases answer_limits c call with hsame | ⟨-, hsame | ⟨hmatched, -⟩⟩ | ⟨profile, revision, rfl⟩
  · exact hsame.matched (config_of_moves (dynamicLibrary_moves c call)) hc
  · exact ((sameLimits_advance c).trans hsame).matched
      (config_of_moves (dynamicLibrary_moves c call)) hc
  · exact hmatched hadvance
  · exact (configureRuntimeControlProfile_outcome _ _ _ _).matched hadvance

theorem holdsProfiles_dynamicLibrary : HoldsProfiles dynamicLibrary Holds := by
  constructor
  · intro profile revision c r hok
    exact (configureRuntimeControlProfile_outcome _ _ _ _).holds hok
  · intro call c profile hcall hholds
    exact (sameLimits_of_moves (dynamicLibrary_moves c call) hcall).holds hholds

/-- No profile that the bridge has in force is beyond the number. -/
def Bounded (n : ℕ) (c : Chassis) : Prop :=
  ∀ b ∈ c.bridge, b.runtimeControl.active = true → b.runtimeControl.revision ≤ n

theorem SameLimits.bounded {n : ℕ} (h : SameLimits c c') (hc : Bounded n c) : Bounded n c' := by
  intro b' hb'
  have hmap := h.bridge
  rw [Option.mem_def.mp hb'] at hmap
  obtain ⟨b, hb, hlimits⟩ := Option.map_eq_some_iff.mp hmap.symm
  have hsettings : b.runtimeControl = b'.runtimeControl :=
    congrArg ControlLimits.runtimeControl hlimits
  rw [← hsettings]
  exact hc b hb

theorem ConfigureOutcome.bounded {now : ℤ} {profile : SessionControlProfile ℚ} {revision n : ℕ}
    {r : Except Failure ℕ × Chassis} (h : ConfigureOutcome c now profile revision r)
    (hn : n ≤ revision) (hc : Bounded n c) : Bounded revision r.2 := by
  have hmono : Bounded revision c := fun b hb hactive => (hc b hb hactive).trans hn
  cases h with
  | closed | exceeds | missing => exact hmono
  | refuses _ b hb hissue =>
    intro b' hb'
    obtain rfl := Option.some.inj hb'
    rcases Bridge.configure_decides b now .v3 (runtimeControlConfig profile revision) with
      ⟨-, -, hsame⟩ | ⟨hnone, -⟩
    · have hrespond : (Bridge.respond b (.configure now .v3
          (runtimeControlConfig profile revision))).2 = b := hsame
      rw [hrespond]
      exact hmono b hb
    · exact absurd hnone hissue
  | installs b _ hb hissue =>
    intro b' hb' _
    obtain rfl := Option.some.inj hb'
    have hlimits := (configure_accepts hissue).2.2
    exact (congrArg (fun limits : ControlLimits => limits.runtimeControl.revision) hlimits).le

theorem boundedBy_dynamicLibrary : BoundedBy dynamicLibrary Bounded := by
  constructor
  · intro m n c hle hc b hb hactive
    exact (hc b hb hactive).trans hle
  · intro profile revision c n hle hc
    exact (configureRuntimeControlProfile_outcome _ _ _ _).bounded hle
      ((sameLimits_advance c).bounded hc)
  · intro call c n hcall hc
    rcases answer_limits c call with hsame | ⟨-, hsame | ⟨-, hblank⟩⟩ | ⟨profile, revision, rfl⟩
    · exact hsame.bounded hc
    · exact hsame.bounded ((sameLimits_advance c).bounded hc)
    · intro b hb hactive
      rw [hblank b hb] at hactive
      cases hactive
    · exact absurd rfl (hcall profile revision)

end

/-! ## Over runs -/

/-- The limits that a configuration gives the service. -/
def VehicleConfig.limits (config : VehicleConfig) : VehicleLimits :=
  { maxSpeedKph := config.fieldSafety.maxSpeedKph
    maxThrottle := config.fieldSafety.maxThrottle
    fullScaleMotorTorqueNm := config.fieldSafety.fullScaleMotorTorqueNm
    maxBrakePressureBar := config.fieldSafety.maxBrakePressureBar
    maxSteeringAngleDeg := config.fieldSafety.maxSteeringAngleDeg }

/-- What holds between service, adapter and bridge that a configuration has built. -/
structure VehicleInvariant (config : VehicleConfig) (w : World Chassis) : Prop where
  matched : Matched w.adapter
  agreed : Agreed Holds w
  bounded : Bounded (lastRequestSeq w.service) w.adapter
  adapter : w.adapter.adapter.config = config.adapterConfig
  service : vehicleLimits w.service = config.limits

section
variable {config : VehicleConfig} {w : World Chassis}

theorem VehicleInvariant.scheduled (h : VehicleInvariant config w) (script : ℕ → Interlude) :
    VehicleInvariant config { w with adapter := w.adapter.scheduled script } :=
  ⟨⟨h.matched.opened, h.matched.limits⟩, ⟨h.agreed.holds, h.agreed.stopped⟩, h.bounded, h.adapter,
    h.service⟩

theorem VehicleInvariant.sameLimits {c : Chassis} (h : VehicleInvariant config w)
    (hsame : SameLimits w.adapter c) (hconfig : c.adapter.config = w.adapter.adapter.config)
    (trace : List Observation) : VehicleInvariant config ⟨w.service, c, trace⟩ :=
  ⟨hsame.matched hconfig h.matched, ⟨fun p hp => hsame.holds (h.agreed.holds p hp), h.agreed.stopped⟩,
    hsame.bounded h.bounded, hconfig.trans h.adapter, h.service⟩

theorem vehicleInvariant_respond (h : VehicleInvariant config w) (e : Event) :
    VehicleInvariant config (respond w e).2 := by
  cases e with
  | operation e script =>
    have hscheduled := h.scheduled script
    refine ⟨adapter_respond (fun _ _ => matched_answer _) _ e hscheduled.matched,
      agreed_respond holdsProfiles_dynamicLibrary _ e hscheduled.agreed,
      bounded_respond boundedBy_dynamicLibrary _ e hscheduled.bounded, ?_, ?_⟩
    · exact adapter_respond (I := fun c => c.adapter.config = config.adapterConfig)
        (fun call c hc => (config_of_moves (dynamicLibrary_moves c call)).trans hc) _ e
        hscheduled.adapter
    · exact (vehicleLimits_respond dynamicLibrary _ e).trans hscheduled.service
  | io e =>
    have hmoves : ChassisMoves .status { w.adapter with log := [] }
        ({ w.adapter with log := [] }.deliver none e.toEvent) :=
      deliver_moves _ none e.toEvent (.inl rfl) (.inr (ioEvent_quiet e))
    have hlimits := sameLimits_of_moves hmoves id
    have hconfig := config_of_moves hmoves
    exact h.sameLimits ⟨hlimits.adapter, hlimits.bridge⟩ hconfig []

/-- The service that a configuration creates. -/
theorem createService_limits {driverId sessionId controlToken : String} {telemetryIntervalMs : ℤ}
    {service : VehicleControlService}
    (h : createService config driverId sessionId controlToken telemetryIntervalMs = .ok service) :
    vehicleLimits service = config.limits ∧ service.started = false ∧
      service.activeSessionProfile = none := by
  unfold createService at h
  obtain ⟨receiver, -, h⟩ := Service.bind_ok h
  obtain ⟨safety, -, h⟩ := Service.bind_ok h
  split at h
  · cases h
  · obtain rfl := Except.ok.inj h
    exact ⟨rfl, rfl, rfl⟩

theorem createService_init {driverId sessionId controlToken : String} {telemetryIntervalMs : ℤ}
    {service : VehicleControlService}
    (h : createService config driverId sessionId controlToken telemetryIntervalMs = .ok service) :
    service.safety.state = .init := by
  unfold createService at h
  obtain ⟨receiver, -, h⟩ := Service.bind_ok h
  obtain ⟨safety, hsafety, h⟩ := Service.bind_ok h
  split at h
  · cases h
  · obtain rfl := Except.ok.inj h
    unfold SafetyStateMachine.create at hsafety
    split at hsafety
    · cases hsafety
    split at hsafety
    · cases hsafety
    · obtain rfl := Except.ok.inj hsafety
      rfl

theorem vehicleInvariant_built {built : World Chassis} (h : Built built) :
    ∃ config, VehicleInvariant config built := by
  obtain ⟨config, driverId, sessionId, controlToken, telemetryIntervalMs, service, adapter,
    hservice, hadapter, rfl⟩ := h
  obtain ⟨hlimits, hstarted, hprofile⟩ := createService_limits hservice
  unfold createVehicleAdapter at hadapter
  split at hadapter
  · obtain rfl := Except.ok.inj hadapter
    refine ⟨config, ⟨fun hopened => absurd hopened Bool.false_ne_true, ?_⟩,
      ⟨fun p hp => ?_, fun _ => hprofile⟩, ?_, rfl, hlimits⟩
    · exact fun b hb => absurd hb (Option.not_mem_none b)
    · rw [hprofile] at hp
      cases hp
    · exact fun b hb => absurd hb (Option.not_mem_none b)
  · cases hadapter

theorem vehicleInvariant_of_run {built : World Chassis} {h : History (World Chassis) Event Reply}
    (hb : VehicleInvariant config built) (hr : Run (machine built) h w) :
    VehicleInvariant config w :=
  hr.invariant (I := VehicleInvariant config) hb fun _ e hi => vehicleInvariant_respond hi e

end

end MineTeleop.Stack
