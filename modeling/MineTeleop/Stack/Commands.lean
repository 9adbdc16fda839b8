import Mathlib.Tactic.Linarith
import Mathlib.Tactic.Positivity
import Mathlib.Tactic.FieldSimp
import MineTeleop.Stack.Limits

/-!
# Commands on their way to the bridge

Proved here, for every run of a vehicle that one configuration has built:

* `forwards_within`: every driver command that the service accepts and the adapter hands on is an
  intent inside the limits that the bridge has from the service's profile, so that the bridge's
  own check of them never trips.
-/

namespace MineTeleop.Stack

open Runs
open Bridge (ApplyArguments ApplyResult BridgeRuntime ControlLimits IntentArguments clampValue
  controlLimits)
open Service

/-! ## The clamps of the service -/

/-- A command in the limits of vehicle and profile. -/
structure Clamped (limits : VehicleLimits) (profile : SessionControlProfile ℚ)
    (command : DriverCommand) : Prop where
  throttle : command.throttle * limits.maxSpeedKph ≤ profile.targetSpeedKph
  steering : |command.steering| ≤ profile.maxSteeringAngleDeg / 30

theorem abs_clampValue_le {x limit : ℚ} (h : 0 ≤ limit) : |clampValue x (-limit) limit| ≤ limit := by
  unfold clampValue
  rw [abs_le]
  exact ⟨le_max_left _ _, max_le (by linarith) (min_le_left _ _)⟩

theorem limitCommand_clamped {s : VehicleControlService} {profile : SessionControlProfile ℚ}
    (hprofile : s.activeSessionProfile = some profile) (hspeed : 0 ≤ profile.targetSpeedKph)
    (hsteering : 0 ≤ profile.maxSteeringAngleDeg) (hmaxSpeed : 0 ≤ s.maxSpeedKph)
    (hmaxSteering : 0 ≤ s.maxSteeringAngleDeg) (command : DriverCommand) :
    Clamped (vehicleLimits s) profile (s.limitCommand command).1 := by
  constructor
  · have hlimit : (s.limitCommand command).1.throttle ≤ s.profileThrottleLimit profile := by
      show min _ s.sessionThrottleLimit ≤ _
      unfold VehicleControlService.sessionThrottleLimit
      rw [hprofile]
      exact min_le_right _ _
    show _ * s.maxSpeedKph ≤ _
    unfold VehicleControlService.profileThrottleLimit at hlimit
    rcases hmaxSpeed.eq_or_lt with hzero | hpositive
    · rw [← hzero, mul_zero]
      exact hspeed
    · rw [if_pos hpositive] at hlimit
      exact (le_div_iff₀ hpositive).mp hlimit
  · have hangle : s.sessionSteeringAngleLimit = profile.maxSteeringAngleDeg := by
      unfold VehicleControlService.sessionSteeringAngleLimit
      rw [hprofile]
    show |clampValue _ (-(min _ s.sessionSteeringAngleLimit / 30)) _| ≤ _
    rw [hangle]
    have hmin : min s.maxSteeringAngleDeg profile.maxSteeringAngleDeg ≤
        profile.maxSteeringAngleDeg := min_le_right _ _
    have hnonneg : 0 ≤ min s.maxSteeringAngleDeg profile.maxSteeringAngleDeg :=
      le_min hmaxSteering hsteering
    refine (abs_clampValue_le (by linarith)).trans ?_
    linarith

/-! ## The adapter's conversion -/

/-- An intent in the settings of a bridge, without the bridge's tolerance. -/
structure WithinSettings (limits : ControlLimits) (a : IntentArguments) : Prop where
  targetSpeed : a.targetSpeedMps ≤ limits.runtimeControl.targetSpeedLimitMps
  traction : a.normalizedLongitudinal ≤
    if 0 < limits.fullScaleMotorTorqueNm then
      limits.runtimeControl.maxMotorTorqueNm / limits.fullScaleMotorTorqueNm
    else 0
  brake : -a.normalizedLongitudinal * limits.maxOrdinaryBrakeBar ≤
    limits.runtimeControl.maxBrakePressureBar
  steering : ∀ value ∈ a.steeringValues.take Vcu.steeringAxisCount,
    |value| ≤ limits.runtimeControl.maxSteeringRequest

theorem validateNumbers_ok {command : DriverCommand} {u : Unit}
    (h : validateNumbers command = .ok u) :
    |command.steering| ≤ 1 ∧ (0 ≤ command.throttle ∧ command.throttle ≤ 1) ∧
      0 ≤ command.brake ∧ command.brake ≤ 1 := by
  unfold validateNumbers at h
  obtain ⟨steering, hsteering, h⟩ := bind_ok h
  obtain ⟨throttle, hthrottle, h⟩ := bind_ok h
  obtain ⟨brake, hbrake, -⟩ := bind_ok h
  obtain ⟨hs, hslow, hshigh⟩ := requireFiniteRange_ok hsteering
  obtain ⟨ht, htlow, hthigh⟩ := requireFiniteRange_ok hthrottle
  obtain ⟨hbr, hblow, hbhigh⟩ := requireFiniteRange_ok hbrake
  obtain rfl := Option.some.inj hs
  obtain rfl := Option.some.inj ht
  obtain rfl := Option.some.inj hbr
  exact ⟨abs_le.mpr ⟨hslow, hshigh⟩, ⟨htlow, hthigh⟩, hblow, hbhigh⟩

/-- The speed of a command is at most its throttle's share. -/
theorem dynamicAdapterTargetSpeedMps_ok {command : DriverCommand} {maxSpeedMps speed : ℚ}
    (h : dynamicAdapterTargetSpeedMps command maxSpeedMps = .ok speed) :
    0 ≤ speed ∧ speed ≤ command.throttle * maxSpeedMps ∧ speed ≤ maxSpeedMps := by
  unfold dynamicAdapterTargetSpeedMps at h
  obtain ⟨_, hvalid, h⟩ := bind_ok h
  obtain ⟨_, hmax, h⟩ := bind_ok h
  obtain ⟨-, ⟨hlow, hhigh⟩, -⟩ := validateNumbers_ok hvalid
  have hmaxSpeed : 0 ≤ maxSpeedMps := check_ok hmax
  have hshare : 0 ≤ command.throttle * maxSpeedMps := mul_nonneg hlow hmaxSpeed
  obtain rfl := Except.ok.inj h
  have hclamp : clampValue command.throttle 0 1 = command.throttle := by
    unfold clampValue
    rw [min_eq_right hhigh, max_eq_right hlow]
  rw [hclamp]
  split
  · exact ⟨hshare, le_refl _, mul_le_of_le_one_left hmaxSpeed hhigh⟩
  · exact ⟨le_refl _, hshare, hmaxSpeed⟩

theorem vehicleNormalizedBrakeRequest_ok {brake sessionMax vehicleMax ratio : ℚ}
    (h : vehicleNormalizedBrakeRequest brake sessionMax vehicleMax = .ok ratio) :
    (0 ≤ vehicleMax ∧ 0 ≤ sessionMax) ∧ 0 ≤ ratio ∧ ratio ≤ 1 ∧
      ratio * vehicleMax ≤ sessionMax := by
  unfold vehicleNormalizedBrakeRequest at h
  obtain ⟨_, hbrake, h⟩ := bind_ok h
  obtain ⟨_, hvehicle, h⟩ := bind_ok h
  obtain ⟨_, hsession, h⟩ := bind_ok h
  obtain ⟨hb, hblow, hbhigh⟩ := requireFiniteRange_ok hbrake
  obtain ⟨hv, hvlow, -⟩ := requireFiniteRange_ok hvehicle
  obtain ⟨hs, hslow, hshigh⟩ := requireFiniteRange_ok hsession
  obtain rfl := Option.some.inj hb
  obtain rfl := Option.some.inj hv
  obtain rfl := Option.some.inj hs
  obtain rfl := Except.ok.inj h
  have hshare : brake * sessionMax ≤ sessionMax := mul_le_of_le_one_left hslow hbhigh
  refine ⟨⟨hvlow, hslow⟩, ?_⟩
  split
  · rename_i hpositive
    refine ⟨div_nonneg (mul_nonneg hblow hslow) hvlow, ?_, ?_⟩
    · exact (div_le_one hpositive).mpr (hshare.trans hshigh)
    · rw [div_mul_cancel₀ _ hpositive.ne']
      exact hshare
  · exact ⟨le_refl _, zero_le_one, by linarith⟩

/-- The acceleration of a command: at most the ceiling, and the brake in its own share. -/
theorem dynamicAdapterTargetAcceleration_ok {command : DriverCommand}
    {ceiling sessionMax vehicleMax acceleration : ℚ}
    (h : dynamicAdapterTargetAcceleration command ceiling sessionMax vehicleMax =
      .ok acceleration) :
    -1 ≤ acceleration ∧ acceleration ≤ 1 ∧ acceleration ≤ ceiling ∧
      -acceleration * vehicleMax ≤ sessionMax := by
  unfold dynamicAdapterTargetAcceleration at h
  obtain ⟨_, hvalid, h⟩ := bind_ok h
  obtain ⟨_, hceiling, h⟩ := bind_ok h
  obtain ⟨ratio, hratio, h⟩ := bind_ok h
  obtain ⟨hc, hclow, hchigh⟩ := requireFiniteRange_ok hceiling
  obtain rfl := Option.some.inj hc
  obtain ⟨⟨hvehicle, hsession⟩, hrlow, hrhigh, hbrake⟩ := vehicleNormalizedBrakeRequest_ok hratio
  obtain rfl := Except.ok.inj h
  split
  · exact ⟨by linarith, by linarith, by linarith, by rwa [neg_neg]⟩
  have hzero : -ceiling * vehicleMax ≤ sessionMax := by
    have hproduct : 0 ≤ ceiling * vehicleMax := mul_nonneg hclow hvehicle
    linarith
  split
  · exact ⟨by linarith, hchigh, le_refl _, hzero⟩
  · exact ⟨by linarith, by linarith, hclow, by linarith⟩

/-! ## From the command to the intent -/

theorem gearToBridgeValue_range (gear : Gear) :
    1 ≤ gearToBridgeValue gear ∧ gearToBridgeValue gear ≤ 4 := by
  cases gear <;> decide

/-- The intent of a command: the bridge takes the arguments, and they are in its settings. -/
theorem applyArguments_within {a : DynamicLibraryVehicleAdapter} {command : DriverCommand}
    {arguments : ApplyArguments} {limits : VehicleLimits} {bridge : ControlLimits}
    {profile : SessionControlProfile ℚ} {revision : ℕ}
    (h : a.applyArguments command = .ok arguments)
    (hclamped : Clamped limits profile command)
    (hspeed : a.config.maxSpeedMps = limits.maxSpeedKph / (36 / 10))
    (hbridge : bridge = openedLimits a.config (profileSettings profile revision))
    (htorque : a.sessionMotorTorqueLimitNm = profile.maxMotorTorqueNm)
    (hbrake : a.sessionBrakePressureLimitBar = profile.maxBrakePressureBar) :
    ∃ intent, arguments.checked? = some intent ∧ WithinSettings bridge intent := by
  unfold DynamicLibraryVehicleAdapter.applyArguments at h
  obtain ⟨speed, hvelocity, h⟩ := bind_ok h
  obtain ⟨acceleration, hacceleration, h⟩ := bind_ok h
  obtain rfl := Except.ok.inj h
  obtain ⟨hslow, hshare, hshigh⟩ := dynamicAdapterTargetSpeedMps_ok hvelocity
  obtain ⟨halow, hahigh, hceiling, hpressure⟩ := dynamicAdapterTargetAcceleration_ok hacceleration
  obtain ⟨hglow, hghigh⟩ := gearToBridgeValue_range command.gear
  have hmax : a.config.maxSpeedMps ≤ 20 := a.valid.maxSpeed.2
  refine ⟨⟨gearToBridgeValue command.gear, speed, acceleration,
    List.replicate 4 command.steering,
    decide ((if (command.operatorActive && !command.estop) = true then (1 : ℤ) else 0) ≠ 0)⟩,
    ?_, ?_⟩
  · have hoperator : (if (command.operatorActive && !command.estop) = true then (1 : ℤ) else 0) =
        0 ∨ (if (command.operatorActive && !command.estop) = true then (1 : ℤ) else 0) = 1 := by
      split
      · exact .inr rfl
      · exact .inl rfl
    unfold ApplyArguments.checked?
    exact if_pos ⟨hoperator, hglow, hghigh, hslow, hshigh.trans hmax, halow, hahigh⟩
  · subst hbridge
    refine ⟨?_, ?_, ?_, ?_⟩
    · show speed ≤ profile.targetSpeedKph / (36 / 10)
      rw [hspeed] at hshare
      linarith [hclamped.throttle]
    · unfold DynamicLibraryVehicleAdapter.tractionCeiling at hceiling
      rw [htorque] at hceiling
      exact hceiling
    · rw [hbrake] at hpressure
      exact hpressure
    · intro value hvalue
      obtain rfl := List.eq_of_mem_replicate (List.mem_of_mem_take hvalue)
      exact hclamped.steering

/-! ## What the bridge makes of it -/

theorem withinSettings_exceeds {b : BridgeRuntime} {intent : IntentArguments}
    (h : WithinSettings (controlLimits b) intent) : ¬Bridge.ExceedsProfile b intent := by
  have htolerance : 0 < Bridge.tolerance := by
    unfold Bridge.tolerance
    norm_num
  rintro (hspeed | htraction | ⟨value, hvalue, hsteering⟩)
  · have hwithin : intent.targetSpeedMps ≤ b.runtimeControl.targetSpeedLimitMps := h.targetSpeed
    linarith
  · have hwithin : intent.normalizedLongitudinal ≤
        if 0 < b.fullScaleMotorTorqueNm then
          b.runtimeControl.maxMotorTorqueNm / b.fullScaleMotorTorqueNm
        else 0 := h.traction
    linarith
  · have hwithin : |value| ≤ b.runtimeControl.maxSteeringRequest := h.steering value hvalue
    linarith

/-- Neither the arguments nor the profile are a reason to reject the intent. -/
theorem applyState_issue {b : BridgeRuntime} {now : ℤ} {arguments : ApplyArguments}
    {intent : IntentArguments} (hchecked : arguments.checked? = some intent)
    (hactive : b.runtimeControl.active = true) (h : ¬Bridge.ExceedsProfile b intent) :
    (Bridge.applyState b now arguments).1.issue ≠ .argumentsInvalid := by
  have hstored : (Bridge.storeIntent b now intent).1 ≠ .argumentsInvalid := by
    unfold Bridge.storeIntent
    split_ifs with h₁ h₂ h₃ hinactive hexceeds h₆ h₇
    · exact (nomatch ·)
    · exact (nomatch ·)
    · exact (nomatch ·)
    · exact absurd (hactive.symm.trans hinactive.2) (nomatch ·)
    · exact absurd hexceeds.2 h
    · exact (nomatch ·)
    · exact (nomatch ·)
    · exact (nomatch ·)
  unfold Bridge.applyState
  rw [hchecked]
  dsimp only
  split
  · split
    · exact (nomatch ·)
    · exact (nomatch ·)
  · exact hstored

/-- The step takes an intent inside the settings that the bridge has from the profile. -/
def TakesWithin (profile : SessionControlProfile ℚ)
    (step : Step BridgeRuntime Bridge.Event Bridge.Reply) : Prop :=
  ∃ now arguments intent revision result,
    step.event = .applyState now arguments ∧ arguments.checked? = some intent ∧
    step.before.runtimeControl = profileSettings profile revision ∧
    WithinSettings (controlLimits step.before) intent ∧
    ¬Bridge.ExceedsProfile step.before intent ∧
    step.output = .applied result ∧ result.issue ≠ .argumentsInvalid

/-! ## Over an operation -/

/-- The entries that a forwarded command adds. -/
theorem applyControl_log {c : Chassis} {now : ℤ} {command : DriverCommand} {entry : Handled}
    (h : entry ∈ (c.applyControl now command).2.log) :
    entry ∈ c.log ∨ ∃ b arguments, c.bridge = some b ∧
      c.adapter.applyArguments command = .ok arguments ∧
      entry.step = (Bridge.machine b).observe b (.applyState now arguments) := by
  unfold Chassis.applyControl at h
  split at h
  · exact .inl h
  split at h
  · exact .inl h
  rename_i arguments harguments
  have hlog : entry ∈ (c.applyStateV3 now (.applyControl command) arguments).2.log := by
    extract_lets applied at h
    split at h
    · exact h
    · exact h
  unfold Chassis.applyStateV3 at hlog
  split at hlog
  · exact .inl hlog
  · rename_i b hb
    rcases List.mem_cons.mp hlog with rfl | hold
    · exact .inr ⟨b, arguments, hb, harguments, rfl⟩
    · exact .inl hold

/-- Entries behind a call that are neither old nor its own. -/
theorem log_answer {c : Chassis} {call : AdapterCall} {entry : Handled}
    (h : entry ∈ (dynamicLibrary.answer call c).2.log) :
    entry ∈ c.log ∨ entry.cause = none ∨ entry.cause = some call := by
  obtain ⟨entries, hlog, hentries⟩ := grows_of_moves (dynamicLibrary_moves c call)
  rw [hlog] at h
  rcases List.mem_append.mp h with hnew | hold
  · exact .inr (hentries entry hnew)
  · exact .inl hold

theorem log_advance {c : Chassis} {entry : Handled} (h : entry ∈ c.advance.log) :
    entry ∈ c.log ∨ entry.cause = none ∨ entry.cause = some .status := by
  obtain ⟨entries, hlog, hentries⟩ := grows_of_moves (advance_quiet c)
  rw [hlog] at h
  rcases List.mem_append.mp h with hnew | hold
  · exact .inr (hentries entry hnew)
  · exact .inl hold

/-- Every command that the log has taken was inside the profile's settings. -/
def ForwardsWithin (active : Option (SessionControlProfile ℚ)) (c : Chassis) : Prop :=
  ∀ entry ∈ c.log, ∀ command, entry.cause = some (.applyControl command) →
    ∃ profile ∈ active, TakesWithin profile entry.step

/-- What holds while `receive_command` runs. -/
structure Forwarding (config : VehicleConfig) (start : VehicleControlService)
    (w : World Chassis) : Prop where
  invariant : VehicleInvariant config w
  forgets : start.started = false → w.service.activeSessionProfile = none
  profile : ∀ profile ∈ w.service.activeSessionProfile, profile ∈ start.activeSessionProfile
  forwards : ForwardsWithin start.activeSessionProfile w.adapter

section
variable {config : VehicleConfig} {start : VehicleControlService} {w w' : World Chassis}
  {active : Option (SessionControlProfile ℚ)} {c : Chassis}

theorem forwardsWithin_answer {call : AdapterCall} (hcall : ∀ command, call ≠ .applyControl command)
    (h : ForwardsWithin active c) : ForwardsWithin active (dynamicLibrary.answer call c).2 := by
  intro entry hentry command hcause
  rcases log_answer hentry with hold | hnone | hown
  · exact h entry hold command hcause
  · rw [hnone] at hcause
    cases hcause
  · rw [hown] at hcause
    exact absurd (Option.some.inj hcause) (hcall command)

/-- A command that the service hands on. -/
theorem takesWithin_applyControl {command : ControlCommand} {t now : ℤ} {limited : DriverCommand}
    {arguments : ApplyArguments} {b : BridgeRuntime} (h : VehicleInvariant config w)
    (hguard : ControlGuard start command t w limited) (hb : w.adapter.advance.bridge = some b)
    (harguments : w.adapter.advance.adapter.applyArguments limited = .ok arguments) :
    ∃ profile ∈ w.service.activeSessionProfile,
      TakesWithin profile ((Bridge.machine b).observe b (.applyState now arguments)) := by
  obtain ⟨profile, hprofile⟩ := Option.ne_none_iff_exists'.mp hguard.profile
  obtain ⟨checked, -, -, hlimited, -⟩ := hguard.accepted
  have hadvance := sameLimits_advance w.adapter
  have hconfig : w.adapter.advance.adapter.config = config.adapterConfig :=
    (config_of_moves (advance_quiet w.adapter)).trans h.adapter
  have hmatched : Matched w.adapter.advance := hadvance.matched (hconfig.trans h.adapter.symm) h.matched
  obtain ⟨revision, b', hb', hsettings, htorque, hbrake, hrange⟩ :=
    hadvance.holds (h.agreed.holds profile hprofile)
  obtain rfl : b = b' := Option.some.inj (hb.symm.trans hb')
  have hmaxSpeed : w.service.maxSpeedKph = config.fieldSafety.maxSpeedKph :=
    congrArg VehicleLimits.maxSpeedKph h.service
  have hmaxSteering : w.service.maxSteeringAngleDeg = config.fieldSafety.maxSteeringAngleDeg :=
    congrArg VehicleLimits.maxSteeringAngleDeg h.service
  have hclamped : Clamped (vehicleLimits w.service) profile limited := by
    rw [hlimited]
    refine limitCommand_clamped hprofile hrange.targetSpeed.1 hrange.steering.1 ?_ ?_ checked
    · rw [hmaxSpeed]
      exact config.valid.maxSpeed.1
    · rw [hmaxSteering]
      exact config.valid.steering.1
  have hlimits : controlLimits b =
      openedLimits w.adapter.advance.adapter.config (profileSettings profile revision) := by
    rw [hmatched.limits b hb, hsettings]
  have hspeed : w.adapter.advance.adapter.config.maxSpeedMps =
      (vehicleLimits w.service).maxSpeedKph / (36 / 10) := by
    rw [hconfig, h.service]
    rfl
  obtain ⟨intent, hchecked, hwithin⟩ :=
    applyArguments_within harguments hclamped hspeed hlimits htorque hbrake
  have hexceeds := withinSettings_exceeds hwithin
  have hactive : b.runtimeControl.active = true := by
    rw [hsettings]
    rfl
  exact ⟨profile, hprofile, now, arguments, intent, revision, _, rfl, hchecked, hsettings, hwithin,
    hexceeds, rfl, applyState_issue hchecked hactive hexceeds⟩

theorem forwardsWithin_applyControl {command : ControlCommand} {t : ℤ} {limited : DriverCommand}
    (h : Forwarding config start w) (hguard : ControlGuard start command t w limited) :
    ForwardsWithin start.activeSessionProfile
      (dynamicLibrary.answer (.applyControl limited) w.adapter).2 := by
  intro entry hentry command' hcause
  rcases applyControl_log hentry with hadvance | ⟨b, arguments, hb, harguments, hstep⟩
  · rcases log_advance hadvance with hold | hnone | hown
    · exact h.forwards entry hold command' hcause
    · rw [hnone] at hcause
      cases hcause
    · rw [hown] at hcause
      cases hcause
  · obtain ⟨profile, hprofile, htakes⟩ :=
      takesWithin_applyControl h.invariant hguard hb harguments
    exact ⟨profile, h.profile profile hprofile, hstep ▸ htakes⟩

theorem vehicleInvariant_move {e : Service.Event}
    (he : ∀ request t, e ≠ .receiveSessionProfile request t)
    (hstart : start.started = false → w.service.activeSessionProfile = none)
    (hmove : Move dynamicLibrary start e w w') (h : VehicleInvariant config w) :
    VehicleInvariant config w' := by
  refine ⟨adapter_move (fun _ _ => matched_answer _) hmove h.matched,
    (agreed_move holdsProfiles_dynamicLibrary he hstart hmove h.agreed).1,
    bounded_move boundedBy_dynamicLibrary he hmove h.bounded, ?_,
    (vehicleLimits_move hmove).trans h.service⟩
  exact adapter_move (I := fun c => c.adapter.config = config.adapterConfig)
    (fun call c hc => (config_of_moves (dynamicLibrary_moves c call)).trans hc) hmove h.adapter

theorem forwarding_move {command : ControlCommand} {t : ℤ}
    (hmove : Move dynamicLibrary start (.receiveCommand command t) w w')
    (h : Forwarding config start w) : Forwarding config start w' := by
  have he : ∀ request t', Service.Event.receiveCommand command t ≠
      .receiveSessionProfile request t' := fun _ _ => (nomatch ·)
  refine ⟨vehicleInvariant_move he h.forgets hmove h.invariant,
    (agreed_move holdsProfiles_dynamicLibrary he h.forgets hmove h.invariant.agreed).2, ?_, ?_⟩
  · cases hmove with
    | revokes | stopsFirst => exact fun _ hp => (nomatch hp)
    | _ => exact h.profile
  · cases hmove with
    | asks call hpassive =>
      refine forwardsWithin_answer (fun command' heq => ?_) h.forwards
      subst heq
      exact hpassive
    | stops | revokes => exact forwardsWithin_answer (fun _ => (nomatch ·)) h.forwards
    | stopsFirst =>
      exact forwardsWithin_answer (fun _ => (nomatch ·))
        (forwardsWithin_answer (fun _ => (nomatch ·)) h.forwards)
    | controls hguard => exact forwardsWithin_applyControl h hguard
    | _ => exact h.forwards

theorem forwarding_stop (h : Forwarding config start w) (output : ControlOutput)
    (context : Bridge.StopContext) :
    Forwarding config start (w.after dynamicLibrary (.applySafeStop output context)) := by
  have hmoves := dynamicLibrary_moves w.adapter (.applySafeStop output context)
  exact ⟨h.invariant.sameLimits (sameLimits_of_moves hmoves id) (config_of_moves hmoves) _,
    h.forgets, h.profile, forwardsWithin_answer (fun _ => (nomatch ·)) h.forwards⟩

end

/-- Every command that `receive_command` forwards is taken inside the limits that the bridge has
from the profile in force. -/
def ForwardsLaw (st : Step (World Chassis) Event Reply) : Prop :=
  ∀ command t script, st.event = .operation (.receiveCommand command t) script →
    ForwardsWithin st.before.service.activeSessionProfile st.after.adapter

theorem forwards_within {built w : World Chassis} {h : History (World Chassis) Event Reply}
    (hbuilt : Built built) (hr : Run (machine built) h w) : Steps ForwardsLaw h := by
  obtain ⟨config, hinvariant⟩ := vehicleInvariant_built hbuilt
  refine hr.always_of_invariant (I := VehicleInvariant config) hinvariant
    (fun _ e hi => vehicleInvariant_respond hi e) ?_
  rintro w e hi command t script rfl
  have hscheduled := hi.scheduled script
  have hstart : Forwarding config w.service ⟨w.service, w.adapter.scheduled script, []⟩ :=
    ⟨hscheduled.sameLimits ⟨rfl, rfl⟩ rfl [], hi.agreed.stopped, fun _ hp => hp,
      fun _ hentry => (nomatch hentry)⟩
  have hended := respond_ended dynamicLibrary ⟨w.service, w.adapter.scheduled script, w.trace⟩
    (.receiveCommand command t)
  exact (hended.keeps (fun _ _ => forwarding_move)
    (fun _ output context _ hw => forwarding_stop hw output context) hstart).forwards

/-- The entry belongs to a command that was handed on. -/
def Handled.forwarded (entry : Handled) : Bool :=
  match entry.cause with
  | some (.applyControl _) => true
  | _ => false

/-- Full throttle and half the steering, ten milliseconds into the session. -/
def fullThrottleEvents : List Event :=
  sessionEvents benchProfile ++
  [.operation (.receiveCommand (benchCommand 1 10 "D" (1 / 2) 1 0 false) 10) (quietAt 10)]

theorem forwards_within_fullThrottle :
    let run := (machine benchVehicle).play fullThrottleEvents
    (∃ entry ∈ run.2.adapter.log, entry.forwarded = true) ∧ Steps ForwardsLaw run.1 := by
  have hrun := Run.play (machine benchVehicle) fullThrottleEvents
  exact ⟨by decide +kernel, forwards_within benchVehicle_built hrun⟩

end MineTeleop.Stack
