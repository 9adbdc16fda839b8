import Mathlib.Tactic.Linarith
import MineTeleop.Stack.Limits

/-!
# The admission of profiles

Proved here, for every run of a vehicle that one configuration has built:

* `admission_exact`: a profile that has passed the checks of the service is handed to the bridge;
  a bridge that accepts reconfiguration takes it exactly if it is within the vehicle's limits
  without the tolerance of the service.
-/

namespace MineTeleop.Stack

open Programs
open Runs
open Bridge (BridgeRuntime ControlLimits controlLimits)
open Service

/-- The bridge runs without an error that stays, and the vehicle is parked. -/
def AcceptsReconfiguration (b : BridgeRuntime) (now : ℤ) : Prop :=
  b.running = true ∧ (b.ioError = 0 ∨ Bridge.ArmingTimeoutRecoveryReady b now) ∧
  Bridge.ParkedForConfiguration b now

instance (b : BridgeRuntime) (now : ℤ) : Decidable (AcceptsReconfiguration b now) :=
  inferInstanceAs (Decidable (_ ∧ _))

/-- The profile is within the limits of the vehicle, without a tolerance. -/
structure WithinVehicle (limits : VehicleLimits) (profile : SessionControlProfile ℚ) : Prop where
  targetSpeed : profile.targetSpeedKph ≤ limits.maxSpeedKph
  motorTorque : profile.maxMotorTorqueNm ≤ limits.fullScaleMotorTorqueNm
  brakePressure : profile.maxBrakePressureBar ≤ limits.maxBrakePressureBar

/-! ## The checks of the bridge -/

section
variable {config : VehicleConfig} {profile : SessionControlProfile ℚ} {revision : ℕ}
  {b : BridgeRuntime} {now : ℤ}

theorem dynamic_of_admitted (h : profile.Admitted) (hrevision : revision ≠ 0) :
    Dynamic profile revision := by
  refine ⟨?_, hrevision, h.riseRate, ?_⟩
  · rw [h.version]
    rfl
  · exact ⟨h.kp.1, h.kp.2, h.ki.1, h.ki.2, h.kd.1, h.kd.2, h.filter.1, h.filter.2, h.maxDt.1,
      h.maxDt.2⟩

/-- What decides whether a parked bridge takes an admitted profile. -/
theorem configure_none_iff (hadmitted : profile.Admitted) (hrevision : revision ≠ 0)
    (hnewer : b.runtimeControl.active = true → b.runtimeControl.revision < revision)
    (haccepts : AcceptsReconfiguration b now) :
    (Bridge.configure b now .v3 (runtimeControlConfig profile revision)).1 = .none ↔
      InRange (controlLimits b) profile := by
  obtain ⟨hrunning, herror, hparked⟩ := haccepts
  rw [configure_v3 hadmitted.parkingIdle, Bridge.configureRuntimeControl_none_iff,
    profileArgumentsValid_iff]
  constructor
  · rintro ⟨-, ⟨-, hrange⟩, -⟩
    exact hrange
  · intro hrange
    refine ⟨?_, ⟨dynamic_of_admitted hadmitted hrevision, hrange⟩, ?_, fun h => h.2 hparked⟩
    · rintro (hstopped | ⟨hnonzero, hnot⟩)
      · rw [hrunning] at hstopped
        cases hstopped
      · exact herror.elim hnonzero hnot
    · rintro ⟨hactive, hstale⟩
      exact absurd (hnewer hactive) (not_lt.mpr hstale)

theorem inRange_openedLimits_iff (hadmitted : profile.Admitted)
    (settings : Bridge.RuntimeControlSettings) :
    InRange (openedLimits config.adapterConfig settings) profile ↔
      WithinVehicle config.limits profile := by
  have hspeed : profile.targetSpeedKph / (36 / 10) ≤ config.fieldSafety.maxSpeedKph / (36 / 10) ↔
      profile.targetSpeedKph ≤ config.fieldSafety.maxSpeedKph :=
    div_le_div_iff_of_pos_right (by norm_num)
  constructor
  · rintro ⟨⟨-, hs⟩, ⟨-, ht⟩, ⟨-, hb⟩, -⟩
    exact ⟨hspeed.mp hs, ht, hb⟩
  · rintro ⟨hs, ht, hb⟩
    exact ⟨⟨hadmitted.targetSpeed.1, hspeed.mpr hs⟩, ⟨hadmitted.motorTorque.1, ht⟩,
      ⟨hadmitted.brakePressure.1, hb⟩, hadmitted.steering⟩

/-- The adapter's own check has the tolerance of the service. -/
theorem passesChecks_within {s : VehicleControlService} {a : DynamicLibraryVehicleAdapter}
    (hpasses : s.PassesChecks profile) (hrevision : revision ≠ 0)
    (hservice : vehicleLimits s = config.limits) (hadapter : a.config = config.adapterConfig) :
    ¬a.ExceedsVehicleLimits profile revision := by
  have hspeed : s.maxSpeedKph = config.fieldSafety.maxSpeedKph :=
    congrArg VehicleLimits.maxSpeedKph hservice
  have hthrottle : s.maxThrottle = config.fieldSafety.maxThrottle :=
    congrArg VehicleLimits.maxThrottle hservice
  have htorque : s.fullScaleMotorTorqueNm = config.fieldSafety.fullScaleMotorTorqueNm :=
    congrArg VehicleLimits.fullScaleMotorTorqueNm hservice
  have hbrake : s.maxBrakePressureBar = config.fieldSafety.maxBrakePressureBar :=
    congrArg VehicleLimits.maxBrakePressureBar hservice
  have hshare : config.fieldSafety.maxSpeedKph * config.fieldSafety.maxThrottle ≤
      config.fieldSafety.maxSpeedKph :=
    mul_le_of_le_one_right config.valid.maxSpeed.1 config.valid.maxThrottle.2
  have htolerance : VehicleControlService.tolerance = 1 / 1000000000 := rfl
  obtain ⟨-, hspeeds, htorques, hbrakes, -⟩ := hpasses
  rw [hspeed, hthrottle, htolerance] at hspeeds
  rw [htorque, htolerance] at htorques
  rw [hbrake, htolerance] at hbrakes
  rintro (hzero | hexceeds | hexceeds | hexceeds)
  · exact hrevision hzero
  · rw [hadapter] at hexceeds
    have hmax : config.adapterConfig.maxSpeedMps * (36 / 10) = config.fieldSafety.maxSpeedKph :=
      div_mul_cancel₀ _ (by norm_num)
    linarith
  · rw [hadapter] at hexceeds
    exact absurd htorques (not_le.mpr hexceeds)
  · rw [hadapter] at hexceeds
    exact absurd hbrakes (not_le.mpr hexceeds)

end

/-! ## The call that configures -/

/-- The entry is the bridge's answer to the call: it takes the profile, and the call succeeds, or
neither; while it accepts reconfiguration, the limits of the vehicle decide. -/
def Handled.Answers (limits : VehicleLimits) (call : ConfigureCall) (entry : Handled) : Prop :=
  entry.cause = some (.configureRuntimeControlProfile call.profile call.revision) ∧
  ∃ now, entry.step.event =
      .configure now .v3 (runtimeControlConfig call.profile call.revision) ∧
    (call.result = .ok call.revision ↔
      entry.step.output = .configured .none call.revision) ∧
    (AcceptsReconfiguration entry.step.before now →
      (entry.step.output = .configured .none call.revision ↔ WithinVehicle limits call.profile))

section
variable {config : VehicleConfig} {c : Chassis} {now : ℤ} {profile : SessionControlProfile ℚ}
  {revision n : ℕ} {r : Except Failure ℕ × Chassis}

/-- The bridge answers with the revision exactly if it takes the profile. -/
theorem observe_configured_iff (b : BridgeRuntime) :
    ((Bridge.machine b).observe b
        (.configure now .v3 (runtimeControlConfig profile revision))).output =
      .configured .none revision ↔
      (Bridge.configure b now .v3 (runtimeControlConfig profile revision)).1 = .none := by
  constructor
  · intro houtput
    exact (Bridge.Reply.configured.inj houtput).1
  · intro hissue
    exact congrArg₂ Bridge.Reply.configured hissue (configure_accepts hissue).2.1

theorem ConfigureOutcome.answers (h : ConfigureOutcome c now profile revision r)
    (hmatched : Matched c) (hopened : c.adapter.opened = true)
    (hconfig : c.adapter.config = config.adapterConfig) (hbounded : Bounded n c)
    (hn : n < revision) (hadmitted : profile.Admitted)
    (hwithin : ¬c.adapter.ExceedsVehicleLimits profile revision) :
    ∃ entry ∈ r.2.log, entry.Answers config.limits ⟨profile, revision, r.1⟩ := by
  have hdecides : ∀ b, c.bridge = some b → AcceptsReconfiguration b now →
      ((Bridge.configure b now .v3 (runtimeControlConfig profile revision)).1 = .none ↔
        WithinVehicle config.limits profile) := by
    intro b hb haccepts
    rw [configure_none_iff hadmitted (by omega)
      (fun hactive => lt_of_le_of_lt (hbounded b hb hactive) hn) haccepts,
      hmatched.limits b hb, hconfig, inRange_openedLimits_iff hadmitted]
  cases h with
  | closed hclosed =>
    rw [hopened] at hclosed
    cases hclosed
  | exceeds _ hexceeds => exact absurd hexceeds hwithin
  | missing _ _ hnone => exact absurd hnone (hmatched.opened hopened)
  | refuses failure b hb hissue =>
    refine ⟨_, List.mem_cons_self .., rfl, now, rfl, ⟨fun hok => (nomatch hok), fun houtput => ?_⟩,
      fun haccepts => (observe_configured_iff b).trans (hdecides b hb haccepts)⟩
    exact absurd ((observe_configured_iff b).mp houtput) hissue
  | installs b _ hb hissue =>
    exact ⟨_, List.mem_cons_self .., rfl, now, rfl,
      ⟨fun _ => (observe_configured_iff b).mpr hissue, fun _ => rfl⟩,
      fun haccepts => (observe_configured_iff b).trans (hdecides b hb haccepts)⟩

end

/-! ## Over runs -/

theorem leaves_log {c c' : Chassis} (h : Leaves dynamicLibrary c c') : c.log ⊆ c'.log := by
  refine h.keeps (I := fun c₁ => c.log ⊆ c₁.log) (fun call c₁ _ hsubset => ?_) (List.Subset.refl _)
  obtain ⟨entries, hlog, -⟩ := grows_of_moves (dynamicLibrary_moves c₁ call)
  rw [hlog]
  exact List.Subset.trans hsubset (List.subset_append_right ..)

theorem leaves_limits {c c' : Chassis} (h : Leaves dynamicLibrary c c') :
    SameLimits c c' ∧ c'.adapter.config = c.adapter.config := by
  refine h.keeps (I := fun c₁ => SameLimits c c₁ ∧ c₁.adapter.config = c.adapter.config)
    (fun call c₁ hcall hi => ?_) ⟨⟨rfl, rfl⟩, rfl⟩
  have hmoves := dynamicLibrary_moves c₁ call
  exact ⟨hi.1.trans (sameLimits_of_moves hmoves hcall), (config_of_moves hmoves).trans hi.2⟩

/-- What a request for a profile comes to between service and bridge. -/
def AdmissionLaw (st : Step (World Chassis) Event Reply) : Prop :=
  ∀ request t script, st.event = .operation (.receiveSessionProfile request t) script →
    st.before.adapter.adapter.opened = true →
    ∀ call ∈ configureCalls st.after.trace,
      st.before.service.decideProfile request t = .proceed call.profile ∧
      call.revision = request.seq ∧
      ∃ entry ∈ st.after.adapter.log, entry.Answers (vehicleLimits st.before.service) call

section
variable {config : VehicleConfig} {w : World Chassis}

/-- At the call that a request leads to, everything is as the bridge's answer needs it. -/
theorem configuredAt_answers {request : SessionControlProfileRequest} {t : ℤ}
    {profile : SessionControlProfile ℚ} {c : Chassis} (h : VehicleInvariant config w)
    (hopened : w.adapter.adapter.opened = true)
    (hdecide : w.service.decideProfile request t = .proceed profile)
    (hleaves : Leaves dynamicLibrary w.adapter c) :
    ∃ entry ∈ (configuredAt dynamicLibrary request profile c).log,
      entry.Answers (vehicleLimits w.service) ⟨profile, request.seq,
        (dynamicLibrary.answer (.configureRuntimeControlProfile profile request.seq) c).1⟩ := by
  obtain ⟨hpasses, hseq⟩ := decideProfile_proceeds hdecide
  have hlast : lastRequestSeq w.service < request.seq := by
    have hnewer := decideProfile_newer w.service request t (by rw [hdecide]; trivial)
    unfold lastRequestSeq
    cases hprevious : w.service.lastSessionProfileRequest with
    | none => exact Nat.pos_of_ne_zero hseq
    | some previous => exact hnewer previous hprevious
  obtain ⟨hlimits, hsame⟩ := leaves_limits hleaves
  have hadvance : SameLimits w.adapter c.advance := hlimits.trans (sameLimits_advance c)
  have hstill : c.advance.adapter.config = w.adapter.adapter.config :=
    (config_of_moves (advance_quiet c)).trans hsame
  have hconfig : c.advance.adapter.config = config.adapterConfig := hstill.trans h.adapter
  rw [h.service]
  exact (configureRuntimeControlProfile_outcome _ _ _ _).answers (hadvance.matched hstill h.matched)
    ((congrArg AdapterLimits.opened hadvance.adapter).trans hopened) hconfig
    (hadvance.bounded h.bounded) hlast hpasses.admitted
    (passesChecks_within hpasses hseq h.service hconfig)

theorem admissionLaw_step (h : VehicleInvariant config w) (e : Event) (built : World Chassis) :
    AdmissionLaw ((machine built).observe w e) := by
  rintro request t script rfl hopened call hcall
  have hscheduled := h.scheduled script
  have houtcome : ProfileOutcome dynamicLibrary request t
      ⟨w.service, w.adapter.scheduled script, []⟩
      (respond w (.operation (.receiveSessionProfile request t) script)).2 :=
    respond_ensures dynamicLibrary
      (Q := fun _ w' => ProfileOutcome dynamicLibrary request t _ w')
      ((ensures_map _ _).mpr receiveSessionProfile_outcome)
  have hanswers : ∀ {profile : SessionControlProfile ℚ} {c : Chassis},
      w.service.decideProfile request t = .proceed profile →
      Leaves dynamicLibrary (w.adapter.scheduled script) c →
      ∃ entry ∈ (configuredAt dynamicLibrary request profile c).log,
        entry.Answers (vehicleLimits w.service) ⟨profile, request.seq,
          (dynamicLibrary.answer (.configureRuntimeControlProfile profile request.seq) c).1⟩ := by
    intro profile c hdecide hleaves
    have hfound := configuredAt_answers hscheduled hopened hdecide hleaves
    exact hfound
  change call ∈ configureCalls
    (respond w (.operation (.receiveSessionProfile request t) script)).2.trace at hcall
  show w.service.decideProfile request t = .proceed call.profile ∧ _ ∧
    ∃ entry ∈ (respond w (.operation (.receiveSessionProfile request t) script)).2.adapter.log, _
  generalize (respond w (.operation (.receiveSessionProfile request t) script)).2 = w'
    at houtcome hcall ⊢
  cases houtcome with
  | leaves _ _ _ _ hcalls =>
    rw [hcalls] at hcall
    cases hcall
  | adopts profile c hdecide hbefore hok hafter _ _ _ hcalls =>
    rw [hcalls] at hcall
    obtain rfl := List.mem_singleton.mp hcall
    obtain ⟨entry, hentry, hentries⟩ := hanswers hdecide hbefore
    rw [hok] at hentries
    exact ⟨hdecide, rfl, entry, leaves_log hafter hentry, hentries⟩
  | abandons profile c c' hdecide hbefore hafter hclears _ _ hcalls =>
    rw [hcalls] at hcall
    obtain rfl := List.mem_singleton.mp hcall
    obtain ⟨entry, hentry, hentries⟩ := hanswers hdecide hbefore
    obtain ⟨entries, hlog, -⟩ :=
      grows_of_moves (dynamicLibrary_moves c' .clearRuntimeControlProfile)
    refine ⟨hdecide, rfl, entry, ?_, hentries⟩
    rw [hclears, hlog]
    exact List.mem_append_right _ (leaves_log hafter hentry)

end

theorem admission_exact {built w : World Chassis} {h : History (World Chassis) Event Reply}
    (hbuilt : Built built) (hr : Run (machine built) h w) : Steps AdmissionLaw h := by
  obtain ⟨config, hinvariant⟩ := vehicleInvariant_built hbuilt
  exact hr.always_of_invariant (I := VehicleInvariant config) hinvariant
    (fun _ e hi => vehicleInvariant_respond hi e) fun w e hi => admissionLaw_step hi e built

/-! ## At the edge of the tolerance -/

/-- A bridge that accepts reconfiguration does not take the profile it is given. -/
def Handled.refused (entry : Handled) : Bool :=
  match entry.cause, entry.step.event with
  | some (.configureRuntimeControlProfile _ revision), .configure now _ _ =>
    decide (AcceptsReconfiguration entry.step.before now) &&
      decide (entry.step.output ≠ .configured .none revision)
  | _, _ => false

/-- No profile that the service goes on with is refused. -/
def AdmitsAll (st : Step (World Chassis) Event Reply) : Prop :=
  ∀ entry ∈ st.after.adapter.log, entry.refused = false

instance : DecidablePred AdmitsAll := fun _ => inferInstanceAs (Decidable (∀ _ ∈ _, _))

/-- Half a billionth of a kilometre per hour beyond the vehicle's speed. -/
def overSpeedEvents : List Event :=
  sessionEvents { benchProfile with targetSpeedKph := some (40 + 1 / 2000000000) }

/-- The service lets the profile pass, the bridge refuses it, and the vehicle is stopped. -/
theorem admitsAll_fails_overSpeed :
    let run := (machine benchVehicle).play overSpeedEvents
    ¬Steps AdmitsAll run.1 ∧ run.2.adapter.bridge.map (·.softwareEstop) = some true := by
  decide +kernel

theorem admission_exact_overSpeed :
    let run := (machine benchVehicle).play overSpeedEvents
    (∃ st ∈ run.1, (configureCalls st.after.trace).length = 1) ∧ Steps AdmissionLaw run.1 := by
  have hrun := Run.play (machine benchVehicle) overSpeedEvents
  exact ⟨by decide +kernel, admission_exact benchVehicle_built hrun⟩

end MineTeleop.Stack
