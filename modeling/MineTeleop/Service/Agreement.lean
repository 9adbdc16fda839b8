import MineTeleop.Service.Operations

/-!
# The profile that the adapter holds

Proved here, for every adapter:

* `receiveSessionProfile_outcome`: what a profile request comes to: the adapter is left alone, or
  takes the profile that the service adopts, or is cleared behind a failure;
* `agreed_respond`: an adapter that holds what it has accepted until it is configured again,
  cleared, opened or closed holds the profile in force, whatever operations are called;
* `bounded_respond`: what only a request's own number raises in an adapter stays at most at the
  number of the last request.
-/

namespace MineTeleop.Service

open Programs

variable {σ : Type}

/-- The calls that may change which profile an adapter holds. -/
def AdapterCall.Reconfigures : AdapterCall → Prop
  | .configureRuntimeControlProfile _ _ => True
  | .openAdapter | .closeAdapter | .clearRuntimeControlProfile => True
  | _ => False

/-- Calls lead from `s` to `s'` that leave the adapter's profile alone. -/
def Leaves (adapter : VehicleAdapter σ) : σ → σ → Prop :=
  Relation.ReflTransGen fun s s' => ∃ c : AdapterCall, ¬c.Reconfigures ∧ s' = (adapter.answer c s).2

namespace Leaves

variable {adapter : VehicleAdapter σ} {s s' : σ}

theorem refl (s : σ) : Leaves adapter s s := Relation.ReflTransGen.refl

theorem next (h : Leaves adapter s s') (c : AdapterCall) (hc : ¬c.Reconfigures) :
    Leaves adapter s (adapter.answer c s').2 :=
  Relation.ReflTransGen.tail h ⟨c, hc, rfl⟩

theorem keeps {I : σ → Prop} (h : Leaves adapter s s')
    (hstep : ∀ c s, ¬AdapterCall.Reconfigures c → I s → I (adapter.answer c s).2) (hi : I s) :
    I s' := by
  induction h with
  | refl => exact hi
  | tail _ hcall ih =>
    obtain ⟨c, hc, rfl⟩ := hcall
    exact hstep c _ hc ih

end Leaves

/-- The adapter's state behind the call that configures it for a request. -/
def configuredAt (adapter : VehicleAdapter σ) (request : SessionControlProfileRequest)
    (profile : SessionControlProfile ℚ) (s : σ) : σ :=
  (adapter.answer (.configureRuntimeControlProfile profile request.seq) s).2

structure ConfigureCall where
  profile : SessionControlProfile ℚ
  revision : ℕ
  result : Except Failure ℕ

def Observation.configureCall? : Observation → Option ConfigureCall
  | .called (.configureRuntimeControlProfile profile revision) result _ =>
    some ⟨profile, revision, result⟩
  | _ => none

/-- The calls of an operation that configure its adapter, the latest first. -/
def configureCalls (trace : List Observation) : List ConfigureCall :=
  trace.filterMap Observation.configureCall?

/-- What a request comes to, from `w` to `w'`. -/
inductive ProfileOutcome (adapter : VehicleAdapter σ) (request : SessionControlProfileRequest)
    (t : ℤ) (w w' : World σ) : Prop
  | leaves (hadapter : Leaves adapter w.adapter w'.adapter)
      (hprofile : w'.service.activeSessionProfile = w.service.activeSessionProfile)
      (hstarted : w'.service.started = w.service.started)
      (hrequest : w'.service.lastSessionProfileRequest = w.service.lastSessionProfileRequest ∨
        w'.service.lastSessionProfileRequest = some request ∧
          ∀ previous ∈ w.service.lastSessionProfileRequest, previous.seq < request.seq)
      (hcalls : configureCalls w'.trace = configureCalls w.trace)
  | adopts (profile : SessionControlProfile ℚ) (s : σ)
      (hdecide : w.service.decideProfile request t = .proceed profile)
      (hbefore : Leaves adapter w.adapter s)
      (hok : (adapter.answer (.configureRuntimeControlProfile profile request.seq) s).1 =
        .ok request.seq)
      (hafter : Leaves adapter (configuredAt adapter request profile s) w'.adapter)
      (hprofile : w'.service.activeSessionProfile = some profile)
      (hstarted : w'.service.started = true)
      (hrequest : w'.service.lastSessionProfileRequest = some request)
      (hcalls : configureCalls w'.trace =
        ⟨profile, request.seq, .ok request.seq⟩ :: configureCalls w.trace)
  | abandons (profile : SessionControlProfile ℚ) (s s' : σ)
      (hdecide : w.service.decideProfile request t = .proceed profile)
      (hbefore : Leaves adapter w.adapter s)
      (hafter : Leaves adapter (configuredAt adapter request profile s) s')
      (hadapter : w'.adapter = (adapter.answer .clearRuntimeControlProfile s').2)
      (hprofile : w'.service.activeSessionProfile = none)
      (hrequest : w'.service.lastSessionProfileRequest = some request)
      (hcalls : configureCalls w'.trace =
        ⟨profile, request.seq,
          (adapter.answer (.configureRuntimeControlProfile profile request.seq) s).1⟩ ::
            configureCalls w.trace)

/-! ## A profile request -/

section
variable (s : VehicleControlService) (request : SessionControlProfileRequest) (t : ℤ)

/-- A request that is refused with a result, or goes on, is newer than the last one. -/
def ProfileDecision.Remembered : VehicleControlService.ProfileDecision → Prop
  | .reply _ _ | .replay _ => False
  | _ => True

theorem decideProfile_newer (h : ProfileDecision.Remembered (s.decideProfile request t)) :
    ∀ previous ∈ s.lastSessionProfileRequest, previous.seq < request.seq := by
  intro previous hprevious
  unfold VehicleControlService.decideProfile at h
  split at h
  · exact h.elim
  iterate 5
    split at h
    · exact h.elim
  unfold VehicleControlService.checkSequence at h
  rw [Option.mem_def.mp hprevious] at h
  simp only at h
  split_ifs at h with hold hsame hidentical
  · exact h.elim
  · split at h
    · exact h.elim
    · split_ifs at h
      · exact h.elim
      · exact h.elim
  · exact h.elim
  · omega

/-- What a profile has passed when the service goes on with it. -/
structure VehicleControlService.PassesChecks (s : VehicleControlService)
    (profile : SessionControlProfile ℚ) : Prop where
  admitted : profile.Admitted
  targetSpeed : profile.targetSpeedKph ≤
    s.maxSpeedKph * s.maxThrottle + VehicleControlService.tolerance
  motorTorque : profile.maxMotorTorqueNm ≤
    s.fullScaleMotorTorqueNm + VehicleControlService.tolerance
  brakePressure : profile.maxBrakePressureBar ≤
    s.maxBrakePressureBar + VehicleControlService.tolerance
  steering : profile.maxSteeringAngleDeg ≤
    s.maxSteeringAngleDeg + VehicleControlService.tolerance

variable {s request t}

theorem checkProfile_proceeds {profile : SessionControlProfile ℚ}
    (h : s.checkProfile request t = .proceed profile) : s.PassesChecks profile := by
  unfold VehicleControlService.checkProfile at h
  split at h
  · cases h
  rename_i checked hvalid
  extract_lets delta at h
  split at h
  · cases h
  split at h
  · cases h
  unfold VehicleControlService.checkVehicleLimits at h
  split_ifs at h with hspeed htorque hbrake hsteering
  cases h
  exact ⟨SessionControlProfile.validate_admitted hvalid, not_lt.mp hspeed, not_lt.mp htorque,
    not_lt.mp hbrake, not_lt.mp hsteering⟩

theorem decideProfile_proceeds {profile : SessionControlProfile ℚ}
    (h : s.decideProfile request t = .proceed profile) :
    s.PassesChecks profile ∧ request.seq ≠ 0 := by
  unfold VehicleControlService.decideProfile at h
  split at h
  · cases h
  rename_i hmetadata
  iterate 5
    split at h
    · cases h
  have hseq : request.seq ≠ 0 := by
    unfold ProtocolMetadata.validate at hmetadata
    obtain ⟨_, -, hmetadata⟩ := bind_ok hmetadata
    obtain ⟨_, -, hmetadata⟩ := bind_ok hmetadata
    obtain ⟨_, -, hmetadata⟩ := bind_ok hmetadata
    obtain ⟨_, -, hmetadata⟩ := bind_ok hmetadata
    obtain ⟨_, hseq, -⟩ := bind_ok hmetadata
    exact check_ok hseq
  refine ⟨?_, hseq⟩
  unfold VehicleControlService.checkSequence at h
  split at h
  · exact checkProfile_proceeds h
  · split at h
    · cases h
    split at h
    · split at h
      · cases h
      · split at h
        · cases h
        · split at h <;> cases h
    · exact checkProfile_proceeds h

end

section
variable {adapter : VehicleAdapter σ} {w : World σ} {request : SessionControlProfileRequest} {t : ℤ}
  {profile : SessionControlProfile ℚ}

theorem cacheResult_ensures (accepted : Bool) (reason : String) :
    Ensures (cacheResult request t accepted reason) w
      (fun _ w' => w'.adapter = w.adapter ∧
        w'.service.activeSessionProfile = w.service.activeSessionProfile ∧
        w'.service.started = w.service.started ∧
        w'.service.lastSessionProfileRequest = some request ∧ w'.trace = w.trace)
      fun _ _ => False := by
  unfold cacheResult
  rw [ensures_bind, ensures_getService, ensures_bind, ensures_modifyService]
  exact ⟨rfl, rfl, rfl, rfl, rfl⟩

theorem installSessionProfile_ensures :
    Ensures (installSessionProfile adapter request profile) w
      (fun _ w' =>
        (adapter.answer (.configureRuntimeControlProfile profile request.seq) w.adapter).1 =
          .ok request.seq ∧
        Leaves adapter (configuredAt adapter request profile w.adapter) w'.adapter ∧
        w'.service.started = w.service.started ∧
        configureCalls w'.trace =
          ⟨profile, request.seq,
            (adapter.answer (.configureRuntimeControlProfile profile request.seq) w.adapter).1⟩ ::
              configureCalls w.trace)
      fun _ w' => Leaves adapter (configuredAt adapter request profile w.adapter) w'.adapter ∧
        configureCalls w'.trace =
          ⟨profile, request.seq,
            (adapter.answer (.configureRuntimeControlProfile profile request.seq) w.adapter).1⟩ ::
              configureCalls w.trace := by
  unfold installSessionProfile
  rw [ensures_bind]
  refine ensures_call (fun revision hrevision => ?_) fun _ _ => ⟨.refl _, rfl⟩
  extract_lets install
  refine Ensures.ite (fun _ => ⟨.refl _, rfl⟩) fun hsame => ?_
  obtain rfl : revision = request.seq := not_not.mp hsame
  show Ensures (getService >>= _) _ _ _
  rw [ensures_bind, ensures_getService]
  split
  · exact ⟨hrevision, .refl _, rfl, rfl⟩
  · rename_i command _
    refine Ensures.ite (fun _ => ?_) fun _ => ⟨hrevision, .refl _, rfl, rfl⟩
    rw [ensures_bind]
    have hleaves : Leaves adapter (configuredAt adapter request profile w.adapter) _ :=
      (Leaves.refl _).next (.applyControl (w.service.reapplied profile command)) id
    exact ensures_call (fun _ _ => ⟨hrevision, hleaves, rfl, rfl⟩) fun _ _ => ⟨hleaves, rfl⟩

theorem abandonSessionProfile_ensures :
    Ensures (abandonSessionProfile adapter) w
      (fun _ w' => ∃ s, Leaves adapter w.adapter s ∧
        w'.adapter = (adapter.answer .clearRuntimeControlProfile s).2 ∧
        w'.service.activeSessionProfile = none ∧
        configureCalls w'.trace = configureCalls w.trace)
      fun _ _ => False := by
  have hclears : ∀ w₁ : World σ, Leaves adapter w.adapter w₁.adapter →
      configureCalls w₁.trace = configureCalls w.trace →
      Ensures (clearSessionProfile adapter) w₁
        (fun _ w' => ∃ s, Leaves adapter w.adapter s ∧
          w'.adapter = (adapter.answer .clearRuntimeControlProfile s).2 ∧
          w'.service.activeSessionProfile = none ∧
          configureCalls w'.trace = configureCalls w.trace)
        fun _ _ => False := by
    intro w₁ hleaves hcalls
    refine clearSessionProfile_ensures.mono ?_ fun _ _ h => h
    rintro _ w' rfl
    exact ⟨_, hleaves, rfl, rfl, hcalls⟩
  unfold abandonSessionProfile
  rw [ensures_bind, ensures_tryCatch]
  exact ensures_call (fun _ _ => hclears _ ((Leaves.refl _).next _ id) rfl)
    fun _ _ => hclears _ ((Leaves.refl _).next _ id) rfl

theorem adoptSessionProfile_ensures {w₀ : World σ}
    (hdecide : w₀.service.decideProfile request t = .proceed profile)
    (hstarted : w.service.started = true) (hbefore : Leaves adapter w₀.adapter w.adapter)
    (hquiet : configureCalls w.trace = configureCalls w₀.trace) :
    Ensures (adoptSessionProfile adapter request profile t) w
      (fun _ w' => ProfileOutcome adapter request t w₀ w')
      fun _ _ => False := by
  unfold adoptSessionProfile
  rw [ensures_bind, ensures_tryCatch, ensures_bind]
  refine installSessionProfile_ensures.mono ?_ ?_
  · rintro _ w₁ ⟨hok, hleaves, hsame, hcalls⟩
    rw [hok, hquiet] at hcalls
    rw [ensures_pure, if_pos rfl, ensures_bind, ensures_modifyService]
    refine (cacheResult_ensures _ _).mono ?_ fun _ _ h => h
    rintro _ w' ⟨hadapter, hprofile, hstarted', hrequest, htrace⟩
    exact .adopts profile w.adapter hdecide hbefore hok (hadapter ▸ hleaves) hprofile
      (hstarted'.trans (hsame.trans hstarted)) hrequest (htrace ▸ hcalls)
  · rintro _ w₁ ⟨hleaves, hcalls⟩
    rw [hquiet] at hcalls
    rw [ensures_bind]
    refine abandonSessionProfile_ensures.mono ?_ fun _ _ h => h
    rintro _ w₂ ⟨s, hstops, hclears, hnone, hstill⟩
    rw [ensures_pure, if_neg (by simp)]
    refine (cacheResult_ensures _ _).mono ?_ fun _ _ h => h
    rintro _ w' ⟨hadapter, hprofile, -, hrequest, htrace⟩
    exact .abandons profile w.adapter s hdecide hbefore
      (Relation.ReflTransGen.trans hleaves hstops) (hadapter.trans hclears)
      (hprofile.trans hnone) hrequest (htrace ▸ hstill.trans hcalls)

theorem parkingRefusal_ensures :
    Ensures (parkingRefusal adapter) w
      (fun _ w' => Leaves adapter w.adapter w'.adapter ∧ w'.service = w.service ∧
        configureCalls w'.trace = configureCalls w.trace)
      fun _ _ => False := by
  have hasked : Leaves adapter w.adapter (w.after adapter .vcuHandshakeStatus).adapter :=
    (Leaves.refl _).next _ id
  unfold parkingRefusal
  rw [ensures_bind, ensures_tryCatch, ensures_map]
  refine ensures_call (fun status _ => ?_) fun _ _ => ⟨hasked, rfl, rfl⟩
  refine Ensures.ite (fun _ => ⟨hasked, rfl, rfl⟩) fun _ =>
    Ensures.ite (fun _ => ⟨hasked, rfl, rfl⟩) fun _ => ⟨hasked, rfl, rfl⟩

/-- A request that is refused, and remembered. -/
theorem cacheResult_outcome {w₀ : World σ} (reason : String)
    (hremembered : ProfileDecision.Remembered (w₀.service.decideProfile request t))
    (hleaves : Leaves adapter w₀.adapter w.adapter) (hservice : w.service = w₀.service)
    (hquiet : configureCalls w.trace = configureCalls w₀.trace) :
    Ensures (cacheResult request t false reason) w
      (fun _ w' => ProfileOutcome adapter request t w₀ w')
      fun _ _ => False := by
  refine (cacheResult_ensures _ _).mono ?_ fun _ _ h => h
  rintro _ w' ⟨hadapter, hprofile, hsame, hrequest, htrace⟩
  rw [hservice] at hprofile hsame
  exact .leaves (hadapter ▸ hleaves) hprofile hsame
    (.inr ⟨hrequest, decideProfile_newer _ _ _ hremembered⟩) (htrace ▸ hquiet)

theorem changeSessionProfile_outcome (hstarted : w.service.started = true)
    (hdecide : w.service.decideProfile request t = .proceed profile) :
    Ensures (changeSessionProfile adapter request profile t) w
      (fun _ w' => ProfileOutcome adapter request t w w')
      fun _ w' => ProfileOutcome adapter request t w w' := by
  have hasked : Leaves adapter w.adapter (w.after adapter .status).adapter :=
    (Leaves.refl _).next _ id
  unfold changeSessionProfile
  rw [ensures_bind, ensures_getService, ensures_bind]
  refine ensures_call (fun status _ => ?_) fun _ _ => .leaves hasked rfl rfl (.inl rfl) rfl
  extract_lets bypass proceed
  have hproceeds : ∀ (refusal : Option String) (w₁ : World σ),
      Leaves adapter w.adapter w₁.adapter → w₁.service = w.service →
      configureCalls w₁.trace = configureCalls w.trace →
      Ensures (proceed refusal) w₁
        (fun _ w' => ProfileOutcome adapter request t w w')
        fun _ w' => ProfileOutcome adapter request t w w' := by
    intro refusal w₁ hleaves hservice hquiet
    cases refusal with
    | some reason =>
      exact (cacheResult_outcome reason (by rw [hdecide]; trivial) hleaves hservice hquiet).mono
        (fun _ _ h => h) fun _ _ h => h.elim
    | none =>
      exact (adoptSessionProfile_ensures hdecide (hservice ▸ hstarted) hleaves hquiet).mono
        (fun _ _ h => h) fun _ _ h => h.elim
  refine Ensures.ite (fun _ => ?_) fun _ => hproceeds none _ hasked rfl rfl
  rw [ensures_bind]
  refine parkingRefusal_ensures.mono ?_ fun _ _ h => h.elim
  rintro refusal w₁ ⟨hleaves, hservice, hquiet⟩
  exact hproceeds refusal w₁ (Relation.ReflTransGen.trans hasked hleaves) hservice hquiet

theorem receiveSessionProfile_outcome :
    Ensures (receiveSessionProfile adapter request t) w
      (fun _ w' => ProfileOutcome adapter request t w w')
      fun _ w' => ProfileOutcome adapter request t w w' := by
  have hunchanged : ProfileOutcome adapter request t w w :=
    .leaves (.refl _) rfl rfl (.inl rfl) rfl
  unfold receiveSessionProfile
  rw [ensures_bind, ensures_getService]
  refine Ensures.ite (fun _ => hunchanged) fun hstarted =>
    Ensures.ite (fun _ => hunchanged) fun _ => ?_
  cases hdecide : w.service.decideProfile request t with
  | reply idempotent reason => exact hunchanged
  | replay result =>
    rw [ensures_bind, ensures_modifyService]
    exact .leaves (.refl _) rfl rfl (.inl rfl) rfl
  | refuse reason =>
    exact (cacheResult_outcome reason (by rw [hdecide]; trivial) (.refl _) rfl rfl).mono
      (fun _ _ h => h) fun _ _ h => h.elim
  | proceed profile => exact changeSessionProfile_outcome (by simpa using hstarted) hdecide

end

/-! ## The other operations -/

/-- The state keeps a property of the adapter for every profile in force, and without a start there
is no profile. -/
structure Agreed (Holds : SessionControlProfile ℚ → σ → Prop) (w : World σ) : Prop where
  holds : ∀ profile ∈ w.service.activeSessionProfile, Holds profile w.adapter
  stopped : w.service.started = false → w.service.activeSessionProfile = none

/-- An adapter that holds what it accepts, until it is reconfigured. -/
structure HoldsProfiles (adapter : VehicleAdapter σ)
    (Holds : SessionControlProfile ℚ → σ → Prop) : Prop where
  accepts : ∀ profile revision s r,
    (adapter.answer (.configureRuntimeControlProfile profile revision) s).1 = .ok r →
      Holds profile (adapter.answer (.configureRuntimeControlProfile profile revision) s).2
  keeps : ∀ c s profile, ¬AdapterCall.Reconfigures c → Holds profile s →
    Holds profile (adapter.answer c s).2

section
variable {adapter : VehicleAdapter σ} {Holds : SessionControlProfile ℚ → σ → Prop}
  {start : VehicleControlService} {e : Event} {w w' : World σ}

/-- Only a request for a profile gives an adapter one. -/
theorem agreed_move (hadapter : HoldsProfiles adapter Holds)
    (he : ∀ request t, e ≠ .receiveSessionProfile request t)
    (hstart : start.started = false → w.service.activeSessionProfile = none)
    (hmove : Move adapter start e w w') (h : Agreed Holds w) :
    Agreed Holds w' ∧ (start.started = false → w'.service.activeSessionProfile = none) := by
  have hcall : ∀ c, ¬AdapterCall.Reconfigures c →
      Agreed Holds (w.after adapter c) ∧
        (start.started = false → (w.after adapter c).service.activeSessionProfile = none) :=
    fun c hc => ⟨⟨fun p hp => hadapter.keeps c _ p hc (h.holds p hp), h.stopped⟩, hstart⟩
  cases hmove with
  | asks c hc hsession =>
    by_cases hforgets : c.Forgets
    · have hnone : w.service.activeSessionProfile = none :=
        (hsession hforgets).elim id hstart
      refine ⟨⟨fun p hp => ?_, h.stopped⟩, hstart⟩
      rw [show (w.after adapter c).service = w.service from rfl, hnone] at hp
      cases hp
    · refine hcall c fun hreconfigures => ?_
      cases c with
      | configureRuntimeControlProfile => exact hc
      | openAdapter | closeAdapter | clearRuntimeControlProfile => exact hforgets trivial
      | _ => exact hreconfigures
  | configures | reapplies | adopts => exact absurd rfl (he _ _)
  | stops | zeroes => exact hcall _ id
  | controls => exact hcall _ id
  | revokes | stopsFirst =>
    exact ⟨⟨fun p hp => (nomatch hp), fun _ => rfl⟩, fun _ => rfl⟩
  | activates => exact ⟨⟨h.holds, h.stopped⟩, hstart⟩
  | starts => exact ⟨⟨h.holds, fun hstarted => (nomatch hstarted)⟩, hstart⟩
  | closes hnone => exact ⟨⟨h.holds, fun _ => hnone⟩, hstart⟩
  | _ => exact ⟨⟨h.holds, h.stopped⟩, hstart⟩

theorem agreed_respond (hadapter : HoldsProfiles adapter Holds) (w : World σ) (e : Event)
    (h : Agreed Holds w) : Agreed Holds (respond adapter w e).2 := by
  by_cases he : ∃ request t, e = .receiveSessionProfile request t
  · obtain ⟨request, t, rfl⟩ := he
    have houtcome : ProfileOutcome adapter request t { w with trace := [] }
        (respond adapter w (.receiveSessionProfile request t)).2 :=
      respond_ensures adapter (Q := fun _ w' => ProfileOutcome adapter request t _ w')
        ((ensures_map _ _).mpr receiveSessionProfile_outcome)
    cases houtcome with
    | leaves hleaves hprofile hstarted =>
      refine ⟨fun p hp => ?_, fun hstopped => ?_⟩
      · exact hleaves.keeps (fun c s hc hi => hadapter.keeps c s p hc hi)
          (h.holds p (hprofile ▸ hp))
      · exact hprofile.trans (h.stopped (hstarted ▸ hstopped))
    | adopts profile s _ _ hok hafter hprofile hstarted =>
      refine ⟨fun p hp => ?_, fun hstopped => ?_⟩
      · obtain rfl : profile = p := Option.some.inj (hprofile.symm.trans hp)
        exact hafter.keeps (fun c s hc hi => hadapter.keeps c s _ hc hi)
          (hadapter.accepts _ _ _ _ hok)
      · rw [hstarted] at hstopped
        cases hstopped
    | abandons _ _ _ _ _ _ _ hnone =>
      exact ⟨fun p hp => (nomatch hnone.symm.trans hp), fun _ => hnone⟩
  · have hkeeps := (respond_ended adapter w e).keeps
      (I := fun w' => Agreed Holds w' ∧
        (w.service.started = false → w'.service.activeSessionProfile = none))
      (fun _ _ hmove hi => agreed_move hadapter (fun request t heq => he ⟨request, t, heq⟩)
        hi.2 hmove hi.1)
      (fun w₁ _ _ _ hi => ⟨⟨fun p hp => hadapter.keeps _ _ p id (hi.1.holds p hp),
        hi.1.stopped⟩, hi.2⟩)
      ⟨⟨h.holds, h.stopped⟩, h.stopped⟩
    exact hkeeps.1

end

/-! ## What every call keeps -/

theorem adapter_move {adapter : VehicleAdapter σ} {I : σ → Prop} {start : VehicleControlService}
    {e : Event} {w w' : World σ} (hcall : ∀ c s, I s → I (adapter.answer c s).2)
    (hmove : Move adapter start e w w') (h : I w.adapter) : I w'.adapter := by
  cases hmove with
  | asks | stops | revokes | configures | reapplies | controls | zeroes => exact hcall _ _ h
  | stopsFirst => exact hcall _ _ (hcall _ _ h)
  | _ => exact h

/-- What every call of the adapter keeps, every operation keeps. -/
theorem adapter_respond {adapter : VehicleAdapter σ} {I : σ → Prop}
    (hcall : ∀ c s, I s → I (adapter.answer c s).2) (w : World σ) (e : Event)
    (h : I w.adapter) : I (respond adapter w e).2.adapter :=
  (respond_ended adapter w e).keeps (I := fun w' => I w'.adapter)
    (fun _ _ hmove hi => adapter_move hcall hmove hi) (fun _ _ _ _ hi => hcall _ _ hi) h

/-! ## The limits of the vehicle -/

/-- What the constructor takes from the configuration to limit commands. -/
structure VehicleLimits where
  maxSpeedKph : ℚ
  maxThrottle : ℚ
  fullScaleMotorTorqueNm : ℚ
  maxBrakePressureBar : ℚ
  maxSteeringAngleDeg : ℚ

def vehicleLimits (s : VehicleControlService) : VehicleLimits :=
  { maxSpeedKph := s.maxSpeedKph
    maxThrottle := s.maxThrottle
    fullScaleMotorTorqueNm := s.fullScaleMotorTorqueNm
    maxBrakePressureBar := s.maxBrakePressureBar
    maxSteeringAngleDeg := s.maxSteeringAngleDeg }

theorem vehicleLimits_move {adapter : VehicleAdapter σ} {start : VehicleControlService} {e : Event}
    {w w' : World σ} (hmove : Move adapter start e w w') :
    vehicleLimits w'.service = vehicleLimits w.service := by
  cases hmove <;> rfl

theorem vehicleLimits_respond (adapter : VehicleAdapter σ) (w : World σ) (e : Event) :
    vehicleLimits (respond adapter w e).2.service = vehicleLimits w.service :=
  (respond_ended adapter w e).keeps
    (I := fun w' => vehicleLimits w'.service = vehicleLimits w.service)
    (fun _ _ hmove hsame => (vehicleLimits_move hmove).trans hsame) (fun _ _ _ _ hsame => hsame) rfl

/-! ## The number of the last request -/

def lastRequestSeq (s : VehicleControlService) : ℕ :=
  (s.lastSessionProfileRequest.map fun request => request.seq).getD 0

/-- A bound on an adapter's state that only a configuration raises, to its own number. -/
structure BoundedBy (adapter : VehicleAdapter σ) (Bounded : ℕ → σ → Prop) : Prop where
  mono : ∀ m n s, m ≤ n → Bounded m s → Bounded n s
  configures : ∀ profile revision s n, n ≤ revision → Bounded n s →
    Bounded revision (adapter.answer (.configureRuntimeControlProfile profile revision) s).2
  keeps : ∀ c s n, (∀ profile revision, c ≠ .configureRuntimeControlProfile profile revision) →
    Bounded n s → Bounded n (adapter.answer c s).2

section
variable {adapter : VehicleAdapter σ} {Bounded : ℕ → σ → Prop} {start : VehicleControlService}
  {e : Event} {w w' : World σ}

theorem bounded_leaves (hadapter : BoundedBy adapter Bounded) {s s' : σ} {n : ℕ}
    (h : Leaves adapter s s') (hs : Bounded n s) : Bounded n s' := by
  refine h.keeps (fun c s hc hi => hadapter.keeps c s n (fun profile revision heq => ?_) hi) hs
  subst heq
  exact hc trivial

theorem bounded_move (hadapter : BoundedBy adapter Bounded)
    (he : ∀ request t, e ≠ .receiveSessionProfile request t) (hmove : Move adapter start e w w')
    (h : Bounded (lastRequestSeq w.service) w.adapter) :
    Bounded (lastRequestSeq w'.service) w'.adapter := by
  cases hmove with
  | asks c hc =>
    refine hadapter.keeps c _ _ (fun profile revision heq => ?_) h
    subst heq
    exact hc
  | books _ _ _ _ request _ hrequest =>
    obtain ⟨rfl, -⟩ | ⟨request, t, rfl⟩ := hrequest
    · exact h
    · exact absurd rfl (he _ _)
  | configures | reapplies | adopts => exact absurd rfl (he _ _)
  | stops | zeroes | revokes => exact hadapter.keeps _ _ _ (by simp) h
  | stopsFirst => exact hadapter.keeps _ _ _ (by simp) (hadapter.keeps _ _ _ (by simp) h)
  | controls => exact hadapter.keeps _ _ _ (by simp) h
  | _ => exact h

theorem lastRequestSeq_le {s : VehicleControlService} {request : SessionControlProfileRequest}
    (h : ∀ previous ∈ s.lastSessionProfileRequest, previous.seq < request.seq) :
    lastRequestSeq s ≤ request.seq := by
  unfold lastRequestSeq
  cases hlast : s.lastSessionProfileRequest with
  | none => exact Nat.zero_le _
  | some previous => exact (h previous hlast).le

theorem bounded_respond (hadapter : BoundedBy adapter Bounded) (w : World σ) (e : Event)
    (h : Bounded (lastRequestSeq w.service) w.adapter) :
    Bounded (lastRequestSeq (respond adapter w e).2.service) (respond adapter w e).2.adapter := by
  by_cases he : ∃ request t, e = .receiveSessionProfile request t
  · obtain ⟨request, t, rfl⟩ := he
    have houtcome : ProfileOutcome adapter request t { w with trace := [] }
        (respond adapter w (.receiveSessionProfile request t)).2 :=
      respond_ensures adapter (Q := fun _ w' => ProfileOutcome adapter request t _ w')
        ((ensures_map _ _).mpr receiveSessionProfile_outcome)
    generalize (respond adapter w (.receiveSessionProfile request t)).2 = w' at houtcome ⊢
    have hlast : w'.service.lastSessionProfileRequest = some request →
        lastRequestSeq w'.service = request.seq := fun hrequest => by
      rw [lastRequestSeq, hrequest]
      rfl
    have hconfigured : ∀ {profile s}, w.service.decideProfile request t = .proceed profile →
        Leaves adapter w.adapter s →
        Bounded request.seq (configuredAt adapter request profile s) := by
      intro profile s hdecide hleaves
      have hnewer := decideProfile_newer w.service request t (by rw [hdecide]; trivial)
      exact hadapter.configures _ _ _ _ (lastRequestSeq_le hnewer)
        (bounded_leaves hadapter hleaves h)
    cases houtcome with
    | leaves hleaves _ _ hrequest =>
      have hsame := bounded_leaves hadapter hleaves h
      rcases hrequest with hkept | ⟨hrequest, hnewer⟩
      · rw [lastRequestSeq, hkept]
        exact hsame
      · rw [hlast hrequest]
        exact hadapter.mono _ _ _ (lastRequestSeq_le hnewer) hsame
    | adopts profile s hdecide hbefore _ hafter _ _ hrequest =>
      rw [hlast hrequest]
      exact bounded_leaves hadapter hafter (hconfigured hdecide hbefore)
    | abandons profile s s' hdecide hbefore hafter hclears _ hrequest =>
      rw [hlast hrequest, hclears]
      exact hadapter.keeps _ _ _ (by simp)
        (bounded_leaves hadapter hafter (hconfigured hdecide hbefore))
  · exact (respond_ended adapter w e).keeps
      (I := fun w' => Bounded (lastRequestSeq w'.service) w'.adapter)
      (fun _ _ hmove hi =>
        bounded_move hadapter (fun request t heq => he ⟨request, t, heq⟩) hmove hi)
      (fun w₁ _ _ _ hi => hadapter.keeps _ _ _ (by simp) hi) h

end

end MineTeleop.Service
