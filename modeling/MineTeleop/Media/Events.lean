import MineTeleop.Media.Runtime
import MineTeleop.Service.Latch
import MineTeleop.Service.ProfileRequests
import MineTeleop.Stack.Limits

/-!
# What an event of the media runtime does

Proved here, for every adapter:

* `handshakeReady_consulted`, `handshakeAdmissionReady_consulted`: the handshake is only asked for;
* `quiet_event`: every event but a control message keeps the trusted gear or forgets it, enters
  neither `ControlActive` nor `Estop`, leaves a service under the limits of its configuration, and
  puts a profile in force only when it forgets the gear.
-/

namespace MineTeleop.Media

open Programs
open Service
open Stack (VehicleConfig createService)

variable {σ : Type}

/-! ## The service that a configuration opens -/

/-- The limits of the configuration, and a profile that has passed its checks. -/
structure Fit (config : VehicleConfig) (s : VehicleControlService) : Prop where
  limits : vehicleLimits s = config.limits
  profile : ∀ profile ∈ s.activeSessionProfile, profile.Admitted

theorem fit_respond {config : VehicleConfig} {w : World σ} (adapter : VehicleAdapter σ)
    (e : Service.Event) (h : Fit config w.service) :
    Fit config (Service.respond adapter w e).2.service :=
  ⟨(vehicleLimits_respond adapter w e).trans h.limits, admitted_respond adapter w e h.profile⟩

/-! ## Calls that only ask -/

def Observation.Passive : Observation → Prop
  | .called c _ _ => c.Passive
  | _ => False

/-- The adapter has been asked, and nothing else. -/
structure Consulted (w w' : World σ) : Prop where
  service : w'.service = w.service
  trace : ∀ o ∈ w'.trace, o ∈ w.trace ∨ Observation.Passive o

theorem consulted_after (adapter : VehicleAdapter σ) {w w' : World σ} {c : AdapterCall}
    (hc : c.Passive) (h : Consulted w w') : Consulted w (w'.after adapter c) := by
  refine ⟨h.service, fun o ho => ?_⟩
  rcases List.mem_cons.mp ho with rfl | hold
  · exact .inr hc
  · exact h.trace o hold

theorem consulted_refl (w : World σ) : Consulted w w := ⟨rfl, fun _ ho => .inl ho⟩

theorem handshakeReady_consulted (adapter : VehicleAdapter σ) (mode : String) (w : World σ) :
    Consulted w ((handshakeReady adapter mode).exec w).2 := by
  refine ensures_state.mp ?_
  have hstatus := consulted_after adapter (c := .status) trivial (consulted_refl w)
  have hhandshake := consulted_after adapter (c := .vcuHandshakeStatus) trivial hstatus
  unfold handshakeReady
  rw [ensures_bind]
  refine ensures_call (fun _ _ => ?_) fun _ _ => hstatus
  refine Ensures.ite (fun _ => hstatus) fun _ => ?_
  rw [ensures_tryCatch, ensures_bind]
  exact ensures_call (fun _ _ => hhandshake) fun _ _ => hhandshake

theorem handshakeAdmissionReady_consulted (adapter : VehicleAdapter σ) (mode : String)
    (w : World σ) : Consulted w ((handshakeAdmissionReady adapter mode).exec w).2 := by
  refine ensures_state.mp ?_
  have hhandshake :=
    consulted_after adapter (c := .vcuHandshakeStatus) trivial (consulted_refl w)
  have hstatus := consulted_after adapter (c := .status) trivial hhandshake
  unfold handshakeAdmissionReady
  rw [ensures_bind]
  refine ensures_call (fun _ _ => ?_) fun _ _ => hhandshake
  refine Ensures.ite (fun _ => ?_) fun _ => hhandshake
  rw [ensures_bind]
  exact ensures_call (fun _ _ => hstatus) fun _ _ => hstatus

/-! ## What every event but a control message does -/

/-- No entry into `ControlActive`. -/
def Observation.Calm : Observation → Prop
  | .safetyChanged before after => after = .controlActive → before = .controlActive
  | _ => True

theorem Observation.Passive.calm : ∀ {o : Observation}, Observation.Passive o → Observation.Calm o
  | .called _ _ _, _ => trivial

theorem calm_respond {adapter : VehicleAdapter σ} {e : Service.Event} (w : World σ)
    (he : ∀ command t, e ≠ .receiveCommand command t) :
    ∀ o ∈ (Service.respond adapter w e).2.trace, Observation.Calm o := by
  intro o ho
  have hshown := shown_respond adapter w e o ho
  cases o with
  | called | commandAccepted => trivial
  | safetyChanged before after =>
    intro hactive
    rcases hshown hactive with hbefore | ⟨command, t, -, heq, -⟩
    · exact hbefore
    · exact absurd heq (he command t)

/-- A profile is in force. -/
def VehicleMediaRuntime.inForce (r : VehicleMediaRuntime σ) : Bool :=
  r.controlService.any fun w => w.service.activeSessionProfile.isSome

/-- The service has latched an ESTOP. -/
def Estops (r : VehicleMediaRuntime σ) : Prop :=
  ∃ w ∈ r.controlService, w.service.safety.state = .estop

/-- An admission found gone has taken the gear with it. -/
def Told (r : VehicleMediaRuntime σ) : Prop :=
  r.admission = some false → r.nativeControlLastAcceptedFreshGear = none

/-- The gear is kept or forgotten, `ControlActive` is not entered, the service keeps its limits. -/
structure Quiet (r r' : VehicleMediaRuntime σ) : Prop where
  config : r'.config = r.config
  gear : r'.nativeControlLastAcceptedFreshGear = r.nativeControlLastAcceptedFreshGear ∨
    r'.nativeControlLastAcceptedFreshGear = none
  calm : (∀ o ∈ r.trace, Observation.Calm o) → ∀ o ∈ r'.trace, Observation.Calm o
  fit : (∀ w ∈ r.controlService, Fit r.config w.service) →
    ∀ w ∈ r'.controlService, Fit r'.config w.service
  forwarded : r'.forwarded = r.forwarded
  told : Told r → Told r'
  inForce : r'.inForce = true → r.inForce = true ∨ r'.nativeControlLastAcceptedFreshGear = none
  estop : Estops r' → Estops r

section
variable {r r' r'' : VehicleMediaRuntime σ} {w : World σ}

theorem Quiet.refl (r : VehicleMediaRuntime σ) : Quiet r r :=
  ⟨rfl, .inl rfl, fun h => h, fun h => h, rfl, fun h => h, .inl, fun h => h⟩

theorem Quiet.trans (h : Quiet r r') (h' : Quiet r' r'') : Quiet r r'' := by
  refine ⟨h'.config.trans h.config, ?_, fun hr => h'.calm (h.calm hr), fun hr => h'.fit (h.fit hr),
    h'.forwarded.trans h.forwarded, fun hr => h'.told (h.told hr), fun hr => ?_,
    fun hr => h.estop (h'.estop hr)⟩
  · rcases h'.gear with hsame | hnone
    · rw [hsame]
      exact h.gear
    · exact .inr hnone
  · rcases h'.inForce hr with hforce | hnone
    · rcases h.inForce hforce with hbefore | hnone
      · exact .inl hbefore
      · exact .inr (h'.gear.elim (fun hsame => hsame.trans hnone) id)
    · exact .inr hnone

/-- The fields that are more than flags and clocks. -/
def quietFields (r : VehicleMediaRuntime σ) :
    VehicleConfig × Option (World σ) × List Observation × Option ControlCommand × Option Bool :=
  (r.config, r.controlService, r.trace, r.forwarded, r.admission)

/-- Flags and clocks. -/
theorem Quiet.of_same (hsame : quietFields r' = quietFields r)
    (hgear : r'.nativeControlLastAcceptedFreshGear = r.nativeControlLastAcceptedFreshGear ∨
      r'.nativeControlLastAcceptedFreshGear = none) : Quiet r r' := by
  obtain ⟨hconfig, hservice, htrace, hforwarded, hadmission⟩ : r'.config = r.config ∧
      r'.controlService = r.controlService ∧ r'.trace = r.trace ∧ r'.forwarded = r.forwarded ∧
      r'.admission = r.admission := by
    simpa [quietFields] using hsame
  refine ⟨hconfig, hgear, fun h => htrace ▸ h, fun h => ?_, hforwarded, fun h hno => ?_,
    fun h => .inl ?_, fun h => ?_⟩
  · rw [hservice, hconfig]
    exact h
  · have hnone := h (hadmission.symm.trans hno)
    exact hgear.elim (fun hsame => hsame.trans hnone) id
  · rwa [VehicleMediaRuntime.inForce, hservice] at h
  · rwa [Estops, hservice] at h

theorem quiet_invalidate (r : VehicleMediaRuntime σ) :
    Quiet r r.invalidateNativeControlTrustedGear :=
  .of_same rfl (.inr rfl)

/-- What the service keeps while it receives neither a command nor a profile. -/
structure Unmoved (config : VehicleConfig) (w w' : World σ) : Prop where
  fit : Fit config w.service → Fit config w'.service
  calm : ∀ o ∈ w'.trace, Observation.Calm o
  estop : w'.service.safety.state = .estop → w.service.safety.state = .estop

theorem quiet_withService (hw : r.controlService = some w) {w' : World σ}
    (h : Unmoved r.config w w')
    (hprofile : w'.service.activeSessionProfile.isSome = true →
      w.service.activeSessionProfile.isSome = true) : Quiet r (r.withService w') := by
  refine ⟨rfl, .inl rfl, fun hr o ho => ?_, fun hr w₁ hw₁ => ?_, rfl, fun hr => hr,
    fun hr => .inl ?_, fun ⟨w₁, hw₁, hestop⟩ => ?_⟩
  · rcases List.mem_append.mp ho with hnew | hold
    · exact h.calm o hnew
    · exact hr o hold
  · obtain rfl := Option.some.inj hw₁
    exact h.fit (hr w hw)
  · rw [VehicleMediaRuntime.inForce, hw]
    exact hprofile hr
  · obtain rfl := Option.some.inj hw₁
    exact ⟨w, hw, h.estop hestop⟩

/-- Only a request that is accepted brings a profile into force. -/
theorem profile_respond (adapter : VehicleAdapter σ) (w : World σ) (e : Service.Event)
    (he : ∀ result : SessionControlProfileResult, (Service.respond adapter w e).1 = .profile result →
      result.accepted = false)
    (h : (Service.respond adapter w e).2.service.activeSessionProfile.isSome = true) :
    w.service.activeSessionProfile.isSome = true := by
  by_cases hrequest : ∃ request t, e = .receiveSessionProfile request t
  · obtain ⟨request, t, rfl⟩ := hrequest
    have hrequested := respond_requested adapter w request t
    generalize (Service.respond adapter w (.receiveSessionProfile request t)).1 = reply
      at hrequested he
    generalize (Service.respond adapter w (.receiveSessionProfile request t)).2 = w'
      at hrequested h
    cases hrequested with
    | threw _ hafter =>
      rcases hafter with rfl | ⟨-, rfl⟩
      · exact h
      · exact h
    | @answered result _ _ hanswer _ =>
      have hrefused := he result rfl
      cases hanswer with
      | replies => exact h
      | replays => exact h
      | @remembers accepted reason _ _ hremembers =>
        obtain ⟨profile, hprofile⟩ := Option.isSome_iff_exists.mp h
        exact Option.isSome_iff_exists.mpr ⟨profile, hremembers.kept hrefused profile hprofile⟩
  · have hkeeps := keepsRequest_respond adapter w (e := e)
      fun request t heq => hrequest ⟨request, t, heq⟩
    rcases hkeeps.result with ⟨-, hprofile, -⟩ | ⟨-, hnone, -⟩
    · rwa [hprofile] at h
    · rw [hnone] at h
      cases h

theorem unmoved_respond {e : Service.Event} (config : VehicleConfig) (adapter : VehicleAdapter σ)
    (he : ∀ command t, e ≠ .receiveCommand command t) :
    Unmoved config w (Service.respond adapter w e).2 := by
  refine ⟨fit_respond adapter e, calm_respond w he, fun hestop => ?_⟩
  rcases respond_estop_entered adapter w w e hestop with hbefore | ⟨-, command, t, -, heq, -⟩
  · exact hbefore
  · exact absurd heq (he command t)

theorem quiet_respond {e : Service.Event} (adapter : VehicleAdapter σ)
    (hw : r.controlService = some w) (he : ∀ command t, e ≠ .receiveCommand command t)
    (hprofile : ∀ result : SessionControlProfileResult,
      (Service.respond adapter w e).1 = .profile result → result.accepted = false) :
    Quiet r (r.withService (Service.respond adapter w e).2) :=
  quiet_withService hw (unmoved_respond r.config adapter he) (profile_respond adapter w e hprofile)

/-- Neither a command nor a profile. -/
theorem quiet_operated {e : Service.Event} (adapter : VehicleAdapter σ)
    (hw : r.controlService = some w) (he : ∀ command t, e ≠ .receiveCommand command t)
    (hp : ∀ request t, e ≠ .receiveSessionProfile request t) :
    Quiet r (r.withService (Service.respond adapter w e).2) :=
  quiet_respond adapter hw he fun result hreply => absurd hreply (respond_profile hp result)

/-- The gear goes with whatever the service has answered. -/
theorem quiet_renewed {w' : World σ} (hw : r.controlService = some w)
    (h : Unmoved r.config w w') :
    Quiet r (r.withService w').invalidateNativeControlTrustedGear := by
  refine ⟨rfl, .inr rfl, fun hr o ho => ?_, fun hr w₁ hw₁ => ?_, rfl, fun _ _ => rfl,
    fun _ => .inr rfl, fun ⟨w₁, hw₁, hestop⟩ => ?_⟩
  · rcases List.mem_append.mp ho with hnew | hold
    · exact h.calm o hnew
    · exact hr o hold
  · obtain rfl := Option.some.inj hw₁
    exact h.fit (hr w hw)
  · obtain rfl := Option.some.inj hw₁
    exact ⟨w, hw, h.estop hestop⟩

theorem quiet_noteAdmission (r : VehicleMediaRuntime σ) (ready : Bool) :
    Quiet r (r.noteAdmission ready) := by
  cases ready with
  | true =>
    exact ⟨rfl, .inl rfl, fun h => h, fun h => h, rfl, fun _ hno => (nomatch hno), .inl, fun h => h⟩
  | false =>
    exact ⟨rfl, .inr rfl, fun h => h, fun h => h, rfl, fun _ _ => rfl, .inl, fun h => h⟩

theorem quiet_consulted {w' : World σ} (hw : r.controlService = some w)
    (h : Consulted { w with trace := [] } w') : Quiet r (r.withService w') := by
  refine quiet_withService hw ⟨fun hfit => h.service ▸ hfit, fun o ho => ?_, fun hestop => ?_⟩
    fun hprofile => ?_
  · rcases h.trace o ho with hold | hpassive
    · exact absurd hold List.not_mem_nil
    · exact hpassive.calm
  · rwa [h.service] at hestop
  · rwa [h.service] at hprofile

variable (adapter : VehicleAdapter σ)

theorem quiet_close (r : VehicleMediaRuntime σ) (context : Bridge.StopContext) :
    Quiet r (r.close adapter context) := by
  unfold VehicleMediaRuntime.close
  split
  · exact .refl r
  · rename_i w hw
    exact quiet_operated adapter hw (fun _ _ => (nomatch ·)) fun _ _ => (nomatch ·)

theorem quiet_reset (r : VehicleMediaRuntime σ) : Quiet r (r.reset adapter) := by
  have hclosed := quiet_close adapter r VehicleMediaRuntime.sessionLost
  exact ⟨hclosed.config, hclosed.gear, hclosed.calm,
    fun _ _ hw => absurd hw (Option.not_mem_none _), hclosed.forwarded, hclosed.told,
    fun hforce => (nomatch hforce), fun ⟨_, hw, _⟩ => absurd hw (Option.not_mem_none _)⟩

theorem quiet_closeControlService (r : VehicleMediaRuntime σ) (context : Bridge.StopContext) :
    Quiet r (r.closeControlService adapter context) := by
  unfold VehicleMediaRuntime.closeControlService
  split
  · exact (quiet_close adapter r context).trans (quiet_reset adapter _)
  · exact quiet_reset adapter r

theorem quiet_sendVcuHandshakeStatus (r : VehicleMediaRuntime σ) :
    Quiet r (r.sendVcuHandshakeStatus adapter) := by
  unfold VehicleMediaRuntime.sendVcuHandshakeStatus
  split
  · exact .refl r
  split
  · exact quiet_noteAdmission r false
  rename_i w hw
  split
  · exact quiet_noteAdmission r false
  have hasked := quiet_consulted hw (handshakeAdmissionReady_consulted adapter
    r.config.fieldSafety.commissioningMode { w with trace := [] })
  extract_lets answer
  split
  · exact hasked.trans (quiet_noteAdmission _ _)
  · exact hasked.trans (quiet_noteAdmission _ _)

theorem quiet_startControlService (createAdapter : VehicleConfig → Except Failure σ)
    (r : VehicleMediaRuntime σ) (start : ControlStart) :
    Quiet r (r.startControlService adapter createAdapter start) := by
  unfold VehicleMediaRuntime.startControlService
  split_ifs
  · exact .refl r
  · exact .refl r
  · exact .refl r
  · exact .refl r
  extract_lets r₁
  have hinvalid : Quiet r r₁ := quiet_invalidate r
  split
  · exact hinvalid.trans (quiet_reset adapter r₁)
  rename_i state _
  split
  · exact hinvalid.trans (quiet_reset adapter r₁)
  rename_i service hservice
  extract_lets answer opened r₂
  have hopened : Quiet r₁ r₂ := by
    obtain ⟨hlimits, -, hprofile⟩ := Stack.createService_limits hservice
    have hfit : Fit r.config service := ⟨hlimits, fun p hp => by rw [hprofile] at hp; cases hp⟩
    have hunmoved : Unmoved r.config ⟨service, state, []⟩ answer.2 :=
      unmoved_respond r.config adapter fun _ _ => (nomatch ·)
    refine ⟨rfl, .inl rfl, fun h o ho => ?_, fun _ w hw => ?_, rfl, fun _ _ => rfl,
      fun _ => .inr rfl, fun ⟨w, hw, hestop⟩ => ?_⟩
    · rcases List.mem_append.mp ho with hnew | hold
      · exact hunmoved.calm o hnew
      · exact h o hold
    · obtain rfl := Option.some.inj hw
      exact hunmoved.fit hfit
    · obtain rfl := Option.some.inj hw
      have hinit := (Stack.createService_init hservice).symm.trans (hunmoved.estop hestop)
      cases hinit
  have hstarted := hinvalid.trans hopened
  split
  · exact hstarted.trans (quiet_reset adapter r₂)
  split
  · exact hstarted.trans ((quiet_close adapter r₂ _).trans (quiet_reset adapter _))
  split
  · exact hstarted.trans ((quiet_close adapter r₂ _).trans (quiet_reset adapter _))
  · exact hstarted.trans (.of_same rfl (.inl rfl))

theorem openService_ok (h : r.openService = .ok w) : r.controlService = some w := by
  unfold VehicleMediaRuntime.openService at h
  split at h
  · cases h
  split at h
  · cases h
  split at h
  · cases h
  rename_i w' hw
  split at h
  · cases h
  split at h
  · cases h
  rw [hw, Except.ok.inj h]

theorem quiet_handleSessionProfile (r : VehicleMediaRuntime σ)
    (request : SessionControlProfileRequest) (utcMs : ℤ) :
    Quiet r (r.handleSessionProfile adapter request utcMs) := by
  unfold VehicleMediaRuntime.handleSessionProfile
  split
  · exact .refl r
  rename_i w hopen
  have hw := openService_ok hopen
  extract_lets answer
  split
  · rename_i result hreply
    split
    · exact quiet_renewed hw (unmoved_respond r.config adapter fun _ _ => (nomatch ·))
    · rename_i hrefused
      refine quiet_respond adapter hw (fun _ _ => (nomatch ·)) fun result' hreply' => ?_
      obtain rfl := Service.Reply.profile.inj (hreply.symm.trans hreply')
      simpa using hrefused
  · rename_i hother
    exact quiet_respond adapter hw (fun _ _ => (nomatch ·))
      fun result hreply => absurd hreply (hother result)

theorem quiet_handshakeOperation {action : String} {e : Service.Event}
    (h : VehicleMediaRuntime.handshakeOperation action = some e) (hw : r.controlService = some w) :
    Quiet r (r.withService (Service.respond adapter w e).2) := by
  unfold VehicleMediaRuntime.handshakeOperation at h
  split_ifs at h
  · obtain rfl := Option.some.inj h
    exact quiet_operated adapter hw (fun _ _ => (nomatch ·)) fun _ _ => (nomatch ·)
  · obtain rfl := Option.some.inj h
    exact quiet_operated adapter hw (fun _ _ => (nomatch ·)) fun _ _ => (nomatch ·)

theorem quiet_handleHandshake (r : VehicleMediaRuntime σ) (action : String) :
    Quiet r (r.handleHandshake adapter action) := by
  unfold VehicleMediaRuntime.handleHandshake
  split
  · exact quiet_sendVcuHandshakeStatus adapter r
  rename_i w hopen
  extract_lets answer r₁ _ reported
  have hanswered : Quiet r r₁ := by
    have hw := openService_ok hopen
    subst r₁ answer
    split
    · rename_i e he
      exact quiet_handshakeOperation adapter he hw
    · exact quiet_consulted hw (consulted_refl _)
  split
  · exact hanswered
  extract_lets r₂ r₃
  have hforgotten : Quiet r₁ r₂ := by
    show Quiet r₁ (if _ then _ else _)
    split
    · exact quiet_invalidate r₁
    · exact .refl r₁
  have hreported : Quiet r₂ r₃ := by
    have hw : r₂.controlService = some answer.2 := by
      show (if _ then _ else _ : VehicleMediaRuntime σ).controlService = _
      split <;> rfl
    exact quiet_consulted hw
      (consulted_after adapter (c := .vcuHandshakeStatus) trivial (consulted_refl _))
  have hlogged := (hanswered.trans hforgotten).trans hreported
  split
  · exact hlogged
  · exact hlogged.trans (quiet_sendVcuHandshakeStatus adapter r₃)

theorem quiet_tickControlService (r : VehicleMediaRuntime σ) (utcMs : ℤ) :
    Quiet r (r.tickControlService adapter utcMs) := by
  unfold VehicleMediaRuntime.tickControlService
  split
  · exact .refl r
  split
  · exact .refl r
  rename_i w hw
  extract_lets answer r₁
  have hticked : Quiet r r₁ :=
    quiet_operated adapter hw (fun _ _ => (nomatch ·)) fun _ _ => (nomatch ·)
  split
  · have hclosed := quiet_closeControlService adapter r₁ ⟨.softwareFault, .vcuStateFault⟩
    exact (hticked.trans hclosed).trans
      ((quiet_invalidate _).trans (quiet_sendVcuHandshakeStatus adapter _))
  · split
    · have hsent := hticked.trans (quiet_sendVcuHandshakeStatus adapter r₁)
      exact hsent.trans (.of_same rfl (.inl rfl))
    · exact hticked

theorem quiet_stopControl (r : VehicleMediaRuntime σ) (context : Bridge.StopContext) :
    Quiet r (r.stopControl adapter context) :=
  ((quiet_invalidate r).trans (quiet_closeControlService adapter _ context)).trans
    (quiet_sendVcuHandshakeStatus adapter _)

theorem quiet_onControlChannelClose (r : VehicleMediaRuntime σ) :
    Quiet r (r.onControlChannelClose adapter) := by
  unfold VehicleMediaRuntime.onControlChannelClose
  have hclosed : Quiet r r.closeControlLink := .of_same rfl (.inr rfl)
  split
  · exact .refl r
  split
  · exact hclosed.trans (quiet_closeControlService adapter r.closeControlLink _)
  · exact hclosed

/-- Every event but a control message. -/
theorem quiet_event (createAdapter : VehicleConfig → Except Failure σ) (r₀ : VehicleMediaRuntime σ)
    {e : Event}
    (he : ∀ message utcMs monotonicMs, e ≠ .nativeControlMessage message utcMs monotonicMs) :
    Quiet r₀.unobserved (VehicleMediaRuntime.respond adapter createAdapter r₀ e).2 := by
  unfold VehicleMediaRuntime.respond
  extract_lets r
  cases e with
  | nativeControlMessage message utcMs monotonicMs =>
    exact absurd rfl (he message utcMs monotonicMs)
  | controlTick utcMs => exact quiet_tickControlService adapter r utcMs
  | sessionControlProfile request utcMs => exact quiet_handleSessionProfile adapter r request utcMs
  | vcuHandshakeCommand action => exact quiet_handleHandshake adapter r action
  | transportStarted =>
    show Quiet r (if _ then _ else _)
    split
    · exact .refl r
    · exact .of_same rfl (.inr rfl)
  | channelOpened =>
    show Quiet r (if _ then _ else _)
    split
    · exact .refl r
    · exact .of_same rfl (.inr rfl)
  | channelClosed => exact quiet_onControlChannelClose adapter r
  | serviceStarted start => exact quiet_startControlService adapter createAdapter r start
  | statusSent => exact quiet_sendVcuHandshakeStatus adapter r
  | sessionEntered | attemptPrepared | stopRequested | controlInhibited =>
    exact .of_same rfl (.inl rfl)
  | pipelineStopped =>
    have hstopped : Quiet r { r.invalidateNativeControlTrustedGear with
        stopRequested := true
        controlLinkOpen := false } := .of_same rfl (.inr rfl)
    exact hstopped.trans (quiet_closeControlService adapter _ _)
  | pipelineFaulted =>
    have hflag : Quiet r { r with stopRequested := true } := .of_same rfl (.inl rfl)
    exact hflag.trans (quiet_stopControl adapter _ _)
  | criticalCameraFailed =>
    have hflag : Quiet r { r with controlInhibited := true } := .of_same rfl (.inl rfl)
    exact hflag.trans (quiet_stopControl adapter _ _)

end

end MineTeleop.Media
