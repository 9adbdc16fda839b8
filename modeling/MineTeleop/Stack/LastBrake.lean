import MineTeleop.Stack.Braking

/-!
# The brake that the service remembers

Service, adapter and bridge hold the brake of the last accepted command together.

Proved here:

* `keeps_tick`: the watchdog keeps it, and puts it out again in `Degraded`;
* `receiveCommand_links`: a received command replaces it, or leaves it, or leaves none.
-/

namespace MineTeleop.Stack

open Programs Runs
open Bridge (BridgeRuntime Engaged Heeded)
open Service

/-! ## What the service remembers -/

/-- The safety machine and the last effective command agree with the brake. -/
structure Recalls (brake : ℚ) (s : VehicleControlService) (limits : ℚ × ℚ) : Prop where
  range : 0 ≤ brake ∧ brake ≤ 1
  remembered : ∃ command, s.safety.lastValidCommand = some command ∧ 0 ≤ command.brake ∧
    command.brake * s.maxBrakePressureBar = brake * limits.1 ∧ |command.steering| ≤ limits.2
  effective : ∀ command ∈ s.lastEffectiveCommand, command.brake = brake

structure Remembers (config : VehicleConfig) (last : Option ℚ) (w : World Chassis) : Prop where
  adapter : w.adapter.adapter.config = config.adapterConfig
  service : vehicleLimits w.service = config.limits
  holds : ∀ profile ∈ w.service.activeSessionProfile, Holds profile w.adapter
  rests : w.service.activeSessionProfile = none → Rests w.adapter
  stopped : w.service.safety.state = .estop → Rests w.adapter
  recalls : ∀ b ∈ w.adapter.bridge, Engaged b → ∀ brake ∈ last,
    Recalls brake w.service (Bridge.parkedLimits b)

/-- The log is lawful for the brake `past`, and everything holds the brake `last`. -/
structure Linked (config : VehicleConfig) (past last : Option ℚ) (w : World Chassis) : Prop where
  carried : Carried last w.adapter
  lawful : Lawful past w.adapter
  remembers : Remembers config last w

/-- What a revocation asks for. -/
structure Loose (config : VehicleConfig) (past : Option ℚ) (w : World Chassis) : Prop where
  carried : Carried past w.adapter
  lawful : Lawful past w.adapter
  adapter : w.adapter.adapter.config = config.adapterConfig
  service : vehicleLimits w.service = config.limits

/-- The fields of the service that are remembered. -/
structure RecallView where
  profile : Option (SessionControlProfile ℚ)
  effective : Option DriverCommand
  valid : Option DriverCommand
  estop : Bool
  limits : VehicleLimits

def recallView (s : VehicleControlService) : RecallView :=
  { profile := s.activeSessionProfile
    effective := s.lastEffectiveCommand
    valid := s.safety.lastValidCommand
    estop := decide (s.safety.state = .estop)
    limits := vehicleLimits s }

section
variable {config : VehicleConfig} {past last last' : Option ℚ} {w w' : World Chassis}

theorem Linked.loose (h : Linked config last last w) : Loose config last w :=
  ⟨h.carried, h.lawful, h.remembers.adapter, h.remembers.service⟩

/-- Without a session any brake is the last one. -/
theorem Linked.of_rests (h : Linked config past last w) (hrests : Rests w.adapter) :
    Linked config past last' w :=
  ⟨h.carried.of_rests hrests, h.lawful, h.remembers.adapter, h.remembers.service, h.remembers.holds,
    h.remembers.rests, h.remembers.stopped,
    fun b hb hengaged => absurd hengaged (hrests b hb)⟩

/-- Nothing need be known of the brake. -/
theorem Linked.forget (h : Linked config past last w) : Linked config past none w :=
  ⟨⟨h.carried.matched, h.carried.opened, fun b hb =>
      (h.carried.carries b hb).of_limits (h.carried.carries b hb).invariant rfl
        fun _ _ _ hnone => absurd hnone (Option.not_mem_none _)⟩,
    h.lawful, h.remembers.adapter, h.remembers.service, h.remembers.holds, h.remembers.rests,
    h.remembers.stopped, fun _ _ _ _ hnone => absurd hnone (Option.not_mem_none _)⟩

theorem Recalls.of_view {brake : ℚ} {s s' : VehicleControlService} {limits : ℚ × ℚ}
    (h : Recalls brake s limits) (hview : recallView s' = recallView s) :
    Recalls brake s' limits := by
  have hvalid : s'.safety.lastValidCommand = s.safety.lastValidCommand :=
    congrArg RecallView.valid hview
  have heffective : s'.lastEffectiveCommand = s.lastEffectiveCommand :=
    congrArg RecallView.effective hview
  have hmax : s'.maxBrakePressureBar = s.maxBrakePressureBar :=
    congrArg (fun view => view.limits.maxBrakePressureBar) hview
  refine ⟨h.range, ?_, ?_⟩
  · rw [hvalid, hmax]
    exact h.remembered
  · rw [heffective]
    exact h.effective

/-- The service has moved, but not in what it remembers. -/
theorem Linked.of_view (h : Linked config past last w) (hadapter : w'.adapter = w.adapter)
    (hview : recallView w'.service = recallView w.service) : Linked config past last w' := by
  have hprofile : w'.service.activeSessionProfile = w.service.activeSessionProfile :=
    congrArg RecallView.profile hview
  have hestop : decide (w'.service.safety.state = .estop) =
      decide (w.service.safety.state = .estop) := congrArg RecallView.estop hview
  refine ⟨hadapter ▸ h.carried, hadapter ▸ h.lawful, hadapter ▸ h.remembers.adapter,
    (congrArg RecallView.limits hview).trans h.remembers.service, ?_, ?_, ?_, ?_⟩
  · rw [hprofile, hadapter]
    exact h.remembers.holds
  · rw [hprofile, hadapter]
    exact h.remembers.rests
  · rw [hadapter]
    exact fun hstate => h.remembers.stopped
      (of_decide_eq_true (hestop.symm.trans (decide_eq_true hstate)))
  · rw [hadapter]
    exact fun b hb hengaged brake hbrake =>
      (h.remembers.recalls b hb hengaged brake hbrake).of_view hview

/-! ## Calls and revocations -/

theorem Loose.after (h : Loose config last w) (call : AdapterCall)
    (hquiet : Quiet last w.adapter (dynamicLibrary.answer call w.adapter).2) :
    Loose config last (w.after dynamicLibrary call) :=
  ⟨hquiet.carried h.carried, hquiet.lawful h.carried h.lawful, hquiet.config.trans h.adapter,
    h.service⟩

/-- A chassis that leaves the demand alone. -/
theorem Linked.quiet (h : Linked config last last w) {c : Chassis} (hquiet : Quiet last w.adapter c)
    (trace : List Observation) : Linked config last last ⟨w.service, c, trace⟩ := by
  refine ⟨hquiet.carried h.carried, hquiet.lawful h.carried h.lawful,
    hquiet.config.trans h.remembers.adapter, h.remembers.service, ?_, ?_, ?_, ?_⟩
  · exact fun profile hprofile => hquiet.limits.holds (h.remembers.holds profile hprofile)
  · exact fun hnone => hquiet.toTrails.rests (h.remembers.rests hnone)
  · exact fun hstate => hquiet.toTrails.rests (h.remembers.stopped hstate)
  · intro b' hb' hengaged brake hbrake
    obtain ⟨b, hb, hbefore, hsame⟩ := hquiet.engaged b' hb' hengaged
    rw [hsame]
    exact h.remembers.recalls b hb hbefore brake hbrake

theorem Linked.after (h : Linked config last last w) (call : AdapterCall)
    (hquiet : Quiet last w.adapter (dynamicLibrary.answer call w.adapter).2) :
    Linked config last last (w.after dynamicLibrary call) :=
  h.quiet hquiet _

/-- A call that ends the session, of a service that has none. -/
theorem Loose.ends (h : Loose config last w) (call : AdapterCall)
    (hends : Ends last w.adapter (dynamicLibrary.answer call w.adapter).2)
    (hprofile : w.service.activeSessionProfile = none) :
    Linked config last last (w.after dynamicLibrary call) ∧
      Rests (w.after dynamicLibrary call).adapter := by
  have hrests : Rests (w.after dynamicLibrary call).adapter := hends.rests h.carried
  have hservice : (w.after dynamicLibrary call).service = w.service := rfl
  refine ⟨⟨hends.carried h.carried, hends.lawful h.carried h.lawful, hends.config.trans h.adapter,
    h.service, ?_, fun _ => hrests, fun _ => hrests,
    fun b hb hengaged => absurd hengaged (hrests b hb)⟩, hrests⟩
  intro profile hmem
  rw [hservice, hprofile] at hmem
  cases hmem

/-- What one part of an operation keeps. -/
def Keeps (config : VehicleConfig) (last : Option ℚ) (w w' : World Chassis) : Prop :=
  Linked config last last w → Linked config last last w' ∧ (Rests w.adapter → Rests w'.adapter)

instance : Std.Refl (Keeps config last) := ⟨fun _ h => ⟨h, id⟩⟩

instance : IsTrans (World Chassis) (Keeps config last) :=
  ⟨fun _ _ _ h h' hw => ⟨(h' (h hw).1).1, fun hrests => (h' (h hw).1).2 ((h hw).2 hrests)⟩⟩

theorem keeps_call {call : AdapterCall} (hcall : QuietCall call) :
    Within (Keeps config last) (Service.call dynamicLibrary call) := by
  intro w
  have hkeeps : Keeps config last w (w.after dynamicLibrary call) := fun h =>
    ⟨h.after call (quiet_answer hcall), (quiet_answer hcall : Quiet last _ _).toTrails.rests⟩
  exact ensures_call (fun _ _ => hkeeps) fun _ _ => hkeeps

theorem keeps_view {f : VehicleControlService → VehicleControlService}
    (hview : ∀ s, recallView (f s) = recallView s) :
    Within (Keeps config last) (modifyService f : Operation Chassis Unit) :=
  fun w h => ⟨h.of_view rfl (hview w.service), id⟩

theorem keeps_get : Within (Keeps config last) (getService : Operation Chassis _) :=
  fun _ h => ⟨h, id⟩

theorem clearSessionProfile_links (h : Loose config last w) :
    Ensures (clearSessionProfile dynamicLibrary) w
      (fun _ w' => Linked config last last w' ∧ Rests w'.adapter ∧ w'.service = w.service.revoked)
      fun _ _ => False := by
  refine clearSessionProfile_ensures.mono ?_ fun _ _ h => h
  rintro _ w' rfl
  have hloose : Loose config last (w.withService VehicleControlService.revoked) :=
    ⟨h.carried, h.lawful, h.adapter, h.service⟩
  obtain ⟨hlinked, hrests⟩ := hloose.ends .clearRuntimeControlProfile
    (Ends.behind ends_clearRuntimeControlProfile quiet_advance) rfl
  exact ⟨hlinked, hrests, rfl⟩

theorem keeps_clearSessionProfile :
    Within (Keeps config last) (clearSessionProfile dynamicLibrary) := by
  intro w
  have h : Ensures (clearSessionProfile dynamicLibrary) w
      (fun _ w' => Loose config last w → Linked config last last w' ∧ Rests w'.adapter ∧ _)
      fun _ _ => _ → False := Ensures.imp clearSessionProfile_links
  exact h.mono (fun _ w' h hlinked => ⟨(h hlinked.loose).1, fun _ => (h hlinked.loose).2.1⟩)
    fun _ w' h hlinked => (h hlinked.loose).elim

end

/-! ## The watchdog -/

section
variable {config : VehicleConfig} {last : Option ℚ} {w : World Chassis}

/-- A program may be looked at from a linked world. -/
theorem within_keeps {α : Type} {p : Operation Chassis α}
    (h : ∀ w, Linked config last last w → Ensures p w
      (fun _ w' => Linked config last last w' ∧ (Rests w.adapter → Rests w'.adapter))
      fun _ w' => Linked config last last w' ∧ (Rests w.adapter → Rests w'.adapter)) :
    Within (Keeps config last) p :=
  fun w => Ensures.imp (h w)

theorem keeps_moveSafety {f : SafetyStateMachine → SafetyStateMachine}
    (hvalid : ∀ m, (f m).lastValidCommand = m.lastValidCommand)
    (hestop : ∀ m, (f m).state = .estop → m.state = .estop) :
    Within (Keeps config last) (moveSafety f : Operation Chassis Unit) := by
  intro w h
  refine ⟨⟨h.carried, h.lawful, h.remembers.adapter, h.remembers.service, h.remembers.holds,
    h.remembers.rests, fun hstate => h.remembers.stopped (hestop _ hstate), ?_⟩, id⟩
  intro b hb hengaged brake hbrake
  obtain ⟨hrange, hremembered, heffective⟩ := h.remembers.recalls b hb hengaged brake hbrake
  refine ⟨hrange, ?_, heffective⟩
  rwa [← hvalid] at hremembered

theorem keeps_tickSafety (t : ℤ) :
    Within (Keeps config last) (moveSafety (·.tick t) : Operation Chassis Unit) := by
  refine keeps_moveSafety (fun m => ?_) fun m hestop => ?_
  · unfold SafetyStateMachine.tick
    split
    · rfl
    split
    · rfl
    · extract_lets elapsed
      split_ifs <;> rfl
  · rcases m.tick_state t with hsame | hdegraded | htimeout
    · rwa [hsame] at hestop
    · rw [hdegraded] at hestop
      cases hestop
    · rw [htimeout] at hestop
      cases hestop

theorem quiet_applySafeStop {c : Chassis} {output : ControlOutput} (context : Bridge.StopContext)
    (h : ∀ b ∈ c.bridge, Engaged b → ∀ brake ∈ last,
      Restates brake output c.adapter.config.maxOrdinaryBrakePressureBar (Bridge.parkedLimits b)) :
    Quiet last c (dynamicLibrary.answer (.applySafeStop output context) c).2 := by
  have hadvance : Quiet last c c.advance := quiet_advance
  refine hadvance.trans (applySafeStop_quiet context fun b hb hengaged brake hbrake => ?_)
  obtain ⟨b₀, hb₀, hbefore, hsame⟩ := hadvance.engaged b hb hengaged
  rw [hsame, hadvance.config]
  exact h b₀ hb₀ hbefore brake hbrake

theorem Remembers.maxBrake (h : Remembers config last w) :
    w.adapter.adapter.config.maxOrdinaryBrakePressureBar = w.service.maxBrakePressureBar := by
  have hservice : w.service.maxBrakePressureBar = config.fieldSafety.maxBrakePressureBar :=
    congrArg VehicleLimits.maxBrakePressureBar h.service
  rw [h.adapter, hservice]
  rfl

/-- In `Degraded` the safety machine puts out the remembered brake. -/
theorem restates_degraded (h : Linked config last last w)
    (hstate : w.service.safety.state = .degraded) (t : ℤ) :
    ∀ b ∈ w.adapter.bridge, Engaged b → ∀ brake ∈ last,
      Restates brake (w.service.safety.currentOutput t)
        w.adapter.adapter.config.maxOrdinaryBrakePressureBar (Bridge.parkedLimits b) := by
  intro b hb hengaged brake hbrake
  obtain ⟨hrange, ⟨command, hcommand, hnonneg, hpressure, hsteering⟩, -⟩ :=
    h.remembers.recalls b hb hengaged brake hbrake
  have houtput : w.service.safety.currentOutput t =
      ⟨command.gear, command.steering, 0, command.brake, false, false⟩ := by
    unfold SafetyStateMachine.currentOutput
    rw [hstate, hcommand]
    rfl
  rw [houtput, h.remembers.maxBrake]
  exact ⟨hrange, hnonneg, hpressure, hsteering⟩

/-- A stop of a service that has no session, or that holds its last command. -/
theorem applySafeStop_links (h : Linked config last last w) (output : ControlOutput)
    (context : Bridge.StopContext)
    (houtput : StopsBridge output ∨ Rests w.adapter ∨
      w.service.safety.state = .degraded ∧ ∃ t, output = w.service.safety.currentOutput t) :
    Linked config last last (w.after dynamicLibrary (.applySafeStop output context)) ∧
      (Rests w.adapter → Rests (w.after dynamicLibrary (.applySafeStop output context)).adapter) := by
  have hquiet : Quiet last w.adapter
      (dynamicLibrary.answer (.applySafeStop output context) w.adapter).2 := by
    rcases houtput with hstops | hrests | ⟨hdegraded, t, rfl⟩
    · exact quiet_answer hstops
    · exact quiet_applySafeStop context fun b hb hengaged => absurd hengaged (hrests b hb)
    · exact quiet_applySafeStop context (restates_degraded h hdegraded t)
  exact ⟨h.after _ hquiet, hquiet.toTrails.rests⟩

theorem keeps_evaluateControlWatchdog (t : ℤ) :
    Within (Keeps config last) (evaluateControlWatchdog dynamicLibrary t) := by
  refine Within.bind (keeps_tickSafety t) fun _ => within_keeps fun w h => ?_
  rw [ensures_bind, ensures_getService]
  refine Ensures.ite (fun hstop => ?_) fun _ => ⟨h, id⟩
  extract_lets stopAdapter
  have hstopped : ∀ w₁ : World Chassis, Linked config last last w₁ →
      (Rests w₁.adapter ∨ w₁.service.safety.state = .degraded) →
      (Rests w.adapter → Rests w₁.adapter) →
      Ensures (stopAdapter ()) w₁
        (fun _ w' => Linked config last last w' ∧ (Rests w.adapter → Rests w'.adapter))
        fun _ w' => Linked config last last w' ∧ (Rests w.adapter → Rests w'.adapter) := by
    intro w₁ h₁ hsession hrests
    show Ensures (getService >>= _) _ _ _
    rw [ensures_bind, ensures_getService]
    refine Ensures.ite (fun _ => ?_) fun _ => ⟨h₁, hrests⟩
    have hlinked := applySafeStop_links h₁ _ (watchdogStopContext w₁.service.safety.state)
      (.inr (hsession.imp_right fun hdegraded => ⟨hdegraded, t, rfl⟩))
    exact ensures_call (fun _ _ => ⟨hlinked.1, fun h => hlinked.2 (hrests h)⟩)
      fun _ _ => ⟨hlinked.1, fun h => hlinked.2 (hrests h)⟩
  refine Ensures.ite (fun _ => ?_) fun hdegraded => ?_
  · rw [ensures_bind]
    refine (clearSessionProfile_links h.loose).mono ?_ fun _ _ h => h.elim
    rintro _ w₁ ⟨h₁, hrests, -⟩
    exact hstopped w₁ h₁ (.inl hrests) fun _ => hrests
  · exact hstopped w h (.inr (not_not.mp hdegraded)) id

/-! ## Reading the adapter -/

theorem keeps_pollFeedbackFails :
    Within (Keeps config last) (pollFeedbackFails dynamicLibrary) :=
  .tryCatch (.bind (keeps_call trivial) fun _ => .pure false) fun _ => .pure true

theorem keeps_refreshAdapterSafeStopState :
    Within (Keeps config last) (refreshAdapterSafeStopState dynamicLibrary) := by
  refine .tryCatch (.bind (keeps_call trivial) fun _ => .bind (keeps_call trivial) fun _ =>
    .bind (keeps_view fun _ => rfl) fun _ => ?_) fun _ => .pure false
  exact .ite (.bind keeps_clearSessionProfile fun _ => .pure true) (.pure true)

theorem keeps_buildTelemetry (t : ℤ) :
    Within (Keeps config last) (buildTelemetry dynamicLibrary t) :=
  .bind (keeps_call trivial) fun _ => .bind (keeps_view fun _ => rfl) fun _ =>
    .bind (keeps_call trivial) fun _ => .bind (keeps_call trivial) fun _ =>
      .bind keeps_get fun _ => .pure _

theorem keeps_recordTelemetry (t : ℤ) :
    Within (Keeps config last) (recordTelemetry dynamicLibrary t) := by
  refine .bind keeps_get fun s => ?_
  dsimp only
  refine .ite ?_ (.pure _)
  exact .tryCatch (.bind (keeps_view fun _ => rfl) fun _ =>
    .bind (keeps_buildTelemetry t) fun _ => keeps_view fun _ => rfl) fun _ => .pure _

theorem keeps_tick (t : ℤ) : Within (Keeps config last) (Service.tick dynamicLibrary t) := by
  refine .bind keeps_get fun s => .ite (.throw _) ?_
  refine .bind keeps_pollFeedbackFails fun pollFailed =>
    .bind keeps_refreshAdapterSafeStopState fun observed => .bind keeps_get fun s => ?_
  have hrest : Within (Keeps config last) (do
      evaluateControlWatchdog dynamicLibrary t
      recordTelemetry dynamicLibrary t) :=
    .bind (keeps_evaluateControlWatchdog t) fun _ => keeps_recordTelemetry t
  exact .ite (.bind (keeps_moveSafety (fun _ => rfl) fun _ h => by cases h) fun _ => hrest) hrest

end

/-! ## Receiving a command -/

/-- The last accepted brake behind an operation: a command that the adapter rejects and a granted
handshake leave none. -/
def lastAccepted (last : Option ℚ) : Service.Event → Service.Reply → Option ℚ
  | .receiveCommand command _, .command result =>
    if result.accepted then command.brake
    else if result.reason = "adapter_control_rejected" then none
    else last
  | .requestVcuHandshake, .answered granted => if granted then none else last
  | _, _ => last

section
variable {config : VehicleConfig} {last : Option ℚ} {w : World Chassis} {command : ControlCommand}
  {t : ℤ}

theorem lastAccepted_of_accepted {result : ReceiveResult} (h : result.accepted = true) :
    lastAccepted last (.receiveCommand command t) (.command result) = command.brake :=
  if_pos h

/-- A rejection leaves the last brake, or none. -/
theorem Linked.rejects (h : Linked config last last w) {result : ReceiveResult}
    (hrejected : result.accepted = false) :
    Linked config last (lastAccepted last (.receiveCommand command t) (.command result)) w := by
  have hleft : lastAccepted last (.receiveCommand command t) (.command result) =
      if result.accepted then command.brake
      else if result.reason = "adapter_control_rejected" then none else last := rfl
  rw [hleft, if_neg (by rw [hrejected]; exact Bool.false_ne_true)]
  split
  · exact h.forget
  · exact h

theorem failControl_links (h : Linked config last last w) (t : ℤ) (stopReason : Bridge.StopReason)
    (reason : String) (warnings : List String) :
    Ensures (failControl dynamicLibrary t stopReason reason warnings) w
      (fun result w' => result.accepted = false ∧ Linked config last last w')
      fun _ w' => Linked config last last w' := by
  have hfault : Linked config last last (w.moved SafetyStateMachine.markFault) :=
    (keeps_moveSafety (f := SafetyStateMachine.markFault) (fun _ => rfl)
      (fun _ h => SafetyState.noConfusion h) w h).1
  have hstopped := fun context => (applySafeStop_links hfault
    ((w.moved SafetyStateMachine.markFault).service.safety.currentOutput t) context
    (.inl (.inr rfl))).1
  unfold failControl
  rw [ensures_bind, ensures_moveSafety, ensures_bind, ensures_getService, ensures_bind]
  refine ensures_call (fun _ _ => ?_) fun _ _ => hstopped _
  rw [ensures_bind]
  refine (clearSessionProfile_links (hstopped _).loose).mono ?_ fun _ _ h => h.elim
  exact fun _ w' h => ⟨rfl, h.1⟩

/-- A latched stop ends the session, whatever has been remembered. -/
theorem latchStop_links (h : Linked config last last w) (result : ReceiveResult)
    {remembered : DriverCommand}
    (hlatched : remembered.estop = true ∨ w.service.safety.state.Latched) :
    Ensures (latchStop dynamicLibrary result remembered t) w
      (fun result' w' => Linked config last
        (lastAccepted last (.receiveCommand command t) (.command result')) w')
      fun _ w' => Linked config last last w' := by
  have hstate : (w.service.safety.onValidCommand remembered t).state.Latched :=
    SafetyStateMachine.onValidCommand_latched hlatched t
  have hloose : Loose config last (w.moved (·.onValidCommand remembered t)) :=
    ⟨h.carried, h.lawful, h.remembers.adapter, h.remembers.service⟩
  unfold latchStop
  rw [ensures_bind, ensures_moveSafety, ensures_bind, ensures_getService]
  extract_lets latched done stopAdapter
  have hlatched : latched := hstate
  rw [if_pos (.inr hlatched), if_pos hlatched, ensures_bind]
  refine (clearSessionProfile_links hloose).mono ?_ fun _ _ h => h.elim
  rintro _ w₁ ⟨h₁, hrests, -⟩
  show Ensures (Service.call dynamicLibrary _ >>= _) _ _ _
  rw [ensures_bind]
  have hstopped := fun context => applySafeStop_links h₁
    ((w.moved (·.onValidCommand remembered t)).service.safety.currentOutput t) context
    (.inr (.inl hrests))
  exact ensures_call (fun _ _ => (hstopped _).1.of_rests ((hstopped _).2 hrests))
    fun _ _ => (hstopped _).1

/-- The limits of a bridge that holds the profile. -/
theorem Holds.parkedLimits {profile : SessionControlProfile ℚ} {c : Chassis} {b : BridgeRuntime}
    (h : Holds profile c) (hb : b ∈ c.bridge) : Bridge.parkedLimits b =
      (profile.maxBrakePressureBar, profile.maxSteeringAngleDeg / 30) := by
  obtain ⟨revision, b', hb', hsettings, -⟩ := h
  obtain rfl : b = b' := Option.some.inj (hb.symm.trans hb')
  rw [Bridge.parkedLimits, hsettings]
  rfl

/-- What the safety machine remembers of a command under a profile. -/
theorem safetyCommand_ok {s : VehicleControlService} {profile : SessionControlProfile ℚ}
    {c remembered : DriverCommand} (h : safetyCommand s c = .ok remembered)
    (hprofile : s.activeSessionProfile = some profile) (hordinary : c.estop = false) :
    (0 ≤ c.brake ∧ c.brake ≤ 1) ∧ 0 ≤ remembered.brake ∧
      remembered.brake * s.maxBrakePressureBar = c.brake * profile.maxBrakePressureBar ∧
      remembered.steering = c.steering := by
  unfold safetyCommand at h
  rw [hprofile] at h
  dsimp only at h
  rw [if_neg (by rw [hordinary]; exact Bool.false_ne_true)] at h
  obtain ⟨brake, hbrake, h⟩ := bind_ok h
  obtain rfl := Except.ok.inj h
  obtain ⟨hrange, hnonneg, hpressure⟩ := vehicleNormalizedBrakeRequest_pressure hbrake
  exact ⟨hrange, hnonneg, hpressure, rfl⟩

/-- The world behind an applied command, before the service takes note of it. -/
theorem applyControl_links {profile : SessionControlProfile ℚ} {c : DriverCommand}
    (h : Linked config last last w) (hprofile : w.service.activeSessionProfile = some profile) :
    ((dynamicLibrary.answer (.applyControl c) w.adapter).1 = .ok () →
      Carried (some c.brake) (w.after dynamicLibrary (.applyControl c)).adapter) ∧
    Linked config last none (w.after dynamicLibrary (.applyControl c)) ∧
    ∀ failure, (dynamicLibrary.answer (.applyControl c) w.adapter).1 = .error failure →
      (∀ code result, failure ≠ .controlRejected code result) →
        Linked config last last (w.after dynamicLibrary (.applyControl c)) := by
  have hadvance : Quiet last w.adapter w.adapter.advance := quiet_advance
  have hcarried := hadvance.carried h.carried
  obtain ⟨haccepts, hforgets, hfails⟩ := applyControl_asks w.adapter.interlude.now c hcarried
    (hadvance.limits.holds (h.remembers.holds profile hprofile))
  obtain ⟨htrails, hlawful⟩ := applyControl_trails last w.adapter.advance w.adapter.interlude.now c
  have hall := hadvance.toTrails.trans htrails
  have hlawful' := hlawful hcarried (hadvance.lawful h.carried h.lawful)
  have hremembers : ∀ {last'}, (∀ b ∈ (w.after dynamicLibrary (.applyControl c)).adapter.bridge,
      Engaged b → ∀ brake ∈ last', Recalls brake w.service (Bridge.parkedLimits b)) →
      Remembers config last' (w.after dynamicLibrary (.applyControl c)) := fun hrecalls =>
    ⟨hall.config.trans h.remembers.adapter, h.remembers.service,
      fun p hp => hall.limits.holds (h.remembers.holds p hp),
      fun hnone => hall.rests (h.remembers.rests hnone),
      fun hstate => hall.rests (h.remembers.stopped hstate), hrecalls⟩
  refine ⟨haccepts, ⟨hforgets, hlawful', hremembers fun _ _ _ _ hnone =>
    absurd hnone (Option.not_mem_none _)⟩, fun failure hfailure hother => ?_⟩
  have hsame : (w.after dynamicLibrary (.applyControl c)).adapter = w.adapter.advance :=
    hfails failure hfailure hother
  refine ⟨hsame ▸ hcarried, hlawful', hremembers fun b hb hengaged brake hbrake => ?_⟩
  obtain ⟨b₀, hb₀, hbefore, hlimits⟩ := hall.engaged b hb hengaged
  rw [hlimits]
  exact h.remembers.recalls b₀ hb₀ hbefore brake hbrake

theorem applyCommand_links {profile : SessionControlProfile ℚ} {c remembered : DriverCommand}
    {result : ReceiveResult} (h : Linked config last last w)
    (hprofile : w.service.activeSessionProfile = some profile) (hordinary : c.estop = false)
    (hsteering : |c.steering| ≤ profile.maxSteeringAngleDeg / 30)
    (hfree : ¬w.service.safety.state.Latched) (hremembered : safetyCommand w.service c = .ok remembered)
    (haccepted : result.accepted = true) (hbrake : command.brake = some c.brake) :
    Ensures (applyCommand dynamicLibrary result c remembered t) w
      (fun result' w' => Linked config last
        (lastAccepted last (.receiveCommand command t) (.command result')) w')
      fun _ w' => Linked config last last w' := by
  obtain ⟨haccepts, hforgets, hfails⟩ := applyControl_links (c := c) h hprofile
  unfold applyCommand
  rw [ensures_bind, ensures_tryCatch, ensures_bind]
  refine ensures_call (fun _ hok => ?_) fun failure hfailure => ?_
  · rw [ensures_pure]
    dsimp only
    rw [ensures_bind, ensures_moveSafety, ensures_bind, ensures_modifyService, ensures_pure,
      lastAccepted_of_accepted haccepted, hbrake]
    obtain ⟨hrange, hnonneg, hpressure, hsame⟩ := safetyCommand_ok hremembered hprofile hordinary
    have hestop : remembered.estop = false :=
      (safetyCommand_estop hremembered).trans hordinary
    have hmoved : w.service.safety.onValidCommand remembered t =
        { w.service.safety with
          lastValidCommand := some remembered
          lastValidReceiveMs := some t
          timeoutEnteredMs := none
          state := .controlActive } := by
      unfold SafetyStateMachine.onValidCommand
      rw [if_neg (by rw [hestop]; exact Bool.false_ne_true),
        if_neg (show ¬(_ = SafetyState.estop ∨ _ = SafetyState.fault) from hfree)]
    refine ⟨haccepts hok, hforgets.lawful, hforgets.remembers.adapter, hforgets.remembers.service,
      hforgets.remembers.holds, hforgets.remembers.rests, fun hstate => ?_,
      fun b hb hengaged brake hmem => ?_⟩
    · change (w.service.safety.onValidCommand remembered t).state = .estop at hstate
      rw [hmoved] at hstate
      cases hstate
    · obtain rfl := Option.some.inj hmem
      rw [(hforgets.remembers.holds profile hprofile).parkedLimits hb]
      refine ⟨hrange, ⟨remembered, ?_, hnonneg, hpressure, ?_⟩, fun c' hc' => ?_⟩
      · change (w.service.safety.onValidCommand remembered t).lastValidCommand = _
        rw [hmoved]
      · rw [hsame]
        exact hsteering
      · obtain rfl := Option.some.inj hc'
        rfl
  · cases failure with
    | controlRejected issueCode code =>
      rw [ensures_pure, ensures_pure]
      exact hforgets
    | _ => exact hfails _ hfailure fun _ _ => (nomatch ·)

/-- The limited command is in the session that the service still has. -/
theorem commitCommand_links {c : DriverCommand} {result : ReceiveResult}
    (h : Linked config last last w) (haccepted : result.accepted = true)
    (hbrake : command.brake = some c.brake)
    (hsession : c.estop = false → ∃ profile, w.service.activeSessionProfile = some profile ∧
      |c.steering| ≤ profile.maxSteeringAngleDeg / 30) :
    Ensures (commitCommand dynamicLibrary result c t) w
      (fun result' w' => Linked config last
        (lastAccepted last (.receiveCommand command t) (.command result')) w')
      fun _ w' => Linked config last last w' := by
  unfold commitCommand
  rw [ensures_bind, ensures_getService]
  cases hremembered : safetyCommand w.service c with
  | error message => exact h
  | ok remembered =>
    refine Ensures.ite (fun happly => ?_) fun hlatch => ?_
    · obtain ⟨hordinary, hnotEstop, hnotFault⟩ := happly
      obtain ⟨profile, hprofile, hsteering⟩ := hsession hordinary
      refine applyCommand_links h hprofile hordinary hsteering ?_ hremembered haccepted hbrake
      rintro (h | h)
      · exact hnotEstop h
      · exact hnotFault h
    · refine latchStop_links h result ?_
      by_contra hnone
      push Not at hnone
      refine hlatch ⟨?_, fun h => hnone.2 (.inl h), fun h => hnone.2 (.inr h)⟩
      rw [← safetyCommand_estop hremembered]
      exact Bool.eq_false_iff.mpr hnone.1

/-- A program that changes the session only as its moves say, looked at from a linked world. -/
theorem Keeps.of_within {α : Type} {p : Operation Chassis α} {Q : α → World Chassis → Prop}
    {R : Failure → World Chassis → Prop} (hkeeps : Within (Keeps config last) p)
    (hp : Ensures p w Q R) (h : Linked config last last w) :
    Ensures p w (fun a w' => Linked config last last w' ∧ Q a w')
      fun e w' => Linked config last last w' ∧ R e w' :=
  ((hkeeps w).and hp).mono (fun _ _ hboth => ⟨(hboth.1 h).1, hboth.2⟩)
    fun _ _ hboth => ⟨(hboth.1 h).1, hboth.2⟩

theorem observeAdapter_links {c : DriverCommand} {result : ReceiveResult}
    (h : Linked config last last w) (haccepted : result.accepted = true)
    (hbrake : command.brake = some c.brake)
    (hsession : c.estop = false → ∃ profile, w.service.activeSessionProfile = some profile ∧
      |c.steering| ≤ profile.maxSteeringAngleDeg / 30) :
    Ensures (observeAdapter dynamicLibrary result c t) w
      (fun result' w' => Linked config last
        (lastAccepted last (.receiveCommand command t) (.command result')) w')
      fun _ w' => Linked config last last w' := by
  have hrefresh : ∀ w₁ : World Chassis, Linked config last last w₁ →
      Ensures (refreshAdapterSafeStopState dynamicLibrary) w₁ (fun observed w' =>
        Linked config last last w' ∧ (w'.service.adapterSafeStopActive = false → observed = true →
          w'.service.activeSessionProfile = w₁.service.activeSessionProfile)) fun _ _ => False := by
    intro w₁ h₁
    refine (Keeps.of_within keeps_refreshAdapterSafeStopState
      (refreshAdapterSafeStopState_moves w₁.service (.tick 0)) h₁).mono ?_ fun _ _ h => h.2
    rintro observed w₂ ⟨h₂, -, hcases⟩
    refine ⟨h₂, fun hinactive hobserved => ?_⟩
    rcases hcases with ⟨hunseen, -⟩ | ⟨-, hrevoked | ⟨hservice, -⟩⟩
    · exact absurd (hunseen.symm.trans hobserved) Bool.noConfusion
    · rw [hrevoked] at hinactive
      exact absurd hinactive Bool.noConfusion
    · rw [hservice]
  unfold observeAdapter
  cases hestop : c.estop with
  | true =>
    rw [if_pos rfl, ensures_bind, ensures_pure, ensures_bind]
    refine (hrefresh w h).mono ?_ fun _ _ h => h.elim
    rintro observed w₁ ⟨h₁, -⟩
    rw [ensures_bind, ensures_getService, if_pos rfl]
    exact commitCommand_links h₁ haccepted hbrake fun hordinary =>
      absurd (hestop.symm.trans hordinary) Bool.noConfusion
  | false =>
    rw [if_neg Bool.false_ne_true, ensures_bind]
    refine (Keeps.of_within keeps_pollFeedbackFails
      (pollFeedbackFails_moves w.service (.tick 0)) h).mono ?_ fun _ _ h => h.2.elim
    rintro failed w₁ ⟨h₁, -, hsame, -⟩
    rw [ensures_bind]
    refine (hrefresh w₁ h₁).mono ?_ fun _ _ h => h.elim
    rintro observed w₂ ⟨h₂, hkept⟩
    rw [ensures_bind, ensures_getService, if_neg Bool.false_ne_true]
    refine Ensures.ite (fun _ => h₂.rejects rfl) fun hfree => Ensures.ite (fun _ => ?_)
      fun hseen => Ensures.ite (fun _ => ?_) fun _ => ?_
    · exact (failControl_links h₂ t _ _ _).mono (fun _ _ h => h.2.rejects h.1) fun _ _ h => h
    · exact (failControl_links h₂ t _ _ _).mono (fun _ _ h => h.2.rejects h.1) fun _ _ h => h
    have hprofile : w₂.service.activeSessionProfile = w.service.activeSessionProfile :=
      (hkept (Bool.eq_false_of_not_eq_true hfree) (Bool.eq_true_of_not_eq_false hseen)).trans
        (congrArg _ hsame)
    have hcommits : ∀ w₃ : World Chassis, Linked config last last w₃ → w₃.service = w₂.service →
        Ensures (commitCommand dynamicLibrary result c t) w₃
          (fun result' w' => Linked config last
            (lastAccepted last (.receiveCommand command t) (.command result')) w')
          fun _ w' => Linked config last last w' := by
      intro w₃ h₃ hservice
      refine commitCommand_links h₃ haccepted hbrake fun hordinary => ?_
      rw [hservice, hprofile]
      exact hsession hordinary
    extract_lets proceed
    refine Ensures.ite (fun _ => ?_) fun _ => hcommits w₂ h₂ rfl
    have hasked := h₂.after .feedbackReady (quiet_answer trivial)
    rw [ensures_bind]
    refine ensures_call (fun ready _ => ?_) fun _ _ => hasked
    cases ready with
    | true => exact hcommits _ hasked rfl
    | false =>
      have hstopped := (applySafeStop_links hasked neutralStop
        ⟨.softwareFault, .canFeedbackMissing⟩ (.inl (.inr rfl))).1
      show Ensures (Service.call dynamicLibrary _ >>= _) _ _ _
      rw [ensures_bind]
      refine ensures_call (fun _ _ => ?_) fun _ _ => hstopped
      rw [ensures_bind]
      refine (clearSessionProfile_links hstopped.loose).mono ?_ fun _ _ h => h.elim
      exact fun _ w' h => h.1.rejects rfl

/-- The steering of a limited command is in the session's. -/
theorem limitCommand_steering {profile : SessionControlProfile ℚ} (h : Linked config last last w)
    (hprofile : w.service.activeSessionProfile = some profile) (checked : DriverCommand) :
    |(w.service.limitCommand checked).1.steering| ≤ profile.maxSteeringAngleDeg / 30 := by
  obtain ⟨revision, b, -, -, -, -, hrange⟩ := h.remembers.holds profile hprofile
  have hmaxSpeed : w.service.maxSpeedKph = config.fieldSafety.maxSpeedKph :=
    congrArg VehicleLimits.maxSpeedKph h.remembers.service
  have hmaxSteering : w.service.maxSteeringAngleDeg = config.fieldSafety.maxSteeringAngleDeg :=
    congrArg VehicleLimits.maxSteeringAngleDeg h.remembers.service
  refine (limitCommand_clamped hprofile hrange.targetSpeed.1 hrange.steering.1 ?_ ?_ checked).steering
  · rw [hmaxSpeed]
    exact config.valid.maxSpeed.1
  · rw [hmaxSteering]
    exact config.valid.steering.1

theorem handleAccepted_links {checked : DriverCommand} {result : ReceiveResult}
    (h : Linked config last last w) (haccepted : result.accepted = true)
    (hbrake : command.brake = some checked.brake) :
    Ensures (handleAccepted dynamicLibrary result checked t) w
      (fun result' w' => Linked config last
        (lastAccepted last (.receiveCommand command t) (.command result')) w')
      fun _ w' => Linked config last last w' := by
  unfold handleAccepted
  rw [ensures_bind, ensures_getService]
  refine Ensures.ite (fun _ => ?_) fun hprofile =>
    Ensures.ite (fun _ => h.rejects rfl) fun _ => ?_
  · extract_lets reject
    have hstopped := (applySafeStop_links h neutralStop
      ⟨.softwareFault, .sessionProfileRequired⟩ (.inl (.inr rfl))).1
    refine Ensures.ite (fun _ => ?_) fun _ => h.rejects rfl
    rw [ensures_bind]
    exact ensures_call (fun _ _ => hstopped.rejects rfl) fun _ _ => hstopped
  · refine observeAdapter_links h haccepted hbrake fun hordinary => ?_
    obtain ⟨profile, hsome⟩ := Option.ne_none_iff_exists'.mp fun hnone =>
      hprofile ⟨hordinary, hnone⟩
    exact ⟨profile, hsome, limitCommand_steering h hsome checked⟩

/-- What the receiver has made of the command. -/
def Received (command : ControlCommand) (result : ReceiveResult) : Prop :=
  (result.command = none → result.accepted = false) ∧
  ∀ checked, result.command = some checked →
    result.accepted = true ∧ command.brake = some checked.brake

theorem received_of_accept {r r' : ControlReceiver} {result : ReceiveResult}
    (h : r.accept command t = .ok (result, r')) : Received command result := by
  rcases ControlReceiver.accept_carries h with ⟨hrejected, hnone⟩ | ⟨checked, hvalid, hcarries⟩
  · exact ⟨fun _ => hrejected, fun _ hsome => absurd (hnone.symm.trans hsome) (nomatch ·)⟩
  · rcases hcarries with ⟨hrejected, hnone⟩ | ⟨haccepted, hcommand⟩
    · exact ⟨fun _ => hrejected, fun _ hsome => absurd (hnone.symm.trans hsome) (nomatch ·)⟩
    · refine ⟨fun hnone => absurd (hcommand.symm.trans hnone) (nomatch ·), fun c hsome => ?_⟩
      obtain rfl := Option.some.inj (hcommand.symm.trans hsome)
      exact ⟨haccepted, (ControlCommand.validate_ok hvalid).2.2.2.1⟩

theorem acceptCommand_links (h : Linked config last last w) :
    Ensures (acceptCommand command t) w
      (fun result w' => Linked config last last w' ∧ Received command result)
      fun _ w' => Linked config last last w' := by
  refine acceptCommand_ensures.mono ?_ fun _ w' hfails => hfails.1 ▸ h
  rintro result w' ⟨receiver, haccept, rfl⟩
  exact ⟨h.of_view rfl rfl, received_of_accept haccept⟩

theorem admitCommand_links (h : Linked config last last w) :
    Ensures (admitCommand dynamicLibrary command t) w
      (fun result w' => Linked config last last w' ∧ Received command result)
      fun _ w' => Linked config last last w' := by
  unfold admitCommand
  refine Ensures.ite (fun hestop => ?_) fun hordinary => ?_
  · rw [ensures_bind]
    refine (acceptCommand_links h).mono ?_ fun _ _ h => h
    rintro result w₁ ⟨h₁, hreceived⟩
    cases hcommand : result.command with
    | none =>
      rw [ensures_bind]
      exact (keeps_evaluateControlWatchdog t w₁).mono (fun _ w' hkeeps => ⟨(hkeeps h₁).1, hreceived⟩)
        fun _ w' hkeeps => (hkeeps h₁).1
    | some effective =>
      have hloose : Loose config last (w₁.moved (·.onValidCommand effective t)) :=
        ⟨h₁.carried, h₁.lawful, h₁.remembers.adapter, h₁.remembers.service⟩
      rw [ensures_bind, ensures_moveSafety, ensures_bind]
      refine (clearSessionProfile_links hloose).mono ?_ fun _ _ h => h.elim
      exact fun _ w' hcleared => ⟨hcleared.1, hreceived⟩
  · rw [ensures_bind]
    refine (keeps_evaluateControlWatchdog t w).mono (fun _ w₁ hkeeps => ?_)
      fun _ w' hkeeps => (hkeeps h).1
    exact acceptCommand_links (hkeeps h).1

theorem receiveCommand_links (h : Linked config last last w) :
    Ensures (receiveCommand dynamicLibrary command t) w
      (fun result w' => Linked config last
        (lastAccepted last (.receiveCommand command t) (.command result)) w')
      fun _ w' => Linked config last last w' := by
  unfold receiveCommand
  rw [ensures_bind, ensures_getService]
  refine Ensures.ite (fun _ => h) fun _ => ?_
  rw [ensures_bind]
  refine (admitCommand_links h).mono ?_ fun _ _ h => h
  rintro result w₁ ⟨h₁, hnone, hsome⟩
  cases hcommand : result.command with
  | none => exact h₁.rejects (hnone hcommand)
  | some checked =>
    obtain ⟨haccepted, hbrake⟩ := hsome checked hcommand
    exact handleAccepted_links h₁ haccepted hbrake

end

end MineTeleop.Stack
