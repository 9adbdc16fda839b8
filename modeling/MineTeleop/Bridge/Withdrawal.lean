import MineTeleop.Bridge.Configuration

/-!
# What takes traction away

The bridge holds three memories about traction: the stored intent, the magnitude that the rise
limit has reached, and the latch of a rejected gear. Between the call that stores an intent and
the regulation of a tick they are only left alone or withdrawn.

Proved here:

* `eases_settleLatches`, `eases_commandChassis`, `eases_settleTick`: so do the stages of a tick
  around the regulation;
* `eases_respond`: and every event that neither stores an intent nor starts or parks the vehicle;
* `slackens_respond`: no event but a tick raises the magnitude.
-/

namespace MineTeleop.Bridge

open Runs
open Vcu (CanFrame)

/-- The memories about traction. -/
structure TractionView where
  lastControlTick : Option ℤ
  lastTractionTorqueMagnitudeNm : ℚ
  lastTractionGear : ℤ
  gearRejectionLatched : Bool
  gearRejectionRetainedGear : ℤ
  latestIntentValid : Bool
  latestIntent : ControlIntent

def tractionView (b : BridgeRuntime) : TractionView :=
  { lastControlTick := b.lastControlTick
    lastTractionTorqueMagnitudeNm := b.lastTractionTorqueMagnitudeNm
    lastTractionGear := b.lastTractionGear
    gearRejectionLatched := b.gearRejectionLatched
    gearRejectionRetainedGear := b.gearRejectionRetainedGear
    latestIntentValid := b.latestIntentValid
    latestIntent := b.latestIntent }

/-- The magnitude is left alone, or dropped. -/
def Slackens (b b' : BridgeRuntime) : Prop :=
  b'.lastControlTick = b.lastControlTick ∧
  (b'.lastTractionTorqueMagnitudeNm = 0 ∨
    b'.lastTractionTorqueMagnitudeNm = b.lastTractionTorqueMagnitudeNm ∧
      b'.lastTractionGear = b.lastTractionGear)

/-- The stored intent is left alone, or loses its demand. -/
def IntentEases (b b' : BridgeRuntime) : Prop :=
  b'.latestIntentValid = b.latestIntentValid ∧ b'.latestIntent = b.latestIntent ∨
  b'.latestIntentValid = true ∧ b'.latestIntent.normalizedLongitudinal = 0 ∧
    (b.latestIntentValid = true → b'.latestIntent.gear = b.latestIntent.gear ∧
      (b'.latestIntent.targetSpeedMps = b.latestIntent.targetSpeedMps ∨
        b'.latestIntent.targetSpeedMps = 0))

/-- From `b` to `b'` traction is only taken away, and the rejected gear stays rejected. -/
structure Eases (b b' : BridgeRuntime) : Prop where
  slackens : Slackens b b'
  latched : b'.gearRejectionLatched = b.gearRejectionLatched
  retained : b'.gearRejectionRetainedGear = b.gearRejectionRetainedGear
  intent : IntentEases b b'

theorem Slackens.trans {b b' b'' : BridgeRuntime} (h : Slackens b b') (h' : Slackens b' b'') :
    Slackens b b'' := by
  refine ⟨h'.1.trans h.1, ?_⟩
  rcases h'.2 with hzero | ⟨hmagnitude, hgear⟩
  · exact .inl hzero
  · rw [hmagnitude, hgear]
    exact h.2

theorem IntentEases.trans {b b' b'' : BridgeRuntime} (h : IntentEases b b')
    (h' : IntentEases b' b'') : IntentEases b b'' := by
  rcases h' with ⟨hvalid', hintent'⟩ | ⟨hvalid', hzero', hkept'⟩
  · rw [IntentEases, hvalid', hintent']
    exact h
  · refine .inr ⟨hvalid', hzero', fun hvalid => ?_⟩
    rcases h with ⟨hsame, hintent⟩ | ⟨hset, -, hkept⟩
    · rw [← hintent]
      exact hkept' (hsame.trans hvalid)
    · obtain ⟨hgear, htarget⟩ := hkept hvalid
      obtain ⟨hgear', htarget'⟩ := hkept' hset
      refine ⟨hgear'.trans hgear, ?_⟩
      rcases htarget' with htarget' | htarget'
      · rw [htarget']
        exact htarget
      · exact .inr htarget'

namespace Eases
variable {b b' b'' : BridgeRuntime}

theorem same (h : tractionView b' = tractionView b) : Eases b b' where
  slackens := ⟨congrArg TractionView.lastControlTick h,
    .inr ⟨congrArg TractionView.lastTractionTorqueMagnitudeNm h,
      congrArg TractionView.lastTractionGear h⟩⟩
  latched := congrArg TractionView.gearRejectionLatched h
  retained := congrArg TractionView.gearRejectionRetainedGear h
  intent := .inl ⟨congrArg TractionView.latestIntentValid h, congrArg TractionView.latestIntent h⟩

theorem refl (b : BridgeRuntime) : Eases b b := .same rfl

theorem trans (h : Eases b b') (h' : Eases b' b'') : Eases b b'' where
  slackens := h.slackens.trans h'.slackens
  latched := h'.latched.trans h.latched
  retained := h'.retained.trans h.retained
  intent := h.intent.trans h'.intent

theorem ite {p : Prop} [Decidable p] (h : Eases b b') (h' : Eases b b'') :
    Eases b (if p then b' else b'') := by
  split
  · exact h
  · exact h'

/-- Only the magnitude is dropped. -/
theorem dropped (h : tractionView b' = tractionView (resetDirectTraction b)) : Eases b b' where
  slackens := ⟨congrArg TractionView.lastControlTick h,
    .inl (congrArg TractionView.lastTractionTorqueMagnitudeNm h)⟩
  latched := congrArg TractionView.gearRejectionLatched h
  retained := congrArg TractionView.gearRejectionRetainedGear h
  intent := .inl ⟨congrArg TractionView.latestIntentValid h, congrArg TractionView.latestIntent h⟩

end Eases

theorem intentEases_withdraw (b : BridgeRuntime) : IntentEases b (withdrawLatestTraction b) := by
  refine .inr ⟨rfl, rfl, fun hvalid => ?_⟩
  unfold withdrawLatestTraction
  simp only [hvalid, if_true]
  exact ⟨rfl, .inl rfl⟩

theorem eases_withdraw {b b' : BridgeRuntime} (h : tractionView b' = tractionView b) :
    Eases b (withdrawLatestTraction b') := by
  have hsame : Eases b b' := .same h
  refine hsame.trans ⟨⟨rfl, .inl rfl⟩, rfl, rfl, intentEases_withdraw b'⟩

/-! ## The stages of a tick around the regulation -/

section
variable (b : BridgeRuntime) (v : IntentView) (now : ℤ)

theorem eases_checkFeedbackTimeout : Eases b (checkFeedbackTimeout b now) := by
  unfold checkFeedbackTimeout
  exact .ite (eases_withdraw rfl) (.refl b)

theorem eases_checkControlWatchdog : Eases b (checkControlWatchdog b now) := by
  unfold checkControlWatchdog
  exact .ite (eases_withdraw rfl) (.refl b)

theorem eases_reportPhysicalEmergency : Eases b (reportPhysicalEmergency b v) := by
  unfold reportPhysicalEmergency
  exact .ite (.ite (.same rfl) (eases_withdraw rfl)) (.refl b)

theorem eases_settleLatches : Eases b (settleLatches b v now) := by
  have hmotion : ∀ b, Eases b (checkArmingMotion b v) := fun b => .ite (.same rfl) (.refl b)
  have hover : ∀ b, Eases b (checkHardOverspeed b v) := fun b => .ite (.same rfl) (.refl b)
  have hclear : ∀ b, Eases b (clearSoftStop b v) := fun b => .ite (.same rfl) (.refl b)
  exact (eases_reportPhysicalEmergency b v).trans
    ((hmotion _).trans ((hover _).trans ((hclear _).trans (.same rfl))))

theorem eases_submitCommand (command : Vcu.Command) : Eases b (submitCommand b command) := by
  unfold submitCommand
  refine .ite ?_ (.refl b)
  exact .ite (.same rfl) (.dropped rfl)

theorem eases_holdChassisControlFault : Eases b (holdChassisControlFault b) := .dropped rfl

theorem eases_commandChassis (chassis : ChassisOutcome) : Eases b (commandChassis b v chassis) := by
  have hfault : Eases b (latchChassisControlFault b) := eases_withdraw rfl
  cases chassis with
  | rejected => exact hfault
  | raised => exact hfault
  | controls wheels =>
    simp only [commandChassis]
    split
    · exact hfault
    · exact (eases_submitCommand b _).trans (.same rfl)

theorem eases_reportRevocation : Eases b (reportRevocation b) := by
  unfold reportRevocation
  refine .ite ?_ (.refl b)
  let reported : BridgeRuntime :=
    { b with
      handshakeRevokedReported := true
      softwareEstop := true
      clearSoftStopRequested := false }
  exact (@eases_withdraw b reported rfl).trans (.same rfl)

theorem eases_reportFault (stateBefore : Vcu.State) : Eases b (reportFault b stateBefore) := by
  unfold reportFault
  exact .ite (eases_withdraw rfl) (.refl b)

theorem eases_settleTick (stateBefore : Vcu.State) : Eases b (settleTick b now stateBefore) := by
  have hsession : ∀ b, Eases b (latchSessionReady b now) := fun b =>
    .ite (.same rfl) (.ite (.same rfl) (.refl b))
  have hdeadline : ∀ b, Eases b (armFeedbackDeadline b now) := fun b =>
    .ite (.same rfl) (.same rfl)
  exact (eases_reportRevocation b).trans ((eases_reportFault _ stateBefore).trans
    ((hsession _).trans ((hdeadline _).trans (.same rfl))))

theorem eases_guarded : Eases { b with lastControlTick := some now } (guarded b now) :=
  (eases_checkFeedbackTimeout _ now).trans (eases_checkControlWatchdog _ now)

/-! ## The other events -/

theorem eases_failControlApply : Eases b (failControlApply b) := by
  unfold failControlApply
  extract_lets stopped braked
  exact (@eases_withdraw b braked rfl).trans (.same rfl)

theorem eases_emergencyStop : Eases b (emergencyStop b).2 := by
  unfold emergencyStop
  split
  · exact .refl b
  · extract_lets consumed stopped withdrawn
    have hwithdrawn : Eases b withdrawn := eases_withdraw rfl
    exact hwithdrawn.trans (.same rfl)

/-- The profile is installed over a withdrawn intent, whose target is dropped as well. -/
theorem eases_withdrawn {withdrawn : BridgeRuntime}
    (hclock : withdrawn.lastControlTick = b.lastControlTick)
    (hlatched : withdrawn.gearRejectionLatched = b.gearRejectionLatched)
    (hretained : withdrawn.gearRejectionRetainedGear = b.gearRejectionRetainedGear)
    (hmagnitude : withdrawn.lastTractionTorqueMagnitudeNm = 0)
    (hvalid : withdrawn.latestIntentValid = true)
    (hintent : withdrawn.latestIntent =
      { (withdrawLatestTraction b).latestIntent with targetSpeedMps := 0 }) :
    Eases b withdrawn := by
  refine ⟨⟨hclock, .inl hmagnitude⟩, hlatched, hretained, .inr ⟨hvalid, ?_, fun h => ?_⟩⟩
  · rw [hintent]
    rfl
  · rw [hintent]
    refine ⟨?_, .inr rfl⟩
    unfold withdrawLatestTraction
    simp only [h, if_true]
    rfl

theorem eases_configureRuntimeControl (config : RuntimeControlConfig) (version : ℕ)
    (riseRate : Double) (parking : ℤ) :
    Eases b (configureRuntimeControl b now config version riseRate parking).2.2 := by
  have hinstalled : ∀ recovered, tractionView recovered = tractionView b →
      Eases b (installProfile recovered now config riseRate.value parking) := by
    intro recovered hsame
    have hrecovered : Eases b recovered := .same hsame
    exact hrecovered.trans (eases_withdrawn recovered rfl rfl rfl rfl rfl rfl)
  unfold configureRuntimeControl
  split
  · exact .refl b
  split
  · exact .refl b
  split
  · exact .refl b
  split
  · exact .refl b
  refine hinstalled _ ?_
  split <;> rfl

theorem eases_configure (entry : ProfileEntry) (config : RuntimeControlConfig) :
    Eases b (configure b now entry config).2.2 := by
  cases entry with
  | v1 => exact eases_configureRuntimeControl b now config _ _ _
  | v2 => exact eases_configureRuntimeControl b now config _ _ _
  | v3 =>
    simp only [configure, configureRuntimeControlV3]
    split
    · exact .refl b
    · exact eases_configureRuntimeControl b now config _ _ _

theorem eases_ingest (frame : CanFrame) : Eases b (ingest b now frame) := by
  unfold ingest
  split
  split
  · unfold recordFrame
    extract_lets recorded
    have hrecorded : Eases b recorded := .ite (.same rfl) (.same rfl)
    exact hrecorded.trans (.same rfl)
  · exact .refl b

theorem eases_whileRunning {next : BridgeRuntime} (h : Eases b next) :
    Eases b (whileRunning b next) :=
  .ite h (.refl b)

theorem eases_sendResult (failed : Bool) : Eases b (sendResult b failed) := by
  unfold sendResult
  extract_lets failures counted
  exact .ite (.same rfl) (.same rfl)

/-- The events that may store an intent, park the vehicle or start it, and the tick. -/
def Handles : Event → Prop
  | .applyState _ _ | .requestPark | .requestParallelHandshake _ | .tick _ _ => True
  | _ => False

theorem eases_respond (e : Event) (he : ¬Handles e) : Eases b (respond b e).2 := by
  cases e with
  | applyState | requestPark | requestParallelHandshake | tick => exact absurd trivial he
  | configure now entry config => exact eases_configure b now entry config
  | clearRuntimeControl => exact eases_withdrawn b rfl rfl rfl rfl rfl rfl
  | setStopContext context =>
    simp only [respond, setStopContext]
    split
    · split <;> exact .same rfl
    · exact .refl b
  | emergencyStop => exact eases_emergencyStop b
  | failControlApply => exact eases_failControlApply b
  | ingest now frame => exact eases_ingest b now frame
  | receiveFailure result =>
    have hfails : Eases b (receiveFailure b result) := .same rfl
    exact eases_whileRunning b hfails
  | sendResult failed => exact eases_whileRunning b (eases_sendResult b failed)
  | ioException =>
    have hends : Eases b (ioException b) := .same rfl
    exact eases_whileRunning b hends
  | beginClose =>
    simp only [respond, beginClose]
    exact .ite (.refl b) (.same rfl)
  | finishClose =>
    simp only [respond, finishClose]
    exact .ite (.same rfl) (.refl b)

/-! ## The calls of the operator -/

/-- The call withdraws the traction, takes the intent or holds the vehicle in its gear. -/
theorem slackens_storeIntent (a : IntentArguments) : Slackens b (storeIntent b now a).2 := by
  unfold storeIntent
  split_ifs
  · exact (Eases.refl b).slackens
  · exact (eases_withdraw rfl).slackens
  · exact (eases_withdraw rfl).slackens
  · exact (eases_withdraw rfl).slackens
  · exact (eases_withdraw rfl).slackens
  · exact ⟨rfl, .inl rfl⟩
  · exact ⟨rfl, .inl rfl⟩
  · exact ⟨rfl, .inr ⟨rfl, rfl⟩⟩

theorem slackens_requestPark : Slackens b (requestPark b).2 := by
  unfold requestPark
  split
  · exact (Eases.refl b).slackens
  · exact ⟨rfl, .inl rfl⟩

theorem slackens_requestParallelHandshake : Slackens b (requestParallelHandshake b now).2 := by
  unfold requestParallelHandshake
  split_ifs
  · exact (Eases.refl b).slackens
  · exact (Eases.refl b).slackens
  · exact ⟨rfl, .inl rfl⟩
  · exact ⟨rfl, .inl rfl⟩

theorem slackens_respond (e : Event) (he : ∀ now chassis, e ≠ .tick now chassis) :
    Slackens b (respond b e).2 := by
  cases e with
  | tick now chassis => exact absurd rfl (he now chassis)
  | applyState now arguments =>
    simp only [respond, applyState]
    split
    · exact (eases_failControlApply b).slackens
    · split
      · exact slackens_requestPark b
      · exact slackens_storeIntent b now _
  | requestPark => exact slackens_requestPark b
  | requestParallelHandshake now => exact slackens_requestParallelHandshake b now
  | _ => exact (eases_respond b _ id).slackens

end

/-! ## The opened bridge -/

/-- Nothing is stored, reached or rejected when the bridge has just been opened. -/
theorem openBridge_tractionView {env : OpenEnvironment} {torque : ℚ} {timeout : ℤ}
    {speedControl : SpeedControlSettings} {physical : Bool} {maxBrake : ℚ} {b : BridgeRuntime}
    (h : openBridge env torque timeout speedControl physical maxBrake = .ok b) :
    tractionView b = ⟨none, 0, 1, false, 1, false, {}⟩ := by
  unfold openBridge at h
  split at h
  · cases h
  split at h
  · cases h
  cases hseed : seedCommand env.emergencySeed with
  | error code => simp [hseed, bind, Except.bind] at h
  | ok seed =>
    cases hinitial : seedCommand env.initialSeed with
    | error code => simp [hseed, hinitial, bind, Except.bind] at h
    | ok initial =>
      simp only [hseed, hinitial, bind, Except.bind] at h
      split_ifs at h
      obtain rfl := Except.ok.inj h
      rfl

theorem Opened.tractionView {b : BridgeRuntime} (h : Opened b) :
    tractionView b = ⟨none, 0, 1, false, 1, false, {}⟩ := by
  obtain ⟨env, torque, timeout, speedControl, physical, maxBrake, -, hopen⟩ := h.built
  exact openBridge_tractionView hopen

end MineTeleop.Bridge
