import MineTeleop.Bridge.HardLatches
import MineTeleop.Bridge.RiseLimit

/-!
# The driver's brake in the bridge

A brake is a stored intent with a negative demand. Between two intents that the bridge stores, the
demand is only left alone, or withdrawn together with the session, the operator or a stop.

Proved here:

* `quantizeBrakePressureBar_band`, `quantizeBrakePressureBar_mono`: the quantiser rises, and loses
  less than one step;
* `follows_respond`: no event but a stored intent or a handshake gives a demand;
* `applyState_outcome`: what a control state makes of the demand;
* `tick_brakes`: an ordinary tick in Ready emits the pressure of the demand.
-/

namespace MineTeleop.Bridge

open Runs
open Vcu (CanFrame Command CommandBatch Controller shutdownStates)

/-! ## The quantiser -/

theorem brakePressureResolutionBar_pos : 0 < brakePressureResolutionBar := by
  norm_num [brakePressureResolutionBar]

theorem quantize_mono {resolution : ℚ} (hr : 0 < resolution) :
    Monotone fun value => quantize value resolution := by
  intro value value' h
  have hfloor : ⌊value / resolution⌋ ≤ ⌊value' / resolution⌋ :=
    Int.floor_le_floor (div_le_div_of_nonneg_right h hr.le)
  exact mul_le_mul_of_nonneg_right (Int.cast_le.mpr hfloor) hr.le

theorem quantizeBrakePressureBar_mono : Monotone quantizeBrakePressureBar := by
  intro pressure pressure' h
  by_cases hzero : pressure ≤ 0
  · have hnone : quantizeBrakePressureBar pressure = 0 := if_pos hzero
    rw [hnone]
    exact (quantizeBrakePressureBar_bounds pressure').1
  · have hzero' : ¬pressure' ≤ 0 := fun hle => hzero (h.trans hle)
    unfold quantizeBrakePressureBar
    rw [if_neg hzero, if_neg hzero']
    exact quantize_mono brakePressureResolutionBar_pos (min_le_min_right _ h)

/-- An ordinary pressure loses less than one step. -/
theorem quantizeBrakePressureBar_band {pressure : ℚ} (h : 0 ≤ pressure)
    (hmax : pressure ≤ maxOrdinaryBrakePressureBar) :
    quantizeBrakePressureBar pressure ≤ pressure ∧
      pressure - brakePressureResolutionBar < quantizeBrakePressureBar pressure := by
  have hr := brakePressureResolutionBar_pos
  unfold quantizeBrakePressureBar
  split
  · exact ⟨h, by linarith⟩
  · rw [min_eq_left hmax]
    exact ⟨quantize_le pressure hr, sub_lt_quantize pressure hr⟩

/-! ## What the demand depends on -/

/-- The states outside a session: only a handshake leads out of them. -/
def restStates : List Vcu.State := .standby :: shutdownStates

/-- A profile is in force, and a session is open. -/
def Engaged (b : BridgeRuntime) : Prop :=
  b.runtimeControl.active = true ∧ b.controller.state ∉ restStates

/-- The operator has been there, and neither a latch nor a stop is over the stored intent. -/
structure Heeded (b : BridgeRuntime) : Prop where
  operator : b.operatorIdle.seen = true
  overspeed : b.hardOverspeedLatched = false
  physical : b.controller.physicalEmergencyLatched = false
  revoked : b.controller.handshakeRevoked = false
  stop : b.controller.emergencyStop = true → b.clearSoftStopRequested = true

/-- What the bridge was opened with for the brake. -/
def brakeInput (b : BridgeRuntime) : Bool × ℚ := (b.physicalBrakeInput, b.maxOrdinaryBrakeBar)

/-- The session's limits that only parking changes. -/
def parkedLimits (b : BridgeRuntime) : ℚ × ℚ :=
  (b.runtimeControl.maxBrakePressureBar, b.runtimeControl.maxSteeringRequest)

def demand (b : BridgeRuntime) : Bool × ℚ :=
  (b.latestIntentValid, b.latestIntent.normalizedLongitudinal)

/-- From `b` to `b'` no session opens and no demand is given. -/
structure Follows (b b' : BridgeRuntime) : Prop where
  input : brakeInput b' = brakeInput b
  engaged : Engaged b' → Engaged b
  limits : Engaged b' → parkedLimits b' = parkedLimits b
  heeded : Engaged b' → Heeded b' → Heeded b
  demand : Engaged b' → Heeded b' → demand b' = demand b

/-- What the controller may do with a demand in it. -/
structure Yields (c c' : Controller) : Prop where
  session : c.state ∈ restStates → c'.state ∈ restStates
  physical : c.physicalEmergencyLatched = true → c'.physicalEmergencyLatched = true
  revoked : c.handshakeRevoked = true → c'.handshakeRevoked = true
  stop : c.emergencyStop = true → c'.emergencyStop = true

/-- The fields of the bridge that decide over a demand. -/
structure DemandView where
  settings : RuntimeControlSettings
  seen : Bool
  overspeed : Bool
  clears : Bool
  input : Bool × ℚ
  demand : Bool × ℚ

def demandView (b : BridgeRuntime) : DemandView :=
  { settings := b.runtimeControl
    seen := b.operatorIdle.seen
    overspeed := b.hardOverspeedLatched
    clears := b.clearSoftStopRequested
    input := brakeInput b
    demand := Bridge.demand b }

theorem eq_false_of_imp {p q : Bool} (h : p = true → q = true) (hq : q = false) : p = false := by
  cases p with
  | false => rfl
  | true => exact absurd ((h rfl).symm.trans hq) Bool.noConfusion

namespace Follows
variable {b b' b'' : BridgeRuntime}

theorem refl (b : BridgeRuntime) : Follows b b := ⟨rfl, id, fun _ => rfl, fun _ => id, fun _ _ => rfl⟩

theorem trans (h : Follows b b') (h' : Follows b' b'') : Follows b b'' where
  input := h'.input.trans h.input
  engaged hengaged := h.engaged (h'.engaged hengaged)
  limits hengaged := (h'.limits hengaged).trans (h.limits (h'.engaged hengaged))
  heeded hengaged hheeded := h.heeded (h'.engaged hengaged) (h'.heeded hengaged hheeded)
  demand hengaged hheeded :=
    (h'.demand hengaged hheeded).trans
      (h.demand (h'.engaged hengaged) (h'.heeded hengaged hheeded))

theorem ite {p : Prop} [Decidable p] (h : p → Follows b b') (h' : ¬p → Follows b b'') :
    Follows b (if p then b' else b'') := by
  split
  · exact h ‹_›
  · exact h' ‹_›

/-- Only the controller moves, and yields. -/
theorem of_yields (hview : demandView b' = demandView b) (h : Yields b.controller b'.controller) :
    Follows b b' := by
  have hsettings : b'.runtimeControl = b.runtimeControl := congrArg DemandView.settings hview
  have hseen : b'.operatorIdle.seen = b.operatorIdle.seen := congrArg DemandView.seen hview
  have hover : b'.hardOverspeedLatched = b.hardOverspeedLatched :=
    congrArg DemandView.overspeed hview
  have hclears : b'.clearSoftStopRequested = b.clearSoftStopRequested :=
    congrArg DemandView.clears hview
  refine ⟨congrArg DemandView.input hview, ?_, fun _ => ?_, fun _ hheeded => ?_,
    fun _ _ => congrArg DemandView.demand hview⟩
  · exact fun ⟨hactive, hstate⟩ => ⟨hsettings ▸ hactive, fun hrest => hstate (h.session hrest)⟩
  · rw [parkedLimits, hsettings]
    rfl
  · exact ⟨hseen ▸ hheeded.operator, hover ▸ hheeded.overspeed,
      eq_false_of_imp h.physical hheeded.physical, eq_false_of_imp h.revoked hheeded.revoked,
      fun hstop => hclears ▸ hheeded.stop (h.stop hstop)⟩

theorem same (hview : demandView b' = demandView b) (hc : b'.controller = b.controller) :
    Follows b b' :=
  of_yields hview (hc ▸ ⟨id, id, id, id⟩)

/-- Outside a session there is nothing to follow. -/
theorem of_rest (hinput : brakeInput b' = brakeInput b) (h : ¬Engaged b') : Follows b b' :=
  ⟨hinput, fun he => absurd he h, fun he => absurd he h, fun he => absurd he h,
    fun he => absurd he h⟩

/-- A demand that is not heeded may be any. -/
theorem of_unheeded (hinput : brakeInput b' = brakeInput b)
    (hsettings : b'.runtimeControl = b.runtimeControl)
    (hsession : b.controller.state ∈ restStates → b'.controller.state ∈ restStates)
    (h : ¬Heeded b') : Follows b b' where
  input := hinput
  engaged := fun ⟨hactive, hstate⟩ =>
    ⟨hsettings ▸ hactive, fun hrest => hstate (hsession hrest)⟩
  limits _ := by
    rw [parkedLimits, hsettings]
    rfl
  heeded _ hheeded := absurd hheeded h
  demand _ hheeded := absurd hheeded h

end Follows

/-! ## The controller -/

namespace Yields

theorem refl (c : Controller) : Yields c c := ⟨id, id, id, id⟩

theorem trans {c c' c'' : Controller} (h : Yields c c') (h' : Yields c' c'') : Yields c c'' :=
  ⟨fun hs => h'.session (h.session hs), fun hs => h'.physical (h.physical hs),
    fun hs => h'.revoked (h.revoked hs), fun hs => h'.stop (h.stop hs)⟩

end Yields

theorem stoppedState_rest {s : Vcu.State} (h : s ∈ restStates) : Vcu.stoppedState s ∈ restStates := by
  cases s <;> first | decide | exact absurd h (by decide)

theorem yields_emergencyStop (c : Controller) : Yields c (Vcu.emergencyStop c) := by
  obtain ⟨g, h⟩ := Vcu.emergencyStop_frame c
  rw [h]
  exact ⟨stoppedState_rest, id, id, fun _ => rfl⟩

theorem yields_setCommand (c : Controller) (command : Command) :
    Yields c (Vcu.setCommand c command).2 := by
  have hcase := Vcu.setCommand_cases c command
  generalize Vcu.setCommand c command = result at hcase ⊢
  cases hcase with
  | rejected => exact .refl c
  | moving => exact ⟨stoppedState_rest, id, id, fun _ => rfl⟩
  | accepted => exact ⟨id, id, id, id⟩
  | regear hv hgear hready =>
    refine ⟨fun hrest => ?_, id, id, id⟩
    rw [hready] at hrest
    exact absurd hrest (by decide)

theorem yields_ingest (c : Controller) (frame : CanFrame) : Yields c (Vcu.ingest c frame).2 := by
  refine ⟨fun hrest => ?_, fun h => ?_, fun h => ?_, fun h => ?_⟩
  · rcases Vcu.ingest_stop c frame with ⟨-, hstate, -⟩ | ⟨-, -, hstate, -⟩ | ⟨-, -, -, -, hstate⟩
    · rw [hstate]
      exact hrest
    · rw [hstate]
      revert hrest
      generalize c.state = s
      cases s <;> decide
    · rw [hstate]
      split <;> decide
  · rw [Vcu.ingest_physicalEmergencyLatched, h, Bool.true_or]
  · rw [Vcu.ingest_handshakeRevoked, h, Bool.true_or]
  · rcases Vcu.ingest_stop c frame with ⟨hsame, -⟩ | ⟨hstop, -⟩ | ⟨hstop, -⟩
    · exact hsame.trans h
    · exact hstop
    · exact hstop

theorem yields_advanceState (c : Controller) : Yields c (Vcu.advanceState c) := by
  refine ⟨fun hrest => ?_, fun h => ?_, fun h => ?_, Vcu.advanceState_stop_of_stop c⟩
  · rcases List.mem_cons.mp hrest with hstandby | hshutdown
    · have hcase := Vcu.advanceState_cases c
      generalize Vcu.advanceState c = result at hcase ⊢
      cases hcase with
      | emergency ha g => exact stoppedState_rest hrest
      | handshakeLost hl => exact (by decide : Vcu.State.fault ∈ restStates)
      | gearMismatch hg => exact absurd (hstandby.symm.trans hg.1) (by decide)
      | stage ha hl hg =>
        have hstage : Vcu.advanceStage c = c := by
          unfold Vcu.advanceStage
          rw [hstandby]
        rw [hstage]
        exact hrest
    · exact List.mem_cons_of_mem _ (Vcu.advanceState_shutdown hshutdown)
  · rw [Vcu.advanceState_physicalEmergencyLatched, h]
  · rw [Vcu.advanceState_handshakeRevoked, h]

theorem not_engaged_of_rest {b : BridgeRuntime} (h : b.controller.state ∈ restStates) : ¬Engaged b :=
  fun hengaged => hengaged.2 h

theorem not_engaged_of_fault {b : BridgeRuntime} (h : b.controller.state = .fault) : ¬Engaged b :=
  not_engaged_of_rest (by rw [h]; decide)

/-- A stop that no control state has ended. -/
theorem not_heeded_of_stop {b : BridgeRuntime} (hstop : b.controller.emergencyStop = true)
    (hclears : b.clearSoftStopRequested = false) : ¬Heeded b :=
  fun hheeded => absurd ((hheeded.stop hstop).symm.trans hclears) Bool.noConfusion

/-! ## Traction taken away -/

section
variable (b : BridgeRuntime)

theorem heeded_of_withdraw (h : Heeded (withdrawLatestTraction b)) : Heeded b :=
  ⟨h.operator, h.overspeed, h.physical, h.revoked, h.stop⟩

theorem follows_withdraw (h : ¬Heeded b) : Follows b (withdrawLatestTraction b) :=
  .of_unheeded rfl rfl id (mt (heeded_of_withdraw b) h)

theorem follows_withdraw_rest (h : ¬Engaged b) : Follows b (withdrawLatestTraction b) :=
  .of_rest rfl h

theorem follows_latchStopProvenance (source : StopSource) (reason : StopReason) :
    Follows b (latchStopProvenance b source reason) :=
  .same rfl rfl

end

/-! ## A tick -/

section
variable (b : BridgeRuntime) (v : IntentView) (now : ℤ)

theorem follows_checkFeedbackTimeout : Follows b (checkFeedbackTimeout b now) :=
  .ite (fun _ => .of_rest rfl (not_engaged_of_fault rfl)) fun _ => .refl b

theorem follows_checkControlWatchdog : Follows b (checkControlWatchdog b now) :=
  .ite
    (fun _ => .of_unheeded rfl rfl (yields_emergencyStop b.controller).session
      (not_heeded_of_stop (emergencyStop_emergencyStop _) rfl))
    fun _ => .refl b

theorem follows_guarded : Follows b (guarded b now) :=
  (Follows.same rfl rfl : Follows b { b with lastControlTick := some now }).trans
    ((follows_checkFeedbackTimeout _ now).trans (follows_checkControlWatchdog _ now))

theorem follows_reportPhysicalEmergency
    (hv : v.physicalEmergencyLatched = b.controller.physicalEmergencyLatched) :
    Follows b (reportPhysicalEmergency b v) := by
  have hreported (b : BridgeRuntime) : Follows b { b with physicalEmergencyReported := true } :=
    .same rfl rfl
  unfold reportPhysicalEmergency
  refine .ite (fun hlatched => ?_) fun _ => .refl b
  have hphysical : b.controller.physicalEmergencyLatched = true := hv ▸ hlatched
  have hdeaf : ∀ b' : BridgeRuntime, b'.controller = b.controller → ¬Heeded b' := fun b' hc hheeded =>
    absurd (hphysical.symm.trans (hc ▸ hheeded.physical)) Bool.noConfusion
  refine (follows_latchStopProvenance b .physicalEmergency .physicalEmergencySwitch).trans ?_
  extract_lets latched reset
  have hreset : Follows latched reset := .of_unheeded rfl rfl id (hdeaf reset rfl)
  refine hreset.trans (.ite (fun _ => .refl reset) fun _ => ?_)
  exact (hreported reset).trans (follows_withdraw _ (hdeaf _ rfl))

theorem follows_latchHardOverspeed (reason : StopReason) :
    Follows b (latchHardOverspeed b reason) :=
  .of_unheeded rfl rfl (yields_emergencyStop b.controller).session
    fun hheeded => Bool.noConfusion hheeded.overspeed

theorem follows_clearSoftStop : Follows b (clearSoftStop b v) := by
  unfold clearSoftStop
  refine .ite (fun hclears => ?_) fun _ => .refl b
  have hcontroller : ∃ stop, Vcu.clearEmergencyStop b.controller =
      { b.controller with emergencyStop := stop } := by
    unfold Vcu.clearEmergencyStop
    split
    · exact ⟨_, rfl⟩
    · exact ⟨b.controller.emergencyStop, rfl⟩
  obtain ⟨stop, hstop⟩ := hcontroller
  rw [hstop]
  -- The stop it ends is one that a control state has asked to end.
  exact ⟨rfl, id, fun _ => rfl,
    fun _ hheeded => ⟨hheeded.operator, hheeded.overspeed, hheeded.physical, hheeded.revoked,
      fun _ => hclears.1⟩,
    fun _ _ => rfl⟩

theorem follows_settleLatches
    (hv : v.physicalEmergencyLatched = b.controller.physicalEmergencyLatched) :
    Follows b (settleLatches b v now) := by
  have hmotion : ∀ b, Follows b (checkArmingMotion b v) := fun b =>
    .ite (fun _ => follows_latchHardOverspeed b _) fun _ => .refl b
  have hover : ∀ b, Follows b (checkHardOverspeed b v) := fun b =>
    .ite (fun _ => follows_latchHardOverspeed b _) fun _ => .refl b
  exact (follows_reportPhysicalEmergency b v hv).trans
    ((hmotion _).trans ((hover _).trans ((follows_clearSoftStop _ v).trans
      (.of_yields rfl ⟨id, id, id, id⟩))))

theorem follows_limitTraction (active : Prop) [Decidable active] (output dt : ℚ) :
    Follows b (limitTraction b active output dt) :=
  .ite (fun _ => .same rfl rfl) fun _ => .same rfl rfl

theorem follows_regulateSpeed (dt : ℚ) : Follows b (regulateSpeed b v now dt).2 := by
  unfold regulateSpeed
  split
  · exact .same rfl rfl
  · split <;> exact .same rfl rfl

theorem follows_latchChassisControlFault : Follows b (latchChassisControlFault b) :=
  .of_rest rfl (not_engaged_of_fault rfl)

theorem follows_submitCommand (command : Command) : Follows b (submitCommand b command) := by
  unfold submitCommand
  refine .ite (fun _ => ?_) fun _ => .refl b
  have hset := yields_setCommand b.controller command
  exact .ite (fun _ => .of_yields rfl hset)
    fun _ => .of_yields rfl (hset.trans (yields_emergencyStop _))

theorem follows_enforceHardLatches : Follows b (enforceHardLatches b v) := by
  refine .of_yields rfl ?_
  unfold enforceHardLatches
  dsimp only
  split
  · exact yields_emergencyStop _
  · exact .refl _

theorem follows_commandChassis (chassis : ChassisOutcome) : Follows b (commandChassis b v chassis) := by
  cases chassis with
  | rejected => exact follows_latchChassisControlFault b
  | raised => exact follows_latchChassisControlFault b
  | controls wheels =>
    simp only [commandChassis]
    split
    · exact follows_latchChassisControlFault b
    · exact (follows_submitCommand b _).trans (follows_enforceHardLatches _ v)

theorem follows_holdChassisControlFault : Follows b (holdChassisControlFault b) := by
  refine .of_rest rfl (not_engaged_of_rest ?_)
  change (if isDisarming b.controller.state = false ∧ b.controller.state ≠ .disarmed then
    Vcu.transportFault b.controller else b.controller).state ∈ restStates
  split
  · exact (by decide : Vcu.State.fault ∈ restStates)
  · rename_i hstate
    revert hstate
    generalize b.controller.state = s
    cases s <;> decide

theorem follows_regulatedAt : Follows (guarded b now) (limitedAt b now) :=
  (follows_settleLatches _ (viewAt b now) now rfl).trans
    ((follows_regulateSpeed _ (viewAt b now) now _).trans (follows_limitTraction _ _ _ _))

theorem follows_limitedAt : Follows b (limitedAt b now) :=
  (follows_guarded b now).trans (follows_regulatedAt b now)

theorem follows_prepareTick (chassis : ChassisOutcome) : Follows b (prepareTick b now chassis) := by
  rcases prepareTick_cases b now chassis with hfault | hcommanded
  · rw [hfault]
    exact (follows_guarded b now).trans (follows_holdChassisControlFault _)
  · rw [hcommanded]
    exact (follows_limitedAt b now).trans (follows_commandChassis _ _ chassis)

theorem follows_ticked (chassis : ChassisOutcome) : Follows b (ticked b now chassis) :=
  (follows_prepareTick b now chassis).trans (.of_yields rfl (yields_advanceState _))

theorem follows_reportRevocation : Follows b (reportRevocation b) :=
  .ite
    (fun hrevoked => .of_unheeded rfl rfl id fun hheeded =>
      absurd (hrevoked.1.symm.trans hheeded.revoked) Bool.noConfusion)
    fun _ => .refl b

theorem follows_reportFault (stateBefore : Vcu.State) : Follows b (reportFault b stateBefore) :=
  .ite (fun hfault => .of_rest rfl (not_engaged_of_fault hfault.1)) fun _ => .refl b

theorem follows_settleTick (stateBefore : Vcu.State) : Follows b (settleTick b now stateBefore) := by
  have hsession : ∀ b, Follows b (latchSessionReady b now) := fun b =>
    .ite (fun _ => .same rfl rfl) fun _ => .ite (fun _ => .same rfl rfl) fun _ => .refl b
  have hdeadline : ∀ b, Follows b (armFeedbackDeadline b now) := fun b =>
    .ite (fun _ => .same rfl rfl) fun _ => .same rfl rfl
  exact (follows_reportRevocation b).trans ((follows_reportFault _ stateBefore).trans
    ((hsession _).trans ((hdeadline _).trans (.same rfl rfl))))

theorem follows_tick (chassis : ChassisOutcome) : Follows b (tick b now chassis).2 := by
  cases hrun : b.running with
  | false =>
    rw [tick, if_pos hrun]
    exact .refl b
  | true =>
    rw [tick_running hrun]
    exact (follows_ticked b now chassis).trans (follows_settleTick _ now b.controller.state)

end

/-! ## The other events -/

section
variable (b : BridgeRuntime) (now : ℤ)

/-- A new profile finds no session it could change the brake of, and waits for the operator. -/
theorem configureRuntimeControl_follows (config : RuntimeControlConfig) (expected : ℕ)
    (riseRate : Double) (parking : ℤ) :
    let r := configureRuntimeControl b now config expected riseRate parking
    Follows b r.2.2 ∧ (r.1 = .none → ¬Heeded r.2.2) := by
  intro r
  rcases configureRuntimeControl_decides b now config expected riseRate parking with
    ⟨hissue, -, hsame⟩ | ⟨-, -, hconfigures⟩
  · have hkept : r.2.2 = b := hsame
    rw [hkept]
    exact ⟨.refl b, fun hnone => absurd hnone hissue⟩
  · have hinstalled : r.2.2 = b ∨ ∃ recovered,
        r.2.2 = installProfile recovered now config riseRate.value parking ∧
          recovered.controller = b.controller ∧ brakeInput recovered = brakeInput b := by
      unfold r configureRuntimeControl
      split
      · exact .inl rfl
      split
      · exact .inl rfl
      split
      · exact .inl rfl
      split
      · exact .inl rfl
      · refine .inr ⟨_, rfl, ?_⟩
        split <;> exact ⟨rfl, rfl⟩
    have hidle : ∀ recovered, ¬Heeded (installProfile recovered now config riseRate.value parking) :=
      fun recovered hheeded => Bool.noConfusion hheeded.operator
    have hparked : b.controller.state ∉ restStates → ¬ParkedForConfiguration b now := by
      rintro hstate ⟨hstandby | hdisarmed, -⟩
      · exact hstate (by rw [hstandby]; decide)
      · exact hstate (by rw [hdisarmed]; decide)
    rcases hinstalled with hsame | ⟨recovered, hinstalled, hcontroller, hinput⟩
    · rw [hsame]
      refine ⟨.refl b, fun hnone => ?_⟩
      -- An accepted call has written the revision it was given.
      have hrises := hconfigures.rises
      have hrevision := hconfigures.revision
      have hactive := hconfigures.active
      change r.2.2.runtimeControl.revision = _ at hrevision
      change r.2.2.runtimeControl.active = true at hactive
      rw [hsame] at hrevision hactive
      exact absurd (hrises hactive) (by omega)
    · have hstate : r.2.2.controller.state = b.controller.state := by
        rw [hinstalled, ← hcontroller]
        rfl
      refine ⟨⟨?_, ?_, ?_, ?_, ?_⟩, fun _ => hinstalled ▸ hidle recovered⟩
      · rw [hinstalled, ← hinput]
        rfl
      · rintro ⟨-, hsession⟩
        rw [hstate] at hsession
        refine ⟨?_, hsession⟩
        by_contra hinactive
        exact hparked hsession
          (hconfigures.parked (.inl (Bool.eq_false_of_not_eq_true hinactive)))
      · rintro ⟨-, hsession⟩
        rw [hstate] at hsession
        by_contra hchanged
        refine hparked hsession (hconfigures.parked (.inr (.inr ?_)))
        by_cases hbrake : r.2.2.runtimeControl.maxBrakePressureBar =
            b.runtimeControl.maxBrakePressureBar
        · refine .inr (.inr (.inl fun hsteering => hchanged ?_))
          exact Prod.ext hbrake hsteering
        · exact .inr (.inl hbrake)
      · exact fun _ hheeded => absurd (hinstalled ▸ hheeded) (hidle recovered)
      · exact fun _ hheeded => absurd (hinstalled ▸ hheeded) (hidle recovered)

theorem configure_follows (entry : ProfileEntry) (config : RuntimeControlConfig) :
    Follows b (configure b now entry config).2.2 ∧
      ((configure b now entry config).1 = .none → ¬Heeded (configure b now entry config).2.2) := by
  cases entry with
  | v1 => exact configureRuntimeControl_follows b now config _ _ _
  | v2 => exact configureRuntimeControl_follows b now config _ _ _
  | v3 =>
    simp only [configure, configureRuntimeControlV3]
    split
    · exact ⟨.refl b, fun h => RuntimeControlIssue.noConfusion h⟩
    · exact configureRuntimeControl_follows b now config _ _ _

theorem requestDisarm_rest (c : Controller) : (Vcu.requestDisarm c).state ∈ restStates := by
  unfold Vcu.requestDisarm
  split_ifs with hidle
  · rcases hidle with hstandby | hdisarmed
    · rw [hstandby]
      decide
    · rw [hdisarmed]
      decide
  · exact (by decide : Vcu.State.disarmed ∈ restStates)
  · exact (by decide : Vcu.State.disarmManual ∈ restStates)
  · rename_i hdown
    revert hdown
    generalize c.state = s
    cases s <;> decide
  · exact (by decide : Vcu.State.disarmTorque ∈ restStates)

theorem requestPark_rest (h : (requestPark b).1 = true) : ¬Engaged (requestPark b).2 := by
  unfold requestPark at h ⊢
  split
  · rename_i hrun
    rw [if_pos hrun] at h
    cases h
  · exact not_engaged_of_rest (requestDisarm_rest b.controller)

theorem follows_requestPark : Follows b (requestPark b).2 := by
  have hdisarm (b : BridgeRuntime) : Follows b
      { b with
        gearRejectionLatched := false
        gearRejectionRetainedGear := 1
        controller := Vcu.requestDisarm b.controller } :=
    .of_rest rfl (not_engaged_of_rest (requestDisarm_rest b.controller))
  have hstopped (b : BridgeRuntime) : Follows b { b with softwareEstop := true } := .same rfl rfl
  unfold requestPark
  split
  · exact .refl b
  · let consumed := consumeStopContext b .driverPage .vcuHandshakeDisconnect
    let latched := latchStopProvenance consumed.2 consumed.1.source consumed.1.reason
    have hconsumed : Follows b consumed.2 := .same rfl rfl
    have hlatched : Follows consumed.2 latched := follows_latchStopProvenance _ _ _
    refine hconsumed.trans (hlatched.trans ((hdisarm latched).trans ?_))
    refine (follows_withdraw_rest _ ?_).trans (hstopped _)
    exact not_engaged_of_rest (requestDisarm_rest latched.controller)

/-- The controller is stopped, and no control state has ended the stop. -/
theorem follows_emergency (b : BridgeRuntime) : Follows b (withdrawLatestTraction
    { b with
      controller := Vcu.emergencyStop b.controller
      clearSoftStopRequested := false }) := by
  have hdeaf : ¬Heeded
      { b with
        controller := Vcu.emergencyStop b.controller
        clearSoftStopRequested := false } :=
    not_heeded_of_stop (emergencyStop_emergencyStop _) rfl
  have hstop : Follows b
      { b with
        controller := Vcu.emergencyStop b.controller
        clearSoftStopRequested := false } :=
    .of_unheeded rfl rfl (yields_emergencyStop b.controller).session hdeaf
  exact hstop.trans (follows_withdraw _ hdeaf)

theorem follows_failControlApply : Follows b (failControlApply b) := by
  have hlatched (b : BridgeRuntime) : Follows b
      { b with softwareEstop := true, controlWatchdogLatched := true } := .same rfl rfl
  refine (follows_latchStopProvenance b .softwareFault .controlApplyFailed).trans ?_
  exact (follows_emergency _).trans (hlatched _)

theorem follows_emergencyStop : Follows b (emergencyStop b).2 := by
  have hstopped (b : BridgeRuntime) : Follows b { b with softwareEstop := true } := .same rfl rfl
  unfold emergencyStop
  split
  · exact .refl b
  · let consumed := consumeStopContext b .unknown .legacyUnspecified
    let latched := latchStopProvenance consumed.2 consumed.1.source consumed.1.reason
    have hconsumed : Follows b consumed.2 := .same rfl rfl
    have hlatched : Follows consumed.2 latched := follows_latchStopProvenance _ _ _
    refine hconsumed.trans (hlatched.trans ?_)
    exact (follows_emergency latched).trans (hstopped _)

theorem follows_ingest (frame : CanFrame) : Follows b (ingest b now frame) := by
  have hyields := yields_ingest b.controller frame
  unfold ingest
  split
  rename_i accepted controller heq
  rw [heq] at hyields
  split
  · unfold recordFrame
    extract_lets recorded
    have hrecorded : Follows b recorded :=
      .ite (fun _ => .of_yields rfl hyields) fun _ => .of_yields rfl hyields
    exact hrecorded.trans (.same rfl rfl)
  · exact .refl b

theorem follows_whileRunning {next : BridgeRuntime} (h : Follows b next) :
    Follows b (whileRunning b next) :=
  .ite (fun _ => h) fun _ => .refl b

theorem follows_sendResult (failed : Bool) : Follows b (sendResult b failed) := by
  unfold sendResult
  extract_lets failures counted
  exact .ite (fun _ => .of_rest rfl (not_engaged_of_fault rfl)) fun _ => .same rfl rfl

/-- The events that may give a demand or open a session. -/
def GivesDemand : Event → Prop
  | .applyState _ _ | .requestParallelHandshake _ => True
  | _ => False

theorem follows_respond (e : Event) (he : ¬GivesDemand e) : Follows b (respond b e).2 := by
  cases e with
  | applyState | requestParallelHandshake => exact absurd trivial he
  | configure now entry config => exact (configure_follows b now entry config).1
  | clearRuntimeControl => exact .of_rest rfl fun hengaged => Bool.noConfusion hengaged.1
  | setStopContext context =>
    simp only [respond, setStopContext]
    split
    · split <;> exact .same rfl rfl
    · exact .refl b
  | emergencyStop => exact follows_emergencyStop b
  | requestPark => exact follows_requestPark b
  | failControlApply => exact follows_failControlApply b
  | ingest now frame => exact follows_ingest b now frame
  | receiveFailure result =>
    exact follows_whileRunning b (.of_rest rfl (not_engaged_of_fault rfl))
  | tick now chassis => exact follows_tick b now chassis
  | sendResult failed => exact follows_whileRunning b (follows_sendResult b failed)
  | ioException => exact follows_whileRunning b (.of_rest rfl (not_engaged_of_fault rfl))
  | beginClose =>
    simp only [respond, beginClose]
    split
    · exact .refl b
    · exact .of_rest rfl (not_engaged_of_rest (requestDisarm_rest b.controller))
  | finishClose =>
    simp only [respond, finishClose]
    split <;> exact .same rfl rfl

/-- A handshake that is not granted changes nothing. -/
theorem requestParallelHandshake_refused (h : (requestParallelHandshake b now).1 = false) :
    (requestParallelHandshake b now).2 = b := by
  unfold requestParallelHandshake at h ⊢
  split
  · rfl
  · split
    · rfl
    · rename_i hrun hgate
      rw [if_neg hrun, if_neg hgate] at h
      cases h

end

/-! ## A control state -/

/-- What the stored intent may change of a session: nothing that decides over the demand. -/
structure Stores (b b' : BridgeRuntime) : Prop where
  input : brakeInput b' = brakeInput b
  settings : b'.runtimeControl = b.runtimeControl
  controller : b'.controller = b.controller

/-- How a control state moves the demand. -/
inductive StoreOutcome (b : BridgeRuntime) (a : IntentArguments) : ApplyIssue → BridgeRuntime → Prop
  | follows {issue b'} (hissue : issue ≠ .none) (h : Follows b b') : StoreOutcome b a issue b'
  | exceeds {issue b'} (hissue : issue ≠ .none) (hexceeds : ExceedsProfile b a) (h : Stores b b')
      (hheeded : Heeded b' → Heeded b) : StoreOutcome b a issue b'
  | holds {issue b'} (hissue : issue ≠ .none) (h : Stores b b')
      (hdemand : demand b' = (true, min 0 a.normalizedLongitudinal)) : StoreOutcome b a issue b'
  | accepts {b'} (h : Stores b b')
      (hdemand : demand b' = (true, a.normalizedLongitudinal)) : StoreOutcome b a .none b'

theorem storeIntent_outcome (b : BridgeRuntime) (now : ℤ) (a : IntentArguments) :
    StoreOutcome b a (storeIntent b now a).1 (storeIntent b now a).2 := by
  have hwithdrawn : ∀ issue, issue ≠ .none → ¬Heeded b ∨ ¬Engaged b →
      StoreOutcome b a issue (withdrawLatestTraction b) := by
    rintro issue hissue (hdeaf | hrest)
    · exact .follows hissue (follows_withdraw b hdeaf)
    · exact .follows hissue (follows_withdraw_rest b hrest)
  unfold storeIntent
  split
  · exact .follows ApplyIssue.noConfusion (.refl b)
  split
  · rename_i hphysical
    exact hwithdrawn _ ApplyIssue.noConfusion
      (.inl fun h => absurd (hphysical.symm.trans h.physical) Bool.noConfusion)
  split
  · rename_i hoverspeed
    exact hwithdrawn _ ApplyIssue.noConfusion
      (.inl fun h => absurd (hoverspeed.symm.trans h.overspeed) Bool.noConfusion)
  split
  · rename_i hinactive
    exact hwithdrawn _ ApplyIssue.noConfusion
      (.inr fun hengaged => absurd (hinactive.2.symm.trans hengaged.1) Bool.noConfusion)
  split
  · rename_i hexceeds
    exact .exceeds ApplyIssue.noConfusion hexceeds.2 ⟨rfl, rfl, rfl⟩ (heeded_of_withdraw b)
  split
  · exact .holds ApplyIssue.noConfusion ⟨rfl, rfl, rfl⟩ rfl
  split
  · exact .holds ApplyIssue.noConfusion ⟨rfl, rfl, rfl⟩ rfl
  · exact .accepts ⟨rfl, rfl, rfl⟩ rfl

/-- A control state ends outside the session, or its intent is stored. -/
inductive ApplyOutcome (b : BridgeRuntime) (a : ApplyArguments) : ApplyResult → BridgeRuntime → Prop
  | follows {result b'} (hresult : result.resultCode = 0 → ¬Engaged b') (h : Follows b b') :
      ApplyOutcome b a result b'
  | stored {checked issue code b'} (hchecked : a.checked? = some checked)
      (hcode : code = 0 ↔ issue = .none) (h : StoreOutcome b checked issue b') :
      ApplyOutcome b a ⟨code, issue⟩ b'

theorem applyState_outcome (b : BridgeRuntime) (now : ℤ) (a : ApplyArguments) :
    ApplyOutcome b a (applyState b now a).1 (applyState b now a).2 := by
  unfold applyState
  split
  · exact .follows (fun hcode => absurd hcode (by decide : (-1 : ℤ) ≠ 0)) (follows_failControlApply b)
  · rename_i checked hchecked
    split
    · refine .follows (fun hcode => requestPark_rest b ?_) (follows_requestPark b)
      by_contra hrefused
      dsimp only at hcode
      rw [if_neg hrefused] at hcode
      exact absurd hcode (by decide)
    · refine .stored hchecked ?_ (storeIntent_outcome b now checked)
      split <;> simp [*]

/-! ## An ordinary tick -/

/-- A tick in Ready with neither a stop nor the parking brake in the place of its command. -/
structure OrdinaryTick (b b' : BridgeRuntime) : Prop where
  before : b.controller.state = .ready
  after : b'.controller.state = .ready
  noSafety : ¬Vcu.SafetyBrake b'.controller
  noParking : ¬Vcu.ParkingWithholds b'.controller

instance (b b' : BridgeRuntime) : Decidable (OrdinaryTick b b') :=
  decidable_of_iff
    (b.controller.state = .ready ∧ b'.controller.state = .ready ∧
      ¬Vcu.SafetyBrake b'.controller ∧ ¬Vcu.ParkingWithholds b'.controller)
    ⟨fun ⟨hb, ha, hs, hp⟩ => ⟨hb, ha, hs, hp⟩, fun h => ⟨h.1, h.2, h.3, h.4⟩⟩

section
variable {b : BridgeRuntime} {now : ℤ} {chassis : ChassisOutcome}

/-- The overspeed latch stops the controller behind every command. -/
theorem commandChassis_overspeed {v : IntentView} (h : b.hardOverspeedLatched = true) :
    (commandChassis b v chassis).controller.emergencyStop = true := by
  cases chassis with
  | rejected => rfl
  | raised => rfl
  | controls wheels =>
    simp only [commandChassis]
    split
    · rfl
    · rename_i generated _
      have hover : (submitCommand b (composeCommand b v generated)).hardOverspeedLatched = true := by
        unfold submitCommand
        split
        · dsimp only
          split <;> exact h
        · exact h
      rw [enforceHardLatches, if_pos (.inr hover)]
      exact emergencyStop_emergencyStop _

/-- The command of an ordinary tick is the one composed in it, for a demand that is heeded. -/
theorem tick_ordinary (hi : BridgeInvariant b) (hactive : b.runtimeControl.active = true)
    (hparking : 0 ≤ b.runtimeControl.parkingIdleTimeoutMs) (hrun : b.running = true)
    (hordinary : OrdinaryTick b (tick b now chassis).2) :
    Engaged (limitedAt b now) ∧ Heeded (limitedAt b now) ∧
      ∀ batch ∈ (tick b now chassis).1, ∃ generated,
        batch.brakePressure =
          (composeCommand (limitedAt b now) (viewAt b now) generated).brakePressureBar ∧
        batch.motorTorque =
          (composeCommand (limitedAt b now) (viewAt b now) generated).motorTorqueNm := by
  obtain ⟨hbefore, hafter, hsafety, hpark⟩ := hordinary
  rw [tick_running hrun] at hafter hsafety hpark ⊢
  dsimp only at hafter hsafety hpark ⊢
  rw [settleTick_controller] at hafter hsafety hpark
  change (Vcu.advanceState (prepareTick b now chassis).controller).state = .ready at hafter
  change ¬Vcu.SafetyBrake (Vcu.advanceState (prepareTick b now chassis).controller) at hsafety
  change ¬Vcu.ParkingWithholds (Vcu.advanceState (prepareTick b now chassis).controller) at hpark
  have hstop : (prepareTick b now chassis).controller.emergencyStop = false := by
    by_contra hon
    have hstopped := Vcu.advanceState_stop_of_stop (prepareTick b now chassis).controller
      (Bool.eq_true_of_not_eq_false hon)
    exact hsafety (Vcu.safetyBrake_of_emergencyStop hstopped)
  have haccepts : AcceptsIntent (prepareTick b now chassis).controller.state := by
    rcases ready_of_advanceState hafter with hstate | hstate <;> (rw [hstate]; decide)
  obtain ⟨generated, controller, -, hcase, hprepared⟩ := prepareTick_delivers hstop haccepts
  have hover : (limitedAt b now).hardOverspeedLatched = false := by
    have hkept : (prepareTick b now chassis).hardOverspeedLatched =
        (limitedAt b now).hardOverspeedLatched := by rw [hprepared]
    by_contra hon
    have hlatched := Bool.eq_true_of_not_eq_false hon
    rcases prepareTick_cases b now chassis with hfault | hcommanded
    · rw [hfault] at hstop haccepts
      exact holdChassisControlFault_refuses _ hstop haccepts
    · rw [hcommanded, commandChassis_overspeed hlatched] at hstop
      exact Bool.noConfusion hstop
  rw [hprepared] at hafter hsafety hpark hstop
  obtain rfl := accepted_of_ready hcase hafter
  -- The controller that takes the command is the settled one, and it is not stopped.
  have hsettled := commands_settledAt b now
  have hinvariant : ControllerInvariant (settledAt b now).controller :=
    Drives.keeps (drives_of_calls (calls_of_commands hsettled)) hi.controller
  have hquiet : (settledAt b now).controller.emergencyStop = false := hstop
  have hcontroller := limitedAt_controller b now
  have hview := limitedAt_iterationView b now
  have hsettings : (limitedAt b now).runtimeControl = b.runtimeControl :=
    congrArg IterationView.runtimeControl hview
  have hidle : (limitedAt b now).operatorIdle = b.operatorIdle :=
    congrArg IterationView.operatorIdle hview
  have hsettledView : iterationView (settledAt b now) = iterationView b := by
    rw [settledAt, settleLatches_iterationView, guarded_iterationView]
  have henabled : automaticParkingEnabled (settledAt b now) = true := by
    rw [automaticParkingEnabled_congr hsettledView, automaticParkingEnabled,
      hi.latched_of_ready hbefore, decide_eq_true hparking]
    rfl
  have hawake : ¬IdlePark b now := by
    intro hidle
    refine hpark ⟨⟨?_, by rw [hafter]; decide⟩, .inl (.inl ?_)⟩
    · rw [Vcu.advanceState_automaticParking]
      exact henabled
    · rw [Vcu.advanceState_automaticParkRequested]
      exact decide_eq_true ((idlePark_congr now hsettledView).mpr hidle)
  have hseen : b.operatorIdle.seen = true := by
    by_contra hunseen
    exact hawake (.inr (.inl (Bool.eq_false_of_not_eq_true hunseen)))
  refine ⟨⟨hsettings ▸ hactive, ?_⟩, ⟨hidle ▸ hseen, hover, ?_, ?_, ?_⟩, fun batch hbatch => ?_⟩
  · rw [hcontroller]
    rcases ready_of_advanceState hafter with hstate | hstate
    · exact fun hrest => absurd (hstate ▸ hrest) (by decide)
    · exact fun hrest => absurd (hstate ▸ hrest) (by decide)
  · rw [hcontroller]
    by_contra hlatched
    have hon := hinvariant.latches.stop_of_physical (Bool.eq_true_of_not_eq_false hlatched)
    exact absurd (hon.symm.trans hquiet) Bool.noConfusion
  · rw [hcontroller]
    by_contra hrevoked
    have hon := hinvariant.latches.stop_of_revoked (Bool.eq_true_of_not_eq_false hrevoked)
    exact absurd (hon.symm.trans hquiet) Bool.noConfusion
  · rw [hcontroller]
    exact fun hon => absurd (hon.symm.trans hquiet) Bool.noConfusion
  · obtain rfl := Option.some.inj hbatch
    refine ⟨generated, ?_, ?_⟩
    · rw [hprepared, Vcu.commandBatch_brakePressure, if_neg, if_neg hpark,
        if_pos (by rw [hafter]; decide), Vcu.advanceState_desired]
      rintro (hneutral | hon)
      · exact absurd (hafter.symm.trans hneutral) Vcu.State.noConfusion
      · exact hsafety hon
    · rw [hprepared, Vcu.commandBatch_motorTorque, if_neg hsafety, if_neg hpark, if_pos hafter,
        Vcu.advanceState_desired]

/-- A brake composed in Ready is the pressure of the demand, and takes the torque away. -/
theorem composeCommand_brakes (hlatched : (limitedAt b now).sessionReadyLatched = true)
    (hinput : (limitedAt b now).physicalBrakeInput = true) {longitudinal : ℚ}
    (hlongitudinal : (viewAt b now).intent.normalizedLongitudinal = longitudinal)
    (generated : Command) :
    (composeCommand (limitedAt b now) (viewAt b now) generated).brakePressureBar =
      (fun _ => quantizeBrakePressureBar
        (-min 0 longitudinal * (limitedAt b now).maxOrdinaryBrakeBar)) ∧
    (longitudinal ≤ 0 →
      (composeCommand (limitedAt b now) (viewAt b now) generated).motorTorqueNm = fun _ => 0) := by
  simp only [composeCommand, hlatched, hinput, hlongitudinal, Bool.true_and, Bool.true_eq_false,
    and_false, false_or, if_false, if_true, decide_eq_true_eq]
  by_cases hbrakes : longitudinal < 0
  · simp only [if_pos hbrakes, min_eq_right hbrakes.le, and_self, implies_true]
  · have hnone : -min 0 longitudinal * (limitedAt b now).maxOrdinaryBrakeBar = 0 := by
      rw [min_eq_left (not_lt.mp hbrakes), neg_zero, zero_mul]
    rw [if_neg hbrakes, if_neg hbrakes, hnone]
    refine ⟨(funext fun _ => (if_pos le_rfl).symm), fun hle => funext fun _ => ?_⟩
    have hidle : (limitedAt b now).lastTractionTorqueMagnitudeNm = 0 :=
      tractionTorqueNm_of_not_regulated fun hregulated =>
        absurd (hlongitudinal ▸ hregulated.positive) (not_lt.mpr hle)
    rw [hidle]
    exact directionalMotorTorqueNm_of_nonpos _ le_rfl

/-- An ordinary tick in Ready emits the pressure of the stored demand. -/
theorem tick_brakes (hi : BridgeInvariant b) (hactive : b.runtimeControl.active = true)
    (hparking : 0 ≤ b.runtimeControl.parkingIdleTimeoutMs) (hinput : b.physicalBrakeInput = true)
    (hrun : b.running = true) (hordinary : OrdinaryTick b (tick b now chassis).2) :
    Engaged b ∧ Heeded b ∧ ∀ batch ∈ (tick b now chassis).1, b.latestIntentValid = true →
      batch.brakePressure = (fun _ => quantizeBrakePressureBar
        (-min 0 b.latestIntent.normalizedLongitudinal * b.maxOrdinaryBrakeBar)) ∧
      (b.latestIntent.normalizedLongitudinal ≤ 0 → batch.motorTorque = fun _ => 0) := by
  obtain ⟨hengaged, hheeded, hcomposed⟩ := tick_ordinary hi hactive hparking hrun hordinary
  have hfollows := follows_limitedAt b now
  have hregulated := follows_regulatedAt b now
  have hguarded := follows_guarded b now
  have hengaged' := hregulated.engaged hengaged
  have hheeded' := hregulated.heeded hengaged hheeded
  refine ⟨hfollows.engaged hengaged, hfollows.heeded hengaged hheeded, fun batch hbatch hvalid => ?_⟩
  -- The view is taken behind the watchdogs, where the demand is still the stored one.
  have hdemand : demand (guarded b now) = demand b := hguarded.demand hengaged' hheeded'
  have hlongitudinal : (viewAt b now).intent.normalizedLongitudinal =
      b.latestIntent.normalizedLongitudinal := by
    have hvalid' : (guarded b now).latestIntentValid = true :=
      (congrArg Prod.fst hdemand).trans hvalid
    rw [viewAt, intentView, if_pos hvalid']
    exact congrArg Prod.snd hdemand
  have hlatched : (limitedAt b now).sessionReadyLatched = true :=
    (congrArg IterationView.sessionReadyLatched (limitedAt_iterationView b now)).trans
      (hi.latched_of_ready hordinary.before)
  have hinput' : (limitedAt b now).physicalBrakeInput = true :=
    (congrArg Prod.fst hfollows.input).trans hinput
  have hmax : (limitedAt b now).maxOrdinaryBrakeBar = b.maxOrdinaryBrakeBar :=
    congrArg Prod.snd hfollows.input
  obtain ⟨generated, hpressure, htorque⟩ := hcomposed batch hbatch
  have hbrakes := composeCommand_brakes hlatched hinput' hlongitudinal generated
  rw [hmax] at hbrakes
  exact ⟨hpressure.trans hbrakes.1, fun hle => htorque.trans (hbrakes.2 hle)⟩

end

end MineTeleop.Bridge
