import MineTeleop.Bridge.Watchdog

/-!
# Stop reporting

After a tick that stops the vehicle the telemetry should say so, and say why.  The bridge raises
its own stop with every stop it asks for; the controller also stops by itself, when it finds the
gear off in Ready, and of that stop the bridge learns nothing.

Proved here:

* `tick_known`: every other stop of the controller is one of the bridge after the tick;
* `stops_are_reported`: the law in every run in which no tick loses the gear unnoticed;
* `stops_are_reported_fails`: a gear lost in Ready brakes with telemetry that reports no stop.
-/

namespace MineTeleop.Bridge

open Runs Runs.Machine
open Vcu (Controller CommandBatch)

/-! ## The law -/

/-- The controller's stop, or a pressure that only an emergency may ask for. -/
def StopsVehicle (batch : CommandBatch) (after : BridgeRuntime) : Prop :=
  after.controller.emergencyStop = true ∨
  ∃ i, maxOrdinaryBrakePressureBar < batch.brakePressure i

def ReportsStop (b : BridgeRuntime) : Prop :=
  b.telemetry.estop = true ∧ b.telemetry.stopSource ≠ .none

/-- A tick that stops the vehicle leaves telemetry that reports it. -/
def StopReportLaw (st : Step BridgeRuntime Event Reply) : Prop :=
  ∀ now chassis batch, st.event = .tick now chassis → st.output = .transmitted (some batch) →
    StopsVehicle batch st.after → ReportsStop st.after

/-- ChassisControl answers with outputs that make a command. -/
def ChassisAnswers (gear : ℤ) : ChassisOutcome → Prop
  | .controls wheels => (commandFromChassisControl gear wheels).isSome
  | _ => False

/-- The controller is Ready off its gear, and nothing else stops the bridge. -/
structure LosesGear (b : BridgeRuntime) (now : ℤ) (chassis : ChassisOutcome) : Prop where
  ready : b.controller.state = .ready
  off : b.controller.feedback.gearValid = false ∨
    b.controller.feedback.gear ≠ b.controller.desired.gear
  wanted : (intentView b now).intent.gear = b.controller.desired.gear
  noEstop : b.softwareEstop = false
  noFault : b.chassisControlFaultLatched = false
  noPhysical : b.controller.physicalEmergencyLatched = false
  authority : ¬Vcu.HandshakeLost b.controller
  feedbackInTime : ¬RetainedFeedbackTimeout b now
  intentInTime : ¬WatchdogExpired b now
  belowCeiling : ¬SpeedAboveCeiling b (intentView b now)
  answers : ChassisAnswers (intentView b now).intent.gear chassis

instance (b : BridgeRuntime) : Decidable (ReportsStop b) := inferInstanceAs (Decidable (_ ∧ _))

def TickLosesGear (st : Step BridgeRuntime Event Reply) : Prop :=
  match st.event with
  | .tick now chassis => st.before.running = true ∧ LosesGear st.before now chassis
  | _ => False

instance (gear : ℤ) (chassis : ChassisOutcome) : Decidable (ChassisAnswers gear chassis) :=
  match chassis with
  | .controls _ => inferInstanceAs (Decidable ((_ : Option _).isSome = true))
  | .rejected => .isFalse id
  | .raised => .isFalse id

instance (b : BridgeRuntime) (now : ℤ) (chassis : ChassisOutcome) :
    Decidable (LosesGear b now chassis) :=
  decidable_of_iff
    (b.controller.state = .ready ∧
      (b.controller.feedback.gearValid = false ∨
        b.controller.feedback.gear ≠ b.controller.desired.gear) ∧
      (intentView b now).intent.gear = b.controller.desired.gear ∧ b.softwareEstop = false ∧
      b.chassisControlFaultLatched = false ∧ b.controller.physicalEmergencyLatched = false ∧
      ¬Vcu.HandshakeLost b.controller ∧ ¬RetainedFeedbackTimeout b now ∧ ¬WatchdogExpired b now ∧
      ¬SpeedAboveCeiling b (intentView b now) ∧
      ChassisAnswers (intentView b now).intent.gear chassis)
    ⟨fun ⟨h1, h2, h3, h4, h5, h6, h7, h8, h9, h10, h11⟩ =>
      ⟨h1, h2, h3, h4, h5, h6, h7, h8, h9, h10, h11⟩,
      fun ⟨h1, h2, h3, h4, h5, h6, h7, h8, h9, h10, h11⟩ =>
        ⟨h1, h2, h3, h4, h5, h6, h7, h8, h9, h10, h11⟩⟩

instance : DecidablePred TickLosesGear := fun st =>
  match h : st.event with
  | .tick now chassis =>
    decidable_of_iff (st.before.running = true ∧ LosesGear st.before now chassis)
      (by rw [TickLosesGear, h])
  | .configure .. | .clearRuntimeControl | .setStopContext .. | .emergencyStop
  | .requestParallelHandshake .. | .requestPark | .applyState .. | .failControlApply | .ingest ..
  | .receiveFailure .. | .sendResult .. | .ioException | .beginClose | .finishClose =>
    .isFalse (by rw [TickLosesGear, h]; exact id)

/-! ## A tick that leaves the bridge without a stop -/

theorem commandChassis_answers {b : BridgeRuntime} {v : IntentView} {chassis : ChassisOutcome}
    (h : (commandChassis b v chassis).softwareEstop = false) :
    ChassisAnswers v.intent.gear chassis := by
  cases chassis with
  | rejected => exact Bool.noConfusion h
  | raised => exact Bool.noConfusion h
  | controls wheels =>
    simp only [commandChassis] at h
    split at h
    · exact Bool.noConfusion h
    · rename_i hgen
      exact Option.isSome_iff_exists.mpr ⟨_, hgen⟩

theorem prepareTick_quiet {b : BridgeRuntime} {now : ℤ} {chassis : ChassisOutcome}
    (h : (prepareTick b now chassis).softwareEstop = false) :
    b.chassisControlFaultLatched = false ∧
      ChassisAnswers (viewAt b now).intent.gear chassis ∧
      (settledAt b now).softwareEstop = false := by
  have hcases : prepareTick b now chassis =
      if (guarded b now).chassisControlFaultLatched then holdChassisControlFault (guarded b now)
      else commandChassis (limitedAt b now) (viewAt b now) chassis := rfl
  rw [hcases, guarded_fault] at h
  split at h
  · exact Bool.noConfusion h
  · rename_i hfault
    refine ⟨by simpa using hfault, commandChassis_answers h, ?_⟩
    by_contra hsettled
    have hlimited : (limitedAt b now).softwareEstop = true :=
      limited_estop (by simpa using hsettled)
    exact absurd ((commandChassis_estop hlimited chassis).symm.trans h) Bool.noConfusion

/-- A soft stop only clears with the gear confirmed. -/
theorem noEstop_of_settled {b : BridgeRuntime} {now : ℤ}
    (hsettled : (settledAt b now).softwareEstop = false)
    (hoff : (viewAt b now).actualGearMatches = false) :
    (guarded b now).softwareEstop = false := by
  by_contra hestop
  have hclears := softStopClears_of_settled (by simpa using hestop) hsettled
  exact absurd (hclears.2.2.2.2.2.symm.trans hoff) Bool.noConfusion

theorem guarded_quiet {b : BridgeRuntime} {now : ℤ}
    (hestop : (guarded b now).softwareEstop = false) :
    guarded b now = { b with lastControlTick := some now } ∧ ¬RetainedFeedbackTimeout b now ∧
      ¬WatchdogExpired b now := by
  have hsame : guarded b now = { b with lastControlTick := some now } :=
    (guarded_cases b now).resolve_right fun h => absurd (h.1.symm.trans hestop) Bool.noConfusion
  have hfeedback : ¬RetainedFeedbackTimeout b now := by
    intro ht
    have hfired : (checkFeedbackTimeout { b with lastControlTick := some now }
        now).softwareEstop = true := by
      rw [checkFeedbackTimeout, if_pos (.inl ht)]
      rfl
    unfold guarded checkControlWatchdog at hestop
    split at hestop
    · exact Bool.noConfusion hestop
    · exact absurd (hfired.symm.trans hestop) Bool.noConfusion
  refine ⟨hsame, hfeedback, fun hexpired => ?_⟩
  unfold guarded checkFeedbackTimeout at hestop
  split at hestop
  · unfold checkControlWatchdog at hestop
    split at hestop <;> exact Bool.noConfusion hestop
  · have hexpired' : WatchdogExpired { b with lastControlTick := some now } now := hexpired
    rw [checkControlWatchdog, if_pos hexpired'] at hestop
    exact Bool.noConfusion hestop

theorem belowCeiling_of_settled {b : BridgeRuntime} {v : IntentView} {now : ℤ}
    (hready : v.controllerState = .ready) (hphysical : v.physicalEmergencyLatched = false)
    (hoff : v.actualGearMatches = false)
    (hsettled : (settleLatches b v now).softwareEstop = false) : ¬SpeedAboveCeiling b v := by
  intro ha
  have hreport : reportPhysicalEmergency b v = b := by
    rw [reportPhysicalEmergency, if_neg (by simp [hphysical])]
  have hmotion : checkArmingMotion b v = b := by
    rw [checkArmingMotion, if_neg]
    rintro ⟨-, -, -, hstationary, -⟩
    rw [hready] at hstationary
    exact Bool.noConfusion hstationary
  have hlatched : (latched b v).softwareEstop = true := by
    rw [latched, hreport, hmotion, checkHardOverspeed, if_pos ha]
    rfl
  rw [settleLatches_eq, clearSoftStop, if_neg] at hsettled
  · exact absurd (hlatched.symm.trans hsettled) Bool.noConfusion
  · exact fun hclears => absurd (hclears.2.2.2.2.2.symm.trans hoff) Bool.noConfusion

theorem settleLatches_desired (b : BridgeRuntime) (v : IntentView) (now : ℤ) :
    (settleLatches b v now).controller.desired = b.controller.desired := by
  have hemergency : ∀ c : Controller, (Vcu.emergencyStop c).desired = c.desired := by
    intro c
    obtain ⟨g, h⟩ := Vcu.emergencyStop_frame c
    rw [h]
  have hmotion : ∀ b : BridgeRuntime,
      (checkArmingMotion b v).controller.desired = b.controller.desired := by
    intro b
    unfold checkArmingMotion
    split
    · exact hemergency _
    · rfl
  have hceiling : ∀ b : BridgeRuntime,
      (checkHardOverspeed b v).controller.desired = b.controller.desired := by
    intro b
    unfold checkHardOverspeed
    split
    · exact hemergency _
    · rfl
  have hclear : ∀ b : BridgeRuntime,
      (clearSoftStop b v).controller.desired = b.controller.desired := by
    intro b
    unfold clearSoftStop
    split
    · change (Vcu.clearEmergencyStop _).desired = _
      unfold Vcu.clearEmergencyStop
      split <;> rfl
    · rfl
  rw [settleLatches_eq]
  change (clearSoftStop (latched b v) v).controller.desired = _
  rw [hclear, latched, hceiling, hmotion, reportPhysicalEmergency_controller]

/-! ## The controller's own stop -/

/-- Without a stop of the bridge behind it, a gear found off in Ready was off before the tick. -/
theorem losesGear_of_mismatch {b : BridgeRuntime} {now : ℤ} {chassis : ChassisOutcome}
    (hestop : (prepareTick b now chassis).softwareEstop = false)
    (hphysical : b.controller.physicalEmergencyLatched = false)
    (hstop : (prepareTick b now chassis).controller.emergencyStop = false)
    (hlost : ¬Vcu.HandshakeLost (prepareTick b now chassis).controller)
    (hmismatch : Vcu.ReadyGearMismatch (prepareTick b now chassis).controller) :
    LosesGear b now chassis := by
  obtain ⟨hstate, hoff⟩ := hmismatch
  obtain ⟨hfault, hanswers, hsettled⟩ := prepareTick_quiet hestop
  obtain ⟨hfeedback, -, -, hready⟩ := (commands_prepareTick b now chassis).keeps
  have haccepts : AcceptsIntent (prepareTick b now chassis).controller.state := by
    rw [hstate]
    decide
  obtain ⟨generated, controller, hgear, hcase, hprepared⟩ := prepareTick_delivers hstop haccepts
  have hcontroller : (prepareTick b now chassis).controller = controller := by rw [hprepared]
  rw [hcontroller] at hstate hoff hlost hfeedback
  have hcomposed : (composeCommand (limitedAt b now) (viewAt b now) generated).gear =
      (viewAt b now).intent.gear := hgear
  -- The command was accepted in Ready, so it did not ask for another gear.
  have hdesired : controller.desired.gear = (viewAt b now).intent.gear ∧
      (settledAt b now).controller.desired.gear = (viewAt b now).intent.gear := by
    cases hcase with
    | accepted hv hsame =>
      refine ⟨hcomposed, (hsame.resolve_right fun hne => hne hstate).trans hcomposed⟩
    | regear hv hne hbefore => exact Vcu.State.noConfusion hstate
  rw [hdesired.1, hfeedback] at hoff
  have hviewFeedback : (guarded b now).controller.feedback = b.controller.feedback :=
    (commands_guarded b now).keeps.1
  have hmatches : (viewAt b now).actualGearMatches = false := by
    simp only [viewAt, intentView, hviewFeedback, gearFeedbackFresh, Bool.and_eq_false_iff,
      decide_eq_false_iff_not]
    rcases hoff with hinvalid | hne
    · exact .inl (.inl (.inl hinvalid))
    · exact .inr hne
  have hguarded := noEstop_of_settled hsettled hmatches
  obtain ⟨hsame, hretained, hexpired⟩ := guarded_quiet hguarded
  have hview : viewAt b now = intentView b now := by rw [viewAt, hsame]; rfl
  have hbefore : b.controller.state = .ready := hready (hcontroller ▸ hstate)
  have hceiling : ¬SpeedAboveCeiling b (intentView b now) := by
    have hstate : (viewAt b now).controllerState = .ready := by
      rw [hview]
      exact hbefore
    have hunlatched : (viewAt b now).physicalEmergencyLatched = false := by
      rw [hview]
      exact hphysical
    have h : ¬SpeedAboveCeiling (guarded b now) (viewAt b now) :=
      belowCeiling_of_settled hstate hunlatched hmatches hsettled
    rw [hview, hsame] at h
    exact h
  have hbeforeDesired : b.controller.desired.gear = (intentView b now).intent.gear := by
    rw [← hview, ← hdesired.2, settledAt, settleLatches_desired, hsame]
  have hlostBefore : ¬Vcu.HandshakeLost b.controller := by
    rw [Vcu.HandshakeLost, hbefore]
    rwa [Vcu.HandshakeLost, hfeedback, hstate] at hlost
  rw [hview] at hoff hanswers
  refine ⟨hbefore, hbeforeDesired ▸ hoff, hbeforeDesired.symm, ?_, hfault, hphysical, hlostBefore,
    hretained, hexpired, hceiling, hanswers⟩
  rw [hsame] at hguarded
  exact hguarded

/-- A revocation or a fault that the bridge has yet to report raises its stop. -/
theorem settleTick_estop_of_unreported {b : BridgeRuntime} {stateBefore : Vcu.State}
    (h : (b.controller.handshakeRevoked = true ∧ b.handshakeRevokedReported = false) ∨
      (b.controller.state = .fault ∧ stateBefore ≠ .fault)) (now : ℤ) :
    (settleTick b now stateBefore).softwareEstop = true := by
  rw [settleTick_softwareEstop]
  rcases h with hrevoked | hfault
  · refine reportFault_estop ?_ stateBefore
    rw [reportRevocation, if_pos hrevoked]
    rfl
  · rw [reportFault, if_pos (by rwa [reportRevocation_controller])]
    rfl

theorem advanceState_of_handshakeLost {c : Controller} (h : Vcu.HandshakeLost c) :
    Vcu.advanceState c = Vcu.transportFault c := by
  have harming : ¬Vcu.ArmingEmergency c := by
    rintro ⟨-, htarget⟩
    rw [h.1] at htarget
    exact absurd htarget (by decide)
  rw [Vcu.advanceState, if_neg harming, if_pos h]

/-- Up to the controller's tick: a bridge that is not stopped, and stays so, has a controller that
is not stopped. -/
theorem prepareTick_known {b : BridgeRuntime} (hi : BridgeInvariant b) (hk : Known (stopView b))
    {now : ℤ} {chassis : ChassisOutcome} (hestop : (prepareTick b now chassis).softwareEstop = false)
    (hreported : (prepareTick b now chassis).controller.handshakeRevoked = true →
      (prepareTick b now chassis).handshakeRevokedReported = true) :
    b.controller.physicalEmergencyLatched = false ∧
      (prepareTick b now chassis).controller.emergencyStop = false := by
  have hphysical : b.controller.physicalEmergencyLatched = false := by
    by_contra h
    have hguarded : (guarded b now).controller.physicalEmergencyLatched = true :=
      (commands_guarded b now).keeps.2.1.trans (Bool.eq_true_of_not_eq_false h)
    have hon := updateCommandFromIntent_estop now (controlDtSeconds b now) chassis hguarded
    exact absurd (hon.symm.trans hestop) Bool.noConfusion
  refine ⟨hphysical, ?_⟩
  by_contra hon
  have hfault : (guarded b now).chassisControlFaultLatched = false := by
    rw [guarded_fault]
    exact (prepareTick_quiet hestop).1
  have hguarded : ControllerInvariant (guarded b now).controller :=
    Drives.keeps (drives_of_calls (calls_of_commands (commands_guarded b now))) hi.controller
  have hkeeps : Keeps (stopView b) (stopView (prepareTick b now chassis)) :=
    (keeps_guarded b now).trans
      (keeps_updateCommandFromIntent now (controlDtSeconds b now) chassis hguarded hfault)
  rcases (hkeeps hi.stops).2 hk (Bool.eq_true_of_not_eq_false hon) with h | h | ⟨h, hnot⟩
  · exact absurd (h.symm.trans hestop) Bool.noConfusion
  · have hsame := (commands_prepareTick b now chassis).keeps.2.1
    exact absurd (h.symm.trans (hsame.trans hphysical)) Bool.noConfusion
  · exact absurd ((hreported h).symm.trans hnot) Bool.noConfusion

/-- Unless the controller finds the gear off by itself, the bridge has taken over every stop. -/
theorem tick_known_unless {b : BridgeRuntime} (hi : BridgeInvariant b) (hk : Known (stopView b))
    {now : ℤ} {chassis : ChassisOutcome}
    (hn : (prepareTick b now chassis).softwareEstop = false →
      b.controller.physicalEmergencyLatched = false →
      (prepareTick b now chassis).controller.emergencyStop = false →
      ¬Vcu.HandshakeLost (prepareTick b now chassis).controller →
      ¬Vcu.ReadyGearMismatch (prepareTick b now chassis).controller)
    (hstop : (ticked b now chassis).controller.emergencyStop = true) :
    (settleTick (ticked b now chassis) now b.controller.state).softwareEstop = true := by
  by_contra hno
  have hadvanced : (ticked b now chassis).controller =
      Vcu.advanceState (prepareTick b now chassis).controller := rfl
  have hestop : (prepareTick b now chassis).softwareEstop = false := by
    by_contra h
    have hon : (ticked b now chassis).softwareEstop = true := Bool.eq_true_of_not_eq_false h
    exact hno (settleTick_estop hon now _)
  have hreported : (prepareTick b now chassis).controller.handshakeRevoked = true →
      (prepareTick b now chassis).handshakeRevokedReported = true := by
    intro hrevoked
    by_contra hnot
    have hunreported : (ticked b now chassis).controller.handshakeRevoked = true ∧
        (ticked b now chassis).handshakeRevokedReported = false := by
      rw [hadvanced, Vcu.advanceState_handshakeRevoked]
      exact ⟨hrevoked, Bool.eq_false_of_not_eq_true hnot⟩
    exact hno (settleTick_estop_of_unreported (.inl hunreported) now)
  obtain ⟨hphysical, hquiet⟩ := prepareTick_known hi hk hestop hreported
  have hcommands := commands_prepareTick b now chassis
  have hcontroller : ControllerInvariant (prepareTick b now chassis).controller :=
    Drives.keeps (drives_of_calls (calls_of_commands hcommands)) hi.controller
  obtain ⟨-, hphysicalSame, -, hready⟩ := hcommands.keeps
  have hlost : ¬Vcu.HandshakeLost (prepareTick b now chassis).controller := by
    intro hl
    have hunreported : (ticked b now chassis).controller.state = .fault ∧
        b.controller.state ≠ .fault := by
      rw [hadvanced, advanceState_of_handshakeLost hl, hready hl.1]
      exact ⟨rfl, fun h => Vcu.State.noConfusion h⟩
    exact hno (settleTick_estop_of_unreported (.inr hunreported) now)
  have hcase := Vcu.advanceState_cases (prepareTick b now chassis).controller
  rw [hadvanced] at hstop
  generalize Vcu.advanceState (prepareTick b now chassis).controller = advanced at hcase hstop
  cases hcase with
  | emergency ha g =>
    rcases ha.1 with hon | hswitch
    · exact absurd (hon.symm.trans hquiet) Bool.noConfusion
    · have hlatched := hcontroller.latched_of_switch hswitch
      exact absurd (hlatched.symm.trans (hphysicalSame.trans hphysical)) Bool.noConfusion
  | handshakeLost hl => exact hlost hl
  | gearMismatch hg => exact hn hestop hphysical hquiet hlost hg
  | stage ha hl hg =>
    obtain ⟨g, n, hframe⟩ := Vcu.advanceStage_frame (prepareTick b now chassis).controller
    rw [hframe] at hstop
    exact absurd (hstop.symm.trans hquiet) Bool.noConfusion

/-- Unless the gear is lost unnoticed, the bridge has taken over every stop of the controller. -/
theorem tick_known {b : BridgeRuntime} (hi : BridgeInvariant b) (hk : Known (stopView b))
    {now : ℤ} {chassis : ChassisOutcome} (hn : ¬LosesGear b now chassis)
    (hstop : (ticked b now chassis).controller.emergencyStop = true) :
    (settleTick (ticked b now chassis) now b.controller.state).softwareEstop = true :=
  tick_known_unless hi hk
    (fun hestop hphysical hquiet hlost hg =>
      hn (losesGear_of_mismatch hestop hphysical hquiet hlost hg)) hstop

/-! ## Every run -/

/-- Only a controller that stops transmits a pressure above the ordinary ones. -/
theorem emergencyStop_of_pressure {c : Controller} (hi : ControllerInvariant c)
    {i : Fin Vcu.brakeCount}
    (h : maxOrdinaryBrakePressureBar < (Vcu.commandBatch c).brakePressure i) :
    c.emergencyStop = true := by
  have hshutdown : c.state ∈ Vcu.shutdownStates → c.emergencyStop = true := hi.stop_of_shutdown
  have hzero : (0 : ℚ) ≤ maxOrdinaryBrakePressureBar := by norm_num [maxOrdinaryBrakePressureBar]
  rw [Vcu.commandBatch_brakePressure] at h
  split_ifs at h with hsafety hparking hstate
  · rcases hsafety with hneutral | hon | hswitch | hmem
    · exact hshutdown (by rw [hneutral]; decide)
    · exact hon
    · exact hi.latches.stop_of_physical (hi.latched_of_switch hswitch)
    · refine hshutdown ?_
      revert hmem
      generalize c.state = state
      cases state <;> decide
  · exact absurd h (not_lt.mpr hi.parking_brake)
  · exact absurd h (not_lt.mpr (hi.desired_brake i))
  · exact absurd h (not_lt.mpr hzero)

theorem reportsStop_of_estop {b : BridgeRuntime} {now : ℤ} {stateBefore : Vcu.State}
    (hi : StopInvariant (stopView (settleTick b now stateBefore)))
    (he : (settleTick b now stateBefore).softwareEstop = true) :
    ReportsStop (settleTick b now stateBefore) := by
  have hfeedback : ∀ b : BridgeRuntime, StopInvariant (stopView (updateFeedback b)) →
      (updateFeedback b).softwareEstop = true → ReportsStop (updateFeedback b) := by
    intro b hi he
    have hestop : b.softwareEstop = true := he
    have hsource : b.stopSource ≠ .none := hi.source_of_estop he
    simp [ReportsStop, updateFeedback, hestop, hsource]
  exact hfeedback _ hi he

theorem tick_reports {b : BridgeRuntime} (hi : BridgeInvariant b) (hk : Known (stopView b))
    (hrun : b.running = true) {now : ℤ} {chassis : ChassisOutcome}
    (hn : ¬LosesGear b now chassis)
    (hstops : StopsVehicle (Vcu.commandBatch (ticked b now chassis).controller)
      (tick b now chassis).2) : ReportsStop (tick b now chassis).2 := by
  have hafter := bridgeInvariant_tick hi now chassis
  rw [tick_running hrun] at hafter hstops ⊢
  refine reportsStop_of_estop hafter.stops (tick_known hi hk hn ?_)
  have hcontroller := settleTick_controller (ticked b now chassis) now b.controller.state
  rw [← hcontroller]
  rcases hstops with hon | ⟨i, hpressure⟩
  · exact hon
  · rw [hcontroller]
    exact emergencyStop_of_pressure (hcontroller ▸ hafter.controller) hpressure

/-- Until the gear is lost unnoticed, the bridge knows of every stop. -/
theorem known_respond {b : BridgeRuntime} (hi : BridgeInvariant b) (hk : Known (stopView b))
    {e : Event} {opened : BridgeRuntime} (hc : ¬TickLosesGear ((machine opened).observe b e)) :
    Known (stopView (respond b e).2) := by
  cases e with
  | tick now chassis =>
    cases hrun : b.running with
    | false =>
      rw [respond, tick, if_pos hrun]
      exact hk
    | true =>
      have hn : ¬LosesGear b now chassis := fun h => hc ⟨hrun, h⟩
      simp only [respond, tick_running hrun]
      intro hstop
      refine .inl (tick_known hi hk hn ?_)
      rw [← settleTick_controller (ticked b now chassis) now b.controller.state]
      exact hstop
  | _ => exact ((respond_cases b _ fun _ _ h => Event.noConfusion h).keeps hi.stops).2 hk

theorem Fresh.known {b : BridgeRuntime} (h : Fresh b) : Known (stopView b) := fun hstop =>
  have hon : b.controller.emergencyStop = true := hstop
  absurd (hon.symm.trans h.noStop) Bool.noConfusion

/-- **Stop reporting.** In every run of an opened bridge in which no tick loses the gear unnoticed,
a tick that stops the vehicle leaves telemetry that reports a stop and its source. -/
theorem stops_are_reported {opened b : BridgeRuntime} {h : History BridgeRuntime Event Reply}
    (ho : Opened opened) (hr : Run (machine opened) h b)
    (hc : Steps (fun st => ¬TickLosesGear st) h) : Steps StopReportLaw h := by
  refine hr.always_of_link (R := fun _ b => BridgeInvariant b ∧ Known (stopView b))
    ⟨ho.fresh.invariant, ho.fresh.known⟩
    (fun _ b e _ hi hc => ⟨bridgeInvariant_respond b e hi.1, known_respond hi.1 hi.2 hc⟩) ?_ hc
  rintro _ b e - ⟨hi, hk⟩ hc now chassis batch he hout hstops
  obtain rfl : e = .tick now chassis := he
  cases hrun : b.running with
  | false => simp [Machine.observe, machine, respond, tick, hrun] at hout
  | true =>
    have hbatch : batch = Vcu.commandBatch (ticked b now chassis).controller := by
      simp only [Machine.observe, machine, respond, tick_running hrun, Reply.transmitted.injEq,
        Option.some.injEq] at hout
      exact hout.symm
    subst hbatch
    exact tick_reports hi hk hrun (fun h => hc ⟨hrun, h⟩) hstops

/-! ## A stop nobody reports -/

/-- Ready in D at 200 ms; at 210 ms the vehicle reports N. -/
def gearLostEvents : List Event := armEvents ++ [.ingest (ms 210) (Vcu.vehicleStatusFrame 1)]

theorem stopReportLaw_tick {opened b : BridgeRuntime} {now : ℤ} {chassis : ChassisOutcome}
    (hl : StopReportLaw ((machine opened).observe b (.tick now chassis)))
    (hrun : b.running = true) (hstop : (tick b now chassis).2.controller.emergencyStop = true) :
    ReportsStop (tick b now chassis).2 :=
  hl now chassis _ rfl (congrArg Reply.transmitted (congrArg Prod.fst (tick_running hrun now
    chassis))) (.inl hstop)

theorem stops_are_reported_fails :
    ¬∀ (opened b : BridgeRuntime) (h : History BridgeRuntime Event Reply), Opened opened →
      Run (machine opened) h b → ClockMonotone h → Steps StopReportLaw h := by
  intro hall
  have hmonotone :
      ClockMonotone ((machine benchBridge).play (gearLostEvents ++ [tickAt 220])).1 := by
    decide +kernel
  have hlaw := hall benchBridge _ _ benchBridge_opened (Run.play _ _) hmonotone
  rw [Machine.play_concat] at hlaw
  have hreports := stopReportLaw_tick hlaw.1 (by decide +kernel) (by decide +kernel)
  revert hreports
  decide +kernel

/-- Cut off at 300 ms, the watchdog's stop is reported. -/
theorem stops_are_reported_cutOff :
    let run := (machine benchBridge).play (armEvents ++ [220, 240, 260, 280, 300, 320].map tickAt)
    run.2.controller.emergencyStop = true ∧ Steps StopReportLaw run.1 :=
  ⟨by decide +kernel, stops_are_reported benchBridge_opened (Run.play _ _) (by decide +kernel)⟩

end MineTeleop.Bridge
