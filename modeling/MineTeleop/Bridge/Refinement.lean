import MineTeleop.Bridge.Loop
import MineTeleop.Vcu.Latches

/-!
# The bridge drives the controller

Every entry point of the bridge and every iteration of its loop changes the controller only
through the controller's own member functions, and calls them only as `Driven` says: never
`reset`, `clear_emergency_stop` only in Ready, no command above the ordinary brake pressure.

Proved here:

* `drives_respond`: one event of the bridge is a path of such calls;
* `controllerInvariant_of_run`: the controller's invariant in every run of an opened bridge, for
  its latches, its shutdown states and the brake pressures it holds.
-/

namespace MineTeleop.Bridge

open Runs Runs.Machine
open Vcu (Controller Command CanFrame LatchInvariant shutdownStates)

/-- The calls by which the command of a tick is prepared. -/
def Commanded (c : Controller) : Vcu.Event → Prop
  | .setCommand command => ∀ i, command.brakePressureBar i ≤ maxOrdinaryBrakePressureBar
  | .setAutomaticParking _ _ _ brakeBar => brakeBar ≤ maxOrdinaryBrakePressureBar
  | .clearEmergencyStop => c.state = .ready
  | .emergencyStop => True
  | .transportFault => True
  | _ => False

/-- The calls between two ticks. -/
def Called (c : Controller) : Vcu.Event → Prop
  | .requestParallelHandshake => True
  | .requestDisarm => True
  | .ingest _ => True
  | e => Commanded c e

/-- The calls the bridge makes once it is open. -/
def Driven (c : Controller) : Vcu.Event → Prop
  | .tick => True
  | e => Called c e

abbrev Commands (b b' : BridgeRuntime) : Prop :=
  Vcu.machine.Path Commanded b.controller b'.controller

abbrev Calls (b b' : BridgeRuntime) : Prop := Vcu.machine.Path Called b.controller b'.controller

abbrev Drives (b b' : BridgeRuntime) : Prop := Vcu.machine.Path Driven b.controller b'.controller

theorem calls_of_commands {c c' : Controller} (h : Vcu.machine.Path Commanded c c') :
    Vcu.machine.Path Called c c' := by
  refine Machine.Path.mono (fun c e he => ?_) h
  cases e <;> first | exact he | exact trivial

theorem drives_of_calls {c c' : Controller} (h : Vcu.machine.Path Called c c') :
    Vcu.machine.Path Driven c c' := by
  refine Machine.Path.mono (fun c e he => ?_) h
  cases e <;> first | exact he | exact trivial

/-! ## Single calls -/

theorem commands_one (c : Controller) (e : Vcu.Event) (h : Commanded c e) :
    Vcu.machine.Path Commanded c (Vcu.respond c e).2 :=
  Machine.Path.one e h

theorem calls_one (c : Controller) (e : Vcu.Event) (h : Called c e) :
    Vcu.machine.Path Called c (Vcu.respond c e).2 :=
  Machine.Path.one e h

theorem commands_emergencyStop (c : Controller) :
    Vcu.machine.Path Commanded c (Vcu.emergencyStop c) :=
  commands_one c .emergencyStop trivial

theorem commands_transportFault (c : Controller) :
    Vcu.machine.Path Commanded c (Vcu.transportFault c) :=
  commands_one c .transportFault trivial

theorem drives_one (c : Controller) (e : Vcu.Event) (h : Driven c e) :
    Vcu.machine.Path Driven c (Vcu.respond c e).2 :=
  Machine.Path.one e h

theorem calls_requestDisarm (c : Controller) :
    Vcu.machine.Path Called c (Vcu.requestDisarm c) :=
  calls_one c .requestDisarm trivial

theorem drives_tick (c : Controller) : Vcu.machine.Path Driven c (Vcu.tick c).2 :=
  drives_one c .tick trivial

theorem automaticParkingPressureBar_le (b : BridgeRuntime) :
    automaticParkingPressureBar b ≤ maxOrdinaryBrakePressureBar := by
  unfold automaticParkingPressureBar
  split
  · exact (min_le_left _ _).trans (by norm_num [automaticParkingBrakePressureBar,
      maxOrdinaryBrakePressureBar])
  · norm_num [maxOrdinaryBrakePressureBar]

theorem commands_setAutomaticParking (c : Controller) (b : BridgeRuntime)
    (enabled requested stoppedFresh : Bool) :
    Vcu.machine.Path Commanded c
      (Vcu.setAutomaticParking c enabled requested stoppedFresh (automaticParkingPressureBar b)) :=
  commands_one c (.setAutomaticParking enabled requested stoppedFresh (automaticParkingPressureBar b))
    (automaticParkingPressureBar_le b)

theorem commands_setCommand (c : Controller) {command : Command}
    (h : ∀ i, command.brakePressureBar i ≤ maxOrdinaryBrakePressureBar) :
    Vcu.machine.Path Commanded c (Vcu.setCommand c command).2 :=
  commands_one c (.setCommand command) h

/-! ## Entry points -/

theorem calls_storeIntent (b : BridgeRuntime) (now : ℤ) (a : IntentArguments) :
    Calls b (storeIntent b now a).2 := by
  unfold storeIntent
  split_ifs <;> exact Machine.Path.refl _

theorem calls_requestPark (b : BridgeRuntime) : Calls b (requestPark b).2 := by
  unfold requestPark
  split_ifs
  · exact Machine.Path.refl _
  · exact calls_requestDisarm b.controller

theorem calls_applyState (b : BridgeRuntime) (now : ℤ) (a : ApplyArguments) :
    Calls b (applyState b now a).2 := by
  unfold applyState
  split
  · exact calls_of_commands (commands_emergencyStop b.controller)
  · split_ifs
    · exact calls_requestPark b
    · exact calls_storeIntent b now _

theorem calls_configureRuntimeControl (b : BridgeRuntime) (now : ℤ)
    (config : RuntimeControlConfig) (expected : ℕ) (riseRate : Double) (parking : ℤ) :
    Calls b (configureRuntimeControl b now config expected riseRate parking).2.2 := by
  unfold configureRuntimeControl
  split
  · exact Machine.Path.refl _
  split
  · exact Machine.Path.refl _
  split
  · exact Machine.Path.refl _
  split
  · exact Machine.Path.refl _
  extract_lets recovered
  have hcontroller : recovered.controller = b.controller := by
    unfold recovered
    split <;> rfl
  refine calls_of_commands ?_
  change Vcu.machine.Path Commanded b.controller (Vcu.setAutomaticParking recovered.controller _ _ _
    (automaticParkingPressureBar _))
  rw [hcontroller]
  exact commands_setAutomaticParking b.controller _ _ _ _

theorem calls_configure (b : BridgeRuntime) (now : ℤ) (entry : ProfileEntry)
    (config : RuntimeControlConfig) : Calls b (configure b now entry config).2.2 := by
  cases entry with
  | v1 => exact calls_configureRuntimeControl b now config _ _ _
  | v2 => exact calls_configureRuntimeControl b now config _ _ _
  | v3 =>
    simp only [configure, configureRuntimeControlV3]
    split_ifs
    · exact Machine.Path.refl _
    · exact calls_configureRuntimeControl b now config _ _ _

theorem calls_requestParallelHandshake (b : BridgeRuntime) (now : ℤ) :
    Calls b (requestParallelHandshake b now).2 := by
  unfold requestParallelHandshake
  split_ifs
  · exact Machine.Path.refl _
  · exact Machine.Path.refl _
  · exact calls_one b.controller .requestParallelHandshake trivial
  · exact calls_one b.controller .requestParallelHandshake trivial

theorem calls_ingest (b : BridgeRuntime) (now : ℤ) (frame : CanFrame) :
    Calls b (ingest b now frame) := by
  have hone : Vcu.machine.Path Called b.controller (Vcu.ingest b.controller frame).2 :=
    calls_one b.controller (.ingest frame) trivial
  unfold ingest recordFrame
  generalize Vcu.ingest b.controller frame = r at hone ⊢
  obtain ⟨accepted, controller⟩ := r
  simp only
  split_ifs
  · exact hone
  · exact hone
  · exact Machine.Path.refl _

/-! ## One iteration -/

theorem commands_checkFeedbackTimeout (b : BridgeRuntime) (now : ℤ) :
    Commands b (checkFeedbackTimeout b now) := by
  unfold checkFeedbackTimeout
  split_ifs
  · exact commands_transportFault b.controller
  · exact Machine.Path.refl _

theorem commands_checkControlWatchdog (b : BridgeRuntime) (now : ℤ) :
    Commands b (checkControlWatchdog b now) := by
  unfold checkControlWatchdog
  split_ifs
  · exact commands_emergencyStop b.controller
  · exact Machine.Path.refl _

theorem reportPhysicalEmergency_controller (b : BridgeRuntime) (v : IntentView) :
    (reportPhysicalEmergency b v).controller = b.controller := by
  unfold reportPhysicalEmergency
  split_ifs
  · simp only
    split_ifs <;> rfl
  · rfl

theorem commands_reportPhysicalEmergency (b : BridgeRuntime) (v : IntentView) :
    Commands b (reportPhysicalEmergency b v) := by
  rw [Commands, reportPhysicalEmergency_controller]
  exact Machine.Path.refl _

theorem commands_checkArmingMotion (b : BridgeRuntime) (v : IntentView) :
    Commands b (checkArmingMotion b v) := by
  unfold checkArmingMotion
  split
  · exact commands_emergencyStop b.controller
  · exact Machine.Path.refl _

theorem commands_checkHardOverspeed (b : BridgeRuntime) (v : IntentView) :
    Commands b (checkHardOverspeed b v) := by
  unfold checkHardOverspeed
  split
  · exact commands_emergencyStop b.controller
  · exact Machine.Path.refl _

theorem commands_clearSoftStop (b : BridgeRuntime) (v : IntentView) :
    Commands b (clearSoftStop b v) := by
  unfold clearSoftStop
  split
  · rename_i h
    exact commands_one b.controller .clearEmergencyStop h.2.2.2.1
  · exact Machine.Path.refl _

theorem commands_updateAutomaticParking (b : BridgeRuntime) (v : IntentView) (now : ℤ) :
    Commands b (updateAutomaticParking b v now) :=
  commands_setAutomaticParking b.controller b _ _ _

/-- The bridge once every latch that can stop it has been looked at. -/
def latched (b : BridgeRuntime) (v : IntentView) : BridgeRuntime :=
  checkHardOverspeed (checkArmingMotion (reportPhysicalEmergency b v) v) v

theorem commands_latched (b : BridgeRuntime) (v : IntentView) : Commands b (latched b v) :=
  ((commands_reportPhysicalEmergency b v).trans (commands_checkArmingMotion _ v)).trans
    (commands_checkHardOverspeed _ v)

theorem settleLatches_eq (b : BridgeRuntime) (v : IntentView) (now : ℤ) :
    settleLatches b v now = updateAutomaticParking (clearSoftStop (latched b v) v) v now := rfl

theorem commands_settleLatches (b : BridgeRuntime) (v : IntentView) (now : ℤ) :
    Commands b (settleLatches b v now) := by
  rw [settleLatches_eq]
  exact ((commands_latched b v).trans (commands_clearSoftStop _ v)).trans
    (commands_updateAutomaticParking _ v now)

theorem regulateSpeed_controller (b : BridgeRuntime) (v : IntentView) (now : ℤ) (dt : ℚ) :
    (regulateSpeed b v now dt).2.controller = b.controller := by
  unfold regulateSpeed
  split_ifs <;> rfl

theorem limitTraction_controller (b : BridgeRuntime) (active : Prop) [Decidable active]
    (output dt : ℚ) : (limitTraction b active output dt).controller = b.controller := by
  unfold limitTraction
  split_ifs <;> rfl

theorem composeCommand_brake (b : BridgeRuntime) (v : IntentView) {generated : Command}
    (h : ∀ i, generated.brakePressureBar i ≤ maxOrdinaryBrakePressureBar)
    (i : Fin Vcu.brakeCount) :
    (composeCommand b v generated).brakePressureBar i ≤ maxOrdinaryBrakePressureBar := by
  simp only [composeCommand]
  split_ifs
  · norm_num [maxOrdinaryBrakePressureBar]
  · exact (quantizeBrakePressureBar_bounds _).2
  · norm_num [maxOrdinaryBrakePressureBar]
  · exact h i

theorem commandFromChassisControl_brake {gear : ℤ} {wheels : List WheelControl}
    {generated : Command} (h : commandFromChassisControl gear wheels = some generated)
    (i : Fin Vcu.brakeCount) : generated.brakePressureBar i ≤ maxOrdinaryBrakePressureBar := by
  unfold commandFromChassisControl at h
  split_ifs at h
  obtain ⟨outputs, -, rfl⟩ := Option.map_eq_some_iff.mp h
  exact (quantizeBrakePressureBar_bounds _).2

theorem commands_submitCommand (b : BridgeRuntime) {command : Command}
    (h : ∀ i, command.brakePressureBar i ≤ maxOrdinaryBrakePressureBar) :
    Commands b (submitCommand b command) := by
  have hset := commands_setCommand b.controller h
  unfold submitCommand
  split
  · extract_lets result
    split
    · exact hset
    · exact hset.trans (commands_emergencyStop result.2)
  · exact Machine.Path.refl _

theorem commands_commandChassis (b : BridgeRuntime) (v : IntentView) (chassis : ChassisOutcome) :
    Commands b (commandChassis b v chassis) := by
  cases chassis with
  | rejected => exact commands_transportFault b.controller
  | raised => exact commands_transportFault b.controller
  | controls wheels =>
    simp only [commandChassis]
    split
    · exact commands_transportFault b.controller
    · rename_i generated hgen
      refine (commands_submitCommand b (composeCommand_brake b v
        (commandFromChassisControl_brake hgen))).trans ?_
      simp only [enforceHardLatches]
      split_ifs
      · exact commands_emergencyStop _
      · exact Machine.Path.refl _

theorem commands_updateCommandFromIntent (b : BridgeRuntime) (now : ℤ) (dt : ℚ)
    (chassis : ChassisOutcome) : Commands b (updateCommandFromIntent b now dt chassis) := by
  unfold updateCommandFromIntent
  split_ifs
  · simp only [Commands, holdChassisControlFault, resetDirectTraction, resetSpeedPid]
    split_ifs
    · exact commands_transportFault b.controller
    · exact Machine.Path.refl _
  · refine (commands_settleLatches b (intentView b now) now).trans ?_
    refine Machine.Path.trans ?_ (commands_commandChassis _ _ chassis)
    rw [limitTraction_controller, regulateSpeed_controller]
    exact Machine.Path.refl _

theorem commands_prepareTick (b : BridgeRuntime) (now : ℤ) (chassis : ChassisOutcome) :
    Commands b (prepareTick b now chassis) :=
  ((commands_checkFeedbackTimeout { b with lastControlTick := some now } now).trans
    (commands_checkControlWatchdog _ now)).trans (commands_updateCommandFromIntent _ now _ chassis)

theorem reportRevocation_controller (b : BridgeRuntime) :
    (reportRevocation b).controller = b.controller := by
  unfold reportRevocation
  split <;> rfl

theorem reportFault_controller (b : BridgeRuntime) (stateBefore : Vcu.State) :
    (reportFault b stateBefore).controller = b.controller := by
  unfold reportFault
  split <;> rfl

theorem latchSessionReady_controller (b : BridgeRuntime) (now : ℤ) :
    (latchSessionReady b now).controller = b.controller := by
  unfold latchSessionReady
  split
  · rfl
  · split <;> rfl

theorem armFeedbackDeadline_controller (b : BridgeRuntime) (now : ℤ) :
    (armFeedbackDeadline b now).controller = b.controller := by
  unfold armFeedbackDeadline
  split <;> rfl

/-- What follows the controller's tick leaves the controller alone. -/
theorem settleTick_controller (b : BridgeRuntime) (now : ℤ) (stateBefore : Vcu.State) :
    (settleTick b now stateBefore).controller = b.controller := by
  change (armFeedbackDeadline _ now).controller = _
  rw [armFeedbackDeadline_controller, latchSessionReady_controller, reportFault_controller,
    reportRevocation_controller]

theorem drives_tickEvent (b : BridgeRuntime) (now : ℤ) (chassis : ChassisOutcome) :
    Drives b (tick b now chassis).2 := by
  unfold tick
  split
  · exact Machine.Path.refl _
  · rw [Drives, settleTick_controller]
    exact (drives_of_calls (calls_of_commands (commands_prepareTick b now chassis))).trans (drives_tick _)

theorem calls_sendResult (b : BridgeRuntime) (failed : Bool) :
    Calls b (sendResult b failed) := by
  unfold sendResult
  extract_lets failures counted
  split
  · exact calls_of_commands (commands_transportFault b.controller)
  · exact Machine.Path.refl _

theorem calls_whileRunning {b next : BridgeRuntime} (h : Calls b next) :
    Calls b (whileRunning b next) := by
  unfold whileRunning
  split
  · exact h
  · exact Machine.Path.refl _

theorem calls_respond (b : BridgeRuntime) (e : Event) (he : ∀ now chassis, e ≠ .tick now chassis) :
    Calls b (respond b e).2 := by
  cases e with
  | configure now entry config => exact calls_configure b now entry config
  | clearRuntimeControl => exact Machine.Path.refl _
  | setStopContext context =>
    simp only [respond, setStopContext]
    split
    · split_ifs <;> exact Machine.Path.refl _
    · exact Machine.Path.refl _
  | emergencyStop =>
    simp only [respond, emergencyStop]
    split_ifs
    · exact Machine.Path.refl _
    · exact calls_of_commands (commands_emergencyStop b.controller)
  | requestParallelHandshake now => exact calls_requestParallelHandshake b now
  | requestPark => exact calls_requestPark b
  | applyState now arguments => exact calls_applyState b now arguments
  | failControlApply => exact calls_of_commands (commands_emergencyStop b.controller)
  | ingest now frame => exact calls_ingest b now frame
  | receiveFailure receiveResult =>
    exact calls_whileRunning (calls_of_commands (commands_transportFault b.controller))
  | tick now chassis => exact absurd rfl (he now chassis)
  | sendResult failed => exact calls_whileRunning (calls_sendResult b failed)
  | ioException => exact calls_whileRunning (calls_of_commands (commands_transportFault b.controller))
  | beginClose =>
    simp only [respond, beginClose]
    split_ifs
    · exact Machine.Path.refl _
    · exact calls_requestDisarm b.controller
  | finishClose =>
    simp only [respond, finishClose]
    split_ifs <;> exact Machine.Path.refl _

/-- Every event of the bridge is a path of the calls that `Driven` allows. -/
theorem drives_respond (b : BridgeRuntime) (e : Event) : Drives b (respond b e).2 := by
  cases e with
  | tick now chassis => exact drives_tickEvent b now chassis
  | _ => exact drives_of_calls (calls_respond b _ fun _ _ h => Event.noConfusion h)

/-! ## What the calls keep -/

/-- The calls that prepare a command leave the feedback and the latches alone, and none of them
makes the controller Ready. -/
theorem commanded_keeps (c : Controller) (e : Vcu.Event) (h : Commanded c e) :
    (Vcu.respond c e).2.feedback = c.feedback ∧
    (Vcu.respond c e).2.physicalEmergencyLatched = c.physicalEmergencyLatched ∧
    (Vcu.respond c e).2.handshakeRevoked = c.handshakeRevoked ∧
    ((Vcu.respond c e).2.state = .ready → c.state = .ready) := by
  cases e with
  | setCommand command =>
    have hcase := Vcu.setCommand_cases c command
    simp only [Vcu.respond]
    generalize Vcu.setCommand c command = result at hcase ⊢
    cases hcase with
    | rejected => exact ⟨rfl, rfl, rfl, id⟩
    | moving g hgear hshut => exact ⟨rfl, rfl, rfl, Vcu.ready_of_stoppedState⟩
    | accepted hv hsame => exact ⟨rfl, rfl, rfl, id⟩
    | regear hv hgear hready => exact ⟨rfl, rfl, rfl, fun _ => hready⟩
  | setAutomaticParking enabled requested stoppedFresh brakeBar => exact ⟨rfl, rfl, rfl, id⟩
  | emergencyStop =>
    obtain ⟨g, hframe⟩ := Vcu.emergencyStop_frame c
    simp only [Vcu.respond, hframe]
    exact ⟨trivial, trivial, trivial, Vcu.ready_of_stoppedState⟩
  | clearEmergencyStop =>
    simp only [Vcu.respond, Vcu.clearEmergencyStop]
    split <;> exact ⟨rfl, rfl, rfl, id⟩
  | transportFault => exact ⟨rfl, rfl, rfl, fun h => Vcu.State.noConfusion h⟩
  | _ => exact absurd h id

theorem Commands.keeps {b b' : BridgeRuntime} (h : Commands b b') :
    b'.controller.feedback = b.controller.feedback ∧
    b'.controller.physicalEmergencyLatched = b.controller.physicalEmergencyLatched ∧
    b'.controller.handshakeRevoked = b.controller.handshakeRevoked ∧
    (b'.controller.state = .ready → b.controller.state = .ready) :=
  Machine.Path.keeps
    (I := fun c => c.feedback = b.controller.feedback ∧
      c.physicalEmergencyLatched = b.controller.physicalEmergencyLatched ∧
      c.handshakeRevoked = b.controller.handshakeRevoked ∧
      (c.state = .ready → b.controller.state = .ready))
    (fun c e he ⟨hf, hp, hr, hs⟩ =>
      have hk := commanded_keeps c e he
      ⟨hk.1.trans hf, hk.2.1.trans hp, hk.2.2.1.trans hr, fun h => hs (hk.2.2.2 h)⟩)
    h ⟨rfl, rfl, rfl, id⟩

/-- Between two ticks nothing makes the controller Ready. -/
theorem called_ready (c : Controller) (e : Vcu.Event) (h : Called c e)
    (hready : (Vcu.respond c e).2.state = .ready) : c.state = .ready := by
  cases e with
  | requestParallelHandshake =>
    simp only [Vcu.respond, Vcu.requestParallelHandshake] at hready
    split at hready
    · exact hready
    · exact Vcu.State.noConfusion hready
  | requestDisarm =>
    simp only [Vcu.respond, Vcu.requestDisarm] at hready
    split_ifs at hready
    · exact hready
    · exact Vcu.State.noConfusion hready
    · exact Vcu.State.noConfusion hready
    · exact hready
    · exact Vcu.State.noConfusion hready
  | ingest frame =>
    simp only [Vcu.respond] at hready
    rcases Vcu.ingest_stop c frame with ⟨-, hst, -⟩ | ⟨-, -, hst, -⟩ | ⟨-, -, -, -, hst⟩
    · exact hst ▸ hready
    · exact Vcu.ready_of_switchedState (hst ▸ hready)
    · rw [hst] at hready
      split at hready <;> exact Vcu.State.noConfusion hready
  | tick => exact absurd h id
  | reset => exact absurd h id
  | setEmergencyCommand command => exact absurd h id
  | setCommand command => exact (commanded_keeps c (.setCommand command) h).2.2.2 hready
  | setAutomaticParking enabled requested stoppedFresh brakeBar => exact hready
  | emergencyStop => exact (commanded_keeps c .emergencyStop h).2.2.2 hready
  | clearEmergencyStop => exact (commanded_keeps c .clearEmergencyStop h).2.2.2 hready
  | transportFault => exact (commanded_keeps c .transportFault h).2.2.2 hready

theorem Calls.ready {b b' : BridgeRuntime} (h : Calls b b') (hready : b'.controller.state = .ready) :
    b.controller.state = .ready :=
  Machine.Path.keeps (I := fun c => c.state = .ready → b.controller.state = .ready)
    (fun c e he hi hr => hi (called_ready c e he hr)) h id hready

structure ControllerInvariant (c : Controller) : Prop where
  latches : LatchInvariant c
  latched_of_switch : c.feedback.emergencySwitch ≠ 0 → c.physicalEmergencyLatched = true
  stop_of_shutdown : c.state ∈ shutdownStates → c.emergencyStop = true
  desired_brake : ∀ i, c.desired.brakePressureBar i ≤ maxOrdinaryBrakePressureBar
  parking_brake : c.parkingBrakeBar ≤ maxOrdinaryBrakePressureBar

theorem controllerInvariant_reset : ControllerInvariant Vcu.reset := by
  have hzero : (0 : ℚ) ≤ maxOrdinaryBrakePressureBar := by norm_num [maxOrdinaryBrakePressureBar]
  exact ⟨Vcu.latchInvariant_reset, fun h => absurd h (by decide), fun h => absurd h (by decide),
    fun _ => hzero, hzero⟩

theorem stoppedState_stop {c : Controller} (hi : ControllerInvariant c) (g : ℕ) :
    ControllerInvariant
      { c with
        emergencyStop := true
        state := Vcu.stoppedState c.state
        stateEntryGeneration := g } := by
  refine ⟨⟨fun _ => rfl, fun _ => rfl, fun hrev => ?_⟩, hi.2, fun _ => rfl, hi.4, hi.5⟩
  have hs := hi.latches.shutdown_of_revoked hrev
  rwa [← Vcu.stoppedState_shutdown hs] at hs

theorem controllerInvariant_setCommand {c : Controller} (hi : ControllerInvariant c)
    {command : Command} (h : ∀ i, command.brakePressureBar i ≤ maxOrdinaryBrakePressureBar) :
    ControllerInvariant (Vcu.setCommand c command).2 := by
  have hlatches := Vcu.latchInvariant_setCommand hi.latches command
  have hcase := Vcu.setCommand_cases c command
  generalize Vcu.setCommand c command = result at hcase hlatches ⊢
  cases hcase with
  | rejected => exact hi
  | moving g hgear hshut => exact ⟨hlatches, hi.2, fun _ => rfl, hi.4, hi.5⟩
  | accepted hv hsame => exact ⟨hlatches, hi.2, hi.3, h, hi.5⟩
  | regear hv hgear hready =>
    exact ⟨hlatches, hi.2,
      fun hs => absurd hs (by decide : Vcu.State.waitGear ∉ shutdownStates), h, hi.5⟩

theorem controllerInvariant_ingest {c : Controller} (hi : ControllerInvariant c)
    (frame : CanFrame) : ControllerInvariant (Vcu.ingest c frame).2 := by
  obtain ⟨hdesired, -, -, -, -, hbar, -⟩ := Vcu.ingest_keeps c frame
  refine ⟨Vcu.latchInvariant_ingest hi.latches frame, fun hsw => ?_, fun hs => ?_, ?_, ?_⟩
  · rw [Vcu.ingest_physicalEmergencyLatched, Bool.or_eq_true]
    rw [Vcu.ingest_emergencySwitch] at hsw
    split at hsw
    · rename_i hf
      exact .inr (decide_eq_true ⟨hf.1, hf.2, hsw⟩)
    · exact .inl (hi.latched_of_switch hsw)
  · rcases Vcu.ingest_stop c frame with ⟨hstop, hst, -⟩ | ⟨hstop, -⟩ | ⟨hstop, -⟩
    · rw [hstop]
      exact hi.stop_of_shutdown (hst ▸ hs)
    · exact hstop
    · exact hstop
  · rw [hdesired]
    exact hi.desired_brake
  · rw [hbar]
    exact hi.parking_brake

/-- An advance step that ends in a shutdown state began in one or under a stop. -/
theorem controllerInvariant_advanceState {c : Controller} (hi : ControllerInvariant c) :
    ControllerInvariant (Vcu.advanceState c) := by
  refine ⟨Vcu.latchInvariant_tick hi.latches, ?_, fun hs => ?_, ?_, ?_⟩
  · simpa using hi.latched_of_switch
  · have hcase := Vcu.advanceState_cases c
    generalize Vcu.advanceState c = result at hcase hs ⊢
    cases hcase with
    | emergency h g =>
      rcases h.1 with hstop | hsw
      · exact hstop
      · exact hi.latches.stop_of_physical (hi.latched_of_switch hsw)
    | handshakeLost h => rfl
    | gearMismatch h => rfl
    | stage ha hl hg =>
      have hbefore : c.state ∈ shutdownStates := by
        rcases Vcu.advanceStage_state c with hst | ⟨-, hst⟩ | ⟨-, hst⟩ | ⟨-, hst⟩ | ⟨-, hst⟩ |
          ⟨-, -, hst⟩ | ⟨hst, -⟩ | ⟨hst, -⟩ | ⟨hst, -⟩ | ⟨hst, -⟩ | ⟨hst, -⟩
        · exact hst ▸ hs
        · exact absurd hs (by rw [hst]; decide)
        · generalize (Vcu.advanceStage c).state = s at hst hs
          cases s <;> first | exact absurd hst (by decide) | exact absurd hs (by decide)
        all_goals first
          | exact absurd hs (by rw [hst]; decide)
          | (rw [hst]; decide)
      obtain ⟨g, n, hframe⟩ := Vcu.advanceStage_frame c
      rw [hframe]
      exact hi.stop_of_shutdown hbefore
  · simpa using hi.desired_brake
  · simpa using hi.parking_brake

theorem controllerInvariant_step (c : Controller) (e : Vcu.Event) (hd : Driven c e)
    (hi : ControllerInvariant c) : ControllerInvariant (Vcu.respond c e).2 := by
  have hlatches := Vcu.latchInvariant_step c e hi.latches
  cases e with
  | reset => exact absurd hd id
  | setCommand command => exact controllerInvariant_setCommand hi hd
  | setEmergencyCommand command => exact absurd hd id
  | setAutomaticParking enabled requested stoppedFresh brakeBar =>
    exact ⟨hlatches, hi.2, hi.3, hi.4, hd⟩
  | emergencyStop =>
    obtain ⟨g, h⟩ := Vcu.emergencyStop_frame c
    change ControllerInvariant (Vcu.emergencyStop c)
    rw [h]
    exact stoppedState_stop hi g
  | clearEmergencyStop =>
    refine ⟨hlatches, ?_, fun hs => absurd hs ?_, ?_, ?_⟩ <;>
      simp only [Vcu.respond, Vcu.clearEmergencyStop] <;> split
    · exact hi.latched_of_switch
    · exact hi.latched_of_switch
    · simp only [show c.state = .ready from hd]
      decide
    · simp only [show c.state = .ready from hd]
      decide
    · exact hi.desired_brake
    · exact hi.desired_brake
    · exact hi.parking_brake
    · exact hi.parking_brake
  | requestParallelHandshake =>
    change ControllerInvariant (Vcu.requestParallelHandshake c).2
    unfold Vcu.requestParallelHandshake
    split
    · exact hi
    · rename_i hgate
      have hready : Vcu.ParkingReady c := by
        by_contra hno
        exact hgate (.inr hno)
      exact ⟨⟨fun h => absurd h (by simp [Vcu.enter]), fun h => absurd h (by simp [Vcu.enter]),
        fun h => absurd h (by simp [Vcu.enter])⟩, fun h => absurd hready.2.2.1 h,
        fun hs => absurd hs (by decide : Vcu.State.initial ∉ shutdownStates),
        controllerInvariant_reset.desired_brake, hi.parking_brake⟩
  | requestDisarm =>
    change LatchInvariant (Vcu.requestDisarm c) at hlatches
    change ControllerInvariant (Vcu.requestDisarm c)
    unfold Vcu.requestDisarm at hlatches ⊢
    split_ifs at hlatches ⊢
    · exact hi
    all_goals exact ⟨hlatches, hi.2, fun _ => rfl, hi.4, hi.5⟩
  | transportFault => exact ⟨hlatches, hi.2, fun _ => rfl, hi.4, hi.5⟩
  | ingest frame => exact controllerInvariant_ingest hi frame
  | tick => exact controllerInvariant_advanceState hi

theorem Drives.keeps {b b' : BridgeRuntime} (hd : Drives b b')
    (hi : ControllerInvariant b.controller) : ControllerInvariant b'.controller :=
  Machine.Path.keeps (I := ControllerInvariant) controllerInvariant_step hd hi

/-! ## The opened bridge -/

/-- What a bridge is when it has just been opened. -/
structure Fresh (b : BridgeRuntime) : Prop where
  controller : ControllerInvariant b.controller
  standby : b.controller.state = .standby
  noStop : b.controller.emergencyStop = false
  timeout : ControlTimeoutValid b.controlTimeoutMs
  noEstop : b.softwareEstop = false
  noWatchdog : b.controlWatchdogLatched = false
  noOverspeed : b.hardOverspeedLatched = false
  notReady : b.sessionReadyLatched = false
  notReported : b.handshakeRevokedReported = false
  noFault : b.chassisControlFaultLatched = false
  notStored : b.lastSuccessfulApplyValid = false

theorem seedCommand_brake {outcome : ChassisOutcome} {command : Command}
    (h : seedCommand outcome = .ok command) (i : Fin Vcu.brakeCount) :
    command.brakePressureBar i ≤ maxOrdinaryBrakePressureBar := by
  cases outcome with
  | rejected => cases h
  | raised => cases h
  | controls wheels =>
    cases hgen : commandFromChassisControl 1 wheels with
    | none => simp [seedCommand, hgen] at h
    | some generated =>
      obtain rfl : generated = command := by simpa [seedCommand, hgen] using h
      exact commandFromChassisControl_brake hgen i

/-- An accepted first command leaves the controller at rest. -/
theorem setCommand_reset {command : Command} (h : (Vcu.setCommand Vcu.reset command).1 = true) :
    (Vcu.setCommand Vcu.reset command).2.state = .standby ∧
      (Vcu.setCommand Vcu.reset command).2.emergencyStop = false := by
  have hcase := Vcu.setCommand_cases Vcu.reset command
  generalize Vcu.setCommand Vcu.reset command = result at hcase h ⊢
  cases hcase with
  | rejected => exact ⟨rfl, rfl⟩
  | moving g hgear hshut => cases h
  | accepted hv hsame => exact ⟨rfl, rfl⟩
  | regear hv hgear hready => exact absurd hready (by decide)

theorem setEmergencyCommand_keeps (c : Controller) (command : Command) :
    ∃ emergency, (Vcu.setEmergencyCommand c command).2 = { c with emergency := emergency } := by
  unfold Vcu.setEmergencyCommand
  split
  · exact ⟨c.emergency, rfl⟩
  · exact ⟨_, rfl⟩

/-- A bridge that opens has given its initial command to a controller at reset. -/
theorem openBridge_ok {env : OpenEnvironment} {torque : ℚ} {timeout : ℤ}
    {speedControl : SpeedControlSettings} {physical : Bool} {maxBrake : ℚ} {b : BridgeRuntime}
    (h : openBridge env torque timeout speedControl physical maxBrake = .ok b) :
    ∃ initial emergency, seedCommand env.initialSeed = .ok initial ∧
      (Vcu.setCommand Vcu.reset initial).1 = true ∧
      b =
        { fullScaleMotorTorqueNm := torque
          controlTimeoutMs := timeout
          openSpeedControl := speedControl
          speedControl := speedControl
          physicalBrakeInput := physical
          maxOrdinaryBrakeBar := maxBrake
          controller :=
            { (Vcu.setCommand Vcu.reset initial).2 with emergency := emergency } } := by
  unfold openBridge at h
  split at h
  · cases h
  split at h
  · cases h
  cases hseed : seedCommand env.emergencySeed with
  | error code => simp [hseed, bind, Except.bind] at h
  | ok seed =>
    cases hinitial : seedCommand env.initialSeed with
    | error code => simp [hseed, hinitial, bind, Except.bind] at h
    | ok initial =>
      simp only [hseed, hinitial, bind, Except.bind] at h
      split at h
      · cases h
      rename_i haccepted
      split at h
      · cases h
      split at h
      · cases h
      have hset : (Vcu.setCommand Vcu.reset initial).1 = true := by
        by_contra hno
        exact haccepted (.inl (by simpa using hno))
      obtain ⟨emergency, hemergency⟩ := setEmergencyCommand_keeps
        (Vcu.setCommand Vcu.reset initial).2
        { seed with
          motorTorqueNm := fun _ => 0
          brakePressureBar := fun _ => maxEmergencyBrakePressureBar }
      rw [hemergency] at h
      exact ⟨initial, emergency, rfl, hset, (Except.ok.inj h).symm⟩

theorem openBridge_fresh {env : OpenEnvironment} {torque : ℚ} {timeout : ℤ}
    {speedControl : SpeedControlSettings} {physical : Bool} {maxBrake : ℚ} {b : BridgeRuntime}
    (ht : ControlTimeoutValid timeout)
    (h : openBridge env torque timeout speedControl physical maxBrake = .ok b) : Fresh b := by
  obtain ⟨initial, emergency, hinitial, hset, rfl⟩ := openBridge_ok h
  obtain ⟨hstandby, hstop⟩ := setCommand_reset hset
  have hinv := controllerInvariant_setCommand controllerInvariant_reset
    (seedCommand_brake hinitial)
  have hemergency : ControllerInvariant
      { (Vcu.setCommand Vcu.reset initial).2 with emergency := emergency } :=
    ⟨⟨hinv.1.1, hinv.1.2, hinv.1.3⟩, hinv.2, hinv.3, hinv.4, hinv.5⟩
  exact ⟨hemergency, hstandby, hstop, ht, rfl, rfl, rfl, rfl, rfl, rfl, rfl⟩

/-- Every entry point opens the bridge with a timeout that it has checked. -/
theorem Opened.built {b : BridgeRuntime} (h : Opened b) :
    ∃ env torque timeout speedControl physical maxBrake, ControlTimeoutValid timeout ∧
      openBridge env torque timeout speedControl physical maxBrake = .ok b := by
  have hdefault : ControlTimeoutValid 800 := by decide
  obtain ⟨env, h | ⟨size, torque, h⟩ | ⟨config, h | h | h⟩⟩ := h
  · exact ⟨_, _, _, _, _, _, hdefault, h⟩
  · unfold openV1 at h
    split at h
    · cases h
    · exact ⟨_, _, _, _, _, _, hdefault, h⟩
  · unfold openV2 at h
    split at h
    · cases h
    · rename_i hv
      exact ⟨_, _, _, _, _, _, (not_not.mp hv).2.2.2.1, h⟩
  all_goals
    simp only [openV3, openV4, openConfigured] at h
    split at h
    · cases h
    · rename_i hv
      exact ⟨_, _, _, _, _, _, (not_not.mp hv).1.2.2.2.1, h⟩

theorem Opened.fresh {b : BridgeRuntime} (h : Opened b) : Fresh b := by
  obtain ⟨env, torque, timeout, speedControl, physical, maxBrake, ht, hopen⟩ := h.built
  exact openBridge_fresh ht hopen

theorem controllerInvariant_of_run {opened b : BridgeRuntime}
    {h : History BridgeRuntime Event Reply} (ho : Opened opened) (hr : Run (machine opened) h b) :
    ControllerInvariant b.controller :=
  hr.invariant (I := fun b => ControllerInvariant b.controller) ho.fresh.controller
    fun b e hi => (drives_respond b e).keeps hi

end MineTeleop.Bridge
