import MineTeleop.Vcu.Batch

/-!
# What each member function of the controller changes

Every function gets its result in closed form, or the fields it leaves alone together with the
values of those it sets.  The invariants in later modules are read off these.
-/

namespace MineTeleop.Vcu

@[simp] theorem enter_state (c : Controller) (s : State) : (enter c s).state = s := rfl

/-! ## Emergency stops -/

theorem armingEmergencyTarget_cases {s t : State} (h : armingEmergencyTarget s = some t) :
    (s = .initial ∧ t = .disarmed) ∨ (s = .waitParallelHandshake ∧ t = .disarmManual) ∨
      (s ∈ [.waitParkingBrakeReleased, .waitGear, .waitActuatorModes] ∧ t = .disarmTorque) := by
  cases s <;> simp_all [armingEmergencyTarget]

/-- The state after an emergency stop. -/
def stoppedState (s : State) : State := (armingEmergencyTarget s).getD s

theorem ready_of_stoppedState {s : State} (h : stoppedState s = .ready) : s = .ready := by
  cases s <;> first | rfl | exact absurd h (by decide)

theorem beginArmingEmergencyDisarm_frame (c : Controller) : ∃ g,
    (beginArmingEmergencyDisarm c).2 =
      { c with state := stoppedState c.state, stateEntryGeneration := g } := by
  unfold beginArmingEmergencyDisarm stoppedState
  cases h : armingEmergencyTarget c.state with
  | some target => exact ⟨_, rfl⟩
  | none => exact ⟨c.stateEntryGeneration, rfl⟩

theorem emergencyStop_frame (c : Controller) : ∃ g,
    emergencyStop c =
      { c with
        emergencyStop := true
        state := stoppedState c.state
        stateEntryGeneration := g } :=
  beginArmingEmergencyDisarm_frame { c with emergencyStop := true }

/-! ## Commands -/

/-- The branches of `set_command`. -/
inductive SetCommandCase (c : Controller) (command : Command) : Bool × Controller → Prop
  | rejected : SetCommandCase c command (false, c)
  | moving (g : ℕ) (hgear : c.desired.gear ≠ command.gear) (hshut : c.state ≠ .fault) :
      SetCommandCase c command
        (false,
          { c with
            desired := withoutTraction c.desired
            emergencyStop := true
            state := stoppedState c.state
            stateEntryGeneration := g })
  | accepted (hv : CommandValid command)
      (hsame : c.desired.gear = command.gear ∨ c.state ≠ .ready) :
      SetCommandCase c command (true, { c with desired := command })
  | regear (hv : CommandValid command) (hgear : c.desired.gear ≠ command.gear)
      (hready : c.state = .ready) :
      SetCommandCase c command (true, enter { c with desired := command } .waitGear)

theorem setCommand_cases (c : Controller) (command : Command) :
    SetCommandCase c command (setCommand c command) := by
  unfold setCommand
  split_ifs with hreject hmoving hregear
  · exact .rejected
  · obtain ⟨g, h⟩ := emergencyStop_frame { c with desired := withoutTraction c.desired }
    rw [h]
    exact .moving g hmoving.1 fun hs => hreject (by simp [hs])
  · exact .regear (by_contra fun hv => hreject (.inl hv)) hregear.1 hregear.2
  · have hsame : c.desired.gear = command.gear ∨ c.state ≠ .ready := by
      by_contra hc
      exact hregear (by simpa using hc)
    exact .accepted (by_contra fun hv => hreject (.inl hv)) hsame

/-! ## Received frames -/

def CanFrame.Whole (f : CanFrame) : Prop := f.extended = true ∧ 8 ≤ f.dlc

/-- A vehicle-status frame with the physical switch pressed. -/
def SeesPhysicalEmergency (f : CanFrame) : Prop :=
  f.Whole ∧ f.id = Ids.wvcuVehicleStatus ∧ signalInt f 0 2 ≠ 0

/-- A handshake frame that takes an accepted handshake back to the manual state. -/
def SeesRevocation (c : Controller) (f : CanFrame) : Prop :=
  f.Whole ∧ f.id = Ids.wvcuHandshake ∧ signalInt f 8 8 = manualHandshakeStatus ∧
  c.state ∈ [.waitParkingBrakeReleased, .waitGear, .waitActuatorModes, .ready]

instance (f : CanFrame) : Decidable f.Whole := inferInstanceAs (Decidable (_ ∧ _))
instance (f : CanFrame) : Decidable (SeesPhysicalEmergency f) :=
  inferInstanceAs (Decidable (_ ∧ _))
instance (c : Controller) (f : CanFrame) : Decidable (SeesRevocation c f) :=
  inferInstanceAs (Decidable (_ ∧ _))

/-- `r` is `c` after a report that no latch and no parking check depends on. -/
def OtherReport (c r : Controller) : Prop :=
  ∃ fb speed mode torque steering brake,
    r = { receive c with
            feedback := fb
            speedGeneration := speed
            motorModeGeneration := mode
            motorTorqueGeneration := torque
            steeringGeneration := steering
            brakeGeneration := brake } ∧
    fb.emergencySwitch = c.feedback.emergencySwitch ∧
    fb.gear = c.feedback.gear ∧ fb.gearValid = c.feedback.gearValid ∧
    fb.handshakeStatus = c.feedback.handshakeStatus ∧
    fb.handshakeValid = c.feedback.handshakeValid ∧
    fb.parkingBrakeStatus = c.feedback.parkingBrakeStatus ∧
    fb.parkingBrakeValid = c.feedback.parkingBrakeValid

theorem ingestActuator_cases (c : Controller) (f : CanFrame) :
    ingestActuator c f = (false, c) ∨
      ∃ r, ingestActuator c f = (true, r) ∧ OtherReport c r := by
  unfold ingestActuator
  split
  · exact .inr ⟨_, rfl, _, _, _, _, _, _, rfl, rfl, rfl, rfl, rfl, rfl, rfl, rfl⟩
  split
  · exact .inr ⟨_, rfl, _, _, _, _, _, _, rfl, rfl, rfl, rfl, rfl, rfl, rfl, rfl⟩
  split
  · exact .inr ⟨_, rfl, _, _, _, _, _, _, rfl, rfl, rfl, rfl, rfl, rfl, rfl, rfl⟩
  split
  · exact .inr ⟨_, rfl, _, _, _, _, _, _, rfl, rfl, rfl, rfl, rfl, rfl, rfl, rfl⟩
  · exact .inl rfl

/-- The branches of `ingest`. -/
inductive IngestCase (c : Controller) (f : CanFrame) : Bool × Controller → Prop
  | ignored (h : f.Whole → f.id ≠ Ids.wvcuHandshake ∧ f.id ≠ Ids.wvcuVehicleStatus ∧
      f.id ≠ Ids.wvcuParkingBrake) : IngestCase c f (false, c)
  | handshake (hw : f.Whole) (hid : f.id = Ids.wvcuHandshake) :
      IngestCase c f (true, latchRevocation (recordHandshake c f))
  | vehicleStatus (hw : f.Whole) (hid : f.id = Ids.wvcuVehicleStatus) :
      IngestCase c f (true, latchPhysicalEmergency (recordVehicleStatus c f))
  | parkingBrake (hw : f.Whole) (hid : f.id = Ids.wvcuParkingBrake) :
      IngestCase c f (true, recordParkingBrake c f)
  | other (r : Controller) (hr : OtherReport c r) (hh : f.id ≠ Ids.wvcuHandshake)
      (hs : f.id ≠ Ids.wvcuVehicleStatus) (hp : f.id ≠ Ids.wvcuParkingBrake) :
      IngestCase c f (true, r)

theorem ingest_cases (c : Controller) (f : CanFrame) : IngestCase c f (ingest c f) := by
  unfold ingest
  split_ifs with hw h1 h2 h3 h4 h5 h6
  · refine .ignored fun hwhole => ?_
    rcases hw with hw | hw
    · simp [CanFrame.Whole, hw] at hwhole
    · exact absurd hwhole.2 (by omega)
  all_goals have hwhole : f.Whole := by simpa [CanFrame.Whole] using hw
  · exact .handshake hwhole h1
  · exact .vehicleStatus hwhole h2
  · exact .other _ ⟨_, _, _, _, _, _, rfl, rfl, rfl, rfl, rfl, rfl, rfl, rfl⟩ h1 h2
      (by rw [h3]; decide)
  · exact .other _ ⟨_, _, _, _, _, _, rfl, rfl, rfl, rfl, rfl, rfl, rfl, rfl⟩ h1 h2
      (by rw [h4]; decide)
  · exact .other _ ⟨_, _, _, _, _, _, rfl, rfl, rfl, rfl, rfl, rfl, rfl, rfl⟩ h1 h2
      (by rw [h5]; decide)
  · exact .parkingBrake hwhole h6
  · rcases ingestActuator_cases c f with h | ⟨r, h, hr⟩
    · rw [h]
      exact .ignored fun _ => ⟨h1, h2, h6⟩
    · rw [h]
      exact .other r hr h1 h2 h6

/-- The revocation latch, with the disarm it starts. -/
theorem latchRevocation_frame (c : Controller) :
    (latchRevocation c = c ∧
      ¬(c.state ∈ [.waitParkingBrakeReleased, .waitGear, .waitActuatorModes, .ready] ∧
        c.feedback.handshakeStatus = manualHandshakeStatus ∧ c.handshakeRevoked = false)) ∨
    (c.state ∈ [.waitParkingBrakeReleased, .waitGear, .waitActuatorModes, .ready] ∧
      c.feedback.handshakeStatus = manualHandshakeStatus ∧ c.handshakeRevoked = false ∧
      latchRevocation c =
        { c with
          handshakeRevoked := true
          revokedHandshakeStatus := c.feedback.handshakeStatus
          emergencyStop := true
          state := if c.state = .ready then .fault else .disarmTorque
          stateEntryGeneration := c.receiveGeneration }) := by
  by_cases h : c.state ∈ [.waitParkingBrakeReleased, .waitGear, .waitActuatorModes, .ready] ∧
      c.feedback.handshakeStatus = manualHandshakeStatus ∧ c.handshakeRevoked = false
  · refine .inr ⟨h.1, h.2.1, h.2.2, ?_⟩
    rw [latchRevocation, if_pos h]
    split <;> rfl
  · exact .inl ⟨if_neg h, h⟩

/-- The state a pressed physical switch leads to. -/
def switchedState (s : State) : State := if s = .ready then .disarmTorque else stoppedState s

theorem ready_of_switchedState {s : State} (h : switchedState s = .ready) : s = .ready := by
  cases s <;> first | rfl | exact absurd h (by decide)

theorem latchPhysicalEmergency_frame (c : Controller) :
    (c.feedback.emergencySwitch = 0 ∧ latchPhysicalEmergency c = c) ∨
    (c.feedback.emergencySwitch ≠ 0 ∧ ∃ g,
      latchPhysicalEmergency c =
        { c with
          physicalEmergencyLatched := true
          emergencyStop := true
          state := switchedState c.state
          stateEntryGeneration := g }) := by
  by_cases h : c.feedback.emergencySwitch = 0
  · exact .inl ⟨h, if_neg (not_not.mpr h)⟩
  · refine .inr ⟨h, ?_⟩
    rw [latchPhysicalEmergency, if_pos h, switchedState]
    by_cases hr : c.state = .ready
    · exact ⟨_, by rw [if_pos hr, if_pos hr]; rfl⟩
    · rw [if_neg hr, if_neg hr]
      exact beginArmingEmergencyDisarm_frame
        { c with physicalEmergencyLatched := true, emergencyStop := true }

/-- The fields of the controller that frames never write. -/
theorem ingest_keeps (c : Controller) (f : CanFrame) :
    (ingest c f).2.desired = c.desired ∧ (ingest c f).2.emergency = c.emergency ∧
    (ingest c f).2.automaticParking = c.automaticParking ∧
    (ingest c f).2.automaticParkRequested = c.automaticParkRequested ∧
    (ingest c f).2.parkingStoppedFresh = c.parkingStoppedFresh ∧
    (ingest c f).2.parkingBrakeBar = c.parkingBrakeBar ∧
    (ingest c f).2.parkingReleaseGeneration = c.parkingReleaseGeneration := by
  have hcase := ingest_cases c f
  generalize ingest c f = result at hcase ⊢
  cases hcase with
  | ignored h => simp
  | handshake hw hid =>
    rcases latchRevocation_frame (recordHandshake c f) with ⟨h, -⟩ | ⟨-, -, -, h⟩ <;>
      (rw [h]; simp [recordHandshake, receive])
  | vehicleStatus hw hid =>
    rcases latchPhysicalEmergency_frame (recordVehicleStatus c f) with ⟨-, h⟩ | ⟨-, g, h⟩ <;>
      (rw [h]; simp [recordVehicleStatus, receive])
  | parkingBrake hw hid => simp [recordParkingBrake, receive]
  | other r hr hh hs hp =>
    obtain ⟨fb, speed, mode, torque, steering, brake, rfl, -⟩ := hr
    simp [receive]

theorem ingest_physicalEmergencyLatched (c : Controller) (f : CanFrame) :
    (ingest c f).2.physicalEmergencyLatched =
      (c.physicalEmergencyLatched || decide (SeesPhysicalEmergency f)) := by
  have hcase := ingest_cases c f
  generalize ingest c f = result at hcase ⊢
  cases hcase with
  | ignored h =>
    have hn : ¬SeesPhysicalEmergency f := fun hs => (h hs.1).2.1 hs.2.1
    simp [hn]
  | handshake hw hid =>
    have hn : ¬SeesPhysicalEmergency f := fun hs =>
      absurd (hid.symm.trans hs.2.1) (by decide)
    rcases latchRevocation_frame (recordHandshake c f) with ⟨h, -⟩ | ⟨-, -, -, h⟩ <;>
      (rw [h]; simp [hn, recordHandshake, receive])
  | vehicleStatus hw hid =>
    rcases latchPhysicalEmergency_frame (recordVehicleStatus c f) with ⟨hz, h⟩ | ⟨hz, g, h⟩
    · have hn : ¬SeesPhysicalEmergency f := fun hs => hs.2.2 hz
      rw [h]
      simp [hn, recordVehicleStatus, receive]
    · have hy : SeesPhysicalEmergency f := ⟨hw, hid, hz⟩
      simp [h, hy]
  | parkingBrake hw hid =>
    have hn : ¬SeesPhysicalEmergency f := fun hs =>
      absurd (hid.symm.trans hs.2.1) (by decide)
    simp [hn, recordParkingBrake, receive]
  | other r hr hh hs hp =>
    have hn : ¬SeesPhysicalEmergency f := fun h => hs h.2.1
    obtain ⟨fb, speed, mode, torque, steering, brake, rfl, -⟩ := hr
    simp [hn, receive]

theorem ingest_handshakeRevoked (c : Controller) (f : CanFrame) :
    (ingest c f).2.handshakeRevoked = (c.handshakeRevoked || decide (SeesRevocation c f)) := by
  have hcase := ingest_cases c f
  generalize ingest c f = result at hcase ⊢
  cases hcase with
  | ignored h =>
    have hn : ¬SeesRevocation c f := fun hs => (h hs.1).1 hs.2.1
    simp [hn]
  | handshake hw hid =>
    rcases latchRevocation_frame (recordHandshake c f) with ⟨h, hno⟩ | ⟨hst, hman, hrev, h⟩
    · rw [h]
      by_cases hs : SeesRevocation c f
      · have hr : c.handshakeRevoked = true := by
          by_contra hr
          exact hno ⟨hs.2.2.2, hs.2.2.1, by simpa [recordHandshake, receive] using hr⟩
        simp [recordHandshake, receive, hr]
      · simp [recordHandshake, receive, hs]
    · have hy : SeesRevocation c f := ⟨hw, hid, hman, hst⟩
      simp [h, hy]
  | vehicleStatus hw hid =>
    have hn : ¬SeesRevocation c f := fun hs =>
      absurd (hid.symm.trans hs.2.1) (by decide)
    rcases latchPhysicalEmergency_frame (recordVehicleStatus c f) with ⟨-, h⟩ | ⟨-, g, h⟩ <;>
      (rw [h]; simp [hn, recordVehicleStatus, receive])
  | parkingBrake hw hid =>
    have hn : ¬SeesRevocation c f := fun hs =>
      absurd (hid.symm.trans hs.2.1) (by decide)
    simp [hn, recordParkingBrake, receive]
  | other r hr hh hs hp =>
    have hn : ¬SeesRevocation c f := fun h => hh h.2.1
    obtain ⟨fb, speed, mode, torque, steering, brake, rfl, -⟩ := hr
    simp [hn, receive]

/-- A frame sets the stop only together with one of the two latches, and the state moves only
then. -/
theorem ingest_stop (c : Controller) (f : CanFrame) :
    ((ingest c f).2.emergencyStop = c.emergencyStop ∧ (ingest c f).2.state = c.state ∧
      ¬SeesPhysicalEmergency f ∧ (ingest c f).2.handshakeRevoked = c.handshakeRevoked) ∨
    ((ingest c f).2.emergencyStop = true ∧
      (ingest c f).2.handshakeRevoked = c.handshakeRevoked ∧
      (ingest c f).2.state = switchedState c.state ∧ SeesPhysicalEmergency f) ∨
    ((ingest c f).2.emergencyStop = true ∧ (ingest c f).2.handshakeRevoked = true ∧
      c.handshakeRevoked = false ∧ SeesRevocation c f ∧
      (ingest c f).2.state = if c.state = .ready then .fault else .disarmTorque) := by
  have hcase := ingest_cases c f
  generalize ingest c f = result at hcase ⊢
  cases hcase with
  | ignored h => exact .inl ⟨rfl, rfl, fun hs => (h hs.1).2.1 hs.2.1, rfl⟩
  | handshake hw hid =>
    rcases latchRevocation_frame (recordHandshake c f) with ⟨h, -⟩ | ⟨hst, hman, hrev, h⟩
    · refine .inl ?_
      rw [h]
      exact ⟨rfl, rfl, fun hs => absurd (hid.symm.trans hs.2.1) (by decide), rfl⟩
    · refine .inr (.inr ?_)
      rw [h]
      exact ⟨rfl, rfl, hrev, ⟨hw, hid, hman, hst⟩, rfl⟩
  | vehicleStatus hw hid =>
    rcases latchPhysicalEmergency_frame (recordVehicleStatus c f) with ⟨hz, h⟩ | ⟨hz, g, h⟩
    · refine .inl ?_
      rw [h]
      exact ⟨rfl, rfl, fun hs => hs.2.2 hz, rfl⟩
    · refine .inr (.inl ?_)
      rw [h]
      exact ⟨rfl, rfl, rfl, hw, hid, hz⟩
  | parkingBrake hw hid =>
    exact .inl ⟨rfl, rfl, fun hs => absurd (hid.symm.trans hs.2.1) (by decide), rfl⟩
  | other r hr hh hs hp =>
    obtain ⟨fb, speed, mode, torque, steering, brake, rfl, -⟩ := hr
    exact .inl ⟨rfl, rfl, fun h => hs h.2.1, rfl⟩

/-- The switch feedback is the one of the last vehicle-status frame. -/
theorem ingest_emergencySwitch (c : Controller) (f : CanFrame) :
    (ingest c f).2.feedback.emergencySwitch =
      if f.Whole ∧ f.id = Ids.wvcuVehicleStatus then signalInt f 0 2
      else c.feedback.emergencySwitch := by
  have hcase := ingest_cases c f
  generalize ingest c f = result at hcase ⊢
  cases hcase with
  | ignored h => exact (if_neg fun hs => (h hs.1).2.1 hs.2).symm
  | handshake hw hid =>
    rw [if_neg fun hs => absurd (hid.symm.trans hs.2) (by decide)]
    rcases latchRevocation_frame (recordHandshake c f) with ⟨h, -⟩ | ⟨-, -, -, h⟩ <;>
      (rw [h]; rfl)
  | vehicleStatus hw hid =>
    rw [if_pos ⟨hw, hid⟩]
    rcases latchPhysicalEmergency_frame (recordVehicleStatus c f) with ⟨-, h⟩ | ⟨-, g, h⟩ <;>
      (rw [h]; rfl)
  | parkingBrake hw hid =>
    exact (if_neg fun hs => absurd (hid.symm.trans hs.2) (by decide)).symm
  | other r hr hh hs hp =>
    obtain ⟨fb, speed, mode, torque, steering, brake, rfl, hsw, -⟩ := hr
    exact hsw.trans (if_neg fun h => hs h.2).symm

/-- A whole parking-brake frame. -/
def ParkingFrame (f : CanFrame) : Prop := f.Whole ∧ f.id = Ids.wvcuParkingBrake

instance (f : CanFrame) : Decidable (ParkingFrame f) := inferInstanceAs (Decidable (_ ∧ _))

/-- Only parking-brake frames change the parking-brake feedback, and they stamp it. -/
theorem ingest_parking (c : Controller) (f : CanFrame) :
    (ParkingFrame f → (ingest c f).2.parkingBrakeGeneration = c.receiveGeneration + 1) ∧
    (¬ParkingFrame f →
      (ingest c f).2.parkingBrakeGeneration = c.parkingBrakeGeneration ∧
      (ingest c f).2.feedback.parkingBrakeStatus = c.feedback.parkingBrakeStatus ∧
      (ingest c f).2.feedback.parkingBrakeValid = c.feedback.parkingBrakeValid) ∧
    c.receiveGeneration ≤ (ingest c f).2.receiveGeneration ∧
    (ParkingFrame f → (ingest c f).2.receiveGeneration = c.receiveGeneration + 1) := by
  have hcase := ingest_cases c f
  generalize ingest c f = result at hcase ⊢
  cases hcase with
  | ignored h =>
    have hn : ¬ParkingFrame f := fun hp => (h hp.1).2.2 hp.2
    simp [hn]
  | handshake hw hid =>
    have hn : ¬ParkingFrame f := fun hp => absurd (hid.symm.trans hp.2) (by decide)
    rcases latchRevocation_frame (recordHandshake c f) with ⟨h, -⟩ | ⟨-, -, -, h⟩ <;>
      (rw [h]; simp [hn, recordHandshake, receive])
  | vehicleStatus hw hid =>
    have hn : ¬ParkingFrame f := fun hp => absurd (hid.symm.trans hp.2) (by decide)
    rcases latchPhysicalEmergency_frame (recordVehicleStatus c f) with ⟨-, h⟩ | ⟨-, g, h⟩ <;>
      (rw [h]; simp [hn, recordVehicleStatus, receive])
  | parkingBrake hw hid =>
    have hy : ParkingFrame f := ⟨hw, hid⟩
    simp [hy, recordParkingBrake, receive]
  | other r hr hh hs hp =>
    have hn : ¬ParkingFrame f := fun h => hp h.2
    obtain ⟨fb, speed, mode, torque, steering, brake, rfl, -, -, -, -, -, hst, hva⟩ := hr
    simp [hn, receive, hst, hva]

/-! ## The advance step -/

/-- The states of the shutdown sequence, with the two it can end in. -/
def shutdownStates : List State :=
  [.disarmTorque, .disarmStop, .disarmNeutral, .disarmParkingBrake, .disarmManual, .disarmed,
    .fault]

theorem advanceStage_frame (c : Controller) : ∃ g n,
    advanceStage c =
      { c with
        state := (advanceStage c).state
        stateEntryGeneration := g
        initialFrameCount := n } := by
  unfold advanceStage
  cases h : c.state <;> simp only <;> (try split_ifs) <;> exact ⟨_, _, rfl⟩

/-- Each state of the sequence goes on only to its successor. -/
theorem advanceStage_state (c : Controller) :
    (advanceStage c).state = c.state ∨
    (c.state = .initial ∧ (advanceStage c).state = .waitParallelHandshake) ∨
    (c.state = .waitParallelHandshake ∧
      (advanceStage c).state ∈ [.waitGear, .waitParkingBrakeReleased]) ∨
    (c.state = .waitParkingBrakeReleased ∧ (advanceStage c).state = .waitGear) ∨
    (c.state = .waitGear ∧ (advanceStage c).state = .waitActuatorModes) ∨
    (c.state = .waitActuatorModes ∧ ActuatorModesConfirmed c ∧
      (advanceStage c).state = .ready) ∨
    (c.state = .disarmTorque ∧ (advanceStage c).state = .disarmStop) ∨
    (c.state = .disarmStop ∧ (advanceStage c).state = .disarmNeutral) ∨
    (c.state = .disarmNeutral ∧ (advanceStage c).state = .disarmParkingBrake) ∨
    (c.state = .disarmParkingBrake ∧ (advanceStage c).state = .disarmManual) ∨
    (c.state = .disarmManual ∧ (advanceStage c).state = .disarmed) := by
  unfold advanceStage
  cases h : c.state <;> simp only <;> (try split_ifs) <;> simp_all

/-- The branches of `advance_state`. -/
inductive AdvanceCase (c : Controller) : Controller → Prop
  | emergency (h : ArmingEmergency c) (g : ℕ) :
      AdvanceCase c { c with state := stoppedState c.state, stateEntryGeneration := g }
  | handshakeLost (h : HandshakeLost c) : AdvanceCase c (transportFault c)
  | gearMismatch (h : ReadyGearMismatch c) :
      AdvanceCase c (enter { c with emergencyStop := true } .waitGear)
  | stage (ha : ¬ArmingEmergency c) (hl : ¬HandshakeLost c) (hg : ¬ReadyGearMismatch c) :
      AdvanceCase c (advanceStage c)

theorem advanceState_cases (c : Controller) : AdvanceCase c (advanceState c) := by
  unfold advanceState
  split_ifs with ha hl hg
  · obtain ⟨g, hb⟩ := beginArmingEmergencyDisarm_frame c
    rw [hb]
    exact .emergency ha g
  · exact .handshakeLost hl
  · exact .gearMismatch hg
  · exact .stage ha hl hg

/-- `advance_state` writes four fields. -/
theorem advanceState_frame (c : Controller) : ∃ s g n e,
    advanceState c =
      { c with
        state := s
        stateEntryGeneration := g
        initialFrameCount := n
        emergencyStop := e } := by
  have hcase := advanceState_cases c
  generalize advanceState c = result at hcase ⊢
  cases hcase with
  | emergency h g => exact ⟨_, _, _, _, rfl⟩
  | handshakeLost h => exact ⟨_, _, _, _, rfl⟩
  | gearMismatch h => exact ⟨_, _, _, _, rfl⟩
  | stage ha hl hg =>
    obtain ⟨g, n, hst⟩ := advanceStage_frame c
    rw [hst]
    exact ⟨_, _, _, _, rfl⟩

section
variable (c : Controller)

@[simp] theorem advanceState_feedback : (advanceState c).feedback = c.feedback := by
  obtain ⟨s, g, n, e, h⟩ := advanceState_frame c
  rw [h]

@[simp] theorem advanceState_desired : (advanceState c).desired = c.desired := by
  obtain ⟨s, g, n, e, h⟩ := advanceState_frame c
  rw [h]

@[simp] theorem advanceState_emergency : (advanceState c).emergency = c.emergency := by
  obtain ⟨s, g, n, e, h⟩ := advanceState_frame c
  rw [h]

@[simp] theorem advanceState_automaticParking :
    (advanceState c).automaticParking = c.automaticParking := by
  obtain ⟨s, g, n, e, h⟩ := advanceState_frame c
  rw [h]

@[simp] theorem advanceState_automaticParkRequested :
    (advanceState c).automaticParkRequested = c.automaticParkRequested := by
  obtain ⟨s, g, n, e, h⟩ := advanceState_frame c
  rw [h]

@[simp] theorem advanceState_parkingStoppedFresh :
    (advanceState c).parkingStoppedFresh = c.parkingStoppedFresh := by
  obtain ⟨s, g, n, e, h⟩ := advanceState_frame c
  rw [h]

@[simp] theorem advanceState_parkingBrakeBar :
    (advanceState c).parkingBrakeBar = c.parkingBrakeBar := by
  obtain ⟨s, g, n, e, h⟩ := advanceState_frame c
  rw [h]

@[simp] theorem advanceState_parkingReleased :
    ParkingReleased (advanceState c) ↔ ParkingReleased c := by
  obtain ⟨s, g, n, e, h⟩ := advanceState_frame c
  rw [h]
  rfl

@[simp] theorem advanceState_physicalEmergencyLatched :
    (advanceState c).physicalEmergencyLatched = c.physicalEmergencyLatched := by
  obtain ⟨s, g, n, e, h⟩ := advanceState_frame c
  rw [h]

@[simp] theorem advanceState_handshakeRevoked :
    (advanceState c).handshakeRevoked = c.handshakeRevoked := by
  obtain ⟨s, g, n, e, h⟩ := advanceState_frame c
  rw [h]

theorem advanceState_stop_of_stop (h : c.emergencyStop = true) :
    (advanceState c).emergencyStop = true := by
  have hcase := advanceState_cases c
  generalize advanceState c = result at hcase ⊢
  cases hcase with
  | emergency ha g => exact h
  | handshakeLost hl => rfl
  | gearMismatch hg => rfl
  | stage ha hl hg =>
    obtain ⟨g, n, hframe⟩ := advanceStage_frame c
    rw [hframe]
    exact h

end

theorem stoppedState_shutdown {s : State} (h : s ∈ shutdownStates) : stoppedState s = s := by
  cases s <;> first | rfl | exact absurd h (by decide)

theorem switchedState_shutdown {s : State} (h : s ∈ shutdownStates) :
    switchedState s ∈ shutdownStates := by
  cases s <;> first | decide | exact absurd h (by decide)

/-- The shutdown sequence is never left by ticking. -/
theorem advanceState_shutdown {c : Controller} (h : c.state ∈ shutdownStates) :
    (advanceState c).state ∈ shutdownStates := by
  have hcase := advanceState_cases c
  generalize advanceState c = result at hcase ⊢
  cases hcase with
  | emergency ha g => rw [stoppedState_shutdown h]; exact h
  | handshakeLost hl => exact (by decide : State.fault ∈ shutdownStates)
  | gearMismatch hg =>
    rw [hg.1] at h
    exact absurd h (by decide)
  | stage ha hl hg =>
    have hst := advanceStage_state c
    rcases hst with hst | ⟨hst, -⟩ | ⟨hst, -⟩ | ⟨hst, -⟩ | ⟨hst, -⟩ | ⟨hst, -⟩ |
      ⟨-, hst⟩ | ⟨-, hst⟩ | ⟨-, hst⟩ | ⟨-, hst⟩ | ⟨-, hst⟩
    · rw [hst]
      exact h
    all_goals first
      | (rw [hst] at h; exact absurd h (by decide))
      | (rw [hst]; decide)

/-! ## Ticks of a run -/

open Runs

/-- The step is an accepted handshake request. -/
def Granted (st : Step Controller Event Reply) : Prop :=
  st.event = .requestParallelHandshake ∧ st.output = .accepted true

instance : DecidablePred Granted := fun _ => inferInstanceAs (Decidable (_ ∧ _))

/-- A law about the batch of a tick and the states around it. -/
def OnTick (law : Controller → CommandBatch → Controller → Prop)
    (st : Step Controller Event Reply) : Prop :=
  ∀ b, st.output = .batch b → law st.before b st.after

theorem onTick_observe (law : Controller → CommandBatch → Controller → Prop) (c : Controller)
    (e : Event) :
    OnTick law (machine.observe c e) ↔
      (e = .tick → law c (commandBatch (advanceState c)) (advanceState c)) := by
  cases e <;> simp [OnTick, Machine.observe, machine, respond, tick]

/-- The last step of a concrete run, as a counterexample reads it off. -/
theorem onTick_last {law : Controller → CommandBatch → Controller → Prop} {events : List Event}
    (hl : Steps (OnTick law) (machine.play (events ++ [.tick])).1) :
    let c := (machine.play events).2
    law c (commandBatch (advanceState c)) (advanceState c) := by
  rw [Machine.play_concat] at hl
  exact (onTick_observe law _ .tick).mp hl.1 rfl

end MineTeleop.Vcu
