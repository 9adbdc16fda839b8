import MineTeleop.Vcu.Effects
import MineTeleop.Vcu.FeedbackFrames

/-!
# The orderly shutdown

A disarm goes through low torque, standstill, neutral and parked brakes to the manual state, and
each of these steps waits for feedback that is newer than the step.  Here "newer" is read off the
history: `stage` is the part of it since the state last changed, and a step confirms what the
latest frame of that part reports.

Proved here:

* `ingest_signal`: which frames write which feedback, and that they stamp it;
* `signal_recorded`: feedback newer than the state is the latest frame of the stage;
* `orderly_disarm`: the law of the shutdown, in every run.
-/

namespace MineTeleop.Vcu

open Runs

/-! ## Feedback read off the history -/

/-- One field of the feedback: the frame that reports it and the stamp it gets. -/
structure Signal (α : Type) where
  id : BitVec 32
  decode : CanFrame → α
  value : Controller → α
  generation : Controller → ℕ

def handshakeSignal : Signal ℤ :=
  ⟨Ids.wvcuHandshake, (signalInt · 8 8), (·.feedback.handshakeStatus), (·.handshakeGeneration)⟩

def gearSignal : Signal ℤ :=
  ⟨Ids.wvcuVehicleStatus, (signalInt · 2 2), (·.feedback.gear), (·.gearGeneration)⟩

def speedSignal : Signal ℚ :=
  ⟨Ids.wvcuVehicleSpeed,
    fun f => decodePhysical (extractSignal f 0 16) (1 / 10) (-500) / (36 / 10),
    (·.feedback.speedMps), (·.speedGeneration)⟩

def parkingBrakeSignal : Signal (ParkingBrakes ℤ) :=
  ⟨Ids.wvcuParkingBrake, fun f i => signalInt f (i.val * 16) 2,
    (·.feedback.parkingBrakeStatus), (·.parkingBrakeGeneration)⟩

def motorTorqueSignal (i : Fin motorCount) : Signal ℚ :=
  ⟨Ids.motorStatus01 i,
    fun f => decodePhysical (extractSignal f 16 motorTorqueBits) motorTorqueResolutionNm
      motorTorqueMinimumNm,
    (·.feedback.motorTorqueNm i), (·.motorTorqueGeneration i)⟩

def Reports (id : BitVec 32) (f : CanFrame) : Prop := f.Whole ∧ f.id = id

instance (id : BitVec 32) (f : CanFrame) : Decidable (Reports id f) :=
  inferInstanceAs (Decidable (_ ∧ _))

/-- The frame of the kind that the step ingests. -/
def reported (id : BitVec 32) (st : Step Controller Event Reply) : Option CanFrame :=
  match st.event with
  | .ingest f => if Reports id f then some f else none
  | _ => none

/-- The latest frame of the kind. -/
def latest (id : BitVec 32) (h : History Controller Event Reply) : Option CanFrame :=
  h.findSome? (reported id)

/-- The steps since the state last changed. -/
def stage (h : History Controller Event Reply) : History Controller Event Reply :=
  h.takeWhile fun st => st.after.state = st.before.state

def LowTorque (h : History Controller Event Reply) : Prop :=
  ∀ i, ∃ f ∈ latest (motorTorqueSignal i).id h,
    |(motorTorqueSignal i).decode f| ≤ torqueZeroToleranceNm

def Standstill (h : History Controller Event Reply) : Prop :=
  ∃ f ∈ latest speedSignal.id h, |speedSignal.decode f| ≤ stoppedSpeedToleranceMps

def Neutral (h : History Controller Event Reply) : Prop :=
  ∃ f ∈ latest gearSignal.id h, gearSignal.decode f = neutralGear

def Parked (h : History Controller Event Reply) : Prop :=
  ∃ f ∈ latest parkingBrakeSignal.id h, ∀ i, parkingBrakeSignal.decode f i = parkingBrakePark

def Manual (h : History Controller Event Reply) : Prop :=
  ∃ f ∈ latest handshakeSignal.id h, handshakeSignal.decode f = manualHandshakeStatus

/-- What has been received in a stage by the time the shutdown goes on from it. -/
def Confirmed (s : State) (h : History Controller Event Reply) : Prop :=
  match s with
  | .disarmTorque => LowTorque (stage h)
  | .disarmStop => Standstill (stage h)
  | .disarmNeutral => Neutral (stage h)
  | .disarmParkingBrake => Parked (stage h)
  | .disarmManual =>
    Manual (stage h) ∧ Neutral (stage h) ∧ Standstill (stage h) ∧ Parked (stage h)
  | _ => True

/-! ## The law -/

def shutdownSequence : List State :=
  [.disarmTorque, .disarmStop, .disarmNeutral, .disarmParkingBrake, .disarmManual]

/-- The state that follows a stage of the shutdown. -/
def successor : State → Option State
  | .disarmTorque => some .disarmStop
  | .disarmStop => some .disarmNeutral
  | .disarmNeutral => some .disarmParkingBrake
  | .disarmParkingBrake => some .disarmManual
  | .disarmManual => some .disarmed
  | _ => none

def Enters (st : Step Controller Event Reply) (s : State) : Prop :=
  st.before.state ≠ s ∧ st.after.state = s

/-- The present state was entered from `s`, by the step `entry` after `past`. -/
def EnteredFrom (s : State) (entry : Step Controller Event Reply)
    (past h : History Controller Event Reply) : Prop :=
  h = stage h ++ entry :: past ∧ entry.before.state = s

/-- The last changes of state went through these states, the latest first, and each was left with
its feedback confirmed. -/
def Trail : List State → History Controller Event Reply → Prop
  | [], _ => True
  | s :: earlier, h =>
    ∃ entry past, EnteredFrom s entry past h ∧ Confirmed s past ∧ Trail earlier past

structure OrderlyDisarm (st : Step Controller Event Reply)
    (past : History Controller Event Reply) : Prop where
  disarmed : Enters st .disarmed → st.before.state = .initial ∨ st.before.state = .disarmManual
  manual : Enters st .disarmManual →
    st.before.state = .waitParallelHandshake ∨
      (st.before.state = .disarmParkingBrake ∧ Confirmed .disarmParkingBrake past ∧
        Trail [.disarmNeutral, .disarmStop, .disarmTorque] past)
  /-- A reset or a transport fault abandons the sequence. -/
  left : st.before.state ∈ shutdownSequence → st.after.state ≠ st.before.state →
    (st.event = .reset ∨ st.event = .transportFault) ∨
      (st.event = .tick ∧ successor st.before.state = some st.after.state ∧
        Confirmed st.before.state past)
  shutdown : Enters st .disarmed → st.before.state = .disarmManual →
    Confirmed .disarmManual past ∧
      ((∃ entry earlier, EnteredFrom .waitParallelHandshake entry earlier past) ∨
        Trail [.disarmParkingBrake, .disarmNeutral, .disarmStop, .disarmTorque] past)

/-! ## Which frames write which feedback -/

/-- The signals that the shutdown waits for. -/
inductive Awaited : {α : Type} → Signal α → Prop
  | handshake : Awaited handshakeSignal
  | gear : Awaited gearSignal
  | speed : Awaited speedSignal
  | parkingBrake : Awaited parkingBrakeSignal
  | motorTorque (i : Fin motorCount) : Awaited (motorTorqueSignal i)

/-- `r` is `c` with the signal as the frame reports it. -/
def Signal.After {α : Type} (s : Signal α) (c : Controller) (f : CanFrame)
    (r : Controller) : Prop :=
  if Reports s.id f then s.generation r = r.receiveGeneration ∧ s.value r = s.decode f
  else s.generation r = s.generation c ∧ s.value r = s.value c

section
variable {α : Type} {s : Signal α}

/-- The ids that `ingest` looks for before the tables of actuator ids. -/
def vehicleIds : List (BitVec 32) :=
  [Ids.wvcuHandshake, Ids.wvcuVehicleStatus, Ids.wvcuVehicleSpeed, Ids.wvcuDriverIntention,
    Ids.wvcuDriverIntention2, Ids.wvcuParkingBrake]

theorem motorStatus01_ne (i : Fin motorCount) {id : BitVec 32} (h : id ∈ vehicleIds) :
    Ids.motorStatus01 i ≠ id := by
  have hall : ∀ i, Ids.motorStatus01 i ∉ vehicleIds := by decide
  rintro rfl
  exact hall i h

theorem findId_motorStatus01 : ∀ i, findId (Ids.motorStatus01 i) Ids.motorStatus01 = some i := by
  decide

theorem id_of_findId {n : ℕ} {id : BitVec 32} {ids : Fin n → BitVec 32} {i : Fin n}
    (h : findId id ids = some i) : ids i = id := by
  simpa using List.find?_some h

/-- The latches leave the signals and the frame count alone. -/
theorem latchRevocation_signal (hs : Awaited s) (c : Controller) :
    s.generation (latchRevocation c) = s.generation c ∧
    s.value (latchRevocation c) = s.value c ∧
    (latchRevocation c).receiveGeneration = c.receiveGeneration := by
  rcases latchRevocation_frame c with ⟨h, -⟩ | ⟨-, -, -, h⟩
  · rw [h]
    exact ⟨rfl, rfl, rfl⟩
  · rw [h]
    cases hs <;> exact ⟨rfl, rfl, rfl⟩

theorem latchPhysicalEmergency_signal (hs : Awaited s) (c : Controller) :
    s.generation (latchPhysicalEmergency c) = s.generation c ∧
    s.value (latchPhysicalEmergency c) = s.value c ∧
    (latchPhysicalEmergency c).receiveGeneration = c.receiveGeneration := by
  rcases latchPhysicalEmergency_frame c with ⟨-, h⟩ | ⟨-, g, h⟩
  · rw [h]
    exact ⟨rfl, rfl, rfl⟩
  · rw [h]
    cases hs <;> exact ⟨rfl, rfl, rfl⟩

theorem Signal.After.of_latched {c r r' : Controller} {f : CanFrame} (h : s.After c f r)
    (hlatch : s.generation r' = s.generation r ∧ s.value r' = s.value r ∧
      r'.receiveGeneration = r.receiveGeneration) : s.After c f r' := by
  obtain ⟨hgeneration, hvalue, hreceive⟩ := hlatch
  unfold Signal.After at h ⊢
  rwa [hgeneration, hvalue, hreceive]

/-- A whole frame is taken for one signal at most. -/
theorem Signal.After.of_id {c r : Controller} {f : CanFrame} (hwhole : f.Whole)
    (hstamped : s.id = f.id → s.generation r = r.receiveGeneration ∧ s.value r = s.decode f)
    (hkept : s.id ≠ f.id → s.generation r = s.generation c ∧ s.value r = s.value c) :
    s.After c f r := by
  unfold Signal.After
  split
  · rename_i hreports
    exact hstamped hreports.2.symm
  · rename_i hnot
    exact hkept fun hid => hnot ⟨hwhole, hid.symm⟩

/-- What the frames under the vehicle ids write. -/
theorem vehicleRecords_signal (hs : Awaited s) (c : Controller) {f : CanFrame}
    (hwhole : f.Whole) :
    (f.id = Ids.wvcuHandshake → s.After c f (recordHandshake c f)) ∧
    (f.id = Ids.wvcuVehicleStatus → s.After c f (recordVehicleStatus c f)) ∧
    (f.id = Ids.wvcuVehicleSpeed → s.After c f (recordVehicleSpeed c f)) ∧
    (f.id = Ids.wvcuDriverIntention → s.After c f (recordDriverIntention c f)) ∧
    (f.id = Ids.wvcuDriverIntention2 → s.After c f (recordDriverIntention2 c f)) ∧
    (f.id = Ids.wvcuParkingBrake → s.After c f (recordParkingBrake c f)) := by
  refine ⟨fun hid => ?_, fun hid => ?_, fun hid => ?_, fun hid => ?_, fun hid => ?_,
    fun hid => ?_⟩
  all_goals
    refine .of_id hwhole (fun hreports => ?_) fun hnot => ?_
    · rw [hid] at hreports
      cases hs <;> first
        | exact ⟨rfl, rfl⟩
        | exact absurd hreports (by decide)
        | exact absurd hreports (motorStatus01_ne _ (by decide))
    · rw [hid] at hnot
      cases hs <;> first
        | exact ⟨rfl, rfl⟩
        | exact absurd rfl hnot

/-- No signal is reported under an id that is in none of the lists. -/
theorem Signal.After.of_other (hs : Awaited s) {c r : Controller} {f : CanFrame}
    (hid : f.id ∉ vehicleIds) (hmotor : findId f.id Ids.motorStatus01 = none)
    (hkept : s.generation r = s.generation c ∧ s.value r = s.value c) : s.After c f r := by
  have hnot : ¬Reports s.id f := by
    rintro ⟨-, hreports⟩
    cases hs with
    | handshake | gear | speed | parkingBrake => exact hid (by rw [hreports]; decide)
    | motorTorque i =>
      rw [hreports] at hmotor
      exact absurd ((findId_motorStatus01 i).symm.trans hmotor) (Option.some_ne_none i)
  unfold Signal.After
  rwa [if_neg hnot]

theorem recordMotorStatus01_signal (hs : Awaited s) (c : Controller) {f : CanFrame}
    (hwhole : f.Whole) (hid : f.id ∉ vehicleIds) {i : Fin motorCount}
    (hmotor : findId f.id Ids.motorStatus01 = some i) :
    s.After c f (recordMotorStatus01 c f i) := by
  have hi := id_of_findId hmotor
  refine .of_id hwhole (fun hreports => ?_) fun hnot => ?_
  · cases hs with
    | handshake | gear | speed | parkingBrake => exact absurd (by rw [← hreports]; decide) hid
    | motorTorque j =>
      obtain rfl : i = j := Option.some.inj
        (hmotor.symm.trans ((congrArg (findId · _) hreports.symm).trans (findId_motorStatus01 j)))
      exact ⟨Function.update_self .., Function.update_self ..⟩
  · cases hs with
    | handshake | gear | speed | parkingBrake => exact ⟨rfl, rfl⟩
    | motorTorque j =>
      have hij : j ≠ i := by
        rintro rfl
        exact hnot hi
      exact ⟨Function.update_of_ne hij .., Function.update_of_ne hij ..⟩

theorem ingestActuator_signal (hs : Awaited s) (c : Controller) {f : CanFrame}
    (hwhole : f.Whole) (hid : f.id ∉ vehicleIds) : s.After c f (ingestActuator c f).2 := by
  unfold ingestActuator
  split
  · rename_i i hmotor
    exact recordMotorStatus01_signal hs c hwhole hid hmotor
  · rename_i hmotor
    refine .of_other hs hid hmotor ?_
    split
    · cases hs <;> exact ⟨rfl, rfl⟩
    split
    · cases hs <;> exact ⟨rfl, rfl⟩
    split
    · cases hs <;> exact ⟨rfl, rfl⟩
    · exact ⟨rfl, rfl⟩

theorem ingest_signal (hs : Awaited s) (c : Controller) (f : CanFrame) :
    s.After c f (ingest c f).2 := by
  unfold ingest
  split_ifs with hw h1 h2 h3 h4 h5 h6
  · have hnot : ¬Reports s.id f := by
      rintro ⟨⟨hextended, hlength⟩, -⟩
      rcases hw with hw | hw
      · exact Bool.false_ne_true (hw.symm.trans hextended)
      · exact absurd hlength (by omega)
    unfold Signal.After
    rw [if_neg hnot]
    exact ⟨rfl, rfl⟩
  all_goals have hwhole : f.Whole := by simpa [CanFrame.Whole] using hw
  all_goals obtain ⟨hhandshake, hstatus, hspeed, hdriver, hdriver2, hparking⟩ :=
    vehicleRecords_signal hs c hwhole
  · exact (hhandshake h1).of_latched (latchRevocation_signal hs _)
  · exact (hstatus h2).of_latched (latchPhysicalEmergency_signal hs _)
  · exact hspeed h3
  · exact hdriver h4
  · exact hdriver2 h5
  · exact hparking h6
  · exact ingestActuator_signal hs c hwhole (by simp [vehicleIds, h1, h2, h3, h4, h5, h6])

/-- The signal after any step: reset, stamped by the frame it reports, or kept. -/
theorem respond_signal (hs : Awaited s) (c : Controller) (e : Event) :
    e = .reset ∨
    (c.receiveGeneration ≤ (respond c e).2.receiveGeneration ∧
      ((∃ f ∈ reported s.id (machine.observe c e),
          s.generation (respond c e).2 = (respond c e).2.receiveGeneration ∧
          s.value (respond c e).2 = s.decode f) ∨
        (reported s.id (machine.observe c e) = none ∧
          s.generation (respond c e).2 = s.generation c ∧
          s.value (respond c e).2 = s.value c))) := by
  cases e with
  | reset => exact .inl rfl
  | ingest f =>
    refine .inr ⟨(ingest_parking c f).2.2.1, ?_⟩
    have hafter := ingest_signal hs c f
    unfold Signal.After at hafter
    split at hafter
    · rename_i hreports
      exact .inl ⟨f, if_pos hreports, hafter⟩
    · rename_i hnot
      exact .inr ⟨if_neg hnot, hafter⟩
  | setCommand command =>
    have hcase := setCommand_cases c command
    simp only [respond]
    generalize setCommand c command = result at hcase ⊢
    cases hcase <;> exact .inr ⟨le_rfl, .inr ⟨rfl, by cases hs <;> exact ⟨rfl, rfl⟩⟩⟩
  | setEmergencyCommand command =>
    simp only [respond, setEmergencyCommand]
    split <;> exact .inr ⟨le_rfl, .inr ⟨rfl, by cases hs <;> exact ⟨rfl, rfl⟩⟩⟩
  | setAutomaticParking enabled requested stoppedFresh brakeBar =>
    exact .inr ⟨le_rfl, .inr ⟨rfl, by cases hs <;> exact ⟨rfl, rfl⟩⟩⟩
  | emergencyStop =>
    obtain ⟨g, h⟩ := emergencyStop_frame c
    simp only [respond, h]
    exact .inr ⟨le_rfl, .inr ⟨rfl, by cases hs <;> exact ⟨rfl, rfl⟩⟩⟩
  | clearEmergencyStop =>
    simp only [respond, clearEmergencyStop]
    split <;> exact .inr ⟨le_rfl, .inr ⟨rfl, by cases hs <;> exact ⟨rfl, rfl⟩⟩⟩
  | requestParallelHandshake =>
    simp only [respond, requestParallelHandshake]
    split <;> exact .inr ⟨le_rfl, .inr ⟨rfl, by cases hs <;> exact ⟨rfl, rfl⟩⟩⟩
  | requestDisarm =>
    simp only [respond, requestDisarm]
    split_ifs <;> exact .inr ⟨le_rfl, .inr ⟨rfl, by cases hs <;> exact ⟨rfl, rfl⟩⟩⟩
  | transportFault => exact .inr ⟨le_rfl, .inr ⟨rfl, by cases hs <;> exact ⟨rfl, rfl⟩⟩⟩
  | tick =>
    obtain ⟨t, g, n, stop, h⟩ := advanceState_frame c
    simp only [respond, tick, h]
    exact .inr ⟨le_rfl, .inr ⟨rfl, by cases hs <;> exact ⟨rfl, rfl⟩⟩⟩

end

/-! ## Feedback newer than the state -/

/-- The state is left alone, or entered at the present frame count. -/
def Entry (c r : Controller) : Prop :=
  r.stateEntryGeneration = r.receiveGeneration ∨
    (r.state = c.state ∧ r.stateEntryGeneration = c.stateEntryGeneration)

theorem beginArmingEmergencyDisarm_entry (c : Controller) :
    Entry c (beginArmingEmergencyDisarm c).2 := by
  unfold beginArmingEmergencyDisarm
  split
  · exact .inl rfl
  · exact .inr ⟨rfl, rfl⟩

theorem latchPhysicalEmergency_entry (c : Controller) : Entry c (latchPhysicalEmergency c) := by
  simp only [latchPhysicalEmergency]
  split_ifs
  · exact .inl rfl
  · exact beginArmingEmergencyDisarm_entry _
  · exact .inr ⟨rfl, rfl⟩

theorem advanceState_entry (c : Controller) : Entry c (advanceState c) := by
  unfold advanceState
  split_ifs
  · exact beginArmingEmergencyDisarm_entry c
  · exact .inl rfl
  · exact .inl rfl
  · unfold advanceStage
    split <;> (try split_ifs) <;> first | exact .inl rfl | exact .inr ⟨rfl, rfl⟩

theorem ingest_entry (c : Controller) (f : CanFrame) : Entry c (ingest c f).2 := by
  have hcase := ingest_cases c f
  generalize ingest c f = result at hcase ⊢
  cases hcase with
  | ignored h => exact .inr ⟨rfl, rfl⟩
  | handshake hw hid =>
    rcases latchRevocation_frame (recordHandshake c f) with ⟨h, -⟩ | ⟨-, -, -, h⟩
    · rw [h]
      exact .inr ⟨rfl, rfl⟩
    · rw [h]
      exact .inl rfl
  | vehicleStatus hw hid =>
    exact latchPhysicalEmergency_entry (recordVehicleStatus c f)
  | parkingBrake hw hid => exact .inr ⟨rfl, rfl⟩
  | other r hr hh hs hp =>
    obtain ⟨fb, speed, mode, torque, steering, brake, rfl, -⟩ := hr
    exact .inr ⟨rfl, rfl⟩

theorem respond_entry (c : Controller) (e : Event) : Entry c (respond c e).2 := by
  cases e with
  | reset => exact .inl rfl
  | setCommand command =>
    simp only [respond, setCommand]
    split_ifs
    · exact .inr ⟨rfl, rfl⟩
    · exact beginArmingEmergencyDisarm_entry _
    · exact .inl rfl
    · exact .inr ⟨rfl, rfl⟩
  | setEmergencyCommand command =>
    simp only [respond, setEmergencyCommand]
    split <;> exact .inr ⟨rfl, rfl⟩
  | setAutomaticParking enabled requested stoppedFresh brakeBar => exact .inr ⟨rfl, rfl⟩
  | emergencyStop => exact beginArmingEmergencyDisarm_entry { c with emergencyStop := true }
  | clearEmergencyStop =>
    simp only [respond, clearEmergencyStop]
    split <;> exact .inr ⟨rfl, rfl⟩
  | requestParallelHandshake =>
    simp only [respond, requestParallelHandshake]
    split
    · exact .inr ⟨rfl, rfl⟩
    · exact .inl rfl
  | requestDisarm =>
    simp only [respond, requestDisarm]
    split_ifs <;> first | exact .inl rfl | exact .inr ⟨rfl, rfl⟩
  | transportFault => exact .inl rfl
  | ingest f => exact ingest_entry c f
  | tick => exact advanceState_entry c

/-- The stamps of a signal against the history. -/
structure Recorded {α : Type} (s : Signal α) (h : History Controller Event Reply)
    (c : Controller) : Prop where
  bounded : s.generation c ≤ c.receiveGeneration
  entered : c.stateEntryGeneration ≤ c.receiveGeneration
  received : c.stateEntryGeneration < s.generation c →
    ∃ f ∈ latest s.id (stage h), s.value c = s.decode f

section
variable {st : Step Controller Event Reply} {h past : History Controller Event Reply}

theorem stage_cons_of_eq (heq : st.after.state = st.before.state) :
    stage (st :: h) = st :: stage h :=
  List.takeWhile_cons_of_pos (by simpa using heq)

theorem stage_cons_of_ne (hne : st.after.state ≠ st.before.state) : stage (st :: h) = [] :=
  List.takeWhile_cons_of_neg (by simpa using hne)

theorem latest_cons_of_none {id : BitVec 32} (hnone : reported id st = none) :
    latest id (st :: h) = latest id h := by
  simp [latest, hnone]

theorem latest_cons_of_mem {id : BitVec 32} {f : CanFrame} (hf : f ∈ reported id st) :
    f ∈ latest id (st :: h) := by
  have hsome : reported id st = some f := hf
  simp [latest, hsome]

end

theorem recorded_step {α : Type} {s : Signal α} (hs : Awaited s)
    {h : History Controller Event Reply} {c : Controller} (e : Event) (hi : Recorded s h c) :
    Recorded s (machine.observe c e :: h) (respond c e).2 := by
  rcases respond_signal hs c e with rfl | ⟨hframes, hsignal⟩
  · have hzero : s.generation Vcu.reset = 0 := by cases hs <;> rfl
    refine ⟨hzero.le, le_rfl, fun hlt => ?_⟩
    exact absurd (hlt.trans_eq hzero) (Nat.not_lt_zero _)
  have hentry := respond_entry c e
  have hbounded : s.generation (respond c e).2 ≤ (respond c e).2.receiveGeneration := by
    rcases hsignal with ⟨f, -, hstamp, -⟩ | ⟨-, hkept, -⟩
    · exact hstamp.le
    · rw [hkept]
      exact hi.bounded.trans hframes
  refine ⟨hbounded, ?_, fun hlt => ?_⟩
  · rcases hentry with hnow | ⟨-, hsame⟩
    · exact hnow.le
    · rw [hsame]
      exact hi.entered.trans hframes
  · rcases hentry with hnow | ⟨hstate, hsame⟩
    · exact absurd hlt (by omega)
    rw [stage_cons_of_eq hstate]
    rcases hsignal with ⟨f, hf, -, hvalue⟩ | ⟨hnone, hkept, hvalue⟩
    · exact ⟨f, latest_cons_of_mem hf, hvalue⟩
    · rw [latest_cons_of_none hnone, hvalue]
      exact hi.received (by rwa [hsame, hkept] at hlt)

/-- Feedback that is newer than the state is what the latest frame of the stage reports. -/
theorem signal_recorded {α : Type} {s : Signal α} (hs : Awaited s)
    {h : History Controller Event Reply} {c : Controller} (hr : Run machine h c) :
    Recorded s h c := by
  have hzero : s.generation Vcu.reset = 0 := by cases hs <;> rfl
  refine Run.link (C := fun _ => True) (R := Recorded s) ⟨hzero.le, le_rfl, fun hlt => ?_⟩
    (fun _ _ e _ hi _ => recorded_step hs e hi) hr (steps_true h)
  exact absurd (hlt.trans_eq hzero) (Nat.not_lt_zero _)

/-! ## Moves of the state -/

/-- What `advance_state` compares before it goes on from a stage of the shutdown. -/
def Checked (c : Controller) : Prop :=
  match c.state with
  | .disarmTorque =>
    AllNewerThan c.motorTorqueGeneration c.stateEntryGeneration ∧
      TorqueZero c.feedback.motorTorqueNm
  | .disarmStop => c.stateEntryGeneration < c.speedGeneration ∧ c.feedback.Stopped
  | .disarmNeutral =>
    c.stateEntryGeneration < c.gearGeneration ∧ c.feedback.gear = neutralGear
  | .disarmParkingBrake =>
    c.stateEntryGeneration < c.parkingBrakeGeneration ∧
      c.feedback.ParkingBrakesAt parkingBrakePark
  | .disarmManual => ManualConfirmed c
  | _ => True

theorem confirmed_of_checked {h : History Controller Event Reply} {c : Controller}
    (hr : Run machine h c) (hc : Checked c) : Confirmed c.state h := by
  have hgear := (signal_recorded .gear hr).received
  have hspeed := (signal_recorded .speed hr).received
  have hparking := (signal_recorded .parkingBrake hr).received
  unfold Checked at hc
  unfold Confirmed
  split at hc
  · refine fun i => ?_
    obtain ⟨f, hf, hvalue⟩ := (signal_recorded (.motorTorque i) hr).received (hc.1 i)
    exact ⟨f, hf, hvalue ▸ hc.2 i⟩
  · obtain ⟨f, hf, hvalue⟩ := hspeed hc.1
    exact ⟨f, hf, hvalue ▸ hc.2⟩
  · obtain ⟨f, hf, hvalue⟩ := hgear hc.1
    exact ⟨f, hf, hvalue ▸ hc.2⟩
  · obtain ⟨f, hf, hvalue⟩ := hparking hc.1
    exact ⟨f, hf, fun i => hvalue ▸ (hc.2 i).2⟩
  · obtain ⟨-, hstatusNew, hstatus, -, hgearNew, hneutral, -, hspeedNew, hstopped, hparkingNew,
      hparked⟩ := hc
    obtain ⟨f, hf, hvalue⟩ := (signal_recorded .handshake hr).received hstatusNew
    obtain ⟨g, hg, hgearValue⟩ := hgear hgearNew
    obtain ⟨v, hv, hspeedValue⟩ := hspeed hspeedNew
    obtain ⟨p, hp, hparkingValue⟩ := hparking hparkingNew
    exact ⟨⟨f, hf, hvalue ▸ hstatus⟩, ⟨g, hg, hgearValue ▸ hneutral⟩,
      ⟨v, hv, hspeedValue ▸ hstopped⟩, ⟨p, hp, fun i => hparkingValue ▸ (hparked i).2⟩⟩
  · trivial

/-- The states that only the shutdown leads to. -/
def laterStates : List State :=
  [.disarmStop, .disarmNeutral, .disarmParkingBrake, .disarmManual, .disarmed]

/-- How a step may move the state. -/
inductive StageMove (c : Controller) (e : Event) : State → Prop
  | stays : StageMove c e c.state
  | abandons {t : State} (he : e = .reset ∨ e = .transportFault) (ht : t ∉ laterStates) :
      StageMove c e t
  | elsewhere {t : State} (hs : c.state ∉ shutdownSequence) (ht : t ∉ laterStates) :
      StageMove c e t
  | initial (hs : c.state = .initial) : StageMove c e .disarmed
  | waiting (hs : c.state = .waitParallelHandshake) : StageMove c e .disarmManual
  | next {t : State} (he : e = .tick) (hc : Checked c) (ht : successor c.state = some t) :
      StageMove c e t

theorem stageMove_stopped (c : Controller) (e : Event) :
    StageMove c e (stoppedState c.state) := by
  cases htarget : armingEmergencyTarget c.state with
  | none =>
    rw [stoppedState, htarget]
    exact .stays
  | some target =>
    rw [stoppedState, htarget, Option.getD_some]
    rcases armingEmergencyTarget_cases htarget with ⟨hs, rfl⟩ | ⟨hs, rfl⟩ | ⟨hs, rfl⟩
    · exact .initial hs
    · exact .waiting hs
    · refine .elsewhere (fun hmem => ?_) (by decide)
      generalize c.state = s at hs hmem
      cases s <;> simp [shutdownSequence] at hs hmem

theorem advanceStage_move (c : Controller) : StageMove c .tick (advanceStage c).state := by
  unfold advanceStage
  split
  case h_1 | h_2 | h_3 | h_4 => exact .stays
  all_goals rename_i hstate
  case h_5 | h_6 | h_7 | h_8 | h_9 =>
    split_ifs
    all_goals first
      | exact .stays
      | exact .elsewhere (by rw [hstate]; decide) (by rw [enter_state]; decide)
  all_goals
    split_ifs with hc
    · refine .next rfl ?_ (by rw [hstate]; rfl)
      unfold Checked
      rw [hstate]
      first | exact hc | exact hc.2
    · exact .stays

theorem advanceState_move (c : Controller) : StageMove c .tick (advanceState c).state := by
  have hcase := advanceState_cases c
  generalize advanceState c = result at hcase ⊢
  cases hcase with
  | emergency h g => exact stageMove_stopped c .tick
  | handshakeLost h =>
    exact .elsewhere (by rw [h.1]; decide) (by decide : State.fault ∉ laterStates)
  | gearMismatch h =>
    exact .elsewhere (by rw [h.1]; decide) (by decide : State.waitGear ∉ laterStates)
  | stage => exact advanceStage_move c

theorem ingest_move (c : Controller) (f : CanFrame) :
    StageMove c (.ingest f) (ingest c f).2.state := by
  rcases ingest_stop c f with ⟨-, hst, -⟩ | ⟨-, -, hst, -⟩ | ⟨-, -, -, hsees, hst⟩
  · rw [hst]
    exact .stays
  · rw [hst, switchedState]
    split
    · rename_i hready
      exact .elsewhere (by rw [hready]; decide) (by decide)
    · exact stageMove_stopped c _
  · have harming : c.state ∉ shutdownSequence := by
      intro hmem
      have haccepted := hsees.2.2.2
      generalize c.state = s at hmem haccepted
      cases s <;> simp [shutdownSequence] at hmem haccepted
    rw [hst]
    exact .elsewhere harming (by split <;> decide)

theorem setCommand_move (c : Controller) (command : Command) :
    StageMove c (.setCommand command) (setCommand c command).2.state := by
  have hcase := setCommand_cases c command
  generalize setCommand c command = result at hcase ⊢
  cases hcase with
  | rejected => exact .stays
  | moving g hgear hshut => exact stageMove_stopped c _
  | accepted hv hsame => exact .stays
  | regear hv hgear hready =>
    exact .elsewhere (by rw [hready]; decide) (by decide : State.waitGear ∉ laterStates)

theorem requestDisarm_move (c : Controller) :
    StageMove c .requestDisarm (requestDisarm c).state := by
  simp only [requestDisarm]
  split_ifs with hrest hinitial hwaiting hshut
  · exact .stays
  · exact .initial hinitial
  · exact .waiting hwaiting
  · exact .stays
  · refine .elsewhere (fun hmem => hshut ?_) (by rw [enter_state]; decide)
    exact List.mem_append_left [.disarmed] hmem

theorem respond_move (c : Controller) (e : Event) : StageMove c e (respond c e).2.state := by
  cases e with
  | reset => exact .abandons (.inl rfl) (by decide : State.standby ∉ laterStates)
  | transportFault => exact .abandons (.inr rfl) (by decide : State.fault ∉ laterStates)
  | setCommand command => exact setCommand_move c command
  | setEmergencyCommand command =>
    simp only [respond, setEmergencyCommand]
    split <;> exact .stays
  | setAutomaticParking enabled requested stoppedFresh brakeBar => exact .stays
  | emergencyStop =>
    obtain ⟨g, h⟩ := emergencyStop_frame c
    simp only [respond, h]
    exact stageMove_stopped c _
  | clearEmergencyStop =>
    simp only [respond, clearEmergencyStop]
    split <;> exact .stays
  | requestParallelHandshake =>
    simp only [respond, requestParallelHandshake]
    split_ifs with hready
    · exact .stays
    · have hrest : c.state = .standby ∨ c.state = .disarmed := by
        by_contra hnot
        exact hready (.inl (not_or.mp hnot))
      refine .elsewhere ?_ (by rw [enter_state]; decide)
      rcases hrest with hs | hs <;> (rw [hs]; decide)
  | requestDisarm => exact requestDisarm_move c
  | ingest f => exact ingest_move c f
  | tick => exact advanceState_move c

/-! ## Runs -/

/-- The states a shutdown has come through when it is in the state. -/
def predecessors : State → List State
  | .disarmStop => [.disarmTorque]
  | .disarmNeutral => [.disarmStop, .disarmTorque]
  | .disarmParkingBrake => [.disarmNeutral, .disarmStop, .disarmTorque]
  | .disarmManual => [.disarmParkingBrake, .disarmNeutral, .disarmStop, .disarmTorque]
  | _ => []

/-- How the present state has been reached, as far as the shutdown is concerned. -/
def Arrived (h : History Controller Event Reply) (c : Controller) : Prop :=
  (c.state = .disarmManual ∧ ∃ entry past, EnteredFrom .waitParallelHandshake entry past h) ∨
    Trail (predecessors c.state) h

theorem predecessors_elsewhere {s : State} (h : s ∉ laterStates) : predecessors s = [] := by
  cases s <;> first | rfl | exact absurd (by decide) h

theorem predecessors_next {s t : State} (h : successor s = some t) :
    predecessors t = [] ∨ (s ≠ .disarmManual ∧ predecessors t = s :: predecessors s) := by
  cases s <;> simp [successor] at h <;> subst h <;> simp [predecessors]

theorem enteredFrom_now {st : Step Controller Event Reply}
    (hne : st.after.state ≠ st.before.state) (h : History Controller Event Reply) :
    EnteredFrom st.before.state st h (st :: h) :=
  ⟨by rw [stage_cons_of_ne hne]; rfl, rfl⟩

theorem EnteredFrom.stays {s : State} {st entry : Step Controller Event Reply}
    {past h : History Controller Event Reply} (hentered : EnteredFrom s entry past h)
    (heq : st.after.state = st.before.state) : EnteredFrom s entry past (st :: h) := by
  obtain ⟨hcut, hs⟩ := hentered
  refine ⟨?_, hs⟩
  rw [stage_cons_of_eq heq, List.cons_append, ← hcut]

theorem Trail.stays {l : List State} {st : Step Controller Event Reply}
    {h : History Controller Event Reply} (ht : Trail l h)
    (heq : st.after.state = st.before.state) : Trail l (st :: h) := by
  cases l with
  | nil => trivial
  | cons s earlier =>
    obtain ⟨entry, past, hentered, hrest⟩ := ht
    exact ⟨entry, past, hentered.stays heq, hrest⟩

theorem arrived_step {h : History Controller Event Reply} {c : Controller}
    (hr : Run machine h c) (hi : Arrived h c) (e : Event) :
    Arrived (machine.observe c e :: h) (respond c e).2 := by
  by_cases hsame : (respond c e).2.state = c.state
  · unfold Arrived
    rw [hsame]
    rcases hi with ⟨hstate, entry, past, hentered⟩ | htrail
    · exact .inl ⟨hstate, entry, past, hentered.stays hsame⟩
    · exact .inr (htrail.stays hsame)
  have hnow : EnteredFrom c.state (machine.observe c e) h (machine.observe c e :: h) :=
    enteredFrom_now hsame h
  have hmove := respond_move c e
  unfold Arrived
  generalize (respond c e).2.state = t at hmove hsame
  cases hmove with
  | stays => exact absurd rfl hsame
  | abandons he ht | elsewhere hs ht =>
    rw [predecessors_elsewhere ht]
    exact .inr trivial
  | initial hs => exact .inr trivial
  | waiting hs => exact .inl ⟨rfl, _, h, hs ▸ hnow⟩
  | next he hc ht =>
    right
    rcases predecessors_next ht with hnil | ⟨hnot, hcons⟩
    · rw [hnil]
      trivial
    · rw [hcons]
      exact ⟨_, h, hnow, confirmed_of_checked hr hc, hi.resolve_left fun hm => hnot hm.1⟩

theorem successor_disarmed {s : State} (h : successor s = some .disarmed) : s = .disarmManual := by
  cases s <;> simp [successor] at h
  rfl

theorem successor_disarmManual {s : State} (h : successor s = some .disarmManual) :
    s = .disarmParkingBrake := by
  cases s <;> simp [successor] at h
  rfl

theorem orderlyDisarm_of_move {st : Step Controller Event Reply}
    {past : History Controller Event Reply}
    (hmove : StageMove st.before st.event st.after.state)
    (hconfirmed : Checked st.before → Confirmed st.before.state past)
    (hi : Arrived past st.before) : OrderlyDisarm st past := by
  generalize ht : st.after.state = t at hmove
  have hlater : ∀ s, s ∈ laterStates → t ∉ laterStates → ¬Enters st s := by
    rintro s hs hnot ⟨-, rfl⟩
    exact hnot (ht ▸ hs)
  cases hmove with
  | stays =>
    have hnever : ∀ s, ¬Enters st s := fun s h => h.1 (ht.symm.trans h.2)
    exact ⟨fun h => absurd h (hnever _), fun h => absurd h (hnever _), fun _ h => absurd ht h,
      fun h _ => absurd h (hnever _)⟩
  | abandons he hnot =>
    exact ⟨fun h => absurd h (hlater _ (by decide) hnot),
      fun h => absurd h (hlater _ (by decide) hnot), fun _ _ => .inl he,
      fun h _ => absurd h (hlater _ (by decide) hnot)⟩
  | elsewhere hs hnot =>
    exact ⟨fun h => absurd h (hlater _ (by decide) hnot),
      fun h => absurd h (hlater _ (by decide) hnot), fun h _ => absurd h hs,
      fun h _ => absurd h (hlater _ (by decide) hnot)⟩
  | initial hs =>
    refine ⟨fun _ => .inl hs, fun h => absurd (ht.symm.trans h.2) (by decide), fun h _ => ?_,
      fun _ h => absurd (hs.symm.trans h) (by decide)⟩
    rw [hs] at h
    exact absurd h (by decide)
  | waiting hs =>
    refine ⟨fun h => absurd (ht.symm.trans h.2) (by decide), fun _ => .inl hs, fun h _ => ?_,
      fun _ h => absurd (hs.symm.trans h) (by decide)⟩
    rw [hs] at h
    exact absurd h (by decide)
  | next he hc hnext =>
    have hdone := hconfirmed hc
    rw [← ht] at hnext
    refine ⟨fun h => ?_, fun h => ?_, fun _ _ => .inr ⟨he, hnext, hdone⟩, fun _ hmanual => ?_⟩
    · exact .inr (successor_disarmed (h.2 ▸ hnext))
    · have hparking := successor_disarmManual (h.2 ▸ hnext)
      rw [hparking] at hdone
      rcases hi with ⟨hmanual, -⟩ | htrail
      · exact absurd (hparking.symm.trans hmanual) (by decide)
      · rw [hparking] at htrail
        exact .inr ⟨hparking, hdone, htrail⟩
    · rw [hmanual] at hdone
      rcases hi with ⟨-, hwaiting⟩ | htrail
      · exact ⟨hdone, .inl hwaiting⟩
      · rw [hmanual] at htrail
        exact ⟨hdone, .inr htrail⟩

/-- **The shutdown is orderly**, in every run. -/
theorem orderly_disarm {h : History Controller Event Reply} {c : Controller}
    (hr : Run machine h c) : Always OrderlyDisarm h :=
  Run.always_of_link (m := machine) (C := fun _ => True) (R := Arrived) (.inr trivial)
    (fun _ _ e hr hi _ => arrived_step hr hi e)
    (fun _ c e hr hi _ => orderlyDisarm_of_move (respond_move c e) (confirmed_of_checked hr) hi)
    hr (steps_true h)

/-- Armed, disarmed on request, and taken through every stage by the feedback it waits for. -/
def shutdownRun : List Event :=
  armWith { gear := 2 } armedRecord ++ [.tick, .requestDisarm] ++
  (List.finRange motorCount).map (fun i => .ingest (zeroTorqueFrame i)) ++
  [.tick, .ingest (vehicleSpeedFrame 0), .tick, .ingest (vehicleStatusFrame 1), .tick,
    .ingest (parkingBrakeFrame fun _ => 2), .tick] ++
  (injectedFrames {}).map .ingest ++ [.tick]

theorem orderly_disarm_shutdownRun :
    (machine.play shutdownRun).2.state = .disarmed ∧
      Always OrderlyDisarm (machine.play shutdownRun).1 :=
  ⟨by decide +kernel, orderly_disarm (Run.play machine shutdownRun)⟩

end MineTeleop.Vcu
