import MineTeleop.Vcu.Effects
import MineTeleop.Vcu.FeedbackFrames

/-!
# Parking and traction

Proved here, for every run of the controller:

* `released_since_transition`: a release that the controller trusts was reported by the last
  parking-brake frame, and that frame came after the last change from park to release;
* `stoppedFresh_iff_since`: the stopped-and-fresh flag is the one of the last call;
* `parking_traction_law`: no torque against an applied brake, no brake applied while moving.
-/

namespace MineTeleop.Vcu

open Runs

/-- The step changes the request from park to release. -/
def RequestsRelease (st : Step Controller Event Reply) : Prop :=
  match st.event with
  | .setAutomaticParking enabled requested _ _ =>
    enabled = true ∧ requested = false ∧
      (st.before.automaticParking = false ∨ st.before.automaticParkRequested = true)
  | _ => False

/-- The step ingests a parking-brake frame. -/
def ReportsParking (st : Step Controller Event Reply) : Prop :=
  match st.event with
  | .ingest frame => ParkingFrame frame
  | _ => False

/-- The step ingests a parking-brake frame that reports every actuator released. -/
def ReportsReleased (st : Step Controller Event Reply) : Prop :=
  match st.event with
  | .ingest frame =>
    ParkingFrame frame ∧
      ∀ index : Fin parkingBrakeCount, signalInt frame (index.val * 16) 2 = parkingBrakeRelease
  | _ => False

/-- Every actuator was last reported released, after the last change from park to release. -/
def ReleasedSinceTransition : History Controller Event Reply → Prop :=
  Since (fun st => st.event ≠ .reset ∧ ¬RequestsRelease st ∧ ¬ReportsParking st) ReportsReleased

/-- The step tells the controller whether the vehicle has stopped. -/
def TellsStopped (st : Step Controller Event Reply) : Prop :=
  match st.event with
  | .reset => True
  | .setAutomaticParking _ _ _ _ => True
  | _ => False

/-- The step tells the controller that the vehicle has stopped, on fresh feedback. -/
def TellsStoppedFresh (st : Step Controller Event Reply) : Prop :=
  match st.event with
  | .setAutomaticParking _ _ stoppedFresh _ => stoppedFresh = true
  | _ => False

/-- The last word of the caller is that the vehicle has stopped. -/
def StoppedFreshTold : History Controller Event Reply → Prop :=
  Since (fun st => ¬TellsStopped st) TellsStoppedFresh

/-! ## What the parking fields depend on -/

theorem ingest_parkingFrame {c : Controller} {f : CanFrame} (hp : ParkingFrame f)
    (hrel : (ingest c f).2.feedback.ParkingBrakesAt parkingBrakeRelease) :
    ∀ index : Fin parkingBrakeCount, signalInt f (index.val * 16) 2 = parkingBrakeRelease := by
  have hcase := ingest_cases c f
  generalize ingest c f = result at hcase hrel
  cases hcase with
  | ignored h => exact absurd hp.2 (h hp.1).2.2
  | handshake hw hid => exact absurd (hid.symm.trans hp.2) (by decide)
  | vehicleStatus hw hid => exact absurd (hid.symm.trans hp.2) (by decide)
  | parkingBrake hw hid => exact fun index => (hrel index).2
  | other r hr hh hs hn => exact absurd hp.2 hn

/-- The part of the state that `parking_released` reads, apart from the request. -/
structure ParkingView where
  released : ℕ
  reported : ℕ
  status : ParkingBrakes ℤ
  valid : ParkingBrakes Bool

def parkingView (c : Controller) : ParkingView :=
  ⟨c.parkingReleaseGeneration, c.parkingBrakeGeneration, c.feedback.parkingBrakeStatus,
    c.feedback.parkingBrakeValid⟩

/-- The events that write the parking view. -/
def SetsParking : Event → Prop
  | .reset => True
  | .setAutomaticParking _ _ _ _ => True
  | .ingest frame => ParkingFrame frame
  | _ => False

/-- Every other event leaves the parking view and never takes back a generation. -/
theorem respond_parkingView (c : Controller) (e : Event) (hset : ¬SetsParking e) :
    parkingView (respond c e).2 = parkingView c ∧
      c.receiveGeneration ≤ (respond c e).2.receiveGeneration := by
  cases e with
  | reset => exact absurd trivial hset
  | setCommand command =>
    have hcase := setCommand_cases c command
    simp only [respond]
    generalize setCommand c command = result at hcase ⊢
    cases hcase <;> exact ⟨rfl, le_rfl⟩
  | setEmergencyCommand command =>
    simp only [respond, setEmergencyCommand]
    split <;> exact ⟨rfl, le_rfl⟩
  | setAutomaticParking enabled requested stoppedFresh brakeBar =>
    exact absurd trivial hset
  | emergencyStop =>
    obtain ⟨g, h⟩ := emergencyStop_frame c
    simp only [respond, h]
    exact ⟨rfl, le_rfl⟩
  | clearEmergencyStop =>
    simp only [respond, clearEmergencyStop]
    split <;> exact ⟨rfl, le_rfl⟩
  | requestParallelHandshake =>
    simp only [respond, requestParallelHandshake]
    split <;> exact ⟨rfl, le_rfl⟩
  | requestDisarm =>
    simp only [respond, requestDisarm]
    split_ifs <;> exact ⟨rfl, le_rfl⟩
  | transportFault => exact ⟨rfl, le_rfl⟩
  | ingest f =>
    obtain ⟨-, hkeep, hgen, -⟩ := ingest_parking c f
    obtain ⟨hreported, hstatus, hvalid⟩ := hkeep hset
    obtain ⟨-, -, -, -, -, -, hreleased⟩ := ingest_keeps c f
    refine ⟨?_, hgen⟩
    simp only [respond, parkingView, hreleased, hreported, hstatus, hvalid]
  | tick =>
    obtain ⟨s, g, n, stop, h⟩ := advanceState_frame c
    simp only [respond, tick, h]
    exact ⟨rfl, le_rfl⟩

/-! ## Runs -/

/-- Generations never run ahead of the frames received. -/
def GenerationsBounded (c : Controller) : Prop :=
  c.parkingBrakeGeneration ≤ c.receiveGeneration ∧
  c.parkingReleaseGeneration ≤ c.receiveGeneration

/-- The link between the parking fields and the history. -/
def ReleaseLink (h : History Controller Event Reply) (c : Controller) : Prop :=
  GenerationsBounded c ∧
  (c.parkingReleaseGeneration < c.parkingBrakeGeneration →
    c.feedback.ParkingBrakesAt parkingBrakeRelease → ReleasedSinceTransition h)

theorem releaseLink_setAutomaticParking {h : History Controller Event Reply} {c : Controller}
    (hlink : ReleaseLink h c) (enabled requested stoppedFresh : Bool) (brakeBar : ℚ) :
    let e := Event.setAutomaticParking enabled requested stoppedFresh brakeBar
    ReleaseLink (machine.observe c e :: h) (respond c e).2 := by
  intro e
  obtain ⟨⟨hreported, hreleased⟩, hsince⟩ := hlink
  by_cases hrequest : RequestsRelease (machine.observe c e)
  · -- The stamp is the newest frame: no report is newer yet.
    have hgen : (respond c e).2.parkingReleaseGeneration = c.receiveGeneration := by
      refine if_pos ?_
      simpa [RequestsRelease, Machine.observe, e, and_assoc] using hrequest
    refine ⟨⟨hreported, le_of_eq hgen⟩, fun hlt => ?_⟩
    rw [hgen] at hlt
    exact absurd hlt (not_lt.mpr hreported)
  · have hgen : (respond c e).2.parkingReleaseGeneration = c.parkingReleaseGeneration := by
      refine if_neg fun hc => hrequest ?_
      simpa [RequestsRelease, Machine.observe, e, and_assoc] using hc
    refine ⟨⟨hreported, hgen ▸ hreleased⟩, fun hlt hrel => ?_⟩
    rw [hgen] at hlt
    exact .inr ⟨⟨by simp [Machine.observe, e], hrequest, id⟩, hsince hlt hrel⟩

theorem releaseLink_parkingFrame {h : History Controller Event Reply} {c : Controller}
    (hlink : ReleaseLink h c) {f : CanFrame} (hf : ParkingFrame f) :
    ReleaseLink (machine.observe c (.ingest f) :: h) (respond c (.ingest f)).2 := by
  obtain ⟨hstamp, -, -, hgen⟩ := ingest_parking c f
  obtain ⟨-, -, -, -, -, -, hkeep⟩ := ingest_keeps c f
  refine ⟨⟨?_, ?_⟩, fun _ hrel => .inl ⟨hf, ingest_parkingFrame hf hrel⟩⟩
  · simp only [respond, hstamp hf, hgen hf, le_refl]
  · simp only [respond, hkeep, hgen hf]
    exact le_trans hlink.1.2 (Nat.le_succ _)

theorem releaseLink_other {h : History Controller Event Reply} {c : Controller} {e : Event}
    (hlink : ReleaseLink h c) (hset : ¬SetsParking e) :
    ReleaseLink (machine.observe c e :: h) (respond c e).2 := by
  obtain ⟨⟨hreported, hreleased⟩, hsince⟩ := hlink
  obtain ⟨hview, hgen⟩ := respond_parkingView c e hset
  simp only [parkingView, ParkingView.mk.injEq] at hview
  obtain ⟨hreleased', hreported', hstatus, hvalid⟩ := hview
  have hhold : (machine.observe c e).event ≠ .reset ∧ ¬RequestsRelease (machine.observe c e) ∧
      ¬ReportsParking (machine.observe c e) := by
    cases e <;> simp_all [SetsParking, RequestsRelease, ReportsParking, Machine.observe]
  refine ⟨⟨by omega, by omega⟩, fun hlt hrel => .inr ⟨hhold, hsince (by omega) ?_⟩⟩
  rwa [Feedback.ParkingBrakesAt, hstatus, hvalid] at hrel

theorem releaseLink_step {h : History Controller Event Reply} {c : Controller} (e : Event)
    (hlink : ReleaseLink h c) : ReleaseLink (machine.observe c e :: h) (respond c e).2 := by
  by_cases hset : SetsParking e
  · cases e with
    | reset => exact ⟨⟨le_rfl, le_rfl⟩, fun hlt => absurd hlt (lt_irrefl 0)⟩
    | setAutomaticParking enabled requested stoppedFresh brakeBar =>
      exact releaseLink_setAutomaticParking hlink enabled requested stoppedFresh brakeBar
    | ingest f => exact releaseLink_parkingFrame hlink hset
    | _ => exact absurd hset id
  · exact releaseLink_other hlink hset

variable {h : History Controller Event Reply} {c : Controller}

/-- A trusted release is one reported after the last change from park to release. -/
theorem released_since_transition (hr : Run machine h c)
    (hgen : c.parkingReleaseGeneration < c.parkingBrakeGeneration)
    (hrel : c.feedback.ParkingBrakesAt parkingBrakeRelease) : ReleasedSinceTransition h := by
  have hlink : ReleaseLink h c :=
    hr.link (C := fun _ => True) (R := ReleaseLink)
      ⟨⟨le_rfl, le_rfl⟩, fun hlt => absurd hlt (lt_irrefl 0)⟩
      (fun h c e _ hlink _ => releaseLink_step e hlink) (steps_true h)
  exact hlink.2 hgen hrel

theorem stoppedFresh_iff_since (hr : Run machine h c) :
    c.parkingStoppedFresh = true ↔ StoppedFreshTold h := by
  refine hr.iff_since (P := fun c => c.parkingStoppedFresh = true) (by decide) fun s e => ?_
  cases e with
  | reset =>
    simp [TellsStoppedFresh, TellsStopped, Machine.observe, machine, respond, Vcu.reset]
  | setAutomaticParking enabled requested stoppedFresh brakeBar =>
    simp [TellsStoppedFresh, TellsStopped, Machine.observe, machine, respond,
      setAutomaticParking]
  | setCommand command =>
    have hcase := setCommand_cases s command
    simp only [TellsStoppedFresh, TellsStopped, Machine.observe, machine, respond]
    generalize setCommand s command = result at hcase ⊢
    cases hcase <;> simp [enter]
  | setEmergencyCommand command =>
    simp only [TellsStoppedFresh, TellsStopped, Machine.observe, machine, respond,
      setEmergencyCommand]
    split <;> simp
  | emergencyStop =>
    obtain ⟨g, hf⟩ := emergencyStop_frame s
    simp [TellsStoppedFresh, TellsStopped, Machine.observe, machine, respond, hf]
  | clearEmergencyStop =>
    simp only [TellsStoppedFresh, TellsStopped, Machine.observe, machine, respond,
      clearEmergencyStop]
    split <;> simp
  | requestParallelHandshake =>
    simp only [TellsStoppedFresh, TellsStopped, Machine.observe, machine, respond,
      requestParallelHandshake]
    split <;> simp [enter]
  | requestDisarm =>
    simp only [TellsStoppedFresh, TellsStopped, Machine.observe, machine, respond, requestDisarm]
    split_ifs <;> simp [enter]
  | transportFault =>
    simp [TellsStoppedFresh, TellsStopped, Machine.observe, machine, respond, transportFault,
      enter]
  | ingest frame =>
    simp [TellsStoppedFresh, TellsStopped, Machine.observe, machine, respond,
      (ingest_keeps s frame).2.2.2.2.1]
  | tick => simp [TellsStoppedFresh, TellsStopped, Machine.observe, machine, respond, tick]

/-- What a tick owes: torque only without a stop and with the brakes released since the request,
and no brake applied in an armed state unless the vehicle stands still without torque. -/
def ParkingTractionLaw (st : Step Controller Event Reply)
    (past : History Controller Event Reply) : Prop :=
  OnTick (fun _ b after =>
    (CarriesTorque b →
      after.state = .ready ∧ after.emergencyStop = false ∧ after.feedback.emergencySwitch = 0 ∧
      (after.automaticParking = true → after.automaticParkRequested = false ∧
        after.feedback.ParkingBrakesAt parkingBrakeRelease ∧ ReleasedSinceTransition past)) ∧
    (after.state ∈ [.waitGear, .waitActuatorModes, .ready] →
      (∃ i, b.parkingBrake i = parkingBrakePark) →
      StoppedFreshTold past ∧ AllValid after.feedback.motorTorqueValid ∧
      TorqueZero after.feedback.motorTorqueNm)) st

theorem traction_of_carriesTorque (hr : Run machine h c)
    (ht : CarriesTorque (commandBatch (advanceState c))) :
    (advanceState c).state = .ready ∧ (advanceState c).emergencyStop = false ∧
      c.feedback.emergencySwitch = 0 ∧
      (c.automaticParking = true → c.automaticParkRequested = false ∧
        c.feedback.ParkingBrakesAt parkingBrakeRelease ∧ ReleasedSinceTransition h) := by
  rw [commandBatch_carriesTorque] at ht
  obtain ⟨hready, hpark, hsafety, -⟩ := ht
  have hstop : (advanceState c).emergencyStop = false ∧ c.feedback.emergencySwitch = 0 := by
    simpa [SafetyBrake, hready] using hsafety
  refine ⟨hready, hstop.1, hstop.2, fun hauto => ?_⟩
  have hactive : AutomaticParkingActive (advanceState c) := ⟨by simpa using hauto, by simp [hready]⟩
  have hwanted : ¬ParkWanted (advanceState c) := fun hw => hpark ⟨hactive, .inl hw⟩
  have hreleased : ParkingReleased c := by
    by_contra hno
    exact hpark ⟨hactive, .inr (by simpa using hno)⟩
  have hreq : c.automaticParkRequested = false := by
    simpa [ParkWanted, hready] using hwanted
  obtain ⟨hgen, hrel⟩ := hreleased
  rcases hgen with hoff | ⟨-, hgen⟩
  · exact absurd hauto (by simp [hoff])
  · exact ⟨hreq, hrel, released_since_transition hr hgen hrel⟩

theorem stopped_of_park (hr : Run machine h c)
    (harmed : (advanceState c).state ∈ [.waitGear, .waitActuatorModes, .ready])
    (hpark : ∃ i, (commandBatch (advanceState c)).parkingBrake i = parkingBrakePark) :
    StoppedFreshTold h ∧ AllValid c.feedback.motorTorqueValid ∧
      TorqueZero c.feedback.motorTorqueNm := by
  obtain ⟨i, hi⟩ := hpark
  have hstage : (advanceState c).state ∉ [.disarmParkingBrake, .disarmManual] := by
    generalize (advanceState c).state = s at harmed
    cases s <;> first | decide | exact absurd harmed (by decide)
  rw [commandBatch_parkingBrake, if_neg hstage] at hi
  split_ifs at hi with hactive hw hsafe
  · obtain ⟨hfresh, hvalid, hzero⟩ := hsafe
    rw [advanceState_feedback] at hvalid hzero
    rw [advanceState_parkingStoppedFresh] at hfresh
    exact ⟨(stoppedFresh_iff_since hr).mp hfresh, hvalid, hzero⟩
  all_goals
    exact absurd hi (by simp [parkingBrakeHold, parkingBrakeRelease, parkingBrakePark])

/-- **Parking and traction**, for every tick of every run. -/
theorem parking_traction_law (hr : Run machine h c) : Always ParkingTractionLaw h := by
  induction hr with
  | init => trivial
  | step e hr ih =>
    refine ⟨(onTick_observe _ _ e).mpr fun _ => ⟨fun ht => ?_, fun harmed hpark => ?_⟩, ih⟩
    · simpa using traction_of_carriesTorque hr ht
    · simpa using stopped_of_park hr harmed hpark

/-- Armed with automatic parking: park at the standstill, release, drive. -/
theorem parking_traction_law_driven :
    let run := machine.play
      (.setAutomaticParking true true true 5 ::
        armWith { gear := 2, motorTorqueNm := fun _ => 100 } armedRecord ++
        [.tick, .setAutomaticParking true false true 5,
          .ingest (parkingBrakeFrame fun _ => 1), .tick])
    CarriesTorque (commandBatch run.2) ∧ Always ParkingTractionLaw run.1 :=
  ⟨by decide +kernel, parking_traction_law (Run.play machine _)⟩

end MineTeleop.Vcu
