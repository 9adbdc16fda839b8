import MineTeleop.Bridge.Traction
import MineTeleop.Vcu.BenchFrames

/-!
# The bench hook and the feedback that the bridge reports

`update_feedback_locked` copies the feedback of the controller into `last_feedback_`, which the
feedback entry point hands out; it runs behind every accepted frame and in every tick.

Proved here:

* `respond_feedback`: without one of the two the feedback of the controller is what it was, so that
  the copy is up to date in every state (the field `synced`);
* `inject_controller`: the bench hook is the controller's `ingest`, one frame after the other;
* `inject_round_trip`: the copy after the hook is the record.
-/

namespace MineTeleop.Bridge

open Vcu (CanFrame Controller FeedbackRecord SteeringAxes ParkingBrakes Motors Brakes)

/-! ## The copy -/

/-- `MineTeleopChassisFeedback` as the bridge fills it, with `none` for an angle that is NaN. -/
structure ReportedFeedback where
  shakeHandStatus : ℤ
  epbStatus : ParkingBrakes ℤ
  gearStatus : ℤ
  mcuMode : Motors ℤ
  epsMode : SteeringAxes ℤ
  epsAngle : SteeringAxes (Option ℚ)
  ehbMode : Brakes ℤ
  vehicleSpeed : ℚ
  vehicleSpeedValid : Bool
  driverGearRequest : ℤ
  driverGearRequestValid : Bool

def reportFeedback (f : Vcu.Feedback) : ReportedFeedback where
  shakeHandStatus := f.handshakeStatus
  epbStatus := f.parkingBrakeStatus
  gearStatus := f.gear
  mcuMode := f.motorMode
  epsMode := f.steeringMode
  epsAngle := fun index => if f.steeringValid index then some (f.steeringAngleDeg index) else none
  ehbMode := f.brakeMode
  vehicleSpeed := f.speedMps
  vehicleSpeedValid := f.speedValid
  driverGearRequest := f.driverGearRequest
  driverGearRequestValid := f.driverGearRequestValid

/-- The event runs `update_feedback_locked`. -/
def UpdatesFeedback (b : BridgeRuntime) : Event → Prop
  | .ingest _ frame => (Vcu.ingest b.controller frame).1 = true
  | .tick _ _ => b.running = true
  | _ => False

instance (b : BridgeRuntime) (e : Event) : Decidable (UpdatesFeedback b e) := by
  cases e <;> unfold UpdatesFeedback <;> infer_instance

/-! ## Where the feedback stays -/

theorem emergencyStop_feedback (c : Controller) : (Vcu.emergencyStop c).feedback = c.feedback := by
  obtain ⟨g, h⟩ := Vcu.emergencyStop_frame c
  rw [h]

theorem requestDisarm_feedback (c : Controller) : (Vcu.requestDisarm c).feedback = c.feedback := by
  unfold Vcu.requestDisarm
  split_ifs <;> rfl

theorem requestParallelHandshake_feedback (c : Controller) :
    (Vcu.requestParallelHandshake c).2.feedback = c.feedback := by
  unfold Vcu.requestParallelHandshake
  split_ifs <;> rfl

theorem configureRuntimeControl_feedback (b : BridgeRuntime) (now : ℤ)
    (config : RuntimeControlConfig) (expected : ℕ) (riseRate : Double) (parking : ℤ) :
    (configureRuntimeControl b now config expected riseRate parking).2.2.controller.feedback =
      b.controller.feedback := by
  unfold configureRuntimeControl
  split
  · rfl
  split
  · rfl
  split
  · rfl
  split
  · rfl
  extract_lets recovered
  have hcontroller : recovered.controller = b.controller := by
    unfold recovered
    split <;> rfl
  change recovered.controller.feedback = b.controller.feedback
  rw [hcontroller]

theorem configure_feedback (b : BridgeRuntime) (now : ℤ) (entry : ProfileEntry)
    (config : RuntimeControlConfig) :
    (configure b now entry config).2.2.controller.feedback = b.controller.feedback := by
  cases entry with
  | v1 => exact configureRuntimeControl_feedback b now config _ _ _
  | v2 => exact configureRuntimeControl_feedback b now config _ _ _
  | v3 =>
    simp only [configure, configureRuntimeControlV3]
    split_ifs
    · rfl
    · exact configureRuntimeControl_feedback b now config _ _ _

theorem requestPark_feedback (b : BridgeRuntime) :
    (requestPark b).2.controller.feedback = b.controller.feedback := by
  unfold requestPark
  split_ifs
  · rfl
  · exact requestDisarm_feedback b.controller

theorem applyState_feedback (b : BridgeRuntime) (now : ℤ) (a : ApplyArguments) :
    (applyState b now a).2.controller.feedback = b.controller.feedback := by
  unfold applyState
  split
  · exact emergencyStop_feedback b.controller
  · split_ifs
    · exact requestPark_feedback b
    · unfold storeIntent
      split_ifs <;> rfl

/-- Without an accepted frame and without a tick the feedback stays. -/
theorem respond_feedback (b : BridgeRuntime) (e : Event) (h : ¬UpdatesFeedback b e) :
    (respond b e).2.controller.feedback = b.controller.feedback := by
  cases e with
  | configure now entry config => exact configure_feedback b now entry config
  | clearRuntimeControl => rfl
  | setStopContext context =>
    simp only [respond, setStopContext]
    split
    · split_ifs <;> rfl
    · rfl
  | emergencyStop =>
    simp only [respond, emergencyStop]
    split_ifs
    · rfl
    · exact emergencyStop_feedback b.controller
  | requestParallelHandshake now =>
    simp only [respond, requestParallelHandshake]
    split_ifs
    · rfl
    · rfl
    · exact requestParallelHandshake_feedback b.controller
    · exact requestParallelHandshake_feedback b.controller
  | requestPark => exact requestPark_feedback b
  | applyState now arguments => exact applyState_feedback b now arguments
  | failControlApply => exact emergencyStop_feedback b.controller
  | ingest now frame =>
    have hrejected : (Vcu.ingest b.controller frame).1 = false := Bool.eq_false_of_not_eq_true h
    simp only [respond, ingest]
    rw [hrejected]
    rfl
  | receiveFailure receiveResult =>
    simp only [respond, whileRunning]
    split_ifs <;> rfl
  | tick now chassis =>
    have hstopped : b.running = false := Bool.eq_false_of_not_eq_true h
    simp only [respond, tick, if_pos hstopped]
  | sendResult failed =>
    simp only [respond, whileRunning, sendResult]
    split_ifs <;> rfl
  | ioException =>
    simp only [respond, whileRunning]
    split_ifs <;> rfl
  | beginClose =>
    simp only [respond, beginClose]
    split_ifs
    · rfl
    · exact requestDisarm_feedback b.controller
  | finishClose =>
    simp only [respond, finishClose]
    split_ifs <;> rfl

/-- A bridge that was opened has received no frame. -/
theorem opened_feedback {b : BridgeRuntime} (h : Opened b) : b.controller.feedback = {} := by
  obtain ⟨env, torque, timeout, speedControl, physical, maxBrake, -, hopen⟩ := h.built
  obtain ⟨initial, emergency, -, -, rfl⟩ := openBridge_ok hopen
  have hcase := Vcu.setCommand_cases Vcu.reset initial
  generalize Vcu.setCommand Vcu.reset initial = result at hcase ⊢
  cases hcase <;> rfl

/-! ## The bridge with its copy -/

/-- A bridge and its `last_feedback_`, which is up to date between two events. -/
structure Reporting where
  bridge : BridgeRuntime
  lastFeedback : ReportedFeedback
  synced : lastFeedback = reportFeedback bridge.controller.feedback

namespace Reporting

/-- The constructor zeroes the copy and marks its angles. -/
def opened (b : BridgeRuntime) (h : Opened b) : Reporting where
  bridge := b
  lastFeedback :=
    { shakeHandStatus := 0, epbStatus := fun _ => 0, gearStatus := 0, mcuMode := fun _ => 0
      epsMode := fun _ => 0, epsAngle := fun _ => none, ehbMode := fun _ => 0, vehicleSpeed := 0
      vehicleSpeedValid := false, driverGearRequest := 0, driverGearRequestValid := false }
  synced := by
    rw [opened_feedback h]
    rfl

def respond (r : Reporting) (e : Event) : Reporting where
  bridge := (Bridge.respond r.bridge e).2
  lastFeedback :=
    if UpdatesFeedback r.bridge e then
      reportFeedback (Bridge.respond r.bridge e).2.controller.feedback
    else r.lastFeedback
  synced := by
    split_ifs with h
    · rfl
    · rw [respond_feedback r.bridge e h]
      exact r.synced

/-- `inject`: each frame is ingested at the reading of the clock that it gets. -/
def inject (r : Reporting) (clock : ℕ → ℤ) (record : FeedbackRecord) : Reporting :=
  (Vcu.injectedFrames record).zipIdx.foldl
    (fun r frame => r.respond (.ingest (clock frame.2) frame.1)) r

end Reporting

/-! ## The round trip -/

theorem ingest_controller {b : BridgeRuntime} {frame : CanFrame}
    (h : (Vcu.ingest b.controller frame).1 = true) (now : ℤ) :
    (ingest b now frame).controller = (Vcu.ingest b.controller frame).2 := by
  simp only [ingest, if_pos h, recordFrame]
  split <;> rfl

/-- Frames that are accepted reach the controller as they would without the bridge. -/
theorem foldl_ingest_controller {frames : List CanFrame}
    {updates : List (Vcu.Feedback → Vcu.Feedback)} (h : List.Forall₂ Vcu.Records frames updates)
    (clock : ℕ → ℤ) (r : Reporting) (k : ℕ) :
    ((frames.zipIdx k).foldl (fun r frame => r.respond (.ingest (clock frame.2) frame.1))
      r).bridge.controller = Vcu.ingestAll r.bridge.controller frames := by
  induction h generalizing r k with
  | nil => rfl
  | @cons frame update frames updates hrecords _ ih =>
    have haccepted := (hrecords r.bridge.controller).1
    have hrest := ih (r.respond (.ingest (clock k) frame)) (k + 1)
    have hfirst : (r.respond (.ingest (clock k) frame)).bridge.controller =
        (Vcu.ingest r.bridge.controller frame).2 := ingest_controller haccepted (clock k)
    rw [hfirst] at hrest
    exact hrest

theorem inject_controller (r : Reporting) (clock : ℕ → ℤ) (record : FeedbackRecord) :
    (r.inject clock record).bridge.controller =
      Vcu.ingestAll r.bridge.controller (Vcu.injectedFrames record) :=
  foldl_ingest_controller (Vcu.records_injected record) clock r 0

/-- The copy says of the vehicle what the record said; `before` is the copy before. -/
structure RoundTrip (record : FeedbackRecord) (before after : ReportedFeedback) : Prop where
  handshake : after.shakeHandStatus = record.shakeHandStatus
  gear : after.gearStatus = record.gearStatus
  parkingBrake : after.epbStatus = record.epbStatus
  motorMode : after.mcuMode = record.mcuMode
  steeringMode : after.epsMode = record.epsMode
  brakeMode : after.ehbMode = record.ehbMode
  steeringAngle : ∀ i, ∃ angle,
    after.epsAngle i = some angle ∧ |angle - record.epsAngle i| ≤ 1 / 10 / 2
  speed : record.vehicleSpeedValid = true →
    after.vehicleSpeedValid = true ∧
    |after.vehicleSpeed - record.vehicleSpeed| ≤ 1 / 10 / 2 / (36 / 10)
  speedKept : record.vehicleSpeedValid = false →
    after.vehicleSpeedValid = before.vehicleSpeedValid ∧ after.vehicleSpeed = before.vehicleSpeed
  driverGear : record.driverGearRequestValid = true →
    after.driverGearRequestValid = true ∧ after.driverGearRequest = record.driverGearRequest
  driverGearKept : record.driverGearRequestValid = false →
    after.driverGearRequestValid = before.driverGearRequestValid ∧
    after.driverGearRequest = before.driverGearRequest

/-- What the frames of a record wrote, reported, is the record. -/
theorem roundTrip_of_ingested {record : FeedbackRecord} {f f' : Vcu.Feedback}
    (h : Vcu.Ingested record f f') (hrange : record.InRange) :
    RoundTrip record (reportFeedback f) (reportFeedback f') where
  handshake := h.handshake.trans (Vcu.signalInt_handshake hrange.handshake)
  gear := h.gear.trans (Vcu.signalInt_vehicleStatus hrange.gear)
  parkingBrake := funext fun i =>
    (h.parkingBrake i).trans (Vcu.signalInt_parkingBrake i (hrange.parkingBrake i))
  motorMode := funext fun i =>
    (h.motorMode i).trans (Vcu.signalInt_motorMode i (hrange.motorMode i))
  steeringMode := funext fun i =>
    (h.steeringMode i).trans (Vcu.signalInt_steeringMode i _ (hrange.steeringMode i))
  brakeMode := by
    funext i
    obtain ⟨index, first, second, hread, hmode⟩ := h.brakeMode i
    have hfits := hrange.brakeMode i
    rw [← hmode] at hfits
    exact (hread.trans (Vcu.signalInt_brake index (Nat.mod_lt _ (by decide)) hfits)).trans hmode
  steeringAngle := by
    intro i
    refine ⟨f'.steeringAngleDeg i, if_pos (h.steeringValid i), ?_⟩
    rw [h.steeringAngle i]
    exact Vcu.decode_steeringAngle i _ (hrange.steeringAngle i)
  speed := by
    intro hvalid
    have hspeed := h.speed
    rw [if_pos hvalid, Prod.mk.injEq] at hspeed
    refine ⟨hspeed.2, ?_⟩
    change |f'.speedMps - record.vehicleSpeed| ≤ _
    rw [hspeed.1]
    exact Vcu.decode_vehicleSpeed (hrange.speed hvalid)
  speedKept := by
    intro hinvalid
    have hspeed := h.speed
    rw [hinvalid, if_neg Bool.false_ne_true, Prod.mk.injEq] at hspeed
    exact hspeed.symm
  driverGear := by
    intro hvalid
    have hgear := h.driverGear
    rw [if_pos hvalid, Prod.mk.injEq] at hgear
    exact ⟨hgear.2, hgear.1.trans (Vcu.signalInt_driverIntention (hrange.driverGear hvalid))⟩
  driverGearKept := by
    intro hinvalid
    have hgear := h.driverGear
    rw [hinvalid, if_neg Bool.false_ne_true, Prod.mk.injEq] at hgear
    exact hgear.symm

/-- From any state of the bridge, the feedback it reports behind the hook is the record. -/
theorem inject_round_trip (r : Reporting) (clock : ℕ → ℤ) {record : FeedbackRecord}
    (hrange : record.InRange) :
    RoundTrip record r.lastFeedback (r.inject clock record).lastFeedback := by
  have hingested := Vcu.ingested_injected r.bridge.controller record
  rw [r.synced, (r.inject clock record).synced, inject_controller]
  exact roundTrip_of_ingested hingested hrange

/-- A record at the ends of its signals, with a speed that the grid does not have. -/
def steepRecord : FeedbackRecord :=
  { shakeHandStatus := 255, epbStatus := fun _ => 3, gearStatus := 3, mcuMode := fun _ => 15,
    epsMode := fun _ => 255, epsAngle := fun _ => -1575, ehbMode := fun _ => 15,
    vehicleSpeed := 1 / 3, driverGearRequestValid := false }

theorem steepRecord_inRange : steepRecord.InRange where
  handshake := by decide
  gear := by decide
  parkingBrake := by decide
  motorMode := by decide
  steeringMode := by decide
  steeringAngle := by decide
  brakeMode := by decide
  speed := by decide +kernel
  driverGear := fun h => absurd h (by decide)

theorem inject_round_trip_steep :
    let opened := Reporting.opened benchBridge benchBridge_opened
    RoundTrip steepRecord opened.lastFeedback
      (opened.inject (fun _ => 0) steepRecord).lastFeedback :=
  inject_round_trip _ _ steepRecord_inRange

end MineTeleop.Bridge
