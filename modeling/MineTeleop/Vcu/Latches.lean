import MineTeleop.Vcu.Effects
import MineTeleop.Vcu.FeedbackFrames

/-!
# The emergency and revocation latches

Proved here, for every run of the controller:

* `latched_iff_since`, `revoked_iff_since`: a latch is set exactly when a frame has set it since
  the last reset or accepted handshake request;
* `latches_hold`: the latches with the stop they assert and what the ticks do while the
  handshake is revoked.
-/

namespace MineTeleop.Vcu

open Runs

/-- The step lets both latches go. -/
def Clears (st : Step Controller Event Reply) : Prop := st.event = .reset ∨ Granted st

/-- The step ingests a frame with the physical switch pressed. -/
def IngestsPhysicalEmergency (st : Step Controller Event Reply) : Prop :=
  match st.event with
  | .ingest frame => SeesPhysicalEmergency frame
  | _ => False

/-- The step ingests the return of an accepted handshake to the manual state. -/
def IngestsRevocation (st : Step Controller Event Reply) : Prop :=
  match st.event with
  | .ingest frame => SeesRevocation st.before frame
  | _ => False

structure LatchInvariant (c : Controller) : Prop where
  stop_of_physical : c.physicalEmergencyLatched = true → c.emergencyStop = true
  stop_of_revoked : c.handshakeRevoked = true → c.emergencyStop = true
  shutdown_of_revoked : c.handshakeRevoked = true → c.state ∈ shutdownStates

/-- What a tick owes while the handshake is revoked. -/
def RevokedTick (before : Controller) (b : CommandBatch) (after : Controller) : Prop :=
  before.handshakeRevoked = true →
    b.handshakeRequest = noRequest ∧ ¬CarriesTorque b ∧
    (∀ i, b.parkingBrake i ≠ parkingBrakeRelease) ∧ after.state ∈ shutdownStates

/-! ## One step -/

/-- The latches after a step, from the latches before it. -/
theorem respond_latches (c : Controller) (e : Event) :
    ((respond c e).2.physicalEmergencyLatched = true ↔
      IngestsPhysicalEmergency (machine.observe c e) ∨
        (¬Clears (machine.observe c e) ∧ c.physicalEmergencyLatched = true)) ∧
    ((respond c e).2.handshakeRevoked = true ↔
      IngestsRevocation (machine.observe c e) ∨
        (¬Clears (machine.observe c e) ∧ c.handshakeRevoked = true)) := by
  cases e <;> simp only [Clears, Granted, Machine.observe, machine, respond,
    IngestsPhysicalEmergency, IngestsRevocation, reduceCtorEq, false_and, or_self,
    not_false_eq_true, true_and, false_or, true_or, not_true_eq_false, iff_false]
  case reset => decide
  case setCommand command =>
    have hcase := setCommand_cases c command
    generalize setCommand c command = result at hcase ⊢
    cases hcase <;> exact ⟨Iff.rfl, Iff.rfl⟩
  case setEmergencyCommand command =>
    simp only [setEmergencyCommand]
    split <;> exact ⟨Iff.rfl, Iff.rfl⟩
  case setAutomaticParking enabled requested stoppedFresh brakeBar =>
    exact ⟨Iff.rfl, Iff.rfl⟩
  case emergencyStop =>
    obtain ⟨g, h⟩ := emergencyStop_frame c
    rw [h]
    exact ⟨Iff.rfl, Iff.rfl⟩
  case clearEmergencyStop =>
    simp only [clearEmergencyStop]
    split <;> exact ⟨Iff.rfl, Iff.rfl⟩
  case requestParallelHandshake =>
    by_cases hready : (c.state ≠ .standby ∧ c.state ≠ .disarmed) ∨ ¬ParkingReady c
    · simp [requestParallelHandshake, if_pos hready]
    · simp [requestParallelHandshake, if_neg hready, enter]
  case requestDisarm =>
    simp only [requestDisarm]
    split_ifs <;> exact ⟨Iff.rfl, Iff.rfl⟩
  case transportFault => exact ⟨Iff.rfl, Iff.rfl⟩
  case ingest frame =>
    simp only [ingest_physicalEmergencyLatched, ingest_handshakeRevoked, Bool.or_eq_true,
      decide_eq_true_eq]
    exact ⟨or_comm, or_comm⟩
  case tick => simp [tick]

theorem latchInvariant_reset : LatchInvariant Vcu.reset :=
  ⟨fun h => absurd h (by decide), fun h => absurd h (by decide), fun h => absurd h (by decide)⟩

theorem latchInvariant_setCommand {c : Controller} (hi : LatchInvariant c) (command : Command) :
    LatchInvariant (setCommand c command).2 := by
  have hcase := setCommand_cases c command
  generalize setCommand c command = result at hcase ⊢
  cases hcase with
  | rejected => exact hi
  | moving g hgear hshut =>
    refine ⟨fun _ => rfl, fun _ => rfl, fun hrev => ?_⟩
    have hs := hi.shutdown_of_revoked hrev
    rwa [← stoppedState_shutdown hs] at hs
  | accepted hv hsame => exact ⟨hi.1, hi.2, hi.3⟩
  | regear hv hgear hready =>
    refine ⟨hi.1, hi.2, fun hrev => ?_⟩
    have hs := hi.shutdown_of_revoked hrev
    rw [hready] at hs
    exact absurd hs (by decide)

theorem latchInvariant_ingest {c : Controller} (hi : LatchInvariant c) (f : CanFrame) :
    LatchInvariant (ingest c f).2 := by
  have hphys := ingest_physicalEmergencyLatched c f
  rcases ingest_stop c f with ⟨hstop, hst, hsees, hrev⟩ | ⟨hstop, hrev, hst, -⟩ |
    ⟨hstop, -, -, -, hst⟩
  · refine ⟨fun hp => ?_, fun hr => ?_, fun hr => ?_⟩
    · rw [hstop]
      exact hi.stop_of_physical (by simpa [hphys, hsees] using hp)
    · rw [hstop]
      exact hi.stop_of_revoked (hrev ▸ hr)
    · rw [hst]
      exact hi.shutdown_of_revoked (hrev ▸ hr)
  · refine ⟨fun _ => hstop, fun _ => hstop, fun hr => ?_⟩
    rw [hst]
    exact switchedState_shutdown (hi.shutdown_of_revoked (hrev ▸ hr))
  · refine ⟨fun _ => hstop, fun _ => hstop, fun _ => ?_⟩
    rw [hst]
    split <;> decide

theorem latchInvariant_tick {c : Controller} (hi : LatchInvariant c) :
    LatchInvariant (advanceState c) := by
  refine ⟨fun hp => ?_, fun hr => ?_, fun hr => ?_⟩
  · exact advanceState_stop_of_stop c (hi.stop_of_physical (by simpa using hp))
  · exact advanceState_stop_of_stop c (hi.stop_of_revoked (by simpa using hr))
  · exact advanceState_shutdown (hi.shutdown_of_revoked (by simpa using hr))

theorem latchInvariant_step (c : Controller) (e : Event) (hi : LatchInvariant c) :
    LatchInvariant (respond c e).2 := by
  cases e with
  | reset => exact latchInvariant_reset
  | setCommand command => exact latchInvariant_setCommand hi command
  | setEmergencyCommand command =>
    simp only [respond, setEmergencyCommand]
    split
    · exact hi
    · exact ⟨hi.1, hi.2, hi.3⟩
  | setAutomaticParking enabled requested stoppedFresh brakeBar => exact ⟨hi.1, hi.2, hi.3⟩
  | emergencyStop =>
    obtain ⟨g, h⟩ := emergencyStop_frame c
    simp only [respond, h]
    refine ⟨fun _ => rfl, fun _ => rfl, fun hrev => ?_⟩
    have hs := hi.shutdown_of_revoked hrev
    rwa [← stoppedState_shutdown hs] at hs
  | clearEmergencyStop =>
    simp only [respond, clearEmergencyStop]
    split
    · rename_i hclear
      have hnot : c.physicalEmergencyLatched = false ∧ c.handshakeRevoked = false := by
        simpa using hclear
      exact ⟨fun hp => absurd hp (by simp [hnot]), fun hr => absurd hr (by simp [hnot]), hi.3⟩
    · exact hi
  | requestParallelHandshake =>
    simp only [respond, requestParallelHandshake]
    split
    · exact hi
    · exact ⟨fun h => absurd h (by simp [enter]), fun h => absurd h (by simp [enter]),
        fun h => absurd h (by simp [enter])⟩
  | requestDisarm =>
    simp only [respond, requestDisarm]
    split_ifs
    · exact hi
    · exact ⟨fun _ => rfl, fun _ => rfl, fun _ => (by decide : State.disarmed ∈ shutdownStates)⟩
    · exact ⟨fun _ => rfl, fun _ => rfl,
        fun _ => (by decide : State.disarmManual ∈ shutdownStates)⟩
    · exact ⟨fun _ => rfl, fun _ => rfl, hi.3⟩
    · exact ⟨fun _ => rfl, fun _ => rfl,
        fun _ => (by decide : State.disarmTorque ∈ shutdownStates)⟩
  | transportFault =>
    exact ⟨fun _ => rfl, fun _ => rfl, fun _ => (by decide : State.fault ∈ shutdownStates)⟩
  | ingest frame => exact latchInvariant_ingest hi frame
  | tick => exact latchInvariant_tick hi

/-- A tick under a revoked handshake brakes without authority over the parking brake. -/
theorem revokedTick_of_invariant {c : Controller} (hi : LatchInvariant c) :
    RevokedTick c (commandBatch (advanceState c)) (advanceState c) := by
  intro hrev
  have hadv := latchInvariant_tick hi
  have hrev' : (advanceState c).handshakeRevoked = true := by simpa using hrev
  have hshut := hadv.shutdown_of_revoked hrev'
  refine ⟨by simp [commandBatch_handshakeRequest, hrev], ?_, fun i => ?_, hshut⟩
  · rw [commandBatch_carriesTorque]
    exact fun h => h.2.2.1 (safetyBrake_of_emergencyStop (hadv.stop_of_revoked hrev'))
  · have hactive : ¬AutomaticParkingActive (advanceState c) := by
      rintro ⟨-, hs⟩
      generalize (advanceState c).state = s at hs hshut
      cases s <;> first | exact absurd hs (by decide) | exact absurd hshut (by decide)
    rw [commandBatch_parkingBrake]
    simp only [hactive, hrev', Bool.true_eq_false, and_false, if_false]
    split <;> simp [parkingBrakePark, parkingBrakeHold, parkingBrakeRelease]

/-! ## Runs -/

variable {h : History Controller Event Reply} {c : Controller}

theorem latchInvariant_of_run (hr : Run machine h c) : LatchInvariant c :=
  hr.invariant latchInvariant_reset latchInvariant_step

theorem latched_iff_since (hr : Run machine h c) :
    c.physicalEmergencyLatched = true ↔
      Since (fun st => ¬Clears st) IngestsPhysicalEmergency h :=
  hr.iff_since (P := fun c => c.physicalEmergencyLatched = true) (by decide)
    fun s e => (respond_latches s e).1

theorem revoked_iff_since (hr : Run machine h c) :
    c.handshakeRevoked = true ↔ Since (fun st => ¬Clears st) IngestsRevocation h :=
  hr.iff_since (P := fun c => c.handshakeRevoked = true) (by decide)
    fun s e => (respond_latches s e).2

/-- **The latches hold.** In every run a latch is set exactly when a frame has set it since the
last reset or accepted handshake request, either one asserts the emergency stop, and a tick under
a revoked handshake asks for nothing, carries no torque and releases no parking brake. -/
theorem latches_hold (hr : Run machine h c) :
    (c.physicalEmergencyLatched = true ↔
      Since (fun st => ¬Clears st) IngestsPhysicalEmergency h) ∧
    (c.handshakeRevoked = true ↔ Since (fun st => ¬Clears st) IngestsRevocation h) ∧
    (c.physicalEmergencyLatched = true ∨ c.handshakeRevoked = true → c.emergencyStop = true) ∧
    Steps (OnTick RevokedTick) h := by
  refine ⟨latched_iff_since hr, revoked_iff_since hr, ?_, ?_⟩
  · have hi := latchInvariant_of_run hr
    rintro (hp | hrev)
    · exact hi.stop_of_physical hp
    · exact hi.stop_of_revoked hrev
  · exact hr.always_of_invariant latchInvariant_reset latchInvariant_step
      fun s e hi => (onTick_observe _ s e).mpr fun _ => revokedTick_of_invariant hi

/-- Revoked in the middle of arming: the latch is set and the next ticks shut down. -/
theorem latches_hold_revoked :
    let r := machine.play (armWith { gear := 2 } {} ++ [.clearEmergencyStop, .tick])
    r.2.handshakeRevoked = true ∧ r.2.emergencyStop = true ∧ Steps (OnTick RevokedTick) r.1 := by
  have hr := Run.play machine (armWith { gear := 2 } {} ++ [.clearEmergencyStop, .tick])
  have hrev : (machine.play (armWith { gear := 2 } {} ++
      [.clearEmergencyStop, .tick])).2.handshakeRevoked = true := by decide +kernel
  exact ⟨hrev, (latches_hold hr).2.2.1 (.inr hrev), (latches_hold hr).2.2.2⟩

end MineTeleop.Vcu
