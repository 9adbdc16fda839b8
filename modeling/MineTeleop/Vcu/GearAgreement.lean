import MineTeleop.Vcu.Effects
import MineTeleop.Vcu.FeedbackFrames

/-!
# Torque and the reported gear

A batch with torque should find the vehicle in the gear it commands.  `WaitGear` and `Ready`
compare the gear feedback with the desired gear; the step from `WaitActuatorModes` to `Ready`
does not, and its tick already carries the desired torque.

Proved here:

* `gear_agreement_iff`: in every run, a tick keeps the agreement exactly when it does not arm
  off the gear (`ArmsOffGear`);
* `gear_agreement_fails`: a run whose last tick does.
-/

namespace MineTeleop.Vcu

open Runs

/-- The agreement: torque only with the reported gear at the commanded one. -/
def GearAgrees (b : CommandBatch) (after : Controller) : Prop :=
  CarriesTorque b → after.feedback.gearValid = true ∧ after.feedback.gear = b.gear

/-- The tick finds every actuator mode confirmed and no stop or parking in the way, while the
gear feedback is missing or off the desired gear. -/
def ArmsOffGear (c : Controller) : Prop :=
  c.state = .waitActuatorModes ∧ ActuatorModesConfirmed c ∧
  (c.feedback.gearValid = false ∨ c.feedback.gear ≠ c.desired.gear) ∧
  c.emergencyStop = false ∧ c.feedback.emergencySwitch = 0 ∧
  (c.automaticParking = true → c.automaticParkRequested = false ∧ ParkingReleased c) ∧
  ∃ i, c.desired.motorTorqueNm i ≠ 0

/-- A tick that ends in Ready started there, or has just confirmed the actuator modes. -/
theorem advanceState_ready {c : Controller} (h : (advanceState c).state = .ready) :
    ¬ArmingEmergency c ∧ ¬ReadyGearMismatch c ∧
      (c.state = .ready ∨ (c.state = .waitActuatorModes ∧ ActuatorModesConfirmed c)) ∧
      (advanceState c).emergencyStop = c.emergencyStop := by
  have hcase := advanceState_cases c
  generalize advanceState c = result at h hcase ⊢
  cases hcase with
  | emergency ha g =>
    obtain ⟨target, htarget⟩ := Option.isSome_iff_exists.mp ha.2
    have hs : stoppedState c.state = .ready := h
    have := armingEmergencyTarget_cases htarget
    simp only [stoppedState, htarget, Option.getD_some] at hs
    simp [hs] at this
  | handshakeLost hl => exact absurd h (by simp [transportFault])
  | gearMismatch hg => exact absurd h (by simp)
  | stage ha hl hg =>
    obtain ⟨g, n, hframe⟩ := advanceStage_frame c
    refine ⟨ha, hg, ?_, by rw [hframe]⟩
    have hst := advanceStage_state c
    rw [h] at hst
    rcases hst with hst | ⟨-, hst⟩ | ⟨-, hst⟩ | ⟨-, hst⟩ | ⟨-, hst⟩ | ⟨hst, hmodes, -⟩ |
      ⟨-, hst⟩ | ⟨-, hst⟩ | ⟨-, hst⟩ | ⟨-, hst⟩ | ⟨-, hst⟩
    · exact .inl hst.symm
    all_goals first | exact .inr ⟨hst, hmodes⟩ | exact absurd hst (by decide)

theorem advanceState_of_armsOffGear {c : Controller} (h : ArmsOffGear c) :
    advanceState c = enter c .ready := by
  obtain ⟨hstate, hmodes, -, hstop, hswitch, -, -⟩ := h
  have ha : ¬ArmingEmergency c := by simp [ArmingEmergency, hstop, hswitch]
  have hl : ¬HandshakeLost c := by simp [HandshakeLost, hstate]
  have hg : ¬ReadyGearMismatch c := by simp [ReadyGearMismatch, hstate]
  simp [advanceState, ha, hl, hg, advanceStage, hstate, hmodes]

/-- Without the arming tick, torque means that the tick found the gear confirmed. -/
theorem gearAgrees_tick_iff (c : Controller) :
    GearAgrees (commandBatch (advanceState c)) (advanceState c) ↔ ¬ArmsOffGear c := by
  constructor
  · intro hagrees harms
    have hadv := advanceState_of_armsOffGear harms
    obtain ⟨hstate, -, hgear, hstop, hswitch, hparking, htorque⟩ := harms
    have hcarries : CarriesTorque (commandBatch (advanceState c)) := by
      rw [commandBatch_carriesTorque, hadv]
      refine ⟨rfl, ?_, ?_, htorque⟩
      · rintro ⟨⟨hauto, -⟩, hwanted | hreleased⟩
        · rcases hwanted with hreq | hready
          · exact absurd hreq (by simp [enter, (hparking hauto).1])
          · exact hready rfl
        · exact hreleased (hparking hauto).2
      · simp [SafetyBrake, enter, hstop, hswitch]
    obtain ⟨hvalid, heq⟩ := hagrees hcarries
    rw [commandBatch_gear, hadv] at heq
    rw [hadv] at hvalid
    rcases hgear with hgear | hgear
    · exact absurd hvalid (by simp [enter, hgear])
    · exact hgear (by simpa [enter] using heq)
  · intro harms hcarries
    rw [commandBatch_carriesTorque] at hcarries
    obtain ⟨hready, hpark, hsafety, htorque⟩ := hcarries
    obtain ⟨ha, hg, hfrom, hstop⟩ := advanceState_ready hready
    have hgear : (commandBatch (advanceState c)).gear = c.desired.gear := by
      simp [commandBatch_gear, hready]
    rw [hgear, advanceState_feedback]
    rcases hfrom with hfrom | ⟨hfrom, hmodes⟩
    · by_contra hc
      refine hg ⟨hfrom, ?_⟩
      by_cases hv : c.feedback.gearValid = true
      · exact .inr fun he => hc ⟨hv, he⟩
      · exact .inl (by simpa using hv)
    · by_contra hc
      have hoff : c.feedback.gearValid = false ∨ c.feedback.gear ≠ c.desired.gear := by
        by_cases hv : c.feedback.gearValid = true
        · exact .inr fun he => hc ⟨hv, he⟩
        · exact .inl (by simpa using hv)
      have hs : c.emergencyStop = false ∧ c.feedback.emergencySwitch = 0 := by
        simpa [SafetyBrake, hready, hstop] using hsafety
      refine harms ⟨hfrom, hmodes, hoff, hs.1, hs.2, fun hauto => ?_, by simpa using htorque⟩
      by_contra hno
      refine hpark ⟨⟨by simpa using hauto, by simp [hready]⟩, ?_⟩
      by_cases hreq : c.automaticParkRequested = true
      · exact .inl (.inl (by simpa using hreq))
      · refine .inr fun hrel => hno ⟨by simpa using hreq, by simpa using hrel⟩

/-- **Gear agreement.** In every run, each tick keeps the agreement if and only if it does not
arm off the gear. -/
theorem gear_agreement_iff {h : History Controller Event Reply} {c : Controller}
    (hr : Run machine h c) :
    Steps (OnTick fun before b after => GearAgrees b after ↔ ¬ArmsOffGear before) h :=
  hr.always_of_invariant (I := fun _ => True) trivial (fun _ _ _ => trivial)
    fun c e _ => (onTick_observe _ c e).mpr fun _ => gearAgrees_tick_iff c

/-- The gear feedback falls back to N while the actuator modes are confirmed. -/
def armOffGearRun : List Event :=
  armWith { gear := 2, motorTorqueNm := fun _ => 100 } { armedRecord with gearStatus := 1 }

theorem gear_agreement_fails :
    ¬∀ h c, Run machine h c → Steps (OnTick fun _ b after => GearAgrees b after) h := by
  intro hall
  have hlast := onTick_last (hall _ _ (Run.play machine (armOffGearRun ++ [.tick])))
  have hgear := (hlast (by decide +kernel)).2
  exact absurd hgear (by decide +kernel)

/-- The same run under the law that holds of it. -/
theorem gear_agreement_iff_armOffGearRun :
    Steps (OnTick fun before b after => GearAgrees b after ↔ ¬ArmsOffGear before)
      (machine.play (armOffGearRun ++ [.tick])).1 :=
  gear_agreement_iff (Run.play machine (armOffGearRun ++ [.tick]))

end MineTeleop.Vcu
