import MineTeleop.Vcu.Effects
import MineTeleop.Vcu.FeedbackFrames

/-!
# Authority needs a handshake

Every batch that asks for parallel control, enables a motor or selects a by-wire mode should go
back to an accepted handshake request, with neither Standby nor Disarmed in between.
`transport_fault` enters Fault from any state, and the batch of Fault holds authority.

Proved here:

* `authority_since_handshake`: the law holds in every run that raises no transport fault at rest;
* `authority_since_handshake_fails`: one fault raised in Standby breaks it.
-/

namespace MineTeleop.Vcu

open Runs

def restStates : List State := [.standby, .disarmed]

/-- The step leaves the controller out of Standby and Disarmed. -/
def StaysOut (st : Step Controller Event Reply) : Prop := st.after.state ∉ restStates

/-- A batch with authority goes back to a granted handshake. -/
def AuthoritySinceHandshake (st : Step Controller Event Reply)
    (past : History Controller Event Reply) : Prop :=
  ∀ b, st.output = .batch b → HoldsAuthority b → Since StaysOut Granted (st :: past)

/-- A transport fault raised in Standby or Disarmed. -/
def FaultAtRest (st : Step Controller Event Reply) : Prop :=
  st.event = .transportFault ∧ st.before.state ∈ restStates

instance : DecidablePred StaysOut := fun _ => inferInstanceAs (Decidable (¬_))
instance : DecidablePred FaultAtRest := fun _ => inferInstanceAs (Decidable (_ ∧ _))

/-! ## Leaving rest -/

theorem advanceState_at_rest {c : Controller} (h : c.state ∈ restStates) : advanceState c = c := by
  have hs : c.state = .standby ∨ c.state = .disarmed := by simpa [restStates] using h
  rcases hs with hs | hs <;>
    simp [advanceState, ArmingEmergency, HandshakeLost, ReadyGearMismatch, advanceStage,
      armingEmergencyTarget, hs]

theorem stoppedState_at_rest {s : State} (h : s ∈ restStates) : stoppedState s = s := by
  have hs : s = .standby ∨ s = .disarmed := by simpa [restStates] using h
  rcases hs with rfl | rfl <;> rfl

theorem setCommand_at_rest {c : Controller} (h : c.state ∈ restStates) (command : Command) :
    (setCommand c command).2.state = c.state := by
  have hcase := setCommand_cases c command
  generalize setCommand c command = result at hcase ⊢
  cases hcase with
  | rejected => rfl
  | moving g hgear hshut => exact stoppedState_at_rest h
  | accepted hv hsame => rfl
  | regear hv hgear hready => exact absurd h (by simp [hready, restStates])

theorem ingest_at_rest {c : Controller} (h : c.state ∈ restStates) (f : CanFrame) :
    (ingest c f).2.state = c.state := by
  have hs : c.state = .standby ∨ c.state = .disarmed := by simpa [restStates] using h
  rcases ingest_stop c f with ⟨-, hst, -⟩ | ⟨-, -, hst, -⟩ | ⟨-, -, -, hsees, -⟩
  · exact hst
  · rw [hst]
    rcases hs with hs | hs <;> (rw [hs]; rfl)
  · have := hsees.2.2.2
    rcases hs with hs | hs <;> simp [hs] at this

/-- Only an accepted handshake request or a transport fault leads out of rest. -/
theorem respond_leaves_rest {c : Controller} {e : Event} (hrest : c.state ∈ restStates)
    (hout : StaysOut (machine.observe c e)) :
    Granted (machine.observe c e) ∨ FaultAtRest (machine.observe c e) := by
  have hstay : (respond c e).2.state ≠ c.state := fun heq => hout (by
    simpa [Machine.observe, machine, heq] using hrest)
  cases e with
  | reset => exact absurd (show Vcu.reset.state ∈ restStates by decide) hout
  | setCommand command => exact absurd (setCommand_at_rest hrest command) hstay
  | setEmergencyCommand command =>
    refine absurd ?_ hstay
    simp only [respond, setEmergencyCommand]
    split <;> rfl
  | setAutomaticParking enabled requested stoppedFresh brakeBar => exact absurd rfl hstay
  | emergencyStop =>
    refine absurd ?_ hstay
    obtain ⟨g, h⟩ := emergencyStop_frame c
    simp only [respond, h, stoppedState_at_rest hrest]
  | clearEmergencyStop =>
    refine absurd ?_ hstay
    simp only [respond, clearEmergencyStop]
    split <;> rfl
  | requestParallelHandshake =>
    left
    by_cases hready : (c.state ≠ .standby ∧ c.state ≠ .disarmed) ∨ ¬ParkingReady c
    · refine absurd ?_ hstay
      simp only [respond, requestParallelHandshake, if_pos hready]
    · refine ⟨rfl, ?_⟩
      simp only [Machine.observe, machine, respond, requestParallelHandshake, if_neg hready]
  | requestDisarm =>
    refine absurd ?_ hstay
    have hs : c.state = .standby ∨ c.state = .disarmed := by simpa [restStates] using hrest
    simp only [respond, requestDisarm, if_pos hs]
  | transportFault => exact .inr ⟨rfl, hrest⟩
  | ingest frame => exact absurd (ingest_at_rest hrest frame) hstay
  | tick =>
    refine absurd ?_ hstay
    simp only [respond, tick, advanceState_at_rest hrest]

/-- What a run without a fault at rest keeps: out of rest there was a handshake. -/
theorem since_handshake_step {c : Controller} {e : Event} {h : History Controller Event Reply}
    (hlink : c.state ∉ restStates → Since StaysOut Granted h)
    (hfault : ¬FaultAtRest (machine.observe c e))
    (hout : StaysOut (machine.observe c e)) :
    Since StaysOut Granted (machine.observe c e :: h) := by
  by_cases hrest : c.state ∈ restStates
  · rcases respond_leaves_rest hrest hout with hgranted | hf
    · exact .inl hgranted
    · exact absurd hf hfault
  · exact .inr ⟨hout, hlink hrest⟩

/-- **No authority without a handshake**, in every run that raises no transport fault in Standby
or Disarmed. -/
theorem authority_since_handshake {h : History Controller Event Reply} {c : Controller}
    (hr : Run machine h c) (hf : Steps (fun st => ¬FaultAtRest st) h) :
    Always AuthoritySinceHandshake h := by
  have hlinked : ∀ h c e, Run machine h c → (c.state ∉ restStates → Since StaysOut Granted h) →
      ¬FaultAtRest (machine.observe c e) → ((machine.step c e).2.state ∉ restStates →
      Since StaysOut Granted (machine.observe c e :: h)) :=
    fun h c e _ hlink hc hout => since_handshake_step hlink hc hout
  refine hr.always_of_link (R := fun h c => c.state ∉ restStates → Since StaysOut Granted h)
    (fun hout => absurd (by decide) hout) hlinked ?_ hf
  intro h c e _ hlink hc b hb hauth
  have hout : StaysOut (machine.observe c e) := by
    cases e <;> simp only [Machine.observe, machine, respond, reduceCtorEq] at hb
    obtain rfl := Reply.batch.inj hb
    have hstate := commandBatch_holdsAuthority _ hauth
    intro hrest
    have hs : (advanceState c).state = .standby ∨ (advanceState c).state = .disarmed := by
      simpa [restStates, Machine.observe, machine, respond, tick] using hrest
    rcases hs with hs | hs <;> simp [hs] at hstate
  exact since_handshake_step hlink hc hout

/-- An arming sequence, a transport fault while it is armed and one tick more. -/
theorem authority_since_handshake_armed :
    Always AuthoritySinceHandshake
      (machine.play (armWith { gear := 2 } armedRecord ++ [.tick, .transportFault, .tick])).1 :=
  authority_since_handshake (Run.play machine _) (by decide +kernel)

theorem authority_since_handshake_fails :
    ¬∀ h c, Run machine h c → Always AuthoritySinceHandshake h := by
  intro hall
  have hlast := (hall _ _ (Run.play machine [.transportFault, .tick])).1 _ rfl (by decide)
  exact absurd hlast (by decide +kernel)

end MineTeleop.Vcu
