import MineTeleop.Service.Control

/-!
# What an operation of the service can do

A `Move` is one thing an operation does to the world, with what the service has checked before it
does it: a call of the adapter, a change of the safety machine, of the session profile, or of a
field that neither depends on.  What all moves keep, every path of them keeps.
-/

namespace MineTeleop.Service

open Bridge (StopContext)
open Programs
open Runs

variable {σ : Type}

/-! ## Elementary changes of the world -/

/-- The world behind a call. -/
def World.after (adapter : VehicleAdapter σ) (c : AdapterCall) (w : World σ) : World σ :=
  { w with
    adapter := (adapter.answer c w.adapter).2
    trace := .called c (adapter.answer c w.adapter).1 w.service :: w.trace }

theorem World.trace_after {adapter : VehicleAdapter σ} {c : AdapterCall} {w : World σ}
    {r : Except Failure c.Result} (h : (adapter.answer c w.adapter).1 = r) :
    (w.after adapter c).trace = .called c r w.service :: w.trace := by
  rw [← h]
  rfl

theorem World.mem_after {adapter : VehicleAdapter σ} {c : AdapterCall} {w : World σ}
    {r : Except Failure c.Result} (h : (adapter.answer c w.adapter).1 = r) :
    .called c r w.service ∈ (w.after adapter c).trace := by
  rw [World.trace_after h]
  exact List.mem_cons_self ..

def World.withService (f : VehicleControlService → VehicleControlService) (w : World σ) :
    World σ :=
  { w with service := f w.service }

/-- The world behind a call of the safety state machine. -/
def World.moved (f : SafetyStateMachine → SafetyStateMachine) (w : World σ) : World σ :=
  { w with
    service := { w.service with safety := f w.service.safety }
    trace := .safetyChanged w.service.safety.state (f w.service.safety).state :: w.trace }

namespace VehicleControlService

/-- Without the session's authority: what `clear_session_profile` leaves. -/
def revoked (s : VehicleControlService) : VehicleControlService :=
  { s with
    activeSessionProfile := none
    lastEffectiveCommand := none
    lastSessionProfileResult := s.lastSessionProfileResult.map (·.cleared) }

/-- The receiver accepts the command, and `checked` is what it makes of it. -/
def Accepts (s : VehicleControlService) (command : ControlCommand) (timestampMs : ℤ)
    (checked : DriverCommand) : Prop :=
  ∃ result receiver, s.receiver.accept command timestampMs = .ok (result, receiver) ∧
    result.command = some checked

theorem Accepts.validate {s : VehicleControlService} {command : ControlCommand} {timestampMs : ℤ}
    {checked : DriverCommand} (h : s.Accepts command timestampMs checked) :
    command.validate = .ok checked := by
  obtain ⟨result, receiver, haccept, hcommand⟩ := h
  rcases ControlReceiver.accept_carries haccept with ⟨-, hnone⟩ | ⟨valid, hvalid, hcarries⟩
  · rw [hnone] at hcommand
    cases hcommand
  · rcases hcarries with ⟨-, hnone⟩ | ⟨-, hsome⟩
    · rw [hnone] at hcommand
      cases hcommand
    · obtain rfl := Option.some.inj (hsome.symm.trans hcommand)
      exact hvalid

end VehicleControlService

def SafetyState.Latched (state : SafetyState) : Prop := state = .estop ∨ state = .fault

instance (state : SafetyState) : Decidable state.Latched := inferInstanceAs (Decidable (_ ∨ _))

/-- Neither throttle nor steering: what recovers from `Degraded`. -/
def DriverCommand.Neutral (command : DriverCommand) : Prop :=
  command.throttle ≤ VehicleControlService.tolerance ∧
  |command.steering| ≤ VehicleControlService.tolerance

/-- The calls that neither drive, stop nor limit the vehicle. -/
def AdapterCall.Passive : AdapterCall → Prop
  | .configureRuntimeControlProfile _ _ | .applyControl _ | .applySafeStop _ _ => False
  | _ => True

/-- The calls behind which an adapter may hold no profile. -/
def AdapterCall.Forgets : AdapterCall → Prop
  | .openAdapter | .closeAdapter | .clearRuntimeControlProfile => True
  | _ => False

/-! ## What the service has seen -/

/-- The adapter has reported no stop of its own. -/
def StopRead (trace : List Observation) : Prop :=
  (∃ telemetry s, .called .readTelemetry (.ok telemetry) s ∈ trace ∧ telemetry.estop = false) ∧
  ∃ handshake s, .called .vcuHandshakeStatus (.ok handshake) s ∈ trace ∧
    handshake.disarming = false

/-- The feedback has been polled and is ready. -/
def FeedbackRead (trace : List Observation) : Prop :=
  (∃ polled s, .called .pollFeedback (.ok polled) s ∈ trace) ∧
  ∃ s, .called .feedbackReady (.ok true) s ∈ trace

/-- What has been checked when an ordinary command reaches the adapter: `start` is the service the
operation began with. -/
structure ControlGuard (start : VehicleControlService) (command : ControlCommand)
    (timestampMs : ℤ) (w : World σ) (c : DriverCommand) : Prop where
  started : w.service.started = true
  accepted : ∃ checked, start.Accepts command timestampMs checked ∧ checked.estop = false ∧
    c = (w.service.limitCommand checked).1 ∧
    (w.service.safety.state = .degraded → checked.Neutral)
  profile : w.service.activeSessionProfile ≠ none
  watchdog : w.service.safety = start.safety.tick timestampMs
  state : w.service.safety.state ∉ [.timeoutBrake, .estop, .fault]
  stopRead : StopRead w.trace
  feedbackRead : w.service.requireFeedbackBeforeControl = true → FeedbackRead w.trace

/-- The outputs of a stop: no traction, and the full brake straight ahead unless the watchdog puts
out what the safety machine says. -/
def StopOutput (s : VehicleControlService) (output : ControlOutput) : Prop :=
  output.throttle = 0 ∧
  ((output.brake = 1 ∧ output.steering = 0) ∨
    ¬s.safety.state.Latched ∧ ∃ t, output = s.safety.currentOutput t)

theorem SafetyStateMachine.onValidCommand_latched {m : SafetyStateMachine}
    {command : DriverCommand} (h : command.estop = true ∨ m.state.Latched) (t : ℤ) :
    (m.onValidCommand command t).state.Latched := by
  rw [SafetyStateMachine.onValidCommand_state]
  split
  · exact .inl rfl
  · rename_i hordinary
    have hlatched : m.state = .estop ∨ m.state = .fault := h.resolve_left hordinary
    rw [if_pos hlatched]
    exact hlatched

theorem SafetyStateMachine.currentOutput_latched {m : SafetyStateMachine} (h : m.state.Latched)
    (t : ℤ) : (m.currentOutput t).throttle = 0 ∧ (m.currentOutput t).brake = 1 := by
  unfold SafetyStateMachine.currentOutput
  rcases h with h | h <;> simp [h]

theorem SafetyStateMachine.currentOutput_straight {m : SafetyStateMachine} (h : m.state.Latched)
    (t : ℤ) : (m.currentOutput t).steering = 0 := by
  unfold SafetyStateMachine.currentOutput
  rcases h with h | h <;> simp [h]

theorem stopOutput_latched {s : VehicleControlService} (h : s.safety.state.Latched) (t : ℤ) :
    StopOutput s (s.safety.currentOutput t) := by
  obtain ⟨hthrottle, hbrake⟩ := SafetyStateMachine.currentOutput_latched h t
  exact ⟨hthrottle, .inl ⟨hbrake, SafetyStateMachine.currentOutput_straight h t⟩⟩

/-- Outside `ControlActive` the safety machine puts out no traction. -/
theorem stopOutput_currentOutput {s : VehicleControlService}
    (h : s.safety.state ∈ [SafetyState.degraded, .timeoutBrake, .estop, .fault]) (t : ℤ) :
    StopOutput s (s.safety.currentOutput t) := by
  by_cases hlatched : s.safety.state.Latched
  · exact stopOutput_latched hlatched t
  · refine ⟨?_, .inr ⟨hlatched, t, rfl⟩⟩
    simp only [List.mem_cons, List.not_mem_nil, or_false] at h
    unfold SafetyStateMachine.currentOutput
    rcases h with h | h | h | h <;> simp [h]

/-! ## Moves -/

/-- A move of the operation that the event calls, which began with the service `start`. -/
inductive Move (adapter : VehicleAdapter σ) (start : VehicleControlService) :
    Event → World σ → World σ → Prop
  | asks {e : Event} {w : World σ} (c : AdapterCall) (h : c.Passive)
      (hsession : c.Forgets → w.service.activeSessionProfile = none ∨ start.started = false) :
      Move adapter start e w (w.after adapter c)
  /-- Fields that grant nothing; only a profile request is remembered as the last one. -/
  | books {e : Event} {w : World σ} (safeStop : Bool) (telemetryMs : Option ℤ) (sequence : ℕ)
      (history : List ServiceTelemetry) (request : Option SessionControlProfileRequest)
      (result : Option SessionControlProfileResult)
      (hrequest : request = w.service.lastSessionProfileRequest ∧
          result = w.service.lastSessionProfileResult ∨
        ∃ request t, e = .receiveSessionProfile request t) :
      Move adapter start e w
        (w.withService fun s =>
          { s with
            adapterSafeStopActive := safeStop
            lastTelemetryMs := telemetryMs
            telemetrySequence := sequence
            telemetryHistory := history
            lastSessionProfileRequest := request
            lastSessionProfileResult := result })
  /-- The session goes, and the adapter is told. -/
  | revokes {e : Event} {w : World σ} :
      Move adapter start e w
        ((w.withService VehicleControlService.revoked).after adapter .clearRuntimeControlProfile)
  /-- A stop that finds no session in force, or one that may survive it. -/
  | stops {e : Event} {w : World σ} (output : ControlOutput) (context : StopContext)
      (h : StopOutput w.service output)
      (hsession : w.service.activeSessionProfile = none ∨ w.service.safety.state = .degraded ∨
        ∃ request t, e = .receiveSessionProfile request t) :
      Move adapter start e w (w.after adapter (.applySafeStop output context))
  /-- A stop that goes through, and the revocation behind it. -/
  | stopsFirst {e : Event} {w : World σ} (output : ControlOutput) (context : StopContext)
      (h : StopOutput w.service output)
      (hok : (adapter.answer (.applySafeStop output context) w.adapter).1 = .ok ()) :
      Move adapter start e w
        (((w.after adapter (.applySafeStop output context)).withService
          VehicleControlService.revoked).after adapter .clearRuntimeControlProfile)
  | starts {t : ℤ} {w : World σ} :
      Move adapter start (.start t) w (w.withService fun s => { s with started := true })
  | readies {t : ℤ} {w : World σ} :
      Move adapter start (.start t) w (w.moved SafetyStateMachine.markReady)
  | closes {context : StopContext} {w : World σ}
      (hsession : w.service.activeSessionProfile = none) :
      Move adapter start (.close context) w (w.withService fun s => { s with started := false })
  | configures {request : SessionControlProfileRequest} {t : ℤ} {w : World σ}
      {profile : SessionControlProfile ℚ} (h : start.decideProfile request t = .proceed profile)
      (hsame : w.service = start) :
      Move adapter start (.receiveSessionProfile request t) w
        (w.after adapter (.configureRuntimeControlProfile profile request.seq))
  | reapplies {request : SessionControlProfileRequest} {t : ℤ} {w : World σ}
      {profile : SessionControlProfile ℚ} {command : DriverCommand}
      (h : start.decideProfile request t = .proceed profile) (hsame : w.service = start)
      (hstarted : start.started = true)
      (hcommand : w.service.lastEffectiveCommand = some command)
      (hreapplies : w.service.ReappliesCommand profile)
      (hconfigured : ∃ s, .called (.configureRuntimeControlProfile profile request.seq)
        (.ok request.seq) s ∈ w.trace) :
      Move adapter start (.receiveSessionProfile request t) w
        (w.after adapter (.applyControl (w.service.reapplied profile command)))
  | adopts {request : SessionControlProfileRequest} {t : ℤ} {w : World σ}
      {profile : SessionControlProfile ℚ} (h : start.decideProfile request t = .proceed profile)
      (hsame : w.service = start) (remembered : Option DriverCommand)
      (hremembered : remembered = w.service.lastEffectiveCommand ∨
        w.service.ReappliesCommand profile ∧ ∃ command,
          w.service.lastEffectiveCommand = some command ∧
          remembered = some (w.service.reapplied profile command))
      (hconfigured : ∃ s, .called (.configureRuntimeControlProfile profile request.seq)
        (.ok request.seq) s ∈ w.trace) :
      Move adapter start (.receiveSessionProfile request t) w
        (w.withService fun s =>
          { s with activeSessionProfile := some profile, lastEffectiveCommand := remembered })
  | ticks {e : Event} {w : World σ} (t : ℤ)
      (h : e = .tick t ∨ ∃ command, e = .receiveCommand command t) :
      Move adapter start e w (w.moved (·.tick t))
  | faults {e : Event} {w : World σ}
      (h : (∃ t, e = .tick t) ∨ ∃ command t, e = .receiveCommand command t ∧
        command.estop = false) :
      Move adapter start e w (w.moved SafetyStateMachine.markFault)
  | accepts {command : ControlCommand} {t : ℤ} {w : World σ} {result : ReceiveResult}
      {receiver : ControlReceiver} (h : start.receiver.accept command t = .ok (result, receiver)) :
      Move adapter start (.receiveCommand command t) w
        { w with
          service := { w.service with receiver := receiver }
          trace := if result.accepted then .commandAccepted t :: w.trace else w.trace }
  /-- A command that the safety machine latches, or that finds it latched. -/
  | latches {command : ControlCommand} {t : ℤ} {w : World σ} {checked remembered : DriverCommand}
      (haccepts : start.Accepts command t checked) (hestop : remembered.estop = checked.estop)
      (h : checked.estop = true ∨ w.service.safety.state.Latched) :
      Move adapter start (.receiveCommand command t) w
        (w.moved (·.onValidCommand remembered t))
  | controls {command : ControlCommand} {t : ℤ} {w : World σ} {c : DriverCommand}
      (h : ControlGuard start command t w c) :
      Move adapter start (.receiveCommand command t) w (w.after adapter (.applyControl c))
  /-- The adapter has taken the command. -/
  | activates {command : ControlCommand} {t : ℤ} {w : World σ} {c remembered : DriverCommand}
      (h : ControlGuard start command t w c) (hremembered : remembered.estop = false)
      (hok : (adapter.answer (.applyControl c) w.adapter).1 = .ok ()) :
      Move adapter start (.receiveCommand command t) (w.after adapter (.applyControl c))
        (((w.after adapter (.applyControl c)).moved (·.onValidCommand remembered t)).withService
          fun s => { s with lastEffectiveCommand := some c })
  | stands {w : World σ} (h : ¬w.service.safety.state.Latched)
      (hgranted : ∃ s, .called .requestVcuHandshake (.ok true) s ∈ w.trace) :
      Move adapter start .requestVcuHandshake w (w.moved SafetyStateMachine.enterStandby)
  /-- The zero output of a reset. -/
  | zeroes {authorizedBy : String} {t : ℤ} {w : World σ} (gear : Gear)
      (hestop : w.service.safety.state = .estop) (hauthorized : authorizedBy ≠ "")
      (hdisarming : ∃ handshake s, .called .vcuHandshakeStatus (.ok handshake) s ∈ w.trace ∧
        handshake.disarming = false) :
      Move adapter start (.resetEstop true authorizedBy t) w
        (w.after adapter (.applySafeStop ⟨gear, 0, 0, 0, false, false⟩ {}))
  | releases {authorizedBy : String} {t : ℤ} {w : World σ} (gear : Gear)
      (hestop : w.service.safety.state = .estop) (hauthorized : authorizedBy ≠ "")
      (hzero : ∃ s, .called (.applySafeStop ⟨gear, 0, 0, 0, false, false⟩ {}) (.ok ()) s ∈
        w.trace) :
      Move adapter start (.resetEstop true authorizedBy t) w
        (w.moved SafetyStateMachine.enterStandby)

theorem Move.flags {adapter : VehicleAdapter σ} {start : VehicleControlService} {e : Event}
    {w : World σ} (safeStop : Bool) :
    Move adapter start e w
      (w.withService fun s => { s with adapterSafeStopActive := safeStop }) :=
  .books safeStop w.service.lastTelemetryMs w.service.telemetrySequence
    w.service.telemetryHistory w.service.lastSessionProfileRequest
    w.service.lastSessionProfileResult (.inl ⟨rfl, rfl⟩)

def Moves (adapter : VehicleAdapter σ) (start : VehicleControlService) (e : Event) :
    World σ → World σ → Prop :=
  Relation.ReflTransGen (Move adapter start e)

namespace Moves

variable {adapter : VehicleAdapter σ} {start : VehicleControlService} {e : Event}
  {w w₁ w₂ : World σ}

theorem refl (w : World σ) : Moves adapter start e w w := Relation.ReflTransGen.refl

theorem one (h : Move adapter start e w w₁) : Moves adapter start e w w₁ :=
  Relation.ReflTransGen.single h

theorem trans (h : Moves adapter start e w w₁) (h' : Moves adapter start e w₁ w₂) :
    Moves adapter start e w w₂ :=
  Relation.ReflTransGen.trans h h'

theorem next (h : Moves adapter start e w w₁) (h' : Move adapter start e w₁ w₂) :
    Moves adapter start e w w₂ :=
  Relation.ReflTransGen.tail h h'

/-- What every move keeps. -/
theorem keeps {I : World σ → Prop} (hstep : ∀ w w', Move adapter start e w w' → I w → I w')
    (h : Moves adapter start e w w₁) (hi : I w) : I w₁ := by
  induction h with
  | refl => exact hi
  | tail _ hmove ih => exact hstep _ _ hmove ih

/-- The trace of an operation only grows. -/
theorem trace_suffix (h : Moves adapter start e w w₁) : w.trace <:+ w₁.trace := by
  refine h.keeps (I := fun w' => w.trace <:+ w'.trace) ?_ (List.suffix_refl _)
  intro w₁ w₂ hmove hsuffix
  refine hsuffix.trans ?_
  cases hmove with
  | books | starts | closes | adopts => exact List.suffix_refl _
  | stopsFirst => exact (List.suffix_cons ..).trans (List.suffix_cons ..)
  | accepts =>
    show _ <:+ ite _ _ _
    split
    · exact List.suffix_cons ..
    · exact List.suffix_refl _
  | _ => exact List.suffix_cons ..

theorem trace_subset (h : Moves adapter start e w w₁) : w.trace ⊆ w₁.trace :=
  h.trace_suffix.subset

end Moves

/-- Where an operation throws: behind moves, or in a stop that it makes before the revocation. -/
def Ended (adapter : VehicleAdapter σ) (start : VehicleControlService) (e : Event)
    (w w' : World σ) : Prop :=
  Moves adapter start e w w' ∨
  ∃ w₁ output context failure, Moves adapter start e w w₁ ∧ StopOutput w₁.service output ∧
    (adapter.answer (.applySafeStop output context) w₁.adapter).1 = .error failure ∧
    w' = w₁.after adapter (.applySafeStop output context)

section
variable {adapter : VehicleAdapter σ} {start : VehicleControlService} {e : Event}
  {w w₁ w₂ : World σ}

theorem Moves.ended (h : Moves adapter start e w w₁) : Ended adapter start e w w₁ := .inl h

theorem Ended.behind (h' : Ended adapter start e w₁ w₂) (h : Moves adapter start e w w₁) :
    Ended adapter start e w w₂ := by
  obtain h' | ⟨w₃, output, context, failure, h', hrest⟩ := h'
  · exact .inl (h.trans h')
  · exact .inr ⟨w₃, output, context, failure, h.trans h', hrest⟩

/-- What every move keeps, and every stop. -/
theorem Ended.keeps {I : World σ → Prop} (hstep : ∀ w w', Move adapter start e w w' → I w → I w')
    (hstop : ∀ w output context, StopOutput w.service output → I w →
      I (w.after adapter (.applySafeStop output context)))
    (h : Ended adapter start e w w₁) (hi : I w) : I w₁ := by
  obtain h | ⟨w₃, output, context, failure, h, houtput, -, rfl⟩ := h
  · exact h.keeps hstep hi
  · exact hstop w₃ output context houtput (h.keeps hstep hi)

end

/-! ## The primitives of an operation -/

section
variable {w : World σ}

@[simp] theorem ensures_getService {Q : VehicleControlService → World σ → Prop}
    {R : Failure → World σ → Prop} : Ensures getService w Q R ↔ Q w.service w := Iff.rfl

@[simp] theorem ensures_modifyService (f : VehicleControlService → VehicleControlService)
    {Q : Unit → World σ → Prop} {R : Failure → World σ → Prop} :
    Ensures (modifyService f) w Q R ↔ Q () (w.withService f) := Iff.rfl

@[simp] theorem ensures_moveSafety (f : SafetyStateMachine → SafetyStateMachine)
    {Q : Unit → World σ → Prop} {R : Failure → World σ → Prop} :
    Ensures (moveSafety f) w Q R ↔ Q () (w.moved f) := Iff.rfl

@[simp] theorem ensures_observe (o : Observation) {Q : Unit → World σ → Prop}
    {R : Failure → World σ → Prop} :
    Ensures (observe o) w Q R ↔ Q () { w with trace := o :: w.trace } := Iff.rfl

theorem ensures_call {adapter : VehicleAdapter σ} {c : AdapterCall} {Q : c.Result → World σ → Prop}
    {R : Failure → World σ → Prop}
    (hok : ∀ a, (adapter.answer c w.adapter).1 = .ok a → Q a (w.after adapter c))
    (hthrow : ∀ f, (adapter.answer c w.adapter).1 = .error f → R f (w.after adapter c)) :
    Ensures (call adapter c) w Q R := by
  have hcall : (call adapter c).exec w = ((adapter.answer c w.adapter).1, w.after adapter c) := by
    show (call.liftExcept c (adapter.answer c w.adapter).1).exec (w.after adapter c) = _
    cases (adapter.answer c w.adapter).1 <;> rfl
  unfold Ensures
  rw [hcall]
  cases h : (adapter.answer c w.adapter).1 with
  | ok a => exact hok a h
  | error f => exact hthrow f h

end

end MineTeleop.Service
