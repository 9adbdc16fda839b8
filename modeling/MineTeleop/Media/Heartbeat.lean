import MineTeleop.Media.Events

/-!
# Stale-intent heartbeats

A message without fresh intent may keep the watchdog quiet, and nothing else.  What is proved here
of every run in which the two clocks agree on the watchdog:

* `heartbeat_runs`: the controls that a stale message brings to the adapter have no steering,
  throttle or brake and the gear of the last fresh command that was accepted, its stops are those
  of the service, and only a fresh command enters `ControlActive`, from `Degraded` a neutral one.

`heartbeat_recovers` is a run in which the clocks disagree: the monotonic gap is a millisecond
short of the timeout that the UTC clock has reached.
-/

namespace MineTeleop.Media

open Bridge (clampValue)
open Programs
open Runs
open Service
open Stack (VehicleConfig createService)

variable {σ : Type}

/-! ## What the limits leave of a command -/

section
variable {config : VehicleConfig} {s : VehicleControlService}

theorem Fit.maxThrottle (h : Fit config s) : 0 ≤ s.maxThrottle := by
  have hmax : s.maxThrottle = config.fieldSafety.maxThrottle :=
    congrArg VehicleLimits.maxThrottle h.limits
  rw [hmax]
  exact config.valid.maxThrottle.1

theorem Fit.maxSteering (h : Fit config s) : 0 ≤ s.maxSteeringAngleDeg := by
  have hmax : s.maxSteeringAngleDeg = config.fieldSafety.maxSteeringAngleDeg :=
    congrArg VehicleLimits.maxSteeringAngleDeg h.limits
  rw [hmax]
  exact config.valid.steering.1

theorem Fit.sessionThrottleLimit (h : Fit config s) : 0 ≤ s.sessionThrottleLimit := by
  unfold VehicleControlService.sessionThrottleLimit
  split
  · rename_i profile hprofile
    unfold VehicleControlService.profileThrottleLimit
    split
    · rename_i hspeed
      exact div_nonneg (h.profile profile hprofile).targetSpeed.1 hspeed.le
    · exact le_refl 0
  · exact h.maxThrottle

theorem Fit.sessionSteeringAngleLimit (h : Fit config s) : 0 ≤ s.sessionSteeringAngleLimit := by
  unfold VehicleControlService.sessionSteeringAngleLimit
  split
  · rename_i profile hprofile
    exact (h.profile profile hprofile).steering.1
  · exact h.maxSteering

theorem clampValue_zero {limit : ℚ} (h : 0 ≤ limit) : clampValue 0 (-limit) limit = 0 := by
  unfold clampValue
  rw [min_eq_right h, max_eq_right (neg_nonpos.mpr h)]

/-- The limits make nothing of a command that asks for nothing. -/
theorem limitCommand_still (h : Fit config s) {command : DriverCommand} (hstill : Still command) :
    Still (s.limitCommand command).1 := by
  obtain ⟨hsteering, hthrottle, hbrake⟩ := hstill
  refine ⟨?_, ?_, hbrake⟩
  · show clampValue command.steering _ _ = 0
    rw [hsteering]
    have hlimit : 0 ≤ min s.maxSteeringAngleDeg s.sessionSteeringAngleLimit :=
      le_min h.maxSteering h.sessionSteeringAngleLimit
    exact clampValue_zero (div_nonneg hlimit (by norm_num))
  · show min (min command.throttle s.maxThrottle) s.sessionThrottleLimit = 0
    rw [hthrottle, min_eq_left h.maxThrottle, min_eq_left h.sessionThrottleLimit]

end

/-! ## What comes of a control message -/

/-- No command has been received: the adapter was asked, and the gear is kept or forgotten. -/
structure Refused (r r' : VehicleMediaRuntime σ) : Prop where
  quiet : Quiet r r'
  trace : ∀ o ∈ r'.trace, o ∈ r.trace ∨ Observation.Passive o
  service : r'.controlService.map World.service = r.controlService.map World.service
  gear : r'.nativeControlLastAcceptedFreshGear = r.nativeControlLastAcceptedFreshGear ∨
    r'.admission = some false
  frozen : r'.nativeControlEstopFrozenGear = r.nativeControlEstopFrozenGear

section
variable {r r' : VehicleMediaRuntime σ} {w : World σ}

theorem Refused.refl (r : VehicleMediaRuntime σ) : Refused r r :=
  ⟨.refl r, fun _ ho => .inl ho, rfl, .inl rfl, rfl⟩

theorem Refused.forget (h : Refused r r') : Refused r (r'.noteAdmission false) :=
  ⟨h.quiet.trans (quiet_noteAdmission r' false), h.trace, h.service, .inr rfl, h.frozen⟩

theorem refused_consulted {w' : World σ} (hw : r.controlService = some w)
    (h : Consulted { w with trace := [] } w') : Refused r (r.withService w') := by
  refine ⟨quiet_consulted hw h, fun o ho => ?_, ?_, .inl rfl, rfl⟩
  · rcases List.mem_append.mp ho with hnew | hold
    · exact .inr ((h.trace o hnew).resolve_left List.not_mem_nil)
    · exact .inl hold
  · rw [hw]
    exact congrArg some h.service

/-- A message is refused, or it is received as the command it carries; a stale one has passed the
checks of a heartbeat. -/
inductive MessageOutcome (adapter : VehicleAdapter σ) (r : VehicleMediaRuntime σ)
    (message : NativeControlMessage) (utcMs monotonicMs : ℤ) :
    Reply × VehicleMediaRuntime σ → Prop
  | refused {reply : Reply} {r' : VehicleMediaRuntime σ}
      (hreply : ∀ result, reply ≠ .received result) (h : Refused r r') :
      MessageOutcome adapter r message utcMs monotonicMs (reply, r')
  | received {r₁ : VehicleMediaRuntime σ} {w w₁ : World σ} {command : ControlCommand} {gear : Gear}
      {checked : DriverCommand} (hvalid : message.command.validate = .ok checked)
      (h : Refused r r₁)
      (hgear : r₁.nativeControlLastAcceptedFreshGear = r.nativeControlLastAcceptedFreshGear)
      (hadmission : r₁.admission = r.admission)
      (hw : r.controlService = some w) (hservice : w₁.service = w.service)
      (hestop : command.estop = message.command.estop)
      (hcommand : checked.estop = false → command = message.command)
      (hfrozen : checked.estop = true →
        gear = r.estopGear checked.gear ∧ command.gear = gear.text)
      (hstale : checked.estop = false → message.intentFresh = false → Still checked ∧
        r.heartbeatDiscard w.service.safety.state checked.gear monotonicMs = none) :
      MessageOutcome adapter r message utcMs monotonicMs
        (r₁.receiveApply adapter w₁ command gear message.intentFresh utcMs monotonicMs)

variable (adapter : VehicleAdapter σ) {message : NativeControlMessage} {utcMs monotonicMs : ℤ}

theorem handleOrdinary_outcome {checked : DriverCommand}
    (hvalid : message.command.validate = .ok checked) (hordinary : checked.estop = false)
    (hw : r.controlService = some w)
    (hstill : message.intentFresh = false → Still checked) :
    MessageOutcome adapter r message utcMs monotonicMs
      (r.handleOrdinary adapter w message checked utcMs monotonicMs) := by
  have hconsulted := handshakeReady_consulted adapter r.config.fieldSafety.commissioningMode
    { w with trace := [] }
  have hasked := refused_consulted hw hconsulted
  unfold VehicleMediaRuntime.handleOrdinary
  extract_lets answer r₁
  split
  · exact .refused (fun _ => (nomatch ·)) hasked
  split
  · exact .refused (fun _ => (nomatch ·)) hasked.forget
  split
  · exact .refused (fun _ => (nomatch ·)) hasked.forget
  split
  · exact .refused (fun _ => (nomatch ·)) hasked
  rename_i hforward
  refine .received hvalid hasked rfl rfl hw hconsulted.service rfl (fun _ => rfl)
    (fun hestop => absurd (hordinary.symm.trans hestop) Bool.false_ne_true) fun _ hstale => ?_
  rw [if_neg (by rw [hstale]; exact Bool.false_ne_true)] at hforward
  exact ⟨hstill hstale, hforward⟩

theorem handleControlMessage_outcome (r : VehicleMediaRuntime σ) (message : NativeControlMessage)
    (utcMs monotonicMs : ℤ) :
    MessageOutcome adapter r message utcMs monotonicMs
      (r.handleControlMessage adapter message utcMs monotonicMs) := by
  unfold VehicleMediaRuntime.handleControlMessage
  split
  · exact .refused (fun _ => (nomatch ·)) (.refl r)
  rename_i checked hvalid
  split
  · exact .refused (fun _ => (nomatch ·)) (.refl r)
  split
  · exact .refused (fun _ => (nomatch ·)) (.refl r)
  rename_i w hopen
  have hw := openService_ok hopen
  split
  · rename_i hestop
    have hordinary : checked.estop ≠ false := ne_of_eq_of_ne hestop (Bool.noConfusion ·)
    exact .received hvalid (.refl r) rfl rfl hw rfl rfl (absurd · hordinary)
      (fun _ => ⟨rfl, rfl⟩) (absurd · hordinary)
  split
  · exact .refused (fun _ => (nomatch ·)) (.refl r)
  · rename_i hordinary hstill
    refine handleOrdinary_outcome adapter hvalid (by simpa using hordinary) hw fun hstale => ?_
    by_contra hmoves
    exact hstill ⟨hstale, hmoves⟩

end

/-! ## The gear of the last fresh command -/

/-- The gear of a fresh ordinary command, if the reply is that it was accepted. -/
def acceptedGear (estop intentFresh : Bool) : Reply → Option Gear
  | .received result =>
    if estop = false ∧ intentFresh = true ∧ result.accepted = true then
      result.command.map DriverCommand.gear
    else none
  | _ => none

def freshGear (st : Step (VehicleMediaRuntime σ) Event Reply) : Option Gear :=
  match st.event with
  | .nativeControlMessage message _ _ =>
    acceptedGear message.command.estop message.intentFresh st.output
  | _ => none

theorem acceptedGear_refused {reply : Reply} (estop intentFresh : Bool)
    (h : ∀ result, reply ≠ .received result) : acceptedGear estop intentFresh reply = none := by
  cases reply with
  | received result => exact absurd rfl (h result)
  | _ => rfl

theorem freshGear_message {st : Step (VehicleMediaRuntime σ) Event Reply}
    {message : NativeControlMessage} {utcMs monotonicMs : ℤ}
    (h : st.event = .nativeControlMessage message utcMs monotonicMs) :
    freshGear st = acceptedGear message.command.estop message.intentFresh st.output := by
  unfold freshGear
  rw [h]

def lastFreshGear : History (VehicleMediaRuntime σ) Event Reply → Option Gear
  | [] => none
  | st :: past => (freshGear st).or (lastFreshGear past)

/-- What `receive_command` leaves of the runtime: the service, and the gear of a fresh command. -/
structure Applied (r : VehicleMediaRuntime σ) (estop intentFresh : Bool) (w : World σ)
    (applied : Reply × VehicleMediaRuntime σ) : Prop where
  config : applied.2.config = r.config
  service : applied.2.controlService = some w
  trace : applied.2.trace = w.trace ++ r.trace
  gear : applied.2.nativeControlLastAcceptedFreshGear =
    (acceptedGear estop intentFresh applied.1).or r.nativeControlLastAcceptedFreshGear

theorem receiveApply_applied (adapter : VehicleAdapter σ) (r : VehicleMediaRuntime σ) (w : World σ)
    (command : ControlCommand) (gear : Gear) (intentFresh : Bool) (utcMs monotonicMs : ℤ) :
    Applied r command.estop intentFresh
      (Service.respond adapter w (.receiveCommand command utcMs)).2
      (r.receiveApply adapter w command gear intentFresh utcMs monotonicMs) := by
  unfold VehicleMediaRuntime.receiveApply
  extract_lets answer handed r₁ frozen
  split
  · rename_i result _
    split
    · rename_i accepted haccepted
      split
      · rename_i hresult
        refine ⟨rfl, rfl, rfl, ?_⟩
        dsimp only [acceptedGear]
        rw [haccepted]
        by_cases hfresh : command.estop = false ∧ intentFresh = true
        · rw [if_pos hfresh, if_pos ⟨hfresh.1, hfresh.2, hresult⟩]
          rfl
        · rw [if_neg hfresh, if_neg fun h => hfresh ⟨h.1, h.2.1⟩]
          rfl
      · rename_i hresult
        refine ⟨rfl, rfl, rfl, ?_⟩
        dsimp only [acceptedGear]
        rw [if_neg fun h => hresult h.2.2]
        rfl
    · rename_i hnone
      refine ⟨rfl, rfl, rfl, ?_⟩
      dsimp only [acceptedGear]
      rw [hnone]
      split <;> rfl
  · split
    · exact ⟨rfl, rfl, rfl, rfl⟩
    · exact ⟨rfl, rfl, rfl, rfl⟩

/-! ## The law -/

def Event.Stale : Event → Prop
  | .nativeControlMessage message _ _ =>
    message.command.estop = false ∧ message.intentFresh = false
  | _ => False

/-- `ControlActive` is entered by a fresh ordinary command, from `Degraded` by a neutral one. -/
def Establishes (st : Step (VehicleMediaRuntime σ) Event Reply) : Prop :=
  ∀ before, before ≠ .controlActive → .safetyChanged before .controlActive ∈ st.after.trace →
    ∃ message utcMs monotonicMs checked,
      st.event = .nativeControlMessage message utcMs monotonicMs ∧
      message.intentFresh = true ∧ message.command.validate = .ok checked ∧
      checked.estop = false ∧ (before = .degraded → checked.Neutral)

/-- What a stale message may do, and who enters `ControlActive`. -/
structure HeartbeatLaw (st : Step (VehicleMediaRuntime σ) Event Reply)
    (past : History (VehicleMediaRuntime σ) Event Reply) : Prop where
  applies : st.event.Stale → ∀ c answer s, .called (.applyControl c) answer s ∈ st.after.trace →
    Still c ∧ lastFreshGear past = some c.gear
  stops : st.event.Stale → ∀ output context answer s,
    .called (.applySafeStop output context) answer s ∈ st.after.trace → StopOutput s output
  keeps : st.event.Stale → ∀ w' ∈ st.after.controlService,
    w'.service.safety.state = .controlActive →
      ∃ w ∈ st.before.controlService, w.service.safety.state = .controlActive
  establishes : Establishes st

/-- The packet gap is open on the monotonic clock; on the UTC clock the watchdog has run out of an
active control, and the receiver would take the command. -/
def ClocksDisagree (r : VehicleMediaRuntime σ) (s : VehicleControlService)
    (command : ControlCommand) (utcMs monotonicMs : ℤ) : Prop :=
  r.NativeGapOpen monotonicMs ∧ s.safety.state = .controlActive ∧
  (s.safety.tick utcMs).state = .degraded ∧ ∃ checked, s.Accepts command utcMs checked

/-- No stale message finds the clocks in disagreement. -/
def ClocksAgree (st : Step (VehicleMediaRuntime σ) Event Reply) : Prop :=
  ∀ message utcMs monotonicMs, st.event = .nativeControlMessage message utcMs monotonicMs →
    st.event.Stale → ∀ w ∈ st.before.controlService,
      ¬ClocksDisagree st.before w.service message.command utcMs monotonicMs

/-! ## Every run -/

theorem heartbeatDiscard_none {r : VehicleMediaRuntime σ} {state : SafetyState} {gear : Gear}
    {monotonicMs : ℤ} (h : r.heartbeatDiscard state gear monotonicMs = none) :
    state = .controlActive ∧ r.NativeGapOpen monotonicMs ∧
      r.nativeControlLastAcceptedFreshGear = some gear := by
  unfold VehicleMediaRuntime.heartbeatDiscard at h
  split_ifs at h with hstate hgap hgear
  exact ⟨not_not.mp hstate, hgap, not_not.mp hgear⟩

/-- What the runtime is at any time: the stored gear is that of the last fresh command. -/
structure HeartbeatInvariant (past : History (VehicleMediaRuntime σ) Event Reply)
    (r : VehicleMediaRuntime σ) : Prop where
  fit : ∀ w ∈ r.controlService, Fit r.config w.service
  gear : ∀ gear ∈ r.nativeControlLastAcceptedFreshGear, lastFreshGear past = some gear

section
variable {adapter : VehicleAdapter σ} {past : History (VehicleMediaRuntime σ) Event Reply}
  {st : Step (VehicleMediaRuntime σ) Event Reply} {message : NativeControlMessage}
  {utcMs monotonicMs : ℤ}

theorem heartbeatInvariant_quiet (h : HeartbeatInvariant past st.before)
    (hquiet : Quiet st.before.unobserved st.after) (hfresh : freshGear st = none) :
    HeartbeatInvariant (st :: past) st.after := by
  refine ⟨hquiet.fit h.fit, fun gear hgear => ?_⟩
  show (freshGear st).or (lastFreshGear past) = some gear
  rw [hfresh]
  rcases hquiet.gear with hsame | hnone
  · exact h.gear gear (hsame ▸ hgear)
  · rw [hnone] at hgear
    exact absurd hgear (Option.not_mem_none gear)

theorem heartbeatInvariant_message (h : HeartbeatInvariant past st.before)
    (hevent : st.event = .nativeControlMessage message utcMs monotonicMs)
    (houtcome : MessageOutcome adapter st.before.unobserved message utcMs monotonicMs
      (st.output, st.after)) :
    HeartbeatInvariant (st :: past) st.after := by
  have hfresh := freshGear_message hevent
  generalize hout : (st.output, st.after) = out at houtcome
  cases houtcome with
  | @refused reply r' hreply hrefused =>
    obtain ⟨houtput, hafter⟩ := Prod.mk.inj hout
    refine heartbeatInvariant_quiet h (hafter ▸ hrefused.quiet) ?_
    rw [hfresh, houtput]
    exact acceptedGear_refused _ _ hreply
  | @received r₁ w w₁ command gear checked _ hrefused hgear _ hw hservice hestop =>
    have happlied := receiveApply_applied adapter r₁ w₁ command gear message.intentFresh utcMs
      monotonicMs
    rw [← hout, hestop] at happlied
    refine ⟨fun w' hw' => ?_, fun gear' hgear' => ?_⟩
    · have hfit : Fit st.before.config w₁.service := hservice ▸ h.fit w hw
      obtain rfl := Option.some.inj (happlied.service.symm.trans hw')
      rw [happlied.config, hrefused.quiet.config]
      exact fit_respond adapter _ hfit
    · show (freshGear st).or (lastFreshGear past) = some gear'
      have hstored := happlied.gear.symm.trans hgear'
      rw [hgear] at hstored
      rw [hfresh]
      cases haccepted : acceptedGear message.command.estop message.intentFresh st.output with
      | none =>
        rw [haccepted] at hstored
        exact h.gear gear' hstored
      | some fresh =>
        rw [haccepted] at hstored
        exact hstored

theorem heartbeatLaw_quiet (hquiet : Quiet st.before.unobserved st.after)
    (hstale : ¬st.event.Stale) : HeartbeatLaw st past := by
  refine ⟨(absurd · hstale), (absurd · hstale), (absurd · hstale), fun before hbefore hchange => ?_⟩
  exact absurd (hquiet.calm (fun _ ho => absurd ho List.not_mem_nil) _ hchange rfl) hbefore

/-- A message that is not received only asks. -/
theorem heartbeatLaw_refused {r' : VehicleMediaRuntime σ}
    (h : Refused st.before.unobserved r') (hafter : st.after = r') :
    HeartbeatLaw st past := by
  subst hafter
  have hpassive : ∀ o ∈ st.after.trace, Observation.Passive o :=
    fun o ho => (h.trace o ho).resolve_left List.not_mem_nil
  refine ⟨fun _ c answer s hcall => (hpassive _ hcall).elim,
    fun _ output context answer s hcall => (hpassive _ hcall).elim, fun _ w' hw' hactive => ?_,
    fun before _ hchange => (hpassive _ hchange).elim⟩
  have hservice := h.service
  rw [Option.mem_def.mp hw'] at hservice
  obtain ⟨w, hw, hsame⟩ := Option.map_eq_some_iff.mp hservice.symm
  exact ⟨w, hw, hsame ▸ hactive⟩

theorem heartbeatLaw_received {r₁ : VehicleMediaRuntime σ} {w w₁ : World σ}
    {command : ControlCommand} {gear : Gear} {checked : DriverCommand}
    (h : HeartbeatInvariant past st.before) (hagree : ClocksAgree st)
    (hevent : st.event = .nativeControlMessage message utcMs monotonicMs)
    (hvalid : message.command.validate = .ok checked)
    (hrefused : Refused st.before.unobserved r₁)
    (hw : st.before.controlService = some w) (hservice : w₁.service = w.service)
    (hestop : command.estop = message.command.estop)
    (hcommand : checked.estop = false → command = message.command)
    (hstale : checked.estop = false → message.intentFresh = false → Still checked ∧
      st.before.heartbeatDiscard w.service.safety.state checked.gear monotonicMs = none)
    (hout : (st.output, st.after) =
      r₁.receiveApply adapter w₁ command gear message.intentFresh utcMs monotonicMs) :
    HeartbeatLaw st past := by
  have happlied := receiveApply_applied adapter r₁ w₁ command gear message.intentFresh utcMs
    monotonicMs
  rw [← hout] at happlied
  have hsame : message.command.estop = checked.estop := (ControlCommand.validate_ok hvalid).1
  have hordinary : st.event.Stale → checked.estop = false ∧ message.intentFresh = false := by
    rw [hevent]
    exact fun hs => ⟨hsame ▸ hs.1, hs.2⟩
  have hheartbeat : st.event.Stale → Still checked ∧ w.service.safety.state = .controlActive ∧
      st.before.NativeGapOpen monotonicMs ∧
      st.before.nativeControlLastAcceptedFreshGear = some checked.gear := by
    intro hs
    obtain ⟨hstill, hdiscard⟩ := hstale (hordinary hs).1 (hordinary hs).2
    exact ⟨hstill, heartbeatDiscard_none hdiscard⟩
  -- Whatever is more than a question belongs to `receive_command`.
  have hshown : ∀ o ∈ st.after.trace, ¬Observation.Passive o →
      o.Shown w.service (.receiveCommand command utcMs) := by
    intro o ho hactive
    rw [happlied.trace] at ho
    rcases List.mem_append.mp ho with hnew | hold
    · exact hservice ▸ shown_respond adapter w₁ _ o hnew
    · exact absurd ((hrefused.trace o hold).resolve_left List.not_mem_nil) hactive
  have hchecked : ∀ {t accepted}, w.service.Accepts command t accepted → checked.estop = false →
      accepted = checked := by
    intro t accepted haccepts hno
    have hvalidate := haccepts.validate
    rw [hcommand hno] at hvalidate
    exact Except.ok.inj (hvalidate.symm.trans hvalid)
  refine ⟨fun hs c answer s hcall => ?_, fun hs output context answer s hcall => ?_,
    fun hs w' _ _ => ⟨w, hw, (hheartbeat hs).2.1⟩, fun before hbefore hchange => ?_⟩
  · obtain ⟨hstill, -, -, hgear⟩ := hheartbeat hs
    obtain ⟨hauthority, accepted, haccepts, hlimited⟩ := hshown _ hcall id command utcMs rfl
    obtain rfl := hchecked haccepts (hordinary hs).1
    have hfit := h.fit w hw
    have hfitCall : Fit st.before.config s :=
      ⟨hauthority.limits.trans hfit.limits, fun p hp => hfit.profile p (hauthority.profile p hp)⟩
    rw [hlimited]
    exact ⟨limitCommand_still hfitCall hstill, h.gear accepted.gear hgear⟩
  · rcases hshown _ hcall id with houtput | ⟨_, _, _, hreset⟩
    · exact houtput
    · cases hreset
  · rcases hshown _ hchange id rfl with hactive | ⟨command', t, accepted, heq, haccepts, hno, htick,
      hstopped, hneutral⟩
    · exact absurd hactive hbefore
    cases heq
    have hno' : checked.estop = false := by
      rw [← hsame, ← hestop]
      exact (ControlCommand.validate_ok haccepts.validate).1.trans hno
    obtain rfl := hchecked haccepts hno'
    refine ⟨message, utcMs, monotonicMs, accepted, hevent, ?_, hvalid, hno, hneutral⟩
    cases hfresh : message.intentFresh with
    | true => rfl
    | false =>
      have hs : st.event.Stale := by
        rw [hevent]
        exact ⟨hsame.trans hno, hfresh⟩
      obtain ⟨-, hactive, hgap, -⟩ := hheartbeat hs
      have hdegraded : before = .degraded := by
        rcases w.service.safety.tick_state utcMs with hkept | hdegraded | htimeout
        · exact absurd (htick.symm.trans (hkept.trans hactive)) hbefore
        · exact htick.symm.trans hdegraded
        · rw [← htick, htimeout] at hstopped
          exact absurd (List.mem_cons_self ..) hstopped
      have hdisagree : ClocksDisagree st.before w.service message.command utcMs monotonicMs :=
        ⟨hgap, hactive, htick.trans hdegraded, accepted, hcommand hno' ▸ haccepts⟩
      exact absurd hdisagree (hagree message utcMs monotonicMs hevent hs w hw)

end

section
variable {adapter : VehicleAdapter σ} {createAdapter : VehicleConfig → Except Failure σ}
  {config : VehicleConfig} {past : History (VehicleMediaRuntime σ) Event Reply}
  {r : VehicleMediaRuntime σ}

/-- Every event is a control message or quiet. -/
theorem event_cases (e : Event) :
    (∃ message utcMs monotonicMs, e = .nativeControlMessage message utcMs monotonicMs) ∨
    (¬e.Stale ∧ ∀ message utcMs monotonicMs, e ≠ .nativeControlMessage message utcMs monotonicMs) := by
  cases e with
  | nativeControlMessage message utcMs monotonicMs =>
    exact .inl ⟨message, utcMs, monotonicMs, rfl⟩
  | _ => exact .inr ⟨id, fun _ _ _ => (nomatch ·)⟩

theorem heartbeatInvariant_step (h : HeartbeatInvariant past r) (e : Event) :
    HeartbeatInvariant ((machine adapter createAdapter config).observe r e :: past)
      ((machine adapter createAdapter config).step r e).2 := by
  rcases event_cases e with ⟨message, utcMs, monotonicMs, rfl⟩ | ⟨-, he⟩
  · exact heartbeatInvariant_message h rfl
      (handleControlMessage_outcome adapter r.unobserved message utcMs monotonicMs)
  · have hfresh : freshGear ((machine adapter createAdapter config).observe r e) = none := by
      cases e with
      | nativeControlMessage message utcMs monotonicMs =>
        exact absurd rfl (he message utcMs monotonicMs)
      | _ => rfl
    exact heartbeatInvariant_quiet h (quiet_event adapter createAdapter r he) hfresh

theorem heartbeatLaw_step (h : HeartbeatInvariant past r) (e : Event)
    (hagree : ClocksAgree ((machine adapter createAdapter config).observe r e)) :
    HeartbeatLaw ((machine adapter createAdapter config).observe r e) past := by
  rcases event_cases e with ⟨message, utcMs, monotonicMs, rfl⟩ | ⟨hstale, he⟩
  · have houtcome :=
      handleControlMessage_outcome adapter r.unobserved message utcMs monotonicMs
    generalize hout : VehicleMediaRuntime.handleControlMessage adapter r.unobserved message
      utcMs monotonicMs = out at houtcome
    cases houtcome with
    | refused _ hrefused => exact heartbeatLaw_refused hrefused (congrArg Prod.snd hout)
    | received hvalid hrefused _ _ hw hservice hestop hcommand _ hstale =>
      exact heartbeatLaw_received h hagree rfl hvalid hrefused hw hservice hestop hcommand hstale hout
  · exact heartbeatLaw_quiet (quiet_event adapter createAdapter r he) hstale

/-- In a run whose clocks agree, a stale message does nothing but keep the watchdog quiet, and only
a fresh one brings `ControlActive` back. -/
theorem heartbeat_runs {h : History (VehicleMediaRuntime σ) Event Reply}
    (hr : Run (machine adapter createAdapter config) h r) (hagree : Steps ClocksAgree h) :
    Always HeartbeatLaw h := by
  refine hr.always_of_link (R := HeartbeatInvariant) ?_
    (fun _ _ e _ hi _ => heartbeatInvariant_step hi e)
    (fun _ _ e _ hi hc => heartbeatLaw_step hi e hc) hagree
  exact ⟨fun _ hw => absurd hw (Option.not_mem_none _),
    fun _ hg => absurd hg (Option.not_mem_none _)⟩

end

/-! ## A heartbeat in time on one clock -/

/-- The readings that an event brings with it. -/
def Event.utcMs? : Event → Option ℤ
  | .nativeControlMessage _ utcMs _ => some utcMs
  | .controlTick utcMs => some utcMs
  | .sessionControlProfile _ utcMs => some utcMs
  | .serviceStarted start => some start.utcMs
  | _ => none

def Event.monotonicMs? : Event → Option ℤ
  | .nativeControlMessage _ _ monotonicMs => some monotonicMs
  | _ => none

/-- Neither clock goes back. -/
def Forward (events : List Event) : Prop :=
  (events.filterMap Event.utcMs?).Pairwise (· ≤ ·) ∧
  (events.filterMap Event.monotonicMs?).Pairwise (· ≤ ·)

instance (events : List Event) : Decidable (Forward events) := inferInstanceAs (Decidable (_ ∧ _))

/-- The watchdog has time left on the UTC clock. -/
def InTime (st : Step (VehicleMediaRuntime σ) Event Reply) : Prop :=
  ∀ utcMs ∈ st.event.utcMs?, ∀ w ∈ st.before.controlService,
    (w.service.safety.tick utcMs).state ≠ .degraded

instance (st : Step (VehicleMediaRuntime σ) Event Reply) : Decidable (InTime st) :=
  inferInstanceAs (Decidable (∀ _ ∈ _, ∀ _ ∈ _, _))

theorem clocksAgree_of_inTime {st : Step (VehicleMediaRuntime σ) Event Reply} (h : InTime st) :
    ClocksAgree st := by
  intro message utcMs monotonicMs hevent _ w hw hdisagree
  have hutc : utcMs ∈ st.event.utcMs? := by
    rw [hevent]
    rfl
  exact h utcMs hutc w hw hdisagree.2.2.1

def benchMessage (seq : ℕ) (utcMs : ℤ) (intentFresh : Bool) : NativeControlMessage :=
  { command := benchCommand seq utcMs "D" 0 0 0 false
    intentSeq := 1
    intentFresh := intentFresh }

/-- Control over the mock adapter, active since a fresh message at one second. -/
def activeEvents : List Event :=
  [.transportStarted, .channelOpened,
    .serviceStarted
      { driverId := "driver-1"
        sessionId := "session-1"
        controlToken := "token"
        camerasArmed := true
        utcMs := 0 },
    .sessionControlProfile (benchRequest 1 0 benchProfile) 0,
    .nativeControlMessage (benchMessage 1 1000 true) 1000 1000]

def benchMachine : Machine (VehicleMediaRuntime MockVehicleAdapter) Event Reply :=
  machine mock (fun _ => .ok {}) Stack.benchVehicleConfig

/-- A heartbeat in time on both clocks. -/
def timelyEvents : List Event :=
  activeEvents ++ [.nativeControlMessage (benchMessage 2 1100 false) 1100 1100]

theorem heartbeat_runs_timely :
    (benchMachine.play timelyEvents).1.head?.map (·.output) =
      some (.received { accepted := true, reason := "accepted", command := some { gear := .D } }) ∧
    Always HeartbeatLaw (benchMachine.play timelyEvents).1 := by
  have hinTime : Steps InTime (benchMachine.play timelyEvents).1 := by decide +kernel
  exact ⟨by decide +kernel, heartbeat_runs (Run.play benchMachine timelyEvents)
    (hinTime.imp fun _ _ => clocksAgree_of_inTime)⟩

/-- The second fresh message comes too late for the receiver and only restarts its timing; the
heartbeat behind it finds 299 monotonic and 300 UTC milliseconds gone. -/
def overtakenEvents : List Event :=
  activeEvents ++
  [.nativeControlMessage (benchMessage 2 1250 true) 1250 1249,
    .nativeControlMessage (benchMessage 3 1300 false) 1300 1299]

/-- From `Degraded` into `ControlActive`. -/
def Observation.recovers : Observation → Bool
  | .safetyChanged .degraded .controlActive => true
  | _ => false

theorem recovers_eq : ∀ {o : Observation}, Observation.recovers o = true →
    o = .safetyChanged .degraded .controlActive := by
  intro o h
  unfold Observation.recovers at h
  split at h
  · rfl
  · cases h

theorem heartbeat_recovers :
    Forward overtakenEvents ∧ ¬Always HeartbeatLaw (benchMachine.play overtakenEvents).1 := by
  refine ⟨by decide +kernel, fun halways => ?_⟩
  have hplay : overtakenEvents = (activeEvents ++
      [.nativeControlMessage (benchMessage 2 1250 true) 1250 1249]) ++
      [.nativeControlMessage (benchMessage 3 1300 false) 1300 1299] := rfl
  rw [hplay, Machine.play_concat] at halways
  have hrecovers : ∃ o ∈ (benchMachine.play overtakenEvents).2.trace,
      Observation.recovers o = true := by decide +kernel
  rw [hplay, Machine.play_concat] at hrecovers
  obtain ⟨o, ho, hrecovers⟩ := hrecovers
  rw [recovers_eq hrecovers] at ho
  obtain ⟨message, utcMs, monotonicMs, checked, hevent, hfresh, -⟩ :=
    halways.1.establishes .degraded (nomatch ·) ho
  cases hevent
  cases hfresh

end MineTeleop.Media
