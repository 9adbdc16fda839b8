import MineTeleop.Library.Runs
import MineTeleop.Service.Command

/-!
# The control receiver over a run

Proved here, for every sequence of commands and receive times:

* `receiver_law`: what an accepted command has passed, and when an ordinary one is dropped for the
  gap before it;
* `estop_accepted_iff`: which times the receiver takes an authentic ESTOP at.

`estop_reversed` is an ESTOP that a clock step loses.
-/

namespace MineTeleop.Service

open Runs

/-! ## What a command must pass -/

/-- Everything but the gap since the last arrival; only an ordinary command must be recent. -/
structure Admissible (r : ControlReceiver) (command : ControlCommand) (t : ℤ)
    (checked : DriverCommand) : Prop where
  time : 0 ≤ t
  valid : command.validate = .ok checked
  version : command.protocolVersion = r.protocolVersion
  vehicle : command.vehicleId = r.vehicleId
  driver : command.driverId = r.driverId
  session : command.sessionId = r.sessionId
  authority : r.controlAuthority = true
  token : command.controlToken = r.controlToken
  sequence : ∀ last ∈ r.lastSeq, last < command.seq
  recent : command.estop = false → |t - command.sentAtUtcMs| ≤ r.maxCommandGapMs
  order : ∀ last ∈ r.lastValidReceiveMs, last ≤ t

/-- The last arrival lies further back than the gap. -/
def GapExceeded (r : ControlReceiver) (t : ℤ) : Prop :=
  ∃ last ∈ r.lastValidReceiveMs, r.maxCommandGapMs < t - last

/-- What `accept` does: refuse, drop for the gap, or accept. -/
inductive Verdict (r : ControlReceiver) (command : ControlCommand) (t : ℤ) :
    Except Failure (ReceiveResult × ControlReceiver) → Prop
  | threw (e : Failure) (h : ∀ checked, ¬Admissible r command t checked) :
      Verdict r command t (.error e)
  | refused (reason : String) (h : ∀ checked, ¬Admissible r command t checked)
      (hreason : reason ≠ "command_gap_exceeded") :
      Verdict r command t (.ok (.rejected reason, r))
  | dropped (checked : DriverCommand) (h : Admissible r command t checked)
      (hordinary : command.estop = false) (hgap : GapExceeded r t) :
      Verdict r command t
        (.ok (.rejected "command_gap_exceeded", { r with lastValidReceiveMs := some t }))
  | accepted (checked : DriverCommand) (warnings : List String)
      (h : Admissible r command t checked) (hgap : command.estop = false → ¬GapExceeded r t) :
      Verdict r command t
        (.ok
          ({ accepted := true
             reason := "accepted"
             command := some checked
             warnings := warnings },
            { r with lastSeq := some command.seq, lastValidReceiveMs := some t }))

theorem verdict_ite {r : ControlReceiver} {command : ControlCommand} {t : ℤ} {c : Prop} [Decidable c]
    {p q : ReceiveResult × ControlReceiver} (hp : c → Verdict r command t (.ok p))
    (hq : ¬c → Verdict r command t (.ok q)) : Verdict r command t (.ok (if c then p else q)) := by
  by_cases h : c
  · rw [if_pos h]
    exact hp h
  · rw [if_neg h]
    exact hq h

theorem judge_verdict {r : ControlReceiver} {command : ControlCommand} {t : ℤ}
    {checked : DriverCommand} (ht : 0 ≤ t) (hvalid : command.validate = .ok checked) :
    Verdict r command t (.ok (r.judge command checked t)) := by
  unfold ControlReceiver.judge
  extract_lets delta
  refine verdict_ite (fun hversion => ?_) fun hversion => ?_
  · exact .refused "wrong_protocol_version" (fun _ h => hversion h.version) (by decide)
  refine verdict_ite (fun hvehicle => ?_) fun hvehicle => ?_
  · exact .refused "wrong_vehicle" (fun _ h => hvehicle h.vehicle) (by decide)
  refine verdict_ite (fun hdriver => ?_) fun hdriver => ?_
  · exact .refused "wrong_driver" (fun _ h => hdriver h.driver) (by decide)
  refine verdict_ite (fun hsession => ?_) fun hsession => ?_
  · exact .refused "wrong_session" (fun _ h => hsession h.session) (by decide)
  refine verdict_ite (fun hauthority => ?_) fun hauthority => ?_
  · refine .refused "control_authority_missing" (fun _ h => ?_) (by decide)
    exact Bool.false_ne_true (hauthority.symm.trans h.authority)
  refine verdict_ite (fun htoken => ?_) fun htoken => ?_
  · exact .refused "control_token_invalid" (fun _ h => htoken h.token) (by decide)
  refine verdict_ite (fun hold => ?_) fun hseq => ?_
  · obtain ⟨last, hlast, hold⟩ := hold
    exact .refused "old_seq" (fun _ h => absurd (h.sequence last hlast) (by omega)) (by decide)
  refine verdict_ite (fun hage => ?_) fun hage => ?_
  · refine .refused "command_age_exceeded" (fun _ h => ?_) (by decide)
    have hrecent := abs_le.mp (h.recent hage.1)
    omega
  refine verdict_ite (fun hfuture => ?_) fun hfuture => ?_
  · refine .refused "command_timestamp_in_future" (fun _ h => ?_) (by decide)
    have hrecent := abs_le.mp (h.recent hfuture.1)
    omega
  refine verdict_ite (fun hreversed => ?_) fun horder => ?_
  · obtain ⟨last, hlast, hreversed⟩ := hreversed
    exact .refused "receive_time_reversed"
      (fun _ h => absurd (h.order last hlast) (by omega)) (by decide)
  have hadmissible : Admissible r command t checked :=
    { time := ht
      valid := hvalid
      version := not_not.mp hversion
      vehicle := not_not.mp hvehicle
      driver := not_not.mp hdriver
      session := not_not.mp hsession
      authority := eq_true_of_ne_false hauthority
      token := not_not.mp htoken
      sequence := fun last hlast => not_le.mp fun hle => hseq ⟨last, hlast, hle⟩
      recent := fun hestop => abs_le.mpr
        ⟨not_lt.mp fun hlt => hfuture ⟨hestop, hlt⟩, not_lt.mp fun hlt => hage ⟨hestop, hlt⟩⟩
      order := fun last hlast => not_lt.mp fun hlt => horder ⟨last, hlast, hlt⟩ }
  refine verdict_ite (fun hgap => ?_) fun hgap => ?_
  · exact .dropped checked hadmissible hgap.2 hgap.1
  · exact .accepted checked _ hadmissible fun hestop hexceeded => hgap ⟨hexceeded, hestop⟩

/-- No message of a failed check is taken for the gap's. -/
theorem invalid_reason (message : String) :
    "invalid_command:" ++ message ≠ "command_gap_exceeded" := by
  intro h
  have hhead := congrArg (fun s => s.toList.head?) h
  simp at hhead

theorem accept_verdict (r : ControlReceiver) (command : ControlCommand) (t : ℤ) :
    Verdict r command t (r.accept command t) := by
  unfold ControlReceiver.accept
  split
  · exact .threw _ fun _ h => absurd h.time (by omega)
  rename_i ht
  split
  · rename_i message hinvalid
    refine .refused _ (fun checked h => ?_) (invalid_reason message)
    have hcontra := hinvalid.symm.trans h.valid
    cases hcontra
  · rename_i hvalid
    exact judge_verdict (not_lt.mp ht) hvalid

/-! ## Runs of the receiver -/

/-- A command with the time it is received at. -/
structure Arrival where
  command : ControlCommand
  receiveTimeMs : ℤ

def receiverStep (r : ControlReceiver) (a : Arrival) :
    Except Failure ReceiveResult × ControlReceiver :=
  match r.accept a.command a.receiveTimeMs with
  | .ok (result, r') => (.ok result, r')
  | .error e => (.error e, r)

def receiverMachine (built : ControlReceiver) :
    Machine ControlReceiver Arrival (Except Failure ReceiveResult) := ⟨built, receiverStep⟩

abbrev ReceiverStep := Step ControlReceiver Arrival (Except Failure ReceiveResult)
abbrev ReceiverHistory := History ControlReceiver Arrival (Except Failure ReceiveResult)

def Accepted (st : ReceiverStep) : Prop :=
  ∃ result ∈ st.output.toOption, result.accepted = true

def GapDropped (st : ReceiverStep) : Prop :=
  ∃ result ∈ st.output.toOption, result.reason = "command_gap_exceeded"

instance (st : ReceiverStep) : Decidable (Accepted st) :=
  inferInstanceAs (Decidable (∃ _ ∈ _, _))
instance (st : ReceiverStep) : Decidable (GapDropped st) :=
  inferInstanceAs (Decidable (∃ _ ∈ _, _))

/-- When a command was last accepted or dropped for the gap. -/
def lastArrival : ReceiverHistory → Option ℤ
  | [] => none
  | st :: past =>
    if Accepted st ∨ GapDropped st then some st.event.receiveTimeMs else lastArrival past

/-- Protocol version, vehicle, driver, session and token are the receiver's. -/
structure Identified (built : ControlReceiver) (command : ControlCommand) : Prop where
  version : command.protocolVersion = built.protocolVersion
  vehicle : command.vehicleId = built.vehicleId
  driver : command.driverId = built.driverId
  session : command.sessionId = built.sessionId
  token : command.controlToken = built.controlToken

/-- Valid but perhaps for the gap before it. -/
structure OtherwiseValid (built : ControlReceiver) (past : ReceiverHistory) (a : Arrival) :
    Prop where
  time : 0 ≤ a.receiveTimeMs
  valid : ∃ checked, a.command.validate = .ok checked
  identified : Identified built a.command
  authority : built.controlAuthority = true
  sequence : ∀ st ∈ past, Accepted st → st.event.command.seq < a.command.seq
  recent : |a.receiveTimeMs - a.command.sentAtUtcMs| ≤ built.maxCommandGapMs
  order : ∀ last ∈ lastArrival past, last ≤ a.receiveTimeMs

structure ReceiverLaw (built : ControlReceiver) (st : ReceiverStep) (past : ReceiverHistory) :
    Prop where
  increases : Accepted st → ∀ st' ∈ past, Accepted st' →
    st'.event.command.seq < st.event.command.seq ∧
    st'.event.receiveTimeMs ≤ st.event.receiveTimeMs
  identified : Accepted st → st.event.command.estop = false → Identified built st.event.command ∧
    |st.event.receiveTimeMs - st.event.command.sentAtUtcMs| ≤ built.maxCommandGapMs
  timely : Accepted st → st.event.command.estop = false → ∀ last ∈ lastArrival past,
    st.event.receiveTimeMs - last ≤ built.maxCommandGapMs
  drops : GapDropped st → st.event.command.estop = false ∧ OtherwiseValid built past st.event ∧
    ∃ last ∈ lastArrival past, built.maxCommandGapMs < st.event.receiveTimeMs - last
  decides : st.event.command.estop = false → OtherwiseValid built past st.event →
    if ∃ last ∈ lastArrival past, built.maxCommandGapMs < st.event.receiveTimeMs - last then
      GapDropped st ∧ ¬Accepted st
    else Accepted st
  /-- Behind a dropped command the next one resumes the control. -/
  resumes : ∀ later dropped past', past = later ++ dropped :: past' → GapDropped dropped →
    (∀ st' ∈ later, ¬(Accepted st' ∨ GapDropped st')) → st.event.command.estop = false →
    OtherwiseValid built past st.event →
    st.event.receiveTimeMs - dropped.event.receiveTimeMs ≤ built.maxCommandGapMs → Accepted st

theorem lastArrival_append {later : ReceiverHistory} {st : ReceiverStep} {past : ReceiverHistory}
    (hst : Accepted st ∨ GapDropped st) (hlater : ∀ st' ∈ later, ¬(Accepted st' ∨ GapDropped st')) :
    lastArrival (later ++ st :: past) = some st.event.receiveTimeMs := by
  induction later with
  | nil => exact if_pos hst
  | cons st' later ih =>
    have hrest := ih fun st'' hst'' => hlater st'' (List.mem_cons_of_mem _ hst'')
    exact (if_neg (hlater st' (List.mem_cons_self ..))).trans hrest

/-- The receiver without its memory. -/
def ControlReceiver.configured (r : ControlReceiver) : ControlReceiver :=
  { r with
    lastSeq := none
    lastValidReceiveMs := none }

/-- What the receiver remembers of its history. -/
structure ReceiverInvariant (built : ControlReceiver) (past : ReceiverHistory)
    (r : ControlReceiver) : Prop where
  configured : r.configured = built.configured
  arrival : r.lastValidReceiveMs = lastArrival past
  remembered : ∀ last ∈ r.lastSeq, ∃ st ∈ past, Accepted st ∧ st.event.command.seq = last
  sequence : ∀ st ∈ past, Accepted st → ∃ last ∈ r.lastSeq, st.event.command.seq ≤ last
  times : ∀ st ∈ past, Accepted st → ∃ last ∈ lastArrival past, st.event.receiveTimeMs ≤ last

section
variable {built r : ControlReceiver} {past : ReceiverHistory} {a : Arrival}

theorem ReceiverInvariant.field {α : Type} (hi : ReceiverInvariant built past r)
    (f : ControlReceiver → α) (hf : ∀ r : ControlReceiver, f r.configured = f r) : f r = f built := by
  rw [← hf r, ← hf built, hi.configured]

theorem ReceiverInvariant.gap (hi : ReceiverInvariant built past r) :
    r.maxCommandGapMs = built.maxCommandGapMs :=
  hi.field (·.maxCommandGapMs) fun _ => rfl

theorem identified_iff (hi : ReceiverInvariant built past r) {command : ControlCommand} :
    Identified r command ↔ Identified built command := by
  have hversion : r.protocolVersion = built.protocolVersion :=
    hi.field (·.protocolVersion) fun _ => rfl
  have hvehicle : r.vehicleId = built.vehicleId := hi.field (·.vehicleId) fun _ => rfl
  have hdriver : r.driverId = built.driverId := hi.field (·.driverId) fun _ => rfl
  have hsession : r.sessionId = built.sessionId :=
    hi.field (·.sessionId) fun _ => rfl
  have htoken : r.controlToken = built.controlToken :=
    hi.field (·.controlToken) fun _ => rfl
  constructor
  · intro h
    exact ⟨h.version.trans hversion, h.vehicle.trans hvehicle, h.driver.trans hdriver,
      h.session.trans hsession, h.token.trans htoken⟩
  · intro h
    exact ⟨h.version.trans hversion.symm, h.vehicle.trans hvehicle.symm,
      h.driver.trans hdriver.symm, h.session.trans hsession.symm, h.token.trans htoken.symm⟩

theorem Admissible.identified {command : ControlCommand} {t : ℤ} {checked : DriverCommand}
    (h : Admissible r command t checked) : Identified r command :=
  ⟨h.version, h.vehicle, h.driver, h.session, h.token⟩

theorem otherwiseValid_of_admissible (hi : ReceiverInvariant built past r)
    {checked : DriverCommand} (h : Admissible r a.command a.receiveTimeMs checked)
    (hestop : a.command.estop = false) : OtherwiseValid built past a := by
  have hauthority : r.controlAuthority = built.controlAuthority :=
    hi.field (·.controlAuthority) fun _ => rfl
  refine
    { time := h.time
      valid := ⟨checked, h.valid⟩
      identified := (identified_iff hi).mp h.identified
      authority := hauthority ▸ h.authority
      sequence := fun st hst haccepted => ?_
      recent := hi.gap ▸ h.recent hestop
      order := fun last hlast => h.order last (hi.arrival ▸ hlast) }
  obtain ⟨last, hlast, hle⟩ := hi.sequence st hst haccepted
  exact hle.trans_lt (h.sequence last hlast)

theorem admissible_of_otherwiseValid (hi : ReceiverInvariant built past r)
    (h : OtherwiseValid built past a) :
    ∃ checked, Admissible r a.command a.receiveTimeMs checked := by
  obtain ⟨checked, hvalid⟩ := h.valid
  have hidentified := (identified_iff hi).mpr h.identified
  have hauthority : r.controlAuthority = built.controlAuthority :=
    hi.field (·.controlAuthority) fun _ => rfl
  refine ⟨checked,
    { time := h.time
      valid := hvalid
      version := hidentified.version
      vehicle := hidentified.vehicle
      driver := hidentified.driver
      session := hidentified.session
      authority := hauthority.trans h.authority
      token := hidentified.token
      sequence := fun last hlast => ?_
      recent := fun _ => hi.gap.symm ▸ h.recent
      order := fun last hlast => h.order last (hi.arrival ▸ hlast) }⟩
  obtain ⟨st, hst, haccepted, rfl⟩ := hi.remembered last hlast
  exact h.sequence st hst haccepted

theorem gapExceeded_iff (hi : ReceiverInvariant built past r) {t : ℤ} :
    GapExceeded r t ↔ ∃ last ∈ lastArrival past, built.maxCommandGapMs < t - last := by
  unfold GapExceeded
  rw [hi.arrival, hi.gap]

/-! ### One step -/

/-- How the receiver answers an arrival, under its history. -/
inductive Answered (built : ControlReceiver) (past : ReceiverHistory) (st : ReceiverStep) : Prop
  | refused (haccepted : ¬Accepted st) (hdropped : ¬GapDropped st) (hsame : st.after = st.before)
      (h : ∀ checked, ¬Admissible st.before st.event.command st.event.receiveTimeMs checked)
  | dropped (haccepted : ¬Accepted st) (hdropped : GapDropped st)
      (hordinary : st.event.command.estop = false)
      (hvalid : OtherwiseValid built past st.event)
      (hgap : ∃ last ∈ lastArrival past,
        built.maxCommandGapMs < st.event.receiveTimeMs - last)
      (hafter : st.after = { st.before with lastValidReceiveMs := some st.event.receiveTimeMs })
  | accepted (checked : DriverCommand) (haccepted : Accepted st) (hdropped : ¬GapDropped st)
      (h : Admissible st.before st.event.command st.event.receiveTimeMs checked)
      (hgap : st.event.command.estop = false → ¬∃ last ∈ lastArrival past,
        built.maxCommandGapMs < st.event.receiveTimeMs - last)
      (hafter : st.after =
        { st.before with
          lastSeq := some st.event.command.seq
          lastValidReceiveMs := some st.event.receiveTimeMs })

theorem observe_ok {result : ReceiveResult} {r' : ControlReceiver}
    (h : r.accept a.command a.receiveTimeMs = .ok (result, r')) :
    (receiverMachine built).observe r a = ⟨r, a, .ok result, r'⟩ := by
  have hstep : receiverStep r a = (.ok result, r') := by
    unfold receiverStep
    rw [h]
  unfold Machine.observe receiverMachine
  dsimp only
  rw [hstep]

theorem observe_error {e : Failure} (h : r.accept a.command a.receiveTimeMs = .error e) :
    (receiverMachine built).observe r a = ⟨r, a, .error e, r⟩ := by
  have hstep : receiverStep r a = (.error e, r) := by
    unfold receiverStep
    rw [h]
  unfold Machine.observe receiverMachine
  dsimp only
  rw [hstep]

theorem answered (hi : ReceiverInvariant built past r) (a : Arrival) :
    Answered built past ((receiverMachine built).observe r a) := by
  have hverdict := accept_verdict r a.command a.receiveTimeMs
  generalize hanswer : r.accept a.command a.receiveTimeMs = answer at hverdict
  cases hverdict with
  | threw e h =>
    rw [observe_error hanswer]
    refine .refused ?_ ?_ rfl h
    · rintro ⟨result, hresult, -⟩
      exact absurd hresult (Option.not_mem_none result)
    · rintro ⟨result, hresult, -⟩
      exact absurd hresult (Option.not_mem_none result)
  | refused reason h hreason =>
    rw [observe_ok hanswer]
    refine .refused ?_ ?_ rfl h
    · rintro ⟨result, hresult, haccepted⟩
      obtain rfl := Option.some.inj hresult
      cases haccepted
    · rintro ⟨result, hresult, hgap⟩
      obtain rfl := Option.some.inj hresult
      exact hreason hgap
  | dropped checked h hordinary hgap =>
    rw [observe_ok hanswer]
    refine .dropped ?_ ⟨_, rfl, rfl⟩ hordinary (otherwiseValid_of_admissible hi h hordinary)
      ((gapExceeded_iff hi).mp hgap) rfl
    rintro ⟨result, hresult, haccepted⟩
    obtain rfl := Option.some.inj hresult
    cases haccepted
  | accepted checked warnings h hgap =>
    rw [observe_ok hanswer]
    refine .accepted checked ⟨_, rfl, rfl⟩ ?_ h
      (fun hestop hexceeded => hgap hestop ((gapExceeded_iff hi).mpr hexceeded)) rfl
    rintro ⟨result, hresult, hreason⟩
    obtain rfl := Option.some.inj hresult
    have htext : "accepted" = "command_gap_exceeded" := hreason
    exact absurd htext (by decide)

variable {st : ReceiverStep}

theorem receiverLaw_answered (hi : ReceiverInvariant built past st.before)
    (h : Answered built past st) : ReceiverLaw built st past := by
  have hdecides : st.event.command.estop = false → OtherwiseValid built past st.event →
      if ∃ last ∈ lastArrival past, built.maxCommandGapMs < st.event.receiveTimeMs - last then
        GapDropped st ∧ ¬Accepted st
      else Accepted st := by
    intro hordinary hvalid
    obtain ⟨checked, hadmissible⟩ := admissible_of_otherwiseValid hi hvalid
    cases h with
    | refused _ _ _ hnone => exact absurd hadmissible (hnone checked)
    | dropped haccepted hdropped _ _ hgap =>
      rw [if_pos hgap]
      exact ⟨hdropped, haccepted⟩
    | accepted _ haccepted _ _ hgap =>
      rw [if_neg (hgap hordinary)]
      exact haccepted
  have hadmissible : Accepted st →
      (∃ checked, Admissible st.before st.event.command st.event.receiveTimeMs checked) ∧
      (st.event.command.estop = false → ¬∃ last ∈ lastArrival past,
        built.maxCommandGapMs < st.event.receiveTimeMs - last) := by
    intro haccepted
    cases h with
    | refused hno => exact absurd haccepted hno
    | dropped hno => exact absurd haccepted hno
    | accepted checked _ _ hadmissible hgap => exact ⟨⟨checked, hadmissible⟩, hgap⟩
  refine
    { increases := fun haccepted st' hst' hearlier => ?_
      identified := fun haccepted hordinary => ?_
      timely := fun haccepted hordinary last hlast => ?_
      drops := fun hdropped => ?_
      decides := hdecides
      resumes := ?_ }
  · obtain ⟨⟨checked, hnow⟩, -⟩ := hadmissible haccepted
    obtain ⟨seq, hseq, hle⟩ := hi.sequence st' hst' hearlier
    obtain ⟨last, hlast, htime⟩ := hi.times st' hst' hearlier
    exact ⟨hle.trans_lt (hnow.sequence seq hseq),
      htime.trans (hnow.order last (hi.arrival ▸ hlast))⟩
  · obtain ⟨⟨checked, hnow⟩, -⟩ := hadmissible haccepted
    exact ⟨(identified_iff hi).mp hnow.identified, hi.gap ▸ hnow.recent hordinary⟩
  · exact not_lt.mp fun hlt => (hadmissible haccepted).2 hordinary ⟨last, hlast, hlt⟩
  · cases h with
    | refused _ hno => exact absurd hdropped hno
    | dropped _ _ hordinary hvalid hgap => exact ⟨hordinary, hvalid, hgap⟩
    | accepted _ _ hno => exact absurd hdropped hno
  · rintro later dropped past' rfl hdropped hlater hordinary hvalid htime
    have harrival : lastArrival (later ++ dropped :: past') = some dropped.event.receiveTimeMs :=
      lastArrival_append (.inr hdropped) hlater
    have hverdict := hdecides hordinary hvalid
    rw [harrival, if_neg] at hverdict
    · exact hverdict
    · rintro ⟨last, hlast, hlt⟩
      obtain rfl := Option.some.inj hlast
      omega

theorem receiverInvariant_answered (hi : ReceiverInvariant built past st.before)
    (h : Answered built past st) : ReceiverInvariant built (st :: past) st.after := by
  have hearlier : ∀ {t : ℤ}, (∀ last ∈ st.before.lastValidReceiveMs, last ≤ t) →
      ∀ st' ∈ past, Accepted st' → st'.event.receiveTimeMs ≤ t := by
    intro t ht st' hst' haccepted
    obtain ⟨last, hlast, hle⟩ := hi.times st' hst' haccepted
    exact hle.trans (ht last (hi.arrival ▸ hlast))
  cases h with
  | refused haccepted hdropped hsame =>
    have harrival : lastArrival (st :: past) = lastArrival past :=
      if_neg (not_or.mpr ⟨haccepted, hdropped⟩)
    rw [hsame]
    refine ⟨hi.configured, hi.arrival.trans harrival.symm, ?_, ?_, ?_⟩
    · intro last hlast
      obtain ⟨st', hst', hfound⟩ := hi.remembered last hlast
      exact ⟨st', List.mem_cons_of_mem _ hst', hfound⟩
    · rintro st' hst' haccepted'
      rcases List.mem_cons.mp hst' with rfl | hst'
      · exact absurd haccepted' haccepted
      · exact hi.sequence st' hst' haccepted'
    · rintro st' hst' haccepted'
      rw [harrival]
      rcases List.mem_cons.mp hst' with rfl | hst'
      · exact absurd haccepted' haccepted
      · exact hi.times st' hst' haccepted'
  | dropped haccepted hdropped _ hvalid _ hafter =>
    have harrival : lastArrival (st :: past) = some st.event.receiveTimeMs :=
      if_pos (.inr hdropped)
    rw [hafter]
    refine ⟨hi.configured, harrival.symm, ?_, ?_, ?_⟩
    · intro last hlast
      obtain ⟨st', hst', hfound⟩ := hi.remembered last hlast
      exact ⟨st', List.mem_cons_of_mem _ hst', hfound⟩
    · rintro st' hst' haccepted'
      rcases List.mem_cons.mp hst' with rfl | hst'
      · exact absurd haccepted' haccepted
      · exact hi.sequence st' hst' haccepted'
    · rintro st' hst' haccepted'
      rcases List.mem_cons.mp hst' with rfl | hst'
      · exact absurd haccepted' haccepted
      · exact ⟨_, harrival, hearlier (fun last hlast => hvalid.order last (hi.arrival ▸ hlast)) st'
          hst' haccepted'⟩
  | accepted checked haccepted _ hnow _ hafter =>
    have harrival : lastArrival (st :: past) = some st.event.receiveTimeMs :=
      if_pos (.inl haccepted)
    rw [hafter]
    refine ⟨hi.configured, harrival.symm, ?_, ?_, ?_⟩
    · rintro last hlast
      obtain rfl := Option.some.inj hlast
      exact ⟨st, List.mem_cons_self .., haccepted, rfl⟩
    · rintro st' hst' haccepted'
      refine ⟨_, rfl, ?_⟩
      rcases List.mem_cons.mp hst' with rfl | hst'
      · exact le_refl _
      · obtain ⟨seq, hseq, hle⟩ := hi.sequence st' hst' haccepted'
        exact hle.trans (hnow.sequence seq hseq).le
    · rintro st' hst' haccepted'
      refine ⟨_, harrival, ?_⟩
      rcases List.mem_cons.mp hst' with rfl | hst'
      · exact le_refl _
      · exact hearlier hnow.order st' hst' haccepted'

end

/-- The constructor leaves nothing to remember. -/
theorem create_new {vehicleId driverId sessionId token : String} {gap version : ℤ} {authority : Bool}
    {built : ControlReceiver}
    (h : ControlReceiver.create vehicleId driverId sessionId gap version authority token = .ok built) :
    built.lastSeq = none ∧ built.lastValidReceiveMs = none := by
  unfold ControlReceiver.create at h
  split_ifs at h
  obtain rfl := Except.ok.inj h
  exact ⟨rfl, rfl⟩

/-- Whatever a receiver is given, every answer obeys the law. -/
theorem receiver_law {vehicleId driverId sessionId token : String} {gap version : ℤ}
    {authority : Bool} {built r : ControlReceiver} {h : ReceiverHistory}
    (hcreate : ControlReceiver.create vehicleId driverId sessionId gap version authority token =
      .ok built)
    (hr : Run (receiverMachine built) h r) : Always (ReceiverLaw built) h := by
  obtain ⟨hseq, htime⟩ := create_new hcreate
  have hinit : ReceiverInvariant built [] built := by
    refine ⟨rfl, htime, fun last hlast => ?_, fun _ hst => absurd hst List.not_mem_nil,
      fun _ hst => absurd hst List.not_mem_nil⟩
    rw [hseq] at hlast
    exact absurd hlast (Option.not_mem_none last)
  exact hr.always_of_link (C := fun _ => True) (R := ReceiverInvariant built) hinit
    (fun _ _ a _ hi _ => receiverInvariant_answered hi (answered hi a))
    (fun _ _ a _ hi _ => receiverLaw_answered hi (answered hi a)) (steps_true h)

/-! ## A receiver on the bench -/

def benchReceiver : ControlReceiver :=
  { vehicleId := "vehicle-1"
    driverId := "driver-1"
    sessionId := "session-1"
    maxCommandGapMs := 200
    controlToken := "token" }

def arrival (seq : ℕ) (t : ℤ) (estop : Bool) : Arrival :=
  { command :=
      { vehicleId := "vehicle-1"
        driverId := "driver-1"
        sessionId := "session-1"
        seq := seq
        sentAtUtcMs := t
        controlToken := "token"
        estop := estop }
    receiveTimeMs := t }

/-- A command, one behind a gap, and the next. -/
def gapArrivals : List Arrival := [arrival 1 1000 false, arrival 2 1300 false, arrival 3 1350 false]

theorem receiver_law_gap :
    ((receiverMachine benchReceiver).play gapArrivals).1.map (fun st =>
      (decide (Accepted st), decide (GapDropped st))) =
        [(true, false), (false, true), (true, false)] ∧
    Always (ReceiverLaw benchReceiver) ((receiverMachine benchReceiver).play gapArrivals).1 := by
  have hrun := Run.play (receiverMachine benchReceiver) gapArrivals
  have hcreate : ControlReceiver.create "vehicle-1" "driver-1" "session-1" 200 protocolVersion true
      "token" = .ok benchReceiver := rfl
  exact ⟨by decide +kernel, receiver_law hcreate hrun⟩

/-! ## An ESTOP -/

/-- An ESTOP of the session's driver, with a new sequence number. -/
structure Authentic (r : ControlReceiver) (command : ControlCommand) : Prop where
  estop : command.estop = true
  identified : Identified r command
  sequence : ∀ last ∈ r.lastSeq, last < command.seq

/-- The receiver takes the command. -/
def Takes (r : ControlReceiver) (command : ControlCommand) (t : ℤ) : Prop :=
  ∃ result r', r.accept command t = .ok (result, r') ∧ result.accepted = true

/-- No clock is in the way: the receive time is a time, and not before the last arrival. -/
structure InOrder (r : ControlReceiver) (t : ℤ) : Prop where
  time : 0 ≤ t
  order : ∀ last ∈ r.lastValidReceiveMs, last ≤ t

theorem takes_iff (r : ControlReceiver) (command : ControlCommand) (t : ℤ) :
    Takes r command t ↔ (∃ checked, Admissible r command t checked) ∧
      (command.estop = false → ¬GapExceeded r t) := by
  have hverdict := accept_verdict r command t
  unfold Takes
  generalize r.accept command t = answer at hverdict
  constructor
  · rintro ⟨result, r', rfl, haccepted⟩
    cases hverdict with
    | refused => cases haccepted
    | dropped => cases haccepted
    | accepted checked _ h hgap => exact ⟨⟨checked, h⟩, hgap⟩
  · rintro ⟨⟨checked, h⟩, hgap⟩
    cases hverdict with
    | threw _ hnone => exact absurd h (hnone checked)
    | refused _ hnone => exact absurd h (hnone checked)
    | dropped _ _ hordinary hexceeded => exact absurd hexceeded (hgap hordinary)
    | accepted => exact ⟨_, _, rfl, rfl⟩

/-- An authentic ESTOP is taken exactly where no clock is in its way. -/
theorem estop_accepted_iff {r : ControlReceiver} {command : ControlCommand}
    (h : Authentic r command) (t : ℤ) :
    Takes r command t ↔
      InOrder r t ∧ r.controlAuthority = true ∧ ∃ checked, command.validate = .ok checked := by
  have hestop : command.estop ≠ false := ne_of_eq_of_ne h.estop (Bool.noConfusion ·)
  rw [takes_iff]
  constructor
  · rintro ⟨⟨checked, hadmissible⟩, -⟩
    exact ⟨⟨hadmissible.time, hadmissible.order⟩, hadmissible.authority, checked,
      hadmissible.valid⟩
  · rintro ⟨horder, hauthority, checked, hvalid⟩
    refine ⟨⟨checked,
      { time := horder.time
        valid := hvalid
        version := h.identified.version
        vehicle := h.identified.vehicle
        driver := h.identified.driver
        session := h.identified.session
        authority := hauthority
        token := h.identified.token
        sequence := h.sequence
        recent := fun hordinary => absurd hordinary hestop
        order := horder.order }⟩, fun hordinary => absurd hordinary hestop⟩

/-- The receiver behind a command at one second. -/
def busyReceiver : ControlReceiver :=
  { benchReceiver with
    lastSeq := some 1
    lastValidReceiveMs := some 1000 }

theorem busyReceiver_authentic : Authentic busyReceiver (arrival 2 990 true).command := by
  refine ⟨rfl, ⟨rfl, rfl, rfl, rfl, rfl⟩, fun last hlast => ?_⟩
  obtain rfl := Option.some.inj hlast
  decide

theorem estop_accepted_iff_inOrder : Takes busyReceiver (arrival 2 990 true).command 1000 ↔
    InOrder busyReceiver 1000 ∧ busyReceiver.controlAuthority = true ∧
      ∃ checked, (arrival 2 990 true).command.validate = .ok checked :=
  estop_accepted_iff busyReceiver_authentic 1000

/-- Ten milliseconds back on the clock, and the ESTOP is lost. -/
theorem estop_reversed :
    ¬∀ r command, Authentic r command → r.controlAuthority = true →
      (∃ checked, command.validate = .ok checked) → ∀ t, Takes r command t := by
  intro htakes
  have hvalid : (arrival 2 990 true).command.validate =
      .ok { gear := .N, estop := true } := by decide +kernel
  obtain ⟨⟨checked, h⟩, -⟩ := (takes_iff _ _ _).mp
    (htakes busyReceiver _ busyReceiver_authentic rfl ⟨_, hvalid⟩ 990)
  exact absurd (h.order 1000 rfl) (by decide)

end MineTeleop.Service
