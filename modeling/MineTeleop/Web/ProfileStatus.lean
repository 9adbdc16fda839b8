import MineTeleop.Library.Runs
import MineTeleop.Web.ControlLogic

/-!
# The acknowledged profile of the driver page

The page's use of `reduceControlProfileStatus`: it asks for a profile, applies the status messages
of the vehicle, and starts over with a session.

Proved here, for every run of the page:

* `apply_acknowledged_iff`: which status messages leave a profile acknowledged;
* `acknowledgement_iff`: an acknowledged profile is the requested one in every field exactly as
  long as no answer to the request differs from it in `parking_idle_timeout_ms` alone.
-/

namespace MineTeleop.Web

open Documents Runs

/-! ## The page -/

inductive PageEvent where
  /-- `prepareControlProfile`, with the sequence number that the control end gave. -/
  | prepared (value : Json) (requestSeq : ℤ)
  | status (value : Json)
  /-- `updateVehicleHardLimits`, with the profile of the vehicle's defaults. -/
  | vehicleDefaults (profile : ControlProfile)
  | reset

section
variable (numberText : ℚ → String)

def prepareControlProfile (state : ControlProfileState) (value : Json) (requestSeq : ℤ) :
    ControlProfileState :=
  match normalizeControlProfile numberText value with
  | .error _ => state
  | .ok requested =>
    if IsSafeInteger requestSeq ∧ 0 < requestSeq then
      { state with
        requestedProfile := requested.document
        pendingRequestSeq := requestSeq
        effectiveProfile := .null
        effectiveRequestSeq := 0
        effectiveAppliedRevision := 0
        acknowledged := false
        reason := "pending" }
    else state

/-- Whether the status was for this page, and the next state. -/
def applyControlProfileStatus (state : ControlProfileState) (value : Json) :
    Bool × ControlProfileState :=
  let next := reduceControlProfileStatus numberText state value
  if next.matched then (true, next.state) else (false, state)

def updateVehicleDefaults (state : ControlProfileState) (profile : ControlProfile) :
    ControlProfileState :=
  if truthy state.requestedProfile then state
  else { state with requestedProfile := profile.document }

def pageRespond (state : ControlProfileState) : PageEvent → Bool × ControlProfileState
  | .prepared value requestSeq => (true, prepareControlProfile numberText state value requestSeq)
  | .status value => applyControlProfileStatus numberText state value
  | .vehicleDefaults profile => (true, updateVehicleDefaults state profile)
  | .reset => (true, {})

def pageMachine : Machine ControlProfileState PageEvent Bool := ⟨{}, pageRespond numberText⟩

/-! ## What an acknowledgement needs -/

/-- The sequence number of the request that is pending or in force. -/
def seqInForce (state : ControlProfileState) : ℤ :=
  if 0 < state.pendingRequestSeq then state.pendingRequestSeq else state.effectiveRequestSeq

/-- The status accepts the request in force, as active, under its number and its revision. -/
structure Answers (state : ControlProfileState) (status : Json) : Prop where
  asked : 0 < state.pendingRequestSeq ∨ state.acknowledged = true
  inForce : InForce status
  requestSeq : safeInteger? (property status "last_request_seq") = some (seqInForce state)
  appliedRevision : safeInteger? (property status "applied_revision") = some (seqInForce state)

/-- The requested profile and the one the status reports, read. -/
def Reports (state : ControlProfileState) (status : Json) (requested reported : ControlProfile) :
    Prop :=
  normalizeControlProfile numberText state.requestedProfile = .ok requested ∧
  normalizeControlProfile numberText (property status "effective_profile") = .ok reported

/-- The status answers the request with its profile. -/
def Confirms (state : ControlProfileState) (status : Json) : Prop :=
  Answers state status ∧ ∃ requested, Reports numberText state status requested requested

/-- What is shown as acknowledged is the requested profile, at the requested revision. -/
def ShowsRequested (state : ControlProfileState) : Prop :=
  state.acknowledged = true → ∃ requested,
    normalizeControlProfile numberText state.requestedProfile = .ok requested ∧
    normalizeControlProfile numberText state.effectiveProfile = .ok requested ∧
    0 < state.effectiveRequestSeq ∧ state.effectiveAppliedRevision = state.effectiveRequestSeq

structure AcknowledgementLaw (st : Step ControlProfileState PageEvent Bool) : Prop where
  confirmed : ∀ value, st.event = .status value → st.after.acknowledged = true →
    Confirms numberText st.before value
  kept : st.before.acknowledged = false → st.after.acknowledged = true →
    ∃ value, st.event = .status value
  shown : ShowsRequested numberText st.after

/-- An answer whose profile differs from the requested one in `parking_idle_timeout_ms` alone. -/
def ForgetsParkingDelay (st : Step ControlProfileState PageEvent Bool) : Prop :=
  ∃ value, st.event = .status value ∧ Answers st.before value ∧ ∃ requested reported,
    Reports numberText st.before value requested reported ∧ reported.Alike requested ∧
    reported.parkingIdleTimeoutMs ≠ requested.parkingIdleTimeoutMs

end

/-! ## One status message -/

section
variable {numberText : ℚ → String} {state : ControlProfileState} {status : Json}

/-- An answer that carries a profile like the requested one. -/
def Accepted (numberText : ℚ → String) (state : ControlProfileState) (status : Json) : Prop :=
  Answers state status ∧ ∃ requested reported,
    Reports numberText state status requested reported ∧ reported.Alike requested

/-- What a status message leaves behind. -/
inductive StatusOutcome (numberText : ℚ → String) (state : ControlProfileState) (status : Json) :
    ControlProfileState → Prop
  | acknowledged (requested reported : ControlProfile) (reason : String)
      (hanswers : Answers state status)
      (hreports : Reports numberText state status requested reported)
      (halike : reported.Alike requested) :
      StatusOutcome numberText state status
        { state with
          pendingRequestSeq := 0
          effectiveProfile := reported.document
          effectiveRequestSeq := seqInForce state
          effectiveAppliedRevision := seqInForce state
          acknowledged := true
          reason := reason }
  | refused (next : ControlProfileState) (hno : ¬Accepted numberText state status)
      (hacknowledged : next.acknowledged = false)
      (hrequested : next.requestedProfile = state.requestedProfile)
      (hpending : next.pendingRequestSeq = 0 ∨
        next.pendingRequestSeq = state.pendingRequestSeq) :
      StatusOutcome numberText state status next

/-- A state whose profile is dropped. -/
theorem StatusOutcome.invalidated {settled : ControlProfileState} (reason : String)
    (hrequested : settled.requestedProfile = state.requestedProfile)
    (hpending : settled.pendingRequestSeq = 0) (hno : ¬Accepted numberText state status) :
    StatusOutcome numberText state status (settled.invalidate reason).state :=
  .refused _ hno rfl hrequested (.inl hpending)

/-- What a page keeps. -/
structure PageInvariant (numberText : ℚ → String) (state : ControlProfileState) : Prop where
  pendingSafe : IsSafeInteger state.pendingRequestSeq ∧ 0 ≤ state.pendingRequestSeq
  pending : 0 < state.pendingRequestSeq → state.acknowledged = false
  effective : state.acknowledged = true →
    0 < state.effectiveRequestSeq ∧
      state.effectiveAppliedRevision = state.effectiveRequestSeq
  alike : state.acknowledged = true → ∃ requested effective,
    normalizeControlProfile numberText state.requestedProfile = .ok requested ∧
    normalizeControlProfile numberText state.effectiveProfile = .ok effective ∧
    effective.Alike requested

theorem reducePending_outcome (hpos : 0 < state.pendingRequestSeq)
    (hno : state.acknowledged = false) :
    StatusOutcome numberText state status (reducePending numberText state status).state := by
  have hseq : seqInForce state = state.pendingRequestSeq := if_pos hpos
  unfold reducePending
  split
  · rename_i hother
    refine .refused _ (fun h => hother ?_) hno rfl (.inr rfl)
    rw [h.1.requestSeq, hseq]
  · rename_i hseq'
    dsimp only
    split
    · rename_i hinactive
      exact .invalidated _ rfl rfl fun h => hinactive h.1.inForce
    · rename_i hactive
      split
      · rename_i hrevision
        refine .invalidated _ rfl rfl fun h => ?_
        rw [h.1.appliedRevision] at hrevision
        cases hrevision
      · rename_i appliedRevision hrevision
        split
        · rename_i hother
          refine .invalidated _ rfl rfl fun h => ?_
          have hsame := h.1.appliedRevision.symm.trans hrevision
          rw [hseq, Option.some.injEq] at hsame
          rcases hother with hnonpos | hne
          · exact absurd hpos (not_lt.mpr (hsame ▸ hnonpos))
          · exact hne hsame.symm
        · rename_i hsame
          push Not at hsame
          split
          · rename_i message hread
            refine .invalidated _ rfl rfl fun h => ?_
            obtain ⟨requested, reported, hreports, -⟩ := h.2
            rw [hreports.2] at hread
            cases hread
          · rename_i reported hread
            have hequal := controlProfilesEqual_document hread state.requestedProfile
            split
            · rename_i hdiffers
              refine .invalidated _ rfl rfl fun h => ?_
              obtain ⟨requested, reported', hreports, halike⟩ := h.2
              obtain rfl := Except.ok.inj (hreports.2.symm.trans hread)
              rw [hequal.mpr ⟨requested, hreports.1, halike⟩] at hdiffers
              cases hdiffers
            · rename_i hequals
              obtain ⟨requested, hrequested, halike⟩ :=
                hequal.mp (Bool.eq_true_of_not_eq_false hequals)
              have hanswers : Answers state status := by
                refine ⟨.inl hpos, not_not.mp hactive, ?_, ?_⟩
                · rw [hseq]
                  exact not_not.mp hseq'
                · rw [hrevision, hsame.2, hseq]
              have hnext := @StatusOutcome.acknowledged numberText _ _ requested reported
                (statusReason numberText status "accepted") hanswers ⟨hrequested, hread⟩ halike
              rw [hseq] at hnext
              rw [hsame.2]
              exact hnext

theorem reduceAcknowledged_outcome (hi : PageInvariant numberText state)
    (hnone : ¬0 < state.pendingRequestSeq) (hack : state.acknowledged = true) :
    StatusOutcome numberText state status (reduceAcknowledged numberText state status).state := by
  have hzero : state.pendingRequestSeq = 0 := le_antisymm (not_lt.mp hnone) hi.pendingSafe.2
  have hseq : seqInForce state = state.effectiveRequestSeq := if_neg hnone
  obtain ⟨hpos, hrevisions⟩ := hi.effective hack
  obtain ⟨requested, effective, hrequested, heffective, hinForce⟩ := hi.alike hack
  have hinvalid : ∀ reason, ¬Accepted numberText state status →
      StatusOutcome numberText state status (state.invalidate reason).state :=
    fun reason => .invalidated reason rfl hzero
  unfold reduceAcknowledged
  dsimp only
  split
  · rename_i hother
    refine hinvalid _ fun h => ?_
    rcases hother with hinactive | hother
    · exact hinactive h.1.inForce
    · exact hother (hseq ▸ h.1.requestSeq)
  · rename_i hcurrent
    push Not at hcurrent
    split
    · rename_i hrevision
      refine hinvalid _ fun h => ?_
      rw [h.1.appliedRevision] at hrevision
      cases hrevision
    · rename_i appliedRevision hrevision
      split
      · rename_i hother
        refine hinvalid _ fun h => ?_
        have hsame := h.1.appliedRevision.symm.trans hrevision
        rw [hseq, Option.some.injEq] at hsame
        rcases hother with hnonpos | hne
        · exact absurd hpos (not_lt.mpr (hsame ▸ hnonpos))
        · exact hne (hsame.symm.trans hrevisions.symm)
      · rename_i hsame
        push Not at hsame
        split
        · rename_i message hread
          refine hinvalid _ fun h => ?_
          obtain ⟨requested', reported, hreports, -⟩ := h.2
          rw [hreports.2] at hread
          cases hread
        · rename_i reported hread
          have hequal := controlProfilesEqual_document hread state.effectiveProfile
          split
          · rename_i hdiffers
            refine hinvalid _ fun h => ?_
            obtain ⟨requested', reported', hreports, halike⟩ := h.2
            obtain rfl := Except.ok.inj (hreports.1.symm.trans hrequested)
            obtain rfl := Except.ok.inj (hreports.2.symm.trans hread)
            rw [hequal.mpr ⟨effective, heffective, halike.trans hinForce.symm⟩] at hdiffers
            cases hdiffers
          · rename_i hequals
            obtain ⟨effective', heffective', halike⟩ :=
              hequal.mp (Bool.eq_true_of_not_eq_false hequals)
            obtain rfl := Except.ok.inj (heffective'.symm.trans heffective)
            have hanswers : Answers state status := by
              refine ⟨.inr hack, hcurrent.1, ?_, ?_⟩
              · rw [hseq]
                exact hcurrent.2
              · rw [hrevision, hsame.2, hrevisions, hseq]
            have hnext := @StatusOutcome.acknowledged numberText _ _ requested reported
              (statusReason numberText status
                (if state.reason = "" then "accepted" else state.reason))
              hanswers ⟨hrequested, hread⟩ (halike.trans hinForce)
            rw [hseq] at hnext
            convert hnext using 1
            rw [← hzero, ← hack, hrevisions]

/-- What is not matched is not changed. -/
theorem reducePending_unmatched (h : (reducePending numberText state status).matched = false) :
    (reducePending numberText state status).state = state := by
  unfold reducePending at h ⊢
  split at h
  · rename_i hother
    rw [if_pos hother]
  · dsimp only at h
    split at h
    · cases h
    · split at h
      · cases h
      · split at h
        · cases h
        · split at h
          · cases h
          · split at h <;> cases h

theorem reduceAcknowledged_matched :
    (reduceAcknowledged numberText state status).matched = true := by
  unfold reduceAcknowledged
  dsimp only
  split
  · rfl
  · split
    · rfl
    · split
      · rfl
      · split
        · rfl
        · split <;> rfl

theorem reduce_unmatched
    (h : (reduceControlProfileStatus numberText state status).matched = false) :
    (reduceControlProfileStatus numberText state status).state = state := by
  unfold reduceControlProfileStatus at h ⊢
  dsimp only at h ⊢
  split at h
  · rename_i hpending
    rw [if_pos hpending]
    exact reducePending_unmatched h
  · rename_i hnone
    rw [if_neg hnone]
    split at h
    · rw [reduceAcknowledged_matched] at h
      cases h
    · rename_i hno
      rw [if_neg hno]

theorem applyControlProfileStatus_state (state : ControlProfileState) (value : Json) :
    (applyControlProfileStatus numberText state value).2 =
      (reduceControlProfileStatus numberText state value).state := by
  unfold applyControlProfileStatus
  dsimp only
  split
  · rfl
  · rename_i hunmatched
    exact (reduce_unmatched (Bool.eq_false_of_not_eq_true hunmatched)).symm

/-- A message that is no object is read as an empty one. -/
theorem StatusOutcome.of_empty {value : Json} {next : ControlProfileState}
    (hvalue : ¬IsObjectValue value)
    (h : StatusOutcome numberText state (.object []) next) :
    StatusOutcome numberText state value next := by
  have hnull : property value "accepted" = .null := by
    cases value with
    | object members => exact absurd trivial hvalue
    | _ => rfl
  cases h with
  | acknowledged requested reported reason hanswers hreports halike => cases hanswers.inForce.1
  | refused _ hno hacknowledged hrequested hpending =>
    refine .refused _ (fun h => ?_) hacknowledged hrequested hpending
    have haccepted := h.1.inForce.1
    rw [hnull] at haccepted
    cases haccepted

/-- What the page makes of a status message. -/
theorem apply_outcome (hi : PageInvariant numberText state) (value : Json) :
    StatusOutcome numberText state value (applyControlProfileStatus numberText state value).2 := by
  have hread : ∀ status, StatusOutcome numberText state status
      (if IsSafeInteger state.pendingRequestSeq ∧ 0 < state.pendingRequestSeq then
        reducePending numberText state status
      else if state.acknowledged then reduceAcknowledged numberText state status
      else ⟨state, false, false⟩ : ReducedStatus).state := by
    intro status
    split
    · rename_i hpending
      exact reducePending_outcome hpending.2 (hi.pending hpending.2)
    · rename_i hnone
      have hnone' : ¬0 < state.pendingRequestSeq := fun hpos => hnone ⟨hi.pendingSafe.1, hpos⟩
      split
      · rename_i hack
        exact reduceAcknowledged_outcome hi hnone' hack
      · rename_i hno
        refine .refused _ (fun h => ?_) (Bool.eq_false_of_not_eq_true hno) rfl (.inr rfl)
        rcases h.1.asked with hpos | hack
        · exact hnone' hpos
        · exact hno hack
  rw [applyControlProfileStatus_state]
  by_cases hvalue : IsObjectValue value
  · have hstatus := hread value
    unfold reduceControlProfileStatus
    rw [if_pos hvalue]
    exact hstatus
  · refine .of_empty hvalue ?_
    have hstatus := hread (.object [])
    unfold reduceControlProfileStatus
    rw [if_neg hvalue]
    exact hstatus

theorem apply_acknowledged_iff (hi : PageInvariant numberText state) (value : Json) :
    (applyControlProfileStatus numberText state value).2.acknowledged = true ↔
      Accepted numberText state value := by
  have houtcome := apply_outcome hi value
  generalize (applyControlProfileStatus numberText state value).2 = next at houtcome ⊢
  cases houtcome with
  | acknowledged requested reported reason hanswers hreports halike =>
    exact iff_of_true rfl ⟨hanswers, requested, reported, hreports, halike⟩
  | refused _ hno hacknowledged hrequested hpending =>
    exact iff_of_false (fun hack => Bool.noConfusion (hacknowledged.symm.trans hack)) hno

end

/-! ## Runs of the page -/

section
variable {numberText : ℚ → String} {state next : ControlProfileState}

theorem PageInvariant.of_idle (hpending : IsSafeInteger next.pendingRequestSeq ∧
    0 ≤ next.pendingRequestSeq) (hno : next.acknowledged = false) :
    PageInvariant numberText next :=
  ⟨hpending, fun _ => hno, fun hack => Bool.noConfusion (hno.symm.trans hack),
    fun hack => Bool.noConfusion (hno.symm.trans hack)⟩

theorem PageInvariant.seqInForce_pos (hi : PageInvariant numberText state)
    (hasked : 0 < state.pendingRequestSeq ∨ state.acknowledged = true) : 0 < seqInForce state := by
  unfold seqInForce
  split
  · assumption
  · rename_i hnone
    exact (hi.effective (hasked.resolve_left hnone)).1

theorem isSafeInteger_zero : IsSafeInteger ((0 : ℤ) : ℚ) := by decide

theorem PageInvariant.outcome (hi : PageInvariant numberText state) {status : Json}
    (h : StatusOutcome numberText state status next) : PageInvariant numberText next := by
  cases h with
  | acknowledged requested reported reason hanswers hreports halike =>
    refine ⟨⟨isSafeInteger_zero, le_rfl⟩, fun hpos => absurd hpos (lt_irrefl 0), fun _ => ?_,
      fun _ => ⟨requested, reported, hreports.1, ?_, halike⟩⟩
    · exact ⟨hi.seqInForce_pos hanswers.asked, rfl⟩
    · exact normalizeControlProfile_document (normalizeControlProfile_valid hreports.2)
  | refused _ hno hacknowledged hrequested hpending =>
    refine .of_idle ?_ hacknowledged
    rcases hpending with hzero | hsame
    · rw [hzero]
      exact ⟨isSafeInteger_zero, le_rfl⟩
    · rw [hsame]
      exact hi.pendingSafe

/-- A profile that can be read is there. -/
theorem truthy_of_normalized {value : Json} {profile : ControlProfile}
    (h : normalizeControlProfile numberText value = .ok profile) : truthy value = true := by
  rw [normalizeControlProfile, ite_error_eq_ok_iff] at h
  have hobject := not_not.mp h.1
  cases value with
  | object members => rfl
  | array elements => rfl
  | _ => exact hobject.elim

theorem updateVehicleDefaults_acknowledged (hi : PageInvariant numberText state)
    (hack : state.acknowledged = true) (profile : ControlProfile) :
    updateVehicleDefaults state profile = state := by
  obtain ⟨requested, effective, hrequested, -, -⟩ := hi.alike hack
  exact if_pos (truthy_of_normalized hrequested)

theorem updateVehicleDefaults_frame (state : ControlProfileState) (profile : ControlProfile) :
    ∃ requested, updateVehicleDefaults state profile =
      { state with requestedProfile := requested } := by
  unfold updateVehicleDefaults
  split
  · exact ⟨state.requestedProfile, rfl⟩
  · exact ⟨profile.document, rfl⟩

theorem prepareControlProfile_cases (numberText : ℚ → String) (state : ControlProfileState)
    (value : Json) (requestSeq : ℤ) :
    prepareControlProfile numberText state value requestSeq = state ∨
      (prepareControlProfile numberText state value requestSeq).acknowledged = false ∧
        (prepareControlProfile numberText state value requestSeq).pendingRequestSeq = requestSeq ∧
        IsSafeInteger requestSeq ∧ 0 < requestSeq := by
  unfold prepareControlProfile
  split
  · exact .inl rfl
  · split
    · rename_i hseq
      exact .inr ⟨rfl, rfl, hseq⟩
    · exact .inl rfl

theorem pageInvariant_step (hi : PageInvariant numberText state) (e : PageEvent) :
    PageInvariant numberText (pageRespond numberText state e).2 := by
  cases e with
  | prepared value requestSeq =>
    change PageInvariant numberText (prepareControlProfile numberText state value requestSeq)
    rcases prepareControlProfile_cases numberText state value requestSeq with
      hsame | ⟨hno, hpending, hsafe, hpos⟩
    · rw [hsame]
      exact hi
    · refine .of_idle ?_ hno
      rw [hpending]
      exact ⟨hsafe, hpos.le⟩
  | status value => exact hi.outcome (apply_outcome hi value)
  | vehicleDefaults profile =>
    change PageInvariant numberText (updateVehicleDefaults state profile)
    cases hack : state.acknowledged with
    | true =>
      rw [updateVehicleDefaults_acknowledged hi hack]
      exact hi
    | false =>
      obtain ⟨requested, hframe⟩ := updateVehicleDefaults_frame state profile
      rw [hframe]
      exact .of_idle hi.pendingSafe hack
  | reset => exact .of_idle ⟨isSafeInteger_zero, le_rfl⟩ rfl

theorem pageInvariant_init : PageInvariant numberText {} :=
  .of_idle ⟨isSafeInteger_zero, le_rfl⟩ rfl

/-- Nothing but a status message acknowledges. -/
theorem acknowledged_by_status {e : PageEvent} (hno : state.acknowledged = false)
    (hack : (pageRespond numberText state e).2.acknowledged = true) :
    ∃ value, e = .status value := by
  cases e with
  | prepared value requestSeq =>
    rcases prepareControlProfile_cases numberText state value requestSeq with
      hsame | ⟨hidle, -⟩
    · exact Bool.noConfusion (hno.symm.trans ((congrArg _ hsame).symm.trans hack))
    · exact Bool.noConfusion (hidle.symm.trans hack)
  | status value => exact ⟨value, rfl⟩
  | vehicleDefaults profile =>
    obtain ⟨requested, hframe⟩ := updateVehicleDefaults_frame state profile
    have hsame : (updateVehicleDefaults state profile).acknowledged = state.acknowledged := by
      rw [hframe]
    exact Bool.noConfusion (hno.symm.trans (hsame.symm.trans hack))
  | reset => cases hack

theorem showsRequested_idle (hno : next.acknowledged = false) : ShowsRequested numberText next :=
  fun hack => Bool.noConfusion (hno.symm.trans hack)

/-- What keeps the page showing the requested profile. -/
theorem showsRequested_step (hi : PageInvariant numberText state)
    (hshown : ShowsRequested numberText state) {e : PageEvent}
    (hkeeps : ¬ForgetsParkingDelay numberText ((pageMachine numberText).observe state e)) :
    ShowsRequested numberText (pageRespond numberText state e).2 := by
  cases e with
  | prepared value requestSeq =>
    change ShowsRequested numberText (prepareControlProfile numberText state value requestSeq)
    rcases prepareControlProfile_cases numberText state value requestSeq with hsame | ⟨hno, -⟩
    · rw [hsame]
      exact hshown
    · exact showsRequested_idle hno
  | status value =>
    have houtcome := apply_outcome hi value
    change ShowsRequested numberText (applyControlProfileStatus numberText state value).2
    generalize (applyControlProfileStatus numberText state value).2 = next at houtcome ⊢
    cases houtcome with
    | acknowledged requested reported reason hanswers hreports halike =>
      have hparking : reported.parkingIdleTimeoutMs = requested.parkingIdleTimeoutMs := by
        by_contra hne
        exact hkeeps ⟨value, rfl, hanswers, requested, reported, hreports, halike, hne⟩
      obtain rfl := halike.eq hparking
      have hread := @normalizeControlProfile_document numberText _
        (normalizeControlProfile_valid hreports.2)
      exact fun _ => ⟨reported, hreports.1, hread, hi.seqInForce_pos hanswers.asked, rfl⟩
    | refused _ hno hacknowledged hrequested hpending => exact showsRequested_idle hacknowledged
  | vehicleDefaults profile =>
    change ShowsRequested numberText (updateVehicleDefaults state profile)
    cases hack : state.acknowledged with
    | true =>
      rw [updateVehicleDefaults_acknowledged hi hack]
      exact hshown
    | false =>
      obtain ⟨requested, hframe⟩ := updateVehicleDefaults_frame state profile
      rw [hframe]
      exact showsRequested_idle hack
  | reset => exact showsRequested_idle rfl

/-- A step of a page that shows the requested profile obeys the law unless it forgets. -/
theorem acknowledgementLaw_iff (hi : PageInvariant numberText state)
    (hshown : ShowsRequested numberText state) (e : PageEvent) :
    AcknowledgementLaw numberText ((pageMachine numberText).observe state e) ↔
      ¬ForgetsParkingDelay numberText ((pageMachine numberText).observe state e) := by
  constructor
  · rintro hlaw ⟨value, hevent, hanswers, requested, reported, hreports, halike, hne⟩
    obtain rfl : e = .status value := hevent
    have hack := (apply_acknowledged_iff hi value).mpr
      ⟨hanswers, requested, reported, hreports, halike⟩
    obtain ⟨-, same, hrequested, hreported⟩ := hlaw.confirmed value rfl hack
    obtain rfl := Except.ok.inj (hrequested.symm.trans hreports.1)
    obtain rfl := Except.ok.inj (hreported.symm.trans hreports.2)
    exact hne rfl
  · intro hkeeps
    refine ⟨?_, fun hno hack => acknowledged_by_status hno hack,
      showsRequested_step hi hshown hkeeps⟩
    intro value hevent hack
    obtain rfl : e = .status value := hevent
    obtain ⟨hanswers, requested, reported, hreports, halike⟩ :=
      (apply_acknowledged_iff hi value).mp hack
    have hparking : reported.parkingIdleTimeoutMs = requested.parkingIdleTimeoutMs := by
      by_contra hne
      exact hkeeps ⟨value, rfl, hanswers, requested, reported, hreports, halike, hne⟩
    obtain rfl := halike.eq hparking
    exact ⟨hanswers, reported, hreports⟩

/-- The acknowledgements of every run, and when they are right. -/
theorem acknowledgement_iff {h : History ControlProfileState PageEvent Bool}
    (hr : Run (pageMachine numberText) h state) :
    Steps (AcknowledgementLaw numberText) h ↔
      Steps (fun st => ¬ForgetsParkingDelay numberText st) h := by
  refine hr.always_iff fun past s e hpast hkeeps => ?_
  have hlink := Run.link_always
    (R := fun _ s => PageInvariant numberText s ∧ ShowsRequested numberText s)
    ⟨pageInvariant_init, showsRequested_idle rfl⟩
    (fun _ _ e hlink hkeeps => ⟨pageInvariant_step hlink.1 e,
      showsRequested_step hlink.1 hlink.2 hkeeps⟩) hpast hkeeps
  exact acknowledgementLaw_iff hlink.1 hlink.2 e

end

/-! ## A vehicle that answers -/

def benchProfile : ControlProfile :=
  { parkingIdleTimeoutMs := 0
    targetSpeedKph := 10
    maxMotorTorqueNm := 100
    maxBrakePressureBar := 50
    serviceBrakePressureBar := 20
    hardBrakePressureBar := 50
    maxSteeringAngleDeg := 15
    speedPidKp := 1
    speedPidKi := 0
    speedPidKd := 0
    speedPidDerivativeFilterTauMs := 0
    speedPidMaxDtMs := 100
    motorTorqueRiseRateNmPerS := 100 }

def acceptedStatus (profile : ControlProfile) : Json :=
  .object [("accepted", .boolean true), ("active", .boolean true),
    ("last_request_seq", .integer 7), ("applied_revision", .integer 7),
    ("effective_profile", profile.document)]

def confirmedEvents (reported : ControlProfile) : List PageEvent :=
  [.prepared benchProfile.document 7, .status (acceptedStatus reported)]

theorem acknowledgement_iff_confirmed :
    let run := (pageMachine fun _ => "").play (confirmedEvents benchProfile)
    run.2.acknowledged = true ∧ (Steps (AcknowledgementLaw fun _ => "") run.1 ↔
      Steps (fun st => ¬ForgetsParkingDelay (fun _ => "") st) run.1) :=
  ⟨by decide +kernel, acknowledgement_iff (Run.play _ _)⟩

/-- A vehicle that parks a second later than it was asked to is shown as confirmed. -/
theorem acknowledgement_fails :
    ¬∀ (numberText : ℚ → String) (h : History ControlProfileState PageEvent Bool)
      (state : ControlProfileState),
      Run (pageMachine numberText) h state → Steps (AcknowledgementLaw numberText) h := by
  intro hall
  let later : ControlProfile := { benchProfile with parkingIdleTimeoutMs := 1000 }
  let asked := prepareControlProfile (fun _ => "") {} benchProfile.document 7
  have hlaw := (hall (fun _ => "") _ _ (Run.play _ (confirmedEvents later))).1
  have hack :
      (applyControlProfileStatus (fun _ => "") asked (acceptedStatus later)).2.acknowledged =
        true := by decide +kernel
  have hconfirms : Confirms (fun _ => "") asked (acceptedStatus later) :=
    hlaw.confirmed _ rfl hack
  obtain ⟨-, requested, hrequested, hreported⟩ := hconfirms
  have hasked :
      normalizeControlProfile (fun _ => "") asked.requestedProfile = .ok benchProfile := by
    decide +kernel
  have hlater : normalizeControlProfile (fun _ => "") (property (acceptedStatus later)
      "effective_profile") = .ok later := by decide +kernel
  have hsame : benchProfile = later :=
    (Except.ok.inj (hasked.symm.trans hrequested)).trans
      (Except.ok.inj (hreported.symm.trans hlater))
  exact absurd (congrArg ControlProfile.parkingIdleTimeoutMs hsame) (by decide)

end MineTeleop.Web
