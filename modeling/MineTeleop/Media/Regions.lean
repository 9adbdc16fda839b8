import MineTeleop.Media.CriticalCamera
import MineTeleop.Media.Events

/-!
# What a region under the mutex leaves

A region that starts no service leaves the flags of the other threads as they are, publishes
nothing, and has nothing to ask of an adapter once the service is gone.

* `Settled.refl`, `Settled.trans` and one lemma a function: `settled_region` for all of them;
* `shut_stopControl`, `shut_stopPipeline`: who closes the service leaves none.
-/

namespace MineTeleop.Media

open Bridge (StopContext)
open Programs
open Service
open Stack (VehicleConfig)

variable {σ : Type}

/-- No service is published, and none is left. -/
def Shut (r : VehicleMediaRuntime σ) : Prop :=
  r.controlServiceStarted = false ∧ r.controlService = none

structure Settled (r r' : VehicleMediaRuntime σ) : Prop where
  stopRequested : r'.stopRequested = r.stopRequested
  controlInhibited : r'.controlInhibited = r.controlInhibited
  started : r'.controlServiceStarted = true → r.controlServiceStarted = true
  shut : Shut r → Shut r' ∧ r'.trace = r.trace

section
variable {r r' r'' : VehicleMediaRuntime σ} {w : World σ}

theorem Settled.refl (r : VehicleMediaRuntime σ) : Settled r r :=
  ⟨rfl, rfl, fun h => h, fun h => ⟨h, rfl⟩⟩

theorem Settled.trans (h : Settled r r') (h' : Settled r' r'') : Settled r r'' := by
  refine ⟨h'.stopRequested.trans h.stopRequested, h'.controlInhibited.trans h.controlInhibited,
    fun hstarted => h.started (h'.started hstarted), fun hshut => ?_⟩
  obtain ⟨hshut', htrace⟩ := h.shut hshut
  obtain ⟨hshut'', htrace'⟩ := h'.shut hshut'
  exact ⟨hshut'', htrace'.trans htrace⟩

/-- The fields that the other threads wait for. -/
def settledFields (r : VehicleMediaRuntime σ) :
    Bool × Bool × Bool × Option (World σ) × List Observation :=
  (r.stopRequested, r.controlInhibited, r.controlServiceStarted, r.controlService, r.trace)

theorem Settled.of_same (h : settledFields r' = settledFields r) : Settled r r' := by
  obtain ⟨hstop, hinhibited, hstarted, hservice, htrace⟩ :
      r'.stopRequested = r.stopRequested ∧ r'.controlInhibited = r.controlInhibited ∧
      r'.controlServiceStarted = r.controlServiceStarted ∧
      r'.controlService = r.controlService ∧ r'.trace = r.trace := by
    simpa [settledFields] using h
  refine ⟨hstop, hinhibited, fun h => hstarted ▸ h, fun h => ⟨?_, htrace⟩⟩
  rw [Shut, hstarted, hservice]
  exact h

/-- Where there is a service, nothing is said of one that is gone. -/
theorem Settled.of_service (hw : r.controlService = some w)
    (hstop : r'.stopRequested = r.stopRequested)
    (hinhibited : r'.controlInhibited = r.controlInhibited)
    (hstarted : r'.controlServiceStarted = true → r.controlServiceStarted = true) :
    Settled r r' := by
  refine ⟨hstop, hinhibited, hstarted, fun hshut => ?_⟩
  rw [hshut.2] at hw
  cases hw

theorem settled_withService (hw : r.controlService = some w) (w' : World σ) :
    Settled r (r.withService w') :=
  .of_service hw rfl rfl fun h => h

theorem settled_invalidate (r : VehicleMediaRuntime σ) :
    Settled r r.invalidateNativeControlTrustedGear :=
  .of_same rfl

theorem settled_noteAdmission (r : VehicleMediaRuntime σ) (ready : Bool) :
    Settled r (r.noteAdmission ready) := by
  cases ready <;> exact .of_same rfl

variable (adapter : VehicleAdapter σ)

theorem settled_close (r : VehicleMediaRuntime σ) (context : StopContext) :
    Settled r (r.close adapter context) := by
  unfold VehicleMediaRuntime.close
  split
  · exact .refl r
  · rename_i w hw
    exact settled_withService hw _

theorem settled_reset (r : VehicleMediaRuntime σ) : Settled r (r.reset adapter) := by
  apply (settled_close adapter r VehicleMediaRuntime.sessionLost).trans
  exact ⟨rfl, rfl, fun h => (by cases h), fun _ => ⟨⟨rfl, rfl⟩, rfl⟩⟩

theorem settled_closeControlService (r : VehicleMediaRuntime σ) (context : StopContext) :
    Settled r (r.closeControlService adapter context) := by
  unfold VehicleMediaRuntime.closeControlService
  split
  · exact (settled_close adapter r context).trans (settled_reset adapter _)
  · exact settled_reset adapter r

theorem settled_sendVcuHandshakeStatus (r : VehicleMediaRuntime σ) :
    Settled r (r.sendVcuHandshakeStatus adapter) := by
  unfold VehicleMediaRuntime.sendVcuHandshakeStatus
  split
  · exact .refl r
  split
  · exact settled_noteAdmission r false
  rename_i w hw
  split
  · exact settled_noteAdmission r false
  extract_lets answer
  have hasked := settled_withService hw answer.2
  split
  · exact hasked.trans (settled_noteAdmission _ _)
  · exact hasked.trans (settled_noteAdmission _ _)

theorem settled_stopControl (r : VehicleMediaRuntime σ) (context : StopContext) :
    Settled r (r.stopControl adapter context) :=
  ((settled_invalidate r).trans (settled_closeControlService adapter _ context)).trans
    (settled_sendVcuHandshakeStatus adapter _)

/-! ## The regions -/

theorem settled_receiveApply (hw : r.controlService = some w) (w' : World σ)
    (command : ControlCommand) (gear : Gear) (intentFresh : Bool) (utcMs monotonicMs : ℤ) :
    Settled r (r.receiveApply adapter w' command gear intentFresh utcMs monotonicMs).2 := by
  unfold VehicleMediaRuntime.receiveApply
  extract_lets answer opened r₁ frozen
  have hnoted : Settled r r₁ := .of_service hw rfl rfl fun h => h
  split
  · split
    · split
      · exact hnoted.trans (.of_same rfl)
      · exact hnoted
    · exact hnoted
  · split
    · exact hnoted.trans (.of_same rfl)
    · exact hnoted

theorem settled_handleOrdinary (hw : r.controlService = some w) (message : NativeControlMessage)
    (checked : DriverCommand) (utcMs monotonicMs : ℤ) :
    Settled r (r.handleOrdinary adapter w message checked utcMs monotonicMs).2 := by
  unfold VehicleMediaRuntime.handleOrdinary
  extract_lets answer r₁
  have hasked : Settled r r₁ := settled_withService hw answer.2
  split
  · exact hasked
  · split
    · exact hasked.trans (settled_noteAdmission _ _)
    split
    · exact hasked.trans (settled_noteAdmission _ _)
    split
    · exact hasked
    · exact hasked.trans (settled_receiveApply adapter (r := r₁) rfl _ _ _ _ _ _)

theorem settled_handleControlMessage (r : VehicleMediaRuntime σ) (message : NativeControlMessage)
    (utcMs monotonicMs : ℤ) :
    Settled r (r.handleControlMessage adapter message utcMs monotonicMs).2 := by
  unfold VehicleMediaRuntime.handleControlMessage
  split
  · exact .refl r
  split
  · exact .refl r
  split
  · exact .refl r
  rename_i w hopen
  have hw := openService_ok hopen
  split
  · exact settled_receiveApply adapter hw _ _ _ _ _ _
  split
  · exact .refl r
  · exact settled_handleOrdinary adapter hw _ _ _ _

theorem settled_handleSessionProfile (r : VehicleMediaRuntime σ)
    (request : SessionControlProfileRequest) (utcMs : ℤ) :
    Settled r (r.handleSessionProfile adapter request utcMs) := by
  unfold VehicleMediaRuntime.handleSessionProfile
  split
  · exact .refl r
  rename_i w hopen
  extract_lets answer
  have hasked := settled_withService (openService_ok hopen) answer.2
  split
  · split
    · exact hasked.trans (settled_invalidate _)
    · exact hasked
  · exact hasked

theorem settled_handleHandshake (r : VehicleMediaRuntime σ) (action : String) :
    Settled r (r.handleHandshake adapter action) := by
  unfold VehicleMediaRuntime.handleHandshake
  split
  · exact settled_sendVcuHandshakeStatus adapter r
  rename_i w hopen
  extract_lets answer r₁ _ reported
  have hanswered : Settled r r₁ := settled_withService (openService_ok hopen) answer.2
  split
  · exact hanswered
  extract_lets r₂ r₃
  have hforgotten : Settled r₁ r₂ := by
    show Settled r₁ (if _ then _ else _)
    split
    · exact settled_invalidate r₁
    · exact .refl r₁
  have hreported : Settled r₂ r₃ := by
    have hw : r₂.controlService = some answer.2 := by
      show (if _ then _ else _ : VehicleMediaRuntime σ).controlService = _
      split <;> rfl
    exact settled_withService hw reported
  have hlogged := (hanswered.trans hforgotten).trans hreported
  split
  · exact hlogged
  · exact hlogged.trans (settled_sendVcuHandshakeStatus adapter r₃)

theorem settled_tickControlService (r : VehicleMediaRuntime σ) (utcMs : ℤ) :
    Settled r (r.tickControlService adapter utcMs) := by
  unfold VehicleMediaRuntime.tickControlService
  split
  · exact .refl r
  split
  · exact .refl r
  rename_i w hw
  extract_lets answer r₁
  have hticked : Settled r r₁ := settled_withService hw answer.2
  split
  · have hclosed := settled_closeControlService adapter r₁ ⟨.softwareFault, .vcuStateFault⟩
    exact (hticked.trans hclosed).trans
      ((settled_invalidate _).trans (settled_sendVcuHandshakeStatus adapter _))
  · split
    · exact (hticked.trans (settled_sendVcuHandshakeStatus adapter r₁)).trans (.of_same rfl)
    · exact hticked

theorem settled_onControlChannelClose (r : VehicleMediaRuntime σ) :
    Settled r (r.onControlChannelClose adapter) := by
  unfold VehicleMediaRuntime.onControlChannelClose
  have hclosed : Settled r r.closeControlLink := .of_same rfl
  split
  · exact .refl r
  split
  · exact hclosed.trans (settled_closeControlService adapter r.closeControlLink _)
  · exact hclosed

theorem settled_region (createAdapter : VehicleConfig → Except Failure σ)
    (r₀ : VehicleMediaRuntime σ) {e : Event} (he : e.isRegion = true) :
    Settled r₀.unobserved (r₀.respond adapter createAdapter e).2 := by
  unfold VehicleMediaRuntime.respond
  extract_lets r
  cases e with
  | nativeControlMessage message utcMs monotonicMs =>
    exact settled_handleControlMessage adapter r message utcMs monotonicMs
  | controlTick utcMs => exact settled_tickControlService adapter r utcMs
  | sessionControlProfile request utcMs =>
    exact settled_handleSessionProfile adapter r request utcMs
  | vcuHandshakeCommand action => exact settled_handleHandshake adapter r action
  | transportStarted =>
    show Settled r (if _ then _ else _)
    split
    · exact .refl r
    · exact .of_same rfl
  | channelOpened =>
    show Settled r (if _ then _ else _)
    split
    · exact .refl r
    · exact .of_same rfl
  | channelClosed => exact settled_onControlChannelClose adapter r
  | statusSent => exact settled_sendVcuHandshakeStatus adapter r
  | serviceStarted start => cases he
  | sessionEntered inherited => cases he
  | attemptPrepared => cases he
  | stopRequested => cases he
  | pipelineStopped => cases he
  | pipelineFaulted => cases he
  | criticalCameraFailed => cases he
  | controlInhibited => cases he

/-! ## Who closes the service -/

theorem shut_reset (r : VehicleMediaRuntime σ) : Shut (r.reset adapter) := ⟨rfl, rfl⟩

theorem shut_closeControlService (r : VehicleMediaRuntime σ) (context : StopContext) :
    Shut (r.closeControlService adapter context) := ⟨rfl, rfl⟩

theorem shut_stopControl (r : VehicleMediaRuntime σ) (context : StopContext) :
    Shut (r.stopControl adapter context) :=
  ((settled_sendVcuHandshakeStatus adapter _).shut
    (shut_closeControlService adapter r.invalidateNativeControlTrustedGear context)).1

theorem settled_stopPipeline (r : VehicleMediaRuntime σ) :
    Settled { r with stopRequested := true } (r.stopPipeline adapter) := by
  have hlink : Settled { r with stopRequested := true }
      { r.invalidateNativeControlTrustedGear with
        stopRequested := true
        controlLinkOpen := false } := .of_same rfl
  exact hlink.trans (settled_closeControlService adapter _ _)

end

end MineTeleop.Media
