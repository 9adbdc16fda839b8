import MineTeleop.Media.Inhibition

/-!
# Control under watched cameras

Proved here, for every order of what the threads do and across every runtime that the loop builds:

* `driving_is_watched`: a pass of the watchdog that begins while a service is published, and neither
  inhibits nor finds a flag up, leaves every critical camera in use, with a frame, or the start of
  its pipeline, no older than the timeout;
* `grace_is_spent_once`: without frames a session is let pass for fifteen seconds from the first
  look in all, and not after its first start or an inhibition.
-/

namespace MineTeleop.Media

open Programs
open Runs
open Service

variable {σ : Type} {setup : MediaSetup σ} {p : VehicleMediaLoop σ}

/-! ## Lanes -/

/-- A critical lane that is given up has inhibited control before. -/
structure Lane.Tracked (inhibited : Bool) (lane : Lane) : Prop where
  noted : lane.camera.criticalForControl = true →
    (lane.disabled = true ∨ ∃ action, lane.thread = .deciding action) → inhibited = true
  started : lane.thread ≠ .idle → 0 < lane.pipelineStartedSteadyMs

section
variable {lane : Lane} {inhibited : Bool}

theorem Lane.Tracked.raised (h : lane.Tracked inhibited) : lane.Tracked true :=
  ⟨fun _ _ => rfl, h.started⟩

theorem tracked_fails (h : lane.Tracked inhibited) (hcapturing : lane.thread = .capturing)
    (retryable : Bool) : (lane.fails retryable).Tracked inhibited := by
  have hstarted := h.started (by rw [hcapturing]; exact fun hno => (by cases hno))
  refine ⟨fun hcritical hgone => ?_, fun _ => hstarted⟩
  change lane.camera.criticalForControl = true at hcritical
  rcases hgone with hdisabled | ⟨action, hdeciding⟩
  · exact h.noted hcritical (.inl hdisabled)
  · simp only [Lane.fails, cameraFailureDecision, hcritical] at hdeciding
    split at hdeciding
    · cases hdeciding
    · rename_i decision hdecision
      split at hdecision
      · cases hdecision
      · obtain rfl := Except.ok.inj hdecision
        simp at hdeciding

theorem tracked_decides (h : lane.Tracked inhibited) : lane.decides.Tracked inhibited := by
  unfold Lane.decides
  split
  · rename_i hthread
    refine ⟨fun hcritical _ => h.noted hcritical (.inr ⟨_, hthread⟩), fun _ => ?_⟩
    exact h.started (by rw [hthread]; exact fun hno => (by cases hno))
  · rename_i hthread
    refine ⟨fun hcritical _ => h.noted hcritical (.inr ⟨_, hthread⟩), fun _ => ?_⟩
    exact h.started (by rw [hthread]; exact fun hno => (by cases hno))
  · exact h

/-- Only with the flag up does a lane come back from an inhibition. -/
theorem tracked_moveInhibition (h : lane.Tracked inhibited) {next : Option Inhibition}
    (hnext : next = none → inhibited = true) :
    ({ lane with thread := lane.thread.moveInhibition next } : Lane).Tracked inhibited := by
  cases next with
  | none => exact ⟨fun _ _ => hnext rfl, fun hthread => h.started fun hidle => hthread (by
      show lane.thread.moveInhibition none = .idle
      rw [hidle]
      rfl)⟩
  | some stage =>
    refine ⟨fun hcritical hgone => ?_, fun hthread => h.started fun hidle => hthread ?_⟩
    · apply h.noted hcritical
      rcases hgone with hdisabled | ⟨action, hdeciding⟩
      · exact .inl hdisabled
      · refine .inr ⟨action, ?_⟩
        change lane.thread.moveInhibition (some stage) = .deciding action at hdeciding
        cases hthread : lane.thread with
        | deciding before =>
          rw [hthread] at hdeciding
          exact hdeciding
        | _ =>
          rw [hthread] at hdeciding
          cases hdeciding
    · show lane.thread.moveInhibition (some stage) = .idle
      rw [hidle]
      rfl

theorem mem_modify {l : List Lane} {i : ℕ} {f : Lane → Lane} (h : lane ∈ l.modify i f) :
    lane ∈ l ∨ ∃ before ∈ l, lane = f before := by
  induction l generalizing i with
  | nil => simp at h
  | cons first l ih =>
    cases i with
    | zero =>
      rcases List.mem_cons.mp h with rfl | hmem
      · exact .inr ⟨first, List.mem_cons_self, rfl⟩
      · exact .inl (List.mem_cons_of_mem _ hmem)
    | succ i =>
      rcases List.mem_cons.mp h with rfl | hmem
      · exact .inl List.mem_cons_self
      · rcases ih hmem with hold | ⟨before, hbefore, heq⟩
        · exact .inl (List.mem_cons_of_mem _ hold)
        · exact .inr ⟨before, List.mem_cons_of_mem _ hbefore, heq⟩

end

/-! ## The invariant -/

/-- Every lane has been started. -/
def RunThread.Watching : RunThread → Prop
  | .looping | .enforcing _ _ | .inhibiting _ => True
  | _ => False

structure Tracked (p : VehicleMediaLoop σ) : Prop where
  clock : 0 < p.steadyMs
  lanes : ∀ lane ∈ p.lanes, lane.Tracked p.runtime.controlInhibited
  looped : p.thread.Watching → ∀ lane ∈ p.lanes, lane.thread ≠ .idle
  started : p.runtime.controlServiceStarted = true → p.latch.armed = true
  opening : ∀ start, p.start = some (.opening start) → p.latch.armed = true
  grace : ∀ t ∈ p.latch.startupStartedMs, t ≤ p.steadyMs

section

theorem Tracked.withRuntime (h : Tracked p) {r : VehicleMediaRuntime σ}
    (hinhibited : r.controlInhibited = p.runtime.controlInhibited)
    (hstarted : r.controlServiceStarted = true → p.runtime.controlServiceStarted = true) :
    Tracked { p with runtime := r } := by
  refine ⟨h.clock, fun lane hlane => ?_, h.looped, fun hr => h.started (hstarted hr), h.opening,
    h.grace⟩
  show lane.Tracked r.controlInhibited
  rw [hinhibited]
  exact h.lanes lane hlane

theorem Tracked.withThread (h : Tracked p) {t : RunThread}
    (hlooped : t.Watching → ∀ lane ∈ p.lanes, lane.thread ≠ .idle) :
    Tracked { p with thread := t } :=
  ⟨h.clock, h.lanes, hlooped, h.started, h.opening, h.grace⟩

theorem Tracked.onLane (h : Tracked p) (i : ℕ) {f : Lane → Lane}
    (hf : ∀ lane, lane.Tracked p.runtime.controlInhibited →
      (f lane).Tracked p.runtime.controlInhibited ∧
      (lane.thread ≠ .idle → (f lane).thread ≠ .idle)) : Tracked (p.onLane i f) := by
  refine ⟨h.clock, fun lane hlane => ?_, fun hwatching lane hlane => ?_, h.started, h.opening,
    h.grace⟩
  · rcases mem_modify hlane with hold | ⟨before, hbefore, rfl⟩
    · exact h.lanes lane hold
    · exact (hf before (h.lanes before hbefore)).1
  · rcases mem_modify hlane with hold | ⟨before, hbefore, rfl⟩
    · exact h.looped hwatching lane hold
    · exact (hf before (h.lanes before hbefore)).2 (h.looped hwatching before hbefore)

theorem LaneThread.moveInhibition_idle (t : LaneThread) (next : Option Inhibition)
    (h : t ≠ .idle) : t.moveInhibition next ≠ .idle := by
  cases t with
  | idle => exact absurd rfl h
  | inhibiting stage action => cases next <;> exact fun hno => (by cases hno)
  | capturing => exact h
  | deciding action => exact h
  | ended => exact h

theorem Tracked.moveInhibition (h : Tracked p) {thread : ThreadId} (stage : Inhibition)
    (ht : p.inhibition thread = some stage) {next : Option Inhibition}
    (hnext : next = none → p.runtime.controlInhibited = true) :
    Tracked (p.moveInhibition thread next) := by
  cases thread with
  | run =>
    apply h.withThread
    intro _
    apply h.looped
    simp only [VehicleMediaLoop.inhibition] at ht
    cases hthread : p.thread with
    | inhibiting before => trivial
    | _ =>
      rw [hthread] at ht
      cases ht
  | lane i =>
    exact h.onLane i fun lane hlane =>
      ⟨tracked_moveInhibition hlane hnext, lane.thread.moveInhibition_idle next⟩

theorem tracked_beginStop (h : Tracked p) (destroying : Bool) : Tracked (p.beginStop destroying) :=
  ⟨h.clock, h.lanes, fun hno => hno.elim, h.started, h.opening, h.grace⟩

theorem tracked_enterSession (h : Tracked p) (hsound : Sound p) (hthread : p.thread = .constructed)
    (sessionId : String) : Tracked (p.enterSession setup sessionId) := by
  have hbare := hsound.unentered (hsound.constructed hthread)
  unfold VehicleMediaLoop.enterSession
  split
  · exact tracked_beginStop h true
  · rename_i inherited latch hlatch
    refine ⟨h.clock, fun lane hlane => ?_, fun hno => hno.elim, fun hstarted => ?_,
      fun start hstart => ?_, fun t ht => ?_⟩
    · change lane ∈ p.lanes at hlane
      rw [hbare.lanes] at hlane
      cases hlane
    · change p.runtime.controlServiceStarted = true at hstarted
      rw [hbare.shut.1] at hstarted
      cases hstarted
    · change p.start = _ at hstart
      rw [hsound.free_of_bare (by rw [hthread]; trivial)] at hstart
      cases hstart
    · change t ∈ latch.startupStartedMs at ht
      unfold CriticalCameraControlLatch.enterSession at hlatch
      split_ifs at hlatch
      · obtain ⟨-, rfl⟩ := Prod.mk.inj (Except.ok.inj hlatch)
        exact h.grace t ht
      · obtain ⟨-, rfl⟩ := Prod.mk.inj (Except.ok.inj hlatch)
        cases ht

theorem tracked_prepareAttempt (h : Tracked p) : Tracked (p.prepareAttempt setup) := by
  refine ⟨h.clock, fun lane hlane => ?_, fun hno => hno.elim, h.started, h.opening, h.grace⟩
  obtain ⟨camera, -, rfl⟩ := List.mem_map.mp hlane
  refine ⟨fun _ hgone => ?_, fun hno => absurd rfl hno⟩
  rcases hgone with hno | ⟨action, hno⟩ <;> cases hno

theorem tracked_checkGrace (h : Tracked p) (hthread : p.thread = .looping) :
    Tracked (p.checkGrace setup) := by
  have hlooped := h.looped (by rw [hthread]; trivial)
  unfold VehicleMediaLoop.checkGrace
  split
  · exact h
  split
  · exact tracked_beginStop h true
  · rename_i grace latch hgrace
    obtain ⟨-, -, rfl, -⟩ := startupGraceActive_ok hgrace
    refine ⟨h.clock, h.lanes, fun _ => hlooped, h.started, h.opening, fun t ht => ?_⟩
    obtain rfl := Option.some.inj ht
    cases hstartup : p.latch.startupStartedMs with
    | none => exact le_refl p.steadyMs
    | some first => exact h.grace first (by rw [hstartup]; rfl)

theorem tracked_raiseFlag (h : Tracked p) {thread : ThreadId}
    (ht : p.inhibition thread = some .raising) : Tracked (p.raiseFlag thread) := by
  unfold VehicleMediaLoop.raiseFlag
  split
  · rename_i hraised
    exact h.moveInhibition .raising ht fun _ => hraised
  · have hraised : Tracked { p with runtime := { p.runtime with controlInhibited := true } } :=
      ⟨h.clock, fun lane hlane => (h.lanes lane hlane).raised, h.looped, h.started, h.opening,
        h.grace⟩
    exact hraised.moveInhibition .raising ht fun hno => (by cases hno)

theorem tracked_inhibitLatch (h : Tracked p) (hsound : Sound p) {thread : ThreadId}
    (ht : p.inhibition thread = some .latching) : Tracked (p.inhibitLatch thread) := by
  have hentered := hsound.inhibiting ht
  unfold VehicleMediaLoop.inhibitLatch
  rw [inhibit_ok p.latch hentered (hsound.session hentered)]
  have hlatched : Tracked { p with latch := { p.latch with inhibited := true } } :=
    ⟨h.clock, h.lanes, h.looped, h.started, h.opening, h.grace⟩
  exact hlatched.moveInhibition .latching ht fun hno => (by cases hno)

theorem tracked_controlStopped (h : Tracked p) (hsound : Sound p) {thread : ThreadId}
    (ht : p.inhibition thread = some .stopping) :
    Tracked ((p.act setup .criticalCameraFailed).moveInhibition thread none) := by
  have hraised : p.runtime.controlInhibited = true := by
    rcases hsound.raised thread .stopping ht with hno | hraised
    · cases hno
    · exact hraised
  obtain ⟨hshut, hinhibited⟩ := criticalCameraFailed_shut setup p.runtime
  have hstopped : Tracked (p.act setup .criticalCameraFailed) := by
    apply h.withRuntime (hinhibited.trans hraised.symm)
    intro hstarted
    rw [hshut.1] at hstarted
    cases hstarted
  exact hstopped.moveInhibition .stopping ht fun _ => hinhibited

theorem Tracked.withStart (h : Tracked p) {start : Option StartStage}
    (hopening : ∀ s, start = some (.opening s) → p.latch.armed = true) :
    Tracked { p with start := start } :=
  ⟨h.clock, h.lanes, h.looped, h.started, hopening, h.grace⟩

theorem tracked_armStart (h : Tracked p) (start : ControlStart) :
    Tracked (p.armStart setup start) := by
  have hended : Tracked { p with start := none } := h.withStart fun _ hno => (by cases hno)
  unfold VehicleMediaLoop.armStart
  split
  · apply hended.withRuntime (settled_reset setup.adapter p.runtime).controlInhibited
    exact (settled_reset setup.adapter p.runtime).started
  · exact hended
  · rename_i latch hlatch
    obtain ⟨-, rfl⟩ := armForControl_ok hlatch
    exact ⟨h.clock, h.lanes, h.looped, fun _ => rfl, fun _ _ => rfl, h.grace⟩

theorem tracked_openStart (h : Tracked p) {start : ControlStart}
    (hstart : p.start = some (.opening start)) (utcMs : ℤ) :
    Tracked (p.openStart setup start utcMs) :=
  ⟨h.clock, h.lanes, h.looped, fun _ => h.opening start hstart, fun _ hno => (by cases hno),
    h.grace⟩

theorem tracked_afterJoin (h : Tracked p) (destroying : Bool) :
    Tracked (p.afterJoin setup destroying) := by
  unfold VehicleMediaLoop.afterJoin
  split
  · exact ⟨h.clock, fun _ hno => (by cases hno), fun hno => hno.elim, fun hno => (by cases hno),
      fun _ hno => (by cases hno), h.grace⟩
  · exact h.withThread fun hno => hno.elim

/-- What leaves the thread of a lane as it is, or lets it go on. -/
theorem tracked_ite {lane lane' : Lane} {inhibited : Bool} {c : Prop} [Decidable c]
    (h : lane.Tracked inhibited) (h' : c → lane'.Tracked inhibited ∧ lane'.thread ≠ .idle) :
    (if c then lane' else lane).Tracked inhibited ∧
    (lane.thread ≠ .idle → (if c then lane' else lane).thread ≠ .idle) := by
  split
  · rename_i hc
    exact ⟨(h' hc).1, fun _ => (h' hc).2⟩
  · exact ⟨h, id⟩

theorem tracked_move (h : Tracked p) (hsound : Sound p) (e : ThreadEvent) :
    Tracked (p.move setup e) := by
  cases e with
  | elapsed ms =>
    refine ⟨Int.add_pos_of_pos_of_nonneg h.clock (Int.natCast_nonneg ms), h.lanes, h.looped,
      h.started, h.opening, fun t ht => ?_⟩
    have := h.grace t ht
    show t ≤ p.steadyMs + ms
    omega
  | sessionEntered sessionId =>
    simp only [VehicleMediaLoop.move]
    split
    · rename_i hthread
      exact tracked_enterSession h hsound hthread sessionId
    · exact h
  | attemptPrepared =>
    simp only [VehicleMediaLoop.move]
    split
    · exact tracked_prepareAttempt h
    · exact h
  | channelPublished =>
    simp only [VehicleMediaLoop.move]
    split
    · exact ⟨h.clock, h.lanes, h.looped, h.started, h.opening, h.grace⟩
    · exact h
  | laneStarted i =>
    simp only [VehicleMediaLoop.move]
    split
    · apply h.onLane i
      intro lane hlane
      apply tracked_ite hlane
      intro hidle
      refine ⟨⟨fun hcritical hgone => hlane.noted hcritical ?_, fun _ => h.clock⟩,
        fun hno => (by cases hno)⟩
      rcases hgone with hdisabled | ⟨action, hno⟩
      · exact .inl hdisabled
      · cases hno
    · exact h
  | loopEntered =>
    simp only [VehicleMediaLoop.move]
    split
    · rename_i hguard
      exact h.withThread fun _ => hguard.2
    · exact h
  | graceChecked =>
    simp only [VehicleMediaLoop.move]
    split
    · rename_i hthread
      exact tracked_checkGrace h hthread
    · exact h
  | freshnessEnforced =>
    simp only [VehicleMediaLoop.move]
    split
    · rename_i nowMs grace hthread
      have hlooped := h.looped (by rw [hthread]; trivial)
      exact h.withThread fun _ => hlooped
    · exact h
  | flagRaised thread =>
    simp only [VehicleMediaLoop.move]
    split
    · rename_i ht
      exact tracked_raiseFlag h ht
    · exact h
  | latchInhibited thread =>
    simp only [VehicleMediaLoop.move]
    split
    · rename_i ht
      exact tracked_inhibitLatch h hsound ht
    · exact h
  | controlStopped thread =>
    simp only [VehicleMediaLoop.move]
    split
    · rename_i hguard
      exact tracked_controlStopped h hsound hguard.1
    · exact h
  | laneEncoded i =>
    apply h.onLane i
    intro lane hlane
    split
    · exact ⟨hlane, id⟩
    · exact ⟨⟨hlane.noted, hlane.started⟩, id⟩
  | laneFailed i retryable =>
    apply h.onLane i
    intro lane hlane
    apply tracked_ite hlane
    intro hguard
    refine ⟨tracked_fails hlane hguard.1 retryable, ?_⟩
    unfold Lane.fails
    dsimp only
    split
    · exact fun hno => (by cases hno)
    · split <;> exact fun hno => (by cases hno)
  | laneDecided i =>
    apply h.onLane i
    intro lane hlane
    refine ⟨tracked_decides hlane, fun hidle => ?_⟩
    unfold Lane.decides
    split
    · exact fun hno => (by cases hno)
    · exact fun hno => (by cases hno)
    · exact hidle
  | laneEnded i =>
    apply h.onLane i
    intro lane hlane
    apply tracked_ite hlane
    intro hguard
    refine ⟨⟨fun hcritical hgone => hlane.noted hcritical ?_, fun _ => hlane.started ?_⟩,
      fun hno => (by cases hno)⟩
    · rcases hgone with hdisabled | ⟨action, hno⟩
      · exact .inl hdisabled
      · cases hno
    · rw [hguard.1]
      exact fun hno => (by cases hno)
  | startCalled driverId controlToken =>
    simp only [VehicleMediaLoop.move, VehicleMediaLoop.callStart]
    split_ifs
    · exact h
    · exact h
    · exact h
    · exact h
    · exact h.withStart fun _ hno => (by cases hno)
    · exact h
  | cameraChecked =>
    simp only [VehicleMediaLoop.move, VehicleMediaLoop.checkCamera]
    split
    · split
      · exact h
      · apply h.withStart
        intro s hopening
        split at hopening <;> cases hopening
    · exact h
  | startArmed =>
    simp only [VehicleMediaLoop.move]
    split
    · split
      · exact h
      · exact tracked_armStart h _
    · exact h
  | startOpened utcMs =>
    simp only [VehicleMediaLoop.move]
    split
    · rename_i hstart
      exact tracked_openStart h hstart utcMs
    · exact h
  | stopFlagged => exact h.withRuntime rfl fun hr => hr
  | pipelineFaulted =>
    simp only [VehicleMediaLoop.move]
    split
    · have hsettled := settled_stopControl setup.adapter
        { p.runtime.unobserved with stopRequested := true } ⟨.softwareFault, .mediaPipelineFailed⟩
      exact h.withRuntime hsettled.controlInhibited hsettled.started
    · exact h
  | stopBegun destroying =>
    simp only [VehicleMediaLoop.move]
    split
    · exact tracked_beginStop h _
    · exact tracked_beginStop h _
    · exact tracked_beginStop h _
    · exact tracked_beginStop h _
    · exact h
  | pipelineStopped =>
    simp only [VehicleMediaLoop.move]
    split
    · split
      · have hsettled := settled_stopPipeline setup.adapter p.runtime.unobserved
        refine ⟨h.clock, fun lane hlane => ?_, fun hno => hno.elim, fun hstarted => ?_, h.opening,
          h.grace⟩
        · exact hsettled.controlInhibited ▸ h.lanes lane hlane
        · exact h.started (hsettled.started hstarted)
      · exact h
    · exact h
  | lanesJoined =>
    simp only [VehicleMediaLoop.move]
    split
    · split
      · exact tracked_afterJoin h _
      · exact h
    · exact h
  | handled e =>
    simp only [VehicleMediaLoop.move]
    split
    · rename_i hguard
      have hsettled := settled_region setup.adapter setup.createAdapter p.runtime hguard.1
      exact h.withRuntime hsettled.controlInhibited hsettled.started
    · exact h

end

/-! ## The latch of a session -/

/-- What a latch keeps while it stays in a session. -/
structure Grown (l l' : CriticalCameraControlLatch) : Prop where
  inhibited : l.inhibited = true → l'.inhibited = true
  armed : l.armed = true → l'.armed = true
  startup : ∀ t, l.startupStartedMs = some t → l'.startupStartedMs = some t

section

theorem Grown.refl (l : CriticalCameraControlLatch) : Grown l l := ⟨id, id, fun _ h => h⟩

theorem grown_inhibit (l : CriticalCameraControlLatch) (sessionId : String) :
    Grown l (match l.inhibit sessionId with
      | .error _ => l
      | .ok (_, latch) => latch) := by
  split
  · exact .refl l
  · rename_i latch hlatch
    unfold CriticalCameraControlLatch.inhibit at hlatch
    split_ifs at hlatch
    obtain ⟨-, rfl⟩ := Prod.mk.inj (Except.ok.inj hlatch)
    exact ⟨fun _ => rfl, id, fun _ h => h⟩

theorem latch_moveInhibition (p : VehicleMediaLoop σ) (thread : ThreadId)
    (next : Option Inhibition) : (p.moveInhibition thread next).latch = p.latch := by
  cases thread <;> rfl

theorem latch_move (setup : MediaSetup σ) (p : VehicleMediaLoop σ) (e : ThreadEvent)
    (hsession : (p.move setup e).latch.sessionId = p.latch.sessionId) :
    Grown p.latch (p.move setup e).latch := by
  have hkept := Grown.refl p.latch
  cases e with
  | elapsed ms => exact hkept
  | sessionEntered sessionId =>
    simp only [VehicleMediaLoop.move, VehicleMediaLoop.enterSession] at hsession ⊢
    split at hsession
    · rename_i hthread
      rw [if_pos hthread]
      split at hsession
      · exact hkept
      · rename_i inherited latch hlatch
        obtain ⟨-, hnow, -, hsame⟩ := enterSession_ok hlatch
        change latch.sessionId = p.latch.sessionId at hsession
        rw [hsame (hsession.symm.trans hnow)]
        exact hkept
    · rename_i hthread
      rw [if_neg hthread]
      exact hkept
  | attemptPrepared =>
    simp only [VehicleMediaLoop.move]
    split <;> exact hkept
  | channelPublished =>
    simp only [VehicleMediaLoop.move]
    split <;> exact hkept
  | laneStarted i =>
    simp only [VehicleMediaLoop.move]
    split <;> exact hkept
  | loopEntered =>
    simp only [VehicleMediaLoop.move]
    split <;> exact hkept
  | graceChecked =>
    simp only [VehicleMediaLoop.move, VehicleMediaLoop.checkGrace]
    split
    · split
      · exact hkept
      split
      · exact hkept
      · rename_i grace latch hgrace
        obtain ⟨-, -, rfl, -⟩ := startupGraceActive_ok hgrace
        refine ⟨id, id, fun t ht => ?_⟩
        show some (p.latch.startupStartedMs.getD p.steadyMs) = some t
        rw [ht]
        rfl
    · exact hkept
  | freshnessEnforced =>
    simp only [VehicleMediaLoop.move]
    split <;> exact hkept
  | flagRaised thread =>
    simp only [VehicleMediaLoop.move, VehicleMediaLoop.raiseFlag]
    split
    · split <;> (rw [latch_moveInhibition]; exact hkept)
    · exact hkept
  | latchInhibited thread =>
    simp only [VehicleMediaLoop.move, VehicleMediaLoop.inhibitLatch]
    split
    · rw [latch_moveInhibition]
      exact grown_inhibit p.latch p.sessionId
    · exact hkept
  | controlStopped thread =>
    simp only [VehicleMediaLoop.move]
    split
    · rw [latch_moveInhibition]
      exact hkept
    · exact hkept
  | laneEncoded i => exact hkept
  | laneFailed i retryable => exact hkept
  | laneDecided i => exact hkept
  | laneEnded i => exact hkept
  | startCalled driverId controlToken =>
    simp only [VehicleMediaLoop.move, VehicleMediaLoop.callStart]
    split_ifs <;> exact hkept
  | cameraChecked =>
    simp only [VehicleMediaLoop.move, VehicleMediaLoop.checkCamera]
    split
    · split <;> exact hkept
    · exact hkept
  | startArmed =>
    simp only [VehicleMediaLoop.move, VehicleMediaLoop.armStart]
    split
    · split
      · exact hkept
      split
      · exact hkept
      · exact hkept
      · rename_i latch hlatch
        obtain ⟨-, rfl⟩ := armForControl_ok hlatch
        exact ⟨id, fun _ => rfl, fun _ h => h⟩
    · exact hkept
  | startOpened utcMs =>
    simp only [VehicleMediaLoop.move]
    split <;> exact hkept
  | stopFlagged => exact hkept
  | pipelineFaulted =>
    simp only [VehicleMediaLoop.move]
    split <;> exact hkept
  | stopBegun destroying =>
    simp only [VehicleMediaLoop.move]
    split <;> exact hkept
  | pipelineStopped =>
    simp only [VehicleMediaLoop.move]
    split
    · split <;> exact hkept
    · exact hkept
  | lanesJoined =>
    simp only [VehicleMediaLoop.move, VehicleMediaLoop.afterJoin]
    split
    · split
      · split <;> exact hkept
      · exact hkept
    · exact hkept
  | handled e =>
    simp only [VehicleMediaLoop.move]
    split <;> exact hkept

theorem tracked_run {past : LoopHistory σ} (hr : Run (mediaLoop setup) past p) : Tracked p := by
  induction hr with
  | init =>
    exact ⟨setup.booted, fun _ hno => (by cases hno), fun hno => hno.elim,
      fun hno => (by cases hno), fun _ hno => (by cases hno), fun _ hno => (by cases hno)⟩
  | step e hr ih =>
    have hunobserved := ih.withRuntime (r := VehicleMediaRuntime.unobserved _) rfl id
    exact tracked_move hunobserved (sound_run hr).unobserved e

/-- What a step of the session puts into the latch stays there for the rest of the session. -/
theorem latch_since {past : LoopHistory σ} {sessionId : String} {sets : LoopStep σ → Prop}
    (kept : CriticalCameraControlLatch → Prop) (hr : Run (mediaLoop setup) past p)
    (hsets : ∀ past q e, Run (mediaLoop setup) past q → sets ((mediaLoop setup).observe q e) →
      (q.step setup e).latch.sessionId = sessionId ∧ kept (q.step setup e).latch)
    (hkept : ∀ l l', Grown l l' → kept l → kept l')
    (h : Since (InSession sessionId) sets past) :
    p.latch.sessionId = sessionId ∧ kept p.latch := by
  induction hr with
  | init => exact h.elim
  | @step _ q e hr ih =>
    rcases h with hset | ⟨hin, hsince⟩
    · exact hsets _ q e hr hset
    · obtain ⟨hbefore, hheld⟩ := ih hsince
      have hgrown := latch_move setup { q with runtime := q.runtime.unobserved } e (hin.trans hbefore.symm)
      exact ⟨hin, hkept _ _ hgrown hheld⟩

end

/-! ## The laws -/

/-- A pass of the watchdog begins at this reading of the clock, under a published service. -/
def BeginsWatched (nowMs : ℤ) (grace : Bool) (st : LoopStep σ) : Prop :=
  st.event = .graceChecked ∧ st.before.thread = .looping ∧ nowMs = st.before.steadyMs ∧
  st.before.runtime.controlServiceStarted = true ∧ st.after.thread = .enforcing nowMs grace

/-- The pass goes on. -/
def Enforcing (nowMs : ℤ) (grace : Bool) (st : LoopStep σ) : Prop :=
  st.after.thread = .enforcing nowMs grace

def DrivingIsWatched (timeoutMs : ℤ) (st : LoopStep σ) (past : LoopHistory σ) : Prop :=
  ∀ nowMs grace, Since (Enforcing nowMs grace) (BeginsWatched nowMs grace) past →
    st.event = .freshnessEnforced → st.after.thread = .looping →
    st.after.runtime.stopRequested = false → st.after.runtime.controlInhibited = false →
    ∀ lane ∈ st.after.lanes, lane.camera.criticalForControl = true →
      lane.disabled = false ∧ 0 < lane.freshnessReferenceMs ∧
      nowMs - lane.freshnessReferenceMs ≤ timeoutMs

/-- `startup_grace_active` is asked at this reading of the clock. -/
def AsksGrace (sessionId : String) (nowMs : ℤ) (st : LoopStep σ) : Prop :=
  st.event = .graceChecked ∧ st.before.thread = .looping ∧ st.before.sessionId = sessionId ∧
  nowMs = st.before.steadyMs ∧ ∃ grace, st.after.thread = .enforcing nowMs grace

/-- A call of `start_control_service` passes the latch. -/
def Arms (sessionId : String) (st : LoopStep σ) : Prop :=
  st.event = .startArmed ∧ st.before.sessionId = sessionId ∧
  ∃ start, st.after.start = some (.opening start)

/-- A thread puts its inhibition into the latch. -/
def Latches (sessionId : String) (st : LoopStep σ) : Prop :=
  ∃ thread, st.event = .latchInhibited thread ∧ st.before.sessionId = sessionId ∧
    st.before.inhibition thread = some .latching

def GraceIsSpentOnce (st : LoopStep σ) (past : LoopHistory σ) : Prop :=
  ∀ sessionId nowMs, AsksGrace sessionId nowMs st → st.after.thread = .enforcing nowMs true →
    (∀ firstMs, Since (InSession sessionId) (AsksGrace sessionId firstMs) past →
      nowMs - firstMs < criticalCameraStartupTimeoutMs) ∧
    ¬Since (InSession sessionId) (Arms sessionId) past ∧
    ¬Since (InSession sessionId) (Latches sessionId) past

section
variable {past : LoopHistory σ} {nowMs : ℤ} {grace : Bool} {sessionId : String}

/-- What a look at the latch finds, when the pass begins. -/
theorem checkGrace_enforcing (hthread : p.thread = .looping)
    (h : (p.checkGrace setup).thread = .enforcing nowMs grace) :
    ∃ latch, p.latch.startupGraceActive p.sessionId p.steadyMs = .ok (grace, latch) ∧
      (p.checkGrace setup).latch = latch ∧ nowMs = p.steadyMs := by
  unfold VehicleMediaLoop.checkGrace at h ⊢
  split at h
  · rw [hthread] at h
    cases h
  · rename_i hon
    rw [if_neg hon]
    split at h
    · cases h
    · rename_i grace' latch hgrace
      obtain ⟨rfl, rfl⟩ := RunThread.enforcing.inj h
      exact ⟨latch, hgrace, rfl, rfl⟩

/-- A published service has been armed, so that no grace is left. -/
theorem beginsWatched_grace (hr : Run (mediaLoop setup) past p) {e : ThreadEvent}
    (h : BeginsWatched nowMs grace ((mediaLoop setup).observe p e)) : grace = false := by
  obtain ⟨rfl, hthread, -, hstarted, hafter⟩ := h
  change p.thread = .looping at hthread
  change p.runtime.controlServiceStarted = true at hstarted
  have hmoved : (p.step setup .graceChecked).thread = .enforcing nowMs grace := hafter
  simp only [VehicleMediaLoop.step, VehicleMediaLoop.move, if_pos hthread] at hmoved
  obtain ⟨latch, hlatch, -, -⟩ := checkGrace_enforcing (p :=
    { p with runtime := p.runtime.unobserved }) hthread hmoved
  obtain ⟨-, -, -, hgrace⟩ := startupGraceActive_ok hlatch
  have harmed := (tracked_run hr).started hstarted
  by_contra hno
  have hfree := (hgrace.mp (by simpa using hno)).2.1
  exact absurd (hfree.symm.trans harmed) Bool.false_ne_true

theorem since_beginsWatched (hr : Run (mediaLoop setup) past p)
    (h : Since (Enforcing nowMs grace) (BeginsWatched nowMs grace) past) :
    p.thread = .enforcing nowMs grace ∧ grace = false := by
  induction hr with
  | init => exact h.elim
  | step e hr ih =>
    rcases h with hbegins | ⟨hon, hsince⟩
    · exact ⟨hbegins.2.2.2.2, beginsWatched_grace hr hbegins⟩
    · exact ⟨hon, (ih hsince).2⟩

/-- The end of a pass that has no grace and goes back to the loop. -/
theorem enforceFreshness_fresh (h : Tracked p) (hthread : p.thread = .enforcing nowMs false)
    (hback : (p.enforceFreshness setup nowMs false).thread = .looping)
    (hstop : p.runtime.stopRequested = false) (hinhibited : p.runtime.controlInhibited = false)
    {lane : Lane} (hlane : lane ∈ p.lanes) (hcritical : lane.camera.criticalForControl = true) :
    lane.disabled = false ∧ 0 < lane.freshnessReferenceMs ∧
    nowMs - lane.freshnessReferenceMs ≤ setup.frameTimeoutMs := by
  have htracked := h.lanes lane hlane
  have hdisabled : lane.disabled = false := by
    by_contra hno
    have hflag := htracked.noted hcritical (.inl (by simpa using hno))
    exact absurd (hinhibited.symm.trans hflag) Bool.false_ne_true
  have hstarted : 0 < lane.freshnessReferenceMs := by
    unfold Lane.freshnessReferenceMs
    split
    · assumption
    · exact htracked.started (h.looped (by rw [hthread]; trivial) lane hlane)
  refine ⟨hdisabled, hstarted, ?_⟩
  by_contra hstale
  have hguard : false = false ∧ p.runtime.stopRequested = false ∧
      ∃ lane ∈ p.lanes, lane.Stale nowMs setup.frameTimeoutMs :=
    ⟨rfl, hstop, lane, hlane, hcritical, hdisabled, hstarted, by omega⟩
  unfold VehicleMediaLoop.enforceFreshness at hback
  rw [if_pos hguard] at hback
  cases hback

theorem driving_is_watched (hr : Run (mediaLoop setup) past p) :
    Always (DrivingIsWatched setup.frameTimeoutMs) past := by
  induction hr with
  | init => trivial
  | @step _ q e hr ih =>
    refine ⟨?_, ih⟩
    intro nowMs grace hsince he hback hstop hinhibited lane hlane hcritical
    obtain ⟨hthread, rfl⟩ := since_beginsWatched hr hsince
    have hafter : (mediaLoop setup).observe q e =
        ⟨q, e, (), { q with runtime := q.runtime.unobserved }.enforceFreshness setup nowMs false⟩ := by
      change e = .freshnessEnforced at he
      subst he
      simp only [Machine.observe, mediaLoop, VehicleMediaLoop.step, VehicleMediaLoop.move, hthread]
    rw [hafter] at hback hstop hinhibited hlane
    have htracked := (tracked_run hr).withRuntime (r := q.runtime.unobserved) rfl id
    exact enforceFreshness_fresh htracked hthread hback hstop hinhibited hlane hcritical

/-- Who asks the latch has entered its session. -/
theorem asksGrace_latch {e : ThreadEvent}
    (h : AsksGrace sessionId nowMs ((mediaLoop setup).observe p e)) :
    ∃ grace latch, p.latch.startupGraceActive sessionId nowMs = .ok (grace, latch) ∧
      (p.step setup e).latch = latch ∧ nowMs = p.steadyMs ∧
      (p.step setup e).thread = .enforcing nowMs grace := by
  obtain ⟨rfl, hthread, rfl, rfl, grace, hafter⟩ := h
  change p.thread = .looping at hthread
  have hmoved : (p.step setup .graceChecked).thread = .enforcing p.steadyMs grace := hafter
  refine ⟨grace, ?_⟩
  simp only [VehicleMediaLoop.step, VehicleMediaLoop.move, if_pos hthread] at hmoved ⊢
  obtain ⟨latch, hlatch, hkept, -⟩ := checkGrace_enforcing (p :=
    { p with runtime := p.runtime.unobserved }) hthread hmoved
  exact ⟨latch, hlatch, hkept, rfl, hmoved⟩

theorem since_asksGrace (hr : Run (mediaLoop setup) past p) {firstMs : ℤ}
    (h : Since (InSession sessionId) (AsksGrace sessionId firstMs) past) :
    ∃ t ≤ firstMs, p.latch.startupStartedMs = some t := by
  refine (latch_since (fun l => ∃ t ≤ firstMs, l.startupStartedMs = some t) hr ?_ ?_ h).2
  · intro past q e hrun hasks
    obtain ⟨grace, latch, hlatch, hkept, rfl, -⟩ := asksGrace_latch hasks
    obtain ⟨-, hsession, rfl, -⟩ := startupGraceActive_ok hlatch
    rw [hkept]
    refine ⟨hsession, q.latch.startupStartedMs.getD q.steadyMs, ?_, rfl⟩
    cases hstartup : q.latch.startupStartedMs with
    | none => exact le_refl q.steadyMs
    | some t => exact (tracked_run hrun).grace t (by rw [hstartup]; rfl)
  · rintro l l' hgrown ⟨t, ht, hstartup⟩
    exact ⟨t, ht, hgrown.startup t hstartup⟩

theorem since_arms (hr : Run (mediaLoop setup) past p)
    (h : Since (InSession sessionId) (Arms sessionId) past) : p.latch.armed = true := by
  refine (latch_since (fun l => l.armed = true) hr ?_
    (fun _ _ hgrown harmed => hgrown.armed harmed) h).2
  intro past q e hrun harms
  obtain ⟨rfl, hsession, start, hstart⟩ := harms
  change q.sessionId = sessionId at hsession
  have hopening : (q.step setup .startArmed).start = some (.opening start) := hstart
  have hpending : q.start.isSome = true := by
    by_contra hno
    have hnone : q.start = none := by simpa using hno
    simp only [VehicleMediaLoop.step, VehicleMediaLoop.move, hnone] at hopening
    cases hopening
  have hsound := sound_run hrun
  have hentered : q.sessionId ≠ "" := by
    intro hnone
    have hchannel := (hsound.pending hpending).1
    rw [(hsound.unentered hnone).channel] at hchannel
    cases hchannel
  have hrun' : Run (mediaLoop setup) _ (q.step setup .startArmed) := .step .startArmed hrun
  refine ⟨?_, (tracked_run hrun').opening start hopening⟩
  have hsound' := sound_run hrun'
  have hkept : (q.step setup .startArmed).sessionId = q.sessionId := by
    simp only [VehicleMediaLoop.step, VehicleMediaLoop.move, VehicleMediaLoop.armStart]
    split
    · split
      · rfl
      split <;> rfl
    · rfl
  have hnow := hsound'.session (fun hnone => hentered (hkept.symm.trans hnone))
  exact hnow.trans (hkept.trans hsession)

theorem since_latches (hr : Run (mediaLoop setup) past p)
    (h : Since (InSession sessionId) (Latches sessionId) past) : p.latch.inhibited = true := by
  refine (latch_since (fun l => l.inhibited = true) hr ?_
    (fun _ _ hgrown hinhibited => hgrown.inhibited hinhibited) h).2
  intro past q e hrun hlatches
  obtain ⟨thread, rfl, hsession, ht⟩ := hlatches
  change q.sessionId = sessionId at hsession
  change q.inhibition thread = some .latching at ht
  have hsound := sound_run hrun
  have hentered := hsound.inhibiting ht
  have hmoved : (q.step setup (.latchInhibited thread)).latch =
      { q.latch with inhibited := true } := by
    have hguard : ({ q with runtime := q.runtime.unobserved } : VehicleMediaLoop σ).inhibition
        thread = some .latching := ht
    simp only [VehicleMediaLoop.step, VehicleMediaLoop.move]
    rw [if_pos hguard]
    simp only [VehicleMediaLoop.inhibitLatch]
    rw [latch_moveInhibition, inhibit_ok q.latch hentered (hsound.session hentered)]
  rw [hmoved]
  exact ⟨(hsound.session hentered).trans hsession, rfl⟩

theorem grace_is_spent_once (hr : Run (mediaLoop setup) past p) :
    Always GraceIsSpentOnce past := by
  induction hr with
  | init => trivial
  | @step _ q e hr ih =>
    refine ⟨?_, ih⟩
    intro sessionId nowMs hasks hgiven
    obtain ⟨grace, latch, hlatch, -, -, hthread⟩ := asksGrace_latch hasks
    obtain rfl := (RunThread.enforcing.inj (hthread.symm.trans hgiven)).2
    obtain ⟨-, -, -, hgrace⟩ := startupGraceActive_ok hlatch
    obtain ⟨hinhibited, harmed, -, hrecent⟩ := hgrace.mp rfl
    refine ⟨fun firstMs hsince => ?_, fun hsince => ?_, fun hsince => ?_⟩
    · obtain ⟨t, ht, hstartup⟩ := since_asksGrace hr hsince
      rw [hstartup, Option.getD_some] at hrecent
      omega
    · exact absurd (harmed.symm.trans (since_arms hr hsince)) Bool.false_ne_true
    · exact absurd (hinhibited.symm.trans (since_latches hr hsince)) Bool.false_ne_true

end

/-! ## Runs -/

/-- The camera falls silent under a published service, and the second pass finds it so. -/
def silentCameraEvents : List ThreadEvent :=
  failingCameraEvents.take 11 ++
  [.elapsed 500, .graceChecked, .freshnessEnforced, .elapsed 1, .graceChecked, .freshnessEnforced]

theorem driving_is_watched_bench :
    ((mediaLoop benchSetup).play (silentCameraEvents.take 14)).2.thread = .looping ∧
    ((mediaLoop benchSetup).play silentCameraEvents).2.thread = .inhibiting .raising ∧
    Always (DrivingIsWatched benchSetup.frameTimeoutMs)
      ((mediaLoop benchSetup).play silentCameraEvents).1 :=
  ⟨by decide +kernel, by decide +kernel,
    driving_is_watched (Run.play (mediaLoop benchSetup) silentCameraEvents)⟩

/-- A runtime waits for its first frame, is rebuilt, and has the rest of the grace. -/
def waitingEvents : List ThreadEvent :=
  [.sessionEntered "session-1", .attemptPrepared, .laneStarted 0, .loopEntered, .elapsed 5000,
    .graceChecked, .freshnessEnforced, .stopBegun true, .laneEnded 0, .pipelineStopped,
    .lanesJoined, .elapsed 14999, .sessionEntered "session-1", .attemptPrepared, .laneStarted 0,
    .loopEntered, .graceChecked, .freshnessEnforced, .elapsed 501, .graceChecked,
    .freshnessEnforced]

theorem grace_is_spent_once_bench :
    ((mediaLoop benchSetup).play (waitingEvents.take 17)).2.thread = .enforcing 20999 true ∧
    ((mediaLoop benchSetup).play waitingEvents).2.thread = .inhibiting .raising ∧
    Always GraceIsSpentOnce ((mediaLoop benchSetup).play waitingEvents).1 :=
  ⟨by decide +kernel, by decide +kernel,
    grace_is_spent_once (Run.play (mediaLoop benchSetup) waitingEvents)⟩

end MineTeleop.Media
