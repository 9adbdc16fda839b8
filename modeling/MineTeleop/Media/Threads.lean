import MineTeleop.Media.Regions

/-!
# The threads of the media loop

An invariant of every order of what they do: the latch is in the session of the runtime, whoever is
past the beginning of an inhibition has raised the flag, and has put it into the latch before it
stops control, and a start that holds the mutex finds everything but the flags as it was.

* `Sound.withRuntime`, `Sound.onLane`, `Sound.withThread` and their like: who touches what;
* `sound_move`, `sound_step`: every event keeps it.
-/

namespace MineTeleop.Media

open Programs
open Runs
open Service
open Stack (VehicleConfig)

variable {σ : Type} {setup : MediaSetup σ} {p : VehicleMediaLoop σ}

/-! ## Who inhibits -/

section
variable {stage : Inhibition} {next : Option Inhibition} {thread other : ThreadId}

/-- Nobody is brought further into the inhibition than to its beginning. -/
theorem inhibition_onLane {i : ℕ} {f : Lane → Lane}
    (hf : ∀ lane stage, (f lane).thread.inhibition = some stage →
      stage = .raising ∨ lane.thread.inhibition = some stage)
    (h : (p.onLane i f).inhibition other = some stage) :
    stage = .raising ∨ p.inhibition other = some stage := by
  cases other with
  | run => exact .inr h
  | lane j =>
    simp only [VehicleMediaLoop.inhibition, VehicleMediaLoop.onLane, List.getElem?_modify] at h ⊢
    cases hlane : p.lanes[j]? with
    | none =>
      rw [hlane] at h
      cases h
    | some lane =>
      rw [hlane] at h
      simp only [Option.bind_some] at h ⊢
      split at h
      · exact hf lane stage h
      · exact .inr h

theorem LaneThread.moveInhibition_cases (t : LaneThread)
    (h : (t.moveInhibition next).inhibition = some stage) :
    next = some stage ∨ t.inhibition = some stage := by
  cases t with
  | inhibiting before action =>
    cases next with
    | none => cases h
    | some after => exact .inl h
  | idle => exact .inr h
  | capturing => exact .inr h
  | deciding action => exact .inr h
  | ended => exact .inr h

theorem inhibition_moveInhibition
    (h : (p.moveInhibition thread next).inhibition other = some stage) :
    next = some stage ∨ p.inhibition other = some stage := by
  cases thread with
  | run =>
    cases other with
    | run =>
      cases next with
      | none => cases h
      | some after => exact .inl h
    | lane j => exact .inr h
  | lane i =>
    cases other with
    | run => exact .inr h
    | lane j =>
      simp only [VehicleMediaLoop.moveInhibition, VehicleMediaLoop.inhibition,
        VehicleMediaLoop.onLane, List.getElem?_modify] at h ⊢
      cases hlane : p.lanes[j]? with
      | none =>
        rw [hlane] at h
        cases h
      | some lane =>
        rw [hlane] at h
        simp only [Option.bind_some] at h ⊢
        split at h
        · exact lane.thread.moveInhibition_cases h
        · exact .inr h

end

/-! ## The invariant -/

/-- No channel is published while the thread of `run` is here. -/
def RunThread.Bare : RunThread → Prop
  | .constructed | .entered | .joining _ => True
  | _ => False

/-- No session is entered: the runtime is new, or on its way out without one. -/
def RunThread.Outside : RunThread → Prop
  | .constructed | .stopping true | .joining true => True
  | _ => False

structure Unentered (p : VehicleMediaLoop σ) : Prop where
  channel : p.controlChannel = false
  lanes : p.lanes = []
  shut : Shut p.runtime
  inhibited : p.runtime.controlInhibited = false
  outside : p.thread.Outside

structure Sound (p : VehicleMediaLoop σ) : Prop where
  session : p.sessionId ≠ "" → p.latch.sessionId = p.sessionId
  unentered : p.sessionId = "" → Unentered p
  constructed : p.thread = .constructed → p.sessionId = ""
  bare : p.thread.Bare → p.controlChannel = false
  pending : p.start.isSome = true →
    p.controlChannel = true ∧ p.runtime.controlLinkOpen = true ∧
    ¬(p.runtime.controlServiceStarted = true ∧ p.runtime.controlService.isSome = true)
  raised : ∀ thread stage, p.inhibition thread = some stage →
    stage = .raising ∨ p.runtime.controlInhibited = true
  latched : ∀ thread, p.inhibition thread = some .stopping → p.latch.inhibited = true

section
variable {e : Event}

/-- What an inhibiting thread knows of the session. -/
theorem Sound.inhibiting (h : Sound p) {thread : ThreadId} {stage : Inhibition}
    (ht : p.inhibition thread = some stage) : p.sessionId ≠ "" := by
  intro hnone
  obtain ⟨-, hlanes, -, -, houtside⟩ := h.unentered hnone
  cases thread with
  | run =>
    simp only [VehicleMediaLoop.inhibition] at ht
    cases hthread : p.thread with
    | inhibiting at_ =>
      rw [hthread] at houtside
      exact houtside
    | _ =>
      rw [hthread] at ht
      cases ht
  | lane i =>
    simp [VehicleMediaLoop.inhibition, hlanes] at ht

/-- A thread that touches the runtime, and neither the flag nor what a pending start has found. -/
theorem Sound.withRuntime (h : Sound p) (r : VehicleMediaRuntime σ)
    (hshut : Shut p.runtime → Shut r)
    (hinhibited : r.controlInhibited = p.runtime.controlInhibited)
    (hpending : p.start.isSome = true → r.controlLinkOpen = p.runtime.controlLinkOpen ∧
      r.controlServiceStarted = p.runtime.controlServiceStarted ∧
      r.controlService = p.runtime.controlService) : Sound { p with runtime := r } := by
  refine ⟨h.session, fun hnone => ?_, h.constructed, h.bare, fun hstart => ?_,
    fun thread stage hstage => ?_, h.latched⟩
  · have hbare := h.unentered hnone
    exact ⟨hbare.channel, hbare.lanes, hshut hbare.shut, hinhibited.trans hbare.inhibited,
      hbare.outside⟩
  · obtain ⟨hopen, hstarted, hservice⟩ := hpending hstart
    obtain ⟨hchannel, hopened, hnot⟩ := h.pending hstart
    rw [← hstarted, ← hservice] at hnot
    exact ⟨hchannel, hopen.trans hopened, hnot⟩
  · show stage = _ ∨ r.controlInhibited = true
    rw [hinhibited]
    exact h.raised thread stage hstage

theorem Sound.unobserved (h : Sound p) : Sound { p with runtime := p.runtime.unobserved } :=
  h.withRuntime p.runtime.unobserved (fun hshut => hshut) rfl fun _ => ⟨rfl, rfl, rfl⟩

/-- A region that finds the mutex free. -/
theorem Sound.region (h : Sound p) (hfree : p.start.isNone = true) {r : VehicleMediaRuntime σ}
    (hshut : Shut p.runtime → Shut r)
    (hinhibited : r.controlInhibited = p.runtime.controlInhibited) :
    Sound { p with runtime := r } := by
  apply h.withRuntime r hshut hinhibited
  intro hpending
  rw [Option.isNone_iff_eq_none] at hfree
  rw [hfree] at hpending
  cases hpending

theorem Sound.onLane (h : Sound p) (i : ℕ) {f : Lane → Lane}
    (hf : ∀ lane stage, (f lane).thread.inhibition = some stage →
      stage = .raising ∨ lane.thread.inhibition = some stage) : Sound (p.onLane i f) := by
  refine ⟨h.session, fun hnone => ?_, h.constructed, h.bare, h.pending,
    fun thread stage hstage => ?_, fun thread hstage => ?_⟩
  · have hbare := h.unentered hnone
    have hlanes : (p.onLane i f).lanes = [] := by
      show p.lanes.modify i f = []
      rw [hbare.lanes, List.modify_nil]
    exact ⟨hbare.channel, hlanes, hbare.shut, hbare.inhibited, hbare.outside⟩
  · rcases inhibition_onLane hf hstage with hraising | hbefore
    · exact .inl hraising
    · exact h.raised thread stage hbefore
  · rcases inhibition_onLane hf hstage with hraising | hbefore
    · cases hraising
    · exact h.latched thread hbefore

/-- The thread of `run` goes on, and is nowhere within an inhibition but at its beginning. -/
theorem Sound.withThread (h : Sound p) {t : RunThread}
    (hinhibition : t.inhibition = none ∨ t.inhibition = some .raising)
    (hconstructed : t = .constructed → p.sessionId = "")
    (hbare : t.Bare → p.controlChannel = false)
    (houtside : p.sessionId = "" → t.Outside) : Sound { p with thread := t } := by
  have hraising : ∀ thread stage,
      ({ p with thread := t } : VehicleMediaLoop σ).inhibition thread = some stage →
      stage = .raising ∨ p.inhibition thread = some stage := by
    intro thread stage hstage
    cases thread with
    | run =>
      left
      rcases hinhibition with hnone | hraising
      · exact absurd (hnone.symm.trans hstage) (by simp)
      · exact (Option.some.inj (hraising.symm.trans hstage)).symm
    | lane i => exact .inr hstage
  refine ⟨h.session, fun hnone => ?_, hconstructed, hbare, h.pending,
    fun thread stage hstage => ?_, fun thread hstage => ?_⟩
  · have hunentered := h.unentered hnone
    exact ⟨hunentered.channel, hunentered.lanes, hunentered.shut, hunentered.inhibited,
      houtside hnone⟩
  · rcases hraising thread stage hstage with hraising | hbefore
    · exact .inl hraising
    · exact h.raised thread stage hbefore
  · rcases hraising thread .stopping hstage with hraising | hbefore
    · cases hraising
    · exact h.latched thread hbefore

/-- The mutex is taken by a start, handed on by it, or given back. -/
theorem Sound.withStart (h : Sound p) {start : Option StartStage}
    (hpending : start.isSome = true →
      p.controlChannel = true ∧ p.runtime.controlLinkOpen = true ∧
      ¬(p.runtime.controlServiceStarted = true ∧ p.runtime.controlService.isSome = true)) :
    Sound { p with start := start } :=
  ⟨h.session, fun hnone => ⟨(h.unentered hnone).channel, (h.unentered hnone).lanes,
    (h.unentered hnone).shut, (h.unentered hnone).inhibited, (h.unentered hnone).outside⟩,
    h.constructed, h.bare, hpending, h.raised, h.latched⟩

/-- The latch stays in its session and forgets no inhibition. -/
theorem Sound.withLatch (h : Sound p) (latch : CriticalCameraControlLatch)
    (hsession : latch.sessionId = p.latch.sessionId)
    (hinhibited : p.latch.inhibited = true → latch.inhibited = true) :
    Sound { p with latch := latch } :=
  ⟨fun hentered => hsession.trans (h.session hentered),
    fun hnone => ⟨(h.unentered hnone).channel, (h.unentered hnone).lanes,
    (h.unentered hnone).shut, (h.unentered hnone).inhibited, (h.unentered hnone).outside⟩,
    h.constructed, h.bare, h.pending, h.raised,
    fun thread hstage => hinhibited (h.latched thread hstage)⟩

theorem Sound.free_of_bare (h : Sound p) (hbare : p.thread.Bare) : p.start = none := by
  cases hstart : p.start with
  | none => rfl
  | some stage =>
    have hchannel := (h.pending (by rw [hstart]; rfl)).1
    rw [h.bare hbare] at hchannel
    cases hchannel

theorem Sound.moveInhibition (h : Sound p) {thread : ThreadId} (stage : Inhibition)
    (ht : p.inhibition thread = some stage) {next : Option Inhibition}
    (hraised : ∀ after, next = some after → after = .raising ∨ p.runtime.controlInhibited = true)
    (hlatched : next = some .stopping → p.latch.inhibited = true) :
    Sound (p.moveInhibition thread next) := by
  have hentered := h.inhibiting ht
  have hraised' : ∀ other after, (p.moveInhibition thread next).inhibition other = some after →
      after = .raising ∨ p.runtime.controlInhibited = true := by
    intro other after hafter
    rcases inhibition_moveInhibition hafter with hnext | hbefore
    · exact hraised after hnext
    · exact h.raised other after hbefore
  have hlatched' : ∀ other, (p.moveInhibition thread next).inhibition other = some .stopping →
      p.latch.inhibited = true := by
    intro other hafter
    rcases inhibition_moveInhibition hafter with hnext | hbefore
    · exact hlatched hnext
    · exact h.latched other hbefore
  cases thread with
  | run =>
    refine ⟨h.session, fun hnone => absurd hnone hentered, fun hconstructed => ?_, fun hbare => ?_,
      h.pending, hraised', hlatched'⟩
    · cases next <;> cases hconstructed
    · cases next <;> exact hbare.elim
  | lane i =>
    exact ⟨h.session, fun hnone => absurd hnone hentered, h.constructed, h.bare, h.pending,
      hraised', hlatched'⟩

/-! ## Each thread keeps it -/

theorem Sound.beginStop (h : Sound p) {destroying : Bool}
    (houtside : p.sessionId = "" → destroying = true) : Sound (p.beginStop destroying) := by
  have hstopped : Sound { p with runtime := { p.runtime with stopRequested := true } } :=
    h.withRuntime { p.runtime with stopRequested := true } (fun hshut => hshut) rfl
      fun _ => ⟨rfl, rfl, rfl⟩
  apply hstopped.withThread (t := .stopping destroying) (.inl rfl) (fun hno => (by cases hno))
    (fun hno => hno.elim)
  intro hnone
  rw [houtside hnone]
  trivial

theorem enterSession_ok {l latch : CriticalCameraControlLatch} {sessionId : String}
    {inherited : Bool} (h : l.enterSession sessionId = .ok (inherited, latch)) :
    sessionId ≠ "" ∧ latch.sessionId = sessionId ∧ latch.inhibited = inherited ∧
    (l.sessionId = sessionId → latch = l) := by
  unfold CriticalCameraControlLatch.enterSession at h
  split_ifs at h with hnone hsame
  · obtain ⟨rfl, rfl⟩ := Prod.mk.inj (Except.ok.inj h)
    exact ⟨hnone, hsame, rfl, fun _ => rfl⟩
  · obtain ⟨rfl, rfl⟩ := Prod.mk.inj (Except.ok.inj h)
    exact ⟨hnone, rfl, rfl, fun hno => absurd hno hsame⟩

theorem sound_enterSession (h : Sound p) (hthread : p.thread = .constructed) (sessionId : String) :
    Sound (p.enterSession setup sessionId) := by
  have hnone := h.constructed hthread
  have hbare := h.unentered hnone
  unfold VehicleMediaLoop.enterSession
  split
  · exact h.beginStop fun _ => rfl
  · rename_i inherited latch hlatch
    obtain ⟨hsession, hnow, -, -⟩ := enterSession_ok hlatch
    have hfree := h.free_of_bare (by rw [hthread]; trivial)
    have hnobody : ∀ thread stage, ({ p with
        latch := latch
        sessionId := sessionId
        thread := RunThread.entered }.act setup (.sessionEntered inherited)).inhibition thread ≠
        some stage := by
      intro thread stage
      cases thread with
      | run => exact fun hno => (by cases hno)
      | lane i =>
        simp [VehicleMediaLoop.inhibition, VehicleMediaLoop.act, hbare.lanes]
    refine ⟨fun _ => hnow, fun hno => absurd hno hsession, fun hno => (by cases hno),
      fun _ => hbare.channel, fun hpending => ?_, fun thread stage hno => ?_, fun thread hno => ?_⟩
    · change p.start.isSome = true at hpending
      rw [hfree] at hpending
      cases hpending
    · exact absurd hno (hnobody thread stage)
    · exact absurd hno (hnobody thread _)

theorem sound_prepareAttempt (h : Sound p) (hthread : p.thread = .entered) :
    Sound (p.prepareAttempt setup) := by
  have hentered : p.sessionId ≠ "" := by
    intro hnone
    have houtside := (h.unentered hnone).outside
    rw [hthread] at houtside
    exact houtside
  have hfree := h.free_of_bare (by rw [hthread]; trivial)
  have hnobody : ∀ thread stage,
      (p.prepareAttempt setup).inhibition thread ≠ some stage := by
    intro thread stage
    cases thread with
    | run => exact fun hno => (by cases hno)
    | lane i =>
      simp only [VehicleMediaLoop.inhibition, VehicleMediaLoop.prepareAttempt,
        VehicleMediaLoop.act, List.getElem?_map]
      cases setup.cameras[i]? <;> exact fun hno => (by cases hno)
  refine ⟨h.session, fun hnone => absurd hnone hentered, fun hno => (by cases hno),
    fun hbare => hbare.elim, fun hpending => ?_, fun thread stage hno => ?_, fun thread hno => ?_⟩
  · change p.start.isSome = true at hpending
    rw [hfree] at hpending
    cases hpending
  · exact absurd hno (hnobody thread stage)
  · exact absurd hno (hnobody thread _)

theorem startupGraceActive_ok {l latch : CriticalCameraControlLatch} {sessionId : String}
    {nowMs : ℤ} {grace : Bool} (h : l.startupGraceActive sessionId nowMs = .ok (grace, latch)) :
    sessionId ≠ "" ∧ l.sessionId = sessionId ∧
    latch = { l with startupStartedMs := some (l.startupStartedMs.getD nowMs) } ∧
    (grace = true ↔ l.inhibited = false ∧ l.armed = false ∧ l.startupStartedMs.getD nowMs ≤ nowMs ∧
      nowMs - l.startupStartedMs.getD nowMs < criticalCameraStartupTimeoutMs) := by
  unfold CriticalCameraControlLatch.startupGraceActive at h
  split_ifs at h with hbad
  push Not at hbad
  obtain ⟨rfl, rfl⟩ := Prod.mk.inj (Except.ok.inj h)
  exact ⟨hbad.1, hbad.2.1, rfl, decide_eq_true_iff⟩

theorem sound_checkGrace (h : Sound p) (hthread : p.thread = .looping) :
    Sound (p.checkGrace setup) := by
  have hentered : p.sessionId ≠ "" := by
    intro hnone
    have houtside := (h.unentered hnone).outside
    rw [hthread] at houtside
    exact houtside
  unfold VehicleMediaLoop.checkGrace
  split
  · exact h
  split
  · exact h.beginStop fun hnone => absurd hnone hentered
  · rename_i grace latch hgrace
    obtain ⟨-, -, rfl, -⟩ := startupGraceActive_ok hgrace
    exact (h.withLatch ({ p.latch with
      startupStartedMs := some (p.latch.startupStartedMs.getD p.steadyMs) }) rfl
      fun hin => hin).withThread (t := .enforcing p.steadyMs grace) (.inl rfl)
      (fun hno => (by cases hno)) (fun hno => hno.elim) fun hnone => absurd hnone hentered

theorem sound_enforceFreshness (h : Sound p) {nowMs : ℤ} {grace : Bool}
    (hthread : p.thread = .enforcing nowMs grace) :
    Sound (p.enforceFreshness setup nowMs grace) := by
  have hentered : p.sessionId ≠ "" := by
    intro hnone
    have houtside := (h.unentered hnone).outside
    rw [hthread] at houtside
    exact houtside
  unfold VehicleMediaLoop.enforceFreshness
  split
  · exact h.withThread (.inr rfl) (fun hno => (by cases hno)) (fun hno => hno.elim)
      fun hnone => absurd hnone hentered
  · exact h.withThread (.inl rfl) (fun hno => (by cases hno)) (fun hno => hno.elim)
      fun hnone => absurd hnone hentered

theorem sound_raiseFlag (h : Sound p) {thread : ThreadId}
    (ht : p.inhibition thread = some .raising) : Sound (p.raiseFlag thread) := by
  unfold VehicleMediaLoop.raiseFlag
  split
  · exact h.moveInhibition .raising ht (fun _ hno => (by cases hno)) fun hno => (by cases hno)
  · have hentered := h.inhibiting ht
    have hraised : Sound { p with runtime := { p.runtime with controlInhibited := true } } :=
      ⟨h.session, fun hnone => absurd hnone hentered, h.constructed, h.bare, h.pending,
        fun _ _ _ => .inr rfl, h.latched⟩
    exact hraised.moveInhibition .raising ht (fun _ _ => .inr rfl)
      fun hno => (by cases hno)

theorem inhibit_ok (l : CriticalCameraControlLatch) {sessionId : String} (hentered : sessionId ≠ "")
    (hsession : l.sessionId = sessionId) :
    l.inhibit sessionId = .ok (!l.inhibited, { l with inhibited := true }) := by
  unfold CriticalCameraControlLatch.inhibit
  rw [if_neg hentered, if_neg (by rw [hsession]; exact hentered),
    if_neg (not_not.mpr hsession)]

theorem sound_inhibitLatch (h : Sound p) {thread : ThreadId}
    (ht : p.inhibition thread = some .latching) : Sound (p.inhibitLatch thread) := by
  have hentered := h.inhibiting ht
  have hraised : p.runtime.controlInhibited = true := by
    rcases h.raised thread .latching ht with hno | hraised
    · cases hno
    · exact hraised
  unfold VehicleMediaLoop.inhibitLatch
  rw [inhibit_ok p.latch hentered (h.session hentered)]
  exact (h.withLatch ({ p.latch with inhibited := true }) rfl fun _ => rfl).moveInhibition
    .latching ht (fun _ _ => .inr hraised) fun _ => rfl

/-- Control is stopped by a thread that has raised the flag. -/
theorem criticalCameraFailed_shut (setup : MediaSetup σ) (r : VehicleMediaRuntime σ) :
    let r' := (r.respond setup.adapter setup.createAdapter .criticalCameraFailed).2
    Shut r' ∧ r'.controlInhibited = true := by
  refine ⟨shut_stopControl setup.adapter _ _, ?_⟩
  exact (settled_stopControl setup.adapter { r.unobserved with controlInhibited := true }
    ⟨.softwareFault, .criticalCameraFailed⟩).controlInhibited

theorem sound_controlStopped (h : Sound p) {thread : ThreadId}
    (ht : p.inhibition thread = some .stopping) (hfree : p.start.isNone = true) :
    Sound ((p.act setup .criticalCameraFailed).moveInhibition thread none) := by
  have hraised : p.runtime.controlInhibited = true := by
    rcases h.raised thread .stopping ht with hno | hraised
    · cases hno
    · exact hraised
  obtain ⟨hshut, hinhibited⟩ := criticalCameraFailed_shut setup p.runtime
  have hstopped : Sound (p.act setup .criticalCameraFailed) :=
    h.region hfree (fun _ => hshut) (hinhibited.trans hraised.symm)
  exact hstopped.moveInhibition .stopping ht (fun _ hno => (by cases hno))
    fun hno => (by cases hno)

theorem sound_callStart (h : Sound p) (driverId controlToken : String) :
    Sound (p.callStart setup driverId controlToken) := by
  unfold VehicleMediaLoop.callStart
  split_ifs with _ hstarted hgone
  · exact h
  · exact h
  · exact h
  · exact h
  · push Not at hgone
    obtain ⟨-, hopen, hchannel⟩ := hgone
    apply h.withStart
    intro _
    exact ⟨by simpa using hchannel, by simpa using hopen, hstarted⟩

theorem sound_checkCamera (h : Sound p) {start : ControlStart} {i : ℕ}
    (hstart : p.start = some (.checking start i)) : Sound (p.checkCamera setup start i) := by
  have hpending := h.pending (by rw [hstart]; rfl)
  unfold VehicleMediaLoop.checkCamera
  split
  · exact h
  · exact h.withStart fun _ => hpending

theorem armForControl_ok {l latch : CriticalCameraControlLatch} {sessionId : String}
    (h : l.armForControl sessionId = .ok (true, latch)) :
    l.inhibited = false ∧ latch = { l with armed := true } := by
  unfold CriticalCameraControlLatch.armForControl at h
  split_ifs at h with _ hinhibited
  · exact absurd (Prod.mk.inj (Except.ok.inj h)).1 Bool.false_ne_true
  · exact ⟨by simpa using hinhibited, (Prod.mk.inj (Except.ok.inj h)).2.symm⟩

theorem sound_armStart (h : Sound p) {start : ControlStart} {i : ℕ}
    (hstart : p.start = some (.checking start i)) : Sound (p.armStart setup start) := by
  have hpending := h.pending (by rw [hstart]; rfl)
  have hended : Sound { p with start := none } := h.withStart fun hno => (by cases hno)
  unfold VehicleMediaLoop.armStart
  split
  · exact hended.region rfl (fun _ => shut_reset setup.adapter _)
      (settled_reset setup.adapter p.runtime).controlInhibited
  · exact hended
  · rename_i latch hlatch
    obtain ⟨-, rfl⟩ := armForControl_ok hlatch
    have hopening : Sound { p with start := some (.opening start) } := h.withStart fun _ => hpending
    exact hopening.withLatch ({ p.latch with armed := true }) rfl fun hin => hin

theorem sound_openStart (h : Sound p) {start : ControlStart}
    (hstart : p.start = some (.opening start)) (utcMs : ℤ) :
    Sound (p.openStart setup start utcMs) := by
  have hentered : p.sessionId ≠ "" := by
    intro hnone
    have hchannel := (h.pending (by rw [hstart]; rfl)).1
    rw [(h.unentered hnone).channel] at hchannel
    cases hchannel
  exact ⟨h.session, fun hnone => absurd hnone hentered, h.constructed, h.bare,
    fun hno => (by cases hno), h.raised, h.latched⟩

theorem sound_afterJoin (h : Sound p) {destroying : Bool} (hthread : p.thread = .joining destroying) :
    Sound (p.afterJoin setup destroying) := by
  unfold VehicleMediaLoop.afterJoin
  split
  · refine ⟨fun hno => absurd rfl hno, fun _ => ⟨rfl, rfl, ⟨rfl, rfl⟩, rfl, trivial⟩, fun _ => rfl,
      fun _ => rfl, fun hno => (by cases hno), fun thread stage hno => ?_, fun thread hno => ?_⟩
    · cases thread <;> cases hno
    · cases thread <;> cases hno
  · rename_i hagain
    apply h.withThread (t := .entered) (.inl rfl) (fun hno => (by cases hno))
    · intro _
      exact h.bare (by rw [hthread]; trivial)
    · intro hnone
      have houtside := (h.unentered hnone).outside
      rw [hthread] at houtside
      cases destroying with
      | false => exact houtside.elim
      | true => exact absurd rfl hagain

theorem sound_pipelineStopped (h : Sound p) {destroying : Bool}
    (hthread : p.thread = .stopping destroying) (hfree : p.start.isNone = true) :
    Sound ({ p with
      controlChannel := false
      thread := .joining destroying }.act setup .pipelineStopped) := by
  have hsettled := settled_stopPipeline setup.adapter p.runtime.unobserved
  have hstopped : Sound { p with runtime := p.runtime.unobserved.stopPipeline setup.adapter } :=
    h.region hfree (fun hshut => (hsettled.shut hshut).1) hsettled.controlInhibited
  have hchannel : Sound { p with
      runtime := p.runtime.unobserved.stopPipeline setup.adapter
      controlChannel := false } :=
    ⟨h.session, fun hnone => ⟨rfl, (h.unentered hnone).lanes, (hstopped.unentered hnone).shut,
      (hstopped.unentered hnone).inhibited, (h.unentered hnone).outside⟩, h.constructed,
      fun _ => rfl, fun hpending => (by
        rw [Option.isNone_iff_eq_none] at hfree
        change p.start.isSome = true at hpending
        rw [hfree] at hpending
        cases hpending), hstopped.raised, h.latched⟩
  apply hchannel.withThread (t := .joining destroying) (.inl rfl) (fun hno => (by cases hno))
    fun _ => rfl
  intro hnone
  have houtside := (h.unentered hnone).outside
  rw [hthread] at houtside
  cases destroying with
  | false => exact houtside.elim
  | true => trivial

theorem Sound.entered_of_thread (h : Sound p) (hthread : ¬p.thread.Outside) : p.sessionId ≠ "" :=
  fun hnone => hthread (h.unentered hnone).outside

theorem sound_channelPublished (h : Sound p) (hthread : p.thread = .starting) :
    Sound { p with controlChannel := true } := by
  have hentered : p.sessionId ≠ "" := h.entered_of_thread (by rw [hthread]; exact id)
  refine ⟨h.session, fun hnone => absurd hnone hentered, h.constructed, fun hbare => ?_,
    fun hpending => ⟨rfl, (h.pending hpending).2⟩, h.raised, h.latched⟩
  change p.thread.Bare at hbare
  rw [hthread] at hbare
  exact hbare.elim

theorem Lane.fails_inhibition (lane : Lane) (retryable : Bool) {stage : Inhibition}
    (h : (lane.fails retryable).thread.inhibition = some stage) : stage = .raising := by
  unfold Lane.fails at h
  dsimp only at h
  split at h
  · cases h
  split at h
  · exact (Option.some.inj h).symm
  · cases h

theorem Lane.decides_inhibition (lane : Lane) {stage : Inhibition}
    (h : lane.decides.thread.inhibition = some stage) : lane.thread.inhibition = some stage := by
  unfold Lane.decides at h
  split at h
  · cases h
  · cases h
  · exact h

/-- A thread that is nowhere within an inhibition, or where it has been. -/
theorem thread_ite {lane lane' : Lane} {c : Prop} [Decidable c] {stage : Inhibition}
    (hlane : lane'.thread.inhibition = some stage → stage = .raising ∨
      lane.thread.inhibition = some stage)
    (h : (if c then lane' else lane).thread.inhibition = some stage) :
    stage = .raising ∨ lane.thread.inhibition = some stage := by
  split at h
  · exact hlane h
  · exact .inr h

/-- The steps of the thread of `run`. -/
theorem sound_stopBegun (h : Sound p) (destroying : Bool) :
    Sound (p.move setup (.stopBegun destroying)) := by
  have hentered : ¬p.thread.Outside → Sound (p.beginStop destroying) := fun hthread =>
    h.beginStop fun hnone => absurd hnone (h.entered_of_thread hthread)
  simp only [VehicleMediaLoop.move]
  split
  · exact h.beginStop fun _ => rfl
  · rename_i hthread
    exact hentered (by rw [hthread]; exact id)
  · rename_i hthread
    exact hentered (by rw [hthread]; exact id)
  · rename_i hthread
    exact hentered (by rw [hthread]; exact id)
  · exact h

theorem sound_move (h : Sound p) (e : ThreadEvent) : Sound (p.move setup e) := by
  cases e with
  | elapsed ms =>
    exact ⟨h.session, fun hnone => ⟨(h.unentered hnone).channel, (h.unentered hnone).lanes,
      (h.unentered hnone).shut, (h.unentered hnone).inhibited, (h.unentered hnone).outside⟩,
      h.constructed, h.bare, h.pending, h.raised, h.latched⟩
  | sessionEntered sessionId =>
    simp only [VehicleMediaLoop.move]
    split
    · rename_i hthread
      exact sound_enterSession h hthread sessionId
    · exact h
  | attemptPrepared =>
    simp only [VehicleMediaLoop.move]
    split
    · rename_i hthread
      exact sound_prepareAttempt h hthread
    · exact h
  | channelPublished =>
    simp only [VehicleMediaLoop.move]
    split
    · rename_i hguard
      exact sound_channelPublished h hguard.1
    · exact h
  | laneStarted i =>
    simp only [VehicleMediaLoop.move]
    split
    · exact h.onLane i fun lane stage hstage => thread_ite (fun hno => (by cases hno)) hstage
    · exact h
  | loopEntered =>
    simp only [VehicleMediaLoop.move]
    split
    · rename_i hguard
      have hentered := h.entered_of_thread (by rw [hguard.1]; exact id)
      exact h.withThread (.inl rfl) (fun hno => (by cases hno)) (fun hno => hno.elim)
        fun hnone => absurd hnone hentered
    · exact h
  | graceChecked =>
    simp only [VehicleMediaLoop.move]
    split
    · rename_i hthread
      exact sound_checkGrace h hthread
    · exact h
  | freshnessEnforced =>
    simp only [VehicleMediaLoop.move]
    split
    · rename_i hthread
      exact sound_enforceFreshness h hthread
    · exact h
  | flagRaised thread =>
    simp only [VehicleMediaLoop.move]
    split
    · rename_i ht
      exact sound_raiseFlag h ht
    · exact h
  | latchInhibited thread =>
    simp only [VehicleMediaLoop.move]
    split
    · rename_i ht
      exact sound_inhibitLatch h ht
    · exact h
  | controlStopped thread =>
    simp only [VehicleMediaLoop.move]
    split
    · rename_i hguard
      exact sound_controlStopped h hguard.1 hguard.2
    · exact h
  | laneEncoded i =>
    exact h.onLane i fun lane stage hstage => by
      split at hstage
      · exact .inr hstage
      · exact .inr hstage
  | laneFailed i retryable =>
    exact h.onLane i fun lane stage hstage =>
      thread_ite (fun hfails => .inl (lane.fails_inhibition retryable hfails)) hstage
  | laneDecided i =>
    exact h.onLane i fun lane stage hstage => .inr (lane.decides_inhibition hstage)
  | laneEnded i =>
    exact h.onLane i fun lane stage hstage => thread_ite (fun hno => (by cases hno)) hstage
  | startCalled driverId controlToken =>
    simp only [VehicleMediaLoop.move]
    split
    · exact sound_callStart h driverId controlToken
    · exact h
  | cameraChecked =>
    simp only [VehicleMediaLoop.move]
    split
    · rename_i start i hstart
      exact sound_checkCamera h hstart
    · exact h
  | startArmed =>
    simp only [VehicleMediaLoop.move]
    split
    · rename_i start i hstart
      split
      · exact h
      · exact sound_armStart h hstart
    · exact h
  | startOpened utcMs =>
    simp only [VehicleMediaLoop.move]
    split
    · rename_i start hstart
      exact sound_openStart h hstart utcMs
    · exact h
  | stopFlagged =>
    exact h.withRuntime { p.runtime with stopRequested := true } (fun hshut => hshut) rfl
      fun _ => ⟨rfl, rfl, rfl⟩
  | pipelineFaulted =>
    simp only [VehicleMediaLoop.move]
    split
    · rename_i hfree
      have hsettled := settled_stopControl setup.adapter
        { p.runtime.unobserved with stopRequested := true } ⟨.softwareFault, .mediaPipelineFailed⟩
      exact h.region hfree (fun _ => shut_stopControl setup.adapter _ _)
        hsettled.controlInhibited
    · exact h
  | stopBegun destroying => exact sound_stopBegun h destroying
  | pipelineStopped =>
    simp only [VehicleMediaLoop.move]
    split
    · rename_i destroying hthread
      split
      · rename_i hfree
        exact sound_pipelineStopped h hthread hfree
      · exact h
    · exact h
  | lanesJoined =>
    simp only [VehicleMediaLoop.move]
    split
    · rename_i destroying hthread
      split
      · exact sound_afterJoin h hthread
      · exact h
    · exact h
  | handled e =>
    simp only [VehicleMediaLoop.move]
    split
    · rename_i hguard
      have hsettled := settled_region setup.adapter setup.createAdapter p.runtime hguard.1
      exact h.region hguard.2.1 (fun hshut => (hsettled.shut hshut).1) hsettled.controlInhibited
    · exact h

theorem sound_step (h : Sound p) (e : ThreadEvent) : Sound (p.step setup e) :=
  sound_move h.unobserved e

theorem sound_init (setup : MediaSetup σ) : Sound (mediaLoop setup).init := by
  refine ⟨fun hno => absurd rfl hno, fun _ => ⟨rfl, rfl, ⟨rfl, rfl⟩, rfl, trivial⟩, fun _ => rfl,
    fun _ => rfl, fun hno => (by cases hno), fun thread stage hno => ?_, fun thread hno => ?_⟩
  · cases thread <;> cases hno
  · cases thread <;> cases hno

end

end MineTeleop.Media
