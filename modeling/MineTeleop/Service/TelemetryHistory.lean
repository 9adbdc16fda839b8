import MineTeleop.Service.Moves

/-!
# The telemetry history

A tick takes a snapshot when one is due.  Proved here:

* `same_operation`: no other operation touches the history or the sequence numbers, and neither does
  a tick ahead of its snapshot;
* `recordTelemetry_due`: what a snapshot leaves, by the reading that fails;
* `Tracks.step`: the history against all snapshots of the run;
* `telemetry_atomic_iff`: the runs in which a failed snapshot leaves no trace.
-/

namespace MineTeleop.Service

open Bridge (StopContext)
open Programs
open Runs

variable {σ : Type}

/-! ## What leaves the history alone -/

/-- The same history and the same next sequence number. -/
def SameTelemetry (w w' : World σ) : Prop :=
  w'.service.telemetryHistory = w.service.telemetryHistory ∧
  w'.service.telemetrySequence = w.service.telemetrySequence

instance : Std.Refl (@SameTelemetry σ) := ⟨fun _ => ⟨rfl, rfl⟩⟩

instance : IsTrans (World σ) SameTelemetry :=
  ⟨fun _ _ _ h h' => ⟨h'.1.trans h.1, h'.2.trans h.2⟩⟩

section
variable {adapter : VehicleAdapter σ} {t : ℤ}

theorem same_getService : Within SameTelemetry (getService : Operation σ VehicleControlService) :=
  fun _ => ⟨rfl, rfl⟩

theorem same_modifyService {f : VehicleControlService → VehicleControlService}
    (hhistory : ∀ s, (f s).telemetryHistory = s.telemetryHistory)
    (hsequence : ∀ s, (f s).telemetrySequence = s.telemetrySequence) :
    Within SameTelemetry (modifyService f : Operation σ Unit) :=
  fun w => ⟨hhistory w.service, hsequence w.service⟩

theorem same_observe (o : Observation) : Within SameTelemetry (observe o : Operation σ Unit) :=
  fun _ => ⟨rfl, rfl⟩

theorem same_moveSafety (f : SafetyStateMachine → SafetyStateMachine) :
    Within SameTelemetry (moveSafety f : Operation σ Unit) :=
  fun _ => ⟨rfl, rfl⟩

theorem same_call (c : AdapterCall) : Within SameTelemetry (call adapter c) :=
  fun _ => ensures_call (fun _ _ => ⟨rfl, rfl⟩) fun _ _ => ⟨rfl, rfl⟩

theorem same_clearSessionProfile : Within SameTelemetry (clearSessionProfile adapter) :=
  .bind (same_modifyService (fun _ => rfl) fun _ => rfl) fun _ =>
    .tryCatch (same_call _) fun _ => .pure ()

theorem same_refreshAdapterSafeStopState :
    Within SameTelemetry (refreshAdapterSafeStopState adapter) := by
  refine .tryCatch (.bind (same_call _) fun _ => .bind (same_call _) fun _ =>
    .bind (same_modifyService (fun _ => rfl) fun _ => rfl) fun _ => ?_) fun _ => .pure false
  exact .ite (.bind same_clearSessionProfile fun _ => .pure true) (.pure true)

theorem same_start : Within SameTelemetry (start adapter) := by
  refine .bind same_getService fun s => .ite (.pure ()) ?_
  refine .bind (same_call _) fun _ => .bind ?_ fun _ => .bind (same_moveSafety _) fun _ =>
    same_modifyService (fun _ => rfl) fun _ => rfl
  exact .tryCatch (same_call _) fun e => .bind (same_call _) fun _ => .throw e

/-! ### The session profile -/

theorem same_cacheResult (request : SessionControlProfileRequest) (accepted : Bool)
    (reason : String) :
    Within SameTelemetry
      (cacheResult request t accepted reason : Operation σ SessionControlProfileResult) :=
  .bind same_getService fun _ => .bind (same_modifyService (fun _ => rfl) fun _ => rfl) fun _ =>
    .pure _

theorem same_parkingRefusal : Within SameTelemetry (parkingRefusal adapter) := by
  have hread : Within SameTelemetry
      (some <$> call adapter .vcuHandshakeStatus : Operation σ (Option VcuHandshakeStatus)) := by
    rw [← bind_pure_comp]
    exact .bind (same_call _) fun _ => .pure _
  refine .bind (.tryCatch hread fun _ => .pure none) fun handshake => ?_
  cases handshake with
  | none => exact .pure _
  | some status => exact .ite (.pure _) (.ite (.pure _) (.pure _))

theorem same_installSessionProfile (request : SessionControlProfileRequest)
    (profile : SessionControlProfile ℚ) :
    Within SameTelemetry (installSessionProfile adapter request profile) := by
  refine .bind (same_call _) fun revision => .ite (.bind (.throw _) fun _ => ?rest) ?rest
  refine .bind same_getService fun s => ?_
  cases s.lastEffectiveCommand with
  | none => exact .pure ()
  | some command =>
    exact .ite (.bind (same_call _) fun _ => same_modifyService (fun _ => rfl) fun _ => rfl)
      (.pure ())

theorem same_abandonSessionProfile : Within SameTelemetry (abandonSessionProfile adapter) :=
  .bind (.tryCatch (same_call _) fun _ => .pure ()) fun _ => same_clearSessionProfile

theorem same_adoptSessionProfile (request : SessionControlProfileRequest)
    (profile : SessionControlProfile ℚ) :
    Within SameTelemetry (adoptSessionProfile adapter request profile t) := by
  refine .bind (.tryCatch (.bind (same_installSessionProfile request profile) fun _ => .pure true)
    fun _ => .bind same_abandonSessionProfile fun _ => .pure false) fun installed => ?_
  exact .ite (.bind (same_modifyService (fun _ => rfl) fun _ => rfl) fun _ =>
    same_cacheResult request true _) (same_cacheResult request false _)

theorem same_changeSessionProfile (request : SessionControlProfileRequest)
    (profile : SessionControlProfile ℚ) :
    Within SameTelemetry (changeSessionProfile adapter request profile t) := by
  refine .bind same_getService fun s => .bind (same_call _) fun status => ?_
  refine .ite (.bind same_parkingRefusal ?rest) (.bind (.pure none) ?rest)
  intro refusal
  cases refusal with
  | some reason => exact same_cacheResult request false reason
  | none => exact same_adoptSessionProfile request profile

theorem same_receiveSessionProfile (request : SessionControlProfileRequest) :
    Within SameTelemetry (receiveSessionProfile adapter request t) := by
  refine .bind same_getService fun s => .ite (.throw _) (.ite (.throw _) ?_)
  cases s.decideProfile request t with
  | reply idempotent reason => exact .pure _
  | replay result =>
    exact .bind (same_modifyService (fun _ => rfl) fun _ => rfl) fun _ => .pure _
  | refuse reason => exact same_cacheResult request false reason
  | proceed profile => exact same_changeSessionProfile request profile

/-! ### Commands -/

theorem same_evaluateControlWatchdog : Within SameTelemetry (evaluateControlWatchdog adapter t) := by
  refine .bind (same_moveSafety _) fun _ => .bind same_getService fun s => .ite ?_ (.pure ())
  refine .ite (.bind same_clearSessionProfile fun _ => ?rest) ?rest
  exact .bind same_getService fun s => .ite (same_call _) (.pure ())

theorem same_acceptCommand (command : ControlCommand) :
    Within SameTelemetry (acceptCommand command t : Operation σ ReceiveResult) := by
  refine .bind same_getService fun s => ?_
  cases s.receiver.accept command t with
  | error e => exact .throw e
  | ok accepted =>
    refine .bind (same_modifyService (fun _ => rfl) fun _ => rfl) fun _ => ?_
    exact .ite (.bind (same_observe _) fun _ => .pure _) (.pure _)

theorem same_admitCommand (command : ControlCommand) :
    Within SameTelemetry (admitCommand adapter command t) := by
  refine .ite (.bind (same_acceptCommand command) fun result => ?_)
    (.bind same_evaluateControlWatchdog fun _ => same_acceptCommand command)
  cases result.command with
  | some effective =>
    exact .bind (same_moveSafety _) fun _ => .bind same_clearSessionProfile fun _ => .pure _
  | none => exact .bind same_evaluateControlWatchdog fun _ => .pure _

theorem same_failControl (stopReason : Bridge.StopReason) (reason : String)
    (warnings : List String) :
    Within SameTelemetry (failControl adapter t stopReason reason warnings) :=
  .bind (same_moveSafety _) fun _ => .bind same_getService fun _ => .bind (same_call _) fun _ =>
    .bind same_clearSessionProfile fun _ => .pure _

theorem same_latchStop (result : ReceiveResult) (command : DriverCommand) :
    Within SameTelemetry (latchStop adapter result command t) := by
  refine .bind (same_moveSafety _) fun _ => .bind same_getService fun s => ?_
  exact .ite (.ite (.bind same_clearSessionProfile fun _ => .bind (same_call _) fun _ => .pure _)
    (.bind (same_call _) fun _ => .pure _)) (.pure _)

theorem same_applyCommand (result : ReceiveResult) (command remembered : DriverCommand) :
    Within SameTelemetry (applyCommand adapter result command remembered t) := by
  refine .bind (.tryCatch (.bind (same_call _) fun _ => .pure none) fun e => ?_) fun rejection => ?_
  · cases e with
    | controlRejected issueCode resultCode => exact .pure _
    | invalidArgument what | runtimeError what => exact .throw _
  · cases rejection with
    | some issueCode => exact .pure _
    | none =>
      exact .bind (same_moveSafety _) fun _ =>
        .bind (same_modifyService (fun _ => rfl) fun _ => rfl) fun _ => .pure _

theorem same_commitCommand (result : ReceiveResult) (command : DriverCommand) :
    Within SameTelemetry (commitCommand adapter result command t) := by
  refine .bind same_getService fun s => ?_
  cases safetyCommand s command with
  | error message => exact .throw _
  | ok remembered =>
    exact .ite (same_applyCommand result command remembered) (same_latchStop result remembered)

theorem same_pollFeedbackFails : Within SameTelemetry (pollFeedbackFails adapter) :=
  .tryCatch (.bind (same_call _) fun _ => .pure false) fun _ => .pure true

theorem same_observeAdapter (result : ReceiveResult) (command : DriverCommand) :
    Within SameTelemetry (observeAdapter adapter result command t) := by
  refine .ite (.bind (.pure false) ?rest) (.bind same_pollFeedbackFails ?rest)
  intro pollFailed
  refine .bind same_refreshAdapterSafeStopState fun observed => .bind same_getService fun s => ?_
  refine .ite (same_commitCommand result command) (.ite (.pure _) (.ite (same_failControl _ _ _)
    (.ite (same_failControl _ _ _) (.ite (.bind (same_call _) ?ready) (.bind (.pure true) ?ready)))))
  intro ready
  exact .ite (same_commitCommand result command)
    (.bind (same_call _) fun _ => .bind same_clearSessionProfile fun _ => .pure _)

theorem same_handleAccepted (result : ReceiveResult) (effective : DriverCommand) :
    Within SameTelemetry (handleAccepted adapter result effective t) := by
  refine .bind same_getService fun s => .ite ?_ (.ite (.pure _) (same_observeAdapter _ _))
  exact .ite (.bind (same_call _) fun _ => .pure _) (.pure _)

theorem same_receiveCommand (command : ControlCommand) :
    Within SameTelemetry (receiveCommand adapter command t) := by
  refine .bind same_getService fun s => .ite (.throw _) (.bind (same_admitCommand command) ?_)
  intro result
  cases result.command with
  | none => exact .pure _
  | some effective => exact same_handleAccepted result effective

/-! ### The other operations -/

theorem same_requestVcuHandshake : Within SameTelemetry (requestVcuHandshake adapter) := by
  refine .bind same_getService fun s => .ite (.throw _) (.ite (.pure _) (.ite (.pure _) ?_))
  refine .bind (same_call _) fun granted => .ite (.pure _) (.bind same_getService fun s => ?_)
  exact .bind (same_moveSafety _) fun _ =>
    .ite (.pure _) (.bind (same_modifyService (fun _ => rfl) fun _ => rfl) fun _ => .pure _)

theorem same_disconnectVcuHandshake : Within SameTelemetry (disconnectVcuHandshake adapter) := by
  refine .bind same_getService fun s => .ite (.throw _) (.bind (same_call _) fun disconnected => ?_)
  exact .ite (.bind (same_modifyService (fun _ => rfl) fun _ => rfl) fun _ =>
    .bind same_clearSessionProfile fun _ => .pure _) (.pure _)

theorem same_observeForReset : Within SameTelemetry (observeForReset adapter) :=
  .tryCatch (.bind (same_call _) fun _ => .bind (same_call _) fun _ =>
    .bind (same_modifyService (fun _ => rfl) fun _ => rfl) fun _ => .pure _) fun _ => .pure none

theorem same_resetEstop (localConfirmed : Bool) (authorizedBy : String) :
    Within SameTelemetry (resetEstop adapter localConfirmed authorizedBy) := by
  refine .bind same_getService fun s => .ite (.pure _) (.bind same_observeForReset fun observed => ?_)
  cases observed with
  | none => exact .pure _
  | some gear =>
    refine .bind (.tryCatch (.bind (same_call _) fun _ => .pure true) fun _ =>
      .bind (same_modifyService (fun _ => rfl) fun _ => rfl) fun _ => .pure false) fun cleared => ?_
    refine .ite (.pure _) (.bind same_getService fun s => .bind (same_moveSafety _) fun _ => ?_)
    exact .ite (.pure _) (.bind (same_modifyService (fun _ => rfl) fun _ => rfl) fun _ =>
      .bind same_refreshAdapterSafeStopState fun _ => .pure _)

theorem same_close (context : StopContext) : Within SameTelemetry (close adapter context) :=
  .bind same_getService fun _ => .ite (.pure ()) (.bind (same_call _) fun _ =>
    .bind same_clearSessionProfile fun _ => .bind (same_call _) fun _ =>
      same_modifyService (fun _ => rfl) fun _ => rfl)

/-! ## A tick up to its snapshot -/

/-- `tick` without the snapshot at its end. -/
def beforeSnapshot (adapter : VehicleAdapter σ) (timestampMs : ℤ) : Operation σ Unit := do
  let s ← getService
  if s.started = false then throw notStarted
  else
    let pollFailed ← pollFeedbackFails adapter
    let observed ← refreshAdapterSafeStopState adapter
    let s ← getService
    if (observed = false ∨ pollFailed = true) ∧ s.adapterSafeStopActive = false ∧
        s.requireFeedbackBeforeControl = true ∧ s.safety.state ≠ .estop ∧
        s.safety.state ≠ .fault then
      moveSafety SafetyStateMachine.markFault
    evaluateControlWatchdog adapter timestampMs

theorem tick_eq (adapter : VehicleAdapter σ) (timestampMs : ℤ) :
    tick adapter timestampMs = (do
      beforeSnapshot adapter timestampMs
      recordTelemetry adapter timestampMs) := by
  unfold tick beforeSnapshot
  rw [bind_assoc]
  congr 1
  funext s
  split
  · rfl
  rw [bind_assoc]
  congr 1
  funext pollFailed
  rw [bind_assoc]
  congr 1
  funext observed
  rw [bind_assoc]
  congr 1
  funext s
  split
  · rw [bind_assoc]
  · rfl

theorem same_beforeSnapshot (adapter : VehicleAdapter σ) (t : ℤ) :
    Within SameTelemetry (beforeSnapshot adapter t) := by
  refine .bind same_getService fun s => .ite (.throw _) (.bind same_pollFeedbackFails ?_)
  intro pollFailed
  refine .bind same_refreshAdapterSafeStopState fun observed => .bind same_getService fun s => ?_
  exact .ite (.bind (same_moveSafety _) fun _ => same_evaluateControlWatchdog)
    same_evaluateControlWatchdog

end

/-! ## One snapshot -/

/-- The interval since the last snapshot has passed. -/
def VehicleControlService.SnapshotDue (s : VehicleControlService) (timestampMs : ℤ) : Prop :=
  ∀ last ∈ s.lastTelemetryMs, s.telemetryIntervalMs ≤ timestampMs - last

instance (s : VehicleControlService) (timestampMs : ℤ) : Decidable (s.SnapshotDue timestampMs) :=
  inferInstanceAs (Decidable (∀ last ∈ s.lastTelemetryMs, _))

/-- What the three readings of a snapshot come to, from the adapter's state on. -/
def snapshotReads (adapter : VehicleAdapter σ) (a : σ) :
    Except Failure (VehicleTelemetry × VehicleAdapterStatus × VcuHandshakeStatus) := do
  let telemetry := adapter.answer .readTelemetry a
  let status := adapter.answer .status telemetry.2
  let handshake := adapter.answer .vcuHandshakeStatus status.2
  return (← telemetry.1, ← status.1, ← handshake.1)

/-- The entry of the history with what was read. -/
def VehicleControlService.snapshot (s : VehicleControlService) (timestampMs : ℤ)
    (reads : VehicleTelemetry × VehicleAdapterStatus × VcuHandshakeStatus) : ServiceTelemetry where
  seq := s.telemetrySequence + 1
  sentAtUtcMs := timestampMs
  safetyState := s.safety.state
  telemetry := reads.1
  adapterStatus := reads.2.1
  handshake := reads.2.2
  activeProfile := s.activeSessionProfile
  lastResult := s.lastSessionProfileResult

section
variable {adapter : VehicleAdapter σ} {a : σ} {telemetry : VehicleTelemetry}
  {status : VehicleAdapterStatus} {handshake : VcuHandshakeStatus} {failure : Failure}

/-- Where the adapter is behind its telemetry, and behind its status. -/
theorem snapshotReads_ok (htelemetry : (adapter.answer .readTelemetry a).1 = .ok telemetry)
    (hstatus : (adapter.answer .status (adapter.answer .readTelemetry a).2).1 = .ok status)
    (hhandshake : (adapter.answer .vcuHandshakeStatus
      (adapter.answer .status (adapter.answer .readTelemetry a).2).2).1 = .ok handshake) :
    snapshotReads adapter a = .ok (telemetry, status, handshake) := by
  unfold snapshotReads
  dsimp only
  rw [htelemetry, hstatus, hhandshake]
  rfl

theorem snapshotReads_telemetry (h : (adapter.answer .readTelemetry a).1 = .error failure) :
    snapshotReads adapter a = .error failure := by
  unfold snapshotReads
  dsimp only
  rw [h]
  rfl

theorem snapshotReads_status (htelemetry : (adapter.answer .readTelemetry a).1 = .ok telemetry)
    (h : (adapter.answer .status (adapter.answer .readTelemetry a).2).1 = .error failure) :
    snapshotReads adapter a = .error failure := by
  unfold snapshotReads
  dsimp only
  rw [htelemetry, h]
  rfl

theorem snapshotReads_handshake (htelemetry : (adapter.answer .readTelemetry a).1 = .ok telemetry)
    (hstatus : (adapter.answer .status (adapter.answer .readTelemetry a).2).1 = .ok status)
    (h : (adapter.answer .vcuHandshakeStatus
      (adapter.answer .status (adapter.answer .readTelemetry a).2).2).1 = .error failure) :
    snapshotReads adapter a = .error failure := by
  unfold snapshotReads
  dsimp only
  rw [htelemetry, hstatus, h]
  rfl

end

/-- The history once there is room for one entry. -/
def roomFor (history : List ServiceTelemetry) : List ServiceTelemetry :=
  if history.length = maxVehicleTelemetryHistory then history.tail else history

/-- What a snapshot in `w` leaves in `s`. -/
def Recorded (adapter : VehicleAdapter σ) (w : World σ) (t : ℤ) (s : VehicleControlService) : Prop :=
  match snapshotReads adapter w.adapter with
  | .ok reads =>
    s.telemetryHistory =
      roomFor w.service.telemetryHistory ++ [w.service.snapshot t reads] ∧
    s.telemetrySequence = w.service.telemetrySequence + 1
  | .error _ =>
    s.telemetryHistory = roomFor w.service.telemetryHistory ∧
    s.telemetrySequence =
      if (adapter.answer .readTelemetry w.adapter).1.isOk then w.service.telemetrySequence + 1
      else w.service.telemetrySequence

section
variable {adapter : VehicleAdapter σ} {w : World σ} {t : ℤ} {s : VehicleControlService}

theorem Recorded.ok {reads : VehicleTelemetry × VehicleAdapterStatus × VcuHandshakeStatus}
    (h : snapshotReads adapter w.adapter = .ok reads)
    (hhistory : s.telemetryHistory =
      roomFor w.service.telemetryHistory ++ [w.service.snapshot t reads])
    (hsequence : s.telemetrySequence = w.service.telemetrySequence + 1) :
    Recorded adapter w t s := by
  unfold Recorded
  rw [h]
  exact ⟨hhistory, hsequence⟩

theorem Recorded.error {failure : Failure} {answer : Except Failure VehicleTelemetry}
    (h : snapshotReads adapter w.adapter = .error failure)
    (hanswer : (adapter.answer .readTelemetry w.adapter).1 = answer)
    (hhistory : s.telemetryHistory = roomFor w.service.telemetryHistory)
    (hsequence : s.telemetrySequence =
      if answer.isOk then w.service.telemetrySequence + 1 else w.service.telemetrySequence) :
    Recorded adapter w t s := by
  unfold Recorded
  rw [h, hanswer]
  exact ⟨hhistory, hsequence⟩

end

theorem recordTelemetry_due (adapter : VehicleAdapter σ) {w : World σ} {t : ℤ}
    (hdue : w.service.SnapshotDue t) :
    Ensures (recordTelemetry adapter t) w (fun _ w' => Recorded adapter w t w'.service)
      fun _ _ => False := by
  unfold recordTelemetry
  rw [ensures_bind, ensures_getService]
  extract_lets due
  have hnow : due = true := by
    simp only [due]
    cases hlast : w.service.lastTelemetryMs with
    | none => rfl
    | some last => exact decide_eq_true (hdue last hlast)
  rw [if_pos hnow, ensures_tryCatch, ensures_bind, ensures_modifyService, ensures_bind]
  unfold buildTelemetry
  rw [ensures_bind]
  refine ensures_call (fun telemetry htelemetry => ?_) fun failure hfailure => ?_
  · rw [ensures_bind, ensures_modifyService, ensures_bind]
    refine ensures_call (fun status hstatus => ?_) fun failure hfailure => ?_
    · rw [ensures_bind]
      refine ensures_call (fun handshake hhandshake => ?_) fun failure hfailure => ?_
      · rw [ensures_bind, ensures_getService, ensures_pure, ensures_modifyService]
        exact .ok (snapshotReads_ok (a := w.adapter) htelemetry hstatus hhandshake) rfl rfl
      · exact .error (snapshotReads_handshake (a := w.adapter) htelemetry hstatus hfailure)
          htelemetry rfl rfl
    · exact .error (snapshotReads_status (a := w.adapter) htelemetry hfailure) htelemetry rfl rfl
  · exact .error (snapshotReads_telemetry (a := w.adapter) hfailure) hfailure rfl rfl

theorem recordTelemetry_notDue (adapter : VehicleAdapter σ) {w : World σ} {t : ℤ}
    (hdue : ¬w.service.SnapshotDue t) :
    Ensures (recordTelemetry adapter t) w (fun _ w' => w' = w) fun _ _ => False := by
  unfold recordTelemetry
  rw [ensures_bind, ensures_getService]
  extract_lets due
  have hnot : ¬due = true := by
    simp only [due]
    intro hnow
    refine hdue fun last hlast => ?_
    rw [hlast] at hnow
    exact of_decide_eq_true hnow
  rw [if_neg hnot]
  exact rfl

/-! ## One step of the service -/

/-- The world and the time of the snapshot that an event takes, when it takes one. -/
def snapshotWorld (adapter : VehicleAdapter σ) (w : World σ) : Event → Option (World σ × ℤ)
  | .tick t =>
    match (beforeSnapshot adapter t).exec { w with trace := [] } with
    | (.ok _, w') => if w'.service.SnapshotDue t then some (w', t) else none
    | (.error _, _) => none
  | _ => none

theorem same_operation (adapter : VehicleAdapter σ) {e : Event} (h : ∀ t, e ≠ .tick t) :
    Within SameTelemetry (operation adapter e) := by
  have hmap : ∀ {α : Type} {p : Operation σ α} (f : α → Reply), Within SameTelemetry p →
      Within SameTelemetry (f <$> p) := by
    intro α p f hp
    rw [← bind_pure_comp]
    exact .bind hp fun _ => .pure _
  cases e with
  | start t => exact .bind same_start fun _ => .pure _
  | receiveSessionProfile request t => exact hmap _ (same_receiveSessionProfile request)
  | receiveCommand command t => exact hmap _ (same_receiveCommand command)
  | requestVcuHandshake => exact hmap _ same_requestVcuHandshake
  | disconnectVcuHandshake => exact hmap _ same_disconnectVcuHandshake
  | tick t => exact absurd rfl (h t)
  | resetEstop localConfirmed authorizedBy t => exact hmap _ (same_resetEstop _ _)
  | close context => exact .bind (same_close context) fun _ => .pure _

/-- What an operation leaves, whether it returns or throws. -/
theorem respond_of_ensures {adapter : VehicleAdapter σ} {w : World σ} {e : Event}
    {I : World σ → Prop}
    (h : Ensures (operation adapter e) { w with trace := [] } (fun _ => I) fun _ => I) :
    I (respond adapter w e).2 :=
  ensures_state.mp h

theorem respond_tick {adapter : VehicleAdapter σ} {w : World σ} {t : ℤ} {I : World σ → Prop}
    (h : Ensures (beforeSnapshot adapter t) { w with trace := [] }
      (fun _ w' => Ensures (recordTelemetry adapter t) w' (fun _ => I) fun _ => I) fun _ => I) :
    I (respond adapter w (.tick t)).2 := by
  refine respond_of_ensures ?_
  show Ensures (tick adapter t >>= fun _ => pure Reply.done) _ _ _
  rw [ensures_bind, tick_eq, ensures_bind]
  exact h

section
variable {α : Type} {p : Operation σ α} {w w' : World σ} {Q : α → World σ → Prop}
  {R : Failure → World σ → Prop}

theorem ensures_of_ok {a : α} (h : p.exec w = (.ok a, w')) : Ensures p w Q R ↔ Q a w' := by
  unfold Ensures
  rw [h]

theorem ensures_of_error {failure : Failure} (h : p.exec w = (.error failure, w')) :
    Ensures p w Q R ↔ R failure w' := by
  unfold Ensures
  rw [h]

end

theorem respond_takes {adapter : VehicleAdapter σ} {w w₀ : World σ} {e : Event} {t : ℤ}
    (h : snapshotWorld adapter w e = some (w₀, t)) :
    SameTelemetry w w₀ ∧ Recorded adapter w₀ t (respond adapter w e).2.service := by
  cases e with
  | tick t' =>
    have hsame := same_beforeSnapshot adapter t' { w with trace := [] }
    dsimp only [snapshotWorld] at h
    rcases hexec : (beforeSnapshot adapter t').exec { w with trace := [] } with ⟨failure | u, w'⟩
    · rw [hexec] at h
      cases h
    · rw [hexec] at h
      dsimp only at h
      split at h
      · rename_i hdue
        obtain ⟨rfl, rfl⟩ := Prod.mk.inj (Option.some.inj h)
        refine ⟨(ensures_of_ok hexec).mp hsame,
          respond_tick (I := fun w => Recorded adapter w' t' w.service) ?_⟩
        rw [ensures_of_ok hexec]
        exact (recordTelemetry_due adapter hdue).mono (fun _ _ h => h) fun _ _ h => h.elim
      · cases h
  | _ => cases h

theorem respond_takes_none {adapter : VehicleAdapter σ} {w : World σ} {e : Event}
    (h : snapshotWorld adapter w e = none) : SameTelemetry w (respond adapter w e).2 := by
  cases e with
  | tick t =>
    have hsame := same_beforeSnapshot adapter t { w with trace := [] }
    dsimp only [snapshotWorld] at h
    refine respond_tick ?_
    rcases hexec : (beforeSnapshot adapter t).exec { w with trace := [] } with ⟨failure | u, w'⟩
    · exact (ensures_of_error hexec).mpr ((ensures_of_error hexec).mp hsame)
    · rw [hexec] at h
      dsimp only at h
      split at h
      · cases h
      · rename_i hdue
        rw [ensures_of_ok hexec]
        refine (recordTelemetry_notDue adapter hdue).mono ?_ fun _ _ h => h.elim
        rintro _ _ rfl
        exact (ensures_of_ok hexec).mp hsame
  | _ =>
    refine respond_of_ensures (I := SameTelemetry w) ?_
    exact same_operation adapter (fun _ => Event.noConfusion) _

/-! ## Runs -/

/-- The snapshot that a step adds to the history. -/
def takenBy (adapter : VehicleAdapter σ) (st : ServiceStep σ) : List ServiceTelemetry :=
  match snapshotWorld adapter st.before st.event with
  | none => []
  | some (w, t) =>
    match snapshotReads adapter w.adapter with
    | .ok reads => [w.service.snapshot t reads]
    | .error _ => []

section
variable {adapter : VehicleAdapter σ} {st : ServiceStep σ} {w : World σ} {t : ℤ}

theorem takenBy_none (h : snapshotWorld adapter st.before st.event = none) :
    takenBy adapter st = [] := by
  unfold takenBy
  rw [h]

theorem takenBy_error {failure : Failure}
    (h : snapshotWorld adapter st.before st.event = some (w, t))
    (hreads : snapshotReads adapter w.adapter = .error failure) : takenBy adapter st = [] := by
  unfold takenBy
  rw [h]
  dsimp only
  rw [hreads]

theorem takenBy_ok {reads : VehicleTelemetry × VehicleAdapterStatus × VcuHandshakeStatus}
    (h : snapshotWorld adapter st.before st.event = some (w, t))
    (hreads : snapshotReads adapter w.adapter = .ok reads) :
    takenBy adapter st = [w.service.snapshot t reads] := by
  unfold takenBy
  rw [h]
  dsimp only
  rw [hreads]

end

/-- Every snapshot of a run that did not fail, the first one ahead. -/
def taken (adapter : VehicleAdapter σ) : ServiceHistory σ → List ServiceTelemetry
  | [] => []
  | st :: h => taken adapter h ++ takenBy adapter st

/-- A snapshot that fails leaves history and sequence number as they were. -/
def FailureLeaves (adapter : VehicleAdapter σ) (st : ServiceStep σ) : Prop :=
  ∀ w t failure, snapshotWorld adapter st.before st.event = some (w, t) →
    snapshotReads adapter w.adapter = .error failure → SameTelemetry st.before st.after

/-- If the adapter fails a snapshot then it fails the first reading, and the history has room. -/
def FailsEarly (adapter : VehicleAdapter σ) (st : ServiceStep σ) : Prop :=
  ∀ w t, snapshotWorld adapter st.before st.event = some (w, t) →
    (snapshotReads adapter w.adapter).isOk = true ∨
      (adapter.answer .readTelemetry w.adapter).1.isOk = false ∧
        w.service.telemetryHistory.length ≠ maxVehicleTelemetryHistory

theorem roomFor_eq_iff (history : List ServiceTelemetry) :
    roomFor history = history ↔ history.length ≠ maxVehicleTelemetryHistory := by
  unfold roomFor
  constructor
  · intro h hfull
    rw [if_pos hfull] at h
    have hlength := congrArg List.length h
    rw [List.length_tail, hfull] at hlength
    exact absurd hlength (by decide)
  · intro hroom
    rw [if_neg hroom]

/-- One step is atomic exactly when it fails early, if at all. -/
theorem failureLeaves_iff (adapter : VehicleAdapter σ) (built w : World σ) (e : Event) :
    FailureLeaves adapter ((machine adapter built).observe w e) ↔
      FailsEarly adapter ((machine adapter built).observe w e) := by
  constructor
  · intro hleaves w₀ t hsnapshot
    obtain ⟨hsame, hrecorded⟩ := respond_takes hsnapshot
    cases hreads : snapshotReads adapter w₀.adapter with
    | ok reads => exact .inl rfl
    | error failure =>
      obtain ⟨hhistory, hsequence⟩ := hleaves w₀ t failure hsnapshot hreads
      unfold Recorded at hrecorded
      rw [hreads] at hrecorded
      obtain ⟨hroom, hnext⟩ := hrecorded
      refine .inr ⟨?_, (roomFor_eq_iff _).mp (hroom.symm.trans (hhistory.trans hsame.1.symm))⟩
      by_contra hok
      rw [if_pos (Bool.not_eq_false _ ▸ hok)] at hnext
      have hback : w₀.service.telemetrySequence + 1 = w₀.service.telemetrySequence :=
        hnext.symm.trans (hsequence.trans hsame.2.symm)
      omega
  · intro hearly w₀ t failure hsnapshot hreads
    obtain ⟨hsame, hrecorded⟩ := respond_takes hsnapshot
    obtain hok | ⟨hfirst, hroom⟩ := hearly w₀ t hsnapshot
    · rw [hreads] at hok
      cases hok
    · unfold Recorded at hrecorded
      rw [hreads] at hrecorded
      obtain ⟨hhistory, hsequence⟩ := hrecorded
      rw [(roomFor_eq_iff _).mpr hroom] at hhistory
      rw [if_neg (by rw [hfirst]; exact Bool.false_ne_true)] at hsequence
      exact ⟨hhistory.trans hsame.1, hsequence.trans hsame.2⟩

/-- The history against all snapshots of the run. -/
structure Tracks (taken : List ServiceTelemetry) (s : VehicleControlService) : Prop where
  history : s.telemetryHistory = taken.drop (taken.length - maxVehicleTelemetryHistory)
  numbered : taken.map ServiceTelemetry.seq = List.range' 1 taken.length
  next : s.telemetrySequence = taken.length

theorem roomFor_drop (taken : List ServiceTelemetry) (telemetry : ServiceTelemetry) :
    roomFor (taken.drop (taken.length - maxVehicleTelemetryHistory)) ++ [telemetry] =
      (taken ++ [telemetry]).drop ((taken ++ [telemetry]).length - maxVehicleTelemetryHistory) := by
  have hpos : 0 < maxVehicleTelemetryHistory := by decide
  unfold roomFor
  generalize maxVehicleTelemetryHistory = limit at hpos
  rw [List.length_append, List.length_singleton, List.length_drop]
  by_cases hfull : limit ≤ taken.length
  · have hshift : taken.length - limit + 1 = taken.length + 1 - limit := by omega
    rw [if_pos (by omega), List.tail_drop, List.drop_append_of_le_length (by omega), hshift]
  · have hnone : taken.length - limit = 0 := by omega
    have hnext : taken.length + 1 - limit = 0 := by omega
    rw [if_neg (by omega), hnone, hnext, List.drop_zero, List.drop_zero]

theorem Tracks.step {adapter : VehicleAdapter σ} {built w : World σ} {h : ServiceHistory σ}
    (htracks : Tracks (taken adapter h) w.service) (e : Event)
    (hearly : FailsEarly adapter ((machine adapter built).observe w e)) :
    Tracks (taken adapter ((machine adapter built).observe w e :: h)) (respond adapter w e).2.service := by
  have hleaves := (failureLeaves_iff adapter built w e).mpr hearly
  have hunchanged : SameTelemetry w (respond adapter w e).2 →
      Tracks (taken adapter h) (respond adapter w e).2.service := fun hsame =>
    ⟨hsame.1.trans htracks.history, htracks.numbered, hsame.2.trans htracks.next⟩
  cases hsnapshot : snapshotWorld adapter w e with
  | none =>
    rw [taken, takenBy_none hsnapshot, List.append_nil]
    exact hunchanged (respond_takes_none hsnapshot)
  | some taking =>
    obtain ⟨w₀, t⟩ := taking
    obtain ⟨hsame, hrecorded⟩ := respond_takes hsnapshot
    cases hreads : snapshotReads adapter w₀.adapter with
    | error failure =>
      rw [taken, takenBy_error hsnapshot hreads, List.append_nil]
      exact hunchanged (hleaves w₀ t failure hsnapshot hreads)
    | ok reads =>
      unfold Recorded at hrecorded
      rw [hreads] at hrecorded
      obtain ⟨hhistory, hsequence⟩ := hrecorded
      have hnumber : (w₀.service.snapshot t reads).seq = (taken adapter h).length + 1 := by
        show w₀.service.telemetrySequence + 1 = _
        rw [hsame.2, htracks.next]
      rw [taken, takenBy_ok hsnapshot hreads]
      refine ⟨?_, ?_, ?_⟩
      · rw [hhistory, hsame.1, htracks.history, roomFor_drop]
      · rw [List.map_append, htracks.numbered, List.length_append, List.length_singleton,
          List.range'_concat, List.map_singleton, hnumber]
        congr 2
        omega
      · rw [hsequence, hsame.2, htracks.next, List.length_append, List.length_singleton]

/-! ## The law -/

/-- No more entries than allowed, the latest of all snapshots, numbered without a gap up to the last
number given out, and untouched by every snapshot that fails. -/
structure AtomicTelemetry (adapter : VehicleAdapter σ) (h : ServiceHistory σ)
    (s : VehicleControlService) : Prop where
  bounded : s.telemetryHistory.length ≤ maxVehicleTelemetryHistory
  recent : s.telemetryHistory =
    (taken adapter h).drop ((taken adapter h).length - maxVehicleTelemetryHistory)
  numbered : s.telemetryHistory.map ServiceTelemetry.seq =
    List.range' (s.telemetrySequence + 1 - s.telemetryHistory.length) s.telemetryHistory.length
  failures : Steps (FailureLeaves adapter) h

theorem Tracks.atomic {adapter : VehicleAdapter σ} {h : ServiceHistory σ}
    {s : VehicleControlService} (htracks : Tracks (taken adapter h) s)
    (hfailures : Steps (FailureLeaves adapter) h) : AtomicTelemetry adapter h s := by
  have hlength : s.telemetryHistory.length =
      (taken adapter h).length - ((taken adapter h).length - maxVehicleTelemetryHistory) := by
    rw [htracks.history, List.length_drop]
  refine ⟨by omega, htracks.history, ?_, hfailures⟩
  have hfirst : 1 + ((taken adapter h).length - maxVehicleTelemetryHistory) * 1 =
      (taken adapter h).length + 1 -
        ((taken adapter h).length - ((taken adapter h).length - maxVehicleTelemetryHistory)) := by
    omega
  rw [htracks.next, hlength, htracks.history, List.map_drop, htracks.numbered, List.drop_range',
    hfirst]

theorem telemetry_atomic_iff {adapter : VehicleAdapter σ} {built : World σ}
    (hhistory : built.service.telemetryHistory = [])
    (hsequence : built.service.telemetrySequence = 0) {h : ServiceHistory σ} {w : World σ}
    (hr : Run (machine adapter built) h w) :
    AtomicTelemetry adapter h w.service ↔ Steps (FailsEarly adapter) h := by
  have hsteps : Steps (FailureLeaves adapter) h ↔ Steps (FailsEarly adapter) h := by
    induction hr with
    | init => exact Iff.rfl
    | step e hr ih => exact and_congr (failureLeaves_iff adapter built _ e) ih
  constructor
  · intro hatomic
    exact hsteps.mp hatomic.failures
  · intro hearly
    have htracks : Tracks (taken adapter h) w.service := by
      refine Run.link (R := fun h w => Tracks (taken adapter h) w.service) ?_ ?_ hr hearly
      · exact ⟨hhistory.trans List.drop_nil.symm, rfl, hsequence⟩
      · intro h w e _ htracks hstep
        exact htracks.step e hstep
    exact htracks.atomic (hsteps.mpr hearly)

/-- A service on the bench with its first two snapshots. -/
theorem telemetry_atomic_bench :
    let run := (machine mock ⟨benchService, {}, []⟩).play [.start 0, .tick 0, .tick 100]
    AtomicTelemetry mock run.1 run.2.service := by
  intro run
  have hiff : AtomicTelemetry mock run.1 run.2.service ↔ Steps (FailsEarly mock) run.1 :=
    telemetry_atomic_iff rfl rfl (Run.play _ _)
  exact hiff.mpr ⟨fun _ _ _ => .inl rfl, fun _ _ _ => .inl rfl, fun _ _ _ => .inl rfl, trivial⟩

/-- The mock adapter with a counter of its status calls; the second one throws. -/
def interrupted : VehicleAdapter (MockVehicleAdapter × ℕ) where
  answer
    | .status, (m, n) =>
      (if n = 1 then .error (.runtimeError "status unavailable") else .ok m.status, (m, n + 1))
    | c, (m, n) => ((mock.answer c m).1, ((mock.answer c m).2, n))

/-- A number that went to a failed snapshot is missing in the history. -/
theorem telemetry_gap :
    let run := (machine interrupted ⟨benchService, ({}, 0), []⟩).play
      [.start 0, .tick 0, .tick 100, .tick 200]
    run.2.service.telemetryHistory.map ServiceTelemetry.seq = [1, 3] ∧
      ¬AtomicTelemetry interrupted run.1 run.2.service := by
  intro run
  have hnumbers : run.2.service.telemetryHistory.map ServiceTelemetry.seq = [1, 3] := by
    decide +kernel
  have hlength : run.2.service.telemetryHistory.length = 2 := by decide +kernel
  refine ⟨hnumbers, fun hatomic => ?_⟩
  have hnumbered := hatomic.numbered
  rw [hnumbers, hlength] at hnumbered
  have hnext : run.2.service.telemetrySequence = 3 := by decide +kernel
  rw [hnext] at hnumbered
  exact absurd hnumbered (by decide)

end MineTeleop.Service
