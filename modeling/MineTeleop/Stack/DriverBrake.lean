import MineTeleop.Bridge.Traction
import MineTeleop.Stack.LastBrake

/-!
# The driver's brake over runs

Proved here, for every run of a vehicle that one configuration has built:

* `operation_links`: every operation of the service keeps what service, adapter and bridge hold of
  the last accepted brake;
* `driver_brake`: every ordinary tick in Ready emits the pressure of that brake.
-/

namespace MineTeleop.Stack

open Programs Runs
open Bridge (BridgeRuntime Engaged Heeded OrdinaryTick)
open Service

section
variable {config : VehicleConfig} {past last : Option ℚ} {w : World Chassis}

/-- A program that keeps the brake, from a linked world. -/
theorem Keeps.ensures {α : Type} {p : Operation Chassis α} (hp : Within (Keeps config last) p)
    (h : Linked config last last w) :
    Ensures p w (fun _ w' => Linked config last last w' ∧ (Rests w.adapter → Rests w'.adapter))
      fun _ w' => Linked config last last w' ∧ (Rests w.adapter → Rests w'.adapter) :=
  (hp w).mono (fun _ _ hkeeps => hkeeps h) fun _ _ hkeeps => hkeeps h

/-- Without a session the safety machine may be in any state. -/
theorem Linked.moved (h : Linked config past last w) (hrests : Rests w.adapter)
    (f : SafetyStateMachine → SafetyStateMachine) : Linked config past last (w.moved f) :=
  ⟨h.carried, h.lawful, h.remembers.adapter, h.remembers.service, h.remembers.holds,
    h.remembers.rests, fun _ => hrests, fun b hb hengaged => absurd hengaged (hrests b hb)⟩

/-! ## Handshakes -/

theorem requestVcuHandshake_links (h : Linked config last last w) :
    Ensures (requestVcuHandshake dynamicLibrary) w
      (fun granted w' => Linked config last
        (lastAccepted last .requestVcuHandshake (.answered granted)) w')
      fun _ w' => Linked config last last w' := by
  unfold requestVcuHandshake
  rw [ensures_bind, ensures_getService]
  refine Ensures.ite (fun _ => h) fun _ => Ensures.ite (fun _ => h) fun hprofile =>
    Ensures.ite (fun _ => h) fun hfree => ?_
  have hadvance : Quiet last w.adapter w.adapter.advance := quiet_advance
  obtain ⟨hgrants, hrefuses⟩ :=
    requestVcuHandshake_carries last w.adapter.advance w.adapter.interlude.now
  have hquiet : (dynamicLibrary.answer .requestVcuHandshake w.adapter).1 ≠ .ok true →
      Linked config last last (w.after dynamicLibrary .requestVcuHandshake) := fun hne =>
    h.after _ (hadvance.trans (hrefuses hne))
  rw [ensures_bind]
  refine ensures_call (fun granted hanswer => ?_) fun failure hfailure =>
    hquiet fun hgranted => by cases hfailure.symm.trans hgranted
  refine Ensures.ite (fun hno => ?_) fun hyes => ?_
  · subst hno
    exact hquiet fun hgranted => by cases hanswer.symm.trans hgranted
  · obtain rfl : granted = true := by simpa using hyes
    obtain ⟨hlimits, hconfig, hcarried, hlawful⟩ := hgrants hanswer
    have hreset : (w.after dynamicLibrary .requestVcuHandshake).service.safety.resetToStandby =
        (true, w.service.safety.enterStandby) := resetToStandby_of_free hfree
    rw [ensures_bind, ensures_getService, hreset]
    show Ensures (moveSafety _ >>= _) _ _ _
    rw [ensures_bind, ensures_moveSafety]
    refine ⟨hcarried (hadvance.carried h.carried),
      hlawful (hadvance.carried h.carried) (hadvance.lawful h.carried h.lawful),
      hconfig.trans (hadvance.config.trans h.remembers.adapter), h.remembers.service,
      fun profile hmem => ?_, fun hnone => absurd hnone hprofile, fun hstate => ?_,
      fun _ _ _ _ hnone => absurd hnone (Option.not_mem_none _)⟩
    · exact hlimits.holds (hadvance.limits.holds (h.remembers.holds profile hmem))
    · cases hstate

theorem disconnectVcuHandshake_links (h : Linked config last last w) :
    Ensures (disconnectVcuHandshake dynamicLibrary) w
      (fun _ w' => Linked config last last w') fun _ w' => Linked config last last w' := by
  have hasked := h.after .disconnectVcuHandshake (quiet_answer trivial)
  unfold disconnectVcuHandshake
  rw [ensures_bind, ensures_getService]
  refine Ensures.ite (fun _ => h) fun _ => ?_
  rw [ensures_bind]
  refine ensures_call (fun disconnected _ => ?_) fun _ _ => hasked
  refine Ensures.ite (fun _ => ?_) fun _ => hasked
  rw [ensures_bind, ensures_modifyService, ensures_bind]
  have hflagged : Linked config last last
      ((w.after dynamicLibrary .disconnectVcuHandshake).withService fun s =>
        { s with adapterSafeStopActive := true }) := hasked.of_view rfl rfl
  exact (clearSessionProfile_links hflagged.loose).mono (fun _ _ h => h.1) fun _ _ h => h.elim

/-! ## Start, reset and close -/

theorem start_links (h : Linked config last last w)
    (hstopped : w.service.started = false → w.service.activeSessionProfile = none) :
    Ensures (start dynamicLibrary) w
      (fun _ w' => Linked config last last w') fun _ w' => Linked config last last w' := by
  unfold start
  rw [ensures_bind, ensures_getService]
  refine Ensures.ite (fun _ => h) fun hstarted => ?_
  have hprofile := hstopped (Bool.eq_false_of_not_eq_true hstarted)
  have hadvance : Quiet last w.adapter w.adapter.advance := quiet_advance
  have hopened := (h.loose.ends .openAdapter (Ends.behind
    (ends_openAdapter _ (hadvance.toTrails.rests (h.remembers.rests hprofile))) hadvance)
    hprofile).1
  have hcleared := (hopened.loose.ends .clearRuntimeControlProfile
    (Ends.behind ends_clearRuntimeControlProfile quiet_advance) hprofile).1
  have hclosed := (hcleared.loose.ends .closeAdapter
    (Ends.behind (ends_closeAdapter _) quiet_advance) hprofile).1
  rw [ensures_bind]
  refine ensures_call (fun _ _ => ?_) fun _ _ => hopened
  rw [ensures_bind, ensures_tryCatch]
  refine ensures_call (fun _ _ => ?_) fun _ _ => ?_
  · have hready : Within (Keeps config last)
        (do moveSafety SafetyStateMachine.markReady
            modifyService fun s => { s with started := true } : Operation Chassis Unit) := by
      refine .bind (keeps_moveSafety (fun m => ?_) fun m hestop => ?_) fun _ =>
        keeps_view fun _ => rfl
      · unfold SafetyStateMachine.markReady
        split <;> rfl
      · unfold SafetyStateMachine.markReady at hestop
        split at hestop
        · cases hestop
        · exact hestop
    exact (Keeps.ensures hready hcleared).mono (fun _ _ h => h.1) fun _ _ h => h.1
  · rw [ensures_bind]
    exact ensures_call (fun _ _ => hclosed) fun _ _ => hclosed

theorem close_links (h : Linked config last last w) (context : Bridge.StopContext) :
    Ensures (close dynamicLibrary context) w
      (fun _ w' => Linked config last last w') fun _ w' => Linked config last last w' := by
  have hstopped := (applySafeStop_links h ⟨.N, 0, 0, 1, true, false⟩ context (.inl (.inl rfl))).1
  unfold close
  rw [ensures_bind, ensures_getService]
  refine Ensures.ite (fun _ => h) fun _ => ?_
  rw [ensures_bind]
  refine ensures_call (fun _ _ => ?_) fun _ _ => hstopped
  rw [ensures_bind]
  refine (clearSessionProfile_links hstopped.loose).mono ?_ fun _ _ h => h.elim
  rintro _ w₁ ⟨h₁, hrests, hservice⟩
  have hclosed := (h₁.loose.ends .closeAdapter (Ends.behind (ends_closeAdapter _) quiet_advance)
    (by rw [hservice]; rfl)).1
  rw [ensures_bind]
  refine ensures_call (fun _ _ => ?_) fun _ _ => hclosed
  rw [ensures_modifyService]
  exact hclosed.of_view rfl rfl

theorem keeps_observeForReset :
    Within (Keeps config last) (observeForReset dynamicLibrary) :=
  .tryCatch (.bind (keeps_call trivial) fun _ => .bind (keeps_call trivial) fun _ =>
    .bind (keeps_view fun _ => rfl) fun _ => .pure _) fun _ => .pure _

/-- The service is reset from a stop, so no session is open. -/
theorem resetEstop_links (h : Linked config last last w) (localConfirmed : Bool)
    (authorizedBy : String) :
    Ensures (resetEstop dynamicLibrary localConfirmed authorizedBy) w
      (fun _ w' => Linked config last last w') fun _ w' => Linked config last last w' := by
  unfold resetEstop
  rw [ensures_bind, ensures_getService]
  refine Ensures.ite (fun _ => h) fun hallowed => ?_
  have hestop : w.service.safety.state = .estop := by
    by_contra hother
    exact hallowed (.inl hother)
  rw [ensures_bind]
  refine (Keeps.ensures keeps_observeForReset h).mono ?_ fun _ _ h => h.1
  rintro observed w₁ ⟨h₁, hkeeps⟩
  have hrests := hkeeps (h.remembers.stopped hestop)
  cases observed with
  | none => exact h₁
  | some gear =>
    obtain ⟨h₂, hkeeps₂⟩ := applySafeStop_links h₁ ⟨gear, 0, 0, 0, false, false⟩ {}
      (.inr (.inl hrests))
    rw [ensures_bind, ensures_tryCatch, ensures_bind]
    refine ensures_call (fun _ _ => ?_) fun _ _ => ?_
    · rw [ensures_pure, if_neg Bool.true_eq_false.mp, ensures_bind, ensures_getService]
      extract_lets reset
      rw [ensures_bind, ensures_moveSafety]
      have hmoved := h₂.moved (hkeeps₂ hrests) fun _ => reset.2
      refine Ensures.ite (fun _ => hmoved) fun _ => ?_
      rw [ensures_bind, ensures_modifyService, ensures_bind]
      have hflagged : Linked config last last
          (((w₁.after dynamicLibrary (.applySafeStop ⟨gear, 0, 0, 0, false, false⟩ {})).moved
            fun _ => reset.2).withService fun s => { s with adapterSafeStopActive := false }) :=
        hmoved.of_view rfl rfl
      exact (Keeps.ensures keeps_refreshAdapterSafeStopState hflagged).mono (fun _ _ h => h.1)
        fun _ _ h => h.1
    · rw [ensures_bind, ensures_modifyService, ensures_pure]
      exact h₂.of_view rfl rfl

end

/-! ## Profiles -/

/-- No session heeds an operator. -/
def Deaf (c : Chassis) : Prop := ∀ b ∈ c.bridge, Engaged b → ¬Heeded b

/-- Adapter and bridge have the profile, and the service only has to take it. -/
structure Installed (config : VehicleConfig) (last : Option ℚ) (profile : SessionControlProfile ℚ)
    (w : World Chassis) : Prop extends Loose config last w where
  holds : Holds profile w.adapter
  stopped : w.service.safety.state = .estop → Rests w.adapter
  recalls : ∀ b ∈ w.adapter.bridge, Engaged b → ∀ brake ∈ last,
    Recalls brake w.service (Bridge.parkedLimits b)

section
variable {config : VehicleConfig} {last : Option ℚ} {w : World Chassis} {c : Chassis}
  {profile : SessionControlProfile ℚ} {request : SessionControlProfileRequest} {t : ℤ}

theorem deaf_runIo {io : List IoEvent} (h : Deaf c) : Deaf (c.runIo io) := by
  induction io generalizing c with
  | nil => exact h
  | cons e io ih =>
    refine ih ?_
    show Deaf (c.deliver none e.toEvent)
    unfold Chassis.deliver
    split
    · exact h
    · rename_i b hb
      intro b' hb' hengaged hheeded
      obtain rfl := Option.some.inj hb'
      have hfollows := Bridge.follows_respond b e.toEvent (by cases e <;> exact id)
      exact h b hb (hfollows.engaged hengaged) (hfollows.heeded hengaged hheeded)

theorem keeps_cacheResult (accepted : Bool) (reason : String) :
    Within (Keeps config last)
      (cacheResult request t accepted reason : Operation Chassis SessionControlProfileResult) :=
  .bind keeps_get fun _ => .bind (keeps_view fun _ => rfl) fun _ => .pure _

theorem parkingRefusal_links (h : Linked config last last w) :
    Ensures (parkingRefusal dynamicLibrary) w
      (fun _ w' => Linked config last last w') fun _ _ => False := by
  have hasked := h.after .vcuHandshakeStatus (quiet_answer trivial)
  unfold parkingRefusal
  rw [ensures_bind, ensures_tryCatch, ensures_map]
  refine ensures_call (fun status _ => ?_) fun _ _ => hasked
  exact Ensures.ite (fun _ => hasked) fun _ => Ensures.ite (fun _ => hasked) fun _ => hasked

/-- The adapter takes the profile, or everything stays as it was. -/
theorem configure_links (h : Linked config last last w)
    (profile : SessionControlProfile ℚ) (revision : ℕ) :
    (∀ n, (dynamicLibrary.answer (.configureRuntimeControlProfile profile revision)
        w.adapter).1 = .ok n →
      Installed config last profile
        (w.after dynamicLibrary (.configureRuntimeControlProfile profile revision)) ∧
      Deaf (w.after dynamicLibrary (.configureRuntimeControlProfile profile revision)).adapter) ∧
    ∀ failure, (dynamicLibrary.answer (.configureRuntimeControlProfile profile revision)
        w.adapter).1 = .error failure →
      Linked config last last
        (w.after dynamicLibrary (.configureRuntimeControlProfile profile revision)) := by
  have hadvance : Quiet last w.adapter w.adapter.advance := quiet_advance
  obtain ⟨hinstalls, hfails⟩ := configure_installs last w.adapter.advance
    w.adapter.interlude.now profile revision
  refine ⟨fun n hok => ?_, fun failure hfailure =>
    h.after _ (hadvance.trans (hfails failure hfailure))⟩
  obtain ⟨-, hinstalled⟩ := hinstalls n hok
  have hcarried := hadvance.carried h.carried
  have hengaged : ∀ b' ∈ (w.after dynamicLibrary
      (.configureRuntimeControlProfile profile revision)).adapter.bridge, Engaged b' →
      ∃ b ∈ w.adapter.bridge, Engaged b ∧ Bridge.parkedLimits b' = Bridge.parkedLimits b := by
    intro b' hb' hengaged
    obtain ⟨b₁, hb₁, hengaged₁, hsame₁⟩ := hinstalled.engaged b' hb' hengaged
    obtain ⟨b, hb, hbefore, hsame⟩ := hadvance.engaged b₁ hb₁ hengaged₁
    exact ⟨b, hb, hbefore, hsame₁.trans hsame⟩
  refine ⟨⟨⟨hinstalled.carried hcarried,
    hinstalled.lawful hcarried (hadvance.lawful h.carried h.lawful),
    hinstalled.config.trans (hadvance.config.trans h.remembers.adapter), h.remembers.service⟩,
    hinstalled.holds, fun hstate b' hb' hafter => ?_, fun b' hb' hafter brake hbrake => ?_⟩,
    fun b hb _ => hinstalled.deaf b hb⟩
  · obtain ⟨b, hb, hbefore, -⟩ := hengaged b' hb' hafter
    exact h.remembers.stopped hstate b hb hbefore
  · obtain ⟨b, hb, hbefore, hsame⟩ := hengaged b' hb' hafter
    rw [hsame]
    exact h.remembers.recalls b hb hbefore brake hbrake

/-- The brake in force is applied once more, under the new profile. -/
theorem reapply_links (h : Installed config last profile w) (hdeaf : Deaf w.adapter)
    {command : DriverCommand} (hcommand : w.service.lastEffectiveCommand = some command) :
    Installed config last profile
      (w.after dynamicLibrary (.applyControl (w.service.reapplied profile command))) := by
  have hadvance : Quiet last w.adapter w.adapter.advance := quiet_advance
  have hcarried := hadvance.carried h.carried
  obtain ⟨htrails, hlawful⟩ := applyControl_trails last w.adapter.advance w.adapter.interlude.now
    (w.service.reapplied profile command)
  have hall := hadvance.toTrails.trans htrails
  have hholds := hadvance.limits.holds h.holds
  have hdeaf' : Deaf w.adapter.advance := deaf_runIo hdeaf
  have hreapplied : Carried last (w.adapter.advance.applyControl w.adapter.interlude.now
      (w.service.reapplied profile command)).2 := by
    refine applyControl_reapplies hcarried hholds hdeaf' fun b hb hengaged brake hbrake => ?_
    obtain ⟨b₀, hb₀, hbefore, -⟩ := hadvance.engaged b hb hengaged
    exact (h.recalls b₀ hb₀ hbefore brake hbrake).effective command hcommand
  refine ⟨⟨hreapplied, hlawful hcarried (hadvance.lawful h.carried h.lawful),
    hall.config.trans h.adapter, h.service⟩, htrails.limits.holds hholds,
    fun hstate => hall.rests (h.stopped hstate), fun b' hb' hengaged brake hbrake => ?_⟩
  obtain ⟨b, hb, hbefore, hsame⟩ := hall.engaged b' hb' hengaged
  rw [hsame]
  exact h.recalls b hb hbefore brake hbrake

theorem installSessionProfile_links (h : Linked config last last w) :
    Ensures (installSessionProfile dynamicLibrary request profile) w
      (fun _ w' => Installed config last profile w') fun _ w' => Loose config last w' := by
  obtain ⟨hinstalls, hfails⟩ := configure_links h profile request.seq
  unfold installSessionProfile
  rw [ensures_bind]
  refine ensures_call (fun revision hrevision => ?_) fun failure hfailure =>
    (hfails failure hfailure).loose
  obtain ⟨hinstalled, hdeaf⟩ := hinstalls revision hrevision
  extract_lets install
  refine Ensures.ite (fun _ => hinstalled.toLoose) fun _ => ?_
  show Ensures (getService >>= _) _ _ _
  rw [ensures_bind, ensures_getService]
  split
  · exact hinstalled
  · rename_i command hcommand
    refine Ensures.ite (fun _ => ?_) fun _ => hinstalled
    have hreapplied := reapply_links hinstalled hdeaf hcommand
    rw [ensures_bind]
    refine ensures_call (fun _ _ => ?_) fun _ _ => hreapplied.toLoose
    rw [ensures_modifyService]
    refine ⟨⟨hreapplied.carried, hreapplied.lawful, hreapplied.adapter, hreapplied.service⟩,
      hreapplied.holds, hreapplied.stopped, fun b hb hengaged brake hbrake => ?_⟩
    obtain ⟨hrange, hremembered, heffective⟩ := hreapplied.recalls b hb hengaged brake hbrake
    refine ⟨hrange, hremembered, fun c hc => ?_⟩
    obtain rfl := Option.some.inj hc
    exact heffective command hcommand

theorem abandonSessionProfile_links (h : Loose config last w) :
    Ensures (abandonSessionProfile dynamicLibrary) w
      (fun _ w' => Linked config last last w') fun _ _ => False := by
  have hstopped := h.after (.applySafeStop ⟨.N, 0, 0, 1, true, false⟩
    ⟨.softwareFault, .controlApplyFailed⟩) (quiet_answer (.inl rfl))
  have hcleared := (clearSessionProfile_links hstopped).mono (fun _ _ h => h.1) fun _ _ h => h
  unfold abandonSessionProfile
  rw [ensures_bind, ensures_tryCatch]
  exact ensures_call (fun _ _ => hcleared) fun _ _ => hcleared

theorem adoptSessionProfile_links (h : Linked config last last w) :
    Ensures (adoptSessionProfile dynamicLibrary request profile t) w
      (fun _ w' => Linked config last last w') fun _ w' => Linked config last last w' := by
  have hcached : ∀ {w' : World Chassis} (accepted : Bool) (reason : String),
      Linked config last last w' → Ensures (cacheResult request t accepted reason) w'
        (fun _ w' => Linked config last last w') fun _ w' => Linked config last last w' :=
    fun accepted reason h' => (Keeps.ensures (keeps_cacheResult accepted reason) h').mono
      (fun _ _ h => h.1) fun _ _ h => h.1
  unfold adoptSessionProfile
  rw [ensures_bind, ensures_tryCatch, ensures_bind]
  refine (installSessionProfile_links h).mono (fun _ w₁ h₁ => ?_) fun _ w₁ h₁ => ?_
  · rw [ensures_pure, if_pos rfl, ensures_bind, ensures_modifyService]
    refine hcached true "accepted" ⟨h₁.carried, h₁.lawful, h₁.adapter, h₁.service,
      fun p hp => ?_, fun hnone => (nomatch hnone), h₁.stopped,
      fun b hb hengaged brake hbrake => ?_⟩
    · obtain rfl := Option.some.inj hp
      exact h₁.holds
    · obtain ⟨hrange, hremembered, heffective⟩ := h₁.recalls b hb hengaged brake hbrake
      exact ⟨hrange, hremembered, heffective⟩
  · rw [ensures_bind]
    refine (abandonSessionProfile_links h₁).mono (fun _ w₂ h₂ => ?_) fun _ _ h => h.elim
    rw [ensures_pure, if_neg Bool.false_ne_true]
    exact hcached false _ h₂

theorem changeSessionProfile_links (h : Linked config last last w) :
    Ensures (changeSessionProfile dynamicLibrary request profile t) w
      (fun _ w' => Linked config last last w') fun _ w' => Linked config last last w' := by
  have hasked := h.after .status (quiet_answer trivial)
  unfold changeSessionProfile
  rw [ensures_bind, ensures_getService, ensures_bind]
  refine ensures_call (fun status _ => ?_) fun _ _ => hasked
  extract_lets bypass proceed
  have hproceeds : ∀ (refusal : Option String) (w₁ : World Chassis), Linked config last last w₁ →
      Ensures (proceed refusal) w₁
        (fun _ w' => Linked config last last w') fun _ w' => Linked config last last w' := by
    intro refusal w₁ h₁
    cases refusal with
    | some reason =>
      exact (Keeps.ensures (keeps_cacheResult false reason) h₁).mono (fun _ _ h => h.1)
        fun _ _ h => h.1
    | none => exact adoptSessionProfile_links h₁
  refine Ensures.ite (fun _ => ?_) fun _ => hproceeds none _ hasked
  rw [ensures_bind]
  exact (parkingRefusal_links hasked).mono (fun refusal w₁ h₁ => hproceeds refusal w₁ h₁)
    fun _ _ h => h.elim

theorem receiveSessionProfile_links (h : Linked config last last w) :
    Ensures (receiveSessionProfile dynamicLibrary request t) w
      (fun _ w' => Linked config last last w') fun _ w' => Linked config last last w' := by
  unfold receiveSessionProfile
  rw [ensures_bind, ensures_getService]
  refine Ensures.ite (fun _ => h) fun _ => Ensures.ite (fun _ => h) fun _ => ?_
  cases w.service.decideProfile request t with
  | reply idempotent reason => exact h
  | replay result =>
    rw [ensures_bind, ensures_modifyService]
    exact h.of_view rfl rfl
  | refuse reason =>
    exact (Keeps.ensures (keeps_cacheResult false reason) h).mono (fun _ _ h => h.1)
      fun _ _ h => h.1
  | proceed profile => exact changeSessionProfile_links h

/-! ## Every operation -/

theorem operation_links (h : Linked config last last w)
    (hstopped : w.service.started = false → w.service.activeSessionProfile = none)
    (e : Service.Event) :
    Ensures (operation dynamicLibrary e) w
      (fun reply w' => Linked config last (lastAccepted last e reply) w')
      fun _ w' => Linked config last last w' := by
  cases e with
  | start t => exact (ensures_bind _ _).mpr (start_links h hstopped)
  | receiveSessionProfile request t => exact (ensures_map _ _).mpr (receiveSessionProfile_links h)
  | receiveCommand command t => exact (ensures_map _ _).mpr (receiveCommand_links h)
  | requestVcuHandshake => exact (ensures_map _ _).mpr (requestVcuHandshake_links h)
  | disconnectVcuHandshake => exact (ensures_map _ _).mpr (disconnectVcuHandshake_links h)
  | tick t =>
    exact (ensures_bind _ _).mpr ((Keeps.ensures (keeps_tick t) h).mono (fun _ _ h => h.1)
      fun _ _ h => h.1)
  | resetEstop localConfirmed authorizedBy t =>
    exact (ensures_map _ _).mpr (resetEstop_links h localConfirmed authorizedBy)
  | close context => exact (ensures_bind _ _).mpr (close_links h context)

end

/-! ## Over runs -/

/-- The brake of the last accepted command, as far as the vehicle may still follow it. -/
def lastBrake : History (World Chassis) Event Reply → Option ℚ
  | [] => none
  | st :: past =>
    match st.event with
    | .operation e _ => lastAccepted (lastBrake past) e st.output
    | .io _ => lastBrake past

/-- The law of the ticks in one step of the vehicle. -/
def DriverBrakeLaw (st : Step (World Chassis) Event Reply)
    (past : History (World Chassis) Event Reply) : Prop :=
  ∀ entry ∈ st.after.adapter.log, BrakeLaw (lastBrake past) entry.step

/-- A vehicle whose parts hold the brake of the run that has led to it. -/
structure BrakeLink (config : VehicleConfig) (h : History (World Chassis) Event Reply)
    (w : World Chassis) : Prop where
  invariant : VehicleInvariant config w
  carried : Carried (lastBrake h) w.adapter
  remembers : Remembers config (lastBrake h) w

section
variable {config : VehicleConfig} {h : History (World Chassis) Event Reply} {w : World Chassis}

/-- Between two steps nothing is logged. -/
theorem BrakeLink.linked (hlink : BrakeLink config h w) (script : ℕ → Interlude) (calls : ℕ) :
    Linked config (lastBrake h) (lastBrake h)
      ⟨w.service, { w.adapter with script := script, calls := calls, log := [] }, []⟩ := by
  obtain ⟨hmatched, hopened, hcarries⟩ := hlink.carried
  obtain ⟨hadapter, hservice, hholds, hrests, hstopped, hrecalls⟩ := hlink.remembers
  exact ⟨⟨⟨hmatched.opened, hmatched.limits⟩, hopened, hcarries⟩,
    fun _ hentry => (nomatch hentry), hadapter, hservice, hholds, hrests, hstopped, hrecalls⟩

/-- A step logs by the brake before it, and leaves the brake behind it. -/
theorem BrakeLink.respond (hlink : BrakeLink config h w) (built : World Chassis) (e : Event) :
    Linked config (lastBrake h) (lastBrake ((machine built).observe w e :: h)) (respond w e).2 := by
  cases e with
  | operation e script =>
    have hoperation := operation_links (hlink.linked script 0) hlink.invariant.agreed.stopped e
    refine respond_ensures dynamicLibrary
      (Q := fun reply w' => Linked config (lastBrake h) (lastAccepted (lastBrake h) e reply) w')
      (hoperation.mono (fun _ _ h => h) fun failure w' hfailed => ?_)
    have hsame : lastAccepted (lastBrake h) e (.threw failure) = lastBrake h := by
      cases e <;> rfl
    rw [hsame]
    exact hfailed
  | io e =>
    have he : ¬Bridge.GivesDemand e.toEvent := by cases e <;> exact id
    exact (hlink.linked w.adapter.script w.adapter.calls).quiet
      (quiet_deliver none he (ioEvent_quiet e)) []

theorem brakeLink_step (hlink : BrakeLink config h w) (built : World Chassis) (e : Event) :
    BrakeLink config ((machine built).observe w e :: h) (respond w e).2 := by
  have hlinked := hlink.respond built e
  exact ⟨vehicleInvariant_respond hlink.invariant e, hlinked.carried, hlinked.remembers⟩

theorem brakeLink_built {built : World Chassis} (hbuilt : Built built) : ∃ config, BrakeLink config [] built := by
  obtain ⟨config, hinvariant⟩ := vehicleInvariant_built hbuilt
  obtain ⟨config', driverId, sessionId, controlToken, telemetryIntervalMs, service, adapter,
    hservice, hadapter, rfl⟩ := hbuilt
  have hnone : ∀ b, b ∉ (none : Option BridgeRuntime) := fun b => Option.not_mem_none b
  have hrests : Rests { adapter := adapter } := fun b hb => absurd hb (hnone b)
  exact ⟨config, hinvariant,
    ⟨hinvariant.matched, fun b hb => absurd hb (hnone b), fun b hb => absurd hb (hnone b)⟩,
    hinvariant.adapter, hinvariant.service, hinvariant.agreed.holds, fun _ => hrests,
    fun _ => hrests, fun b hb => absurd hb (hnone b)⟩

end

/-- Every ordinary tick in Ready under an active profile presses what the last accepted command asks
for, in whichever state the service holds that command. -/
theorem driver_brake {built w : World Chassis} {h : History (World Chassis) Event Reply}
    (hbuilt : Built built) (hr : Run (machine built) h w) : Always DriverBrakeLaw h := by
  obtain ⟨config, hlink⟩ := brakeLink_built hbuilt
  refine hr.always_of_link (C := fun _ => True) (R := BrakeLink config) hlink ?_ ?_ (steps_true h)
  · exact fun h w e _ hlink _ => brakeLink_step hlink built e
  · exact fun h w e _ hlink _ => (hlink.respond built e).lawful

/-- Half of the brake in D. -/
def brakingCommand (seq : ℕ) (milliseconds : ℤ) : Event :=
  .operation
    (.receiveCommand
      { benchCommand seq milliseconds "D" 0 0 (1 / 2) false with operatorActive := true }
      milliseconds)
    (quietAt milliseconds)

def coastingTick (milliseconds : ℤ) : Event := .io (.tick (Bridge.ms milliseconds) Bridge.coasting)

def feedbackAt (milliseconds : ℤ) (frame : Vcu.CanFrame) : Event :=
  .io (.ingest (Bridge.ms milliseconds) frame)

/-- The vehicle is armed in D under the braking command, and its parking brake released. -/
def brakingEvents : List Event :=
  sessionEvents benchProfile ++
  [.operation .requestVcuHandshake (quietAt 0), brakingCommand 1 10] ++
  [20, 40, 60, 80, 100, 120].map coastingTick ++
  [feedbackAt 120 (Vcu.handshakeFrame 5), coastingTick 140, brakingCommand 2 150,
    feedbackAt 150 (Vcu.parkingBrakeFrame fun _ => 1), coastingTick 160,
    feedbackAt 160 (Vcu.vehicleStatusFrame 3), coastingTick 180] ++
  (Vcu.injectedFrames Bridge.drivingRecord).map (feedbackAt 180) ++
  [coastingTick 200, brakingCommand 3 210, coastingTick 220,
    feedbackAt 230 (Vcu.parkingBrakeFrame fun _ => 1), coastingTick 240]

/-- The last tick brakes with half of the session's 60 bar. -/
theorem driver_brake_half :
    let run := (machine benchVehicle).play brakingEvents
    (∃ entry ∈ run.2.adapter.log, OrdinaryTick entry.step.before entry.step.after ∧
      ∃ batch ∈ entry.step.output.batch?, batch.brakePressure 0 = 30) ∧
      Always DriverBrakeLaw run.1 := by
  have hrun := Run.play (machine benchVehicle) brakingEvents
  exact ⟨by decide +kernel, driver_brake benchVehicle_built hrun⟩

end MineTeleop.Stack
