import MineTeleop.Bridge.Configuration
import MineTeleop.Service.Agreement
import MineTeleop.Stack.Vehicle

/-!
# What a call does to adapter and bridge

A `ChassisMove` is one thing a call of the adapter does: an event of the bridge, or fields of the
adapter.  Proved here:

* `dynamicLibrary_moves`: every call is a path of the moves it allows;
* `grows_of_moves`: a call only adds to the log, and what it adds is its own or the io thread's;
* `config_of_moves`: no call changes what the adapter was constructed with;
* `sameLimits_of_moves`: only a call that reconfigures the adapter changes the limits.
-/

namespace MineTeleop.Stack

open Bridge (BridgeRuntime controlLimits)
open Service

/-- The events that write the bridge's limits. -/
def Limiting : Bridge.Event → Prop
  | .configure _ _ _ | .clearRuntimeControl => True
  | _ => False

/-- What bounds the intents of an adapter. -/
structure AdapterLimits where
  opened : Bool
  sessionMotorTorqueLimitNm : ℚ
  sessionBrakePressureLimitBar : ℚ

def adapterLimits (a : DynamicLibraryVehicleAdapter) : AdapterLimits :=
  { opened := a.opened
    sessionMotorTorqueLimitNm := a.sessionMotorTorqueLimitNm
    sessionBrakePressureLimitBar := a.sessionBrakePressureLimitBar }

/-! ## Moves -/

/-- A move of a call, or of the io thread before it. -/
inductive ChassisMove (call : AdapterCall) : Chassis → Chassis → Prop
  | feeds {c : Chassis} {b : BridgeRuntime} (cause : Option AdapterCall) (e : Bridge.Event)
      (hb : c.bridge = some b) (hcause : cause = none ∨ cause = some call)
      (he : call.Reconfigures ∨ ¬Limiting e) : ChassisMove call c (c.feed cause b e)
  | books {c c' : Chassis} (a : DynamicLibraryVehicleAdapter) (h : c' = { c with adapter := a })
      (hconfig : a.config = c.adapter.config)
      (hlimits : call.Reconfigures ∨ adapterLimits a = adapterLimits c.adapter) :
      ChassisMove call c c'
  | counts {c : Chassis} (feedback polled calls : ℕ) :
      ChassisMove call c
        { c with feedbackGeneration := feedback, lastPolledGeneration := polled, calls := calls }
  /-- The bridge is opened or gone. -/
  | replaces {c : Chassis} (bridge : Option BridgeRuntime) (h : call.Reconfigures) :
      ChassisMove call c { c with bridge := bridge }

def ChassisMoves (call : AdapterCall) : Chassis → Chassis → Prop :=
  Relation.ReflTransGen (ChassisMove call)

namespace ChassisMoves

variable {call : AdapterCall} {c c₁ c₂ : Chassis}

theorem refl (c : Chassis) : ChassisMoves call c c := Relation.ReflTransGen.refl

theorem one (h : ChassisMove call c c₁) : ChassisMoves call c c₁ := Relation.ReflTransGen.single h

theorem trans (h : ChassisMoves call c c₁) (h' : ChassisMoves call c₁ c₂) :
    ChassisMoves call c c₂ :=
  Relation.ReflTransGen.trans h h'

theorem next (h : ChassisMoves call c c₁) (h' : ChassisMove call c₁ c₂) :
    ChassisMoves call c c₂ :=
  Relation.ReflTransGen.tail h h'

theorem keeps {I : Chassis → Prop} (hstep : ∀ c c', ChassisMove call c c' → I c → I c')
    (h : ChassisMoves call c c₁) (hi : I c) : I c₁ := by
  induction h with
  | refl => exact hi
  | tail _ hmove ih => exact hstep _ _ hmove ih

end ChassisMoves

theorem ioEvent_quiet (e : IoEvent) : ¬Limiting e.toEvent := by
  cases e <;> exact id

section
variable {call : AdapterCall} (c : Chassis)

theorem deliver_moves (cause : Option AdapterCall) (e : Bridge.Event)
    (hcause : cause = none ∨ cause = some call) (he : call.Reconfigures ∨ ¬Limiting e) :
    ChassisMoves call c (c.deliver cause e) := by
  unfold Chassis.deliver
  split
  · exact .refl c
  · rename_i b hb
    exact .one (.feeds cause e hb hcause he)

theorem runIo_moves (io : List IoEvent) : ChassisMoves call c (c.runIo io) := by
  induction io generalizing c with
  | nil => exact .refl c
  | cons e io ih =>
    exact (deliver_moves c none e.toEvent (.inl rfl) (.inr (ioEvent_quiet e))).trans (ih _)

theorem advance_moves : ChassisMoves call c c.advance :=
  (runIo_moves c c.interlude.io).next
    (.counts (c.runIo c.interlude.io).feedbackGeneration
      (c.runIo c.interlude.io).lastPolledGeneration _)

/-- The interlude, as that of a call which reconfigures nothing. -/
theorem advance_quiet : ChassisMoves .status c c.advance := advance_moves c

theorem checkResult_moves (result : ℤ) (operation : String) :
    ChassisMoves call c (c.checkResult result operation).2 := by
  unfold Chassis.checkResult
  split
  · exact .one (.books _ rfl rfl (.inr rfl))
  · exact .one (.books _ rfl rfl (.inr rfl))

theorem countStop_moves {r : Except Failure Unit × Chassis} (h : ChassisMoves call c r.2) :
    ChassisMoves call c (Chassis.countStop r).2 := by
  unfold Chassis.countStop
  split
  · exact h
  · exact h.next (.books _ rfl rfl (.inr rfl))

theorem applyStateV3_moves (now : ℤ) (arguments : Bridge.ApplyArguments) :
    ChassisMoves call c (c.applyStateV3 now call arguments).2 := by
  unfold Chassis.applyStateV3
  split
  · exact .refl c
  · rename_i b hb
    exact .one (.feeds _ _ hb (.inr rfl) (.inr id))

theorem setStopContextV1_moves (context : Bridge.StopContext) :
    ChassisMoves call c (c.setStopContextV1 call context).2 := by
  unfold Chassis.setStopContextV1
  extract_lets arguments
  split
  · exact .refl c
  · rename_i b hb
    exact .one (.feeds _ _ hb (.inr rfl) (.inr id))

theorem emergencyStop_moves : ChassisMoves call c (c.emergencyStop call).2 := by
  unfold Chassis.emergencyStop
  split
  · exact .refl c
  · rename_i b hb
    exact .one (.feeds _ _ hb (.inr rfl) (.inr id))

theorem applyControl_moves (now : ℤ) (command : DriverCommand) :
    ChassisMoves (.applyControl command) c (c.applyControl now command).2 := by
  unfold Chassis.applyControl
  split
  · exact .refl c
  · split
    · exact .refl c
    · rename_i arguments _
      extract_lets applied
      split
      · exact (applyStateV3_moves c now arguments).next (.books _ rfl rfl (.inr rfl))
      · exact (applyStateV3_moves c now arguments).next (.books _ rfl rfl (.inr rfl))

theorem applySafeStop_moves (now : ℤ) (output : ControlOutput) (context : Bridge.StopContext) :
    ChassisMoves (.applySafeStop output context) c (c.applySafeStop now output context).2 := by
  unfold Chassis.applySafeStop
  split
  · exact .refl c
  · split
    · extract_lets named checked stopped
      have hnamed : ChassisMoves (.applySafeStop output context) c checked.2 :=
        (setStopContextV1_moves c context).trans (checkResult_moves _ _ _)
      split
      · exact hnamed
      · exact countStop_moves c
          (hnamed.trans ((emergencyStop_moves checked.2).trans (checkResult_moves _ _ _)))
    · extract_lets applied
      exact countStop_moves c ((applyStateV3_moves c now _).trans (checkResult_moves _ _ _))

theorem pollFeedback_moves : ChassisMoves .pollFeedback c c.pollFeedback.2 := by
  have hpolls : ChassisMoves .pollFeedback c c.poll.2 := by
    unfold Chassis.poll
    split
    · exact .refl c
    · split_ifs
      iterate 4 exact .refl c
      exact .one (.counts c.feedbackGeneration _ c.calls)
  unfold Chassis.pollFeedback
  split
  · exact .refl c
  · extract_lets polled checked
    split
    · exact hpolls
    · have hchecked : ChassisMoves .pollFeedback c checked.2 :=
        hpolls.trans (checkResult_moves _ _ _)
      split
      · exact hchecked
      · exact hchecked.next (.books _ rfl rfl (.inr rfl))

theorem requestVcuHandshake_chassisMoves (now : ℤ) :
    ChassisMoves .requestVcuHandshake c (c.requestVcuHandshake now).2 := by
  unfold Chassis.requestVcuHandshake
  split
  · exact .refl c
  · split
    · exact .refl c
    · rename_i b hb
      extract_lets requested
      have hrequested : ChassisMoves .requestVcuHandshake c requested :=
        .one (.feeds _ _ hb (.inr rfl) (.inr id))
      split
      · exact hrequested
      · exact hrequested.next (.books _ rfl rfl (.inr rfl))

theorem disconnectVcuHandshake_chassisMoves :
    ChassisMoves .disconnectVcuHandshake c c.disconnectVcuHandshake.2 := by
  unfold Chassis.disconnectVcuHandshake
  split
  · exact .refl c
  · extract_lets result checked
    have hparked : ChassisMoves .disconnectVcuHandshake c checked.2 :=
      (deliver_moves c _ .requestPark (.inr rfl) (.inr id)).trans (checkResult_moves _ _ _)
    split
    · exact hparked
    · exact hparked.next (.books _ rfl rfl (.inr rfl))

theorem readTelemetry_moves : ChassisMoves .readTelemetry c c.readTelemetry.2 := by
  unfold Chassis.readTelemetry
  extract_lets checked
  have hchecked : ChassisMoves .readTelemetry c checked.2 := checkResult_moves _ _ _
  split <;> exact hchecked

/-! ### The calls that reconfigure -/

theorem openAdapter_moves (loading : Except String Bridge.OpenEnvironment) :
    ChassisMoves .openAdapter c (c.openAdapter loading).2 := by
  unfold Chassis.openAdapter
  split
  · exact .one (.books _ rfl rfl (.inr rfl))
  · rename_i env
    extract_lets opened checked
    have hopened : ChassisMoves .openAdapter c opened.2 := by
      unfold opened Chassis.openV4
      split
      · exact .refl c
      · rename_i b _
        have hreplaced : ChassisMove .openAdapter c { c with bridge := some b } :=
          .replaces (some b) trivial
        exact (ChassisMoves.one hreplaced).next (.counts 0 0 c.calls)
    have hchecked : ChassisMoves .openAdapter c checked.2 :=
      hopened.trans (checkResult_moves _ _ _)
    split
    · exact hchecked
    · exact hchecked.next (.books _ rfl rfl (.inl trivial))

theorem closeAdapter_moves (closing : List IoEvent) :
    ChassisMoves .closeAdapter c (c.closeAdapter closing).2 := by
  unfold Chassis.closeAdapter
  split
  · exact .refl c
  · refine ChassisMoves.next ?_ (.books _ rfl rfl (.inl trivial))
    refine ChassisMoves.next ?_ (.replaces none trivial)
    exact (deliver_moves c _ _ (.inr rfl) (.inr id)).trans
      ((runIo_moves _ closing).trans (deliver_moves _ _ _ (.inr rfl) (.inr id)))

theorem configureRuntimeControlProfile_moves (now : ℤ) (profile : SessionControlProfile ℚ)
    (revision : ℕ) :
    ChassisMoves (.configureRuntimeControlProfile profile revision) c
      (c.configureRuntimeControlProfile now profile revision).2 := by
  unfold Chassis.configureRuntimeControlProfile
  split
  · exact .refl c
  · split
    · exact .refl c
    · extract_lets configured
      have hconfigured : ChassisMoves (.configureRuntimeControlProfile profile revision) c
          configured.2.2 := by
        unfold configured Chassis.configureV3
        split
        · exact .refl c
        · rename_i b hb
          exact .one (.feeds _ _ hb (.inr rfl) (.inl trivial))
      split
      · exact hconfigured
      · exact hconfigured.next (.books _ rfl rfl (.inl trivial))

theorem clearRuntimeControlProfile_moves :
    ChassisMoves .clearRuntimeControlProfile c c.clearRuntimeControlProfile.2 := by
  unfold Chassis.clearRuntimeControlProfile
  split
  · exact .refl c
  · extract_lets checked
    have hdelivered : ChassisMoves .clearRuntimeControlProfile c
        (c.deliver (some .clearRuntimeControlProfile) .clearRuntimeControl) :=
      deliver_moves c _ _ (.inr rfl) (.inl trivial)
    have hcleared : ChassisMoves .clearRuntimeControlProfile c checked.2 :=
      hdelivered.trans (checkResult_moves _ _ _)
    split
    · exact hcleared
    · exact hcleared.next (.books _ rfl rfl (.inl trivial))

theorem answer_moves (call : AdapterCall) (now : ℤ) (interlude : Interlude) :
    ChassisMoves call c (c.answer now interlude call).2 := by
  cases call with
  | openAdapter => exact openAdapter_moves c _
  | closeAdapter => exact closeAdapter_moves c _
  | configureRuntimeControlProfile => exact configureRuntimeControlProfile_moves c _ _ _
  | clearRuntimeControlProfile => exact clearRuntimeControlProfile_moves c
  | applyControl => exact applyControl_moves c _ _
  | applySafeStop => exact applySafeStop_moves c _ _ _
  | pollFeedback => exact pollFeedback_moves c
  | requestVcuHandshake => exact requestVcuHandshake_chassisMoves c _
  | disconnectVcuHandshake => exact disconnectVcuHandshake_chassisMoves c
  | readTelemetry => exact readTelemetry_moves c
  | feedbackReady | vcuHandshakeStatus | status => exact .refl c

theorem dynamicLibrary_moves (call : AdapterCall) :
    ChassisMoves call c (dynamicLibrary.answer call c).2 :=
  (advance_moves c).trans (answer_moves _ _ _ _)

end

/-! ## What moves keep -/

/-- The log has grown by entries of the call and of the io thread. -/
def Grows (call : AdapterCall) (c c' : Chassis) : Prop :=
  ∃ entries, c'.log = entries ++ c.log ∧
    ∀ entry ∈ entries, entry.cause = none ∨ entry.cause = some call

section
variable {call : AdapterCall} {c c' : Chassis}

theorem grows_of_moves (h : ChassisMoves call c c') : Grows call c c' := by
  refine h.keeps (I := Grows call c) ?_ ⟨[], rfl, by simp⟩
  rintro c₁ c₂ hmove ⟨entries, hlog, hentries⟩
  cases hmove with
  | @feeds b cause e _ hcause =>
    refine ⟨⟨cause, (Bridge.machine b).observe b e⟩ :: entries, ?_, ?_⟩
    · show _ :: c₁.log = _
      rw [hlog]
      rfl
    · exact List.forall_mem_cons.mpr ⟨hcause, hentries⟩
  | books a heq =>
    subst heq
    exact ⟨entries, hlog, hentries⟩
  | _ => exact ⟨entries, hlog, hentries⟩

theorem config_of_moves (h : ChassisMoves call c c') : c'.adapter.config = c.adapter.config := by
  refine h.keeps (I := fun c₁ => c₁.adapter.config = c.adapter.config) ?_ rfl
  intro c₁ c₂ hmove hsame
  cases hmove with
  | books a heq hconfig =>
    subst heq
    exact hconfig.trans hsame
  | _ => exact hsame

/-- The limits of adapter and bridge stay. -/
structure SameLimits (c c' : Chassis) : Prop where
  adapter : adapterLimits c'.adapter = adapterLimits c.adapter
  bridge : c'.bridge.map controlLimits = c.bridge.map controlLimits

theorem sameLimits_of_moves (h : ChassisMoves call c c') (hcall : ¬call.Reconfigures) :
    SameLimits c c' := by
  refine h.keeps (I := SameLimits c) ?_ ⟨rfl, rfl⟩
  rintro c₁ c₂ hmove ⟨hadapter, hbridge⟩
  cases hmove with
  | @feeds b cause e hb _ he =>
    refine ⟨hadapter, ?_⟩
    have hquiet : ¬Limiting e := he.resolve_left hcall
    rw [← hbridge, hb]
    show some (controlLimits (Bridge.respond b e).2) = some (controlLimits b)
    rw [Bridge.respond_limits b e (fun _ _ _ heq => hquiet (heq ▸ trivial))
      fun heq => hquiet (heq ▸ trivial)]
  | books a heq _ hlimits =>
    subst heq
    exact ⟨(hlimits.resolve_left hcall).trans hadapter, hbridge⟩
  | counts => exact ⟨hadapter, hbridge⟩
  | replaces _ hreconfigures => exact absurd hreconfigures hcall

end

end MineTeleop.Stack
