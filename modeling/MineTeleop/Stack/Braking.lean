import MineTeleop.Bridge.Braking
import MineTeleop.Stack.Commands

/-!
# The brake of a session between adapter and bridge

`last` is the brake of the last command that the service has accepted. A bridge that heeds an
operator asks for it, and the calls of the adapter keep that.

Proved here:

* `brakeLaw_observe`: a bridge that carries the brake emits its pressure in every ordinary tick;
* `quiet_answer`: the calls that neither apply a command nor change a session;
* `applyControl_asks`, `applyControl_reapplies`: what an applied command makes the bridge ask for;
* `applySafeStop_quiet`: a stop, or an output that gives the brake in force again.
-/

namespace MineTeleop.Stack

open Runs
open Bridge (ApplyArguments BridgeRuntime ControlLimits Engaged Follows GivesDemand Heeded
  IntentArguments OrdinaryTick controlLimits)
open Service

/-! ## The law -/

/-- The ordinary pressure of a brake in a session with this maximum. -/
def sessionPressureBar (maxBrakePressureBar brake : ℚ) : ℚ :=
  Bridge.quantizeBrakePressureBar (brake * maxBrakePressureBar)

/-- What a batch has made of the driver's brake. -/
structure Brakes (maxBrakePressureBar brake : ℚ) (batch : Vcu.CommandBatch) : Prop where
  emitted : batch.brakePressure = fun _ => sessionPressureBar maxBrakePressureBar brake
  within : sessionPressureBar maxBrakePressureBar brake ≤ brake * maxBrakePressureBar
  step : brake * maxBrakePressureBar - Bridge.brakePressureResolutionBar <
    sessionPressureBar maxBrakePressureBar brake
  monotone : Monotone (sessionPressureBar maxBrakePressureBar)
  torque : 0 < brake → batch.motorTorque = fun _ => 0

/-- An ordinary tick under an active profile brakes as the last accepted command says. -/
def BrakeLaw (last : Option ℚ) (st : Step BridgeRuntime Bridge.Event Bridge.Reply) : Prop :=
  ∀ batch ∈ st.output.batch?, OrdinaryTick st.before st.after →
    st.before.runtimeControl.active = true → st.before.physicalBrakeInput = true →
    ∀ brake ∈ last, Brakes st.before.runtimeControl.maxBrakePressureBar brake batch

/-! ## What the bridge asks for -/

/-- The stored demand is the pressure of the brake. -/
structure AsksFor (brake : ℚ) (b : BridgeRuntime) : Prop where
  range : 0 ≤ brake ∧ brake ≤ 1
  valid : b.latestIntentValid = true
  pressure : -min 0 b.latestIntent.normalizedLongitudinal * b.maxOrdinaryBrakeBar =
    brake * b.runtimeControl.maxBrakePressureBar
  brakes : 0 < brake → b.latestIntent.normalizedLongitudinal ≤ 0

/-- The settings of a profile that the bridge has checked. -/
def Configured (b : BridgeRuntime) : Prop :=
  ∃ profile revision, b.runtimeControl = profileSettings profile revision ∧
    InRange (controlLimits b) profile ∧ 0 ≤ profile.parkingIdleTimeoutMs

/-- The bridge asks for the last brake wherever it would heed a demand. -/
structure Carries (last : Option ℚ) (b : BridgeRuntime) : Prop where
  invariant : Bridge.BridgeInvariant b
  configured : b.runtimeControl.active = true → Configured b
  limit : b.maxOrdinaryBrakeBar ≤ Bridge.maxOrdinaryBrakePressureBar
  asks : Engaged b → Heeded b → ∀ brake ∈ last, AsksFor brake b

section
variable {last : Option ℚ} {b b' : BridgeRuntime}

theorem AsksFor.follows {brake : ℚ} (h : AsksFor brake b) (hfollows : Follows b b')
    (hengaged : Engaged b') (hheeded : Heeded b') : AsksFor brake b' := by
  have hdemand := hfollows.demand hengaged hheeded
  have hvalid : b'.latestIntentValid = b.latestIntentValid := congrArg Prod.fst hdemand
  have hnormalized : b'.latestIntent.normalizedLongitudinal =
      b.latestIntent.normalizedLongitudinal := congrArg Prod.snd hdemand
  have hmax : b'.maxOrdinaryBrakeBar = b.maxOrdinaryBrakeBar := congrArg Prod.snd hfollows.input
  have hsession : b'.runtimeControl.maxBrakePressureBar = b.runtimeControl.maxBrakePressureBar :=
    congrArg Prod.fst (hfollows.limits hengaged)
  refine ⟨h.range, hvalid.trans h.valid, ?_, ?_⟩
  · rw [hnormalized, hmax, hsession]
    exact h.pressure
  · rw [hnormalized]
    exact h.brakes

theorem Configured.of_limits (hlimits : controlLimits b' = controlLimits b) (h : Configured b) :
    Configured b' := by
  obtain ⟨profile, revision, hsettings, hrange, hidle⟩ := h
  exact ⟨profile, revision, (congrArg ControlLimits.runtimeControl hlimits).trans hsettings,
    hlimits ▸ hrange, hidle⟩

/-- Limits that stay, and whatever the bridge asks for now. -/
theorem Carries.of_limits {last' : Option ℚ} (h : Carries last b)
    (hinvariant : Bridge.BridgeInvariant b') (hlimits : controlLimits b' = controlLimits b)
    (hasks : Engaged b' → Heeded b' → ∀ brake ∈ last', AsksFor brake b') : Carries last' b' where
  invariant := hinvariant
  configured hactive :=
    (h.configured ((congrArg (·.runtimeControl.active) hlimits).symm.trans hactive)).of_limits
      hlimits
  limit := (congrArg ControlLimits.maxOrdinaryBrakeBar hlimits).le.trans h.limit
  asks := hasks

theorem respond_controlLimits {e : Bridge.Event} (he : ¬Limiting e) :
    controlLimits (Bridge.respond b e).2 = controlLimits b :=
  Bridge.respond_limits b e (fun _ _ _ heq => he (heq ▸ trivial)) fun heq => he (heq ▸ trivial)

theorem carries_respond {e : Bridge.Event} (he : ¬GivesDemand e) (hquiet : ¬Limiting e)
    (h : Carries last b) : Carries last (Bridge.respond b e).2 := by
  have hfollows := Bridge.follows_respond b e he
  refine h.of_limits (Bridge.bridgeInvariant_respond b e h.invariant)
    (respond_controlLimits hquiet) fun hengaged hheeded brake hbrake => ?_
  exact (h.asks (hfollows.engaged hengaged) (hfollows.heeded hengaged hheeded) brake hbrake).follows
    hfollows hengaged hheeded

/-- The pressure of a session lies in the range that the quantizer takes. -/
theorem brakes_of_asksFor {brake : ℚ} {batch : Vcu.CommandBatch} (h : AsksFor brake b)
    (hconfigured : Configured b) (hlimit : b.maxOrdinaryBrakeBar ≤ Bridge.maxOrdinaryBrakePressureBar)
    (hpressure : batch.brakePressure = fun _ => Bridge.quantizeBrakePressureBar
      (-min 0 b.latestIntent.normalizedLongitudinal * b.maxOrdinaryBrakeBar))
    (htorque : b.latestIntent.normalizedLongitudinal ≤ 0 → batch.motorTorque = fun _ => 0) :
    Brakes b.runtimeControl.maxBrakePressureBar brake batch := by
  obtain ⟨profile, revision, hsettings, hrange, -⟩ := hconfigured
  have hmax : b.runtimeControl.maxBrakePressureBar = profile.maxBrakePressureBar :=
    congrArg (·.maxBrakePressureBar) hsettings
  have hmax₀ : 0 ≤ b.runtimeControl.maxBrakePressureBar := hmax ▸ hrange.brakePressure.1
  have hmax₁ : b.runtimeControl.maxBrakePressureBar ≤ Bridge.maxOrdinaryBrakePressureBar :=
    hmax ▸ hrange.brakePressure.2.trans hlimit
  have hband := Bridge.quantizeBrakePressureBar_band (mul_nonneg h.range.1 hmax₀)
    ((mul_le_of_le_one_left hmax₀ h.range.2).trans hmax₁)
  refine ⟨?_, hband.1, hband.2, fun x y hxy => ?_, fun hbrake => htorque (h.brakes hbrake)⟩
  · rw [hpressure, h.pressure]
    rfl
  · exact Bridge.quantizeBrakePressureBar_mono (mul_le_mul_of_nonneg_right hxy hmax₀)

/-- A bridge that carries the brake obeys the law. -/
theorem brakeLaw_observe (h : Carries last b) (e : Bridge.Event) :
    BrakeLaw last ((Bridge.machine b).observe b e) := by
  intro batch hbatch hordinary hactive hinput brake hbrake
  cases e with
  | tick now chassis =>
    obtain ⟨profile, revision, hsettings, hrange, hidle⟩ := h.configured hactive
    have hparking : 0 ≤ b.runtimeControl.parkingIdleTimeoutMs := by
      rw [hsettings]
      exact hidle
    have hrun : b.running = true := by
      by_contra hstopped
      have hnone : (Bridge.tick b now chassis).1 = none := by
        rw [Bridge.tick, if_pos (Bool.eq_false_of_not_eq_true hstopped)]
      rw [Machine.observe] at hbatch
      change batch ∈ (Bridge.tick b now chassis).1 at hbatch
      rw [hnone] at hbatch
      cases hbatch
    obtain ⟨hengaged, hheeded, hemits⟩ :=
      Bridge.tick_brakes h.invariant hactive hparking hinput hrun hordinary
    have hasks := h.asks hengaged hheeded brake hbrake
    obtain ⟨hpressure, htorque⟩ := hemits batch hbatch hasks.valid
    exact brakes_of_asksFor hasks ⟨profile, revision, hsettings, hrange, hidle⟩ h.limit hpressure
      htorque
  | _ => cases hbatch

end

/-! ## What a chassis keeps -/

/-- A bridge is only there while the adapter is open, and it carries the brake. -/
structure Carried (last : Option ℚ) (c : Chassis) : Prop where
  matched : Matched c
  opened : ∀ b ∈ c.bridge, c.adapter.opened = true
  carries : ∀ b ∈ c.bridge, Carries last b

/-- Every tick that has been logged obeys the law. -/
def Lawful (last : Option ℚ) (c : Chassis) : Prop := ∀ entry ∈ c.log, BrakeLaw last entry.step

/-- No session is open. -/
def Rests (c : Chassis) : Prop := ∀ b ∈ c.bridge, ¬Engaged b

/-- From `c` to `c'` no limit changes and no session opens. -/
structure Trails (c c' : Chassis) : Prop where
  limits : SameLimits c c'
  config : c'.adapter.config = c.adapter.config
  engaged : ∀ b' ∈ c'.bridge, Engaged b' →
    ∃ b ∈ c.bridge, Engaged b ∧ Bridge.parkedLimits b' = Bridge.parkedLimits b

/-- A brake that is carried goes on being carried, and the log stays lawful. -/
structure Quiet (last : Option ℚ) (c c' : Chassis) : Prop extends Trails c c' where
  carried : Carried last c → Carried last c'
  lawful : Carried last c → Lawful last c → Lawful last c'

section
variable {last : Option ℚ} {c c' c'' : Chassis}

theorem Trails.rests (h : Trails c c') (hrests : Rests c) : Rests c' := by
  intro b' hb' hengaged
  obtain ⟨b, hb, hbefore, -⟩ := h.engaged b' hb' hengaged
  exact hrests b hb hbefore

theorem Trails.refl (c : Chassis) : Trails c c :=
  ⟨⟨rfl, rfl⟩, rfl, fun b hb hengaged => ⟨b, hb, hengaged, rfl⟩⟩

theorem Trails.trans (h : Trails c c') (h' : Trails c' c'') : Trails c c'' := by
  refine ⟨h.limits.trans h'.limits, h'.config.trans h.config, fun b'' hb'' hengaged => ?_⟩
  obtain ⟨b', hb', hengaged', hsame'⟩ := h'.engaged b'' hb'' hengaged
  obtain ⟨b, hb, hbefore, hsame⟩ := h.engaged b' hb' hengaged'
  exact ⟨b, hb, hbefore, hsame'.trans hsame⟩

/-- Without a session any brake is carried. -/
theorem Carried.of_rests {last' : Option ℚ} (h : Carried last c) (hrests : Rests c) :
    Carried last' c :=
  ⟨h.matched, h.opened, fun b hb =>
    (h.carries b hb).of_limits (h.carries b hb).invariant rfl
      fun hengaged => absurd hengaged (hrests b hb)⟩

namespace Quiet

theorem trans (h : Quiet last c c') (h' : Quiet last c' c'') : Quiet last c c'' where
  toTrails := h.toTrails.trans h'.toTrails
  carried hc := h'.carried (h.carried hc)
  lawful hc hl := h'.lawful (h.carried hc) (h.lawful hc hl)

/-- Only what the law does not look at has moved. -/
theorem of_same (hbridge : c'.bridge = c.bridge) (hlog : c'.log = c.log)
    (hconfig : c'.adapter.config = c.adapter.config)
    (hlimits : adapterLimits c'.adapter = adapterLimits c.adapter) : Quiet last c c' := by
  have hopened : c'.adapter.opened = c.adapter.opened := congrArg AdapterLimits.opened hlimits
  have hsame : SameLimits c c' := ⟨hlimits, congrArg _ hbridge⟩
  refine ⟨⟨hsame, hconfig, fun b hb hengaged => ⟨b, hbridge ▸ hb, hengaged, rfl⟩⟩, fun hc => ?_,
    fun _ hl => ?_⟩
  · exact ⟨hsame.matched hconfig hc.matched, fun b hb => hopened.trans (hc.opened b (hbridge ▸ hb)),
      fun b hb => hc.carries b (hbridge ▸ hb)⟩
  · unfold Lawful
    rw [hlog]
    exact hl

theorem refl (c : Chassis) : Quiet last c c := of_same rfl rfl rfl rfl

/-- Books of the adapter that bound no intent. -/
theorem books {f : DynamicLibraryVehicleAdapter → DynamicLibraryVehicleAdapter}
    (hconfig : (f c.adapter).config = c.adapter.config)
    (hlimits : adapterLimits (f c.adapter) = adapterLimits c.adapter) :
    Quiet last c (c.withAdapter f) :=
  of_same rfl rfl hconfig hlimits

end Quiet

section
variable {b : BridgeRuntime}

/-- The limits of adapter and bridge behind an event that writes none. -/
theorem sameLimits_feed (cause : Option AdapterCall) {e : Bridge.Event} (hb : c.bridge = some b)
    (he : ¬Limiting e) : SameLimits c (c.feed cause b e) := by
  refine ⟨rfl, ?_⟩
  rw [hb]
  exact congrArg some (respond_controlLimits he)

/-- An event that the bridge follows, and what it then asks for. -/
theorem carried_feed {last' : Option ℚ} (cause : Option AdapterCall) {e : Bridge.Event}
    (hb : c.bridge = some b) (he : ¬Limiting e) (hc : Carried last c)
    (hasks : Engaged (Bridge.respond b e).2 → Heeded (Bridge.respond b e).2 →
      ∀ brake ∈ last', AsksFor brake (Bridge.respond b e).2) :
    Carried last' (c.feed cause b e) := by
  refine ⟨(sameLimits_feed cause hb he).matched rfl hc.matched, fun b' _ => hc.opened b hb, ?_⟩
  intro b' hb'
  obtain rfl := Option.some.inj hb'
  have hcarries := hc.carries b hb
  exact hcarries.of_limits (Bridge.bridgeInvariant_respond b e hcarries.invariant)
    (respond_controlLimits he) hasks

theorem lawful_feed (cause : Option AdapterCall) (e : Bridge.Event) (hb : c.bridge = some b)
    (hc : Carried last c) (hl : Lawful last c) : Lawful last (c.feed cause b e) :=
  List.forall_mem_cons.mpr ⟨brakeLaw_observe (hc.carries b hb) e, hl⟩

theorem quiet_feed (cause : Option AdapterCall) {e : Bridge.Event} (hb : c.bridge = some b)
    (he : ¬GivesDemand e) (hquiet : ¬Limiting e) : Quiet last c (c.feed cause b e) := by
  have hfollows := Bridge.follows_respond b e he
  refine ⟨⟨sameLimits_feed cause hb hquiet, rfl, fun b' hb' hengaged => ?_⟩, fun hc => ?_,
    lawful_feed cause e hb⟩
  · obtain rfl := Option.some.inj hb'
    exact ⟨b, hb, hfollows.engaged hengaged, hfollows.limits hengaged⟩
  · exact carried_feed cause hb hquiet hc (carries_respond he hquiet (hc.carries b hb)).asks

end

theorem quiet_deliver (cause : Option AdapterCall) {e : Bridge.Event} (he : ¬GivesDemand e)
    (hquiet : ¬Limiting e) : Quiet last c (c.deliver cause e) := by
  unfold Chassis.deliver
  split
  · exact .refl c
  · rename_i b hb
    exact quiet_feed cause hb he hquiet

theorem quiet_runIo (io : List IoEvent) : Quiet last c (c.runIo io) := by
  induction io generalizing c with
  | nil => exact .refl c
  | cons e io ih =>
    have he : ¬GivesDemand e.toEvent := by cases e <;> exact id
    exact (quiet_deliver none he (ioEvent_quiet e)).trans ih

theorem quiet_advance : Quiet last c c.advance :=
  (quiet_runIo _).trans (.of_same rfl rfl rfl rfl)

theorem quiet_failed (what : String) : Quiet last c (c.failed what).2 :=
  .of_same rfl rfl rfl rfl

theorem quiet_checkResult (result : ℤ) (operation : String) :
    Quiet last c (c.checkResult result operation).2 := by
  unfold Chassis.checkResult
  split <;> exact .of_same rfl rfl rfl rfl

theorem quiet_countStop {r : Except Failure Unit × Chassis} (h : Quiet last c r.2) :
    Quiet last c (Chassis.countStop r).2 := by
  unfold Chassis.countStop
  split
  · exact h
  · exact h.trans (.of_same rfl rfl rfl rfl)

/-! ### The calls that leave the demand alone -/

theorem quiet_pollFeedback : Quiet last c c.pollFeedback.2 := by
  have hpolls : Quiet last c c.poll.2 := by
    unfold Chassis.poll
    split
    · exact .refl c
    · split_ifs
      iterate 4 exact .refl c
      exact .of_same rfl rfl rfl rfl
  unfold Chassis.pollFeedback
  split
  · exact .refl c
  · extract_lets polled checked
    split
    · exact hpolls
    · have hchecked : Quiet last c checked.2 := hpolls.trans (quiet_checkResult _ _)
      split
      · exact hchecked
      · exact hchecked.trans (.of_same rfl rfl rfl rfl)

theorem quiet_disconnectVcuHandshake : Quiet last c c.disconnectVcuHandshake.2 := by
  unfold Chassis.disconnectVcuHandshake
  split
  · exact .refl c
  · extract_lets result checked
    have hparked : Quiet last c checked.2 :=
      (quiet_deliver (some .disconnectVcuHandshake) (e := .requestPark) id id).trans
        (quiet_checkResult _ _)
    split
    · exact hparked
    · exact hparked.trans (.of_same rfl rfl rfl rfl)

theorem quiet_readTelemetry : Quiet last c c.readTelemetry.2 := by
  unfold Chassis.readTelemetry
  extract_lets checked
  have hchecked : Quiet last c checked.2 := quiet_checkResult _ _
  split <;> exact hchecked

/-- The outputs that stop the bridge. -/
def StopsBridge (output : ControlOutput) : Prop :=
  output.estop = true ∨ output.fullEmergencyBrake = true

theorem quiet_stop {now : ℤ} {output : ControlOutput} (houtput : StopsBridge output)
    (context : Bridge.StopContext) : Quiet last c (c.applySafeStop now output context).2 := by
  have hnamed : ∀ cause, Quiet last c (c.setStopContextV1 cause context).2 := by
    intro cause
    unfold Chassis.setStopContextV1
    extract_lets arguments
    split
    · exact .refl c
    · rename_i b hb
      exact quiet_feed _ hb id id
  have hstopped : ∀ cause {c' : Chassis}, Quiet last c' (c'.emergencyStop cause).2 := by
    intro cause c'
    unfold Chassis.emergencyStop
    split
    · exact .refl c'
    · rename_i b hb
      exact quiet_feed _ hb id id
  unfold Chassis.applySafeStop
  split
  · exact .refl c
  rw [if_pos (show output.estop = true ∨ output.fullEmergencyBrake = true from houtput)]
  extract_lets named checked stopped
  have hchecked : Quiet last c checked.2 := (hnamed _).trans (quiet_checkResult _ _)
  split
  · exact hchecked
  · exact quiet_countStop (hchecked.trans ((hstopped _).trans (quiet_checkResult _ _)))

/-- The calls that neither give a demand nor change a session. -/
def QuietCall : AdapterCall → Prop
  | .pollFeedback | .disconnectVcuHandshake | .feedbackReady | .vcuHandshakeStatus
  | .readTelemetry | .status => True
  | .applySafeStop output _ => StopsBridge output
  | _ => False

theorem quiet_answer {call : AdapterCall} (h : QuietCall call) :
    Quiet last c (dynamicLibrary.answer call c).2 := by
  refine quiet_advance.trans ?_
  cases call with
  | pollFeedback => exact quiet_pollFeedback
  | disconnectVcuHandshake => exact quiet_disconnectVcuHandshake
  | feedbackReady | vcuHandshakeStatus | status => exact .refl _
  | readTelemetry => exact quiet_readTelemetry
  | applySafeStop output context => exact quiet_stop h context
  | _ => exact h.elim

end

/-! ## Applied commands -/

/-- The intent asks for the brake, in a bridge with these settings. -/
structure Presses (brake : ℚ) (intent : IntentArguments) (b : BridgeRuntime) : Prop where
  range : 0 ≤ brake ∧ brake ≤ 1
  pressure : -min 0 intent.normalizedLongitudinal * b.maxOrdinaryBrakeBar =
    brake * b.runtimeControl.maxBrakePressureBar
  brakes : 0 < brake → intent.normalizedLongitudinal ≤ 0

section
variable {last : Option ℚ} {c c' : Chassis} {b b' : BridgeRuntime} {arguments : ApplyArguments}
  {result : Bridge.ApplyResult} {brake : ℚ}

theorem Presses.asks {intent : IntentArguments} (h : Presses brake intent b)
    (hstores : Bridge.Stores b b')
    (hdemand : Bridge.demand b' = (true, intent.normalizedLongitudinal) ∨
      Bridge.demand b' = (true, min 0 intent.normalizedLongitudinal)) : AsksFor brake b' := by
  have hmax : b'.maxOrdinaryBrakeBar = b.maxOrdinaryBrakeBar := congrArg Prod.snd hstores.input
  have hsettings := hstores.settings
  have hnormalized : b'.latestIntent.normalizedLongitudinal = intent.normalizedLongitudinal ∨
      b'.latestIntent.normalizedLongitudinal = min 0 intent.normalizedLongitudinal :=
    hdemand.imp (congrArg Prod.snd) (congrArg Prod.snd)
  refine ⟨h.range, ?_, ?_, fun hbrake => ?_⟩
  · rcases hdemand with hdemand | hdemand
    · exact congrArg Prod.fst hdemand
    · exact congrArg Prod.fst hdemand
  · rw [hmax, hsettings, ← h.pressure]
    rcases hnormalized with hsame | hheld
    · rw [hsame]
    · rw [hheld, ← min_assoc, min_self]
  · rcases hnormalized with hsame | hheld
    · exact hsame ▸ h.brakes hbrake
    · exact hheld ▸ min_le_left _ _

theorem engaged_of_stores (h : Bridge.Stores b b') (hengaged : Engaged b') : Engaged b :=
  ⟨h.settings ▸ hengaged.1, h.controller ▸ hengaged.2⟩

theorem stores_of_outcome {intent : IntentArguments} {issue : Bridge.ApplyIssue}
    (h : Bridge.StoreOutcome b intent issue b') : Follows b b' ∨ Bridge.Stores b b' := by
  cases h with
  | follows _ h => exact .inl h
  | exceeds _ _ h => exact .inr h
  | holds _ h => exact .inr h
  | accepts h => exact .inr h

/-- No control state opens a session. -/
theorem engaged_of_applied (h : Bridge.ApplyOutcome b arguments result b') (hengaged : Engaged b') :
    Engaged b ∧ Bridge.parkedLimits b' = Bridge.parkedLimits b := by
  cases h with
  | follows _ h => exact ⟨h.engaged hengaged, h.limits hengaged⟩
  | stored _ _ h =>
    rcases stores_of_outcome h with h | h
    · exact ⟨h.engaged hengaged, h.limits hengaged⟩
    · exact ⟨engaged_of_stores h hengaged, by rw [Bridge.parkedLimits, h.settings]; rfl⟩

/-- The brake that the bridge asks for is applied once more, and fits the profile if it is heeded. -/
theorem asks_of_reapplied (h : Bridge.ApplyOutcome b arguments result b')
    (hb : Engaged b → Heeded b → AsksFor brake b)
    (hpresses : ∀ intent, arguments.checked? = some intent → Engaged b →
      Presses brake intent b ∧ (Heeded b → ¬Bridge.ExceedsProfile b intent))
    (hengaged : Engaged b') (hheeded : Heeded b') : AsksFor brake b' := by
  have hfollowed : Follows b b' → AsksFor brake b' := fun h =>
    (hb (h.engaged hengaged) (h.heeded hengaged hheeded)).follows h hengaged hheeded
  cases h with
  | follows _ h => exact hfollowed h
  | stored hchecked _ h =>
    have hgiven := fun hbefore => hpresses _ hchecked hbefore
    cases h with
    | follows _ h => exact hfollowed h
    | exceeds _ hexceeds h hheeds =>
      exact absurd hexceeds ((hgiven (engaged_of_stores h hengaged)).2 (hheeds hheeded))
    | holds _ h hdemand => exact (hgiven (engaged_of_stores h hengaged)).1.asks h (.inr hdemand)
    | accepts h hdemand => exact (hgiven (engaged_of_stores h hengaged)).1.asks h (.inl hdemand)

/-- An accepted control state is what the bridge asks for. -/
theorem asks_of_accepted (h : Bridge.ApplyOutcome b arguments result b')
    (hcode : result.resultCode = 0)
    (hpresses : ∀ intent, arguments.checked? = some intent → Engaged b → Presses brake intent b)
    (hengaged : Engaged b') : AsksFor brake b' := by
  cases h with
  | follows hrest => exact absurd hengaged (hrest hcode)
  | stored hchecked hissue h =>
    cases h with
    | follows hne => exact absurd (hissue.mp hcode) hne
    | exceeds hne => exact absurd (hissue.mp hcode) hne
    | holds hne => exact absurd (hissue.mp hcode) hne
    | accepts h hdemand =>
      exact (hpresses _ hchecked (engaged_of_stores h hengaged)).asks h (.inl hdemand)

theorem trails_applyStateV3 (now : ℤ) (cause : AdapterCall) (arguments : ApplyArguments) :
    Trails c (c.applyStateV3 now cause arguments).2 := by
  unfold Chassis.applyStateV3
  split
  · exact .refl c
  · rename_i b hb
    refine ⟨sameLimits_feed _ hb id, rfl, fun b' hb' hengaged => ?_⟩
    obtain rfl := Option.some.inj hb'
    exact ⟨b, hb, engaged_of_applied (Bridge.applyState_outcome b now arguments) hengaged⟩

theorem lawful_applyStateV3 (now : ℤ) (cause : AdapterCall) (arguments : ApplyArguments)
    (hc : Carried last c) (hl : Lawful last c) :
    Lawful last (c.applyStateV3 now cause arguments).2 := by
  unfold Chassis.applyStateV3
  split
  · exact hl
  · rename_i b hb
    exact lawful_feed _ _ hb hc hl

theorem carried_applyStateV3 {last' : Option ℚ} {now : ℤ} {cause : AdapterCall}
    {arguments : ApplyArguments} (hc : Carried last c)
    (hasks : ∀ b ∈ c.bridge, Engaged (Bridge.applyState b now arguments).2 →
      Heeded (Bridge.applyState b now arguments).2 →
      ∀ brake ∈ last', AsksFor brake (Bridge.applyState b now arguments).2) :
    Carried last' (c.applyStateV3 now cause arguments).2 := by
  unfold Chassis.applyStateV3
  cases hb : c.bridge with
  | none =>
    have hnone : ∀ b, b ∉ c.bridge := fun b hmem => by simp [hb] at hmem
    exact hc.of_rests fun b hmem => absurd hmem (hnone b)
  | some b => exact carried_feed _ hb id hc (hasks b hb)

end

/-! ### From the adapter's conversion -/

section
variable {b : BridgeRuntime} {arguments : ApplyArguments} {intent : IntentArguments}

theorem checked_ok (h : arguments.checked? = some intent) :
    arguments.targetVx = some intent.targetSpeedMps ∧
    arguments.targetAx = some intent.normalizedLongitudinal ∧
    ∃ values, arguments.steeringValues = some values ∧
      Bridge.allSome (values.take Vcu.steeringAxisCount) = some intent.steeringValues := by
  unfold ApplyArguments.checked? at h
  obtain ⟨values, hvalues, h⟩ := Option.bind_eq_some_iff.mp h
  obtain ⟨steering, hsteering, h⟩ := Option.bind_eq_some_iff.mp h
  obtain ⟨speed, hspeed, h⟩ := Option.bind_eq_some_iff.mp h
  obtain ⟨acceleration, hacceleration, h⟩ := Option.bind_eq_some_iff.mp h
  split at h
  · obtain rfl := Option.some.inj h
    exact ⟨hspeed, hacceleration, values, hvalues, hsteering⟩
  · cases h

/-- The request is the session's pressure in the vehicle's unit. -/
theorem vehicleNormalizedBrakeRequest_pressure {brake sessionMax vehicleMax ratio : ℚ}
    (h : vehicleNormalizedBrakeRequest brake sessionMax vehicleMax = .ok ratio) :
    (0 ≤ brake ∧ brake ≤ 1) ∧ 0 ≤ ratio ∧ ratio * vehicleMax = brake * sessionMax := by
  have hratio := (vehicleNormalizedBrakeRequest_ok h).2.1
  unfold vehicleNormalizedBrakeRequest at h
  obtain ⟨_, hbrake, h⟩ := bind_ok h
  obtain ⟨_, hvehicle, h⟩ := bind_ok h
  obtain ⟨_, hsession, h⟩ := bind_ok h
  obtain ⟨hb, hblow, hbhigh⟩ := requireFiniteRange_ok hbrake
  obtain ⟨hv, hvlow, -⟩ := requireFiniteRange_ok hvehicle
  obtain ⟨hs, hslow, hshigh⟩ := requireFiniteRange_ok hsession
  obtain rfl := Option.some.inj hb
  obtain rfl := Option.some.inj hv
  obtain rfl := Option.some.inj hs
  refine ⟨⟨hblow, hbhigh⟩, hratio, ?_⟩
  obtain rfl := Except.ok.inj h
  split
  · rename_i hpositive
    rw [div_mul_cancel₀ _ hpositive.ne']
  · rename_i hnone
    -- A vehicle without ordinary pressure has sessions without it.
    have hvehicle : vehicleMax = 0 := le_antisymm (not_lt.mp hnone) hvlow
    have hsession : sessionMax = 0 := le_antisymm (hvehicle ▸ hshigh) hslow
    rw [hsession, zero_mul, mul_zero]

theorem dynamicAdapterTargetAcceleration_brake {command : DriverCommand}
    {ceiling sessionMax vehicleMax acceleration : ℚ}
    (h : dynamicAdapterTargetAcceleration command ceiling sessionMax vehicleMax =
      .ok acceleration) :
    (0 ≤ command.brake ∧ command.brake ≤ 1) ∧
      -min 0 acceleration * vehicleMax = command.brake * sessionMax ∧
      (0 < command.brake → acceleration ≤ 0) := by
  unfold dynamicAdapterTargetAcceleration at h
  obtain ⟨_, hvalid, h⟩ := bind_ok h
  obtain ⟨_, hceiling, h⟩ := bind_ok h
  obtain ⟨ratio, hratio, h⟩ := bind_ok h
  obtain ⟨hc, hclow, -⟩ := requireFiniteRange_ok hceiling
  obtain rfl := Option.some.inj hc
  obtain ⟨hrange, hnonneg, hpressure⟩ := vehicleNormalizedBrakeRequest_pressure hratio
  obtain rfl := Except.ok.inj h
  refine ⟨hrange, ?_, fun hbrake => ?_⟩
  · split
    · rw [min_eq_right (neg_nonpos.mpr hnonneg), neg_neg]
      exact hpressure
    · rename_i hbrake
      have hzero : command.brake = 0 := le_antisymm (not_lt.mp hbrake) hrange.1
      have hforward : 0 ≤ if 0 < command.throttle then ceiling else 0 := by
        split
        · exact hclow
        · exact le_rfl
      rw [hzero, min_eq_left hforward, neg_zero, zero_mul, zero_mul]
  · rw [if_pos hbrake]
    exact neg_nonpos.mpr hnonneg

theorem presses_applyArguments {a : DynamicLibraryVehicleAdapter} {command : DriverCommand}
    (h : a.applyArguments command = .ok arguments) (hchecked : arguments.checked? = some intent)
    (hmax : b.maxOrdinaryBrakeBar = a.config.maxOrdinaryBrakePressureBar)
    (hsession : b.runtimeControl.maxBrakePressureBar = a.sessionBrakePressureLimitBar) :
    Presses command.brake intent b := by
  unfold DynamicLibraryVehicleAdapter.applyArguments at h
  obtain ⟨speed, -, h⟩ := bind_ok h
  obtain ⟨acceleration, hacceleration, h⟩ := bind_ok h
  obtain rfl := Except.ok.inj h
  obtain ⟨hrange, hpressure, hbrakes⟩ := dynamicAdapterTargetAcceleration_brake hacceleration
  have hgiven : acceleration = intent.normalizedLongitudinal :=
    Option.some.inj (checked_ok hchecked).2.1
  rw [hgiven] at hpressure hbrakes
  refine ⟨hrange, ?_, hbrakes⟩
  rw [hmax, hsession]
  exact hpressure

/-- The output gives the pressure of the brake again, within the steering of the session. -/
structure Restates (brake : ℚ) (output : ControlOutput) (vehicleMax : ℚ) (limits : ℚ × ℚ) :
    Prop where
  range : 0 ≤ brake ∧ brake ≤ 1
  nonneg : 0 ≤ output.brake
  pressure : output.brake * vehicleMax = brake * limits.1
  steering : |output.steering| ≤ limits.2

theorem presses_stopArguments {brake : ℚ} {output : ControlOutput}
    (h : Restates brake output b.maxOrdinaryBrakeBar (Bridge.parkedLimits b))
    (hchecked : (DynamicLibraryVehicleAdapter.stopArguments output).checked? = some intent) :
    Presses brake intent b := by
  have hgiven : -output.brake = intent.normalizedLongitudinal :=
    Option.some.inj (checked_ok hchecked).2.1
  have hback : intent.normalizedLongitudinal ≤ 0 := hgiven ▸ neg_nonpos.mpr h.nonneg
  refine ⟨h.range, ?_, fun _ => hback⟩
  rw [min_eq_right hback, ← hgiven, neg_neg]
  exact h.pressure

/-- An output without traction fits every profile whose steering it respects. -/
theorem stopArguments_fits {brake : ℚ} {output : ControlOutput}
    (h : Restates brake output b.maxOrdinaryBrakeBar (Bridge.parkedLimits b))
    (hconfigured : Configured b)
    (hchecked : (DynamicLibraryVehicleAdapter.stopArguments output).checked? = some intent) :
    ¬Bridge.ExceedsProfile b intent := by
  obtain ⟨profile, revision, hsettings, hrange, -⟩ := hconfigured
  obtain ⟨hspeed, hback, values, hvalues, hsteering⟩ := checked_ok hchecked
  have hspeed₀ : 0 = intent.targetSpeedMps := Option.some.inj hspeed
  have hback₀ : -output.brake = intent.normalizedLongitudinal := Option.some.inj hback
  have hsteering₀ : List.replicate 4 output.steering = intent.steeringValues := by
    obtain rfl := Option.some.inj hvalues
    exact Option.some.inj hsteering
  apply withinSettings_exceeds
  refine ⟨?_, ?_, ?_, ?_⟩
  · show _ ≤ b.runtimeControl.targetSpeedLimitMps
    rw [← hspeed₀, hsettings]
    exact div_nonneg hrange.targetSpeed.1 (by norm_num)
  · have htorque : 0 ≤ b.runtimeControl.maxMotorTorqueNm := by
      rw [hsettings]
      exact hrange.motorTorque.1
    rw [← hback₀]
    refine (neg_nonpos.mpr h.nonneg).trans ?_
    split
    · rename_i hscale
      exact div_nonneg htorque hscale.le
    · exact le_rfl
  · rw [← hback₀, neg_neg]
    have hmax : b.runtimeControl.maxBrakePressureBar = profile.maxBrakePressureBar :=
      congrArg (·.maxBrakePressureBar) hsettings
    have hmax₀ : 0 ≤ b.runtimeControl.maxBrakePressureBar := hmax ▸ hrange.brakePressure.1
    exact h.pressure.le.trans (mul_le_of_le_one_left hmax₀ h.range.2)
  · rw [← hsteering₀]
    intro value hvalue
    obtain rfl := List.eq_of_mem_replicate (List.mem_of_mem_take hvalue)
    exact h.steering

end

/-! ### The calls -/

section
variable {last : Option ℚ} {c : Chassis} {now : ℤ}

/-- The bridge of an adapter that holds a profile. -/
theorem Holds.bridge {profile : SessionControlProfile ℚ} {b : BridgeRuntime} (h : Holds profile c)
    (hb : b ∈ c.bridge) : b.runtimeControl.maxBrakePressureBar =
      c.adapter.sessionBrakePressureLimitBar := by
  obtain ⟨revision, b', hb', hsettings, -, hbrake, -⟩ := h
  obtain rfl : b = b' := Option.some.inj (hb.symm.trans hb')
  rw [hsettings, hbrake]
  rfl

theorem Matched.bridge {b : BridgeRuntime} (h : Matched c) (hb : b ∈ c.bridge) :
    b.maxOrdinaryBrakeBar = c.adapter.config.maxOrdinaryBrakePressureBar :=
  congrArg ControlLimits.maxOrdinaryBrakeBar (h.limits b hb)

/-- What an applied command does to everything but the demand. -/
theorem applyControl_trails (last : Option ℚ) (c : Chassis) (now : ℤ) (command : DriverCommand) :
    Trails c (c.applyControl now command).2 ∧
      (Carried last c → Lawful last c → Lawful last (c.applyControl now command).2) := by
  unfold Chassis.applyControl
  split
  · exact ⟨.refl c, fun _ => id⟩
  split
  · exact ⟨.refl c, fun _ => id⟩
  rename_i arguments _
  extract_lets applied
  have htrails : Trails c applied.2 := trails_applyStateV3 now _ arguments
  have hlawful : Carried last c → Lawful last c → Lawful last applied.2 :=
    lawful_applyStateV3 now _ arguments
  split
  · refine ⟨htrails.trans ?_, hlawful⟩
    dsimp only
    exact Quiet.toTrails (.books rfl rfl : Quiet last _ _)
  · refine ⟨htrails.trans ?_, hlawful⟩
    dsimp only
    exact Quiet.toTrails (.books rfl rfl : Quiet last _ _)

/-- An accepted command is what the bridge asks for; behind a rejected one nothing is said. -/
theorem applyControl_asks {profile : SessionControlProfile ℚ} (now : ℤ) (command : DriverCommand)
    (hc : Carried last c) (hholds : Holds profile c) :
    ((c.applyControl now command).1 = .ok () →
      Carried (some command.brake) (c.applyControl now command).2) ∧
    Carried none (c.applyControl now command).2 ∧
    ∀ failure, (c.applyControl now command).1 = .error failure →
      (∀ code result, failure ≠ .controlRejected code result) →
        (c.applyControl now command).2 = c := by
  have hcalm : Carried none c := ⟨hc.matched, hc.opened, fun b hb =>
    (hc.carries b hb).of_limits (hc.carries b hb).invariant rfl
      fun _ _ _ hnone => absurd hnone (Option.not_mem_none _)⟩
  unfold Chassis.applyControl
  split
  · exact ⟨fun h => (by cases h), hcalm, fun _ _ _ => rfl⟩
  split
  · exact ⟨fun h => (by cases h), hcalm, fun _ _ _ => rfl⟩
  rename_i arguments harguments
  extract_lets applied
  have hnone : Carried none applied.2 :=
    carried_applyStateV3 hc fun _ _ _ _ _ hnone => absurd hnone (Option.not_mem_none _)
  split
  · refine ⟨fun h => (by cases h), ?_, ?_⟩
    · dsimp only
      exact Quiet.carried (.books rfl rfl) hnone
    · rintro failure hfailure hother
      exact absurd (Except.error.inj hfailure).symm (hother _ _)
  · rename_i hcode
    have hasks : Carried (some command.brake) applied.2 := by
      refine carried_applyStateV3 hc fun b hb hengaged _ brake hbrake => ?_
      obtain rfl := Option.some.inj hbrake
      have happlied : applied.1 = (Bridge.applyState b now arguments).1 := by
        unfold applied Chassis.applyStateV3
        rw [Option.mem_def.mp hb]
      refine asks_of_accepted (Bridge.applyState_outcome b now arguments) ?_
        (fun intent hchecked _ => ?_) hengaged
      · rw [← happlied]
        exact not_not.mp hcode
      · exact presses_applyArguments harguments hchecked (hc.matched.bridge hb)
          (hholds.bridge hb)
    refine ⟨fun _ => ?_, ?_, fun _ h => (by cases h)⟩
    · dsimp only
      exact Quiet.carried (.books rfl rfl) hasks
    · dsimp only
      exact Quiet.carried (.books rfl rfl) hnone

/-- The brake in force, applied once more to a bridge that heeds nobody. -/
theorem applyControl_reapplies {profile : SessionControlProfile ℚ} {command : DriverCommand}
    (hc : Carried last c) (hholds : Holds profile c) (hdeaf : ∀ b ∈ c.bridge, Engaged b → ¬Heeded b)
    (hsame : ∀ b ∈ c.bridge, Engaged b → ∀ brake ∈ last, command.brake = brake) :
    Carried last (c.applyControl now command).2 := by
  unfold Chassis.applyControl
  split
  · exact hc
  split
  · exact hc
  rename_i arguments harguments
  extract_lets applied
  have happlied : Carried last applied.2 := by
    refine carried_applyStateV3 hc fun b hb hengaged hheeded brake hbrake => ?_
    refine asks_of_reapplied (Bridge.applyState_outcome b now arguments)
      (fun hbefore hheeds => absurd hheeds (hdeaf b hb hbefore))
      (fun intent hchecked hbefore => ?_) hengaged hheeded
    obtain rfl := hsame b hb hbefore brake hbrake
    exact ⟨presses_applyArguments harguments hchecked (hc.matched.bridge hb) (hholds.bridge hb),
      fun hheeds => absurd hheeds (hdeaf b hb hbefore)⟩
  split
  · dsimp only
    exact Quiet.carried (.books rfl rfl) happlied
  · dsimp only
    exact Quiet.carried (.books rfl rfl) happlied

/-- A stop, or an output that gives the brake in force again. -/
theorem applySafeStop_quiet {output : ControlOutput} (context : Bridge.StopContext)
    (h : ∀ b ∈ c.bridge, Engaged b → ∀ brake ∈ last,
      Restates brake output c.adapter.config.maxOrdinaryBrakePressureBar (Bridge.parkedLimits b)) :
    Quiet last c (c.applySafeStop now output context).2 := by
  by_cases hstops : StopsBridge output
  · exact quiet_stop hstops context
  unfold Chassis.applySafeStop
  split
  · exact .refl c
  rw [if_neg (show ¬(output.estop = true ∨ output.fullEmergencyBrake = true) from hstops)]
  extract_lets applied
  refine quiet_countStop (Quiet.trans ?_ (quiet_checkResult _ _))
  refine ⟨trails_applyStateV3 now _ _, fun hc => ?_, lawful_applyStateV3 now _ _⟩
  refine carried_applyStateV3 hc fun b hb hengaged hheeded brake hbrake => ?_
  refine asks_of_reapplied (Bridge.applyState_outcome b now _)
    (fun hbefore hheeds => (hc.carries b hb).asks hbefore hheeds brake hbrake)
    (fun intent hchecked hbefore => ?_) hengaged hheeded
  have hrestates := h b hb hbefore brake hbrake
  rw [← hc.matched.bridge hb] at hrestates
  exact ⟨presses_stopArguments hrestates hchecked,
    fun _ => stopArguments_fits hrestates ((hc.carries b hb).configured hbefore.1) hchecked⟩

end

/-! ### The calls that change a session -/

section
variable {last : Option ℚ} {c : Chassis} {now : ℤ}

/-- From `c` to `c'` the session ends. -/
structure Ends (last : Option ℚ) (c c' : Chassis) : Prop where
  config : c'.adapter.config = c.adapter.config
  carried : Carried last c → Carried last c'
  lawful : Carried last c → Lawful last c → Lawful last c'
  rests : Carried last c → Rests c'

theorem Ends.behind {c₁ c₂ : Chassis} (h' : Ends last c₁ c₂) (h : Quiet last c c₁) :
    Ends last c c₂ where
  config := h'.config.trans h.config
  carried hc := h'.carried (h.carried hc)
  lawful hc hl := h'.lawful (h.carried hc) (h.lawful hc hl)
  rests hc := h'.rests (h.carried hc)

theorem Ends.before {c₁ c₂ : Chassis} (h : Ends last c c₁) (h' : Quiet last c₁ c₂) :
    Ends last c c₂ where
  config := h'.config.trans h.config
  carried hc := h'.carried (h.carried hc)
  lawful hc hl := h'.lawful (h.carried hc) (h.lawful hc hl)
  rests hc := h'.toTrails.rests (h.rests hc)

theorem closed_rests (hclosed : c.adapter.opened = false) (hc : Carried last c) : Rests c :=
  fun b hb _ => Bool.noConfusion (hclosed.symm.trans (hc.opened b hb))

theorem ends_clearRuntimeControlProfile : Ends last c c.clearRuntimeControlProfile.2 := by
  unfold Chassis.clearRuntimeControlProfile
  split
  · rename_i hclosed
    exact ⟨rfl, id, fun _ => id, closed_rests hclosed⟩
  extract_lets checked
  have hcleared : Ends last c
      (c.deliver (some .clearRuntimeControlProfile) .clearRuntimeControl) := by
    unfold Chassis.deliver
    split
    · rename_i hnone
      exact ⟨rfl, id, fun _ => id, fun _ b hb => by rw [hnone] at hb; cases hb⟩
    · rename_i b hb
      have hrests : ¬Engaged (Bridge.clearRuntimeControl b) :=
        fun hengaged => Bool.noConfusion hengaged.1
      refine ⟨rfl, fun hc => ⟨⟨fun _ => Option.some_ne_none _, fun b' hb' => ?_⟩,
        fun _ _ => hc.opened b hb, fun b' hb' => ?_⟩, lawful_feed _ _ hb, fun _ b' hb' => ?_⟩
      · obtain rfl := Option.some.inj hb'
        exact openedLimits_of_settings rfl (hc.matched.limits b hb)
      · obtain rfl := Option.some.inj hb'
        have hcarries := hc.carries b hb
        exact ⟨Bridge.bridgeInvariant_respond b .clearRuntimeControl hcarries.invariant,
          fun hactive => Bool.noConfusion hactive, hcarries.limit,
          fun hengaged => absurd hengaged hrests⟩
      · obtain rfl := Option.some.inj hb'
        exact hrests
  have hchecked : Ends last c checked.2 := hcleared.before (quiet_checkResult _ _)
  split
  · exact hchecked
  · exact ⟨hchecked.config, fun hc => ⟨⟨fun hopened => (hchecked.carried hc).matched.opened hopened,
      (hchecked.carried hc).matched.limits⟩, (hchecked.carried hc).opened,
      (hchecked.carried hc).carries⟩, hchecked.lawful, hchecked.rests⟩

theorem ends_closeAdapter (closing : List IoEvent) : Ends last c (c.closeAdapter closing).2 := by
  unfold Chassis.closeAdapter
  split
  · rename_i hclosed
    exact ⟨rfl, id, fun _ => id, closed_rests hclosed⟩
  have hquiet : Quiet last c
      (((c.deliver (some .closeAdapter) .beginClose).runIo closing).deliver (some .closeAdapter)
        .finishClose) :=
    (quiet_deliver _ id id).trans ((quiet_runIo closing).trans (quiet_deliver _ id id))
  have hnone : ∀ b, b ∉ (none : Option BridgeRuntime) := fun b => Option.not_mem_none b
  exact ⟨hquiet.config, fun _ => ⟨⟨fun hopened => absurd hopened Bool.false_ne_true,
      fun b hb => absurd hb (hnone b)⟩, fun b hb => absurd hb (hnone b),
      fun b hb => absurd hb (hnone b)⟩, hquiet.lawful, fun _ b hb => absurd hb (hnone b)⟩

theorem ends_openAdapter (loading : Except String Bridge.OpenEnvironment) (hrests : Rests c) :
    Ends last c (c.openAdapter loading).2 := by
  unfold Chassis.openAdapter
  split
  · exact ⟨rfl, fun hc => (quiet_failed _).carried hc, fun _ => id, fun _ => hrests⟩
  rename_i env
  extract_lets opened checked
  have hopens : (opened.1 ≠ 0 ∧ opened.2 = c) ∨ ∃ b env', opened.1 = 0 ∧
      Bridge.openV4 env' c.adapter.openConfig = .ok b ∧
      opened.2 = { c with bridge := some b, feedbackGeneration := 0, lastPolledGeneration := 0 } := by
    unfold opened Chassis.openV4
    split
    · rename_i code herror
      exact .inl ⟨openV4_error herror, rfl⟩
    · rename_i b hopen
      exact .inr ⟨b, _, rfl, hopen, rfl⟩
  rcases hopens with ⟨hcode, hsame⟩ | ⟨b, env', hcode, hopen, hfresh⟩
  · have hchecked : checked = opened.2.failed ("mine_teleop_chassis_open_v4" ++
        " failed with code " ++ toString opened.1) := if_neg hcode
    rw [hchecked, hsame]
    exact ⟨rfl, fun hc => (quiet_failed _).carried hc, fun _ => id, fun _ => hrests⟩
  · have hchecked : checked = (.ok (), opened.2.withAdapter fun a => { a with lastError := "" }) :=
      if_pos hcode
    have hlimits := openV4_limits hopen
    have hsettings : b.runtimeControl = {} := congrArg ControlLimits.runtimeControl hlimits
    have hinactive : b.runtimeControl.active = false := by rw [hsettings]
    have hrest : ¬Engaged b := fun hengaged => Bool.noConfusion (hinactive.symm.trans hengaged.1)
    rw [hchecked, hfresh]
    refine ⟨rfl, fun hc => ⟨⟨fun _ => Option.some_ne_none _, fun b' hb' => ?_⟩, fun _ _ => rfl,
      fun b' hb' => ?_⟩, fun _ => id, fun _ b' hb' => ?_⟩
    · obtain rfl := Option.some.inj hb'
      rw [hsettings]
      exact hlimits
    · obtain rfl := Option.some.inj hb'
      refine ⟨(Bridge.Opened.fresh ⟨env', .inr (.inr ⟨_, .inr (.inr hopen)⟩)⟩).invariant,
        fun hactive => Bool.noConfusion (hinactive.symm.trans hactive), ?_,
        fun hengaged => absurd hengaged hrest⟩
      have hmax : b.maxOrdinaryBrakeBar = c.adapter.config.maxOrdinaryBrakePressureBar :=
        congrArg ControlLimits.maxOrdinaryBrakeBar hlimits
      rw [hmax]
      exact c.adapter.valid.brakePressure.2
    · obtain rfl := Option.some.inj hb'
      exact hrest

end

section
variable {last : Option ℚ} {c c' : Chassis} {now : ℤ}

/-- An event that changes nothing, and emits nothing. -/
theorem quiet_unchanged {b : BridgeRuntime} (cause : Option AdapterCall) {e : Bridge.Event}
    (hb : c.bridge = some b) (hsame : (Bridge.respond b e).2 = b) :
    Quiet last c (c.feed cause b e) := by
  have hbridge : (c.feed cause b e).bridge = c.bridge := by
    rw [hb]
    exact congrArg some hsame
  refine ⟨⟨⟨rfl, congrArg _ hbridge⟩, rfl, fun b' hb' hengaged => ⟨b', hbridge ▸ hb', hengaged, rfl⟩⟩,
    fun hc => ⟨⟨fun hopened => ?_, fun b' hb' => ?_⟩, fun b' hb' => ?_, fun b' hb' => ?_⟩,
    lawful_feed cause e hb⟩
  · rw [hbridge]
    exact hc.matched.opened hopened
  · exact hc.matched.limits b' (hbridge ▸ hb')
  · exact hc.opened b' (hbridge ▸ hb')
  · exact hc.carries b' (hbridge ▸ hb')

/-- What a profile that the adapter has taken leaves: a bridge that heeds nobody yet. -/
structure Installs (last : Option ℚ) (profile : SessionControlProfile ℚ) (c c' : Chassis) :
    Prop where
  config : c'.adapter.config = c.adapter.config
  engaged : ∀ b' ∈ c'.bridge, Engaged b' →
    ∃ b ∈ c.bridge, Engaged b ∧ Bridge.parkedLimits b' = Bridge.parkedLimits b
  carried : Carried last c → Carried last c'
  lawful : Carried last c → Lawful last c → Lawful last c'
  holds : Holds profile c'
  deaf : ∀ b ∈ c'.bridge, ¬Heeded b

theorem configure_installs (last : Option ℚ) (c : Chassis) (now : ℤ)
    (profile : SessionControlProfile ℚ) (revision : ℕ) :
    let r := c.configureRuntimeControlProfile now profile revision
    (∀ n, r.1 = .ok n → n = revision ∧ Installs last profile c r.2) ∧
      ∀ failure, r.1 = .error failure → Quiet last c r.2 := by
  intro r
  have houtcome : ConfigureOutcome c now profile revision r :=
    configureRuntimeControlProfile_outcome c now profile revision
  generalize r = r at houtcome
  have hholds := fun n hok => ConfigureOutcome.holds (n := n) houtcome hok
  have hmatched := ConfigureOutcome.matched houtcome
  cases houtcome with
  | closed => exact ⟨fun _ => (nomatch ·), fun _ _ => .refl c⟩
  | exceeds => exact ⟨fun _ => (nomatch ·), fun _ _ => .refl c⟩
  | missing => exact ⟨fun _ => (nomatch ·), fun _ _ => .refl c⟩
  | refuses failure b hb hissue =>
    refine ⟨fun _ => (nomatch ·), fun _ _ => quiet_unchanged _ hb ?_⟩
    rcases Bridge.configure_decides b now .v3 (runtimeControlConfig profile revision) with
      ⟨-, -, hsame⟩ | ⟨hnone, -⟩
    · exact hsame
    · exact absurd hnone hissue
  | installs b hopened hb hissue =>
    refine ⟨fun n hok => ⟨(Except.ok.inj hok).symm, ?_⟩, fun _ => (nomatch ·)⟩
    obtain ⟨hfollows, hdeaf⟩ :=
      Bridge.configure_follows b now .v3 (runtimeControlConfig profile revision)
    obtain ⟨hrange, -, hlimits⟩ := configure_accepts hissue
    have hheeds : ¬Heeded (Bridge.configure b now .v3 (runtimeControlConfig profile revision)).2.2 :=
      hdeaf hissue
    refine ⟨rfl, fun b' hb' hengaged => ?_, fun hc => ⟨hmatched hc.matched, fun _ _ => hopened,
      fun b' hb' => ?_⟩, lawful_feed _ _ hb, hholds n hok, fun b' hb' => ?_⟩
    · obtain rfl := Option.some.inj hb'
      exact ⟨b, hb, hfollows.engaged hengaged, hfollows.limits hengaged⟩
    · obtain rfl := Option.some.inj hb'
      have hcarries := hc.carries b hb
      refine ⟨Bridge.bridgeInvariant_respond b _ hcarries.invariant, fun _ => ?_, ?_,
        fun _ hheeded => absurd hheeded hheeds⟩
      · exact ⟨profile, revision, congrArg ControlLimits.runtimeControl hlimits,
          hlimits ▸ ⟨hrange.1, hrange.2, hrange.3, hrange.4⟩, (parkingIdle_of_configures hissue).1⟩
      · exact (congrArg ControlLimits.maxOrdinaryBrakeBar hlimits).le.trans hcarries.limit
    · obtain rfl := Option.some.inj hb'
      exact hheeds

/-- A handshake that is granted leaves nothing of the brake; any other one changes nothing. -/
theorem requestVcuHandshake_carries (last : Option ℚ) (c : Chassis) (now : ℤ) :
    let r := c.requestVcuHandshake now
    (r.1 = .ok true → SameLimits c r.2 ∧ r.2.adapter.config = c.adapter.config ∧
      (Carried last c → Carried none r.2) ∧ (Carried last c → Lawful last c → Lawful last r.2)) ∧
    (r.1 ≠ .ok true → Quiet last c r.2) := by
  dsimp only
  unfold Chassis.requestVcuHandshake
  split
  · exact ⟨fun h => (by cases h), fun _ => .refl c⟩
  split
  · exact ⟨fun h => Bool.noConfusion (Except.ok.inj h), fun _ => .refl c⟩
  rename_i b hb
  extract_lets requested
  split
  · rename_i hrefused
    exact ⟨fun h => Bool.noConfusion (Except.ok.inj h), fun _ =>
      quiet_unchanged _ hb (Bridge.requestParallelHandshake_refused b now hrefused)⟩
  · have hrequested : SameLimits c requested := sameLimits_feed _ hb id
    refine ⟨fun _ => ⟨⟨hrequested.adapter, hrequested.bridge⟩, rfl, fun hc => ?_,
      lawful_feed _ _ hb⟩, fun hne => absurd rfl hne⟩
    have hcarried : Carried none requested :=
      carried_feed _ hb id hc fun _ _ _ hnone => absurd hnone (Option.not_mem_none _)
    dsimp only
    exact Quiet.carried (.books rfl rfl) hcarried

end

end MineTeleop.Stack
