import MineTeleop.Driver.Intent
import MineTeleop.Media.Runtime

/-!
# Native control messages

What the native sender makes of a sample, and what the vehicle checks of it.  Proved here of every
run of the intent store:

* `stale_samples_iff`: the messages of stale samples are exactly zero, and the vehicle discards none
  of them as a stale request to drive, if and only if no stale sample finds a held intent that is
  neutral without being zero.
-/

namespace MineTeleop.Driver

open Runs
open Media (NativeControlMessage VehicleMediaRuntime)
open Service (ProtocolMetadata VehicleAdapter ControlCommand)

/-- The message of `send_native_control_sample`. -/
def nativeControlMessage (metadata : ProtocolMetadata) (controlToken : String)
    (sample : NativeControlIntentSample) : NativeControlMessage :=
  let intentFresh := sample.fresh && !sample.requiresFreshInput
  { command :=
      { metadata with
        gear := sample.intent.gear.text
        steering := some sample.intent.steering
        throttle := some sample.intent.throttle
        brake := some sample.intent.brake
        estop := sample.intent.estop
        operatorActive := intentFresh && !sample.intent.estop && !decide sample.intent.IsNeutral
        controlToken := controlToken }
    intentSeq := sample.intent.intentSeq
    intentFresh := intentFresh }

/-! ## What the vehicle makes of it -/

/-- The vehicle takes the message for a stale request to drive. -/
def DiscardsAsStale {σ : Type} (adapter : VehicleAdapter σ) (r : VehicleMediaRuntime σ)
    (message : NativeControlMessage) (utcMs monotonicMs : ℤ) : Prop :=
  (r.handleControlMessage adapter message utcMs monotonicMs).1 =
    .discarded "stale_nonzero_intent_discarded"

section
variable {σ : Type} {adapter : VehicleAdapter σ} {r : VehicleMediaRuntime σ}

theorem openService_reason {reason : String} (h : r.openService = .error reason) :
    reason ≠ "stale_nonzero_intent_discarded" := by
  unfold VehicleMediaRuntime.openService at h
  split at h
  · obtain rfl := Except.error.inj h
    decide
  split at h
  · obtain rfl := Except.error.inj h
    decide
  split at h
  · obtain rfl := Except.error.inj h
    decide
  split at h
  · obtain rfl := Except.error.inj h
    decide
  split at h
  · obtain rfl := Except.error.inj h
    decide
  · cases h

theorem heartbeatDiscard_reason {state : Service.SafetyState} {gear : Service.Gear}
    {monotonicMs : ℤ} {reason : String}
    (h : r.heartbeatDiscard state gear monotonicMs = some reason) :
    reason ≠ "stale_nonzero_intent_discarded" := by
  unfold VehicleMediaRuntime.heartbeatDiscard at h
  split at h
  · obtain rfl := Option.some.inj h
    decide
  split at h
  · obtain rfl := Option.some.inj h
    decide
  split at h
  · obtain rfl := Option.some.inj h
    decide
  · cases h

theorem receiveApply_reply (w : Service.World σ) (command : ControlCommand) (gear : Service.Gear)
    (intentFresh : Bool) (utcMs monotonicMs : ℤ) (reason : String) :
    (r.receiveApply adapter w command gear intentFresh utcMs monotonicMs).1 ≠ .discarded reason := by
  unfold VehicleMediaRuntime.receiveApply
  extract_lets answer r₁ frozen
  split
  · split
    · split
      · exact (nomatch ·)
      · exact (nomatch ·)
    · exact (nomatch ·)
  · split
    · exact (nomatch ·)
    · exact (nomatch ·)

theorem handleOrdinary_reply {w : Service.World σ} {message : NativeControlMessage}
    {checked : Service.DriverCommand} {utcMs monotonicMs : ℤ} :
    (r.handleOrdinary adapter w message checked utcMs monotonicMs).1 ≠
      .discarded "stale_nonzero_intent_discarded" := by
  unfold VehicleMediaRuntime.handleOrdinary
  extract_lets answer r₁
  split
  · exact (nomatch ·)
  split
  · exact fun heq => absurd (Media.Reply.discarded.inj heq) (by decide)
  split
  · exact fun heq => absurd (Media.Reply.discarded.inj heq) (by decide)
  split
  · rename_i reason hreason
    intro heq
    obtain rfl := Media.Reply.discarded.inj heq
    split at hreason
    · cases hreason
    · exact heartbeatDiscard_reason hreason rfl
  · exact receiveApply_reply _ _ _ _ _ _ _

/-- A message with exact zeros is never taken for a request to drive. -/
theorem still_not_discarded {message : NativeControlMessage} {utcMs monotonicMs : ℤ}
    (hsteering : message.command.steering = some 0) (hthrottle : message.command.throttle = some 0)
    (hbrake : message.command.brake = some 0) :
    ¬DiscardsAsStale adapter r message utcMs monotonicMs := by
  unfold DiscardsAsStale VehicleMediaRuntime.handleControlMessage
  split
  · exact (nomatch ·)
  rename_i checked hvalid
  split
  · exact (nomatch ·)
  split
  · rename_i reason hreason
    exact fun heq => openService_reason hreason (Media.Reply.discarded.inj heq)
  split
  · exact receiveApply_reply _ _ _ _ _ _ _
  split
  · rename_i hmoves
    obtain ⟨-, ⟨hs, -⟩, ⟨ht, -⟩, hb, -⟩ := Service.ControlCommand.validate_ok hvalid
    have hstill : Media.Still checked :=
      ⟨Option.some.inj (hs.symm.trans hsteering), Option.some.inj (ht.symm.trans hthrottle),
        Option.some.inj (hb.symm.trans hbrake)⟩
    exact absurd hstill hmoves.2
  · exact handleOrdinary_reply

end

/-! ## Every run of the store -/

/-- The message of a stale sample is exactly zero, and no vehicle discards it as a request to
drive. -/
def StaleSampleLaw (st : IntentStep) : Prop :=
  ∀ t sample, st.event = .sample t → st.output = .sampled (some sample) →
    sample.intent.estop = false → sample.fresh = false ∨ sample.requiresFreshInput = true →
    sample.intent.Still ∧
    ∀ metadata controlToken, ∀ {σ : Type} (adapter : VehicleAdapter σ) (r : VehicleMediaRuntime σ)
      (utcMs monotonicMs : ℤ), ¬DiscardsAsStale adapter r
        (nativeControlMessage metadata controlToken sample) utcMs monotonicMs

/-- A neutral intent that outlives its lease is exactly zero. -/
def NeutralIsZero (st : IntentStep) : Prop :=
  ∀ t, st.event = .sample t → 0 ≤ t → st.before.estopLatched = false →
    st.before.requiresFreshInput = false → ∀ held ∈ st.before.latest, held.IsNeutral →
    st.before.leaseMs ≤ t - st.before.receivedAtMonotonicMs → held.Still

/-- Only a latched ESTOP is held as one. -/
def HeldEstop (s : NativeControlIntentStore) : Prop :=
  ∀ held ∈ s.latest, held.estop = true → s.estopLatched = true

section
variable {leaseMs : ℤ} {lease : 100 ≤ leaseMs ∧ leaseMs ≤ 1000} {s : NativeControlIntentStore}

theorem heldEstop_step (h : HeldEstop s) (e : Event) : HeldEstop (respond s e).2 := by
  cases e with
  | update intent t =>
    rcases update_updated s intent t with ⟨e, hupdate, -⟩ | ⟨i, r, -, -, hupdated, hupdate⟩
    · have hafter : respond s (.update intent t) = (.threw e, s) := by rw [respond, hupdate]
      rw [hafter]
      exact h
    · rw [respond_update hupdate]
      cases hupdated with
      | refused => exact h
      | accepted =>
        intro held hheld hestop
        obtain rfl := Option.some.inj hheld
        exact Bool.or_eq_true_iff.mpr (.inr hestop)
  | sample t =>
    rcases sample_sampled s t with (⟨⟨e, hsample⟩, -⟩ | ⟨hsample, -⟩) |
      ⟨held, sample, -, -, -, hsample⟩
    · have hafter : respond s (.sample t) = (.threw e, s) := by rw [respond, hsample]
      rw [hafter]
      exact h
    · have hafter : respond s (.sample t) = (.sampled none, s) := by rw [respond, hsample]
      rw [hafter]
      exact h
    · have hafter : respond s (.sample t) = (.sampled (some sample),
          { s with requiresFreshInput := sample.requiresFreshInput }) := by rw [respond, hsample]
      rw [hafter]
      exact h
  | invalidate => exact h
  | reset => exact fun held hheld => absurd hheld (Option.not_mem_none held)

/-- A stale sample of an intent that was not stilled is a neutral one's. -/
theorem stale_still {held : CheckedIntent} {t : ℤ} {sample : NativeControlIntentSample}
    (hlatest : s.latest = some held) (hestop : held.estop = false) (hsampled : Sampled s held t sample)
    (hstale : sample.fresh = false ∨ sample.requiresFreshInput = true)
    (hzero : s.requiresFreshInput = false → held.IsNeutral →
      s.leaseMs ≤ t - s.receivedAtMonotonicMs → held.Still) : sample.intent.Still := by
  have hintent := hsampled.intent
  by_cases hrequires : sample.requiresFreshInput = true
  · rw [if_pos ⟨hrequires, hestop⟩] at hintent
    rw [hintent]
    exact held.stilled_still
  · rw [if_neg fun h => hrequires h.1] at hintent
    have hfresh := hstale.resolve_right hrequires
    rw [hsampled.fresh] at hfresh
    have hlease := not_lt.mp (of_decide_eq_false hfresh)
    obtain ⟨hstored, hexpired⟩ := hsampled.requires_false (eq_false_of_ne_true hrequires)
    have hneutral : held.IsNeutral := by
      by_contra hmoves
      exact hexpired hestop ((expired_iff hlatest).mpr ⟨hmoves, hlease⟩)
    have hstill := hzero hstored hneutral hlease
    rw [hintent]
    exact hstill

theorem staleSampleLaw_iff (h : HeldEstop s) (e : Event) :
    StaleSampleLaw ((machine leaseMs lease).observe s e) ↔
      NeutralIsZero ((machine leaseMs lease).observe s e) := by
  constructor
  · rintro hlaw t heq ht hlatched hstored held hheld hneutral hlease
    cases heq
    rcases sample_sampled s t with (⟨-, hneg⟩ | ⟨-, hnone⟩) |
      ⟨held', sample, -, hlatest, hsampled, hsample⟩
    · exact absurd hneg (not_lt.mpr ht)
    · exact absurd (hheld.symm.trans hnone) (Option.some_ne_none held)
    obtain rfl := Option.some.inj (hheld.symm.trans hlatest)
    have hafter : respond s (.sample t) = (.sampled (some sample),
        { s with requiresFreshInput := sample.requiresFreshInput }) := by rw [respond, hsample]
    have hrequires : sample.requiresFreshInput = false := by
      rw [hsampled.requires, if_neg fun hover => ((expired_iff hheld).mp hover.1).1 hneutral]
      exact hstored
    have hfresh : sample.fresh = false := by
      rw [hsampled.fresh]
      exact decide_eq_false (not_lt.mpr hlease)
    obtain ⟨hstill, -⟩ := hlaw t sample rfl (congrArg Prod.fst hafter)
      (hsampled.estop.trans hlatched) (.inl hfresh)
    rw [hsampled.intent, if_neg fun hstale => Bool.false_ne_true (hrequires.symm.trans hstale.1)]
      at hstill
    exact hstill
  · rintro hzero t sample heq houtput hestop hstale
    cases heq
    rcases sample_sampled s t with (⟨⟨e, hsample⟩, -⟩ | ⟨hsample, -⟩) |
      ⟨held, sample', ht, hlatest, hsampled, hsample⟩
    · have hafter : respond s (.sample t) = (.threw e, s) := by rw [respond, hsample]
      cases (congrArg Prod.fst hafter).symm.trans houtput
    · have hafter : respond s (.sample t) = (.sampled none, s) := by rw [respond, hsample]
      cases (congrArg Prod.fst hafter).symm.trans houtput
    have hafter : respond s (.sample t) = (.sampled (some sample'),
        { s with requiresFreshInput := sample'.requiresFreshInput }) := by rw [respond, hsample]
    cases (congrArg Prod.fst hafter).symm.trans houtput
    have hlatched : s.estopLatched = false := hsampled.estop.symm.trans hestop
    have hheldEstop : held.estop = false := by
      refine eq_false_of_ne_true fun hheldEstop => ?_
      exact Bool.false_ne_true (hlatched.symm.trans (h held hlatest hheldEstop))
    have hstill := stale_still hlatest hheldEstop hsampled hstale fun hstored hneutral hlease =>
      hzero t rfl ht hlatched hstored held hlatest hneutral hlease
    refine ⟨hstill, fun metadata controlToken σ adapter r utcMs monotonicMs => ?_⟩
    obtain ⟨hsteering, hthrottle, hbrake⟩ := hstill
    exact still_not_discarded (congrArg some hsteering) (congrArg some hthrottle)
      (congrArg some hbrake)

end

/-- The messages of a run's stale samples are exactly zero if and only if every neutral intent that
outlives its lease is. -/
theorem stale_samples_iff {leaseMs : ℤ} {lease : 100 ≤ leaseMs ∧ leaseMs ≤ 1000}
    {h : IntentHistory} {s : NativeControlIntentStore} (hr : Run (machine leaseMs lease) h s) :
    Steps StaleSampleLaw h ↔ Steps NeutralIsZero h := by
  refine hr.always_iff fun past s e hpast _ => staleSampleLaw_iff ?_ e
  exact hpast.invariant (I := HeldEstop) (fun held hheld => absurd hheld (Option.not_mem_none held))
    fun _ e hi => heldEstop_step hi e

theorem stale_samples_iff_released :
    (benchMachine.play [.update (benchIntent 1 0) 100, .sample 260]).1.head?.map (·.output) =
      some (.sampled (some ⟨false, false, ⟨"ui-1", 1, .D, 0, 0, 0, false⟩⟩)) ∧
    Steps StaleSampleLaw (benchMachine.play [.update (benchIntent 1 0) 100, .sample 260]).1 := by
  refine ⟨by decide +kernel, (stale_samples_iff (Run.play benchMachine _)).mpr ?_⟩
  refine ⟨fun t heq _ _ _ held hheld _ _ => ?_, fun t heq => (nomatch heq), trivial⟩
  have heq : held = ⟨"ui-1", 1, .D, 0, 0, 0, false⟩ :=
    Option.some.inj (hheld.symm.trans (by decide +kernel))
  rw [heq]
  decide +kernel

/-- Almost no throttle: neutral, and not zero. -/
def driftingEvents : List Event := [.update (benchIntent 1 (1 / 10000000000)) 100]

def driftingSample : NativeControlIntentSample :=
  ⟨false, false, ⟨"ui-1", 1, .D, 0, 1 / 10000000000, 0, false⟩⟩

theorem stale_sample_drifts :
    (benchMachine.step (benchMachine.play driftingEvents).2 (.sample 260)).1 =
      .sampled (some driftingSample) ∧
    ¬Steps StaleSampleLaw (benchMachine.play (driftingEvents ++ [.sample 260])).1 := by
  have houtput : (benchMachine.step (benchMachine.play driftingEvents).2 (.sample 260)).1 =
      .sampled (some driftingSample) := by decide +kernel
  refine ⟨houtput, fun hsteps => ?_⟩
  rw [Machine.play_concat] at hsteps
  obtain ⟨hstill, -⟩ := hsteps.1 260 driftingSample rfl houtput rfl (.inl rfl)
  exact absurd hstill (by decide +kernel)

end MineTeleop.Driver
