import MineTeleop.Library.Runs
import MineTeleop.Service.Deceleration

/-!
# What the safety machine does when commands stop

Proved here, for every machine that `create` builds:

* `timeout_escalates_iff`: `TimeoutBrake` is kept and its stage never goes back, in a run of any
  calls, exactly when no tick steps back in time by so much that it meets the window of
  `Degraded` again or a delay that an earlier tick had passed;
* `Commanded.brakesFrom_eq`: the brakes that the ticks behind a command put out, as a function
  of their times;
* `braking_without_commands`: they never decrease but where `TimeoutBrake` begins, and end with
  the full brake.
-/

namespace MineTeleop.Service

open Bridge (Double)
open Runs

/-! ## The safety machine as a machine -/

/-- The calls of `SafetyStateMachine`. -/
inductive SafetyEvent where
  | markReady
  | onValidCommand (command : DriverCommand) (timestampMs : ℤ)
  | tick (timestampMs : ℤ)
  | resetEstop (localConfirmed : Bool) (authorizedBy : String)
  | resetToStandby
  | markFault
  deriving DecidableEq

namespace SafetyStateMachine

/-- What a call returns, `true` where it returns nothing, and the machine behind it. -/
def respond (m : SafetyStateMachine) : SafetyEvent → Bool × SafetyStateMachine
  | .markReady => (true, m.markReady)
  | .onValidCommand command timestampMs => (true, m.onValidCommand command timestampMs)
  | .tick timestampMs => (true, m.tick timestampMs)
  | .resetEstop localConfirmed authorizedBy => m.resetEstop localConfirmed authorizedBy
  | .resetToStandby => m.resetToStandby
  | .markFault => (true, m.markFault)

def machine (built : SafetyStateMachine) : Machine SafetyStateMachine SafetyEvent Bool :=
  ⟨built, respond⟩

theorem create_ok {degradedTimeoutMs controlTimeoutMs : ℤ} {profile : List (ℤ × Double)}
    {built : SafetyStateMachine} (h : create degradedTimeoutMs controlTimeoutMs profile = .ok built) :
    degradedTimeoutMs < controlTimeoutMs ∧ ProfileValid built.profile ∧
      built = { degradedTimeoutMs, controlTimeoutMs, profile := built.profile } := by
  unfold create at h
  split at h
  · cases h
  · split at h
    · cases h
    · rename_i htimes _ stages hstages
      obtain rfl := Except.ok.inj h
      exact ⟨by omega, normalizeAndValidateDecelerationProfile_ok hstages, rfl⟩

/-- The timeouts and the profile are those of the constructor. -/
def SameSettings (m m' : SafetyStateMachine) : Prop :=
  m'.degradedTimeoutMs = m.degradedTimeoutMs ∧ m'.controlTimeoutMs = m.controlTimeoutMs ∧
  m'.profile = m.profile

theorem respond_sameSettings (m : SafetyStateMachine) (e : SafetyEvent) :
    m.SameSettings (m.respond e).2 := by
  cases e with
  | markReady =>
    show m.SameSettings m.markReady
    unfold markReady
    split <;> exact ⟨rfl, rfl, rfl⟩
  | onValidCommand command t =>
    show m.SameSettings (m.onValidCommand command t)
    unfold onValidCommand
    split
    · exact ⟨rfl, rfl, rfl⟩
    · split <;> exact ⟨rfl, rfl, rfl⟩
  | tick t =>
    show m.SameSettings (m.tick t)
    unfold tick
    split
    · exact ⟨rfl, rfl, rfl⟩
    · split
      · exact ⟨rfl, rfl, rfl⟩
      · extract_lets elapsed
        split
        · exact ⟨rfl, rfl, rfl⟩
        · split <;> exact ⟨rfl, rfl, rfl⟩
  | resetEstop confirmed authorizedBy =>
    show m.SameSettings (m.resetEstop confirmed authorizedBy).2
    unfold resetEstop
    split <;> exact ⟨rfl, rfl, rfl⟩
  | resetToStandby =>
    show m.SameSettings m.resetToStandby.2
    unfold resetToStandby
    split <;> exact ⟨rfl, rfl, rfl⟩
  | markFault => exact ⟨rfl, rfl, rfl⟩

theorem run_sameSettings {built : SafetyStateMachine}
    {h : History SafetyStateMachine SafetyEvent Bool} {m : SafetyStateMachine}
    (hrun : Run (machine built) h m) : built.SameSettings m := by
  refine hrun.invariant (I := built.SameSettings) ⟨rfl, rfl, rfl⟩ ?_
  rintro m e ⟨hd, hc, hp⟩
  obtain ⟨hd', hc', hp'⟩ := respond_sameSettings m e
  exact ⟨hd'.trans hd, hc'.trans hc, hp'.trans hp⟩

/-! ## Ticks in `TimeoutBrake` -/

/-- The time in the window in which a tick sets `Degraded`. -/
def InDegradedWindow (m : SafetyStateMachine) (timestampMs : ℤ) : Prop :=
  ∃ last ∈ m.lastValidReceiveMs,
    m.degradedTimeoutMs ≤ timestampMs - last ∧ timestampMs - last < m.controlTimeoutMs

instance (m : SafetyStateMachine) (timestampMs : ℤ) :
    Decidable (m.InDegradedWindow timestampMs) :=
  inferInstanceAs (Decidable (∃ last ∈ m.lastValidReceiveMs, _))

def timeInTimeout (m : SafetyStateMachine) (timestampMs : ℤ) : ℤ :=
  timestampMs - m.timeoutEnteredMs.getD timestampMs

def stageInForce (m : SafetyStateMachine) (timestampMs : ℤ) : ℕ :=
  passedStages m.profile (m.timeInTimeout timestampMs)

/-- In `TimeoutBrake` a tick does nothing, but in the window of `Degraded`. -/
theorem tick_of_timeoutBrake {m : SafetyStateMachine} (hm : m.state = .timeoutBrake) (t : ℤ) :
    m.tick t = if m.InDegradedWindow t then { m with state := .degraded } else m := by
  obtain ⟨degraded, control, profile, state, command, received, entered⟩ := m
  simp only at hm
  subst hm
  cases received with
  | none => simp [tick, InDegradedWindow]
  | some last =>
    simp only [tick, InDegradedWindow, List.mem_cons, reduceCtorEq, List.not_mem_nil, or_self,
      ↓reduceIte, Option.mem_def, Option.some.injEq, ne_eq, not_true_eq_false, exists_eq_left']
    by_cases hcontrol : control ≤ t - last
    · rw [if_pos hcontrol, if_neg (by omega)]
    · rw [if_neg hcontrol]
      by_cases hdegraded : degraded ≤ t - last
      · rw [if_pos hdegraded, if_pos ⟨hdegraded, by omega⟩]
      · rw [if_neg hdegraded, if_neg (by omega)]

/-! ## Escalation over a run -/

abbrev SafetyStep := Step SafetyStateMachine SafetyEvent Bool
abbrev SafetyHistory := History SafetyStateMachine SafetyEvent Bool

/-- A valid command, or a reset that succeeds. -/
def releases (st : SafetyStep) : Bool :=
  match st.event with
  | .onValidCommand _ _ => true
  | .resetEstop _ _ | .resetToStandby => st.output
  | _ => false

/-- `TimeoutBrake` has been entered, and nothing has released it since. -/
def TimedOut : SafetyHistory → Prop :=
  Since (fun st => releases st = false) fun st => st.after.state = .timeoutBrake

instance (h : SafetyHistory) : Decidable (TimedOut h) := inferInstanceAs (Decidable (Since _ _ h))

/-- The time of a tick that ends in `TimeoutBrake`. -/
def timeoutTick? (st : SafetyStep) : Option ℤ :=
  match st.event with
  | .tick t => if st.after.state = .timeoutBrake then some t else none
  | _ => none

/-- The ticks in `TimeoutBrake` since the last release, with the stages they put in force. -/
def timeoutTicks : SafetyHistory → List (ℤ × ℕ)
  | [] => []
  | st :: h =>
    if releases st then []
    else ((timeoutTick? st).map fun t => (t, st.after.stageInForce t)).toList ++ timeoutTicks h

/-- The law: without a release no way leads back to `Degraded` or `ControlActive`, and no tick
puts an earlier stage in force. -/
def Escalates (st : SafetyStep) (h : SafetyHistory) : Prop :=
  releases st = false → TimedOut h →
    (st.after.state ≠ .degraded ∧ st.after.state ≠ .controlActive) ∧
    ∀ t ∈ timeoutTick? st, ∀ earlier ∈ timeoutTicks h, earlier.2 ≤ st.after.stageInForce t

instance (st : SafetyStep) (h : SafetyHistory) : Decidable (Escalates st h) :=
  inferInstanceAs (Decidable (_ → _))

def tickTime? : SafetyEvent → Option ℤ
  | .tick t => some t
  | _ => none

theorem mem_tickTime? {e : SafetyEvent} {t : ℤ} : t ∈ tickTime? e ↔ e = .tick t := by
  cases e <;> simp [tickTime?, eq_comm]

/-- A tick in `TimeoutBrake` that comes before what earlier ticks have passed: in the window of
`Degraded`, or before the delay of a stage that an earlier tick had put in force. -/
def StepsBack (st : SafetyStep) (h : SafetyHistory) : Prop :=
  ∃ t ∈ tickTime? st.event, st.before.state = .timeoutBrake ∧
    (st.before.InDegradedWindow t ∨
      ∃ earlier ∈ timeoutTicks h, ∃ stage ∈ st.before.profile,
        stage.afterMs ≤ st.before.timeInTimeout earlier.1 ∧
          st.before.timeInTimeout t < stage.afterMs)

instance (st : SafetyStep) (h : SafetyHistory) : Decidable (StepsBack st h) :=
  inferInstanceAs (Decidable (∃ t ∈ tickTime? st.event, _))

/-- What a history without steps back says about the machine it leads to. -/
structure TimeoutRecord (h : SafetyHistory) (m : SafetyStateMachine) : Prop where
  timedOut : m.state = .timeoutBrake → TimedOut h
  state : TimedOut h → m.state = .timeoutBrake ∨ m.state = .fault
  ticks : TimedOut h → ∀ earlier ∈ timeoutTicks h, earlier.2 = m.stageInForce earlier.1

theorem tick_of_fault {m : SafetyStateMachine} (hm : m.state = .fault) (t : ℤ) : m.tick t = m := by
  unfold tick
  rw [if_pos (by simp [hm])]

/-- A call that neither ticks nor releases leaves a machine in `TimeoutBrake` or `Fault` there,
with its stages. -/
theorem respond_quiet {m : SafetyStateMachine} (hm : m.state = .timeoutBrake ∨ m.state = .fault)
    {e : SafetyEvent} (hquiet : releases ((machine m).observe m e) = false)
    (htick : ∀ t, e ≠ .tick t) :
    ((m.respond e).2.state = .timeoutBrake ∨ (m.respond e).2.state = .fault) ∧
      (m.respond e).2.stageInForce = m.stageInForce := by
  cases e with
  | markReady =>
    have hsame : m.markReady = m := if_neg (by rcases hm with hm | hm <;> simp [hm])
    show (m.markReady.state = _ ∨ m.markReady.state = _) ∧ m.markReady.stageInForce = _
    rw [hsame]
    exact ⟨hm, rfl⟩
  | onValidCommand command t => cases hquiet
  | tick t => exact absurd rfl (htick t)
  | resetEstop confirmed authorizedBy =>
    have hsame : m.resetEstop confirmed authorizedBy = (false, m) :=
      if_pos (.inl (by rcases hm with hm | hm <;> simp [hm]))
    show ((m.resetEstop confirmed authorizedBy).2.state = _ ∨ _) ∧ _
    simp only [respond, hsame]
    exact ⟨hm, trivial⟩
  | resetToStandby =>
    have hfalse : m.resetToStandby.1 = false := hquiet
    have hsame : m.resetToStandby.2 = m := by
      unfold resetToStandby at hfalse ⊢
      split at hfalse
      · rw [if_pos ‹_›]
      · cases hfalse
    simp only [respond, hsame]
    exact ⟨hm, trivial⟩
  | markFault => exact ⟨.inr rfl, rfl⟩

/-- Only a tick enters `TimeoutBrake`, and a release never stays there. -/
theorem respond_timeoutBrake {m : SafetyStateMachine} {e : SafetyEvent}
    (htick : ∀ t, e ≠ .tick t) (h : (m.respond e).2.state = .timeoutBrake) :
    m.state = .timeoutBrake ∧ releases ((machine m).observe m e) = false := by
  cases e with
  | markReady =>
    change m.markReady.state = _ at h
    unfold markReady at h
    split at h
    · cases h
    · exact ⟨h, rfl⟩
  | onValidCommand command t =>
    change (m.onValidCommand command t).state = _ at h
    rw [onValidCommand_state] at h
    split at h
    · cases h
    · split at h
      · rename_i hlatched
        rw [h] at hlatched
        simp at hlatched
      · cases h
  | tick t => exact absurd rfl (htick t)
  | resetEstop confirmed authorizedBy =>
    change (m.resetEstop confirmed authorizedBy).2.state = _ at h
    show m.state = _ ∧ (m.resetEstop confirmed authorizedBy).1 = false
    unfold resetEstop at h ⊢
    split at h
    · rw [if_pos ‹_›]
      exact ⟨h, rfl⟩
    · cases h
  | resetToStandby =>
    change m.resetToStandby.2.state = _ at h
    show m.state = _ ∧ m.resetToStandby.1 = false
    unfold resetToStandby at h ⊢
    split at h
    · rw [if_pos ‹_›]
      exact ⟨h, rfl⟩
    · cases h
  | markFault => cases h

theorem timeoutTick?_of_not_tick {st : SafetyStep} (htick : ∀ t, st.event ≠ .tick t) :
    timeoutTick? st = none := by
  unfold timeoutTick?
  split
  · rename_i t ht
    exact absurd ht (htick t)
  · rfl

theorem timeoutTicks_of_not_timedOut {h : SafetyHistory} (hout : ¬TimedOut h) :
    timeoutTicks h = [] := by
  induction h with
  | nil => rfl
  | cons st h ih =>
    unfold timeoutTicks
    split
    · rfl
    · rename_i hquiet
      have hafter : st.after.state ≠ .timeoutBrake := fun hafter => hout (.inl hafter)
      have hpast : ¬TimedOut h := fun hpast => hout (.inr ⟨by simpa using hquiet, hpast⟩)
      have hnone : timeoutTick? st = none := by
        unfold timeoutTick?
        split
        · exact if_neg hafter
        · rfl
      rw [hnone, ih hpast]
      rfl

/-- A step that is no tick keeps the record. -/
theorem TimeoutRecord.quiet {h : SafetyHistory} {m : SafetyStateMachine} (hr : TimeoutRecord h m)
    {e : SafetyEvent} (htick : ∀ t, e ≠ .tick t) :
    TimeoutRecord ((machine m).observe m e :: h) (m.respond e).2 := by
  have hback : TimedOut ((machine m).observe m e :: h) →
      releases ((machine m).observe m e) = false ∧ TimedOut h := by
    rintro (hafter | hheld)
    · obtain ⟨hstate, hquiet⟩ := respond_timeoutBrake htick hafter
      exact ⟨hquiet, hr.timedOut hstate⟩
    · exact hheld
  refine ⟨fun hafter => .inl hafter, ?_, ?_⟩
  · intro hout
    obtain ⟨hquiet, hpast⟩ := hback hout
    exact (respond_quiet (hr.state hpast) hquiet htick).1
  · intro hout earlier hmem
    obtain ⟨hquiet, hpast⟩ := hback hout
    rw [timeoutTicks, hquiet, timeoutTick?_of_not_tick htick] at hmem
    rw [(respond_quiet (hr.state hpast) hquiet htick).2]
    exact hr.ticks hpast earlier (by simpa using hmem)

theorem TimeoutRecord.tick {h : SafetyHistory} {m : SafetyStateMachine} (hr : TimeoutRecord h m)
    {t : ℤ} (hback : ¬StepsBack ((machine m).observe m (.tick t)) h) :
    TimeoutRecord ((machine m).observe m (.tick t) :: h) (m.tick t) := by
  by_cases hm : m.state = .timeoutBrake ∨ m.state = .fault
  · -- The machine stays as it is.
    have hsame : m.tick t = m := by
      rcases hm with hm | hm
      · rw [tick_of_timeoutBrake hm, if_neg]
        exact fun hwindow => hback ⟨t, rfl, hm, .inl hwindow⟩
      · exact tick_of_fault hm t
    rw [hsame]
    refine ⟨fun hstate => .inr ⟨rfl, hr.timedOut hstate⟩, fun _ => hm, ?_⟩
    intro hout earlier hmem
    have hpast : TimedOut h := by
      rcases hout with hafter | hheld
      · refine hr.timedOut ?_
        rw [← hsame]
        exact hafter
      · exact hheld.2
    rw [timeoutTicks] at hmem
    rcases List.mem_append.mp hmem with hnew | hold
    · obtain ⟨time, -, rfl⟩ := Option.map_eq_some_iff.mp (Option.mem_toList.mp hnew)
      show (m.tick t).stageInForce time = _
      rw [hsame]
    · exact hr.ticks hpast earlier hold
  · have hpast : ¬TimedOut h := fun hpast => hm (hr.state hpast)
    refine ⟨fun hafter => .inl hafter, ?_, ?_⟩
    · rintro (hafter | hheld)
      · exact .inl hafter
      · exact absurd hheld.2 hpast
    · intro hout earlier hmem
      rw [timeoutTicks, timeoutTicks_of_not_timedOut hpast, List.append_nil] at hmem
      obtain ⟨time, -, rfl⟩ := Option.map_eq_some_iff.mp (Option.mem_toList.mp hmem)
      rfl

theorem timeoutRecord {built : SafetyStateMachine} (hbuilt : built.state ≠ .timeoutBrake)
    {h : SafetyHistory} {m : SafetyStateMachine} (hrun : Run (machine built) h m)
    (hforward : Always (fun st h => ¬StepsBack st h) h) : TimeoutRecord h m := by
  refine hrun.link_always (R := TimeoutRecord) ?_ ?_ hforward
  · exact ⟨fun hstate => absurd hstate hbuilt, fun hout => hout.elim, fun hout => hout.elim⟩
  · intro h m e hr hback
    by_cases htick : ∃ t, e = .tick t
    · obtain ⟨t, rfl⟩ := htick
      exact hr.tick hback
    · exact hr.quiet fun t ht => htick ⟨t, ht⟩

/-- Where the past has not stepped back, a step escalates exactly when it does not step back. -/
theorem escalates_iff {h : SafetyHistory} {m : SafetyStateMachine} (hr : TimeoutRecord h m)
    (e : SafetyEvent) :
    Escalates ((machine m).observe m e) h ↔ ¬StepsBack ((machine m).observe m e) h := by
  by_cases htick : ∃ t, e = .tick t
  · obtain ⟨t, rfl⟩ := htick
    constructor
    · rintro hlaw ⟨_, ⟨⟩, hstate, hcause⟩
      change m.state = _ at hstate
      obtain ⟨⟨hdegraded, -⟩, hstages⟩ := hlaw rfl (hr.timedOut hstate)
      change (m.tick t).state ≠ _ at hdegraded
      have hwindow : ¬m.InDegradedWindow t := by
        intro hwindow
        rw [tick_of_timeoutBrake hstate, if_pos hwindow] at hdegraded
        exact hdegraded rfl
      have hsame : m.tick t = m := by rw [tick_of_timeoutBrake hstate, if_neg hwindow]
      rcases hcause with hwindow' | ⟨earlier, hearlier, stage, hstage, hpassed, hbefore⟩
      · exact hwindow hwindow'
      · have htime : t ∈ timeoutTick? ((machine m).observe m (.tick t)) := by
          show (if (m.tick t).state = .timeoutBrake then some t else none) = some t
          rw [hsame, if_pos hstate]
        have hle := hstages t htime earlier hearlier
        change earlier.2 ≤ (m.tick t).stageInForce t at hle
        rw [hsame, hr.ticks (hr.timedOut hstate) earlier hearlier] at hle
        exact absurd ((Schedules.passed_le_iff _ _ _).mp hle stage hstage hpassed)
          (not_le.mpr hbefore)
    · intro hback _ hout
      have hm := hr.state hout
      have hsame : m.tick t = m := by
        rcases hm with hm | hm
        · rw [tick_of_timeoutBrake hm, if_neg]
          exact fun hwindow => hback ⟨t, rfl, hm, .inl hwindow⟩
        · exact tick_of_fault hm t
      show ((m.tick t).state ≠ _ ∧ (m.tick t).state ≠ _) ∧ _
      rw [hsame]
      refine ⟨by rcases hm with hm | hm <;> simp [hm], ?_⟩
      intro time htime earlier hearlier
      obtain ⟨hstate, rfl⟩ : m.state = .timeoutBrake ∧ t = time := by
        change (if (m.tick t).state = .timeoutBrake then some t else none) = some time at htime
        rw [hsame] at htime
        simpa using htime
      show earlier.2 ≤ (m.tick t).stageInForce t
      rw [hsame, hr.ticks hout earlier hearlier]
      refine (Schedules.passed_le_iff _ _ _).mpr fun stage hstage hpassed => ?_
      by_contra hbefore
      exact hback ⟨t, rfl, hstate, .inr ⟨earlier, hearlier, stage, hstage, hpassed,
        not_le.mp hbefore⟩⟩
  · have hnotTick : ∀ t, e ≠ .tick t := fun t ht => htick ⟨t, ht⟩
    refine iff_of_true ?_ ?_
    · intro hquiet hout
      obtain ⟨hstate, -⟩ := respond_quiet (hr.state hout) hquiet hnotTick
      refine ⟨?_, ?_⟩
      · show (m.respond e).2.state ≠ _ ∧ (m.respond e).2.state ≠ _
        rcases hstate with hstate | hstate <;> simp [hstate]
      · rw [timeoutTick?_of_not_tick hnotTick]
        simp
    · rintro ⟨t, ht, -⟩
      exact hnotTick t (mem_tickTime?.mp ht)

/-- `TimeoutBrake` is kept and its stages only go on exactly in the runs in which no tick steps
back. -/
theorem timeout_escalates_iff {degradedTimeoutMs controlTimeoutMs : ℤ}
    {profile : List (ℤ × Double)} {built : SafetyStateMachine}
    (hbuilt : create degradedTimeoutMs controlTimeoutMs profile = .ok built)
    {h : SafetyHistory} {m : SafetyStateMachine} (hrun : Run (machine built) h m) :
    Always Escalates h ↔ Always (fun st h => ¬StepsBack st h) h := by
  refine hrun.always_iff fun h m e hrun hforward => ?_
  have hinit : built.state ≠ .timeoutBrake := by
    obtain ⟨-, -, heq⟩ := create_ok hbuilt
    rw [heq]
    simp
  exact escalates_iff (timeoutRecord hinit hrun hforward) e

/-- A machine with the timeouts and the profile of the field configuration. -/
def fieldProfile : List (ℤ × Double) := [(0, some (3 / 10)), (500, some (6 / 10)), (1500, some 1)]

def fieldMachine : SafetyStateMachine :=
  { degradedTimeoutMs := 300
    controlTimeoutMs := 800
    profile := [⟨0, 3 / 10⟩, ⟨500, 6 / 10⟩, ⟨1500, 1⟩] }

theorem create_fieldMachine : create 300 800 fieldProfile = .ok fieldMachine := by
  decide +kernel

/-- A tick one millisecond before the one that entered `TimeoutBrake`. -/
def clockStepBack : List SafetyEvent :=
  [.markReady, .onValidCommand {} 0, .tick 800, .tick 799]

theorem timeout_escalates_fails :
    ∃ built h m, create 300 800 fieldProfile = .ok built ∧ Run (machine built) h m ∧
      m.state = .degraded ∧ ¬Always Escalates h := by
  refine ⟨fieldMachine, _, _, create_fieldMachine, Run.play _ clockStepBack, ?_, ?_⟩
  · decide +kernel
  · decide +kernel

/-- All stages pass, with a clock that steps back without meeting a delay again. -/
def stagesPass : List SafetyEvent :=
  [.markReady, .onValidCommand {} 0, .tick 300, .tick 800, .tick 1300, .tick 1350, .tick 1310,
    .tick 2300]

theorem timeout_escalates_iff_stagesPass :
    Always Escalates ((machine fieldMachine).play stagesPass).1 :=
  (timeout_escalates_iff create_fieldMachine (Run.play _ stagesPass)).mpr (by decide +kernel)

/-! ## The brake behind the last command -/

/-- The brakes that ticks put out. -/
def brakesFrom (m : SafetyStateMachine) : List ℤ → List ℚ
  | [] => []
  | t :: ticks => ((m.tick t).currentOutput t).brake :: brakesFrom (m.tick t) ticks

/-- In `ControlActive` or `Degraded` since a command was received. -/
structure Commanded (m : SafetyStateMachine) (command : DriverCommand) (receivedMs : ℤ) :
    Prop where
  state : m.state = .controlActive ∨ m.state = .degraded
  command : m.lastValidCommand = some command
  received : m.lastValidReceiveMs = some receivedMs

/-- In `TimeoutBrake` since a command was received and a tick found it overdue. -/
structure Braking (m : SafetyStateMachine) (receivedMs enteredMs : ℤ) : Prop where
  state : m.state = .timeoutBrake
  received : m.lastValidReceiveMs = some receivedMs
  entered : m.timeoutEnteredMs = some enteredMs

theorem Commanded.brake {m : SafetyStateMachine} {command : DriverCommand} {receivedMs : ℤ}
    (h : m.Commanded command receivedMs) (t : ℤ) : (m.currentOutput t).brake = command.brake := by
  unfold currentOutput
  rcases h.state with hstate | hstate <;> simp [hstate, h.command]

theorem Braking.brake {m : SafetyStateMachine} {receivedMs enteredMs : ℤ}
    (h : m.Braking receivedMs enteredMs) (t : ℤ) :
    (m.currentOutput t).brake = profileBrake m.profile (t - enteredMs) := by
  rw [currentOutput, h.state]
  show m.brakeForTimeout t = _
  rw [brakeForTimeout_eq, h.entered]
  rfl

theorem Commanded.tick {m : SafetyStateMachine} {command : DriverCommand} {receivedMs : ℤ}
    (h : m.Commanded command receivedMs) {t : ℤ} (ht : t - receivedMs < m.controlTimeoutMs) :
    (m.tick t).Commanded command receivedMs := by
  have hactive : ¬m.state ∈ [SafetyState.init, .standby, .estop, .fault] := by
    rcases h.state with hstate | hstate <;> simp [hstate]
  unfold SafetyStateMachine.tick
  rw [if_neg hactive]
  simp only [h.received]
  rw [if_neg (not_le.mpr ht)]
  split
  · exact ⟨.inr rfl, h.command, rfl⟩
  · exact h

/-- The first overdue tick enters `TimeoutBrake`. -/
theorem Commanded.tick_overdue {m : SafetyStateMachine} {command : DriverCommand} {receivedMs : ℤ}
    (h : m.Commanded command receivedMs) {t : ℤ} (ht : m.controlTimeoutMs ≤ t - receivedMs) :
    (m.tick t).Braking receivedMs t := by
  have hactive : ¬m.state ∈ [SafetyState.init, .standby, .estop, .fault] := by
    rcases h.state with hstate | hstate <;> simp [hstate]
  have hfree : m.state ≠ .timeoutBrake := by
    rcases h.state with hstate | hstate <;> simp [hstate]
  unfold SafetyStateMachine.tick
  rw [if_neg hactive]
  simp only [h.received]
  rw [if_pos ht]
  exact ⟨rfl, rfl, if_pos hfree⟩

theorem Braking.tick {m : SafetyStateMachine} {receivedMs enteredMs : ℤ}
    (h : m.Braking receivedMs enteredMs) {t : ℤ} (ht : m.controlTimeoutMs ≤ t - receivedMs) :
    m.tick t = m := by
  rw [tick_of_timeoutBrake h.state, if_neg]
  rintro ⟨last, hlast, -, hearly⟩
  rw [h.received, Option.mem_some_iff] at hlast
  omega

theorem tick_sameSettings (m : SafetyStateMachine) (t : ℤ) : m.SameSettings (m.tick t) :=
  respond_sameSettings m (.tick t)

/-- The ticks in `TimeoutBrake` put out the profile, from the time it was entered. -/
theorem Braking.brakesFrom_eq {m : SafetyStateMachine} {receivedMs enteredMs : ℤ}
    (h : m.Braking receivedMs enteredMs) {ticks : List ℤ}
    (hlate : ∀ t ∈ ticks, m.controlTimeoutMs ≤ t - receivedMs) :
    m.brakesFrom ticks = ticks.map fun t => profileBrake m.profile (t - enteredMs) := by
  induction ticks with
  | nil => rfl
  | cons t ticks ih =>
    rw [List.forall_mem_cons] at hlate
    rw [brakesFrom, h.tick hlate.1, h.brake, ih hlate.2]
    rfl

/-- The brakes behind a command, tick by tick: those of the command while it is not overdue,
then those of the profile. -/
theorem Commanded.brakesFrom_eq {m : SafetyStateMachine} {command : DriverCommand}
    {receivedMs : ℤ} (h : m.Commanded command receivedMs) (early late : List ℤ)
    (hearly : ∀ t ∈ early, t - receivedMs < m.controlTimeoutMs)
    (hlate : ∀ t ∈ late, m.controlTimeoutMs ≤ t - receivedMs) :
    m.brakesFrom (early ++ late) =
      early.map (fun _ => command.brake) ++
        late.map fun t => profileBrake m.profile (t - late.headD 0) := by
  induction early generalizing m with
  | nil =>
    cases late with
    | nil => rfl
    | cons entered rest =>
      rw [List.forall_mem_cons] at hlate
      have hbraking := h.tick_overdue hlate.1
      obtain ⟨-, hcontrol, hprofile⟩ := tick_sameSettings m entered
      rw [List.nil_append, brakesFrom, hbraking.brake, hbraking.brakesFrom_eq]
      · rw [hprofile]
        rfl
      · rw [hcontrol]
        exact hlate.2
  | cons t early ih =>
    rw [List.forall_mem_cons] at hearly
    have hnext := h.tick hearly.1
    obtain ⟨-, hcontrol, hprofile⟩ := tick_sameSettings m t
    rw [List.cons_append, brakesFrom, hnext.brake, ih hnext (hcontrol ▸ hearly.2) (hcontrol ▸ hlate),
      hprofile]
    rfl

theorem Commanded.ticks {m : SafetyStateMachine} {command : DriverCommand} {receivedMs : ℤ}
    (h : m.Commanded command receivedMs) (early : List ℤ)
    (hearly : ∀ t ∈ early, t - receivedMs < m.controlTimeoutMs) :
    (early.foldl SafetyStateMachine.tick m).Commanded command receivedMs ∧
      (early.foldl SafetyStateMachine.tick m).controlTimeoutMs = m.controlTimeoutMs := by
  induction early generalizing m with
  | nil => exact ⟨h, rfl⟩
  | cons t early ih =>
    rw [List.forall_mem_cons] at hearly
    obtain ⟨-, hcontrol, -⟩ := tick_sameSettings m t
    obtain ⟨hend, hsame⟩ := ih (h.tick hearly.1) (hcontrol ▸ hearly.2)
    exact ⟨hend, hsame.trans hcontrol⟩

/-- Times in order are early ones and overdue ones behind them. -/
theorem split_overdue {ticks : List ℤ} (hsorted : ticks.Pairwise (· ≤ ·))
    (receivedMs controlTimeoutMs : ℤ) :
    ∃ early late, ticks = early ++ late ∧ (∀ t ∈ early, t - receivedMs < controlTimeoutMs) ∧
      ∀ t ∈ late, controlTimeoutMs ≤ t - receivedMs := by
  induction ticks with
  | nil => exact ⟨[], [], rfl, by simp, by simp⟩
  | cons t ticks ih =>
    obtain ⟨hle, hsorted⟩ := List.pairwise_cons.mp hsorted
    by_cases ht : t - receivedMs < controlTimeoutMs
    · obtain ⟨early, late, rfl, hearly, hlate⟩ := ih hsorted
      exact ⟨t :: early, late, rfl, List.forall_mem_cons.mpr ⟨ht, hearly⟩, hlate⟩
    · refine ⟨[], t :: ticks, rfl, by simp, ?_⟩
      intro t' hmem
      rcases List.mem_cons.mp hmem with rfl | hmem
      · omega
      · have := hle t' hmem
        omega

theorem onValidCommand_commanded {m : SafetyStateMachine} {command : DriverCommand}
    (hcommand : command.estop = false) (hfree : m.state ≠ .estop ∧ m.state ≠ .fault) (t : ℤ) :
    (m.onValidCommand command t).Commanded command t := by
  unfold onValidCommand
  rw [if_neg (by simp [hcommand]), if_neg (by simp [hfree])]
  exact ⟨.inl rfl, rfl, rfl⟩

/-- A command's brake, then rising brakes: a rising list unless the first of them is lower. -/
theorem brakes_rise_iff {command : ℚ} {early : List ℤ} {first : ℚ} {later : List ℚ}
    (hrise : later.Pairwise (· ≤ ·)) (hfirst : ∀ brake ∈ later.head?, brake = first) :
    (command :: (early.map (fun _ => command) ++ later)).Pairwise (· ≤ ·) ↔
      later = [] ∨ command ≤ first := by
  rw [← List.cons_append, List.pairwise_append]
  have hconst : (command :: early.map fun _ => command).Pairwise (· ≤ ·) := by
    rw [List.map_const']
    refine List.pairwise_cons.mpr ⟨?_, List.pairwise_replicate.mpr (.inr le_rfl)⟩
    intro brake hbrake
    exact (List.eq_of_mem_replicate hbrake).ge
  cases later with
  | nil => simp
  | cons brake later =>
    obtain rfl := hfirst brake rfl
    obtain ⟨hle, -⟩ := List.pairwise_cons.mp hrise
    constructor
    · rintro ⟨-, -, hcross⟩
      exact .inr (hcross command (List.mem_cons_self ..) brake (List.mem_cons_self ..))
    · rintro (hnil | hcommand)
      · cases hnil
      · refine ⟨hconst, hrise, ?_⟩
        intro a ha b hb
        have hacommand : a = command := by
          rcases List.mem_cons.mp ha with rfl | ha
          · rfl
          · obtain ⟨-, -, rfl⟩ := List.mem_map.mp ha
            rfl
        rw [hacommand]
        rcases List.mem_cons.mp hb with rfl | hb
        · exact hcommand
        · exact hcommand.trans (hle b hb)

/-- Behind the last command the brake falls nowhere but, at most, where `TimeoutBrake` begins:
until then it is the command's, from then on that of the profile, which rises to the full brake. -/
theorem braking_without_commands {degradedTimeoutMs controlTimeoutMs : ℤ}
    {profile : List (ℤ × Double)} {built m : SafetyStateMachine}
    (hbuilt : create degradedTimeoutMs controlTimeoutMs profile = .ok built)
    (hreachable : Reachable (machine built) m) {command : DriverCommand}
    (hcommand : command.estop = false) (hfree : m.state ≠ .estop ∧ m.state ≠ .fault)
    {receivedMs : ℤ} {ticks : List ℤ} (hticks : (receivedMs :: ticks).Pairwise (· ≤ ·)) :
    ∃ first ∈ built.profile.head?, ∃ last ∈ built.profile.getLast?, ∃ early late,
      ticks = early ++ late ∧ (∀ t ∈ early, t - receivedMs < controlTimeoutMs) ∧
      (∀ t ∈ late, controlTimeoutMs ≤ t - receivedMs) ∧
      let active := m.onValidCommand command receivedMs
      let overdue := early.foldl SafetyStateMachine.tick active
      let inTimeout := late.map fun t => profileBrake built.profile (t - late.headD 0)
      overdue.state ≠ .timeoutBrake ∧
      (∀ entered ∈ late.head?, (overdue.tick entered).state = .timeoutBrake) ∧
      active.brakesFrom ticks = early.map (fun _ => command.brake) ++ inTimeout ∧
      inTimeout.Pairwise (· ≤ ·) ∧
      (∀ t, last.afterMs ≤ t - late.headD 0 →
        profileBrake built.profile (t - late.headD 0) = 1) ∧
      (((active.currentOutput receivedMs).brake :: active.brakesFrom ticks).Pairwise (· ≤ ·) ↔
        (∀ t ∈ ticks, t - receivedMs < controlTimeoutMs) ∨ command.brake ≤ first.brake) := by
  obtain ⟨-, hvalid, hbuiltEq⟩ := create_ok hbuilt
  obtain ⟨h, hrun⟩ := hreachable
  have hactive := onValidCommand_commanded hcommand hfree receivedMs
  obtain ⟨-, hcontrol, hprofile⟩ : built.SameSettings (m.onValidCommand command receivedMs) :=
    run_sameSettings (.step (.onValidCommand command receivedMs) hrun)
  have htimeout : built.controlTimeoutMs = controlTimeoutMs := by rw [hbuiltEq]
  obtain ⟨-, hsorted⟩ := List.pairwise_cons.mp hticks
  obtain ⟨early, late, rfl, hearly, hlate⟩ := split_overdue hsorted receivedMs controlTimeoutMs
  obtain ⟨hoverdue, hsame⟩ := hactive.ticks early (by rwa [hcontrol, htimeout])
  have hentered : ∀ entered ∈ late.head?,
      ((early.foldl SafetyStateMachine.tick (m.onValidCommand command receivedMs)).tick
        entered).state = .timeoutBrake := by
    intro entered hhead
    refine (hoverdue.tick_overdue ?_).state
    rw [hsame, hcontrol, htimeout]
    exact hlate entered (List.mem_of_mem_head? hhead)
  have hbrakes := hactive.brakesFrom_eq early late (by rwa [hcontrol, htimeout])
    (by rwa [hcontrol, htimeout])
  rw [hprofile] at hbrakes
  have hrise : (late.map fun t => profileBrake built.profile (t - late.headD 0)).Pairwise
      (· ≤ ·) := by
    refine List.pairwise_map.mpr ((List.pairwise_append.mp hsorted).2.1.imp ?_)
    intro a b hab
    exact profileBrake_mono hvalid (by omega)
  have hfirst : ∀ brake ∈ (late.map fun t =>
      profileBrake built.profile (t - late.headD 0)).head?,
      brake = (built.profile.head hvalid.ne_nil).brake := by
    intro brake hbrake
    cases late with
    | nil => cases hbrake
    | cons entered rest =>
      obtain rfl : profileBrake built.profile (entered - entered) = brake := by simpa using hbrake
      rw [sub_self, profileBrake_zero hvalid]
  refine ⟨_, List.head_mem_head? hvalid.ne_nil, _, List.getLast_mem_getLast? hvalid.ne_nil, early,
    late, rfl, hearly, hlate, by rcases hoverdue.state with hs | hs <;> simp [hs], hentered, hbrakes,
    hrise, fun t ht => profileBrake_last hvalid ht, ?_⟩
  rw [hbrakes, hactive.brake, brakes_rise_iff hrise hfirst]
  refine or_congr_left ?_
  rw [List.map_eq_nil_iff]
  constructor
  · rintro rfl
    simpa using hearly
  · intro hall
    refine List.eq_nil_iff_forall_not_mem.mpr fun t ht => ?_
    have h1 := hall t (List.mem_append_right _ ht)
    have h2 := hlate t ht
    omega

/-- The link is lost while the driver brakes harder than the first stage. -/
def hardBrake : DriverCommand := { brake := 8 / 10 }

theorem braking_without_commands_releases :
    ∃ built m, create 300 800 fieldProfile = .ok built ∧ Reachable (machine built) m ∧
      ¬(((m.onValidCommand hardBrake 0).brakesFrom [300, 800]).Pairwise (· ≤ ·)) := by
  refine ⟨fieldMachine, _, create_fieldMachine, ⟨_, Run.play _ [.markReady]⟩, ?_⟩
  decide +kernel

theorem braking_without_commands_hardBrake :
    ((fieldMachine.onValidCommand hardBrake 0).brakesFrom [300, 800, 1300, 2300] =
      [8 / 10, 3 / 10, 6 / 10, 1]) ∧
    ∃ first ∈ fieldMachine.profile.head?, ¬hardBrake.brake ≤ first.brake := by
  obtain ⟨first, hfirst, -, -, -, -, -, -, -, -, -, -, -, -, hiff⟩ :=
    braking_without_commands create_fieldMachine ⟨_, .init⟩ (show hardBrake.estop = false from rfl)
      (by decide) (show ((0 : ℤ) :: [300, 800, 1300, 2300]).Pairwise (· ≤ ·) by decide)
  refine ⟨by decide +kernel, first, hfirst, fun hle => ?_⟩
  exact absurd (hiff.mpr (.inr hle)) (by decide +kernel)

end SafetyStateMachine

end MineTeleop.Service
