import MineTeleop.Bridge.Withdrawal

/-!
# The latch of a rejected gear

A change of gear that is applied while the vehicle may be moving is rejected, and holds the
vehicle in its gear without traction until the operator has let go.

Proved here, for every run of an opened bridge:

* `gear_rejection`: while the latch is set the stored intent is in the retained gear and asks for
  no traction, no batch carries torque, and only the operator or a new handshake lets it go.
-/

namespace MineTeleop.Bridge

open Runs
open Vcu (CarriesTorque CommandBatch)

/-- The stored intent behind a rejected gear. -/
def GearHeld (b : BridgeRuntime) : Prop :=
  b.gearRejectionLatched = true →
    b.latestIntentValid = true ∧ b.latestIntent.gear = b.gearRejectionRetainedGear ∧
    b.latestIntent.targetSpeedMps = 0 ∧ b.latestIntent.normalizedLongitudinal ≤ 0

/-- The latch stays, and the intent is only eased. -/
structure Holds (b b' : BridgeRuntime) : Prop where
  latched : b'.gearRejectionLatched = b.gearRejectionLatched
  retained : b'.gearRejectionRetainedGear = b.gearRejectionRetainedGear
  intent : IntentEases b b'

section
variable {b b' b'' : BridgeRuntime}

theorem Eases.holds (h : Eases b b') : Holds b b' := ⟨h.latched, h.retained, h.intent⟩

theorem Holds.trans (h : Holds b b') (h' : Holds b' b'') : Holds b b'' :=
  ⟨h'.latched.trans h.latched, h'.retained.trans h.retained, h.intent.trans h'.intent⟩

theorem GearHeld.coasts (h : GearHeld b) (hlatched : b.gearRejectionLatched = true) : Coasts b :=
  (h hlatched).2.2.2

theorem Holds.gearHeld (h : Holds b b') (hheld : GearHeld b) : GearHeld b' := by
  intro hlatched
  obtain ⟨hvalid, hgear, htarget, hlongitudinal⟩ := hheld (h.latched ▸ hlatched)
  rcases h.intent with ⟨hvalid', hintent⟩ | ⟨hvalid', hzero, hkept⟩
  · rw [hvalid', hintent, h.retained]
    exact ⟨hvalid, hgear, htarget, hlongitudinal⟩
  · obtain ⟨hgear', htarget'⟩ := hkept hvalid
    refine ⟨hvalid', ?_, ?_, hzero.le⟩
    · rw [hgear', hgear, h.retained]
    · rcases htarget' with htarget' | htarget'
      · rw [htarget', htarget]
      · exact htarget'

end

/-! ## A tick -/

theorem holds_guarded (b : BridgeRuntime) (now : ℤ) : Holds b (guarded b now) := by
  have hclocked : Holds b { b with lastControlTick := some now } := ⟨rfl, rfl, .inl ⟨rfl, rfl⟩⟩
  exact hclocked.trans (eases_guarded b now).holds

theorem holds_limitedAt (b : BridgeRuntime) (now : ℤ) : Holds b (limitedAt b now) := by
  have hsettled : Holds b (settledAt b now) :=
    (holds_guarded b now).trans (eases_settleLatches _ (viewAt b now) now).holds
  obtain ⟨pid, valid, pidGear, target, magnitude, gear, hlimited⟩ := limitedAt_frame b now
  rw [hlimited]
  exact hsettled.trans ⟨rfl, rfl, .inl ⟨rfl, rfl⟩⟩

theorem prepareTick_cases (b : BridgeRuntime) (now : ℤ) (chassis : ChassisOutcome) :
    prepareTick b now chassis = holdChassisControlFault (guarded b now) ∨
      prepareTick b now chassis = commandChassis (limitedAt b now) (viewAt b now) chassis := by
  rw [prepareTick_eq]
  unfold updateCommandFromIntent
  split
  · exact .inl rfl
  · exact .inr rfl

theorem holds_tick (b : BridgeRuntime) (now : ℤ) (chassis : ChassisOutcome) :
    Holds b (tick b now chassis).2 := by
  cases hrun : b.running with
  | false =>
    rw [tick, if_pos hrun]
    exact (Eases.refl b).holds
  | true =>
    have hprepared : Holds b (prepareTick b now chassis) := by
      rcases prepareTick_cases b now chassis with hfault | hcommanded
      · rw [hfault]
        exact (holds_guarded b now).trans (eases_holdChassisControlFault _).holds
      · rw [hcommanded]
        exact (holds_limitedAt b now).trans (eases_commandChassis _ _ chassis).holds
    have hticked : Holds b (ticked b now chassis) :=
      hprepared.trans ⟨rfl, rfl, .inl ⟨rfl, rfl⟩⟩
    rw [tick_running hrun]
    exact hticked.trans (eases_settleTick _ now b.controller.state).holds

/-! ## The calls of the operator -/

/-- What a call makes of the latch: it stays as it is with the intent eased, the vehicle is held,
or the latch is let go. -/
inductive RejectionCase (b : BridgeRuntime) (released : Prop) (b' : BridgeRuntime) : Prop
  | holds (h : Holds b b') : RejectionCase b released b'
  | rejects (hheld : GearHeld b') (hlatched : b'.gearRejectionLatched = true)
      (hretained : b.gearRejectionLatched = true →
        b'.gearRejectionRetainedGear = b.gearRejectionRetainedGear) : RejectionCase b released b'
  | releases (hreleased : b.gearRejectionLatched = true → released)
      (hlatched : b'.gearRejectionLatched = false) : RejectionCase b released b'

theorem gearHeld_holdRejectedGear (b : BridgeRuntime) (requestedLongitudinal : ℚ) :
    GearHeld (holdRejectedGear b requestedLongitudinal) :=
  fun _ => ⟨rfl, rfl, rfl, min_le_left 0 requestedLongitudinal⟩

theorem storeIntent_rejection {b : BridgeRuntime} (hheld : GearHeld b) (now : ℤ)
    (a : IntentArguments) :
    RejectionCase b ((storeIntent b now a).1 = .none ∧ RetainedZeroOutput b a)
      (storeIntent b now a).2 := by
  have hwithdrawn : Holds b (withdrawLatestTraction b) := (eases_withdraw rfl).holds
  unfold storeIntent
  split_ifs with hdown hphysical hover hinactive hexceeds hlatched hmoving
  · exact .holds (Eases.refl b).holds
  · exact .holds hwithdrawn
  · exact .holds hwithdrawn
  · exact .holds hwithdrawn
  · exact .holds hwithdrawn
  · exact .rejects (gearHeld_holdRejectedGear _ _) hlatched.1 fun _ => rfl
  · refine .rejects (gearHeld_holdRejectedGear _ _) rfl fun hset => ?_
    -- A latch that is set already has let a zero output in the retained gear through to here.
    have hzero : RetainedZeroOutput b a := by
      by_contra hno
      exact hlatched ⟨hset, hno⟩
    obtain ⟨hvalid, hgear, -⟩ := hheld hset
    rcases hmoving.1 with hinvalid | hchanged
    · exact absurd (hinvalid.symm.trans hvalid) Bool.noConfusion
    · exact absurd (hgear.trans hzero.1.symm) hchanged
  · refine .releases (fun hset => ⟨rfl, ?_⟩) rfl
    by_contra hno
    exact hlatched ⟨hset, hno⟩

theorem requestPark_rejection (b : BridgeRuntime) :
    RejectionCase b ((requestPark b).1 = true) (requestPark b).2 := by
  unfold requestPark
  split
  · exact .holds (Eases.refl b).holds
  · exact .releases (fun _ => rfl) rfl

theorem requestParallelHandshake_rejection (b : BridgeRuntime) (now : ℤ) :
    RejectionCase b ((requestParallelHandshake b now).1 = true)
      (requestParallelHandshake b now).2 := by
  unfold requestParallelHandshake
  split
  · exact .holds (Eases.refl b).holds
  split
  · exact .holds (Eases.refl b).holds
  · exact .releases (fun _ => rfl) rfl

/-! ## Every run -/

/-- A zero output in the retained gear that is stored, a park request or a handshake that is
accepted. -/
inductive ReleasesRejection : Step BridgeRuntime Event Reply → Prop
  | stored {b b' : BridgeRuntime} {now : ℤ} {arguments : ApplyArguments} {a : IntentArguments}
      (hchecked : arguments.checked? = some a) (hzero : RetainedZeroOutput b a) :
      ReleasesRejection ⟨b, .applyState now arguments, .applied ⟨0, .none⟩, b'⟩
  | parked {b b' : BridgeRuntime} {now : ℤ} {arguments : ApplyArguments} {a : IntentArguments}
      (hchecked : arguments.checked? = some a) (hpark : a.gear = 4) :
      ReleasesRejection ⟨b, .applyState now arguments, .applied ⟨0, .none⟩, b'⟩
  | requested {b b' : BridgeRuntime} : ReleasesRejection ⟨b, .requestPark, .accepted true, b'⟩
  | restarted {b b' : BridgeRuntime} {now : ℤ} :
      ReleasesRejection ⟨b, .requestParallelHandshake now, .accepted true, b'⟩

section
variable {opened b : BridgeRuntime} {h : History BridgeRuntime Event Reply}

theorem RejectionCase.mono {b b' : BridgeRuntime} {p q : Prop} (h : RejectionCase b p b')
    (hpq : p → q) : RejectionCase b q b' := by
  cases h with
  | holds h => exact .holds h
  | rejects hheld hlatched hretained => exact .rejects hheld hlatched hretained
  | releases hreleased hlatched => exact .releases (fun hset => hpq (hreleased hset)) hlatched

theorem respond_rejection (opened : BridgeRuntime) (hheld : GearHeld b) (e : Event) :
    RejectionCase b (ReleasesRejection ((machine opened).observe b e)) (respond b e).2 := by
  cases e with
  | tick now chassis => exact .holds (holds_tick b now chassis)
  | requestPark =>
    refine (requestPark_rejection b).mono fun haccepted => ?_
    have hobserved : (machine opened).observe b .requestPark =
        ⟨b, .requestPark, .accepted (requestPark b).1, (requestPark b).2⟩ := rfl
    rw [hobserved, haccepted]
    exact .requested
  | requestParallelHandshake now =>
    refine (requestParallelHandshake_rejection b now).mono fun haccepted => ?_
    have hobserved : (machine opened).observe b (.requestParallelHandshake now) =
        ⟨b, .requestParallelHandshake now, .accepted (requestParallelHandshake b now).1,
          (requestParallelHandshake b now).2⟩ := rfl
    rw [hobserved, haccepted]
    exact .restarted
  | applyState now arguments =>
    have hobserved : (machine opened).observe b (.applyState now arguments) =
        ⟨b, .applyState now arguments, .applied (applyState b now arguments).1,
          (applyState b now arguments).2⟩ := rfl
    rw [hobserved]
    change RejectionCase b _ (applyState b now arguments).2
    cases hchecked : arguments.checked? with
    | none =>
      simp only [applyState, hchecked]
      exact .holds (eases_failControlApply b).holds
    | some a =>
      by_cases hgear : a.gear = 4
      · simp only [applyState, hchecked, if_pos hgear]
        refine (requestPark_rejection b).mono fun haccepted => ?_
        rw [if_pos haccepted]
        exact .parked hchecked hgear
      · simp only [applyState, hchecked, if_neg hgear]
        refine (storeIntent_rejection hheld now a).mono fun hstored => ?_
        rw [hstored.1, if_pos rfl]
        exact .stored hchecked hstored.2
  | _ => exact .holds (eases_respond b _ id).holds

theorem RejectionCase.gearHeld {b b' : BridgeRuntime} {released : Prop}
    (h : RejectionCase b released b') (hheld : GearHeld b) : GearHeld b' := by
  cases h with
  | holds h => exact h.gearHeld hheld
  | rejects hheld' _ _ => exact hheld'
  | releases _ hlatched => exact fun hset => absurd (hlatched.symm.trans hset) Bool.noConfusion

theorem RejectionCase.stays {b b' : BridgeRuntime} {released : Prop}
    (h : RejectionCase b released b') (hset : b.gearRejectionLatched = true) :
    b'.gearRejectionLatched = true ∧
        b'.gearRejectionRetainedGear = b.gearRejectionRetainedGear ∨ released := by
  cases h with
  | holds h => exact .inl ⟨h.latched.trans hset, h.retained⟩
  | rejects _ hlatched hretained => exact .inl ⟨hlatched, hretained hset⟩
  | releases hreleased _ => exact .inr (hreleased hset)

/-- What a step does to a latched rejection. -/
structure GearRejectionLaw (st : Step BridgeRuntime Event Reply)
    (past : History BridgeRuntime Event Reply) : Prop where
  held : GearHeld st.after
  stays : st.before.gearRejectionLatched = true → ¬ReleasesRejection st →
    st.after.gearRejectionLatched = true ∧
      st.after.gearRejectionRetainedGear = st.before.gearRejectionRetainedGear
  no_torque : Since (fun st => ¬ReleasesRejection st)
    (fun st => st.after.gearRejectionLatched = true) past →
    ∀ batch ∈ st.output.batch?, ¬CarriesTorque batch

/-- In every run of an opened bridge a rejected gear holds the vehicle without traction, until the
operator has let go, parks it or has it start anew. -/
theorem gear_rejection (ho : Opened opened) (hr : Run (machine opened) h b) :
    GearHeld b ∧ Always GearRejectionLaw h := by
  have hopened : GearHeld opened := by
    intro hset
    have hlatched : opened.gearRejectionLatched = false :=
      congrArg TractionView.gearRejectionLatched ho.tractionView
    exact absurd (hlatched.symm.trans hset) Bool.noConfusion
  have hstep : ∀ b e, BridgeInvariant b ∧ GearHeld b →
      BridgeInvariant (respond b e).2 ∧ GearHeld (respond b e).2 := fun b e hi =>
    ⟨bridgeInvariant_respond b e hi.1, (respond_rejection opened hi.2 e).gearHeld hi.2⟩
  refine ⟨(hr.invariant (I := fun b => BridgeInvariant b ∧ GearHeld b)
    ⟨ho.fresh.invariant, hopened⟩ hstep).2, ?_⟩
  refine hr.always_of_link (C := fun _ => True)
    (R := fun past b => (BridgeInvariant b ∧ GearHeld b) ∧
      (Since (fun st => ¬ReleasesRejection st) (fun st => st.after.gearRejectionLatched = true)
        past → b.gearRejectionLatched = true))
    ⟨⟨ho.fresh.invariant, hopened⟩, fun hsince => hsince.elim⟩ ?_ ?_ (steps_true h)
  · rintro past b e - ⟨hi, hlatched⟩ -
    refine ⟨hstep b e hi, ?_⟩
    rintro (hset | ⟨hkept, hsince⟩)
    · exact hset
    · exact ((respond_rejection opened hi.2 e).stays (hlatched hsince)).elim (·.1)
        fun hreleased => absurd hreleased hkept
  · rintro past b e - ⟨hi, hlatched⟩ -
    refine ⟨(hstep b e hi).2, fun hset hkept => ?_, fun hsince batch hbatch => ?_⟩
    · exact ((respond_rejection opened hi.2 e).stays hset).resolve_right hkept
    · cases e with
      | tick now chassis =>
        exact tick_coasts hi.1 (hi.2.coasts (hlatched hsince)) now chassis batch hbatch
      | _ => cases hbatch

end

/-- Driving in D, the vehicle is asked for R with stale feedback. -/
def rejectedEvents : List Event :=
  armEvents ++ [tickAt 220, .applyState (ms 800) { driveIntent with targetGear := 2 }, tickAt 820]

theorem gear_rejection_driving :
    let run := (machine benchBridge).play rejectedEvents
    run.2.gearRejectionLatched = true ∧ GearHeld run.2 ∧ Always GearRejectionLaw run.1 := by
  have hrejected : ((machine benchBridge).play rejectedEvents).2.gearRejectionLatched = true := by
    decide +kernel
  exact ⟨hrejected, gear_rejection benchBridge_opened (Run.play _ _)⟩

end MineTeleop.Bridge
