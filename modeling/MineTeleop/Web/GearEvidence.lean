import MineTeleop.Web.ControlLogic
import Mathlib.Data.List.Induction

/-!
# Standstill before a change of gear

The page keeps five numbers of the status samples it has seen.  Proved here:

* `update_of_older`, `update_of_invalid`, `update_of_moving`, `update_of_stationary`: what one sample
  does, one lemma a branch;
* `summarises_evidence`: the five numbers against the samples, by induction over them;
* `stationaryEvidence_law`: what a confirmed evidence says of the samples.
-/

namespace MineTeleop.Web

open Documents

def gearChangeStationarySpeedMps : ℚ := 1 / 10

def gearChangeStationaryMinSamples : ℕ := 3

def gearChangeStationaryMinDurationMs : ℚ := 200

/-! ## The reducer -/

structure StationaryEvidence where
  firstObservedAtMs : ℚ
  lastObservedAtMs : ℚ
  lastStatusSeq : ℚ
  sampleCount : ℕ
  confirmed : Bool
  deriving DecidableEq

def createGearChangeStationaryEvidence : StationaryEvidence where
  firstObservedAtMs := 0
  lastObservedAtMs := 0
  lastStatusSeq := 0
  sampleCount := 0
  confirmed := false

section
variable (numberText : ℚ → String) (textNumber : String → Option ℚ)

/-- `Number(value)` where it is finite; `textNumber` reads a text. -/
def toNumber : Option Json → Option ℚ
  | none => none
  | some .null => some 0
  | some (.boolean value) => some (if value then 1 else 0)
  | some (.integer value) => some value
  | some (.number value) => some value
  | some (.string value) => textNumber value
  | some (.array elements) => textNumber (joined numberText elements)
  | some (.object _) => none

/-- The arguments of one call. -/
structure StatusSample where
  vcuStatus : Option Json
  statusSequenceValue : Option Json
  observedAtMsValue : Option Json

/-- `value && value[key]`. -/
def propertyOf (value : Option Json) (key : String) : Option Json :=
  match value with
  | none => none
  | some value => if truthy value then value.find? key else some value

def updateGearChangeStationaryEvidence (previousValue : Option StationaryEvidence)
    (sample : StatusSample) : StationaryEvidence :=
  let previous := previousValue.getD createGearChangeStationaryEvidence
  match toNumber numberText textNumber sample.statusSequenceValue,
    toNumber numberText textNumber sample.observedAtMsValue with
  | some statusSequence, some observedAtMs =>
    if ¬IsSafeInteger statusSequence ∨ statusSequence ≤ 0 ∨ observedAtMs < 0 then
      createGearChangeStationaryEvidence
    else if statusSequence ≤ previous.lastStatusSeq then previous
    else
      let moving := { createGearChangeStationaryEvidence with lastStatusSeq := statusSequence }
      match toNumber numberText textNumber (propertyOf sample.vcuStatus "speed_mps") with
      | none => moving
      | some speed =>
        if truthy (sample.vcuStatus.getD .null) = false ∨
            propertyOf sample.vcuStatus "speed_valid" ≠ some (.boolean true) ∨
            gearChangeStationarySpeedMps < |speed| then
          moving
        else
          let continuing : Bool :=
            decide (0 < previous.sampleCount ∧ previous.lastObservedAtMs ≤ observedAtMs)
          let firstObservedAtMs := if continuing then previous.firstObservedAtMs else observedAtMs
          let sampleCount := if continuing then previous.sampleCount + 1 else 1
          { firstObservedAtMs
            lastObservedAtMs := observedAtMs
            lastStatusSeq := statusSequence
            sampleCount
            confirmed := decide (gearChangeStationaryMinSamples ≤ sampleCount ∧
              gearChangeStationaryMinDurationMs ≤ observedAtMs - firstObservedAtMs) }
  | _, _ => createGearChangeStationaryEvidence

/-- The evidence after the samples, one call each. -/
def gearChangeStationaryEvidence (samples : List StatusSample) : StationaryEvidence :=
  samples.foldl (fun previous sample =>
      updateGearChangeStationaryEvidence numberText textNumber (some previous) sample)
    createGearChangeStationaryEvidence

/-! ## What a sample says -/

/-- A sample with a valid sequence and time. -/
structure Reading where
  sequence : ℚ
  observedAtMs : ℚ
  vcuStatus : Option Json

/-- A valid speed, finite and within the limit. -/
def Reading.Stationary (reading : Reading) : Prop :=
  ∃ status speed, reading.vcuStatus = some status ∧
    status.find? "speed_valid" = some (.boolean true) ∧
    toNumber numberText textNumber (status.find? "speed_mps") = some speed ∧
    |speed| ≤ gearChangeStationarySpeedMps

/-- The sequence is a positive safe integer and the time is not negative. -/
structure Reads (sample : StatusSample) (reading : Reading) : Prop where
  sequence : toNumber numberText textNumber sample.statusSequenceValue = some reading.sequence
  time : toNumber numberText textNumber sample.observedAtMsValue = some reading.observedAtMs
  status : sample.vcuStatus = reading.vcuStatus
  safe : IsSafeInteger reading.sequence
  positive : 0 < reading.sequence
  forwards : 0 ≤ reading.observedAtMs

variable {numberText textNumber}

/-! ## One call -/

theorem truthy_of_find? {status value : Json} {key : String} (h : status.find? key = some value) :
    truthy status = true := by
  cases status with
  | object members => rfl
  | null | boolean _ | integer _ | number _ | string _ | array _ => cases h

theorem propertyOf_of_truthy {status : Json} (h : truthy status = true) (key : String) :
    propertyOf (some status) key = status.find? key :=
  if_pos h

/-- The evidence that a stationary sample leaves. -/
def observed (firstObservedAtMs : ℚ) (reading : Reading) (sampleCount : ℕ) : StationaryEvidence where
  firstObservedAtMs
  lastObservedAtMs := reading.observedAtMs
  lastStatusSeq := reading.sequence
  sampleCount
  confirmed := decide (gearChangeStationaryMinSamples ≤ sampleCount ∧
    gearChangeStationaryMinDurationMs ≤ reading.observedAtMs - firstObservedAtMs)

section
variable {previous : StationaryEvidence} {sample : StatusSample} {reading : Reading}

theorem update_of_invalid (h : ∀ reading, ¬Reads numberText textNumber sample reading) :
    updateGearChangeStationaryEvidence numberText textNumber (some previous) sample =
      createGearChangeStationaryEvidence := by
  unfold updateGearChangeStationaryEvidence
  split
  · rename_i statusSequence observedAtMs hsequence htime
    rw [if_pos]
    by_contra hvalid
    simp only [not_or, not_not, not_le, not_lt] at hvalid
    exact h ⟨statusSequence, observedAtMs, sample.vcuStatus⟩
      ⟨hsequence, htime, rfl, hvalid.1, hvalid.2.1, hvalid.2.2⟩
  · rfl

theorem update_of_older (h : Reads numberText textNumber sample reading)
    (holder : reading.sequence ≤ previous.lastStatusSeq) :
    updateGearChangeStationaryEvidence numberText textNumber (some previous) sample = previous := by
  unfold updateGearChangeStationaryEvidence
  rw [h.sequence, h.time]
  dsimp only [Option.getD_some]
  rw [if_neg (by simp [h.safe, h.positive, h.forwards]), if_pos holder]

theorem update_of_moving (h : Reads numberText textNumber sample reading)
    (hnewer : previous.lastStatusSeq < reading.sequence)
    (hmoving : ¬reading.Stationary numberText textNumber) :
    updateGearChangeStationaryEvidence numberText textNumber (some previous) sample =
      { createGearChangeStationaryEvidence with lastStatusSeq := reading.sequence } := by
  unfold updateGearChangeStationaryEvidence
  rw [h.sequence, h.time]
  dsimp only [Option.getD_some]
  rw [if_neg (by simp [h.safe, h.positive, h.forwards]), if_neg (not_le.mpr hnewer)]
  split
  · rfl
  rename_i speed hspeed
  rw [if_pos]
  by_contra hstationary
  simp only [not_or, not_not, not_lt, Bool.not_eq_false] at hstationary
  obtain ⟨htruthy, hvalid, hlimit⟩ := hstationary
  cases hstatus : sample.vcuStatus with
  | none =>
    rw [hstatus] at htruthy
    cases htruthy
  | some status =>
    rw [hstatus, Option.getD_some] at htruthy
    rw [hstatus, propertyOf_of_truthy htruthy] at hvalid hspeed
    exact hmoving ⟨status, speed, h.status ▸ hstatus, hvalid, hspeed, hlimit⟩

theorem update_of_stationary (h : Reads numberText textNumber sample reading)
    (hnewer : previous.lastStatusSeq < reading.sequence)
    (hstationary : reading.Stationary numberText textNumber) :
    updateGearChangeStationaryEvidence numberText textNumber (some previous) sample =
      if 0 < previous.sampleCount ∧ previous.lastObservedAtMs ≤ reading.observedAtMs then
        observed previous.firstObservedAtMs reading (previous.sampleCount + 1)
      else observed reading.observedAtMs reading 1 := by
  obtain ⟨status, speed, hstatus, hvalid, hspeed, hlimit⟩ := hstationary
  have htruthy := truthy_of_find? hvalid
  have hproperty := propertyOf_of_truthy htruthy
  unfold updateGearChangeStationaryEvidence
  rw [h.sequence, h.time, h.status, hstatus, hproperty, hproperty]
  dsimp only [Option.getD_some]
  rw [if_neg (by simp [h.safe, h.positive, h.forwards]), if_neg (not_le.mpr hnewer), hspeed]
  dsimp only
  rw [if_neg (by simp [htruthy, hvalid, hlimit])]
  by_cases hcontinuing : 0 < previous.sampleCount ∧ previous.lastObservedAtMs ≤ reading.observedAtMs
  · rw [if_pos hcontinuing, if_pos (decide_eq_true hcontinuing),
      if_pos (decide_eq_true hcontinuing)]
    rfl
  · rw [if_neg hcontinuing, if_neg (by simpa using hcontinuing), if_neg (by simpa using hcontinuing)]
    rfl

end

/-! ## The samples behind the evidence -/

variable (numberText textNumber) in
/-- `accepted` are the readings since a restart that count; the others are repeats. -/
structure Standstill (readings accepted : List Reading) : Prop where
  opens : readings.head? = accepted.head?
  order : accepted.Sublist readings
  increasing : accepted.Pairwise (fun earlier later => earlier.sequence < later.sequence)
  ordered : accepted.Pairwise (fun earlier later => earlier.observedAtMs ≤ later.observedAtMs)
  stationary : ∀ reading ∈ accepted, reading.Stationary numberText textNumber
  /-- A reading that is not stationary is no newer than an accepted one ahead of it. -/
  skipped : ∀ earlier reading later, readings = earlier ++ reading :: later →
    ¬reading.Stationary numberText textNumber →
    ∃ other ∈ accepted, other ∈ earlier ∧ reading.sequence ≤ other.sequence

theorem pairwise_next {R : Reading → Reading → Prop} (htrans : ∀ {a b c}, R a b → R b c → R a c)
    {front : List Reading} {last next : Reading} (h : (front ++ [last]).Pairwise R)
    (hnext : R last next) : (front ++ [last] ++ [next]).Pairwise R := by
  refine List.pairwise_append.mpr ⟨h, List.pairwise_singleton _ _, fun reading hreading other hother => ?_⟩
  rw [List.mem_singleton.mp hother]
  obtain hfront | hlast := List.mem_append.mp hreading
  · exact htrans ((List.pairwise_append.mp h).2.2 reading hfront last (List.mem_singleton_self _)) hnext
  · exact List.mem_singleton.mp hlast ▸ hnext

theorem Standstill.start {reading : Reading} (h : reading.Stationary numberText textNumber) :
    Standstill numberText textNumber [reading] [reading] where
  opens := rfl
  order := List.Sublist.refl _
  increasing := List.pairwise_singleton _ _
  ordered := List.pairwise_singleton _ _
  stationary other hother := List.mem_singleton.mp hother ▸ h
  skipped earlier other later hsplit hmoving := by
    have hmem : other ∈ [reading] := hsplit ▸ List.mem_append_right _ List.mem_cons_self
    exact absurd (List.mem_singleton.mp hmem ▸ h) hmoving

/-- A reading at the end, split off or not. -/
theorem split_concat {α : Type} {front earlier later : List α} {last a : α}
    (h : front ++ [last] = earlier ++ a :: later) :
    earlier = front ∧ a = last ∨ ∃ rest, front = earlier ++ a :: rest := by
  obtain rfl | ⟨rest, other, rfl⟩ := List.eq_nil_or_concat later
  · obtain ⟨hfront, hlast⟩ := List.append_inj' h rfl
    exact .inl ⟨hfront.symm, (List.singleton_injective hlast).symm⟩
  · have hassoc : front ++ [last] = (earlier ++ a :: rest) ++ [other] := by simpa using h
    exact .inr ⟨rest, (List.append_inj' hassoc rfl).1⟩

section
variable {readings front : List Reading} {last next : Reading}

theorem Standstill.last_mem (h : Standstill numberText textNumber readings (front ++ [last])) :
    last ∈ readings :=
  h.order.subset (List.mem_append_right _ (List.mem_singleton_self _))

theorem Standstill.ne_nil (h : Standstill numberText textNumber readings (front ++ [last])) :
    readings ≠ [] :=
  List.ne_nil_of_mem h.last_mem

/-- A repeat at the end. -/
theorem Standstill.older (h : Standstill numberText textNumber readings (front ++ [last]))
    (holder : next.sequence ≤ last.sequence) :
    Standstill numberText textNumber (readings ++ [next]) (front ++ [last]) where
  opens := (List.head?_append_of_ne_nil _ h.ne_nil).trans h.opens
  order := h.order.trans (List.sublist_append_left _ _)
  increasing := h.increasing
  ordered := h.ordered
  stationary := h.stationary
  skipped earlier reading later hsplit hmoving := by
    obtain ⟨rfl, rfl⟩ | ⟨rest, hrest⟩ := split_concat hsplit
    · exact ⟨last, List.mem_append_right _ (List.mem_singleton_self _), h.last_mem, holder⟩
    · exact h.skipped earlier reading rest hrest hmoving

theorem Standstill.newer (h : Standstill numberText textNumber readings (front ++ [last]))
    (hnewer : last.sequence < next.sequence) (htime : last.observedAtMs ≤ next.observedAtMs)
    (hstationary : next.Stationary numberText textNumber) :
    Standstill numberText textNumber (readings ++ [next]) (front ++ [last] ++ [next]) where
  opens := by
    rw [List.head?_append_of_ne_nil _ h.ne_nil, h.opens,
      List.head?_append_of_ne_nil _ (List.append_ne_nil_of_right_ne_nil _ (List.cons_ne_nil _ _))]
  order := h.order.append (List.Sublist.refl _)
  increasing := pairwise_next (R := fun earlier later => earlier.sequence < later.sequence)
    lt_trans h.increasing hnewer
  ordered := pairwise_next (R := fun earlier later => earlier.observedAtMs ≤ later.observedAtMs)
    le_trans h.ordered htime
  stationary reading hreading := by
    obtain hbefore | hlast := List.mem_append.mp hreading
    · exact h.stationary reading hbefore
    · exact List.mem_singleton.mp hlast ▸ hstationary
  skipped earlier reading later hsplit hmoving := by
    obtain ⟨rfl, rfl⟩ | ⟨rest, hrest⟩ := split_concat hsplit
    · exact absurd hstationary hmoving
    · obtain ⟨other, hother, hearlier⟩ := h.skipped earlier reading rest hrest hmoving
      exact ⟨other, List.mem_append_left _ hother, hearlier⟩

end

variable (numberText textNumber) in
/-- The five numbers of the evidence are those of the samples since a restart, if there are any. -/
inductive Summarises (samples : List StatusSample) (evidence : StationaryEvidence) : Prop where
  | nothing (hcount : evidence.sampleCount = 0) (hconfirmed : evidence.confirmed = false)
  | standstill {before window : List StatusSample} {readings front : List Reading}
      {first last : Reading} (hsamples : samples = before ++ window)
      (hreads : List.Forall₂ (Reads numberText textNumber) window readings)
      (hstandstill : Standstill numberText textNumber readings (front ++ [last]))
      (hfirst : (front ++ [last]).head? = some first)
      (hevidence : evidence = observed first.observedAtMs last (front ++ [last]).length)

theorem forall₂_concat {window : List StatusSample} {readings : List Reading}
    {sample : StatusSample} {reading : Reading}
    (h : List.Forall₂ (Reads numberText textNumber) window readings)
    (hreads : Reads numberText textNumber sample reading) :
    List.Forall₂ (Reads numberText textNumber) (window ++ [sample]) (readings ++ [reading]) :=
  List.rel_append h (.cons hreads .nil)

theorem Summarises.restart (samples : List StatusSample) {sample : StatusSample} {reading : Reading}
    (hreads : Reads numberText textNumber sample reading)
    (hstationary : reading.Stationary numberText textNumber) :
    Summarises numberText textNumber (samples ++ [sample])
      (observed reading.observedAtMs reading 1) := by
  have hstart : Standstill numberText textNumber [reading] ([] ++ [reading]) := .start hstationary
  exact .standstill rfl (.cons hreads .nil) hstart rfl rfl

/-- What one more sample keeps, by what it is. -/
theorem Summarises.step {samples : List StatusSample} {evidence : StationaryEvidence}
    (h : Summarises numberText textNumber samples evidence) (sample : StatusSample) :
    Summarises numberText textNumber (samples ++ [sample])
      (updateGearChangeStationaryEvidence numberText textNumber (some evidence) sample) := by
  by_cases hvalid : ∃ reading, Reads numberText textNumber sample reading
  · obtain ⟨reading, hreads⟩ := hvalid
    by_cases holder : reading.sequence ≤ evidence.lastStatusSeq
    · rw [update_of_older hreads holder]
      cases h with
      | nothing hcount hconfirmed => exact .nothing hcount hconfirmed
      | @standstill before window readings front first last hsamples hwindow hstandstill hfirst hevidence =>
        have hmore : samples ++ [sample] = before ++ (window ++ [sample]) := by
          rw [hsamples, List.append_assoc]
        refine .standstill hmore (forall₂_concat hwindow hreads) (hstandstill.older ?_) hfirst
          hevidence
        rw [hevidence] at holder
        exact holder
    have hnewer := not_le.mp holder
    by_cases hstationary : reading.Stationary numberText textNumber
    · rw [update_of_stationary hreads hnewer hstationary]
      split
      · rename_i hcontinuing
        cases h with
        | nothing hcount hconfirmed => exact absurd hcontinuing.1 (by rw [hcount]; exact lt_irrefl 0)
        | @standstill before window readings front first last hsamples hwindow hstandstill hfirst hevidence =>
          subst hevidence
          have hmore : samples ++ [sample] = before ++ (window ++ [sample]) := by
            rw [hsamples, List.append_assoc]
          have hopens : (front ++ [last] ++ [reading]).head? = some first := by
            rw [List.head?_append_of_ne_nil _ (List.append_ne_nil_of_right_ne_nil _
              (List.cons_ne_nil _ _)), hfirst]
          have hcount : (front ++ [last] ++ [reading]).length = (front ++ [last]).length + 1 :=
            List.length_append
          refine .standstill hmore (forall₂_concat hwindow hreads)
            (hstandstill.newer hnewer hcontinuing.2 hstationary) hopens ?_
          rw [hcount]
          rfl
      · exact .restart samples hreads hstationary
    · rw [update_of_moving hreads hnewer hstationary]
      exact .nothing rfl rfl
  · rw [update_of_invalid (not_exists.mp hvalid)]
    exact .nothing rfl rfl

theorem summarises_evidence (samples : List StatusSample) :
    Summarises numberText textNumber samples
      (gearChangeStationaryEvidence numberText textNumber samples) := by
  induction samples using List.reverseRecOn with
  | nil => exact .nothing rfl rfl
  | append_singleton samples sample ih =>
    rw [gearChangeStationaryEvidence, List.foldl_append]
    exact ih.step sample

/-! ## Repeats -/

/-- A valid sample moves the last sequence up to its own, and never back. -/
theorem lastStatusSeq_le {sample : StatusSample} {reading : Reading}
    (hreads : Reads numberText textNumber sample reading) (evidence : StationaryEvidence) :
    evidence.lastStatusSeq ≤ (updateGearChangeStationaryEvidence numberText textNumber
        (some evidence) sample).lastStatusSeq ∧
      reading.sequence ≤ (updateGearChangeStationaryEvidence numberText textNumber
        (some evidence) sample).lastStatusSeq := by
  by_cases holder : reading.sequence ≤ evidence.lastStatusSeq
  · rw [update_of_older hreads holder]
    exact ⟨le_rfl, holder⟩
  have hnewer := not_le.mp holder
  by_cases hstationary : reading.Stationary numberText textNumber
  · rw [update_of_stationary hreads hnewer hstationary]
    split <;> exact ⟨hnewer.le, le_rfl⟩
  · rw [update_of_moving hreads hnewer hstationary]
    exact ⟨hnewer.le, le_rfl⟩

theorem sequence_le_lastStatusSeq {before after : List StatusSample} {earlier : StatusSample}
    {reading : Reading} (hreads : Reads numberText textNumber earlier reading)
    (hafter : ∀ sample ∈ after, ∃ reading, Reads numberText textNumber sample reading) :
    reading.sequence ≤
      (gearChangeStationaryEvidence numberText textNumber (before ++ earlier :: after)).lastStatusSeq := by
  induction after using List.reverseRecOn with
  | nil =>
    rw [gearChangeStationaryEvidence, List.foldl_append]
    exact (lastStatusSeq_le hreads _).2
  | append_singleton after sample ih =>
    obtain ⟨other, hother⟩ := hafter sample (List.mem_append_right _ (List.mem_singleton_self _))
    have hbefore := ih (fun sample hsample => hafter sample (List.mem_append_left _ hsample))
    rw [← List.cons_append, ← List.append_assoc, gearChangeStationaryEvidence, List.foldl_append]
    exact hbefore.trans (lastStatusSeq_le hother _).1

theorem evidence_of_repeat {before after : List StatusSample} {earlier sample : StatusSample}
    {reading other : Reading} (hreads : Reads numberText textNumber earlier reading)
    (hafter : ∀ sample ∈ after, ∃ reading, Reads numberText textNumber sample reading)
    (hother : Reads numberText textNumber sample other)
    (holder : other.sequence ≤ reading.sequence) :
    gearChangeStationaryEvidence numberText textNumber (before ++ earlier :: after ++ [sample]) =
      gearChangeStationaryEvidence numberText textNumber (before ++ earlier :: after) := by
  rw [gearChangeStationaryEvidence, List.foldl_append]
  exact update_of_older hother (holder.trans (sequence_le_lastStatusSeq hreads hafter))

/-! ## The law -/

theorem standstill_of_confirmed {samples : List StatusSample}
    (h : (gearChangeStationaryEvidence numberText textNumber samples).confirmed = true) :
    ∃ before window readings accepted first last, samples = before ++ window ∧
      List.Forall₂ (Reads numberText textNumber) window readings ∧
      Standstill numberText textNumber readings accepted ∧ 3 ≤ accepted.length ∧
      accepted.head? = some first ∧ accepted.getLast? = some last ∧
      200 ≤ last.observedAtMs - first.observedAtMs := by
  have hsummary : Summarises numberText textNumber samples
      (gearChangeStationaryEvidence numberText textNumber samples) := summarises_evidence samples
  cases hsummary with
  | nothing hcount hconfirmed => exact (Bool.false_ne_true (hconfirmed.symm.trans h)).elim
  | @standstill before window readings front first last hsamples hreads hstandstill hfirst hevidence =>
    rw [hevidence] at h
    obtain ⟨hcount, hspan⟩ := of_decide_eq_true h
    exact ⟨before, window, readings, front ++ [last], first, last, hsamples, hreads, hstandstill,
      hcount, hfirst, List.getLast?_concat, hspan⟩

end

/-- A confirmed evidence has its standstill in the samples, and a repeat changes nothing. -/
theorem stationaryEvidence_law (numberText : ℚ → String) (textNumber : String → Option ℚ) :
    (∀ samples, (gearChangeStationaryEvidence numberText textNumber samples).confirmed = true →
      ∃ before window readings accepted first last, samples = before ++ window ∧
        List.Forall₂ (Reads numberText textNumber) window readings ∧
        Standstill numberText textNumber readings accepted ∧ 3 ≤ accepted.length ∧
        accepted.head? = some first ∧ accepted.getLast? = some last ∧
        200 ≤ last.observedAtMs - first.observedAtMs) ∧
    (∀ evidence sample reading, Reads numberText textNumber sample reading →
      reading.sequence ≤ evidence.lastStatusSeq →
      updateGearChangeStationaryEvidence numberText textNumber (some evidence) sample = evidence) ∧
    ∀ before earlier after sample reading other, Reads numberText textNumber earlier reading →
      (∀ sample ∈ after, ∃ reading, Reads numberText textNumber sample reading) →
      Reads numberText textNumber sample other → other.sequence ≤ reading.sequence →
      gearChangeStationaryEvidence numberText textNumber (before ++ earlier :: after ++ [sample]) =
        gearChangeStationaryEvidence numberText textNumber (before ++ earlier :: after) :=
  ⟨fun _ => standstill_of_confirmed, fun _ _ _ => update_of_older,
    fun _ _ _ _ _ _ => evidence_of_repeat⟩

/-- Three samples in 200 ms. -/
example :
    let sample (sequence at_ : ℤ) (speed : ℚ) : StatusSample :=
      ⟨some (.object [("speed_valid", .boolean true), ("speed_mps", .number speed)]),
        some (.integer sequence), some (.integer at_)⟩
    gearChangeStationaryEvidence (fun _ => "") (fun _ => none)
        [sample 10 1000 (1 / 10), sample 11 1100 (-1 / 10), sample 12 1200 0] =
      ⟨1000, 1200, 12, 3, true⟩ := by
  decide +kernel

end MineTeleop.Web
