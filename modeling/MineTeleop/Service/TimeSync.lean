import MineTeleop.Library.Documents
import MineTeleop.Library.Exchange
import Mathlib.Data.List.Sort
import Mathlib.Data.Rat.Floor

/-!
# Synchronising to the signaling server's clock

`GET /time`, the sampling loop and the selection of `SynchronizedClock::synchronize`. Times are
whole milliseconds without a bound; `std::sort` does not say how it orders samples of one round
trip, so that sort is a parameter.

Proved here, for any constant offset between the clocks and any exchanges:

* `synchronize_exchanges`: what a synchronisation selects and reports;
* `synchronize_offset`: how far the selected offset can be from the true one.
-/

namespace MineTeleop.TimeSync

open Documents

/-! ## The answer of the server -/

def timeResponse (clientSendMs serverReceiveMs serverSendMs : ℤ) : Json :=
  .object [("time_domain", .string "signaling_server"), ("client_send_ms", .integer clientSendMs),
    ("server_receive_ms", .integer serverReceiveMs), ("server_send_ms", .integer serverSendMs)]

/-! ## Samples -/

structure Sample where
  offsetMs : ℤ
  roundTripMs : ℤ
  deriving DecidableEq

/-- One pass of the loop: the local clock before and after, and what the request gave. -/
structure Probe where
  clientSendMs : ℤ
  response : Except String Json
  clientReceiveMs : ℤ

def Probe.sample (probe : Probe) : Except String Sample := do
  let response ← probe.response
  let echoedClientSendMs ← response.field "client_send_ms" Json.getInteger
  let serverReceiveMs ← response.field "server_receive_ms" Json.getInteger
  let serverSendMs ← response.field "server_send_ms" Json.getInteger
  if echoedClientSendMs ≠ probe.clientSendMs ∨ serverSendMs < serverReceiveMs then
    .error "signaling time endpoint returned an invalid four-timestamp sample"
  else
    let serverProcessingMs := serverSendMs - serverReceiveMs
    .ok
      { offsetMs :=
          ((serverReceiveMs - probe.clientSendMs) + (serverSendMs - probe.clientReceiveMs)).tdiv 2
        roundTripMs :=
          max 0 (probe.clientReceiveMs - probe.clientSendMs - serverProcessingMs) }

/-! ## Selection -/

structure TimeSyncStatus where
  synchronized : Bool := false
  offsetMs : ℤ := 0
  roundTripMs : ℤ := 0
  uncertaintyMs : ℤ := 0
  synchronizedAtLocalMs : ℤ := 0
  sampleCount : ℕ := 0
  deriving DecidableEq

def TimeSyncStatus.Acceptable (status : TimeSyncStatus) (maxUncertaintyMs : ℤ) : Prop :=
  0 ≤ maxUncertaintyMs ∧ status.synchronized = true ∧ status.uncertaintyMs ≤ maxUncertaintyMs

instance (status : TimeSyncStatus) (maxUncertaintyMs : ℤ) :
    Decidable (status.Acceptable maxUncertaintyMs) :=
  inferInstanceAs (Decidable (_ ∧ _))

/-- The offsets of the three samples with the lowest round trip, in order. -/
def selectedOffsets (samples : List Sample) : List ℤ :=
  ((samples.take 3).map Sample.offsetMs).insertionSort (· ≤ ·)

def selectedOffsetMs (samples : List Sample) : ℤ :=
  let offsets := selectedOffsets samples
  offsets.getD (offsets.length / 2) 0

def offsetSpreadMs (samples : List Sample) : ℤ :=
  (selectedOffsets samples).foldl
    (fun offsetSpreadMs offsetMs => max offsetSpreadMs |offsetMs - selectedOffsetMs samples|) 0

def frontRoundTripMs (samples : List Sample) : ℤ := (samples.head?.map Sample.roundTripMs).getD 0

/-- The status that the samples give, sorted by their round trips. -/
def nextStatus (samples : List Sample) (localMs : ℤ) : TimeSyncStatus where
  synchronized := true
  offsetMs := selectedOffsetMs samples
  roundTripMs := frontRoundTripMs samples
  uncertaintyMs := max ((frontRoundTripMs samples + 1) / 2) (offsetSpreadMs samples)
  synchronizedAtLocalMs := localMs
  sampleCount := samples.length

/-- `std::sort` by the round trips. -/
def SortsByRoundTrip (sort : List Sample → List Sample) : Prop :=
  ∀ samples, (sort samples).Perm samples ∧
    (sort samples).Pairwise fun left right => left.roundTripMs ≤ right.roundTripMs

/-! ## The clock -/

structure SynchronizedClock where
  status : TimeSyncStatus := {}
  steadyAnchorMs : ℤ := 0
  synchronizedAnchorMs : ℤ := 0

def synchronize (sort : List Sample → List Sample) (sampleCount : ℕ) (probes : ℕ → Probe)
    (localMs steadyMs : ℤ) : Except String SynchronizedClock := do
  if sampleCount < 3 ∨ 15 < sampleCount then
    .error "time sync sample count must be between 3 and 15"
  else
    let samples ← (List.range sampleCount).mapM fun index => (probes index).sample
    let next := nextStatus (sort samples) localMs
    .ok
      { status := next
        steadyAnchorMs := steadyMs
        synchronizedAnchorMs := next.synchronizedAtLocalMs + next.offsetMs }

namespace SynchronizedClock

def nowMs (clock : SynchronizedClock) (localMs steadyMs : ℤ) : ℤ :=
  if clock.status.synchronized then
    clock.synchronizedAnchorMs + (steadyMs - clock.steadyAnchorMs)
  else localMs

def fromLocalSystemMs (clock : SynchronizedClock) (localTimeMs : ℤ) : ℤ :=
  if clock.status.synchronized then localTimeMs + clock.status.offsetMs else localTimeMs

end SynchronizedClock

/-! ## What is selected -/

section
variable {samples : List Sample}

theorem le_foldl_max (f : ℤ → ℤ) (offsets : List ℤ) (spread : ℤ) :
    spread ≤ offsets.foldl (fun s o => max s (f o)) spread ∧
      ∀ offset ∈ offsets, f offset ≤ offsets.foldl (fun s o => max s (f o)) spread := by
  induction offsets generalizing spread with
  | nil => exact ⟨le_rfl, nofun⟩
  | cons first rest ih =>
    obtain ⟨hspread, hrest⟩ := ih (max spread (f first))
    refine ⟨(le_max_left _ _).trans hspread, ?_⟩
    intro offset hoffset
    rcases List.mem_cons.mp hoffset with rfl | hoffset
    · exact (le_max_right _ _).trans hspread
    · exact hrest offset hoffset

/-- No selected offset is further than the spread from the middle one. -/
theorem abs_sub_le_spread {sample : Sample} (h : sample ∈ samples.take 3) :
    |sample.offsetMs - selectedOffsetMs samples| ≤ offsetSpreadMs samples := by
  refine (le_foldl_max (fun o => |o - selectedOffsetMs samples|) _ 0).2 _ ?_
  exact (List.mem_insertionSort _).mpr (List.mem_map_of_mem h)

theorem frontRoundTripMs_cons (sample : Sample) (rest : List Sample) :
    frontRoundTripMs (sample :: rest) = sample.roundTripMs := rfl

end

/-! ## Between two clocks -/

section
variable {R : Type*} [Field R] [LinearOrder R] [IsStrictOrderedRing R] [FloorRing R]
variable (exchange : Exchange R) (offset : R)

/-- The probe that an exchange with the server is. -/
def probeOf : Probe :=
  let stamps := exchange.stamps offset
  { clientSendMs := stamps.asked
    response := .ok (timeResponse stamps.asked stamps.heard stamps.answered)
    clientReceiveMs := stamps.received }

def sampleOf : Sample where
  offsetMs := (exchange.stamps offset).estimate
  roundTripMs := (exchange.stamps offset).roundTrip

theorem sample_probeOf : (probeOf exchange offset).sample = .ok (sampleOf exchange offset) := by
  have hordered := exchange.heard_le_answered offset
  have hchecks : ¬((exchange.stamps offset).asked ≠ (exchange.stamps offset).asked ∨
      (exchange.stamps offset).answered < (exchange.stamps offset).heard) := by
    simp [hordered]
  exact if_neg hchecks

variable {sort : List Sample → List Sample} {sampleCount : ℕ} (exchanges : ℕ → Exchange R)
  (localMs steadyMs : ℤ)

/-- The samples of the exchanges, as the selection sees them. -/
def sampled (sort : List Sample → List Sample) (sampleCount : ℕ) (exchanges : ℕ → Exchange R)
    (offset : R) : List Sample :=
  sort ((List.range sampleCount).map fun index => sampleOf (exchanges index) offset)

theorem synchronize_exchanges (hcount : 3 ≤ sampleCount ∧ sampleCount ≤ 15) :
    synchronize sort sampleCount (fun index => probeOf (exchanges index) offset) localMs steadyMs =
      .ok
        { status := nextStatus (sampled sort sampleCount exchanges offset) localMs
          steadyAnchorMs := steadyMs
          synchronizedAnchorMs :=
            localMs + selectedOffsetMs (sampled sort sampleCount exchanges offset) } := by
  have hsamples : ((List.range sampleCount).mapM fun index =>
      (probeOf (exchanges index) offset).sample) =
      (.ok ((List.range sampleCount).map fun index => sampleOf (exchanges index) offset) :
        Except String (List Sample)) := by
    simp only [sample_probeOf]
    exact List.mapM_pure
  have hchecks : ¬(sampleCount < 3 ∨ 15 < sampleCount) := by omega
  unfold synchronize
  rw [if_neg hchecks, hsamples]
  rfl

omit [IsStrictOrderedRing R] in
/-- A sample of the list is one of the exchanges. -/
theorem mem_sampled (hsort : SortsByRoundTrip sort) {sample : Sample} :
    sample ∈ sampled sort sampleCount exchanges offset ↔
      ∃ index < sampleCount, sampleOf (exchanges index) offset = sample := by
  unfold sampled
  rw [(hsort _).1.mem_iff]
  simp

omit [IsStrictOrderedRing R] in
/-- The first sample is one of the exchanges. -/
theorem sampled_cons (hsort : SortsByRoundTrip sort) (hcount : 0 < sampleCount) :
    ∃ index < sampleCount, ∃ rest,
      sampled sort sampleCount exchanges offset = sampleOf (exchanges index) offset :: rest := by
  cases hsampled : sampled sort sampleCount exchanges offset with
  | nil =>
    have hmem := (mem_sampled offset exchanges hsort).mpr ⟨0, hcount, rfl⟩
    rw [hsampled] at hmem
    cases hmem
  | cons sample rest =>
    have hmem : sample ∈ sampled sort sampleCount exchanges offset :=
      hsampled ▸ List.mem_cons_self
    obtain ⟨index, hindex, rfl⟩ := (mem_sampled offset exchanges hsort).mp hmem
    exact ⟨index, hindex, rest, rfl⟩

/-- The selected offset is off by less than the reported uncertainty, half the reported round trip
and one millisecond; by less than the uncertainty and one millisecond if it is what a quickest
exchange gave. -/
theorem synchronize_offset (hsort : SortsByRoundTrip sort)
    (hcount : 3 ≤ sampleCount ∧ sampleCount ≤ 15) :
    ∃ clock,
      synchronize sort sampleCount (fun index => probeOf (exchanges index) offset) localMs
        steadyMs = .ok clock ∧
      |(clock.status.offsetMs : R) - offset| <
        (clock.status.uncertaintyMs + (clock.status.roundTripMs + 1) / 2 + 1 : ℤ) ∧
      ∀ index, ((exchanges index).stamps offset).roundTrip = clock.status.roundTripMs →
        ((exchanges index).stamps offset).estimate = clock.status.offsetMs →
        |(clock.status.offsetMs : R) - offset| < (clock.status.uncertaintyMs + 1 : ℤ) := by
  refine ⟨_, synchronize_exchanges offset exchanges localMs steadyMs hcount, ?_, ?_⟩
  · have hsome : 0 < sampleCount := by omega
    obtain ⟨index, -, rest, hsampled⟩ := sampled_cons offset exchanges hsort hsome
    have hspread : |((exchanges index).stamps offset).estimate -
        selectedOffsetMs (sampled sort sampleCount exchanges offset)| ≤
        offsetSpreadMs (sampled sort sampleCount exchanges offset) := by
      have hmem : sampleOf (exchanges index) offset ∈
          (sampled sort sampleCount exchanges offset).take 3 := by
        rw [hsampled]
        exact List.mem_cons_self
      exact abs_sub_le_spread hmem
    refine (Exchange.abs_sub_lt_of_estimate _ offset hspread).trans_le (Int.cast_le.mpr ?_)
    simp only [nextStatus, hsampled, frontRoundTripMs_cons, sampleOf]
    omega
  · intro index hroundTrip hestimate
    have hexact : |((exchanges index).stamps offset).estimate -
        (nextStatus (sampled sort sampleCount exchanges offset) localMs).offsetMs| ≤ 0 := by
      rw [hestimate, sub_self, abs_zero]
    refine (Exchange.abs_sub_lt_of_estimate _ offset hexact).trans_le (Int.cast_le.mpr ?_)
    rw [hroundTrip]
    simp only [nextStatus]
    omega

end

/-! ## Exchanges whose way out takes ever longer -/

/-- A way out of `delay` milliseconds, and no time for the way back. -/
def lateExchange (delay : ℕ) : Exchange ℚ where
  sent := 0
  arrived := delay
  answered := delay
  received := delay
  outward := delay.cast_nonneg
  answering := le_rfl
  homeward := le_rfl

/-- A sort that keeps the order of equal round trips. -/
def stableSort (samples : List Sample) : List Sample :=
  samples.insertionSort fun left right => left.roundTripMs ≤ right.roundTripMs

theorem stableSort_sorts : SortsByRoundTrip stableSort := by
  intro samples
  have : Std.Total fun left right : Sample => left.roundTripMs ≤ right.roundTripMs :=
    ⟨fun left right => le_total left.roundTripMs right.roundTripMs⟩
  have : IsTrans Sample fun left right => left.roundTripMs ≤ right.roundTripMs :=
    ⟨fun _ _ _ => le_trans⟩
  exact ⟨List.perm_insertionSort _ samples, List.pairwise_insertionSort _ samples⟩

theorem synchronize_offset_late :
    ∃ clock,
      synchronize stableSort 3 (fun index => probeOf (lateExchange (100 * (index + 1))) 0) 0 0 =
        .ok clock ∧
      |(clock.status.offsetMs : ℚ) - 0| <
        (clock.status.uncertaintyMs + (clock.status.roundTripMs + 1) / 2 + 1 : ℤ) := by
  have hcount : 3 ≤ 3 ∧ 3 ≤ 15 := by decide
  obtain ⟨clock, hclock, hbound, -⟩ := synchronize_offset 0
    (fun index => lateExchange (100 * (index + 1))) 0 0 stableSort_sorts hcount
  exact ⟨clock, hclock, hbound⟩

/-- The clocks agree, the offset is 100 ms and the uncertainty 50 ms. -/
theorem synchronize_offset_beyond_uncertainty :
    ∃ clock,
      synchronize stableSort 3 (fun index => probeOf (lateExchange (100 * (index + 1))) 0) 0 0 =
        .ok clock ∧
      ¬|(clock.status.offsetMs : ℚ) - 0| ≤ clock.status.uncertaintyMs + 1 := by
  have hcount : 3 ≤ 3 ∧ 3 ≤ 15 := by decide
  refine ⟨_, synchronize_exchanges 0 _ 0 0 hcount, ?_⟩
  decide +kernel

end MineTeleop.TimeSync
