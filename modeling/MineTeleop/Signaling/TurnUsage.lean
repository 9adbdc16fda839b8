import MineTeleop.Signaling.Closed

/-!
# The relay usage of a session

Both participants of a session report what they have sent over the relay, in samples with a
sequence number of their own.  A sample is added to the totals of the session once: a repeated
one is answered from the totals, an older one and one that says something else are refused, and
so is one that the totals have no room for or whose audit record is not written.

Proved here:

* `turnUsage_ensures`: all that one submission does;
* `turn_usage_law`: over every run the totals are the sums over the distinct accepted samples, no
  sum wraps around, and what is not a new sample changes nothing.
-/

namespace MineTeleop.Signaling.TurnUsage

open Documents Programs Tables Runs

/-! ## Samples and totals -/

structure RelayUsageSample where
  sequence : ℕ
  bytesSent : ℕ
  bytesReceived : ℕ
  durationMs : ℕ
  deriving DecidableEq

/-- The members of a session that keep its relay usage. -/
structure RelayUsage where
  relayBytesSent : ℕ
  relayBytesReceived : ℕ
  relayDurationMs : ℕ
  relayUsageSamples : ℕ
  lastRelayBitrateKbps : ℚ
  lastRelayUsageByActor : Table RelayUsageSample
  deriving DecidableEq

def RelayUsage.init : RelayUsage := ⟨0, 0, 0, 0, 0, ∅⟩

/-- `turn_usage` in the document of a session. -/
structure UsageReport where
  bytesSent : ℕ
  bytesReceived : ℕ
  relayBytesTotal : ℕ
  durationMs : ℕ
  sampleCount : ℕ
  lastBitrateKbps : ℚ
  deriving DecidableEq

/-- What `Session::to_json` says of the usage. -/
def UsageReport.of (usage : RelayUsage) : UsageReport where
  bytesSent := usage.relayBytesSent
  bytesReceived := usage.relayBytesReceived
  relayBytesTotal := (usage.relayBytesSent + usage.relayBytesReceived) % 2 ^ 64
  durationMs := usage.relayDurationMs
  sampleCount := usage.relayUsageSamples
  lastBitrateKbps := usage.lastRelayBitrateKbps

structure UsageAnswer where
  duplicate : Bool
  sampleSeq : ℕ
  turnUsage : UsageReport
  deriving DecidableEq

/-! ## One submission -/

/-- A call with the usage of its session, and whether a sum of the call has wrapped around. -/
structure UsageCall where
  call : Call
  usage : RelayUsage
  wrapped : Bool

abbrev UsageHandler (α : Type) := Program UsageCall Refusal α

def onService {α : Type} (p : Handler α) : UsageHandler α :=
  fun s => ((p.exec s.call).1, { s with call := (p.exec s.call).2 })

/-- `std::numeric_limits<std::uint64_t>::max()`. -/
def maximum : ℕ := 2 ^ 64 - 1

def add64 (a b : ℕ) : UsageHandler ℕ := do
  modify fun s => { s with wrapped := s.wrapped || decide (2 ^ 64 ≤ a + b) }
  pure ((a + b) % 2 ^ 64)

/-- Integers beyond 64 bits are numbers of another kind to the parser. -/
def requiredNonnegativeUint64 (value : Json) (key : String) : Except Refusal ℕ :=
  match value.find? key with
  | some (.integer number) =>
    if 0 ≤ number ∧ number < 2 ^ 64 then .ok number.toNat
    else .error (.invalidArgument (key ++ " must be a non-negative integer"))
  | _ => .error (.invalidArgument (key ++ " must be a non-negative integer"))

def relayUsageSample (value : Json) : Except Refusal RelayUsageSample := do
  let sequence ← requiredNonnegativeUint64 value "sample_seq"
  rejectIf (sequence = 0) (.invalidArgument "sample_seq must be positive")
  let bytesSent ← requiredNonnegativeUint64 value "bytes_sent"
  let bytesReceived ← requiredNonnegativeUint64 value "bytes_received"
  let durationMs ← requiredNonnegativeUint64 value "duration_ms"
  rejectIf (durationMs = 0) (.invalidArgument "duration_ms must be positive")
  .ok ⟨sequence, bytesSent, bytesReceived, durationMs⟩

/-- Whether the sample is the last one of the actor over again. -/
def RelayUsage.repeats (usage : RelayUsage) (actor : String) (sample : RelayUsageSample) :
    Except Refusal Bool :=
  match usage.lastRelayUsageByActor.lookup actor with
  | none => .ok false
  | some previous => do
    rejectIf (sample.sequence < previous.sequence)
      (.conflict "stale TURN usage sample sequence" "conflict")
    if sample.sequence = previous.sequence then do
      rejectIf (sample ≠ previous)
        (.conflict "TURN usage sample sequence was reused with different content" "conflict")
      .ok true
    else .ok false

def reportUsage : UsageHandler UsageReport := do
  let usage := (← get).usage
  let relayBytesTotal ← add64 usage.relayBytesSent usage.relayBytesReceived
  pure { UsageReport.of usage with relayBytesTotal := relayBytesTotal }

/-- Whether the totals have no room for the sample. -/
def totalOverflow (usage : RelayUsage) (sample : RelayUsageSample) (sampleBytes : ℕ) :
    UsageHandler Bool :=
  if maximum - usage.relayBytesReceived < usage.relayBytesSent then pure true
  else do
    let relayBytes ← add64 usage.relayBytesSent usage.relayBytesReceived
    pure (decide (maximum - sampleBytes < relayBytes ∨
      maximum - sample.durationMs < usage.relayDurationMs ∨ usage.relayUsageSamples = maximum))

section
variable (config : SignalingServerConfig) (w : Circumstances)

def countSample (sessionId : String) (session : Session) (actor : String)
    (sample : RelayUsageSample) : UsageHandler UsageAnswer := do
  let usage := (← get).usage
  refuseIf (maximum - sample.bytesReceived < sample.bytesSent)
    (.invalidArgument "TURN usage sample bytes overflow")
  let sampleBytes ← add64 sample.bytesSent sample.bytesReceived
  refuseIf ((← totalOverflow usage sample sampleBytes) = true)
    (.invalidArgument "TURN usage total overflow")
  let relayBytesSent ← add64 usage.relayBytesSent sample.bytesSent
  let relayBytesReceived ← add64 usage.relayBytesReceived sample.bytesReceived
  let relayDurationMs ← add64 usage.relayDurationMs sample.durationMs
  let relayUsageSamples ← add64 usage.relayUsageSamples 1
  let lastRelayBitrateKbps : ℚ := sampleBytes * 8 / sample.durationMs
  let relayBytesTotal ← add64 relayBytesSent relayBytesReceived
  onService (audit w ⟨"turn_relay_usage", [
    ("session_id", .string sessionId), ("vehicle_id", .string session.vehicleId),
    ("driver_id", .string session.driverId), ("actor", .string actor),
    ("sample_seq", .integer sample.sequence), ("bytes_sent", .integer sample.bytesSent),
    ("bytes_received", .integer sample.bytesReceived),
    ("duration_ms", .integer sample.durationMs),
    ("relay_bytes_total", .integer relayBytesTotal),
    ("sample_count", .integer relayUsageSamples),
    ("last_bitrate_kbps", .number lastRelayBitrateKbps)]⟩)
  modify fun s => { s with usage := {
    relayBytesSent := relayBytesSent
    relayBytesReceived := relayBytesReceived
    relayDurationMs := relayDurationMs
    relayUsageSamples := relayUsageSamples
    lastRelayBitrateKbps := lastRelayBitrateKbps
    lastRelayUsageByActor := usage.lastRelayUsageByActor.insert actor sample } }
  pure ⟨false, sample.sequence, ← reportUsage⟩

def turnUsage (sessionId : String) (body : Json) : UsageHandler UsageAnswer := do
  let actor ← liftResult (requiredString body "actor")
  let session ← onService (requireParticipant sessionId actor)
  onService (validateActorCredential config w session actor body)
  let sample ← liftResult (relayUsageSample body)
  if (← liftResult ((← get).usage.repeats actor sample)) = true then
    pure ⟨true, sample.sequence, ← reportUsage⟩
  else countSample w sessionId session actor sample

end

/-! ## The machine -/

/-- A submission meets the service in any state that the other requests have brought it to. -/
structure Submission where
  circumstances : Circumstances
  service : SignalingService
  sessionId : String
  body : Json

/-- The relay usage of every session. -/
abbrev Usages := String → RelayUsage

structure UsageOutcome where
  answer : Except Refusal UsageAnswer
  asked : List (AuditRecord × Bool)
  wrapped : Bool

section
variable (config : SignalingServerConfig)

def step (usages : Usages) (submission : Submission) : UsageOutcome × Usages :=
  let result := (turnUsage config submission.circumstances submission.sessionId
    submission.body).exec ⟨.start submission.service, usages submission.sessionId, false⟩
  (⟨result.1, result.2.call.asked, result.2.wrapped⟩,
    Function.update usages submission.sessionId result.2.usage)

def machine : Machine Usages Submission UsageOutcome := ⟨fun _ => .init, step config⟩

end

/-! ## Rules -/

section
variable {s : UsageCall} {R : Refusal → UsageCall → Prop}

theorem ensures_onService {α : Type} {p : Handler α} {Q : α → UsageCall → Prop}
    (hQ : ∀ a call, Q a { s with call := call }) (hR : ∀ e call, R e { s with call := call }) :
    Ensures (onService p) s Q R := by
  have hexec : (onService p).exec s = ((p.exec s.call).1, { s with call := (p.exec s.call).2 }) :=
    rfl
  unfold Ensures
  rw [hexec]
  dsimp only
  cases (p.exec s.call).1 with
  | ok a => exact hQ a _
  | error e => exact hR e _

/-- A sum that fits is exact, and goes unnoticed. -/
theorem ensures_add64 {a b : ℕ} (h : a + b < 2 ^ 64) {Q : ℕ → UsageCall → Prop} :
    Ensures (add64 a b) s Q R ↔ Q (a + b) s := by
  unfold add64
  simp only [ensures_bind, ensures_modify, ensures_pure, Nat.mod_eq_of_lt h,
    decide_eq_false (Nat.not_le.mpr h), Bool.or_false]

/-! ## What a submission does -/

/-- What the 64-bit members of a session can hold. -/
structure RelayUsage.Fits (usage : RelayUsage) : Prop where
  bytes : usage.relayBytesSent + usage.relayBytesReceived < 2 ^ 64
  duration : usage.relayDurationMs < 2 ^ 64
  samples : usage.relayUsageSamples < 2 ^ 64

/-- The sample is new, and its numbers are added to the totals. -/
structure Takes (usage : RelayUsage) (actor : String) (sample : RelayUsageSample)
    (usage' : RelayUsage) : Prop where
  newer : ∀ previous ∈ usage.lastRelayUsageByActor.lookup actor,
    previous.sequence < sample.sequence
  sent : usage'.relayBytesSent = usage.relayBytesSent + sample.bytesSent
  received : usage'.relayBytesReceived = usage.relayBytesReceived + sample.bytesReceived
  duration : usage'.relayDurationMs = usage.relayDurationMs + sample.durationMs
  samples : usage'.relayUsageSamples = usage.relayUsageSamples + 1
  remembered : usage'.lastRelayUsageByActor = usage.lastRelayUsageByActor.insert actor sample
  fits : usage'.Fits

theorem requiredNonnegativeUint64_lt {value : Json} {key : String} {n : ℕ}
    (h : requiredNonnegativeUint64 value key = .ok n) : n < 2 ^ 64 := by
  unfold requiredNonnegativeUint64 at h
  split at h
  · split at h
    · cases h
      omega
    · cases h
  · cases h

theorem relayUsageSample_lt {value : Json} {sample : RelayUsageSample}
    (h : relayUsageSample value = .ok sample) :
    sample.bytesReceived < 2 ^ 64 ∧ sample.durationMs < 2 ^ 64 := by
  unfold relayUsageSample at h
  obtain ⟨sequence, -, h⟩ := Documents.bind_eq_ok_iff.mp h
  obtain ⟨-, -, h⟩ := Documents.bind_eq_ok_iff.mp h
  obtain ⟨bytesSent, -, h⟩ := Documents.bind_eq_ok_iff.mp h
  obtain ⟨bytesReceived, hreceived, h⟩ := Documents.bind_eq_ok_iff.mp h
  obtain ⟨durationMs, hduration, h⟩ := Documents.bind_eq_ok_iff.mp h
  obtain ⟨-, -, h⟩ := Documents.bind_eq_ok_iff.mp h
  cases h
  exact ⟨requiredNonnegativeUint64_lt hreceived, requiredNonnegativeUint64_lt hduration⟩

theorem repeats_ok {usage : RelayUsage} {actor : String} {sample : RelayUsageSample}
    {duplicate : Bool} (h : usage.repeats actor sample = .ok duplicate) :
    if duplicate = true then usage.lastRelayUsageByActor.lookup actor = some sample
    else ∀ previous ∈ usage.lastRelayUsageByActor.lookup actor,
      previous.sequence < sample.sequence := by
  unfold RelayUsage.repeats at h
  cases hlast : usage.lastRelayUsageByActor.lookup actor with
  | none =>
    rw [hlast] at h
    cases h
    exact fun _ hprevious => by cases hprevious
  | some previous =>
    rw [hlast] at h
    obtain ⟨_, hnotOlder, h⟩ := Documents.bind_eq_ok_iff.mp h
    have hle := rejectIf_ok hnotOlder
    split at h
    · obtain ⟨_, hsame, h⟩ := Documents.bind_eq_ok_iff.mp h
      cases h
      rw [if_pos rfl, not_not.mp (rejectIf_ok hsame)]
    · rename_i hne
      cases h
      intro _ hprevious
      cases hprevious
      omega

theorem ensures_reportUsage (h : s.usage.Fits) {Q : UsageReport → UsageCall → Prop}
    (hQ : Q (.of s.usage) s) : Ensures reportUsage s Q R := by
  unfold reportUsage
  rw [ensures_bind, ensures_get, ensures_bind, ensures_add64 h.bytes, ensures_pure]
  unfold UsageReport.of at hQ
  rw [Nat.mod_eq_of_lt h.bytes] at hQ
  exact hQ

theorem ensures_totalOverflow {sample : RelayUsageSample} {sampleBytes : ℕ}
    (h : s.usage.Fits) (hbytes : sampleBytes < 2 ^ 64) (hdurationMs : sample.durationMs < 2 ^ 64)
    {Q : Bool → UsageCall → Prop}
    (hfull : Q true s)
    (hroom : s.usage.relayBytesSent + s.usage.relayBytesReceived + sampleBytes < 2 ^ 64 →
      s.usage.relayDurationMs + sample.durationMs < 2 ^ 64 →
      s.usage.relayUsageSamples + 1 < 2 ^ 64 → Q false s) :
    Ensures (totalOverflow s.usage sample sampleBytes) s Q R := by
  have hfits := h.bytes
  have hduration := h.duration
  have hsamples := h.samples
  unfold totalOverflow
  refine .ite (fun _ => hfull) fun _ => ?_
  rw [ensures_bind, ensures_add64 hfits, ensures_pure]
  by_cases hover : maximum - sampleBytes < s.usage.relayBytesSent + s.usage.relayBytesReceived ∨
      maximum - sample.durationMs < s.usage.relayDurationMs ∨ s.usage.relayUsageSamples = maximum
  · rw [decide_eq_true hover]
    exact hfull
  · rw [decide_eq_false hover]
    unfold maximum at hover
    exact hroom (by omega) (by omega) (by omega)

variable (config : SignalingServerConfig) {w : Circumstances}

/-- A sample is added or the usage is as before; no sum of the call wraps around. -/
theorem countSample_ensures {sessionId : String} {session : Session} {actor : String}
    {sample : RelayUsageSample} (h : s.usage.Fits) (hwrapped : s.wrapped = false)
    (hreceived : sample.bytesReceived < 2 ^ 64) (hdurationMs : sample.durationMs < 2 ^ 64)
    (hnewer : ∀ previous ∈ s.usage.lastRelayUsageByActor.lookup actor,
      previous.sequence < sample.sequence) :
    Ensures (countSample w sessionId session actor sample) s
      (fun answer s' => answer.duplicate = false ∧ s'.wrapped = false ∧
        answer.turnUsage = .of s'.usage ∧ Takes s.usage actor sample s'.usage)
      fun _ s' => s'.wrapped = false ∧ s'.usage = s.usage := by
  unfold countSample
  rw [ensures_bind, ensures_get, ensures_bind]
  refine .refuseIf (fun hbytes => ?_) fun _ => ⟨hwrapped, rfl⟩
  unfold maximum at hbytes
  have hsample : sample.bytesSent + sample.bytesReceived < 2 ^ 64 := by omega
  rw [ensures_bind, ensures_add64 hsample, ensures_bind]
  refine ensures_totalOverflow h hsample hdurationMs ?_ fun htotal hduration hsamples => ?_
  · exact ⟨hwrapped, rfl⟩
  have hsent : s.usage.relayBytesSent + sample.bytesSent < 2 ^ 64 := by omega
  have hgot : s.usage.relayBytesReceived + sample.bytesReceived < 2 ^ 64 := by omega
  have hboth : s.usage.relayBytesSent + sample.bytesSent +
      (s.usage.relayBytesReceived + sample.bytesReceived) < 2 ^ 64 := by omega
  rw [ensures_bind]
  refine .refuseIf (fun _ => ?_) fun hfalse => by cases hfalse
  rw [ensures_bind, ensures_add64 hsent, ensures_bind, ensures_add64 hgot, ensures_bind,
    ensures_add64 hduration, ensures_bind, ensures_add64 hsamples, ensures_bind,
    ensures_add64 hboth, ensures_bind]
  refine ensures_onService (fun _ call => ?_) fun _ _ => ⟨hwrapped, rfl⟩
  rw [ensures_bind, ensures_modify, ensures_bind]
  exact ensures_reportUsage ⟨hboth, hduration, hsamples⟩
    ⟨rfl, hwrapped, rfl, hnewer, rfl, rfl, rfl, rfl, rfl, hboth, hduration, hsamples⟩

variable (w) in
/-- All that one submission does. -/
theorem turnUsage_ensures (sessionId : String) (body : Json) (h : s.usage.Fits)
    (hwrapped : s.wrapped = false) :
    Ensures (turnUsage config w sessionId body) s
      (fun answer s' => s'.wrapped = false ∧ answer.turnUsage = .of s'.usage ∧ ∃ actor sample,
        requiredString body "actor" = .ok actor ∧ relayUsageSample body = .ok sample ∧
        if answer.duplicate = true then
          s'.usage = s.usage ∧ s.usage.lastRelayUsageByActor.lookup actor = some sample
        else Takes s.usage actor sample s'.usage)
      fun _ s' => s'.wrapped = false ∧ s'.usage = s.usage := by
  unfold turnUsage
  rw [ensures_bind]
  refine .liftResult (fun actor hactor => ?_) fun _ _ => ⟨hwrapped, rfl⟩
  rw [ensures_bind]
  refine ensures_onService (fun session call => ?_) fun _ _ => ⟨hwrapped, rfl⟩
  rw [ensures_bind]
  refine ensures_onService (fun _ call => ?_) fun _ _ => ⟨hwrapped, rfl⟩
  rw [ensures_bind]
  refine .liftResult (fun sample hsample => ?_) fun _ _ => ⟨hwrapped, rfl⟩
  rw [ensures_bind, ensures_get, ensures_bind]
  refine .liftResult (fun duplicate hduplicate => ?_) fun _ _ => ⟨hwrapped, rfl⟩
  have hrepeats := repeats_ok hduplicate
  refine .ite (fun htrue => ?_) fun hfalse => ?_
  · rw [if_pos htrue] at hrepeats
    rw [ensures_bind]
    refine ensures_reportUsage (s := ⟨call, s.usage, s.wrapped⟩) h ?_
    refine ⟨hwrapped, rfl, actor, sample, hactor, hsample, ?_⟩
    rw [if_pos rfl]
    exact ⟨rfl, hrepeats⟩
  · rw [if_neg hfalse] at hrepeats
    obtain ⟨hreceived, hduration⟩ := relayUsageSample_lt hsample
    refine (countSample_ensures (s := ⟨call, s.usage, s.wrapped⟩) h hwrapped hreceived hduration
      hrepeats).mono (fun answer s' htaken => ?_) fun _ _ hkept => hkept
    refine ⟨htaken.2.1, htaken.2.2.1, actor, sample, hactor, hsample, ?_⟩
    rw [if_neg (by rw [htaken.1]; decide)]
    exact htaken.2.2.2

end

/-! ## Every run -/

abbrev Submitted := Step Usages Submission UsageOutcome

/-- The sample of a submission, with its actor. -/
def Submission.named (submission : Submission) : Option (String × RelayUsageSample) :=
  match requiredString submission.body "actor", relayUsageSample submission.body with
  | .ok actor, .ok sample => some (actor, sample)
  | _, _ => none

/-- The samples accepted for a session, the repeated ones included, the latest first. -/
def accepted (sessionId : String) (h : History Usages Submission UsageOutcome) :
    List (String × RelayUsageSample) :=
  h.filterMap fun st =>
    if st.event.sessionId = sessionId ∧ st.output.answer.isOk = true then st.event.named else none

/-- The submission was accepted, and not as a duplicate. -/
def Fresh (st : Submitted) : Prop :=
  ∃ answer, st.output.answer = .ok answer ∧ answer.duplicate = false

structure UsageReport.Sums (report : UsageReport) (samples : List (String × RelayUsageSample)) :
    Prop where
  sent : report.bytesSent = (samples.map fun entry => entry.2.bytesSent).sum
  received : report.bytesReceived = (samples.map fun entry => entry.2.bytesReceived).sum
  total : report.relayBytesTotal =
    (samples.map fun entry => entry.2.bytesSent + entry.2.bytesReceived).sum
  duration : report.durationMs = (samples.map fun entry => entry.2.durationMs).sum
  count : report.sampleCount = samples.length

structure UsageLaw (st : Submitted) (past : History Usages Submission UsageOutcome) : Prop where
  sums : ∀ sessionId, (UsageReport.of (st.after sessionId)).Sums
    (accepted sessionId (st :: past)).dedup
  reported : ∀ answer, st.output.answer = .ok answer →
    answer.turnUsage = .of (st.after st.event.sessionId)
  unwrapped : st.output.wrapped = false
  unchanged : ¬Fresh st → st.after = st.before
  distinct : ∀ sessionId, ∀ entry ∈ accepted sessionId (st :: past),
    ∀ entry' ∈ accepted sessionId (st :: past),
      entry.1 = entry'.1 → entry.2.sequence = entry'.2.sequence → entry = entry'

/-- What the usage of a session knows of the samples accepted for it. -/
structure Kept (usage : RelayUsage) (samples : List (String × RelayUsageSample)) : Prop where
  sent : usage.relayBytesSent = (samples.dedup.map fun entry => entry.2.bytesSent).sum
  received : usage.relayBytesReceived = (samples.dedup.map fun entry => entry.2.bytesReceived).sum
  duration : usage.relayDurationMs = (samples.dedup.map fun entry => entry.2.durationMs).sum
  count : usage.relayUsageSamples = samples.dedup.length
  fits : usage.Fits
  last : ∀ actor sample, usage.lastRelayUsageByActor.lookup actor = some sample →
    (actor, sample) ∈ samples
  latest : ∀ actor sample, (actor, sample) ∈ samples →
    ∃ previous, usage.lastRelayUsageByActor.lookup actor = some previous ∧
      sample.sequence ≤ previous.sequence
  distinct : ∀ entry ∈ samples, ∀ entry' ∈ samples, entry.1 = entry'.1 →
    entry.2.sequence = entry'.2.sequence → entry = entry'

section
variable {usage usage' : RelayUsage} {samples : List (String × RelayUsageSample)}
  {actor : String} {sample : RelayUsageSample}

theorem kept_init : Kept .init [] where
  sent := rfl
  received := rfl
  duration := rfl
  count := rfl
  fits := ⟨by decide, by decide, by decide⟩
  last _ _ h := by cases h
  latest _ _ h := by cases h
  distinct _ h := by cases h

theorem Kept.sums (h : Kept usage samples) : (UsageReport.of usage).Sums samples.dedup where
  sent := h.sent
  received := h.received
  total := by
    unfold UsageReport.of
    rw [Nat.mod_eq_of_lt h.fits.bytes, h.sent, h.received, ← List.sum_map_add]
  duration := h.duration
  count := h.count

/-- A sample that was accepted before adds nothing to the sums. -/
theorem Kept.repeated (h : Kept usage samples)
    (hlast : usage.lastRelayUsageByActor.lookup actor = some sample) :
    Kept usage ((actor, sample) :: samples) := by
  have hmem : (actor, sample) ∈ samples := h.last actor sample hlast
  have hsame : ∀ entry, entry ∈ (actor, sample) :: samples ↔ entry ∈ samples := by
    intro entry
    rw [List.mem_cons]
    exact or_iff_right_of_imp fun heq => heq ▸ hmem
  have hdedup := List.dedup_cons_of_mem hmem
  constructor
  · rw [hdedup]
    exact h.sent
  · rw [hdedup]
    exact h.received
  · rw [hdedup]
    exact h.duration
  · rw [hdedup]
    exact h.count
  · exact h.fits
  · exact fun actor' sample' hlookup => (hsame _).mpr (h.last actor' sample' hlookup)
  · exact fun actor' sample' hentry => h.latest actor' sample' ((hsame _).mp hentry)
  · exact fun entry hentry entry' hentry' =>
      h.distinct entry ((hsame _).mp hentry) entry' ((hsame _).mp hentry')

/-- A new sample is none of those before, whose sequence numbers are all lower. -/
theorem Kept.taken (h : Kept usage samples) (ht : Takes usage actor sample usage') :
    Kept usage' ((actor, sample) :: samples) := by
  have hlower : ∀ sample', (actor, sample') ∈ samples → sample'.sequence < sample.sequence := by
    intro sample' hentry
    obtain ⟨previous, hprevious, hle⟩ := h.latest actor sample' hentry
    exact lt_of_le_of_lt hle (ht.newer previous hprevious)
  have hnew : (actor, sample) ∉ samples := fun hmem => lt_irrefl _ (hlower sample hmem)
  have hdedup := List.dedup_cons_of_notMem hnew
  constructor
  · rw [hdedup, List.map_cons, List.sum_cons, ht.sent, h.sent, Nat.add_comm]
  · rw [hdedup, List.map_cons, List.sum_cons, ht.received, h.received, Nat.add_comm]
  · rw [hdedup, List.map_cons, List.sum_cons, ht.duration, h.duration, Nat.add_comm]
  · rw [hdedup, List.length_cons, ht.samples, h.count]
  · exact ht.fits
  · intro actor' sample' hlookup
    rw [ht.remembered, Table.lookup_insert] at hlookup
    split at hlookup
    · rename_i hactor
      cases hlookup
      rw [hactor]
      exact List.mem_cons_self
    · exact List.mem_cons_of_mem _ (h.last actor' sample' hlookup)
  · intro actor' sample' hentry
    rw [ht.remembered, Table.lookup_insert]
    rcases List.mem_cons.mp hentry with heq | hbefore
    · cases heq
      exact ⟨sample, if_pos rfl, le_refl _⟩
    · by_cases hactor : actor' = actor
      · subst hactor
        exact ⟨sample, if_pos rfl, (hlower sample' hbefore).le⟩
      · rw [if_neg hactor]
        exact h.latest actor' sample' hbefore
  · intro entry hentry entry' hentry' hactor hsequence
    rcases List.mem_cons.mp hentry with rfl | hentry
    · rcases List.mem_cons.mp hentry' with rfl | hentry'
      · rfl
      · obtain ⟨_, sample'⟩ := entry'
        cases hactor
        exact absurd hsequence (hlower sample' hentry').ne'
    · rcases List.mem_cons.mp hentry' with rfl | hentry'
      · obtain ⟨_, sample'⟩ := entry
        cases hactor
        exact absurd hsequence (hlower sample' hentry).ne
      · exact h.distinct entry hentry entry' hentry' hactor hsequence

end

def Linked (h : History Usages Submission UsageOutcome) (usages : Usages) : Prop :=
  ∀ sessionId, Kept (usages sessionId) (accepted sessionId h)

section
variable (config : SignalingServerConfig) {usages : Usages} {submission : Submission}
  {h : History Usages Submission UsageOutcome}

theorem accepted_cons_ne {st : Submitted} {sessionId : String}
    (hne : st.event.sessionId ≠ sessionId) :
    accepted sessionId (st :: h) = accepted sessionId h := by
  unfold accepted
  exact List.filterMap_cons_none (if_neg fun hboth => hne hboth.1)

theorem accepted_cons_refused {st : Submitted} {sessionId : String} {refusal : Refusal}
    (hrefused : st.output.answer = .error refusal) :
    accepted sessionId (st :: h) = accepted sessionId h := by
  unfold accepted
  refine List.filterMap_cons_none (if_neg fun hboth => ?_)
  rw [hrefused] at hboth
  cases hboth.2

theorem accepted_cons {st : Submitted} {actor : String} {sample : RelayUsageSample}
    {answer : UsageAnswer} (hanswer : st.output.answer = .ok answer)
    (hactor : requiredString st.event.body "actor" = .ok actor)
    (hsample : relayUsageSample st.event.body = .ok sample) :
    accepted st.event.sessionId (st :: h) =
      (actor, sample) :: accepted st.event.sessionId h := by
  have hnamed : st.event.named = some (actor, sample) := by
    unfold Submission.named
    rw [hactor, hsample]
  unfold accepted
  refine List.filterMap_cons_some ?_
  rw [if_pos ⟨rfl, by rw [hanswer]; rfl⟩]
  exact hnamed

/-- One step of a run: the submission, as the history and the table of the sessions see it. -/
theorem step_outcome (hl : Linked h usages) :
    Linked ((machine config).observe usages submission :: h)
        ((machine config).step usages submission).2 ∧
      (∀ answer, ((machine config).observe usages submission).output.answer = .ok answer →
        answer.turnUsage = .of (((machine config).step usages submission).2
          submission.sessionId)) ∧
      ((machine config).observe usages submission).output.wrapped = false ∧
      (¬Fresh ((machine config).observe usages submission) →
        ((machine config).step usages submission).2 = usages) := by
  have hensures := turnUsage_ensures config submission.circumstances submission.sessionId
    submission.body (s := ⟨.start submission.service, usages submission.sessionId, false⟩)
    (hl submission.sessionId).fits rfl
  have hothers : ∀ usage, Kept usage (accepted submission.sessionId
        ((machine config).observe usages submission :: h)) →
      ∀ sessionId, Kept (Function.update usages submission.sessionId usage sessionId)
        (accepted sessionId ((machine config).observe usages submission :: h)) := by
    intro usage hkept sessionId
    by_cases hsession : sessionId = submission.sessionId
    · rw [hsession, Function.update_self]
      exact hkept
    · rw [Function.update_of_ne hsession, accepted_cons_ne (Ne.symm hsession)]
      exact hl sessionId
  have hsame : ∀ usage, usage = usages submission.sessionId →
      Function.update usages submission.sessionId usage = usages := by
    rintro _ rfl
    exact Function.update_eq_self _ _
  unfold Ensures at hensures
  cases hanswer : ((turnUsage config submission.circumstances submission.sessionId
      submission.body).exec
        ⟨.start submission.service, usages submission.sessionId, false⟩).1 with
  | error refusal =>
    rw [hanswer] at hensures
    obtain ⟨hunwrapped, hunchanged⟩ := hensures
    refine ⟨hothers _ ?_, ?_, hunwrapped, fun _ => hsame _ hunchanged⟩
    · rw [accepted_cons_refused hanswer, hunchanged]
      exact hl submission.sessionId
    · intro answer hok
      cases hanswer.symm.trans hok
  | ok answer =>
    rw [hanswer] at hensures
    obtain ⟨hunwrapped, hreport, actor, sample, hactor, hsample, hdone⟩ := hensures
    have haccepted : accepted submission.sessionId
        ((machine config).observe usages submission :: h) =
          (actor, sample) :: accepted submission.sessionId h :=
      accepted_cons hanswer hactor hsample
    refine ⟨hothers _ ?_, ?_, hunwrapped, ?_⟩
    · refine haccepted ▸ ?_
      split at hdone
      · rw [hdone.1]
        exact (hl submission.sessionId).repeated hdone.2
      · exact (hl submission.sessionId).taken hdone
    · intro answer' hok
      cases hanswer.symm.trans hok
      have hafter : ((machine config).step usages submission).2 submission.sessionId =
          ((turnUsage config submission.circumstances submission.sessionId
            submission.body).exec
              ⟨.start submission.service, usages submission.sessionId, false⟩).2.usage :=
        Function.update_self ..
      rw [hafter, hreport]
    · intro hstale
      have hduplicate : answer.duplicate = true := by
        by_contra hfresh
        exact hstale ⟨answer, hanswer, Bool.eq_false_iff.mpr hfresh⟩
      rw [if_pos hduplicate] at hdone
      exact hsame _ hdone.1

/-- **Relay usage**, over every run of submissions to any sessions. -/
theorem turn_usage_law (config : SignalingServerConfig)
    {h : History Usages Submission UsageOutcome} {usages : Usages}
    (hr : Run (machine config) h usages) : Always UsageLaw h := by
  refine hr.always_of_link (C := fun _ => True) (R := Linked) (fun _ => kept_init)
    (fun _ _ _ _ hl _ => (step_outcome config hl).1) ?_ (steps_true h)
  intro past usages submission _ hl _
  obtain ⟨hlinked, hreported, hunwrapped, hunchanged⟩ := step_outcome config hl
  constructor
  · exact fun sessionId => (hlinked sessionId).sums
  · exact hreported
  · exact hunwrapped
  · exact hunchanged
  · exact fun sessionId => (hlinked sessionId).distinct

/-! ## A bench session -/

/-- One active session, with its driver and its vehicle online. -/
def benchService : SignalingService := { SignalingService.init with
  sessions := AList.singleton "session-000001"
    ⟨"truck", "driver", 1002, .active, "control-token", 301002⟩
  driverTokens := AList.singleton "driver-token" ⟨"driver", 301000, 1⟩
  onlineDrivers := AList.singleton "driver" ⟨"desk", 1, 1000, 1000⟩
  onlineVehicles := AList.singleton "truck" ⟨"link", 2, 1001, 1001⟩ }

def benchSubmission (credentials : List (String × Json)) (sink : Bool)
    (sequence bytesSent bytesReceived durationMs : ℤ) : Submission where
  circumstances := { smoothly 2000 "" with sink := fun _ => sink }
  service := benchService
  sessionId := "session-000001"
  body := .object (credentials ++ [("sample_seq", .integer sequence),
    ("bytes_sent", .integer bytesSent), ("bytes_received", .integer bytesReceived),
    ("duration_ms", .integer durationMs)])

def byDriver : List (String × Json) :=
  [("actor", .string "driver"), ("token", .string "driver-token")]

def byVehicle : List (String × Json) :=
  [("actor", .string "truck"), ("device_token", .string "device"),
    ("connection_generation", .integer 2)]

/-- New samples of both sides, a repeated one, a changed one, an older one, one without a record
and one too large for the total. -/
def benchSubmissions : List Submission := [
  benchSubmission byDriver true 2 100 50 10,
  benchSubmission byVehicle true 7 3 4 20,
  benchSubmission byDriver true 2 100 50 10,
  benchSubmission byDriver true 2 100 51 10,
  benchSubmission byDriver true 1 1 1 1,
  benchSubmission byDriver false 3 8 8 8,
  benchSubmission byVehicle true 8 (2 ^ 64 - 100) 0 5]

theorem turn_usage_law_bench :
    Always UsageLaw ((machine exampleConfig).play benchSubmissions).1 :=
  turn_usage_law exampleConfig (.play _ benchSubmissions)

example : UsageReport.of (((machine exampleConfig).play benchSubmissions).2 "session-000001") =
    ⟨103, 54, 157, 30, 2, 14 / 5⟩ := by
  decide +kernel

end

end MineTeleop.Signaling.TurnUsage
