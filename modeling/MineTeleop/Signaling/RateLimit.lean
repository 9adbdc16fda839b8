import MineTeleop.Library.Runs
import MineTeleop.Signaling.Service

/-!
# The request limit of the API

Every request is counted in the bucket of its source.  A bucket counts through a window that its
first request opens; buckets whose window is over are dropped at the next cleanup, and a source
that finds the map full is counted in one bucket for all of them.

Proved here, for requests whose times do not go back and are not zero:

* `rate_limit_law`: the map stays within its bound, no window of any bucket admits more than the
  limit, an open window keeps its source in its own bucket, and whether the source is admitted
  there is a matter of its own requests in the window;
* `rate_limit_fails`: at time zero a window never ends up open, and at the largest limit the
  counter stands still.
-/

namespace MineTeleop.Signaling.RateLimit

open Documents Tables Runs

/-! ## The limiter -/

structure ApiRateLimitConfig where
  requests : ℤ
  windowMs : ℤ
  maxSources : ℤ
  trustedProxyAddresses : Finset String
  requests_pos : 0 < requests
  windowMs_pos : 0 < windowMs
  maxSources_pos : 0 < maxSources

structure ApiRateState where
  requests : ℤ
  windowStartedAtMs : ℤ
  limitAudited : Bool
  deriving DecidableEq

def ApiRateState.init : ApiRateState := ⟨0, 0, false⟩

structure ApiRateLimiter where
  apiRateLimits : Table ApiRateState
  apiRateLimitOverflow : ApiRateState
  apiRateLimitLastCleanupMs : ℤ
  apiRateLimitedRequests : ℕ
  deriving DecidableEq

def ApiRateLimiter.init : ApiRateLimiter := ⟨∅, .init, 0, 0⟩

/-- What the limiter sees of a request, with the time and whether the audit sink writes. -/
structure ApiRequest where
  peerAddress : String
  forwardedFor : Option String
  timestampMs : ℤ
  sink : Bool
  deriving DecidableEq

/-- The answer to a request, and the record that was asked for. -/
structure Verdict where
  answer : Except Refusal Unit
  asked : List (AuditRecord × Bool)

section
variable (canonicalIpAddress : String → Option String) (config : ApiRateLimitConfig)

/-- What stands behind the last comma. -/
def lastForwarded (forwarded : String) : String :=
  String.ofList (forwarded.toList.reverse.takeWhile (· ≠ ',')).reverse

/-- A trusted proxy speaks for the address that it names last. -/
def requestSource (request : ApiRequest) : String :=
  let peer := (canonicalIpAddress request.peerAddress).getD "unknown"
  if peer ∈ config.trustedProxyAddresses then
    match request.forwardedFor with
    | none => peer
    | some forwarded => (canonicalIpAddress (lastForwarded forwarded)).getD peer
  else peer

def ApiRateState.Expired (state : ApiRateState) (timestampMs : ℤ) : Prop :=
  state.windowStartedAtMs = 0 ∨ timestampMs < state.windowStartedAtMs ∨
    config.windowMs ≤ timestampMs - state.windowStartedAtMs

instance (state : ApiRateState) (timestampMs : ℤ) : Decidable (state.Expired config timestampMs) :=
  inferInstanceAs (Decidable (_ ∨ _ ∨ _))

/-- `cleanup_api_rate_limits`. -/
def ApiRateLimiter.cleanup (limiter : ApiRateLimiter) (timestampMs : ℤ) : ApiRateLimiter :=
  { limiter with
    apiRateLimits := limiter.apiRateLimits.eraseIf fun _ state => state.Expired config timestampMs
    apiRateLimitOverflow :=
      if limiter.apiRateLimitOverflow.Expired config timestampMs then .init
      else limiter.apiRateLimitOverflow
    apiRateLimitLastCleanupMs := timestampMs }

def ApiRateLimiter.cleaned (limiter : ApiRateLimiter) (timestampMs : ℤ) : ApiRateLimiter :=
  if limiter.apiRateLimitLastCleanupMs = 0 ∨ timestampMs < limiter.apiRateLimitLastCleanupMs ∨
      config.windowMs ≤ timestampMs - limiter.apiRateLimitLastCleanupMs then
    limiter.cleanup config timestampMs
  else limiter

/-- One more request in the window, which it opens when there is none. -/
def ApiRateState.counted (state : ApiRateState) (timestampMs : ℤ) : ApiRateState :=
  let current : ApiRateState :=
    if state.Expired config timestampMs then ⟨0, timestampMs, false⟩ else state
  { current with
    requests := if current.requests < 2 ^ 63 - 1 then current.requests + 1 else current.requests }

/-- The bucket of a source, or the one for all that have none. -/
def ApiRateLimiter.bucket (limiter : ApiRateLimiter) : Option String → ApiRateState
  | some source => (limiter.apiRateLimits.lookup source).getD .init
  | none => limiter.apiRateLimitOverflow

def ApiRateLimiter.store (limiter : ApiRateLimiter) (state : ApiRateState) :
    Option String → ApiRateLimiter
  | some source => { limiter with apiRateLimits := limiter.apiRateLimits.insert source state }
  | none => { limiter with apiRateLimitOverflow := state }

/-- A source without a bucket is given one while there is room. -/
def ApiRateLimiter.bucketOf (limiter : ApiRateLimiter) (source : String) : Option String :=
  if limiter.apiRateLimits.lookup source = none ∧
      config.maxSources ≤ limiter.apiRateLimits.keys.length then none
  else some source

def ApiRateLimiter.enforce (limiter : ApiRateLimiter) (request : ApiRequest) :
    Verdict × ApiRateLimiter :=
  let limiter := limiter.cleaned config request.timestampMs
  let source := requestSource canonicalIpAddress config request
  let bucket := limiter.bucketOf config source
  let state := (limiter.bucket bucket).counted config request.timestampMs
  if state.requests ≤ config.requests then
    (⟨.ok (), []⟩, limiter.store state bucket)
  else
    let limited := { limiter with
      apiRateLimitedRequests := min (2 ^ 64 - 1) (limiter.apiRateLimitedRequests + 1) }
    let elapsed := max 0 (request.timestampMs - state.windowStartedAtMs)
    let retryAfterMs := max 1 (config.windowMs - elapsed)
    let refusal := Refusal.tooManyRequests "API request rate limit exceeded" retryAfterMs
    if state.limitAudited then
      (⟨.error refusal, []⟩, limited.store state bucket)
    else
      let record : AuditRecord := ⟨"api_rate_limited", [
        ("source_address", .string (bucket.getD "<overflow>")),
        ("request_limit", .integer config.requests), ("window_ms", .integer config.windowMs),
        ("overflow_bucket", .boolean bucket.isNone)]⟩
      (⟨.error (if request.sink then refusal
          else .runtimeError "cannot append signaling audit log"), [(record, request.sink)]⟩,
        limited.store { state with limitAudited := true } bucket)

def machine : Machine ApiRateLimiter ApiRequest Verdict :=
  ⟨.init, ApiRateLimiter.enforce canonicalIpAddress config⟩

end

/-! ## Windows -/

abbrev Served := Step ApiRateLimiter ApiRequest Verdict

def Admitted (st : Served) : Prop := st.output.answer.isOk = true

instance : DecidablePred Admitted := fun st => inferInstanceAs (Decidable (_ = true))

/-- What a window has seen since its first request. -/
structure Window where
  startedAtMs : ℤ
  requests : ℕ
  admitted : ℕ
  deriving DecidableEq

section
variable (canonicalIpAddress : String → Option String) (config : ApiRateLimitConfig)

def sourceOf (st : Served) : String := requestSource canonicalIpAddress config st.event

/-- The bucket that a request was counted in: its source's own, if that is there afterwards. -/
def countedIn (st : Served) : Option String :=
  if (st.after.apiRateLimits.lookup (sourceOf canonicalIpAddress config st)).isSome then
    some (sourceOf canonicalIpAddress config st)
  else none

def Window.Open (window : Window) (timestampMs : ℤ) : Prop :=
  timestampMs - window.startedAtMs < config.windowMs

instance (window : Window) (timestampMs : ℤ) : Decidable (window.Open config timestampMs) :=
  inferInstanceAs (Decidable (_ < _))

def Window.next (window : Option Window) (st : Served) : Window :=
  let current := (window.filter (·.Open config st.event.timestampMs)).getD
    ⟨st.event.timestampMs, 0, 0⟩
  { current with
    requests := current.requests + 1
    admitted := if Admitted st then current.admitted + 1 else current.admitted }

/-- The latest window of a bucket: only the requests counted in the bucket make it. -/
def windowOf (bucket : Option String) : History ApiRateLimiter ApiRequest Verdict → Option Window
  | [] => none
  | st :: past =>
    if countedIn canonicalIpAddress config st = bucket then
      some (.next config (windowOf bucket past) st)
    else windowOf bucket past

/-- Time does not go back. -/
def NotBack (st : Served) (past : History ApiRateLimiter ApiRequest Verdict) : Prop :=
  ∀ earlier ∈ past, earlier.event.timestampMs ≤ st.event.timestampMs

instance (st : Served) (past : History ApiRateLimiter ApiRequest Verdict) :
    Decidable (NotBack st past) :=
  inferInstanceAs (Decidable (∀ earlier ∈ past, _))

/-- Zero stands for a window that was never opened. -/
def InOrder (st : Served) (past : History ApiRateLimiter ApiRequest Verdict) : Prop :=
  st.event.timestampMs ≠ 0 ∧ NotBack st past

instance (st : Served) (past : History ApiRateLimiter ApiRequest Verdict) :
    Decidable (InOrder st past) :=
  inferInstanceAs (Decidable (_ ∧ _))

structure RateLimitLaw (st : Served) (past : History ApiRateLimiter ApiRequest Verdict) :
    Prop where
  tracked_le : (st.after.apiRateLimits.keys.length : ℤ) ≤ config.maxSources
  admitted_le : ∀ bucket, ∀ window ∈ windowOf canonicalIpAddress config bucket (st :: past),
    (window.admitted : ℤ) ≤ config.requests
  decided : ∀ window ∈ windowOf canonicalIpAddress config
      (countedIn canonicalIpAddress config st) (st :: past),
    (Admitted st ↔ (window.requests : ℤ) ≤ config.requests)
  shared : countedIn canonicalIpAddress config st = none →
    (st.after.apiRateLimits.keys.length : ℤ) = config.maxSources
  own : ∀ window ∈ windowOf canonicalIpAddress config
      (some (sourceOf canonicalIpAddress config st)) past,
    window.Open config st.event.timestampMs →
      countedIn canonicalIpAddress config st = some (sourceOf canonicalIpAddress config st) ∧
      (Admitted st ↔ (window.requests : ℤ) < config.requests)

end

/-! ## One request -/

section
variable {canonicalIpAddress : String → Option String} {config : ApiRateLimitConfig}
  {limiter : ApiRateLimiter} {request : ApiRequest}

/-- The bucket as far as it has been opened. -/
def ApiRateLimiter.held (limiter : ApiRateLimiter) : Option String → Option ApiRateState
  | some source => limiter.apiRateLimits.lookup source
  | none =>
    if limiter.apiRateLimitOverflow.windowStartedAtMs = 0 then none
    else some limiter.apiRateLimitOverflow

theorem counted_of_expired {state : ApiRateState} {timestampMs : ℤ}
    (h : state.Expired config timestampMs) :
    state.counted config timestampMs = ⟨1, timestampMs, false⟩ := by
  unfold ApiRateState.counted
  rw [if_pos h]
  rfl

theorem counted_of_open {state : ApiRateState} {timestampMs : ℤ}
    (h : ¬state.Expired config timestampMs) (hle : state.requests ≤ 2 ^ 63 - 1) :
    state.counted config timestampMs =
      { state with requests := min (state.requests + 1) (2 ^ 63 - 1) } := by
  unfold ApiRateState.counted
  rw [if_neg h]
  have hmin : (if state.requests < 2 ^ 63 - 1 then state.requests + 1 else state.requests) =
      min (state.requests + 1) (2 ^ 63 - 1) := by
    split <;> omega
  rw [← hmin]

theorem counted_bucket (bucket : Option String) (timestampMs : ℤ) :
    (limiter.bucket bucket).counted config timestampMs =
      ((limiter.held bucket).getD .init).counted config timestampMs := by
  cases bucket with
  | some source => rfl
  | none =>
    by_cases hstart : limiter.apiRateLimitOverflow.windowStartedAtMs = 0
    · unfold ApiRateLimiter.held ApiRateLimiter.bucket
      rw [if_pos hstart, counted_of_expired (Or.inl hstart)]
      exact (counted_of_expired (Or.inl rfl)).symm
    · unfold ApiRateLimiter.held ApiRateLimiter.bucket
      rw [if_neg hstart]
      rfl

theorem counted_startedAtMs_ne {state : ApiRateState} {timestampMs : ℤ} (h : timestampMs ≠ 0) :
    (state.counted config timestampMs).windowStartedAtMs ≠ 0 := by
  unfold ApiRateState.counted
  split
  · exact h
  · rename_i hexpired
    intro hstart
    exact hexpired (Or.inl hstart)

theorem held_store {state : ApiRateState} (h : state.windowStartedAtMs ≠ 0)
    (bucket bucket' : Option String) :
    (limiter.store state bucket).held bucket' =
      if bucket' = bucket then some state else limiter.held bucket' := by
  cases bucket with
  | none =>
    cases bucket' with
    | none => simp [ApiRateLimiter.store, ApiRateLimiter.held, h]
    | some source' => simp [ApiRateLimiter.store, ApiRateLimiter.held]
  | some source =>
    cases bucket' with
    | none => rfl
    | some source' =>
      simp only [ApiRateLimiter.store, ApiRateLimiter.held, Option.some.injEq]
      exact Table.lookup_insert state

/-- What is over is gone after a cleanup. -/
theorem held_cleanup (bucket : Option String) (timestampMs : ℤ) :
    (limiter.cleanup config timestampMs).held bucket =
      (limiter.held bucket).filter fun state => !decide (state.Expired config timestampMs) := by
  cases bucket with
  | some source => exact Table.lookup_eraseIf _
  | none =>
    unfold ApiRateLimiter.cleanup ApiRateLimiter.held
    dsimp only
    by_cases hexpired : limiter.apiRateLimitOverflow.Expired config timestampMs
    · rw [if_pos hexpired]
      by_cases hstart : limiter.apiRateLimitOverflow.windowStartedAtMs = 0
      · simp [hstart, ApiRateState.init]
      · simp [hstart, hexpired, ApiRateState.init, Option.filter]
    · have hstart : limiter.apiRateLimitOverflow.windowStartedAtMs ≠ 0 :=
        fun hstart => hexpired (Or.inl hstart)
      rw [if_neg hexpired, if_neg hstart]
      simp [Option.filter, hexpired]

theorem held_cleaned (bucket : Option String) (timestampMs : ℤ) :
    (limiter.cleaned config timestampMs).held bucket = limiter.held bucket ∨
      (limiter.cleaned config timestampMs).held bucket =
        (limiter.held bucket).filter fun state => !decide (state.Expired config timestampMs) := by
  unfold ApiRateLimiter.cleaned
  split
  · exact Or.inr (held_cleanup bucket timestampMs)
  · exact Or.inl rfl

theorem keys_cleaned (timestampMs : ℤ) :
    (limiter.cleaned config timestampMs).apiRateLimits.keys.length ≤
      limiter.apiRateLimits.keys.length := by
  unfold ApiRateLimiter.cleaned
  split
  · simp only [AList.keys, List.keys, List.length_map]
    exact List.length_filter_le _ _
  · exact Nat.le_refl _

variable (canonicalIpAddress config limiter request) in
/-- All that one request does: its bucket has counted it, and the others are as the cleanup left
them. -/
theorem enforce_counts {cleaned : ApiRateLimiter} {bucket : Option String}
    (hcleaned : limiter.cleaned config request.timestampMs = cleaned)
    (hbucket : cleaned.bucketOf config (requestSource canonicalIpAddress config request) =
      bucket) :
    ∃ state n,
      state.requests =
        (((cleaned.held bucket).getD .init).counted config request.timestampMs).requests ∧
      state.windowStartedAtMs = (((cleaned.held bucket).getD .init).counted config
        request.timestampMs).windowStartedAtMs ∧
      ((limiter.enforce canonicalIpAddress config request).1.answer.isOk = true ↔
        state.requests ≤ config.requests) ∧
      (limiter.enforce canonicalIpAddress config request).2 =
        { cleaned with apiRateLimitedRequests := n }.store state bucket := by
  unfold ApiRateLimiter.enforce
  dsimp only
  rw [hcleaned, hbucket, counted_bucket]
  split
  · rename_i hle
    exact ⟨_, cleaned.apiRateLimitedRequests, rfl, rfl, iff_of_true rfl hle, rfl⟩
  · rename_i hlt
    have hrefused : ∀ refusal : Refusal,
        ¬(Except.error refusal : Except Refusal Unit).isOk = true := by
      simp [Except.isOk, Except.toBool]
    split
    · exact ⟨_, _, rfl, rfl, iff_of_false (hrefused _) hlt, rfl⟩
    · refine ⟨{ (((cleaned.held bucket).getD .init).counted config request.timestampMs) with
        limitAudited := true }, _, rfl, rfl, iff_of_false (hrefused _) hlt, rfl⟩

theorem lookup_bucketOf_none {source : String} (h : limiter.bucketOf config source = none) :
    limiter.apiRateLimits.lookup source = none ∧
      config.maxSources ≤ limiter.apiRateLimits.keys.length := by
  unfold ApiRateLimiter.bucketOf at h
  split at h
  · assumption
  · cases h

theorem bucketOf_some {source source' : String}
    (h : limiter.bucketOf config source = some source') :
    source' = source ∧ ((limiter.apiRateLimits.lookup source).isSome ∨
      (limiter.apiRateLimits.keys.length : ℤ) < config.maxSources) := by
  unfold ApiRateLimiter.bucketOf at h
  split at h
  · cases h
  · rename_i hroom
    cases h
    rw [not_and_or, not_le, ← ne_eq, Option.ne_none_iff_isSome] at hroom
    exact ⟨rfl, hroom⟩

/-- The step shows where its request was counted. -/
theorem countedIn_observe {cleaned : ApiRateLimiter}
    (hcleaned : limiter.cleaned config request.timestampMs = cleaned) :
    countedIn canonicalIpAddress config ((machine canonicalIpAddress config).observe limiter
      request) = cleaned.bucketOf config (requestSource canonicalIpAddress config request) := by
  obtain ⟨state, n, -, -, -, hafter⟩ := enforce_counts canonicalIpAddress config limiter request
    hcleaned rfl
  unfold countedIn sourceOf Machine.observe machine
  dsimp only
  rw [hafter]
  cases hbucket : cleaned.bucketOf config (requestSource canonicalIpAddress config request) with
  | none =>
    have hnone := (lookup_bucketOf_none hbucket).1
    simp [ApiRateLimiter.store, hnone]
  | some source =>
    obtain ⟨rfl, -⟩ := bucketOf_some hbucket
    simp [ApiRateLimiter.store]

theorem length_keys_insert {α : Type} (table : Table α) (key : String) (value : α) :
    (AList.insert key value table).keys.length =
      if (table.lookup key).isSome then table.keys.length else table.keys.length + 1 := by
  rw [AList.keys_insert, List.length_cons]
  split
  · rename_i hmem
    rw [AList.lookup_isSome, AList.mem_keys] at hmem
    rw [List.length_erase_of_mem hmem]
    exact Nat.sub_add_cancel (List.length_pos_of_mem hmem)
  · rename_i hmem
    rw [AList.lookup_isSome, AList.mem_keys] at hmem
    rw [List.erase_of_not_mem hmem]

/-- The map grows only while there is room. -/
theorem keys_enforce (h : (limiter.apiRateLimits.keys.length : ℤ) ≤ config.maxSources) :
    ((limiter.enforce canonicalIpAddress config request).2.apiRateLimits.keys.length : ℤ) ≤
        config.maxSources ∧
      (countedIn canonicalIpAddress config
          ((machine canonicalIpAddress config).observe limiter request) = none →
        ((limiter.enforce canonicalIpAddress config request).2.apiRateLimits.keys.length : ℤ) =
          config.maxSources) := by
  obtain ⟨state, n, -, -, -, hafter⟩ := enforce_counts canonicalIpAddress config limiter request
    rfl rfl
  have hle : ((limiter.cleaned config request.timestampMs).apiRateLimits.keys.length : ℤ) ≤
      config.maxSources := le_trans (by exact_mod_cast keys_cleaned _) h
  rw [hafter, countedIn_observe rfl]
  cases hbucket : (limiter.cleaned config request.timestampMs).bucketOf config
      (requestSource canonicalIpAddress config request) with
  | none => exact ⟨hle, fun _ => le_antisymm hle (lookup_bucketOf_none hbucket).2⟩
  | some source =>
    obtain ⟨rfl, hroom⟩ := bucketOf_some hbucket
    refine ⟨?_, fun hnone => by cases hnone⟩
    simp only [ApiRateLimiter.store, length_keys_insert]
    split
    · exact hle
    · rename_i hnew
      have hlt := hroom.resolve_left hnew
      push_cast
      omega

/-! ## Buckets and windows -/

variable (config) in
/-- A bucket counts in the window that its requests have made, or was dropped after it. -/
def Follows (nowMs : ℤ) : Option ApiRateState → Option Window → Prop
  | some state, some window =>
    state.windowStartedAtMs = window.startedAtMs ∧
      state.requests = min (window.requests : ℤ) (2 ^ 63 - 1) ∧
      window.startedAtMs ≠ 0 ∧ window.startedAtMs ≤ nowMs
  | some _, none => False
  | none, some window => ¬window.Open config nowMs
  | none, none => True

theorem expired_iff_over {state : ApiRateState} {window : Window} {nowMs : ℤ}
    (h : Follows config nowMs (some state) (some window)) :
    state.Expired config nowMs ↔ ¬window.Open config nowMs := by
  obtain ⟨hstart, -, hne, hle⟩ := h
  unfold ApiRateState.Expired Window.Open
  omega

theorem Follows.later {nowMs nowMs' : ℤ} {held : Option ApiRateState} {window : Option Window}
    (h : Follows config nowMs held window) (hle : nowMs ≤ nowMs') :
    Follows config nowMs' held window := by
  cases held with
  | some state =>
    cases window with
    | some window => exact ⟨h.1, h.2.1, h.2.2.1, le_trans h.2.2.2 hle⟩
    | none => exact h
  | none =>
    cases window with
    | some window =>
      unfold Follows Window.Open at *
      omega
    | none => trivial

/-- A cleanup drops nothing that is open. -/
theorem Follows.cleaned {nowMs : ℤ} {bucket : Option String} {window : Option Window}
    (h : Follows config nowMs (limiter.held bucket) window) :
    Follows config nowMs ((limiter.cleaned config nowMs).held bucket) window := by
  rcases held_cleaned bucket nowMs with hsame | hfilter
  · rwa [hsame]
  · rw [hfilter]
    cases hheld : limiter.held bucket with
    | none => rwa [hheld] at h
    | some state =>
      rw [hheld] at h
      cases window with
      | none => exact h.elim
      | some window =>
        by_cases hexpired : state.Expired config nowMs
        · have hover := (expired_iff_over h).mp hexpired
          simp only [Option.filter, hexpired, decide_true, Bool.not_true, Bool.false_eq_true,
            if_false]
          exact hover
        · simpa [Option.filter, hexpired] using h

/-- What the bucket counts, the window counts. -/
theorem Follows.counted {held : Option ApiRateState} {window : Option Window} {st : Served}
    {state : ApiRateState} (h : Follows config st.event.timestampMs held window)
    (hne : st.event.timestampMs ≠ 0)
    (hrequests : state.requests =
      ((held.getD .init).counted config st.event.timestampMs).requests)
    (hstart : state.windowStartedAtMs =
      ((held.getD .init).counted config st.event.timestampMs).windowStartedAtMs) :
    Follows config st.event.timestampMs (some state) (some (.next config window st)) := by
  have hopened : ∀ fresh : ApiRateState, fresh.Expired config st.event.timestampMs →
      held.getD .init = fresh → window.filter (·.Open config st.event.timestampMs) = none →
      Follows config st.event.timestampMs (some state) (some (.next config window st)) := by
    intro fresh hexpired hfresh hover
    rw [hfresh, counted_of_expired hexpired] at hrequests hstart
    unfold Window.next
    rw [hover]
    refine ⟨hstart, ?_, hne, le_refl _⟩
    rw [hrequests]
    norm_num
  cases held with
  | none =>
    refine hopened .init (Or.inl rfl) rfl ?_
    cases window with
    | none => rfl
    | some window =>
      have hover : ¬window.Open config st.event.timestampMs := h
      simp [Option.filter, hover]
  | some current =>
    cases window with
    | none => exact h.elim
    | some window =>
      by_cases hopen : window.Open config st.event.timestampMs
      · have hexpired := mt (expired_iff_over h).mp (not_not.mpr hopen)
        obtain ⟨hbegan, hcount, hwindow, hle⟩ := h
        rw [Option.getD_some, counted_of_open hexpired (by omega)] at hrequests hstart
        unfold Window.next
        simp only [Option.filter, hopen, decide_true, if_true, Option.getD_some]
        refine ⟨hstart.trans hbegan, ?_, hwindow, hle⟩
        have hmin : ∀ count top : ℤ, min (min count top + 1) top = min (count + 1) top := by
          omega
        rw [hrequests, hcount, Nat.cast_add, Nat.cast_one]
        exact hmin _ _
      · exact hopened current ((expired_iff_over h).mpr hopen) rfl
          (by simp [Option.filter, hopen])

variable (canonicalIpAddress config) in
structure Linked (h : History ApiRateLimiter ApiRequest Verdict) (limiter : ApiRateLimiter) :
    Prop where
  room : (limiter.apiRateLimits.keys.length : ℤ) ≤ config.maxSources
  follows : ∀ nowMs, (∀ st ∈ h, st.event.timestampMs ≤ nowMs) →
    ∀ bucket, Follows config nowMs (limiter.held bucket)
      (windowOf canonicalIpAddress config bucket h)

theorem linked_init : Linked canonicalIpAddress config [] .init where
  room := le_of_lt config.maxSources_pos
  follows _ _ bucket := by
    cases bucket with
    | none => trivial
    | some source => trivial

variable {h : History ApiRateLimiter ApiRequest Verdict}

/-- One step: the verdict is that of the window, and the windows go on with the buckets. -/
theorem linked_step (hl : Linked canonicalIpAddress config h limiter)
    (ho : InOrder ((machine canonicalIpAddress config).observe limiter request) h) :
    Linked canonicalIpAddress config
        ((machine canonicalIpAddress config).observe limiter request :: h)
        ((machine canonicalIpAddress config).step limiter request).2 ∧
      ∀ window ∈ windowOf canonicalIpAddress config
          (countedIn canonicalIpAddress config
            ((machine canonicalIpAddress config).observe limiter request))
          ((machine canonicalIpAddress config).observe limiter request :: h),
        (Admitted ((machine canonicalIpAddress config).observe limiter request) ↔
          min (window.requests : ℤ) (2 ^ 63 - 1) ≤ config.requests) := by
  obtain ⟨state, n, hrequests, hstart, hok, hafter⟩ :=
    enforce_counts canonicalIpAddress config limiter request rfl rfl
  have hcounted : countedIn canonicalIpAddress config
      ((machine canonicalIpAddress config).observe limiter request) =
        (limiter.cleaned config request.timestampMs).bucketOf config
          (requestSource canonicalIpAddress config request) := countedIn_observe rfl
  rw [← hcounted] at hrequests hstart hafter
  set st := (machine canonicalIpAddress config).observe limiter request with hst
  have hne : request.timestampMs ≠ 0 := ho.1
  have hbefore : ∀ bucket, Follows config request.timestampMs
      ((limiter.cleaned config request.timestampMs).held bucket)
      (windowOf canonicalIpAddress config bucket h) :=
    fun bucket => (hl.follows _ ho.2 bucket).cleaned
  have hnow : Follows config request.timestampMs (some state)
      (some (.next config (windowOf canonicalIpAddress config
        (countedIn canonicalIpAddress config st) h) st)) :=
    (hbefore _).counted hne hrequests hstart
  have hopened : state.windowStartedAtMs ≠ 0 := by
    rw [hstart]
    exact counted_startedAtMs_ne hne
  constructor
  · constructor
    · exact (keys_enforce hl.room).1
    · intro nowMs hle bucket
      have hlate : request.timestampMs ≤ nowMs := hle st List.mem_cons_self
      refine Follows.later ?_ hlate
      show Follows config _ ((limiter.enforce canonicalIpAddress config request).2.held bucket) _
      rw [hafter, held_store hopened]
      unfold windowOf
      by_cases hbucket : bucket = countedIn canonicalIpAddress config st
      · rw [if_pos hbucket, if_pos hbucket.symm, hbucket]
        exact hnow
      · rw [if_neg hbucket, if_neg (Ne.symm hbucket)]
        exact hbefore bucket
  · intro window hwindow
    unfold windowOf at hwindow
    rw [if_pos rfl, Option.mem_some_iff] at hwindow
    rw [← hwindow]
    exact hnow.2.1 ▸ hok

/-! ## Every run -/

variable (canonicalIpAddress config) in
/-- Whether a request is admitted is read off the window that it is counted in. -/
def Decided (st : Served) (past : History ApiRateLimiter ApiRequest Verdict) : Prop :=
  ∀ window ∈ windowOf canonicalIpAddress config (countedIn canonicalIpAddress config st)
      (st :: past), (Admitted st ↔ (window.requests : ℤ) ≤ config.requests)

theorem next_of_open {window : Window} {st : Served}
    (hopen : window.Open config st.event.timestampMs) :
    Window.next config (some window) st = { window with
      requests := window.requests + 1
      admitted := if Admitted st then window.admitted + 1 else window.admitted } := by
  unfold Window.next
  simp only [Option.filter, hopen, decide_true, if_true, Option.getD_some]

/-- Only the first requests of a window are admitted. -/
theorem admitted_le_of_decided (hd : Always (Decided canonicalIpAddress config) h) :
    ∀ bucket, ∀ window ∈ windowOf canonicalIpAddress config bucket h,
      window.admitted ≤ window.requests ∧ (window.admitted : ℤ) ≤ config.requests := by
  induction h with
  | nil => exact fun _ _ hwindow => by cases hwindow
  | cons st past ih =>
    intro bucket window hwindow
    have hpast := ih hd.2 bucket
    have hst := hd.1 window
    unfold windowOf at hwindow
    split at hwindow
    · rename_i hbucket
      rw [hbucket] at hst
      unfold windowOf at hst
      rw [if_pos hbucket] at hst
      have hdecided := hst hwindow
      rw [Option.mem_some_iff] at hwindow
      unfold Window.next at hwindow
      have hcurrent : ∀ current : Window, (windowOf canonicalIpAddress config bucket past).filter
          (·.Open config st.event.timestampMs) = some current →
          current.admitted ≤ current.requests ∧ (current.admitted : ℤ) ≤ config.requests :=
        fun current hkept => hpast current (Option.filter_eq_some_iff.mp hkept).1
      have hpos := config.requests_pos
      cases hkept : (windowOf canonicalIpAddress config bucket past).filter
          (·.Open config st.event.timestampMs) with
      | none =>
        rw [hkept, Option.getD_none] at hwindow
        subst hwindow
        dsimp only at hdecided ⊢
        split
        · omega
        · omega
      | some current =>
        have hle := hcurrent current hkept
        rw [hkept, Option.getD_some] at hwindow
        subst hwindow
        dsimp only at hdecided ⊢
        split
        · rename_i hadmitted
          have hfirst := hdecided.mp hadmitted
          push_cast at hfirst ⊢
          omega
        · omega
    · exact hpast window hwindow

/-- An open window holds its source in its own bucket. -/
theorem own_bucket (hl : Linked canonicalIpAddress config h limiter)
    (ho : InOrder ((machine canonicalIpAddress config).observe limiter request) h)
    {window : Window}
    (hwindow : window ∈ windowOf canonicalIpAddress config
      (some (requestSource canonicalIpAddress config request)) h)
    (hopen : window.Open config request.timestampMs) :
    countedIn canonicalIpAddress config ((machine canonicalIpAddress config).observe limiter
      request) = some (requestSource canonicalIpAddress config request) := by
  have hfollows := (hl.follows request.timestampMs ho.2
    (some (requestSource canonicalIpAddress config request))).cleaned
  rw [Option.mem_def.mp hwindow] at hfollows
  rw [countedIn_observe rfl]
  unfold ApiRateLimiter.bucketOf
  refine if_neg fun hnone => ?_
  have hheld : (limiter.cleaned config request.timestampMs).held
      (some (requestSource canonicalIpAddress config request)) = none := hnone.1
  rw [hheld] at hfollows
  exact hfollows hopen

variable (canonicalIpAddress config) in
/-- **The limiter**, over every run in which time neither goes back nor is zero. -/
theorem rate_limit_law (hlimit : config.requests < 2 ^ 63 - 1)
    {h : History ApiRateLimiter ApiRequest Verdict} {limiter : ApiRateLimiter}
    (hr : Run (machine canonicalIpAddress config) h limiter) (ho : Always InOrder h) :
    Always (RateLimitLaw canonicalIpAddress config) h := by
  have hstep : ∀ past limiter request,
      Linked canonicalIpAddress config past limiter ∧
        Always (Decided canonicalIpAddress config) past →
      InOrder ((machine canonicalIpAddress config).observe limiter request) past →
      Linked canonicalIpAddress config
          ((machine canonicalIpAddress config).observe limiter request :: past)
          ((machine canonicalIpAddress config).step limiter request).2 ∧
        Always (Decided canonicalIpAddress config)
          ((machine canonicalIpAddress config).observe limiter request :: past) := by
    rintro past limiter request ⟨hl, hd⟩ hin
    obtain ⟨hlinked, hverdict⟩ := linked_step hl hin
    refine ⟨hlinked, fun window hwindow => ?_, hd⟩
    rw [hverdict window hwindow]
    omega
  refine hr.always_of_link_always (R := fun past limiter =>
    Linked canonicalIpAddress config past limiter ∧
      Always (Decided canonicalIpAddress config) past) ⟨linked_init, trivial⟩ hstep ?_ ho
  rintro past limiter request ⟨hl, hd⟩ hin
  obtain ⟨hlinked, hdecided⟩ := hstep past limiter request ⟨hl, hd⟩ hin
  constructor
  · exact hlinked.room
  · exact fun bucket window hwindow => (admitted_le_of_decided hdecided bucket window hwindow).2
  · exact hdecided.1
  · exact (keys_enforce hl.room).2
  · intro window hwindow hopen
    have hown := own_bucket hl hin hwindow hopen
    refine ⟨hown, ?_⟩
    have hnext := hdecided.1 (.next config (some window)
      ((machine canonicalIpAddress config).observe limiter request))
    rw [hown] at hnext
    unfold windowOf at hnext
    have hpast : windowOf canonicalIpAddress config
        (some (requestSource canonicalIpAddress config request)) past = some window := hwindow
    rw [if_pos hown, hpast] at hnext
    rw [hnext rfl, next_of_open hopen]
    push_cast
    omega

end

/-! ## A bench limiter -/

section

def benchConfig : ApiRateLimitConfig where
  requests := 1
  windowMs := 25
  maxSources := 1
  trustedProxyAddresses := ∅
  requests_pos := by decide
  windowMs_pos := by decide
  maxSources_pos := by decide

/-- Addresses are taken as they are; nothing is forwarded. -/
def benchRequest (peerAddress : String) (timestampMs : ℤ) : ApiRequest :=
  ⟨peerAddress, none, timestampMs, true⟩

/-- One source keeps its bucket, two more share the overflow, and the first comes back later. -/
def benchRequests : List ApiRequest :=
  [benchRequest "a" 1, benchRequest "b" 2, benchRequest "a" 3, benchRequest "c" 4,
    benchRequest "a" 30]

theorem rate_limit_law_bench :
    Always (RateLimitLaw some benchConfig) ((machine some benchConfig).play benchRequests).1 :=
  rate_limit_law some benchConfig (by decide) (.play _ benchRequests) (by decide +kernel)

example : ((machine some benchConfig).play benchRequests).1.map
    (fun st => (countedIn some benchConfig st, decide (Admitted st))) =
    [(some "a", true), (none, false), (some "a", false), (none, true), (some "a", true)] := by
  decide +kernel

/-- The counter of a window stops at this limit. -/
def topConfig : ApiRateLimitConfig := { benchConfig with
  requests := 2 ^ 63 - 1
  requests_pos := by norm_num }

theorem admitted_at_top {h : History ApiRateLimiter ApiRequest Verdict}
    {limiter : ApiRateLimiter} {request : ApiRequest} (hl : Linked some topConfig h limiter)
    (ho : InOrder ((machine some topConfig).observe limiter request) h) :
    Admitted ((machine some topConfig).observe limiter request) := by
  have hverdict := (linked_step hl ho).2
  unfold windowOf at hverdict
  rw [if_pos rfl] at hverdict
  exact (hverdict _ rfl).mpr (min_le_right _ _)

/-- Under the largest limit one source is admitted as often as it asks. -/
theorem window_at_top (n : ℕ) :
    ∃ h limiter, Run (machine some topConfig) h limiter ∧ Always InOrder h ∧
      Linked some topConfig h limiter ∧ (∀ st ∈ h, st.event.timestampMs = 1) ∧
      windowOf some topConfig (some "a") h = some ⟨1, n + 1, n + 1⟩ := by
  have hsource : requestSource some topConfig (benchRequest "a" 1) = "a" := by decide +kernel
  induction n with
  | zero =>
    have hin : InOrder ((machine some topConfig).observe (machine some topConfig).init
        (benchRequest "a" 1)) [] :=
      ⟨one_ne_zero, fun _ hst => by cases hst⟩
    have hcounted : countedIn some topConfig ((machine some topConfig).observe
        (machine some topConfig).init (benchRequest "a" 1)) = some "a" := by
      rw [countedIn_observe rfl, hsource]
      decide +kernel
    refine ⟨_, _, .step _ .init, ⟨hin, trivial⟩, (linked_step linked_init hin).1, ?_, ?_⟩
    · intro st hst
      rw [List.mem_singleton.mp hst]
      rfl
    · have hadmitted : Admitted ((machine some topConfig).observe (machine some topConfig).init
          (benchRequest "a" 1)) := admitted_at_top linked_init hin
      unfold windowOf Window.next
      rw [hcounted, if_pos rfl]
      simp only [if_pos hadmitted]
      rfl
  | succ n ih =>
    obtain ⟨h, limiter, hr, ho, hl, htimes, hwindow⟩ := ih
    have hin : InOrder ((machine some topConfig).observe limiter (benchRequest "a" 1)) h :=
      ⟨one_ne_zero, fun st hst => (htimes st hst).le⟩
    have hopen : (Window.mk 1 (n + 1) (n + 1)).Open topConfig 1 := by
      unfold Window.Open
      norm_num [topConfig, benchConfig]
    have hcounted := own_bucket hl hin (by rw [hsource]; exact hwindow) hopen
    rw [hsource] at hcounted
    refine ⟨_, _, .step _ hr, ⟨hin, ho⟩, (linked_step hl hin).1, ?_, ?_⟩
    · intro st hst
      rcases List.mem_cons.mp hst with rfl | hst
      · rfl
      · exact htimes st hst
    · unfold windowOf
      rw [hcounted, if_pos rfl, hwindow, next_of_open hopen, if_pos (admitted_at_top hl hin)]

/-- At time zero a source that is let through once is let through again; and at the largest limit
the requests of a window outrun the counter. -/
theorem rate_limit_fails :
    (∃ h limiter, Run (machine some benchConfig) h limiter ∧ Always NotBack h ∧
      ¬Always (RateLimitLaw some benchConfig) h) ∧
    ∃ h limiter, Run (machine some topConfig) h limiter ∧ Always InOrder h ∧
      ¬Always (RateLimitLaw some topConfig) h := by
  constructor
  · refine ⟨_, _, .play (machine some benchConfig) [benchRequest "a" 0, benchRequest "a" 0],
      by decide +kernel, fun hlaw => ?_⟩
    have hle := hlaw.1.admitted_le (some "a") ⟨0, 2, 2⟩ (by decide +kernel)
    exact absurd hle (by decide)
  · obtain ⟨h, limiter, hr, ho, -, -, hwindow⟩ := window_at_top (2 ^ 63)
    refine ⟨h, limiter, hr, ho, fun hlaw => ?_⟩
    cases h with
    | nil => cases hwindow
    | cons st past =>
      have hle := hlaw.1.admitted_le (some "a") _ hwindow
      exact absurd hle (by norm_num [topConfig])

end

end MineTeleop.Signaling.RateLimit
