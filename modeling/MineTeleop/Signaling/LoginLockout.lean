import Mathlib.Logic.Function.Basic
import MineTeleop.Signaling.Closed

/-!
# Locked logins

Failed logins are counted in buckets: one for each known driver, one for all unknown ones, one for
each source of approver logins and one for the sources that found no room.  A bucket with too many
failures in its window is locked for a while.

Proved here, for attempts whose times are positive and do not go back, and for every state that
the other requests have brought the service to:

* `attempt_follows`: what one attempt does to the table is what it does to its bucket alone;
* `login_lockout_law`: a locked bucket refuses whatever comes, whether a bucket is locked is a
  matter of its own attempts, and a locked approver source stays in its own bucket;
* `login_lockout_fails`: at time zero no failure is remembered.
-/

namespace MineTeleop.Signaling.LoginLockout

open Documents Programs Tables Runs

/-! ## Attempts -/

inductive Login where
  | driver (body : Json)
  | approver (source : String) (body : Json)

/-- A login meets the service in any state that the other requests have brought it to. -/
structure Attempt where
  circumstances : Circumstances
  service : SignalingService
  login : Login

/-- The members of the service that logins are counted in. -/
structure LoginBook where
  loginFailures : Table LoginFailureState
  approverLoginLastCleanupMs : ℤ
  deriving DecidableEq

def LoginBook.init : LoginBook := ⟨∅, 0⟩

inductive Credentials where
  | right
  | wrong
  | unreadable
  deriving DecidableEq

def Attempt.timestampMs (attempt : Attempt) : ℤ := attempt.circumstances.now 0

def Attempt.start (attempt : Attempt) (book : LoginBook) : Call :=
  .start { attempt.service with
    loginFailures := book.loginFailures
    approverLoginLastCleanupMs := book.approverLoginLastCleanupMs }

section
variable (config : SignalingServerConfig)

def Login.serve (w : Circumstances) : Login → Handler Answer
  | driver body => driverLogin config w body
  | approver source body => mobileLogin config w source body

def Login.credentials : Login → Credentials
  | driver body =>
    match requiredString body "driver_id", optionalString body "password" with
    | .ok driverId, .ok password =>
      if config.driverPasswords.lookup driverId = some password then .right else .wrong
    | _, _ => .unreadable
  | approver _ body =>
    match passwordRefused config body with
    | .ok true => .wrong
    | .ok false => .right
    | .error _ => .unreadable

/-- Entries of approver sources that are over go at the time of a cleanup. -/
def LoginBook.pruned (book : LoginBook) (timestampMs : ℤ) : Table LoginFailureState :=
  if book.approverLoginLastCleanupMs = 0 ∨ timestampMs < book.approverLoginLastCleanupMs ∨
      config.loginFailureWindowMs ≤ timestampMs - book.approverLoginLastCleanupMs then
    book.loginFailures.eraseIf fun bucket state =>
      bucket.startsWith "approver:" &&
        if 0 < state.blockedUntilMs then state.blockedUntilMs ≤ timestampMs
        else config.loginFailureWindowMs ≤ timestampMs - state.windowStartedAtMs
  else book.loginFailures

/-- The source itself, while it has a bucket or there is room for one. -/
def approverBucket (failures : Table LoginFailureState) (source : String) : String :=
  if (failures.lookup ("approver:" ++ source)).isSome then source
  else
    let sources := failures.keys.filter fun bucket =>
      bucket.startsWith "approver:" && bucket ≠ "approver:<overflow>"
    if sources.length < config.apiRateLimitMaxSources then source else "<overflow>"

/-- The bucket of a login, if it gets that far. -/
def Login.bucket (book : LoginBook) (timestampMs : ℤ) : Login → Option String
  | driver body =>
    match requiredString body "driver_id", optionalString body "password" with
    | .ok driverId, .ok _ => some (loginBucket config driverId false)
    | _, _ => none
  | approver source _ =>
    some ("approver:" ++ approverBucket config (book.pruned config timestampMs) source)

def Attempt.bucket (attempt : Attempt) (book : LoginBook) : Option String :=
  attempt.login.bucket config book attempt.timestampMs

def step (book : LoginBook) (attempt : Attempt) : Except Refusal Answer × LoginBook :=
  let result := (attempt.login.serve config attempt.circumstances).exec (attempt.start book)
  (result.1,
    ⟨result.2.service.loginFailures, result.2.service.approverLoginLastCleanupMs⟩)

def machine : Machine LoginBook Attempt (Except Refusal Answer) := ⟨.init, step config⟩

end

abbrev Attempted := Step LoginBook Attempt (Except Refusal Answer)

def LoginBook.LockedAt (book : LoginBook) (bucket : String) (timestampMs : ℤ) : Prop :=
  ∃ state ∈ book.loginFailures.lookup bucket, timestampMs < state.blockedUntilMs

/-! ## One bucket by itself -/

/-- What the attempts in a bucket have come to. -/
inductive BucketStatus where
  | clear
  | counting (startedAtMs failures : ℤ)
  | locked (untilMs : ℤ)
  deriving DecidableEq

section
variable (config : SignalingServerConfig) (timestampMs : ℤ)

namespace BucketStatus

/-- A window that is over and a lock that has run out are forgotten. -/
def now : BucketStatus → BucketStatus
  | counting startedAtMs failures =>
    if config.loginFailureWindowMs ≤ timestampMs - startedAtMs then clear
    else counting startedAtMs failures
  | locked untilMs => if untilMs ≤ timestampMs then clear else locked untilMs
  | clear => clear

/-- With so many failures the bucket is locked, until the end of time at most. -/
def counted (startedAtMs failures : ℤ) : BucketStatus :=
  if config.loginMaxFailures ≤ failures then
    locked (min (2 ^ 63 - 1) (timestampMs + config.loginLockoutMs))
  else counting startedAtMs failures

def failed : BucketStatus → BucketStatus
  | clear => counted config timestampMs timestampMs 1
  | counting startedAtMs failures => counted config timestampMs startedAtMs (failures + 1)
  | locked untilMs => locked untilMs

/-- A locked bucket takes no notice; otherwise a failure counts and a success clears. -/
def attempted (credentials : Credentials) (status : BucketStatus) : BucketStatus :=
  match status.now config timestampMs, credentials with
  | locked untilMs, _ => locked untilMs
  | _, .right => clear
  | current, .wrong => current.failed config timestampMs
  | current, .unreadable => current

def LockedAt (status : BucketStatus) : Prop :=
  match status with
  | locked untilMs => timestampMs < untilMs
  | _ => False

end BucketStatus

/-- The status of a bucket, from its own attempts. -/
def statusOf (bucket : String) :
    History LoginBook Attempt (Except Refusal Answer) → BucketStatus
  | [] => .clear
  | st :: past =>
    if st.event.bucket config st.before = some bucket then
      (statusOf bucket past).attempted config st.event.timestampMs
        (st.event.login.credentials config)
    else statusOf bucket past

end

/-- Time does not go back. -/
def NotBack (st : Attempted) (past : History LoginBook Attempt (Except Refusal Answer)) : Prop :=
  ∀ earlier ∈ past, earlier.event.timestampMs ≤ st.event.timestampMs

instance (st : Attempted) (past : History LoginBook Attempt (Except Refusal Answer)) :
    Decidable (NotBack st past) :=
  inferInstanceAs (Decidable (∀ earlier ∈ past, _))

/-- Zero stands for a window that was never opened, and for a bucket that is not locked. -/
def InOrder (st : Attempted) (past : History LoginBook Attempt (Except Refusal Answer)) : Prop :=
  0 < st.event.timestampMs ∧ NotBack st past

instance (st : Attempted) (past : History LoginBook Attempt (Except Refusal Answer)) :
    Decidable (InOrder st past) :=
  inferInstanceAs (Decidable (_ ∧ _))

structure LockoutLaw (config : SignalingServerConfig) (st : Attempted)
    (past : History LoginBook Attempt (Except Refusal Answer)) : Prop where
  refused : ∀ bucket ∈ st.event.bucket config st.before, ∀ untilMs,
    statusOf config bucket past = .locked untilMs → st.event.timestampMs < untilMs →
      st.output = .error
        (.tooManyRequests "too many login attempts" (untilMs - st.event.timestampMs))
  locked_iff : ∀ bucket timestampMs, st.event.timestampMs ≤ timestampMs →
    (st.after.LockedAt bucket timestampMs ↔
      (statusOf config bucket (st :: past)).LockedAt timestampMs)
  isolated : ∀ bucket, st.event.bucket config st.before ≠ some bucket →
    ∀ timestampMs, st.event.timestampMs ≤ timestampMs →
      (st.after.LockedAt bucket timestampMs ↔ st.before.LockedAt bucket timestampMs)
  stays : ∀ source body, st.event.login = .approver source body →
    (statusOf config ("approver:" ++ source) past).LockedAt st.event.timestampMs →
      st.event.bucket config st.before = some ("approver:" ++ source)

/-! ## The table and the statuses -/

section
variable {config : SignalingServerConfig} {timestampMs : ℤ} {status : BucketStatus}
  {entry : Option LoginFailureState}

variable (config timestampMs) in
/-- The entry of a bucket holds its status, or was dropped when it no longer mattered. -/
def Follows : Option LoginFailureState → BucketStatus → Prop
  | none, status => status.now config timestampMs = .clear
  | some state, .counting startedAtMs failures =>
    state = ⟨failures, startedAtMs, 0⟩ ∧ 0 < startedAtMs ∧ startedAtMs ≤ timestampMs
  | some state, .locked untilMs => state.blockedUntilMs = untilMs ∧ 0 < untilMs
  | some _, .clear => False

theorem now_counting_iff {startedAtMs failures : ℤ} :
    (BucketStatus.counting startedAtMs failures).now config timestampMs = .clear ↔
      config.loginFailureWindowMs ≤ timestampMs - startedAtMs := by
  show (if _ then BucketStatus.clear else .counting startedAtMs failures) = _ ↔ _
  split
  · exact iff_of_true rfl (by assumption)
  · exact iff_of_false nofun (by assumption)

theorem now_locked_iff {untilMs : ℤ} :
    (BucketStatus.locked untilMs).now config timestampMs = .clear ↔ untilMs ≤ timestampMs := by
  show (if _ then BucketStatus.clear else .locked untilMs) = _ ↔ _
  split
  · exact iff_of_true rfl (by assumption)
  · exact iff_of_false nofun (by assumption)

theorem now_later {timestampMs' : ℤ} (hle : timestampMs ≤ timestampMs')
    (h : status.now config timestampMs = .clear) : status.now config timestampMs' = .clear := by
  cases status with
  | clear => rfl
  | counting startedAtMs failures =>
    rw [now_counting_iff] at h ⊢
    omega
  | locked untilMs =>
    rw [now_locked_iff] at h ⊢
    omega

theorem Follows.later {timestampMs' : ℤ} (h : Follows config timestampMs entry status)
    (hle : timestampMs ≤ timestampMs') : Follows config timestampMs' entry status := by
  cases entry with
  | none => exact now_later hle h
  | some state =>
    cases status with
    | clear => exact h
    | counting startedAtMs failures => exact ⟨h.1, h.2.1, le_trans h.2.2 hle⟩
    | locked untilMs => exact h

/-- An entry that the pruning drops had nothing left to say. -/
theorem Follows.dropped {state : LoginFailureState}
    (h : Follows config timestampMs (some state) status)
    (hover : if 0 < state.blockedUntilMs then state.blockedUntilMs ≤ timestampMs
      else config.loginFailureWindowMs ≤ timestampMs - state.windowStartedAtMs) :
    Follows config timestampMs none status := by
  cases status with
  | clear => exact h.elim
  | counting startedAtMs failures =>
    obtain ⟨rfl, -, -⟩ := h
    rw [if_neg (lt_irrefl _)] at hover
    exact now_counting_iff.mpr hover
  | locked untilMs =>
    obtain ⟨rfl, hpos⟩ := h
    rw [if_pos hpos] at hover
    exact now_locked_iff.mpr hover

/-- The table and the status agree on who is locked. -/
theorem Follows.locked_iff (h : Follows config timestampMs entry status) (hpos : 0 < timestampMs) :
    (∃ state ∈ entry, timestampMs < state.blockedUntilMs) ↔ status.LockedAt timestampMs := by
  cases entry with
  | none =>
    cases status with
    | clear => simp [BucketStatus.LockedAt]
    | counting startedAtMs failures => simp [BucketStatus.LockedAt]
    | locked untilMs =>
      have hle : untilMs ≤ timestampMs := now_locked_iff.mp h
      simpa [BucketStatus.LockedAt] using hle
  | some state =>
    cases status with
    | clear => exact h.elim
    | counting startedAtMs failures =>
      obtain ⟨rfl, -, -⟩ := h
      simpa [BucketStatus.LockedAt] using hpos.le
    | locked untilMs =>
      obtain ⟨rfl, -⟩ := h
      simp [BucketStatus.LockedAt]

/-- What the table makes of one more failure is what the status makes of it. -/
theorem Follows.failed (h : Follows config timestampMs entry status) (hpos : 0 < timestampMs)
    (hlockout : 0 < config.loginLockoutMs) (hnow : status.now config timestampMs = status)
    (hopen : ¬status.LockedAt timestampMs) :
    Follows config timestampMs (some (LoginFailureState.failed config entry timestampMs))
      (status.failed config timestampMs) := by
  have huntil : 0 < min (2 ^ 63 - 1) (timestampMs + config.loginLockoutMs) := by
    have htop : (0 : ℤ) < 2 ^ 63 - 1 := by norm_num
    omega
  have hcounted : ∀ startedAtMs failures, 0 < startedAtMs → startedAtMs ≤ timestampMs →
      Follows config timestampMs
        (some (if config.loginMaxFailures ≤ failures then
          { failures := failures, windowStartedAtMs := startedAtMs,
            blockedUntilMs := min (2 ^ 63 - 1) (timestampMs + config.loginLockoutMs) }
          else ⟨failures, startedAtMs, 0⟩))
        (.counted config timestampMs startedAtMs failures) := by
    intro startedAtMs failures hstart hle
    unfold BucketStatus.counted
    split
    · exact ⟨rfl, huntil⟩
    · exact ⟨rfl, hstart, hle⟩
  cases status with
  | clear =>
    cases entry with
    | some state => exact h.elim
    | none => exact hcounted timestampMs 1 hpos (le_refl _)
  | counting startedAtMs failures =>
    cases entry with
    | none =>
      have hclear : BucketStatus.counting startedAtMs failures = .clear := hnow.symm.trans h
      cases hclear
    | some state =>
      obtain ⟨rfl, hstart, hle⟩ := h
      have hwithin : ¬config.loginFailureWindowMs ≤ timestampMs - startedAtMs := by
        intro hover
        cases hnow.symm.trans (now_counting_iff.mpr hover)
      have hne : startedAtMs ≠ 0 := hstart.ne'
      unfold LoginFailureState.failed
      simp only [Option.getD_some, hne, hwithin, or_self, if_false]
      exact hcounted startedAtMs (failures + 1) hstart hle
  | locked untilMs => cases hnow.symm.trans (now_locked_iff.mpr (not_lt.mp hopen))

end

/-! ## What the handlers do to the table -/

/-- The failed logins are as they were. -/
def SameFailures (c c' : Call) : Prop := c'.service.loginFailures = c.service.loginFailures

instance : Std.Refl SameFailures := ⟨fun _ => rfl⟩

instance : IsTrans Call SameFailures := ⟨fun _ _ _ h h' => h'.trans h⟩

def Call.book (c : Call) : LoginBook :=
  ⟨c.service.loginFailures, c.service.approverLoginLastCleanupMs⟩

section
variable (config : SignalingServerConfig) (timestampMs : ℤ)

/-- The statuses after an attempt: only that of its bucket is another. -/
def settled (status : String → BucketStatus) (bucket : Option String)
    (credentials : Credentials) : String → BucketStatus :=
  fun bucket' =>
    if bucket = some bucket' then (status bucket').attempted config timestampMs credentials
    else status bucket'

/-- The table holds the statuses of all buckets. -/
def Books (status : String → BucketStatus) (failures : Table LoginFailureState) : Prop :=
  ∀ bucket, Follows config timestampMs (failures.lookup bucket) (status bucket)

end

section
variable {config : SignalingServerConfig} {w : Circumstances} {timestampMs : ℤ} {c : Call}
  {status : String → BucketStatus} {failures : Table LoginFailureState} {bucket : String}

theorem Books.insert (h : Books config timestampMs status failures) (bucket : String) {state : LoginFailureState}
    {next : BucketStatus} (hnext : Follows config timestampMs (some state) next) :
    Books config timestampMs (Function.update status bucket next)
      (failures.insert bucket state) := by
  intro bucket'
  rw [Table.lookup_insert, Function.update_apply]
  split
  · exact hnext
  · exact h bucket'

theorem Books.erase (h : Books config timestampMs status failures) (bucket : String) {next : BucketStatus}
    (hnext : next.now config timestampMs = .clear) :
    Books config timestampMs (Function.update status bucket next) (failures.erase bucket) := by
  intro bucket'
  rw [Table.lookup_erase, Function.update_apply]
  split
  · exact hnext
  · exact h bucket'

theorem Books.pruned {book : LoginBook} (h : Books config timestampMs status book.loginFailures) :
    Books config timestampMs status (book.pruned config timestampMs) := by
  unfold LoginBook.pruned
  split
  · intro bucket
    have hstate := h bucket
    rw [Table.lookup_eraseIf]
    cases hentry : book.loginFailures.lookup bucket with
    | none =>
      rw [hentry] at hstate
      exact hstate
    | some state =>
      rw [hentry] at hstate
      by_cases hover : (bucket.startsWith "approver:" &&
          (if 0 < state.blockedUntilMs then decide (state.blockedUntilMs ≤ timestampMs)
            else decide (config.loginFailureWindowMs ≤
              timestampMs - state.windowStartedAtMs))) = true
      · rw [Option.filter_some, hover, Bool.not_true, if_neg Bool.false_ne_true]
        refine hstate.dropped ?_
        have hdropped := (Bool.and_eq_true_iff.mp hover).2
        split at hdropped
        · rename_i hblocked
          rw [if_pos hblocked]
          exact of_decide_eq_true hdropped
        · rename_i hblocked
          rw [if_neg hblocked]
          exact of_decide_eq_true hdropped
      · rw [Option.filter_some, Bool.eq_false_iff.mpr hover, Bool.not_false, if_pos rfl]
        exact hstate
  · exact h

theorem approverLoginBucket_books (source : String) :
    Ensures (approverLoginBucket config source timestampMs) c
      (fun bucket c' =>
        bucket = approverBucket config ((Call.book c).pruned config timestampMs) source ∧
          c'.service.loginFailures = (Call.book c).pruned config timestampMs)
      fun _ _ => False := by
  unfold approverLoginBucket approverBucket LoginBook.pruned Call.book
  rw [ensures_bind, ensures_theService, ensures_bind]
  refine .whenever (fun hdue => ?_) fun hskip => ?_
  · rw [ensures_update, ensures_bind, ensures_theService]
    simp only [if_pos hdue]
    exact .ite (fun hown => ⟨by rw [if_pos hown], rfl⟩)
      fun hother => ⟨by rw [if_neg hother], rfl⟩
  · rw [ensures_bind, ensures_theService]
    simp only [if_neg hskip]
    exact .ite (fun hown => ⟨by rw [if_pos hown], rfl⟩)
      fun hother => ⟨by rw [if_neg hother], rfl⟩

/-- A bucket that is let through has forgotten what is over. -/
theorem enforceLoginRateLimit_books {id : String} {approver : Bool}
    (h : Books config timestampMs status c.service.loginFailures) (hpos : 0 < timestampMs)
    (hbucket : bucket = loginBucket config id approver) :
    Ensures (enforceLoginRateLimit config id timestampMs approver) c
      (fun _ c' => ¬(status bucket).LockedAt timestampMs ∧
        Books config timestampMs
          (Function.update status bucket ((status bucket).now config timestampMs))
          c'.service.loginFailures)
      fun e c' => Books config timestampMs status c'.service.loginFailures ∧
        ∃ untilMs, status bucket = .locked untilMs ∧ timestampMs < untilMs ∧
          e = .tooManyRequests "too many login attempts" (untilMs - timestampMs) := by
  subst hbucket
  have hstatus := h (loginBucket config id approver)
  have hlocked := hstatus.locked_iff hpos
  have hkept : ∀ next, next = status (loginBucket config id approver) →
      Books config timestampMs (Function.update status (loginBucket config id approver) next)
        c.service.loginFailures := by
    rintro _ rfl
    rwa [Function.update_eq_self]
  unfold enforceLoginRateLimit
  rw [ensures_bind, ensures_theService]
  cases hentry : c.service.loginFailures.lookup (loginBucket config id approver) with
  | none =>
    rw [hentry] at hstatus hlocked
    show Ensures (pure ()) c _ _
    rw [ensures_pure]
    refine ⟨fun hopen => ?_, fun bucket' => ?_⟩
    · obtain ⟨_, hnone, _⟩ := hlocked.mpr hopen
      cases hnone
    · have hclear : (status (loginBucket config id approver)).now config timestampMs = .clear :=
        hstatus
      rw [hclear, Function.update_apply]
      split
      · rename_i hsame
        rw [hsame, hentry]
        rfl
      · exact h bucket'
  | some state =>
    rw [hentry] at hstatus hlocked
    dsimp only
    rw [ensures_bind]
    refine .refuseIf (fun hfree => ?_) fun hblocked => ?_
    · have hopen : ¬(status (loginBucket config id approver)).LockedAt timestampMs := by
        intro hlock
        obtain ⟨_, hmem, hlt⟩ := hlocked.mpr hlock
        cases hmem
        exact hfree hlt
      refine .whenever (fun hover => ?_) fun hrunning => ?_
      · refine ⟨hopen, h.erase _ ?_⟩
        cases hcase : status (loginBucket config id approver) with
        | clear => rfl
        | counting startedAtMs failures =>
          rw [hcase] at hstatus
          obtain ⟨rfl, -, -⟩ := hstatus
          have hwindow := hover.resolve_left (lt_irrefl _)
          rw [now_counting_iff.mpr hwindow]
          rfl
        | locked untilMs =>
          rw [hcase] at hopen
          rw [now_locked_iff.mpr (not_lt.mp hopen)]
          rfl
      · refine ⟨hopen, hkept _ ?_⟩
        rw [not_or] at hrunning
        cases hcase : status (loginBucket config id approver) with
        | clear => rfl
        | counting startedAtMs failures =>
          rw [hcase] at hstatus
          obtain ⟨rfl, -, -⟩ := hstatus
          exact if_neg hrunning.2
        | locked untilMs =>
          rw [hcase] at hstatus
          exact absurd (hstatus.1 ▸ hstatus.2) hrunning.1
    · refine ⟨h, ?_⟩
      obtain hlock := hlocked.mp ⟨state, rfl, hblocked⟩
      cases hcase : status (loginBucket config id approver) with
      | clear =>
        rw [hcase] at hlock
        exact hlock.elim
      | counting startedAtMs failures =>
        rw [hcase] at hlock
        exact hlock.elim
      | locked untilMs =>
        rw [hcase] at hstatus hlock
        exact ⟨untilMs, rfl, hlock, by rw [hstatus.1]⟩

/-- The failure stays counted when its record cannot be written. -/
theorem recordLoginFailure_books {id : String} {approver : Bool}
    (h : Books config timestampMs status c.service.loginFailures) (hpos : 0 < timestampMs)
    (hlockout : 0 < config.loginLockoutMs) (hbucket : bucket = loginBucket config id approver)
    (hnow : (status bucket).now config timestampMs = status bucket)
    (hopen : ¬(status bucket).LockedAt timestampMs) :
    Ensures (recordLoginFailure config w id timestampMs approver) c
      (fun _ c' => Books config timestampMs
        (Function.update status bucket ((status bucket).failed config timestampMs))
          c'.service.loginFailures)
      fun _ c' => Books config timestampMs
        (Function.update status bucket ((status bucket).failed config timestampMs))
          c'.service.loginFailures := by
  have hbooks := h.insert bucket ((h bucket).failed hpos hlockout hnow hopen)
  subst hbucket
  unfold recordLoginFailure
  rw [ensures_bind, ensures_theService]
  dsimp only
  rw [ensures_bind, ensures_update, ensures_bind, ensures_audit]
  cases w.sink c.asked.length with
  | false => exact hbooks
  | true =>
    rw [if_pos rfl]
    refine .whenever (fun _ => ?_) fun _ => hbooks
    rw [ensures_bind, ensures_audit]
    generalize w.sink _ = written
    cases written with
    | false => exact hbooks
    | true => exact hbooks

theorem attempted_locked {current : BucketStatus} {untilMs : ℤ} (credentials : Credentials)
    (h : current = .locked untilMs) (hlt : timestampMs < untilMs) :
    current.attempted config timestampMs credentials = .locked untilMs := by
  have hnow : current.now config timestampMs = .locked untilMs := by
    rw [h]
    exact if_neg (not_le.mpr hlt)
  unfold BucketStatus.attempted
  rw [hnow]

variable (config) in
/-- What is still there at its time is open, or locked beyond it. -/
theorem attempted_open {current : BucketStatus} (credentials : Credentials)
    (h : ¬current.LockedAt timestampMs) :
    ¬(current.now config timestampMs).LockedAt timestampMs ∧
      (current.now config timestampMs).now config timestampMs =
        current.now config timestampMs ∧
      current.attempted config timestampMs credentials =
        match credentials with
        | .right => .clear
        | .wrong => (current.now config timestampMs).failed config timestampMs
        | .unreadable => current.now config timestampMs := by
  cases current with
  | clear => exact ⟨id, rfl, by cases credentials <;> rfl⟩
  | counting startedAtMs failures =>
    by_cases hover : config.loginFailureWindowMs ≤ timestampMs - startedAtMs
    · have hnow : (BucketStatus.counting startedAtMs failures).now config timestampMs = .clear :=
        now_counting_iff.mpr hover
      unfold BucketStatus.attempted
      rw [hnow]
      exact ⟨id, rfl, by cases credentials <;> rfl⟩
    · have hnow : (BucketStatus.counting startedAtMs failures).now config timestampMs =
          .counting startedAtMs failures := if_neg hover
      unfold BucketStatus.attempted
      rw [hnow]
      exact ⟨id, hnow, by cases credentials <;> rfl⟩
  | locked untilMs =>
    have hnow : (BucketStatus.locked untilMs).now config timestampMs = .clear :=
      now_locked_iff.mpr (not_lt.mp h)
    unfold BucketStatus.attempted
    rw [hnow]
    exact ⟨id, rfl, by cases credentials <;> rfl⟩

theorem settled_none (credentials : Credentials) :
    settled config timestampMs status none credentials = status :=
  funext fun _ => if_neg nofun

theorem settled_some (credentials : Credentials) {next : BucketStatus}
    (hnext : (status bucket).attempted config timestampMs credentials = next) :
    settled config timestampMs status (some bucket) credentials =
      Function.update status bucket next := by
  funext bucket'
  unfold settled
  rw [Function.update_apply]
  by_cases hsame : bucket' = bucket
  · rw [if_pos hsame, if_pos (congrArg some hsame.symm), hsame, hnext]
  · rw [if_neg hsame, if_neg fun heq => hsame (Option.some.inj heq).symm]

/-! ### What comes after a login was let through -/

theorem sameFailures_update {f : SignalingService → SignalingService}
    (h : ∀ service, (f service).loginFailures = service.loginFailures) :
    Within SameFailures (update f) :=
  fun c => h c.service

theorem sameFailures_theService : Within SameFailures theService := fun _ => rfl

theorem sameFailures_look {α : Type} (reading : ℕ → α) : Within SameFailures (look reading) :=
  fun _ => rfl

theorem sameFailures_randomToken : Within SameFailures (randomToken w) :=
  (sameFailures_look w.random).bind fun token => by
    cases token with
    | none => exact .throw _
    | some token => exact .pure _

theorem sameFailures_audit (record : AuditRecord) : Within SameFailures (audit w record) :=
  fun _ => .refuseIf (fun _ => rfl) fun _ => rfl

variable (config timestampMs status) in
/-- How a login ends: its bucket has taken notice, and a locked one is answered by its lock. -/
def Settles (bucket : Option String) (credentials : Credentials)
    (answer : Except Refusal Answer) (failures : Table LoginFailureState) : Prop :=
  Books config timestampMs (settled config timestampMs status bucket credentials) failures ∧
    ∀ bucket' ∈ bucket, ∀ untilMs, status bucket' = .locked untilMs → timestampMs < untilMs →
      answer = .error (.tooManyRequests "too many login attempts" (untilMs - timestampMs))

/-- Once through, the answer does not matter. -/
theorem settles_of_open {credentials : Credentials} {next : BucketStatus}
    (hopen : ¬(status bucket).LockedAt timestampMs)
    (hnext : (status bucket).attempted config timestampMs credentials = next)
    (h : Books config timestampMs (Function.update status bucket next) failures)
    (answer : Except Refusal Answer) :
    Settles config timestampMs status (some bucket) credentials answer failures := by
  refine ⟨?_, ?_⟩
  · rw [settled_some credentials hnext]
    exact h
  · rintro bucket' hbucket untilMs hlocked hlt
    cases hbucket
    rw [hlocked] at hopen
    exact absurd hlt hopen

/-- The check before both logins. -/
theorem enforced_settles {id : String} {approver : Bool} {credentials : Credentials}
    {rest : Handler Answer}
    (h : Books config timestampMs status c.service.loginFailures) (hpos : 0 < timestampMs)
    (hbucket : bucket = loginBucket config id approver)
    (hrest : ∀ c', ¬(status bucket).LockedAt timestampMs →
      Books config timestampMs
        (Function.update status bucket ((status bucket).now config timestampMs))
          c'.service.loginFailures →
      Ensures rest c'
        (fun answer c' => Settles config timestampMs status (some bucket) credentials (.ok answer)
          c'.service.loginFailures)
        fun e c' => Settles config timestampMs status (some bucket) credentials (.error e)
          c'.service.loginFailures) :
    Ensures (enforceLoginRateLimit config id timestampMs approver >>= fun _ => rest) c
      (fun answer c' => Settles config timestampMs status (some bucket) credentials (.ok answer)
        c'.service.loginFailures)
      fun e c' => Settles config timestampMs status (some bucket) credentials (.error e)
        c'.service.loginFailures := by
  rw [ensures_bind]
  refine (enforceLoginRateLimit_books h hpos hbucket).mono
    (fun _ c' hfree => hrest c' hfree.1 hfree.2) ?_
  rintro e c' ⟨hbooks, untilMs, hlocked, hlt, rfl⟩
  constructor
  · rw [settled_some credentials (attempted_locked credentials hlocked hlt), ← hlocked,
      Function.update_eq_self]
    exact hbooks
  · rintro bucket' hmem untilMs' hlocked' -
    cases hmem
    cases hlocked.symm.trans hlocked'
    rfl

/-- A failure is counted whatever becomes of its record. -/
theorem failed_settles {id : String} {approver : Bool} {refusal : Refusal}
    {Q : Unit → Call → Prop} (hpos : 0 < timestampMs) (hlockout : 0 < config.loginLockoutMs)
    (hbucket : bucket = loginBucket config id approver)
    (hopen : ¬(status bucket).LockedAt timestampMs)
    (h : Books config timestampMs
      (Function.update status bucket ((status bucket).now config timestampMs))
        c.service.loginFailures) :
    Ensures (recordLoginFailure config w id timestampMs approver >>= fun _ => throw refusal) c Q
      fun e c' => Settles config timestampMs status (some bucket) .wrong (.error e)
        c'.service.loginFailures := by
  obtain ⟨hstill, hidem, hattempted⟩ := attempted_open config .wrong hopen
  have hself := Function.update_self bucket ((status bucket).now config timestampMs) status
  have hrecord := recordLoginFailure_books (w := w) h hpos hlockout hbucket
    (by rw [hself, hidem]) (by rw [hself]; exact hstill)
  rw [hself, Function.update_idem] at hrecord
  rw [ensures_bind]
  exact hrecord.mono (fun _ c' hbooks => settles_of_open hopen hattempted hbooks _)
    fun _ c' hbooks => settles_of_open hopen hattempted hbooks _

/-- A success clears the bucket, and what follows it does not touch the table. -/
theorem cleared_settles {rest : Handler Answer} (hrest : Within SameFailures rest)
    (hopen : ¬(status bucket).LockedAt timestampMs)
    (h : Books config timestampMs
      (Function.update status bucket ((status bucket).now config timestampMs))
        c.service.loginFailures) :
    Ensures (update (fun s => { s with loginFailures := s.loginFailures.erase bucket }) >>=
        fun _ => rest) c
      (fun answer c' => Settles config timestampMs status (some bucket) .right (.ok answer)
        c'.service.loginFailures)
      fun e c' => Settles config timestampMs status (some bucket) .right (.error e)
        c'.service.loginFailures := by
  obtain ⟨-, -, hattempted⟩ := attempted_open config .right hopen
  have hbooks := h.erase bucket
    (show BucketStatus.clear.now config timestampMs = .clear from rfl)
  rw [Function.update_idem] at hbooks
  rw [ensures_bind, ensures_update]
  refine (hrest _).mono (fun answer c' hsame => ?_) fun e c' hsame => ?_
  · rw [hsame]
    exact settles_of_open hopen hattempted hbooks _
  · rw [hsame]
    exact settles_of_open hopen hattempted hbooks _

theorem settles_none {credentials : Credentials} {answer : Except Refusal Answer}
    (h : Books config timestampMs status failures) :
    Settles config timestampMs status none credentials answer failures := by
  refine ⟨?_, fun _ hmem => by cases hmem⟩
  rw [settled_none]
  exact h

/-! ### Both logins -/

theorem driverLogin_settles (book : LoginBook) (body : Json)
    (h : Books config timestampMs status c.service.loginFailures) (hpos : 0 < timestampMs)
    (hlockout : 0 < config.loginLockoutMs) (hnow : w.now c.looks = timestampMs) :
    Ensures (driverLogin config w body) c
      (fun answer c' => Settles config timestampMs status
        ((Login.driver body).bucket config book timestampMs)
        ((Login.driver body).credentials config) (.ok answer) c'.service.loginFailures)
      fun e c' => Settles config timestampMs status
        ((Login.driver body).bucket config book timestampMs)
        ((Login.driver body).credentials config) (.error e) c'.service.loginFailures := by
  unfold driverLogin
  rw [ensures_bind]
  refine .liftResult (fun driverId hid => ?_) fun _ hid => ?_
  · rw [ensures_bind]
    refine .liftResult (fun password hpassword => ?_) fun _ hpassword => ?_
    · have hbucket : (Login.driver body).bucket config book timestampMs =
          some (loginBucket config driverId false) := by
        simp only [Login.bucket, hid, hpassword]
      have hcredentials : (Login.driver body).credentials config =
          if config.driverPasswords.lookup driverId = some password then .right else .wrong := by
        simp only [Login.credentials, hid, hpassword]
      unfold nowMs
      rw [hbucket, hcredentials, ensures_bind, ensures_look, hnow]
      refine enforced_settles h hpos rfl fun c' hopen hbooks => ?_
      rw [ensures_bind]
      refine .whenever (fun hwrong => ?_) fun hright => ?_
      · rw [if_neg hwrong]
        exact failed_settles hpos hlockout rfl hopen hbooks
      · have hmatches := not_not.mp hright
        have hknown : loginBucket config driverId false = "driver:" ++ driverId := by
          unfold loginBucket
          rw [if_neg Bool.false_ne_true, hmatches]
          rfl
        rw [if_pos hmatches]
        rw [hknown] at hopen hbooks ⊢
        refine cleared_settles ?_ hopen hbooks
        exact sameFailures_theService.bind fun _ =>
          (Within.whenever ((sameFailures_audit _).bind fun _ => .throw _)).bind fun _ =>
          sameFailures_theService.bind fun _ =>
          (Within.whenever ((sameFailures_audit _).bind fun _ => .throw _)).bind fun _ =>
          sameFailures_theService.bind fun _ => .bind (sameFailures_update fun _ => rfl) fun _ =>
          sameFailures_randomToken.bind fun _ => .bind (sameFailures_update fun _ => rfl) fun _ =>
          (sameFailures_audit _).bind fun _ => .pure _
    · have hbucket : (Login.driver body).bucket config book timestampMs = none := by
        simp only [Login.bucket, hid, hpassword]
      rw [hbucket]
      exact settles_none h
  · have hbucket : (Login.driver body).bucket config book timestampMs = none := by
      simp only [Login.bucket, hid]
    rw [hbucket]
    exact settles_none h

theorem mobileLogin_settles (source : String) (body : Json)
    (h : Books config timestampMs status c.service.loginFailures) (hpos : 0 < timestampMs)
    (hlockout : 0 < config.loginLockoutMs) (hnow : w.now c.looks = timestampMs) :
    Ensures (mobileLogin config w source body) c
      (fun answer c' => Settles config timestampMs status
        ((Login.approver source body).bucket config (Call.book c) timestampMs)
        ((Login.approver source body).credentials config) (.ok answer) c'.service.loginFailures)
      fun e c' => Settles config timestampMs status
        ((Login.approver source body).bucket config (Call.book c) timestampMs)
        ((Login.approver source body).credentials config) (.error e)
        c'.service.loginFailures := by
  unfold mobileLogin nowMs
  rw [ensures_bind, ensures_look, hnow, ensures_bind]
  refine (approverLoginBucket_books source).mono ?_ fun _ _ hnever => hnever.elim
  rintro _ c' ⟨rfl, hpruned⟩
  have hbooks : Books config timestampMs status c'.service.loginFailures := by
    rw [hpruned]
    exact Books.pruned h
  refine enforced_settles hbooks hpos rfl fun c' hopen hbooks => ?_
  rw [ensures_bind]
  refine .liftResult (fun refused hrefused => ?_) fun _ hunreadable => ?_
  · rw [ensures_bind]
    cases refused with
    | true =>
      have hcredentials : (Login.approver source body).credentials config = .wrong := by
        simp only [Login.credentials, hrefused]
      rw [hcredentials]
      refine .whenever (fun _ => ?_) fun hnot => absurd rfl hnot
      exact failed_settles hpos hlockout rfl hopen hbooks
    | false =>
      have hcredentials : (Login.approver source body).credentials config = .right := by
        simp only [Login.credentials, hrefused]
      rw [hcredentials]
      refine .whenever (fun hfalse => by cases hfalse) fun _ => ?_
      refine cleared_settles ?_ hopen hbooks
      exact sameFailures_randomToken.bind fun _ => sameFailures_randomToken.bind fun _ =>
        (sameFailures_look _).bind fun _ => .bind (sameFailures_update fun _ => rfl) fun _ =>
        (sameFailures_audit _).bind fun _ => .pure _
  · have hcredentials : (Login.approver source body).credentials config = .unreadable := by
      simp only [Login.credentials, hunreadable]
    obtain ⟨-, -, hattempted⟩ := attempted_open config .unreadable hopen
    rw [hcredentials]
    exact settles_of_open hopen hattempted hbooks _

end

/-! ## Every run -/

section
variable {config : SignalingServerConfig} {book : LoginBook} {attempt : Attempt}
  {h : History LoginBook Attempt (Except Refusal Answer)}

variable (config) in
/-- One attempt is settled in its bucket. -/
theorem attempt_settles {status : String → BucketStatus}
    (hb : Books config attempt.timestampMs status book.loginFailures)
    (hpos : 0 < attempt.timestampMs) (hlockout : 0 < config.loginLockoutMs) :
    Settles config attempt.timestampMs status (attempt.bucket config book)
      (attempt.login.credentials config) ((machine config).step book attempt).1
      ((machine config).step book attempt).2.loginFailures := by
  have hresult (bucket : Option String) (credentials : Credentials) (p : Handler Answer)
      (hp : Ensures p (attempt.start book)
        (fun answer c' => Settles config attempt.timestampMs status bucket credentials
          (.ok answer) c'.service.loginFailures)
        fun e c' => Settles config attempt.timestampMs status bucket credentials
          (.error e) c'.service.loginFailures) :
      Settles config attempt.timestampMs status bucket credentials
        (p.exec (attempt.start book)).1 (p.exec (attempt.start book)).2.service.loginFailures :=
    (ensures_result (P := fun (answer : Except Refusal Answer) (c' : Call) =>
      Settles config attempt.timestampMs status bucket credentials answer
        c'.service.loginFailures)).mp hp
  have hstart : Call.book (attempt.start book) = book := rfl
  unfold Attempt.bucket
  cases hlogin : attempt.login with
  | driver body =>
    have hexec := hresult _ _ _ (driverLogin_settles book body (w := attempt.circumstances) hb
      hpos hlockout rfl)
    simpa only [machine, step, hlogin, Login.serve] using hexec
  | approver source body =>
    have hexec := hresult _ _ _ (mobileLogin_settles source body (w := attempt.circumstances) hb
      hpos hlockout rfl)
    rw [hstart] at hexec
    simpa only [machine, step, hlogin, Login.serve] using hexec

variable (config) in
def Linked (h : History LoginBook Attempt (Except Refusal Answer)) (book : LoginBook) : Prop :=
  ∀ timestampMs, (∀ st ∈ h, st.event.timestampMs ≤ timestampMs) →
    Books config timestampMs (fun bucket => statusOf config bucket h) book.loginFailures

theorem linked_init : Linked config [] .init := fun _ _ _ => rfl

theorem linked_step (hlockout : 0 < config.loginLockoutMs) (hl : Linked config h book)
    (ho : InOrder ((machine config).observe book attempt) h) :
    Linked config ((machine config).observe book attempt :: h)
      ((machine config).step book attempt).2 := by
  intro timestampMs hle bucket
  have hsettles := attempt_settles config (hl _ ho.2) ho.1 hlockout
  exact (hsettles.1 bucket).later (hle _ List.mem_cons_self)

/-- A locked source is found in its own bucket. -/
theorem bucket_of_locked (hl : Linked config h book)
    (ho : InOrder ((machine config).observe book attempt) h) {source : String} {body : Json}
    (hlogin : attempt.login = .approver source body)
    (hlocked : (statusOf config ("approver:" ++ source) h).LockedAt attempt.timestampMs) :
    attempt.bucket config book = some ("approver:" ++ source) := by
  have hpruned := Books.pruned (hl _ ho.2) ("approver:" ++ source)
  obtain ⟨state, hstate, -⟩ := (hpruned.locked_iff ho.1).mpr hlocked
  unfold Attempt.bucket
  rw [hlogin]
  exact congrArg (fun name => some ("approver:" ++ name))
    (if_pos (Option.isSome_iff_exists.mpr ⟨state, hstate⟩))

variable (config) in
/-- **Lockout**, over every run of logins at positive times that do not go back. -/
theorem login_lockout_law (hlockout : 0 < config.loginLockoutMs)
    (hr : Run (machine config) h book) (ho : Always InOrder h) :
    Always (LockoutLaw config) h := by
  refine hr.always_of_link_always (R := Linked config) linked_init
    (fun _ _ _ hl hin => linked_step hlockout hl hin) ?_ ho
  intro past book attempt hl hin
  have hsettles := attempt_settles config (hl _ hin.2) hin.1 hlockout
  have hlocked : ∀ bucket timestampMs, attempt.timestampMs ≤ timestampMs →
      (((machine config).step book attempt).2.LockedAt bucket timestampMs ↔
        (statusOf config bucket ((machine config).observe book attempt :: past)).LockedAt
          timestampMs) := fun bucket timestampMs hle =>
    ((hsettles.1 bucket).later hle).locked_iff (lt_of_lt_of_le hin.1 hle)
  constructor
  · exact hsettles.2
  · exact hlocked
  · intro bucket hother timestampMs hle
    have hsame : statusOf config bucket ((machine config).observe book attempt :: past) =
        statusOf config bucket past := if_neg hother
    have hbefore : book.LockedAt bucket timestampMs ↔
        (statusOf config bucket past).LockedAt timestampMs :=
      (hl timestampMs (fun st hst => le_trans (hin.2 st hst) hle) bucket).locked_iff
        (lt_of_lt_of_le hin.1 hle)
    exact (hlocked bucket timestampMs hle).trans (hsame ▸ hbefore.symm)
  · exact fun source body hlogin hlock => bucket_of_locked hl hin hlogin hlock

end

/-! ## A bench server -/

def benchAttempt (login : Login) (timestampMs : ℤ) : Attempt :=
  ⟨smoothly timestampMs "token", .init, login⟩

def driverWith (driverId password : String) : Login :=
  .driver (texts [("driver_id", driverId), ("password", password)])

/-- Five failures, the right password, another driver, a phone, and the right password again. -/
def benchAttempts (timestampMs : ℤ) : List Attempt :=
  List.replicate 5 (benchAttempt (driverWith "driver" "guess") timestampMs) ++ [
    benchAttempt (driverWith "driver" "password") (timestampMs + 299999),
    benchAttempt (driverWith "nobody" "password") (timestampMs + 299999),
    benchAttempt (.approver "198.51.100.1" (texts [("password", "guess")]))
      (timestampMs + 299999),
    benchAttempt (driverWith "driver" "password") (timestampMs + 300000)]

theorem login_lockout_law_bench :
    Always (LockoutLaw exampleConfig) ((machine exampleConfig).play (benchAttempts 1)).1 :=
  login_lockout_law exampleConfig (by decide) (.play _ (benchAttempts 1)) (by decide +kernel)

example : ((machine exampleConfig).play (benchAttempts 1)).1.map (·.output.isOk) =
    [true, false, false, false, false, false, false, false, false] := by
  decide +kernel

/-- Whatever number of failures at time zero, the next password is looked at. -/
theorem login_lockout_fails :
    ∃ h book, Run (machine exampleConfig) h book ∧ Always NotBack h ∧
      ¬Always (LockoutLaw exampleConfig) h := by
  refine ⟨_, _, .play (machine exampleConfig) ((benchAttempts 0).take 6), by decide +kernel,
    fun hlaw => ?_⟩
  have hrefused := hlaw.1.refused "driver:driver" (by decide +kernel) 300000 (by decide +kernel)
    (by decide +kernel)
  exact absurd hrefused (by decide +kernel)

end MineTeleop.Signaling.LoginLockout
