import MineTeleop.Library.Runs
import MineTeleop.Service.Command

/-!
# The control intent store of the driver

The latest input of the browser, with a lease: the native sender samples it at its own pace.  What
is proved here of every run, at whatever times the store is updated and sampled:

* `interlock_runs`: a sample moves the vehicle only behind a neutral intent that nothing has
  disarmed since, as long as no intent overtakes the end of a lease.

`interlock_overtaken` is a run in which one does.
-/

namespace MineTeleop.Driver

open Bridge (Double)
open Runs
open Service (Gear Failure check requireFiniteRange)

/-! ## Intents -/

structure NativeControlIntent where
  uiInstanceId : String
  intentSeq : ℕ
  gear : String := "N"
  steering : Double := some 0
  throttle : Double := some 0
  brake : Double := some 0
  estop : Bool := false

/-- An intent that has passed its checks. -/
structure CheckedIntent where
  uiInstanceId : String
  intentSeq : ℕ
  gear : Gear
  steering : ℚ
  throttle : ℚ
  brake : ℚ
  estop : Bool
  deriving DecidableEq

def uiCharacter (c : Char) : Bool := c.isAlphanum || c = '-' || c = '_'

def NativeControlIntent.validate (i : NativeControlIntent) : Except String CheckedIntent := do
  check (i.uiInstanceId ≠ "" ∧ i.uiInstanceId.utf8ByteSize ≤ 128 ∧
    i.uiInstanceId.toList.all uiCharacter = true) "ui_instance_id is invalid"
  check (i.intentSeq ≠ 0) "intent_seq must be positive"
  match Gear.ofString? i.gear with
  | none => .error "intent gear must be one of P/R/N/D"
  | some gear =>
    let steering ← requireFiniteRange i.steering (-1) 1 "intent steering"
    let throttle ← requireFiniteRange i.throttle 0 1 "intent throttle"
    let brake ← requireFiniteRange i.brake 0 1 "intent brake"
    .ok ⟨i.uiInstanceId, i.intentSeq, gear, steering, throttle, brake, i.estop⟩

namespace CheckedIntent

def tolerance : ℚ := 1 / 1000000000

def IsNeutral (i : CheckedIntent) : Prop :=
  i.estop = false ∧ |i.steering| ≤ tolerance ∧ i.throttle ≤ tolerance ∧ i.brake ≤ tolerance

/-- Exactly zero, whatever the gear. -/
def Still (i : CheckedIntent) : Prop := i.steering = 0 ∧ i.throttle = 0 ∧ i.brake = 0

instance (i : CheckedIntent) : Decidable i.IsNeutral := inferInstanceAs (Decidable (_ ∧ _))
instance (i : CheckedIntent) : Decidable i.Still := inferInstanceAs (Decidable (_ ∧ _))

/-- Without steering, throttle and brake. -/
def stilled (i : CheckedIntent) : CheckedIntent :=
  { i with
    steering := 0
    throttle := 0
    brake := 0 }

theorem stilled_still (i : CheckedIntent) : i.stilled.Still := ⟨rfl, rfl, rfl⟩

end CheckedIntent

/-! ## The store -/

structure NativeControlIntentUpdate where
  accepted : Bool
  duplicate : Bool
  requiresFreshInput : Bool
  reason : String
  deriving DecidableEq

structure NativeControlIntentSample where
  fresh : Bool
  requiresFreshInput : Bool
  intent : CheckedIntent
  deriving DecidableEq

/-- The constructor refuses any other lease. -/
structure NativeControlIntentStore where
  leaseMs : ℤ
  lease : 100 ≤ leaseMs ∧ leaseMs ≤ 1000
  latest : Option CheckedIntent := none
  receivedAtMonotonicMs : ℤ := 0
  requiresFreshInput : Bool := true
  estopLatched : Bool := false

namespace NativeControlIntentStore

/-- An ESTOP sticks, and what it carries is of no importance. -/
def normalized (s : NativeControlIntentStore) (i : CheckedIntent) : CheckedIntent :=
  if s.estopLatched = true ∨ i.estop = true then { i.stilled with estop := true } else i

/-- The intent comes from the user interface whose intent is held. -/
def SameUi (s : NativeControlIntentStore) (i : CheckedIntent) : Prop :=
  ∃ held ∈ s.latest, held.uiInstanceId = i.uiInstanceId

instance (s : NativeControlIntentStore) (i : CheckedIntent) : Decidable (s.SameUi i) :=
  inferInstanceAs (Decidable (∃ _ ∈ _, _))

/-- `requires_fresh_input_` behind the look at the user interface. -/
def requiresFresh (s : NativeControlIntentStore) (i : CheckedIntent) : Bool :=
  if s.latest ≠ none ∧ ¬s.SameUi i then true else s.requiresFreshInput

/-- Why an intent of the held sequence is refused, if it is. -/
def sequenceRefusal (s : NativeControlIntentStore) (i : CheckedIntent) : Option String :=
  match s.latest with
  | none => none
  | some held =>
    if held.uiInstanceId ≠ i.uiInstanceId then none
    else if i.intentSeq < held.intentSeq then some "old_intent_seq"
    else if i.intentSeq = held.intentSeq ∧ i ≠ held then some "intent_seq_conflict"
    else none

/-- The held intent once more. -/
def Duplicate (s : NativeControlIntentStore) (i : CheckedIntent) : Prop :=
  ∃ held ∈ s.latest, held.uiInstanceId = i.uiInstanceId ∧ held.intentSeq = i.intentSeq

instance (s : NativeControlIntentStore) (i : CheckedIntent) : Decidable (s.Duplicate i) :=
  inferInstanceAs (Decidable (∃ _ ∈ _, _))

def updateChecked (s : NativeControlIntentStore) (incoming : CheckedIntent)
    (receivedAtMonotonicMs : ℤ) : NativeControlIntentUpdate × NativeControlIntentStore :=
  let intent := s.normalized incoming
  let requires := s.requiresFresh incoming
  match s.sequenceRefusal intent with
  | some reason => (⟨false, false, requires, reason⟩, { s with requiresFreshInput := requires })
  | none =>
    if requires = true ∧ ¬incoming.IsNeutral ∧ incoming.estop = false then
      (⟨false, s.Duplicate intent, true, "fresh_neutral_required"⟩,
        { s with requiresFreshInput := requires })
    else
      let requires := if incoming.IsNeutral then false else requires
      (⟨true, s.Duplicate intent, requires,
          if s.Duplicate intent then "refreshed" else "accepted"⟩,
        { s with
          latest := some intent
          receivedAtMonotonicMs := receivedAtMonotonicMs
          requiresFreshInput := requires
          estopLatched := s.estopLatched || intent.estop })

def update (s : NativeControlIntentStore) (intent : NativeControlIntent)
    (receivedAtMonotonicMs : ℤ) :
    Except Failure NativeControlIntentUpdate × NativeControlIntentStore :=
  match intent.validate with
  | .error message => (.error (.invalidArgument message), s)
  | .ok incoming =>
    if receivedAtMonotonicMs < 0 then
      (.error (.invalidArgument "intent receive time must be non-negative"), s)
    else
      let updated := s.updateChecked incoming receivedAtMonotonicMs
      (.ok updated.1, updated.2)

/-- `none` when nothing is held. -/
def sample (s : NativeControlIntentStore) (nowMonotonicMs : ℤ) :
    Except Failure (Option NativeControlIntentSample) × NativeControlIntentStore :=
  if nowMonotonicMs < 0 then
    (.error (.invalidArgument "intent sample time must be non-negative"), s)
  else
    match s.latest with
    | none => (.ok none, s)
    | some held =>
      let ageMs := max 0 (nowMonotonicMs - s.receivedAtMonotonicMs)
      let requires :=
        if s.leaseMs ≤ ageMs ∧ ¬held.IsNeutral ∧ held.estop = false then true
        else s.requiresFreshInput
      let effective := if requires = true ∧ held.estop = false then held.stilled else held
      (.ok (some ⟨decide (ageMs < s.leaseMs), requires,
          { effective with estop := s.estopLatched }⟩),
        { s with requiresFreshInput := requires })

def invalidate (s : NativeControlIntentStore) : NativeControlIntentStore :=
  { s with requiresFreshInput := true }

def reset (s : NativeControlIntentStore) : NativeControlIntentStore :=
  { leaseMs := s.leaseMs, lease := s.lease }

end NativeControlIntentStore

/-! ## The store as a machine -/

inductive Event where
  | update (intent : NativeControlIntent) (receivedAtMonotonicMs : ℤ)
  | sample (nowMonotonicMs : ℤ)
  | invalidate
  | reset

inductive Reply where
  | updated (result : NativeControlIntentUpdate)
  | sampled (result : Option NativeControlIntentSample)
  | threw (failure : Failure)
  | done
  deriving DecidableEq

def respond (s : NativeControlIntentStore) : Event → Reply × NativeControlIntentStore
  | .update intent receivedAtMonotonicMs =>
    match s.update intent receivedAtMonotonicMs with
    | (.ok result, s') => (.updated result, s')
    | (.error e, s') => (.threw e, s')
  | .sample nowMonotonicMs =>
    match s.sample nowMonotonicMs with
    | (.ok result, s') => (.sampled result, s')
    | (.error e, s') => (.threw e, s')
  | .invalidate => (.done, s.invalidate)
  | .reset => (.done, s.reset)

def machine (leaseMs : ℤ) (lease : 100 ≤ leaseMs ∧ leaseMs ≤ 1000) :
    Machine NativeControlIntentStore Event Reply := ⟨{ leaseMs := leaseMs, lease := lease }, respond⟩

abbrev IntentStep := Step NativeControlIntentStore Event Reply
abbrev IntentHistory := History NativeControlIntentStore Event Reply

/-! ## What arms and disarms -/

/-- The step is given the intent, and looks at it. -/
def Received (st : IntentStep) (i : CheckedIntent) (t : ℤ) : Prop :=
  ∃ intent, st.event = .update intent t ∧ intent.validate = .ok i ∧ 0 ≤ t

def Accepts (st : IntentStep) : Prop :=
  ∃ result, st.output = .updated result ∧ result.accepted = true

/-- The lease of a held intent that moves the vehicle is over. -/
def Expired (s : NativeControlIntentStore) (t : ℤ) : Prop :=
  ∃ held ∈ s.latest, ¬held.IsNeutral ∧ s.leaseMs ≤ t - s.receivedAtMonotonicMs

instance (s : NativeControlIntentStore) (t : ℤ) : Decidable (Expired s t) :=
  inferInstanceAs (Decidable (∃ _ ∈ _, _))

/-- A fresh neutral intent is accepted. -/
def Rearms (st : IntentStep) : Prop := ∃ i t, Received st i t ∧ Accepts st ∧ i.IsNeutral

def TakenOver (st : IntentStep) : Prop :=
  ∃ i t, Received st i t ∧ st.before.latest ≠ none ∧ ¬st.before.SameUi i

/-- The held intent is replaced or sampled behind the end of its lease. -/
def OutOfLease (st : IntentStep) : Prop :=
  (∃ i t, Received st i t ∧ Accepts st ∧ Expired st.before t) ∨
  ∃ t, st.event = .sample t ∧ 0 ≤ t ∧ Expired st.before t

def Disarms (st : IntentStep) : Prop :=
  st.event = .reset ∨ st.event = .invalidate ∨ TakenOver st ∨ OutOfLease st

/-- A sample moves the vehicle only inside the lease, and behind a neutral intent that nothing has
disarmed since. -/
def InterlockLaw (st : IntentStep) (past : IntentHistory) : Prop :=
  ∀ t sample, st.event = .sample t → st.output = .sampled (some sample) → ¬sample.intent.Still →
    ¬Expired st.before t ∧ Since (fun st => ¬Disarms st) Rearms past

/-- An intent that drives on although the lease of the one before it is over: no sample has seen
the end of the lease. -/
structure Overtakes (s : NativeControlIntentStore) (i : CheckedIntent) (t : ℤ) : Prop where
  unseen : s.requiresFreshInput = false
  unlatched : s.estopLatched = false
  expired : Expired s t
  moves : ¬i.IsNeutral
  ordinary : i.estop = false
  sameUi : s.SameUi i
  admitted : s.sequenceRefusal i = none

def NotOvertaken (st : IntentStep) : Prop :=
  ∀ intent t i, st.event = .update intent t → intent.validate = .ok i → 0 ≤ t →
    ¬Overtakes st.before i t

/-! ## One step -/

section
variable {s : NativeControlIntentStore} {i : CheckedIntent} {t : ℤ}

theorem normalized_ordinary (hlatched : s.estopLatched = false) (hestop : i.estop = false) :
    s.normalized i = i := by
  unfold NativeControlIntentStore.normalized
  rw [hlatched, hestop]
  exact if_neg (by simp)

theorem normalized_still (h : s.estopLatched = true ∨ i.estop = true) :
    (s.normalized i).Still := by
  unfold NativeControlIntentStore.normalized
  rw [if_pos h]
  exact i.stilled_still

theorem normalized_estop (h : (s.normalized i).estop = true) :
    s.estopLatched = true ∨ i.estop = true := by
  unfold NativeControlIntentStore.normalized at h
  split at h
  · assumption
  · exact .inr h

theorem requiresFresh_false (h : s.requiresFresh i = false) :
    s.requiresFreshInput = false ∧ ¬(s.latest ≠ none ∧ ¬s.SameUi i) := by
  unfold NativeControlIntentStore.requiresFresh at h
  split at h
  · cases h
  · rename_i hsame
    exact ⟨h, hsame⟩

/-- What becomes of an intent that passes its checks. -/
inductive Updated (s : NativeControlIntentStore) (i : CheckedIntent) (t : ℤ) :
    NativeControlIntentUpdate × NativeControlIntentStore → Prop
  | refused (result : NativeControlIntentUpdate) (haccepted : result.accepted = false) :
      Updated s i t (result, { s with requiresFreshInput := s.requiresFresh i })
  | accepted (result : NativeControlIntentUpdate) (haccepted : result.accepted = true)
      (hadmitted : s.sequenceRefusal (s.normalized i) = none)
      (hfresh : i.IsNeutral ∨ i.estop = true ∨ s.requiresFresh i = false) :
      Updated s i t (result,
        { s with
          latest := some (s.normalized i)
          receivedAtMonotonicMs := t
          requiresFreshInput := if i.IsNeutral then false else s.requiresFresh i
          estopLatched := s.estopLatched || (s.normalized i).estop })

theorem updateChecked_updated (s : NativeControlIntentStore) (i : CheckedIntent) (t : ℤ) :
    Updated s i t (s.updateChecked i t) := by
  unfold NativeControlIntentStore.updateChecked
  extract_lets intent requires
  split
  · exact .refused _ rfl
  rename_i hadmitted
  split
  · exact .refused _ rfl
  rename_i hfresh
  refine .accepted _ rfl hadmitted ?_
  by_cases hneutral : i.IsNeutral
  · exact .inl hneutral
  by_cases hestop : i.estop = true
  · exact .inr (.inl hestop)
  refine .inr (.inr (eq_false_of_ne_true fun hrequires => ?_))
  exact hfresh ⟨hrequires, hneutral, eq_false_of_ne_true hestop⟩

end

section
variable {s : NativeControlIntentStore}

/-- An update throws and changes nothing, or it is given a checked intent. -/
theorem update_updated (s : NativeControlIntentStore) (intent : NativeControlIntent) (t : ℤ) :
    (∃ e, s.update intent t = (.error e, s) ∧ ∀ i, intent.validate = .ok i → t < 0) ∨
    ∃ i r, intent.validate = .ok i ∧ 0 ≤ t ∧ Updated s i t r ∧
      s.update intent t = (.ok r.1, r.2) := by
  unfold NativeControlIntentStore.update
  cases hvalid : intent.validate with
  | error message => exact .inl ⟨_, rfl, fun _ => (nomatch ·)⟩
  | ok i =>
    dsimp only
    by_cases ht : t < 0
    · rw [if_pos ht]
      exact .inl ⟨_, rfl, fun _ _ => ht⟩
    · rw [if_neg ht]
      exact .inr ⟨i, _, rfl, not_lt.mp ht, updateChecked_updated s i t, rfl⟩

/-- What a sample makes of a held intent. -/
structure Sampled (s : NativeControlIntentStore) (held : CheckedIntent) (t : ℤ)
    (sample : NativeControlIntentSample) : Prop where
  requires : sample.requiresFreshInput =
    if Expired s t ∧ held.estop = false then true else s.requiresFreshInput
  fresh : sample.fresh = decide (t - s.receivedAtMonotonicMs < s.leaseMs)
  estop : sample.intent.estop = s.estopLatched
  intent : sample.intent =
    { (if sample.requiresFreshInput = true ∧ held.estop = false then held.stilled else held) with
      estop := s.estopLatched }

theorem expired_iff {held : CheckedIntent} {t : ℤ} (hlatest : s.latest = some held) :
    Expired s t ↔ ¬held.IsNeutral ∧ s.leaseMs ≤ t - s.receivedAtMonotonicMs := by
  unfold Expired
  rw [hlatest]
  simp

theorem sample_sampled (s : NativeControlIntentStore) (t : ℤ) :
    ((∃ e, s.sample t = (.error e, s)) ∧ t < 0 ∨ s.sample t = (.ok none, s) ∧ s.latest = none) ∨
    ∃ held sample, 0 ≤ t ∧ s.latest = some held ∧ Sampled s held t sample ∧
      s.sample t = (.ok (some sample), { s with requiresFreshInput := sample.requiresFreshInput }) := by
  unfold NativeControlIntentStore.sample
  by_cases ht : t < 0
  · rw [if_pos ht]
    exact .inl (.inl ⟨⟨_, rfl⟩, ht⟩)
  rw [if_neg ht]
  cases hlatest : s.latest with
  | none => exact .inl (.inr ⟨rfl, rfl⟩)
  | some held =>
    refine .inr ⟨held, _, not_lt.mp ht, rfl, ?_, rfl⟩
    have hlease := s.lease
    have hage : s.leaseMs ≤ max 0 (t - s.receivedAtMonotonicMs) ↔
        s.leaseMs ≤ t - s.receivedAtMonotonicMs := by omega
    refine ⟨?_, ?_, rfl, rfl⟩
    · dsimp only
      refine if_congr ?_ rfl rfl
      rw [expired_iff hlatest, hage]
      tauto
    · refine decide_eq_decide.mpr ?_
      omega

end

/-- What the store is at any time. -/
structure IntentInvariant (past : IntentHistory) (s : NativeControlIntentStore) : Prop where
  armed : s.requiresFreshInput = false → s.estopLatched = false →
    Since (fun st => ¬Disarms st) Rearms past
  still : s.estopLatched = true → ∀ held ∈ s.latest, held.Still
  latched : ∀ held ∈ s.latest, held.estop = true → s.estopLatched = true

section
variable {leaseMs : ℤ} {lease : 100 ≤ leaseMs ∧ leaseMs ≤ 1000} {s : NativeControlIntentStore}
  {past : IntentHistory}

theorem respond_update {intent : NativeControlIntent} {t : ℤ}
    {r : NativeControlIntentUpdate × NativeControlIntentStore}
    (h : s.update intent t = (.ok r.1, r.2)) : respond s (.update intent t) = (.updated r.1, r.2) := by
  rw [respond, h]

/-- A step that changes nothing and disarms nothing. -/
theorem intentInvariant_same {e : Event} (hi : IntentInvariant past s)
    (hafter : (respond s e).2 = s)
    (hdisarms : ¬Disarms ((machine leaseMs lease).observe s e)) :
    IntentInvariant ((machine leaseMs lease).observe s e :: past) (respond s e).2 := by
  rw [hafter]
  exact ⟨fun hfresh hlatched => .inr ⟨hdisarms, hi.armed hfresh hlatched⟩, hi.still, hi.latched⟩

theorem intentInvariant_update (hi : IntentInvariant past s) (intent : NativeControlIntent) (t : ℤ)
    (htime : NotOvertaken ((machine leaseMs lease).observe s (.update intent t))) :
    IntentInvariant ((machine leaseMs lease).observe s (.update intent t) :: past)
      (respond s (.update intent t)).2 := by
  rcases update_updated s intent t with ⟨e, hupdate, hinvalid⟩ | ⟨i, r, hvalid, ht, hupdated, hupdate⟩
  · have hafter : respond s (.update intent t) = (.threw e, s) := by rw [respond, hupdate]
    refine intentInvariant_same hi (congrArg Prod.snd hafter) ?_
    have hreceived : ∀ i t', ¬Received ((machine leaseMs lease).observe s (.update intent t)) i t' := by
      rintro i t' ⟨intent', heq, hvalid, ht⟩
      cases heq
      exact absurd (hinvalid i hvalid) (not_lt.mpr ht)
    rintro (heq | heq | ⟨i, t', h, -⟩ | ⟨i, t', h, -⟩ | ⟨t', heq, -⟩)
    · cases heq
    · cases heq
    · exact hreceived i t' h
    · exact hreceived i t' h
    · cases heq
  · have hafter := respond_update hupdate
    have hsame : ∀ i' t', Received ((machine leaseMs lease).observe s (.update intent t)) i' t' →
        i' = i ∧ t' = t := by
      rintro i' t' ⟨intent', heq, hvalid', -⟩
      cases heq
      exact ⟨Except.ok.inj (hvalid'.symm.trans hvalid), rfl⟩
    have hreceived : Received ((machine leaseMs lease).observe s (.update intent t)) i t :=
      ⟨intent, rfl, hvalid, ht⟩
    -- Nothing has disarmed where the intent is the held one's successor and inside its lease.
    have hkept : s.requiresFresh i = false →
        (Accepts ((machine leaseMs lease).observe s (.update intent t)) → ¬Expired s t) →
        ¬Disarms ((machine leaseMs lease).observe s (.update intent t)) := by
      rintro hfresh hexpired (heq | heq | ⟨i', t', h, hheld, hui⟩ | ⟨i', t', h, haccepts, hover⟩ |
        ⟨t', heq, -⟩)
      · cases heq
      · cases heq
      · obtain ⟨rfl, rfl⟩ := hsame i' t' h
        exact (requiresFresh_false hfresh).2 ⟨hheld, hui⟩
      · obtain ⟨rfl, rfl⟩ := hsame i' t' h
        exact hexpired haccepts hover
      · cases heq
    cases hupdated with
    | refused result haccepted =>
      have hrefused : ¬Accepts ((machine leaseMs lease).observe s (.update intent t)) := by
        rintro ⟨result', hresult, haccepted'⟩
        have heq := (congrArg Prod.fst hafter).symm.trans hresult
        cases heq
        exact Bool.false_ne_true (haccepted.symm.trans haccepted')
      rw [hafter]
      refine ⟨fun hfresh hlatched => .inr ⟨hkept hfresh fun h => absurd h hrefused, ?_⟩, hi.still,
        hi.latched⟩
      exact hi.armed (requiresFresh_false hfresh).1 hlatched
    | accepted result haccepted hadmitted hnew =>
      rw [hafter]
      have haccepts : Accepts ((machine leaseMs lease).observe s (.update intent t)) :=
        ⟨result, congrArg Prod.fst hafter, haccepted⟩
      refine ⟨fun hfresh hlatched => ?_, fun hlatched held hheld => ?_, fun held hheld hestop => ?_⟩
      · obtain ⟨hunlatched, hordinary⟩ := Bool.or_eq_false_iff.mp hlatched
        by_cases hneutral : i.IsNeutral
        · exact .inl ⟨i, t, hreceived, haccepts, hneutral⟩
        have hrequires : s.requiresFresh i = false := by
          dsimp only at hfresh
          rwa [if_neg hneutral] at hfresh
        obtain ⟨hstored, hui⟩ := requiresFresh_false hrequires
        have hestop : i.estop = false := by
          refine eq_false_of_ne_true fun hestop => ?_
          unfold NativeControlIntentStore.normalized at hordinary
          rw [if_pos (.inr hestop)] at hordinary
          cases hordinary
        rw [normalized_ordinary hunlatched hestop] at hadmitted
        refine .inr ⟨hkept hrequires fun _ hexpired => ?_, hi.armed hstored hunlatched⟩
        have hheld : s.latest ≠ none := by
          obtain ⟨held, hheld, -⟩ := hexpired
          exact Option.ne_none_iff_exists'.mpr ⟨held, hheld⟩
        exact htime intent t i rfl hvalid ht
          { unseen := hstored
            unlatched := hunlatched
            expired := hexpired
            moves := hneutral
            ordinary := hestop
            sameUi := not_not.mp fun hother => hui ⟨hheld, hother⟩
            admitted := hadmitted }
      · obtain rfl := Option.some.inj hheld
        refine normalized_still ?_
        rcases Bool.or_eq_true_iff.mp hlatched with hold | hnew
        · exact .inl hold
        · exact normalized_estop hnew
      · obtain rfl := Option.some.inj hheld
        exact Bool.or_eq_true_iff.mpr (.inr hestop)

theorem Sampled.requires_false {held : CheckedIntent} {t : ℤ} {sample : NativeControlIntentSample}
    (h : Sampled s held t sample) (hfresh : sample.requiresFreshInput = false) :
    s.requiresFreshInput = false ∧ (held.estop = false → ¬Expired s t) := by
  have hrequires := h.requires
  rw [hfresh] at hrequires
  split at hrequires
  · cases hrequires
  · rename_i hin
    exact ⟨hrequires.symm, fun hestop hexpired => hin ⟨hexpired, hestop⟩⟩

theorem intentInvariant_sample (hi : IntentInvariant past s) (t : ℤ) :
    IntentInvariant ((machine leaseMs lease).observe s (.sample t) :: past)
      (respond s (.sample t)).2 := by
  have hdisarms : (0 ≤ t → ¬Expired s t) →
      ¬Disarms ((machine leaseMs lease).observe s (.sample t)) := by
    rintro hexpired (heq | heq | ⟨i, t', ⟨intent, heq, -⟩, -⟩ | ⟨i, t', ⟨intent, heq, -⟩, -⟩ |
      ⟨t', heq, ht, hover⟩)
    · cases heq
    · cases heq
    · cases heq
    · cases heq
    · cases heq
      exact hexpired ht hover
  rcases sample_sampled s t with (⟨⟨e, hsample⟩, ht⟩ | ⟨hsample, hlatest⟩) |
    ⟨held, sample, ht, hlatest, hsampled, hsample⟩
  · have hafter : respond s (.sample t) = (.threw e, s) := by rw [respond, hsample]
    exact intentInvariant_same hi (congrArg Prod.snd hafter)
      (hdisarms fun hle => absurd ht (not_lt.mpr hle))
  · have hafter : respond s (.sample t) = (.sampled none, s) := by rw [respond, hsample]
    refine intentInvariant_same hi (congrArg Prod.snd hafter) (hdisarms fun _ => ?_)
    rintro ⟨held, hheld, -⟩
    rw [hlatest] at hheld
    exact absurd hheld (Option.not_mem_none held)
  · have hafter : respond s (.sample t) = (.sampled (some sample),
        { s with requiresFreshInput := sample.requiresFreshInput }) := by rw [respond, hsample]
    rw [hafter]
    refine ⟨fun hfresh hlatched => ?_, hi.still, hi.latched⟩
    obtain ⟨hstored, hexpired⟩ := hsampled.requires_false hfresh
    have hestop : held.estop = false := by
      refine eq_false_of_ne_true fun hestop => ?_
      exact Bool.false_ne_true (hlatched.symm.trans (hi.latched held hlatest hestop))
    exact .inr ⟨hdisarms fun _ => hexpired hestop, hi.armed hstored hlatched⟩

theorem intentInvariant_step (hi : IntentInvariant past s) (e : Event)
    (htime : NotOvertaken ((machine leaseMs lease).observe s e)) :
    IntentInvariant ((machine leaseMs lease).observe s e :: past) (respond s e).2 := by
  cases e with
  | update intent t => exact intentInvariant_update hi intent t htime
  | sample t => exact intentInvariant_sample hi t
  | invalidate => exact ⟨fun hfresh => (nomatch hfresh), hi.still, hi.latched⟩
  | reset =>
    exact ⟨fun hfresh => (nomatch hfresh), fun hlatched => (nomatch hlatched),
      fun held hheld => absurd hheld (Option.not_mem_none held)⟩

theorem interlockLaw_step (hi : IntentInvariant past s) (e : Event) :
    InterlockLaw ((machine leaseMs lease).observe s e) past := by
  rintro t sample heq houtput hmoves
  cases heq
  rcases sample_sampled s t with (⟨⟨e, hsample⟩, -⟩ | ⟨hsample, -⟩) |
    ⟨held, sample', ht, hlatest, hsampled, hsample⟩
  · have hafter : respond s (.sample t) = (.threw e, s) := by rw [respond, hsample]
    cases (congrArg Prod.fst hafter).symm.trans houtput
  · have hafter : respond s (.sample t) = (.sampled none, s) := by rw [respond, hsample]
    cases (congrArg Prod.fst hafter).symm.trans houtput
  have hafter : respond s (.sample t) = (.sampled (some sample'),
      { s with requiresFreshInput := sample'.requiresFreshInput }) := by rw [respond, hsample]
  cases (congrArg Prod.fst hafter).symm.trans houtput
  have hlatched : s.estopLatched = false := by
    refine eq_false_of_ne_true fun hlatched => hmoves ?_
    have hstill := hi.still hlatched held hlatest
    rw [hsampled.intent]
    split
    · exact held.stilled_still
    · exact hstill
  have hestop : held.estop = false := by
    refine eq_false_of_ne_true fun hestop => ?_
    exact Bool.false_ne_true (hlatched.symm.trans (hi.latched held hlatest hestop))
  have hfresh : sample.requiresFreshInput = false := by
    refine eq_false_of_ne_true fun hrequires => hmoves ?_
    rw [hsampled.intent, if_pos ⟨hrequires, hestop⟩]
    exact held.stilled_still
  obtain ⟨hstored, hexpired⟩ := hsampled.requires_false hfresh
  exact ⟨hexpired hestop, hi.armed hstored hlatched⟩

end

/-- In a run where no intent overtakes the end of a lease, every sample that moves the vehicle does
so behind a fresh neutral intent. -/
theorem interlock_runs {leaseMs : ℤ} {lease : 100 ≤ leaseMs ∧ leaseMs ≤ 1000} {h : IntentHistory}
    {s : NativeControlIntentStore} (hr : Run (machine leaseMs lease) h s)
    (htime : Steps NotOvertaken h) : Always InterlockLaw h := by
  refine hr.always_of_link (R := IntentInvariant) ?_
    (fun _ _ e _ hi hc => intentInvariant_step hi e hc) (fun _ _ e _ hi _ => interlockLaw_step hi e)
    htime
  exact ⟨fun hfresh => (nomatch hfresh), fun hlatched => (nomatch hlatched),
    fun held hheld => absurd hheld (Option.not_mem_none held)⟩

/-! ## A lease that ends unseen -/

def Event.time? : Event → Option ℤ
  | .update _ t => some t
  | .sample t => some t
  | _ => none

/-- Time does not go back. -/
def Forward (events : List Event) : Prop := (events.filterMap Event.time?).Pairwise (· ≤ ·)

instance (events : List Event) : Decidable (Forward events) :=
  inferInstanceAs (Decidable (List.Pairwise _ _))

/-- No lease is over when the step comes. -/
def InLease (st : IntentStep) : Prop := ∀ t ∈ st.event.time?, ¬Expired st.before t

instance (st : IntentStep) : Decidable (InLease st) := inferInstanceAs (Decidable (∀ _ ∈ _, _))

theorem notOvertaken_of_inLease {st : IntentStep} (h : InLease st) : NotOvertaken st := by
  intro intent t i hevent _ _ hovertakes
  refine h t ?_ hovertakes.expired
  rw [hevent]
  rfl

def benchIntent (seq : ℕ) (throttle : ℚ) : NativeControlIntent :=
  { uiInstanceId := "ui-1"
    intentSeq := seq
    gear := "D"
    throttle := some throttle }

def benchMachine : Machine NativeControlIntentStore Event Reply := machine 150 (by decide)

/-- A neutral intent, and one that drives. -/
def armedEvents : List Event :=
  [.update (benchIntent 1 0) 100, .update (benchIntent 2 (6 / 10)) 110]

def drivingEvents : List Event := armedEvents ++ [.sample 160]

theorem interlock_runs_driving :
    (benchMachine.play drivingEvents).1.head?.map (·.output) =
      some (.sampled (some ⟨true, false, ⟨"ui-1", 2, .D, 0, 6 / 10, 0, false⟩⟩)) ∧
    Always InterlockLaw (benchMachine.play drivingEvents).1 := by
  have hlease : Steps InLease (benchMachine.play drivingEvents).1 := by decide +kernel
  exact ⟨by decide +kernel, interlock_runs (Run.play benchMachine drivingEvents)
    (hlease.imp fun _ _ => notOvertaken_of_inLease)⟩

def lateIntent : CheckedIntent := ⟨"ui-1", 3, .D, 0, 6 / 10, 0, false⟩

/-- The lease of the second intent ends at 260, and the third one drives on. -/
def overtakenEvents : List Event :=
  armedEvents ++ [.update (benchIntent 3 (6 / 10)) 300] ++ [.sample 310]

theorem interlock_overtaken :
    Forward overtakenEvents ∧ ¬Always InterlockLaw (benchMachine.play overtakenEvents).1 := by
  refine ⟨by decide +kernel, fun halways => ?_⟩
  unfold overtakenEvents at halways
  rw [Machine.play_concat, Machine.play_concat] at halways
  have hvalid : (benchIntent 3 (6 / 10)).validate = .ok lateIntent := by decide +kernel
  have hupdated : (benchMachine.observe (benchMachine.play armedEvents).2
      (.update (benchIntent 3 (6 / 10)) 300)).output = .updated ⟨true, false, false, "accepted"⟩ := by
    decide +kernel
  have hexpired : Expired (benchMachine.play armedEvents).2 300 := by decide +kernel
  obtain ⟨-, hsince⟩ := halways.1 310 ⟨true, false, lateIntent⟩ rfl (by decide +kernel)
    (by decide +kernel)
  rcases hsince with ⟨i, t, ⟨intent, heq, hvalid', -⟩, -, hneutral⟩ | ⟨hkept, -⟩
  · cases heq
    obtain rfl := Except.ok.inj (hvalid'.symm.trans hvalid)
    exact absurd hneutral (by decide +kernel)
  · have hreceived : Received (benchMachine.observe (benchMachine.play armedEvents).2
        (.update (benchIntent 3 (6 / 10)) 300)) lateIntent 300 :=
      ⟨_, rfl, hvalid, by decide⟩
    exact hkept (.inr (.inr (.inr (.inl ⟨lateIntent, 300, hreceived, ⟨_, hupdated, rfl⟩, hexpired⟩))))

end MineTeleop.Driver
