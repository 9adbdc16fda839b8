import MineTeleop.Library.Runs
import MineTeleop.Library.Tables
import MineTeleop.Web.ControlLogic

/-!
# The queue of control writes

The page writes its control values one request at a time.  What is sent while a write is under way
is merged into one request, which is written next; a heartbeat asks for a write of its own only
when nothing is waiting.

Proved here, for every order of sends, heartbeats and completions:

* `write_queue_law`: one write at a time, each with the newest values of the sends since the write
  before it, an emergency stop among them included, and every send settled once, by the write that
  it went into.
-/

namespace MineTeleop.Web

open Documents Tables Runs

/-! ## The queue -/

structure WriteRequest where
  extra : Table Json
  announceUnavailable : Bool
  /-- The promises of the sends in this request, by their numbers. -/
  waiters : List ℕ

/-- The variables of the queue, and the drains that await a write, each with its request. -/
structure WriteQueue where
  active : Bool
  pending : Option WriteRequest
  inFlight : List WriteRequest
  sends : ℕ

def WriteQueue.init : WriteQueue := ⟨false, none, [], 0⟩

/-- What a step starts, completes and settles, and what `enqueueHeartbeat` answers. -/
structure WriteOutput (ε ρ : Type) where
  started : Option WriteRequest
  completed : Option WriteRequest
  settled : List (ℕ × Except ε ρ)
  enqueued : Bool
  urgent : Bool
  unhandled : Option ε

inductive WriteEvent (ε ρ : Type) where
  | send (extra : Option (Table Json)) (announceUnavailable : Bool)
  | enqueueHeartbeat
  /-- One of the writes in flight settles, and its drain goes on. -/
  | complete (write : ℕ) (result : Except ε ρ)

/-- `Boolean(extra && extra.estop)`. -/
def estopOf (extra : Table Json) : Bool := truthy ((extra.lookup "estop").getD .null)

/-- `Object.assign`: what comes in wins. -/
def assign (current incoming : Table Json) : Table Json := incoming ∪ current

def mergeExtra (current incoming : Table Json) : Table Json :=
  (assign current incoming).insert "estop" (.boolean (estopOf current || estopOf incoming))

namespace WriteQueue

/-- The head of the loop in `drain`, and what follows the loop. -/
def loop (queue : WriteQueue) : WriteQueue × Option WriteRequest :=
  match queue.pending with
  | some request =>
    ({ queue with pending := none, inFlight := queue.inFlight ++ [request] }, some request)
  | none => ({ queue with active := false }, none)

def drain (queue : WriteQueue) : WriteQueue × Option WriteRequest :=
  if queue.active then (queue, none) else { queue with active := true }.loop

/-- The pending request with one more send in it. -/
def joined (queue : WriteQueue) (extra : Table Json) (announceUnavailable : Bool) :
    WriteRequest :=
  match queue.pending with
  | some pending =>
    { extra := mergeExtra pending.extra extra
      announceUnavailable := pending.announceUnavailable || announceUnavailable
      waiters := pending.waiters ++ [queue.sends] }
  | none => ⟨extra, announceUnavailable, [queue.sends]⟩

variable {ε ρ : Type}

def send (queue : WriteQueue) (extra : Option (Table Json)) (announceUnavailable : Bool) :
    WriteOutput ε ρ × WriteQueue :=
  let extra := extra.getD ∅
  let enqueued : WriteQueue := { queue with
    pending := some (queue.joined extra announceUnavailable)
    sends := queue.sends + 1 }
  let (drained, started) := enqueued.drain
  (⟨started, none, [], false, estopOf extra && queue.active, none⟩, drained)

def enqueueHeartbeat (queue : WriteQueue) : WriteOutput ε ρ × WriteQueue :=
  if queue.pending.isSome then (⟨none, none, [], false, false, none⟩, queue)
  else
    let enqueued : WriteQueue := { queue with pending := some ⟨∅, false, []⟩ }
    let (drained, started) := enqueued.drain
    (⟨started, none, [], true, false, none⟩, drained)

/-- A failure that nobody waits for is reported. -/
def unhandled (request : WriteRequest) (result : Except ε ρ) : Option ε :=
  match result with
  | .error e => if request.waiters = [] then some e else none
  | .ok _ => none

def complete (queue : WriteQueue) (write : ℕ) (result : Except ε ρ) :
    WriteOutput ε ρ × WriteQueue :=
  match queue.inFlight[write]? with
  | none => (⟨none, none, [], false, false, none⟩, queue)
  | some request =>
    let (next, started) := { queue with inFlight := queue.inFlight.eraseIdx write }.loop
    (⟨started, some request, request.waiters.map fun waiter => (waiter, result), false, false,
      unhandled request result⟩, next)

def step (queue : WriteQueue) : WriteEvent ε ρ → WriteOutput ε ρ × WriteQueue
  | .send extra announceUnavailable => queue.send extra announceUnavailable
  | .enqueueHeartbeat => queue.enqueueHeartbeat
  | .complete write result => queue.complete write result

def machine : Machine WriteQueue (WriteEvent ε ρ) (WriteOutput ε ρ) := ⟨.init, step⟩

end WriteQueue

/-! ## What the runs show -/

/-- A send, with its number and what it brought. -/
structure Sent where
  number : ℕ
  extra : Table Json
  announceUnavailable : Bool

section
variable {ε ρ : Type}

abbrev WriteStep (ε ρ : Type) := Step WriteQueue (WriteEvent ε ρ) (WriteOutput ε ρ)

abbrev WriteHistory (ε ρ : Type) := History WriteQueue (WriteEvent ε ρ) (WriteOutput ε ρ)

def sentIn (st : WriteStep ε ρ) : List Sent :=
  match st.event with
  | .send extra announceUnavailable => [⟨st.before.sends, extra.getD ∅, announceUnavailable⟩]
  | _ => []

/-- The sends since the last write started, the latest first. -/
def unsent : WriteHistory ε ρ → List Sent
  | [] => []
  | st :: past => if st.output.started.isSome then [] else sentIn st ++ unsent past

def lastStarted : WriteHistory ε ρ → Option WriteRequest
  | [] => none
  | st :: past => if st.output.started.isSome then st.output.started else lastStarted past

/-- The sends whose promises have been settled, as often as that was done. -/
def settledSends : WriteHistory ε ρ → List ℕ
  | [] => []
  | st :: past => st.output.settled.map Prod.fst ++ settledSends past

/-- How many writes have completed since a send. -/
def completionsSince (number : ℕ) : WriteHistory ε ρ → ℕ
  | [] => 0
  | st :: past =>
    if ∃ sent ∈ sentIn st, sent.number = number then 0
    else completionsSince number past + if st.output.completed.isSome then 1 else 0

/-- The request is made of these sends, the latest first. -/
structure WriteRequest.Carries (request : WriteRequest) (sends : List Sent) : Prop where
  waiters : request.waiters = (sends.map (·.number)).reverse
  newest : ∀ field, field ≠ "estop" →
    request.extra.lookup field = sends.findSome? (·.extra.lookup field)
  estop : estopOf request.extra = true ↔ ∃ sent ∈ sends, estopOf sent.extra = true
  announces : request.announceUnavailable = sends.any (·.announceUnavailable)

structure WriteLaw (st : WriteStep ε ρ) (past : WriteHistory ε ρ) : Prop where
  single : st.after.inFlight.length ≤ 1
  carries : ∀ request ∈ st.output.started, request.Carries (sentIn st ++ unsent past)
  completes : ∀ request ∈ st.output.completed, lastStarted past = some request ∧
    st.output.settled.map Prod.fst = request.waiters
  settles : st.output.completed = none → st.output.settled = []
  once : (settledSends (st :: past)).Nodup
  kept : ∀ number, number < st.after.sends ↔ number ∈ settledSends (st :: past) ∨
    (∃ request ∈ st.after.inFlight, number ∈ request.waiters) ∨
    ∃ request ∈ st.after.pending, number ∈ request.waiters
  busy : st.after.pending.isSome → st.after.inFlight ≠ []
  timely : ∀ number < st.after.sends, 2 ≤ completionsSince number (st :: past) →
    number ∈ settledSends (st :: past)
  heartbeat : st.event = .enqueueHeartbeat → st.before.pending.isSome →
    st.after = st.before ∧ st.output.started = none ∧ st.output.enqueued = false

end

/-! ## Requests -/

section
variable {current incoming : Table Json} {request : WriteRequest} {sends : List Sent}

theorem lookup_assign (field : String) :
    (assign current incoming).lookup field =
      (incoming.lookup field).or (current.lookup field) := by
  unfold assign
  by_cases hfield : field ∈ incoming
  · obtain ⟨value, hvalue⟩ := Option.isSome_iff_exists.mp (AList.lookup_isSome.mpr hfield)
    rw [AList.lookup_union_left hfield, hvalue]
    rfl
  · rw [AList.lookup_union_right hfield, AList.lookup_eq_none.mpr hfield]
    rfl

theorem estopOf_mergeExtra :
    estopOf (mergeExtra current incoming) = (estopOf current || estopOf incoming) := by
  unfold mergeExtra
  rw [estopOf, AList.lookup_insert]
  rfl

theorem carries_nothing : WriteRequest.Carries ⟨∅, false, []⟩ [] where
  waiters := rfl
  newest _ _ := rfl
  estop := by simp [estopOf, truthy]
  announces := rfl

theorem carries_one (sent : Sent) :
    WriteRequest.Carries ⟨sent.extra, sent.announceUnavailable, [sent.number]⟩ [sent] where
  waiters := rfl
  newest field _ := by
    rw [List.findSome?_cons, List.findSome?_nil]
    cases sent.extra.lookup field with
    | none => rfl
    | some value => rfl
  estop := by simp
  announces := by simp

theorem WriteRequest.Carries.merge (h : request.Carries sends) (sent : Sent) :
    WriteRequest.Carries ⟨mergeExtra request.extra sent.extra,
      request.announceUnavailable || sent.announceUnavailable,
      request.waiters ++ [sent.number]⟩ (sent :: sends) where
  waiters := by
    rw [h.waiters, List.map_cons, List.reverse_cons]
  newest field hfield := by
    show (mergeExtra request.extra sent.extra).lookup field = _
    unfold mergeExtra
    rw [AList.lookup_insert_ne hfield, lookup_assign, h.newest field hfield,
      List.findSome?_cons]
    cases sent.extra.lookup field with
    | none => rfl
    | some value => rfl
  estop := by
    show estopOf (mergeExtra request.extra sent.extra) = true ↔ _
    rw [estopOf_mergeExtra, Bool.or_eq_true, h.estop, or_comm, List.exists_mem_cons_iff]
  announces := by
    show (request.announceUnavailable || sent.announceUnavailable) = _
    rw [h.announces, List.any_cons, Bool.or_comm]

end

/-! ## Every run -/

section
variable {ε ρ : Type} {queue : WriteQueue} {h : WriteHistory ε ρ}

structure Linked (h : WriteHistory ε ρ) (queue : WriteQueue) : Prop where
  idle : queue.active = false → queue.pending = none ∧ queue.inFlight = []
  busy : queue.active = true → ∃ request, queue.inFlight = [request] ∧
    lastStarted h = some request ∧ ∀ number ∈ request.waiters, completionsSince number h ≤ 1
  empty : queue.pending = none → unsent h = []
  waiting : ∀ request ∈ queue.pending, request.Carries (unsent h) ∧
    ∀ number ∈ request.waiters, completionsSince number h = 0
  accounts : (settledSends h ++ (queue.inFlight.flatMap (·.waiters) ++
    queue.pending.toList.flatMap (·.waiters))).Perm (List.range queue.sends)

theorem linked_init : Linked ([] : WriteHistory ε ρ) .init where
  idle _ := ⟨rfl, rfl⟩
  busy h := by cases h
  empty _ := rfl
  waiting _ h := by cases h
  accounts := .refl _

/-- The next request carries the send, and all that waited before it. -/
theorem joined_carries (hl : Linked h queue) (extra : Table Json) (announceUnavailable : Bool) :
    (queue.joined extra announceUnavailable).Carries
      (⟨queue.sends, extra, announceUnavailable⟩ :: unsent h) := by
  unfold WriteQueue.joined
  cases hpending : queue.pending with
  | none =>
    rw [hl.empty hpending]
    exact carries_one ⟨queue.sends, extra, announceUnavailable⟩
  | some request =>
    exact (hl.waiting request hpending).1.merge ⟨queue.sends, extra, announceUnavailable⟩

theorem joined_waiters (extra : Table Json) (announceUnavailable : Bool) :
    (queue.joined extra announceUnavailable).waiters =
      queue.pending.toList.flatMap (·.waiters) ++ [queue.sends] := by
  unfold WriteQueue.joined
  cases queue.pending with
  | none => rfl
  | some request => simp

theorem unsent_cons (st : WriteStep ε ρ) :
    unsent (st :: h) = if st.output.started.isSome then [] else sentIn st ++ unsent h :=
  rfl

theorem lastStarted_cons (st : WriteStep ε ρ) :
    lastStarted (st :: h) =
      if st.output.started.isSome then st.output.started else lastStarted h :=
  rfl

theorem settledSends_cons (st : WriteStep ε ρ) :
    settledSends (st :: h) = st.output.settled.map Prod.fst ++ settledSends h :=
  rfl

theorem Linked.lt_of_waiting (hl : Linked h queue) {number : ℕ}
    (hnumber : number ∈ queue.inFlight.flatMap (·.waiters) ++
      queue.pending.toList.flatMap (·.waiters)) : number < queue.sends :=
  List.mem_range.mp ((hl.accounts.mem_iff).mp (List.mem_append_right _ hnumber))

theorem completionsSince_cons {st : WriteStep ε ρ} {number : ℕ}
    (hother : ∀ sent ∈ sentIn st, sent.number ≠ number) :
    completionsSince number (st :: h) =
      completionsSince number h + if st.output.completed.isSome then 1 else 0 :=
  if_neg fun ⟨sent, hmem, heq⟩ => hother sent hmem heq

theorem completionsSince_sent {st : WriteStep ε ρ} {number : ℕ} (sent : Sent)
    (hsent : sent ∈ sentIn st) (hnumber : sent.number = number) :
    completionsSince number (st :: h) = 0 :=
  if_pos ⟨sent, hsent, hnumber⟩

/-- While nothing is in flight a send starts its write. -/
theorem linked_send_idle (hl : Linked h queue) (hidle : queue.active = false)
    (extra : Option (Table Json)) (announceUnavailable : Bool) :
    let st := WriteQueue.machine.observe queue
      (.send extra announceUnavailable : WriteEvent ε ρ)
    st.output.started = some (queue.joined (extra.getD ∅) announceUnavailable) ∧
      Linked (st :: h) st.after := by
  obtain ⟨hpending, hflight⟩ := hl.idle hidle
  intro st
  have hstarted : st.output.started =
      some (queue.joined (extra.getD ∅) announceUnavailable) := by
    simp [st, Machine.observe, WriteQueue.machine, WriteQueue.step, WriteQueue.send,
      WriteQueue.drain, WriteQueue.loop, hidle, WriteQueue.joined]
  have hafter : st.after = ⟨true, none,
      [queue.joined (extra.getD ∅) announceUnavailable], queue.sends + 1⟩ := by
    simp [st, Machine.observe, WriteQueue.machine, WriteQueue.step, WriteQueue.send,
      WriteQueue.drain, WriteQueue.loop, hidle, hflight, WriteQueue.joined]
  have hsettled : settledSends (st :: h) = settledSends h := rfl
  refine ⟨hstarted, ?_⟩
  rw [hafter]
  have hwaiters : (queue.joined (extra.getD ∅) announceUnavailable).waiters =
      queue.pending.toList.flatMap (·.waiters) ++ [queue.sends] :=
    joined_waiters (extra.getD ∅) announceUnavailable
  rw [hpending] at hwaiters
  constructor
  · intro hactive
    cases hactive
  · refine fun _ => ⟨_, rfl, ?_, ?_⟩
    · rw [lastStarted_cons, hstarted]
      rfl
    · intro number hnumber
      rw [hwaiters] at hnumber
      rw [completionsSince_sent ⟨queue.sends, extra.getD ∅, announceUnavailable⟩
        List.mem_cons_self (List.mem_singleton.mp hnumber).symm]
      exact Nat.zero_le 1
  · intro _
    rw [unsent_cons, hstarted]
    rfl
  · intro request hrequest
    cases hrequest
  · have haccounts := hl.accounts
    rw [hpending, hflight] at haccounts
    rw [hsettled, List.range_succ]
    simpa [hwaiters] using haccounts.append_right [queue.sends]

/-- While a write is in flight a send joins what is pending. -/
theorem linked_send_busy (hl : Linked h queue) (hactive : queue.active = true)
    (extra : Option (Table Json)) (announceUnavailable : Bool) :
    let st := WriteQueue.machine.observe queue
      (.send extra announceUnavailable : WriteEvent ε ρ)
    st.output.started = none ∧ Linked (st :: h) st.after := by
  obtain ⟨request, hflight, hlast, hcompletions⟩ := hl.busy hactive
  intro st
  have hstarted : st.output.started = none := by
    simp [st, Machine.observe, WriteQueue.machine, WriteQueue.step, WriteQueue.send,
      WriteQueue.drain, hactive]
  have hcompleted : st.output.completed = none := rfl
  have hafter : st.after = ⟨true, some (queue.joined (extra.getD ∅) announceUnavailable),
      [request], queue.sends + 1⟩ := by
    simp [st, Machine.observe, WriteQueue.machine, WriteQueue.step, WriteQueue.send,
      WriteQueue.drain, hactive, hflight, WriteQueue.joined]
  have hsettled : settledSends (st :: h) = settledSends h := rfl
  have hunsent : unsent (st :: h) =
      ⟨queue.sends, extra.getD ∅, announceUnavailable⟩ :: unsent h := by
    rw [unsent_cons, hstarted]
    rfl
  have hold : ∀ number, number < queue.sends →
      completionsSince number (st :: h) = completionsSince number h := by
    intro number hlt
    rw [completionsSince_cons, hcompleted]
    · rfl
    · intro sent hsent
      rw [List.mem_singleton.mp hsent]
      exact hlt.ne'
  have hwaiting : ∀ number ∈ queue.inFlight.flatMap (·.waiters) ++
      queue.pending.toList.flatMap (·.waiters), number < queue.sends :=
    fun number hnumber => hl.lt_of_waiting hnumber
  rw [hflight] at hwaiting
  refine ⟨hstarted, ?_⟩
  rw [hafter]
  constructor
  · intro hidle
    cases hidle
  · refine fun _ => ⟨request, rfl, ?_, fun number hnumber => ?_⟩
    · rw [lastStarted_cons, hstarted]
      exact hlast
    · rw [hold number (hwaiting number (by simp [hnumber]))]
      exact hcompletions number hnumber
  · intro hpending
    cases hpending
  · intro pending hpending
    cases hpending
    refine ⟨?_, fun number hnumber => ?_⟩
    · rw [hunsent]
      exact joined_carries hl (extra.getD ∅) announceUnavailable
    · rw [joined_waiters, List.mem_append, List.mem_singleton] at hnumber
      rcases hnumber with hbefore | rfl
      · rw [hold number (hwaiting number (List.mem_append_right _ hbefore))]
        obtain ⟨before, hpending, hmem⟩ := List.mem_flatMap.mp hbefore
        exact (hl.waiting before (Option.mem_toList.mp hpending)).2 number hmem
      · exact completionsSince_sent ⟨queue.sends, extra.getD ∅, announceUnavailable⟩
          List.mem_cons_self rfl
  · have haccounts := hl.accounts.append_right [queue.sends]
    rw [hflight] at haccounts
    rw [hsettled, List.range_succ]
    simpa [joined_waiters] using haccounts

/-- A step that neither sends nor starts nor completes anything. -/
structure Idle (st : WriteStep ε ρ) : Prop where
  sent : sentIn st = []
  started : st.output.started = none
  completed : st.output.completed = none
  settled : st.output.settled = []

theorem Idle.unsent {st : WriteStep ε ρ} (hi : Idle st) : unsent (st :: h) = unsent h := by
  rw [unsent_cons, hi.started, hi.sent]
  rfl

theorem Idle.linked {st : WriteStep ε ρ} (hi : Idle st) (hl : Linked h queue) :
    Linked (st :: h) queue := by
  have hcompletions : ∀ number, completionsSince number (st :: h) = completionsSince number h := by
    intro number
    rw [completionsSince_cons (fun _ hsent => by rw [hi.sent] at hsent; cases hsent),
      hi.completed]
    rfl
  have hlast : lastStarted (st :: h) = lastStarted h := by
    rw [lastStarted_cons, hi.started]
    rfl
  have hsettled : settledSends (st :: h) = settledSends h := by
    rw [settledSends_cons, hi.settled]
    rfl
  constructor
  · exact hl.idle
  · simpa only [hlast, hcompletions] using hl.busy
  · rw [hi.unsent]
    exact hl.empty
  · simpa only [hi.unsent, hcompletions] using hl.waiting
  · rw [hsettled]
    exact hl.accounts

/-- A heartbeat asks for a write only where nothing is pending. -/
theorem linked_heartbeat (hl : Linked h queue) :
    let st := WriteQueue.machine.observe queue (.enqueueHeartbeat : WriteEvent ε ρ)
    (∀ request ∈ st.output.started, request.Carries (unsent h)) ∧ Linked (st :: h) st.after := by
  intro st
  cases hpending : queue.pending with
  | some request =>
    have hstep : WriteQueue.step queue (.enqueueHeartbeat : WriteEvent ε ρ) =
        (⟨none, none, [], false, false, none⟩, queue) := by
      unfold WriteQueue.step WriteQueue.enqueueHeartbeat
      rw [hpending]
      rfl
    have hidle : Idle st := ⟨rfl, congrArg (·.1.started) hstep, congrArg (·.1.completed) hstep,
      congrArg (·.1.settled) hstep⟩
    have hafter : st.after = queue := congrArg Prod.snd hstep
    refine ⟨fun request hrequest => ?_, hafter ▸ hidle.linked hl⟩
    rw [hidle.started] at hrequest
    cases hrequest
  | none =>
    cases hactive : queue.active with
    | true =>
      have hstep : WriteQueue.step queue (.enqueueHeartbeat : WriteEvent ε ρ) =
          (⟨none, none, [], true, false, none⟩,
            { queue with pending := some ⟨∅, false, []⟩ }) := by
        simp [WriteQueue.step, WriteQueue.enqueueHeartbeat, WriteQueue.drain, hpending, hactive]
      have hidle : Idle st := ⟨rfl, congrArg (·.1.started) hstep,
        congrArg (·.1.completed) hstep, congrArg (·.1.settled) hstep⟩
      have hkept := hidle.linked hl
      have hempty : unsent (st :: h) = [] := hkept.empty hpending
      have hafter : st.after = { queue with pending := some ⟨∅, false, []⟩ } :=
        congrArg Prod.snd hstep
      refine ⟨fun request hrequest => ?_, ?_⟩
      · rw [hidle.started] at hrequest
        cases hrequest
      · rw [hafter]
        constructor
        · intro hnot
          cases hactive.symm.trans hnot
        · exact hkept.busy
        · intro hnone
          cases hnone
        · intro request hrequest
          cases hrequest
          rw [hempty]
          exact ⟨carries_nothing, fun _ hnumber => by cases hnumber⟩
        · have haccounts := hkept.accounts
          rw [hpending] at haccounts
          simpa using haccounts
    | false =>
      have hflight := (hl.idle hactive).2
      have hstep : WriteQueue.step queue (.enqueueHeartbeat : WriteEvent ε ρ) =
          (⟨some ⟨∅, false, []⟩, none, [], true, false, none⟩,
            ⟨true, none, [⟨∅, false, []⟩], queue.sends⟩) := by
        simp [WriteQueue.step, WriteQueue.enqueueHeartbeat, WriteQueue.drain, WriteQueue.loop,
          hpending, hactive, hflight]
      have hstarted : st.output.started = some ⟨∅, false, []⟩ := congrArg (·.1.started) hstep
      have hafter : st.after = ⟨true, none, [⟨∅, false, []⟩], queue.sends⟩ :=
        congrArg Prod.snd hstep
      have hsettled : settledSends (st :: h) = settledSends h := by
        rw [settledSends_cons, show st.output.settled = [] from congrArg (·.1.settled) hstep]
        rfl
      refine ⟨fun request hrequest => ?_, ?_⟩
      · rw [hstarted] at hrequest
        cases hrequest
        rw [hl.empty hpending]
        exact carries_nothing
      · rw [hafter]
        constructor
        · intro hnot
          cases hnot
        · refine fun _ => ⟨_, rfl, ?_, fun _ hnumber => by cases hnumber⟩
          rw [lastStarted_cons, hstarted]
          rfl
        · intro _
          rw [unsent_cons, hstarted]
          rfl
        · intro request hrequest
          cases hrequest
        · have haccounts := hl.accounts
          rw [hpending, hflight] at haccounts
          rw [hsettled]
          simpa using haccounts

/-- A write that completes settles its sends and makes way for what is pending. -/
theorem linked_complete (hl : Linked h queue) (write : ℕ) (result : Except ε ρ) :
    let st := WriteQueue.machine.observe queue (.complete write result : WriteEvent ε ρ)
    (∀ request ∈ st.output.started, request.Carries (unsent h)) ∧
      (∀ request ∈ st.output.completed, lastStarted h = some request ∧
        st.output.settled.map Prod.fst = request.waiters) ∧
      (st.output.completed = none → st.output.settled = []) ∧ Linked (st :: h) st.after := by
  intro st
  cases hfound : queue.inFlight[write]? with
  | none =>
    have hstep : WriteQueue.step queue (.complete write result : WriteEvent ε ρ) =
        (⟨none, none, [], false, false, none⟩, queue) := by
      show queue.complete write result = _
      unfold WriteQueue.complete
      rw [hfound]
    have hidle : Idle st := ⟨rfl, congrArg (·.1.started) hstep, congrArg (·.1.completed) hstep,
      congrArg (·.1.settled) hstep⟩
    have hafter : st.after = queue := congrArg Prod.snd hstep
    refine ⟨fun request hrequest => ?_, fun request hrequest => ?_, fun _ => hidle.settled,
      hafter ▸ hidle.linked hl⟩
    · rw [hidle.started] at hrequest
      cases hrequest
    · rw [hidle.completed] at hrequest
      cases hrequest
  | some request =>
    have hactive : queue.active = true := by
      by_contra hnot
      rw [(hl.idle (Bool.eq_false_iff.mpr hnot)).2] at hfound
      cases hfound
    obtain ⟨only, hflight, hlast, -⟩ := hl.busy hactive
    have hfirst : write = 0 ∧ request = only := by
      rw [hflight] at hfound
      cases write with
      | zero => exact ⟨rfl, (Option.some.inj hfound).symm⟩
      | succ write => cases hfound
    obtain ⟨rfl, rfl⟩ := hfirst
    have hcompletions : ∀ number, st.output.completed = some request →
        completionsSince number (st :: h) = completionsSince number h + 1 := by
      intro number hcompleted
      rw [completionsSince_cons (fun _ hsent => by cases hsent), hcompleted]
      rfl
    have hnumbers : (request.waiters.map fun waiter => (waiter, result)).map Prod.fst =
        request.waiters := by
      rw [List.map_map]
      exact List.map_id _
    have haccounts := hl.accounts
    rw [hflight] at haccounts
    have hsingle : [request].flatMap (·.waiters) = request.waiters := by simp
    rw [hsingle] at haccounts
    cases hpending : queue.pending with
    | none =>
      have hstep : WriteQueue.step queue (.complete 0 result : WriteEvent ε ρ) =
          (⟨none, some request, request.waiters.map fun waiter => (waiter, result), false, false,
            WriteQueue.unhandled request result⟩, ⟨false, none, [], queue.sends⟩) := by
        show queue.complete 0 result = _
        simp [WriteQueue.complete, WriteQueue.loop, hflight, hpending]
      have hstarted : st.output.started = none := congrArg (·.1.started) hstep
      have hcompleted : st.output.completed = some request := congrArg (·.1.completed) hstep
      have hsettled : st.output.settled.map Prod.fst = request.waiters :=
        (congrArg (·.1.settled.map Prod.fst) hstep).trans hnumbers
      have hafter : st.after = ⟨false, none, [], queue.sends⟩ := congrArg Prod.snd hstep
      refine ⟨fun started hmem => ?_, fun completed hmem => ?_, fun hnone => ?_, ?_⟩
      · rw [hstarted] at hmem
        cases hmem
      · rw [hcompleted] at hmem
        cases hmem
        exact ⟨hlast, hsettled⟩
      · cases hcompleted.symm.trans hnone
      · rw [hafter]
        constructor
        · exact fun _ => ⟨rfl, rfl⟩
        · intro hnot
          cases hnot
        · intro _
          rw [unsent_cons, hstarted, hl.empty hpending]
          rfl
        · intro _ hmem
          cases hmem
        · rw [hpending] at haccounts
          rw [settledSends_cons, hsettled]
          simpa using List.perm_append_comm.trans haccounts
    | some next =>
      have hstep : WriteQueue.step queue (.complete 0 result : WriteEvent ε ρ) =
          (⟨some next, some request, request.waiters.map fun waiter => (waiter, result), false,
            false, WriteQueue.unhandled request result⟩, ⟨true, none, [next], queue.sends⟩) := by
        show queue.complete 0 result = _
        simp [WriteQueue.complete, WriteQueue.loop, hflight, hpending, hactive]
      have hstarted : st.output.started = some next := congrArg (·.1.started) hstep
      have hcompleted : st.output.completed = some request := congrArg (·.1.completed) hstep
      have hsettled : st.output.settled.map Prod.fst = request.waiters :=
        (congrArg (·.1.settled.map Prod.fst) hstep).trans hnumbers
      have hafter : st.after = ⟨true, none, [next], queue.sends⟩ := congrArg Prod.snd hstep
      obtain ⟨hcarries, hnew⟩ := hl.waiting next hpending
      refine ⟨fun started hmem => ?_, fun completed hmem => ?_, fun hnone => ?_, ?_⟩
      · rw [hstarted] at hmem
        cases hmem
        exact hcarries
      · rw [hcompleted] at hmem
        cases hmem
        exact ⟨hlast, hsettled⟩
      · cases hcompleted.symm.trans hnone
      · rw [hafter]
        constructor
        · intro hnot
          cases hnot
        · refine fun _ => ⟨next, rfl, ?_, fun number hnumber => ?_⟩
          · rw [lastStarted_cons, hstarted]
            rfl
          · rw [hcompletions number hcompleted, hnew number hnumber]
        · intro _
          rw [unsent_cons, hstarted]
          rfl
        · intro _ hmem
          cases hmem
        · rw [hpending] at haccounts
          rw [settledSends_cons, hsettled]
          have hmoved : (request.waiters ++ settledSends h ++ next.waiters).Perm
              (settledSends h ++ (request.waiters ++ next.waiters)) := by
            rw [← List.append_assoc]
            exact List.perm_append_comm.append_right _
          simpa using hmoved.trans (by simpa using haccounts)

theorem linked_step (hl : Linked h queue) (event : WriteEvent ε ρ) :
    let st := WriteQueue.machine.observe queue event
    (∀ request ∈ st.output.started, request.Carries (sentIn st ++ unsent h)) ∧
      (∀ request ∈ st.output.completed, lastStarted h = some request ∧
        st.output.settled.map Prod.fst = request.waiters) ∧
      (st.output.completed = none → st.output.settled = []) ∧ Linked (st :: h) st.after := by
  cases event with
  | send extra announceUnavailable =>
    cases hactive : queue.active with
    | false =>
      obtain ⟨hstarted, hlinked⟩ := linked_send_idle hl hactive extra announceUnavailable
      refine ⟨fun request hrequest => ?_, fun request hmem => ?_, fun _ => rfl, hlinked⟩
      · rw [hstarted] at hrequest
        cases hrequest
        exact joined_carries hl (extra.getD ∅) announceUnavailable
      · cases hmem
    | true =>
      obtain ⟨hstarted, hlinked⟩ := linked_send_busy hl hactive extra announceUnavailable
      refine ⟨fun request hrequest => ?_, fun request hmem => ?_, fun _ => rfl, hlinked⟩
      · rw [hstarted] at hrequest
        cases hrequest
      · cases hmem
  | enqueueHeartbeat =>
    obtain ⟨hstarted, hlinked⟩ := linked_heartbeat hl
    have hquiet : (WriteQueue.step queue (.enqueueHeartbeat : WriteEvent ε ρ)).1.completed = none ∧
        (WriteQueue.step queue (.enqueueHeartbeat : WriteEvent ε ρ)).1.settled = [] := by
      simp only [WriteQueue.step, WriteQueue.enqueueHeartbeat]
      split
      · exact ⟨rfl, rfl⟩
      · exact ⟨rfl, rfl⟩
    refine ⟨hstarted, fun request hmem => ?_, fun _ => hquiet.2, hlinked⟩
    cases hquiet.1.symm.trans hmem
  | complete write result => exact linked_complete hl write result

theorem Linked.inFlight (hl : Linked h queue) :
    queue.inFlight.length ≤ 1 ∧ (queue.pending.isSome → queue.inFlight ≠ []) := by
  cases hactive : queue.active with
  | false =>
    obtain ⟨hpending, hflight⟩ := hl.idle hactive
    rw [hpending, hflight]
    exact ⟨Nat.zero_le 1, nofun⟩
  | true =>
    obtain ⟨request, hflight, -⟩ := hl.busy hactive
    rw [hflight]
    exact ⟨Nat.le_refl 1, fun _ => nofun⟩

/-- Every send is settled, in flight or pending. -/
theorem Linked.mem_iff (hl : Linked h queue) (number : ℕ) :
    number < queue.sends ↔ number ∈ settledSends h ∨
      (∃ request ∈ queue.inFlight, number ∈ request.waiters) ∨
      ∃ request ∈ queue.pending, number ∈ request.waiters := by
  rw [← List.mem_range, ← hl.accounts.mem_iff, List.mem_append, List.mem_append,
    List.mem_flatMap, List.mem_flatMap]
  simp only [Option.mem_toList, Option.mem_def]

/-- **The queue**, over every run. -/
theorem write_queue_law (hr : Run WriteQueue.machine h queue) : Always WriteLaw h := by
  refine hr.always_of_link (C := fun _ => True) (R := Linked) linked_init
    (fun _ _ event _ hl _ => (linked_step hl event).2.2.2) ?_ (steps_true h)
  intro past queue event _ hl _
  obtain ⟨hcarries, hcompletes, hsettles, hlinked⟩ := linked_step hl event
  constructor
  · exact hlinked.inFlight.1
  · exact hcarries
  · exact hcompletes
  · exact hsettles
  · exact (hlinked.accounts.nodup_iff.mpr List.nodup_range).of_append_left
  · exact hlinked.mem_iff
  · exact hlinked.inFlight.2
  · intro number hlt hcompletions
    rcases (hlinked.mem_iff number).mp hlt with hsettled | hflight | hpending
    · exact hsettled
    · obtain ⟨request, hrequest, hnumber⟩ := hflight
      have hactive : ((WriteQueue.machine.observe queue event).after).active = true := by
        by_contra hnot
        rw [(hlinked.idle (Bool.eq_false_iff.mpr hnot)).2] at hrequest
        cases hrequest
      obtain ⟨only, honly, -, hle⟩ := hlinked.busy hactive
      rw [honly, List.mem_singleton] at hrequest
      have hone := hle number (hrequest ▸ hnumber)
      omega
    · obtain ⟨request, hrequest, hnumber⟩ := hpending
      have hzero := (hlinked.waiting request hrequest).2 number hnumber
      omega
  · rintro rfl hpending
    have hstep : WriteQueue.step queue (.enqueueHeartbeat : WriteEvent ε ρ) =
        (⟨none, none, [], false, false, none⟩, queue) := if_pos hpending
    exact ⟨congrArg Prod.snd hstep, congrArg (·.1.started) hstep,
      congrArg (·.1.enqueued) hstep⟩

end

/-! ## A page -/

/-- A send is under way when a heartbeat, an emergency stop and a throttle come; then the first
write fails. -/
def pageEvents : List (WriteEvent String String) := [
  .send (some (AList.singleton "throttle" (.number (2 / 5)))) false,
  .enqueueHeartbeat,
  .send (some (AList.singleton "estop" (.boolean true))) true,
  .send (some (AList.singleton "throttle" (.number (1 / 5)))) false,
  .complete 0 (.error "aborted"),
  .complete 0 (.ok "sent"),
  .enqueueHeartbeat]

theorem write_queue_law_page : Always WriteLaw (WriteQueue.machine.play pageEvents).1 :=
  write_queue_law (.play _ pageEvents)

example : ((WriteQueue.machine.play pageEvents).1.map fun st =>
    (st.output.started.map fun request => (estopOf request.extra,
      request.extra.lookup "throttle", request.waiters))).filterMap id =
    [(false, none, []), (true, some (.number (1 / 5)), [1, 2]),
      (false, some (.number (2 / 5)), [0])] := by
  decide +kernel

end MineTeleop.Web
