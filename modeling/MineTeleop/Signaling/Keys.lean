import MineTeleop.Signaling.Requests

/-!
# Session names and mailbox keys

Proved here:

* `sessionName_injective`: no two sessions get the same name;
* `messageKey_inj`: the key of a mailbox tells the session and the participant, as session names
  hold no separator;
* `sequenceKey_inj`: the key of a sequence space tells the session, and tells sender and channel
  apart unless one participant is called like the control channel of the other.
-/

namespace MineTeleop.Signaling

theorem append_cons_inj {α : Type} {a : α} {xs xs' ys ys' : List α} (hxs : a ∉ xs)
    (hxs' : a ∉ xs') (h : xs ++ a :: ys = xs' ++ a :: ys') : xs = xs' ∧ ys = ys' := by
  induction xs generalizing xs' with
  | nil =>
    cases xs' with
    | nil => exact ⟨rfl, (List.cons.inj h).2⟩
    | cons x' xs' => exact absurd (List.cons.inj h).1 fun hx => hxs' (hx ▸ List.mem_cons_self)
  | cons x xs ih =>
    cases xs' with
    | nil => exact absurd (List.cons.inj h).1 fun hx => hxs (hx ▸ List.mem_cons_self)
    | cons x' xs' =>
      simp only [List.cons_append, List.cons.injEq] at h
      obtain ⟨rfl, hrest⟩ := h
      obtain ⟨rfl, rfl⟩ := ih (fun hmem => hxs (List.mem_cons_of_mem _ hmem))
        (fun hmem => hxs' (List.mem_cons_of_mem _ hmem)) hrest
      exact ⟨rfl, rfl⟩

theorem toList_sessionName (counter : ℕ) :
    (sessionName counter).toList = "session-".toList ++
      (List.replicate (6 - (toString counter).length) '0' ++ Nat.toDigits 10 counter) := by
  simp [sessionName, Nat.toString_eq_repr, Nat.toList_repr]

theorem sessionName_injective : Function.Injective sessionName := by
  intro counter counter' h
  have hlist := congrArg String.toList h
  rw [toList_sessionName, toList_sessionName] at hlist
  have hvalue := congrArg (fun digits => Nat.ofDigitChars 10 digits 0)
    (List.append_cancel_left hlist)
  simpa [Nat.ofDigitChars_append, Nat.ofDigitChars_replicate_zero] using hvalue

/-- The separator of the keys. -/
def separator : Char := '\x1f'

theorem separator_notMem_sessionName (counter : ℕ) :
    separator ∉ (sessionName counter).toList := by
  rw [toList_sessionName]
  simp only [List.mem_append, not_or]
  refine ⟨by decide, fun hmem => ?_, fun hmem => ?_⟩
  · exact absurd (List.eq_of_mem_replicate hmem) (by decide)
  · exact absurd (Nat.isDigit_of_mem_toDigits (by decide) (by decide) hmem) (by decide)

theorem toList_messageKey (sessionId participant : String) :
    (messageKey sessionId participant).toList =
      sessionId.toList ++ separator :: participant.toList := by
  simp [messageKey, separator]

/-- A text that may stand before the separator of a key. -/
def Named (sessionId : String) : Prop := separator ∉ sessionId.toList

theorem messageKey_inj {sessionId sessionId' participant participant' : String}
    (hid : Named sessionId) (hid' : Named sessionId')
    (h : messageKey sessionId participant = messageKey sessionId' participant') :
    sessionId = sessionId' ∧ participant = participant' := by
  have hlist := congrArg String.toList h
  rw [toList_messageKey, toList_messageKey] at hlist
  obtain ⟨hid, hparticipant⟩ := append_cons_inj hid hid' hlist
  exact ⟨String.toList_injective hid, String.toList_injective hparticipant⟩

/-- What marks the channel of the control commands. -/
def channelMark (type : String) : String :=
  if type = "control_command" then ":native_control" else ""

theorem sequenceKey_eq (sessionId sender type : String) :
    sequenceKey sessionId sender type = messageKey sessionId (sender ++ channelMark type) := by
  simp [sequenceKey, messageKey, channelMark, String.append_assoc]

theorem sequenceKey_inj {sessionId sessionId' sender sender' type type' : String}
    (hid : Named sessionId) (hid' : Named sessionId')
    (h : sequenceKey sessionId sender type = sequenceKey sessionId' sender' type') :
    sessionId = sessionId' ∧ sender ++ channelMark type = sender' ++ channelMark type' := by
  rw [sequenceKey_eq, sequenceKey_eq] at h
  exact messageKey_inj hid hid' h

end MineTeleop.Signaling
