import MineTeleop.WebSocket.ClientRuns

/-!
# Streams of frames in pieces

A deadline that passes inside a frame: `insensitive_iff` says of every stream of valid frames, cut
into reads anywhere and with deadlines anywhere, when the client hears what it would have heard had
the stream come in one piece.
-/

namespace MineTeleop.WebSocket

open Documents Programs WebSocketClient
open Service (Failure)

/-! ## Streams -/

/-- A frame that a server may send: the client has nothing against it. -/
structure ValidFrame (platform : Platform) (frame : Frame) : Prop where
  allowed : WebSocketClient.rules.Allows frame
  text : frame.opcode = .text →
    ∃ json, WebSocketClient.rules.message platform.parse frame = .ok json
  close : frame.opcode = .close → WebSocketClient.rules.checkClose frame.payload = .ok ()

def bytesOf (frames : List Frame) : List UInt8 := frames.flatMap (frameBytes none)

@[simp] theorem bytesOf_nil : bytesOf [] = [] := rfl

@[simp] theorem bytesOf_cons (frame : Frame) (frames : List Frame) :
    bytesOf (frame :: frames) = frameBytes none frame ++ bytesOf frames := rfl

@[simp] theorem bytesOf_append (frames frames' : List Frame) :
    bytesOf (frames ++ frames') = bytesOf frames ++ bytesOf frames' := List.flatMap_append

/-- The socket does nothing but bring bytes and let deadlines pass. -/
def Reads (events : List SocketEvent) : Prop := ∀ event ∈ events, event.Flows ∨ event = .expired

instance (events : List SocketEvent) : Decidable (Reads events) :=
  inferInstanceAs (Decidable (∀ _ ∈ _, _))

/-- A client behind the handshake, and what its socket will bring. -/
def fresh (events : List SocketEvent) : Wire := ⟨{}, events⟩

/-- All the bytes in one read. -/
def arrival (bytes : List UInt8) : List SocketEvent :=
  if bytes = [] then [] else [.received bytes]

/-- What the client answers to the stream in one piece; each call takes two bytes or is the last. -/
def inOnePiece (platform : Platform) (frames : List Frame) : List Outcome :=
  answers (calls platform ((bytesOf frames).length + 1) (fresh (arrival (bytesOf frames)))).1

/-- Some bytes, but not all, of the frame that is next. -/
def Partial (frames : List Frame) (bytes : List UInt8) : Prop :=
  match frames with
  | [] => bytes = []
  | frame :: _ => ∃ missing, frameBytes none frame = bytes ++ missing ∧ missing ≠ []

/-- Frames have been answered as if they had come in one piece, and the next one is not there. -/
def Incomplete (platform : Platform) (frames : List Frame) (bytes : List UInt8)
    (answered : List Outcome) : Prop :=
  ∃ eaten rest part, frames = eaten ++ rest ∧ bytes = bytesOf eaten ++ part ∧ Partial rest part ∧
    answered = inOnePiece platform eaten

/-- However often the client is called, it answers the beginning of what it answers to the stream in
one piece, and a call times out only while a frame is incomplete. -/
def Insensitive (platform : Platform) (frames : List Frame) (events : List SocketEvent) : Prop :=
  ∀ n, answers (calls platform n (fresh events)).1 <+: inOnePiece platform frames ∧
    ((calls platform n (fresh events)).1.getLast? = some (.ok .timeout) →
      ∃ past, events = past ++ (calls platform n (fresh events)).2.events ∧
        Incomplete platform frames (received past) (answers (calls platform n (fresh events)).1))

/-- What a frame is answered with, after so many frames have been sent on the connection, and how
many have been sent then if the connection goes on. -/
def reply (platform : Platform) (sent : ℕ) (frame : Frame) : Option Outcome × Option ℕ :=
  match frame.opcode with
  | .text => (some ((WebSocketClient.rules.message platform.parse frame).map .message), some sent)
  | .close => (some (.ok .closed), none)
  | .ping =>
    match platform.refusal sent with
    | none => (none, some (sent + 1))
    | some failure => (some (.error (.runtimeError failure.what)), none)
  | .pong => (none, some sent)

/-- How much of a frame that is not whole has come with so many bytes of the stream, if the
connection has not ended before. -/
def begun (platform : Platform) : ℕ → List Frame → ℕ → ℕ
  | _, [], _ => 0
  | sent, frame :: frames, size =>
    if size < (frameBytes none frame).length then size
    else
      match (reply platform sent frame).2 with
      | none => 0
      | some sent => begun platform sent frames (size - (frameBytes none frame).length)

/-- Wherever the bytes stop for a deadline, at most one byte of an incomplete frame has come. -/
def NeverCut (platform : Platform) (frames : List Frame) (events : List SocketEvent) : Prop :=
  ∀ past later, events = past ++ later → later = [] ∨ later.head? = some .expired →
    begun platform 0 frames (received past).length < 2

/-! ## What is to be answered -/

/-- The answers to whole frames. -/
def expected (platform : Platform) : ℕ → List Frame → List Outcome
  | _, [] => []
  | sent, frame :: frames =>
    (reply platform sent frame).1.toList ++
      match (reply platform sent frame).2 with
      | none => []
      | some sent => expected platform sent frames

/-- A connection over which a stream of valid frames is coming. -/
structure Live (platform : Platform) (frames : List Frame) (wire : Wire) : Prop where
  valid : ∀ frame ∈ frames, ValidFrame platform frame
  connected : wire.client.connected = true
  peerOpen : wire.client.peerClosed = false
  reads : Reads wire.events
  bytes : wire.client.buffered ++ received wire.events <+: bytesOf frames

section
variable {platform : Platform} {frames : List Frame} {wire : Wire}

theorem Reads.later {used events : List SocketEvent} (h : Reads (used ++ events)) : Reads events :=
  fun event hevent => h event (List.mem_append_right used hevent)

theorem Reads.not_breaks {used events rest : List SocketEvent} (h : Reads (used ++ events))
    (hbreaks : Breaks events rest) : False := by
  obtain ⟨event, rfl, hevent⟩ := hbreaks
  have hread := h event (List.mem_append_right used List.mem_cons_self)
  rcases hevent with rfl | ⟨error, rfl⟩
  · rcases hread with hflows | heq
    · exact hflows rfl
    · cases heq
  · rcases hread with hflows | heq
    · exact hflows
    · cases heq

theorem Dries.received_eq {events rest : List SocketEvent} (h : Dries events rest) :
    ∃ dry, events = dry ++ rest ∧ received dry = [] := by
  rcases h with ⟨rfl, rfl⟩ | rfl
  · exact ⟨[], rfl, rfl⟩
  · exact ⟨[.expired], rfl, rfl⟩

/-- Some bytes of a stream of valid frames are a part of the first frame, or have it in front. -/
theorem decode_stream (hvalid : ∀ frame ∈ frames, ValidFrame platform frame) {bytes : List UInt8}
    (h : bytes <+: bytesOf frames) :
    (WebSocketClient.rules.decode bytes = .error .short ∧ Partial frames bytes) ∨
    ∃ frame later more, frames = frame :: later ∧ bytes = frameBytes none frame ++ more ∧
      more <+: bytesOf later ∧ WebSocketClient.rules.decode bytes = .ok (frame, more) := by
  cases frames with
  | nil =>
    obtain rfl := List.prefix_nil.mp h
    exact .inl ⟨rfl, rfl⟩
  | cons frame later =>
    have hallowed := (hvalid frame List.mem_cons_self).allowed
    obtain ⟨missing, hbytes⟩ := h
    rw [bytesOf_cons] at hbytes
    rcases List.append_eq_append_iff.mp hbytes with ⟨cut, hframe, -⟩ | ⟨more, rfl, hmore⟩
    · by_cases hcut : cut = []
      · rw [hcut, List.append_nil] at hframe
        refine .inr ⟨frame, later, [], rfl, by rw [hframe, List.append_nil], List.nil_prefix, ?_⟩
        rw [← hframe, ← List.append_nil (frameBytes none frame)]
        exact Rules.decode_frameBytes none rfl hallowed []
      · exact .inl ⟨Rules.decode_short none rfl hallowed hframe hcut, cut, hframe, hcut⟩
    · exact .inr ⟨frame, later, more, rfl, rfl, ⟨missing, hmore.symm⟩,
        Rules.decode_frameBytes none rfl hallowed more⟩

end

/-! ## One frame of a stream -/

/-- What reading a frame does on a live connection. -/
inductive StreamRead (frames : List Frame) (wire : Wire) :
    Except Failure (Option Frame) × Wire → Prop
  | frame (frame : Frame) (later : List Frame) (used events : List SocketEvent)
      (more : List UInt8) (hframes : frames = frame :: later)
      (hevents : wire.events = used ++ events) (hflow : Flow used)
      (hbytes : wire.client.buffered ++ received used = frameBytes none frame ++ more) :
      StreamRead frames wire (.ok (some frame), ⟨{ wire.client with buffered := more }, events⟩)
  | idle (used events rest : List SocketEvent) (hevents : wire.events = used ++ events)
      (hflow : Flow used) (hdries : Dries events rest)
      (hpart : Partial frames (wire.client.buffered ++ received used))
      (hsize : (wire.client.buffered ++ received used).length < 2) :
      StreamRead frames wire (.ok none, ⟨wire.client.fed (received used), rest⟩)
  | cut (used events rest : List SocketEvent) (hevents : wire.events = used ++ events)
      (hflow : Flow used) (hdries : Dries events rest)
      (hpart : Partial frames (wire.client.buffered ++ received used))
      (hsize : 2 ≤ (wire.client.buffered ++ received used).length) :
      StreamRead frames wire (.error incomplete, ⟨wire.client.fed (received used), rest⟩)

section
variable {platform : Platform} {frames : List Frame} {wire : Wire}

theorem Live.prefix_used (h : Live platform frames wire) {used events : List SocketEvent}
    (hevents : wire.events = used ++ events) :
    wire.client.buffered ++ received used <+: bytesOf frames := by
  refine List.IsPrefix.trans ⟨received events, ?_⟩ h.bytes
  rw [hevents, received_append, List.append_assoc]

theorem readFrame_stream (h : Live platform frames wire) :
    StreamRead frames wire (readFrame.exec wire) := by
  have hread := readFrame_read wire
  have hreads := h.reads
  generalize readFrame.exec wire = out at hread
  cases hread with
  | frame used events hevents hflow frame rest hneeded hdecode =>
    rcases decode_stream h.valid (h.prefix_used hevents) with ⟨hshort, -⟩ |
      ⟨frame', later, more, hframes, hbytes, -, hwhole⟩
    · cases hshort.symm.trans hdecode
    · cases hwhole.symm.trans hdecode
      exact .frame frame later used events rest hframes hevents hflow hbytes
  | refused used events hevents hflow failure hdecode =>
    rcases decode_stream h.valid (h.prefix_used hevents) with ⟨hshort, -⟩ |
      ⟨frame', later, more, hframes, hbytes, -, hwhole⟩
    · cases hshort.symm.trans hdecode
    · cases hwhole.symm.trans hdecode
  | idle used events rest hevents hflow hdries hsize =>
    rcases decode_stream h.valid (h.prefix_used hevents) with ⟨-, hpart⟩ |
      ⟨frame', later, more, hframes, hbytes, -, hwhole⟩
    · exact .idle used events rest hevents hflow hdries hpart hsize
    · cases (decode_bare hsize).symm.trans hwhole
  | cut used events rest hevents hflow hdries hsize hdecode =>
    rcases decode_stream h.valid (h.prefix_used hevents) with ⟨-, hpart⟩ |
      ⟨frame', later, more, hframes, hbytes, -, hwhole⟩
    · exact .cut used events rest hevents hflow hdries hpart hsize
    · cases hdecode.symm.trans hwhole
  | broken used events rest hevents hbreaks hneeded ended hended client =>
    rw [hevents] at hreads
    exact (hreads.not_breaks hbreaks).elim

/-- What handling a frame does: it goes by `reply`. -/
inductive Handled (platform : Platform) (frame : Frame) (wire : Wire) :
    Except Failure (Option WebSocketReceiveResult) × Wire → Prop
  | silent (client : WebSocketClient)
      (hreply : reply platform wire.client.sent.length frame = (none, some client.sent.length))
      (hbuffered : client.buffered = wire.client.buffered)
      (hconnected : client.connected = wire.client.connected)
      (hopen : client.peerClosed = wire.client.peerClosed) :
      Handled platform frame wire (.ok none, ⟨client, wire.events⟩)
  | tells (json : Json)
      (hreply : reply platform wire.client.sent.length frame =
        (some (.ok (.message json)), some wire.client.sent.length)) :
      Handled platform frame wire (.ok (some (.message json)), wire)
  | ends (outcome : Outcome) (wire' : Wire)
      (hreply : reply platform wire.client.sent.length frame = (some outcome, none))
      (hends : Outcome.goesOn outcome = false) :
      Handled platform frame wire (outcome.map some, wire')

theorem handle_handled {frame : Frame} (h : ValidFrame platform frame) (wire : Wire) :
    Handled platform frame wire ((handle platform frame).exec wire) := by
  cases hopcode : frame.opcode with
  | text =>
    obtain ⟨json, hjson⟩ := h.text hopcode
    rw [handle_text hopcode, hjson]
    exact .tells json (by rw [reply, hopcode, hjson]; rfl)
  | close =>
    rw [handle_close hopcode, h.close hopcode]
    exact .ends (.ok .closed) _ (by rw [reply, hopcode]) rfl
  | ping =>
    rw [handle_ping hopcode]
    cases hrefusal : platform.refusal wire.client.sent.length with
    | none => exact .silent _ (by rw [reply, hopcode, hrefusal]; rfl) rfl rfl rfl
    | some failure =>
      exact .ends (.error (.runtimeError failure.what)) _ (by rw [reply, hopcode, hrefusal]) rfl
  | pong =>
    rw [handle_pong hopcode]
    exact .silent wire.client (by rw [reply, hopcode]) rfl rfl rfl

end

/-! ## Whole frames -/

/-- The way from one state of a live connection to another, through whole frames. -/
structure Passed (platform : Platform) (frames : List Frame) (wire : Wire) (said : List Outcome)
    (eaten rest : List Frame) (wire' : Wire) : Prop where
  frames : frames = eaten ++ rest
  bytes : ∃ used, wire.events = used ++ wire'.events ∧
    wire.client.buffered ++ received used = bytesOf eaten ++ wire'.client.buffered
  live : Live platform rest wire'
  said : ∀ more, expected platform wire.client.sent.length (eaten ++ more) =
    said ++ expected platform wire'.client.sent.length more
  begun : ∀ more size, begun platform wire.client.sent.length (eaten ++ more)
      ((bytesOf eaten).length + size) =
    begun platform wire'.client.sent.length more size

section
variable {platform : Platform} {frames rest : List Frame} {wire wire' wire'' : Wire}

theorem Passed.refl (h : Live platform frames wire) : Passed platform frames wire [] [] frames wire :=
  ⟨rfl, ⟨[], rfl, by simp⟩, h, fun _ => rfl, fun _ size => by simp⟩

theorem Passed.trans {said said' : List Outcome} {eaten eaten' rest' : List Frame}
    (h : Passed platform frames wire said eaten rest wire')
    (h' : Passed platform rest wire' said' eaten' rest' wire'') :
    Passed platform frames wire (said ++ said') (eaten ++ eaten') rest' wire'' := by
  obtain ⟨used, hevents, hbytes⟩ := h.bytes
  obtain ⟨used', hevents', hbytes'⟩ := h'.bytes
  refine ⟨by rw [h.frames, h'.frames, List.append_assoc], ⟨used ++ used', ?_, ?_⟩, h'.live, ?_, ?_⟩
  · rw [hevents, hevents', List.append_assoc]
  · rw [received_append, ← List.append_assoc, hbytes, List.append_assoc, hbytes', bytesOf_append,
      List.append_assoc]
  · intro more
    rw [List.append_assoc, h.said, h'.said, List.append_assoc]
  · intro more size
    rw [bytesOf_append, List.length_append, Nat.add_assoc, List.append_assoc, h.begun, h'.begun]

theorem begun_frame (frame : Frame) (frames : List Frame) (sent size : ℕ) :
    begun platform sent (frame :: frames) ((frameBytes none frame).length + size) =
      match (reply platform sent frame).2 with
      | none => 0
      | some sent => begun platform sent frames size := by
  rw [begun, if_neg (by omega), Nat.add_sub_cancel_left]

/-- A frame that the connection survives is passed. -/
theorem Passed.frame {frame : Frame} {later : List Frame} {used events : List SocketEvent}
    {more : List UInt8} (client : WebSocketClient) {answer : Option Outcome}
    (h : Live platform (frame :: later) wire) (hevents : wire.events = used ++ events)
    (hbytes : wire.client.buffered ++ received used = frameBytes none frame ++ more)
    (hreply : reply platform wire.client.sent.length frame = (answer, some client.sent.length))
    (hbuffered : client.buffered = more) (hconnected : client.connected = true)
    (hopen : client.peerClosed = false) :
    Passed platform (frame :: later) wire answer.toList [frame] later ⟨client, events⟩ := by
  refine ⟨rfl, ⟨used, hevents, ?_⟩, ?_, fun more => ?_, fun more size => ?_⟩
  · rw [hbytes, hbuffered]
    simp
  · refine ⟨fun frame' hframe => h.valid frame' (List.mem_cons_of_mem _ hframe), hconnected, hopen,
      ?_, ?_⟩
    · have hreads := h.reads
      rw [hevents] at hreads
      exact hreads.later
    · have hall := h.bytes
      rw [hevents, received_append, ← List.append_assoc, hbytes, List.append_assoc, bytesOf_cons,
        List.prefix_append_right_inj] at hall
      rwa [hbuffered]
  · change expected platform _ (frame :: more) = _
    rw [expected, hreply]
  · have hsize : (bytesOf [frame]).length = (frameBytes none frame).length := by simp
    change WebSocket.begun platform _ (frame :: more) _ = _
    rw [hsize, begun_frame, hreply]

end

/-! ## One call -/

/-- What a call comes back with when the deadline passes. -/
def dryOutcome (wire : Wire) : Outcome :=
  if wire.client.buffered.length < 2 then .ok .timeout else .error incomplete

/-- How a call on a live connection ends. -/
inductive CallEnds (platform : Platform) (frames : List Frame) (wire : Wire) :
    Outcome × Wire → Prop
  | message (eaten rest : List Frame) (used : List SocketEvent) (json : Json) (wire' : Wire)
      (hpassed : Passed platform frames wire [.ok (.message json)] eaten rest wire')
      (hevents : wire.events = used ++ wire'.events) (hflow : Flow used) (heaten : eaten ≠ []) :
      CallEnds platform frames wire (.ok (.message json), wire')
  | ended (eaten rest : List Frame) (used events : List SocketEvent) (outcome : Outcome)
      (wire' : Wire) (hframes : frames = eaten ++ rest) (hevents : wire.events = used ++ events)
      (hflow : Flow used)
      (hbytes : (bytesOf eaten).length ≤ (wire.client.buffered ++ received used).length)
      (hsaid : ∀ more, expected platform wire.client.sent.length (eaten ++ more) = [outcome])
      (hbegun : ∀ more size, begun platform wire.client.sent.length (eaten ++ more)
        ((bytesOf eaten).length + size) = 0)
      (hends : Outcome.goesOn outcome = false) :
      CallEnds platform frames wire (outcome, wire')
  | dry (eaten rest : List Frame) (used events : List SocketEvent) (wire' : Wire)
      (hpassed : Passed platform frames wire [] eaten rest wire')
      (hevents : wire.events = used ++ events) (hflow : Flow used)
      (hdries : Dries events wire'.events) (hpart : Partial rest wire'.client.buffered) :
      CallEnds platform frames wire (dryOutcome wire', wire')

section
variable {platform : Platform} {frames rest : List Frame} {wire wire' : Wire}

/-- What follows frames that were not answered. -/
theorem CallEnds.after {eaten : List Frame} {used : List SocketEvent}
    (hpassed : Passed platform frames wire [] eaten rest wire')
    (hevents : wire.events = used ++ wire'.events) (hflow : Flow used) {out : Outcome × Wire}
    (h : CallEnds platform rest wire' out) : CallEnds platform frames wire out := by
  have hjoin : ∀ later events, wire'.events = later ++ events →
      wire.events = (used ++ later) ++ events := by
    intro later events hlater
    rw [hevents, hlater, List.append_assoc]
  obtain ⟨used', hevents', hbytes⟩ := hpassed.bytes
  obtain rfl : used' = used := List.append_cancel_right (hevents'.symm.trans hevents)
  cases h with
  | message eaten' rest' later json wire'' hpassed' hlater hflow' heaten =>
    exact .message (eaten ++ eaten') rest' (used' ++ later) json wire'' (hpassed.trans hpassed')
      (hjoin _ _ hlater) (hflow.append hflow') (by simp [heaten])
  | ended eaten' rest' later events outcome wire'' hframes hlater hflow' hbytes' hsaid hbegun hends =>
    refine .ended (eaten ++ eaten') rest' (used' ++ later) events outcome wire'' ?_ (hjoin _ _ hlater)
      (hflow.append hflow') ?_ (fun more => ?_) (fun more size => ?_) hends
    · rw [hpassed.frames, hframes, List.append_assoc]
    · rw [received_append, ← List.append_assoc, hbytes, bytesOf_append]
      simp only [List.length_append] at hbytes' ⊢
      omega
    · rw [List.append_assoc, hpassed.said, hsaid]
      rfl
    · rw [List.append_assoc, bytesOf_append, List.length_append, Nat.add_assoc, hpassed.begun, hbegun]
  | dry eaten' rest' later events wire'' hpassed' hlater hflow' hdries hpart =>
    exact .dry (eaten ++ eaten') rest' (used' ++ later) events wire'' (hpassed.trans hpassed')
      (hjoin _ _ hlater) (hflow.append hflow') hdries hpart

/-- The deadline passes on a live connection. -/
theorem Passed.dry (h : Live platform frames wire) {used events later : List SocketEvent}
    (hevents : wire.events = used ++ events) (hdries : Dries events later) :
    Passed platform frames wire [] [] frames ⟨wire.client.fed (received used), later⟩ := by
  obtain ⟨dry, rfl, hdry⟩ := hdries.received_eq
  refine ⟨rfl, ⟨used ++ dry, by rw [hevents, List.append_assoc], ?_⟩, ?_, fun _ => rfl,
    fun more size => ?_⟩
  · rw [received_append, hdry, List.append_nil]
    rfl
  · refine ⟨h.valid, h.connected, h.peerOpen, ?_, ?_⟩
    · have hreads := h.reads
      rw [hevents, ← List.append_assoc] at hreads
      exact hreads.later
    · have hall := h.bytes
      rw [hevents, received_append, received_append, hdry, List.nil_append, ← List.append_assoc]
        at hall
      exact hall
  · rw [bytesOf_nil, List.length_nil, Nat.zero_add]
    rfl

theorem receiveLoop_ends_stream (h : Live platform frames wire) :
    CallEnds platform frames wire (receiveLoop platform wire) := by
  induction hsize : wire.size using Nat.strong_induction_on generalizing wire frames with
  | _ size ih =>
    have hturn := receiveTurn_exec platform wire
    have hread := readFrame_stream h
    generalize readFrame.exec wire = out at hread hturn
    cases hread with
    | frame frame later used events more hframes hevents hflow hbytes =>
      subst hframes
      have hhandled := handle_handled (h.valid frame List.mem_cons_self)
        ⟨{ wire.client with buffered := more }, events⟩
      dsimp only at hturn
      generalize (handle platform frame).exec _ = out at hhandled hturn
      cases hhandled with
      | silent client hreply hbuffered hconnected hopen =>
        have hpassed := Passed.frame client h hevents hbytes hreply hbuffered
          (hconnected.trans h.connected) (hopen.trans h.peerOpen)
        have hlt := receiveTurn_goes_on hturn
        rw [receiveLoop_goes_on hturn]
        exact .after hpassed hevents hflow (ih _ (hsize ▸ hlt) hpassed.live rfl)
      | tells json hreply =>
        have hpassed := Passed.frame { wire.client with buffered := more } h hevents
          hbytes hreply rfl h.connected h.peerOpen
        rw [receiveLoop_ends (.ok (.message json)) hturn]
        exact .message [frame] later used json _ hpassed hevents hflow (List.cons_ne_nil _ _)
      | ends outcome wire' hreply hends =>
        rw [receiveLoop_ends outcome hturn]
        have hwhole : bytesOf [frame] = frameBytes none frame := by simp
        refine .ended [frame] later used events outcome wire' rfl hevents hflow ?_ (fun more => ?_)
          (fun more size => ?_) hends
        · rw [hwhole, hbytes, List.length_append]
          omega
        · change expected platform _ (frame :: more) = _
          rw [expected, hreply]
          rfl
        · rw [hwhole]
          change begun platform _ (frame :: more) _ = _
          rw [begun_frame, hreply]
    | idle used events rest hevents hflow hdries hpart hsize' =>
      have hends : receiveLoop platform wire =
          (dryOutcome ⟨wire.client.fed (received used), rest⟩,
            ⟨wire.client.fed (received used), rest⟩) := by
        have hdry : dryOutcome ⟨wire.client.fed (received used), rest⟩ = .ok .timeout :=
          if_pos hsize'
        have hgiveUp : giveUp.exec ⟨wire.client.fed (received used), rest⟩ =
            (.ok (some .timeout), ⟨wire.client.fed (received used), rest⟩) := by
          unfold giveUp
          rw [exec_bind]
          change (if wire.client.peerClosed then _ else _ :
            Program Wire Failure (Option WebSocketReceiveResult)).exec _ = _
          rw [h.peerOpen]
          rfl
        rw [hdry]
        exact receiveLoop_ends (.ok .timeout) (hturn.trans hgiveUp)
      rw [hends]
      exact .dry [] frames used events _ (.dry h hevents hdries) hevents hflow hdries hpart
    | cut used events rest hevents hflow hdries hpart hsize' =>
      have hends : receiveLoop platform wire =
          (dryOutcome ⟨wire.client.fed (received used), rest⟩,
            ⟨wire.client.fed (received used), rest⟩) := by
        have hdry : dryOutcome ⟨wire.client.fed (received used), rest⟩ = .error incomplete :=
          if_neg (not_lt.mpr hsize')
        rw [hdry]
        exact receiveLoop_ends (.error incomplete) hturn
      rw [hends]
      exact .dry [] frames used events _ (.dry h hevents hdries) hevents hflow hdries hpart

theorem receiveJson_ends (h : Live platform frames wire) :
    CallEnds platform frames wire (receiveJson platform wire) := by
  unfold receiveJson
  rw [if_pos h.connected]
  exact receiveLoop_ends_stream h

/-! ## Many calls -/

/-- The bytes stop here for a deadline. -/
def Stops (later : List SocketEvent) : Prop := later = [] ∨ later.head? = some .expired

theorem Dries.stops {events later : List SocketEvent} (h : Dries events later) : Stops events := by
  rcases h with ⟨rfl, -⟩ | rfl
  · exact .inl rfl
  · exact .inr rfl

/-- What some calls on a live connection have come to. -/
inductive Told (platform : Platform) (frames : List Frame) (wire : Wire) :
    List Outcome × Wire → Prop
  | live (eaten rest : List Frame) (outcomes : List Outcome) (wire' : Wire)
      (hpassed : Passed platform frames wire (answers outcomes) eaten rest wire')
      (hnone : outcomes = [] → rest = frames ∧ wire' = wire)
      (hlast : outcomes.getLast? = some (.ok .timeout) → Partial rest wire'.client.buffered) :
      Told platform frames wire (outcomes, wire')
  | ended (eaten rest : List Frame) (outcomes : List Outcome) (wire' : Wire)
      (hframes : frames = eaten ++ rest)
      (hsaid : ∀ more, expected platform wire.client.sent.length (eaten ++ more) = answers outcomes)
      (hsome : outcomes ≠ []) (hlast : outcomes.getLast? ≠ some (.ok .timeout)) :
      Told platform frames wire (outcomes, wire')
  | cut (eaten rest : List Frame) (outcomes : List Outcome) (wire' : Wire)
      (past later : List SocketEvent)
      (hpassed : Passed platform frames wire (answers outcomes) eaten rest wire')
      (hevents : wire.events = past ++ later) (hstops : Stops later)
      (hbytes : wire.client.buffered ++ received past = bytesOf eaten ++ wire'.client.buffered)
      (hpart : Partial rest wire'.client.buffered) (hsize : 2 ≤ wire'.client.buffered.length) :
      Told platform frames wire (outcomes ++ [.error incomplete], wire')

theorem answers_append (outcomes outcomes' : List Outcome) :
    answers (outcomes ++ outcomes') = answers outcomes ++ answers outcomes' :=
  List.filter_append outcomes outcomes'

theorem getLast_cons_timeout {outcome : Outcome} {outcomes : List Outcome}
    (h : (outcome :: outcomes).getLast? = some (.ok .timeout)) :
    (outcomes = [] ∧ outcome = .ok .timeout) ∨ outcomes.getLast? = some (.ok .timeout) := by
  cases outcomes with
  | nil => exact .inl ⟨rfl, Option.some.inj h⟩
  | cons outcome' outcomes => exact .inr h

/-- A call that leaves the connection open, and the calls after it. -/
theorem Told.cons {eaten : List Frame} {outcome : Outcome} {said : List Outcome}
    {out : List Outcome × Wire} (hpassed : Passed platform frames wire said eaten rest wire')
    (hsaid : answers [outcome] = said)
    (hlast : outcome = .ok .timeout → Partial rest wire'.client.buffered)
    (h : Told platform rest wire' out) :
    Told platform frames wire (outcome :: out.1, out.2) := by
  have hanswers : ∀ outcomes, answers (outcome :: outcomes) = said ++ answers outcomes := by
    intro outcomes
    rw [← hsaid, ← answers_append]
    rfl
  obtain ⟨used, hevents, hbytes⟩ := hpassed.bytes
  cases h with
  | live eaten' rest' outcomes wire'' hpassed' hnone hlast' =>
    refine .live (eaten ++ eaten') rest' (outcome :: outcomes) wire'' ?_ (by simp) fun htimeout => ?_
    · rw [hanswers]
      exact hpassed.trans hpassed'
    · rcases getLast_cons_timeout htimeout with ⟨hnil, rfl⟩ | htimeout
      · obtain ⟨rfl, rfl⟩ := hnone hnil
        exact hlast rfl
      · exact hlast' htimeout
  | ended eaten' rest' outcomes wire'' hframes hsaid' hsome hlast' =>
    refine .ended (eaten ++ eaten') rest' (outcome :: outcomes) wire'' ?_ (fun more => ?_)
      (List.cons_ne_nil _ _) fun htimeout => ?_
    · rw [hpassed.frames, hframes, List.append_assoc]
    · rw [List.append_assoc, hpassed.said, hsaid', hanswers]
    · rcases getLast_cons_timeout htimeout with ⟨hnil, -⟩ | htimeout
      · exact hsome hnil
      · exact hlast' htimeout
  | cut eaten' rest' outcomes wire'' past later hpassed' hevents' hstops hbytes' hpart hsize =>
    refine .cut (eaten ++ eaten') rest' (outcome :: outcomes) wire'' (used ++ past) later ?_ ?_ hstops
      ?_ hpart hsize
    · rw [hanswers]
      exact hpassed.trans hpassed'
    · rw [hevents, hevents', List.append_assoc]
    · rw [received_append, ← List.append_assoc, hbytes, List.append_assoc, hbytes', bytesOf_append,
        List.append_assoc]

theorem calls_goes_on (platform : Platform) (wire : Wire) (n : ℕ)
    (h : Outcome.goesOn (receiveJson platform wire).1 = true) :
    calls platform (n + 1) wire =
      ((receiveJson platform wire).1 :: (calls platform n (receiveJson platform wire).2).1,
        (calls platform n (receiveJson platform wire).2).2) := by
  rw [calls]
  exact if_pos h

theorem calls_ends (platform : Platform) (wire : Wire) (n : ℕ)
    (h : Outcome.goesOn (receiveJson platform wire).1 = false) :
    calls platform (n + 1) wire =
      ([(receiveJson platform wire).1], (receiveJson platform wire).2) := by
  rw [calls]
  exact if_neg (Bool.eq_false_iff.mp h)

theorem answers_ends {outcome : Outcome} (h : Outcome.goesOn outcome = false) :
    answers [outcome] = [outcome] ∧ [outcome].getLast? ≠ some (.ok .timeout) := by
  have hne : outcome ≠ .ok .timeout := by
    rintro rfl
    cases h
  refine ⟨List.filter_eq_self.mpr fun a ha => ?_, fun heq => hne (Option.some.inj heq)⟩
  obtain rfl := List.mem_singleton.mp ha
  unfold Outcome.isTimeout
  split
  · exact absurd rfl hne
  · rfl

theorem calls_told (n : ℕ) (h : Live platform frames wire) :
    Told platform frames wire (calls platform n wire) := by
  induction n generalizing frames wire with
  | zero => exact .live [] frames [] wire (.refl h) (fun _ => ⟨rfl, rfl⟩) (by rintro ⟨⟩)
  | succ n ih =>
    have hends := receiveJson_ends h
    have hgoes := calls_goes_on platform wire n
    have hstops := calls_ends platform wire n
    generalize receiveJson platform wire = out at hends hgoes hstops
    cases hends with
    | message eaten rest used json wire' hpassed hevents hflow heaten =>
      rw [hgoes rfl]
      exact .cons hpassed rfl (by rintro ⟨⟩) (ih hpassed.live)
    | ended eaten rest used events outcome wire' hframes hevents hflow hbytes hsaid hbegun hends =>
      obtain ⟨hanswers, hlast⟩ := answers_ends hends
      rw [hstops hends]
      exact .ended eaten rest [outcome] wire' hframes (fun more => (hsaid more).trans hanswers.symm)
        (List.cons_ne_nil _ _) hlast
    | dry eaten rest used events wire' hpassed hevents hflow hdries hpart =>
      by_cases hsize : wire'.client.buffered.length < 2
      · have hdry : dryOutcome wire' = .ok .timeout := if_pos hsize
        rw [hdry] at hgoes
        rw [hgoes rfl]
        exact .cons hpassed rfl (fun _ => hpart) (ih hpassed.live)
      · have hdry : dryOutcome wire' = .error incomplete := if_neg hsize
        rw [hdry] at hstops
        rw [hstops rfl]
        obtain ⟨used', hevents', hbytes⟩ := hpassed.bytes
        obtain ⟨dry, hdry', hnone⟩ := hdries.received_eq
        have hused : used' = used ++ dry := by
          rw [hevents, hdry', ← List.append_assoc] at hevents'
          exact (List.append_cancel_right hevents').symm
        rw [hused, received_append, hnone, List.append_nil] at hbytes
        exact .cut eaten rest [] wire' used events hpassed hevents hdries.stops hbytes hpart
          (not_lt.mp hsize)

/-! ## The stream in one piece -/

theorem Partial.whole {frames : List Frame} (h : Partial frames (bytesOf frames)) : frames = [] := by
  cases frames with
  | nil => rfl
  | cons frame later =>
    obtain ⟨missing, hframe, hmissing⟩ := h
    rw [bytesOf_cons, List.append_assoc] at hframe
    have hnone := List.self_eq_append_right.mp hframe
    exact absurd (List.append_eq_nil_iff.mp hnone).2 hmissing

theorem length_le_bytesOf (frames : List Frame) : frames.length ≤ (bytesOf frames).length := by
  induction frames with
  | nil => exact le_rfl
  | cons frame frames ih =>
    have htwo := two_le_length_frameBytes none frame
    rw [bytesOf_cons, List.length_append, List.length_cons]
    omega

/-- With no deadline and the whole stream to come, every frame is answered. -/
theorem calls_whole (n : ℕ) (h : Live platform frames wire)
    (hwhole : wire.client.buffered ++ received wire.events = bytesOf frames)
    (hflow : Flow wire.events) (hn : frames = [] ∨ frames.length < n) :
    answers (calls platform n wire).1 = expected platform wire.client.sent.length frames := by
  induction n generalizing frames wire with
  | zero =>
    obtain rfl := hn.resolve_right (Nat.not_lt_zero _)
    rfl
  | succ n ih =>
    have hends := receiveJson_ends h
    have hgoes := calls_goes_on platform wire n
    have hstops := calls_ends platform wire n
    generalize receiveJson platform wire = out at hends hgoes hstops
    cases hends with
    | message eaten rest used json wire' hpassed hevents hflow' heaten =>
      obtain ⟨used', hevents', hbytes⟩ := hpassed.bytes
      obtain rfl := List.append_cancel_right (hevents.symm.trans hevents')
      have hframes := hpassed.frames
      rw [hevents] at hflow hwhole
      rw [received_append, ← List.append_assoc, hbytes, hframes, bytesOf_append, List.append_assoc,
        List.append_cancel_left_eq] at hwhole
      have hlength := congrArg List.length hframes
      have hpos := List.length_pos_iff.mpr heaten
      rw [List.length_append] at hlength
      have hrest := ih hpassed.live hwhole (fun event hevent =>
        hflow event (List.mem_append_right _ hevent)) (.inr (by
          rcases hn with hnil | hlt
          · rw [hnil, List.length_nil] at hlength
            omega
          · omega))
      rw [hgoes rfl, hframes, hpassed.said, ← hrest]
      rfl
    | ended eaten rest used events outcome wire' hframes hevents hflow' hbytes hsaid hbegun hends =>
      rw [hstops hends, hframes, hsaid]
      exact (answers_ends hends).1
    | dry eaten rest used events wire' hpassed hevents hflow' hdries hpart =>
      -- No deadline passes, so the client has all the bytes.
      have hnone : events = [] ∧ wire'.events = [] := by
        rcases hdries with hnone | hexpired
        · exact hnone
        · rw [hevents, hexpired] at hflow
          exact (hflow _ (List.mem_append_right _ List.mem_cons_self)).elim
      obtain ⟨used', hevents', hbytes⟩ := hpassed.bytes
      rw [hnone.2, List.append_nil] at hevents'
      rw [← hevents', hwhole, hpassed.frames, bytesOf_append, List.append_cancel_left_eq] at hbytes
      rw [← hbytes] at hpart
      obtain rfl := hpart.whole
      have hsize : wire'.client.buffered.length < 2 := by
        rw [← hbytes]
        exact Nat.two_pos
      have hdry : dryOutcome wire' = .ok .timeout := if_pos hsize
      have hrest := ih hpassed.live (by rw [← hbytes, hnone.2]; rfl) (by rw [hnone.2]; exact flow_nil)
        (.inl rfl)
      rw [hdry] at hgoes
      rw [hgoes rfl, hpassed.frames, hpassed.said, ← hrest]
      rfl

theorem live_fresh (hvalid : ∀ frame ∈ frames, ValidFrame platform frame)
    (events : List SocketEvent) (hreads : Reads events)
    (hbytes : received events <+: bytesOf frames) : Live platform frames (fresh events) :=
  ⟨hvalid, rfl, rfl, hreads, hbytes⟩

theorem inOnePiece_eq (hvalid : ∀ frame ∈ frames, ValidFrame platform frame) :
    inOnePiece platform frames = expected platform 0 frames := by
  have hflow : Flow (arrival (bytesOf frames)) := by
    unfold arrival
    split
    · exact flow_nil
    · rename_i hbytes
      exact List.forall_mem_singleton.mpr hbytes
  have hreceived : received (arrival (bytesOf frames)) = bytesOf frames := by
    unfold arrival
    split
    · rename_i hbytes
      exact hbytes.symm
    · exact List.append_nil _
  have hlength := length_le_bytesOf frames
  have hlive := live_fresh hvalid (arrival (bytesOf frames)) (fun event hevent =>
    .inl (hflow event hevent)) (by rw [hreceived])
  exact calls_whole _ hlive hreceived hflow (.inr (by omega))

/-! ## A deadline inside a frame -/

theorem begun_partial (sent : ℕ) {part : List UInt8} (h : Partial frames part) :
    begun platform sent frames part.length = part.length := by
  cases frames with
  | nil =>
    obtain rfl : part = [] := h
    rfl
  | cons frame later =>
    obtain ⟨missing, hframe, hmissing⟩ := h
    have hlength := congrArg List.length hframe
    have hpos := List.length_pos_iff.mpr hmissing
    rw [List.length_append] at hlength
    rw [begun, if_pos (by omega)]

theorem begun_le (platform : Platform) (sent size : ℕ) (frames : List Frame) : begun platform sent frames size ≤ size := by
  induction frames generalizing sent size with
  | nil => exact Nat.zero_le size
  | cons frame frames ih =>
    rw [begun]
    split
    · exact le_rfl
    · split
      · exact Nat.zero_le size
      · exact (ih _ _).trans (Nat.sub_le _ _)

/-- What brings bytes does not stop for a deadline. -/
theorem past_of_flow {used events past later : List SocketEvent} (hflow : Flow used)
    (hstops : Stops later) (h : used ++ events = past ++ later) :
    ∃ past', past = used ++ past' ∧ events = past' ++ later := by
  rcases List.append_eq_append_iff.mp h with ⟨past', hpast, hevents⟩ | ⟨rest, hused, hlater⟩
  · exact ⟨past', hpast, hevents⟩
  · cases rest with
    | nil => exact ⟨[], by rw [hused, List.append_nil, List.append_nil], hlater.symm⟩
    | cons event rest =>
      have hflows := hflow event (by rw [hused]; simp)
      rcases hstops with rfl | hexpired
      · cases hlater
      · rw [hlater] at hexpired
        obtain rfl := Option.some.inj hexpired
        exact hflows.elim

/-- Where the bytes stop inside a frame, some call gives up on the frame. -/
theorem calls_cut (h : Live platform frames wire) {past later : List SocketEvent}
    (hevents : wire.events = past ++ later) (hstops : Stops later)
    (hbegun : 2 ≤ begun platform wire.client.sent.length frames
      (wire.client.buffered ++ received past).length) :
    ∃ n, .error incomplete ∈ (calls platform n wire).1 := by
  induction hsize : frames.length + wire.events.length using Nat.strong_induction_on
    generalizing frames wire past with
  | _ size ih =>
    -- One call, and as many as it takes after it.
    have hlater : ∀ frames' wire' past',
        frames'.length + wire'.events.length < size → Live platform frames' wire' →
        wire'.events = past' ++ later →
        2 ≤ begun platform wire'.client.sent.length frames'
          (wire'.client.buffered ++ received past').length →
        Outcome.goesOn (receiveJson platform wire).1 = true →
        (receiveJson platform wire).2 = wire' → ∃ n, .error incomplete ∈ (calls platform n wire).1 := by
      rintro frames' wire' past' hlt hlive hevents' hbegun' hgoes rfl
      obtain ⟨n, hn⟩ := ih _ hlt hlive hevents' hbegun' rfl
      exact ⟨n + 1, by rw [calls_goes_on _ _ _ hgoes]; exact List.mem_cons_of_mem _ hn⟩
    have hends := receiveJson_ends h
    have hcalls := calls_ends platform wire 0
    generalize receiveJson platform wire = out at hends hlater hcalls
    cases hends with
    | message eaten rest used json wire' hpassed hused hflow heaten =>
      obtain ⟨past', rfl, hevents'⟩ := past_of_flow hflow hstops (hused.symm.trans hevents)
      obtain ⟨used', hused', hbytes⟩ := hpassed.bytes
      obtain rfl := List.append_cancel_right (hused.symm.trans hused')
      rw [received_append, ← List.append_assoc, hbytes, List.append_assoc, List.length_append,
        hpassed.frames, hpassed.begun] at hbegun
      refine hlater rest wire' past' ?_ hpassed.live hevents' hbegun rfl rfl
      have hlength := congrArg List.length hpassed.frames
      have hpos := List.length_pos_iff.mpr heaten
      rw [List.length_append] at hlength
      rw [← hsize, hused, List.length_append]
      omega
    | ended eaten rest used events outcome wire' hframes hused hflow hbytes hsaid hnone hends =>
      obtain ⟨past', rfl, hevents'⟩ := past_of_flow hflow hstops (hused.symm.trans hevents)
      have hsplit : (wire.client.buffered ++ received (used ++ past')).length =
          (bytesOf eaten).length +
            ((wire.client.buffered ++ received (used ++ past')).length - (bytesOf eaten).length) := by
        rw [received_append, ← List.append_assoc, List.length_append]
        omega
      rw [hframes, hsplit, hnone] at hbegun
      omega
    | dry eaten rest used events wire' hpassed hused hflow hdries hpart =>
      obtain ⟨past', rfl, hevents'⟩ := past_of_flow hflow hstops (hused.symm.trans hevents)
      by_cases hcut : wire'.client.buffered.length < 2
      · have hdry : dryOutcome wire' = .ok .timeout := if_pos hcut
        obtain ⟨dry, hdry', hnone⟩ := hdries.received_eq
        obtain ⟨used', hused', hbytes⟩ := hpassed.bytes
        have hsame : used' = used ++ dry := by
          rw [hused, hdry', ← List.append_assoc] at hused'
          exact (List.append_cancel_right hused').symm
        rw [hsame, received_append, hnone, List.append_nil] at hbytes
        rw [received_append, ← List.append_assoc, hbytes, List.append_assoc, List.length_append,
          hpassed.frames, hpassed.begun] at hbegun
        cases past' with
        | nil =>
          have hle := begun_le platform wire'.client.sent.length
            (wire'.client.buffered ++ received []).length rest
          rw [received_nil, List.append_nil] at hle hbegun
          omega
        | cons event past' =>
          -- The deadline that has passed is not the one in question.
          have hrest : event = .expired ∧ wire'.events = past' ++ later := by
            rcases hdries with ⟨hnil, -⟩ | hexpired
            · rw [hnil] at hevents'
              cases hevents'
            · obtain ⟨rfl, hrest⟩ := List.cons.inj (hexpired.symm.trans hevents')
              exact ⟨rfl, hrest⟩
          obtain ⟨rfl, hrest⟩ := hrest
          refine hlater rest wire' past' ?_ hpassed.live hrest hbegun (by rw [hdry]; rfl) rfl
          have hlength := congrArg List.length hpassed.frames
          rw [List.length_append] at hlength
          rw [← hsize, hused, hevents', hrest]
          simp only [List.length_append, List.length_cons]
          omega
      · have hdry : dryOutcome wire' = .error incomplete := if_neg hcut
        refine ⟨1, ?_⟩
        rw [hdry] at hcalls
        rw [hcalls rfl]
        exact List.mem_cons_self

theorem SendFailure.what_ne (failure : SendFailure) : failure.what ≠ "incomplete websocket frame" := by
  intro h
  have hfirst := congrArg (fun text => text.toList.head?) h
  cases failure with
  | closed => exact absurd hfirst (by decide)
  | timedOut => exact absurd hfirst (by decide)
  | failed error =>
    dsimp only [SendFailure.what] at hfirst
    have hhead : "websocket send failed: ".toList.head? = some 'w' := by decide
    rw [String.toList_append, List.head?_append, hhead, Option.some_or] at hfirst
    exact absurd hfirst (by decide)

theorem reply_ne_incomplete {frame : Frame} (h : ValidFrame platform frame) (sent : ℕ) :
    (reply platform sent frame).1 ≠ some (.error incomplete) := by
  intro heq
  unfold reply at heq
  cases hopcode : frame.opcode with
  | text =>
    obtain ⟨json, hjson⟩ := h.text hopcode
    rw [hopcode, hjson] at heq
    cases heq
  | close =>
    rw [hopcode] at heq
    cases heq
  | ping =>
    rw [hopcode] at heq
    cases hrefusal : platform.refusal sent with
    | none =>
      rw [hrefusal] at heq
      cases heq
    | some failure =>
      rw [hrefusal] at heq
      exact failure.what_ne (Failure.runtimeError.inj (Except.error.inj (Option.some.inj heq)))
  | pong =>
    rw [hopcode] at heq
    cases heq

theorem incomplete_not_expected (hvalid : ∀ frame ∈ frames, ValidFrame platform frame) (sent : ℕ) :
    .error incomplete ∉ expected platform sent frames := by
  induction frames generalizing sent with
  | nil => exact List.not_mem_nil
  | cons frame frames ih =>
    obtain ⟨hframe, hframes⟩ := List.forall_mem_cons.mp hvalid
    rw [expected, List.mem_append]
    rintro (hanswer | hlater)
    · exact reply_ne_incomplete hframe sent (Option.mem_toList.mp hanswer)
    · split at hlater
      · exact List.not_mem_nil hlater
      · exact ih hframes _ hlater

/-! ## When the client hears everything -/

theorem insensitive_of_neverCut (hvalid : ∀ frame ∈ frames, ValidFrame platform frame)
    {events : List SocketEvent} (hreads : Reads events)
    (hbytes : received events <+: bytesOf frames) (h : NeverCut platform frames events) :
    Insensitive platform frames events := by
  intro n
  have htold := calls_told n (live_fresh hvalid events hreads hbytes)
  rw [inOnePiece_eq hvalid]
  generalize calls platform n (fresh events) = out at htold
  cases htold with
  | live eaten rest outcomes wire' hpassed hnone hlast =>
    have hsaid := hpassed.said
    change ∀ more, expected platform 0 (eaten ++ more) = _ at hsaid
    obtain ⟨past, hpast, hreceived⟩ := hpassed.bytes
    refine ⟨⟨_, by rw [hpassed.frames, hsaid]⟩, fun htimeout => ⟨past, hpast, ?_⟩⟩
    refine ⟨eaten, rest, wire'.client.buffered, hpassed.frames, hreceived, hlast htimeout, ?_⟩
    have heaten := hsaid []
    rw [List.append_nil] at heaten
    rw [inOnePiece_eq fun frame hframe => hvalid frame (by rw [hpassed.frames]; simp [hframe]), heaten]
    exact (List.append_nil _).symm
  | ended eaten rest outcomes wire' hframes hsaid hsome hlast =>
    change ∀ more, expected platform 0 (eaten ++ more) = _ at hsaid
    rw [hframes, hsaid]
    exact ⟨List.prefix_rfl, fun htimeout => absurd htimeout hlast⟩
  | cut eaten rest outcomes wire' past later hpassed hevents hstops hreceived hpart hsize =>
    have hbegun := h past later hevents hstops
    change received past = _ at hreceived
    have hpassedBegun := hpassed.begun
    change ∀ more size, begun platform 0 (eaten ++ more) _ = _ at hpassedBegun
    rw [hreceived, List.length_append, hpassed.frames, hpassedBegun, begun_partial _ hpart] at hbegun
    omega

theorem neverCut_of_insensitive (hvalid : ∀ frame ∈ frames, ValidFrame platform frame)
    {events : List SocketEvent} (hreads : Reads events)
    (hbytes : received events <+: bytesOf frames) (h : Insensitive platform frames events) :
    NeverCut platform frames events := by
  intro past later hevents hstops
  by_contra hcut
  obtain ⟨n, hn⟩ := calls_cut (live_fresh hvalid events hreads hbytes) hevents hstops (not_lt.mp hcut)
  have hanswers : .error incomplete ∈ answers (calls platform n (fresh events)).1 :=
    List.mem_filter.mpr ⟨hn, rfl⟩
  have hexpected := (h n).1.subset hanswers
  rw [inOnePiece_eq hvalid] at hexpected
  exact incomplete_not_expected hvalid 0 hexpected

end

/-- A stream of valid frames is heard as if it had come in one piece exactly when no deadline
finds the client with two bytes or more of a frame that is not whole. -/
theorem insensitive_iff {platform : Platform} {frames : List Frame} {events : List SocketEvent}
    (hvalid : ∀ frame ∈ frames, ValidFrame platform frame) (hreads : Reads events)
    (hbytes : received events <+: bytesOf frames) :
    Insensitive platform frames events ↔ NeverCut platform frames events :=
  ⟨neverCut_of_insensitive hvalid hreads hbytes, insensitive_of_neverCut hvalid hreads hbytes⟩

/-! ## The frame that is lost -/

/-- A parser that knows one document, and a socket that takes everything. -/
def benchPlatform : Platform where
  parse payload := if payload = [0x7b, 0x7d] then .ok (.object []) else .error "unexpected input"
  refusal _ := none

/-- The text frame of an empty object. -/
def benchFrame : Frame := ⟨true, .text, [0x7b, 0x7d]⟩

theorem benchFrame_valid : ∀ frame ∈ [benchFrame], ValidFrame benchPlatform frame := by
  intro frame hframe
  obtain rfl := List.mem_singleton.mp hframe
  exact ⟨⟨by decide, by decide, by decide⟩, fun _ => ⟨_, rfl⟩, fun h => nomatch h⟩

/-- The deadline passes between the header and the payload. -/
def splitEvents : List SocketEvent := [.received [0x81, 0x02], .expired, .received [0x7b, 0x7d]]

theorem insensitive_split :
    (∀ frame ∈ [benchFrame], ValidFrame benchPlatform frame) ∧
    received splitEvents = bytesOf [benchFrame] ∧
    (calls benchPlatform 3 (fresh splitEvents)).1 = [.error incomplete] ∧
    inOnePiece benchPlatform [benchFrame] = [.ok (.message (.object []))] ∧
    ¬Insensitive benchPlatform [benchFrame] splitEvents := by
  refine ⟨benchFrame_valid, by decide, ?_, ?_, fun h => ?_⟩
  · have hturn : (receiveTurn benchPlatform).exec (fresh splitEvents) =
        ((.error incomplete : Outcome).map some,
          ⟨{ buffered := [0x81, 0x02] }, [.received [0x7b, 0x7d]]⟩) := rfl
    have hcall : receiveJson benchPlatform (fresh splitEvents) = _ :=
      (if_pos rfl).trans (receiveLoop_ends _ hturn)
    rw [calls_ends _ _ _ (by rw [hcall]; rfl), hcall]
  · exact (inOnePiece_eq benchFrame_valid).trans rfl
  · have hnever := neverCut_of_insensitive benchFrame_valid (by decide) (by decide) h
    exact absurd (hnever [.received [0x81, 0x02]] _ rfl (.inr rfl)) (by decide)

/-- The same bytes with the deadline behind the first of them. -/
def lateEvents : List SocketEvent :=
  [.received [0x81], .expired, .received [0x02, 0x7b], .received [0x7d], .expired]

theorem insensitive_iff_late :
    Insensitive benchPlatform [benchFrame] lateEvents ↔
      NeverCut benchPlatform [benchFrame] lateEvents :=
  insensitive_iff benchFrame_valid (by decide) (by decide)

end MineTeleop.WebSocket
