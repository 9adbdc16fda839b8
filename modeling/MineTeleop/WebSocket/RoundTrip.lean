import MineTeleop.WebSocket.ClientReads
import MineTeleop.WebSocket.Server

/-!
# Frames from one end to the other

`frames_roundTrip`: each end reads what the other one writes, and takes nothing else for a frame.
-/

namespace MineTeleop.WebSocket

open Programs
open Service (Failure)

/-- A `std::string`, none of which is longer. -/
structure ByteString where
  bytes : List UInt8
  size : bytes.length < 2 ^ 63

/-- A payload up to the limit of the receiver, and up to 125 bytes in a control frame. -/
structure Fits (maxMessageBytes : ℕ) (opcode : Opcode) (payload : ByteString) : Prop where
  limit : payload.bytes.length ≤ maxMessageBytes
  control : opcode.Control → payload.bytes.length ≤ 125

theorem Fits.allows {rules : Rules} {opcode : Opcode} {payload : ByteString}
    (h : Fits rules.maxMessageBytes opcode payload) : rules.Allows ⟨true, opcode, payload.bytes⟩ :=
  ⟨h.limit, fun hcontrol => ⟨rfl, h.control hcontrol⟩, payload.size⟩

/-- What the second byte says of a length: the shortest form there is. -/
def lengthCode (size : ℕ) : ℕ := if size < 126 then size else if size ≤ 0xffff then 126 else 127

/-- The bytes of a frame with no reserved bit, masked or not, under the shortest length. -/
structure WellFormed (masked : Bool) (frame : Frame) (bytes : List UInt8) : Prop where
  written : ∃ key, key.isSome = masked ∧ bytes = frameBytes key frame
  header : ∃ first second behind, bytes = first :: second :: behind ∧ first &&& 0x70 = 0 ∧
    decide (second &&& 0x80 ≠ 0) = masked ∧
    (second &&& 0x7f).toNat = lengthCode frame.payload.length
  control : frame.opcode.Control → frame.final = true ∧ frame.payload.length ≤ 125

theorem lengthBytes_head {rules : Rules} {key : Option MaskingKey}
    (hkey : key.isSome = rules.masked) (size : ℕ) :
    ∃ second behind, lengthBytes (maskBit key) size = second :: behind ∧
      decide (second &&& 0x80 ≠ 0) = rules.masked ∧ (second &&& 0x7f).toNat = lengthCode size := by
  unfold lengthBytes lengthCode
  by_cases hsmall : size < 126
  · have hlength := length_byte hsmall
    obtain ⟨hmask, hcode⟩ := Rules.masked_byte hkey (UInt8.ofNat size) (by omega)
    rw [if_pos hsmall, if_pos hsmall]
    exact ⟨_, _, rfl, hmask, by rw [hcode, hlength]⟩
  rw [if_neg hsmall, if_neg hsmall]
  by_cases hmiddle : size ≤ 0xffff
  · obtain ⟨hmask, hcode⟩ := Rules.masked_byte hkey 126 (by decide)
    rw [if_pos hmiddle, if_pos hmiddle]
    exact ⟨_, _, rfl, hmask, by rw [hcode]; rfl⟩
  · obtain ⟨hmask, hcode⟩ := Rules.masked_byte hkey 127 (by decide)
    rw [if_neg hmiddle, if_neg hmiddle]
    exact ⟨_, _, rfl, hmask, by rw [hcode]; rfl⟩

theorem Rules.decode_wellFormed {rules : Rules} {bytes rest : List UInt8} {frame : Frame}
    (h : rules.decode bytes = .ok (frame, rest)) :
    ∃ front, bytes = front ++ rest ∧ WellFormed rules.masked frame front := by
  obtain ⟨⟨key, hkey, hbytes⟩, -, hcontrol⟩ := Rules.decode_ok h
  obtain ⟨second, behind, hlength, hmask, hcode⟩ := lengthBytes_head hkey frame.payload.length
  obtain ⟨hreserved, -, -⟩ := first_byte frame.final frame.opcode
  refine ⟨frameBytes key frame, hbytes, ⟨key, hkey, rfl⟩, ?_, hcontrol⟩
  refine ⟨_, second, behind ++ keyBytes key ++ under key frame.payload, ?_, hreserved, hmask, hcode⟩
  unfold frameBytes
  rw [hlength]
  rfl

namespace ServerWebSocketConnection

/-- The server reads the frame of the client and leaves what is behind it. -/
theorem receiveFrame_sendFrame {maxMessageBytes : ℕ} {opcode : Opcode} {payload : ByteString}
    (h : Fits maxMessageBytes opcode payload) (mask : MaskingKey) (rest : List UInt8)
    (closed : Bool) :
    (receiveFrame maxMessageBytes).exec
        ⟨WebSocketClient.sendFrame mask opcode payload.bytes ++ rest, closed⟩ =
      (.ok ⟨true, opcode, payload.bytes⟩, ⟨rest, closed⟩) :=
  (receiveFrame_follows maxMessageBytes _ _ _).mpr
    ⟨rest, Rules.decode_frameBytes (some mask) rfl h.allows rest, rfl⟩

theorem receiveFrame_wellFormed {maxMessageBytes : ℕ} {socket socket' : Socket} {frame : Frame}
    (h : (receiveFrame maxMessageBytes).exec socket = (.ok frame, socket')) :
    ∃ front, socket.arrived = front ++ socket'.arrived ∧ WellFormed true frame front := by
  obtain ⟨rest, hdecode, rfl⟩ := (receiveFrame_follows maxMessageBytes socket frame socket').mp h
  exact Rules.decode_wellFormed hdecode

end ServerWebSocketConnection

namespace WebSocketClient

/-- The client reads the frame of the server from its buffer and leaves what is behind it. -/
theorem readFrame_sendFrame {opcode : Opcode} {payload : ByteString}
    (h : Fits rules.maxMessageBytes opcode payload) (client : WebSocketClient)
    (rest : List UInt8) (events : List SocketEvent)
    (hbuffer : client.buffered =
      ServerWebSocketConnection.sendFrame opcode payload.bytes ++ rest) :
    readFrame.exec ⟨client, events⟩ =
      (.ok (some ⟨true, opcode, payload.bytes⟩), ⟨{ client with buffered := rest }, events⟩) := by
  have hdecode : rules.decode client.buffered = .ok (⟨true, opcode, payload.bytes⟩, rest) := by
    rw [hbuffer]
    exact Rules.decode_frameBytes none rfl h.allows rest
  -- Whatever comes later, the decoding of the buffer stands.
  have hmore : ∀ more, rules.decode (client.fed more).buffered =
      .ok (⟨true, opcode, payload.bytes⟩, rest ++ more) := by
    intro more
    have hextends := Rules.decode_append rules client.buffered more
    rw [hdecode] at hextends
    exact hextends
  have hread := readFrame_read ⟨client, events⟩
  generalize readFrame.exec ⟨client, events⟩ = out at hread
  cases hread with
  | frame used events' hevents hflow frame rest' hneeded hframe =>
    have hused : used = [] := by
      by_contra hne
      cases (hneeded hne).symm.trans hdecode
    subst hused
    rw [received_nil, fed_nil] at hframe
    cases hdecode.symm.trans hframe
    cases hevents
    rfl
  | refused used events' hevents hflow failure hrefused =>
    cases (hmore _).symm.trans hrefused
  | idle used events' rest' hevents hflow hdries hsize =>
    cases (hmore _).symm.trans (decode_bare hsize)
  | cut used events' rest' hevents hflow hdries hsize hshort =>
    cases (hmore _).symm.trans hshort
  | broken used events' rest' hevents hbreaks hneeded ended hended client' =>
    cases hneeded.symm.trans hdecode

theorem readFrame_wellFormed {wire wire' : Wire} {frame : Frame}
    (h : readFrame.exec wire = (.ok (some frame), wire')) :
    ∃ used front, wire.events = used ++ wire'.events ∧
      wire.client.buffered ++ received used = front ++ wire'.client.buffered ∧
      WellFormed false frame front := by
  have hread := readFrame_read wire
  rw [h] at hread
  cases hread with
  | frame used events hevents hflow frame rest hneeded hdecode =>
    obtain ⟨front, hfront, hwell⟩ := Rules.decode_wellFormed hdecode
    exact ⟨used, front, hevents, hfront, hwell⟩
  | broken used events rest hevents hbreaks hneeded ended hended client =>
    exact absurd rfl (hended frame)

end WebSocketClient

/-- Between two states the server takes some bytes from the socket. -/
def ServerTakes (socket socket' : Socket) (bytes : List UInt8) : Prop :=
  socket.arrived = bytes ++ socket'.arrived

/-- Between two states the client takes some bytes from its buffer and from what comes. -/
def ClientTakes (wire wire' : Wire) (bytes : List UInt8) : Prop :=
  ∃ used, wire.events = used ++ wire'.events ∧
    wire.client.buffered ++ received used = bytes ++ wire'.client.buffered

theorem ServerTakes.unique {socket socket' : Socket} {bytes bytes' : List UInt8}
    (h : ServerTakes socket socket' bytes) (h' : ServerTakes socket socket' bytes') :
    bytes = bytes' :=
  List.append_cancel_right (h.symm.trans h')

theorem ClientTakes.unique {wire wire' : Wire} {bytes bytes' : List UInt8}
    (h : ClientTakes wire wire' bytes) (h' : ClientTakes wire wire' bytes') : bytes = bytes' := by
  obtain ⟨used, hevents, hbytes⟩ := h
  obtain ⟨used', hevents', hbytes'⟩ := h'
  obtain rfl : used = used' := List.append_cancel_right (hevents.symm.trans hevents')
  exact List.append_cancel_right (hbytes.symm.trans hbytes')

/-- What the server takes for a frame. -/
theorem ServerWebSocketConnection.receiveFrame_takes {maxMessageBytes : ℕ} {socket socket' : Socket}
    {frame : Frame} (h : (receiveFrame maxMessageBytes).exec socket = (.ok frame, socket')) :
    ∃ mask, ServerTakes socket socket' (frameBytes (some mask) frame) ∧
      WellFormed true frame (frameBytes (some mask) frame) := by
  obtain ⟨front, hfront, hwell⟩ := receiveFrame_wellFormed h
  obtain ⟨key, hkey, rfl⟩ := hwell.written
  obtain ⟨mask, rfl⟩ := Option.isSome_iff_exists.mp hkey
  exact ⟨mask, hfront, hwell⟩

theorem WebSocketClient.readFrame_takes {wire wire' : Wire} {frame : Frame}
    (h : readFrame.exec wire = (.ok (some frame), wire')) :
    ClientTakes wire wire' (frameBytes none frame) ∧
      WellFormed false frame (frameBytes none frame) := by
  obtain ⟨used, front, hevents, hfront, hwell⟩ := readFrame_wellFormed h
  obtain ⟨key, hkey, rfl⟩ := hwell.written
  cases key with
  | none => exact ⟨⟨used, hevents, hfront⟩, hwell⟩
  | some mask => cases hkey

/-- Each end reads what the other one writes and leaves what is behind it; what it takes for a frame
is well formed, and is the only way to write the frame, but for the key. -/
theorem frames_roundTrip (maxMessageBytes : ℕ) :
    (∀ opcode payload, Fits maxMessageBytes opcode payload → ∀ mask rest closed,
      (ServerWebSocketConnection.receiveFrame maxMessageBytes).exec
          ⟨WebSocketClient.sendFrame mask opcode payload.bytes ++ rest, closed⟩ =
        (.ok ⟨true, opcode, payload.bytes⟩, ⟨rest, closed⟩)) ∧
    (∀ opcode payload, Fits (8 * 1024 * 1024) opcode payload → ∀ client rest events,
      client.buffered = ServerWebSocketConnection.sendFrame opcode payload.bytes ++ rest →
      WebSocketClient.readFrame.exec ⟨client, events⟩ =
        (.ok (some ⟨true, opcode, payload.bytes⟩), ⟨{ client with buffered := rest }, events⟩)) ∧
    (∀ socket socket' frame bytes,
      (ServerWebSocketConnection.receiveFrame maxMessageBytes).exec socket = (.ok frame, socket') →
      ServerTakes socket socket' bytes →
      WellFormed true frame bytes ∧ ∃ mask, bytes = frameBytes (some mask) frame) ∧
    (∀ wire wire' frame bytes, WebSocketClient.readFrame.exec wire = (.ok (some frame), wire') →
      ClientTakes wire wire' bytes → WellFormed false frame bytes ∧ bytes = frameBytes none frame) ∧
    (∀ socket frame socket',
      (ServerWebSocketConnection.receiveFrame maxMessageBytes).exec socket = (.ok frame, socket') →
      ∃ bytes, ServerTakes socket socket' bytes) ∧
    ∀ wire frame wire', WebSocketClient.readFrame.exec wire = (.ok (some frame), wire') →
      ∃ bytes, ClientTakes wire wire' bytes := by
  refine ⟨fun opcode payload hfits mask rest closed => ?_,
    fun opcode payload hfits client rest events hbuffer => ?_,
    fun socket socket' frame bytes hread htakes => ?_, fun wire wire' frame bytes hread htakes => ?_,
    fun socket frame socket' hread => ?_, fun wire frame wire' hread => ?_⟩
  · exact ServerWebSocketConnection.receiveFrame_sendFrame hfits mask rest closed
  · exact WebSocketClient.readFrame_sendFrame hfits client rest events hbuffer
  · obtain ⟨mask, htaken, hwell⟩ := ServerWebSocketConnection.receiveFrame_takes hread
    obtain rfl := htakes.unique htaken
    exact ⟨hwell, mask, rfl⟩
  · obtain ⟨htaken, hwell⟩ := WebSocketClient.readFrame_takes hread
    obtain rfl := htakes.unique htaken
    exact ⟨hwell, rfl⟩
  · obtain ⟨mask, htaken, -⟩ := ServerWebSocketConnection.receiveFrame_takes hread
    exact ⟨_, htaken⟩
  · exact ⟨_, (WebSocketClient.readFrame_takes hread).1⟩

end MineTeleop.WebSocket
