import MineTeleop.Library.Bytes
import MineTeleop.Service.Command

/-!
# WebSocket frames

What the two ends write and what they take for a frame.  The ends differ in the masking, in the
limit and in the texts of their exceptions, which is what `Rules` holds.  Proved here of any rules:

* `Rules.decode_frameBytes`: a frame that is within the rules is read back, and what follows stays;
* `Rules.decode_ok`: nothing else is taken for it, but for the key;
* `Rules.decode_append`: what has been read or refused does not depend on what follows;
* `Rules.decode_short`: a frame that is not all there yet is neither read nor refused.
-/

namespace MineTeleop.WebSocket

open Bytes
open Service (Failure bind_ok)

/-! ## Frames -/

inductive Opcode where
  | text
  | close
  | ping
  | pong
  deriving DecidableEq

namespace Opcode

def code : Opcode → UInt8
  | .text => 0x1
  | .close => 0x8
  | .ping => 0x9
  | .pong => 0xa

/-- `supported_websocket_opcode`, with the opcode. -/
def supported? (code : UInt8) : Option Opcode :=
  if code = 0x1 then some .text
  else if code = 0x8 then some .close
  else if code = 0x9 then some .ping
  else if code = 0xa then some .pong
  else none

def Control (opcode : Opcode) : Prop := opcode = .close ∨ opcode = .ping ∨ opcode = .pong

instance (opcode : Opcode) : Decidable opcode.Control := inferInstanceAs (Decidable (_ ∨ _))

end Opcode

structure Frame where
  final : Bool
  opcode : Opcode
  payload : List UInt8
  deriving DecidableEq

abbrev MaskingKey := Fin 4 → UInt8

/-- The four bytes of a key as they are read. -/
def MaskingKey.ofBytes (bytes : List UInt8) : MaskingKey := fun i => bytes.getD i 0

/-! ## Writing -/

def lengthBytes (maskBit : UInt8) (size : ℕ) : List UInt8 :=
  if size < 126 then [maskBit ||| UInt8.ofNat size]
  else if size ≤ 0xffff then (maskBit ||| 126) :: bigEndian 2 size
  else (maskBit ||| 127) :: bigEndian 8 size

def maskBit (key : Option MaskingKey) : UInt8 := if key.isSome then 0x80 else 0

def keyBytes : Option MaskingKey → List UInt8
  | some key => List.ofFn key
  | none => []

def under (key : Option MaskingKey) (payload : List UInt8) : List UInt8 :=
  match key with
  | some key => masked key payload
  | none => payload

def frameBytes (key : Option MaskingKey) (frame : Frame) : List UInt8 :=
  ((if frame.final then 0x80 else 0) ||| frame.opcode.code) ::
    (lengthBytes (maskBit key) frame.payload.length ++ keyBytes key ++ under key frame.payload)

/-- `ServerWebSocketConnection::send_frame`: what goes over the socket. -/
def ServerWebSocketConnection.sendFrame (opcode : Opcode) (payload : List UInt8) : List UInt8 :=
  frameBytes none ⟨true, opcode, payload⟩

/-- `WebSocketClient::Impl::send_frame`, under the key it has drawn. -/
def WebSocketClient.sendFrame (mask : MaskingKey) (opcode : Opcode) (payload : List UInt8) :
    List UInt8 :=
  frameBytes (some mask) ⟨true, opcode, payload⟩

/-! ## Reading -/

structure Rules where
  masked : Bool
  maxMessageBytes : ℕ
  failure : String → Failure
  reservedBits : String
  wrongMask : String
  unsupportedOpcode : String
  badControl : String

def ServerWebSocketConnection.rules (maxMessageBytes : ℕ) : Rules where
  masked := true
  maxMessageBytes := maxMessageBytes
  failure := .invalidArgument
  reservedBits := "websocket reserved bits are not supported"
  wrongMask := "client websocket frames must be masked"
  unsupportedOpcode := "unsupported websocket opcode"
  badControl := "websocket control frames must be complete and no longer than 125 bytes"

def WebSocketClient.rules : Rules where
  masked := false
  maxMessageBytes := 8 * 1024 * 1024
  failure := .runtimeError
  reservedBits := "websocket server used unsupported reserved bits"
  wrongMask := "websocket server frame must not be masked"
  unsupportedOpcode := "websocket server used an unsupported opcode"
  badControl := "invalid websocket control frame"

/-- Why no frame is read: there are too few bytes, or wrong ones. -/
inductive Stop where
  | short
  | refused (failure : Failure)
  deriving DecidableEq

/-- How many bytes of length there are behind the first two bytes. -/
def extendedSize (second : UInt8) : ℕ :=
  if second &&& 0x7f = 126 then 2 else if second &&& 0x7f = 127 then 8 else 0

def take (size : ℕ) (bytes : List UInt8) : Except Stop (List UInt8 × List UInt8) :=
  if size ≤ bytes.length then .ok (bytes.take size, bytes.drop size) else .error .short

namespace Rules

variable (rules : Rules)

def refuse {α : Type} (what : String) : Except Failure α := .error (rules.failure what)

def checkHeader (first second : UInt8) : Except Failure Opcode :=
  if first &&& 0x70 ≠ 0 then rules.refuse rules.reservedBits
  else if decide (second &&& 0x80 ≠ 0) ≠ rules.masked then rules.refuse rules.wrongMask
  else
    match Opcode.supported? (first &&& 0x0f) with
    | none => rules.refuse rules.unsupportedOpcode
    | some opcode => .ok opcode

def payloadSize (second : UInt8) (extended : List UInt8) : Except Failure ℕ :=
  let length := ofBigEndian extended
  if second &&& 0x7f = 126 then
    if length < 126 then rules.refuse "websocket frame length is not minimally encoded"
    else .ok length
  else if second &&& 0x7f = 127 then
    if extended.headD 0 &&& 0x80 ≠ 0 then rules.refuse "invalid websocket frame length"
    else if length ≤ 0xffff then rules.refuse "websocket frame length is not minimally encoded"
    else .ok length
  else .ok (second &&& 0x7f).toNat

def checkSize (first : UInt8) (opcode : Opcode) (size : ℕ) : Except Failure Unit :=
  if opcode.Control ∧ (first &&& 0x80 = 0 ∨ 125 < size) then rules.refuse rules.badControl
  else if rules.maxMessageBytes < size then rules.refuse "websocket message too large"
  else .ok ()

def keySize : ℕ := if rules.masked then 4 else 0

def unmask (key payload : List UInt8) : List UInt8 :=
  if rules.masked then Bytes.masked (MaskingKey.ofBytes key) payload else payload

/-- The frame at the front of some bytes, and the bytes behind it. -/
def decode : List UInt8 → Except Stop (Frame × List UInt8)
  | first :: second :: rest => do
    let opcode ← (rules.checkHeader first second).mapError .refused
    let (extended, rest) ← take (extendedSize second) rest
    let size ← (rules.payloadSize second extended).mapError .refused
    (rules.checkSize first opcode size).mapError .refused
    let (key, rest) ← take rules.keySize rest
    let (payload, rest) ← take size rest
    .ok (⟨decide (first &&& 0x80 ≠ 0), opcode, rules.unmask key payload⟩, rest)
  | _ => .error .short

/-- What the rules say about a frame, and that a length has a bit less than its eight bytes. -/
structure Allows (frame : Frame) : Prop where
  size : frame.payload.length ≤ rules.maxMessageBytes
  control : frame.opcode.Control → frame.final = true ∧ frame.payload.length ≤ 125
  length : frame.payload.length < 2 ^ 63

end Rules

/-! ## Bytes of a header -/

theorem supported_code (opcode : Opcode) : Opcode.supported? opcode.code = some opcode := by
  cases opcode <;> rfl

theorem code_of_supported {code : UInt8} {opcode : Opcode}
    (h : Opcode.supported? code = some opcode) : opcode.code = code := by
  unfold Opcode.supported? at h
  split at h
  · cases h
    exact Eq.symm (by assumption)
  split at h
  · cases h
    exact Eq.symm (by assumption)
  split at h
  · cases h
    exact Eq.symm (by assumption)
  split at h
  · cases h
    exact Eq.symm (by assumption)
  · cases h

theorem first_byte (final : Bool) (opcode : Opcode) :
    let first := (if final then 0x80 else 0) ||| opcode.code
    first &&& 0x70 = 0 ∧ first &&& 0x0f = opcode.code ∧ decide (first &&& 0x80 ≠ 0) = final := by
  cases final <;> cases opcode <;> decide

/-- What the two bytes that begin a frame are made of. -/
theorem frame_bytes : ∀ byte : UInt8,
    (byte &&& 0x70 = 0 →
      (if decide (byte &&& 0x80 ≠ 0) then 0x80 else 0) ||| (byte &&& 0x0f) = byte) ∧
    (byte.toNat < 128 →
      ((0x80 ||| byte) &&& 0x80 ≠ 0 ∧ (0x80 ||| byte) &&& 0x7f = byte) ∧
      (0 ||| byte) &&& 0x80 = 0 ∧ (0 ||| byte) &&& 0x7f = byte) ∧
    ((if decide (byte &&& 0x80 ≠ 0) then 0x80 else 0) ||| (byte &&& 0x7f) = byte ∧
      (byte &&& 0x7f).toNat < 128) ∧
    (byte.toNat < 128 → byte &&& 0x80 = 0) :=
  forall_byte (by decide +kernel)

theorem first_byte_split (first : UInt8) :
    first &&& 0x70 = 0 →
      (if decide (first &&& 0x80 ≠ 0) then 0x80 else 0) ||| (first &&& 0x0f) = first :=
  (frame_bytes first).1

theorem second_byte (code : UInt8) :
    code.toNat < 128 →
      ((0x80 ||| code) &&& 0x80 ≠ 0 ∧ (0x80 ||| code) &&& 0x7f = code) ∧
      (0 ||| code) &&& 0x80 = 0 ∧ (0 ||| code) &&& 0x7f = code :=
  (frame_bytes code).2.1

theorem second_byte_split (second : UInt8) :
    (if decide (second &&& 0x80 ≠ 0) then 0x80 else 0) ||| (second &&& 0x7f) = second ∧
      (second &&& 0x7f).toNat < 128 :=
  (frame_bytes second).2.2.1

theorem high_bit_clear (byte : UInt8) : byte.toNat < 128 → byte &&& 0x80 = 0 :=
  (frame_bytes byte).2.2.2

theorem keyBytes_ofBytes {bytes : List UInt8} (h : bytes.length = 4) :
    List.ofFn (MaskingKey.ofBytes bytes) = bytes := by
  refine List.ext_getElem (by simp [h]) fun i hi _ => ?_
  rw [List.getElem_ofFn]
  exact (List.getElem_eq_getD 0).symm

theorem ofBytes_keyBytes (key : MaskingKey) : MaskingKey.ofBytes (List.ofFn key) = key := by
  funext i
  unfold MaskingKey.ofBytes
  have hi : i.val < (List.ofFn key).length := by simp
  rw [← List.getElem_eq_getD (h := hi), List.getElem_ofFn]

theorem mapError_ok {α : Type} {x : Except Failure α} {a : α}
    (h : x.mapError Stop.refused = .ok a) : x = .ok a := by
  cases x with
  | ok b => exact congrArg Except.ok (Except.ok.inj h)
  | error failure => cases h

theorem take_append {size : ℕ} {bytes rest : List UInt8} (h : bytes.length = size) :
    take size (bytes ++ rest) = .ok (bytes, rest) := by
  unfold take
  rw [if_pos (by rw [List.length_append]; omega), List.take_left' h, List.drop_left' h]

theorem take_ok {size : ℕ} {bytes part rest : List UInt8} (h : take size bytes = .ok (part, rest)) :
    bytes = part ++ rest ∧ part.length = size := by
  unfold take at h
  split at h
  · cases h
    exact ⟨(List.take_append_drop size bytes).symm, List.length_take_of_le (by assumption)⟩
  · cases h

/-! ## The length -/

theorem length_byte {size : ℕ} (h : size < 126) :
    (UInt8.ofNat size).toNat = size := by
  rw [UInt8.toNat_ofNat', Nat.mod_eq_of_lt (by omega)]

namespace Rules

variable {rules : Rules} {key : Option MaskingKey} {frame : Frame} {second : UInt8}
  {bytes rest : List UInt8}

theorem masked_byte (hkey : key.isSome = rules.masked) (code : UInt8) (hcode : code.toNat < 128) :
    decide ((maskBit key ||| code) &&& 0x80 ≠ 0) = rules.masked ∧
      (maskBit key ||| code) &&& 0x7f = code := by
  obtain ⟨⟨hset, hmasked⟩, hclear, hplain⟩ := second_byte code hcode
  unfold maskBit
  rw [← hkey]
  cases key with
  | none => exact ⟨decide_eq_false (not_not.mpr hclear), hplain⟩
  | some _ => exact ⟨decide_eq_true hset, hmasked⟩

/-- The length as it is written: the second byte, and the extended length that it announces. -/
theorem lengthBytes_eq (hkey : key.isSome = rules.masked) {size : ℕ} (hsize : size < 2 ^ 63) :
    ∃ second extended, lengthBytes (maskBit key) size = second :: extended ∧
      decide (second &&& 0x80 ≠ 0) = rules.masked ∧ extended.length = extendedSize second ∧
      rules.payloadSize second extended = .ok size := by
  unfold lengthBytes extendedSize payloadSize
  by_cases hsmall : size < 126
  · have hlength := length_byte hsmall
    obtain ⟨hmask, hcode⟩ := masked_byte hkey (UInt8.ofNat size) (by omega)
    have hne : ∀ code : UInt8, 126 ≤ code.toNat → UInt8.ofNat size ≠ code := by
      rintro code hcode rfl
      omega
    rw [if_pos hsmall]
    refine ⟨_, _, rfl, hmask, ?_, ?_⟩
    · rw [hcode, if_neg (hne 126 (by decide)), if_neg (hne 127 (by decide))]
      rfl
    · rw [hcode]
      dsimp only
      rw [if_neg (hne 126 (by decide)), if_neg (hne 127 (by decide)), hlength]
  by_cases hmiddle : size ≤ 0xffff
  · obtain ⟨hmask, hcode⟩ := masked_byte hkey 126 (by decide)
    rw [if_neg hsmall, if_pos hmiddle]
    refine ⟨_, _, rfl, hmask, ?_, ?_⟩
    · rw [hcode, if_pos rfl, length_bigEndian]
    · have hvalue : ofBigEndian (bigEndian 2 size) = size := by
        rw [ofBigEndian_bigEndian, Nat.mod_eq_of_lt (by omega)]
      rw [hcode]
      dsimp only
      rw [if_pos rfl, hvalue, if_neg hsmall]
  · obtain ⟨hmask, hcode⟩ := masked_byte hkey 127 (by decide)
    rw [if_neg hsmall, if_neg hmiddle]
    refine ⟨_, _, rfl, hmask, ?_, ?_⟩
    · rw [hcode, if_neg (by decide), if_pos rfl, length_bigEndian]
    · have hvalue : ofBigEndian (bigEndian 8 size) = size := by
        rw [ofBigEndian_bigEndian, Nat.mod_eq_of_lt (by omega)]
      have hhigh : (bigEndian 8 size).headD 0 &&& 0x80 = 0 := by
        refine high_bit_clear _ ?_
        rw [bigEndian, List.headD_cons, UInt8.toNat_ofNat', Nat.shiftRight_eq_div_pow]
        omega
      rw [hcode]
      dsimp only
      rw [if_neg (by decide), if_pos rfl, hvalue, if_neg (not_not.mpr hhigh), if_neg hmiddle]

/-- No other bytes are taken for the length. -/
theorem lengthBytes_of_payloadSize {second : UInt8} {extended : List UInt8} {size : ℕ}
    (hmask : decide (second &&& 0x80 ≠ 0) = key.isSome)
    (hextended : extended.length = extendedSize second)
    (h : rules.payloadSize second extended = .ok size) :
    lengthBytes (maskBit key) size = second :: extended := by
  obtain ⟨hsecond, hcode⟩ := second_byte_split second
  rw [hmask] at hsecond
  unfold extendedSize at hextended
  unfold payloadSize at h
  dsimp only at h
  unfold lengthBytes maskBit
  by_cases h126 : second &&& 0x7f = 126
  · rw [if_pos h126] at h hextended
    rw [h126] at hsecond
    split at h
    · cases h
    rename_i hminimal
    cases h
    have hlt := ofBigEndian_lt extended
    rw [hextended] at hlt
    rw [if_neg hminimal, if_pos (by omega), hsecond, ← hextended, bigEndian_ofBigEndian]
  by_cases h127 : second &&& 0x7f = 127
  · rw [if_neg h126, if_pos h127] at h hextended
    rw [h127] at hsecond
    split at h
    · cases h
    split at h
    · cases h
    rename_i hminimal
    cases h
    rw [if_neg (by omega), if_neg hminimal, hsecond, ← hextended, bigEndian_ofBigEndian]
  · rw [if_neg h126, if_neg h127] at h hextended
    cases h
    obtain rfl := List.length_eq_zero_iff.mp hextended
    have hsmall : (second &&& 0x7f).toNat < 126 := by
      have hne : ∀ code : UInt8, second &&& 0x7f ≠ code → (second &&& 0x7f).toNat ≠ code.toNat :=
        fun code hne heq => hne (UInt8.toNat_inj.mp heq)
      have h6 : _ ≠ 126 := hne 126 h126
      have h7 : _ ≠ 127 := hne 127 h127
      omega
    rw [if_pos hsmall, UInt8.ofNat_toNat, hsecond]

/-! ## Whole frames -/

theorem checkHeader_first (hmask : decide (second &&& 0x80 ≠ 0) = rules.masked) :
    rules.checkHeader ((if frame.final then 0x80 else 0) ||| frame.opcode.code) second =
      .ok frame.opcode := by
  obtain ⟨hreserved, hcode, -⟩ := first_byte frame.final frame.opcode
  unfold checkHeader
  rw [if_neg (not_not.mpr hreserved), if_neg (not_not.mpr hmask), hcode, supported_code]

theorem checkHeader_ok {first : UInt8} {opcode : Opcode}
    (h : rules.checkHeader first second = .ok opcode) :
    first &&& 0x70 = 0 ∧ decide (second &&& 0x80 ≠ 0) = rules.masked ∧
      opcode.code = first &&& 0x0f := by
  unfold checkHeader at h
  split at h
  · cases h
  rename_i hreserved
  split at h
  · cases h
  rename_i hmask
  split at h
  · cases h
  rename_i hopcode
  cases h
  exact ⟨not_not.mp hreserved, not_not.mp hmask, code_of_supported hopcode⟩

theorem checkSize_allowed (h : rules.Allows frame) {first : UInt8}
    (hfinal : decide (first &&& 0x80 ≠ 0) = frame.final) :
    rules.checkSize first frame.opcode frame.payload.length = .ok () := by
  unfold checkSize
  have hcontrol : ¬(frame.opcode.Control ∧ (first &&& 0x80 = 0 ∨ 125 < frame.payload.length)) := by
    rintro ⟨hcontrol, hbad⟩
    obtain ⟨htrue, hshort⟩ := h.control hcontrol
    rcases hbad with hclear | hlong
    · exact of_decide_eq_true (hfinal.trans htrue) hclear
    · omega
  rw [if_neg hcontrol, if_neg (not_lt.mpr h.size)]

theorem checkSize_ok {first : UInt8} {opcode : Opcode} {size : ℕ} {u : Unit}
    (h : rules.checkSize first opcode size = .ok u) :
    (opcode.Control → first &&& 0x80 ≠ 0 ∧ size ≤ 125) ∧ size ≤ rules.maxMessageBytes := by
  unfold checkSize at h
  split at h
  · cases h
  rename_i hcontrol
  split at h
  · cases h
  rename_i hsize
  refine ⟨fun hopcode => ⟨fun hclear => ?_, ?_⟩, not_lt.mp hsize⟩
  · exact hcontrol ⟨hopcode, .inl hclear⟩
  · exact not_lt.mp fun hlong => hcontrol ⟨hopcode, .inr hlong⟩

theorem unmask_under (hkey : key.isSome = rules.masked) (payload : List UInt8) :
    rules.unmask (keyBytes key) (under key payload) = payload := by
  unfold unmask
  rw [← hkey]
  cases key with
  | none => rfl
  | some key =>
    rw [if_pos (by rfl), keyBytes, ofBytes_keyBytes]
    exact masked_masked key payload

theorem length_keyBytes (hkey : key.isSome = rules.masked) :
    (keyBytes key).length = rules.keySize := by
  unfold keySize
  rw [← hkey]
  cases key with
  | none => rfl
  | some key => exact List.length_ofFn

@[simp] theorem length_under (key : Option MaskingKey) (payload : List UInt8) :
    (under key payload).length = payload.length := by
  cases key with
  | none => rfl
  | some key => exact length_masked key payload

/-- A frame that the rules allow is read back, and what follows is left alone. -/
theorem decode_frameBytes (key : Option MaskingKey) (hkey : key.isSome = rules.masked) (hallows : rules.Allows frame)
    (rest : List UInt8) : rules.decode (frameBytes key frame ++ rest) = .ok (frame, rest) := by
  obtain ⟨second, extended, hlength, hmask, hextended, hsize⟩ := lengthBytes_eq hkey hallows.length
  obtain ⟨-, -, hfinal⟩ := first_byte frame.final frame.opcode
  have hbytes : frameBytes key frame ++ rest =
      ((if frame.final then 0x80 else 0) ||| frame.opcode.code) :: second ::
        (extended ++ (keyBytes key ++ (under key frame.payload ++ rest))) := by
    unfold frameBytes
    rw [hlength]
    simp only [List.cons_append, List.append_assoc]
  rw [hbytes, decode, checkHeader_first hmask]
  simp only [bind, Except.bind, Except.mapError]
  rw [take_append hextended]
  dsimp only
  rw [hsize]
  dsimp only
  rw [checkSize_allowed hallows hfinal]
  dsimp only
  rw [take_append (length_keyBytes hkey)]
  dsimp only
  rw [take_append (length_under key _)]
  dsimp only
  rw [unmask_under hkey, hfinal]

theorem under_unmask {keyPart : List UInt8} (payload : List UInt8) (hkey : keyPart.length = rules.keySize) :
    ∃ key : Option MaskingKey, key.isSome = rules.masked ∧ keyBytes key = keyPart ∧
      under key (rules.unmask keyPart payload) = payload := by
  unfold keySize at hkey
  unfold unmask
  cases hmasked : rules.masked with
  | false =>
    rw [hmasked] at hkey
    obtain rfl := List.length_eq_zero_iff.mp hkey
    exact ⟨none, rfl, rfl, rfl⟩
  | true =>
    rw [hmasked] at hkey
    exact ⟨some (MaskingKey.ofBytes keyPart), rfl, keyBytes_ofBytes hkey, masked_masked _ payload⟩

/-- What is taken for a frame is one that the rules allow, as it is written under some key. -/
theorem decode_ok (h : rules.decode bytes = .ok (frame, rest)) :
    (∃ key, key.isSome = rules.masked ∧ bytes = frameBytes key frame ++ rest) ∧
      frame.payload.length ≤ rules.maxMessageBytes ∧
      (frame.opcode.Control → frame.final = true ∧ frame.payload.length ≤ 125) := by
  unfold decode at h
  split at h
  case h_2 => cases h
  rename_i first second tail
  obtain ⟨opcode, hheader, h⟩ := bind_ok h
  obtain ⟨⟨extended, afterLength⟩, hextended, h⟩ := bind_ok h
  obtain ⟨size, hsize, h⟩ := bind_ok h
  obtain ⟨_, hcheck, h⟩ := bind_ok h
  obtain ⟨⟨keyPart, afterKey⟩, hkeyPart, h⟩ := bind_ok h
  obtain ⟨⟨payload, afterPayload⟩, hpayload, h⟩ := bind_ok h
  cases h
  obtain ⟨hreserved, hmask, hopcode⟩ := checkHeader_ok (mapError_ok hheader)
  obtain ⟨rfl, hextendedSize⟩ := take_ok hextended
  obtain ⟨rfl, hkeySize⟩ := take_ok hkeyPart
  obtain ⟨rfl, hpayloadSize⟩ := take_ok hpayload
  obtain ⟨hcontrol, hmax⟩ := checkSize_ok (mapError_ok hcheck)
  obtain ⟨key, hkey, hkeyBytes, hunder⟩ := under_unmask payload hkeySize
  have hunmasked : (rules.unmask keyPart payload).length = size := by
    rw [← hpayloadSize, ← length_under key, hunder]
  have hlength := lengthBytes_of_payloadSize (hmask.trans hkey.symm) hextendedSize
    (mapError_ok hsize)
  refine ⟨⟨key, hkey, ?_⟩, hunmasked ▸ hmax, fun hopcode => ?_⟩
  · unfold frameBytes
    dsimp only
    rw [hunmasked, hlength, hkeyBytes, hunder, hopcode, first_byte_split first hreserved]
    simp only [List.cons_append, List.append_assoc]
  · dsimp only
    obtain ⟨hset, hshort⟩ := hcontrol hopcode
    exact ⟨decide_eq_true hset, hunmasked ▸ hshort⟩

/-! ## Parts of a frame -/

theorem take_append_of_ok {size : ℕ} {bytes part rest : List UInt8}
    (h : take size bytes = .ok (part, rest)) (more : List UInt8) :
    take size (bytes ++ more) = .ok (part, rest ++ more) := by
  obtain ⟨rfl, hlength⟩ := take_ok h
  rw [List.append_assoc, take_append hlength]

/-- `later` says what `now` says, with more bytes left, unless `now` is short of bytes. -/
def Extends (more : List UInt8) (now later : Except Stop (Frame × List UInt8)) : Prop :=
  match now with
  | .ok (frame, rest) => later = .ok (frame, rest ++ more)
  | .error (.refused failure) => later = .error (.refused failure)
  | .error .short => True

theorem Extends.bind {α : Type} {more : List UInt8} (x : Except Stop α)
    {f g : α → Except Stop (Frame × List UInt8)} (h : ∀ a, x = .ok a → Extends more (f a) (g a)) :
    Extends more (x >>= f) (x >>= g) := by
  cases x with
  | ok a => exact h a rfl
  | error stop =>
    cases stop with
    | short => trivial
    | refused failure => rfl

theorem Extends.take {more bytes : List UInt8} {size : ℕ}
    {f g : List UInt8 × List UInt8 → Except Stop (Frame × List UInt8)}
    (h : ∀ part rest, Extends more (f (part, rest)) (g (part, rest ++ more))) :
    Extends more (take size bytes >>= f) (take size (bytes ++ more) >>= g) := by
  cases htake : WebSocket.take size bytes with
  | ok parts =>
    rw [take_append_of_ok htake]
    exact h parts.1 parts.2
  | error stop =>
    unfold WebSocket.take at htake
    split at htake
    · cases htake
    · cases htake
      trivial

/-- What has been read or refused stays so, whatever comes behind it. -/
theorem decode_append (rules : Rules) (bytes more : List UInt8) :
    Extends more (rules.decode bytes) (rules.decode (bytes ++ more)) := by
  cases bytes with
  | nil => trivial
  | cons first bytes =>
    cases bytes with
    | nil => trivial
    | cons second tail =>
      rw [List.cons_append, List.cons_append, decode, decode]
      refine Extends.bind _ fun opcode _ => ?_
      refine Extends.take fun extended tail => ?_
      refine Extends.bind _ fun size _ => ?_
      refine Extends.bind _ fun _ _ => ?_
      refine Extends.take fun keyPart tail => ?_
      refine Extends.take fun payload tail => ?_
      rfl

/-- A frame that is not all there is neither read nor refused. -/
theorem decode_short (key : Option MaskingKey) (hkey : key.isSome = rules.masked) (hallows : rules.Allows frame)
    {part missing : List UInt8} (hpart : frameBytes key frame = part ++ missing)
    (hmissing : missing ≠ []) : rules.decode part = .error .short := by
  have hwhole := decode_frameBytes key hkey hallows []
  have hextends := decode_append rules part missing
  rw [List.append_nil, hpart] at hwhole
  rw [hwhole] at hextends
  unfold Extends at hextends
  split at hextends
  · have hrest := (Prod.mk.inj (Except.ok.inj hextends)).2
    exact absurd (List.append_eq_nil_iff.mp hrest.symm).2 hmissing
  · cases hextends
  · assumption

end Rules

end MineTeleop.WebSocket
