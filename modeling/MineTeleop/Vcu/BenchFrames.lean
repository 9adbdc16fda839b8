import MineTeleop.Vcu.Codec
import MineTeleop.Vcu.Effects
import MineTeleop.Vcu.FeedbackFrames
import MineTeleop.Vcu.Signals
import Mathlib.Data.List.Forall2
import Mathlib.Tactic.FinCases

/-!
# What the controller reads in the frames of a bench record

The bench encoder sets bytes, the controller reads signals.

Proved here:

* `extractSignal_byte`, `extractSignal_word`: a signal in one byte, and one of two whole bytes;
* `ingestAll_feedback`: frames that are accepted, ingested one after the other, write the feedback
  one after the other, whatever the controller does besides;
* `ingested_injected`: after the frames of a record the feedback has the signals of those frames;
* `signalInt_handshake` ... `decode_vehicleSpeed`: the signals of those frames are the fields of the
  record, exactly or within half a step.
-/

namespace MineTeleop.Vcu

open BitFields

/-! ## Signals of bytes -/

/-- A signal inside one byte. -/
theorem extractSignal_byte (frame : CanFrame) (byte : Fin 8) {shift length : ℕ}
    (h : shift + length ≤ 8) :
    (extractSignal frame (byte.val * 8 + shift) length).toNat =
      (frame.data byte).toNat / 2 ^ shift % 2 ^ length := by
  apply Nat.eq_of_testBit_eq
  intro i
  have hsame := extractSignal_eq frame ⟨byte.val * 8 + shift, length⟩
  rw [hsame, BitVec.testBit_toNat, getLsbD_get, Nat.testBit_mod_two_pow, Nat.testBit_div_two_pow,
    BitVec.testBit_toNat]
  by_cases hi : i < length
  · have hbyte : byte.val * 8 + shift + i = byte.val * 8 + (shift + i) := by omega
    rw [hbyte, getLsbD_loadLittleEndian _ byte (by omega), Nat.add_comm i shift]
  · simp [hi]

/-- A signal of two whole bytes. -/
theorem extractSignal_word (frame : CanFrame) {low high : Fin 8} (h : high.val = low.val + 1) :
    (extractSignal frame (low.val * 8) 16).toNat =
      (frame.data low).toNat + 256 * (frame.data high).toNat := by
  apply Nat.eq_of_testBit_eq
  intro i
  have hsame := extractSignal_eq frame ⟨low.val * 8, 16⟩
  have hjoin : (frame.data low).toNat + 256 * (frame.data high).toNat =
      2 ^ 8 * (frame.data high).toNat + (frame.data low).toNat := by ring
  rw [hsame, BitVec.testBit_toNat, getLsbD_get, hjoin,
    Nat.testBit_two_pow_mul_add _ (frame.data low).isLt, BitVec.testBit_toNat,
    BitVec.testBit_toNat]
  split
  · rename_i hlow
    rw [getLsbD_loadLittleEndian _ low hlow]
    simp [show i < 16 by omega]
  · rename_i hhigh
    by_cases hi : i < 16
    · have hbyte : low.val * 8 + i = high.val * 8 + (i - 8) := by omega
      rw [hbyte, getLsbD_loadLittleEndian _ high (by omega)]
      simp [hi]
    · have hbit : (frame.data high).getLsbD (i - 8) = false :=
        BitVec.getLsbD_of_ge _ _ (by omega)
      simp [hi, hbit]

theorem toNat_ofInt_byte {value : ℤ} (hmin : 0 ≤ value) (hmax : value < 256) :
    ((BitVec.ofInt 8 value).toNat : ℤ) = value := by
  rw [BitVec.toNat_ofInt]
  have hmod : value % (2 ^ 8 : ℕ) = value := Int.emod_eq_of_lt hmin (by norm_num; exact hmax)
  rw [hmod]
  exact Int.toNat_of_nonneg hmin

/-! ## Ingesting frames -/

/-- What the controller does with the feedback, whatever its other fields are. -/
def onFeedback (record : Controller → CanFrame → Controller) (frame : CanFrame) (f : Feedback) :
    Feedback := (record { feedback := f } frame).feedback

/-- The frame is accepted, and it writes the feedback so. -/
def Records (frame : CanFrame) (update : Feedback → Feedback) : Prop :=
  ∀ c, (ingest c frame).1 = true ∧ (ingest c frame).2.feedback = update c.feedback

theorem latchRevocation_feedback (c : Controller) : (latchRevocation c).feedback = c.feedback := by
  rcases latchRevocation_frame c with ⟨h, -⟩ | ⟨-, -, -, h⟩ <;> rw [h]

theorem latchPhysicalEmergency_feedback (c : Controller) :
    (latchPhysicalEmergency c).feedback = c.feedback := by
  rcases latchPhysicalEmergency_frame c with ⟨-, h⟩ | ⟨-, g, h⟩ <;> rw [h]

theorem records_handshake (status : ℤ) :
    Records (handshakeFrame status) (onFeedback recordHandshake (handshakeFrame status)) :=
  fun c => ⟨rfl, latchRevocation_feedback (recordHandshake c (handshakeFrame status))⟩

theorem records_vehicleStatus (gear : ℤ) :
    Records (vehicleStatusFrame gear) (onFeedback recordVehicleStatus (vehicleStatusFrame gear)) :=
  fun c => ⟨rfl, latchPhysicalEmergency_feedback (recordVehicleStatus c (vehicleStatusFrame gear))⟩

theorem records_parkingBrake (status : ParkingBrakes ℤ) :
    Records (parkingBrakeFrame status)
      (onFeedback recordParkingBrake (parkingBrakeFrame status)) := fun _ => ⟨rfl, rfl⟩

theorem records_motorMode (index : Fin motorCount) (mode : ℤ) :
    Records (motorModeFrame index mode)
      (onFeedback (recordMotorStatus02 · · index) (motorModeFrame index mode)) := by
  intro c
  fin_cases index <;> exact ⟨rfl, rfl⟩

theorem records_zeroTorque (index : Fin motorCount) :
    Records (zeroTorqueFrame index)
      (onFeedback (recordMotorStatus01 · · index) (zeroTorqueFrame index)) := by
  intro c
  fin_cases index <;> exact ⟨rfl, rfl⟩

theorem records_steering (index : Fin steeringAxisCount) (mode : ℤ) (angle : ℚ) :
    Records (steeringFrame index mode angle)
      (onFeedback (recordSteeringStatus · · index) (steeringFrame index mode angle)) := by
  intro c
  fin_cases index <;> exact ⟨rfl, rfl⟩

theorem records_brake (index : Fin steeringAxisCount) (first second : ℤ) :
    Records (brakeFrame index first second)
      (onFeedback (recordBrakeStatus · · index) (brakeFrame index first second)) := by
  intro c
  fin_cases index <;> exact ⟨rfl, rfl⟩

theorem records_vehicleSpeed (speedMps : ℚ) :
    Records (vehicleSpeedFrame speedMps)
      (onFeedback recordVehicleSpeed (vehicleSpeedFrame speedMps)) := fun _ => ⟨rfl, rfl⟩

theorem records_driverIntention (gearRequest : ℤ) :
    Records (driverIntentionFrame gearRequest)
      (onFeedback recordDriverIntention (driverIntentionFrame gearRequest)) :=
  fun _ => ⟨rfl, rfl⟩

/-! ## The signals of the frames -/

/-- The value fits in an unsigned signal of so many bits. -/
def FitsIn (length : ℕ) (value : ℤ) : Prop := 0 ≤ value ∧ value < 2 ^ length

instance (length : ℕ) (value : ℤ) : Decidable (FitsIn length value) :=
  inferInstanceAs (Decidable (_ ∧ _))

section Bytes

variable {length : ℕ} {value : ℤ} (frame : CanFrame)

theorem FitsIn.toNat (h : FitsIn length value) (hlength : length ≤ 8) :
    ((BitVec.ofInt 8 value).toNat : ℤ) = value ∧ (BitVec.ofInt 8 value).toNat < 2 ^ length := by
  have hpow : (2 : ℤ) ^ length ≤ 2 ^ 8 := pow_le_pow_right₀ (by decide) hlength
  have hvalue := toNat_ofInt_byte h.1 (h.2.trans_le hpow)
  refine ⟨hvalue, ?_⟩
  have hlt := h.2
  rw [← hvalue] at hlt
  exact_mod_cast hlt

/-- A byte that is the value. -/
theorem signalInt_plain (byte : Fin 8) (h : FitsIn length value) (hlength : length ≤ 8)
    (hbyte : frame.data byte = BitVec.ofInt 8 value) :
    signalInt frame (byte.val * 8) length = value := by
  obtain ⟨hvalue, hlt⟩ := h.toNat hlength
  have hsignal := extractSignal_byte frame byte (show 0 + length ≤ 8 by omega)
  rw [hbyte, pow_zero, Nat.div_one, Nat.mod_eq_of_lt hlt] at hsignal
  rw [signalInt]
  exact (congrArg Nat.cast hsignal).trans hvalue

/-- A byte that is the value, masked and shifted. -/
theorem signalInt_shifted (byte : Fin 8) (shift : ℕ) (h : FitsIn length value) (hlength : shift + length ≤ 8)
    (hbyte : frame.data byte =
      (BitVec.ofInt 8 value &&& BitVec.ofNat 8 (2 ^ length - 1)) <<< shift) :
    signalInt frame (byte.val * 8 + shift) length = value := by
  obtain ⟨hvalue, hlt⟩ := h.toNat (show length ≤ 8 by omega)
  have hsignal := extractSignal_byte frame byte hlength
  have hpos : 0 < 2 ^ length := Nat.two_pow_pos length
  have hpow : 2 ^ length ≤ 2 ^ 8 := Nat.pow_le_pow_right (by decide) (by omega)
  have hmask : (BitVec.ofInt 8 value &&& BitVec.ofNat 8 (2 ^ length - 1)).toNat =
      (BitVec.ofInt 8 value).toNat := by
    rw [BitVec.toNat_and, BitVec.toNat_ofNat, Nat.mod_eq_of_lt (by omega),
      Nat.and_two_pow_sub_one_eq_mod, Nat.mod_eq_of_lt hlt]
  have hshifted : (BitVec.ofInt 8 value).toNat * 2 ^ shift < 2 ^ 8 :=
    calc (BitVec.ofInt 8 value).toNat * 2 ^ shift
        < 2 ^ length * 2 ^ shift := Nat.mul_lt_mul_of_pos_right hlt (Nat.two_pow_pos shift)
      _ = 2 ^ (shift + length) := by rw [Nat.add_comm, pow_add]
      _ ≤ 2 ^ 8 := Nat.pow_le_pow_right (by decide) hlength
  rw [hbyte, BitVec.toNat_shiftLeft, hmask, Nat.shiftLeft_eq, Nat.mod_eq_of_lt hshifted,
    Nat.mul_div_cancel _ (Nat.two_pow_pos shift), Nat.mod_eq_of_lt hlt] at hsignal
  rw [signalInt]
  exact (congrArg Nat.cast hsignal).trans hvalue

/-- Two bytes that are the low bytes of a raw value. -/
theorem extractSignal_lowBytes {low high : Fin 8} (hnext : high.val = low.val + 1) {raw : ℤ}
    (hraw : FitsIn 16 raw) (hlow : frame.data low = (lowBytes raw).1)
    (hhigh : frame.data high = (lowBytes raw).2) :
    ((extractSignal frame (low.val * 8) 16).toNat : ℤ) = raw := by
  obtain ⟨hmin, hmax⟩ := hraw
  have hlowByte : ((lowBytes raw).1.toNat : ℤ) = raw % 256 := by
    rw [lowBytes, BitVec.toNat_ofInt]
    omega
  have hhighByte : ((lowBytes raw).2.toNat : ℤ) = raw / 256 :=
    toNat_ofInt_byte (by omega) (by omega)
  rw [extractSignal_word frame hnext, hlow, hhigh]
  push_cast
  omega

end Bytes

section Frames

variable {value : ℤ}

theorem signalInt_handshake (h : FitsIn 8 value) : signalInt (handshakeFrame value) 8 8 = value :=
  signalInt_plain (handshakeFrame value) 1 h (by decide) rfl

theorem signalInt_vehicleStatus (h : FitsIn 2 value) :
    signalInt (vehicleStatusFrame value) 2 2 = value :=
  signalInt_shifted (vehicleStatusFrame value) 0 2 h (by decide) rfl

theorem signalInt_parkingBrake {status : ParkingBrakes ℤ} (i : Fin parkingBrakeCount)
    (h : FitsIn 2 (status i)) :
    signalInt (parkingBrakeFrame status) (i.val * 16) 2 = status i := by
  have hplain := fun byte => signalInt_plain (parkingBrakeFrame status) byte h (by decide)
  fin_cases i
  · exact hplain 0 rfl
  · exact hplain 2 rfl
  · exact hplain 4 rfl
  · exact hplain 6 rfl

theorem signalInt_motorMode (i : Fin motorCount) (h : FitsIn 4 value) :
    signalInt (motorModeFrame i value) 4 4 = value :=
  signalInt_shifted (motorModeFrame i value) 0 4 h (by decide) rfl

theorem signalInt_steeringMode (i : Fin steeringAxisCount) (angle : ℚ) (h : FitsIn 8 value) :
    signalInt (steeringFrame i value angle) 0 8 = value :=
  signalInt_plain (steeringFrame i value angle) 0 h (by decide) rfl

theorem signalInt_brake (index : Fin steeringAxisCount) {first second : ℤ} {half : ℕ}
    (hhalf : half < 2) (h : FitsIn 4 (if half = 0 then first else second)) :
    signalInt (brakeFrame index first second) (half * 32) 4 =
      if half = 0 then first else second := by
  obtain rfl | rfl : half = 0 ∨ half = 1 := by omega
  · exact signalInt_plain (brakeFrame index first second) 0 h (by decide) rfl
  · exact signalInt_plain (brakeFrame index first second) 4 h (by decide) rfl

theorem signalInt_driverIntention (h : FitsIn 3 value) :
    signalInt (driverIntentionFrame value) 57 3 = value :=
  signalInt_shifted (driverIntentionFrame value) 7 1 h (by decide) rfl

end Frames

/-- `WVCU_Str_x_Sts`, degrees. -/
def steeringStatusScale : Scale where
  factor := 1 / 10
  offset := -1575
  length := 16
  minimum := -1575
  maximum := 1575
  positive := steeringAngleScale.positive
  narrow := steeringAngleScale.narrow
  above := steeringAngleScale.above
  fits := steeringAngleScale.fits

/-- `WVCU_VehSpdNow`, kilometres an hour. -/
def vehicleSpeedScale : Scale where
  factor := 1 / 10
  offset := -500
  length := 16
  minimum := -500
  maximum := 60535 / 10
  positive := steeringAngleScale.positive
  narrow := steeringAngleScale.narrow
  above := le_refl _
  fits := by norm_num

/-- Two bytes with the raw value of a scale are read back within half a step. -/
theorem decode_lowBytes {s : Scale} {value : ℚ} (hlength : s.length = 16) (h : s.InRange value)
    (frame : CanFrame) (low high : Fin 8) (hnext : high.val = low.val + 1)
    (hlow : frame.data low = (lowBytes (llround ((value - s.offset) / s.factor))).1)
    (hhigh : frame.data high = (lowBytes (llround ((value - s.offset) / s.factor))).2) :
    |decodePhysical (extractSignal frame (low.val * 8) 16) s.factor s.offset - value| ≤
      s.factor / 2 := by
  have hraw := s.toNat_encode h
  have hfits : FitsIn 16 (llround ((value - s.offset) / s.factor)) := by
    have hlt := s.encode_lt value
    rw [hlength] at hlt
    rw [← hraw]
    exact ⟨Int.natCast_nonneg _, by exact_mod_cast hlt⟩
  have hread := extractSignal_lowBytes frame hnext hfits hlow hhigh
  have hsame : (extractSignal frame (low.val * 8) 16).toNat = (s.encode value).toNat := by
    exact_mod_cast hread.trans hraw.symm
  have hback := s.decode_encode h
  rw [Scale.decode, decodePhysical, ← hsame] at hback
  exact hback

theorem decode_steeringAngle (i : Fin steeringAxisCount) (mode : ℤ) {angle : ℚ}
    (h : steeringStatusScale.InRange angle) :
    |decodePhysical (extractSignal (steeringFrame i mode angle) 8 16) (1 / 10) (-1575) - angle| ≤
      1 / 10 / 2 := by
  have hraw : (clamp angle (-1575) 1575 + 1575) / (1 / 10) =
      (angle - steeringStatusScale.offset) / steeringStatusScale.factor := by
    have hclamp : clamp angle (-1575) 1575 = angle := clamp_of_inRange h.1 h.2
    rw [hclamp]
    simp only [steeringStatusScale, sub_neg_eq_add]
  have hlow : (steeringFrame i mode angle).data 1 =
      (lowBytes (llround ((clamp angle (-1575) 1575 + 1575) / (1 / 10)))).1 := rfl
  have hhigh : (steeringFrame i mode angle).data 2 =
      (lowBytes (llround ((clamp angle (-1575) 1575 + 1575) / (1 / 10)))).2 := rfl
  rw [hraw] at hlow hhigh
  exact decode_lowBytes (s := steeringStatusScale) rfl h _ 1 2 rfl hlow hhigh

theorem decode_vehicleSpeed {speedMps : ℚ} (h : vehicleSpeedScale.InRange (speedMps * (36 / 10))) :
    |decodePhysical (extractSignal (vehicleSpeedFrame speedMps) 0 16) (1 / 10) (-500) / (36 / 10) -
      speedMps| ≤ 1 / 10 / 2 / (36 / 10) := by
  have hraw : (clamp (speedMps * (36 / 10)) (-500) (60535 / 10) + 500) / (1 / 10) =
      (speedMps * (36 / 10) - vehicleSpeedScale.offset) / vehicleSpeedScale.factor := by
    have hclamp : clamp (speedMps * (36 / 10)) (-500) (60535 / 10) = speedMps * (36 / 10) :=
      clamp_of_inRange h.1 h.2
    rw [hclamp]
    simp only [vehicleSpeedScale, sub_neg_eq_add]
  have hlow : (vehicleSpeedFrame speedMps).data 0 = (lowBytes
      (llround ((clamp (speedMps * (36 / 10)) (-500) (60535 / 10) + 500) / (1 / 10)))).1 := rfl
  have hhigh : (vehicleSpeedFrame speedMps).data 1 = (lowBytes
      (llround ((clamp (speedMps * (36 / 10)) (-500) (60535 / 10) + 500) / (1 / 10)))).2 := rfl
  rw [hraw] at hlow hhigh
  have hkph : |decodePhysical (extractSignal (vehicleSpeedFrame speedMps) 0 16) (1 / 10) (-500) -
      speedMps * (36 / 10)| ≤ 1 / 10 / 2 :=
    decode_lowBytes (s := vehicleSpeedScale) rfl h _ 0 1 rfl hlow hhigh
  generalize decodePhysical (extractSignal (vehicleSpeedFrame speedMps) 0 16) (1 / 10) (-500) = kph
    at hkph ⊢
  have hscale : kph / (36 / 10) - speedMps = (kph - speedMps * (36 / 10)) / (36 / 10) := by ring
  rw [hscale, abs_div, abs_of_pos (show (0 : ℚ) < 36 / 10 by norm_num)]
  exact div_le_div_of_nonneg_right hkph (by norm_num)

/-- Every field of the record fits in the signal that carries it; a field that the record marks
invalid is not sent. -/
structure FeedbackRecord.InRange (r : FeedbackRecord) : Prop where
  handshake : FitsIn 8 r.shakeHandStatus
  gear : FitsIn 2 r.gearStatus
  parkingBrake : ∀ i, FitsIn 2 (r.epbStatus i)
  motorMode : ∀ i, FitsIn 4 (r.mcuMode i)
  steeringMode : ∀ i, FitsIn 8 (r.epsMode i)
  steeringAngle : ∀ i, steeringStatusScale.InRange (r.epsAngle i)
  brakeMode : ∀ i, FitsIn 4 (r.ehbMode i)
  speed : r.vehicleSpeedValid = true → vehicleSpeedScale.InRange (r.vehicleSpeed * (36 / 10))
  driverGear : r.driverGearRequestValid = true → FitsIn 3 r.driverGearRequest

/-! ## Ingesting the frames of a record -/

def ingestAll (c : Controller) (frames : List CanFrame) : Controller :=
  frames.foldl (fun c frame => (ingest c frame).2) c

theorem ingestAll_feedback {frames : List CanFrame} {updates : List (Feedback → Feedback)}
    (h : List.Forall₂ Records frames updates) (c : Controller) :
    (ingestAll c frames).feedback = updates.foldl (fun f update => update f) c.feedback := by
  induction h generalizing c with
  | nil => rfl
  | @cons frame update frames updates hrecords _ ih =>
    calc (ingestAll c (frame :: frames)).feedback
        = updates.foldl (fun f update => update f) (ingest c frame).2.feedback :=
          ih (ingest c frame).2
      _ = (update :: updates).foldl (fun f update => update f) c.feedback := by
          rw [(hrecords c).2, List.foldl_cons]

/-- What the frames of a record write, in the order of `injectedFrames`. -/
def injectedUpdates (r : FeedbackRecord) : List (Feedback → Feedback) :=
  [onFeedback recordHandshake (handshakeFrame r.shakeHandStatus),
    onFeedback recordVehicleStatus (vehicleStatusFrame r.gearStatus),
    onFeedback recordParkingBrake (parkingBrakeFrame r.epbStatus)] ++
  (List.finRange motorCount).flatMap (fun index =>
    [onFeedback (recordMotorStatus02 · · index) (motorModeFrame index (r.mcuMode index)),
      onFeedback (recordMotorStatus01 · · index) (zeroTorqueFrame index)]) ++
  (List.finRange steeringAxisCount).map (fun index =>
    onFeedback (recordSteeringStatus · · index)
      (steeringFrame index (r.epsMode index) (r.epsAngle index))) ++
  [onFeedback (recordBrakeStatus · · 0) (brakeFrame 0 (r.ehbMode 0) (r.ehbMode 1)),
    onFeedback (recordBrakeStatus · · 1) (brakeFrame 1 (r.ehbMode 2) (r.ehbMode 3)),
    onFeedback (recordBrakeStatus · · 2) (brakeFrame 2 (r.ehbMode 4) (r.ehbMode 5)),
    onFeedback (recordBrakeStatus · · 3) (brakeFrame 3 (r.ehbMode 6) (r.ehbMode 7))] ++
  (if r.vehicleSpeedValid then
    [onFeedback recordVehicleSpeed (vehicleSpeedFrame r.vehicleSpeed)] else []) ++
  (if r.driverGearRequestValid then
    [onFeedback recordDriverIntention (driverIntentionFrame r.driverGearRequest)] else [])

theorem records_injected (r : FeedbackRecord) :
    List.Forall₂ Records (injectedFrames r) (injectedUpdates r) := by
  unfold injectedFrames injectedUpdates
  refine List.rel_append (List.rel_append (List.rel_append (List.rel_append (List.rel_append
    ?head ?motors) ?steering) ?brakes) ?speed) ?gear
  case head =>
    exact .cons (records_handshake _) (.cons (records_vehicleStatus _)
      (.cons (records_parkingBrake _) .nil))
  case motors =>
    apply List.rel_flatMap (List.forall₂_eq_eq_eq ▸ rfl)
    rintro index _ rfl
    exact .cons (records_motorMode index _) (.cons (records_zeroTorque index) .nil)
  case steering =>
    apply List.rel_map _ (List.forall₂_eq_eq_eq ▸ rfl)
    rintro index _ rfl
    exact records_steering index _ _
  case brakes =>
    exact .cons (records_brake 0 _ _) (.cons (records_brake 1 _ _)
      (.cons (records_brake 2 _ _) (.cons (records_brake 3 _ _) .nil)))
  case speed =>
    split
    · exact .cons (records_vehicleSpeed _) .nil
    · exact .nil
  case gear =>
    split
    · exact .cons (records_driverIntention _) .nil
    · exact .nil

/-- `f'` is `f` after the frames of a record, in what the bridge reports of it. -/
structure Ingested (r : FeedbackRecord) (f f' : Feedback) : Prop where
  handshake : f'.handshakeStatus = signalInt (handshakeFrame r.shakeHandStatus) 8 8
  gear : f'.gear = signalInt (vehicleStatusFrame r.gearStatus) 2 2
  parkingBrake : ∀ i,
    f'.parkingBrakeStatus i = signalInt (parkingBrakeFrame r.epbStatus) (i.val * 16) 2
  motorMode : ∀ i, f'.motorMode i = signalInt (motorModeFrame i (r.mcuMode i)) 4 4
  steeringMode : ∀ i,
    f'.steeringMode i = signalInt (steeringFrame i (r.epsMode i) (r.epsAngle i)) 0 8
  steeringAngle : ∀ i, f'.steeringAngleDeg i =
    decodePhysical (extractSignal (steeringFrame i (r.epsMode i) (r.epsAngle i)) 8 16)
      (1 / 10) (-1575)
  steeringValid : ∀ i, f'.steeringValid i = true
  brakeMode : ∀ i, ∃ index first second,
    f'.brakeMode i = signalInt (brakeFrame index first second) (i.val % 2 * 32) 4 ∧
    (if i.val % 2 = 0 then first else second) = r.ehbMode i
  speed : (f'.speedMps, f'.speedValid) =
    if r.vehicleSpeedValid then
      (decodePhysical (extractSignal (vehicleSpeedFrame r.vehicleSpeed) 0 16) (1 / 10) (-500) /
        (36 / 10), true)
    else (f.speedMps, f.speedValid)
  driverGear : (f'.driverGearRequest, f'.driverGearRequestValid) =
    if r.driverGearRequestValid then
      (signalInt (driverIntentionFrame r.driverGearRequest) 57 3, true)
    else (f.driverGearRequest, f.driverGearRequestValid)

theorem ingested_injected (c : Controller) (r : FeedbackRecord) :
    Ingested r c.feedback (ingestAll c (injectedFrames r)).feedback := by
  rw [ingestAll_feedback (records_injected r) c]
  generalize c.feedback = f
  obtain ⟨status, epb, gear, mcu, eps, angle, ehb, speed, speedValid, driver, driverValid⟩ := r
  cases speedValid <;> cases driverValid
  all_goals
    constructor
    case handshake => rfl
    case gear => rfl
    case parkingBrake => exact fun _ => rfl
    case motorMode => intro i; fin_cases i <;> rfl
    case steeringMode => intro i; fin_cases i <;> rfl
    case steeringAngle => intro i; fin_cases i <;> rfl
    case steeringValid => intro i; fin_cases i <;> rfl
    case brakeMode => intro i; fin_cases i <;> exact ⟨_, _, _, rfl, rfl⟩
    case speed => rfl
    case driverGear => rfl

end MineTeleop.Vcu
