import Mathlib.Logic.Function.Basic
import Mathlib.Tactic.IntervalCases
import MineTeleop.Library.Appends
import MineTeleop.Library.Bytes
import MineTeleop.Library.Members
import MineTeleop.Library.Runs

/-!
# Log chunks

A log file goes from one directory to another in chunks: the sender answers requests for the part
at an offset, and the receiver appends what is uploaded.

Proved here:

* `unhex_hex`, `hex_unhex`: the encoding of a chunk, either way round;
* `append_cases`: what an accepted upload does to the directory;
* `chunk_transfer_law`: over every run of requests and uploads, the stored files stay prefixes of
  the sender's, repeated uploads change nothing, and the last chunk completes the file;
* `chunk_transfer_fails`: the encoding has a longest chunk, and what comes at the end of a stored
  file is taken as it is.
-/

namespace MineTeleop.SessionLogs

open Appends Bytes Documents Runs

def fileLimit : ℕ := 64 * 1024 * 1024

def chunkBytes : ℕ := 256 * 1024

def require (condition : Prop) [Decidable condition] (message : String) : Except String Unit :=
  if condition then .ok () else .error message

theorem require_eq_ok_iff {condition : Prop} [Decidable condition] {message : String} {u : Unit} :
    require condition message = .ok u ↔ condition := by
  unfold require
  split <;> simpa

theorem require_pass {condition : Prop} [Decidable condition] (h : condition) (message : String) :
    require condition message = .ok () :=
  require_eq_ok_iff.mpr h

def safeName (name : String) : Bool :=
  name ≠ "" && name.utf8ByteSize < 180 && name ≠ "." && name ≠ ".." &&
    name.toList.all fun c => c.isAlphanum || c = '-' || c = '_' || c = '.'

/-- The files of a directory by their names. -/
abbrev Directory := String → Option (List UInt8)

/-- A file that is not there is as long as an empty one. -/
def Directory.stored (directory : Directory) (name : String) : List UInt8 :=
  (directory name).getD []

/-! ## Hexadecimal digits -/

def hexDigit (half : UInt8) : Char := "0123456789abcdef".toList.getD half.toNat '0'

def hexDigits (bytes : List UInt8) : List Char :=
  bytes.flatMap fun byte : UInt8 =>
    [hexDigit (byte >>> (4 : UInt8)), hexDigit (byte &&& (15 : UInt8))]

def hex (bytes : List UInt8) : String := String.ofList (hexDigits bytes)

def digit (c : Char) : Except String UInt8 :=
  if '0' ≤ c ∧ c ≤ '9' then .ok (UInt8.ofNat (c.toNat - '0'.toNat))
  else if 'a' ≤ c ∧ c ≤ 'f' then .ok (UInt8.ofNat (c.toNat - 'a'.toNat + 10))
  else .error "invalid log chunk encoding"

def unhexDigits : List Char → Except String (List UInt8)
  | [] => .ok []
  | [_] => .error "invalid log chunk encoding"
  | high :: low :: text => do
    let upper ← digit high
    let lower ← digit low
    let bytes ← unhexDigits text
    .ok ((upper <<< 4 ||| lower) :: bytes)

def unhex (text : String) : Except String (List UInt8) := do
  require (text.utf8ByteSize ≤ chunkBytes * 2 ∧ text.utf8ByteSize % 2 = 0) "invalid log chunk size"
  unhexDigits text.toList

theorem hexDigit_digit {c : Char} {half : UInt8} (h : digit c = .ok half) :
    half < 16 ∧ hexDigit half = c := by
  have hread : ∀ n, c.toNat = n → c = Char.ofNat n := fun n hn => hn ▸ (Char.ofNat_toNat c).symm
  unfold digit at h
  split at h
  · rename_i hrange
    have hlow : 48 ≤ c.toNat := hrange.1
    have hhigh : c.toNat ≤ 57 := hrange.2
    obtain rfl := Except.ok.inj h
    generalize hn : c.toNat = n at hlow hhigh
    rw [hread n hn]
    interval_cases n <;> exact ⟨by decide, by decide⟩
  · split at h
    · rename_i hrange
      have hlow : 97 ≤ c.toNat := hrange.1
      have hhigh : c.toNat ≤ 102 := hrange.2
      obtain rfl := Except.ok.inj h
      generalize hn : c.toNat = n at hlow hhigh
      rw [hread n hn]
      interval_cases n <;> exact ⟨by decide, by decide⟩
    · cases h

theorem byte_digits : ∀ byte : UInt8,
    (hexDigit byte).utf8Size = 1 ∧
      digit (hexDigit (byte >>> (4 : UInt8))) = .ok (byte >>> (4 : UInt8)) ∧
      digit (hexDigit (byte &&& (15 : UInt8))) = .ok (byte &&& (15 : UInt8)) ∧
      (byte >>> (4 : UInt8)) <<< (4 : UInt8) ||| (byte &&& (15 : UInt8)) = byte :=
  forall_byte (by decide +kernel)

/-- The two halves of a byte, put together again. -/
theorem halves (byte : UInt8) :
    digit (hexDigit (byte >>> (4 : UInt8))) = .ok (byte >>> (4 : UInt8)) ∧
      digit (hexDigit (byte &&& (15 : UInt8))) = .ok (byte &&& (15 : UInt8)) ∧
      (byte >>> (4 : UInt8)) <<< (4 : UInt8) ||| (byte &&& (15 : UInt8)) = byte :=
  (byte_digits byte).2

theorem halves_joined {upper lower : UInt8} (hupper : upper < 16) (hlower : lower < 16) :
    (upper <<< (4 : UInt8) ||| lower) >>> (4 : UInt8) = upper ∧
      (upper <<< (4 : UInt8) ||| lower) &&& (15 : UInt8) = lower := by
  have hall : ∀ i j : Fin 16, ((UInt8.ofNat i) <<< (4 : UInt8) ||| UInt8.ofNat j) >>> (4 : UInt8) =
      UInt8.ofNat i ∧ ((UInt8.ofNat i) <<< (4 : UInt8) ||| UInt8.ofNat j) &&& (15 : UInt8) =
      UInt8.ofNat j := by decide +kernel
  have hjoined := hall ⟨upper.toNat, hupper⟩ ⟨lower.toNat, hlower⟩
  rwa [UInt8.ofNat_toNat, UInt8.ofNat_toNat] at hjoined

theorem unhexDigits_hexDigits (bytes : List UInt8) :
    unhexDigits (hexDigits bytes) = .ok bytes := by
  induction bytes with
  | nil => rfl
  | cons byte bytes ih =>
    obtain ⟨hupper, hlower, hjoined⟩ := halves byte
    show unhexDigits (_ :: _ :: hexDigits bytes) = _
    rw [unhexDigits, hupper, hlower, ih]
    show Except.ok (_ :: bytes) = _
    rw [hjoined]

theorem hexDigits_unhexDigits {text : List Char} {bytes : List UInt8}
    (h : unhexDigits text = .ok bytes) : hexDigits bytes = text := by
  induction text using unhexDigits.induct generalizing bytes with
  | case1 =>
    obtain rfl := Except.ok.inj h
    rfl
  | case2 => cases h
  | case3 high low text ih =>
    obtain ⟨upper, hupper, h⟩ := bind_eq_ok_iff.mp h
    obtain ⟨lower, hlower, h⟩ := bind_eq_ok_iff.mp h
    obtain ⟨rest, hrest, h⟩ := bind_eq_ok_iff.mp h
    obtain rfl := Except.ok.inj h
    obtain ⟨hupperLt, hupperDigit⟩ := hexDigit_digit hupper
    obtain ⟨hlowerLt, hlowerDigit⟩ := hexDigit_digit hlower
    obtain ⟨hhigh, hlow⟩ := halves_joined hupperLt hlowerLt
    show hexDigit _ :: hexDigit _ :: hexDigits rest = _
    rw [hhigh, hlow, ih hrest, hupperDigit, hlowerDigit]

theorem length_hexDigits (bytes : List UInt8) : (hexDigits bytes).length = 2 * bytes.length := by
  induction bytes with
  | nil => rfl
  | cons byte bytes ih =>
    show (hexDigits bytes).length + 2 = _
    rw [ih, List.length_cons]
    ring

theorem utf8Size_hexDigits {bytes : List UInt8} {c : Char} (h : c ∈ hexDigits bytes) :
    c.utf8Size = 1 := by
  obtain ⟨byte, -, hc⟩ := List.mem_flatMap.mp h
  rcases List.mem_pair.mp hc with rfl | rfl
  · exact (byte_digits _).1
  · exact (byte_digits _).1

/-- The length that a string takes in memory. -/
theorem utf8ByteSize_ofList (text : List Char) :
    (String.ofList text).utf8ByteSize = (text.map Char.utf8Size).sum := by
  show (text.flatMap String.utf8EncodeChar).toByteArray.size = _
  rw [List.size_toByteArray, List.length_flatMap]
  simp

theorem utf8ByteSize_hex (bytes : List UInt8) : (hex bytes).utf8ByteSize = 2 * bytes.length := by
  have hones : (hexDigits bytes).map Char.utf8Size = List.replicate (2 * bytes.length) 1 := by
    rw [← length_hexDigits]
    exact List.map_eq_replicate_iff.mpr fun c hc => utf8Size_hexDigits hc
  rw [hex, utf8ByteSize_ofList, hones, List.sum_replicate_nat, mul_one]

/-- What fits in a chunk comes back. -/
theorem unhex_hex {bytes : List UInt8} (h : bytes.length ≤ chunkBytes) :
    unhex (hex bytes) = .ok bytes := by
  have hsize : (hex bytes).utf8ByteSize ≤ chunkBytes * 2 ∧ (hex bytes).utf8ByteSize % 2 = 0 := by
    rw [utf8ByteSize_hex]
    omega
  unfold unhex
  rw [require_pass hsize]
  show unhexDigits (hex bytes).toList = _
  rw [hex, String.toList_ofList, unhexDigits_hexDigits]

theorem hex_unhex {text : String} {bytes : List UInt8} (h : unhex text = .ok bytes) :
    hex bytes = text ∧ bytes.length ≤ chunkBytes := by
  obtain ⟨_, hsize, h⟩ := bind_eq_ok_iff.mp h
  have htext : hex bytes = text := by
    rw [hex, hexDigits_unhexDigits h, String.ofList_toList]
  have hle := (require_eq_ok_iff.mp hsize).1
  rw [← htext, utf8ByteSize_hex] at hle
  exact ⟨htext, by omega⟩

/-! ## Requests and uploads -/

/-- `get_ref<const std::string&>`. -/
def getStringRef : Json → Except String String
  | .string value => .ok value
  | json => .error ("[json.exception.type_error.303] incompatible ReferenceType for get_ref, " ++
      "actual type is " ++ json.typeName)

/-- What a loop over a document runs through. -/
def elements : Json → List Json
  | .null => []
  | .array elements => elements
  | .object members => members.map Prod.snd
  | json => [json]

def findFile (name : String) : List Json → Except String (Option Json)
  | [] => .ok none
  | file :: files => do
    let found ← file.field "name" getStringRef
    if found = name then .ok (some file) else findFile name files

def chunkDocument (name : String) (offset : ℕ) (data : List UInt8) (eof : Bool) : Json :=
  .object [("data_hex", .string (hex data)), ("eof", .boolean eof), ("name", .string name),
    ("next_offset", .integer (offset + data.length : ℕ)), ("offset", .integer offset)]

def sessionLogChunk (directory : Directory) (manifest : Json) (name : String) (offset : ℕ) :
    Except String Json := do
  require (safeName name = true) "invalid snapshot file"
  let files ← manifest.member "files"
  match ← findFile name (elements files) with
  | none => .error "snapshot file is not in manifest"
  | some entry =>
    let size ← entry.field "bytes" Json.getUint64
    require (offset ≤ size ∧ size ≤ fileLimit) "invalid snapshot offset"
    match directory name with
    | none => .error "snapshot is unavailable"
    | some file =>
      let length := min chunkBytes (size - offset)
      let data := (file.drop offset).take length
      require (data.length = length) "snapshot changed during export"
      .ok (chunkDocument name offset data (offset + data.length = size))

structure Chunk where
  name : String
  offset : ℕ
  data : List UInt8
  deriving DecidableEq

/-- The part of an upload that does not look at the directory. -/
def readChunk (chunk : Json) : Except String Chunk := do
  let name ← chunk.field "name" Json.getString
  require (safeName name = true) "invalid upload file"
  let offset ← chunk.field "offset" Json.getUint64
  let data ← chunk.field "data_hex" Json.getString >>= unhex
  require (offset ≤ fileLimit ∧ data.length ≤ fileLimit - offset) "snapshot exceeds limit"
  .ok ⟨name, offset, data⟩

def Chunk.appendTo (c : Chunk) (directory : Directory) (allowRetry : Bool) :
    Except String Directory :=
  let stored := directory.stored c.name
  if allowRetry = true ∧ (directory c.name).isSome ∧ c.offset ≤ stored.length ∧
      c.data.length ≤ stored.length - c.offset then do
    require ((stored.drop c.offset).take c.data.length = c.data) "retried snapshot chunk differs"
    -- The preceding append succeeded, but its response was lost.
    .ok directory
  else do
    require (stored.length = c.offset) "snapshot offset mismatch"
    .ok (Function.update directory c.name (some (stored ++ c.data)))

def appendSessionLogChunk (directory : Directory) (chunk : Json) (allowRetry : Bool) :
    Except String Directory := do
  let c ← readChunk chunk
  c.appendTo directory allowRetry

/-! ## What an upload does -/

/-- The directory holds the part. -/
def Directory.Holds (directory : Directory) (c : Chunk) : Prop :=
  (directory c.name).isSome ∧ HoldsAt (directory.stored c.name) c.offset c.data

instance (directory : Directory) (c : Chunk) : Decidable (directory.Holds c) :=
  inferInstanceAs (Decidable (_ ∧ _))

/-- Every file is still there, with something more at its end perhaps. -/
def Directory.Grows (directory directory' : Directory) : Prop :=
  ∀ name stored, directory name = some stored →
    ∃ stored', directory' name = some stored' ∧ stored <+: stored'

section
variable {directory directory' : Directory} {c : Chunk} {allowRetry : Bool}

theorem Directory.stored_of_some {name : String} {stored : List UInt8}
    (h : directory name = some stored) : directory.stored name = stored := by
  rw [Directory.stored, h, Option.getD_some]

/-- An accepted part was there already, or goes to the end of the file. -/
theorem append_cases (h : c.appendTo directory allowRetry = .ok directory') :
    (directory' = directory ∧ directory.Holds c ∧ allowRetry = true) ∨
      c.offset = (directory.stored c.name).length ∧
        directory' =
          Function.update directory c.name (some (directory.stored c.name ++ c.data)) := by
  unfold Chunk.appendTo at h
  dsimp only at h
  split at h
  · rename_i hretry
    obtain ⟨_, hsame, h⟩ := bind_eq_ok_iff.mp h
    have hsame := require_eq_ok_iff.mp hsame
    have hholds : directory.Holds c :=
      ⟨hretry.2.1, holdsAt_iff_take.mpr ⟨hretry.2.2.1, hsame⟩⟩
    exact .inl ⟨(Except.ok.inj h).symm, hholds, hretry.1⟩
  · obtain ⟨_, hend, h⟩ := bind_eq_ok_iff.mp h
    exact .inr ⟨(require_eq_ok_iff.mp hend).symm, (Except.ok.inj h).symm⟩

theorem append_holds (h : c.appendTo directory allowRetry = .ok directory') :
    directory'.Holds c := by
  obtain ⟨rfl, hholds, -⟩ | ⟨hoffset, rfl⟩ := append_cases h
  · exact hholds
  · have hstored : Directory.stored (Function.update directory c.name
        (some (directory.stored c.name ++ c.data))) c.name =
        directory.stored c.name ++ c.data :=
      Directory.stored_of_some (Function.update_self ..)
    constructor
    · rw [Function.update_self]
      rfl
    · rw [hstored, hoffset]
      exact holdsAt_append _ _

theorem append_grows (h : c.appendTo directory allowRetry = .ok directory') :
    directory.Grows directory' := by
  intro name stored hstored
  obtain ⟨rfl, -⟩ | ⟨-, rfl⟩ := append_cases h
  · exact ⟨stored, hstored, List.prefix_refl _⟩
  · by_cases hname : name = c.name
    · subst hname
      rw [Directory.stored_of_some hstored, Function.update_self]
      exact ⟨_, rfl, List.prefix_append _ _⟩
    · rw [Function.update_of_ne hname]
      exact ⟨stored, hstored, List.prefix_refl _⟩

theorem Directory.Holds.grows (h : directory.Holds c) (hgrown : directory.Grows directory') :
    directory'.Holds c := by
  obtain ⟨stored, hstored⟩ := Option.isSome_iff_exists.mp h.1
  obtain ⟨stored', hstored', hgiven⟩ := hgrown c.name stored hstored
  have hpart := h.2
  rw [Directory.stored_of_some hstored] at hpart
  refine ⟨by rw [hstored']; rfl, ?_⟩
  rw [Directory.stored_of_some hstored']
  exact hpart.of_prefix hgiven

/-- What is there already is taken for a retry, or has nothing to add at the end. -/
theorem append_held (h : directory.Holds c) :
    c.appendTo directory true = .ok directory ∧
      ∀ retry directory', c.appendTo directory retry = .ok directory' →
        directory' = directory := by
  have hlength := h.2.length_le
  have htake := holdsAt_iff_take.mp h.2
  constructor
  · unfold Chunk.appendTo
    rw [if_pos ⟨rfl, h.1, h.2.1, by omega⟩, require_pass htake.2]
    rfl
  · intro retry directory' hok
    obtain ⟨hsame, -⟩ | ⟨hoffset, hupdate⟩ := append_cases hok
    · exact hsame
    · have hempty : c.data = [] := List.eq_nil_of_length_eq_zero (by omega)
      obtain ⟨stored, hstored⟩ := Option.isSome_iff_exists.mp h.1
      rw [hupdate, hempty, List.append_nil, Directory.stored_of_some hstored, ← hstored,
        Function.update_eq_self]

end

/-! ## What a sender answers -/

/-- A snapshot: its manifest says how long each file is. -/
structure LogBundle where
  directory : Directory
  manifest : Json
  declared : ∀ name file files entry size, directory name = some file →
    manifest.member "files" = .ok files → findFile name (elements files) = .ok (some entry) →
      entry.field "bytes" Json.getUint64 = .ok size → size = file.length

def LogBundle.answer (bundle : LogBundle) (name : String) (offset : ℕ) : Except String Json :=
  sessionLogChunk bundle.directory bundle.manifest name offset

/-- What the sender has said in answer to some request. -/
def LogBundle.Sends (bundle : LogBundle) (document : Json) : Prop :=
  ∃ name offset, bundle.answer name offset = .ok document

/-- A chunk of the sender's file, and whether it is the last one. -/
structure LogBundle.Part (bundle : LogBundle) (document : Json) (file : List UInt8) (c : Chunk) :
    Prop where
  there : bundle.directory c.name = some file
  held : HoldsAt file c.offset c.data
  read : readChunk document = .ok c
  eof : document.find? "eof" = some (.boolean (c.offset + c.data.length = file.length))

theorem LogBundle.Sends.part {bundle : LogBundle} {document : Json} (h : bundle.Sends document) :
    ∃ file c, bundle.Part document file c := by
  obtain ⟨name, offset, h⟩ := h
  unfold LogBundle.answer sessionLogChunk at h
  obtain ⟨_, hsafe, h⟩ := bind_eq_ok_iff.mp h
  obtain ⟨files, hfiles, h⟩ := bind_eq_ok_iff.mp h
  obtain ⟨found, hfound, h⟩ := bind_eq_ok_iff.mp h
  have hsafe := require_eq_ok_iff.mp hsafe
  cases found with
  | none => cases h
  | some entry =>
    obtain ⟨size, hsize, h⟩ := bind_eq_ok_iff.mp h
    obtain ⟨_, hoffset, h⟩ := bind_eq_ok_iff.mp h
    have hoffset := require_eq_ok_iff.mp hoffset
    cases hfile : bundle.directory name with
    | none =>
      rw [hfile] at h
      cases h
    | some file =>
      rw [hfile] at h
      obtain ⟨_, hlength, h⟩ := bind_eq_ok_iff.mp h
      have hlength := require_eq_ok_iff.mp hlength
      have hdeclared := bundle.declared name file files entry size hfile hfiles hfound hsize
      generalize hdata : (file.drop offset).take (min chunkBytes (size - offset)) = data
        at h hlength
      obtain rfl := Except.ok.inj h
      have hgiven : data <+: file.drop offset := hdata ▸ List.take_prefix _ _
      have hlimit : fileLimit < 2 ^ 64 := by decide
      have hheld : HoldsAt file offset data := ⟨by omega, hgiven⟩
      refine ⟨file, ⟨name, offset, data⟩, hfile, hheld, ?_, ?_⟩
      · have hname : (chunkDocument name offset data (offset + data.length = size)).field "name"
            Json.getString = .ok name := rfl
        have hread : (chunkDocument name offset data (offset + data.length = size)).field
            "offset" Json.getUint64 = .ok offset := Json.getUint64_integer (by omega)
        have hhex : ((chunkDocument name offset data (offset + data.length = size)).field
            "data_hex" Json.getString >>= unhex) = .ok data := unhex_hex (by omega)
        have hfits : offset ≤ fileLimit ∧ data.length ≤ fileLimit - offset := by omega
        unfold readChunk
        rw [hname, hread, hhex]
        show (require (safeName name = true) _ >>= fun _ => require _ _ >>= fun _ => _) = _
        rw [require_pass hsafe]
        show (require (offset ≤ fileLimit ∧ data.length ≤ fileLimit - offset) _ >>= _) = _
        rw [require_pass hfits]
        rfl
      · rw [← hdeclared]
        rfl

/-! ## Transfers -/

inductive Message where
  | request (name : String) (offset : ℕ)
  | upload (chunk : Json) (allowRetry : Bool)

inductive Reply where
  | chunk (document : Json)
  | accepted
  deriving DecidableEq

def Message.chunk? : Message → Option Chunk
  | .request _ _ => none
  | .upload chunk _ => (readChunk chunk).toOption

/-- What the receiver has stored after a request to the sender or an upload. -/
def receive (bundle : LogBundle) (directory : Directory) :
    Message → Except String Reply × Directory
  | .request name offset => ((bundle.answer name offset).map .chunk, directory)
  | .upload chunk allowRetry =>
    match appendSessionLogChunk directory chunk allowRetry with
    | .ok directory' => (.ok .accepted, directory')
    | .error what => (.error what, directory)

def transfer (bundle : LogBundle) : Machine Directory Message (Except String Reply) :=
  ⟨fun _ => none, receive bundle⟩

abbrev Transferred := Step Directory Message (Except String Reply)

/-- What is uploaded at the end of a stored file is the sender's. -/
def FromSender (bundle : LogBundle) (st : Transferred) : Prop :=
  ∀ c ∈ st.event.chunk?, c.offset = (st.before.stored c.name).length →
    ∃ file ∈ bundle.directory c.name, c.data <+: file.drop c.offset

instance (bundle : LogBundle) (st : Transferred) : Decidable (FromSender bundle st) :=
  inferInstanceAs (Decidable (∀ c ∈ st.event.chunk?, _ → _))

/-- Every stored file is the beginning of the sender's. -/
def Prefixes (bundle : LogBundle) (directory : Directory) : Prop :=
  ∀ name stored, directory name = some stored →
    ∃ file, bundle.directory name = some file ∧ stored <+: file

structure TransferLaw (bundle : LogBundle) (st : Transferred)
    (past : History Directory Message (Except String Reply)) : Prop where
  prefixes : Prefixes bundle st.after
  repeated : ∀ earlier ∈ past, ∀ chunk retry retry', earlier.event = .upload chunk retry →
    earlier.output = .ok .accepted → st.event = .upload chunk retry' →
      st.after = st.before ∧ (retry' = true → st.output = .ok .accepted)
  refused : ∀ chunk allowRetry, st.event = .upload chunk allowRetry → ∀ c ∈ st.event.chunk?,
    c.offset ≠ (st.before.stored c.name).length → ¬st.before.Holds c ∨ allowRetry = false →
      ∃ what, st.output = .error what
  unchanged : ∀ what, st.output = .error what → st.after = st.before
  completed : ∀ chunk allowRetry, st.event = .upload chunk allowRetry →
    st.output = .ok .accepted → bundle.Sends chunk → chunk.find? "eof" = some (.boolean true) →
      ∃ file c, readChunk chunk = .ok c ∧ bundle.directory c.name = some file ∧
        st.after c.name = some file

section
variable {bundle : LogBundle} {directory : Directory} {message : Message}
  {h : History Directory Message (Except String Reply)}

theorem chunk?_upload {chunk : Json} {allowRetry : Bool} {c : Chunk}
    (hread : readChunk chunk = .ok c) : (Message.upload chunk allowRetry).chunk? = some c := by
  rw [Message.chunk?, hread]
  rfl

theorem read_of_chunk? {chunk : Json} {allowRetry : Bool} {c : Chunk}
    (hc : (Message.upload chunk allowRetry).chunk? = some c) : readChunk chunk = .ok c := by
  change (readChunk chunk).toOption = some c at hc
  cases hread : readChunk chunk with
  | error what =>
    rw [hread] at hc
    cases hc
  | ok c' =>
    rw [hread] at hc
    rw [Option.some.inj hc]

theorem receive_upload_ok {chunk : Json} {allowRetry : Bool} {directory' : Directory}
    (hok : appendSessionLogChunk directory chunk allowRetry = .ok directory') :
    receive bundle directory (.upload chunk allowRetry) = (.ok .accepted, directory') := by
  simp only [receive, hok]

theorem receive_upload_error {chunk : Json} {allowRetry : Bool} {what : String}
    (herror : appendSessionLogChunk directory chunk allowRetry = .error what) :
    receive bundle directory (.upload chunk allowRetry) = (.error what, directory) := by
  simp only [receive, herror]

/-- An upload that is accepted was read, and appended. -/
theorem receive_accepted (haccepted : (receive bundle directory message).1 = .ok .accepted) :
    ∃ chunk allowRetry c, message = .upload chunk allowRetry ∧ readChunk chunk = .ok c ∧
      c.appendTo directory allowRetry = .ok (receive bundle directory message).2 := by
  cases message with
  | request name offset =>
    change (bundle.answer name offset).map Reply.chunk = _ at haccepted
    cases hanswer : bundle.answer name offset with
    | error what =>
      rw [hanswer] at haccepted
      cases haccepted
    | ok document =>
      rw [hanswer] at haccepted
      cases haccepted
  | upload chunk allowRetry =>
    cases happend : appendSessionLogChunk directory chunk allowRetry with
    | error what =>
      rw [receive_upload_error happend] at haccepted
      cases haccepted
    | ok directory' =>
      obtain ⟨c, hread, hok⟩ := bind_eq_ok_iff.mp happend
      rw [receive_upload_ok happend]
      exact ⟨chunk, allowRetry, c, rfl, hread, hok⟩

/-- Whatever is not an accepted upload leaves the directory as it is. -/
theorem receive_otherwise (hother : (receive bundle directory message).1 ≠ .ok .accepted) :
    (receive bundle directory message).2 = directory := by
  cases message with
  | request name offset => rfl
  | upload chunk allowRetry =>
    cases happend : appendSessionLogChunk directory chunk allowRetry with
    | error what => rw [receive_upload_error happend]
    | ok directory' =>
      rw [receive_upload_ok happend] at hother
      exact absurd rfl hother

theorem receive_grows : directory.Grows (receive bundle directory message).2 := by
  by_cases haccepted : (receive bundle directory message).1 = .ok .accepted
  · obtain ⟨chunk, allowRetry, c, -, -, hok⟩ := receive_accepted haccepted
    exact append_grows hok
  · rw [receive_otherwise haccepted]
    exact fun name stored hstored => ⟨stored, hstored, List.prefix_refl _⟩

/-- What is stored after a run: beginnings of the sender's files, with all that was accepted. -/
structure Linked (bundle : LogBundle) (h : History Directory Message (Except String Reply))
    (directory : Directory) : Prop where
  prefixes : Prefixes bundle directory
  held : ∀ st ∈ h, st.output = .ok .accepted → ∃ c, st.event.chunk? = some c ∧ directory.Holds c

theorem linked_init : Linked bundle [] (transfer bundle).init :=
  ⟨nofun, nofun⟩

theorem receive_prefixes (hprefixes : Prefixes bundle directory)
    (hsender : FromSender bundle ((transfer bundle).observe directory message)) :
    Prefixes bundle (receive bundle directory message).2 := by
  by_cases haccepted : (receive bundle directory message).1 = .ok .accepted
  · obtain ⟨chunk, allowRetry, c, rfl, hread, hok⟩ := receive_accepted haccepted
    obtain ⟨hsame, -⟩ | ⟨hoffset, hupdate⟩ := append_cases hok
    · rwa [hsame]
    · obtain ⟨file, hfile, hpart⟩ := hsender c (chunk?_upload hread) hoffset
      intro name stored hstored
      rw [hupdate] at hstored
      by_cases hname : name = c.name
      · subst hname
        rw [Function.update_self] at hstored
        obtain rfl := Option.some.inj hstored
        refine ⟨file, hfile, prefix_append ?_ (hoffset ▸ hpart)⟩
        cases hbefore : directory c.name with
        | none =>
          rw [Directory.stored, hbefore]
          exact List.nil_prefix
        | some before =>
          obtain ⟨file', hfile', hgiven⟩ := hprefixes c.name before hbefore
          obtain rfl := Option.some.inj (hfile'.symm.trans hfile)
          rwa [Directory.stored_of_some hbefore]
      · rw [Function.update_of_ne hname] at hstored
        exact hprefixes name stored hstored
  · rwa [receive_otherwise haccepted]

theorem linked_step (hl : Linked bundle h directory)
    (hsender : FromSender bundle ((transfer bundle).observe directory message)) :
    Linked bundle ((transfer bundle).observe directory message :: h)
      ((transfer bundle).step directory message).2 := by
  refine ⟨receive_prefixes hl.prefixes hsender, ?_⟩
  intro st hst haccepted
  rcases List.mem_cons.mp hst with rfl | hst
  · obtain ⟨chunk, allowRetry, c, rfl, hread, hok⟩ := receive_accepted haccepted
    exact ⟨c, chunk?_upload hread, append_holds hok⟩
  · obtain ⟨c, hc, hholds⟩ := hl.held st hst haccepted
    exact ⟨c, hc, hholds.grows receive_grows⟩

theorem linked_law (hl : Linked bundle h directory)
    (hsender : FromSender bundle ((transfer bundle).observe directory message)) :
    TransferLaw bundle ((transfer bundle).observe directory message) h where
  prefixes := receive_prefixes hl.prefixes hsender
  repeated := by
    intro earlier hearlier chunk retry retry' hupload haccepted hagain
    obtain ⟨c, hc, hholds⟩ := hl.held earlier hearlier haccepted
    rw [hupload] at hc
    obtain ⟨hretried, hsame⟩ := append_held hholds
    change message = _ at hagain
    subst hagain
    constructor
    · by_cases hagain : (receive bundle directory (.upload chunk retry')).1 = .ok .accepted
      · obtain ⟨_, _, c', hmessage, hread, hok⟩ := receive_accepted hagain
        cases hmessage
        obtain rfl := Except.ok.inj ((read_of_chunk? hc).symm.trans hread)
        exact hsame _ _ hok
      · exact receive_otherwise hagain
    · rintro rfl
      have hok : appendSessionLogChunk directory chunk true = .ok directory :=
        bind_eq_ok_iff.mpr ⟨c, read_of_chunk? hc, hretried⟩
      exact congrArg Prod.fst (receive_upload_ok hok)
  refused := by
    intro chunk allowRetry hupload c hc hoffset hrefused
    change message = _ at hupload
    subst hupload
    show ∃ what, (receive bundle directory (.upload chunk allowRetry)).1 = .error what
    cases happend : appendSessionLogChunk directory chunk allowRetry with
    | error what => exact ⟨what, congrArg Prod.fst (receive_upload_error happend)⟩
    | ok directory' =>
      obtain ⟨c', hread, hok⟩ := bind_eq_ok_iff.mp happend
      obtain rfl := Except.ok.inj ((read_of_chunk? hc).symm.trans hread)
      obtain ⟨-, hholds, hretry⟩ | ⟨hend, -⟩ := append_cases hok
      · rcases hrefused with hnot | hno
        · exact absurd hholds hnot
        · cases hno.symm.trans hretry
      · exact absurd hend hoffset
  unchanged := by
    intro what herror
    change (receive bundle directory message).1 = _ at herror
    exact receive_otherwise fun haccepted => nomatch herror.symm.trans haccepted
  completed := by
    intro chunk allowRetry hupload haccepted hsends heof
    change message = _ at hupload
    subst hupload
    obtain ⟨file, c, hpart⟩ := hsends.part
    obtain ⟨_, _, c', hmessage, hread, hok⟩ := receive_accepted haccepted
    cases hmessage
    obtain rfl := Except.ok.inj (hpart.read.symm.trans hread)
    have hholds := append_holds hok
    obtain ⟨stored, hstored⟩ := Option.isSome_iff_exists.mp hholds.1
    obtain ⟨file', hfile, hgiven⟩ := receive_prefixes hl.prefixes hsender c.name stored hstored
    obtain rfl := Option.some.inj (hfile.symm.trans hpart.there)
    have hend : c.offset + c.data.length = file'.length := by
      have hlast := Json.boolean.inj (Option.some.inj (hpart.eof.symm.trans heof))
      exact of_decide_eq_true hlast
    have hpart := hholds.2
    rw [Directory.stored_of_some hstored] at hpart
    obtain rfl := hpart.eq_of_prefix hgiven hend
    exact ⟨stored, c, hread, hfile, hstored⟩

end

/-- Chunks arrive in any order and any number of times, and the file is never anything but the
beginning of the sender's. -/
theorem chunk_transfer_law (bundle : LogBundle)
    {h : History Directory Message (Except String Reply)} {directory : Directory}
    (hr : Run (transfer bundle) h directory) (hsender : Steps (FromSender bundle) h) :
    Always (TransferLaw bundle) h ∧
      (∀ bytes, bytes.length ≤ chunkBytes → unhex (hex bytes) = .ok bytes) ∧
      ∀ text bytes, unhex text = .ok bytes → hex bytes = text := by
  refine ⟨?_, fun _ => unhex_hex, fun _ _ h => (hex_unhex h).1⟩
  exact hr.always_of_link linked_init (fun _ _ _ _ hl hs => linked_step hl hs)
    (fun _ _ _ _ hl hs => linked_law hl hs) hsender

/-! ## A bench -/

def benchManifest : Json :=
  .object [("files", .array [.object [("bytes", .integer 3), ("name", .string "runtime.log")]])]

def benchDirectory : Directory := Function.update (fun _ => none) "runtime.log" (some [1, 2, 3])

theorem benchDirectory_file : benchDirectory "runtime.log" = some [1, 2, 3] :=
  Function.update_self ..

def benchBundle : LogBundle where
  directory := benchDirectory
  manifest := benchManifest
  declared := by
    intro name file files entry size hfile hfiles hfound hsize
    by_cases hname : name = "runtime.log"
    · subst hname
      obtain rfl := Option.some.inj (benchDirectory_file.symm.trans hfile)
      obtain rfl := Except.ok.inj hfiles
      obtain rfl := Option.some.inj (Except.ok.inj hfound)
      exact (Except.ok.inj hsize).symm
    · rw [benchDirectory, Function.update_of_ne hname] at hfile
      cases hfile

/-- The first part twice, a part too far, the first part with other bytes, and the rest. -/
def benchMessages : List Message :=
  [.request "runtime.log" 0, .upload (chunkDocument "runtime.log" 0 [1, 2] false) true,
    .upload (chunkDocument "runtime.log" 0 [1, 2] false) true,
    .upload (chunkDocument "runtime.log" 3 [1] false) true,
    .upload (chunkDocument "runtime.log" 0 [1, 9] false) true,
    .request "runtime.log" 2, .upload (chunkDocument "runtime.log" 2 [3] true) true]

theorem chunk_transfer_law_bench :
    Always (TransferLaw benchBundle) ((transfer benchBundle).play benchMessages).1 ∧
      (∀ bytes, bytes.length ≤ chunkBytes → unhex (hex bytes) = .ok bytes) ∧
      ∀ text bytes, unhex text = .ok bytes → hex bytes = text :=
  chunk_transfer_law benchBundle (Run.play _ benchMessages) (by decide +kernel)

example : ((transfer benchBundle).play benchMessages).2 "runtime.log" = some [1, 2, 3] := by
  decide +kernel

/-- One byte more than a chunk may have does not come back, and other bytes than the sender's are
taken where the stored file ends. -/
theorem chunk_transfer_fails :
    ¬(∀ bytes, unhex (hex bytes) = .ok bytes) ∧
      (receive benchBundle (fun _ => none)
        (.upload (chunkDocument "runtime.log" 0 [9] false) true)).1 = .ok .accepted ∧
      (receive benchBundle (fun _ => none)
        (.upload (chunkDocument "runtime.log" 0 [9] false) true)).2 "runtime.log" = some [9] ∧
      ¬Prefixes benchBundle (receive benchBundle (fun _ => none)
        (.upload (chunkDocument "runtime.log" 0 [9] false) true)).2 := by
  have hstored : (receive benchBundle (fun _ => none)
      (.upload (chunkDocument "runtime.log" 0 [9] false) true)).2 "runtime.log" = some [9] := by
    decide +kernel
  refine ⟨?_, by decide +kernel, hstored, ?_⟩
  · intro hall
    have hle := (hex_unhex (hall (List.replicate (chunkBytes + 1) 0))).2
    rw [List.length_replicate] at hle
    omega
  · intro hprefixes
    obtain ⟨file, hfile, hgiven⟩ := hprefixes "runtime.log" [9] hstored
    obtain rfl := Option.some.inj (benchDirectory_file.symm.trans hfile)
    exact absurd hgiven (by decide)

end MineTeleop.SessionLogs
