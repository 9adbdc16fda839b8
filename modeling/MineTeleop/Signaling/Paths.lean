import Mathlib.Data.List.Basic
import MineTeleop.Library.Bytes
import MineTeleop.Library.Documents

/-!
# Ids in request paths

A client puts an id into a path percent-encoded; the server decodes the whole path, splits it at
the slashes and decodes every part once more.

Proved here, for ids of any bytes:

* `urlDecode_encoded`: the first decoding gives the id back;
* `urlDecode_eq_self_iff`: what a decoding leaves as it is;
* `id_path_law`: which ids the server reads as the client meant them;
* `id_path_fails`: a plus, a slash and an escape that do not come back.
-/

namespace MineTeleop.Signaling.Paths

open Bytes Documents

def slash : UInt8 := 0x2f

def percent : UInt8 := 0x25

def plus : UInt8 := 0x2b

def space : UInt8 := 0x20

def question : UInt8 := 0x3f

/-! ## Encoding -/

/-- `isalnum`, and the four marks that are not encoded. -/
def unreserved (byte : UInt8) : Bool :=
  (0x30 ≤ byte && byte ≤ 0x39) || (0x41 ≤ byte && byte ≤ 0x5a) || (0x61 ≤ byte && byte ≤ 0x7a) ||
    byte = 0x2d || byte = 0x5f || byte = 0x2e || byte = 0x7e

/-- `"0123456789ABCDEF"`. -/
def upperDigit (half : UInt8) : UInt8 := if half < 10 then 0x30 + half else 0x37 + half

def encodeByte (byte : UInt8) : List UInt8 :=
  if unreserved byte then [byte]
  else [percent, upperDigit (byte >>> (4 : UInt8)), upperDigit (byte &&& (0x0f : UInt8))]

def urlEncode (value : List UInt8) : List UInt8 := value.flatMap encodeByte

/-! ## Decoding -/

def hexDigit? (value : UInt8) : Option UInt8 :=
  if 0x30 ≤ value ∧ value ≤ 0x39 then some (value - 0x30)
  else if 0x61 ≤ value ∧ value ≤ 0x66 then some (value - 0x61 + 10)
  else if 0x41 ≤ value ∧ value ≤ 0x46 then some (value - 0x41 + 10)
  else none

/-- A byte that begins no escape. -/
def plainByte (byte : UInt8) : UInt8 := if byte = plus then space else byte

def urlDecode : List UInt8 → Except String (List UInt8)
  | [] => .ok []
  | byte :: high :: low :: rest =>
    if byte = percent then
      match hexDigit? high, hexDigit? low with
      | some upper, some lower =>
        (urlDecode rest).map ((upper <<< (4 : UInt8) ||| lower) :: ·)
      | _, _ => .error "invalid URL encoding"
    else (urlDecode (high :: low :: rest)).map (plainByte byte :: ·)
  | byte :: rest => (urlDecode rest).map (plainByte byte :: ·)

def decodeParts : List (List UInt8) → Except String (List (List UInt8))
  | [] => .ok []
  | part :: parts => do
    let decoded ← urlDecode part
    let rest ← decodeParts parts
    .ok (decoded :: rest)

/-- Runs of slashes separate the parts. -/
def pathParts (path : List UInt8) : Except String (List (List UInt8)) :=
  decodeParts ((path.splitOn slash).filter fun part => part ≠ [])

/-- The parts that a request is routed by: `read_request` and `path_parts` after it. -/
def routedParts (target : List UInt8) : Except String (List (List UInt8)) := do
  let path ← urlDecode (target.takeWhile fun byte => byte ≠ question)
  pathParts path

/-! ## What clients ask for -/

/-- A fixed part of a path, such as `sessions` or `ice_servers`. -/
def Segment (part : List UInt8) : Prop := part ≠ [] ∧ ∀ byte ∈ part, unreserved byte = true

instance (part : List UInt8) : Decidable (Segment part) := inferInstanceAs (Decidable (_ ∧ _))

def slashed (parts : List (List UInt8)) : List UInt8 := parts.flatMap fun part => slash :: part

/-- Prefix, encoded id and suffix, with a query or without. -/
def clientTarget (before id : List UInt8) (after : List (List UInt8)) (query : List UInt8) :
    List UInt8 :=
  slashed (before :: urlEncode id :: after) ++ query

/-- The ids that mean the same after one more decoding, and are one part. -/
def RoutesBack (id : List UInt8) : Prop :=
  slash ∉ id ∧ plus ∉ id ∧ percent ∉ id.take (id.length - 2)

instance (id : List UInt8) : Decidable (RoutesBack id) := inferInstanceAs (Decidable (_ ∧ _))

/-! ## One decoding -/

section
variable {byte : UInt8} {value rest : List UInt8}

theorem urlDecode_cons (hbyte : byte ≠ percent) :
    urlDecode (byte :: rest) = (urlDecode rest).map (plainByte byte :: ·) := by
  match rest with
  | [] => rfl
  | [_] => rfl
  | _ :: _ :: _ => rw [urlDecode, if_neg hbyte]

theorem byte_facts : ∀ byte : UInt8,
    (unreserved byte = true →
      byte ≠ percent ∧ byte ≠ question ∧ byte ≠ slash ∧ plainByte byte = byte) ∧
    (hexDigit? (upperDigit (byte >>> (4 : UInt8))) = some (byte >>> (4 : UInt8)) ∧
      hexDigit? (upperDigit (byte &&& (0x0f : UInt8))) = some (byte &&& (0x0f : UInt8)) ∧
      (byte >>> (4 : UInt8)) <<< (4 : UInt8) ||| (byte &&& (0x0f : UInt8)) = byte) ∧
    (encodeByte byte).all (· ≠ question) = true :=
  forall_byte (by decide +kernel)

theorem unreserved_plain (byte : UInt8) (h : unreserved byte = true) :
    byte ≠ percent ∧ byte ≠ question ∧ byte ≠ slash ∧ plainByte byte = byte :=
  (byte_facts byte).1 h

theorem escape_digits (byte : UInt8) :
    hexDigit? (upperDigit (byte >>> (4 : UInt8))) = some (byte >>> (4 : UInt8)) ∧
      hexDigit? (upperDigit (byte &&& (0x0f : UInt8))) = some (byte &&& (0x0f : UInt8)) ∧
      (byte >>> (4 : UInt8)) <<< (4 : UInt8) ||| (byte &&& (0x0f : UInt8)) = byte :=
  (byte_facts byte).2.1

theorem encodeByte_all (byte : UInt8) : (encodeByte byte).all (· ≠ question) = true :=
  (byte_facts byte).2.2

theorem encodeByte_plain (byte : UInt8) : ∀ other ∈ encodeByte byte, other ≠ question :=
  fun other hother => by simpa using List.all_eq_true.mp (encodeByte_all byte) other hother

theorem urlDecode_encodeByte (byte : UInt8) (rest : List UInt8) :
    urlDecode (encodeByte byte ++ rest) = (urlDecode rest).map (byte :: ·) := by
  unfold encodeByte
  split
  · rename_i hunreserved
    obtain ⟨hpercent, -, -, hplain⟩ := unreserved_plain byte hunreserved
    rw [List.singleton_append, urlDecode_cons hpercent, hplain]
  · obtain ⟨hupper, hlower, hjoined⟩ := escape_digits byte
    show urlDecode (percent :: _ :: _ :: rest) = _
    rw [urlDecode, if_pos rfl, hupper, hlower]
    show (urlDecode rest).map _ = _
    rw [hjoined]

theorem map_map (x : Except String (List UInt8)) (f g : List UInt8 → List UInt8) :
    (x.map f).map g = x.map fun value => g (f value) := by
  cases x <;> rfl

/-- What was encoded comes back, whatever follows it. -/
theorem urlDecode_encoded (value rest : List UInt8) :
    urlDecode (urlEncode value ++ rest) = (urlDecode rest).map (value ++ ·) := by
  induction value with
  | nil =>
    show urlDecode rest = _
    cases urlDecode rest <;> rfl
  | cons byte value ih =>
    show urlDecode ((encodeByte byte ++ urlEncode value) ++ rest) = _
    rw [List.append_assoc, urlDecode_encodeByte, ih, map_map]
    rfl

theorem urlEncode_segment (hvalue : ∀ byte ∈ value, unreserved byte = true) :
    urlEncode value = value := by
  induction value with
  | nil => rfl
  | cons byte value ih =>
    have hbyte := hvalue byte List.mem_cons_self
    show encodeByte byte ++ urlEncode value = _
    rw [ih fun other hother => hvalue other (List.mem_cons_of_mem _ hother), encodeByte, if_pos hbyte]
    rfl

theorem map_cons_eq_ok_iff {x : Except String (List UInt8)} {decoded : List UInt8} :
    x.map (byte :: ·) = .ok decoded ↔ ∃ rest, x = .ok rest ∧ decoded = byte :: rest := by
  cases x with
  | error what => exact ⟨nofun, nofun⟩
  | ok rest =>
    constructor
    · intro h
      exact ⟨rest, rfl, (Except.ok.inj h).symm⟩
    · rintro ⟨_, hrest, rfl⟩
      rw [Except.ok.inj hrest]
      rfl

theorem urlDecode_escape {high low : UInt8} {decoded : List UInt8}
    (h : urlDecode (percent :: high :: low :: rest) = .ok decoded) :
    ∃ decodedRest, urlDecode rest = .ok decodedRest ∧ decoded.length = decodedRest.length + 1 := by
  rw [urlDecode, if_pos rfl] at h
  split at h
  · obtain ⟨decodedRest, hrest, rfl⟩ := map_cons_eq_ok_iff.mp h
    exact ⟨decodedRest, hrest, rfl⟩
  · cases h

/-- A decoding makes nothing longer. -/
theorem length_urlDecode {decoded : List UInt8} (h : urlDecode value = .ok decoded) :
    decoded.length ≤ value.length := by
  induction hlength : value.length using Nat.strong_induction_on generalizing value decoded with
  | _ length ih =>
    subst hlength
    match value with
    | [] =>
      obtain rfl := Except.ok.inj h
      exact le_rfl
    | byte :: rest =>
      by_cases hbyte : byte = percent
      · subst hbyte
        match rest with
        | [] =>
          obtain rfl := Except.ok.inj h
          exact le_rfl
        | [_] =>
          obtain rfl := Except.ok.inj h
          exact le_rfl
        | high :: low :: rest =>
          obtain ⟨decodedRest, hrest, hlength⟩ := urlDecode_escape h
          have hshorter := ih rest.length (by simp only [List.length_cons]; omega) hrest rfl
          simp only [List.length_cons]
          omega
      · rw [urlDecode_cons hbyte] at h
        obtain ⟨decodedRest, hrest, rfl⟩ := map_cons_eq_ok_iff.mp h
        have hshorter := ih rest.length (by simp) hrest rfl
        simpa using hshorter

theorem plainByte_eq_self_iff : plainByte byte = byte ↔ byte ≠ plus := by
  unfold plainByte
  split
  · rename_i hplus
    exact iff_of_false (fun hspace => absurd (hspace.trans hplus) (by decide)) (not_not.mpr hplus)
  · exact iff_of_true rfl (by assumption)

/-- Where no escape begins, a byte stays as it is unless it is a plus. -/
theorem urlDecode_cons_eq_self_iff
    (hcons : urlDecode (byte :: rest) = (urlDecode rest).map (plainByte byte :: ·)) :
    urlDecode (byte :: rest) = .ok (byte :: rest) ↔ byte ≠ plus ∧ urlDecode rest = .ok rest := by
  rw [hcons, map_cons_eq_ok_iff, ← plainByte_eq_self_iff]
  constructor
  · rintro ⟨decoded, hdecoded, hsame⟩
    obtain ⟨hbyte, rfl⟩ := List.cons.inj hsame
    exact ⟨hbyte.symm, hdecoded⟩
  · rintro ⟨hbyte, hrest⟩
    exact ⟨rest, hrest, by rw [hbyte]⟩

theorem urlDecode_eq_self_iff (value : List UInt8) :
    urlDecode value = .ok value ↔
      plus ∉ value ∧ percent ∉ value.take (value.length - 2) := by
  induction value with
  | nil => exact iff_of_true rfl ⟨List.not_mem_nil, List.not_mem_nil⟩
  | cons byte rest ih =>
    match rest with
    | [] =>
      rw [urlDecode_cons_eq_self_iff rfl]
      simp [urlDecode, eq_comm]
    | [last] =>
      rw [urlDecode_cons_eq_self_iff rfl, ih]
      simp [eq_comm, not_or]
    | high :: low :: rest =>
      by_cases hbyte : byte = percent
      · subst hbyte
        refine iff_of_false (fun h => ?_) (fun h => h.2 List.mem_cons_self)
        obtain ⟨decodedRest, hrest, hlength⟩ := urlDecode_escape h
        have hshorter := length_urlDecode hrest
        simp only [List.length_cons] at hlength
        omega
      · rw [urlDecode_cons_eq_self_iff (urlDecode_cons hbyte), ih]
        have hlength : (byte :: high :: low :: rest).length - 2 = rest.length + 1 := by simp
        have hlength' : (high :: low :: rest).length - 2 = rest.length := by simp
        rw [hlength, hlength', List.take_succ_cons]
        simp only [List.mem_cons, not_or]
        constructor
        · rintro ⟨hplus, hrest, hpercent⟩
          exact ⟨⟨Ne.symm hplus, hrest⟩, Ne.symm hbyte, hpercent⟩
        · rintro ⟨⟨hplus, hrest⟩, -, hpercent⟩
          exact ⟨Ne.symm hplus, hrest, hpercent⟩

end

/-! ## The path -/

section
variable {before id : List UInt8} {after : List (List UInt8)} {query : List UInt8}

theorem urlDecode_slashed (hafter : ∀ part ∈ after, Segment part) :
    urlDecode (slashed after) = .ok (slashed after) := by
  induction after with
  | nil => rfl
  | cons part after ih =>
    have hpart := (hafter part List.mem_cons_self).2
    show urlDecode (slash :: (part ++ slashed after)) = _
    rw [urlDecode_cons (by decide), ← urlEncode_segment hpart, urlDecode_encoded,
      ih fun other hother => hafter other (List.mem_cons_of_mem _ hother), urlEncode_segment hpart]
    rfl

/-- The first decoding leaves the id itself between the slashes. -/
theorem urlDecode_clientTarget (hbefore : Segment before) (hafter : ∀ part ∈ after, Segment part)
    (hquery : query = [] ∨ query.head? = some question) :
    urlDecode ((clientTarget before id after query).takeWhile fun byte => byte ≠ question) =
      .ok (slashed (before :: id :: after)) := by
  have hplain : ∀ byte ∈ slashed (before :: urlEncode id :: after),
      decide (byte ≠ question) = true := by
    intro byte hbyte
    refine decide_eq_true ?_
    obtain ⟨part, hpart, hmem⟩ := List.mem_flatMap.mp hbyte
    rcases List.mem_cons.mp hmem with rfl | hinside
    · decide
    · rcases List.mem_cons.mp hpart with rfl | hpart
      · exact (unreserved_plain byte (hbefore.2 byte hinside)).2.1
      · rcases List.mem_cons.mp hpart with rfl | hpart
        · obtain ⟨original, -, hescaped⟩ := List.mem_flatMap.mp hinside
          exact encodeByte_plain original byte hescaped
        · exact (unreserved_plain byte ((hafter part hpart).2 byte hinside)).2.1
  have hstop : query.takeWhile (fun byte => decide (byte ≠ question)) = [] := by
    rcases hquery with rfl | hquestion
    · rfl
    · cases query with
      | nil => rfl
      | cons byte query =>
        obtain rfl := Option.some.inj hquestion
        rfl
  rw [clientTarget, List.takeWhile_append_of_pos hplain, hstop, List.append_nil]
  show urlDecode (slash :: (before ++ slash :: (urlEncode id ++ slashed after))) = _
  rw [urlDecode_cons (by decide), ← urlEncode_segment hbefore.2, urlDecode_encoded,
    urlDecode_cons (by decide), urlDecode_encoded, urlDecode_slashed hafter,
    urlEncode_segment hbefore.2]
  rfl

/-! ## The parts -/

theorem not_mem_slash {part : List UInt8} (h : ∀ byte ∈ part, unreserved byte = true) :
    slash ∉ part :=
  fun hslash => (unreserved_plain slash (h slash hslash)).2.2.1 rfl

theorem splitOn_slashed (hafter : ∀ part ∈ after, Segment part) (value : List UInt8) :
    (value ++ slashed after).splitOn slash = value.splitOn slash ++ after := by
  induction after generalizing value with
  | nil =>
    show (value ++ []).splitOn slash = _
    rw [List.append_nil, List.append_nil]
  | cons part after ih =>
    have hpart := not_mem_slash (hafter part List.mem_cons_self).2
    show (value ++ slash :: (part ++ slashed after)).splitOn slash = _
    rw [List.splitOn_append_cons_self,
      ih (fun other hother => hafter other (List.mem_cons_of_mem _ hother)),
      List.splitOn_eq_singleton hpart, List.singleton_append]

theorem length_of_mem_splitOn {value part : List UInt8} (h : part ∈ value.splitOn slash) :
    part.length ≤ value.length ∧ (slash ∈ value → part.length < value.length) := by
  induction hlength : value.length using Nat.strong_induction_on generalizing value with
  | _ length ih =>
    subst hlength
    by_cases hslash : slash ∈ value
    · obtain ⟨left, right, rfl⟩ := List.append_of_mem hslash
      rw [List.splitOn_append_cons_self] at h
      have hlength : (left ++ slash :: right).length = left.length + right.length + 1 := by
        rw [List.length_append, List.length_cons, Nat.add_assoc]
      rw [hlength] at ih ⊢
      rcases List.mem_append.mp h with hleft | hright
      · have hle := (ih left.length (by omega) hleft rfl).1
        omega
      · have hle := (ih right.length (by omega) hright rfl).1
        omega
    · rw [List.splitOn_eq_singleton hslash] at h
      obtain rfl := List.mem_singleton.mp h
      exact ⟨le_rfl, fun hmem => absurd hmem hslash⟩

theorem urlDecode_segment {part : List UInt8} (hpart : ∀ byte ∈ part, unreserved byte = true) :
    urlDecode part = .ok part := by
  have hencoded := urlDecode_encoded part []
  rwa [urlEncode_segment hpart, List.append_nil, show urlDecode [] = .ok [] from rfl,
    show (Except.ok [] : Except String _).map (part ++ ·) = .ok (part ++ []) from rfl,
    List.append_nil] at hencoded

theorem decodeParts_segments (hafter : ∀ part ∈ after, Segment part) :
    decodeParts after = .ok after := by
  induction after with
  | nil => rfl
  | cons part after ih =>
    rw [decodeParts, urlDecode_segment (hafter part List.mem_cons_self).2,
      ih fun other hother => hafter other (List.mem_cons_of_mem _ hother)]
    rfl

theorem decodeParts_append (hafter : ∀ part ∈ after, Segment part) (parts : List (List UInt8)) :
    decodeParts (parts ++ after) = (decodeParts parts).map (· ++ after) := by
  induction parts with
  | nil => exact decodeParts_segments hafter
  | cons part parts ih =>
    rw [List.cons_append, decodeParts, decodeParts, ih]
    cases urlDecode part with
    | error what => rfl
    | ok decoded =>
      cases decodeParts parts with
      | error what => rfl
      | ok rest => rfl

/-- The parts of the id by themselves decide. -/
theorem decodeParts_id_iff (hid : id ≠ []) :
    decodeParts ((id.splitOn slash).filter fun part => part ≠ []) = .ok [id] ↔ RoutesBack id := by
  by_cases hslash : slash ∈ id
  · refine iff_of_false (fun h => ?_) (fun h => h.1 hslash)
    have hpart : ∀ part ∈ (id.splitOn slash).filter fun part => part ≠ [],
        part.length < id.length := by
      intro part hpart
      exact (length_of_mem_splitOn (List.mem_filter.mp hpart).1).2 hslash
    generalize (id.splitOn slash).filter (fun part => part ≠ []) = parts at h hpart
    cases parts with
    | nil => cases h
    | cons part parts =>
      obtain ⟨decoded, hdecoded, h⟩ := bind_eq_ok_iff.mp h
      obtain ⟨rest, -, h⟩ := bind_eq_ok_iff.mp h
      obtain ⟨rfl, -⟩ := List.cons.inj (Except.ok.inj h)
      exact absurd (length_urlDecode hdecoded) (not_le.mpr (hpart part List.mem_cons_self))
  · have hfilter : ([id].filter fun part => part ≠ []) = [id] := by
      simpa using hid
    rw [List.splitOn_eq_singleton hslash, hfilter, RoutesBack, ← urlDecode_eq_self_iff]
    constructor
    · intro h
      obtain ⟨decoded, hdecoded, h⟩ := bind_eq_ok_iff.mp h
      obtain ⟨rest, -, h⟩ := bind_eq_ok_iff.mp h
      obtain ⟨rfl, -⟩ := List.cons.inj (Except.ok.inj h)
      exact ⟨hslash, hdecoded⟩
    · rintro ⟨-, hdecoded⟩
      rw [decodeParts, hdecoded]
      rfl

end

/-- An id comes back to the server as its own part exactly if it has no slash and no plus, and no
percent sign with two bytes behind it. -/
theorem id_path_law {before id : List UInt8} {after : List (List UInt8)} {query : List UInt8}
    (hbefore : Segment before) (hafter : ∀ part ∈ after, Segment part)
    (hquery : query = [] ∨ query.head? = some question) (hid : id ≠ []) :
    routedParts (clientTarget before id after query) = .ok (before :: id :: after) ↔
      RoutesBack id := by
  have hfilterAfter : after.filter (fun part => part ≠ []) = after :=
    List.filter_eq_self.mpr fun part hpart => decide_eq_true (hafter part hpart).1
  have hfilter : ((slashed (before :: id :: after)).splitOn slash).filter (fun part => part ≠ []) =
      before :: ((id.splitOn slash).filter (fun part => part ≠ []) ++ after) := by
    show (([] ++ slash :: (before ++ slash :: (id ++ slashed after))).splitOn slash).filter _ = _
    rw [List.splitOn_append_cons_self, List.splitOn_append_cons_self, splitOn_slashed hafter,
      List.splitOn_eq_singleton (not_mem_slash hbefore.2), List.splitOn_nil,
      List.filter_append, List.filter_append, List.filter_append, hfilterAfter]
    simp [hbefore.1]
  rw [← decodeParts_id_iff hid, routedParts, urlDecode_clientTarget hbefore hafter hquery]
  show decodeParts (((slashed (before :: id :: after)).splitOn slash).filter _) = _ ↔ _
  rw [hfilter, decodeParts, urlDecode_segment hbefore.2, decodeParts_append hafter]
  cases hparts : decodeParts ((id.splitOn slash).filter fun part => part ≠ []) with
  | error what => exact iff_of_false nofun nofun
  | ok parts =>
    show (Except.ok (before :: (parts ++ after)) : Except String _) = _ ↔ _
    constructor
    · intro h
      have hparts := (List.cons.inj (Except.ok.inj h)).2
      have hcancel : parts ++ after = [id] ++ after := hparts
      rw [List.append_cancel_right hcancel]
    · intro h
      rw [Except.ok.inj h]
      rfl

/-! ## A bench -/

/-- Bytes of a text that has only ASCII characters. -/
def ascii (text : String) : List UInt8 := text.toList.map fun c => UInt8.ofNat c.toNat

theorem id_path_law_bench :
    routedParts (clientTarget (ascii "drivers") (ascii "site 7%") [ascii "vehicles"] []) =
        .ok [ascii "drivers", ascii "site 7%", ascii "vehicles"] ↔
      RoutesBack (ascii "site 7%") :=
  id_path_law (by decide +kernel) (by decide +kernel) (.inl rfl) (by decide +kernel)

example : routedParts (clientTarget (ascii "drivers") (ascii "site 7%") [ascii "vehicles"] []) =
    .ok [ascii "drivers", ascii "site 7%", ascii "vehicles"] := by decide +kernel

/-- A plus becomes a space, a slash another resource, and an escape is decoded once too often. -/
theorem id_path_fails :
    routedParts (clientTarget (ascii "drivers") (ascii "site+7") [ascii "vehicles"] []) =
        .ok [ascii "drivers", ascii "site 7", ascii "vehicles"] ∧
      routedParts (clientTarget (ascii "sessions") (ascii "a/end") [] []) =
        .ok [ascii "sessions", ascii "a", ascii "end"] ∧
      routedParts (clientTarget (ascii "drivers") (ascii "%41") [ascii "vehicles"] []) =
        .ok [ascii "drivers", ascii "A", ascii "vehicles"] ∧
      routedParts (clientTarget (ascii "drivers") (ascii "5%off") [ascii "vehicles"] []) =
        .error "invalid URL encoding" ∧
      ¬∀ id, id ≠ [] →
        routedParts (clientTarget (ascii "drivers") id [ascii "vehicles"] []) =
          .ok [ascii "drivers", id, ascii "vehicles"] := by
  refine ⟨by decide +kernel, by decide +kernel, by decide +kernel, by decide +kernel, fun h => ?_⟩
  exact absurd (h (ascii "site+7") (by decide +kernel)) (by decide +kernel)

end MineTeleop.Signaling.Paths
