import Mathlib.Data.List.TakeWhile
import MineTeleop.Library.Documents
import MineTeleop.Library.Patches

/-!
# What a collected log does not show

`redact` of `session_logs.cpp`, over every text of a document: the secrets are replaced one after
the other, then the values of `Bearer` headers, then the values of credentials written as
`key=value`. A text is its characters; the classes of characters tell ASCII characters apart only.

Proved here, for either scan:

* `words_induction`: a text is read character by character outside of its words, and word by word;
* `scan_word_none`, `scan_word_some`: what a scan makes of one word and of what follows it;
* `lead_of_valueAt`: what stands before a value is no word, and any value may follow it.
-/

namespace MineTeleop.SessionLogs

open Documents
open Patches

/-! ## Characters -/

def word (c : Char) : Bool := c.isAlphanum || c == '_'

def space (c : Char) : Bool :=
  c == ' ' || c == '\t' || c == '\n' || c == '\x0b' || c == '\x0c' || c == '\r'

def quote (c : Char) : Bool := c == '"' || c == '\x27'

def lowered (text : List Char) : List Char := text.map Char.toLower

def redacted : Marker Char := ⟨'[', "redacted".toList, ']'⟩

/-! ## Credentials -/

def token (key : List Char) : Bool :=
  "token".toList.isSuffixOf key && key.all fun c => ('a' ≤ c && c ≤ 'z') || c == '_'

/-- The lower-cased words that a value to hide follows. -/
def credential (bearer : Bool) (key : List Char) : Bool :=
  if bearer then key == "bearer".toList
  else token key || key == "password".toList || key == "authorization".toList ||
    key == "credential".toList || key == "secret".toList || key == "api_key".toList

def skipQuote (text : List Char) : List Char :=
  match text with
  | [] => []
  | c :: rest => if quote c then rest else c :: rest

/-- What is left of the text at the value, if one can begin after the word. -/
def valueAt (bearer : Bool) (text : List Char) : Option (List Char) :=
  if bearer then
    match text with
    | [] => none
    | c :: rest => if space c then some ((c :: rest).dropWhile space) else none
  else
    match (skipQuote text).dropWhile space with
    | [] => none
    | c :: rest =>
      if c == '=' || c == ':' then some (skipQuote (rest.dropWhile space)) else none

def valueChar (bearer : Bool) (c : Char) : Bool :=
  if bearer then c.isAlphanum || "._~+/=-".toList.contains c
  else !(space c || "&\"\x27,\x7d".toList.contains c)

theorem skipQuote_suffix (text : List Char) : skipQuote text <:+ text := by
  cases text with
  | nil => exact List.nil_suffix
  | cons c rest =>
    by_cases hquote : quote c
    · simp only [skipQuote, hquote, if_true]
      exact List.suffix_cons c rest
    · simp [skipQuote, hquote]

theorem valueAt_suffix {bearer : Bool} {text value : List Char}
    (h : valueAt bearer text = some value) : value <:+ text := by
  unfold valueAt at h
  split at h
  · cases text with
    | nil => exact nomatch h
    | cons c rest =>
      dsimp only at h
      split at h
      · exact Option.some.inj h ▸ List.dropWhile_suffix space
      · exact nomatch h
  · split at h
    · exact nomatch h
    · rename_i c rest hsign
      split at h
      · rw [← Option.some.inj h]
        have hrest : c :: rest <:+ text :=
          hsign ▸ (List.dropWhile_suffix space).trans (skipQuote_suffix text)
        exact (skipQuote_suffix _).trans ((List.dropWhile_suffix space).trans
          ((List.suffix_cons c rest).trans hrest))
      · exact nomatch h

/-- A value to hide: what is kept before it, the value itself and what comes after it. -/
structure Value where
  lead : List Char
  run : List Char
  rest : List Char

/-- The value that the word's `key` gives away, `tail` being the text after the word. -/
def valueAfter (bearer : Bool) (key tail : List Char) : Option Value :=
  if credential bearer (lowered key) then
    match valueAt bearer tail with
    | none => none
    | some value =>
      let run := value.takeWhile (valueChar bearer)
      if run.isEmpty then none
      else
        some ⟨tail.take (tail.length - value.length), run, value.dropWhile (valueChar bearer)⟩
  else none

theorem valueAfter_rest_suffix {bearer : Bool} {key tail : List Char} {value : Value}
    (h : valueAfter bearer key tail = some value) : value.rest <:+ tail := by
  unfold valueAfter at h
  split at h
  · split at h
    · exact nomatch h
    · rename_i text htext
      dsimp only at h
      split at h
      · exact nomatch h
      · rw [← Option.some.inj h]
        exact (List.dropWhile_suffix _).trans (valueAt_suffix htext)
  · exact nomatch h

/-- One pass over the text; `afterWord` when the character before it belongs to a word. -/
def scan (bearer afterWord : Bool) (text : List Char) : List Char :=
  match text with
  | [] => []
  | c :: rest =>
    if !word c || afterWord then c :: scan bearer (word c) rest
    else
      let key := c :: rest.takeWhile word
      let tail := rest.dropWhile word
      match hvalue : valueAfter bearer key tail with
      | none => key ++ scan bearer true tail
      | some value =>
        key ++ (value.lead ++ (redacted.text ++
          scan bearer (value.run.getLast?.any word) value.rest))
termination_by text.length
decreasing_by
  · simp
  · have htail := (List.dropWhile_suffix (l := rest) word).length_le
    simp only [List.length_cons]
    omega
  · have htail : tail.length ≤ rest.length := (List.dropWhile_suffix word).length_le
    have hrest : value.rest.length ≤ tail.length := (valueAfter_rest_suffix hvalue).length_le
    simp only [List.length_cons]
    omega

def redactCredentials (text : List Char) (bearer : Bool) : List Char := scan bearer false text

/-! ## Texts and documents -/

def replaceSecret (text secret : List Char) : List Char :=
  if secret.isEmpty then text else replaceAll redacted secret text

def redactText (secrets : List String) (text : String) : String :=
  let replaced := (secrets.map String.toList).foldl replaceSecret text.toList
  String.ofList (redactCredentials (redactCredentials replaced true) false)

def sensitiveParts : List String :=
  ["password", "token", "secret", "credential", "authorization", "cookie", "private_key", "api_key"]

def sensitive (key : String) : Bool :=
  sensitiveParts.any fun part => part.toList <:+: lowered key.toList

mutual

def redact (secrets : List String) (depth : ℕ) (value : Json) : Json :=
  if 64 < depth then .string "[depth-limited]"
  else
    match value with
    | .object members => .object (redactMembers secrets (depth + 1) members)
    | .array elements => .array (redactElements secrets (depth + 1) elements)
    | .string text => .string (redactText secrets text)
    | value => value

def redactMembers (secrets : List String) (depth : ℕ) :
    List (String × Json) → List (String × Json)
  | [] => []
  | (key, value) :: members =>
    (key, if sensitive key then .string "[redacted]" else redact secrets depth value) ::
      redactMembers secrets depth members

def redactElements (secrets : List String) (depth : ℕ) : List Json → List Json
  | [] => []
  | element :: elements =>
    redact secrets depth element :: redactElements secrets depth elements

end

/-! ## Runs of characters -/

theorem word_of_space {c : Char} (h : space c = true) : word c = false := by
  have hcases : c = ' ' ∨ c = '\t' ∨ c = '\n' ∨ c = '\x0b' ∨ c = '\x0c' ∨ c = '\r' := by
    simpa [space, or_assoc] using h
  rcases hcases with rfl | rfl | rfl | rfl | rfl | rfl <;> decide

theorem word_of_quote {c : Char} (h : quote c = true) : word c = false := by
  have hcases : c = '"' ∨ c = '\x27' := by simpa [quote] using h
  rcases hcases with rfl | rfl <;> decide

theorem space_of_quote {c : Char} (h : quote c = true) : space c = false := by
  have hcases : c = '"' ∨ c = '\x27' := by simpa [quote] using h
  rcases hcases with rfl | rfl <;> decide

theorem quote_of_space {c : Char} (h : space c = true) : quote c = false := by
  by_contra hquote
  simp [space_of_quote (by simpa using hquote)] at h

/-- No word goes on at the start of the text. -/
def Break (text : List Char) : Prop := ∀ c ∈ text.head?, word c = false

theorem takeWhile_append {p : Char → Bool} {run after : List Char} (hrun : ∀ c ∈ run, p c = true)
    (hafter : ∀ c ∈ after.head?, p c = false) : (run ++ after).takeWhile p = run := by
  induction run with
  | nil =>
    cases after with
    | nil => rfl
    | cons c after => simp [hafter c rfl]
  | cons c run ih =>
    have hc : p c = true := hrun c List.mem_cons_self
    have hrest := ih fun d hd => hrun d (List.mem_cons_of_mem c hd)
    simp [hc, hrest]

theorem dropWhile_append {p : Char → Bool} {run after : List Char} (hrun : ∀ c ∈ run, p c = true)
    (hafter : ∀ c ∈ after.head?, p c = false) : (run ++ after).dropWhile p = after := by
  induction run with
  | nil =>
    cases after with
    | nil => rfl
    | cons c after => simp [hafter c rfl]
  | cons c run ih =>
    have hc : p c = true := hrun c List.mem_cons_self
    have hrest := ih fun d hd => hrun d (List.mem_cons_of_mem c hd)
    simp [hc, hrest]

theorem head?_dropWhile {p : Char → Bool} (text : List Char) :
    ∀ c ∈ (text.dropWhile p).head?, p c = false := by
  induction text with
  | nil => exact fun c hc => nomatch hc
  | cons d text ih =>
    by_cases hd : p d
    · simpa [hd] using ih
    · intro c hc
      simp only [List.dropWhile_cons, hd, Bool.false_eq_true, if_false, List.head?_cons,
        Option.mem_def, Option.some.injEq] at hc
      simpa [← hc] using hd

/-- What holds of each character of a run and of the first one after it holds of the first one. -/
theorem head?_append {P : Char → Prop} {run after : List Char} (hrun : ∀ c ∈ run, P c)
    (hafter : ∀ c ∈ after.head?, P c) : ∀ c ∈ (run ++ after).head?, P c := by
  cases run with
  | nil => exact hafter
  | cons d run =>
    intro c hc
    have hdc : d = c := by simpa using hc
    exact hdc ▸ hrun d List.mem_cons_self

/-- A text is read character by character outside of its words, and word by word. -/
theorem words_induction {P : List Char → Prop} (nil : P [])
    (gap : ∀ c rest, word c = false → P rest → P (c :: rest))
    (key : ∀ key tail, key ≠ [] → (∀ c ∈ key, word c = true) → Break tail →
      (∀ text, text.length ≤ tail.length → P text) → P (key ++ tail)) (text : List Char) :
    P text := by
  induction hlength : text.length using Nat.strong_induction_on generalizing text with
  | _ n ih =>
    subst hlength
    cases text with
    | nil => exact nil
    | cons c rest =>
      by_cases hc : word c
      · have hsplit : c :: rest = c :: rest.takeWhile word ++ rest.dropWhile word := by simp
        have hkey : ∀ d ∈ c :: rest.takeWhile word, word d = true := by
          intro d hd
          rcases List.mem_cons.mp hd with rfl | hd
          · exact hc
          · exact List.mem_takeWhile_imp hd
        have htail := (List.dropWhile_suffix (l := rest) word).length_le
        rw [hsplit]
        refine key _ _ (List.cons_ne_nil _ _) hkey (head?_dropWhile rest) fun text htext => ?_
        refine ih text.length ?_ text rfl
        simp only [List.length_cons]
        omega
      · exact gap c rest (by simpa using hc) (ih rest.length (by simp) rest rfl)

/-! ## One step of the scan -/

section
variable {bearer : Bool} {key tail : List Char}

@[simp] theorem scan_nil (bearer afterWord : Bool) : scan bearer afterWord [] = [] := by
  rw [scan]

theorem scan_gap (bearer afterWord : Bool) {c : Char} (rest : List Char) (hc : word c = false) :
    scan bearer afterWord (c :: rest) = c :: scan bearer false rest := by
  rw [scan]
  simp [hc]

/-- The character before matters to a word only. -/
theorem scan_of_break (afterWord : Bool) {text : List Char} (hbreak : Break text) :
    scan bearer afterWord text = scan bearer false text := by
  cases text with
  | nil => simp
  | cons c rest =>
    have hc : word c = false := hbreak c rfl
    rw [scan_gap _ _ _ hc, scan_gap _ _ _ hc]

/-- What `valueAfter` found, in its place in the text. -/
structure Found (bearer : Bool) (key tail : List Char) (value : Value) : Prop where
  named : credential bearer (lowered key) = true
  starts : valueAt bearer tail = some (value.run ++ value.rest)
  split : tail = value.lead ++ (value.run ++ value.rest)
  nonempty : value.run ≠ []
  run : ∀ c ∈ value.run, valueChar bearer c = true
  rest : ∀ c ∈ value.rest.head?, valueChar bearer c = false

theorem found_of_valueAfter {value : Value} (h : valueAfter bearer key tail = some value) :
    Found bearer key tail value := by
  unfold valueAfter at h
  split at h
  · rename_i hnamed
    split at h
    · exact nomatch h
    · rename_i text htext
      dsimp only at h
      split at h
      · exact nomatch h
      · rename_i hrun
        rw [← Option.some.inj h]
        obtain ⟨lead, hlead⟩ := valueAt_suffix htext
        have htake : tail.take (tail.length - text.length) = lead := by simp [← hlead]
        exact
          { named := hnamed
            starts := by simpa using htext
            split := by simp [htake, hlead]
            nonempty := by simpa using hrun
            run := fun c hc => List.mem_takeWhile_imp hc
            rest := head?_dropWhile text }
  · exact nomatch h

theorem valueAfter_of_found {value : Value} (h : Found bearer key tail value) :
    valueAfter bearer key tail = some value := by
  have htake : (value.run ++ value.rest).takeWhile (valueChar bearer) = value.run :=
    takeWhile_append h.run h.rest
  have hdrop : (value.run ++ value.rest).dropWhile (valueChar bearer) = value.rest :=
    dropWhile_append h.run h.rest
  have hlead : tail.take (tail.length - (value.run ++ value.rest).length) = value.lead := by
    rw [h.split]
    simp
  unfold valueAfter
  rw [if_pos h.named, h.starts]
  dsimp only
  rw [htake, hdrop, hlead, if_neg (by simpa using h.nonempty)]

/-- Nothing is to hide: the word is none of those, or no value follows. -/
theorem valueAfter_eq_none_iff :
    valueAfter bearer key tail = none ↔
      (credential bearer (lowered key) = true → ∀ text, valueAt bearer tail = some text →
        ∀ c ∈ text.head?, valueChar bearer c = false) := by
  unfold valueAfter
  by_cases hnamed : credential bearer (lowered key) = true
  · rw [if_pos hnamed]
    cases htext : valueAt bearer tail with
    | none => simp
    | some text =>
      cases text with
      | nil => simp
      | cons c rest => by_cases hc : valueChar bearer c <;> simp [hnamed, hc]
  · simp [hnamed]

/-- A character of a word is one of a value as well. -/
theorem valueChar_of_word {c : Char} (hc : word c = true) : valueChar bearer c = true := by
  cases bearer with
  | true =>
    rcases Bool.or_eq_true_iff.mp hc with halnum | hunderscore
    · simp [valueChar, halnum]
    · rw [beq_iff_eq.mp hunderscore]
      decide
  | false =>
    have hends : "&\"\x27,\x7d".toList.all (fun d => !word d) = true := by decide
    have hspace : space c = false := by
      by_contra h
      simp [word_of_space (by simpa using h)] at hc
    have hsign : c ∉ "&\"\x27,\x7d".toList := by
      intro h
      have hnone := List.all_eq_true.mp hends c h
      simp [hc] at hnone
    simp only [valueChar, Bool.false_eq_true, if_false, hspace, Bool.false_or, Bool.not_eq_true']
    simpa using hsign

theorem Found.break_rest {value : Value} (h : Found bearer key tail value) : Break value.rest := by
  intro c hc
  by_contra hword
  have hvalue : valueChar bearer c = true := valueChar_of_word (by simpa using hword)
  exact absurd hvalue (by simp [h.rest c hc])

theorem scan_word (hne : key ≠ []) (hkey : ∀ c ∈ key, word c = true) (htail : Break tail) :
    scan bearer false (key ++ tail) =
      match valueAfter bearer key tail with
      | none => key ++ scan bearer true tail
      | some value =>
        key ++ (value.lead ++ (redacted.text ++
          scan bearer (value.run.getLast?.any word) value.rest)) := by
  cases key with
  | nil => exact absurd rfl hne
  | cons c key =>
    have hc : word c = true := hkey c List.mem_cons_self
    have hrest : ∀ d ∈ key, word d = true := fun d hd => hkey d (List.mem_cons_of_mem c hd)
    rw [List.cons_append, scan, takeWhile_append hrest htail, dropWhile_append hrest htail]
    simp only [hc, Bool.not_true, Bool.or_false, Bool.false_eq_true, if_false]
    split <;> rename_i h <;> simp only [h]

theorem scan_word_none (hne : key ≠ []) (hkey : ∀ c ∈ key, word c = true) (htail : Break tail)
    (h : valueAfter bearer key tail = none) :
    scan bearer false (key ++ tail) = key ++ scan bearer false tail := by
  rw [scan_word hne hkey htail, h]
  dsimp only
  rw [scan_of_break true htail]

theorem scan_word_some (hne : key ≠ []) (hkey : ∀ c ∈ key, word c = true) (htail : Break tail)
    {value : Value} (h : Found bearer key tail value) :
    scan bearer false (key ++ tail) =
      key ++ (value.lead ++ (redacted.text ++ scan bearer false value.rest)) := by
  rw [scan_word hne hkey htail, valueAfter_of_found h]
  dsimp only
  rw [scan_of_break _ h.break_rest]

/-! ## Where a value begins -/

theorem skipQuote_split (text : List Char) :
    ∃ opening, text = opening ++ skipQuote text ∧ (∀ c ∈ opening, quote c = true) ∧
      ∀ after : List Char, (∀ c ∈ after.head?, quote c = false) →
        skipQuote (opening ++ after) = after := by
  have hkept : ∀ after : List Char, (∀ c ∈ after.head?, quote c = false) →
      skipQuote after = after := by
    intro after hafter
    cases after with
    | nil => rfl
    | cons c after => simp [skipQuote, hafter c rfl]
  cases text with
  | nil => exact ⟨[], rfl, by simp, hkept⟩
  | cons c rest =>
    by_cases hc : quote c = true
    · have hskip : ∀ after, skipQuote (c :: after) = after := fun after => by simp [skipQuote, hc]
      exact ⟨[c], by simp [hskip], by simpa using hc, fun after _ => hskip after⟩
    · exact ⟨[], by simp [skipQuote, hc], by simp, hkept⟩

/-- What is between a word and its value: no word, and not what makes the place of the value. -/
structure Lead (bearer : Bool) (lead : List Char) : Prop where
  nonempty : lead ≠ []
  gap : ∀ c ∈ lead, word c = false
  starts : ∀ after : List Char, (∀ c ∈ after.head?, space c = false ∧ quote c = false) →
    valueAt bearer (lead ++ after) = some after

theorem lead_of_bearer {text value : List Char} (h : valueAt true text = some value) :
    ∃ lead, text = lead ++ value ∧ Lead true lead := by
  cases text with
  | nil => exact nomatch h
  | cons c rest =>
    by_cases hc : space c = true
    · have hvalue : (c :: rest).dropWhile space = value := by simpa [valueAt, hc] using h
      refine ⟨(c :: rest).takeWhile space, ?_, ?_, ?_, ?_⟩
      · rw [← hvalue, List.takeWhile_append_dropWhile]
      · simp [hc]
      · exact fun d hd => word_of_space (List.mem_takeWhile_imp hd)
      · intro after hafter
        have hspaces : ∀ d ∈ (c :: rest).takeWhile space, space d = true :=
          fun d hd => List.mem_takeWhile_imp hd
        have hdrop := dropWhile_append hspaces fun d hd => (hafter d hd).1
        rw [List.takeWhile_cons_of_pos hc, List.cons_append] at hdrop ⊢
        simp only [valueAt, if_true, hc, hdrop]
    · simp [valueAt, hc] at h

theorem lead_of_credential {text value : List Char} (h : valueAt false text = some value) :
    ∃ lead, text = lead ++ value ∧ Lead false lead := by
  have hsigned : ∃ sign rest, (skipQuote text).dropWhile space = sign :: rest ∧
      (sign = '=' ∨ sign = ':') ∧ skipQuote (rest.dropWhile space) = value := by
    unfold valueAt at h
    rw [if_neg Bool.false_ne_true] at h
    split at h
    · exact nomatch h
    · rename_i sign rest hsign
      split at h
      · rename_i hmatch
        exact ⟨sign, rest, hsign, by simpa using hmatch, Option.some.inj h⟩
      · exact nomatch h
  obtain ⟨sign, rest, hsign, hmatch, hvalue⟩ := hsigned
  obtain ⟨first, hfirst, hfirstquotes, hskipfirst⟩ := skipQuote_split text
  obtain ⟨second, hsecond, hsecondquotes, hskipsecond⟩ := skipQuote_split (rest.dropWhile space)
  have hsignword : word sign = false := by rcases hmatch with rfl | rfl <;> decide
  have hsignspace : space sign = false := by rcases hmatch with rfl | rfl <;> decide
  have hsignquote : quote sign = false := by rcases hmatch with rfl | rfl <;> decide
  have hspaces : ∀ {run : List Char}, ∀ c ∈ run.takeWhile space, space c = true :=
    fun c hc => List.mem_takeWhile_imp hc
  refine ⟨first ++ ((skipQuote text).takeWhile space ++ sign :: (rest.takeWhile space ++ second)),
    ?_, by simp, ?_, ?_⟩
  · calc text = first ++
          ((skipQuote text).takeWhile space ++ (skipQuote text).dropWhile space) := by
          rw [List.takeWhile_append_dropWhile]
          exact hfirst
      _ = first ++ ((skipQuote text).takeWhile space ++
          sign :: (rest.takeWhile space ++ rest.dropWhile space)) := by
          rw [hsign, List.takeWhile_append_dropWhile]
      _ = _ := by
          rw [hsecond, hvalue]
          simp
  · intro c hc
    simp only [List.mem_append, List.mem_cons] at hc
    rcases hc with hc | hc | rfl | hc | hc
    · exact word_of_quote (hfirstquotes c hc)
    · exact word_of_space (hspaces c hc)
    · exact hsignword
    · exact word_of_space (hspaces c hc)
    · exact word_of_quote (hsecondquotes c hc)
  · intro after hafter
    have hskip := hskipfirst ((skipQuote text).takeWhile space ++
      sign :: (rest.takeWhile space ++ (second ++ after))) <|
        head?_append (fun c hc => quote_of_space (hspaces c hc)) (by simpa using hsignquote)
    have hdropfirst : ((skipQuote text).takeWhile space ++
        sign :: (rest.takeWhile space ++ (second ++ after))).dropWhile space =
          sign :: (rest.takeWhile space ++ (second ++ after)) :=
      dropWhile_append hspaces (by simpa using hsignspace)
    have hdropsecond : (rest.takeWhile space ++ (second ++ after)).dropWhile space =
        second ++ after :=
      dropWhile_append hspaces <|
        head?_append (fun c hc => space_of_quote (hsecondquotes c hc)) fun c hc => (hafter c hc).1
    have hsigned : (sign == '=' || sign == ':') = true := by simpa using hmatch
    unfold valueAt
    rw [if_neg Bool.false_ne_true]
    simp only [List.append_assoc, List.cons_append, hskip, hdropfirst]
    rw [if_pos hsigned, hdropsecond, hskipsecond after fun c hc => (hafter c hc).2]

theorem lead_of_valueAt {text value : List Char} (h : valueAt bearer text = some value) :
    ∃ lead, text = lead ++ value ∧ Lead bearer lead := by
  cases bearer with
  | true => exact lead_of_bearer h
  | false => exact lead_of_credential h

theorem Found.lead {value : Value} (h : Found bearer key tail value) : Lead bearer value.lead := by
  obtain ⟨lead, hsplit, hlead⟩ := lead_of_valueAt h.starts
  have hsame : lead = value.lead := List.append_cancel_right (hsplit.symm.trans h.split)
  exact hsame ▸ hlead

end

end MineTeleop.SessionLogs
