import MineTeleop.SessionLogs.Redaction

/-!
# Redacting what is redacted already

The two credential scans leave the markers alone, each of them what the other one put in as well,
so a document is redacted once.

Proved here:

* `scan_patched`, `redactText_free`: no stage brings back what an earlier one took out;
* `scan_scan`, `bearer_after_credentials`, `redactText_redactText`: a second pass over a text
  changes nothing;
* `redact_hidden`: nothing under a sensitive key shows;
* `redaction_law`: no secret, nothing from under a sensitive key, and a second pass changes nothing.
-/

namespace MineTeleop.SessionLogs

open Documents
open Patches

section
variable {bearer other : Bool} {key tail : List Char}

/-! ## What a scan keeps -/

theorem head?_scan (bearer : Bool) (text : List Char) :
    (scan bearer false text).head? = text.head? := by
  induction text using words_induction with
  | nil => simp
  | gap c rest hc ih => simp [scan_gap bearer false rest hc]
  | key key tail hne hkey htail ih =>
    obtain ⟨c, key, rfl⟩ := List.exists_cons_of_ne_nil hne
    cases h : valueAfter bearer (c :: key) tail with
    | none =>
      rw [scan_word_none hne hkey htail h]
      rfl
    | some value =>
      rw [scan_word_some hne hkey htail (found_of_valueAfter h)]
      rfl

theorem exists_scan_cons (bearer : Bool) (c : Char) (rest : List Char) :
    ∃ after, scan bearer false (c :: rest) = c :: after :=
  List.head?_eq_some_iff.mp (head?_scan bearer (c :: rest))

theorem break_scan (h : Break tail) : Break (scan bearer false tail) := by
  intro c hc
  rw [head?_scan] at hc
  exact h c hc

/-- Outside of the words the text stays. -/
theorem scan_append {gap : List Char} (hgap : ∀ c ∈ gap, word c = false) (text : List Char) :
    scan bearer false (gap ++ text) = gap ++ scan bearer false text := by
  induction gap with
  | nil => rfl
  | cons c gap ih =>
    have hc : word c = false := hgap c List.mem_cons_self
    rw [List.cons_append, scan_gap bearer false _ hc,
      ih fun d hd => hgap d (List.mem_cons_of_mem c hd), List.cons_append]

theorem dropWhile_scan {p : Char → Bool} (hp : ∀ c, p c = true → word c = false)
    (text : List Char) :
    (scan bearer false text).dropWhile p = scan bearer false (text.dropWhile p) := by
  induction text with
  | nil => simp
  | cons c rest ih =>
    by_cases hc : p c = true
    · rw [scan_gap bearer false rest (hp c hc), List.dropWhile_cons_of_pos hc,
        List.dropWhile_cons_of_pos hc, ih]
    · obtain ⟨after, hafter⟩ := exists_scan_cons bearer c rest
      rw [List.dropWhile_cons_of_neg hc, hafter, List.dropWhile_cons_of_neg hc]

theorem skipQuote_scan (text : List Char) :
    skipQuote (scan bearer false text) = scan bearer false (skipQuote text) := by
  cases text with
  | nil => simp [skipQuote]
  | cons c rest =>
    by_cases hc : quote c = true
    · rw [scan_gap bearer false rest (word_of_quote hc)]
      simp [skipQuote, hc]
    · obtain ⟨after, hafter⟩ := exists_scan_cons bearer c rest
      simp [skipQuote, hc, hafter]

/-- A value begins at the same place after a scan, whichever of the two it was. -/
theorem valueAt_scan (text : List Char) :
    valueAt other (scan bearer false text) = (valueAt other text).map (scan bearer false) := by
  cases other with
  | true =>
    cases text with
    | nil => simp [valueAt]
    | cons c rest =>
      obtain ⟨after, hafter⟩ := exists_scan_cons bearer c rest
      have hdrop : (scan bearer false (c :: rest)).dropWhile space =
          scan bearer false ((c :: rest).dropWhile space) :=
        dropWhile_scan (fun _ => word_of_space) (c :: rest)
      rw [hafter] at hdrop ⊢
      by_cases hc : space c = true <;> simp [valueAt, hc, hdrop]
  | false =>
    unfold valueAt
    simp only [Bool.false_eq_true, if_false, skipQuote_scan, dropWhile_scan fun _ => word_of_space]
    cases hsign : (skipQuote text).dropWhile space with
    | nil => simp
    | cons sign rest =>
      by_cases hmatch : (sign == '=' || sign == ':') = true
      · have hword : word sign = false := by
          have hcases : sign = '=' ∨ sign = ':' := by simpa using hmatch
          rcases hcases with rfl | rfl <;> decide
        rw [scan_gap bearer false rest hword]
        simp [hmatch, skipQuote_scan, dropWhile_scan fun _ => word_of_space]
      · obtain ⟨after, hafter⟩ := exists_scan_cons bearer sign rest
        simp [hafter, hmatch]

theorem valueAfter_scan (h : valueAfter other key tail = none) :
    valueAfter other key (scan bearer false tail) = none := by
  rw [valueAfter_eq_none_iff] at h ⊢
  intro hnamed text htext c hc
  rw [valueAt_scan, Option.map_eq_some_iff] at htext
  obtain ⟨text, htext, rfl⟩ := htext
  rw [head?_scan] at hc
  exact h hnamed text htext c hc

/-! ## The marker -/

theorem scan_redacted (bearer : Bool) (text : List Char) :
    scan bearer false (redacted.text ++ text) = redacted.text ++ scan bearer false text := by
  have hword : "redacted".toList.all word = true := by decide
  have hafter : Break (']' :: text) := fun c hc => by
    rw [← Option.some.inj hc]
    decide
  have hnone : valueAfter bearer "redacted".toList (']' :: text) = none := by
    rw [valueAfter_eq_none_iff]
    cases bearer <;> exact fun h => absurd h (by decide)
  have hshape : ∀ after, redacted.text ++ after = '[' :: ("redacted".toList ++ ']' :: after) := by
    simp [redacted, Marker.text]
  rw [hshape, hshape, scan_gap bearer false _ (by decide),
    scan_word_none (by decide) (List.all_eq_true.mp hword) hafter hnone, scan_gap bearer false _ (by decide)]

theorem scan_lead {lead : List Char} (hlead : Lead bearer lead) (text : List Char) :
    scan other false (lead ++ (redacted.text ++ text)) =
      lead ++ (redacted.text ++ scan other false text) := by
  rw [scan_append hlead.gap, scan_redacted]

theorem break_lead {lead : List Char} (hlead : Lead bearer lead) (text : List Char) :
    Break (lead ++ text) := by
  obtain ⟨c, lead, rfl⟩ := List.exists_cons_of_ne_nil hlead.nonempty
  intro d hd
  rw [← Option.some.inj hd]
  exact hlead.gap c List.mem_cons_self

/-! ## A second pass -/

theorem starts_redacted {lead : List Char} (hlead : Lead bearer lead) (text : List Char) :
    valueAt bearer (lead ++ (redacted.text ++ text)) = some (redacted.text ++ text) := by
  refine hlead.starts _ fun c hc => ?_
  rw [← Option.some.inj hc]
  decide

/-- The marker is a value for the words with a sign, and none for a header. -/
theorem scan_word_redacted (hne : key ≠ []) (hkey : ∀ c ∈ key, word c = true)
    {lead rest : List Char} (hnamed : credential bearer (lowered key) = true)
    (hlead : Lead bearer lead)
    (hrest : ∀ c ∈ rest.head?, valueChar bearer c = false) :
    scan bearer false (key ++ (lead ++ (redacted.text ++ rest))) =
      key ++ (lead ++ (redacted.text ++ scan bearer false rest)) := by
  cases bearer with
  | true =>
    have hnone : valueAfter true key (lead ++ (redacted.text ++ rest)) = none := by
      rw [valueAfter_eq_none_iff]
      intro _ text htext c hc
      rw [starts_redacted hlead, Option.some.injEq] at htext
      rw [← htext] at hc
      rw [← Option.some.inj hc]
      decide
    rw [scan_word_none hne hkey (break_lead hlead _) hnone, scan_lead hlead]
  | false =>
    have hmarker : redacted.text ≠ [] := by decide
    have hvalue : redacted.text.all (valueChar false) = true := by decide
    have hfound : Found false key (lead ++ (redacted.text ++ rest)) ⟨lead, redacted.text, rest⟩ :=
      { named := hnamed
        starts := starts_redacted hlead rest
        split := rfl
        nonempty := hmarker
        run := List.all_eq_true.mp hvalue
        rest := hrest }
    rw [scan_word_some hne hkey (break_lead hlead _) hfound]

/-- A scan changes nothing of what it gave. -/
theorem scan_scan (bearer : Bool) (text : List Char) :
    scan bearer false (scan bearer false text) = scan bearer false text := by
  induction text using words_induction with
  | nil => simp
  | gap c rest hc ih => rw [scan_gap bearer false rest hc, scan_gap bearer false _ hc, ih]
  | key key tail hne hkey htail ih =>
    cases h : valueAfter bearer key tail with
    | none =>
      rw [scan_word_none hne hkey htail h,
        scan_word_none hne hkey (break_scan htail) (valueAfter_scan h), ih tail le_rfl]
    | some value =>
      have hfound := found_of_valueAfter h
      have hlead : Lead bearer value.lead := hfound.lead
      have hshorter : value.rest.length ≤ tail.length := (valueAfter_rest_suffix h).length_le
      have hrest : ∀ c ∈ (scan bearer false value.rest).head?, valueChar bearer c = false := by
        rw [head?_scan]
        exact hfound.rest
      rw [scan_word_some hne hkey htail hfound,
        scan_word_redacted hne hkey hfound.named hlead hrest, ih value.rest hshorter]

/-! ## One scan after the other -/

theorem rest_of_fixed_gap {c : Char} {rest : List Char} (hc : word c = false)
    (h : scan true false (c :: rest) = c :: rest) : scan true false rest = rest := by
  rw [scan_gap true false rest hc] at h
  exact List.tail_eq_of_cons_eq h

/-- Where nothing is left to hide after a `Bearer`, nothing was found. -/
theorem none_of_fixed_word (hne : key ≠ []) (hkey : ∀ c ∈ key, word c = true)
    (htail : Break tail) (h : scan true false (key ++ tail) = key ++ tail) :
    valueAfter true key tail = none ∧ scan true false tail = tail := by
  cases hvalue : valueAfter true key tail with
  | none =>
    rw [scan_word_none hne hkey htail hvalue] at h
    exact ⟨rfl, List.append_cancel_left h⟩
  | some value =>
    have hfound := found_of_valueAfter hvalue
    rw [scan_word_some hne hkey htail hfound] at h
    have htailsame := (List.append_cancel_left h).trans hfound.split
    have hrun := List.append_cancel_left htailsame
    obtain ⟨c, run, hcons⟩ := List.exists_cons_of_ne_nil hfound.nonempty
    have hc : valueChar true c = true := hfound.run c (hcons ▸ List.mem_cons_self)
    rw [hcons] at hrun
    have hmarker : '[' = c := List.head_eq_of_cons_eq hrun
    exact absurd (hmarker ▸ hc) (by decide)

theorem suffix_of_fixed (text : List Char) (h : scan true false text = text) :
    ∀ before after, text = before ++ after → Break after → scan true false after = after := by
  induction text using words_induction with
  | nil =>
    intro before after hsplit _
    rw [(List.append_eq_nil_iff.mp hsplit.symm).2, scan_nil]
  | gap c rest hc ih =>
    intro before after hsplit hafter
    cases before with
    | nil =>
      have hsame : c :: rest = after := hsplit
      exact hsame ▸ h
    | cons d before =>
      obtain ⟨-, hrest⟩ := List.cons.inj hsplit
      exact ih (rest_of_fixed_gap hc h) before after hrest hafter
  | key key tail hne hkey htail ih =>
    intro before after hsplit hafter
    obtain ⟨-, hfixed⟩ := none_of_fixed_word hne hkey htail h
    rcases List.append_eq_append_iff.mp hsplit with ⟨more, -, hmore⟩ | ⟨more, hmore, hrest⟩
    · exact ih tail le_rfl hfixed more after hmore hafter
    · cases more with
      | nil => exact hrest ▸ hfixed
      | cons c more =>
        have hin : word c = true := hkey c (by simp [hmore])
        have hout : word c = false := hafter c (by simp [hrest])
        exact absurd hin (by simp [hout])

theorem bearer_not_credential (h : credential false key = true) : credential true key = false := by
  by_contra hbearer
  have hkey : key = "bearer".toList := by simpa [credential] using hbearer
  rw [hkey] at h
  exact absurd h (by decide)

/-- Hiding the credentials leaves nothing more to hide after a `Bearer`. -/
theorem bearer_after_credentials (text : List Char) (h : scan true false text = text) :
    scan true false (scan false false text) = scan false false text := by
  induction text using words_induction with
  | nil => simp
  | gap c rest hc ih =>
    rw [scan_gap false false rest hc, scan_gap true false _ hc, ih (rest_of_fixed_gap hc h)]
  | key key tail hne hkey htail ih =>
    obtain ⟨hnone, hfixed⟩ := none_of_fixed_word hne hkey htail h
    cases hvalue : valueAfter false key tail with
    | none =>
      rw [scan_word_none hne hkey htail hvalue,
        scan_word_none hne hkey (break_scan htail) (valueAfter_scan hnone), ih tail le_rfl hfixed]
    | some value =>
      have hfound := found_of_valueAfter hvalue
      have hshorter : value.rest.length ≤ tail.length := (valueAfter_rest_suffix hvalue).length_le
      have hother : valueAfter true key
          (value.lead ++ (redacted.text ++ scan false false value.rest)) = none := by
        rw [valueAfter_eq_none_iff]
        exact fun hbearer => absurd hbearer (by simp [bearer_not_credential hfound.named])
      have hrest : scan true false value.rest = value.rest :=
        suffix_of_fixed tail hfixed (value.lead ++ value.run) value.rest
          (by rw [List.append_assoc]; exact hfound.split) hfound.break_rest
      rw [scan_word_some hne hkey htail hfound,
        scan_word_none hne hkey (break_lead hfound.lead _) hother, scan_lead hfound.lead,
        ih value.rest hshorter hrest]

/-! ## Patches -/

theorem scan_patched (bearer : Bool) (text : List Char) :
    Patched redacted text (scan bearer false text) := by
  induction text using words_induction with
  | nil =>
    rw [scan_nil]
    exact .nil
  | gap c rest hc ih =>
    rw [scan_gap bearer false rest hc]
    exact ih.keep c
  | key key tail hne hkey htail ih =>
    cases h : valueAfter bearer key tail with
    | none =>
      rw [scan_word_none hne hkey htail h]
      exact (ih tail le_rfl).append key
    | some value =>
      have hfound := found_of_valueAfter h
      have hshorter : value.rest.length ≤ tail.length := (valueAfter_rest_suffix h).length_le
      rw [scan_word_some hne hkey htail hfound]
      nth_rewrite 1 [hfound.split]
      exact (((ih value.rest hshorter).replace value.run).append value.lead).append key

end

/-! ## Texts -/

/-- A secret that the markers do not show by themselves. -/
structure Suitable (secret : String) : Prop where
  nonempty : secret ≠ ""
  opening : '[' ∉ secret.toList
  closing : ']' ∉ secret.toList
  marked : ¬secret.toList <:+: "redacted".toList
  limited : ¬secret.toList <:+: "depth-limited".toList

section
variable {secret : String} {secrets : List String} {text old new : List Char}

theorem Suitable.avoids (h : Suitable secret) : redacted.Avoids secret.toList :=
  { before := h.opening
    after := h.closing
    word := h.marked }

theorem Suitable.toList_nonempty (h : Suitable secret) : secret.toList ≠ [] := by
  intro hnil
  exact h.nonempty (String.toList_eq_nil_iff.mp hnil)

theorem Suitable.free_of_patched (h : Suitable secret) (hpatched : Patched redacted old new)
    (hfree : ¬secret.toList <:+: old) : ¬secret.toList <:+: new :=
  fun hoccurs => hfree (hpatched.infix_of_infix h.avoids hoccurs)

theorem replaceSecret_patched (text needle : List Char) :
    Patched redacted text (replaceSecret text needle) := by
  unfold replaceSecret
  by_cases hempty : needle.isEmpty = true
  · rw [if_pos hempty]
    exact .refl text
  · rw [if_neg hempty]
    exact replaceAll_patched (by simpa using hempty) text

theorem Suitable.replaceSecret_free (h : Suitable secret) (text : List Char) :
    ¬secret.toList <:+: replaceSecret text secret.toList := by
  have hempty : ¬secret.toList.isEmpty = true := by simpa using h.toList_nonempty
  unfold replaceSecret
  rw [if_neg hempty]
  exact replaceAll_free h.toList_nonempty h.avoids text

/-- Replacing more of them brings none back. -/
theorem Suitable.free_of_replaced (h : Suitable secret) (others : List String)
    (hfree : ¬secret.toList <:+: text) :
    ¬secret.toList <:+: (others.map String.toList).foldl replaceSecret text := by
  induction others generalizing text with
  | nil => exact hfree
  | cons other others ih => exact ih (h.free_of_patched (replaceSecret_patched text _) hfree)

theorem Suitable.replaced_free (h : Suitable secret) (hin : secret ∈ secrets) (text : List Char) :
    ¬secret.toList <:+: (secrets.map String.toList).foldl replaceSecret text := by
  induction secrets generalizing text with
  | nil => exact nomatch hin
  | cons other others ih =>
    rcases List.mem_cons.mp hin with rfl | hlater
    · exact h.free_of_replaced others (h.replaceSecret_free text)
    · exact ih hlater _

theorem replaced_of_free (hfree : ∀ secret ∈ secrets, ¬secret.toList <:+: text) :
    (secrets.map String.toList).foldl replaceSecret text = text := by
  induction secrets with
  | nil => rfl
  | cons secret others ih =>
    have hsame : replaceSecret text secret.toList = text := by
      unfold replaceSecret
      split
      · rfl
      · exact replaceAll_of_free text (hfree secret List.mem_cons_self)
    rw [List.map_cons, List.foldl_cons, hsame]
    exact ih fun other hother => hfree other (List.mem_cons_of_mem _ hother)

theorem toList_redactText (secrets : List String) (text : String) :
    (redactText secrets text).toList =
      scan false false (scan true false
        ((secrets.map String.toList).foldl replaceSecret text.toList)) := by
  simp [redactText, redactCredentials]

theorem redactText_free (h : Suitable secret) (hin : secret ∈ secrets) (text : String) :
    ¬secret.toList <:+: (redactText secrets text).toList := by
  rw [toList_redactText]
  exact h.free_of_patched (scan_patched false _) <|
    h.free_of_patched (scan_patched true _) (h.replaced_free hin text.toList)

theorem redactText_redactText (hall : ∀ secret ∈ secrets, Suitable secret) (text : String) :
    redactText secrets (redactText secrets text) = redactText secrets text := by
  have hreplaced := replaced_of_free fun secret hin => redactText_free (hall secret hin) hin text
  apply String.toList_inj.mp
  rw [toList_redactText, hreplaced, toList_redactText,
    bearer_after_credentials _ (scan_scan true _), scan_scan]

end

/-! ## Documents -/

theorem redact_deep (secrets : List String) {depth : ℕ} (hdepth : 64 < depth) (value : Json) :
    redact secrets depth value = .string "[depth-limited]" := by
  cases value <;> simp only [redact, if_pos hdepth]

/-! ## What is under no sensitive key -/

mutual

/-- The document without what is under its sensitive keys. -/
def hidden : Json → Json
  | .object members => .object (hiddenMembers members)
  | .array elements => .array (hiddenElements elements)
  | value => value

def hiddenMembers : List (String × Json) → List (String × Json)
  | [] => []
  | (key, value) :: members =>
    (key, if sensitive key then .null else hidden value) :: hiddenMembers members

def hiddenElements : List Json → List Json
  | [] => []
  | element :: elements => hidden element :: hiddenElements elements

end

mutual

theorem redact_hidden (secrets : List String) (depth : ℕ) (value : Json) :
    redact secrets depth (hidden value) = redact secrets depth value := by
  cases value with
  | object members => simp only [hidden, redact, redactMembers_hidden secrets (depth + 1) members]
  | array elements => simp only [hidden, redact, redactElements_hidden secrets (depth + 1) elements]
  | null => simp only [hidden]
  | boolean value => simp only [hidden]
  | integer value => simp only [hidden]
  | number value => simp only [hidden]
  | string value => simp only [hidden]

theorem redactMembers_hidden (secrets : List String) (depth : ℕ) (members : List (String × Json)) :
    redactMembers secrets depth (hiddenMembers members) = redactMembers secrets depth members := by
  cases members with
  | nil => rfl
  | cons member members =>
    obtain ⟨key, value⟩ := member
    simp only [hiddenMembers, redactMembers, redactMembers_hidden secrets depth members]
    by_cases hkey : sensitive key = true
    · simp [hkey]
    · simp [hkey, redact_hidden secrets depth value]

theorem redactElements_hidden (secrets : List String) (depth : ℕ) (elements : List Json) :
    redactElements secrets depth (hiddenElements elements) =
      redactElements secrets depth elements := by
  cases elements with
  | nil => rfl
  | cons element elements =>
    simp only [hiddenElements, redactElements, redact_hidden secrets depth element,
      redactElements_hidden secrets depth elements]

end

/-! ## The texts of a document -/

mutual

def texts : Json → List String
  | .string text => [text]
  | .array elements => elementTexts elements
  | .object members => memberTexts members
  | _ => []

def memberTexts : List (String × Json) → List String
  | [] => []
  | (_, value) :: members => texts value ++ memberTexts members

def elementTexts : List Json → List String
  | [] => []
  | element :: elements => texts element ++ elementTexts elements

end

section
variable {secret : String} {secrets : List String}

/-- Between the brackets of a marker stands nothing of a secret. -/
theorem Suitable.bracketed_free (h : Suitable secret) {inner : List Char}
    (hinner : ¬secret.toList <:+: inner) : ¬secret.toList <:+: '[' :: (inner ++ [']']) := by
  intro hoccurs
  have hsplit : secret.toList <:+: [] ++ '[' :: (inner ++ [']']) := hoccurs
  rcases infix_append_cons h.opening hsplit with hnil | hrest
  · exact h.toList_nonempty (List.infix_nil.mp hnil)
  · rcases infix_append_cons h.closing hrest with hword | hnil
    · exact hinner hword
    · exact h.toList_nonempty (List.infix_nil.mp hnil)

theorem Suitable.marker_free (h : Suitable secret) : ¬secret.toList <:+: "[redacted]".toList :=
  h.bracketed_free h.marked

theorem Suitable.limit_free (h : Suitable secret) : ¬secret.toList <:+: "[depth-limited]".toList :=
  h.bracketed_free h.limited

mutual

theorem texts_redact_free (h : Suitable secret) (hin : secret ∈ secrets) (depth : ℕ)
    (value : Json) :
    ∀ text ∈ texts (redact secrets depth value), ¬secret.toList <:+: text.toList := by
  by_cases hdepth : 64 < depth
  · simpa [redact_deep secrets hdepth, texts] using h.limit_free
  · cases value with
    | object members =>
      simpa only [redact, hdepth, if_false, texts] using
        memberTexts_redact_free h hin (depth + 1) members
    | array elements =>
      simpa only [redact, hdepth, if_false, texts] using
        elementTexts_redact_free h hin (depth + 1) elements
    | string text => simpa [redact, hdepth, texts] using redactText_free h hin text
    | null => simp [redact, hdepth, texts]
    | boolean value => simp [redact, hdepth, texts]
    | integer value => simp [redact, hdepth, texts]
    | number value => simp [redact, hdepth, texts]

theorem memberTexts_redact_free (h : Suitable secret) (hin : secret ∈ secrets) (depth : ℕ)
    (members : List (String × Json)) :
    ∀ text ∈ memberTexts (redactMembers secrets depth members),
      ¬secret.toList <:+: text.toList := by
  cases members with
  | nil => simp [redactMembers, memberTexts]
  | cons member members =>
    obtain ⟨key, value⟩ := member
    intro text htext
    simp only [redactMembers, memberTexts, List.mem_append] at htext
    rcases htext with hfirst | hlater
    · by_cases hkey : sensitive key = true
      · rw [if_pos hkey, texts, List.mem_singleton] at hfirst
        exact hfirst ▸ h.marker_free
      · rw [if_neg hkey] at hfirst
        exact texts_redact_free h hin depth value text hfirst
    · exact memberTexts_redact_free h hin depth members text hlater

theorem elementTexts_redact_free (h : Suitable secret) (hin : secret ∈ secrets) (depth : ℕ)
    (elements : List Json) :
    ∀ text ∈ elementTexts (redactElements secrets depth elements),
      ¬secret.toList <:+: text.toList := by
  cases elements with
  | nil => simp [redactElements, elementTexts]
  | cons element elements =>
    intro text htext
    simp only [redactElements, elementTexts, List.mem_append] at htext
    rcases htext with hfirst | hlater
    · exact texts_redact_free h hin depth element text hfirst
    · exact elementTexts_redact_free h hin depth elements text hlater

end

/-! ## Redacting a document twice -/

mutual

theorem redact_redact (hall : ∀ secret ∈ secrets, Suitable secret) (depth : ℕ) (value : Json) :
    redact secrets depth (redact secrets depth value) = redact secrets depth value := by
  by_cases hdepth : 64 < depth
  · rw [redact_deep secrets hdepth, redact_deep secrets hdepth]
  · cases value with
    | object members =>
      simp only [redact, hdepth, if_false, redactMembers_redactMembers hall (depth + 1) members]
    | array elements =>
      simp only [redact, hdepth, if_false, redactElements_redactElements hall (depth + 1) elements]
    | string text => simp only [redact, hdepth, if_false, redactText_redactText hall text]
    | null => simp [redact, hdepth]
    | boolean value => simp [redact, hdepth]
    | integer value => simp [redact, hdepth]
    | number value => simp [redact, hdepth]

theorem redactMembers_redactMembers (hall : ∀ secret ∈ secrets, Suitable secret) (depth : ℕ)
    (members : List (String × Json)) :
    redactMembers secrets depth (redactMembers secrets depth members) =
      redactMembers secrets depth members := by
  cases members with
  | nil => rfl
  | cons member members =>
    obtain ⟨key, value⟩ := member
    simp only [redactMembers, redactMembers_redactMembers hall depth members]
    by_cases hkey : sensitive key = true
    · simp [hkey]
    · simp [hkey, redact_redact hall depth value]

theorem redactElements_redactElements (hall : ∀ secret ∈ secrets, Suitable secret) (depth : ℕ)
    (elements : List Json) :
    redactElements secrets depth (redactElements secrets depth elements) =
      redactElements secrets depth elements := by
  cases elements with
  | nil => rfl
  | cons element elements =>
    simp only [redactElements, redact_redact hall depth element,
      redactElements_redactElements hall depth elements]

end

/-- No secret shows, nothing from under a sensitive key does, and once is enough. -/
theorem redaction_law (hall : ∀ secret ∈ secrets, Suitable secret) (value : Json) :
    (∀ text ∈ texts (redact secrets 0 value), ∀ secret ∈ secrets,
      ¬secret.toList <:+: text.toList) ∧
    (∀ other, hidden value = hidden other → redact secrets 0 value = redact secrets 0 other) ∧
    redact secrets 0 (redact secrets 0 value) = redact secrets 0 value := by
  refine ⟨?_, ?_, redact_redact hall 0 value⟩
  · intro text htext secret hin
    exact texts_redact_free (hall secret hin) hin 0 value text htext
  · intro other hsame
    rw [← redact_hidden secrets 0 value, hsame, redact_hidden secrets 0 other]

end

/-! ## One document -/

theorem bench_secrets : ∀ secret ∈ ["hunter2", "ter2ab"], Suitable secret := by
  intro secret hin
  rcases List.mem_cons.mp hin with rfl | hin
  · exact ⟨by decide, by decide, by decide, by decide, by decide⟩
  · rw [List.mem_singleton.mp hin]
    exact ⟨by decide, by decide, by decide, by decide, by decide⟩

def benchDocument : Json :=
  .object [("line", .string "Authorization: Bearer hunter2.ab token=x,hunter2ab"),
    ("Driver_Token", .integer 7), ("path", .array [.string "/srv/hunter2"])]

theorem redaction_law_bench :
    (∀ text ∈ texts (redact ["hunter2", "ter2ab"] 0 benchDocument),
      ∀ secret ∈ ["hunter2", "ter2ab"], ¬secret.toList <:+: text.toList) ∧
    (∀ other, hidden benchDocument = hidden other →
      redact ["hunter2", "ter2ab"] 0 benchDocument = redact ["hunter2", "ter2ab"] 0 other) ∧
    redact ["hunter2", "ter2ab"] 0 (redact ["hunter2", "ter2ab"] 0 benchDocument) =
      redact ["hunter2", "ter2ab"] 0 benchDocument :=
  redaction_law bench_secrets benchDocument

example : redactText ["hunter2"] "Authorization: Bearer hunter2 token=x,hunter2ab" =
    "Authorization: [redacted] [redacted] token=[redacted],[redacted]ab" := by decide +kernel

end MineTeleop.SessionLogs
