import MineTeleop.Uploader.Process

/-!
# Which calls upload

Calls on a storage that fails nothing. A call looks at one metadata file only, the first that is
not passed over; a segment behind it is not reached.

Proved here, for any tree:

* `call_cases`: what a call reports and leaves;
* `uploads_iff`: a call uploads exactly when the segment in front is valid;
* `upload_progress_iff`: over any number of calls, a valid segment is enough exactly when there
  is always one in front.
-/

namespace MineTeleop.Uploader
open Documents Files Programs

variable (f : Formats) (u : LocalArchiveUploader) (t : Tree)

/-- The segment that the next call comes to, when it can be uploaded. -/
structure Front (p : FilePath) (segment : Segment) : Prop where
  first : next f u t = some p
  pending : Pending f t p
  read : readSegment f u t p = .ok segment
  readable : (t.read segment.video).isSome

/-- The first metadata file that is not passed over is one of a valid segment. -/
def FrontValid : Prop := ∃ p, next f u t = some p ∧ Valid f u t p

instance : Decidable (FrontValid f u t) :=
  match h : next f u t with
  | some p => decidable_of_iff (Valid f u t p) (by simp [FrontValid, h])
  | none => isFalse (by simp [FrontValid, h])

/-- There is a segment to upload, and nothing is wrong with it. -/
def HasValid : Prop := ∃ p ∈ metadataFiles u t, Valid f u t p

instance : Decidable (HasValid f u t) :=
  inferInstanceAs (Decidable (∃ p ∈ metadataFiles u t, Valid f u t p))

/-- A call that does not upload: nothing to do, a metadata file that cannot be read or does not
pass, or a video that cannot be copied. -/
inductive Refused : UploadProcessResult → World → Prop
  | idle : next f u t = none → Refused {} ⟨t, [], []⟩
  | unread {p what} : next f u t = some p → ¬Valid f u t p →
      Refused (failedResult p what) ⟨t, [], []⟩
  | uncopied {p segment what w} : next f u t = some p → Pending f t p →
      readSegment f u t p = .ok segment → t.read segment.video = none →
      Confined (archiveOnly u) ⟨t, [], []⟩ w → Refused (failedResult p what) w

/-- The report of a call and the world behind it. -/
inductive Called : UploadProcessResult → World → Prop
  | refused {result w} : Refused f u t result w → Called result w
  | uploaded {p segment w} : Front f u t p segment → Recorded f u ⟨t, [], []⟩ p segment w →
      Called (uploadedResult t p segment) w

variable {f u t}

theorem front_valid_iff : FrontValid f u t ↔ ∃ p segment, Front f u t p segment :=
  ⟨fun ⟨p, hfirst, hpending, segment, hread, hreadable⟩ =>
    ⟨p, segment, hfirst, hpending, hread, hreadable⟩,
    fun ⟨p, segment, h⟩ => ⟨p, h.first, h.pending, segment, h.read, h.readable⟩⟩

theorem Front.unique {p p' : FilePath} {segment segment' : Segment} (h : Front f u t p segment)
    (h' : Front f u t p' segment') : p' = p ∧ segment' = segment := by
  obtain rfl := Option.some.inj (h'.first.symm.trans h.first)
  exact ⟨rfl, Except.ok.inj (h'.read.symm.trans h.read)⟩

theorem called : Ensures (processOnce f u) ⟨t, [], []⟩ (Called f u t) fun _ _ => False := by
  have huntouched {w₁ : World} (h : Untouched ⟨t, [], []⟩ w₁) : w₁ = ⟨t, [], []⟩ := by
    obtain ⟨tree, outcomes, written⟩ := w₁
    obtain rfl : tree = t := h.tree
    obtain rfl : written = [] := h.written
    obtain rfl : outcomes = [] := List.suffix_nil.mp h.spent
    rfl
  refine processOnce_ensures (fun _ _ _ h => h rfl) (fun w₁ h₁ hnext => ?_)
    (fun p what w₁ h₁ hnext hwhat => ?_) fun p w₁ h₁ hnext hpending => ?_
  · rw [huntouched h₁]
    exact .refused (.idle hnext)
  · rw [huntouched h₁]
    refine .refused (.unread hnext fun hvalid => ?_)
    exact nomatch hwhat.symm.trans hvalid.1
  · rw [huntouched h₁]
    cases hread : readSegment f u t p with
    | error what =>
      unfold uploadMetadata
      rw [ensures_bind, ensures_get, ensures_bind, ensures_liftResult, hread]
      refine .refused (.unread hnext fun ⟨_, segment, hok, _⟩ => ?_)
      exact nomatch hread.symm.trans hok
    | ok segment =>
      cases hvideo : t.read segment.video with
      | none =>
        have hunreadable := uploadMetadata_unreadable (w := ⟨t, [], []⟩) hread hvideo
        refine hunreadable.mono (fun result w h => h.elim) fun what w h => ?_
        exact .refused (.uncopied hnext hpending hread hvideo h)
      | some content =>
        have hupload := uploadMetadata_ensures (w := ⟨t, [], []⟩) hread
        refine hupload.mono (fun result w h => ?_) fun what w h => ?_
        · obtain ⟨rfl, hrecorded⟩ := h
          exact .uploaded ⟨hnext, hpending, hread, hvideo ▸ rfl⟩ hrecorded
        · exact absurd (hvideo.symm.trans (h.2 rfl)) nofun

/-- A call never throws on such a storage. -/
theorem call_cases : ∃ result w, (call f u t) = (.ok result, w.tree) ∧ Called f u t result w := by
  have hcalled := called (f := f) (u := u) (t := t)
  unfold Ensures at hcalled
  unfold call
  cases hended : ((processOnce f u).exec ⟨t, [], []⟩).1 with
  | error what =>
    rw [hended] at hcalled
    exact hcalled.elim
  | ok result =>
    rw [hended] at hcalled
    exact ⟨result, _, congrArg (Prod.mk · _) hended, hcalled⟩

theorem not_front_of_refused {result : UploadProcessResult} {w : World}
    (hrefused : Refused f u t result w) : ¬FrontValid f u t := by
  rintro ⟨p, hfirst, hvalid⟩
  cases hrefused with
  | idle hnext => exact nomatch hnext.symm.trans hfirst
  | unread hnext hinvalid =>
    obtain rfl := Option.some.inj (hnext.symm.trans hfirst)
    exact hinvalid hvalid
  | uncopied hnext _ hread hvideo _ =>
    obtain rfl := Option.some.inj (hnext.symm.trans hfirst)
    obtain ⟨-, segment', hread', hreadable⟩ := hvalid
    obtain rfl := Except.ok.inj (hread.symm.trans hread')
    simp [hvideo] at hreadable

/-- Only a valid segment in front is uploaded, and it always is. -/
theorem uploads_iff : Uploads f u t ↔ FrontValid f u t := by
  obtain ⟨result, w, hcall, hcases⟩ := call_cases (f := f) (u := u) (t := t)
  unfold Uploads
  rw [hcall]
  cases hcases with
  | refused hrefused =>
    refine iff_of_false ?_ (not_front_of_refused hrefused)
    cases hrefused <;> exact nofun
  | uploaded hfront _ => exact iff_of_true rfl (front_valid_iff.mpr ⟨_, _, hfront⟩)

theorem after_fixed (h : (call f u t).2 = t) (n : ℕ) : after f u t n = t := by
  induction n with
  | zero => rfl
  | succ n ih =>
    show (call f u (after f u t n)).2 = t
    rw [ih, h]

/-- A metadata file that cannot be read stops the queue where it is. -/
theorem after_of_unread {p : FilePath} {what : String} (hfirst : next f u t = some p)
    (hunread : uploadState f t p = .error what) (n : ℕ) : after f u t n = t := by
  refine after_fixed ?_ n
  obtain ⟨result, w, hcall, hcases⟩ := call_cases (f := f) (u := u) (t := t)
  rw [hcall]
  cases hcases with
  | refused hrefused =>
    cases hrefused with
    | idle _ => rfl
    | unread _ _ => rfl
    | uncopied hnext hpending _ _ _ =>
      obtain rfl := Option.some.inj (hnext.symm.trans hfirst)
      exact nomatch hunread.symm.trans hpending
  | uploaded hfront _ =>
    obtain rfl := Option.some.inj (hfront.first.symm.trans hfirst)
    exact nomatch hunread.symm.trans hfront.pending

/-- Over any number of calls: that there is a valid segment is enough for a call to upload one
exactly when there is never a metadata file in front of it that fails. -/
theorem upload_progress_iff (f : Formats) (u : LocalArchiveUploader) (t : Tree) :
    (∀ n, HasValid f u (after f u t n) → Uploads f u (after f u t n)) ↔
      ∀ n, HasValid f u (after f u t n) → FrontValid f u (after f u t n) :=
  forall_congr' fun _ => imp_congr_right fun _ => uploads_iff

/-! ## A spool with a damaged file in front -/

def bytes (text : String) : Content := text.toList.map fun c => UInt8.ofNat c.toNat

/-- The documents of the samples, with their texts. -/
def sampleDocuments : List (Content × Json) :=
  let named : Json := .object [("video_file", .string "c.mp4")]
  [(bytes "\x7b\x7d", .object []),
    (bytes "\x7b\"video_file\": \"c.mp4\"\x7d", named),
    (bytes "\x7b\n  \"upload_state\": \"uploaded\"\n\x7d", markUploaded (.object [])),
    (bytes "\x7b\n  \"upload_state\": \"uploaded\",\n  \"video_file\": \"c.mp4\"\n\x7d",
      markUploaded named)]

def sampleFormats : Formats where
  parse content :=
    match sampleDocuments.find? fun d => d.1 = content ∨ d.1 ++ [10] = content with
    | some d => .ok d.2
    | none => .error "[json.exception.parse_error.101] parse error"
  dump value := ((sampleDocuments.find? fun d => d.2 = value).map Prod.fst).getD []
  digest content :=
    if content = bytes "video" then
      "0cab1c9617404faf2b24e221e189ca5945813e14d3f766345b09ca13bbe28ffc"
    else if content = bytes "vid" then
      "1ff838dc6ca9680d88455341118157d59a055fe6d0e3870f9c002847bebe4663"
    else ""

def sampleUploader : LocalArchiveUploader := ⟨["recordings"], ["archive"]⟩

/-- Files in the recording root, next to each other. -/
def spool (files : List (String × String)) : Tree where
  files := files.foldr (fun file files =>
    files.insert ⟨["recordings"], file.1⟩ ⟨bytes file.2, true⟩) ∅
  directories := [[], ["recordings"]]

/-- An empty metadata file before a segment of which nothing is wrong. -/
def damagedSpool : Tree := spool [("a.json", ""), ("b.json", "\x7b\x7d"), ("b.mp4", "video")]

theorem damaged_spool_starves : HasValid sampleFormats sampleUploader damagedSpool ∧
    ∀ n, ¬Uploads sampleFormats sampleUploader
      (after sampleFormats sampleUploader damagedSpool n) := by
  refine ⟨by decide +kernel, fun n => ?_⟩
  have hfirst : next sampleFormats sampleUploader damagedSpool =
      some ⟨["recordings"], "a.json"⟩ := by decide +kernel
  rw [after_of_unread hfirst rfl n]
  decide +kernel

end MineTeleop.Uploader
