import MineTeleop.Uploader.Draining

/-!
# What a call records

One call on any storage, from any tree of files: whichever request fails, and whatever it leaves
behind.

Proved here:

* `safe_of_failure`: a call that stops before its last step leaves the spool as it was, but for
  one temporary, and a later call can take the segment;
* `safe_of_recorded`: an upload that goes through has the copy and both marks;
* `process_once_safe`: so every call is safe.
-/

namespace MineTeleop.Uploader
open Documents Files Programs

variable (f : Formats) (u : LocalArchiveUploader)

/-- Every video that a metadata file names has the extension of videos. -/
def VideosAreMp4 (t : Tree) : Prop :=
  ∀ p ∈ metadataFiles u t, ∀ segment, readSegment f u t p = .ok segment →
    extension segment.video.name = ".mp4"

/-- The checksum tells the bytes that the storage leaves of a copy from those of a file. -/
def TellsApart (w : World) : Prop :=
  ∀ left, .garbles left ∈ w.outcomes → ∀ q file, w.tree.find? q = some file →
    f.digest left = f.digest file.content → left = file.content

/-- The archive has the video of a segment, byte for byte, and its metadata with the mark, both
under the paths that they have in the recording root. -/
def Archived (t t' : Tree) (p : FilePath) : Prop :=
  ∃ segment, readSegment f u t p = .ok segment ∧
    Leads u.recordingRoot segment.videoRelative segment.video ∧
    Leads u.recordingRoot segment.metadataRelative p ∧
    (∃ video, t.find? segment.video = some video ∧ t'.find? segment.video = some video ∧
      (t'.find? (u.destination segment.videoRelative)).map File.content = some video.content) ∧
    MarkedUploaded f t' (u.destination segment.metadataRelative)

/-- The report of an upload. -/
def Reported : Except String UploadProcessResult → Prop
  | .ok result => result.action = .uploaded
  | .error _ => False

/-- From `w` to `w'` in one call. -/
structure Safe (w : World) (result : Except String UploadProcessResult) (w' : World) : Prop where
  marked : ∀ p ∈ metadataFiles u w.tree, ¬MarkedUploaded f w.tree p →
    MarkedUploaded f w'.tree p → Archived f u w.tree w'.tree p
  written : ∃ more, w'.written = w.written ++ more ∧ ∀ q ∈ more,
    InArchive u q ∨ ∃ p, next f u w.tree = some p ∧ (q = temporary p ∨ q = p)
  directories : ∀ d ∈ w'.tree.directories, d ∈ w.tree.directories ∨ TowardsArchive u d
  intact : ¬Reported result → ∀ q, u.recordingRoot <+: q.parent →
    (∀ p, next f u w.tree = some p → q ≠ temporary p) → w'.tree.find? q = w.tree.find? q
  retried : ¬Reported result → ∀ p segment, Front f u w.tree p segment →
    Front f u w'.tree p segment ∧ Uploads f u w'.tree

variable {f u} {w w' : World} {p : FilePath} {segment : Segment}
  {result : Except String UploadProcessResult}

/-- What a call that uploads nothing may touch. -/
def failureScope (f : Formats) (u : LocalArchiveUploader) (t : Tree) : Scope :=
  ⟨fun q => InArchive u q ∨ ∃ p, next f u t = some p ∧ q = temporary p, TowardsArchive u⟩

theorem safe_of_failure (happart : Apart u) (hmp4 : VideosAreMp4 f u w.tree)
    (hconfined : Confined (failureScope f u w.tree) w w') :
    Safe f u w result w' := by
  have hkept (q : FilePath) (hq : u.recordingRoot <+: q.parent)
      (htemporary : ∀ p, next f u w.tree = some p → q ≠ temporary p) :
      w'.tree.find? q = w.tree.find? q := by
    refine hconfined.kept q ?_
    rintro (hin | ⟨p, hp, rfl⟩)
    · exact not_inArchive happart hq hin
    · exact htemporary p hp rfl
  have hmetadata (q : FilePath) (hq : q ∈ metadataFiles u w.tree) :
      w'.tree.find? q = w.tree.find? q :=
    hkept q (below_root hq) fun _ _ => metadata_ne_temporary hq
  refine ⟨fun q hq hunmarked hmarked => ?_, ?_, hconfined.made, fun _ => hkept, ?_⟩
  · refine absurd ?_ hunmarked
    obtain ⟨file, json, hfile, hjson⟩ := hmarked
    exact ⟨file, json, hmetadata q hq ▸ hfile, hjson⟩
  · obtain ⟨more, hwritten, hmore⟩ := hconfined.logged
    refine ⟨more, hwritten, fun q hq => (hmore q hq).imp_right ?_⟩
    exact fun ⟨p, hp, heq⟩ => ⟨p, hp, .inl heq⟩
  · intro _ p segment hfront
    have hp := (next_least hfront.first).1
    obtain ⟨hroot, -, -⟩ := mem_recorded.mp (mem_metadataFiles.mp hp).1
    obtain ⟨-, -, hleads, -⟩ := readSegment_ok hfront.read
    have hvideo : w'.tree.find? segment.video = w.tree.find? segment.video := by
      refine hkept _ (hleads.1 ▸ List.prefix_append _ _) fun _ _ => ?_
      exact ne_temporary (hmp4 p hp segment hfront.read ▸ extension_suffix segment.video.name)
        (by decide) (by decide)
    have hmem (q : FilePath) : q ∈ metadataFiles u w'.tree ↔ q ∈ metadataFiles u w.tree :=
      mem_metadataFiles_kept hroot hconfined.grown fun hjson hbelow => by
        rw [hkept q hbelow fun _ _ => ne_temporary hjson (by decide) (by decide)]
    have hstill : Front f u w'.tree p segment :=
      { first := (next_congr hmem hmetadata).trans hfront.first
        pending := (pending_congr (hmetadata p hp)).mpr hfront.pending
        read := readSegment_kept hfront.read (hmetadata p hp) hvideo hconfined.grown
        readable := by
          unfold Tree.read
          rw [hvideo]
          exact hfront.readable }
    exact ⟨hstill, uploads_iff.mpr (front_valid_iff.mpr ⟨p, segment, hstill⟩)⟩

theorem safe_of_recorded (happart : Apart u) (hmp4 : VideosAreMp4 f u w.tree)
    (htells : TellsApart f w) (hrereads : Rereads f) {w₁ : World} (huntouched : Untouched w w₁)
    (hnext : next f u w.tree = some p) (hsegment : readSegment f u w.tree p = .ok segment)
    (hresult : Reported result) (hrecorded : Recorded f u w₁ p segment w') :
    Safe f u w result w' := by
  obtain ⟨tree, outcomes, written⟩ := w₁
  obtain rfl : tree = w.tree := huntouched.tree
  have hconfined : Confined (uploadScope u p) w w' := huntouched.confined.trans hrecorded.confined
  have hp := (next_least hnext).1
  have hout : ¬InArchive u p := not_inArchive happart (below_root hp)
  obtain ⟨hread, -, hvideo, hmetadata⟩ := readSegment_ok hsegment
  have hmp4 := hmp4 p hp segment hsegment
  have hending : ".mp4".toList <:+ segment.video.name.toList := hmp4 ▸ extension_suffix _
  refine ⟨fun q hq hunmarked hmarked => ?_, ?_, hconfined.made, fun h => absurd hresult h,
    fun h => absurd hresult h⟩
  · have hqp : q = p := by
      by_contra hqp
      have hkept := spool_kept happart hconfined (below_root hq) (metadata_ne_temporary hq) hqp
      obtain ⟨file, json, hfile, hjson⟩ := hmarked
      exact hunmarked ⟨file, json, hkept ▸ hfile, hjson⟩
    subst hqp
    refine ⟨segment, hsegment, hvideo, hmetadata, ?_,
      marked_of_text hrereads hread (hrecorded.archived hout)⟩
    obtain ⟨content, left, hcontent, hleft, hcopied⟩ :=
      hrecorded.copied hout (mem_metadataFiles.mp hp).2 hmp4
    obtain ⟨file, hfile, -, rfl⟩ := Tree.read_eq_some.mp hcontent
    have hbelow : u.recordingRoot <+: segment.video.parent := hvideo.1 ▸ List.prefix_append _ _
    have hkept : w'.tree.find? segment.video = w.tree.find? segment.video := by
      refine spool_kept happart hconfined hbelow (ne_temporary hending (by decide) (by decide)) ?_
      rintro rfl
      exact ne_of_endings hending (metadata_ending hp) (by decide) (by decide) rfl
    have hsame : left = file.content := by
      rcases hcopied with heq | ⟨hgarbled, hdigest⟩
      · exact heq
      · exact htells left (huntouched.spent.subset hgarbled) _ file hfile hdigest
    refine ⟨file, hfile, hkept.trans hfile, ?_⟩
    rw [hleft, hsame]
    rfl
  · obtain ⟨more, hwritten, hmore⟩ := hconfined.logged
    exact ⟨more, hwritten, fun q hq => (hmore q hq).imp_right fun h => ⟨p, hnext, h⟩⟩

/-- However the storage fails, a call marks no metadata file without the copies, writes nothing
but these and the two files of the mark, and leaves what it could not upload for the next one. -/
theorem process_once_safe (f : Formats) (u : LocalArchiveUploader) (w : World)
    (happart : Apart u) (hmp4 : VideosAreMp4 f u w.tree) (htells : TellsApart f w)
    (hrereads : Rereads f) :
    Safe f u w ((processOnce f u).exec w).1 ((processOnce f u).exec w).2 := by
  refine (ensures_result (P := Safe f u w)).mp ?_
  have hfailed {w₁ : World} {result : Except String UploadProcessResult}
      (h : Untouched w w₁) : Safe f u w result w₁ :=
    safe_of_failure happart hmp4 h.confined
  refine processOnce_ensures (fun what w₁ h _ => hfailed h) (fun w₁ h _ => hfailed h)
    (fun p what w₁ h _ _ => hfailed h) fun p w₁ h hnext _ => ?_
  cases hsegment : readSegment f u w.tree p with
  | error what =>
    unfold uploadMetadata
    rw [ensures_bind, ensures_get, ensures_bind, ensures_liftResult, h.tree, hsegment]
    exact hfailed h
  | ok segment =>
    refine (uploadMetadata_ensures (h.tree ▸ hsegment)).mono (fun result w' h' => ?_) ?_
    · refine safe_of_recorded happart hmp4 htells hrereads h hnext hsegment ?_ h'.2
      exact congrArg UploadProcessResult.action h'.1
    · intro what w' h'
      have hconfined : Confined (failureScope f u w.tree) w₁ w' :=
        h'.1.mono (fun q hq => hq.imp_right fun heq => ⟨p, hnext, heq⟩) fun _ hd => hd
      exact safe_of_failure happart hmp4 (h.confined.trans hconfined)

/-- A storage that loses the end of the copied video. -/
def shortWorld : World where
  tree := spool [("b.json", "\x7b\x7d"), ("b.mp4", "video")]
  outcomes := [.succeeds, .succeeds, .succeeds, .garbles (bytes "vid")]
  written := []

example : (((processOnce sampleFormats sampleUploader).exec shortWorld).1.toOption.map
      UploadProcessResult.error) =
    some "archive checksum mismatch: /recordings/b.mp4" := by
  decide +kernel

theorem short_mp4 : VideosAreMp4 sampleFormats sampleUploader shortWorld.tree := by
  have hall : ∀ p ∈ metadataFiles sampleUploader shortWorld.tree,
      ((readSegment sampleFormats sampleUploader shortWorld.tree p).toOption.map fun segment =>
        extension segment.video.name).getD ".mp4" = ".mp4" := by
    decide +kernel
  intro p hp segment hsegment
  have hname := hall p hp
  rwa [hsegment] at hname

theorem short_tells : TellsApart sampleFormats shortWorld := by
  intro left hleft q file _ hdigest
  obtain rfl : left = bytes "vid" := by simpa [shortWorld] using hleft
  have hvid : sampleFormats.digest (bytes "vid") =
      "1ff838dc6ca9680d88455341118157d59a055fe6d0e3870f9c002847bebe4663" := by
    decide +kernel
  rw [hvid] at hdigest
  unfold sampleFormats at hdigest
  simp only at hdigest
  split at hdigest
  · exact absurd hdigest (by decide)
  · split at hdigest
    · exact Eq.symm (by assumption)
    · exact absurd hdigest (by decide)

theorem process_once_safe_short : Safe sampleFormats sampleUploader shortWorld
    ((processOnce sampleFormats sampleUploader).exec shortWorld).1
    ((processOnce sampleFormats sampleUploader).exec shortWorld).2 :=
  process_once_safe sampleFormats sampleUploader shortWorld sample_apart short_mp4 short_tells
    sample_rereads

end MineTeleop.Uploader
