import MineTeleop.Uploader.Segments

/-!
# Uploading a segment

The copy of the video, its check, and the two metadata files, each through a temporary; one call
of `process_once`, and the calls one after the other.

Proved here, for any storage:

* `copyVerifiedAtomic_does`, `writeJsonAtomic_ensures`: what the two writers leave;
* `uploadMetadata_ensures`: an upload that returns has marked its source metadata, and one that
  throws has changed no file outside the archive but the temporary;
* `processOnce_ensures`: a call takes the first metadata file that is not passed over.
-/

namespace MineTeleop.Uploader
open Documents Files Programs

variable (f : Formats) (u : LocalArchiveUploader)

/-! ## Writing through a temporary -/

def temporary (p : FilePath) : FilePath := p.suffixed ".tmp"

/-- The bytes of a document in a file. -/
def Formats.text (value : Json) : Content := f.dump value ++ [10]

def writeJsonAtomic (p : FilePath) (value : Json) : Storage Unit := do
  openTruncated (temporary p) ("cannot write temporary metadata: " ++ (temporary p).text)
  writeOut (temporary p) (f.text value)
    ("cannot flush temporary metadata: " ++ (temporary p).text)
  rename (temporary p) p

def sha256File (p : FilePath) : Storage String := do
  let content ← contentOf p ("cannot hash file: " ++ p.text)
  permit
  pure (f.digest content)

def copyVerifiedAtomic (source destination : FilePath) : Storage Unit := do
  createDirectories destination.parent
  removeIgnored (temporary destination)
  copyFile source (temporary destination)
  let original ← sha256File f source
  let copied ← sha256File f (temporary destination)
  if original ≠ copied then do
    removeIgnored (temporary destination)
    throw ("archive checksum mismatch: " ++ source.text)
  else do
    let w ← get
    whenever (w.tree.isRegularFile destination) (remove destination)
    rename (temporary destination) destination

/-! ## What the writers leave -/

section
variable {f} {w : World} {p : FilePath} {reason : Prop}

theorem temporary_ne (p q : FilePath) (h : q.name = p.name) : q ≠ temporary p := by
  rintro rfl
  have hlength : (p.name ++ ".tmp").length = p.name.length := congrArg String.length h
  simp at hlength

theorem temporary_ending (p : FilePath) : ".tmp".toList <:+ (temporary p).name.toList :=
  (String.toList_append (s := p.name) (t := ".tmp")) ▸ List.suffix_append _ _

/-- Either the document is in its place, or at most the temporary changed. -/
theorem writeJsonAtomic_ensures (value : Json) :
    Ensures (writeJsonAtomic f p value) w
      (fun _ w' => Confined (only [temporary p, p]) w w' ∧
        (w'.tree.find? p).map File.content = some (f.text value))
      fun _ w' => Confined (only [temporary p]) w w' ∧ w.outcomes ≠ [] := by
  refine openTruncated_does.andThen fun _ w₁ h₁ _ =>
    writeOut_does.andThen fun _ w₂ h₂ hwritten => ?_
  obtain ⟨file, hfile, hcontent⟩ := Option.map_eq_some_iff.mp hwritten
  have hwide : Confined (only [temporary p, p]) w w₂ :=
    (h₁.trans h₂).mono (by simp [only]) fun _ hd => hd
  refine (rename_ensures hfile).mono (fun _ w₃ h₃ => ?_) fun _ w₃ h₃ => ?_
  · refine ⟨hwide.trans h₃.1, ?_⟩
    rw [h₃.2]
    exact congrArg some hcontent
  · exact ⟨h₃.1.mono (fun _ hp => nomatch hp) fun _ hd => hd, h₃.2⟩

theorem writeJsonAtomic_does (value : Json) :
    Does (only [temporary p, p]) reason (writeJsonAtomic f p value) w fun _ w' =>
      (w'.tree.find? p).map File.content = some (f.text value) :=
  (writeJsonAtomic_ensures value).mono (fun _ _ h => h) fun _ _ h =>
    ⟨h.1.mono (by simp [only]) fun _ hd => hd, fun hw => absurd hw h.2⟩

theorem sha256File_does {scope : Scope} :
    Does scope (w.tree.read p = none) (sha256File f p) w fun digest w' =>
      w'.tree = w.tree ∧ ∃ content, w.tree.read p = some content ∧ digest = f.digest content := by
  refine contentOf_does.bind fun content w₁ _ h₁ => ?_
  obtain ⟨rfl, hread⟩ := h₁
  exact permit_does.bind fun _ w₂ _ h₂ => .pure ⟨h₂, content, hread, rfl⟩

/-- The two places in the archive that a copy passes through, and the directories to them. -/
def archiveScope (destination : FilePath) : Scope :=
  ⟨(· ∈ [temporary destination, destination]), (· <+: destination.parent)⟩

/-- What a finished copy holds: the bytes of the source, or others with the same checksum. -/
def Copied (f : Formats) (w : World) (source destination : FilePath) (w' : World) : Prop :=
  ∃ content left, w.tree.read source = some content ∧
    w'.tree.find? destination = some ⟨left, true⟩ ∧
    (left = content ∨ .garbles left ∈ w.outcomes ∧ f.digest left = f.digest content)

theorem copyVerifiedAtomic_does {source destination : FilePath}
    (hsource : source ≠ temporary destination) :
    Does (archiveScope destination) (w.tree.read source = none)
      (copyVerifiedAtomic f source destination) w fun _ => Copied f w source destination := by
  have htemporary : temporary destination ≠ destination :=
    (temporary_ne destination destination rfl).symm
  have hwide : ∀ p, (only [temporary destination]).files p →
      (archiveScope destination).files p := by
    simp [only, archiveScope]
  refine Does.settle ?_
  refine (createDirectories_does fun d' hd' => hd').bind fun _ w₁ hc₁ hfiles => ?_
  refine (removeIgnored_does.widen hwide fun _ hd => hd.elim).bind fun _ w₂ hc₂ h₂ => ?_
  have hread : w₂.tree.read source = w.tree.read source := by
    unfold Tree.read
    rw [h₂.1.kept source (by simpa [only] using hsource), Tree.find?, hfiles]
    rfl
  have hspent := hc₁.trans hc₂
  have hreason : w₂.tree.read source = none → w.tree.read source = none ∨ w.outcomes ≠ [] :=
    fun hnone => .inl (hread ▸ hnone)
  refine ((copyFile_does.widen hwide fun _ hd => hd.elim).mono hreason fun _ _ _ h => h).bind
    fun _ w₃ hc₃ h₃ => ?_
  obtain ⟨hkept, content, left, hcontent, hleft, hcopy⟩ := h₃
  have hsource₃ : w₃.tree.read source = some content := by
    unfold Tree.read
    rw [hkept.kept source (by simpa [only] using hsource)]
    exact hcontent
  have hleft₃ : w₃.tree.read (temporary destination) = some left := by
    unfold Tree.read
    rw [hleft]
    rfl
  refine (sha256File_does.mono (by simp [hsource₃]) fun _ _ _ h => h).bind
    fun original w₄ _ h₄ => ?_
  obtain ⟨htree₄, _, hc, rfl⟩ := h₄
  obtain rfl := Option.some.inj (hsource₃.symm.trans hc)
  rw [← htree₄] at hleft₃ hleft
  refine (sha256File_does.mono (by simp [hleft₃]) fun _ _ _ h => h).bind
    fun copied w₅ _ h₅ => ?_
  obtain ⟨htree₅, _, hc, rfl⟩ := h₅
  obtain rfl := Option.some.inj (hleft₃.symm.trans hc)
  have hcopied : left = content ∨ .garbles left ∈ w.outcomes :=
    hcopy.imp_right fun hmem => hspent.spent.subset hmem
  rw [← htree₅] at hleft
  refine Ensures.ite (fun hne => ?_) fun heq => ?_
  · -- the sums differ, so the storage changed what it copied
    have hgarbled : w.outcomes ≠ [] := by
      rcases hcopied with rfl | hmem
      · exact absurd rfl hne
      · exact List.ne_nil_of_mem hmem
    refine (removeIgnored_does.widen hwide fun _ hd => hd.elim).bind fun _ w₆ _ _ => ?_
    exact .throw fun _ => .inr hgarbled
  · refine Does.look ?_
    have hremove : Does (archiveScope destination) (w.tree.read source = none ∨ w.outcomes ≠ [])
        (whenever (w₅.tree.isRegularFile destination) (remove destination)) w₅ fun _ w₆ =>
          w₆.tree.find? (temporary destination) = some ⟨left, true⟩ := by
      refine Ensures.whenever (fun _ => ?_) fun _ => ⟨.refl _ _, hleft⟩
      have hnarrow : Does (only [destination]) (w.tree.read source = none ∨ w.outcomes ≠ [])
          (remove destination) w₅ fun _ _ => True := remove_does
      refine (hnarrow.widen (by simp [only, archiveScope]) fun _ hd => hd.elim).mono id ?_
      intro _ w₆ _ h₆
      rw [h₆.1.kept _ (by simpa [only] using htemporary)]
      exact hleft
    refine hremove.bind fun _ w₆ _ h₆ => ?_
    refine ((rename_does h₆).widen (by simp [only, archiveScope]) fun _ hd => hd.elim).mono id ?_
    intro _ w₇ _ h₇
    exact ⟨content, left, hread ▸ hcontent, h₇.2, hcopied.imp_right fun hmem =>
      ⟨hmem, (not_not.mp heq).symm⟩⟩

end

/-! ## One call -/

inductive Action where
  | idle
  | uploaded
  | failed
deriving DecidableEq

structure UploadProcessResult where
  action : Action := .idle
  segmentId : String := ""
  objectPath : String := ""
  metadataObjectPath : String := ""
  error : String := ""
  bytesUploaded : ℕ := 0
deriving DecidableEq

/-- `generic_string`. -/
def genericString (relative : FilePath) : String := "/".intercalate relative.components

/-- What is reported of a segment that went through. -/
def uploadedResult (t : Tree) (p : FilePath) (segment : Segment) : UploadProcessResult where
  action := .uploaded
  segmentId := segment.segmentId
  objectPath := genericString segment.videoRelative
  metadataObjectPath := genericString segment.metadataRelative
  bytesUploaded := t.size segment.video + t.size p

def uploadMetadata (p : FilePath) : Storage UploadProcessResult := do
  let w ← get
  let segment ← liftResult (readSegment f u w.tree p)
  let result := uploadedResult w.tree p segment
  copyVerifiedAtomic f segment.video (u.destination segment.videoRelative)
  createDirectories (u.destination segment.metadataRelative).parent
  writeJsonAtomic f (u.destination segment.metadataRelative) (markUploaded segment.metadata)
  writeJsonAtomic f p (markUploaded segment.metadata)
  pure result

def failedResult (p : FilePath) (what : String) : UploadProcessResult :=
  { action := .failed, segmentId := stem p.name, error := what }

/-- The body of the `try`; nothing when the file is passed over. -/
def attempt (p : FilePath) : Storage (Option UploadProcessResult) := do
  let w ← get
  let state ← liftResult (uploadState f w.tree p)
  if state ≠ "pending" then pure none
  else some <$> uploadMetadata f u p

def processPaths : List FilePath → Storage UploadProcessResult
  | [] => pure {}
  | p :: rest => do
    match ← tryCatch (attempt f u p) fun what => pure (some (failedResult p what)) with
    | some result => pure result
    | none => processPaths rest

def processOnce : Storage UploadProcessResult := do
  let w ← get
  if w.tree.isDirectory u.recordingRoot then do
    permit
    processPaths f u (sortedMetadata u w.tree)
  else pure {}

/-! ## Calls that the storage lets through -/

/-- A call on a storage that fails nothing, and the tree behind it. -/
def call (t : Tree) : Except String UploadProcessResult × Tree :=
  let ended := (processOnce f u).exec ⟨t, [], []⟩
  (ended.1, ended.2.tree)

/-- The tree after so many calls. -/
def after (t : Tree) : ℕ → Tree
  | 0 => t
  | n + 1 => (call f u (after t n)).2

/-- The call reports an upload. -/
def Uploads (t : Tree) : Prop :=
  match (call f u t).1 with
  | .ok result => result.action = .uploaded
  | .error _ => False

instance (t : Tree) : Decidable (Uploads f u t) :=
  match h : (call f u t).1 with
  | .ok result => decidable_of_iff (result.action = .uploaded) (by simp [Uploads, h])
  | .error _ => isFalse (by simp [Uploads, h])

def bytesReported (t : Tree) : ℕ :=
  match (call f u t).1 with
  | .ok result => result.bytesUploaded
  | .error _ => 0

/-! ## What an upload leaves -/

variable {f u} {w : World} {p : FilePath} {segment : Segment}

def InArchive (u : LocalArchiveUploader) (p : FilePath) : Prop := u.archiveRoot <+: p.parent

/-- On the way to the archive, or in it. -/
def TowardsArchive (u : LocalArchiveUploader) (d : List String) : Prop :=
  d <+: u.archiveRoot ∨ u.archiveRoot <+: d

def archiveOnly (u : LocalArchiveUploader) : Scope := ⟨InArchive u, TowardsArchive u⟩

/-- What an upload may touch before its last step. -/
def attemptScope (u : LocalArchiveUploader) (p : FilePath) : Scope :=
  ⟨fun q => InArchive u q ∨ q = temporary p, TowardsArchive u⟩

def uploadScope (u : LocalArchiveUploader) (p : FilePath) : Scope :=
  ⟨fun q => InArchive u q ∨ q = temporary p ∨ q = p, TowardsArchive u⟩

theorem inArchive_of_destination {relative q : FilePath}
    (hq : q ∈ [temporary (u.destination relative), u.destination relative]) : InArchive u q := by
  obtain rfl | rfl : q = temporary (u.destination relative) ∨ q = u.destination relative := by
    simpa using hq
  · exact List.prefix_append _ _
  · exact List.prefix_append _ _

theorem towardsArchive_of_destination {relative : FilePath} {d : List String}
    (hd : d <+: (u.destination relative).parent) : TowardsArchive u d :=
  List.prefix_or_prefix_of_prefix hd (List.prefix_append _ _)

/-- An upload that returned: both metadata files are marked, and the archive has the copy. What
is in the archive stays there only if the spool is elsewhere, and only if the video is no
metadata file. -/
structure Recorded (f : Formats) (u : LocalArchiveUploader) (w : World) (p : FilePath)
    (segment : Segment) (w' : World) : Prop where
  confined : Confined (uploadScope u p) w w'
  source : (w'.tree.find? p).map File.content = some (f.text (markUploaded segment.metadata))
  archived (hout : ¬InArchive u p) :
    (w'.tree.find? (u.destination segment.metadataRelative)).map File.content =
      some (f.text (markUploaded segment.metadata))
  copied (hout : ¬InArchive u p) (hjson : extension p.name = ".json")
    (hmp4 : extension segment.video.name = ".mp4") :
    Copied f w segment.video (u.destination segment.videoRelative) w'

/-- The video's place in the archive is none of those that the metadata passes through. -/
theorem video_apart (hjson : extension p.name = ".json")
    (hmp4 : extension segment.video.name = ".mp4")
    (hvideo : Leads u.recordingRoot segment.videoRelative segment.video)
    (hmetadata : Leads u.recordingRoot segment.metadataRelative p) :
    u.destination segment.videoRelative ∉
      [temporary (u.destination segment.metadataRelative),
        u.destination segment.metadataRelative] := by
  have hvideoEnd : ".mp4".toList <:+ segment.videoRelative.name.toList :=
    hvideo.2 ▸ hmp4 ▸ extension_suffix segment.video.name
  have hmetadataEnd : ".json".toList <:+ segment.metadataRelative.name.toList :=
    hmetadata.2 ▸ hjson ▸ extension_suffix p.name
  have htemporaryEnd : ".tmp".toList <:+ (segment.metadataRelative.name ++ ".tmp").toList :=
    temporary_ending segment.metadataRelative
  intro hmem
  rcases List.mem_cons.mp hmem with heq | hmem
  · have hname : segment.videoRelative.name = segment.metadataRelative.name ++ ".tmp" :=
      congrArg FilePath.name heq
    exact ne_of_endings hvideoEnd htemporaryEnd (by decide) (by decide) hname
  · have heq : u.destination segment.videoRelative = u.destination segment.metadataRelative :=
      List.mem_singleton.mp hmem
    have hname : (u.destination segment.videoRelative).name =
        (u.destination segment.metadataRelative).name := congrArg FilePath.name heq
    exact ne_of_endings hvideoEnd hmetadataEnd (by decide) (by decide) hname

/-- What lies in the archive is not touched by writing a metadata file elsewhere. -/
theorem archive_apart {relative : FilePath} (hout : ¬InArchive u p) :
    u.destination relative ∉ [temporary p, p] := by
  have hin : InArchive u (u.destination relative) := List.prefix_append _ _
  intro hmem
  rcases List.mem_cons.mp hmem with heq | hmem
  · exact hout (heq ▸ hin : InArchive u (temporary p))
  · exact hout (List.mem_singleton.mp hmem ▸ hin)

/-- The copy of a segment's video, in any scope that has the archive in it. -/
theorem copyVideo_does {scope : Scope}
    (hvideo : Leads u.recordingRoot segment.videoRelative segment.video)
    (hfiles : ∀ q, InArchive u q → scope.files q)
    (hdirectories : ∀ d, TowardsArchive u d → scope.directories d) :
    Does scope (w.tree.read segment.video = none)
      (copyVerifiedAtomic f segment.video (u.destination segment.videoRelative)) w fun _ =>
        Copied f w segment.video (u.destination segment.videoRelative) := by
  have hsource : segment.video ≠ temporary (u.destination segment.videoRelative) :=
    temporary_ne (u.destination segment.videoRelative) segment.video hvideo.2
  refine ((copyVerifiedAtomic_does hsource).widen (fun q hq => hfiles q ?_) fun d hd =>
    hdirectories d ?_).mono id fun _ _ _ h => h.2
  · exact inArchive_of_destination hq
  · exact towardsArchive_of_destination hd

/-- A video that cannot be read is not copied, and nothing else is written then. -/
theorem uploadMetadata_unreadable (hsegment : readSegment f u w.tree p = .ok segment)
    (hvideo : w.tree.read segment.video = none) :
    Ensures (uploadMetadata f u p) w (fun _ _ => False)
      fun _ w' => Confined (archiveOnly u) w w' := by
  obtain ⟨-, -, hleads, -⟩ := readSegment_ok hsegment
  unfold uploadMetadata
  rw [ensures_bind, ensures_get, hsegment, ensures_bind, ensures_liftResult]
  have hcopy : Does (archiveOnly u) (w.tree.read segment.video = none) _ w _ :=
    copyVideo_does (f := f) hleads (fun _ hq => hq) fun _ hd => hd
  refine (ensures_bind _ _).mpr (Ensures.mono hcopy (fun _ w₁ h₁ => ?_) fun _ w₁ h₁ => h₁.1)
  obtain ⟨content, _, hread, _⟩ := h₁.2
  exact absurd (hvideo.symm.trans hread) nofun

theorem uploadMetadata_ensures (hsegment : readSegment f u w.tree p = .ok segment) :
    Ensures (uploadMetadata f u p) w
      (fun result w' => result = uploadedResult w.tree p segment ∧ Recorded f u w p segment w')
      fun _ w' => Confined (attemptScope u p) w w' ∧
        (w.outcomes = [] → w.tree.read segment.video = none) := by
  obtain ⟨-, -, hvideo, hmetadata⟩ := readSegment_ok hsegment
  unfold uploadMetadata
  rw [ensures_bind, ensures_get, hsegment]
  have harchive (q : FilePath) (hq : InArchive u q) : (attemptScope u p).files q := .inl hq
  refine (copyVideo_does hvideo harchive fun _ hd => hd).andThen fun _ w₁ hc₁ h₁ => ?_
  refine (createDirectories_does fun _ hd => towardsArchive_of_destination hd).andThen
    fun _ w₂ hc₂ hfiles => ?_
  refine ((writeJsonAtomic_does (markUploaded segment.metadata)).widen
    (fun q hq => harchive q (inArchive_of_destination hq)) fun _ hd => hd.elim).andThen
      fun _ w₃ hc₃ h₃ => ?_
  have hbefore : Confined (uploadScope u p) w w₃ :=
    ((hc₁.trans hc₂).trans hc₃).mono (fun q hq => hq.imp_right .inl) fun _ hd => hd
  have hlast := writeJsonAtomic_ensures (f := f) (w := w₃) (p := p)
    (markUploaded segment.metadata)
  refine (ensures_bind _ _).mpr (hlast.mono (fun _ w₄ h₄ => ⟨rfl, ?_⟩) fun _ w₄ h₄ => ?_)
  · have hkept (relative : FilePath) (hout : ¬InArchive u p) :
        w₄.tree.find? (u.destination relative) = w₃.tree.find? (u.destination relative) :=
      h₄.1.kept _ (archive_apart hout)
    obtain ⟨content, left, hread, hleft, hcopied⟩ := h₁
    refine ⟨hbefore.trans (h₄.1.mono (fun q hq => .inr ?_) fun _ hd => hd.elim),
      h₄.2, fun hout => (congrArg _ (hkept _ hout)).trans h₃.2, fun hout hjson hmp4 => ?_⟩
    · simpa [only] using hq
    · refine ⟨content, left, hread, ?_, hcopied⟩
      show w₄.tree.find? (u.destination segment.videoRelative) = some ⟨left, true⟩
      rw [hkept _ hout, h₃.1.kept _ (video_apart hjson hmp4 hvideo hmetadata), Tree.find?, hfiles]
      exact hleft
  · refine ⟨h₄.1.mono (fun q hq => .inr ?_) fun _ hd => hd.elim, fun hw => absurd hw h₄.2⟩
    simpa [only] using hq

/-! ## Marks -/

/-- A metadata file that was read, marked and written is read back with its mark and all its
other members. -/
def Rereads (f : Formats) : Prop :=
  ∀ content json, f.parse content = .ok json → json.isObject = true →
    ∃ json', f.parse (f.text (markUploaded json)) = .ok json' ∧ json'.isObject = true ∧
      ∀ key, json'.find? key = (markUploaded json).find? key

def MarkedUploaded (f : Formats) (t : Tree) (p : FilePath) : Prop :=
  ∃ file json, t.find? p = some file ∧ f.parse file.content = .ok json ∧
    json.isObject = true ∧ json.find? "upload_state" = some (.string "uploaded")

theorem readJsonFile_ok {t : Tree} {metadata : Json} (h : readJsonFile f t p = .ok metadata) :
    ∃ file, t.find? p = some file ∧ f.parse file.content = .ok metadata ∧
      metadata.isObject = true := by
  unfold readJsonFile at h
  split at h
  · cases h
  · rename_i content hread
    obtain ⟨file, hfile, -, rfl⟩ := Tree.read_eq_some.mp hread
    split at h
    · cases h
    · rename_i value hparse
      split at h
      · obtain rfl := Except.ok.inj h
        exact ⟨file, hfile, hparse, by assumption⟩
      · cases h

theorem marked_of_text {t t' : Tree} {q : FilePath} {metadata : Json} (hrereads : Rereads f)
    (hread : readJsonFile f t p = .ok metadata)
    (htext : (t'.find? q).map File.content = some (f.text (markUploaded metadata))) :
    MarkedUploaded f t' q := by
  obtain ⟨file, -, hparse, hobject⟩ := readJsonFile_ok hread
  obtain ⟨file', hfile', hcontent⟩ := Option.map_eq_some_iff.mp htext
  obtain ⟨json', hparse', hobject', hfind⟩ := hrereads _ _ hparse hobject
  refine ⟨file', json', hfile', hcontent ▸ hparse', hobject', ?_⟩
  rw [hfind, markUploaded, Json.find?_set_same hobject]

theorem not_pending_of_marked {t : Tree} (h : MarkedUploaded f t p) : ¬Pending f t p := by
  obtain ⟨file, json, hfile, hparse, -, hmark⟩ := h
  intro hpending
  obtain ⟨metadata, hread, hvalue⟩ := bind_eq_ok_iff.mp (show uploadState f t p = _ from hpending)
  obtain ⟨file', hfile', hparse', -⟩ := readJsonFile_ok hread
  obtain rfl := Option.some.inj (hfile.symm.trans hfile')
  obtain rfl := Except.ok.inj (hparse.symm.trans hparse')
  rw [Json.value_of_find _ hmark] at hvalue
  exact absurd (Except.ok.inj hvalue) (by decide)

/-! ## A spool beside the archive -/

/-- Neither of the two directories is in the other. -/
def Apart (u : LocalArchiveUploader) : Prop :=
  ¬u.archiveRoot <+: u.recordingRoot ∧ ¬u.recordingRoot <+: u.archiveRoot

theorem not_inArchive (happart : Apart u) (hp : u.recordingRoot <+: p.parent) :
    ¬InArchive u p :=
  fun hin => (List.prefix_or_prefix_of_prefix hin hp).elim happart.1 happart.2

/-- Files of the spool that an upload leaves as they are. -/
theorem spool_kept {w' : World} {q : FilePath} (happart : Apart u)
    (hconfined : Confined (uploadScope u p) w w') (hq : u.recordingRoot <+: q.parent)
    (htemporary : q ≠ temporary p) (hne : q ≠ p) : w'.tree.find? q = w.tree.find? q := by
  refine hconfined.kept q ?_
  rintro (hin | rfl | rfl)
  · exact not_inArchive happart hq hin
  · exact htemporary rfl
  · exact hne rfl

theorem archive_kept {w' : World} {q : FilePath} (happart : Apart u)
    (hconfined : Confined (archiveOnly u) w w') (hq : u.recordingRoot <+: q.parent) :
    w'.tree.find? q = w.tree.find? q :=
  hconfined.kept q (not_inArchive happart hq)

theorem ne_temporary {q : FilePath} {ending : List Char} (hq : ending <:+ q.name.toList)
    (hlength : 4 ≤ ending.length) (hother : ¬".tmp".toList <:+ ending) : q ≠ temporary p :=
  fun heq => ne_of_endings (temporary_ending p) hq hlength hother (congrArg FilePath.name heq).symm

/-! ## What a call does -/

variable {Q : UploadProcessResult → World → Prop} {R : String → World → Prop}

/-- The files in front are passed over, and nothing behind the first other one is looked at. -/
theorem processPaths_ensures {paths : List FilePath}
    (hidle : (∀ q ∈ paths, Skipped f w.tree q) → Q {} w)
    (hunread : ∀ p what, paths.find? (fun q => ¬Skipped f w.tree q) = some p →
      uploadState f w.tree p = .error what → Q (failedResult p what) w)
    (hupload : ∀ p, paths.find? (fun q => ¬Skipped f w.tree q) = some p → Pending f w.tree p →
      Ensures (uploadMetadata f u p) w Q fun what => Q (failedResult p what)) :
    Ensures (processPaths f u paths) w Q R := by
  induction paths with
  | nil => exact hidle fun _ hq => nomatch hq
  | cons p rest ih =>
    unfold processPaths attempt
    rw [ensures_bind, ensures_tryCatch, ensures_bind, ensures_get]
    by_cases hskipped : Skipped f w.tree p
    · obtain ⟨state, hstate, hne⟩ : ∃ state, uploadState f w.tree p = .ok state ∧
          state ≠ "pending" := by
        unfold Skipped at hskipped
        split at hskipped
        · exact ⟨_, by assumption, hskipped⟩
        · exact hskipped.elim
      have hfind : (p :: rest).find? (fun q => ¬Skipped f w.tree q) =
          rest.find? fun q => ¬Skipped f w.tree q :=
        List.find?_cons_of_neg (by simpa using hskipped)
      rw [hfind] at hunread hupload
      rw [ensures_bind, ensures_liftResult, hstate]
      refine Ensures.ite (fun _ => ?_) fun h => absurd hne h
      exact ih (fun h => hidle (List.forall_mem_cons.mpr ⟨hskipped, h⟩)) hunread hupload
    · have hfind : (p :: rest).find? (fun q => ¬Skipped f w.tree q) = some p :=
        List.find?_cons_of_pos (by simpa using hskipped)
      rw [ensures_bind, ensures_liftResult]
      rcases uploadState_of_not_skipped hskipped with ⟨what, hwhat⟩ | hpending
      · rw [hwhat]
        exact hunread p what hfind hwhat
      · rw [show uploadState f w.tree p = .ok "pending" from hpending]
        refine Ensures.ite (fun h => absurd rfl h) fun _ => ?_
        rw [ensures_map]
        exact (hupload p hfind hpending).mono (fun _ _ h => h) fun _ _ h => h

theorem processOnce_ensures
    (hscan : ∀ what w₁, Untouched w w₁ → w.outcomes ≠ [] → R what w₁)
    (hidle : ∀ w₁, Untouched w w₁ → next f u w.tree = none → Q {} w₁)
    (hunread : ∀ p what w₁, Untouched w w₁ → next f u w.tree = some p →
      uploadState f w.tree p = .error what → Q (failedResult p what) w₁)
    (hupload : ∀ p w₁, Untouched w w₁ → next f u w.tree = some p → Pending f w.tree p →
      Ensures (uploadMetadata f u p) w₁ Q fun what => Q (failedResult p what)) :
    Ensures (processOnce f u) w Q R := by
  unfold processOnce
  rw [ensures_bind, ensures_get]
  refine .ite (fun hroot => ?_) fun hroot => ?_
  · have hpermit := permit_ensures.mono (fun _ w₁ h => h) fun what w₁ h => hscan what w₁ h.1 h.2
    refine hpermit.bind fun _ w₁ h₁ => ?_
    rw [← h₁.tree] at hidle hunread hupload ⊢
    exact processPaths_ensures
      (fun h => hidle w₁ h₁ (next_eq_none.mpr fun q hq => h q (mem_sortedMetadata.mpr hq)))
      (fun p what => hunread p what w₁ h₁) fun p => hupload p w₁ h₁
  · have hempty : sortedMetadata u w.tree = [] := by
      simp [sortedMetadata, metadataFiles, recorded, hroot]
    exact hidle w ⟨rfl, rfl, List.suffix_rfl⟩ (by simp [next, hempty])

end MineTeleop.Uploader
