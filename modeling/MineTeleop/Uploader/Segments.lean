import Mathlib.Algebra.BigOperators.Group.List.Basic
import Mathlib.Algebra.GroupWithZero.Nat
import Mathlib.Data.List.Sort
import MineTeleop.Library.Files
import MineTeleop.Library.Members

/-!
# Segments in the recording root

A segment is a metadata file and the video it names. What the uploader reads of the recording
root before it writes anything: the metadata files in the order of their paths, the first one that
is not uploaded yet, the segment behind it, and the backlog.

Proved here, for any tree:

* `safeRelative_ok`: a path that passes is below the root, and what is left of it leads there;
* `readSegment_ok`: the checks that a segment has passed;
* `next_eq_some`: the first metadata file that is not uploaded yet;
* `backlog_bytes`, `backlog_segments`: the backlog as a sum over the pending metadata files.
-/

namespace MineTeleop.Uploader
open Documents Files Programs

/-- How documents are read and written, and what a file hashes to. -/
structure Formats where
  /-- `input >> value`, with the text of the exception. -/
  parse : Content → Except String Json
  /-- `std::setw(2) << value`. -/
  dump : Json → Content
  digest : Content → String

structure LocalArchiveUploader where
  recordingRoot : List String
  archiveRoot : List String

variable (f : Formats) (u : LocalArchiveUploader) (t : Tree)

/-! ## Metadata -/

def readJsonFile (p : FilePath) : Except String Json :=
  match t.read p with
  | none => .error ("cannot read JSON file: " ++ p.text)
  | some content =>
    match f.parse content with
    | .error what => .error ("invalid segment metadata " ++ p.text ++ ": " ++ what)
    | .ok value =>
      if value.isObject then .ok value else .error "segment metadata must be a JSON object"

/-- `metadata.value("upload_state", "pending")` of the file. -/
def uploadState (p : FilePath) : Except String String := do
  let metadata ← readJsonFile f t p
  metadata.value "upload_state" Json.getString "pending"

def markUploaded (metadata : Json) : Json := metadata.set "upload_state" (.string "uploaded")

/-- Read, and still to be uploaded. -/
def Pending (p : FilePath) : Prop := uploadState f t p = .ok "pending"

instance (p : FilePath) : Decidable (Pending f t p) :=
  inferInstanceAs (Decidable (_ = _))

/-- Read, and to be passed over. -/
def Skipped (p : FilePath) : Prop :=
  match uploadState f t p with
  | .ok state => state ≠ "pending"
  | .error _ => False

instance (p : FilePath) : Decidable (Skipped f t p) :=
  match h : uploadState f t p with
  | .ok state => decidable_of_iff (state ≠ "pending") (by simp [Skipped, h])
  | .error _ => isFalse (by simp [Skipped, h])

/-! ## The queue -/

/-- What `recursive_directory_iterator` yields of regular files, if there is a root at all. -/
def recorded : List FilePath :=
  if t.isDirectory u.recordingRoot then
    t.files.keys.filter fun p => u.recordingRoot <+: p.parent
  else []

def metadataFiles : List FilePath :=
  (recorded u t).filter fun p =>
    extension p.name = ".json" ∧ ¬".tmp".toList <:+ p.name.toList

def sortedMetadata : List FilePath := (metadataFiles u t).insertionSort FilePath.Before

/-- The first metadata file that is not passed over. -/
def next : Option FilePath := (sortedMetadata u t).find? fun p => ¬Skipped f t p

/-! ## The segment behind a metadata file -/

structure Segment where
  metadata : Json
  segmentId : String
  video : FilePath
  videoRelative : FilePath
  metadataRelative : FilePath

/-- The metadata file's path with another extension. -/
def sibling (p : FilePath) : FilePath := ⟨p.parent, replaceExtension p.name ".mp4"⟩

/-- The text of the video's path, and the file it names. -/
def videoPath (p : FilePath) (metadata : Json) : String × Option FilePath :=
  match metadata.find? "video_file" with
  | some (.string text) =>
    (if text.toList.head? = some '/' then text
      else "/" ++ "/".intercalate (p.parent ++ [text]),
      t.resolve p.parent text)
  | _ => ((sibling p).text, some (sibling p))

def safeRelative (root : List String) (p : FilePath) : Except String FilePath :=
  if ".." ∈ (relative root p).components then .error "upload source is outside recording root"
  else .ok (relative root p)

/-- `upload_metadata` before its first change of a file. -/
def readSegment (p : FilePath) : Except String Segment := do
  let metadata ← readJsonFile f t p
  let segmentId ← metadata.value "segment_id" Json.getString (stem p.name)
  rejectIf (segmentId = "") "segment_id is missing from metadata"
  let (text, video) := videoPath t p metadata
  match video.filter t.isRegularFile with
  | none => .error ("segment video file is missing: " ++ text)
  | some video =>
    let videoRelative ← safeRelative u.recordingRoot video
    let metadataRelative ← safeRelative u.recordingRoot p
    .ok { metadata, segmentId, video, videoRelative, metadataRelative }

/-- Where a file goes to in the archive. -/
def LocalArchiveUploader.destination (relative : FilePath) : FilePath :=
  ⟨u.archiveRoot ++ relative.parent, relative.name⟩

/-- A pending segment that can be uploaded: its metadata passes every check, and its video can
be read. -/
def Valid (p : FilePath) : Prop :=
  Pending f t p ∧ ∃ segment, readSegment f u t p = .ok segment ∧ (t.read segment.video).isSome

instance (p : FilePath) : Decidable (Valid f u t p) :=
  match h : readSegment f u t p with
  | .ok segment =>
    decidable_of_iff (Pending f t p ∧ (t.read segment.video).isSome) (by simp [Valid, h])
  | .error _ => isFalse (by simp [Valid, h])

/-! ## The backlog -/

structure Backlog where
  pendingSegments : ℕ
  pendingBytes : ℕ
deriving DecidableEq

/-- One turn of the loop; what it throws is swallowed. -/
def Backlog.add (counted : Backlog) (p : FilePath) : Backlog :=
  match uploadState f t p with
  | .error _ => counted
  | .ok state =>
    if state ≠ "pending" then counted
    else
      { pendingSegments := counted.pendingSegments + 1
        pendingBytes := counted.pendingBytes + t.size p +
          if t.isRegularFile (sibling p) then t.size (sibling p) else 0 }

def backlog : Backlog :=
  if t.isDirectory u.recordingRoot then
    ((recorded u t).filter fun p => extension p.name = ".json").foldl (Backlog.add f t) ⟨0, 0⟩
  else ⟨0, 0⟩

/-! ## What the readings depend on -/

variable {f u t} {t' : Tree} {p q : FilePath}

theorem readJsonFile_congr (h : t'.find? p = t.find? p) :
    readJsonFile f t' p = readJsonFile f t p := by
  unfold readJsonFile Tree.read
  rw [h]

theorem uploadState_congr (h : t'.find? p = t.find? p) :
    uploadState f t' p = uploadState f t p := by
  unfold uploadState
  rw [readJsonFile_congr h]

theorem pending_congr (h : t'.find? p = t.find? p) : Pending f t' p ↔ Pending f t p := by
  unfold Pending
  rw [uploadState_congr h]

theorem skipped_congr (h : t'.find? p = t.find? p) : Skipped f t' p ↔ Skipped f t p := by
  unfold Skipped
  rw [uploadState_congr h]

/-- What is not passed over cannot be read, or is pending. -/
theorem uploadState_of_not_skipped (h : ¬Skipped f t p) :
    (∃ what, uploadState f t p = .error what) ∨ Pending f t p := by
  unfold Skipped at h
  unfold Pending
  cases hstate : uploadState f t p with
  | error what => exact .inl ⟨what, rfl⟩
  | ok state =>
    rw [hstate] at h
    exact .inr (congrArg _ (not_not.mp h))

/-! ## The files of the queue -/

theorem mem_recorded : p ∈ recorded u t ↔
    u.recordingRoot ∈ t.directories ∧ (t.find? p).isSome ∧ u.recordingRoot <+: p.parent := by
  unfold recorded
  split
  · rename_i hroot
    rw [Tree.isDirectory_iff] at hroot
    rw [List.mem_filter, ← AList.mem_keys, ← AList.lookup_isSome]
    simp [Tree.find?, hroot]
  · rename_i hroot
    rw [Tree.isDirectory_iff] at hroot
    simp [hroot]

theorem mem_metadataFiles :
    p ∈ metadataFiles u t ↔ p ∈ recorded u t ∧ extension p.name = ".json" := by
  unfold metadataFiles
  rw [List.mem_filter, decide_eq_true_iff]
  refine and_congr_right fun _ => ⟨And.left, fun hjson => ⟨hjson, fun htmp => ?_⟩⟩
  have hsuffix := hjson ▸ extension_suffix p.name
  exact ne_of_endings htmp hsuffix (by decide) (by decide) rfl

theorem nodup_metadataFiles : (metadataFiles u t).Nodup := by
  refine List.Nodup.filter _ ?_
  unfold recorded
  split
  · exact t.files.keys_nodup.filter _
  · exact List.nodup_nil

theorem mem_sortedMetadata : p ∈ sortedMetadata u t ↔ p ∈ metadataFiles u t :=
  List.mem_insertionSort _

/-- In the order of the paths, the first that is not passed over. -/
theorem next_least (h : next f u t = some p) :
    p ∈ metadataFiles u t ∧ ¬Skipped f t p ∧
      ∀ q ∈ metadataFiles u t, ¬Skipped f t q → p.Before q := by
  obtain ⟨hp, front, back, hsplit, hfront⟩ := List.find?_eq_some_iff_append.mp h
  have hmem : p ∈ sortedMetadata u t := hsplit ▸ List.mem_append_right _ List.mem_cons_self
  have hsorted : (sortedMetadata u t).Pairwise FilePath.Before := List.pairwise_insertionSort _ _
  rw [hsplit, List.pairwise_append, List.pairwise_cons] at hsorted
  refine ⟨mem_sortedMetadata.mp hmem, by simpa using hp, fun q hq hskipped => ?_⟩
  have hq' := hsplit ▸ mem_sortedMetadata.mpr hq
  rcases List.mem_append.mp hq' with hinFront | hinBack
  · exact absurd (by simpa using hfront q hinFront) hskipped
  · rcases List.mem_cons.mp hinBack with rfl | hinBack
    · exact le_refl q.components
    · exact hsorted.2.1.1 q hinBack

theorem next_eq_none : next f u t = none ↔ ∀ p ∈ metadataFiles u t, Skipped f t p := by
  simp [next, List.find?_eq_none, mem_sortedMetadata]

theorem next_eq_some_iff : next f u t = some p ↔
    p ∈ metadataFiles u t ∧ ¬Skipped f t p ∧
      ∀ q ∈ metadataFiles u t, ¬Skipped f t q → p.Before q := by
  refine ⟨next_least, fun ⟨hp, hskipped, hleast⟩ => ?_⟩
  cases hnext : next f u t with
  | none => exact absurd (next_eq_none.mp hnext p hp) hskipped
  | some q =>
    obtain ⟨hq, hqskipped, hqleast⟩ := next_least hnext
    exact congrArg some ((hqleast p hp hskipped).antisymm (hleast q hq hqskipped))

/-- The first file depends on the metadata files only. -/
theorem next_congr (hmem : ∀ q, q ∈ metadataFiles u t' ↔ q ∈ metadataFiles u t)
    (hkept : ∀ q ∈ metadataFiles u t, t'.find? q = t.find? q) : next f u t' = next f u t := by
  have hskipped (q : FilePath) (hq : q ∈ metadataFiles u t) : Skipped f t' q ↔ Skipped f t q :=
    skipped_congr (hkept q hq)
  refine Option.ext fun p => ?_
  rw [next_eq_some_iff, next_eq_some_iff, hmem]
  refine and_congr_right fun hp => and_congr (hskipped p hp).not (forall_congr' fun q => ?_)
  rw [hmem]
  exact imp_congr_right fun hq => imp_congr (hskipped q hq).not Iff.rfl

/-! ## Segments that pass -/

theorem shared_le (root directory : List String) : shared root directory ≤ root.length := by
  fun_induction shared root directory with
  | case1 part root directory ih => simpa using ih
  | case2 => exact Nat.zero_le _
  | case3 => exact Nat.zero_le _

/-- The way from the root to a file below it. -/
def Leads (root : List String) (r p : FilePath) : Prop :=
  p.parent = root ++ r.parent ∧ p.name = r.name

theorem safeRelative_ok {root : List String} {r : FilePath} (h : safeRelative root p = .ok r) :
    Leads root r p := by
  obtain ⟨hup, h⟩ := ite_error_eq_ok_iff.mp h
  obtain rfl := Except.ok.inj h
  have hall : root.length ≤ shared root p.parent := by
    by_contra hlt
    refine hup (List.mem_append_left _ (List.mem_append_left _ ?_))
    exact List.mem_replicate.mpr ⟨by omega, rfl⟩
  have hshared : shared root p.parent = root.length := (shared_le _ _).antisymm hall
  obtain ⟨rest, hrest⟩ := prefix_of_shared hall
  refine ⟨?_, rfl⟩
  show p.parent = root ++ (List.replicate _ _ ++ p.parent.drop _)
  rw [hshared, Nat.sub_self, ← hrest, List.drop_left]
  rfl

theorem readSegment_ok {segment : Segment} (h : readSegment f u t p = .ok segment) :
    readJsonFile f t p = .ok segment.metadata ∧ (t.find? segment.video).isSome ∧
      Leads u.recordingRoot segment.videoRelative segment.video ∧
      Leads u.recordingRoot segment.metadataRelative p := by
  unfold readSegment at h
  simp only [bind_eq_ok_iff] at h
  obtain ⟨metadata, hread, segmentId, -, -, -, h⟩ := h
  split at h
  · cases h
  · rename_i video hvideo
    simp only [bind_eq_ok_iff] at h
    obtain ⟨videoRelative, hv, metadataRelative, hm, h⟩ := h
    obtain rfl := Except.ok.inj h
    exact ⟨hread, (Option.filter_eq_some_iff.mp hvideo).2, safeRelative_ok hv, safeRelative_ok hm⟩

theorem videoPath_grown {metadata : Json} {video : FilePath}
    (hgrown : ∀ d ∈ t.directories, d ∈ t'.directories)
    (h : (videoPath t p metadata).2 = some video) : (videoPath t' p metadata).2 = some video := by
  unfold videoPath at h ⊢
  split at h
  · exact Tree.walk_grown hgrown h
  · exact h

/-- The segment stays what it is while its two files do and no directory goes away. -/
theorem readSegment_kept {segment : Segment} (h : readSegment f u t p = .ok segment)
    (hmetadata : t'.find? p = t.find? p) (hsame : t'.find? segment.video = t.find? segment.video)
    (hgrown : ∀ d ∈ t.directories, d ∈ t'.directories) : readSegment f u t' p = .ok segment := by
  unfold readSegment at h ⊢
  rw [readJsonFile_congr hmetadata]
  simp only [bind_eq_ok_iff] at h ⊢
  obtain ⟨metadata, hread, segmentId, hid, _, hempty, h⟩ := h
  refine ⟨metadata, hread, segmentId, hid, (), hempty, ?_⟩
  split at h
  · cases h
  · rename_i video hvideo
    simp only [bind_eq_ok_iff] at h
    obtain ⟨videoRelative, hv, metadataRelative, hm, h⟩ := h
    obtain rfl := Except.ok.inj h
    have hvideo' : (videoPath t' p metadata).2.filter t'.isRegularFile = some video := by
      obtain ⟨hpath, hfile⟩ := Option.filter_eq_some_iff.mp hvideo
      refine Option.filter_eq_some_iff.mpr ⟨videoPath_grown hgrown hpath, ?_⟩
      unfold Tree.isRegularFile at hfile ⊢
      rwa [hsame]
    rw [hvideo']
    simp only [bind_eq_ok_iff]
    exact ⟨videoRelative, hv, metadataRelative, hm, rfl⟩

/-! ## The backlog as a sum -/

/-- The bytes that the backlog counts for a metadata file. -/
def countedBytes (t : Tree) (p : FilePath) : ℕ := t.size p + t.size (sibling p)

def pendingFiles (f : Formats) (u : LocalArchiveUploader) (t : Tree) : List FilePath :=
  (metadataFiles u t).filter fun p => Pending f t p

theorem size_sibling :
    (if t.isRegularFile p then t.size p else 0) = t.size p := by
  unfold Tree.isRegularFile Tree.size
  cases t.find? p with
  | none => rfl
  | some file => rfl

theorem add_eq (counted : Backlog) : counted.add f t p =
    if Pending f t p then
      ⟨counted.pendingSegments + 1, counted.pendingBytes + countedBytes t p⟩
    else counted := by
  by_cases hpending : Pending f t p
  · have hstate : uploadState f t p = .ok "pending" := hpending
    simp [Backlog.add, hpending, hstate, size_sibling, countedBytes, add_assoc]
  · rw [if_neg hpending]
    unfold Backlog.add
    split
    · rfl
    · rename_i state hstate
      exact if_pos fun heq => hpending (hstate.trans (congrArg _ heq))

theorem foldl_add (paths : List FilePath) (counted : Backlog) :
    paths.foldl (Backlog.add f t) counted =
      ⟨counted.pendingSegments + (paths.filter fun p => Pending f t p).length,
        counted.pendingBytes +
          ((paths.filter fun p => Pending f t p).map (countedBytes t)).sum⟩ := by
  induction paths generalizing counted with
  | nil => rfl
  | cons p paths ih =>
    rw [List.foldl_cons, ih, add_eq, List.filter_cons]
    by_cases hpending : Pending f t p
    · simp [hpending, add_assoc, add_comm 1]
    · simp [hpending]

theorem filter_json :
    ((recorded u t).filter fun p => extension p.name = ".json") = metadataFiles u t := by
  refine List.filter_congr fun p hp => ?_
  have hmem := mem_metadataFiles (u := u) (t := t) (p := p)
  unfold metadataFiles at hmem
  rw [List.mem_filter] at hmem
  simp only [hp, true_and] at hmem
  exact (Bool.eq_iff_iff.mpr (hmem.trans (decide_eq_true_iff).symm)).symm

theorem backlog_eq : backlog f u t =
    ⟨(pendingFiles f u t).length, ((pendingFiles f u t).map (countedBytes t)).sum⟩ := by
  have hcounted := foldl_add (f := f) (t := t) (metadataFiles u t) ⟨0, 0⟩
  rw [Nat.zero_add, Nat.zero_add] at hcounted
  unfold backlog
  split
  · rw [filter_json]
    exact hcounted
  · rename_i hroot
    simp [pendingFiles, metadataFiles, recorded, hroot]

end MineTeleop.Uploader
