import MineTeleop.Uploader.Progress

/-!
# The backlog while the spool is drained

The backlog counts the video next to a metadata file; an upload copies the one that the metadata
names. Calls on a storage that fails nothing, with the archive outside the spool.

Proved here, for any tree:

* `backlog_of_upload`, `backlog_of_refused`: what a call changes of the backlog;
* `blocked_after`: a queue that is blocked stays blocked;
* `drain_agrees_iff`: the backlog falls by what is reported, down to nothing, exactly when the
  segments come through in their order with the video that the backlog counts.
-/

namespace MineTeleop.Uploader
open Documents Files Programs

variable {f : Formats} {u : LocalArchiveUploader} {t : Tree} {p q : FilePath}
  {segment : Segment} {w : World}

theorem sibling_ending (p : FilePath) : ".mp4".toList <:+ (sibling p).name.toList := by
  unfold sibling replaceExtension
  rw [String.toList_append]
  exact List.suffix_append _ _

theorem metadata_ending (hp : p ∈ metadataFiles u t) : ".json".toList <:+ p.name.toList :=
  (mem_metadataFiles.mp hp).2 ▸ extension_suffix p.name

theorem below_root (hp : p ∈ metadataFiles u t) : u.recordingRoot <+: p.parent :=
  (mem_recorded.mp (mem_metadataFiles.mp hp).1).2.2

theorem metadata_ne_temporary (hp : p ∈ metadataFiles u t) : p ≠ temporary q :=
  ne_temporary (metadata_ending hp) (by decide) (by decide)

theorem sibling_ne_temporary : sibling p ≠ temporary q :=
  ne_temporary (sibling_ending p) (by decide) (by decide)

theorem sibling_ne_metadata (hq : q ∈ metadataFiles u t) : sibling p ≠ q := fun heq =>
  ne_of_endings (sibling_ending p) (metadata_ending hq) (by decide) (by decide)
    (congrArg FilePath.name heq)

/-! ## What a call leaves of the queue -/

theorem mem_metadataFiles_kept {t' : Tree} (hroot : u.recordingRoot ∈ t.directories)
    (hgrown : ∀ d ∈ t.directories, d ∈ t'.directories)
    (hkept : ".json".toList <:+ q.name.toList → u.recordingRoot <+: q.parent →
      (t'.find? q).isSome = (t.find? q).isSome) :
    q ∈ metadataFiles u t' ↔ q ∈ metadataFiles u t := by
  rw [mem_metadataFiles, mem_metadataFiles, mem_recorded, mem_recorded]
  constructor
  · rintro ⟨⟨-, hfile, hbelow⟩, hjson⟩
    exact ⟨⟨hroot, hkept (hjson ▸ extension_suffix q.name) hbelow ▸ hfile, hbelow⟩, hjson⟩
  · rintro ⟨⟨-, hfile, hbelow⟩, hjson⟩
    exact ⟨⟨hgrown _ hroot, (hkept (hjson ▸ extension_suffix q.name) hbelow).symm ▸ hfile,
      hbelow⟩, hjson⟩

theorem mem_pendingFiles : q ∈ pendingFiles f u t ↔ q ∈ metadataFiles u t ∧ Pending f t q := by
  simp [pendingFiles]

theorem nodup_pendingFiles : (pendingFiles f u t).Nodup := nodup_metadataFiles.filter _

theorem countedBytes_congr {t' : Tree} (hmetadata : t'.find? q = t.find? q)
    (hsibling : t'.find? (sibling q) = t.find? (sibling q)) :
    countedBytes t' q = countedBytes t q := by
  unfold countedBytes Tree.size
  rw [hmetadata, hsibling]

section
variable (happart : Apart u) (hfront : Front f u t p segment)
  (hrecorded : Recorded f u ⟨t, [], []⟩ p segment w)
include happart hrecorded

theorem upload_kept (hq : u.recordingRoot <+: q.parent) (hne : q ≠ p)
    (htemporary : q ≠ temporary p) : w.tree.find? q = t.find? q :=
  spool_kept happart hrecorded.confined hq htemporary hne

include hfront

theorem metadata_of_upload : q ∈ metadataFiles u w.tree ↔ q ∈ metadataFiles u t := by
  obtain ⟨hroot, hfile, -⟩ := mem_recorded.mp (mem_metadataFiles.mp (next_least hfront.first).1).1
  refine mem_metadataFiles_kept hroot hrecorded.confined.grown fun hjson hbelow => ?_
  by_cases hqp : q = p
  · subst hqp
    obtain ⟨file, hmarked, -⟩ := Option.map_eq_some_iff.mp hrecorded.source
    rw [hmarked, hfile]
    rfl
  · have htemporary : q ≠ temporary p := ne_temporary hjson (by decide) (by decide)
    rw [upload_kept happart hrecorded hbelow hqp htemporary]

variable (hrereads : Rereads f)
include hrereads

theorem pendingFiles_of_upload :
    (pendingFiles f u t).Perm (p :: pendingFiles f u w.tree) ∧ p ∉ pendingFiles f u w.tree := by
  have hmarked : MarkedUploaded f w.tree p :=
    marked_of_text hrereads (readSegment_ok hfront.read).1 hrecorded.source
  have hnotin : p ∉ pendingFiles f u w.tree := fun h =>
    not_pending_of_marked hmarked (mem_pendingFiles.mp h).2
  refine ⟨(List.perm_ext_iff_of_nodup nodup_pendingFiles
    (List.nodup_cons.mpr ⟨hnotin, nodup_pendingFiles⟩)).mpr fun q => ?_, hnotin⟩
  rw [List.mem_cons, mem_pendingFiles, mem_pendingFiles,
    metadata_of_upload happart hfront hrecorded]
  by_cases hqp : q = p
  · subst hqp
    exact iff_of_true ⟨(next_least hfront.first).1, hfront.pending⟩ (.inl rfl)
  · rw [or_iff_right hqp]
    refine and_congr_right fun hq => (pending_congr ?_).symm
    exact upload_kept happart hrecorded (below_root hq) hqp (metadata_ne_temporary hq)

/-- An upload takes its segment out of the backlog, with the bytes counted for it. -/
theorem backlog_of_upload : backlog f u t =
    ⟨(backlog f u w.tree).pendingSegments + 1,
      (backlog f u w.tree).pendingBytes + countedBytes t p⟩ := by
  obtain ⟨hperm, hnotin⟩ := pendingFiles_of_upload happart hfront hrecorded hrereads
  have hcounted : (pendingFiles f u w.tree).map (countedBytes t) =
      (pendingFiles f u w.tree).map (countedBytes w.tree) := by
    refine List.map_congr_left fun q hq => (countedBytes_congr ?_ ?_).symm
    all_goals
      have hqp : q ≠ p := fun heq => hnotin (heq ▸ hq)
      have hmetadata : q ∈ metadataFiles u t :=
        (metadata_of_upload happart hfront hrecorded).mp (mem_pendingFiles.mp hq).1
      have hbelow : u.recordingRoot <+: q.parent := below_root hmetadata
    · exact upload_kept happart hrecorded hbelow hqp (metadata_ne_temporary hmetadata)
    · exact upload_kept happart hrecorded hbelow
        (sibling_ne_metadata (next_least hfront.first).1) sibling_ne_temporary
  rw [backlog_eq, backlog_eq, hperm.length_eq, (hperm.map (countedBytes t)).sum_eq, List.map_cons,
    List.sum_cons, hcounted, List.length_cons, add_comm (countedBytes t p)]

end

/-- A call that uploads nothing leaves the spool as it is. -/
theorem refused_kept {result : UploadProcessResult} (happart : Apart u)
    (hrefused : Refused f u t result w) (hq : u.recordingRoot <+: q.parent) :
    w.tree.find? q = t.find? q := by
  cases hrefused with
  | idle _ => rfl
  | unread _ _ => rfl
  | uncopied _ _ _ _ hconfined => exact archive_kept happart hconfined hq

theorem metadata_of_refused {result : UploadProcessResult} (happart : Apart u)
    (hrefused : Refused f u t result w) : q ∈ metadataFiles u w.tree ↔ q ∈ metadataFiles u t := by
  have hkept := refused_kept (q := q) happart hrefused
  cases hrefused with
  | idle _ => rfl
  | unread _ _ => rfl
  | uncopied hnext _ _ _ hconfined =>
    obtain ⟨hroot, -, -⟩ := mem_recorded.mp (mem_metadataFiles.mp (next_least hnext).1).1
    exact mem_metadataFiles_kept hroot hconfined.grown fun _ hbelow => by rw [hkept hbelow]

theorem pending_of_refused {result : UploadProcessResult} (happart : Apart u)
    (hrefused : Refused f u t result w) : q ∈ pendingFiles f u w.tree ↔ q ∈ pendingFiles f u t := by
  rw [mem_pendingFiles, mem_pendingFiles, metadata_of_refused happart hrefused]
  exact and_congr_right fun hq => pending_congr (refused_kept happart hrefused (below_root hq))

theorem backlog_of_refused {result : UploadProcessResult} (happart : Apart u)
    (hrefused : Refused f u t result w) : backlog f u w.tree = backlog f u t := by
  have hperm : (pendingFiles f u w.tree).Perm (pendingFiles f u t) :=
    (List.perm_ext_iff_of_nodup nodup_pendingFiles nodup_pendingFiles).mpr fun q =>
      pending_of_refused happart hrefused
  have hcounted : (pendingFiles f u t).map (countedBytes w.tree) =
      (pendingFiles f u t).map (countedBytes t) := by
    refine List.map_congr_left fun q hq => ?_
    have hbelow : u.recordingRoot <+: q.parent := below_root (mem_pendingFiles.mp hq).1
    exact countedBytes_congr (refused_kept happart hrefused hbelow)
      (refused_kept happart hrefused hbelow)
  rw [backlog_eq, backlog_eq, hperm.length_eq, (hperm.map (countedBytes w.tree)).sum_eq, hcounted]

/-! ## A blocked queue -/

/-- There is something to upload, and not from where the queue stands. -/
def Blocked (f : Formats) (u : LocalArchiveUploader) (t : Tree) : Prop :=
  (∃ q, q ∈ pendingFiles f u t) ∧ ¬FrontValid f u t

theorem next_of_refused {result : UploadProcessResult} (happart : Apart u)
    (hrefused : Refused f u t result w) : next f u w.tree = next f u t :=
  next_congr (fun _ => metadata_of_refused happart hrefused) fun _ hq =>
    refused_kept happart hrefused (below_root hq)

theorem front_of_refused {result : UploadProcessResult} (happart : Apart u)
    (hrefused : Refused f u t result w) : ¬FrontValid f u w.tree := by
  rintro ⟨p, hfirst, hpending, segment, hread, hreadable⟩
  have hnext : next f u t = some p := (next_of_refused happart hrefused).symm.trans hfirst
  cases hrefused with
  | idle hidle => exact nomatch hidle.symm.trans hnext
  | unread hunread hinvalid =>
    obtain rfl := Option.some.inj (hunread.symm.trans hnext)
    exact hinvalid ⟨hpending, segment, hread, hreadable⟩
  | uncopied huncopied _ hread' hvideo hconfined =>
    obtain rfl := Option.some.inj (huncopied.symm.trans hnext)
    have hbelow := below_root (next_least hnext).1
    obtain ⟨-, -, hleads, -⟩ := readSegment_ok hread'
    have hvideoKept := archive_kept happart hconfined (hleads.1 ▸ List.prefix_append _ _)
    have hread'' := readSegment_kept hread' (archive_kept happart hconfined hbelow) hvideoKept
      hconfined.grown
    obtain rfl := Except.ok.inj (hread.symm.trans hread'')
    have hunreadable : t.read segment.video ≠ none := by
      unfold Tree.read at hreadable ⊢
      rw [hvideoKept] at hreadable
      exact Option.isSome_iff_ne_none.mp hreadable
    exact hunreadable hvideo

theorem blocked_after (happart : Apart u) (h : Blocked f u t) : Blocked f u (call f u t).2 := by
  obtain ⟨result, w, hcall, hcases⟩ := call_cases (f := f) (u := u) (t := t)
  rw [hcall]
  cases hcases with
  | uploaded hfront _ => exact absurd (front_valid_iff.mpr ⟨_, _, hfront⟩) h.2
  | refused hrefused =>
    exact ⟨h.1.imp fun q => (pending_of_refused happart hrefused).mpr,
      front_of_refused happart hrefused⟩

/-! ## Draining -/

/-- The front segment, with a video as large as the one that the backlog counts. -/
def FrontCounted (f : Formats) (u : LocalArchiveUploader) (t : Tree) : Prop :=
  ∃ p segment, Front f u t p segment ∧ t.size segment.video = t.size (sibling p)

/-- What the backlog promises of the calls: each lowers it by the bytes that it reports, and some
number of them brings it to nothing and has then reported all of it. -/
structure Agrees (f : Formats) (u : LocalArchiveUploader) (t : Tree) : Prop where
  exact : ∀ n, (backlog f u (after f u t n)).pendingBytes =
    (backlog f u (after f u t (n + 1))).pendingBytes + bytesReported f u (after f u t n)
  drained : ∃ n, backlog f u (after f u t n) = ⟨0, 0⟩ ∧ (backlog f u t).pendingBytes =
    ((List.range n).map fun i => bytesReported f u (after f u t i)).sum

/-- One call: either the front segment leaves the backlog, or the backlog stays. -/
theorem backlog_of_call (happart : Apart u) (hrereads : Rereads f) :
    (∃ p segment, Front f u t p segment ∧
      bytesReported f u t = t.size segment.video + t.size p ∧
      backlog f u t = ⟨(backlog f u (call f u t).2).pendingSegments + 1,
        (backlog f u (call f u t).2).pendingBytes + (t.size p + t.size (sibling p))⟩) ∨
    ¬FrontValid f u t ∧ bytesReported f u t = 0 ∧ backlog f u (call f u t).2 = backlog f u t := by
  obtain ⟨result, w, hcall, hcases⟩ := call_cases (f := f) (u := u) (t := t)
  unfold bytesReported
  rw [hcall]
  cases hcases with
  | uploaded hfront hrecorded =>
    exact .inl ⟨_, _, hfront, rfl, backlog_of_upload happart hfront hrecorded hrereads⟩
  | refused hrefused =>
    refine .inr ⟨not_front_of_refused hrefused, ?_, backlog_of_refused happart hrefused⟩
    cases hrefused <;> rfl

theorem after_call (n : ℕ) : after f u (call f u t).2 n = after f u t (n + 1) := by
  induction n with
  | zero => rfl
  | succ n ih =>
    show (call f u (after f u (call f u t).2 n)).2 = (call f u (after f u t (n + 1))).2
    rw [ih]

theorem pendingSegments_eq_zero :
    (backlog f u t).pendingSegments = 0 ↔ ¬∃ q ∈ metadataFiles u t, Pending f t q := by
  simp [backlog_eq, pendingFiles, List.filter_eq_nil_iff]

theorem backlog_eq_zero (h : (backlog f u t).pendingSegments = 0) : backlog f u t = ⟨0, 0⟩ := by
  have hnone : pendingFiles f u t = [] := by simpa [backlog_eq] using h
  rw [backlog_eq, hnone]
  rfl

theorem drained_of_counted (happart : Apart u) (hrereads : Rereads f)
    (h : ∀ n, (∃ q ∈ metadataFiles u (after f u t n), Pending f (after f u t n) q) →
      FrontCounted f u (after f u t n)) : ∃ n, backlog f u (after f u t n) = ⟨0, 0⟩ := by
  induction hsegments : (backlog f u t).pendingSegments generalizing t with
  | zero => exact ⟨0, backlog_eq_zero hsegments⟩
  | succ k ih =>
    have hpending : ∃ q ∈ metadataFiles u t, Pending f t q := by
      by_contra hnone
      rw [pendingSegments_eq_zero.mpr hnone] at hsegments
      cases hsegments
    obtain ⟨p, segment, hfront, -⟩ := h 0 hpending
    rcases backlog_of_call (t := t) happart hrereads with ⟨_, _, -, -, hbacklog⟩ | ⟨hinvalid, -⟩
    · rw [hbacklog] at hsegments
      have hafter := ih (t := (call f u t).2) (fun n => after_call n ▸ h (n + 1))
        (Nat.succ.inj hsegments)
      obtain ⟨n, hn⟩ := hafter
      exact ⟨n + 1, after_call n ▸ hn⟩
    · exact absurd (front_valid_iff.mpr ⟨p, segment, hfront⟩) hinvalid

theorem reported_sum (h : ∀ n, (backlog f u (after f u t n)).pendingBytes =
      (backlog f u (after f u t (n + 1))).pendingBytes + bytesReported f u (after f u t n))
    (n : ℕ) :
    (backlog f u t).pendingBytes = (backlog f u (after f u t n)).pendingBytes +
      ((List.range n).map fun i => bytesReported f u (after f u t i)).sum := by
  induction n with
  | zero => rfl
  | succ n ih =>
    rw [ih, h n, List.range_succ, List.map_append, List.sum_append, List.map_singleton,
      List.sum_singleton]
    omega

/-- Blocked once, the queue never gets empty. -/
theorem blocked_always (happart : Apart u) {n : ℕ} (h : Blocked f u (after f u t n)) (k : ℕ) :
    Blocked f u (after f u t (n + k)) := by
  induction k with
  | zero => exact h
  | succ k ih => exact blocked_after happart ih

theorem pendingSegments_antitone (happart : Apart u) (hrereads : Rereads f) {n m : ℕ}
    (h : n ≤ m) : (backlog f u (after f u t m)).pendingSegments ≤
      (backlog f u (after f u t n)).pendingSegments := by
  induction m, h using Nat.le_induction with
  | base => exact le_rfl
  | succ m _ ih =>
    refine le_trans ?_ ih
    rcases backlog_of_call (t := after f u t m) happart hrereads with
      ⟨_, _, -, -, hbacklog⟩ | ⟨-, -, hbacklog⟩
    · rw [hbacklog]
      exact Nat.le_succ _
    · exact (congrArg Backlog.pendingSegments hbacklog).le

/-- The backlog agrees with the calls exactly when, as long as something is pending, the front
segment is valid and its video is as large as the file that the backlog takes for it. -/
theorem drain_agrees_iff (f : Formats) (u : LocalArchiveUploader) (t : Tree) (happart : Apart u)
    (hrereads : Rereads f) :
    Agrees f u t ↔
      ∀ n, (∃ q ∈ metadataFiles u (after f u t n), Pending f (after f u t n) q) →
        FrontCounted f u (after f u t n) := by
  constructor
  · rintro ⟨hexact, m, hzero, -⟩ n hpending
    have hvalid : FrontValid f u (after f u t n) := by
      by_contra hinvalid
      have hblocked : Blocked f u (after f u t n) :=
        ⟨hpending.imp fun _ => mem_pendingFiles.mpr, hinvalid⟩
      have hlater := (blocked_always happart hblocked m).1
      have hle := pendingSegments_antitone (t := t) happart hrereads (Nat.le_add_left m n)
      rw [hzero] at hle
      exact pendingSegments_eq_zero.mp (Nat.le_zero.mp hle)
        (hlater.imp fun _ => mem_pendingFiles.mp)
    rcases backlog_of_call (t := after f u t n) happart hrereads with
      ⟨p, segment, hfront, hreported, hbacklog⟩ | ⟨hinvalid, -⟩
    · refine ⟨p, segment, hfront, ?_⟩
      have hstep := hexact n
      rw [hbacklog, hreported] at hstep
      have hbytes := Nat.add_left_cancel hstep
      omega
    · exact absurd hvalid hinvalid
  · intro h
    have hexact (n : ℕ) : (backlog f u (after f u t n)).pendingBytes =
        (backlog f u (after f u t (n + 1))).pendingBytes +
          bytesReported f u (after f u t n) := by
      rcases backlog_of_call (t := after f u t n) happart hrereads with
        ⟨p, segment, hfront, hreported, hbacklog⟩ | ⟨-, hreported, hbacklog⟩
      · obtain ⟨p', segment', hfront', hsize⟩ :=
          h n ⟨p, (next_least hfront.first).1, hfront.pending⟩
        obtain ⟨rfl, rfl⟩ := hfront.unique hfront'
        rw [hbacklog, hreported, hsize, add_comm (Tree.size _ (sibling p'))]
        rfl
      · rw [hreported]
        exact (congrArg Backlog.pendingBytes hbacklog).symm
    obtain ⟨n, hn⟩ := drained_of_counted happart hrereads h
    refine ⟨hexact, n, hn, ?_⟩
    have hsum := reported_sum hexact n
    rwa [hn, Nat.zero_add] at hsum

/-! ## Samples -/

theorem sample_apart : Apart sampleUploader := ⟨by decide, by decide⟩

theorem sample_rereads : Rereads sampleFormats := by
  have htable : ∀ d ∈ sampleDocuments,
      sampleFormats.parse (sampleFormats.text (markUploaded d.2)) = .ok (markUploaded d.2) := by
    decide +kernel
  intro content json hparse hobject
  simp only [sampleFormats] at hparse
  split at hparse
  · rename_i d hd
    obtain rfl := Except.ok.inj hparse
    refine ⟨markUploaded d.2, htable d (List.mem_of_find?_eq_some hd), ?_, fun _ => rfl⟩
    rw [markUploaded, Json.isObject_set, hobject]
  · cases hparse

theorem drain_agrees_sample : Agrees sampleFormats sampleUploader damagedSpool ↔
    ∀ n, (∃ q ∈ metadataFiles sampleUploader (after sampleFormats sampleUploader damagedSpool n),
        Pending sampleFormats (after sampleFormats sampleUploader damagedSpool n) q) →
      FrontCounted sampleFormats sampleUploader
        (after sampleFormats sampleUploader damagedSpool n) :=
  drain_agrees_iff sampleFormats sampleUploader damagedSpool sample_apart sample_rereads

/-- A segment whose video is not the file next to the metadata. -/
def namedSpool : Tree := spool [("a.json", "\x7b\"video_file\": \"c.mp4\"\x7d"), ("c.mp4", "video")]

theorem named_video_uncounted :
    (∀ q ∈ metadataFiles sampleUploader namedSpool, Pending sampleFormats namedSpool q →
      Valid sampleFormats sampleUploader namedSpool q) ∧
    (backlog sampleFormats sampleUploader namedSpool).pendingBytes ≠
      (backlog sampleFormats sampleUploader
          (call sampleFormats sampleUploader namedSpool).2).pendingBytes +
        bytesReported sampleFormats sampleUploader namedSpool := by
  decide +kernel

end MineTeleop.Uploader
