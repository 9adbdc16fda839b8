import MineTeleop.SessionLogs.Collection

/-!
# Which commands a collected record has

A trace batch has a session of its own as well, that of its first command where the driver wrote
it. The record is left out where that session is not the one asked for, whatever was selected from
it before.

Proved here, for any record, any session and any formats:

* `recordSession_changed`: the session of a batch after its commands are selected;
* `keeps_iff_passes_single`, `keeps_iff_passes_batch`: which records the filters let pass;
* `commandsAt_redact`: the commands of a batch as they are written;
* `readRecord_ok`, `readRecord_of_readable`: what a record adds to the snapshot, and when it is
  read.
-/

namespace MineTeleop.SessionLogs

open Documents

/-! ## What is asked for -/

def recordEvent (record : Json) : String := (stringAt record "event").getD ""

def batchOf (record : Json) : Option (Place × List Json) := traceBatch (recordEvent record) record

/-- How deep in a record its commands are. -/
def Place.depth : Place → ℕ
  | .record => 2
  | .details => 3

/-- The commands of a batch that belong to the session and fall in its window. -/
def selected (formats : Formats) (session : Session) (source : LogSource) (record : Json) :
    List Json :=
  match batchOf record with
  | none => []
  | some (_, commands) =>
    if recordTime formats record = 0 ∨ OtherService source session record then []
    else commands.filter fun command => Selects formats session record command

/-- These commands as a snapshot has them. -/
def wanted (formats : Formats) (session : Session) (secrets : List String) (source : LogSource)
    (record : Json) : List Json :=
  match batchOf record with
  | none => []
  | some (place, _) => (selected formats session source record).map (redact secrets place.depth)

/-- The commands of a batch that a line of the snapshot has. -/
def Line.commands (line : Line) : List Json :=
  match batchOf line.record with
  | none => []
  | some (place, _) => (commandsAt place line.written).getD []

/-- The session that a batch names itself, before its commands. -/
def headerSession (place : Place) (record : Json) : Option String :=
  match place with
  | .record => nameAt record "session_id"
  | .details => (namedSession record).or (nameAt (payload .details record) "session_id")

def HeaderFits (session : Session) (place : Place) (record : Json) : Prop :=
  ∀ id ∈ headerSession place record, id = session.sessionId

instance (session : Session) (place : Place) (record : Json) :
    Decidable (HeaderFits session place record) :=
  inferInstanceAs (Decidable (∀ id ∈ headerSession place record, id = session.sessionId))

/-- The filters let the record pass. -/
def Passes (formats : Formats) (session : Session) (source : LogSource) (record : Json) : Prop :=
  recordTime formats record ≠ 0 ∧ ¬OtherService source session record ∧
    match batchOf record with
    | some (place, _) =>
      HeaderFits session place record ∧ selected formats session source record ≠ []
    | none =>
      session.InWindow (recordTime formats record) ∧
        (recordSession record = session.sessionId ∨
          recordSession record = "" ∧ source.requireSessionId = false)

/-- A batch with commands that are asked for names their session or none. -/
def Unmixed (formats : Formats) (session : Session) (source : LogSource) (record : Json) : Prop :=
  ∀ place commands, batchOf record = some (place, commands) →
    selected formats session source record ≠ [] → HeaderFits session place record

def TextEvent (record : Json) : Prop :=
  ∀ found, record.find? "event" = some found → found.typeName = "string"

/-- The count of dropped lines in the details is a number, where it is looked at. -/
def NumberedDrops (record : Json) : Prop :=
  recordEvent record ≠ "desktop_log_dropped" →
    ∀ count, (payload .details record).find? "dropped_since_last" = some count →
      count.typeName = "number" ∨ count.typeName = "boolean"

/-- Neither the event of a record nor the count of a kept one is of another type. -/
structure Readable (formats : Formats) (session : Session) (source : LogSource) (record : Json) :
    Prop where
  event : TextEvent record
  drops : Passes formats session source record → NumberedDrops record

/-! ## Members -/

section
variable {value : Json} {key : String}

theorem nameAt_ne_empty {id : String} (h : nameAt value key = some id) : id ≠ "" := by
  unfold nameAt at h
  split at h
  · split at h
    · exact nomatch h
    · rename_i hne
      exact Option.some.inj h ▸ hne
  · exact nomatch h

theorem nameAt_congr {other : Json} (h : value.find? key = other.find? key) :
    nameAt value key = nameAt other key := by
  simp only [nameAt, stringAt, h]

theorem nameAt_string {id : String} (h : value.find? key = some (.string id)) (hne : id ≠ "") :
    nameAt value key = some id := by
  simp only [nameAt, stringAt, h, hne, if_false]

theorem namedSession_eq (value : Json) :
    namedSession value = (nameAt value "session_id").or (nameAt value "trace_session_id") := by
  simp only [namedSession, List.findSome?_cons, List.findSome?_nil]
  cases nameAt value "session_id" <;> cases nameAt value "trace_session_id" <;> rfl

theorem namedSession_ne_empty {id : String} (h : namedSession value = some id) : id ≠ "" := by
  rw [namedSession_eq, Option.or_eq_some_iff] at h
  rcases h with hfirst | ⟨-, hsecond⟩
  · exact nameAt_ne_empty hfirst
  · exact nameAt_ne_empty hsecond

theorem namedSession_congr {other : Json}
    (hid : value.find? "session_id" = other.find? "session_id")
    (htrace : value.find? "trace_session_id" = other.find? "trace_session_id") :
    namedSession value = namedSession other := by
  rw [namedSession_eq, namedSession_eq, nameAt_congr hid, nameAt_congr htrace]

theorem detailsSession_eq (members : List (String × Json)) :
    detailsSession members = ((members.lookup "details").map recordSession).getD "" := by
  induction members with
  | nil => rfl
  | cons member members ih =>
    obtain ⟨key, value⟩ := member
    rw [detailsSession, List.lookup_cons]
    by_cases hkey : key = "details"
    · simp [hkey]
    · have hother : ("details" == key) = false := beq_eq_false_iff_ne.mpr (Ne.symm hkey)
      rw [if_neg hkey, hother, ih]

/-- A record without a name of its own has that of its details. -/
theorem recordSession_eq (value : Json) :
    recordSession value =
      (namedSession value).getD (((value.find? "details").map recordSession).getD "") := by
  cases value with
  | object members =>
    rw [recordSession]
    cases hnamed : namedSession (.object members) with
    | some id => rfl
    | none => exact detailsSession_eq members
  | _ => rfl

/-- A document with a member is an object. -/
theorem isObject_of_find {found : Json} (h : value.find? key = some found) :
    value.isObject = true := by
  cases value with
  | object members => rfl
  | _ => exact nomatch h

theorem event_read (hobject : value.isObject = true)
    (hevent : TextEvent value) :
    value.value "event" Json.getString "" = .ok (recordEvent value) := by
  cases hfound : value.find? "event" with
  | none =>
    cases value with
    | object members =>
      have hlookup : members.lookup "event" = none := hfound
      simp only [Json.value, hlookup, recordEvent, stringAt, hfound, Option.getD_none]
    | _ => cases hobject
  | some found =>
    have hstring := hevent found hfound
    rw [Json.value_of_find "" hfound]
    cases found with
    | string text => simp only [Json.getString, recordEvent, stringAt, hfound, Option.getD_some]
    | _ => simp [Json.typeName] at hstring

theorem event_string {text : String} (h : value.value "event" Json.getString "" = .ok text) :
    TextEvent value := by
  intro found hfound
  rw [Json.value_of_find "" hfound] at h
  cases found with
  | string text => rfl
  | _ => exact nomatch h

end

/-! ## A batch after the selection -/

section
variable {formats : Formats} {session : Session} {secrets : List String} {source : LogSource}
variable {record : Json} {place : Place} {commands : List Json}

def keptCommands (formats : Formats) (session : Session) (record : Json) (commands : List Json) :
    List Json :=
  commands.filter fun command => Selects formats session record command

/-- The record with the commands that are kept, and their session. -/
def changedBatch (session : Session) (place : Place) (record : Json) (kept : List Json) : Json :=
  withPayload place record (((payload place record).set "commands" (.array kept)).set
    "trace_session_id" (.string (if kept.isEmpty then "" else session.sessionId)))

theorem selectTraceCommands_single (hobject : record.isObject = true)
    (hevent : TextEvent record)
    (hbatch : batchOf record = none) :
    selectTraceCommands formats session record =
      .ok ⟨none, touched (recordEvent record) record⟩ := by
  have hnone : traceBatch (recordEvent record) record = none := hbatch
  unfold selectTraceCommands
  rw [event_read hobject hevent]
  dsimp only [bind, Except.bind]
  rw [hnone]

theorem selectTraceCommands_batch (hobject : record.isObject = true)
    (hevent : TextEvent record)
    (hbatch : batchOf record = some (place, commands)) :
    selectTraceCommands formats session record =
      .ok ⟨some !(keptCommands formats session record commands).isEmpty,
        changedBatch session place record (keptCommands formats session record commands)⟩ := by
  have hsome : traceBatch (recordEvent record) record = some (place, commands) := hbatch
  unfold selectTraceCommands
  rw [event_read hobject hevent]
  dsimp only [bind, Except.bind]
  rw [hsome]
  rfl

theorem commandsAt_of_batch (hbatch : batchOf record = some (place, commands)) :
    (payload place record).find? "commands" = some (.array commands) := by
  have hsome : traceBatch (recordEvent record) record = some (place, commands) := hbatch
  unfold traceBatch at hsome
  split at hsome
  · exact nomatch hsome
  · rename_i found hfound
    obtain ⟨found', hcommands, hpair⟩ := Option.map_eq_some_iff.mp hsome
    obtain ⟨rfl, rfl⟩ := Prod.mk.inj hpair
    unfold commandsAt at hcommands
    split at hcommands
    · rename_i commands hcommandsAt
      rw [hcommandsAt, Option.some.inj hcommands]
    · exact nomatch hcommands

theorem payload_object (hbatch : batchOf record = some (place, commands)) :
    (payload place record).isObject = true :=
  isObject_of_find (commandsAt_of_batch hbatch)

/-- The other members of the payload stay. -/
theorem find?_payload_changed (hobject : record.isObject = true) (kept : List Json) {key : String}
    (hcommands : key ≠ "commands") (htrace : key ≠ "trace_session_id") :
    (payload place (changedBatch session place record kept)).find? key =
      (payload place record).find? key := by
  cases place with
  | record =>
    exact (Json.find?_set_other _ htrace _).trans (Json.find?_set_other _ hcommands _)
  | details =>
    have hdetails := Json.find?_set_same hobject "details"
    simp only [changedBatch, payload, withPayload, hdetails, Option.getD_some]
    rw [Json.find?_set_other _ htrace, Json.find?_set_other _ hcommands]

/-- So do the other members of the record. -/
theorem find?_changed (kept : List Json) {key : String} (hcommands : key ≠ "commands")
    (htrace : key ≠ "trace_session_id") (hdetails : key ≠ "details") :
    (changedBatch session place record kept).find? key = record.find? key := by
  cases place with
  | record =>
    exact (Json.find?_set_other _ htrace _).trans (Json.find?_set_other _ hcommands _)
  | details => exact Json.find?_set_other _ hdetails _

theorem trace_changed (session : Session) (hobject : record.isObject = true)
    (hbatch : batchOf record = some (place, commands)) {kept : List Json} (hkept : kept ≠ []) :
    nameAt (payload place (changedBatch session place record kept)) "trace_session_id" =
      some session.sessionId := by
  have hset : ∀ id, (((payload place record).set "commands" (.array kept)).set
      "trace_session_id" (.string id)).find? "trace_session_id" = some (.string id) := by
    intro id
    refine Json.find?_set_same ?_ _ _
    rw [Json.isObject_set]
    exact payload_object hbatch
  have hempty : kept.isEmpty = false := by simpa using hkept
  refine nameAt_string ?_ session.named
  cases place with
  | record =>
    simp only [changedBatch, payload, withPayload, hempty, Bool.false_eq_true, if_false]
    exact hset _
  | details =>
    have hdetails := Json.find?_set_same hobject "details"
    simp only [changedBatch, payload, withPayload, hdetails, Option.getD_some, hempty,
      Bool.false_eq_true, if_false]
    exact hset _

/-- A batch names the session that it named before, or the one that was selected. -/
theorem recordSession_changed (session : Session) (hobject : record.isObject = true)
    (hbatch : batchOf record = some (place, commands)) {kept : List Json} (hkept : kept ≠ []) :
    recordSession (changedBatch session place record kept) =
      (headerSession place record).getD session.sessionId := by
  have htrace := trace_changed session hobject hbatch hkept
  have hid : nameAt (payload place (changedBatch session place record kept)) "session_id" =
      nameAt (payload place record) "session_id" :=
    nameAt_congr (find?_payload_changed hobject kept (by decide) (by decide))
  have hnamed : namedSession (payload place (changedBatch session place record kept)) =
      (nameAt (payload place record) "session_id").or (some session.sessionId) := by
    rw [namedSession_eq, hid, htrace]
  cases place with
  | record =>
    have hnamed' : namedSession (changedBatch session .record record kept) =
        (nameAt (payload .record record) "session_id").or (some session.sessionId) := hnamed
    rw [recordSession_eq, hnamed']
    cases hheader : nameAt record "session_id" <;> simp [headerSession, payload, hheader]
  | details =>
    have hdetails : (changedBatch session .details record kept).find? "details" =
        some (payload .details (changedBatch session .details record kept)) := by
      rw [payload, changedBatch, withPayload, Json.find?_set_same hobject]
      rfl
    have hown : namedSession (changedBatch session .details record kept) = namedSession record :=
      namedSession_congr (Json.find?_set_other _ (by decide) _)
        (Json.find?_set_other _ (by decide) _)
    rw [recordSession_eq, hdetails, Option.map_some, Option.getD_some, recordSession_eq, hnamed,
      hown]
    cases hheader : namedSession record <;>
      cases hinner : nameAt (payload .details record) "session_id" <;>
      simp [headerSession, hheader, hinner]

/-! ## A record after the selection -/

theorem find?_touched_other (event : String) {key : String} (hkey : key ≠ "details") :
    (touched event record).find? key = record.find? key := by
  unfold touched
  split
  · rfl
  · rename_i place hplace
    cases place with
    | record => rfl
    | details => exact Json.find?_set_other _ hkey _

theorem find?_touched_details (hobject : record.isObject = true) (event : String) :
    (touched event record).find? "details" = record.find? "details" ∨
      record.find? "details" = none ∧ (touched event record).find? "details" = some .null := by
  unfold touched
  split
  · exact .inl rfl
  · rename_i place hplace
    cases place with
    | record => exact .inl rfl
    | details =>
      rw [withPayload, Json.find?_set_same hobject, payload]
      cases hdetails : record.find? "details" with
      | none => exact .inr ⟨rfl, rfl⟩
      | some details => exact .inl rfl

theorem recordSession_touched (hobject : record.isObject = true) (event : String) :
    recordSession (touched event record) = recordSession record := by
  have hnamed : namedSession (touched event record) = namedSession record :=
    namedSession_congr (find?_touched_other event (by decide))
      (find?_touched_other event (by decide))
  rw [recordSession_eq, recordSession_eq record, hnamed]
  rcases find?_touched_details hobject event with hsame | ⟨hnone, hnull⟩
  · rw [hsame]
  · rw [hnone, hnull]
    rfl

theorem otherService_congr {value : Json}
    (h : value.find? "service_instance_id" = record.find? "service_instance_id") :
    OtherService source session value ↔ OtherService source session record := by
  simp only [OtherService, Json.contains, h]

/-! ## What one record adds -/

/-- The conditions of the loop, after the selection. -/
structure Keeps (session : Session) (source : LogSource) (time : ℤ) (selection : Selection) :
    Prop where
  some_kept : selection.batch ≠ some false
  own : recordSession selection.value = "" ∨ recordSession selection.value = session.sessionId
  inside : selection.batch = none → session.windowStart ≤ time ∧ time ≤ session.windowEnd
  timed : time ≠ 0
  required : source.requireSessionId = true → recordSession selection.value = session.sessionId
  service : ¬OtherService source session selection.value

/-- Nothing is written, and no limit is met. -/
structure Quiet (progress progress' : Progress) : Prop where
  output : progress'.output = progress.output
  limited : progress'.limited = progress.limited
  failed : progress'.failed = progress.failed

theorem Quiet.refl (progress : Progress) : Quiet progress progress := ⟨rfl, rfl, rfl⟩

theorem quiet_note (progress : Progress) (time : ℤ) : Quiet progress (progress.note time) := by
  unfold Progress.note
  split
  · exact .refl progress
  · exact ⟨rfl, rfl, rfl⟩

theorem Quiet.unscoped {progress progress' : Progress} (h : Quiet progress progress')
    (id : String) :
    Quiet progress
      (if id = "" then { progress' with unscoped := progress'.unscoped + 1 } else progress') := by
  split
  · exact ⟨h.output, h.limited, h.failed⟩
  · exact h

theorem readRecord_skips (secrets : List String) (progress : Progress) {selection : Selection}
    (hselect : selectTraceCommands formats session record = .ok selection)
    (hnot : ¬Keeps session source (recordTime formats record) selection) :
    ∃ progress', readRecord formats session secrets source progress record = .ok progress' ∧
      Quiet progress progress' := by
  have hnote := quiet_note progress (recordTime formats record)
  unfold readRecord
  rw [hselect]
  dsimp only [bind, Except.bind]
  split
  · exact ⟨_, rfl, hnote⟩
  · rename_i hbatch
    split
    · exact ⟨_, rfl, hnote⟩
    · rename_i hown
      split
      · exact ⟨_, rfl, hnote⟩
      · rename_i hinside
        split
        · exact ⟨_, rfl, hnote.output, hnote.limited, hnote.failed⟩
        · rename_i htimed
          split
          · exact ⟨_, rfl, hnote⟩
          · rename_i hscoped
            split
            · exact ⟨_, rfl, hnote.unscoped _⟩
            · rename_i hservice
              refine absurd ?_ hnot
              exact
                { some_kept := hbatch
                  own := by tauto
                  inside := fun hnone => by
                    by_contra hout
                    refine hinside ⟨hnone, htimed, ?_⟩
                    omega
                  timed := htimed
                  required := by tauto
                  service := hservice }

theorem readRecord_keeps (secrets : List String) (progress : Progress) {selection : Selection}
    (hselect : selectTraceCommands formats session record = .ok selection)
    (hkeeps : Keeps session source (recordTime formats record) selection) :
    ∃ noted, Quiet progress noted ∧
      readRecord formats session secrets source progress record =
        (reportsDrops selection.value).bind fun drops =>
          .ok (writeLine formats { noted with dropped := noted.dropped || drops } record
            (redact secrets 0 selection.value)) := by
  have hnote := quiet_note progress (recordTime formats record)
  refine ⟨_, hnote.unscoped (recordSession selection.value), ?_⟩
  unfold readRecord
  rw [hselect]
  dsimp only [bind, Except.bind]
  have hown : ¬(recordSession selection.value ≠ "" ∧
      recordSession selection.value ≠ session.sessionId) := by
    rcases hkeeps.own with hnone | hsame
    · exact fun h => h.1 hnone
    · exact fun h => h.2 hsame
  have hinside : ¬(selection.batch = none ∧ recordTime formats record ≠ 0 ∧
      (recordTime formats record < session.windowStart ∨
        session.windowEnd < recordTime formats record)) := by
    rintro ⟨hnone, -, hout⟩
    obtain ⟨hstart, hend⟩ := hkeeps.inside hnone
    omega
  have hscoped : ¬(source.requireSessionId = true ∧
      recordSession selection.value ≠ session.sessionId) :=
    fun h => h.2 (hkeeps.required h.1)
  rw [if_neg hkeeps.some_kept, if_neg hown, if_neg hinside, if_neg hkeeps.timed, if_neg hscoped,
    if_neg hkeeps.service]

theorem headerSession_ne_empty {id : String} (h : headerSession place record = some id) :
    id ≠ "" := by
  cases place with
  | record => exact nameAt_ne_empty h
  | details =>
    rcases Option.or_eq_some_iff.mp h with hown | ⟨-, hinner⟩
    · exact namedSession_ne_empty hown
    · exact nameAt_ne_empty hinner

theorem selected_of_batch (hbatch : batchOf record = some (place, commands))
    (htime : recordTime formats record ≠ 0) (hservice : ¬OtherService source session record) :
    selected formats session source record = keptCommands formats session record commands := by
  rw [selected, hbatch]
  exact if_neg (not_or.mpr ⟨htime, hservice⟩)

theorem keeps_iff_passes_single (hobject : record.isObject = true)
    (hbatch : batchOf record = none) :
    Keeps session source (recordTime formats record)
        ⟨none, touched (recordEvent record) record⟩ ↔
      Passes formats session source record := by
  have hsession := recordSession_touched hobject (recordEvent record)
  have hservice : OtherService source session (touched (recordEvent record) record) ↔
      OtherService source session record :=
    otherService_congr (find?_touched_other _ (by decide))
  simp only [Passes, hbatch]
  constructor
  · intro h
    obtain ⟨hstart, hend⟩ := h.inside rfl
    have hown := h.own
    have hrequired := h.required
    simp only [hsession] at hown hrequired
    refine ⟨h.timed, fun hother => h.service (hservice.mpr hother), ⟨h.timed, hstart, hend⟩, ?_⟩
    rcases hown with hnone | hsame
    · cases hrequire : source.requireSessionId with
      | true => exact .inl (hrequired hrequire)
      | false => exact .inr ⟨hnone, rfl⟩
    · exact .inl hsame
  · rintro ⟨htime, hother, ⟨-, hstart, hend⟩, hown⟩
    exact
      { some_kept := by simp
        own := by
          rw [hsession]
          exact hown.symm.imp And.left id
        inside := fun _ => ⟨hstart, hend⟩
        timed := htime
        required := fun hrequire => by
          rw [hsession]
          rcases hown with hsame | ⟨-, hfree⟩
          · exact hsame
          · exact absurd hrequire (by simp [hfree])
        service := fun h => hother (hservice.mp h) }

theorem header_fits_iff :
    (headerSession place record).getD session.sessionId = session.sessionId ↔
      HeaderFits session place record := by
  cases hheader : headerSession place record <;> simp [HeaderFits, hheader]

theorem keeps_iff_passes_batch (hobject : record.isObject = true)
    (hbatch : batchOf record = some (place, commands)) :
    Keeps session source (recordTime formats record)
        ⟨some !(keptCommands formats session record commands).isEmpty,
          changedBatch session place record (keptCommands formats session record commands)⟩ ↔
      Passes formats session source record := by
  have hservice : OtherService source session (changedBatch session place record
      (keptCommands formats session record commands)) ↔ OtherService source session record :=
    otherService_congr (find?_changed _ (by decide) (by decide) (by decide))
  simp only [Passes, hbatch]
  constructor
  · intro h
    have hother : ¬OtherService source session record := fun h' => h.service (hservice.mpr h')
    have hkept : keptCommands formats session record commands ≠ [] := by
      simpa using h.some_kept
    have hsession := recordSession_changed session hobject hbatch hkept
    refine ⟨h.timed, hother, ?_, ?_⟩
    · rw [← header_fits_iff]
      rcases h.own with hnone | hsame
      · rw [hsession] at hnone
        cases hheader : headerSession place record with
        | none => rfl
        | some id =>
          rw [hheader] at hnone
          exact absurd hnone (headerSession_ne_empty hheader)
      · exact hsession.symm.trans hsame
    · rw [selected_of_batch hbatch h.timed hother]
      exact hkept
  · rintro ⟨htime, hother, hheader, hkept⟩
    rw [selected_of_batch hbatch htime hother] at hkept
    have hsame : recordSession (changedBatch session place record
        (keptCommands formats session record commands)) = session.sessionId :=
      (recordSession_changed session hobject hbatch hkept).trans (header_fits_iff.mpr hheader)
    exact
      { some_kept := by simpa using hkept
        own := .inr hsame
        inside := fun hnone => nomatch hnone
        timed := htime
        required := fun _ => hsame
        service := fun h => hother (hservice.mp h) }

/-! ## Drops -/

theorem getCount_ok_iff {count : Json} :
    (∃ n, getCount count = .ok n) ↔ count.typeName = "number" ∨ count.typeName = "boolean" := by
  cases count <;> simp [getCount, Json.getInt64, Json.getInteger, Json.typeName, bind, Except.bind]

theorem reportsDrops_ok_iff {value : Json} (hobject : value.isObject = true)
    (hevent : TextEvent value) :
    (∃ drops, reportsDrops value = .ok drops) ↔ NumberedDrops value := by
  unfold reportsDrops NumberedDrops payload
  rw [event_read hobject hevent]
  dsimp only [bind, Except.bind]
  by_cases hdropped : recordEvent value = "desktop_log_dropped"
  · simp [hdropped]
  · rw [if_neg hdropped]
    cases hdetails : value.find? "details" with
    | none => simp [Json.find?]
    | some details =>
      cases details with
      | object members =>
        simp only [Option.getD_some, hdropped, not_false_eq_true, ne_eq, true_implies]
        cases hcount : (Json.object members).find? "dropped_since_last" with
        | none =>
          have hlookup : members.lookup "dropped_since_last" = none := hcount
          simp [Json.value, hlookup]
        | some count =>
          rw [Json.value_of_find 0 hcount]
          simp only [Option.some.injEq, forall_eq', ← getCount_ok_iff]
          cases getCount count <;> simp
      | _ => simp [Json.find?]

theorem numberedDrops_congr {value : Json}
    (hevent : value.find? "event" = record.find? "event")
    (hcount : (payload .details value).find? "dropped_since_last" =
      (payload .details record).find? "dropped_since_last") :
    NumberedDrops value ↔ NumberedDrops record := by
  simp only [NumberedDrops, recordEvent, stringAt, hevent, hcount]

theorem numberedDrops_touched (hobject : record.isObject = true) (event : String) :
    NumberedDrops (touched event record) ↔ NumberedDrops record := by
  refine numberedDrops_congr (find?_touched_other event (by decide)) ?_
  rcases find?_touched_details hobject event with hsame | ⟨hnone, hnull⟩
  · simp only [payload, hsame]
  · simp only [payload, hnone, hnull, Option.getD_some, Option.getD_none]

theorem numberedDrops_changed (hobject : record.isObject = true) (kept : List Json) :
    NumberedDrops (changedBatch session place record kept) ↔ NumberedDrops record := by
  refine numberedDrops_congr (find?_changed kept (by decide) (by decide) (by decide)) ?_
  cases place with
  | record =>
    have hdetails : (changedBatch session .record record kept).find? "details" =
        record.find? "details" :=
      (Json.find?_set_other _ (by decide) _).trans (Json.find?_set_other _ (by decide) _)
    simp only [payload, hdetails]
  | details => exact find?_payload_changed hobject kept (by decide) (by decide)

/-! ## Redacted commands -/

theorem lookup_redactMembers (secrets : List String) (depth : ℕ) {key : String}
    (hkey : sensitive key = false) (members : List (String × Json)) :
    (redactMembers secrets depth members).lookup key =
      (members.lookup key).map (redact secrets depth) := by
  induction members with
  | nil => rfl
  | cons member members ih =>
    obtain ⟨name, value⟩ := member
    rw [redactMembers, List.lookup_cons, List.lookup_cons, ih]
    by_cases hname : key = name
    · subst hname
      simp [hkey]
    · simp [beq_eq_false_iff_ne.mpr hname]

theorem find?_redact (secrets : List String) {depth : ℕ} (hdepth : depth ≤ 64) {key : String}
    (hkey : sensitive key = false) (value : Json) :
    (redact secrets depth value).find? key =
      (value.find? key).map (redact secrets (depth + 1)) := by
  have hlimit : ¬64 < depth := by omega
  cases value with
  | object members =>
    simp only [redact, hlimit, if_false]
    exact lookup_redactMembers secrets (depth + 1) hkey members
  | _ => simp [redact, hlimit, Json.find?]

theorem redactElements_eq_map (secrets : List String) (depth : ℕ) (elements : List Json) :
    redactElements secrets depth elements = elements.map (redact secrets depth) := by
  induction elements with
  | nil => rfl
  | cons element elements ih => rw [redactElements, ih, List.map_cons]

theorem redact_array (secrets : List String) {depth : ℕ} (hdepth : depth ≤ 64)
    (elements : List Json) :
    redact secrets depth (.array elements) =
      .array (elements.map (redact secrets (depth + 1))) := by
  have hlimit : ¬64 < depth := by omega
  simp only [redact, hlimit, if_false, redactElements_eq_map]

theorem commands_changed (session : Session) (hobject : record.isObject = true)
    (hbatch : batchOf record = some (place, commands)) (kept : List Json) :
    (payload place (changedBatch session place record kept)).find? "commands" =
      some (.array kept) := by
  have hset := Json.find?_set_same (payload_object hbatch) "commands" (.array kept)
  cases place with
  | record => exact (Json.find?_set_other _ (by decide) _).trans hset
  | details =>
    have hdetails := Json.find?_set_same hobject "details"
    simp only [changedBatch, payload, withPayload, hdetails, Option.getD_some]
    exact (Json.find?_set_other _ (by decide) _).trans hset

theorem commandsAt_redact (hobject : record.isObject = true)
    (hbatch : batchOf record = some (place, commands)) (kept : List Json) :
    commandsAt place (redact secrets 0 (changedBatch session place record kept)) =
      some (kept.map (redact secrets place.depth)) := by
  have hcommands := commands_changed session hobject hbatch kept
  have hkey : sensitive "commands" = false := by decide
  unfold commandsAt
  cases place with
  | record =>
    have hfound : (payload .record
        (redact secrets 0 (changedBatch session .record record kept))).find? "commands" =
          some (.array (kept.map (redact secrets 2))) := by
      rw [payload, find?_redact secrets (by omega) hkey]
      rw [payload] at hcommands
      rw [hcommands, Option.map_some, redact_array secrets (by omega)]
    rw [hfound]
    rfl
  | details =>
    have hdetails : (changedBatch session .details record kept).find? "details" =
        some (payload .details (changedBatch session .details record kept)) := by
      rw [payload, changedBatch, withPayload, Json.find?_set_same hobject]
      rfl
    have hfound : (payload .details
        (redact secrets 0 (changedBatch session .details record kept))).find? "commands" =
          some (.array (kept.map (redact secrets 3))) := by
      rw [payload, find?_redact secrets (by omega) (by decide), hdetails, Option.map_some,
        Option.getD_some, find?_redact secrets (by omega) hkey, hcommands, Option.map_some,
        redact_array secrets (by omega)]
    rw [hfound]
    rfl

/-! ## What a record adds -/

theorem wanted_of_single (hbatch : batchOf record = none) :
    wanted formats session secrets source record = [] := by
  rw [wanted, hbatch]

theorem wanted_of_batch (hbatch : batchOf record = some (place, commands)) :
    wanted formats session secrets source record =
      (selected formats session source record).map (redact secrets place.depth) := by
  rw [wanted, hbatch]

/-- A record after the selection, as the rest of the loop takes it. -/
structure Selected (formats : Formats) (session : Session) (secrets : List String)
    (source : LogSource) (record : Json) (selection : Selection) : Prop where
  selects : selectTraceCommands formats session record = .ok selection
  object : selection.value.isObject = true
  event : TextEvent selection.value
  keeps : Keeps session source (recordTime formats record) selection ↔
    Passes formats session source record
  drops : NumberedDrops selection.value ↔ NumberedDrops record
  commands : Passes formats session source record →
    (Line.mk record (redact secrets 0 selection.value)).commands =
      wanted formats session secrets source record

theorem isObject_withPayload (place : Place) (value changed : Json)
    (hvalue : value.isObject = true) (hchanged : changed.isObject = true) :
    (withPayload place value changed).isObject = true := by
  cases place with
  | record => exact hchanged
  | details => exact (Json.isObject_set value _ _).trans hvalue

theorem selected_single (hobject : record.isObject = true) (hevent : TextEvent record)
    (hbatch : batchOf record = none) :
    Selected formats session secrets source record
      ⟨none, touched (recordEvent record) record⟩ := by
  have hsame : (touched (recordEvent record) record).find? "event" = record.find? "event" :=
    find?_touched_other _ (by decide)
  exact
    { selects := selectTraceCommands_single hobject hevent hbatch
      object := by
        unfold touched
        split
        · exact hobject
        · rename_i place hplace
          cases place with
          | record => exact hobject
          | details => exact (Json.isObject_set record _ _).trans hobject
      event := fun found hfound => hevent found (hsame ▸ hfound)
      keeps := keeps_iff_passes_single hobject hbatch
      drops := numberedDrops_touched hobject _
      commands := fun _ => by
        rw [wanted_of_single hbatch, Line.commands, hbatch] }

theorem selected_batch (hobject : record.isObject = true) (hevent : TextEvent record)
    (hbatch : batchOf record = some (place, commands)) :
    Selected formats session secrets source record
      ⟨some !(keptCommands formats session record commands).isEmpty,
        changedBatch session place record (keptCommands formats session record commands)⟩ := by
  have hsame : (changedBatch session place record
      (keptCommands formats session record commands)).find? "event" = record.find? "event" :=
    find?_changed _ (by decide) (by decide) (by decide)
  exact
    { selects := selectTraceCommands_batch hobject hevent hbatch
      object := by
        refine isObject_withPayload place record _ hobject ?_
        rw [Json.isObject_set, Json.isObject_set]
        exact payload_object hbatch
      event := fun found hfound => hevent found (hsame ▸ hfound)
      keeps := keeps_iff_passes_batch hobject hbatch
      drops := numberedDrops_changed hobject _
      commands := fun hpasses => by
        rw [wanted_of_batch hbatch, selected_of_batch hbatch hpasses.1 hpasses.2.1, Line.commands,
          hbatch]
        dsimp only
        rw [commandsAt_redact hobject hbatch]
        rfl }

theorem exists_selected (formats : Formats) (session : Session) (secrets : List String)
    (source : LogSource) (hobject : record.isObject = true) (hevent : TextEvent record) :
    ∃ selection, Selected formats session secrets source record selection := by
  cases hbatch : batchOf record with
  | none => exact ⟨_, selected_single hobject hevent hbatch⟩
  | some batch => exact ⟨_, selected_batch hobject hevent hbatch⟩

/-- The lines have the commands that are asked for, or the batch is mixed and they have none. -/
structure Adds (formats : Formats) (session : Session) (secrets : List String) (source : LogSource)
    (record : Json) (lines : List Line) : Prop where
  unmixed : Unmixed formats session source record →
    lines.flatMap Line.commands = wanted formats session secrets source record
  mixed : ¬Unmixed formats session source record → lines.flatMap Line.commands = []

theorem unmixed_of_passes (h : Passes formats session source record) :
    Unmixed formats session source record := by
  intro place commands hbatch _
  have hfits := h.2.2
  rw [hbatch] at hfits
  exact hfits.1

theorem wanted_of_not_passes (hnot : ¬Passes formats session source record)
    (hunmixed : Unmixed formats session source record) :
    wanted formats session secrets source record = [] := by
  cases hbatch : batchOf record with
  | none => exact wanted_of_single hbatch
  | some batch =>
    obtain ⟨place, commands⟩ := batch
    by_contra hwanted
    have hselected : selected formats session source record ≠ [] := by
      intro hnone
      rw [wanted_of_batch hbatch, hnone] at hwanted
      exact hwanted rfl
    have hpresent : recordTime formats record ≠ 0 ∧ ¬OtherService source session record := by
      rw [selected, hbatch] at hselected
      dsimp only at hselected
      split at hselected
      · exact absurd rfl hselected
      · rename_i hkept
        exact not_or.mp hkept
    refine hnot ⟨hpresent.1, hpresent.2, ?_⟩
    rw [hbatch]
    exact ⟨hunmixed place commands hbatch hselected, hselected⟩

theorem adds_nothing (hnot : ¬Passes formats session source record) :
    Adds formats session secrets source record [] :=
  { unmixed := fun hunmixed => (wanted_of_not_passes hnot hunmixed).symm
    mixed := fun _ => rfl }

/-- What a record that is read without an exception leaves of the progress. -/
structure RecordRead (formats : Formats) (session : Session) (secrets : List String)
    (source : LogSource) (record : Json) (progress progress' : Progress) : Prop where
  failed : progress'.failed = progress.failed
  limited : progress'.limited = false → progress.limited = false
  added : progress'.limited = false →
    ∃ lines, progress'.output = progress.output ++ lines ∧
      Adds formats session secrets source record lines

theorem textEvent_of_selected {selection : Selection}
    (h : selectTraceCommands formats session record = .ok selection) : TextEvent record := by
  obtain ⟨event, hevent, -⟩ := bind_eq_ok_iff.mp h
  exact event_string hevent

theorem writeLine_adds {progress noted : Progress} {written : Json} {drops : Bool}
    (hquiet : Quiet progress noted)
    (hadds : Adds formats session secrets source record [⟨record, written⟩]) :
    RecordRead formats session secrets source record progress
      (writeLine formats { noted with dropped := drops } record written) := by
  unfold writeLine
  dsimp only
  split
  · exact
      { failed := hquiet.failed
        limited := fun hlimited => nomatch hlimited
        added := fun hlimited => nomatch hlimited }
  · exact
      { failed := hquiet.failed
        limited := fun hlimited => hquiet.limited ▸ hlimited
        added := fun _ => ⟨[⟨record, written⟩], by simp [hquiet.output], hadds⟩ }

theorem readRecord_ok {progress progress' : Progress} (hobject : record.isObject = true)
    (h : readRecord formats session secrets source progress record = .ok progress') :
    Readable formats session source record ∧
      RecordRead formats session secrets source record progress progress' := by
  have hevent : TextEvent record := by
    obtain ⟨selection, hselect, -⟩ := bind_eq_ok_iff.mp h
    exact textEvent_of_selected hselect
  obtain ⟨selection, hselected⟩ :=
    exists_selected formats session secrets source hobject hevent
  by_cases hpasses : Passes formats session source record
  · obtain ⟨noted, hquiet, hkeeps⟩ :=
      readRecord_keeps secrets progress hselected.selects
        (hselected.keeps.mpr hpasses)
    obtain ⟨drops, hdrops, hwritten⟩ := bind_eq_ok_iff.mp (hkeeps.symm.trans h)
    have hread := (reportsDrops_ok_iff hselected.object hselected.event).mp ⟨drops, hdrops⟩
    have hadds : Adds formats session secrets source record
        [⟨record, redact secrets 0 selection.value⟩] :=
      { unmixed := fun _ => by simpa using hselected.commands hpasses
        mixed := fun hmixed => absurd (unmixed_of_passes hpasses) hmixed }
    refine ⟨⟨hevent, fun _ => hselected.drops.mp hread⟩, ?_⟩
    rw [← Except.ok.inj hwritten]
    exact writeLine_adds hquiet hadds
  · obtain ⟨skipped, hskips, hquiet⟩ :=
      readRecord_skips secrets progress hselected.selects
        fun hkeeps => hpasses (hselected.keeps.mp hkeeps)
    rw [hskips, Except.ok.injEq] at h
    subst h
    exact ⟨⟨hevent, fun hpasses' => absurd hpasses' hpasses⟩,
      { failed := hquiet.failed
        limited := fun hlimited => hquiet.limited ▸ hlimited
        added := fun _ => ⟨[], by simp [hquiet.output], adds_nothing hpasses⟩ }⟩

theorem readRecord_of_readable (secrets : List String) (progress : Progress)
    (hobject : record.isObject = true)
    (h : Readable formats session source record) :
    ∃ progress', readRecord formats session secrets source progress record = .ok progress' := by
  obtain ⟨selection, hselected⟩ :=
    exists_selected formats session secrets source hobject h.event
  by_cases hpasses : Passes formats session source record
  · obtain ⟨noted, -, hkeeps⟩ :=
      readRecord_keeps secrets progress hselected.selects
        (hselected.keeps.mpr hpasses)
    obtain ⟨drops, hdrops⟩ := (reportsDrops_ok_iff hselected.object hselected.event).mpr
      (hselected.drops.mpr (h.drops hpasses))
    rw [hkeeps, hdrops]
    exact ⟨_, rfl⟩
  · obtain ⟨progress', hskips, -⟩ :=
      readRecord_skips secrets progress hselected.selects
        fun hkeeps => hpasses (hselected.keeps.mp hkeeps)
    exact ⟨progress', hskips⟩

end

end MineTeleop.SessionLogs
