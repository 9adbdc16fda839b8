import MineTeleop.Library.Members
import MineTeleop.SessionLogs.Chunks
import MineTeleop.SessionLogs.Redaction

/-!
# Collecting the logs of a session

`collect_session_logs` of `session_logs.cpp`: from each log family the records of one session and
one window of time are written to a snapshot, redacted. A trace batch carries commands of several
sessions, so its commands are selected one by one before its own session is looked at.

What the libraries read and write is `Formats`. The order of the files of a family and the bytes
that were read to find it are given with the source, and nobody stops the collection.
-/

namespace MineTeleop.SessionLogs

open Documents

/-! ## Times -/

/-- What `std::get_time` reads of a text. -/
structure CalendarTime where
  year : ℤ
  month : ℕ
  day : ℕ
  hour : ℤ
  minute : ℤ
  second : ℤ

/-- What the libraries read and write: a line as a document, a document as a line, a time. -/
structure Formats where
  parse : String → Option Json
  dump : Json → String
  getTime : List UInt8 → Option CalendarTime

def daysOfMonth (year : ℤ) (month : ℕ) : ℕ :=
  if month = 2 then
    if year % 4 = 0 ∧ (year % 100 ≠ 0 ∨ year % 400 = 0) then 29 else 28
  else if month ∈ [4, 6, 9, 11] then 30
  else 31

def CalendarTime.Ok (time : CalendarTime) : Prop :=
  1 ≤ time.month ∧ time.month ≤ 12 ∧ 1 ≤ time.day ∧ time.day ≤ daysOfMonth time.year time.month

instance (time : CalendarTime) : Decidable time.Ok := inferInstanceAs (Decidable (_ ∧ _))

/-- Days since 1970-01-01; a year begins in March here, so that a leap day is its last one. -/
def CalendarTime.sysDays (time : CalendarTime) : ℤ :=
  let year := if time.month ≤ 2 then time.year - 1 else time.year
  let month : ℤ := if time.month ≤ 2 then time.month + 9 else time.month - 3
  365 * year + year / 4 - year / 100 + year / 400 + (153 * month + 2) / 5 + time.day - 719469

def isDigitByte (byte : UInt8) : Bool := 48 ≤ byte && byte ≤ 57

def digitValue (byte : UInt8) : ℤ := byte.toNat - 48

def fraction (bytes : List UInt8) : ℤ :=
  match bytes.drop 19 with
  | point :: a :: b :: c :: _ :: _ =>
    if point = 46 ∧ isDigitByte a ∧ isDigitByte b ∧ isDigitByte c then
      100 * digitValue a + 10 * digitValue b + digitValue c
    else 0
  | _ => 0

def isoTime (formats : Formats) (text : String) : ℤ :=
  let bytes := text.toList.flatMap String.utf8EncodeChar
  if bytes.length < 20 ∨ bytes.getLast? ≠ some 90 then 0
  else
    match formats.getTime (bytes.take 19) with
    | none => 0
    | some time =>
      if time.Ok then
        1000 * (86400 * time.sysDays + 3600 * time.hour + 60 * time.minute + time.second) +
          fraction bytes
      else 0

def integerAt (value : Json) (key : String) : Option ℤ :=
  match value.find? key with
  | some (.integer time) => some (time.bmod (2 ^ 64))
  | _ => none

def stringAt (value : Json) (key : String) : Option String :=
  match value.find? key with
  | some (.string text) => some text
  | _ => none

def recordTime (formats : Formats) (value : Json) : ℤ :=
  let keys := ["logged_at_utc_ms", "event_at_utc_ms", "sent_at_utc_ms", "received_at_utc_ms"]
  match keys.findSome? (integerAt value) with
  | some time => time
  | none =>
    match ["ts", "at"].findSome? (stringAt value) with
    | some text => isoTime formats text
    | none => 0

/-! ## Sessions -/

structure Session where
  sessionId : String
  startedAtUtcMs : ℤ
  endedAtUtcMs : ℤ
  serviceInstanceId : Json
  named : sessionId ≠ ""

def Session.windowStart (session : Session) : ℤ := session.startedAtUtcMs - 2000

def Session.windowEnd (session : Session) : ℤ := session.endedAtUtcMs + 2000

def Session.InWindow (session : Session) (time : ℤ) : Prop :=
  time ≠ 0 ∧ session.windowStart ≤ time ∧ time ≤ session.windowEnd

instance (session : Session) (time : ℤ) : Decidable (session.InWindow time) :=
  inferInstanceAs (Decidable (_ ∧ _))

/-- A text that names something. -/
def nameAt (value : Json) (key : String) : Option String :=
  match stringAt value key with
  | some text => if text = "" then none else some text
  | none => none

def namedSession (value : Json) : Option String :=
  ["session_id", "trace_session_id"].findSome? (nameAt value)

mutual

def recordSession : Json → String
  | .object members =>
    match namedSession (.object members) with
    | some id => id
    | none => detailsSession members
  | _ => ""

def detailsSession : List (String × Json) → String
  | [] => ""
  | (key, value) :: members =>
    if key = "details" then recordSession value else detailsSession members

end

/-! ## Trace batches -/

/-- Where a batch has its commands: in the record or in its details. -/
inductive Place where
  | record
  | details
  deriving DecidableEq

def batchPlace (event : String) : Option Place :=
  if event = "cloud_native_control_trace_batch" ∨ event = "driver_native_control_trace_batch" then
    some .details
  else if event = "vehicle_control_trace_batch" then some .record
  else none

def payload (place : Place) (value : Json) : Json :=
  match place with
  | .record => value
  | .details => (value.find? "details").getD .null

def withPayload (place : Place) (value changed : Json) : Json :=
  match place with
  | .record => changed
  | .details => value.set "details" changed

def commandsAt (place : Place) (value : Json) : Option (List Json) :=
  match (payload place value).find? "commands" with
  | some (.array commands) => some commands
  | _ => none

/-- `value["details"]` makes the member where it is absent. -/
def touched (event : String) (value : Json) : Json :=
  match batchPlace event with
  | none => value
  | some place => withPayload place value (payload place value)

/-- The commands of a batch, and where they are. -/
def traceBatch (event : String) (value : Json) : Option (Place × List Json) :=
  match batchPlace event with
  | none => none
  | some place => (commandsAt place value).map fun commands => (place, commands)

def commandTime (formats : Formats) (value command : Json) : ℤ :=
  let time := recordTime formats command
  let time := if time = 0 then (integerAt command "command_sent_at_utc_ms").getD 0 else time
  if time = 0 then recordTime formats value else time

/-- The command is not erased. -/
def Selects (formats : Formats) (session : Session) (value command : Json) : Prop :=
  recordSession command = session.sessionId ∧ session.InWindow (commandTime formats value command)

instance (formats : Formats) (session : Session) (value command : Json) :
    Decidable (Selects formats session value command) :=
  inferInstanceAs (Decidable (_ ∧ _))

structure Selection where
  batch : Option Bool
  value : Json

def selectTraceCommands (formats : Formats) (session : Session) (value : Json) :
    Except String Selection := do
  let event ← value.value "event" Json.getString ""
  match traceBatch event value with
  | none => .ok ⟨none, touched event value⟩
  | some (place, commands) =>
    let kept := commands.filter fun command => Selects formats session value command
    let id := if kept.isEmpty then "" else session.sessionId
    let changed := ((payload place value).set "commands" (.array kept)).set "trace_session_id"
      (.string id)
    .ok ⟨some !kept.isEmpty, withPayload place value changed⟩

/-! ## The lines of a log -/

structure LogFile where
  name : String
  lines : Option (List String)

structure LogSource where
  name : String
  requireSessionId : Bool
  optional : Bool
  files : List LogFile
  probeBytes : ℕ

/-- A line of the snapshot, and the record that it comes from. -/
structure Line where
  record : Json
  written : Json

structure Progress where
  scanned : ℕ
  written : ℕ
  unscoped : ℕ
  unattributed : ℕ
  first : ℤ
  last : ℤ
  limited : Bool
  failed : Bool
  dropped : Bool
  sourceFiles : List String
  output : List Line

def Progress.start (probeBytes : ℕ) : Progress :=
  ⟨probeBytes, 0, 0, 0, 0, 0, false, false, false, [], []⟩

def scanLimit : ℕ := 512 * 1024 * 1024

def lineBuffer : ℕ := 1024 * 1024

def Progress.note (progress : Progress) (time : ℤ) : Progress :=
  if time = 0 then progress
  else
    { progress with
      first := if progress.first = 0 ∨ time < progress.first then time else progress.first
      last := max progress.last time }

/-- The record is of another run of the service, whose sessions have the same ids. -/
def OtherService (source : LogSource) (session : Session) (value : Json) : Prop :=
  source.requireSessionId = true ∧ value.contains "service_instance_id" = true ∧
    value.find? "service_instance_id" ≠ some session.serviceInstanceId

instance (source : LogSource) (session : Session) (value : Json) :
    Decidable (OtherService source session value) :=
  inferInstanceAs (Decidable (_ ∧ _))

/-- `value("dropped_since_last", 0LL)`, which takes a boolean for a number. -/
def getCount : Json → Except String ℤ
  | .boolean value => .ok (if value then 1 else 0)
  | json => json.getInt64

def reportsDrops (value : Json) : Except String Bool := do
  let event ← value.value "event" Json.getString ""
  if event = "desktop_log_dropped" then .ok true
  else
    match value.find? "details" with
    | some (.object details) => do
      let count ← (Json.object details).value "dropped_since_last" getCount 0
      .ok (decide (0 < count))
    | _ => .ok false

def writeLine (formats : Formats) (progress : Progress) (record value : Json) : Progress :=
  let size := (formats.dump value).utf8ByteSize + 1
  if fileLimit < progress.written + size then { progress with limited := true }
  else
    { progress with
      written := progress.written + size
      output := progress.output ++ [⟨record, value⟩] }

def readRecord (formats : Formats) (session : Session) (secrets : List String) (source : LogSource)
    (progress : Progress) (record : Json) : Except String Progress := do
  let time := recordTime formats record
  let selection ← selectTraceCommands formats session record
  let value := selection.value
  let id := recordSession value
  let progress := progress.note time
  if selection.batch = some false then .ok progress
  else if id ≠ "" ∧ id ≠ session.sessionId then .ok progress
  else if selection.batch = none ∧ time ≠ 0 ∧
      (time < session.windowStart ∨ session.windowEnd < time) then .ok progress
  else if time = 0 then .ok { progress with unattributed := progress.unattributed + 1 }
  else if source.requireSessionId = true ∧ id ≠ session.sessionId then .ok progress
  else
    let progress :=
      if id = "" then { progress with unscoped := progress.unscoped + 1 } else progress
    if OtherService source session value then .ok progress
    else
      let drops ← reportsDrops value
      let progress := { progress with dropped := progress.dropped || drops }
      .ok (writeLine formats progress record (redact secrets 0 value))

/-- A line is a C string. -/
def cString (line : String) : String := String.ofList (line.toList.takeWhile (· ≠ '\x00'))

def readLine (formats : Formats) (session : Session) (secrets : List String) (source : LogSource)
    (progress : Progress) (line : String) : Except String Progress :=
  let scanned := progress.scanned + (cString line).utf8ByteSize + 1
  let progress := { progress with scanned := scanned }
  if scanLimit < scanned then .ok { progress with limited := true }
  else
    match formats.parse (cString line) with
    | some (.object members) =>
      readRecord formats session secrets source progress (.object members)
    | _ => .ok { progress with unattributed := progress.unattributed + 1 }

def readLines (formats : Formats) (session : Session) (secrets : List String) (source : LogSource)
    (progress : Progress) : List String → Except String Progress
  | [] => .ok progress
  | line :: lines => do
    if lineBuffer ≤ line.utf8ByteSize then .ok { progress with failed := true }
    else
      let progress ← readLine formats session secrets source progress line
      if progress.limited then .ok progress
      else readLines formats session secrets source progress lines

def readFiles (formats : Formats) (session : Session) (secrets : List String) (source : LogSource)
    (progress : Progress) : List LogFile → Except String Progress
  | [] => .ok progress
  | file :: files => do
    let progress := { progress with sourceFiles := progress.sourceFiles ++ [file.name] }
    match file.lines with
    | none => readFiles formats session secrets source { progress with failed := true } files
    | some lines =>
      let progress ← readLines formats session secrets source progress lines
      if progress.limited then .ok progress
      else readFiles formats session secrets source progress files

def collectSource (formats : Formats) (session : Session) (secrets : List String)
    (source : LogSource) : Except String Progress :=
  readFiles formats session secrets source (.start source.probeBytes) source.files

/-! ## The manifest -/

/-- What is left out is stated. -/
def issues (session : Session) (source : LogSource) (progress : Progress) : List String :=
  let found := [
    (decide (source.files = [] ∧ source.optional = false), "log_missing_or_disabled"),
    (progress.limited, "size_or_scan_limit"),
    (progress.failed, "read_error_or_overlong_line"),
    (decide (0 < progress.unattributed), "records_without_UTC_timestamp"),
    (decide (progress.written = 0 ∧ source.optional = false), "no_matching_records"),
    (decide (session.startedAtUtcMs < progress.first), "start_not_covered_possible_rotation"),
    (decide (progress.last ≠ 0 ∧ progress.last + 2000 < session.endedAtUtcMs),
      "end_not_covered_possible_logging_gap"),
    (progress.dropped, "source_reported_log_queue_drops")]
  (found.filter Prod.fst).map Prod.snd

def report (session : Session) (source : LogSource) (progress : Progress) : Json :=
  let found := issues session source progress
  .object [("bytes", .integer progress.written),
    ("first_available_utc_ms", .integer progress.first),
    ("issues", .array (found.map .string)),
    ("last_available_utc_ms", .integer progress.last),
    ("name", .string source.name),
    ("optional", .boolean source.optional),
    ("probe_bytes", .integer source.probeBytes),
    ("scan_order", .string "UTC-window candidates, unknown ranges, other rotations"),
    ("source_files", .array (progress.sourceFiles.map .string)),
    ("status", .string (if found = [] then "available" else "partial")),
    ("unattributed_lines", .integer progress.unattributed),
    ("unscoped_records", .integer progress.unscoped)]

/-- The snapshot of one source. -/
structure Snapshot where
  source : LogSource
  progress : Progress

def collectSources (formats : Formats) (session : Session) (secrets : List String) :
    List LogSource → Except String (List Snapshot)
  | [] => .ok []
  | source :: sources => do
    require (safeName source.name = true) "invalid log source name"
    let progress ← collectSource formats session secrets source
    let snapshots ← collectSources formats session secrets sources
    .ok (⟨source, progress⟩ :: snapshots)

def manifest (session : Session) (snapshots : List Snapshot) : Json :=
  let complete := snapshots.all fun s => (issues session s.source s.progress).isEmpty
  .object [("file_limit_bytes", .integer fileLimit),
    ("files", .array (snapshots.map fun s => report session s.source s.progress)),
    ("redacted", .boolean true),
    ("selection", .string "session_id and UTC window; unscoped records use UTC window"),
    ("status", .string (if complete then "available" else "partial")),
    ("window_end_utc_ms", .integer session.windowEnd),
    ("window_start_utc_ms", .integer session.windowStart)]

/-- The manifest, and the snapshots that are written for it. -/
def collectSessionLogs (formats : Formats) (session : Session) (secrets : List String)
    (sources : List LogSource) : Except String (Json × List Snapshot) := do
  let snapshots ← collectSources formats session secrets sources
  .ok (manifest session snapshots, snapshots)

end MineTeleop.SessionLogs
