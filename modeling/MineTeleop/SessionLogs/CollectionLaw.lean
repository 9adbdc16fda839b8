import MineTeleop.SessionLogs.CollectedRecords

/-!
# Which commands a collected log has

Proved here, for any sources, any session and any formats:

* `readLines_ok`, `readFiles_ok`: every record of a family is read, and adds its own lines;
* `commands_eq_iff`: no command is missing exactly where no batch is mixed;
* `trace_collection_law`: the snapshots have the commands of the session in the window exactly where
  every batch with such commands names that session or none.
-/

namespace MineTeleop.SessionLogs

open Documents

section
variable {formats : Formats} {session : Session} {secrets : List String} {source : LogSource}
variable {record : Json}

/-! ## The lines of a family -/

/-- The record in a line. -/
def recordOf (formats : Formats) (line : String) : Option Json :=
  match formats.parse (cString line) with
  | some (.object members) => some (.object members)
  | _ => none

theorem recordOf_object {line : String} (h : recordOf formats line = some record) :
    record.isObject = true := by
  unfold recordOf at h
  split at h
  · rw [← Option.some.inj h]
    rfl
  · exact nomatch h

def LogFile.records (formats : Formats) (file : LogFile) : List Json :=
  (file.lines.getD []).filterMap (recordOf formats)

def LogSource.records (formats : Formats) (source : LogSource) : List Json :=
  source.files.flatMap (LogFile.records formats)

/-- The records are read one after the other, and each adds its lines. -/
structure RecordsRead (formats : Formats) (session : Session) (secrets : List String)
    (source : LogSource) (records : List Json) (progress progress' : Progress) : Prop where
  limited : progress.limited = false
  failed : progress.failed = false
  readable : ∀ record ∈ records, Readable formats session source record
  added : ∃ parts, List.Forall₂ (Adds formats session secrets source) records parts ∧
    progress'.output = progress.output ++ parts.flatten

theorem RecordsRead.nil {progress : Progress} (hlimited : progress.limited = false)
    (hfailed : progress.failed = false) :
    RecordsRead formats session secrets source [] progress progress :=
  { limited := hlimited
    failed := hfailed
    readable := by simp
    added := ⟨[], .nil, by simp⟩ }

theorem RecordsRead.append {progress progress' progress'' : Progress} {first second : List Json}
    (hfirst : RecordsRead formats session secrets source first progress progress')
    (hsecond : RecordsRead formats session secrets source second progress' progress'') :
    RecordsRead formats session secrets source (first ++ second) progress progress'' := by
  obtain ⟨parts, hparts, hout⟩ := hfirst.added
  obtain ⟨more, hmore, hout'⟩ := hsecond.added
  exact
    { limited := hfirst.limited
      failed := hfirst.failed
      readable := fun record hmem => by
        rcases List.mem_append.mp hmem with hin | hin
        · exact hfirst.readable record hin
        · exact hsecond.readable record hin
      added := ⟨parts ++ more, List.rel_append hparts hmore, by
        rw [hout', hout, List.flatten_append, List.append_assoc]⟩ }

def Progress.scan (progress : Progress) (line : String) : Progress :=
  { progress with scanned := progress.scanned + (cString line).utf8ByteSize + 1 }

theorem readLine_eq (progress : Progress) (line : String) :
    readLine formats session secrets source progress line =
      if scanLimit < (progress.scan line).scanned then
        .ok { progress.scan line with limited := true }
      else
        match recordOf formats line with
        | some record => readRecord formats session secrets source (progress.scan line) record
        | none =>
          .ok { progress.scan line with unattributed := progress.unattributed + 1 } := by
  unfold readLine recordOf
  by_cases hscan : scanLimit < (progress.scan line).scanned
  · rw [if_pos hscan]
    exact if_pos hscan
  · rw [if_neg hscan]
    refine (if_neg hscan).trans ?_
    cases formats.parse (cString line) with
    | none => rfl
    | some value => cases value <;> rfl

theorem readLine_ok {progress progress' : Progress} {line : String}
    (h : readLine formats session secrets source progress line = .ok progress')
    (hlimited : progress'.limited = false) (hfailed : progress'.failed = false) :
    RecordsRead formats session secrets source (recordOf formats line).toList progress
      progress' := by
  rw [readLine_eq] at h
  split at h
  · rw [← Except.ok.inj h] at hlimited
    exact nomatch hlimited
  · cases hrecord : recordOf formats line with
    | some record =>
      rw [hrecord] at h
      obtain ⟨hreadable, hread⟩ := readRecord_ok (recordOf_object hrecord) h
      obtain ⟨lines, hout, hadds⟩ := hread.added hlimited
      exact
        { limited := hread.limited hlimited
          failed := hread.failed ▸ hfailed
          readable := by simpa using hreadable
          added := ⟨[lines], by simpa using hadds, by simpa [Progress.scan] using hout⟩ }
    | none =>
      rw [hrecord] at h
      rw [← Except.ok.inj h] at hlimited hfailed ⊢
      exact
        { limited := hlimited
          failed := hfailed
          readable := by simp
          added := ⟨[], .nil, by simp [Progress.scan]⟩ }

theorem readLine_of_readable (secrets : List String) (progress : Progress) (line : String)
    (h : ∀ record ∈ recordOf formats line, Readable formats session source record) :
    ∃ progress', readLine formats session secrets source progress line = .ok progress' := by
  rw [readLine_eq]
  split
  · exact ⟨_, rfl⟩
  · cases hrecord : recordOf formats line with
    | some record =>
      exact readRecord_of_readable secrets _ (recordOf_object hrecord) (h record hrecord)
    | none => exact ⟨_, rfl⟩

theorem readLines_ok {progress' : Progress} (lines : List String) :
    ∀ progress, readLines formats session secrets source progress lines = .ok progress' →
      progress'.limited = false → progress'.failed = false →
      RecordsRead formats session secrets source (lines.filterMap (recordOf formats))
        progress progress' := by
  induction lines with
  | nil =>
    intro progress h hlimited hfailed
    obtain rfl := Except.ok.inj h
    exact .nil hlimited hfailed
  | cons line lines ih =>
    intro progress h hlimited hfailed
    rw [readLines] at h
    split at h
    · rw [← Except.ok.inj h] at hfailed
      exact nomatch hfailed
    · obtain ⟨between, hline, hrest⟩ := bind_eq_ok_iff.mp h
      split at hrest
      · rename_i hstopped
        obtain rfl := Except.ok.inj hrest
        exact absurd hstopped (by simp [hlimited])
      · have hread := ih between hrest hlimited hfailed
        have hfirst := readLine_ok hline hread.limited hread.failed
        have hsplit : (line :: lines).filterMap (recordOf formats) =
            (recordOf formats line).toList ++ lines.filterMap (recordOf formats) := by
          rw [List.filterMap_cons]
          cases recordOf formats line <;> rfl
        rw [hsplit]
        exact hfirst.append hread

theorem readLines_of_readable (secrets : List String) (lines : List String) :
    (∀ record ∈ lines.filterMap (recordOf formats), Readable formats session source record) →
      ∀ progress, ∃ progress', readLines formats session secrets source progress lines =
        .ok progress' := by
  induction lines with
  | nil => exact fun _ progress => ⟨progress, rfl⟩
  | cons line lines ih =>
    intro h progress
    rw [readLines]
    split
    · exact ⟨_, rfl⟩
    · have hline : ∀ record ∈ recordOf formats line, Readable formats session source record :=
        fun record hrecord => h record (List.mem_filterMap.mpr ⟨line, List.mem_cons_self, hrecord⟩)
      obtain ⟨between, hbetween⟩ := readLine_of_readable secrets progress line hline
      rw [hbetween]
      dsimp only [bind, Except.bind]
      split
      · exact ⟨_, rfl⟩
      · refine ih (fun record hrecord => h record ?_) between
        obtain ⟨later, hin, hlater⟩ := List.mem_filterMap.mp hrecord
        exact List.mem_filterMap.mpr ⟨later, List.mem_cons_of_mem _ hin, hlater⟩

theorem readFiles_ok {progress' : Progress} (files : List LogFile) :
    ∀ progress, readFiles formats session secrets source progress files = .ok progress' →
      progress'.limited = false → progress'.failed = false →
      RecordsRead formats session secrets source (files.flatMap (LogFile.records formats))
        progress progress' := by
  induction files with
  | nil =>
    intro progress h hlimited hfailed
    obtain rfl := Except.ok.inj h
    exact .nil hlimited hfailed
  | cons file files ih =>
    intro progress h hlimited hfailed
    rw [readFiles] at h
    rw [List.flatMap_cons, LogFile.records]
    cases hlines : file.lines with
    | none =>
      rw [hlines] at h
      have hread := ih _ h hlimited hfailed
      exact absurd hread.failed (by simp)
    | some lines =>
      rw [hlines] at h
      obtain ⟨between, hfile, hrest⟩ := bind_eq_ok_iff.mp h
      split at hrest
      · rename_i hstopped
        obtain rfl := Except.ok.inj hrest
        exact absurd hstopped (by simp [hlimited])
      · have hread := ih between hrest hlimited hfailed
        have hfirst := readLines_ok lines _ hfile hread.limited hread.failed
        have hnamed : RecordsRead formats session secrets source
            (lines.filterMap (recordOf formats)) progress between :=
          { limited := hfirst.limited
            failed := hfirst.failed
            readable := hfirst.readable
            added := hfirst.added }
        exact hnamed.append hread

theorem readFiles_of_readable (secrets : List String) (files : List LogFile) :
    (∀ record ∈ files.flatMap (LogFile.records formats),
        Readable formats session source record) →
      ∀ progress, ∃ progress', readFiles formats session secrets source progress files =
        .ok progress' := by
  induction files with
  | nil => exact fun _ progress => ⟨progress, rfl⟩
  | cons file files ih =>
    intro h progress
    have hlater : ∀ record ∈ files.flatMap (LogFile.records formats),
        Readable formats session source record := fun record hrecord =>
      h record (by rw [List.flatMap_cons]; exact List.mem_append_right _ hrecord)
    rw [readFiles]
    cases hlines : file.lines with
    | none => exact ih hlater _
    | some lines =>
      have hhere : ∀ record ∈ lines.filterMap (recordOf formats),
          Readable formats session source record := fun record hrecord => h record (by
        rw [List.flatMap_cons, LogFile.records, hlines]
        exact List.mem_append_left _ hrecord)
      obtain ⟨between, hbetween⟩ := readLines_of_readable secrets lines hhere
        { progress with sourceFiles := progress.sourceFiles ++ [file.name] }
      dsimp only
      rw [hbetween]
      dsimp only [bind, Except.bind]
      split
      · exact ⟨_, rfl⟩
      · exact ih hlater between

/-! ## Commands of a whole log -/

theorem unmixed_of_wanted_nil (h : wanted formats session secrets source record = []) :
    Unmixed formats session source record := by
  intro place commands hbatch hselected
  rw [wanted_of_batch hbatch, List.map_eq_nil_iff] at h
  exact absurd h hselected

theorem Adds.length_le {lines : List Line}
    (h : Adds formats session secrets source record lines) :
    (lines.flatMap Line.commands).length ≤
      (wanted formats session secrets source record).length := by
  by_cases hunmixed : Unmixed formats session source record
  · rw [h.unmixed hunmixed]
  · rw [h.mixed hunmixed]
    exact Nat.zero_le _

theorem length_commands_le {records : List Json} {parts : List (List Line)}
    (h : List.Forall₂ (Adds formats session secrets source) records parts) :
    (parts.flatten.flatMap Line.commands).length ≤
      (records.flatMap (wanted formats session secrets source)).length := by
  induction h with
  | nil => exact le_rfl
  | cons hadds _ ih =>
    have hle := hadds.length_le
    simp only [List.flatten_cons, List.flatMap_append, List.flatMap_cons, List.length_append]
    omega

/-- Nothing is missing exactly where no batch is mixed. -/
theorem commands_eq_iff {records : List Json} {parts : List (List Line)}
    (h : List.Forall₂ (Adds formats session secrets source) records parts) :
    parts.flatten.flatMap Line.commands =
        records.flatMap (wanted formats session secrets source) ↔
      ∀ record ∈ records, Unmixed formats session source record := by
  induction h with
  | nil => simp
  | @cons record lines records parts hadds hrest ih =>
    rw [List.flatten_cons, List.flatMap_append, List.flatMap_cons, List.forall_mem_cons, ← ih]
    constructor
    · intro hsame
      by_cases hunmixed : Unmixed formats session source record
      · rw [hadds.unmixed hunmixed] at hsame
        exact ⟨hunmixed, List.append_cancel_left hsame⟩
      · rw [hadds.mixed hunmixed, List.nil_append] at hsame
        have hle := length_commands_le hrest
        have hlength := congrArg List.length hsame
        rw [List.length_append] at hlength
        have hnil : wanted formats session secrets source record = [] :=
          List.eq_nil_of_length_eq_zero (by omega)
        exact absurd (unmixed_of_wanted_nil hnil) hunmixed
    · rintro ⟨hunmixed, hsame⟩
      rw [hadds.unmixed hunmixed, hsame]

/-- The lines and the files of the source are within the limits of the collection. -/
def WithinLimits (formats : Formats) (session : Session) (secrets : List String)
    (source : LogSource) : Prop :=
  ∀ progress, collectSource formats session secrets source = .ok progress →
    progress.limited = false ∧ progress.failed = false

def Progress.commands (progress : Progress) : List Json := progress.output.flatMap Line.commands

/-- All commands of the batches of the source that are asked for. -/
def LogSource.wanted (formats : Formats) (session : Session) (secrets : List String)
    (source : LogSource) : List Json :=
  (source.records formats).flatMap (SessionLogs.wanted formats session secrets source)

/-- What the collection of a source relies on. -/
def Collectable (formats : Formats) (session : Session) (source : LogSource) : Prop :=
  ∀ record ∈ source.records formats,
    Readable formats session source record ∧ Unmixed formats session source record

theorem collectSource_ok (hlimits : WithinLimits formats session secrets source)
    {progress : Progress} (h : collectSource formats session secrets source = .ok progress) :
    progress.commands = source.wanted formats session secrets ↔
      Collectable formats session source := by
  obtain ⟨hlimited, hfailed⟩ := hlimits progress h
  have hread := readFiles_ok source.files _ h hlimited hfailed
  obtain ⟨parts, hparts, hout⟩ := hread.added
  have hcommands : progress.commands = parts.flatten.flatMap Line.commands := by
    rw [Progress.commands, hout]
    rfl
  rw [hcommands, LogSource.wanted, LogSource.records, commands_eq_iff hparts]
  exact ⟨fun h record hin => ⟨hread.readable record hin, h record hin⟩,
    fun h record hin => (h record hin).2⟩

theorem collectSource_of_collectable (secrets : List String)
    (h : Collectable formats session source) :
    ∃ progress, collectSource formats session secrets source = .ok progress :=
  readFiles_of_readable secrets source.files (fun record hin => (h record hin).1) _

theorem collectSources_iff (sources : List LogSource)
    (hnames : ∀ source ∈ sources, safeName source.name = true)
    (hlimits : ∀ source ∈ sources, WithinLimits formats session secrets source) :
    (∃ snapshots, collectSources formats session secrets sources = .ok snapshots ∧
        snapshots.map (fun s => s.progress.commands) =
          sources.map (LogSource.wanted formats session secrets)) ↔
      ∀ source ∈ sources, Collectable formats session source := by
  induction sources with
  | nil => exact ⟨by simp, fun _ => ⟨[], rfl, rfl⟩⟩
  | cons source sources ih =>
    have hrest := ih (fun s hs => hnames s (List.mem_cons_of_mem _ hs))
      fun s hs => hlimits s (List.mem_cons_of_mem _ hs)
    have hhere := hlimits source List.mem_cons_self
    have hname := hnames source List.mem_cons_self
    rw [List.forall_mem_cons, ← hrest]
    constructor
    · rintro ⟨snapshots, hcollected, hsame⟩
      simp only [collectSources, bind_eq_ok_iff] at hcollected
      obtain ⟨_, _, progress, hprogress, rest, hrestok, hsnapshots⟩ := hcollected
      rw [← Except.ok.inj hsnapshots, List.map_cons, List.map_cons] at hsame
      obtain ⟨hfirst, hlater⟩ := List.cons.inj hsame
      exact ⟨(collectSource_ok hhere hprogress).mp hfirst, rest, hrestok, hlater⟩
    · rintro ⟨hcollectable, rest, hrestok, hlater⟩
      obtain ⟨progress, hprogress⟩ := collectSource_of_collectable secrets hcollectable
      refine ⟨⟨source, progress⟩ :: rest, ?_, ?_⟩
      · simp only [collectSources, bind_eq_ok_iff]
        exact ⟨(), require_pass hname _, progress, hprogress, rest, hrestok, rfl⟩
      · rw [List.map_cons, List.map_cons, hlater]
        exact congrArg (· :: _) ((collectSource_ok hhere hprogress).mpr hcollectable)

/-- The snapshots have the commands that are asked for exactly where every record can be read and no
batch that has some of them names another session. -/
theorem trace_collection_law (formats : Formats) (session : Session) (secrets : List String)
    (sources : List LogSource) (hnames : ∀ source ∈ sources, safeName source.name = true)
    (hlimits : ∀ source ∈ sources, WithinLimits formats session secrets source) :
    (∃ manifest snapshots,
        collectSessionLogs formats session secrets sources = .ok (manifest, snapshots) ∧
          snapshots.map (fun s => s.progress.commands) =
            sources.map (LogSource.wanted formats session secrets)) ↔
      ∀ source ∈ sources, Collectable formats session source := by
  rw [← collectSources_iff sources hnames hlimits]
  constructor
  · rintro ⟨written, snapshots, hcollected, hsame⟩
    obtain ⟨found, hfound, hpair⟩ := bind_eq_ok_iff.mp hcollected
    obtain ⟨-, rfl⟩ := Prod.mk.inj (Except.ok.inj hpair)
    exact ⟨found, hfound, hsame⟩
  · rintro ⟨snapshots, hcollected, hsame⟩
    exact ⟨_, snapshots, bind_eq_ok_iff.mpr ⟨snapshots, hcollected, rfl⟩, hsame⟩

end

/-! ## A batch of two sessions -/

section
variable (formats : Formats) (session : Session) (secrets : List String) (source : LogSource)

theorem withinLimits_iff :
    WithinLimits formats session secrets source ↔
      (collectSource formats session secrets source).toOption.all
        (fun progress => !progress.limited && !progress.failed) = true := by
  unfold WithinLimits
  cases collectSource formats session secrets source with
  | ok progress => simp [Except.toOption]
  | error what => simp [Except.toOption]

instance : Decidable (WithinLimits formats session secrets source) :=
  decidable_of_iff _ (withinLimits_iff formats session secrets source).symm

end

def loggedSession : Session where
  sessionId := "session-000001"
  startedAtUtcMs := 1790000000000
  endedAtUtcMs := 1790000060000
  serviceInstanceId := .string "service-a"
  named := by decide

def benchCommand (id marker : String) : Json :=
  .object [("trace_session_id", .string id), ("command_sent_at_utc_ms", .integer 1790000030000),
    ("marker", .string marker)]

/-- The driver's batch after a reconnect, its header taken from its first command. -/
def driverBatch : Json :=
  .object [("event", .string "driver_native_control_trace_batch"),
    ("sent_at_utc_ms", .integer 1790000030500), ("driver_id", .string "driver"),
    ("vehicle_id", .string "vehicle"), ("session_id", .string "session-000002"),
    ("details", .object [("commands",
      .array [benchCommand "session-000002" "other", benchCommand "session-000001" "wanted"])])]

def vehicleBatch : Json :=
  .object [("event", .string "vehicle_control_trace_batch"),
    ("event_at_utc_ms", .integer 1790000030500),
    ("commands",
      .array [benchCommand "session-000002" "other", benchCommand "session-000001" "wanted"])]

mutual

/-- The text of a document without characters to escape and without fractions. -/
def dumped : Json → List Char
  | .null => "null".toList
  | .boolean value => if value then "true".toList else "false".toList
  | .integer value => (toString value).toList
  | .number value => (toString value.num).toList
  | .string text => '"' :: (text.toList ++ ['"'])
  | .array elements => '[' :: (dumpedElements elements ++ [']'])
  | .object members => '\x7b' :: (dumpedMembers members ++ ['\x7d'])

def dumpedElements : List Json → List Char
  | [] => []
  | [element] => dumped element
  | element :: elements => dumped element ++ ',' :: dumpedElements elements

def dumpedMembers : List (String × Json) → List Char
  | [] => []
  | [(key, value)] => '"' :: (key.toList ++ '"' :: ':' :: dumped value)
  | (key, value) :: members =>
    '"' :: (key.toList ++ '"' :: ':' :: (dumped value ++ ',' :: dumpedMembers members))

end

def dump (value : Json) : String := String.ofList (dumped value)

/-- The libraries on the lines of these batches. -/
def benchFormats : Formats where
  parse line :=
    if line = dump driverBatch then some driverBatch
    else if line = dump vehicleBatch then some vehicleBatch
    else none
  dump := dump
  getTime _ := none

/-- A source whose log has one line. -/
def oneLine (name : String) (value : Json) : LogSource :=
  ⟨name, false, false, [⟨name, some [dump value]⟩], 0⟩

theorem cString_ofList {text : List Char} (h : text.all (· ≠ '\x00') = true) :
    cString (String.ofList text) = String.ofList text := by
  have hall : text.takeWhile (· ≠ '\x00') = text :=
    List.takeWhile_eq_self_iff.mpr (List.all_eq_true.mp h)
  rw [cString, String.toList_ofList, hall]

/-- The text is a line that is read whole. -/
def Plain (text : List Char) : Prop :=
  text.all (· ≠ '\x00') = true ∧ (text.map Char.utf8Size).sum < 1000

instance (text : List Char) : Decidable (Plain text) := inferInstanceAs (Decidable (_ ∧ _))

theorem recordOf_dump {value : Json} (hplain : Plain (dumped value))
    (hparse : benchFormats.parse (dump value) = some value) (hobject : value.isObject = true) :
    recordOf benchFormats (dump value) = some value := by
  have hline : cString (dump value) = dump value := cString_ofList hplain.1
  unfold recordOf
  rw [hline, hparse]
  cases value with
  | object members => rfl
  | _ => exact nomatch hobject

theorem collectSource_oneLine (name : String) {value : Json} (hplain : Plain (dumped value))
    (hparse : benchFormats.parse (dump value) = some value) (hobject : value.isObject = true) :
    collectSource benchFormats loggedSession [] (oneLine name value) =
      readRecord benchFormats loggedSession [] (oneLine name value)
        (({ Progress.start 0 with sourceFiles := [name] }).scan (dump value)) value := by
  have hline : cString (dump value) = dump value := cString_ofList hplain.1
  have hsize : (dump value).utf8ByteSize < 1000 := by
    rw [dump, utf8ByteSize_ofList]
    exact hplain.2
  have hrecord := recordOf_dump hplain hparse hobject
  have hbuffer : ¬lineBuffer ≤ (dump value).utf8ByteSize := by
    simp only [lineBuffer]
    omega
  have hscan : ¬scanLimit <
      (({ Progress.start 0 with sourceFiles := [name] } : Progress).scan (dump value)).scanned := by
    simp only [scanLimit, Progress.scan, Progress.start, hline]
    omega
  unfold collectSource oneLine
  dsimp only [readFiles, readLines, Progress.start, List.nil_append]
  rw [if_neg hbuffer, readLine_eq]
  dsimp only [Progress.start] at hscan
  rw [if_neg hscan, hrecord]
  dsimp only
  cases readRecord benchFormats loggedSession [] _ _ value with
  | error what => rfl
  | ok progress =>
    by_cases hstopped : progress.limited = true <;> simp [bind, Except.bind, hstopped]

theorem batches_plain :
    Plain (dumped driverBatch) ∧ Plain (dumped vehicleBatch) ∧
      dumped driverBatch ≠ dumped vehicleBatch := by
  decide +kernel

theorem dump_ne : dump driverBatch ≠ dump vehicleBatch :=
  fun h => batches_plain.2.2 (String.ofList_injective h)

theorem parse_driver : benchFormats.parse (dump driverBatch) = some driverBatch := by
  simp only [benchFormats, if_true]

theorem parse_vehicle : benchFormats.parse (dump vehicleBatch) = some vehicleBatch := by
  simp only [benchFormats, dump_ne.symm, if_false, if_true]

theorem driverBatch_plain : Plain (dumped driverBatch) := batches_plain.1

theorem vehicleBatch_plain : Plain (dumped vehicleBatch) := batches_plain.2.1

def driverSource : LogSource := oneLine "control-browser-events.jsonl" driverBatch

def vehicleSource : LogSource := oneLine "runtime.log" vehicleBatch

theorem driver_collected :
    collectSource benchFormats loggedSession [] driverSource =
      readRecord benchFormats loggedSession [] driverSource
        (({ Progress.start 0 with sourceFiles := ["control-browser-events.jsonl"] }).scan
          (dump driverBatch)) driverBatch :=
  collectSource_oneLine _ driverBatch_plain parse_driver rfl

theorem vehicle_collected :
    collectSource benchFormats loggedSession [] vehicleSource =
      readRecord benchFormats loggedSession [] vehicleSource
        (({ Progress.start 0 with sourceFiles := ["runtime.log"] }).scan (dump vehicleBatch))
        vehicleBatch :=
  collectSource_oneLine _ vehicleBatch_plain parse_vehicle rfl

theorem sources_within :
    WithinLimits benchFormats loggedSession [] driverSource ∧
      WithinLimits benchFormats loggedSession [] vehicleSource := by
  rw [withinLimits_iff, withinLimits_iff, driver_collected, vehicle_collected]
  decide +kernel

theorem driver_within : WithinLimits benchFormats loggedSession [] driverSource :=
  sources_within.1

theorem vehicle_within : WithinLimits benchFormats loggedSession [] vehicleSource :=
  sources_within.2

theorem trace_collection_law_bench :
    (∃ manifest snapshots,
        collectSessionLogs benchFormats loggedSession [] [vehicleSource] =
            .ok (manifest, snapshots) ∧
          snapshots.map (fun s => s.progress.commands) =
            [vehicleSource].map (LogSource.wanted benchFormats loggedSession [])) ↔
      ∀ source ∈ [vehicleSource], Collectable benchFormats loggedSession source :=
  trace_collection_law benchFormats loggedSession [] [vehicleSource]
    (List.forall_mem_singleton.mpr (by decide +kernel))
    (List.forall_mem_singleton.mpr vehicle_within)

/-- The driver's commands of the session are lost with those of the session before it. -/
theorem trace_collection_fails :
    (∀ source ∈ [driverSource], safeName source.name = true) ∧
      (∀ source ∈ [driverSource], WithinLimits benchFormats loggedSession [] source) ∧
      ¬∃ manifest snapshots,
        collectSessionLogs benchFormats loggedSession [] [driverSource] =
            .ok (manifest, snapshots) ∧
          snapshots.map (fun s => s.progress.commands) =
            [driverSource].map (LogSource.wanted benchFormats loggedSession []) := by
  refine ⟨List.forall_mem_singleton.mpr (by decide +kernel),
    List.forall_mem_singleton.mpr driver_within, ?_⟩
  rintro ⟨written, snapshots, hok, hsame⟩
  have hnothing : (collectSource benchFormats loggedSession [] driverSource).map
      Progress.commands = .ok [] := by
    rw [driver_collected]
    decide +kernel
  have hrecord := recordOf_dump driverBatch_plain parse_driver rfl
  have hrecords : driverSource.records benchFormats = [driverBatch] := by
    simp [LogSource.records, LogFile.records, driverSource, oneLine, hrecord]
  have hwanted : wanted benchFormats loggedSession [] driverSource driverBatch =
      [benchCommand "session-000001" "wanted"] := by decide +kernel
  simp only [collectSessionLogs, collectSources, bind_eq_ok_iff] at hok
  obtain ⟨found, ⟨_, _, progress, hprogress, rest, hrest, hfound⟩, hpair⟩ := hok
  obtain rfl := Except.ok.inj hrest
  obtain ⟨-, rfl⟩ := Prod.mk.inj (Except.ok.inj hpair)
  rw [hprogress] at hnothing
  have hnone : progress.commands = [] := Except.ok.inj hnothing
  rw [← Except.ok.inj hfound] at hsame
  simp [LogSource.wanted, hrecords, hwanted, hnone] at hsame

end MineTeleop.SessionLogs
