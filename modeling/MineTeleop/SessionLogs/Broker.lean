import Mathlib.Data.List.Sort
import MineTeleop.SessionLogs.Chunks

/-!
# The broker of log exports

An export waits for the logs of the cloud and for those of the vehicle.  The vehicle polls for
the export, appends its files and finishes with a manifest; the export can also fail, expire or be
overtaken by a new control session, and the driver releases it in the end.

Proved here:

* `vehicleRequest_turns`: what one request of the vehicle does to the export it is about;
* `serve_turns`: what any request does to all exports.
-/

namespace MineTeleop.SessionLogs

open Appends Documents Runs

def vehicleIdleTimeoutMs : ℤ := 180000

def exportTimeoutMs : ℤ := 10 * 60 * 1000

def vehicleFileNames : List String := ["runtime.log", "vcu-can.jsonl"]

def allowedVehicleFile (name : String) : Bool := name ∈ vehicleFileNames

/-! ## One export -/

structure Job where
  id : String
  driver : String
  vehicle : String
  session : Json
  cloud : Json := .null
  vehicleManifest : Json := .null
  cloudFiles : Directory := fun _ => none
  vehicleFiles : Directory := fun _ => none
  created : ℤ
  vehicleActivity : ℤ
  vehicleClaimed : Bool := false
  vehicleBytes : ℕ := 0

/-- The members of a document are kept in the order of their keys. -/
def missing (reason : String) (files : List Json) : Json :=
  .object [("files", .array files), ("reason", .string reason), ("status", .string "partial")]

def partialFile (name : String) (stored : List UInt8) : Json :=
  .object [("bytes", .integer stored.length), ("issues", .array [.string "incomplete_upload"]),
    ("name", .string name), ("status", .string "partial")]

def accepted : Json := .object [("accepted", .boolean true)]

def cancelled : Json := .object [("cancelled", .boolean true)]

namespace Job

/-- What has come so far is listed. -/
def failure (job : Job) (reason : String) : Json :=
  missing reason (vehicleFileNames.filterMap fun name =>
    (job.vehicleFiles name).map (partialFile name))

def failVehicle (job : Job) (reason : String) : Job :=
  { job with vehicleManifest := job.failure reason }

def Overdue (job : Job) (now : ℤ) : Prop :=
  exportTimeoutMs < now - job.created ∨ vehicleIdleTimeoutMs < now - job.vehicleActivity

instance (job : Job) (now : ℤ) : Decidable (job.Overdue now) := inferInstanceAs (Decidable (_ ∨ _))

def expiry (job : Job) : String :=
  if job.vehicleClaimed then "vehicle_upload_timeout" else "vehicle_worker_unresponsive"

def expireVehicle (job : Job) (now : ℤ) (forced : Bool) : Job :=
  if job.vehicleManifest ≠ .null then job
  else if forced = true ∨ job.Overdue now then job.failVehicle job.expiry
  else job

def Ready (job : Job) : Prop := job.cloud ≠ .null ∧ job.vehicleManifest ≠ .null

instance (job : Job) : Decidable job.Ready := inferInstanceAs (Decidable (_ ∧ _))

/-- The answer when the manifest has been written. -/
def closedAnswer (job : Job) (operation : String) (request : Json) : Except String Json := do
  let repeated ←
    if operation = "finish" then
      (request.member "manifest").map fun manifest => decide (job.vehicleManifest = manifest)
    else .ok false
  if repeated then .ok accepted
  else if job.vehicleManifest.contains "reason" then .ok cancelled
  else .error "vehicle snapshot is already closed"

def failed (job : Job) (request : Json) : Except String Job := do
  let stage ← request.field "stage" Json.getString
  require (stage = "collection" ∨ stage = "upload" ∨ stage = "finish")
    "invalid export failure stage"
  .ok (job.failVehicle ("vehicle_" ++ stage ++ "_failed"))

def append (job : Job) (now : ℤ) (request : Json) : Except String Job := do
  let chunk ← request.member "chunk"
  let name ← chunk.field "name" Json.getString
  require (allowedVehicleFile name = true) "unapproved vehicle log file"
  let files ← appendSessionLogChunk job.vehicleFiles chunk true
  let grown := (files.stored name).length - (job.vehicleFiles.stored name).length
  .ok { job with
    vehicleFiles := files
    vehicleBytes := job.vehicleBytes + grown
    vehicleActivity := now }

end Job

/-- Every file of the manifest is there, with the length that it declares. -/
def checkFiles (directory : Directory) : List String → List Json → Except String Unit
  | _, [] => .ok ()
  | names, file :: files => do
    let name ← file.field "name" Json.getString
    require (allowedVehicleFile name = true ∧ name ∉ names) "invalid vehicle manifest file"
    let bytes ← file.field "bytes" Json.getUint64
    require (bytes ≤ fileLimit) "incomplete upload"
    match directory name with
    | none => .error "filesystem error: cannot get file size: No such file or directory"
    | some stored => do
      require (stored.length = bytes) "incomplete upload"
      checkFiles directory (names ++ [name]) files

def isArray : Json → Bool
  | .array _ => true
  | _ => false

def checkStatus (manifest : Json) : Except String Unit := do
  let status ← manifest.value "status" Json.getString ""
  require (status = "partial" ∨ status = "available") "invalid source status"

namespace Job

def finish (job : Job) (request : Json) : Except String Job := do
  let manifest ← request.member "manifest"
  require (manifest.isObject = true) "invalid vehicle manifest"
  let files ← manifest.member "files"
  require (isArray files = true ∧ (elements files).length = 2) "invalid vehicle manifest"
  checkFiles job.vehicleFiles [] (elements files)
  checkStatus manifest
  .ok { job with vehicleManifest := manifest }

def openRequest (job : Job) (now : ℤ) (operation : String) (request : Json) :
    Except String Job :=
  if operation = "failed" then job.failed request
  else if operation = "append" then job.append now request
  else if operation = "finish" then job.finish request
  else .error "unknown vehicle log operation"

/-- A request of the vehicle other than a poll. -/
def vehicleRequest (job : Job) (now : ℤ) (operation : String) (request : Json) (idle : Bool) :
    Except String Json × Job :=
  let job := job.expireVehicle now false
  if job.vehicleManifest ≠ .null then (job.closedAnswer operation request, job)
  else if idle = false then (.ok cancelled, job.failVehicle "new_control_session_started")
  else
    match job.openRequest now operation request with
    | .ok job' => (.ok accepted, job')
    | .error what => (.error what, job)

end Job

/-! ## All exports -/

structure Receipt where
  id : String
  vehicle : String
  manifest : Json
  created : ℤ

/-- The exports in the order of their ids, and the receipts from the oldest one on. -/
structure Broker where
  jobs : List Job
  releasedExports : List Receipt

def Broker.init : Broker := ⟨[], []⟩

def findJob (jobs : List Job) (id : String) : Option Job := jobs.find? fun job => job.id = id

def setJob (jobs : List Job) (id : String) (changed : Job) : List Job :=
  jobs.map fun job => if job.id = id then changed else job

def sessionTask (job : Job) : Json :=
  .object [("export_id", .string job.id), ("session", job.session)]

/-- The first export of the vehicle that is still open is its task. -/
def pollJobs (now : ℤ) (vehicle : String) : List Job → Json × List Job
  | [] => (.object [], [])
  | job :: jobs =>
    let job := job.expireVehicle now false
    if job.vehicle = vehicle ∧ job.vehicleManifest = .null then
      let claimed :=
        if job.vehicleClaimed then job
        else { job with vehicleClaimed := true, vehicleActivity := now }
      (sessionTask job, claimed :: jobs)
    else
      let (task, jobs') := pollJobs now vehicle jobs
      (task, job :: jobs')

/-- The driver is read only where there are exports to compare it with. -/
def noneRunning (session : Json) : List Job → Except String Unit
  | [] => .ok ()
  | job :: jobs => do
    let driver ← session.field "driver_id" Json.getString
    require (job.driver ≠ driver ∨ job.Ready) "an export is already running"
    noneRunning session jobs

def dropReceipts (now : ℤ) : List Receipt → List Receipt
  | [] => []
  | receipt :: receipts =>
    if 16 ≤ (receipt :: receipts).length ∨ vehicleIdleTimeoutMs < now - receipt.created then
      dropReceipts now receipts
    else receipt :: receipts

namespace Broker

/-- `Impl::job`. -/
def driverJob (broker : Broker) (id driver : String) : Except String Job :=
  match findJob broker.jobs id with
  | none => .error "export not found for this driver"
  | some job => do
    require (job.driver = driver) "export not found for this driver"
    .ok job

/-- Exports that are over and done with leave before a new one comes. -/
def swept (broker : Broker) (now : ℤ) : List Job :=
  (broker.jobs.map fun job => job.expireVehicle now false).filter fun job =>
    !decide (job.Ready ∧ exportTimeoutMs < now - job.created)

def newJob (jobs : List Job) (now : ℤ) (token : String) (session : Json) (vehicleOnline : Bool) :
    Except String Job := do
  require (jobs.length < 2) "two exports are retained; retry after ten minutes"
  noneRunning session jobs
  let driver ← session.field "driver_id" Json.getString
  let vehicle ← session.field "vehicle_id" Json.getString
  .ok { id := "export-" ++ token, driver := driver, vehicle := vehicle, session := session
        vehicleManifest := if vehicleOnline then .null else missing "vehicle_offline" []
        created := now, vehicleActivity := now }

def start (broker : Broker) (now : ℤ) (token : String) (session : Json) (vehicleOnline : Bool) :
    Except String Json × Broker :=
  let jobs := broker.swept now
  match newJob jobs now token session vehicleOnline with
  | .error what => (.error what, { broker with jobs := jobs })
  | .ok job =>
    (.ok (sessionTask job),
      { broker with jobs := jobs.orderedInsert (fun a b => a.id ≤ b.id) job })

/-- The worker of an export has the logs of the cloud. -/
def collected (broker : Broker) (id : String) (result : Json) (files : Directory) : Broker :=
  match findJob broker.jobs id with
  | none => broker
  | some job =>
    { broker with jobs := setJob broker.jobs id { job with cloud := result, cloudFiles := files } }

def statusDocument (job : Job) : Json :=
  .object [("cloud", job.cloud), ("export_id", .string job.id),
    ("ready", .boolean job.Ready), ("session", job.session), ("vehicle", job.vehicleManifest),
    ("vehicle_progress", .object [("bytes_received", .integer job.vehicleBytes),
      ("claimed", .boolean job.vehicleClaimed)])]

def status (broker : Broker) (now : ℤ) (id driver : String) (finishPartial : Bool) :
    Except String Json × Broker :=
  match broker.driverJob id driver with
  | .error what => (.error what, broker)
  | .ok job =>
    let job := job.expireVehicle now finishPartial
    (.ok (statusDocument job), { broker with jobs := setJob broker.jobs id job })

def chunk (broker : Broker) (id driver : String) (request : Json) : Except String Json := do
  let job ← broker.driverJob id driver
  let source ← request.field "source" Json.getString
  require (source = "cloud" ∨ source = "vehicle") "invalid export source"
  let manifest := if source = "cloud" then job.cloud else job.vehicleManifest
  let files := if source = "cloud" then job.cloudFiles else job.vehicleFiles
  require (manifest ≠ .null) "source is still collecting"
  let name ← request.field "name" Json.getString
  let offset ← request.field "offset" Json.getUint64
  sessionLogChunk files manifest name offset

def release (broker : Broker) (now : ℤ) (id driver : String) : Except String Json × Broker :=
  match broker.driverJob id driver with
  | .error what => (.error what, broker)
  | .ok job =>
    if ¬job.Ready then (.error "export is still collecting", broker)
    else
      (.ok .null,
        { jobs := broker.jobs.filter fun other => other.id ≠ id
          releasedExports := dropReceipts now broker.releasedExports ++
            [⟨job.id, job.vehicle, job.vehicleManifest, now⟩] })

/-- Whether some receipt stands for the manifest; it is read only where there is one to compare
it with. -/
def receipted (now : ℤ) (vehicle id : String) (request : Json) :
    List Receipt → Except String Bool
  | [] => .ok false
  | receipt :: receipts =>
    if receipt.id = id ∧ receipt.vehicle = vehicle ∧
        now - receipt.created ≤ vehicleIdleTimeoutMs then do
      let manifest ← request.member "manifest"
      if receipt.manifest = manifest then .ok true
      else receipted now vehicle id request receipts
    else receipted now vehicle id request receipts

/-- The answer about an export that is not there. -/
def absentAnswer (broker : Broker) (now : ℤ) (vehicle operation id : String) (request : Json) :
    Except String Json := do
  let repeated ←
    if operation = "finish" then receipted now vehicle id request broker.releasedExports
    else .ok false
  if repeated then .ok accepted else .error "export not found for vehicle"

def vehicle (broker : Broker) (now : ℤ) (vehicle : String) (request : Json) (idle : Bool) :
    Except String Json × Broker :=
  match request.field "operation" Json.getString with
  | .error what => (.error what, broker)
  | .ok operation =>
    if operation = "poll" then
      if idle = true then
        let (task, jobs) := pollJobs now vehicle broker.jobs
        (.ok task, { broker with jobs := jobs })
      else (.ok (.object []), broker)
    else
      match request.field "export_id" Json.getString with
      | .error what => (.error what, broker)
      | .ok id =>
        match findJob broker.jobs id with
        | none => (broker.absentAnswer now vehicle operation id request, broker)
        | some job =>
          if job.vehicle ≠ vehicle then (.error "export not found for vehicle", broker)
          else
            let (answer, job') := job.vehicleRequest now operation request idle
            (answer, { broker with jobs := setJob broker.jobs id job' })

end Broker

/-! ## Requests -/

inductive Request where
  | start (token : String) (session : Json) (vehicleOnline : Bool)
  | collected (id : String) (result : Json) (files : Directory)
  | status (id driver : String) (finishPartial : Bool)
  | chunk (id driver : String) (request : Json)
  | release (id driver : String)
  | vehicle (vehicle : String) (request : Json) (idle : Bool)

/-- A request with the time it comes at. -/
structure Arrival where
  now : ℤ
  request : Request

def serve (broker : Broker) (arrival : Arrival) : Except String Json × Broker :=
  match arrival.request with
  | .start token session vehicleOnline => broker.start arrival.now token session vehicleOnline
  | .collected id result files => (.ok .null, broker.collected id result files)
  | .status id driver finishPartial => broker.status arrival.now id driver finishPartial
  | .chunk id driver request => (broker.chunk id driver request, broker)
  | .release id driver => broker.release arrival.now id driver
  | .vehicle vehicle request idle => broker.vehicle arrival.now vehicle request idle

def exports : Machine Broker Arrival (Except String Json) := ⟨.init, serve⟩

/-! ## What a request does to one export -/

/-- The file is there with the length that the manifest declares. -/
def Declared (directory : Directory) (file : Json) : Prop :=
  ∃ name bytes stored, file.field "name" Json.getString = .ok name ∧
    file.field "bytes" Json.getUint64 = .ok bytes ∧ allowedVehicleFile name = true ∧
    directory name = some stored ∧ stored.length = bytes

def Complete (directory : Directory) (manifest : Json) : Prop :=
  manifest.isObject = true ∧ ∃ files, manifest.member "files" = .ok files ∧
    (elements files).length = 2 ∧ ∀ file ∈ elements files, Declared directory file

def Request.forces : Request → Bool
  | .status _ _ finishPartial => finishPartial
  | _ => false

/-- The manifests that a request may write. -/
inductive Closing (arrival : Arrival) (job : Job) : Json → Prop
  | expired : arrival.request.forces = true ∨ job.Overdue arrival.now →
      Closing arrival job (job.failure job.expiry)
  | overtaken (vehicle : String) (request : Json) :
      arrival.request = .vehicle vehicle request false →
      Closing arrival job (job.failure "new_control_session_started")
  | failed (vehicle : String) (request : Json) (stage : String) :
      arrival.request = .vehicle vehicle request true →
      request.field "operation" Json.getString = .ok "failed" →
      request.field "stage" Json.getString = .ok stage →
      stage = "collection" ∨ stage = "upload" ∨ stage = "finish" →
      Closing arrival job (job.failure ("vehicle_" ++ stage ++ "_failed"))
  | finished (vehicle : String) (request : Json) (manifest : Json) :
      arrival.request = .vehicle vehicle request true →
      request.field "operation" Json.getString = .ok "finish" →
      request.member "manifest" = .ok manifest → Complete job.vehicleFiles manifest →
      Closing arrival job manifest

/-- All that can become of an export, as long as it is there. -/
inductive Turn (arrival : Arrival) (job : Job) : Job → Prop
  | kept : Turn arrival job job
  | claimed : job.vehicleManifest = .null →
      Turn arrival job { job with vehicleClaimed := true, vehicleActivity := arrival.now }
  | collected (result : Json) (files : Directory) :
      Turn arrival job { job with cloud := result, cloudFiles := files }
  | appended (c : Chunk) (files : Directory) :
      job.vehicleManifest = .null → allowedVehicleFile c.name = true →
      c.appendTo job.vehicleFiles true = .ok files →
      Turn arrival job { job with
        vehicleFiles := files
        vehicleBytes := job.vehicleBytes +
          ((files.stored c.name).length - (job.vehicleFiles.stored c.name).length)
        vehicleActivity := arrival.now }
  | closed (manifest : Json) :
      job.vehicleManifest = .null → Closing arrival job manifest →
      Turn arrival job { job with vehicleManifest := manifest }

section
variable {arrival : Arrival} {job job' : Job} {manifest : Json}

theorem Turn.id_eq (h : Turn arrival job job') : job'.id = job.id := by
  cases h <;> rfl

theorem Turn.vehicle_eq (h : Turn arrival job job') : job'.vehicle = job.vehicle := by
  cases h <;> rfl

/-- What has been written stays. -/
theorem Turn.kept_of_written (h : Turn arrival job job') (hwritten : job.vehicleManifest ≠ .null) :
    job'.vehicleManifest = job.vehicleManifest ∧ job'.vehicleFiles = job.vehicleFiles ∧
      job'.vehicleBytes = job.vehicleBytes := by
  cases h with
  | kept => exact ⟨rfl, rfl, rfl⟩
  | claimed hnull => exact absurd hnull hwritten
  | collected result files => exact ⟨rfl, rfl, rfl⟩
  | appended c files hnull _ _ => exact absurd hnull hwritten
  | closed manifest hnull _ => exact absurd hnull hwritten

theorem Turn.closing (h : Turn arrival job job') (hnull : job.vehicleManifest = .null)
    (hwritten : job'.vehicleManifest ≠ .null) :
    Closing arrival job job'.vehicleManifest ∧ job'.vehicleFiles = job.vehicleFiles := by
  cases h with
  | kept => exact absurd hnull hwritten
  | claimed _ => exact absurd hnull hwritten
  | collected result files => exact absurd hnull hwritten
  | appended c files _ _ _ => exact absurd hnull hwritten
  | closed manifest _ hclosing => exact ⟨hclosing, rfl⟩

theorem expireVehicle_written (hwritten : job.vehicleManifest ≠ .null) (now : ℤ) (forced : Bool) :
    job.expireVehicle now forced = job :=
  if_pos hwritten

theorem expireVehicle_turns {forced : Bool}
    (hforced : forced = true → arrival.request.forces = true) :
    Turn arrival job (job.expireVehicle arrival.now forced) := by
  unfold Job.expireVehicle
  split
  · exact .kept
  · rename_i hnull
    split
    · rename_i hover
      exact .closed _ (not_not.mp hnull) (.expired (hover.imp_left hforced))
    · exact .kept

/-- An export that is still open has not changed by looking at the clock. -/
theorem expireVehicle_open {now : ℤ} {forced : Bool}
    (hopen : (job.expireVehicle now forced).vehicleManifest = .null) :
    job.expireVehicle now forced = job ∧ job.vehicleManifest = .null := by
  have hsame : job.expireVehicle now forced = job := by
    unfold Job.expireVehicle at hopen ⊢
    split
    · rfl
    · rename_i hnull
      rw [if_neg hnull] at hopen
      split
      · rename_i hover
        rw [if_pos hover] at hopen
        cases hopen
      · rfl
  exact ⟨hsame, hsame ▸ hopen⟩

theorem checkFiles_ok {directory : Directory} {names : List String} {files : List Json} {u : Unit}
    (h : checkFiles directory names files = .ok u) : ∀ file ∈ files, Declared directory file := by
  induction files generalizing names with
  | nil => exact fun _ hfile => nomatch hfile
  | cons file files ih =>
    obtain ⟨name, hname, h⟩ := bind_eq_ok_iff.mp h
    obtain ⟨_, hallowed, h⟩ := bind_eq_ok_iff.mp h
    obtain ⟨bytes, hbytes, h⟩ := bind_eq_ok_iff.mp h
    obtain ⟨_, -, h⟩ := bind_eq_ok_iff.mp h
    cases hstored : directory name with
    | none =>
      rw [hstored] at h
      cases h
    | some stored =>
      rw [hstored] at h
      obtain ⟨_, hlength, h⟩ := bind_eq_ok_iff.mp h
      intro other hother
      rcases List.mem_cons.mp hother with rfl | hother
      · exact ⟨name, bytes, stored, hname, hbytes, (require_eq_ok_iff.mp hallowed).1, hstored,
          require_eq_ok_iff.mp hlength⟩
      · exact ih h other hother

end

section
variable {arrival : Arrival} {job job' : Job} {vehicle operation : String} {request : Json}

theorem failed_turns (hrequest : arrival.request = .vehicle vehicle request true)
    (hoperation : request.field "operation" Json.getString = .ok "failed")
    (hnull : job.vehicleManifest = .null) (h : job.failed request = .ok job') :
    Turn arrival job job' := by
  obtain ⟨stage, hstage, h⟩ := bind_eq_ok_iff.mp h
  obtain ⟨_, hknown, h⟩ := bind_eq_ok_iff.mp h
  obtain rfl := Except.ok.inj h
  exact .closed _ hnull
    (.failed vehicle request stage hrequest hoperation hstage (require_eq_ok_iff.mp hknown))

theorem append_turns (hnull : job.vehicleManifest = .null)
    (h : job.append arrival.now request = .ok job') : Turn arrival job job' := by
  obtain ⟨chunk, -, h⟩ := bind_eq_ok_iff.mp h
  obtain ⟨name, hname, h⟩ := bind_eq_ok_iff.mp h
  obtain ⟨_, hallowed, h⟩ := bind_eq_ok_iff.mp h
  obtain ⟨files, hfiles, h⟩ := bind_eq_ok_iff.mp h
  obtain rfl := Except.ok.inj h
  obtain ⟨c, hread, hok⟩ := bind_eq_ok_iff.mp hfiles
  have hsame : c.name = name := by
    obtain ⟨name', hname', hread⟩ := bind_eq_ok_iff.mp hread
    obtain rfl := Except.ok.inj (hname.symm.trans hname')
    obtain ⟨_, -, hread⟩ := bind_eq_ok_iff.mp hread
    obtain ⟨offset, -, hread⟩ := bind_eq_ok_iff.mp hread
    obtain ⟨data, -, hread⟩ := bind_eq_ok_iff.mp hread
    obtain ⟨_, -, hread⟩ := bind_eq_ok_iff.mp hread
    rw [← Except.ok.inj hread]
  subst hsame
  exact .appended c files hnull (require_eq_ok_iff.mp hallowed) hok

theorem finish_turns (hrequest : arrival.request = .vehicle vehicle request true)
    (hoperation : request.field "operation" Json.getString = .ok "finish")
    (hnull : job.vehicleManifest = .null) (h : job.finish request = .ok job') :
    Turn arrival job job' := by
  obtain ⟨manifest, hmanifest, h⟩ := bind_eq_ok_iff.mp h
  obtain ⟨_, hobject, h⟩ := bind_eq_ok_iff.mp h
  obtain ⟨files, hfiles, h⟩ := bind_eq_ok_iff.mp h
  obtain ⟨_, htwo, h⟩ := bind_eq_ok_iff.mp h
  obtain ⟨_, hchecked, h⟩ := bind_eq_ok_iff.mp h
  obtain ⟨_, -, h⟩ := bind_eq_ok_iff.mp h
  obtain rfl := Except.ok.inj h
  have hcomplete : Complete job.vehicleFiles manifest :=
    ⟨require_eq_ok_iff.mp hobject, files, hfiles, (require_eq_ok_iff.mp htwo).2,
      checkFiles_ok hchecked⟩
  exact .closed _ hnull (.finished vehicle request manifest hrequest hoperation hmanifest hcomplete)

theorem openRequest_turns (hrequest : arrival.request = .vehicle vehicle request true)
    (hoperation : request.field "operation" Json.getString = .ok operation)
    (hnull : job.vehicleManifest = .null)
    (h : job.openRequest arrival.now operation request = .ok job') : Turn arrival job job' := by
  unfold Job.openRequest at h
  split at h
  · rename_i hfailed
    exact failed_turns hrequest (hfailed ▸ hoperation) hnull h
  · split at h
    · exact append_turns hnull h
    · split at h
      · rename_i hfinish
        exact finish_turns hrequest (hfinish ▸ hoperation) hnull h
      · cases h

theorem vehicleRequest_turns {idle : Bool}
    (hrequest : arrival.request = .vehicle vehicle request idle)
    (hoperation : request.field "operation" Json.getString = .ok operation) :
    Turn arrival job (job.vehicleRequest arrival.now operation request idle).2 := by
  unfold Job.vehicleRequest
  dsimp only
  by_cases hopen : (job.expireVehicle arrival.now false).vehicleManifest = .null
  · obtain ⟨hsame, hnull⟩ := expireVehicle_open hopen
    rw [hsame, if_neg (not_not.mpr hnull)]
    cases idle with
    | false => exact .closed _ hnull (.overtaken vehicle request hrequest)
    | true =>
      rw [if_neg (by decide)]
      cases hdone : job.openRequest arrival.now operation request with
      | ok job' => exact openRequest_turns hrequest hoperation hnull hdone
      | error what => exact .kept
  · rw [if_pos hopen]
    exact expireVehicle_turns nofun

end

end MineTeleop.SessionLogs
