import MineTeleop.SessionLogs.Broker

/-!
# Runs of the broker

Whatever requests come in whatever order, the logs of the vehicle are closed once for each export.

Proved here, for every run in which no two exports get the same id:

* `serve_turns`, `serve_tidy`: what a request does to the exports and the receipts;
* `log_export_law`: the manifest of the vehicle is written once and the files stay as they were
  then, a finish writes it only over complete files, the bytes are counted right, and a finish
  that was accepted is accepted again.
-/

namespace MineTeleop.SessionLogs

open Appends Documents Runs

abbrev Exported := Step Broker Arrival (Except String Json)

/-- The id of the export that a request has started. -/
def Arrival.started? (arrival : Arrival) (answer : Except String Json) : Option String :=
  match arrival.request, answer with
  | .start token _ _, .ok _ => some ("export-" ++ token)
  | _, _ => none

def Job.New (job : Job) : Prop := (∀ name, job.vehicleFiles name = none) ∧ job.vehicleBytes = 0

/-! ## The lists -/

section
variable {jobs : List Job} {id : String} {job changed : Job} {now : ℤ} {vehicle : String}
  {arrival : Arrival}

theorem findJob_some (h : findJob jobs id = some job) : job ∈ jobs ∧ job.id = id :=
  ⟨List.mem_of_find?_eq_some h, by simpa using List.find?_some h⟩

theorem findJob_none (h : findJob jobs id = none) : ∀ job ∈ jobs, job.id ≠ id := by
  intro job hjob
  simpa using List.find?_eq_none.mp h job hjob

theorem eq_of_id (hnodup : (jobs.map Job.id).Nodup) {job job' : Job} (hjob : job ∈ jobs)
    (hjob' : job' ∈ jobs) (hid : job.id = job'.id) : job = job' :=
  List.inj_on_of_nodup_map hnodup hjob hjob' hid

theorem mem_setJob (h : job ∈ setJob jobs id changed) : job = changed ∨ job ∈ jobs := by
  obtain ⟨other, hother, hset⟩ := List.mem_map.mp h
  split at hset
  · exact .inl hset.symm
  · exact .inr (hset ▸ hother)

theorem ids_setJob (hid : changed.id = id) :
    (setJob jobs id changed).map Job.id = jobs.map Job.id := by
  unfold setJob
  rw [List.map_map]
  refine List.map_congr_left fun other _ => ?_
  rw [Function.comp_apply]
  split
  · rename_i hother
    rw [hid, hother]
  · rfl

theorem setJob_self (hnodup : (jobs.map Job.id).Nodup) (hfound : findJob jobs id = some job) :
    setJob jobs id job = jobs := by
  obtain ⟨hjob, hid⟩ := findJob_some hfound
  have hsame : ∀ other ∈ jobs, (if other.id = id then job else other) = other := by
    intro other hother
    split
    · rename_i hotherId
      exact eq_of_id hnodup hjob hother (hid.trans hotherId.symm)
    · rfl
  unfold setJob
  rw [List.map_congr_left hsame, List.map_id']

theorem pollJobs_turns : ∀ job' ∈ (pollJobs arrival.now vehicle jobs).2,
    ∃ job ∈ jobs, Turn arrival job job' := by
  induction jobs with
  | nil => exact fun _ h => nomatch h
  | cons job jobs ih =>
    intro job' hjob'
    have hexpired : Turn arrival job (job.expireVehicle arrival.now false) :=
      expireVehicle_turns nofun
    rw [pollJobs] at hjob'
    split at hjob'
    · rename_i hopen
      obtain ⟨hsame, hnull⟩ := expireVehicle_open hopen.2
      rcases List.mem_cons.mp hjob' with rfl | hjob'
      · refine ⟨job, List.mem_cons_self, ?_⟩
        rw [hsame]
        split
        · exact .kept
        · exact .claimed hnull
      · exact ⟨job', List.mem_cons_of_mem _ hjob', .kept⟩
    · rcases List.mem_cons.mp hjob' with rfl | hjob'
      · exact ⟨job, List.mem_cons_self, hexpired⟩
      · obtain ⟨before, hbefore, hturn⟩ := ih job' hjob'
        exact ⟨before, List.mem_cons_of_mem _ hbefore, hturn⟩

theorem ids_expireVehicle (job : Job) (now : ℤ) (forced : Bool) :
    (job.expireVehicle now forced).id = job.id := by
  unfold Job.expireVehicle
  split
  · rfl
  · split <;> rfl

theorem ids_pollJobs : (pollJobs now vehicle jobs).2.map Job.id = jobs.map Job.id := by
  induction jobs with
  | nil => rfl
  | cons job jobs ih =>
    rw [pollJobs]
    split
    · rw [List.map_cons, List.map_cons]
      congr 1
      split <;> exact ids_expireVehicle job now false
    · rw [List.map_cons, List.map_cons, ids_expireVehicle, ih]

theorem dropReceipts_suffix (now : ℤ) (receipts : List Receipt) :
    dropReceipts now receipts <:+ receipts := by
  induction receipts with
  | nil => exact List.suffix_rfl
  | cons receipt receipts ih =>
    rw [dropReceipts]
    split
    · exact ih.trans (List.suffix_cons _ _)
    · exact List.suffix_rfl

end

/-! ## What a request does to all exports -/

/-- The exports and receipts after a request come from those before it. -/
structure Served (arrival : Arrival) (answer : Except String Json) (before after : Broker) :
    Prop where
  turned : ∀ job' ∈ after.jobs, (∃ job ∈ before.jobs, Turn arrival job job') ∨
    (arrival.started? answer = some job'.id ∧ job'.New)
  released : ∀ receipt ∈ after.releasedExports, receipt ∈ before.releasedExports ∨
    ∃ job ∈ before.jobs, job.vehicleManifest ≠ .null ∧ receipt.id = job.id ∧
      receipt.vehicle = job.vehicle ∧ receipt.manifest = job.vehicleManifest

/-- No id is there twice. -/
structure Tidy (broker : Broker) : Prop where
  jobs : (broker.jobs.map Job.id).Nodup
  receipts : (broker.releasedExports.map Receipt.id).Nodup
  apart : ∀ job ∈ broker.jobs, ∀ receipt ∈ broker.releasedExports, job.id ≠ receipt.id

section
variable {arrival : Arrival} {answer : Except String Json} {broker : Broker}

theorem Served.refl : Served arrival answer broker broker :=
  ⟨fun job hjob => .inl ⟨job, hjob, .kept⟩, fun _ hreceipt => .inl hreceipt⟩

theorem Served.of_turns {jobs : List Job}
    (h : ∀ job' ∈ jobs, ∃ job ∈ broker.jobs, Turn arrival job job') :
    Served arrival answer broker { broker with jobs := jobs } :=
  ⟨fun job' hjob' => .inl (h job' hjob'), fun _ hreceipt => .inl hreceipt⟩

theorem Served.of_setJob {id : String} {job job' : Job} (hfound : findJob broker.jobs id = some job)
    (hturn : Turn arrival job job') :
    Served arrival answer broker { broker with jobs := setJob broker.jobs id job' } := by
  refine .of_turns fun other hother => ?_
  rcases mem_setJob hother with rfl | hother
  · exact ⟨job, (findJob_some hfound).1, hturn⟩
  · exact ⟨other, hother, .kept⟩

theorem Tidy.of_sublist (ht : Tidy broker) {jobs : List Job}
    (h : (jobs.map Job.id).Sublist (broker.jobs.map Job.id)) :
    Tidy { broker with jobs := jobs } := by
  refine ⟨ht.jobs.sublist h, ht.receipts, fun job hjob receipt hreceipt => ?_⟩
  obtain ⟨before, hbefore, hid⟩ := List.mem_map.mp (h.subset (List.mem_map_of_mem hjob))
  exact hid ▸ ht.apart before hbefore receipt hreceipt

theorem Tidy.of_setJob (ht : Tidy broker) {id : String} {job job' : Job}
    (hfound : findJob broker.jobs id = some job) (hturn : Turn arrival job job') :
    Tidy { broker with jobs := setJob broker.jobs id job' } := by
  refine ht.of_sublist ?_
  rw [ids_setJob (hturn.id_eq.trans (findJob_some hfound).2)]

theorem driverJob_ok {id driver : String} {job : Job} (h : broker.driverJob id driver = .ok job) :
    findJob broker.jobs id = some job := by
  unfold Broker.driverJob at h
  cases hfound : findJob broker.jobs id with
  | none =>
    rw [hfound] at h
    cases h
  | some found =>
    rw [hfound] at h
    obtain ⟨_, -, h⟩ := bind_eq_ok_iff.mp h
    rw [Except.ok.inj h]

/-- The exports that a sweep leaves. -/
theorem swept_turns :
    ∀ job' ∈ broker.swept arrival.now, ∃ job ∈ broker.jobs, Turn arrival job job' := by
  intro job' hjob'
  obtain ⟨job, hjob, rfl⟩ := List.mem_map.mp (List.mem_filter.mp hjob').1
  exact ⟨job, hjob, expireVehicle_turns nofun⟩

theorem ids_swept (now : ℤ) :
    ((broker.swept now).map Job.id).Sublist (broker.jobs.map Job.id) := by
  have hsame : (broker.jobs.map fun job => job.expireVehicle now false).map Job.id =
      broker.jobs.map Job.id := by
    rw [List.map_map]
    exact List.map_congr_left fun job _ => ids_expireVehicle job now false
  rw [← hsame]
  exact List.filter_sublist.map _

theorem newJob_ok {jobs : List Job} {now : ℤ} {token : String} {session : Json} {online : Bool}
    {job : Job} (h : Broker.newJob jobs now token session online = .ok job) :
    job.id = "export-" ++ token ∧ job.New := by
  obtain ⟨_, -, h⟩ := bind_eq_ok_iff.mp h
  obtain ⟨_, -, h⟩ := bind_eq_ok_iff.mp h
  obtain ⟨_, -, h⟩ := bind_eq_ok_iff.mp h
  obtain ⟨_, -, h⟩ := bind_eq_ok_iff.mp h
  obtain rfl := Except.ok.inj h
  exact ⟨rfl, fun _ => rfl, rfl⟩

/-- What each request does, with the ids it leaves. -/
theorem start_served (ht : Tidy broker) {token : String} {session : Json} {online : Bool}
    (hrequest : arrival.request = .start token session online)
    (hfresh : ∀ id ∈ arrival.started? (broker.start arrival.now token session online).1,
      (∀ job ∈ broker.jobs, job.id ≠ id) ∧ ∀ receipt ∈ broker.releasedExports, receipt.id ≠ id) :
    Served arrival (broker.start arrival.now token session online).1 broker
        (broker.start arrival.now token session online).2 ∧
      Tidy (broker.start arrival.now token session online).2 := by
  have hswept := ht.of_sublist (ids_swept arrival.now)
  unfold Broker.start at hfresh ⊢
  dsimp only at hfresh ⊢
  cases hnew : Broker.newJob (broker.swept arrival.now) arrival.now token session online with
  | error what => exact ⟨.of_turns swept_turns, hswept⟩
  | ok job =>
    rw [hnew] at hfresh
    obtain ⟨hid, hnewJob⟩ := newJob_ok hnew
    have hstarted : arrival.started? (.ok (sessionTask job)) = some job.id := by
      simp only [Arrival.started?, hrequest, hid]
    obtain ⟨hfreshJobs, hfreshReceipts⟩ := hfresh job.id hstarted
    have hperm := List.perm_orderedInsert (fun a b : Job => a.id ≤ b.id) job
      (broker.swept arrival.now)
    constructor
    · refine ⟨fun job' hjob' => ?_, fun _ hreceipt => .inl hreceipt⟩
      rcases List.mem_cons.mp (hperm.mem_iff.mp hjob') with rfl | hjob'
      · exact .inr ⟨hstarted, hnewJob⟩
      · exact .inl (swept_turns job' hjob')
    · refine ⟨(hperm.map Job.id).nodup_iff.mpr ?_, ht.receipts,
        fun job' hjob' receipt hreceipt => ?_⟩
      · refine List.nodup_cons.mpr ⟨fun hmem => ?_, hswept.jobs⟩
        obtain ⟨before, hbefore, hbeforeId⟩ :=
          List.mem_map.mp ((ids_swept arrival.now).subset hmem)
        exact hfreshJobs before hbefore hbeforeId
      · rcases List.mem_cons.mp (hperm.mem_iff.mp hjob') with rfl | hjob'
        · exact (hfreshReceipts receipt hreceipt).symm
        · exact hswept.apart job' hjob' receipt hreceipt

theorem release_served (ht : Tidy broker) (id driver : String) :
    Served arrival answer broker (broker.release arrival.now id driver).2 ∧
      Tidy (broker.release arrival.now id driver).2 := by
  unfold Broker.release
  cases hjob : broker.driverJob id driver with
  | error what => exact ⟨.refl, ht⟩
  | ok job =>
    obtain ⟨hmem, hid⟩ := findJob_some (driverJob_ok hjob)
    dsimp only
    split
    · exact ⟨.refl, ht⟩
    · rename_i hready
      have hdropped := (dropReceipts_suffix arrival.now broker.releasedExports).sublist
      have hfiltered : ∀ other ∈ broker.jobs.filter fun other => other.id ≠ id,
          other ∈ broker.jobs ∧ other.id ≠ id := by
        intro other hother
        simpa using List.mem_filter.mp hother
      constructor
      · refine ⟨fun other hother => .inl ⟨other, (hfiltered other hother).1, .kept⟩, ?_⟩
        intro receipt hreceipt
        rcases List.mem_append.mp hreceipt with hreceipt | hreceipt
        · exact .inl (hdropped.subset hreceipt)
        · obtain rfl := List.mem_singleton.mp hreceipt
          exact .inr ⟨job, hmem, (not_not.mp hready).2, rfl, rfl, rfl⟩
      · refine ⟨ht.jobs.sublist (List.filter_sublist.map _), ?_, ?_⟩
        · rw [List.map_append]
          refine List.Nodup.append (ht.receipts.sublist (hdropped.map _)) (by simp) ?_
          intro other hother hsame
          obtain ⟨receipt, hreceipt, rfl⟩ := List.mem_map.mp hother
          exact ht.apart job hmem receipt (hdropped.subset hreceipt)
            (by simpa using hsame : receipt.id = job.id).symm
        · intro other hother receipt hreceipt
          obtain ⟨hotherMem, hne⟩ := hfiltered other hother
          rcases List.mem_append.mp hreceipt with hreceipt | hreceipt
          · exact ht.apart other hotherMem receipt (hdropped.subset hreceipt)
          · obtain rfl := List.mem_singleton.mp hreceipt
            exact fun hsame => hne (hsame.trans hid)

theorem vehicle_served (ht : Tidy broker) {vehicle : String} {request : Json} {idle : Bool}
    (hrequest : arrival.request = .vehicle vehicle request idle) :
    Served arrival answer broker (broker.vehicle arrival.now vehicle request idle).2 ∧
      Tidy (broker.vehicle arrival.now vehicle request idle).2 := by
  unfold Broker.vehicle
  cases hoperation : request.field "operation" Json.getString with
  | error what => exact ⟨.refl, ht⟩
  | ok operation =>
    dsimp only
    split
    · split
      · exact ⟨.of_turns pollJobs_turns, ht.of_sublist (by rw [ids_pollJobs])⟩
      · exact ⟨.refl, ht⟩
    · cases hid : request.field "export_id" Json.getString with
      | error what => exact ⟨.refl, ht⟩
      | ok id =>
        dsimp only
        cases hfound : findJob broker.jobs id with
        | none => exact ⟨.refl, ht⟩
        | some job =>
          dsimp only
          split
          · exact ⟨.refl, ht⟩
          · have hturn : Turn arrival job
                (job.vehicleRequest arrival.now operation request idle).2 :=
              vehicleRequest_turns hrequest hoperation
            exact ⟨.of_setJob hfound hturn, ht.of_setJob hfound hturn⟩

end

theorem serve_served {arrival : Arrival} {broker : Broker} (ht : Tidy broker)
    (hfresh : ∀ id ∈ arrival.started? (serve broker arrival).1,
      (∀ job ∈ broker.jobs, job.id ≠ id) ∧ ∀ receipt ∈ broker.releasedExports, receipt.id ≠ id) :
    Served arrival (serve broker arrival).1 broker (serve broker arrival).2 ∧
      Tidy (serve broker arrival).2 := by
  unfold serve at hfresh ⊢
  cases hrequest : arrival.request with
  | start token session online =>
    rw [hrequest] at hfresh
    exact start_served ht hrequest hfresh
  | collected id result files =>
    dsimp only
    unfold Broker.collected
    cases hfound : findJob broker.jobs id with
    | none => exact ⟨.refl, ht⟩
    | some job =>
      have hturn : Turn arrival job { job with cloud := result, cloudFiles := files } :=
        .collected result files
      exact ⟨.of_setJob hfound hturn, ht.of_setJob hfound hturn⟩
  | status id driver finishPartial =>
    dsimp only
    unfold Broker.status
    cases hjob : broker.driverJob id driver with
    | error what => exact ⟨.refl, ht⟩
    | ok job =>
      have hforces : finishPartial = true → arrival.request.forces = true := by
        rw [hrequest]
        exact fun h => h
      have hturn : Turn arrival job (job.expireVehicle arrival.now finishPartial) :=
        expireVehicle_turns hforces
      exact ⟨.of_setJob (driverJob_ok hjob) hturn, ht.of_setJob (driverJob_ok hjob) hturn⟩
  | chunk id driver request => exact ⟨.refl, ht⟩
  | release id driver => exact release_served ht id driver
  | vehicle vehicle request idle => exact vehicle_served ht hrequest

/-! ## The bytes -/

namespace Job

def storedBytes (job : Job) : ℕ :=
  (vehicleFileNames.map fun name => (job.vehicleFiles.stored name).length).sum

/-- What is stored has been counted, and it is the log of the vehicle. -/
def Counted (job : Job) : Prop :=
  job.vehicleBytes = job.storedBytes ∧
    ∀ name, (job.vehicleFiles name).isSome → allowedVehicleFile name = true

end Job

section
variable {arrival : Arrival} {answer : Except String Json} {broker broker' : Broker}
  {job job' : Job}

theorem Job.New.counted (h : job.New) : job.Counted := by
  constructor
  · unfold Job.storedBytes vehicleFileNames Directory.stored
    rw [h.2]
    simp [h.1]
  · intro name hname
    rw [h.1 name] at hname
    cases hname

theorem stored_update (directory : Directory) (name name' : String) (stored : List UInt8) :
    Directory.stored (Function.update directory name (some stored)) name' =
      if name' = name then stored else directory.stored name' := by
  unfold Directory.stored
  rw [Function.update_apply]
  split <;> rfl

theorem Turn.counted (h : Turn arrival job job') (hcounted : job.Counted) : job'.Counted := by
  cases h with
  | kept => exact hcounted
  | claimed _ => exact hcounted
  | collected result files => exact hcounted
  | closed manifest _ _ => exact hcounted
  | appended c files _ hallowed hok =>
    obtain ⟨hbytes, hnames⟩ := hcounted
    obtain ⟨rfl, -, -⟩ | ⟨-, rfl⟩ := append_cases hok
    · rw [Nat.sub_self]
      exact ⟨hbytes, hnames⟩
    · constructor
      · have hmem : c.name = "runtime.log" ∨ c.name = "vcu-can.jsonl" := by
          simpa [allowedVehicleFile, vehicleFileNames] using hallowed
        unfold Job.storedBytes vehicleFileNames at hbytes ⊢
        simp only [stored_update, List.map_cons, List.map_nil, List.sum_cons, List.sum_nil,
          if_true, List.length_append, Nat.add_zero] at hbytes ⊢
        rcases hmem with hname | hname
        · rw [hname]
          simp only [if_true, List.length_append,
            show ¬"vcu-can.jsonl" = "runtime.log" by decide, if_false]
          omega
        · rw [hname]
          simp only [if_true, List.length_append,
            show ¬"runtime.log" = "vcu-can.jsonl" by decide, if_false]
          omega
      · intro name hname
        change (Function.update job.vehicleFiles c.name _ name).isSome = true at hname
        by_cases hsame : name = c.name
        · exact hsame ▸ hallowed
        · rw [Function.update_of_ne hsame] at hname
          exact hnames name hname

/-! ## Finishes -/

/-- A request of the vehicle to finish the export. -/
structure Finishes (request : Json) (id : String) (manifest : Json) : Prop where
  operation : request.field "operation" Json.getString = .ok "finish"
  exportId : request.field "export_id" Json.getString = .ok id
  manifest : request.member "manifest" = .ok manifest

/-- Wherever the export is still known, it is known with this manifest. -/
structure Settled (broker : Broker) (vehicle id : String) (manifest : Json) : Prop where
  written : manifest ≠ .null
  jobs : ∀ job ∈ broker.jobs, job.id = id →
    job.vehicle = vehicle ∧ job.vehicleManifest = manifest
  receipts : ∀ receipt ∈ broker.releasedExports, receipt.id = id →
    receipt.vehicle = vehicle ∧ receipt.manifest = manifest

/-- The export, or a receipt that is not too old, is still there. -/
def Kept (broker : Broker) (id : String) (now : ℤ) : Prop :=
  (∃ job ∈ broker.jobs, job.id = id) ∨
    ∃ receipt ∈ broker.releasedExports,
      receipt.id = id ∧ now - receipt.created ≤ vehicleIdleTimeoutMs

instance (broker : Broker) (id : String) (now : ℤ) : Decidable (Kept broker id now) :=
  inferInstanceAs (Decidable (_ ∨ _))

theorem Settled.served {vehicle id : String} {manifest : Json}
    (h : Settled broker vehicle id manifest) (hserved : Served arrival answer broker broker')
    (hnot : arrival.started? answer ≠ some id) : Settled broker' vehicle id manifest where
  written := h.written
  jobs := by
    intro job' hjob' hid
    obtain ⟨job, hjob, hturn⟩ | ⟨hstarted, -⟩ := hserved.turned job' hjob'
    · obtain ⟨hvehicle, hmanifest⟩ := h.jobs job hjob (hturn.id_eq.symm.trans hid)
      have hwritten : job.vehicleManifest ≠ .null := hmanifest ▸ h.written
      exact ⟨hturn.vehicle_eq.trans hvehicle, (hturn.kept_of_written hwritten).1.trans hmanifest⟩
    · exact absurd (hid ▸ hstarted) hnot
  receipts := by
    intro receipt hreceipt hid
    obtain hbefore | ⟨job, hjob, -, hsame, hvehicle, hmanifest⟩ :=
      hserved.released receipt hreceipt
    · exact h.receipts receipt hbefore hid
    · obtain ⟨hjobVehicle, hjobManifest⟩ := h.jobs job hjob (hsame.symm.trans hid)
      exact ⟨hvehicle.trans hjobVehicle, hmanifest.trans hjobManifest⟩

theorem settled_of_job (ht : Tidy broker) (hjob : job ∈ broker.jobs)
    (hwritten : job.vehicleManifest ≠ .null) :
    Settled broker job.vehicle job.id job.vehicleManifest where
  written := hwritten
  jobs := by
    intro other hother hid
    obtain rfl := eq_of_id ht.jobs hother hjob hid
    exact ⟨rfl, rfl⟩
  receipts := fun receipt hreceipt hid => absurd hid.symm (ht.apart job hjob receipt hreceipt)

theorem receipted_true {now : ℤ} {vehicle id : String} {request manifest : Json}
    (hmanifest : request.member "manifest" = .ok manifest) {receipts : List Receipt}
    (hall : ∀ receipt ∈ receipts, receipt.id = id →
      receipt.vehicle = vehicle ∧ receipt.manifest = manifest)
    (hkept : ∃ receipt ∈ receipts,
      receipt.id = id ∧ now - receipt.created ≤ vehicleIdleTimeoutMs) :
    Broker.receipted now vehicle id request receipts = .ok true := by
  induction receipts with
  | nil =>
    obtain ⟨receipt, hreceipt, -⟩ := hkept
    cases hreceipt
  | cons receipt receipts ih =>
    rw [Broker.receipted]
    split
    · rename_i hmatch
      have hsame := (hall receipt List.mem_cons_self hmatch.1).2
      rw [hmanifest]
      exact if_pos hsame
    · rename_i hno
      refine ih (fun other hother => hall other (List.mem_cons_of_mem _ hother)) ?_
      obtain ⟨other, hother, hid, hage⟩ := hkept
      rcases List.mem_cons.mp hother with rfl | hother
      · exact absurd ⟨hid, (hall other List.mem_cons_self hid).1, hage⟩ hno
      · exact ⟨other, hother, hid, hage⟩

theorem receipted_cases {now : ℤ} {vehicle id : String} {request : Json} {receipts : List Receipt}
    (h : Broker.receipted now vehicle id request receipts = .ok true) :
    ∃ receipt ∈ receipts, receipt.id = id ∧ receipt.vehicle = vehicle ∧
      request.member "manifest" = .ok receipt.manifest := by
  induction receipts with
  | nil => cases h
  | cons receipt receipts ih =>
    have hrest : Broker.receipted now vehicle id request receipts = .ok true →
        ∃ other ∈ receipt :: receipts, other.id = id ∧ other.vehicle = vehicle ∧
          request.member "manifest" = .ok other.manifest := by
      intro hrest
      obtain ⟨other, hother, hmatch⟩ := ih hrest
      exact ⟨other, List.mem_cons_of_mem _ hother, hmatch⟩
    rw [Broker.receipted] at h
    split at h
    · rename_i hmatch
      obtain ⟨manifest, hmanifest, h⟩ := bind_eq_ok_iff.mp h
      split at h
      · rename_i hsame
        exact ⟨receipt, List.mem_cons_self, hmatch.1, hmatch.2.1, hsame ▸ hmanifest⟩
      · exact hrest h
    · exact hrest h

theorem closedAnswer_finish {id : String} {request : Json}
    (hfinish : Finishes request id job.vehicleManifest) :
    job.closedAnswer "finish" request = .ok accepted := by
  unfold Job.closedAnswer
  rw [if_pos rfl, hfinish.manifest]
  show (if decide (job.vehicleManifest = job.vehicleManifest) = true then _ else _) = _
  rw [decide_eq_true rfl]
  rfl

/-- A finish that is settled is accepted once more, and nothing changes. -/
theorem serve_settled {vehicle id : String} {request manifest : Json} {idle : Bool}
    (ht : Tidy broker) (hfinish : Finishes request id manifest)
    (hsettled : Settled broker vehicle id manifest) (hkept : Kept broker id arrival.now)
    (hrequest : arrival.request = .vehicle vehicle request idle) :
    serve broker arrival = (.ok accepted, broker) := by
  unfold serve
  rw [hrequest]
  show broker.vehicle arrival.now vehicle request idle = _
  unfold Broker.vehicle
  rw [hfinish.operation]
  dsimp only
  rw [if_neg (by decide), hfinish.exportId]
  dsimp only
  cases hfound : findJob broker.jobs id with
  | some job =>
    obtain ⟨hjob, hid⟩ := findJob_some hfound
    obtain ⟨hvehicle, hmanifest⟩ := hsettled.jobs job hjob hid
    subst hmanifest
    dsimp only
    rw [if_neg (not_not.mpr hvehicle)]
    unfold Job.vehicleRequest
    dsimp only
    rw [expireVehicle_written hsettled.written, if_pos hsettled.written,
      closedAnswer_finish hfinish, setJob_self ht.jobs hfound]
  | none =>
    rcases hkept with ⟨job, hjob, hid⟩ | hreceipt
    · exact absurd hid (findJob_none hfound job hjob)
    · dsimp only
      unfold Broker.absentAnswer
      rw [if_pos rfl, receipted_true hfinish.manifest hsettled.receipts hreceipt]
      rfl

theorem setJob_mem {jobs : List Job} {id : String} (hfound : findJob jobs id = some job)
    (changed : Job) : changed ∈ setJob jobs id changed := by
  obtain ⟨hjob, hid⟩ := findJob_some hfound
  exact List.mem_map.mpr ⟨job, hjob, if_pos hid⟩

theorem cancelled_ne_accepted : (.ok cancelled : Except String Json) ≠ .ok accepted :=
  fun h => absurd (Except.ok.inj h) (by decide)

theorem closedAnswer_accepted {request : Json}
    (h : job.closedAnswer "finish" request = .ok accepted) :
    request.member "manifest" = .ok job.vehicleManifest := by
  unfold Job.closedAnswer at h
  rw [if_pos rfl] at h
  cases hmanifest : request.member "manifest" with
  | error what =>
    rw [hmanifest] at h
    cases h
  | ok manifest =>
    rw [hmanifest] at h
    by_cases hsame : job.vehicleManifest = manifest
    · rw [hsame]
    · change (if decide (job.vehicleManifest = manifest) = true then Except.ok accepted else _) = _
        at h
      rw [decide_eq_false hsame, if_neg (by decide)] at h
      split at h
      · exact absurd h cancelled_ne_accepted
      · cases h

theorem finish_manifest {request : Json} (h : job.finish request = .ok job') :
    request.member "manifest" = .ok job'.vehicleManifest ∧ job'.vehicleManifest ≠ .null ∧
      job'.id = job.id ∧ job'.vehicle = job.vehicle := by
  obtain ⟨manifest, hmanifest, h⟩ := bind_eq_ok_iff.mp h
  obtain ⟨_, hobject, h⟩ := bind_eq_ok_iff.mp h
  obtain ⟨files, -, h⟩ := bind_eq_ok_iff.mp h
  obtain ⟨_, -, h⟩ := bind_eq_ok_iff.mp h
  obtain ⟨_, -, h⟩ := bind_eq_ok_iff.mp h
  obtain ⟨_, -, h⟩ := bind_eq_ok_iff.mp h
  obtain rfl := Except.ok.inj h
  refine ⟨hmanifest, ?_, rfl, rfl⟩
  rintro rfl
  cases require_eq_ok_iff.mp hobject

/-- An accepted finish leaves the export with its manifest. -/
theorem vehicleRequest_accepted {now : ℤ} {request : Json} {idle : Bool}
    (h : (job.vehicleRequest now "finish" request idle).1 = .ok accepted) :
    ∃ manifest, request.member "manifest" = .ok manifest ∧ manifest ≠ .null ∧
      (job.vehicleRequest now "finish" request idle).2.vehicleManifest = manifest := by
  unfold Job.vehicleRequest at h ⊢
  dsimp only at h ⊢
  by_cases hopen : (job.expireVehicle now false).vehicleManifest = .null
  · rw [if_neg (not_not.mpr hopen)] at h ⊢
    cases idle with
    | false => exact absurd h cancelled_ne_accepted
    | true =>
      rw [if_neg (by decide)] at h ⊢
      cases hfinish : (job.expireVehicle now false).openRequest now "finish" request with
      | error what =>
        rw [hfinish] at h
        cases h
      | ok job' =>
        obtain ⟨hmanifest, hwritten, -, -⟩ := finish_manifest hfinish
        exact ⟨_, hmanifest, hwritten, rfl⟩
  · rw [if_pos hopen] at h ⊢
    exact ⟨_, closedAnswer_accepted h, hopen, rfl⟩

theorem settled_of_accepted {vehicle id : String} {request : Json} {idle : Bool}
    (ht : Tidy broker) (hreceipts : ∀ receipt ∈ broker.releasedExports, receipt.manifest ≠ .null)
    (hafter : Tidy (serve broker arrival).2)
    (hrequest : arrival.request = .vehicle vehicle request idle)
    (hoperation : request.field "operation" Json.getString = .ok "finish")
    (hid : request.field "export_id" Json.getString = .ok id)
    (haccepted : (serve broker arrival).1 = .ok accepted) :
    ((∃ job ∈ broker.jobs, job.id = id) ∨ ∃ receipt ∈ broker.releasedExports, receipt.id = id) ∧
      ∃ manifest, Finishes request id manifest ∧
        Settled (serve broker arrival).2 vehicle id manifest := by
  have hserve : serve broker arrival = broker.vehicle arrival.now vehicle request idle := by
    simp only [serve, hrequest]
  rw [hserve] at hafter haccepted ⊢
  unfold Broker.vehicle at hafter haccepted ⊢
  rw [hoperation] at hafter haccepted ⊢
  dsimp only at hafter haccepted ⊢
  rw [if_neg (by decide), hid] at hafter haccepted ⊢
  dsimp only at hafter haccepted ⊢
  cases hfound : findJob broker.jobs id with
  | none =>
    rw [hfound] at haccepted
    obtain ⟨repeated, hrepeated, haccepted⟩ := bind_eq_ok_iff.mp haccepted
    cases repeated with
    | false => cases haccepted
    | true =>
      obtain ⟨receipt, hreceipt, rfl, rfl, hmanifest⟩ := receipted_cases hrepeated
      refine ⟨.inr ⟨receipt, hreceipt, rfl⟩, receipt.manifest, ⟨hoperation, hid, hmanifest⟩,
        hreceipts receipt hreceipt, ?_, ?_⟩
      · exact fun job hjob hsame => absurd hsame (ht.apart job hjob receipt hreceipt)
      · intro other hother hsame
        obtain rfl := List.inj_on_of_nodup_map ht.receipts hother hreceipt hsame
        exact ⟨rfl, rfl⟩
  | some job =>
    rw [hfound] at hafter haccepted
    dsimp only at hafter haccepted ⊢
    obtain ⟨hjob, hjobId⟩ := findJob_some hfound
    by_cases hvehicle : job.vehicle = vehicle
    · rw [if_neg (not_not.mpr hvehicle)] at hafter haccepted ⊢
      obtain ⟨manifest, hmanifest, hwritten, hset⟩ := vehicleRequest_accepted haccepted
      have hturn : Turn arrival job (job.vehicleRequest arrival.now "finish" request idle).2 :=
        vehicleRequest_turns hrequest hoperation
      have hmem := setJob_mem hfound (job.vehicleRequest arrival.now "finish" request idle).2
      have hsettled := settled_of_job hafter hmem (hset ▸ hwritten)
      rw [hset, hturn.id_eq, hturn.vehicle_eq, hjobId, hvehicle] at hsettled
      exact ⟨.inl ⟨job, hjob, hjobId⟩, manifest, ⟨hoperation, hid, hmanifest⟩, hsettled⟩
    · rw [if_pos hvehicle] at haccepted
      cases haccepted

end

/-! ## Whole runs -/

/-- The manifest of an export is written by this step. -/
def Writes (st : Exported) (id : String) : Prop :=
  (∃ job' ∈ st.after.jobs, job'.id = id ∧ job'.vehicleManifest ≠ .null) ∧
    ∀ job ∈ st.before.jobs, job.id = id → job.vehicleManifest = .null

/-- The vehicle asks for the end of an export, and gets it. -/
def Accepts (st : Exported) (vehicle : String) (request : Json) (id : String) : Prop :=
  (∃ idle, st.event.request = .vehicle vehicle request idle) ∧
    request.field "operation" Json.getString = .ok "finish" ∧
    request.field "export_id" Json.getString = .ok id ∧ st.output = .ok accepted

def startedBy (st : Exported) : Option String := st.event.started? st.output

/-- No two exports get the same id. -/
def Fresh (st : Exported) (past : History Broker Arrival (Except String Json)) : Prop :=
  ∀ id ∈ startedBy st, ∀ earlier ∈ past, startedBy earlier ≠ some id

instance (st : Exported) (past : History Broker Arrival (Except String Json)) :
    Decidable (Fresh st past) :=
  inferInstanceAs (Decidable (∀ id ∈ startedBy st, _))

structure ExportLaw (st : Exported) (past : History Broker Arrival (Except String Json)) :
    Prop where
  once : ∀ id, Writes st id → ∀ earlier ∈ past, ¬Writes earlier id
  kept : ∀ job ∈ st.before.jobs, ∀ job' ∈ st.after.jobs, job'.id = job.id →
    job.vehicleManifest ≠ .null →
      job'.vehicleManifest = job.vehicleManifest ∧ job'.vehicleFiles = job.vehicleFiles
  closed : ∀ job ∈ st.before.jobs, ∀ job' ∈ st.after.jobs, job'.id = job.id →
    job.vehicleManifest = .null → job'.vehicleManifest ≠ .null →
      Closing st.event job job'.vehicleManifest
  counted : ∀ job ∈ st.after.jobs, job.Counted
  repeated : ∀ earlier ∈ past, ∀ vehicle request id idle, Accepts earlier vehicle request id →
    st.event.request = .vehicle vehicle request idle → Kept st.before id st.event.now →
      st.output = .ok accepted ∧ st.after = st.before

section
variable {broker : Broker} {arrival : Arrival} {h : History Broker Arrival (Except String Json)}
  {id : String}

def Started (h : History Broker Arrival (Except String Json)) (id : String) : Prop :=
  ∃ st ∈ h, startedBy st = some id

/-- What the broker has after a run, and what it still knows of the run. -/
structure Current (h : History Broker Arrival (Except String Json)) (broker : Broker) : Prop where
  tidy : Tidy broker
  started : ∀ job ∈ broker.jobs, Started h job.id
  released : ∀ receipt ∈ broker.releasedExports,
    Started h receipt.id ∧ receipt.manifest ≠ .null
  counted : ∀ job ∈ broker.jobs, job.Counted
  written : ∀ st ∈ h, ∀ id, Writes st id →
    Started h id ∧ ∀ job ∈ broker.jobs, job.id = id → job.vehicleManifest ≠ .null
  accepted : ∀ st ∈ h, ∀ vehicle request id, Accepts st vehicle request id →
    Started h id ∧ ∃ manifest, Finishes request id manifest ∧ Settled broker vehicle id manifest

theorem current_init : Current [] exports.init where
  tidy := ⟨List.nodup_nil, List.nodup_nil, nofun⟩
  started := nofun
  released := nofun
  counted := nofun
  written := nofun
  accepted := nofun

theorem Current.served (hc : Current h broker) (hfresh : Fresh (exports.observe broker arrival) h) :
    Served arrival (serve broker arrival).1 broker (serve broker arrival).2 ∧
      Tidy (serve broker arrival).2 := by
  refine serve_served hc.tidy fun id hid => ⟨?_, ?_⟩
  · rintro job hjob rfl
    obtain ⟨st, hst, hstarted⟩ := hc.started job hjob
    exact hfresh job.id hid st hst hstarted
  · rintro receipt hreceipt rfl
    obtain ⟨st, hst, hstarted⟩ := (hc.released receipt hreceipt).1
    exact hfresh receipt.id hid st hst hstarted

/-- An id that has been given is not given again. -/
theorem not_started (hfresh : Fresh (exports.observe broker arrival) h) (hstarted : Started h id) :
    arrival.started? (serve broker arrival).1 ≠ some id := by
  intro hagain
  obtain ⟨st, hst, hsame⟩ := hstarted
  exact hfresh id hagain st hst hsame

theorem Started.later (hstarted : Started h id) (st : Exported) : Started (st :: h) id := by
  obtain ⟨earlier, hearlier, hsame⟩ := hstarted
  exact ⟨earlier, List.mem_cons_of_mem _ hearlier, hsame⟩

theorem Current.started_after (hc : Current h broker)
    (hserved : Served arrival (serve broker arrival).1 broker (serve broker arrival).2) :
    ∀ job ∈ (serve broker arrival).2.jobs,
      Started (exports.observe broker arrival :: h) job.id := by
  intro job' hjob'
  obtain ⟨job, hjob, hturn⟩ | ⟨hstarted, -⟩ := hserved.turned job' hjob'
  · exact hturn.id_eq ▸ (hc.started job hjob).later _
  · exact ⟨_, List.mem_cons_self, hstarted⟩

theorem current_step (hc : Current h broker) (hfresh : Fresh (exports.observe broker arrival) h) :
    Current (exports.observe broker arrival :: h) (serve broker arrival).2 := by
  obtain ⟨hserved, htidy⟩ := hc.served hfresh
  have hstartedAfter := hc.started_after hserved
  refine ⟨htidy, hstartedAfter, ?_, ?_, ?_, ?_⟩
  · intro receipt hreceipt
    obtain hbefore | ⟨job, hjob, hwritten, hid, -, hmanifest⟩ := hserved.released receipt hreceipt
    · exact ⟨(hc.released receipt hbefore).1.later _, (hc.released receipt hbefore).2⟩
    · exact ⟨hid ▸ (hc.started job hjob).later _, hmanifest ▸ hwritten⟩
  · intro job' hjob'
    obtain ⟨job, hjob, hturn⟩ | ⟨-, hnew⟩ := hserved.turned job' hjob'
    · exact hturn.counted (hc.counted job hjob)
    · exact hnew.counted
  · intro st hst id hwrites
    rcases List.mem_cons.mp hst with rfl | hst
    · obtain ⟨job', hjob', hid, hwritten⟩ := hwrites.1
      refine ⟨hid ▸ hstartedAfter job' hjob', fun other hother hsame => ?_⟩
      obtain rfl := eq_of_id htidy.jobs hother hjob' (hsame.trans hid.symm)
      exact hwritten
    · obtain ⟨hstarted, hall⟩ := hc.written st hst id hwrites
      refine ⟨hstarted.later _, fun job' hjob' hid => ?_⟩
      obtain ⟨job, hjob, hturn⟩ | ⟨hagain, -⟩ := hserved.turned job' hjob'
      · have hwritten := hall job hjob (hturn.id_eq.symm.trans hid)
        exact (hturn.kept_of_written hwritten).1.symm ▸ hwritten
      · exact absurd (hid ▸ hagain) (not_started hfresh hstarted)
  · intro st hst vehicle request id haccepts
    rcases List.mem_cons.mp hst with rfl | hst
    · obtain ⟨⟨idle, hrequest⟩, hoperation, hid, haccepted⟩ := haccepts
      obtain ⟨hknown, hsettled⟩ := settled_of_accepted hc.tidy
        (fun receipt hreceipt => (hc.released receipt hreceipt).2) htidy hrequest hoperation hid
        haccepted
      refine ⟨?_, hsettled⟩
      rcases hknown with ⟨job, hjob, rfl⟩ | ⟨receipt, hreceipt, rfl⟩
      · exact (hc.started job hjob).later _
      · exact (hc.released receipt hreceipt).1.later _
    · obtain ⟨hstarted, manifest, hfinish, hsettled⟩ :=
        hc.accepted st hst vehicle request id haccepts
      exact ⟨hstarted.later _, manifest, hfinish,
        hsettled.served hserved (not_started hfresh hstarted)⟩

theorem current_law (hc : Current h broker) (hfresh : Fresh (exports.observe broker arrival) h) :
    ExportLaw (exports.observe broker arrival) h := by
  obtain ⟨hserved, htidy⟩ := hc.served hfresh
  have hturn : ∀ job ∈ broker.jobs, ∀ job' ∈ (serve broker arrival).2.jobs, job'.id = job.id →
      Turn arrival job job' := by
    intro job hjob job' hjob' hid
    obtain ⟨before, hbefore, hturn⟩ | ⟨hagain, -⟩ := hserved.turned job' hjob'
    · obtain rfl := eq_of_id hc.tidy.jobs hbefore hjob (hturn.id_eq.symm.trans hid)
      exact hturn
    · exact absurd (hid ▸ hagain) (not_started hfresh (hc.started job hjob))
  refine ⟨?_, ?_, ?_, ?_, ?_⟩
  · intro id hwrites earlier hearlier hearlierWrites
    obtain ⟨hstarted, hall⟩ := hc.written earlier hearlier id hearlierWrites
    obtain ⟨job', hjob', hid, hwritten⟩ := hwrites.1
    obtain ⟨job, hjob, hturn⟩ | ⟨hagain, -⟩ := hserved.turned job' hjob'
    · have hsame := hturn.id_eq.symm.trans hid
      exact hall job hjob hsame (hwrites.2 job hjob hsame)
    · exact not_started hfresh hstarted (hid ▸ hagain)
  · intro job hjob job' hjob' hid hwritten
    obtain ⟨hmanifest, hfiles, -⟩ := (hturn job hjob job' hjob' hid).kept_of_written hwritten
    exact ⟨hmanifest, hfiles⟩
  · intro job hjob job' hjob' hid hnull hwritten
    exact ((hturn job hjob job' hjob' hid).closing hnull hwritten).1
  · exact (current_step hc hfresh).counted
  · intro earlier hearlier vehicle request id idle haccepts hrequest hkept
    obtain ⟨-, manifest, hfinish, hsettled⟩ :=
      hc.accepted earlier hearlier vehicle request id haccepts
    have hserve := serve_settled hc.tidy hfinish hsettled hkept hrequest
    exact ⟨congrArg Prod.fst hserve, congrArg Prod.snd hserve⟩

end

/-- Polls, uploads, finishes, failures, expiries and releases in any order. -/
theorem log_export_law {h : History Broker Arrival (Except String Json)} {broker : Broker}
    (hr : Run exports h broker) (hfresh : Always Fresh h) : Always ExportLaw h :=
  hr.always_of_link_always current_init (fun _ _ _ hc hf => current_step hc hf)
    (fun _ _ _ hc hf => current_law hc hf) hfresh

/-! ## A bench -/

def benchSession : Json :=
  .object [("driver_id", .string "driver"), ("vehicle_id", .string "truck")]

def benchUpload (name : String) (data : List UInt8) : Request :=
  .vehicle "truck" (.object [("chunk", chunkDocument name 0 data true),
    ("export_id", .string "export-1"), ("operation", .string "append")]) true

def benchFile (name : String) (bytes : ℕ) : Json :=
  .object [("bytes", .integer bytes), ("name", .string name)]

def benchFinish : Request :=
  .vehicle "truck" (.object [("export_id", .string "export-1"),
    ("manifest", .object [
      ("files", .array [benchFile "runtime.log" 2, benchFile "vcu-can.jsonl" 1]),
      ("status", .string "available")]), ("operation", .string "finish")]) true

/-- A finish comes too early, on time, and twice more: before the release and after it. -/
def benchArrivals : List Arrival :=
  [⟨0, .start "1" benchSession true⟩,
    ⟨10, .vehicle "truck" (.object [("operation", .string "poll")]) true⟩,
    ⟨20, benchUpload "runtime.log" [1, 2]⟩, ⟨30, benchFinish⟩,
    ⟨40, benchUpload "vcu-can.jsonl" [3]⟩, ⟨50, benchUpload "vcu-can.jsonl" [3]⟩,
    ⟨60, benchFinish⟩, ⟨70, benchFinish⟩, ⟨80, .collected "export-1" (.object []) fun _ => none⟩,
    ⟨90, .release "export-1" "driver"⟩, ⟨100, benchFinish⟩]

theorem log_export_law_bench : Always ExportLaw (exports.play benchArrivals).1 :=
  log_export_law (Run.play _ benchArrivals) (by decide +kernel)

example : (exports.play benchArrivals).1.map (fun st => decide (st.output = .ok accepted)) =
    [true, false, false, true, true, true, true, false, true, false, false] := by decide +kernel

end MineTeleop.SessionLogs
