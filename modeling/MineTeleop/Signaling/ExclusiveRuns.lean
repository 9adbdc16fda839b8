import MineTeleop.Signaling.Exclusive
import MineTeleop.Signaling.Turns

/-!
# Exclusive authority in every run

Proved here, for every configuration:

* `driverLogin_keeps`, `vehicleOnline_keeps`: a party that comes takes no session with it;
* `createSession_grants`: a new session joins the invariant with the generations of its parties;
* `Move.progress`: a session only ever moves along the allowed transitions;
* `authority_exclusive`: so in every run in which the audit sink writes every record, authority is
  exclusive after each step, and nobody in an open session has been replaced since it was created.
-/

namespace MineTeleop.Signaling

open Documents Programs Tables Runs

variable {config : SignalingServerConfig} {w : Circumstances} {c c' : Call}
  {generations : String → Party → ℕ} {owing : Set Party}

/-! ## Parties that come -/

namespace Exclusive

/-- A party that was away comes, and is not revoked. -/
theorem arrive {party : Party} (h : Exclusive config generations ∅ c)
    (hoffline : c.standing.generation party = none) (hmoved : OnlyMoved party c c')
    (hwelcome : ¬c'.standing.Revoked party) : Exclusive config generations ∅ c' :=
  (h.weaken (Set.empty_subset {party})).relieve (h.closed_of_offline hoffline) hmoved
    fun _ => hwelcome

theorem not_revoked (h : Exclusive config generations ∅ c) {party : Party}
    (honline : c.standing.generation party ≠ none) : ¬c.standing.Revoked party :=
  h.welcome party (Set.notMem_empty _) honline

end Exclusive

/-- Nobody but the driver of a new presence has come. -/
theorem onlyMoved_insertDriver (c : Call) (driverId : String) (presence : ConnectionPresence)
    (tokens : Table DriverToken) :
    OnlyMoved (.driver driverId) c { c with
      service := { c.service with
        driverTokens := tokens
        onlineDrivers := c.service.onlineDrivers.insert driverId presence } } := by
  refine ⟨rfl, rfl, fun other hother => ?_, fun other _ => by cases other <;> exact Iff.rfl⟩
  cases other with
  | driver id =>
    have hid : id ≠ driverId := fun h => hother (congrArg _ h)
    exact congrArg (Option.map _) (AList.lookup_insert_ne hid)
  | vehicle id => rfl

theorem onlyMoved_insertVehicle (c : Call) (vehicleId : String) (presence : ConnectionPresence)
    (generation : ℕ) :
    OnlyMoved (.vehicle vehicleId) c { c with
      service := { c.service with
        connectionGeneration := generation
        onlineVehicles := c.service.onlineVehicles.insert vehicleId presence } } := by
  refine ⟨rfl, rfl, fun other hother => ?_, fun other _ => by cases other <;> exact Iff.rfl⟩
  cases other with
  | driver id => rfl
  | vehicle id =>
    have hid : id ≠ vehicleId := fun h => hother (congrArg _ h)
    exact congrArg (Option.map _) (AList.lookup_insert_ne hid)

theorem generation_eq_none {party : Party} (h : c.service.presence party = none) :
    c.standing.generation party = none :=
  congrArg (Option.map _) h

theorem driverLogin_keeps (body : Json) :
    Within (Keeps config generations) (driverLogin config w body) := by
  refine (Within.liftResult _).bind fun driverId => (Within.liftResult _).bind fun _ =>
    (keeps_aside Aside.nowMs).bind fun timestampMs =>
    (keeps_aside (Aside.enforceLoginRateLimit _ _ _)).bind fun _ =>
    (Within.whenever ((keeps_aside (Aside.recordLoginFailure _ _ _)).bind fun _ =>
      .throw _)).bind fun _ =>
    .bind (keeps_apart (Apart.update (fun _ => rfl) fun _ => rfl)) fun _ => keeps_of fun c hc => ?_
  have hrejected : ∀ {record : AuditRecord} {refusal : Refusal} {c' : Call},
      Exclusive config generations ∅ c' →
      Ensures (audit w record >>= fun _ => (throw refusal : Handler Unit)) c'
        (fun _ _ => False) fun _ => Exclusive config generations ∅ := by
    intro record refusal c' hc'
    rw [ensures_bind]
    exact (Aside.audit record c').mono (fun _ _ h => hc'.held h.toApart.held)
      fun _ _ h => hc'.held h.toApart.held
  rw [ensures_bind, ensures_theService, ensures_bind]
  refine .whenever (fun _ => (hrejected hc).mono (fun _ _ => False.elim) fun _ _ => id)
    fun hwelcome => ?_
  rw [ensures_bind, ensures_theService, ensures_bind]
  refine .whenever (fun _ => (hrejected hc).mono (fun _ _ => False.elim) fun _ _ => id)
    fun hoffline => ?_
  simp only [ensures_bind, ensures_theService, ensures_update]
  have hoffline := @generation_eq_none c (.driver driverId) (not_not.mp hoffline)
  have hcounted : Exclusive config generations ∅ { c with
      service := { c.service with connectionGeneration := c.service.connectionGeneration + 1 } } :=
    hc.held ⟨rfl, rfl, rfl⟩
  refine (Aside.randomToken _).mono (fun token c₁ haside => ?_)
    fun _ _ haside => hcounted.held haside.toApart.held
  have hc₁ := hcounted.held haside.toApart.held
  have hstanding : c₁.standing = c.standing := haside.standing
  refine exclusive_of_keeps (keeps_aside (Aside.audit _))
    (hc₁.arrive (hstanding ▸ hoffline) (onlyMoved_insertDriver c₁ driverId _ _) fun hrevoked => ?_)
  exact hwelcome ((congrArg (driverId ∈ ·.revokedDrivers) hstanding).mp hrevoked)

/-- A vehicle whose token has been looked at is not revoked. -/
theorem validateDeviceToken_welcomes (vehicleId token : String) :
    Ensures (validateDeviceToken config vehicleId token) c
      (fun _ c' => c' = c ∧ ¬c.standing.Revoked (.vehicle vehicleId)) fun _ c' => c' = c := by
  unfold validateDeviceToken
  rw [ensures_bind, ensures_theService, ensures_bind]
  exact .refuseIf (fun hwelcome => .refuseIf (fun _ => ⟨rfl, hwelcome⟩) fun _ => rfl) fun _ => rfl

section
variable (hwrites : w.Writes)
include hwrites

theorem replaceConnection_relieves {vehicleId : String} (h : Exclusive config generations ∅ c) :
    Ensures (replaceConnection w vehicleId (c.service.onlineVehicles.lookup vehicleId)) c
      (fun _ c' => Relieved config generations ∅ (.vehicle vehicleId) c' ∧
        c'.standing = c.standing)
      fun _ _ => False := by
  cases hfound : c.service.onlineVehicles.lookup vehicleId with
  | none => exact ⟨⟨h, h.closed_of_offline (generation_eq_none hfound)⟩, rfl⟩
  | some presence =>
    refine (closeSessions_relieves hwrites h has_vehicle "vehicle_connection_replaced").bind
      fun _ c₁ hc₁ => hwrites.ensures_audit ⟨⟨hc₁.1.1.held ⟨rfl, rfl, rfl⟩, hc₁.1.2⟩, hc₁.2⟩

theorem vehicleOnline_keeps (body : Json) :
    Within (Keeps config generations) (vehicleOnline config w body) := by
  refine (Within.liftResult _).bind fun vehicleId => (Within.liftResult _).bind fun token =>
    keeps_of fun c hc => ?_
  rw [ensures_bind]
  refine (validateDeviceToken_welcomes vehicleId token).mono ?_ fun _ _ h => h ▸ hc
  rintro _ c₁ ⟨rfl, hwelcome⟩
  rw [ensures_bind]
  refine .liftResult (fun connectionId _ => ?_) fun _ _ => hc
  unfold nowMs
  simp only [ensures_bind, ensures_look, ensures_theService]
  have hlooked : Exclusive config generations ∅ { c₁ with looks := c₁.looks + 1 } :=
    hc.held ⟨rfl, rfl, rfl⟩
  generalize w.now c₁.looks = timestampMs
  cases (c₁.service.onlineVehicles.lookup vehicleId).filter fun presence =>
      presence.connectionId = connectionId with
  | some presence =>
    refine hlooked.held ⟨rfl, rfl, ?_⟩
    exact standing_seeVehicle { c₁ with looks := c₁.looks + 1 } vehicleId timestampMs
  | none =>
    dsimp only
    rw [ensures_bind]
    refine (replaceConnection_relieves hwrites hlooked).mono (fun _ c₂ hc₂ => ?_)
      fun _ _ => False.elim
    simp only [ensures_bind, ensures_theService, ensures_update]
    refine exclusive_of_keeps (keeps_aside (Aside.audit _)) ?_
    refine (hc₂.1.1.weaken (Set.empty_subset _)).relieve hc₂.1.2
      (onlyMoved_insertVehicle c₂ vehicleId _ _) fun _ hrevoked => ?_
    exact hwelcome ((congrArg (vehicleId ∈ ·.revokedVehicles) hc₂.2).mp hrevoked)

end

/-! ## A session that is created -/

/-- What is true of a driver and a vehicle between which a session may begin. -/
structure Ready (config : SignalingServerConfig) (driverId vehicleId : String) (c : Call) :
    Prop where
  permitted : config.Permits driverId vehicleId
  driver : c.standing.generation (.driver driverId) ≠ none
  vehicle : c.standing.generation (.vehicle vehicleId) ≠ none
  free : ¬c.service.Controlled vehicleId

theorem Ready.held {driverId vehicleId : String} (h : Ready config driverId vehicleId c)
    (hheld : Held c c') : Ready config driverId vehicleId c' := by
  refine ⟨h.permitted, ?_, ?_, ?_⟩
  · rw [hheld.standing]
    exact h.driver
  · rw [hheld.standing]
    exact h.vehicle
  · unfold SignalingService.Controlled
    rw [hheld.sessions]
    exact h.free

/-- The driver of a token that has been looked at is connected. -/
theorem validateDriverToken_online (driverId token : String) :
    Ensures (validateDriverToken w driverId token) c
      (fun _ c' => Aside c c' ∧ c'.standing.generation (.driver driverId) ≠ none)
      fun _ c' => Aside c c' := by
  have hrefl : Aside c c := Std.Refl.refl c
  have hlooked : ∀ c : Call, Aside c { c with looks := c.looks + 1 } := Aside.look w.now
  unfold validateDriverToken
  simp only [ensures_bind, ensures_theService]
  refine .refuseIf (fun _ => ?_) fun _ => hrefl
  cases c.service.driverTokens.lookup token with
  | none => exact hrefl
  | some found =>
    rw [ensures_bind]
    refine .refuseIf (fun _ => ?_) fun _ => hrefl
    unfold nowMs
    simp only [ensures_bind, ensures_look, ensures_theService, ensures_update]
    refine .refuseIf (fun _ => ?_) fun _ => hlooked c
    refine .refuseIf (fun hcurrent => ?_) fun _ => hlooked c
    obtain ⟨presence, hpresence, -⟩ := not_not.mp hcurrent
    have hseen := standing_seeDriver { c with looks := c.looks + 1 + 1 } driverId
      (w.now (c.looks + 1))
    have honline : c.standing.generation (.driver driverId) ≠ none :=
      fun hnone => absurd (hnone.symm.trans (congrArg (Option.map _) hpresence)) (by simp)
    refine ⟨⟨⟨⟨rfl, List.prefix_rfl⟩, hseen⟩, rfl⟩, fun hnone => honline ?_⟩
    exact (congrArg (·.generation (.driver driverId)) hseen).symm.trans hnone

theorem authorizeSession_ready (driverId vehicleId : String) (body : Json) :
    Ensures (authorizeSession config w driverId vehicleId body) c
      (fun _ c' => Apart c c' ∧ Ready config driverId vehicleId c') fun _ c' => Apart c c' := by
  unfold authorizeSession
  rw [ensures_bind]
  refine .liftResult (fun token _ => ?_) fun _ _ => Std.Refl.refl c
  rw [ensures_bind]
  refine (validateDriverToken_online driverId token).mono ?_ fun _ _ h => h.toApart
  rintro _ c₁ ⟨haside, hdriver⟩
  have hrejected : ∀ {record : AuditRecord} {refusal : Refusal} {Q : Unit → Call → Prop},
      Ensures (audit w record >>= fun _ => (throw refusal : Handler Unit)) c₁ Q
        fun _ c' => Apart c c' := by
    intro record refusal Q
    rw [ensures_bind]
    exact (Aside.audit record c₁).mono (fun _ _ h => trans_of Apart haside.toApart h.toApart)
      fun _ _ h => trans_of Apart haside.toApart h.toApart
  rw [ensures_bind]
  refine .whenever (fun _ => hrejected) fun hpermits => ?_
  rw [ensures_bind, ensures_theService, ensures_bind]
  refine .refuseIf (fun hvehicle => ?_) fun _ => haside.toApart
  rw [ensures_bind, ensures_theService, ensures_bind]
  refine .whenever (fun _ => hrejected) fun hfree => ?_
  have hready : Ready config driverId vehicleId c₁ := by
    refine ⟨not_not.mp hpermits, hdriver, fun hnone => hvehicle ?_, hfree⟩
    exact Option.map_eq_none_iff.mp hnone
  rw [ensures_bind]
  refine .liftResult (fun requestId _ => ?_) fun _ _ => haside.toApart
  have htail : Within Apart (do
      requireMobileApproval config w driverId vehicleId requestId
      let written ← tryAudit w ⟨"control_authority_grant_preflight",
        [("vehicle_id", .string vehicleId), ("driver_id", .string driverId)]⟩
      refuseIf (written = false)
        (.serviceUnavailable "audit log unavailable; new control authority is disabled")
      whenever (config.RequiresApproval vehicleId)
        (consumeApproval config w driverId vehicleId requestId)) :=
    (Apart.requireMobileApproval _ _ _).bind fun _ => (Aside.tryAudit _).apart.bind fun _ =>
      (Within.refuseIf _ _).bind fun _ => .whenever (Apart.consumeApproval _ _ _)
  exact (htail c₁).mono
    (fun _ _ h => ⟨trans_of Apart haside.toApart h, hready.held h.held⟩)
    fun _ _ h => trans_of Apart haside.toApart h

/-! ### Its states -/

/-- The session with the next name has been added, and is in the state. -/
structure Begun (driverId vehicleId : String) (state : SessionState) (c c' : Call) : Prop where
  standing : c'.standing = c.standing
  sessionCounter : c'.service.sessionCounter = c.service.sessionCounter + 1
  others : ∀ id, id ≠ sessionName (c.service.sessionCounter + 1) →
    c'.service.sessions.lookup id = c.service.sessions.lookup id
  self : ∃ session, c'.service.sessions.lookup (sessionName (c.service.sessionCounter + 1)) =
    some session ∧ session.driverId = driverId ∧ session.vehicleId = vehicleId ∧
      session.state = state

/-- A number has been given out, and nothing else has changed. -/
structure Counted (c c' : Call) : Prop where
  standing : c'.standing = c.standing
  sessionCounter : c'.service.sessionCounter = c.service.sessionCounter + 1
  sessions : c'.service.sessions = c.service.sessions

theorem Exclusive.counted (h : Exclusive config generations ∅ c) (hcounted : Counted c c') :
    Exclusive config generations ∅ c' := by
  constructor
  · intro id session hfound
    rw [hcounted.sessions] at hfound
    obtain ⟨counter, hcounter, hname⟩ := h.numbered id session hfound
    refine ⟨counter, ?_, hname⟩
    rw [hcounted.sessionCounter]
    omega
  · rw [hcounted.sessions]
    exact h.settled
  · rw [hcounted.sessions]
    exact h.single
  · rw [hcounted.sessions]
    exact h.permitted
  · rw [hcounted.sessions, hcounted.standing]
    exact h.connected
  · rw [hcounted.standing]
    exact h.welcome

theorem openSession_begins (driverId vehicleId : String) :
    Ensures (openSession config w driverId vehicleId) c
      (fun created c' => created.1 = sessionName (c.service.sessionCounter + 1) ∧
        Begun driverId vehicleId .online c c')
      fun _ c' => Counted c c' := by
  unfold openSession nowMs randomToken
  simp only [ensures_bind, ensures_theService, ensures_update, ensures_look]
  cases w.random (c.looks + 1) with
  | none => exact ⟨rfl, rfl, rfl⟩
  | some token =>
    rw [ensures_pure]
    refine .whenever (fun _ => ⟨rfl, rfl, rfl, fun id hid => ?_, ?_⟩)
      fun _ => ⟨rfl, rfl, rfl, fun id hid => ?_, ?_⟩
    · exact AList.lookup_insert_ne hid
    · exact ⟨_, AList.lookup_insert _, rfl, rfl, rfl⟩
    · exact AList.lookup_insert_ne hid
    · exact ⟨_, AList.lookup_insert _, rfl, rfl, rfl⟩

section
variable {driverId vehicleId : String}

theorem Begun.held {state : SessionState} {c'' : Call} (h : Begun driverId vehicleId state c c')
    (hheld : Held c' c'') : Begun driverId vehicleId state c c'' := by
  refine ⟨hheld.standing.trans h.standing, hheld.sessionCounter.trans h.sessionCounter, ?_, ?_⟩
  · rw [hheld.sessions]
    exact h.others
  · rw [hheld.sessions]
    exact h.self

theorem Begun.setState {state next : SessionState} (h : Begun driverId vehicleId state c c') :
    Begun driverId vehicleId next c { c' with
      service := c'.service.setState (sessionName (c.service.sessionCounter + 1)) next } := by
  obtain ⟨session, hfound, hdriver, hvehicle, -⟩ := h.self
  refine ⟨h.standing, h.sessionCounter, fun id hid => ?_, ?_⟩
  · exact (Table.lookup_adjust_ne _ hid).trans (h.others id hid)
  · exact ⟨_, lookup_setState next hfound, hdriver, hvehicle, rfl⟩

/-- The new session joins the others, with the generations of its parties. -/
theorem Begun.exclusive (owner : Party → ℕ) (hc : Exclusive config generations ∅ c)
    (hready : Ready config driverId vehicleId c) (h : Begun driverId vehicleId .active c c')
    (howner : ∀ party, c.standing.generation party ≠ none →
      c.standing.generation party = some (owner party)) :
    Exclusive config (Function.update generations (sessionName (c.service.sessionCounter + 1)) owner)
      ∅ c' := by
  have hfresh := hc.numbered.next_fresh
  obtain ⟨created, hcreated, hdriver, hvehicle, hstate⟩ := h.self
  have hold : ∀ {id session}, c.service.sessions.lookup id = some session →
      id ≠ sessionName (c.service.sessionCounter + 1) := by
    rintro id session hfound rfl
    exact absurd (hfresh.symm.trans hfound) (by simp)
  -- Every session is an earlier one, or the new one.
  have hcases : ∀ id session, c'.service.sessions.lookup id = some session →
      c.service.sessions.lookup id = some session ∨
        (id = sessionName (c.service.sessionCounter + 1) ∧ session = created) := by
    intro id session hfound
    by_cases hid : id = sessionName (c.service.sessionCounter + 1)
    · subst hid
      exact .inr ⟨rfl, Option.some.inj (hfound.symm.trans hcreated)⟩
    · exact .inl ((h.others id hid).symm.trans hfound)
  -- Nobody else is in control of the vehicle.
  have halone : ∀ id session, c.service.sessions.lookup id = some session →
      session.state = .active → session.vehicleId ≠ vehicleId := by
    intro id session hfound hactive hsame
    refine hready.free ⟨id, Table.mem_keys_of_lookup hfound, session, hfound, hsame, ?_⟩
    rw [Session.Open, hactive]
    decide
  constructor
  · intro id session hfound
    rw [h.sessionCounter]
    rcases hcases id session hfound with hearlier | ⟨rfl, rfl⟩
    · obtain ⟨counter, hcounter, hname⟩ := hc.numbered id session hearlier
      exact ⟨counter, by omega, hname⟩
    · exact ⟨_, le_rfl, rfl⟩
  · intro id session hfound
    rcases hcases id session hfound with hearlier | ⟨rfl, rfl⟩
    · exact hc.settled id session hearlier
    · exact .inl hstate
  · intro id id' session session' hfound hfound' hactive hactive' hsame
    rcases hcases id session hfound with hearlier | ⟨rfl, rfl⟩
    · rcases hcases id' session' hfound' with hearlier' | ⟨rfl, rfl⟩
      · exact hc.single id id' session session' hearlier hearlier' hactive hactive' hsame
      · exact absurd (hsame.trans hvehicle) (halone id session hearlier hactive)
    · rcases hcases id' session' hfound' with hearlier' | ⟨rfl, rfl⟩
      · exact absurd (hsame.symm.trans hvehicle) (halone id' session' hearlier' hactive')
      · rfl
  · intro id session hfound
    rcases hcases id session hfound with hearlier | ⟨rfl, rfl⟩
    · exact hc.permitted id session hearlier
    · rw [hdriver, hvehicle]
      exact hready.permitted
  · intro id session hfound hactive party hhas howing
    rw [h.standing]
    rcases hcases id session hfound with hearlier | ⟨rfl, rfl⟩
    · rw [Function.update_of_ne (hold hearlier)]
      exact hc.connected id session hearlier hactive party hhas howing
    · rw [Function.update_self]
      refine howner party ?_
      cases party with
      | driver id =>
        obtain rfl := hdriver.symm.trans hhas
        exact hready.driver
      | vehicle id =>
        obtain rfl := hvehicle.symm.trans hhas
        exact hready.vehicle
  · rw [h.standing]
    exact hc.welcome

variable (hwrites : w.Writes)
include hwrites

theorem Begun.transition {state next : SessionState} {reason : String}
    (h : Begun driverId vehicleId state c c') (hallowed : state.Allowed next)
    (hsame : state ≠ next) :
    Ensures (transitionSession w (sessionName (c.service.sessionCounter + 1)) next reason) c'
      (fun _ => Begun driverId vehicleId next c) fun _ _ => False := by
  obtain ⟨session, hfound, -, -, hstate⟩ := h.self
  subst hstate
  exact transitionSession_cases hfound (fun h => absurd h hsame) (fun h => absurd hallowed h)
    fun _ => hwrites.ensures_audit (h.setState.held ⟨rfl, rfl, rfl⟩)

theorem grantAuthority_activates {session : Session}
    (h : Begun driverId vehicleId .online c c') :
    Ensures (grantAuthority config w (sessionName (c.service.sessionCounter + 1)) session) c'
      (fun _ => Begun driverId vehicleId .active c) fun _ _ => False := by
  unfold grantAuthority
  rw [ensures_bind]
  refine hwrites.ensures_audit ?_
  have hreserve : SessionState.online.Allowed .reserved := by decide
  have hconnect : SessionState.reserved.Allowed .connecting := by decide
  have hactivate : SessionState.connecting.Allowed .active := by decide
  have h₀ : ∀ asked, Begun driverId vehicleId .online c { c' with asked := asked } :=
    fun _ => h.held ⟨rfl, rfl, rfl⟩
  refine ((h₀ _).transition hwrites hreserve nofun).bind fun _ c₁ h₁ => ?_
  refine (h₁.transition hwrites hconnect nofun).bind fun _ c₂ h₂ => ?_
  refine (h₂.transition hwrites hactivate nofun).bind fun _ c₃ h₃ => ?_
  simp only [ensures_bind, ensures_theService, ensures_tryAudit]
  refine .whenever (fun hrefused => ?_) fun _ => h₃.held ⟨rfl, rfl, rfl⟩
  exact absurd ((hwrites _).symm.trans hrefused) (by decide)

end

/-- The invariant holds afterwards, with the generations of the earlier sessions as they were. -/
def Joins (config : SignalingServerConfig) (generations : String → Party → ℕ) (c c' : Call) :
    Prop :=
  ∃ generations', (∀ id session, c.service.sessions.lookup id = some session →
    generations' id = generations id) ∧ Exclusive config generations' ∅ c'

theorem Exclusive.joins (h : Exclusive config generations ∅ c') :
    Joins config generations c c' :=
  ⟨generations, fun _ _ _ => rfl, h⟩

theorem createSession_grants (hwrites : w.Writes) (hc : Exclusive config generations ∅ c)
    (body : Json) :
    Ensures (createSession config w body) c (fun _ => Joins config generations c)
      fun _ => Joins config generations c := by
  unfold createSession
  rw [ensures_bind]
  refine .liftResult (fun driverId _ => ?_) fun _ _ => hc.joins
  rw [ensures_bind]
  refine .liftResult (fun vehicleId _ => ?_) fun _ _ => hc.joins
  rw [ensures_bind]
  refine (authorizeSession_ready driverId vehicleId body).mono ?_
    fun _ _ hapart => (hc.held hapart.held).joins
  rintro _ c₁ ⟨hapart, hready⟩
  have hc₁ := hc.held hapart.held
  rw [ensures_bind]
  refine (openSession_begins driverId vehicleId).mono ?_
    fun _ _ hcounted => (hc₁.counted hcounted).joins
  rintro ⟨sessionId, session⟩ c₂ ⟨rfl, hbegun⟩
  rw [ensures_bind, ensures_tryCatch]
  refine (grantAuthority_activates hwrites hbegun).mono (fun _ c₃ hactive => ?_)
    fun _ _ => False.elim
  refine ⟨_, fun id session hfound => Function.update_of_ne ?_ _ _,
    hactive.exclusive (fun party => (c₁.standing.generation party).getD 0) hc₁ hready ?_⟩
  · rintro rfl
    rw [← hapart.held.sessions, hc₁.numbered.next_fresh] at hfound
    cases hfound
  · intro party honline
    obtain ⟨generation, hgeneration⟩ := Option.ne_none_iff_exists'.mp honline
    rw [hgeneration, Option.getD_some]

/-! ## What there is of a session later -/

/-- The session goes on under its parties, and stays closed once it is. -/
structure Session.Continues (session session' : Session) : Prop where
  vehicleId : session'.vehicleId = session.vehicleId
  driverId : session'.driverId = session.driverId
  closed : session.state = .closed → session'.state = .closed

theorem Session.Continues.refl (session : Session) : session.Continues session :=
  ⟨rfl, rfl, id⟩

theorem Session.Continues.trans {session session' session'' : Session}
    (h : session.Continues session') (h' : session'.Continues session'') :
    session.Continues session'' :=
  ⟨h'.vehicleId.trans h.vehicleId, h'.driverId.trans h.driverId, fun hs => h'.closed (h.closed hs)⟩

/-- Every session goes on. -/
def Persists (service service' : SignalingService) : Prop :=
  ∀ id session, service.sessions.lookup id = some session →
    ∃ session', service'.sessions.lookup id = some session' ∧ session.Continues session'

theorem Persists.of_sessions {service service' : SignalingService}
    (h : service'.sessions = service.sessions) : Persists service service' :=
  fun _ session hfound => ⟨session, h ▸ hfound, .refl session⟩

theorem Persists.trans {service service' service'' : SignalingService}
    (h : Persists service service') (h' : Persists service' service'') :
    Persists service service'' := by
  intro id session hfound
  obtain ⟨session', hfound', hcontinues⟩ := h id session hfound
  obtain ⟨session'', hfound'', hcontinues'⟩ := h' id session' hfound'
  exact ⟨session'', hfound'', hcontinues.trans hcontinues'⟩

theorem Persists.adjust (service : SignalingService) (sessionId : String) {f : Session → Session}
    (hf : ∀ session, service.sessions.lookup sessionId = some session →
      session.Continues (f session)) :
    Persists service (service.adjustSession sessionId f) := by
  intro id session hfound
  by_cases hid : id = sessionId
  · subst hid
    refine ⟨f session, (Table.lookup_adjust _).trans ?_, hf session hfound⟩
    rw [if_pos rfl, hfound]
    rfl
  · exact ⟨session, (Table.lookup_adjust_ne _ hid).trans hfound, .refl session⟩

theorem Persists.empty (service : SignalingService) (sessionId : String) (session : Session) :
    Persists service (service.empty sessionId session) := by
  have hadjusted := Persists.adjust service sessionId
    (f := ({ · with controlToken := "", controlTokenExpiresAtMs := 0 }))
    fun _ _ => ⟨rfl, rfl, id⟩
  exact hadjusted.trans (.of_sessions rfl)

theorem Persists.close (service : SignalingService) (sessionId : String) :
    Persists service (service.setState sessionId .closed) :=
  .adjust service sessionId fun _ _ => ⟨rfl, rfl, fun _ => rfl⟩

theorem SessionState.closed_not_allowed (next : SessionState) : ¬SessionState.closed.Allowed next := by
  cases next <;> decide

theorem Move.persists {g : Grounds} (hmove : Move config g c c') (hnumbered : c.service.Numbered) :
    Persists c.service c'.service := by
  cases hmove with
  | aside haside => exact .of_sessions (congrArg Traffic.sessions haside.traffic)
  | counted | expired | consumed | acknowledged => exact .of_sessions rfl
  | opened session =>
    intro id earlier hfound
    refine ⟨earlier, (AList.lookup_insert_ne ?_).trans hfound, .refl earlier⟩
    rintro rfl
    rw [hnumbered.next_fresh] at hfound
    cases hfound
  | advanced hfound hallowed =>
    refine .adjust _ _ fun session' hfound' => ⟨rfl, rfl, fun hclosed => ?_⟩
    obtain rfl := Option.some.inj (hfound'.symm.trans hfound)
    rw [hclosed] at hallowed
    exact absurd hallowed (SessionState.closed_not_allowed _)
  | renewed => exact .adjust _ _ fun _ _ => ⟨rfl, rfl, id⟩
  | emptied => exact .empty _ _ _
  | stopped hfound hallowed =>
    refine (Persists.empty _ _ _).trans (.adjust _ _ fun session' hfound' => ⟨rfl, rfl, ?_⟩)
    intro hclosed
    obtain rfl := Option.some.inj (hfound'.symm.trans (lookup_empty hfound))
    have hclosed : _ = SessionState.closed := hclosed
    rw [hclosed] at hallowed
    exact absurd hallowed (SessionState.closed_not_allowed _)
  | closed | abandoned => exact .close _ _
  | queued => exact .of_sessions (SignalingService.queue_sessions _).1

/-- Only a request that has grounds to open a session adds one. -/
theorem Move.unopened {g : Grounds} (hmove : Move config g c c') (hopens : ¬g.opens) (id : String)
    (hnone : c.service.sessions.lookup id = none) : c'.service.sessions.lookup id = none := by
  have hadjusted : ∀ (service : SignalingService) (sessionId : String) (f : Session → Session),
      service.sessions.lookup id = none →
      (service.adjustSession sessionId f).sessions.lookup id = none := by
    intro service sessionId f hnone
    refine (Table.lookup_adjust f).trans ?_
    rw [hnone]
    split <;> rfl
  cases hmove with
  | aside haside =>
    have hsessions : c'.service.sessions = c.service.sessions :=
      congrArg Traffic.sessions haside.traffic
    rw [hsessions, hnone]
  | counted | expired | consumed | acknowledged => exact hnone
  | opened session hstate hopened => exact absurd hopened hopens
  | advanced | renewed | closed | abandoned | emptied => exact hadjusted _ _ _ hnone
  | stopped => exact hadjusted _ _ _ (hadjusted _ _ _ hnone)
  | queued =>
    exact (congrArg (·.lookup id) (SignalingService.queue_sessions _).1).trans hnone

theorem Moves.unopened {g : Grounds} (hmoves : Moves config g c c') (hopens : ¬g.opens)
    (id : String) (hnone : c.service.sessions.lookup id = none) :
    c'.service.sessions.lookup id = none := by
  induction hmoves with
  | refl => exact hnone
  | tail _ hmove ih => exact hmove.unopened hopens id ih

theorem Moves.persists {g : Grounds} (hmoves : Moves config g c c')
    (hnumbered : c.service.Numbered) : c'.service.Numbered ∧ Persists c.service c'.service := by
  induction hmoves with
  | refl => exact ⟨hnumbered, .of_sessions rfl⟩
  | tail _ hmove ih => exact ⟨hmove.numbered ih.1, ih.2.trans (hmove.persists ih.1)⟩

/-! ## Calls -/

section
variable (hwrites : w.Writes)
include hwrites

theorem carried_keeps : Carried config w (Keeps config generations) where
  aside _ _ h hc := hc.held h.toApart.held
  cleanup := cleanup_keeps hwrites
  approvals := keeps_apart Apart.cleanupMobileApprovals
  takes _ _ _ _ := keeps_held (Held.takeSignalingMessages _ _ _ _)
  acknowledges _ _ _ _ := keeps_held (Held.acknowledgeSignalingMessages _ _ _ _)
  enqueues _ _ _ := keeps_held (Held.enqueueSignalingMessage _ _ _)

theorem handle_keeps (request : Request) (hrequest : ∀ body, request ≠ .createSession body) :
    Within (Keeps config generations) (request.handle config w) := by
  cases request with
  | revokeDriver body => exact revokeDriver_keeps hwrites body
  | restoreDriver body => exact restoreDriver_keeps body
  | revokeVehicle body => exact revokeVehicle_keeps hwrites body
  | restoreVehicle body => exact restoreVehicle_keeps body
  | driverLogin body => exact driverLogin_keeps body
  | driverHeartbeat body => exact keeps_aside (Aside.driverHeartbeat body)
  | driverLogout body => exact driverLogout_keeps hwrites body
  | vehicleOnline body => exact vehicleOnline_keeps hwrites body
  | vehicleHeartbeat body => exact keeps_aside (Aside.vehicleHeartbeat body)
  | vehicleOffline body => exact vehicleOffline_keeps hwrites body
  | approvalCancel body => exact approvalCancel_keeps hwrites body
  | createSession body => exact absurd rfl (hrequest body)
  | renewSession sessionId body => exact renewSession_keeps sessionId body
  | endSession sessionId body => exact closeAuthority_keeps hwrites sessionId body _ _
  | revokeAuthority sessionId body => exact closeAuthority_keeps hwrites sessionId body _ _
  | report sessionId body records => exact keeps_aside (Aside.report sessionId body records)
  | postMessage sessionId body =>
    exact (keeps_held (Held.enqueueSignalingMessage sessionId body none)).bind fun _ => .pure _
  | authorizedVehicles driverId token =>
    exact keeps_aside (Aside.authorizedVehicles driverId token)
  | pollMessages sessionId recipient types credentials =>
    exact (carried_keeps hwrites).pollMessages sessionId recipient types credentials
  | vehicleSession vehicleId credentials =>
    exact keeps_aside (Aside.vehicleSession vehicleId credentials)
  | readSession sessionId actor credentials =>
    exact keeps_aside (Aside.readSession sessionId actor credentials)
  | iceServers sessionId actor credentials =>
    exact keeps_aside (Aside.iceServers sessionId actor credentials)
  | mobileLogin source body => exact keeps_aside (Aside.mobileLogin source body)
  | mobileLogout token => exact keeps_aside (Aside.mobileLogout token)
  | mobileRequests token => exact keeps_aside (Aside.mobileRequests token)
  | mobileDecision token requestId body =>
    exact keeps_apart (Apart.mobileDecision token requestId body)
  | sessionLogs driverId token start =>
    exact (carried_keeps hwrites).sessionLogs driverId token start

theorem serve_joins (hc : Exclusive config generations ∅ c) (request : Request) :
    Ensures (request.serve config w) c (fun _ => Joins config generations c)
      fun _ => Joins config generations c := by
  by_cases hrequest : ∀ body, request ≠ .createSession body
  · refine exclusive_of_keeps (((carried_keeps hwrites).prepare request).bind fun _ =>
      handle_keeps hwrites request hrequest) hc |>.mono (fun _ _ h => h.joins) fun _ _ h => h.joins
  · push Not at hrequest
    obtain ⟨body, rfl⟩ := hrequest
    unfold Request.serve
    rw [ensures_bind]
    have hfollows : Within (Follows config .none) (Request.prepare config w (.createSession body)) :=
      prepare_follows _
    refine (((carried_keeps hwrites).prepare _ c).and (hfollows c)).mono ?_ fun _ _ h => (h.1 hc).joins
    rintro _ c₁ ⟨hkeeps, hfollows⟩
    have hpersists := (Moves.persists hfollows hc.numbered).2
    have hjoins : ∀ c', Joins config generations c₁ c' → Joins config generations c c' := by
      rintro c' ⟨generations', hsame, hexclusive⟩
      refine ⟨generations', fun id session hfound => ?_, hexclusive⟩
      obtain ⟨session', hfound', -⟩ := hpersists id session hfound
      exact hsame id session' hfound'
    exact (createSession_grants hwrites (hkeeps hc) body).mono (fun _ => hjoins) fun _ => hjoins

end

/-! ## Runs -/

/-- The invariant of the service between two calls. -/
abbrev SignalingService.Exclusive (service : SignalingService) (config : SignalingServerConfig)
    (generations : String → Party → ℕ) : Prop :=
  Signaling.Exclusive config generations ∅ (.start service)

theorem step_joins {station : Station} {occasion : Occasion} (hwrites : occasion.1.Writes)
    (h : station.service.Exclusive config generations) :
    ∃ generations', (∀ id session, station.service.sessions.lookup id = some session →
      generations' id = generations id) ∧
      (station.step config occasion).2.service.Exclusive config generations' := by
  obtain ⟨w, action⟩ := occasion
  by_cases haction : ∀ request, action ≠ .request request
  · obtain ⟨c', hkeeps, hservice⟩ := (carried_keeps hwrites).step station haction
    refine ⟨generations, fun _ _ _ => rfl, ?_⟩
    rw [← hservice]
    exact (hkeeps h).held ⟨rfl, rfl, rfl⟩
  · push Not at haction
    obtain ⟨request, rfl⟩ := haction
    obtain ⟨generations', hsame, hexclusive⟩ :=
      ensures_state.mp (serve_joins hwrites h request)
    exact ⟨generations', hsame, hexclusive.held ⟨rfl, rfl, rfl⟩⟩

theorem step_persists {station : Station} (occasion : Occasion)
    (hnumbered : station.service.Numbered) :
    Persists station.service (station.step config occasion).2.service := by
  obtain ⟨c', hfollows, hservice, -, -⟩ := @step_did config station occasion
  have hpersists := (Moves.persists hfollows hnumbered).2
  rwa [hservice] at hpersists

/-- The generation of a party that is connected. -/
def SignalingService.generation (service : SignalingService) (party : Party) : Option ℕ :=
  (service.presence party).map (·.generation)

def SignalingService.Revoked (service : SignalingService) : Party → Prop
  | .driver id => id ∈ service.revokedDrivers
  | .vehicle id => id ∈ service.revokedVehicles

/-- What the sessions of a service are like after a history. -/
structure ExclusiveAuthority (config : SignalingServerConfig)
    (history : History Station Occasion Outcome) (service : SignalingService) : Prop where
  settled : ∀ id session, service.sessions.lookup id = some session →
    session.state = .active ∨ session.state = .closed
  single : ∀ id id' session session', service.sessions.lookup id = some session →
    service.sessions.lookup id' = some session' → session.Open → session'.Open →
    session.vehicleId = session'.vehicleId → id = id'
  permitted : ∀ id session, service.sessions.lookup id = some session →
    config.Permits session.driverId session.vehicleId
  connected : ∀ id session, service.sessions.lookup id = some session → session.Open →
    ∀ party, session.Has party → (∃ generation, service.generation party = some generation) ∧
      ¬service.Revoked party
  unreplaced : ∀ id session, service.sessions.lookup id = some session → session.Open →
    ∀ st ∈ history, (∃ earlier, st.after.service.sessions.lookup id = some earlier) →
      ∀ party, session.Has party → st.after.service.generation party = service.generation party

/-- The generations of the sessions are those that their parties have had ever since. -/
structure Lasting (config : SignalingServerConfig) (generations : String → Party → ℕ)
    (history : History Station Occasion Outcome) (service : SignalingService) : Prop where
  exclusive : service.Exclusive config generations
  earlier : ∀ st ∈ history, Persists st.after.service service ∧
    st.after.service.Exclusive config generations

theorem SignalingService.Exclusive.agree {service : SignalingService}
    {generations' : String → Party → ℕ} (h : service.Exclusive config generations)
    (hsame : ∀ id session, service.sessions.lookup id = some session →
      generations' id = generations id) : service.Exclusive config generations' := by
  refine ⟨h.numbered, h.settled, h.single, h.permitted, fun id session hfound hactive => ?_,
    h.welcome⟩
  rw [hsame id session hfound]
  exact h.connected id session hfound hactive

theorem Lasting.step {history : History Station Occasion Outcome} {station : Station}
    (h : Lasting config generations history station.service) (occasion : Occasion)
    (hwrites : occasion.1.Writes) :
    ∃ generations', Lasting config generations'
      ((Station.machine config).observe station occasion :: history)
      (station.step config occasion).2.service := by
  obtain ⟨generations', hsame, hexclusive⟩ := step_joins hwrites h.exclusive
  have hpersists : Persists station.service (station.step config occasion).2.service :=
    step_persists occasion h.exclusive.numbered
  refine ⟨generations', hexclusive, fun st hst => ?_⟩
  rcases List.mem_cons.mp hst with rfl | hst
  · exact ⟨.of_sessions rfl, hexclusive⟩
  · obtain ⟨hpast, hearlier⟩ := h.earlier st hst
    refine ⟨hpast.trans hpersists, hearlier.agree fun id session hfound => ?_⟩
    obtain ⟨session', hfound', -⟩ := hpast id session hfound
    exact hsame id session' hfound'

theorem lasting_of_run {history : History Station Occasion Outcome} {station : Station}
    (hrun : Run (Station.machine config) history station)
    (hwrites : Steps (fun st => st.event.1.Writes) history) :
    ∃ generations, Lasting config generations history station.service := by
  refine hrun.link (C := fun st => st.event.1.Writes)
    (R := fun history station => ∃ generations, Lasting config generations history station.service)
    ⟨fun _ _ => 0, ?_, fun _ hst => absurd hst List.not_mem_nil⟩ ?_ hwrites
  · refine ⟨nofun, nofun, nofun, nofun, nofun, fun party _ honline => absurd ?_ honline⟩
    cases party <;> rfl
  · rintro history station occasion - ⟨generations, hlasting⟩ hwrites
    exact hlasting.step occasion hwrites

theorem Lasting.exclusiveAuthority {history : History Station Occasion Outcome}
    {service : SignalingService} (h : Lasting config generations history service) :
    ExclusiveAuthority config history service := by
  have hactive : ∀ {id session}, service.sessions.lookup id = some session → session.Open →
      session.state = .active := fun hfound hopen =>
    (h.exclusive.settled _ _ hfound).resolve_right hopen
  constructor
  · exact h.exclusive.settled
  · intro id id' session session' hfound hfound' hopen hopen'
    exact h.exclusive.single id id' session session' hfound hfound' (hactive hfound hopen)
      (hactive hfound' hopen')
  · exact h.exclusive.permitted
  · intro id session hfound hopen party hhas
    have honline := h.exclusive.connected id session hfound (hactive hfound hopen) party hhas
      (Set.notMem_empty _)
    refine ⟨⟨_, honline⟩, fun hrevoked => ?_⟩
    refine h.exclusive.welcome party (Set.notMem_empty _) (honline ▸ nofun) ?_
    cases party <;> exact hrevoked
  · intro id session hfound hopen st hst ⟨earlier, hearlier⟩ party hhas
    obtain ⟨hpast, hexclusive⟩ := h.earlier st hst
    obtain ⟨session', hfound', hcontinues⟩ := hpast id earlier hearlier
    obtain rfl := Option.some.inj (hfound.symm.trans hfound')
    have hopened : earlier.state = .active :=
      (hexclusive.settled id earlier hearlier).resolve_right fun hclosed =>
        hopen (hcontinues.closed hclosed)
    have hhas' : earlier.Has party := by
      cases party with
      | driver driverId => exact hcontinues.driverId.symm.trans hhas
      | vehicle vehicleId => exact hcontinues.vehicleId.symm.trans hhas
    have hthen := hexclusive.connected id earlier hearlier hopened party hhas'
      (Set.notMem_empty _)
    have hnow := h.exclusive.connected id session hfound (hactive hfound hopen) party hhas
      (Set.notMem_empty _)
    exact hthen.trans hnow.symm

theorem authority_exclusive {history : History Station Occasion Outcome} {station : Station}
    (hrun : Run (Station.machine config) history station)
    (hwrites : Steps (fun st => st.event.1.Writes) history) :
    ExclusiveAuthority config history station.service ∧
      ∀ st ∈ history, Persists st.after.service station.service := by
  obtain ⟨generations, hlasting⟩ := lasting_of_run hrun hwrites
  exact ⟨hlasting.exclusiveAuthority, fun st hst => (hlasting.earlier st hst).1⟩

/-- The driver and the vehicle come, and a session begins. -/
def exampleBegin : List Occasion :=
  [(smoothly 1000 "one", .request exampleLogin), (smoothly 1001 "two", .request exampleOnline),
    (smoothly 1002 "three", .request exampleCreate)]

theorem authority_exclusive_begin :
    (∃ session ∈ ((Station.machine exampleConfig).play exampleBegin).2.service.sessions.lookup
      "session-000001", session.Open) ∧
    ExclusiveAuthority exampleConfig ((Station.machine exampleConfig).play exampleBegin).1
      ((Station.machine exampleConfig).play exampleBegin).2.service ∧
    ∀ st ∈ ((Station.machine exampleConfig).play exampleBegin).1,
      Persists st.after.service ((Station.machine exampleConfig).play exampleBegin).2.service :=
  ⟨by decide +kernel,
    authority_exclusive (.play _ _) ⟨fun _ => rfl, fun _ => rfl, fun _ => rfl, trivial⟩⟩

end MineTeleop.Signaling
