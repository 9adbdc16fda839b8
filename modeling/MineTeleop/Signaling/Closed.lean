import MineTeleop.Signaling.Keys
import MineTeleop.Signaling.Steps

/-!
# Closed sessions

What a session that is over still holds: token, expiry and queued messages.

Proved here, for every configuration:

* `Move.numbered`: whatever is done, every session has the name of a number that has been given
  out;
* `Move.quiet`: every move but the one that abandons a new session leaves the sessions that are
  over without token, expiry and messages;
* `closedSessions_hold_nothing`: so closed sessions hold nothing in every run in which no record
  that announces a new session is refused;
* `abandonedSession_holds_token`: where one is refused, the closed session keeps its token.
-/

namespace MineTeleop.Signaling

open Documents Programs Tables Runs

variable {config : SignalingServerConfig} {g : Grounds} {c c' : Call}

/-! ## Names -/

/-- Every session has the name of a number that has been given out. -/
def SignalingService.Numbered (service : SignalingService) : Prop :=
  ∀ sessionId session, service.sessions.lookup sessionId = some session →
    ∃ counter ≤ service.sessionCounter, sessionId = sessionName counter

namespace SignalingService.Numbered

variable {service : SignalingService}

theorem named (h : service.Numbered) {sessionId : String} {session : Session}
    (hfound : service.sessions.lookup sessionId = some session) : Named sessionId := by
  obtain ⟨counter, -, rfl⟩ := h sessionId session hfound
  exact separator_notMem_sessionName counter

/-- The next session gets a name that none has. -/
theorem next_fresh (h : service.Numbered) :
    service.sessions.lookup (sessionName (service.sessionCounter + 1)) = none := by
  by_contra hfound
  obtain ⟨session, hfound⟩ := Option.ne_none_iff_exists'.mp hfound
  obtain ⟨counter, hcounter, hname⟩ := h _ _ hfound
  have := sessionName_injective hname
  omega

theorem adjust (h : service.Numbered) (sessionId : String) (f : Session → Session) :
    (service.adjustSession sessionId f).Numbered := by
  intro sessionId' session' hfound'
  replace hfound' : (service.sessions.adjust sessionId f).lookup sessionId' = _ := hfound'
  rw [Table.lookup_adjust] at hfound'
  split at hfound'
  · obtain ⟨session, hfound, -⟩ := Option.map_eq_some_iff.mp hfound'
    exact h _ session hfound
  · exact h _ session' hfound'

theorem empty (h : service.Numbered) (sessionId : String) (session : Session) :
    (service.empty sessionId session).Numbered :=
  h.adjust sessionId ({ · with controlToken := "", controlTokenExpiresAtMs := 0 })

theorem counted (h : service.Numbered) :
    ({ service with sessionCounter := service.sessionCounter + 1 } : SignalingService).Numbered := by
  intro sessionId session hfound
  obtain ⟨counter, hcounter, hname⟩ := h sessionId session hfound
  exact ⟨counter, Nat.le_succ_of_le hcounter, hname⟩

theorem addSession (h : service.Numbered) (session : Session) :
    (service.addSession session).Numbered := by
  intro sessionId session' hfound
  replace hfound := (Table.lookup_insert _).symm.trans hfound
  split at hfound
  · exact ⟨_, le_rfl, by assumption⟩
  · exact h.counted sessionId session' hfound

end SignalingService.Numbered

theorem SignalingService.queue_sessions {service : SignalingService} (accepted : Accepted) :
    (service.queue accepted).sessions = service.sessions ∧
      (service.queue accepted).sessionCounter = service.sessionCounter := by
  unfold SignalingService.queue SignalingService.deliver
  split <;> exact ⟨rfl, rfl⟩

theorem SignalingService.Numbered.queue {service : SignalingService} (h : service.Numbered)
    (accepted : Accepted) : (service.queue accepted).Numbered := by
  intro sessionId session hfound
  obtain ⟨hsessions, hcounter⟩ := service.queue_sessions accepted
  rw [hcounter]
  exact h sessionId session (hsessions ▸ hfound)

theorem Move.numbered (hmove : Move config g c c') (h : c.service.Numbered) :
    c'.service.Numbered := by
  cases hmove with
  | aside haside =>
    have hsessions : c'.service.sessions = c.service.sessions :=
      congrArg Traffic.sessions haside.traffic
    have hcounter : c'.service.sessionCounter = c.service.sessionCounter :=
      congrArg Traffic.sessionCounter haside.traffic
    intro sessionId session hfound
    rw [hcounter]
    exact h sessionId session (hsessions ▸ hfound)
  | counted => exact h.counted
  | opened session => exact h.addSession session
  | advanced | renewed | closed | abandoned => exact h.adjust _ _
  | emptied => exact h.empty _ _
  | stopped => exact (h.empty _ _).adjust _ _
  | expired | consumed | acknowledged => exact h
  | queued => exact h.queue _

/-! ## What is left of a session -/

/-- The session has no token and no messages wait for its participants. -/
structure HoldsNothing (service : SignalingService) (sessionId : String) (session : Session) :
    Prop where
  controlToken : session.controlToken = ""
  controlTokenExpiresAtMs : session.controlTokenExpiresAtMs = 0
  messages : ∀ participant, session.Participant participant →
    service.messages.lookup (messageKey sessionId participant) = none
  latestControlMessages : ∀ participant, session.Participant participant →
    service.latestControlMessages.lookup (messageKey sessionId participant) = none

/-- No mailbox has been filled that was empty. -/
structure Fewer (service service' : SignalingService) : Prop where
  messages : ∀ key, service.messages.lookup key = none → service'.messages.lookup key = none
  latestControlMessages : ∀ key, service.latestControlMessages.lookup key = none →
    service'.latestControlMessages.lookup key = none

theorem HoldsNothing.fewer {service service' : SignalingService} {sessionId : String}
    {session : Session} (h : HoldsNothing service sessionId session)
    (hfewer : Fewer service service') : HoldsNothing service' sessionId session where
  controlToken := h.controlToken
  controlTokenExpiresAtMs := h.controlTokenExpiresAtMs
  messages participant hp := hfewer.messages _ (h.messages participant hp)
  latestControlMessages participant hp :=
    hfewer.latestControlMessages _ (h.latestControlMessages participant hp)

namespace SignalingService

variable {service : SignalingService}

/-- Sessions that are over hold nothing. -/
def Quiet (service : SignalingService) : Prop :=
  ∀ sessionId session, service.sessions.lookup sessionId = some session →
    session.state = .stopping ∨ session.state = .closed → HoldsNothing service sessionId session

theorem Quiet.fewer {service' : SignalingService} (h : service.Quiet)
    (hfewer : Fewer service service') (hsessions : service'.sessions = service.sessions) :
    service'.Quiet := fun sessionId session hfound hover =>
  (h sessionId session (hsessions ▸ hfound) hover).fewer hfewer

theorem Quiet.adjust (h : service.Quiet) {sessionId : String} {f : Session → Session}
    (hself : ∀ session, service.sessions.lookup sessionId = some session →
      (f session).state = .stopping ∨ (f session).state = .closed →
      HoldsNothing service sessionId (f session)) :
    (service.adjustSession sessionId f).Quiet := by
  intro sessionId' session' hfound' hover
  replace hfound' : (service.sessions.adjust sessionId f).lookup sessionId' = _ := hfound'
  rw [Table.lookup_adjust] at hfound'
  split at hfound'
  · rename_i hsame
    obtain ⟨session, hfound, rfl⟩ := Option.map_eq_some_iff.mp hfound'
    subst hsame
    exact (hself session hfound hover).fewer ⟨fun _ => id, fun _ => id⟩
  · exact (h sessionId' session' hfound' hover).fewer ⟨fun _ => id, fun _ => id⟩

/-! ### Mailboxes that are emptied -/

theorem fewer_forgetMailboxes (sessionId : String) (session : Session) :
    Fewer service (service.forgetMailboxes sessionId session) := by
  constructor <;> intro key hnone <;> simp [forgetMailboxes, Table.lookup_erase, hnone]

/-- A queue that is put back with what is kept of it. -/
theorem lookup_kept (table : Table (List Message)) (kept : List Message) (key key' : String) :
    (if kept = [] then table.erase key else table.insert key kept).lookup key' =
      if key' = key then if kept = [] then none else some kept else table.lookup key' := by
  split
  · rw [Table.lookup_erase]
  · rw [Table.lookup_insert]

theorem lookup_kept_none {table : Table (List Message)} {key key' : String}
    (keeps : Message → Bool) (hnone : table.lookup key' = none) :
    (if ((table.lookup key).getD []).filter keeps = [] then table.erase key
      else table.insert key (((table.lookup key).getD []).filter keeps)).lookup key' = none := by
  rw [lookup_kept]
  by_cases hkey : key' = key
  · subst hkey
    simp [hnone]
  · rw [if_neg hkey, hnone]

theorem lookup_eraseIf_none {table : Table Message} {p : String → Message → Bool} {key : String}
    (hnone : table.lookup key = none) : (table.eraseIf p).lookup key = none := by
  rw [Table.lookup_eraseIf, hnone, Option.filter_none]

theorem fewer_expireMessages (recipientKey : String) (monotonicMs : ℤ) :
    Fewer service (service.expireMessages config recipientKey monotonicMs) :=
  ⟨fun _ => lookup_kept_none _, fun _ => lookup_eraseIf_none⟩

theorem fewer_consumeMessages (recipientKey requested : String) :
    Fewer service (service.consumeMessages recipientKey requested) :=
  ⟨fun _ => lookup_kept_none _, fun _ => lookup_eraseIf_none⟩

theorem fewer_acknowledge (recipientKey : String) (deliveryCursor : ℕ) (controlOnly : Bool) :
    Fewer service (service.acknowledge recipientKey deliveryCursor controlOnly) := by
  refine ⟨fun key hnone => ?_, fun _ => lookup_eraseIf_none⟩
  unfold acknowledge
  dsimp only
  split
  · exact hnone
  · exact lookup_kept_none _ hnone

theorem holdsNothing_empty (sessionId : String) (session : Session) :
    HoldsNothing (service.empty sessionId session) sessionId
      { session with controlToken := "", controlTokenExpiresAtMs := 0 } := by
  constructor
  · rfl
  · rfl
  all_goals
    rintro participant (rfl | rfl) <;>
      simp [SignalingService.empty, forgetMailboxes, adjustSession, Table.lookup_erase]

theorem Quiet.empty (h : service.Quiet) {sessionId : String} {session : Session}
    (hfound : service.sessions.lookup sessionId = some session) :
    (service.empty sessionId session).Quiet := by
  have hforgotten : (service.forgetMailboxes sessionId session).Quiet :=
    h.fewer (fewer_forgetMailboxes sessionId session) rfl
  refine hforgotten.adjust fun session' hfound' _ => ?_
  obtain rfl := Option.some.inj (hfound'.symm.trans hfound)
  exact (holdsNothing_empty sessionId session').fewer ⟨fun _ => id, fun _ => id⟩

theorem Quiet.setState (h : service.Quiet) {sessionId : String} {session : Session}
    {state : SessionState} (hfound : service.sessions.lookup sessionId = some session)
    (hself : HoldsNothing service sessionId session) :
    (service.setState sessionId state).Quiet := by
  refine h.adjust fun session' hfound' _ => ?_
  obtain rfl := Option.some.inj (hfound'.symm.trans hfound)
  exact ⟨hself.controlToken, hself.controlTokenExpiresAtMs, hself.messages,
    hself.latestControlMessages⟩

end SignalingService

/-- Only the mailbox of an active session is filled. -/
theorem SignalingService.Quiet.queue {service : SignalingService} (h : service.Quiet)
    (hnumbered : service.Numbered) {accepted : Accepted}
    (hadmitted : accepted.post.Admitted service) : (service.queue accepted).Quiet := by
  obtain ⟨hsessions, -⟩ := service.queue_sessions accepted
  obtain ⟨active, hactive, hstate, -⟩ := hadmitted.active
  intro sessionId session hfound hover
  rw [hsessions] at hfound
  have hother : ∀ participant,
      messageKey sessionId participant ≠ accepted.post.recipientKey := by
    intro participant hkey
    obtain ⟨rfl, -⟩ := messageKey_inj (hnumbered.named hfound) (hnumbered.named hactive) hkey
    obtain rfl := Option.some.inj (hfound.symm.trans hactive)
    rcases hover with hover | hover <;> exact absurd (hstate.symm.trans hover) (by decide)
  have hold := h sessionId session hfound hover
  refine ⟨hold.controlToken, hold.controlTokenExpiresAtMs, fun participant hp => ?_,
    fun participant hp => ?_⟩
  all_goals
    unfold SignalingService.queue SignalingService.deliver
    split
  · exact hold.messages participant hp
  · exact (Table.lookup_insert _).trans ((if_neg (hother participant)).trans
      (hold.messages participant hp))
  · exact (Table.lookup_insert _).trans ((if_neg (hother participant)).trans
      (hold.latestControlMessages participant hp))
  · exact hold.latestControlMessages participant hp

theorem Move.quiet (hmove : Move config g c c') (habandons : ¬g.abandons)
    (hnumbered : c.service.Numbered) (h : c.service.Quiet) : c'.service.Quiet := by
  cases hmove with
  | aside haside =>
    have hmessages : c'.service.messages = c.service.messages :=
      congrArg Traffic.messages haside.traffic
    have hlatest : c'.service.latestControlMessages = c.service.latestControlMessages :=
      congrArg Traffic.latestControlMessages haside.traffic
    exact h.fewer ⟨by simp [hmessages], by simp [hlatest]⟩
      (congrArg Traffic.sessions haside.traffic)
  | counted => exact h.fewer ⟨fun _ => id, fun _ => id⟩ rfl
  | opened session hstate =>
    intro sessionId session' hfound hover
    replace hfound := (Table.lookup_insert _).symm.trans hfound
    split at hfound
    · obtain rfl := Option.some.inj hfound
      rcases hover with hover | hover <;> exact absurd (hstate.symm.trans hover) (by decide)
    · exact (h sessionId session' hfound hover).fewer ⟨fun _ => id, fun _ => id⟩
  | advanced hfound hallowed hstopping hclosed =>
    exact h.adjust fun _ _ hover => absurd hover (by tauto)
  | renewed expiresAtMs hfound hactive =>
    refine h.adjust fun session' hfound' hover => ?_
    obtain rfl := Option.some.inj (hfound'.symm.trans hfound)
    rcases hover with hover | hover <;> exact absurd (hactive.symm.trans hover) (by decide)
  | emptied hfound => exact h.empty hfound
  | stopped hfound =>
    exact (h.empty hfound).setState (lookup_empty hfound) (SignalingService.holdsNothing_empty _ _)
  | closed hfound hover => exact h.setState hfound (h _ _ hfound hover)
  | abandoned hrefused => exact absurd hrefused habandons
  | expired => exact h.fewer (SignalingService.fewer_expireMessages _ _) rfl
  | consumed => exact h.fewer (SignalingService.fewer_consumeMessages _ _) rfl
  | acknowledged => exact h.fewer (SignalingService.fewer_acknowledge _ _ _) rfl
  | queued hadmitted hnext hfrom => exact h.queue hnumbered hadmitted

theorem Moves.quiet (hmoves : Moves config g c c') (habandons : ¬g.abandons)
    (hnumbered : c.service.Numbered) (h : c.service.Quiet) :
    c'.service.Numbered ∧ c'.service.Quiet := by
  induction hmoves with
  | refl => exact ⟨hnumbered, h⟩
  | tail _ hmove ih => exact ⟨hmove.numbered ih.1, hmove.quiet habandons ih.1 ih.2⟩

/-! ## Runs -/

/-- Closed sessions hold nothing. -/
def ClosedHoldNothing (service : SignalingService) : Prop :=
  ∀ sessionId session, service.sessions.lookup sessionId = some session →
    session.state = .closed → HoldsNothing service sessionId session

theorem closedSessions_hold_nothing {history : History Station Occasion Outcome}
    {station : Station} (hrun : Run (Station.machine config) history station)
    (hwritten : Steps (fun st => GrantsWritten st.output.asked) history) :
    ClosedHoldNothing station.service := by
  have hinvariant : station.service.Numbered ∧ station.service.Quiet := by
    refine hrun.invariant_of_steps (I := fun s => s.service.Numbered ∧ s.service.Quiet)
      ⟨nofun, nofun⟩ (fun s occasion hs hstep => ?_) hwritten
    obtain ⟨c', hfollows, hservice, hasked, -⟩ := @step_did config s occasion
    have hquiet := Moves.quiet hfollows (fun hrefused => hrefused (hasked ▸ hstep)) hs.1 hs.2
    rwa [hservice] at hquiet
  exact fun sessionId session hfound hclosed =>
    hinvariant.2 sessionId session hfound (.inr hclosed)

/-! ### Examples -/

/-- One driver, one vehicle. -/
def exampleConfig : SignalingServerConfig where
  driverPasswords := AList.singleton "driver" "password"
  deviceTokens := AList.singleton "truck" "device"
  driverVehiclePermissions := AList.singleton "driver" ["truck"]
  adminToken := "admin"
  mobileAppPassword := ""
  mobileApprovalVehicles := []
  mobileApprovalTimeoutMs := 120000
  approverTokenTtlMs := 43200000
  tokenTtlMs := 1800000
  controlTokenTtlMs := 300000
  vehicleHeartbeatTimeoutMs := 15000
  driverHeartbeatTimeoutMs := 15000
  loginMaxFailures := 5
  loginFailureWindowMs := 60000
  loginLockoutMs := 300000
  apiRateLimitMaxSources := 4096
  turnUrls := []
  maxSignalingPayloadBytes := 262144
  maxSdpBytes := 131072
  maxIceCandidateBytes := 4096
  signalingMessageTtlMs := 15000
  nativeControlMessageTtlMs := 150

/-- Both clocks stand still, the next random token is known, and every record is written. -/
def smoothly (timestampMs : ℤ) (token : String) : Circumstances where
  now _ := timestampMs
  steady _ := timestampMs * 10 ^ 6
  random _ := some token
  sink _ := true
  order _ keys := keys
  order_perm _ keys := .refl keys
  dumpSize _ := 2

def texts (fields : List (String × String)) : Json :=
  .object (fields.map fun field => (field.1, .string field.2))

def exampleLogin : Request :=
  .driverLogin (texts [("driver_id", "driver"), ("password", "password")])

def exampleOnline : Request :=
  .vehicleOnline
    (texts [("vehicle_id", "truck"), ("device_token", "device"), ("connection_id", "link")])

def exampleCreate : Request :=
  .createSession
    (texts [("driver_id", "driver"), ("vehicle_id", "truck"), ("token", "driver-token-one")])

def exampleEnd : Request :=
  .endSession "session-000001" (texts [("actor", "driver"), ("token", "driver-token-one")])

theorem closedSessions_hold_nothing_end :
    ClosedHoldNothing ((Station.machine exampleConfig).play
      [(smoothly 1000 "one", .request exampleLogin), (smoothly 1001 "two", .request exampleOnline),
        (smoothly 1002 "three", .request exampleCreate),
        (smoothly 1003 "four", .request exampleEnd)]).2.service :=
  closedSessions_hold_nothing (.play _ _) (by decide +kernel)

/-- The record `session_created` is refused, and the closed session keeps its token. -/
theorem abandonedSession_holds_token :
    ¬∀ (config : SignalingServerConfig) (history : History Station Occasion Outcome)
      (station : Station), Run (Station.machine config) history station →
      ClosedHoldNothing station.service := by
  intro h
  have hclosed := h exampleConfig _ _ (.play _
    [(smoothly 1000 "one", .request exampleLogin), (smoothly 1001 "two", .request exampleOnline),
      ({ smoothly 1002 "three" with sink := fun n => n = 0 }, .request exampleCreate)])
  have htoken := (hclosed "session-000001" ⟨"truck", "driver", 1002, .closed,
    "control-token-three", 301002⟩ (by decide +kernel) rfl).controlToken
  exact absurd htoken (by decide)

end MineTeleop.Signaling
