import MineTeleop.Signaling.Closed

/-!
# Authority under a log that writes

While the audit sink writes every record, a request leaves every session active or closed, one
active session for a vehicle at most, and the driver and the vehicle of an active session connected
as they were when it was created.

Proved here, for every configuration and every circumstances in which the sink writes:

* `closeSession_ends`: closing a session closes it, and changes no other;
* `closeSessions_closes`: the loops over the sessions of a party close all of them;
* `cleanup_keeps`: what has run out is taken away without breaking the invariant.
-/

namespace MineTeleop.Signaling

open Documents Programs Tables Runs

variable {config : SignalingServerConfig} {w : Circumstances} {c c' : Call}
  {generations : String → Party → ℕ} {owing : Set Party}

/-- The audit sink writes every record. -/
def Circumstances.Writes (w : Circumstances) : Prop := ∀ n, w.sink n = true

theorem Circumstances.Writes.ensures_audit (hwrites : w.Writes) {record : AuditRecord}
    {Q : Unit → Call → Prop} {R : Refusal → Call → Prop}
    (h : Q () { c with asked := c.asked ++ [(record, true)] }) :
    Ensures (audit w record) c Q R := by
  rw [Signaling.ensures_audit, if_pos (hwrites _)]
  exact h

/-! ## The invariant -/

def Session.Has (session : Session) : Party → Prop
  | .driver id => session.driverId = id
  | .vehicle id => session.vehicleId = id

/-- Exclusive authority, but for the parties in `owing`, whose sessions are about to be closed.
`generations` are those of its parties when a session was created. -/
structure Exclusive (config : SignalingServerConfig) (generations : String → Party → ℕ)
    (owing : Set Party) (c : Call) : Prop where
  numbered : c.service.Numbered
  settled : ∀ id session, c.service.sessions.lookup id = some session →
    session.state = .active ∨ session.state = .closed
  single : ∀ id id' session session', c.service.sessions.lookup id = some session →
    c.service.sessions.lookup id' = some session' → session.state = .active →
    session'.state = .active → session.vehicleId = session'.vehicleId → id = id'
  permitted : ∀ id session, c.service.sessions.lookup id = some session →
    config.Permits session.driverId session.vehicleId
  connected : ∀ id session, c.service.sessions.lookup id = some session →
    session.state = .active → ∀ party, session.Has party → party ∉ owing →
    c.standing.generation party = some (generations id party)
  welcome : ∀ party, party ∉ owing → c.standing.generation party ≠ none →
    ¬c.standing.Revoked party

/-- Sessions and parties are as they were. -/
structure Held (c c' : Call) : Prop where
  sessions : c'.service.sessions = c.service.sessions
  sessionCounter : c'.service.sessionCounter = c.service.sessionCounter
  standing : c'.standing = c.standing

instance : Std.Refl Held := ⟨fun _ => ⟨rfl, rfl, rfl⟩⟩

instance : IsTrans Call Held :=
  ⟨fun _ _ _ h h' => ⟨h'.sessions.trans h.sessions, h'.sessionCounter.trans h.sessionCounter,
    h'.standing.trans h.standing⟩⟩

theorem Apart.held (h : Apart c c') : Held c c' :=
  ⟨congrArg Traffic.sessions h.traffic, congrArg Traffic.sessionCounter h.traffic, h.standing⟩

/-- One session has ended, and nothing else has changed. -/
structure Ended (sessionId : String) (c c' : Call) : Prop where
  standing : c'.standing = c.standing
  sessionCounter : c'.service.sessionCounter = c.service.sessionCounter
  others : ∀ id, id ≠ sessionId →
    c'.service.sessions.lookup id = c.service.sessions.lookup id
  self : ∀ session', c'.service.sessions.lookup sessionId = some session' →
    session'.state = .closed ∧ ∃ session, c.service.sessions.lookup sessionId = some session ∧
      session'.driverId = session.driverId ∧ session'.vehicleId = session.vehicleId

/-- Every session is an earlier one of the same parties, in the same state or closed. -/
structure Shrunk (c c' : Call) : Prop where
  standing : c'.standing = c.standing
  sessionCounter : c'.service.sessionCounter = c.service.sessionCounter
  earlier : ∀ id session', c'.service.sessions.lookup id = some session' →
    ∃ session, c.service.sessions.lookup id = some session ∧
      session'.driverId = session.driverId ∧ session'.vehicleId = session.vehicleId ∧
      (session'.state = .closed ∨ session'.state = session.state)

theorem Ended.shrunk {sessionId : String} (h : Ended sessionId c c') : Shrunk c c' := by
  refine ⟨h.standing, h.sessionCounter, fun id session' hfound => ?_⟩
  by_cases hself : id = sessionId
  · subst hself
    obtain ⟨hclosed, session, hearlier, hdriver, hvehicle⟩ := h.self session' hfound
    exact ⟨session, hearlier, hdriver, hvehicle, .inl hclosed⟩
  · exact ⟨session', (h.others id hself).symm.trans hfound, rfl, rfl, .inr rfl⟩

namespace Exclusive

/-- Only the parties have changed. -/
theorem of_sessions {owing' : Set Party} (h : Exclusive config generations owing c)
    (hsessions : c'.service.sessions = c.service.sessions)
    (hcounter : c'.service.sessionCounter = c.service.sessionCounter)
    (hconnected : ∀ id session, c.service.sessions.lookup id = some session →
      session.state = .active → ∀ party, session.Has party → party ∉ owing' →
      c'.standing.generation party = some (generations id party))
    (hwelcome : ∀ party, party ∉ owing' → c'.standing.generation party ≠ none →
      ¬c'.standing.Revoked party) :
    Exclusive config generations owing' c' := by
  constructor
  · intro id session hfound
    rw [hcounter]
    exact h.numbered id session (hsessions ▸ hfound)
  · rw [hsessions]
    exact h.settled
  · rw [hsessions]
    exact h.single
  · rw [hsessions]
    exact h.permitted
  · rw [hsessions]
    exact hconnected
  · exact hwelcome

theorem held (h : Exclusive config generations owing c) (hheld : Held c c') :
    Exclusive config generations owing c' := by
  refine h.of_sessions hheld.sessions hheld.sessionCounter ?_ ?_
  all_goals rw [hheld.standing]
  · exact h.connected
  · exact h.welcome

theorem shrunk (h : Exclusive config generations owing c) (hshrunk : Shrunk c c') :
    Exclusive config generations owing c' := by
  have hactive : ∀ {id session'}, c'.service.sessions.lookup id = some session' →
      session'.state = .active → ∃ session, c.service.sessions.lookup id = some session ∧
        session.state = .active ∧ session'.driverId = session.driverId ∧
        session'.vehicleId = session.vehicleId := by
    intro id session' hfound hstate
    obtain ⟨session, hearlier, hdriver, hvehicle, hclosed | hsame⟩ := hshrunk.earlier id _ hfound
    · exact absurd (hstate.symm.trans hclosed) (by decide)
    · exact ⟨session, hearlier, hsame.symm.trans hstate, hdriver, hvehicle⟩
  constructor
  · intro id session' hfound
    rw [hshrunk.sessionCounter]
    obtain ⟨session, hearlier, -⟩ := hshrunk.earlier id _ hfound
    exact h.numbered id session hearlier
  · intro id session' hfound
    obtain ⟨session, hearlier, -, -, hclosed | hsame⟩ := hshrunk.earlier id _ hfound
    · exact .inr hclosed
    · rw [hsame]
      exact h.settled id _ hearlier
  · intro id id' session session' hfound hfound' hstate hstate' hvehicle
    obtain ⟨s, hs, hsactive, -, hsvehicle⟩ := hactive hfound hstate
    obtain ⟨s', hs', hsactive', -, hsvehicle'⟩ := hactive hfound' hstate'
    exact h.single id id' s s' hs hs' hsactive hsactive'
      (hsvehicle.symm.trans (hvehicle.trans hsvehicle'))
  · intro id session' hfound
    obtain ⟨session, hearlier, hdriver, hvehicle, -⟩ := hshrunk.earlier id _ hfound
    rw [hdriver, hvehicle]
    exact h.permitted id session hearlier
  · intro id session' hfound hstate party hhas
    obtain ⟨session, hearlier, hsactive, hdriver, hvehicle⟩ := hactive hfound hstate
    rw [hshrunk.standing]
    refine h.connected id session hearlier hsactive party ?_
    cases party with
    | driver id => exact hdriver.symm.trans hhas
    | vehicle id => exact hvehicle.symm.trans hhas
  · rw [hshrunk.standing]
    exact h.welcome

/-- A party that is offline has no open session. -/
theorem closed_of_offline (h : Exclusive config generations ∅ c) {party : Party}
    (hoffline : c.standing.generation party = none) (id : String) (session : Session)
    (hfound : c.service.sessions.lookup id = some session) (hhas : session.Has party) :
    session.state = .closed := by
  refine (h.settled id session hfound).resolve_left fun hactive => ?_
  have honline := h.connected id session hfound hactive party hhas (Set.notMem_empty _)
  rw [hoffline] at honline
  cases honline

theorem weaken {owing' : Set Party} (h : Exclusive config generations owing c)
    (hsubset : owing ⊆ owing') : Exclusive config generations owing' c :=
  h.of_sessions rfl rfl
    (fun id session hfound hactive party hhas hother =>
      h.connected id session hfound hactive party hhas fun hmem => hother (hsubset hmem))
    fun party hother => h.welcome party fun hmem => hother (hsubset hmem)

end Exclusive

/-! ## Closing -/

/-- The service after a session has been stopped and closed. -/
def SignalingService.ended (service : SignalingService) (sessionId : String) (session : Session) :
    SignalingService :=
  ((service.empty sessionId session).setState sessionId .stopping).setState sessionId .closed

theorem ended_of_service {sessionId : String} {session : Session}
    (hfound : c.service.sessions.lookup sessionId = some session)
    (hservice : c'.service = c.service.ended sessionId session) : Ended sessionId c c' := by
  constructor
  · unfold Call.standing
    rw [hservice]
    rfl
  · rw [hservice]
    rfl
  · intro id hid
    rw [hservice]
    exact (Table.lookup_adjust_ne _ hid).trans ((Table.lookup_adjust_ne _ hid).trans
      (Table.lookup_adjust_ne _ hid))
  · intro session' hfound'
    rw [hservice] at hfound'
    have hclosed := lookup_setState .closed (lookup_setState .stopping (lookup_empty hfound))
    obtain rfl := Option.some.inj (hclosed.symm.trans hfound')
    exact ⟨rfl, session, hfound, rfl, rfl⟩

section
variable (hwrites : w.Writes)
include hwrites

theorem transitionSession_moved {sessionId reason : String} {next : SessionState}
    {session : Session} {previous : SessionState}
    (hfound : c.service.sessions.lookup sessionId = some session)
    (hstate : session.state = previous) (hallowed : previous.Allowed next)
    (hsame : previous ≠ next) :
    Ensures (transitionSession w sessionId next reason) c
      (fun _ c' => c'.service = c.service.setState sessionId next) fun _ _ => False := by
  subst hstate
  exact transitionSession_cases hfound (fun h => absurd h hsame) (fun h => absurd hallowed h)
    fun _ => hwrites.ensures_audit rfl

theorem closeSession_ends (h : Exclusive config generations owing c)
    (sessionId reason : String) :
    Ensures (closeSession w sessionId reason) c (fun _ c' => Ended sessionId c c')
      fun _ _ => False := by
  unfold closeSession
  rw [ensures_bind, ensures_theService]
  cases hfound : c.service.sessions.lookup sessionId with
  | none =>
    exact ⟨rfl, rfl, fun _ _ => rfl, fun session' h' => absurd (hfound.symm.trans h') (by simp)⟩
  | some session =>
    refine .whenever (fun hopen => ?_) fun hclosed => ?_
    swap
    · refine ⟨rfl, rfl, fun _ _ => rfl, fun session' h' => ?_⟩
      obtain rfl := Option.some.inj (hfound.symm.trans h')
      exact ⟨not_not.mp hclosed, session, hfound, rfl, rfl⟩
    have hactive := (h.settled sessionId session hfound).resolve_right hopen
    simp only [ensures_bind, ensures_update]
    change Ensures _ { c with service := c.service.empty sessionId session } _ _
    have hempty := lookup_empty hfound
    have hstop : Ensures (transitionSession w sessionId .stopping reason)
        { c with service := c.service.empty sessionId session }
        (fun _ c' => c'.service = (c.service.empty sessionId session).setState sessionId .stopping)
        fun _ _ => False :=
      transitionSession_moved hwrites hempty hactive (by decide) (by decide)
    refine .whenever (fun _ => hstop.mono (fun _ c₁ h₁ => ?_) fun _ _ => id) fun hstopping =>
      absurd (hactive.symm.trans (not_not.mp hstopping)) (by decide)
    have hfound₁ := (congrArg (·.sessions.lookup sessionId) h₁).trans
      (lookup_setState .stopping hempty)
    have hstopped : SessionState.stopping = .stopping := rfl
    refine (transitionSession_moved hwrites hfound₁ hstopped (by decide) (by decide)).mono
      (fun _ c₂ h₂ => ?_) fun _ _ => id
    rw [h₁] at h₂
    exact ended_of_service hfound h₂

/-- What a loop over the sessions closes. -/
theorem closeSessions_closes (h : Exclusive config generations owing c)
    (chosen : Session → Bool) (reason : String) :
    Ensures (closeSessions w chosen reason) c
      (fun _ c' => Exclusive config generations owing c' ∧
        c'.standing = c.standing ∧
        ∀ id session, c'.service.sessions.lookup id = some session → chosen session →
          session.state = .closed)
      fun _ _ => False := by
  unfold closeSessions loopOver
  simp only [ensures_bind, ensures_theService, ensures_look]
  refine Ensures.forM (I := fun rest c' => Exclusive config generations owing c' ∧
    c'.standing = c.standing ∧
    ∀ id session, c'.service.sessions.lookup id = some session → chosen session → id ∉ rest →
      session.state = .closed) ?_ ?_ ?_
  · rintro sessionId rest c₁ ⟨h₁, hstanding, hclosed⟩
    rw [ensures_bind, ensures_theService]
    cases hfound : c₁.service.sessions.lookup sessionId with
    | none =>
      refine ⟨h₁, hstanding, fun id session hfound' hs hid => hclosed id session hfound' hs ?_⟩
      refine List.not_mem_cons_of_ne_of_not_mem ?_ hid
      rintro rfl
      exact absurd (hfound.symm.trans hfound') (by simp)
    | some session =>
      refine .whenever (fun hopen => ?_) fun hskip => ?_
      · refine (closeSession_ends hwrites h₁ sessionId reason).mono (fun _ c₂ hended => ?_)
          fun _ _ => id
        refine ⟨h₁.shrunk hended.shrunk, hended.standing.trans hstanding, ?_⟩
        intro id session' hfound' hs hid
        by_cases hself : id = sessionId
        · exact (hended.self session' (hself ▸ hfound')).1
        · exact hclosed id session' ((hended.others id hself).symm.trans hfound') hs
            (List.not_mem_cons_of_ne_of_not_mem hself hid)
      · refine ⟨h₁, hstanding, fun id session' hfound' hs hid => ?_⟩
        by_cases hself : id = sessionId
        · obtain rfl := Option.some.inj ((hself ▸ hfound').symm.trans hfound)
          by_contra hopen
          exact hskip ⟨hs, hopen⟩
        · exact hclosed id session' hfound' hs (List.not_mem_cons_of_ne_of_not_mem hself hid)
  · rintro c₁ ⟨h₁, hstanding, hclosed⟩
    exact ⟨h₁, hstanding, fun id session hfound hs => hclosed id session hfound hs List.not_mem_nil⟩
  · refine ⟨h.held ⟨rfl, rfl, rfl⟩, rfl, fun id session hfound _ hid => absurd ?_ hid⟩
    exact (w.order_perm _ _).mem_iff.mpr (Table.mem_keys_of_lookup hfound)

end

/-! ## Parties that leave and come -/

/-- Nobody but one party has come or gone. -/
structure OnlyMoved (party : Party) (c c' : Call) : Prop where
  sessions : c'.service.sessions = c.service.sessions
  sessionCounter : c'.service.sessionCounter = c.service.sessionCounter
  generation : ∀ other, other ≠ party →
    c'.standing.generation other = c.standing.generation other
  revoked : ∀ other, other ≠ party → (c'.standing.Revoked other ↔ c.standing.Revoked other)

namespace Exclusive

/-- A party that is about to lose its sessions may come and go. -/
theorem owe {party : Party} (h : Exclusive config generations ∅ c)
    (hmoved : OnlyMoved party c c') : Exclusive config generations {party} c' := by
  refine h.of_sessions hmoved.sessions hmoved.sessionCounter ?_ ?_
  · intro id session hfound hactive other hhas hother
    rw [hmoved.generation other hother]
    exact h.connected id session hfound hactive other hhas (Set.notMem_empty _)
  · intro other hother honline
    rw [hmoved.revoked other hother]
    rw [hmoved.generation other hother] at honline
    exact h.welcome other (Set.notMem_empty _) honline

/-- A party without sessions may go, and come where it is welcome. -/
theorem relieve {party : Party} (h : Exclusive config generations {party} c)
    (hclosed : ∀ id session, c.service.sessions.lookup id = some session → session.Has party →
      session.state = .closed)
    (hmoved : OnlyMoved party c c')
    (hwelcome : c'.standing.generation party ≠ none → ¬c'.standing.Revoked party) :
    Exclusive config generations ∅ c' := by
  refine h.of_sessions hmoved.sessions hmoved.sessionCounter ?_ ?_
  · intro id session hfound hactive other hhas _
    have hother : other ≠ party := by
      rintro rfl
      exact absurd (hactive.symm.trans (hclosed id session hfound hhas)) (by decide)
    rw [hmoved.generation other hother]
    exact h.connected id session hfound hactive other hhas hother
  · intro other _ honline
    by_cases hsame : other = party
    · subst hsame
      exact hwelcome honline
    · rw [hmoved.revoked other hsame]
      rw [hmoved.generation other hsame] at honline
      exact h.welcome other hsame honline

end Exclusive

/-! ## Running out -/

/-- Wherever the invariant holds before, it holds afterwards. -/
def Keeps (config : SignalingServerConfig) (generations : String → Party → ℕ) (c c' : Call) :
    Prop :=
  Exclusive config generations ∅ c → Exclusive config generations ∅ c'

instance : Std.Refl (Keeps config generations) := ⟨fun _ => id⟩

instance : IsTrans Call (Keeps config generations) := ⟨fun _ _ _ h h' hc => h' (h hc)⟩

section
variable {α : Type} {p : Handler α}

theorem keeps_of (h : ∀ c, Exclusive config generations ∅ c →
    Ensures p c (fun _ => Exclusive config generations ∅)
      fun _ => Exclusive config generations ∅) : Within (Keeps config generations) p :=
  fun c => .imp (h c)

theorem exclusive_of_keeps (h : Within (Keeps config generations) p)
    (hc : Exclusive config generations ∅ c) :
    Ensures p c (fun _ => Exclusive config generations ∅)
      fun _ => Exclusive config generations ∅ :=
  (h c).mono (fun _ _ hkeeps => hkeeps hc) fun _ _ hkeeps => hkeeps hc

theorem keeps_held (h : Within Held p) : Within (Keeps config generations) p :=
  h.mono fun _ _ hheld hc => hc.held hheld

theorem keeps_apart (h : Within Apart p) : Within (Keeps config generations) p :=
  h.mono fun _ _ h hc => hc.held h.held

theorem keeps_aside (h : Within Aside p) : Within (Keeps config generations) p :=
  keeps_apart h.apart

end

/-- The invariant holds, and the sessions of the party are closed. -/
def Relieved (config : SignalingServerConfig) (generations : String → Party → ℕ)
    (owing : Set Party) (party : Party) (c : Call) : Prop :=
  Exclusive config generations owing c ∧
    ∀ id session, c.service.sessions.lookup id = some session → session.Has party →
      session.state = .closed

theorem has_driver {driverId : String} (session : Session)
    (h : session.Has (.driver driverId)) : decide (session.driverId = driverId) = true :=
  decide_eq_true h

theorem has_vehicle {vehicleId : String} (session : Session)
    (h : session.Has (.vehicle vehicleId)) : decide (session.vehicleId = vehicleId) = true :=
  decide_eq_true h

section
variable (hwrites : w.Writes)
include hwrites

theorem closeSession_keeps (sessionId reason : String) :
    Within (Keeps config generations) (closeSession w sessionId reason) :=
  keeps_of fun _ hc => (closeSession_ends hwrites hc sessionId reason).mono (fun _ _ hended => hc.shrunk hended.shrunk)
    fun _ _ => nofun

theorem closeSessions_relieves (h : Exclusive config generations owing c) {party : Party}
    {chosen : Session → Bool} (hchosen : ∀ session, session.Has party → chosen session)
    (reason : String) :
    Ensures (closeSessions w chosen reason) c
      (fun _ c' => Relieved config generations owing party c' ∧ c'.standing = c.standing)
      fun _ _ => False :=
  (closeSessions_closes hwrites h chosen reason).mono (fun _ _ h' =>
    ⟨⟨h'.1, fun id session hfound hhas => h'.2.2 id session hfound (hchosen session hhas)⟩,
      h'.2.1⟩) fun _ _ => id

/-- A party leaves, and its sessions follow. -/
theorem leave_keeps {f : SignalingService → SignalingService} {party : Party}
    {chosen : Session → Bool} (hchosen : ∀ session, session.Has party → chosen session)
    (reason : String)
    (hmoved : ∀ c : Call, OnlyMoved party c { c with service := f c.service })
    (hgone : ∀ service, (f service).presence party = none) :
    Within (Keeps config generations) (update f >>= fun _ => closeSessions w chosen reason) := by
  refine keeps_of fun c hc => ?_
  rw [ensures_bind, ensures_update]
  refine (closeSessions_relieves hwrites (hc.owe (hmoved c)) hchosen reason).mono
    (fun _ c' h => ?_) fun _ _ => False.elim
  obtain ⟨⟨hexclusive, hclosed⟩, hstanding⟩ := h
  refine hexclusive.relieve hclosed ⟨rfl, rfl, fun _ _ => rfl, fun _ _ => Iff.rfl⟩ fun honline => ?_
  rw [hstanding] at honline
  exact absurd (congrArg (Option.map _) (hgone c.service)) honline

end

theorem Relieved.leave {party : Party} (h : Relieved config generations owing party c)
    (howing : owing ⊆ {party}) (hmoved : OnlyMoved party c c')
    (hgone : c'.service.presence party = none) : Exclusive config generations ∅ c' :=
  (h.1.weaken howing).relieve h.2 hmoved fun honline =>
    absurd (congrArg (Option.map _) hgone) honline

/-- Nobody but the party of an erased presence has left. -/
theorem onlyMoved_eraseDriver (c : Call) (driverId : String) (tokens : Table DriverToken) :
    OnlyMoved (.driver driverId) c { c with
      service := { c.service with
        onlineDrivers := c.service.onlineDrivers.erase driverId
        driverTokens := tokens } } := by
  refine ⟨rfl, rfl, fun other hother => ?_, fun other _ => by cases other <;> exact Iff.rfl⟩
  cases other with
  | driver id =>
    have hid : id ≠ driverId := fun h => hother (congrArg _ h)
    exact congrArg (Option.map _) (AList.lookup_erase_ne hid)
  | vehicle id => rfl

theorem onlyMoved_eraseVehicle (c : Call) (vehicleId : String) :
    OnlyMoved (.vehicle vehicleId) c { c with
      service := { c.service with
        onlineVehicles := c.service.onlineVehicles.erase vehicleId } } := by
  refine ⟨rfl, rfl, fun other hother => ?_, fun other _ => by cases other <;> exact Iff.rfl⟩
  cases other with
  | driver id => rfl
  | vehicle id =>
    have hid : id ≠ vehicleId := fun h => hother (congrArg _ h)
    exact congrArg (Option.map _) (AList.lookup_erase_ne hid)

section
variable (hwrites : w.Writes)
include hwrites

theorem expireDriverToken_keeps (timestampMs : ℤ) (token : String) :
    Within (Keeps config generations) (expireDriverToken w timestampMs token) := by
  refine (keeps_aside Aside.theService).bind fun s => ?_
  cases s.driverTokens.lookup token with
  | none => exact .pure _
  | some found =>
    refine .whenever (.bind (keeps_apart (Apart.update (fun _ => rfl) fun _ => rfl)) fun _ =>
      (keeps_aside Aside.theService).bind fun _ => .whenever ?_)
    rw [← bind_assoc]
    exact .bind (leave_keeps hwrites has_driver _ (fun c => onlyMoved_eraseDriver c _ _)
      fun service => AList.lookup_erase _ service.onlineDrivers) fun _ =>
      keeps_aside (Aside.audit _)

theorem expireSession_keeps (timestampMs : ℤ) (sessionId : String) :
    Within (Keeps config generations) (expireSession w timestampMs sessionId) := by
  refine (keeps_aside Aside.theService).bind fun s => ?_
  cases s.sessions.lookup sessionId with
  | none => exact .pure _
  | some session =>
    exact .whenever ((closeSession_keeps hwrites _ _).bind fun _ => keeps_aside (Aside.audit _))

theorem expireVehicle_keeps (timestampMs : ℤ) (vehicleId : String) :
    Within (Keeps config generations) (expireVehicle config w timestampMs vehicleId) := by
  refine (keeps_aside Aside.theService).bind fun s => ?_
  cases s.onlineVehicles.lookup vehicleId with
  | none => exact .pure _
  | some presence =>
    refine .whenever ?_
    rw [← bind_assoc]
    exact .bind (leave_keeps hwrites has_vehicle _ (fun c => onlyMoved_eraseVehicle c _)
      fun service => AList.lookup_erase _ service.onlineVehicles) fun _ =>
      keeps_aside (Aside.audit _)

theorem expireDriver_keeps (timestampMs : ℤ) (driverId : String) :
    Within (Keeps config generations) (expireDriver config w timestampMs driverId) := by
  refine (keeps_aside Aside.theService).bind fun s => ?_
  cases s.onlineDrivers.lookup driverId with
  | none => exact .pure _
  | some presence =>
    refine .whenever ?_
    rw [← bind_assoc]
    exact .bind (leave_keeps hwrites has_driver _ (fun c => onlyMoved_eraseDriver c _ _)
      fun service => AList.lookup_erase _ service.onlineDrivers) fun _ =>
      keeps_aside (Aside.audit _)

theorem cleanup_keeps (timestampMs : ℤ) :
    Within (Keeps config generations) (cleanupExpiredConnections config w timestampMs) :=
  (keeps_aside Aside.theService).bind fun _ => (keeps_aside (Aside.loopOver _)).bind fun tokens =>
    (Within.forM (expireDriverToken_keeps hwrites timestampMs) tokens).bind fun _ =>
    (keeps_aside Aside.theService).bind fun _ => (keeps_aside (Aside.loopOver _)).bind fun ids =>
    (Within.forM (expireSession_keeps hwrites timestampMs) ids).bind fun _ =>
    (keeps_aside Aside.theService).bind fun _ =>
    (keeps_aside (Aside.loopOver _)).bind fun vehicles =>
    (Within.forM (expireVehicle_keeps hwrites timestampMs) vehicles).bind fun _ =>
    (keeps_aside Aside.theService).bind fun _ =>
    (keeps_aside (Aside.loopOver _)).bind fun drivers =>
    (Within.forM (expireDriver_keeps hwrites timestampMs) drivers).bind fun _ =>
    keeps_apart Apart.cleanupMobileApprovals

end

end MineTeleop.Signaling
