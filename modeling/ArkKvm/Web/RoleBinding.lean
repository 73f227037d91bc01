import ArkKvm.Lib.Run
import ArkKvm.Web.Signaling

/-!
# Sessions keep the role of their cookie

The registrations of one step are a function of the request or of the socket and the
message, so the log of registrations is known exactly.  A socket keeps the role of its
cookie as the role it is bound to, except that a legacy socket is bound to nothing: there
each offer chooses again.
-/

namespace ArkKvm.Web.Signaling

open Lib

/-- The request that opened the session, if it was made in password mode, carried a
cookie of the role that the session has. -/
def Bound (reg : Registration) : Prop :=
  ¬ NoPassword reg.openedBy.config →
    authMiddleware reg.openedBy.config reg.openedBy.now reg.openedBy.cookies =
      .ok (some reg.session.role)

/-- Every session that was ever registered has the role of its cookie. -/
def RoleBound (s : Signaling) : Prop := ∀ reg ∈ s.registered, Bound reg

/-- On a legacy socket that was opened in password mode, no offer that leads to a session
asks for the agent. -/
def AsUser (socket : Socket) : WsMessage → Prop
  | .offer (some (.ok request)) outcome =>
      socket.wsRole = none → ¬ NoPassword socket.openedBy.config → outcome.created = .ok () →
        parseClientType request.clientType ≠ .ok .agent
  | _ => True

/-- The messages of a step meet `AsUser` on the socket they arrive at. -/
def LegacyAsUser (s : Signaling) : Event → Prop
  | .message id message => ∀ socket, s.sockets.lookup id = some socket → AsUser socket message
  | _ => True

/-! ## What one step registers -/

/-- The sessions that a request for a session registers. -/
def requested (v : Visit) (r : SessionCall) : List Registration :=
  match protectedRoute v "POST" "/webrtc/session", r.body with
  | .ok auth, .ok request =>
      match webrtcSessionRole auth request, r.outcome.created with
      | .ok role, .ok () => [⟨{ id := r.id, role := role, peer := r.outcome.peer }, v⟩]
      | _, _ => []
  | _, _ => []

def offered (id : String) (socket : Socket) : WsMessage → List Registration
  | .offer (some (.ok request)) outcome =>
      match offerRole socket.wsRole request, outcome.created with
      | .ok (some role), .ok () =>
          [⟨{ id := id, role := role, peer := outcome.peer }, socket.openedBy⟩]
      | _, _ => []
  | _ => []

@[simp] theorem removeAndCloseSession_log (id : String) (s : Signaling) :
    (removeAndCloseSession id s).registered = s.registered ∧
      (removeAndCloseSession id s).sockets = s.sockets := ⟨rfl, rfl⟩

theorem handleWebrtcSession_log (v : Visit) (r : SessionCall) (s : Signaling) :
    (handleWebrtcSession v r s).1.registered = requested v r ++ s.registered ∧
      (handleWebrtcSession v r s).1.sockets = s.sockets := by
  unfold handleWebrtcSession
  cases hroute : protectedRoute v "POST" "/webrtc/session" with
  | error e =>
      have hnone : requested v r = [] := by simp only [requested, hroute]
      rw [hnone]
      exact ⟨rfl, rfl⟩
  | ok auth =>
  cases hbody : r.body with
  | error e =>
      have hnone : requested v r = [] := by simp only [requested, hroute, hbody]
      rw [hnone]
      exact ⟨rfl, rfl⟩
  | ok request =>
  rw [Action.bind_of_ok (a := auth) (t := s) rfl, Action.bind_of_ok (a := request) (t := s) rfl]
  cases hrole : webrtcSessionRole auth request with
  | error e =>
      have hnone : requested v r = [] := by simp only [requested, hroute, hbody, hrole]
      rw [hnone]
      exact ⟨rfl, rfl⟩
  | ok role =>
  rw [Action.bind_of_ok (a := role) (t := s) rfl]
  cases hcreated : r.outcome.created with
  | error e =>
      have hnone : requested v r = [] := by simp only [requested, hroute, hbody, hrole, hcreated]
      rw [hnone, Action.bind_of_error (e := internalServerError ("Failed to create session: " ++ e))
        (t := s) (by simp only [Action.mapErr, newSession, hcreated, Except.mapError])]
      exact ⟨rfl, rfl⟩
  | ok =>
      have hsome : requested v r =
          [⟨{ id := r.id, role := role, peer := r.outcome.peer }, v⟩] := by
        simp only [requested, hroute, hbody, hrole, hcreated]
      rw [hsome, Action.bind_run]
      simp only [Action.mapErr, newSession, hcreated, Except.mapError, Action.andThen]
      cases r.outcome.answer with
      | error e => exact ⟨rfl, rfl⟩
      | ok answer =>
      cases r.outcome.claim with
      | error e => exact ⟨rfl, rfl⟩
      | ok claim => cases claim <;> exact ⟨rfl, rfl⟩

theorem openOffer_log (id : String) (socket : Socket) (role : SessionRole)
    (outcome : OfferOutcome) (s : Signaling) :
    (openOffer id socket role outcome s).1.sockets = s.sockets ∧
      (openOffer id socket role outcome s).1.registered =
        match outcome.created with
        | .ok () => ⟨{ id := id, role := role, peer := outcome.peer }, socket.openedBy⟩ :: s.registered
        | .error _ => s.registered := by
  unfold openOffer newSession
  cases hcreated : outcome.created with
  | error e => exact ⟨rfl, rfl⟩
  | ok =>
  cases outcome.answer with
  | error e => exact ⟨rfl, rfl⟩
  | ok sd =>
  cases outcome.claim with
  | error e => exact ⟨rfl, rfl⟩
  | ok claim =>
      cases claim with
      | accepted previous => cases hsent : outcome.sent <;> simp [removeAndCloseSession_log]
      | _ => exact ⟨rfl, rfl⟩

theorem handleWebrtcWebsocketMessage_log (id : String) (socket : Socket) (message : WsMessage)
    (s : Signaling) :
    (handleWebrtcWebsocketMessage id socket message s).1.sockets = s.sockets ∧
      (handleWebrtcWebsocketMessage id socket message s).1.registered =
        offered id socket message ++ s.registered := by
  cases message with
  | offer data outcome =>
      cases data with
      | none => exact ⟨rfl, rfl⟩
      | some data =>
      cases data with
      | error e => exact ⟨rfl, rfl⟩
      | ok request =>
      rw [handleWebrtcWebsocketMessage, Action.bind_of_ok (a := request) (t := s) rfl]
      cases hrole : offerRole socket.wsRole request with
      | error e =>
          have hnone : offered id socket (.offer (some (.ok request)) outcome) = [] := by
            simp only [offered, hrole]
          rw [hnone]
          exact ⟨rfl, rfl⟩
      | ok role =>
      rw [Action.bind_of_ok (a := role) (t := s) rfl]
      cases role with
      | none =>
          have hnone : offered id socket (.offer (some (.ok request)) outcome) = [] := by
            simp only [offered, hrole]
          rw [hnone]
          exact ⟨rfl, rfl⟩
      | some role =>
          obtain ⟨hsockets, hregistered⟩ := openOffer_log id socket role outcome s
          refine ⟨hsockets, hregistered.trans ?_⟩
          cases hcreated : outcome.created <;> simp only [offered, hrole, hcreated] <;> rfl
  | _ => exact ⟨rfl, rfl⟩

theorem receive_log (id : String) (socket : Socket) (message : WsMessage) (s : Signaling) :
    (receive id socket message s).registered = offered id socket message ++ s.registered ∧
      ((receive id socket message s).sockets = s.sockets ∨
        (receive id socket message s).sockets = s.sockets.erase id) := by
  obtain ⟨hsockets, hregistered⟩ := handleWebrtcWebsocketMessage_log id socket message s
  unfold receive
  generalize handleWebrtcWebsocketMessage id socket message s = result at hsockets hregistered
  obtain ⟨s', e | ⟨frames, _ | _⟩⟩ := result
  · exact ⟨hregistered, .inl hsockets⟩
  · exact ⟨hregistered, .inl hsockets⟩
  · refine ⟨hregistered, .inr ?_⟩
    change s'.sockets.erase id = _
    rw [hsockets]

/-! ## The roles that are chosen -/

theorem webrtcSessionRole_ok {auth : Option SessionRole} {request : SessionRequest}
    {role cookieRole : SessionRole} (h : webrtcSessionRole auth request = .ok role)
    (hauth : auth = some cookieRole) : cookieRole = role := by
  subst hauth
  unfold webrtcSessionRole at h
  split at h
  · cases h
  · split at h
    · next hall =>
        cases h
        simpa using hall
    · cases h

theorem signalingRole_ok {auth wsRole : Option SessionRole} {query : Option String}
    {cookieRole : SessionRole} (h : signalingRole auth query = .ok wsRole)
    (hauth : auth = some cookieRole) : cookieRole = wsRole.getD .user := by
  subst hauth
  unfold signalingRole at h
  split at h
  · cases h
  · split at h
    · next hall =>
        cases h
        simpa using hall
    · cases h

theorem offerRole_ok {wsRole : Option SessionRole} {request : SessionRequest}
    {role : SessionRole} (h : offerRole wsRole request = .ok (some role)) :
    wsRole = some role ∨ wsRole = none ∧ parseClientType request.clientType = .ok role := by
  cases wsRole with
  | some bound =>
      refine .inl ?_
      simp only [offerRole] at h
      cases hparse : request.clientType.bind SessionRole.parse with
      | none =>
          rw [hparse] at h
          cases h
      | some role' =>
          simp only [hparse] at h
          by_cases heq : role' = bound
          · rw [if_pos heq] at h
            exact Except.ok.inj h
          · rw [if_neg heq] at h
            cases h
  | none =>
      refine .inr ⟨rfl, ?_⟩
      simp only [offerRole] at h
      cases hparse : parseClientType request.clientType with
      | error e =>
          rw [hparse] at h
          cases h
      | ok role' =>
          rw [hparse] at h
          cases h
          rfl

/-! ## The invariant -/

/-- In password mode a socket was opened with the cookie of the role it stands for, a
legacy socket with the cookie of the user. -/
def SocketsBound (s : Signaling) : Prop :=
  ∀ id socket, s.sockets.lookup id = some socket → ¬ NoPassword socket.openedBy.config →
    authMiddleware socket.openedBy.config socket.openedBy.now socket.openedBy.cookies =
      .ok (some (socket.wsRole.getD .user))

theorem handleWebrtcSignalingClient_log (v : Visit) (c : ConnectCall) (s : Signaling) :
    (handleWebrtcSignalingClient v c s).1.registered = s.registered ∧
      ((handleWebrtcSignalingClient v c s).1.sockets = s.sockets ∨
        ∃ auth wsRole, protectedRoute v "GET" "/webrtc/signaling/client" = .ok auth ∧
          signalingRole auth c.query = .ok wsRole ∧
          (handleWebrtcSignalingClient v c s).1.sockets = s.sockets.insert c.id ⟨wsRole, v⟩) := by
  unfold handleWebrtcSignalingClient
  cases hroute : protectedRoute v "GET" "/webrtc/signaling/client" with
  | error e => exact ⟨rfl, .inl rfl⟩
  | ok auth =>
  rw [Action.bind_of_ok (a := auth) (t := s) rfl]
  cases hrole : signalingRole auth c.query with
  | error e => exact ⟨rfl, .inl rfl⟩
  | ok wsRole =>
  rw [Action.bind_of_ok (a := wsRole) (t := s) rfl]
  cases c.upgraded with
  | false => exact ⟨rfl, .inl rfl⟩
  | true => exact ⟨rfl, .inr ⟨auth, wsRole, rfl, hrole, rfl⟩⟩

theorem SocketsBound.erase {s s' : Signaling} (h : SocketsBound s) (id : String)
    (hsockets : s'.sockets = s.sockets ∨ s'.sockets = s.sockets.erase id) : SocketsBound s' := by
  intro id' socket hlookup
  rcases hsockets with heq | heq
  · exact h id' socket (heq ▸ hlookup)
  · rw [heq, Table.lookup_erase_iff] at hlookup
    exact h id' socket hlookup.2

theorem step_socketsBound {s s' : Signaling} {e : Event} (h : SocketsBound s)
    (hstep : step s e = some s') : SocketsBound s' := by
  cases e with
  | session v r =>
      obtain rfl : (handleWebrtcSession v r s).1 = s' := Option.some.inj hstep
      exact h.erase r.id (.inl (handleWebrtcSession_log v r s).2)
  | connect v c =>
      obtain rfl : (handleWebrtcSignalingClient v c s).1 = s' := Option.some.inj hstep
      rcases (handleWebrtcSignalingClient_log v c s).2 with heq | ⟨auth, wsRole, hroute, hrole, heq⟩
      · exact h.erase c.id (.inl heq)
      · intro id socket hlookup hmode
        rw [heq, Table.lookup_insert_iff] at hlookup
        rcases hlookup with ⟨-, rfl⟩ | ⟨-, hlookup⟩
        · have hauth := protectedRoute_ok hroute
          obtain ⟨cookieRole, rfl⟩ := authMiddleware_ok hmode hauth
          rw [hauth, signalingRole_ok hrole rfl]
        · exact h id socket hlookup hmode
  | message id message =>
      obtain ⟨socket, -, rfl⟩ := Option.map_eq_some_iff.mp hstep
      exact h.erase id (receive_log id socket message s).2
  | close id =>
      obtain ⟨socket, -, rfl⟩ := Option.map_eq_some_iff.mp hstep
      exact h.erase _ (.inr rfl)

theorem requested_bound (v : Visit) (r : SessionCall) : ∀ reg ∈ requested v r, Bound reg := by
  intro reg hmem hmode
  unfold requested at hmem
  split at hmem
  · next auth request hroute hbody =>
      split at hmem
      · next role hrole hcreated =>
          obtain rfl := List.mem_singleton.mp hmem
          have hauth := protectedRoute_ok hroute
          obtain ⟨cookieRole, rfl⟩ := authMiddleware_ok hmode hauth
          rw [hauth, webrtcSessionRole_ok hrole rfl]
      · cases hmem
  · cases hmem

/-- The sessions of a message keep the role of the cookie exactly when a legacy socket is
not asked for the agent. -/
theorem offered_bound_iff (id : String) {socket : Socket} (message : WsMessage)
    (hsocket : ¬ NoPassword socket.openedBy.config →
      authMiddleware socket.openedBy.config socket.openedBy.now socket.openedBy.cookies =
        .ok (some (socket.wsRole.getD .user))) :
    (∀ reg ∈ offered id socket message, Bound reg) ↔ AsUser socket message := by
  unfold offered AsUser
  split
  · next request outcome =>
      split
      · next role hrole hcreated =>
          simp only [List.mem_singleton, forall_eq, hcreated, true_implies]
          constructor
          · intro hbound hlegacy hmode hagent
            have hcookie := hsocket hmode
            rcases offerRole_ok hrole with hbind | ⟨-, hparse⟩
            · rw [hlegacy] at hbind
              cases hbind
            · rw [hagent] at hparse
              cases hparse
              have := (hbound hmode).symm.trans hcookie
              rw [hlegacy] at this
              cases this
          · intro huser hmode
            refine (hsocket hmode).trans ?_
            rcases offerRole_ok hrole with hbind | ⟨hlegacy, hparse⟩
            · rw [hbind, Option.getD_some]
            · rw [hlegacy, Option.getD_none]
              cases role with
              | user => rfl
              | agent => exact absurd hparse (huser hlegacy hmode)
      · next hrefused =>
          refine ⟨fun _ hlegacy _ hcreated hagent => ?_, fun _ reg hmem => by cases hmem⟩
          refine hrefused .agent ?_ hcreated
          rw [hlegacy]
          simp only [offerRole, hagent, Except.map]
  · exact ⟨fun _ => trivial, fun _ reg hmem => by cases hmem⟩

/-- One step puts sessions on the log, and they are bound exactly when the step treats
the legacy sockets as users. -/
theorem step_registered {s s' : Signaling} {e : Event} (hsockets : SocketsBound s)
    (hstep : step s e = some s') :
    ∃ new, s'.registered = new ++ s.registered ∧
      ((∀ reg ∈ new, Bound reg) ↔ LegacyAsUser s e) := by
  cases e with
  | session v r =>
      obtain rfl : (handleWebrtcSession v r s).1 = s' := Option.some.inj hstep
      exact ⟨requested v r, (handleWebrtcSession_log v r s).1,
        fun _ => trivial, fun _ => requested_bound v r⟩
  | connect v c =>
      obtain rfl : (handleWebrtcSignalingClient v c s).1 = s' := Option.some.inj hstep
      exact ⟨[], (handleWebrtcSignalingClient_log v c s).1,
        fun _ => trivial, fun _ reg hmem => by cases hmem⟩
  | message id message =>
      obtain ⟨socket, hlookup, rfl⟩ := Option.map_eq_some_iff.mp hstep
      refine ⟨offered id socket message, (receive_log id socket message s).1, ?_⟩
      rw [offered_bound_iff id message (hsockets id socket hlookup)]
      constructor
      · intro huser socket' hlookup'
        rw [hlookup] at hlookup'
        cases hlookup'
        exact huser
      · intro huser
        exact huser socket hlookup
  | close id =>
      obtain ⟨socket, -, rfl⟩ := Option.map_eq_some_iff.mp hstep
      exact ⟨[], rfl, fun _ => trivial, fun _ reg hmem => by cases hmem⟩

theorem step_roleBound_iff {s s' : Signaling} {e : Event} (hsockets : SocketsBound s)
    (hstep : step s e = some s') : RoleBound s' ↔ RoleBound s ∧ LegacyAsUser s e := by
  obtain ⟨new, hlog, hnew⟩ := step_registered hsockets hstep
  unfold RoleBound
  rw [hlog, ← hnew]
  simp only [List.mem_append, or_imp, forall_and]
  exact and_comm

/-! ## Whole runs -/

theorem reach_socketsBound {ok : Signaling → Event → Prop} {app : AppState} {s : Signaling}
    (h : Run.Reach step ok { app := app } s) : SocketsBound s := by
  refine h.invariant (P := SocketsBound) ?_ fun s e s' hinv _ hstep => step_socketsBound hinv hstep
  intro id socket hlookup
  cases hlookup

/-- Every session registered in a run has the role of its cookie exactly when every step
of the run treats the legacy sockets as users. -/
theorem roleBound_iff_legacyAsUser {app : AppState} {s : Signaling}
    (h : Run.Reach step Run.anyStep { app := app } s) :
    RoleBound s ↔ Run.Reach step LegacyAsUser { app := app } s := by
  constructor
  · intro hbound
    induction h with
    | refl => exact .refl
    | tail hreach _ hstep ih =>
        obtain ⟨hbefore, huser⟩ :=
          (step_roleBound_iff (reach_socketsBound hreach) hstep).mp hbound
        exact .tail (ih hbefore) huser hstep
  · intro huser
    induction huser with
    | refl => exact fun reg hmem => by cases hmem
    | tail hreach hok hstep ih =>
        have hany : Run.Reach step Run.anyStep _ _ := hreach.mono fun _ _ _ => trivial
        exact (step_roleBound_iff (reach_socketsBound hreach) hstep).mpr ⟨ih hany, hok⟩

def userLoggedIn : Config :=
  { Config.default "dev" with
    hashedPassword := some "h"
    localAuthMode := "password"
    localAuthToken := some "u"
    localCsrfToken := some "cu"
    localAuthTokenExpiresAt := some 604800 }

def userVisit : Visit := ⟨userLoggedIn, 0, Cookies.ofRole .user "u", "cu"⟩

def offerOf (clientType : Option String) : WsMessage :=
  .offer (some (.ok ⟨"v=0", clientType⟩)) ⟨1, .ok (), .ok "answer", .ok (.accepted none), true⟩

/-- A user opens a WebSocket without a `clientType` query and sends one offer. -/
def legacyRun (clientType : Option String) : List Event :=
  [.connect userVisit ⟨"ws", none, true⟩, .message "ws" (offerOf clientType)]

/-- The roles that are registered, each with the role of its cookie. -/
def registeredRoles (s : Signaling) : List (SessionRole × Option (Option SessionRole)) :=
  s.registered.map fun reg =>
    (reg.session.role, (authMiddleware reg.openedBy.config reg.openedBy.now
      reg.openedBy.cookies).toOption)

/-- A legacy client that omits `clientType` altogether gets the session of its cookie. -/
theorem roleBound_iff_legacyAsUser_plain :
    ∃ s, Run.Reach step LegacyAsUser {} s ∧ RoleBound s ∧
      registeredRoles s = [(.user, some (some .user))] := by
  have hexec : (Run.exec step (fun _ _ => true) {} (legacyRun none)).map registeredRoles =
      some [(SessionRole.user, some (some SessionRole.user))] := by
    decide +kernel
  obtain ⟨s, hrun, hroles⟩ := Run.exists_reach_of_exec (fun _ _ _ => trivial) hexec
  have hreach : Run.Reach step Run.anyStep {} s := hrun
  have hbound : RoleBound s := by
    intro reg hmem hmode
    have hpair : (reg.session.role, (authMiddleware reg.openedBy.config reg.openedBy.now
        reg.openedBy.cookies).toOption) ∈ registeredRoles s := List.mem_map_of_mem hmem
    rw [hroles, List.mem_singleton, Prod.mk.injEq] at hpair
    cases hauth : authMiddleware reg.openedBy.config reg.openedBy.now reg.openedBy.cookies with
    | error e =>
        rw [hauth] at hpair
        cases hpair.2
    | ok auth =>
        rw [hauth] at hpair
        cases hpair.2
        rw [hpair.1]
  exact ⟨s, (roleBound_iff_legacyAsUser hreach).mp hbound, hbound, hroles⟩

/-- A legacy WebSocket opened with the cookie of the user registers an agent session when
its offer names the agent. -/
theorem legacy_offer_registers_agent :
    ∃ s, Run.Reach step Run.anyStep {} s ∧
      registeredRoles s = [(.agent, some (some .user))] ∧ ¬ RoleBound s := by
  have hexec :
      (Run.exec step (fun _ _ => true) {} (legacyRun (some "agent"))).map registeredRoles =
        some [(SessionRole.agent, some (some SessionRole.user))] := by
    decide +kernel
  obtain ⟨s, hreach, hroles⟩ := Run.exists_reach_of_exec (fun _ _ _ => trivial) hexec
  refine ⟨s, hreach, hroles, fun hbound => ?_⟩
  have hpair : (SessionRole.agent, some (some SessionRole.user)) ∈ registeredRoles s := by
    rw [hroles]
    exact List.mem_singleton.mpr rfl
  obtain ⟨reg, hmem, heq⟩ := List.mem_map.mp hpair
  rw [Prod.mk.injEq] at heq
  have hmode : ¬ NoPassword reg.openedBy.config := by
    intro hmode
    rw [authMiddleware, if_pos hmode] at heq
    cases heq.2
  have hauth := hbound reg hmem hmode
  rw [hauth, heq.1] at heq
  cases heq.2

end ArkKvm.Web.Signaling
