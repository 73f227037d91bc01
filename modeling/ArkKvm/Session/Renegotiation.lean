import ArkKvm.IpForward.Ticket
import ArkKvm.Session.Tasks

/-!
# Renegotiation under the same id

The removal of an old session by its peer, interleaved with the arrival of a new
session under the same id: registration, claim of the role slot with its update of
the lease, and requests for IP-forward tickets.  The check of the peer happens under
the lock of the sessions; slots, tickets and lease are then cleared by id.

`State.finish` runs what is left of the removal and then what is left of the arrival.
A step that does not get in the way of the other thread leaves it as it is, so a run
of such steps ends like the run in which the removal came first.
-/

namespace ArkKvm.Renegotiation

open Lib Lib.Run Tasks ControlLease IpForward

structure TicketRequest where
  params : StartIpForwardParams
  usbPeer : Except String String
  uuid : String
  issued : Nat
  now : Nat

/-- The two sessions.  They share the id; `new_session` gave the new one a peer connection
of its own. -/
structure Setting where
  id : String
  oldPeer : Nat
  role : SessionRole
  newPeer : Nat
  requests : List TicketRequest
  peer_ne : newPeer ≠ oldPeer

def Setting.session (c : Setting) : Session := ⟨c.id, c.role, c.newPeer⟩

/-- The four stores, each with a lock of its own. -/
structure Stores where
  app : AppState := {}
  tickets : Tickets := ∅
  lease : Lease := {}

/-- Where `remove_session_for_peer` stands; `role` is the role of the removed session.
While it clears the tickets it holds the lock of the slots. -/
inductive Removal
  | remove
  | clearSlots (role : SessionRole)
  | clearTickets (role : SessionRole)
  | look (role : SessionRole) (seen : Look)
  | lockLease (role : SessionRole) (online : Online)
  | done

inductive Newcomer
  | add
  | claim
  | look (previousUser : Bool) (seen : Look)
  | lockLease (previousUser : Bool) (online : Online)
  | start (requests : List TicketRequest)

/-- `accepted` tells whether the claim was accepted. -/
structure State where
  stores : Stores
  removal : Removal := .remove
  newcomer : Newcomer := .add
  accepted : Bool := false

/-- `on_session_removed` looks for the user first. -/
def Removal.startLook : Look := .slots ⟨false, false⟩ [.user, .agent]

/-- `on_role_claimed` looks for the agent first. -/
def Newcomer.startLook : Look := .slots ⟨false, false⟩ [.agent, .user]

def Removal.afterLook (role : SessionRole) : Look → Removal
  | .slots online [] => .lockLease role online
  | seen => .look role seen

def Newcomer.afterLook (previousUser : Bool) : Look → Newcomer
  | .slots online [] => .lockLease previousUser online
  | seen => .look previousUser seen

def Removal.step (c : Setting) (s : Stores) : Removal → Option (Stores × Removal)
  | .remove =>
      match s.app.removeEntry c.id (some c.oldPeer) with
      | (_, none) => some (s, .done)
      | (app, some session) => some ({ s with app := app }, .clearSlots session.role)
  | .clearSlots role =>
      some ({ s with app := s.app.clearRoleSlots c.id }, .clearTickets role)
  | .clearTickets role =>
      some ({ s with tickets := clearSession c.id s.tickets }, .look role startLook)
  | .look role seen => some (s, afterLook role (seen.step s.app))
  | .lockLease role online =>
      some ({ s with lease := (onSessionRemoved role online s.lease).1 }, .done)
  | .done => none

def Removal.holdsSlots : Removal → Bool
  | .clearTickets _ => true
  | _ => false

def readsSlot : Look → Bool
  | .slots _ _ => true
  | .session _ _ _ _ => false

def startTicket (c : Setting) (q : TicketRequest) (tickets : Tickets) : Tickets :=
  (IpForward.start c.id q.params q.usbPeer q.uuid q.issued q.now tickets).1

/-- A step of the arrival, with whether its claim has been accepted by now. -/
def Newcomer.step (c : Setting) (locked : Bool) (s : Stores) (accepted : Bool) :
    Newcomer → Option (Stores × Newcomer × Bool)
  | .add => some ({ s with app := (s.app.addSession c.session).1 }, .claim, accepted)
  | .claim =>
      if locked then none
      else
        match s.app.claimRoleSlot c.session with
        | (app, .accepted previous) =>
            some ({ s with app := app }, .look previous.isSome startLook, true)
        | _ => some (s, .start c.requests, accepted)
  | .look previousUser seen =>
      if locked && readsSlot seen then none
      else some (s, afterLook previousUser (seen.step s.app), accepted)
  | .lockLease previousUser online =>
      some ({ s with lease := (onRoleClaimed c.role previousUser online 0 s.lease).1 },
        .start c.requests, accepted)
  | .start (q :: rest) =>
      some ({ s with tickets := startTicket c q s.tickets }, .start rest, accepted)
  | .start [] => none

inductive Thread
  | removal
  | newcomer
deriving DecidableEq

def step (c : Setting) (s : State) : Thread → Option State
  | .removal =>
      (s.removal.step c s.stores).map fun (stores, removal) =>
        { s with stores := stores, removal := removal }
  | .newcomer =>
      (s.newcomer.step c s.removal.holdsSlots s.stores s.accepted).map
        fun (stores, newcomer, accepted) =>
          { s with stores := stores, newcomer := newcomer, accepted := accepted }

def State.finished (s : State) : Prop := s.removal = .done ∧ s.newcomer = .start []

/-! ## What is left of each thread -/

def finishLook (app : AppState) : Look → Online
  | .slots online todo =>
      todo.foldl (fun found role => if app.online role then Online.found found role else found)
        online
  | .session online role id todo =>
      todo.foldl (fun found role => if app.online role then Online.found found role else found)
        (if (app.sessions.lookup id).isSome then Online.found online role else online)

def finishLocked (role : SessionRole) (online : Online) (s : Stores) : Stores :=
  { s with lease := (onSessionRemoved role online s.lease).1 }

def finishTickets (c : Setting) (role : SessionRole) (s : Stores) : Stores :=
  finishLocked role (finishLook s.app Removal.startLook)
    { s with tickets := clearSession c.id s.tickets }

def finishSlots (c : Setting) (role : SessionRole) (s : Stores) : Stores :=
  finishTickets c role { s with app := s.app.clearRoleSlots c.id }

def Removal.finish (c : Setting) (s : Stores) : Removal → Stores
  | .remove =>
      match s.app.removeEntry c.id (some c.oldPeer) with
      | (_, none) => s
      | (app, some session) => finishSlots c session.role { s with app := app }
  | .clearSlots role => finishSlots c role s
  | .clearTickets role => finishTickets c role s
  | .look role seen => finishLocked role (finishLook s.app seen) s
  | .lockLease role online => finishLocked role online s
  | .done => s

def finishRequests (c : Setting) (requests : List TicketRequest) (s : Stores) : Stores :=
  { s with tickets := requests.foldl (fun tickets q => startTicket c q tickets) s.tickets }

def finishClaimed (c : Setting) (previousUser : Bool) (online : Online) (s : Stores) : Stores :=
  finishRequests c c.requests
    { s with lease := (onRoleClaimed c.role previousUser online 0 s.lease).1 }

def finishClaim (c : Setting) (s : Stores) (accepted : Bool) : Stores × Bool :=
  match s.app.claimRoleSlot c.session with
  | (app, .accepted previous) =>
      (finishClaimed c previous.isSome (finishLook app Newcomer.startLook) { s with app := app },
        true)
  | _ => (finishRequests c c.requests s, accepted)

def Newcomer.finish (c : Setting) (s : Stores) (accepted : Bool) : Newcomer → Stores × Bool
  | .add => finishClaim c { s with app := (s.app.addSession c.session).1 } accepted
  | .claim => finishClaim c s accepted
  | .look previousUser seen =>
      (finishClaimed c previousUser (finishLook s.app seen) s, accepted)
  | .lockLease previousUser online => (finishClaimed c previousUser online s, accepted)
  | .start requests => (finishRequests c requests s, accepted)

def State.finish (c : Setting) (s : State) : Stores × Bool :=
  s.newcomer.finish c (s.removal.finish c s.stores) s.accepted

section

variable {c : Setting} {s s' : Stores}

theorem finishLook_step (app : AppState) (seen : Look) :
    finishLook app (seen.step app) = finishLook app seen := by
  rcases seen with ⟨online, _ | ⟨role, todo⟩⟩ | ⟨online, role, id, todo⟩
  · rfl
  · cases hslot : app.roleSessions.lookup role with
    | none => simp [Look.step, finishLook, AppState.online, AppState.getSessionForRole, hslot]
    | some id => simp [Look.step, finishLook, AppState.online, AppState.getSessionForRole, hslot]
  · cases hsession : app.sessions.lookup id <;> simp [Look.step, finishLook, hsession]

theorem Removal.finish_afterLook (role : SessionRole) (seen : Look) :
    (Removal.afterLook role seen).finish c s = finishLocked role (finishLook s.app seen) s := by
  rcases seen with ⟨online, _ | ⟨role', todo⟩⟩ | ⟨online, role', id, todo⟩ <;> rfl

theorem Newcomer.finish_afterLook (previousUser : Bool) (seen : Look) (accepted : Bool) :
    (Newcomer.afterLook previousUser seen).finish c s accepted =
      (finishClaimed c previousUser (finishLook s.app seen) s, accepted) := by
  rcases seen with ⟨online, _ | ⟨role', todo⟩⟩ | ⟨online, role', id, todo⟩ <;> rfl

theorem Removal.finish_step {r r' : Removal} (h : r.step c s = some (s', r')) :
    r'.finish c s' = r.finish c s := by
  cases r with
  | remove =>
      simp only [Removal.step, Removal.finish] at h ⊢
      cases hremove : s.app.removeEntry c.id (some c.oldPeer) with
      | mk app removed =>
          cases removed <;>
          · rw [hremove] at h
            cases h
            rfl
  | clearSlots role | clearTickets role | lockLease role online =>
      cases h
      rfl
  | look role seen =>
      cases h
      rw [Removal.finish_afterLook, finishLook_step]
      rfl
  | done => cases h

theorem Newcomer.finish_step {n n' : Newcomer} {locked accepted accepted' : Bool}
    (h : n.step c locked s accepted = some (s', n', accepted')) :
    n'.finish c s' accepted' = n.finish c s accepted := by
  cases n with
  | add =>
      cases h
      rfl
  | claim =>
      simp only [Newcomer.step] at h
      by_cases hlocked : locked = true
      · simp [hlocked] at h
      rw [if_neg hlocked] at h
      simp only [Newcomer.finish, finishClaim]
      cases hclaim : s.app.claimRoleSlot c.session with
      | mk app result =>
          cases result <;>
          · rw [hclaim] at h
            cases h
            rfl
  | look previousUser seen =>
      simp only [Newcomer.step] at h
      by_cases hlocked : (locked && readsSlot seen) = true
      · simp [hlocked] at h
      rw [if_neg hlocked] at h
      cases h
      rw [Newcomer.finish_afterLook, finishLook_step]
      rfl
  | lockLease previousUser online =>
      cases h
      rfl
  | start requests =>
      cases requests <;>
      · cases h
        try rfl

end

/-! ## Steps that do not get in the way -/

def todo : Look → List SessionRole
  | .slots _ todo | .session _ _ _ todo => todo

def avoids (id : String) : Look → Prop
  | .slots _ _ => True
  | .session _ _ id' _ => id' ≠ id

def Removal.mustClear : Removal → Bool
  | .clearSlots _ | .clearTickets _ => true
  | _ => false

def Concerns (role : SessionRole) (l : Lease) : Prop :=
  l.owner = some role ∨ ∃ p ∈ l.pending, p.requester = role

/-- The stores of sessions and slots without the old session. -/
def Setting.cleared (c : Setting) (app : AppState) : AppState :=
  { app with sessions := app.sessions.erase c.id }.clearRoleSlots c.id

/-- The old session leaves nothing behind that its removal would have taken from the new
one: no ticket, no slot of another role, and no control that would have passed on. -/
structure Replaces (c : Setting) (s : Stores) (old : Session) : Prop where
  tickets : pendingFor c.id s.tickets = 0
  slots : ∀ r, r ≠ c.role → s.app.roleSessions.lookup r ≠ some c.id
  control : old.role = c.role → s.lease.owner = some c.role →
    (c.cleared s.app).online c.role = false → ∀ r, (c.cleared s.app).online r = false

/-- The new session is registered before the removal looks only where it simply replaces
the old one.  It claims its slot when the removal is past the slots, and then past its look
at that slot or about to leave the lease alone; or its claim is one that is rejected.  It
updates the lease after the removal, or while the removal is about to leave the lease alone.
It asks for tickets when the removal is past the tickets. -/
def Ordered (c : Setting) (s : State) : Thread → Prop
  | .removal => True
  | .newcomer =>
      match s.newcomer, s.removal with
      | .add, .remove =>
          ∀ old ∈ s.stores.app.sessions.lookup c.id, old.peer = c.oldPeer →
            Replaces c s.stores old
      | .claim, .clearSlots _ =>
          c.role = .agent ∧
            ∃ other ∈ s.stores.app.roleSessions.lookup c.role, other ≠ c.id
      | .claim, .look role seen =>
          c.role ∈ todo seen →
            (finishLook s.stores.app seen).of role = true ∨ ¬ Concerns role s.stores.lease
      | .lockLease _ _, .look role seen =>
          (finishLook s.stores.app seen).of role = true ∨
            (role ≠ c.role ∧ ¬ Concerns role s.stores.lease)
      | .lockLease _ _, .lockLease role online =>
          online.of role = true ∨ (role ≠ c.role ∧ ¬ Concerns role s.stores.lease)
      | .start (_ :: _), removal => removal.mustClear = false
      | _, _ => True

/-- The slot is yet to be claimed. -/
def Newcomer.waiting : Newcomer → Bool
  | .add | .claim => true
  | _ => false

def Newcomer.updating : Newcomer → Bool
  | .look _ _ | .lockLease _ _ => true
  | _ => false

/-- Between the slots and the end of its look the removal meets its own id nowhere. -/
def Removal.Passed (id : String) (app : AppState) : Removal → Prop
  | .clearTickets _ => ∀ r, app.roleSessions.lookup r ≠ some id
  | .look _ seen => (∀ r, app.roleSessions.lookup r ≠ some id) ∧ avoids id seen
  | _ => True

/-- What holds along such a run. -/
structure Kept (c : Setting) (s : State) : Prop where
  registered : s.newcomer ≠ .add → s.stores.app.sessions.lookup c.id = some c.session
  waiting : s.newcomer.waiting = true → s.accepted = false ∧ s.removal.Passed c.id s.stores.app
  updating : s.newcomer.updating = true → s.accepted = true
  slot : s.accepted = true →
    s.stores.app.roleSessions.lookup c.role = some c.id ∧ s.removal.mustClear = false

section

variable {c : Setting} {s s' : Stores} {app app' : AppState}

theorem finishLook_congr {seen : Look}
    (honline : ∀ role ∈ todo seen, app'.online role = app.online role)
    (hsessions : ∀ id, app'.sessions.lookup id = app.sessions.lookup id ∨ avoids id seen) :
    finishLook app' seen = finishLook app seen := by
  have hfold : ∀ (roles : List SessionRole) (online : Online),
      (∀ role ∈ roles, app'.online role = app.online role) →
      roles.foldl (fun found role => if app'.online role then Online.found found role else found)
        online =
      roles.foldl (fun found role => if app.online role then Online.found found role else found)
        online := by
    intro roles
    induction roles with
    | nil => exact fun _ _ => rfl
    | cons role rest ih =>
        intro online hroles
        rw [List.foldl_cons, List.foldl_cons, hroles role List.mem_cons_self]
        exact ih _ fun r hr => hroles r (List.mem_cons_of_mem role hr)
  cases seen with
  | slots online roles => exact hfold roles online honline
  | session online role id roles =>
      have hid : app'.sessions.lookup id = app.sessions.lookup id :=
        (hsessions id).resolve_right fun h => h rfl
      simp only [finishLook, hid]
      exact hfold roles _ honline

theorem online_addSession_of_ne {session : Session} {role : SessionRole}
    (h : app.roleSessions.lookup role ≠ some session.id) :
    (app.addSession session).1.online role = app.online role := by
  simp only [AppState.online, AppState.getSessionForRole, AppState.addSession]
  cases hslot : app.roleSessions.lookup role with
  | none => rfl
  | some id =>
      have hne : id ≠ session.id := fun heq => h (by rw [hslot, heq])
      simp only [Option.bind_some]
      rw [AList.lookup_insert_ne hne]

theorem finishLook_addSession (seen : Look) (session : Session)
    (hslots : ∀ r, app.roleSessions.lookup r ≠ some session.id) (hseen : avoids session.id seen) :
    finishLook (app.addSession session).1 seen = finishLook app seen := by
  refine finishLook_congr (fun role _ => online_addSession_of_ne (hslots role)) fun id => ?_
  by_cases hid : id = session.id
  · exact .inr (hid ▸ hseen)
  · exact .inl (AList.lookup_insert_ne hid)

theorem onSessionRemoved_of_not_concerns {role : SessionRole} {online : Online} {l : Lease}
    (h : ¬ Concerns role l) : (onSessionRemoved role online l).1 = l := by
  obtain ⟨howner, hpending⟩ := not_or.mp h
  have hnone : (l.pending.any fun p => p.requester = role && !online.of role) = false := by
    cases hp : l.pending with
    | none => rfl
    | some p =>
        have hother : p.requester ≠ role := fun heq => hpending ⟨p, hp, heq⟩
        simp [hother]
  simp [onSessionRemoved, howner, hnone]

theorem onSessionRemoved_of_online {role : SessionRole} {online : Online} (l : Lease)
    (h : online.of role = true) : (onSessionRemoved role online l).1 = l := by
  simp [onSessionRemoved, h]

theorem Removal.finish_remove_of_registered
    (h : s.app.sessions.lookup c.id = some c.session) : Removal.remove.finish c s = s := by
  have hremove : s.app.removeEntry c.id (some c.oldPeer) = (s.app, none) := by
    simp [AppState.removeEntry, h, Setting.session, c.peer_ne]
  simp only [Removal.finish, hremove]

theorem onRoleClaimed_cases (role : SessionRole) (previousUser : Bool) (online : Online)
    (l : Lease) :
    (onRoleClaimed role previousUser online 0 l).1 = l ∨
      (onRoleClaimed role previousUser online 0 l).1 = settle (some role) l := by
  unfold onRoleClaimed
  cases role with
  | user =>
      by_cases hprevious : previousUser = true
      · simp [hprevious]
      · by_cases hagent : l.owner = some .agent ∧ online.agent = true <;> simp [hprevious, hagent]
  | agent =>
      by_cases hvacant : l.owner = none ∨ online.ownerOnline l.owner = false <;> simp [hvacant]

theorem not_concerns_onRoleClaimed {role role' : SessionRole} {previousUser : Bool}
    {online : Online} {l : Lease} (hrole : role ≠ role') (h : ¬ Concerns role l) :
    ¬ Concerns role (onRoleClaimed role' previousUser online 0 l).1 := by
  rcases onRoleClaimed_cases role' previousUser online l with hkept | hsettled
  · rwa [hkept]
  · rw [hsettled]
    have hnone : (settle (some role') l).pending = none := by
      cases hp : l.pending <;> simp [settle, clearPendingLocked, hp]
    rintro (howner | ⟨p, hp, -⟩)
    · exact hrole (Option.some.inj howner).symm
    · rw [hnone] at hp
      cases hp

theorem lookup_clearRoleSlots_ne (app : AppState) (id : String) (r : SessionRole) :
    (app.clearRoleSlots id).roleSessions.lookup r ≠ some id := by
  intro hslot
  have hne := (Table.lookup_removeWhere.mp hslot).2
  simp at hne

theorem finish_addSession {r : Removal} (hr : r ≠ .remove) (hpassed : r.Passed c.id s.app) :
    r.finish c { s with app := (s.app.addSession c.session).1 } =
      { r.finish c s with app := ((r.finish c s).app.addSession c.session).1 } := by
  cases r with
  | remove => exact absurd rfl hr
  | clearSlots role =>
      have hfind : finishLook ((s.app.clearRoleSlots c.id).addSession c.session).1
          Removal.startLook = finishLook (s.app.clearRoleSlots c.id) Removal.startLook :=
        finishLook_addSession _ c.session (lookup_clearRoleSlots_ne s.app c.id) trivial
      change finishTickets c role
        { s with app := ((s.app.clearRoleSlots c.id).addSession c.session).1 } = _
      simp only [finishTickets, finishLocked, hfind]
      rfl
  | clearTickets role =>
      have hfind := finishLook_addSession Removal.startLook c.session hpassed trivial
      simp only [Removal.finish, finishTickets, finishLocked, hfind]
  | look role seen =>
      obtain ⟨hslots, hseen⟩ := hpassed
      simp only [Removal.finish, finishLocked,
        finishLook_addSession seen c.session hslots hseen]
  | lockLease role online | done => rfl

theorem found_mono {online online' : Online} (r : SessionRole)
    (h : ∀ role, online.of role = true → online'.of role = true) (role : SessionRole)
    (hrole : (Online.found online r).of role = true) :
    (Online.found online' r).of role = true := by
  by_cases hsame : role = r
  · subst hsame
    cases role <;> rfl
  · have hfound : ∀ o : Online, (Online.found o r).of role = o.of role := by
      intro o
      cases r <;> cases role <;> first | rfl | exact absurd rfl hsame
    rw [hfound] at hrole ⊢
    exact h role hrole

theorem finishLook_mono {seen : Look} (hsessions : app'.sessions = app.sessions)
    (honline : ∀ role, app.online role = true → app'.online role = true) (role : SessionRole)
    (h : (finishLook app seen).of role = true) : (finishLook app' seen).of role = true := by
  have hfold : ∀ (roles : List SessionRole) (online online' : Online),
      (∀ r, online.of r = true → online'.of r = true) → ∀ r,
      (roles.foldl (fun found role => if app.online role then Online.found found role else found)
        online).of r = true →
      (roles.foldl (fun found role => if app'.online role then Online.found found role else found)
        online').of r = true := by
    intro roles
    induction roles with
    | nil => exact fun _ _ h => h
    | cons next rest ih =>
        intro online online' hle
        rw [List.foldl_cons, List.foldl_cons]
        refine ih _ _ fun r hr => ?_
        by_cases hnext : app.online next = true
        · rw [if_pos (honline next hnext)]
          rw [if_pos hnext] at hr
          exact found_mono next hle r hr
        · rw [if_neg hnext] at hr
          by_cases hnext' : app'.online next = true
          · rw [if_pos hnext']
            cases next <;> cases r <;> first | rfl | exact hle _ hr
          · rw [if_neg hnext']
            exact hle r hr
  cases seen with
  | slots online roles => exact hfold roles online online (fun _ h => h) role h
  | session online r id roles =>
      simp only [finishLook, hsessions] at h ⊢
      exact hfold roles _ _ (fun _ h => h) role h

theorem finishLook_claim {role : SessionRole} {seen : Look}
    (h : c.role ∈ todo seen →
      (finishLook s.app seen).of role = true ∨ ¬ Concerns role s.lease) :
    finishLocked role (finishLook (s.app.claimRoleSlot c.session).1 seen)
        { s with app := (s.app.claimRoleSlot c.session).1 } =
      { finishLocked role (finishLook s.app seen) s with
        app := (s.app.claimRoleSlot c.session).1 } := by
  by_cases hmem : c.role ∈ todo seen
  · rcases h hmem with honline | hconcern
    · have honline' := finishLook_mono (s.app.claimRoleSlot_sessions c.session)
        (fun _ h => AppState.online_claimRoleSlot h) role honline
      simp only [finishLocked, onSessionRemoved_of_online _ honline,
        onSessionRemoved_of_online _ honline']
    · simp only [finishLocked, onSessionRemoved_of_not_concerns hconcern]
  · have hfind : finishLook (s.app.claimRoleSlot c.session).1 seen = finishLook s.app seen := by
      rcases s.app.claimRoleSlot_cases c.session with hkept | ⟨-, -, -, htaken⟩
      · rw [hkept]
      · rw [htaken]
        refine finishLook_congr (fun role hrole => ?_) fun _ => .inl rfl
        have hne : role ≠ c.session.role := by
          rintro rfl
          exact hmem hrole
        simp only [AppState.online, AppState.getSessionForRole]
        rw [AList.lookup_insert_ne hne]
    simp only [finishLocked, hfind]

/-- A removal that is past slots and tickets, or that finds the new peer, has nothing left
but the lease. -/
theorem Removal.finish_of_cleared {r : Removal} (hclear : r.mustClear = false)
    (hreg : s.app.sessions.lookup c.id = some c.session) :
    r.finish c s = { s with lease := (r.finish c s).lease } := by
  cases r with
  | remove => rw [Removal.finish_remove_of_registered hreg]
  | clearSlots role | clearTickets role => cases hclear
  | look role seen | lockLease role online | done => rfl

theorem Newcomer.step_claim {n : Newcomer} {locked accepted accepted' : Bool}
    (h : Newcomer.claim.step c locked s accepted = some (s', n, accepted')) :
    locked = false ∧ s' = { s with app := (s.app.claimRoleSlot c.session).1 } ∧
      ∀ t : Stores, t.app = s.app →
        Newcomer.claim.step c false t accepted =
          some ({ t with app := (s.app.claimRoleSlot c.session).1 }, n, accepted') := by
  simp only [Newcomer.step] at h ⊢
  by_cases hlocked : locked = true
  · simp [hlocked] at h
  rw [if_neg hlocked] at h
  refine ⟨by simpa using hlocked, ?_⟩
  cases hclaim : s.app.claimRoleSlot c.session with
  | mk app result =>
      have hkept : (∀ previous, result ≠ .accepted previous) → app = s.app := by
        intro hresult
        have hkept : (s.app.claimRoleSlot c.session).1 = s.app := by
          refine AppState.claimRoleSlot_not_accepted fun previous heq => hresult previous ?_
          rw [← heq, hclaim]
        rwa [hclaim] at hkept
      rw [hclaim] at h
      cases result with
      | accepted previous =>
          cases h
          refine ⟨rfl, fun t ht => ?_⟩
          rw [ht, hclaim]
          rfl
      | rejectedOccupied | rejectedMcpDisabled | notRegistered =>
          cases h
          rw [hkept (by simp)]
          refine ⟨rfl, fun t ht => ?_⟩
          rw [← ht, ht, hclaim, ← ht]
          rfl

theorem claim_commutes {r : Removal} {n : Newcomer} {accepted accepted' : Bool}
    (hreg : s.app.sessions.lookup c.id = some c.session)
    (hok : Ordered c ⟨s, r, .claim, accepted⟩ .newcomer)
    (h : Newcomer.claim.step c r.holdsSlots s accepted = some (s', n, accepted')) :
    Newcomer.claim.step c false (r.finish c s) accepted = some (r.finish c s', n, accepted') := by
  obtain ⟨hfree, rfl, hclaim⟩ := Newcomer.step_claim h
  cases r with
  | remove =>
      have hreg' : (s.app.claimRoleSlot c.session).1.sessions.lookup c.id = some c.session := by
        rwa [AppState.claimRoleSlot_sessions]
      rw [Removal.finish_remove_of_registered hreg,
        Removal.finish_remove_of_registered (s := { s with app := _ }) hreg']
      exact hclaim s rfl
  | clearSlots role =>
      obtain ⟨hrole, other, hslot, hother⟩ := hok
      have hcleared : (s.app.clearRoleSlots c.id).roleSessions.lookup c.role = some other :=
        Table.lookup_removeWhere.mpr ⟨hslot, by simpa using hother⟩
      have hbefore : s.app.claimRoleSlot c.session = (s.app, .rejectedOccupied) :=
        AppState.claimRoleSlot_occupied hreg hrole hslot hother
      -- the holder keeps the slot when those of the id are cleared
      have hafter : (s.app.clearRoleSlots c.id).claimRoleSlot c.session =
          (s.app.clearRoleSlots c.id, .rejectedOccupied) :=
        AppState.claimRoleSlot_occupied hreg hrole hcleared hother
      have hstep := hclaim s rfl
      simp only [Newcomer.step, hbefore, Bool.false_eq_true, if_false] at hstep
      have hfinish : ((Removal.clearSlots role).finish c s).app = s.app.clearRoleSlots c.id := rfl
      simp only [Newcomer.step, hfinish, hafter, hbefore, Bool.false_eq_true, if_false]
      cases hstep
      rfl
  | clearTickets role => cases hfree
  | look role seen =>
      rw [hclaim ((Removal.look role seen).finish c s) rfl]
      simp only [Removal.finish]
      rw [finishLook_claim hok]
  | lockLease role online | done => exact hclaim _ rfl

/-- A step of the arrival and the rest of the removal can be exchanged, but for a
registration before the removal has looked. -/
theorem newcomer_commutes {r : Removal} {n n' : Newcomer} {accepted accepted' : Bool}
    (hs : Kept c ⟨s, r, n, accepted⟩) (hok : Ordered c ⟨s, r, n, accepted⟩ .newcomer)
    (hadd : n = .add → r ≠ .remove)
    (h : n.step c r.holdsSlots s accepted = some (s', n', accepted')) :
    n.step c false (r.finish c s) accepted = some (r.finish c s', n', accepted') := by
  cases n with
  | add =>
      cases h
      rw [finish_addSession (hadd rfl) (hs.waiting rfl).2]
      rfl
  | claim => exact claim_commutes (hs.registered (by simp)) hok h
  | look previousUser seen =>
      have haccepted : accepted = true := hs.updating rfl
      have hfinish := Removal.finish_of_cleared (hs.slot haccepted).2 (hs.registered (by simp))
      simp only [Newcomer.step] at h ⊢
      by_cases hlocked : (r.holdsSlots && readsSlot seen) = true
      · simp [hlocked] at h
      rw [if_neg hlocked] at h
      cases h
      simp only [Bool.false_and, Bool.false_eq_true, if_false]
      rw [hfinish]
  | lockLease previousUser online =>
      have haccepted : accepted = true := hs.updating rfl
      have hclear := (hs.slot haccepted).2
      cases h
      cases r with
      | remove =>
          have hreg : s.app.sessions.lookup c.id = some c.session := hs.registered (by simp)
          simp only [Removal.finish_remove_of_registered, hreg]
          rfl
      | clearSlots role | clearTickets role => cases hclear
      | look role seen | lockLease role seen =>
          rcases hok with honline | ⟨hrole, hconcern⟩
          · simp only [Newcomer.step, Removal.finish, finishLocked,
              onSessionRemoved_of_online _ honline]
          · simp only [Newcomer.step, Removal.finish, finishLocked,
              onSessionRemoved_of_not_concerns hconcern,
              onSessionRemoved_of_not_concerns (not_concerns_onRoleClaimed hrole hconcern)]
      | done => rfl
  | start requests =>
      cases requests with
      | nil => cases h
      | cons q rest =>
          cases h
          have hreg : s.app.sessions.lookup c.id = some c.session := hs.registered (by simp)
          cases r with
          | remove =>
              simp only [Removal.finish_remove_of_registered, hreg]
              rfl
          | clearSlots role | clearTickets role => cases hok
          | look role seen | lockLease role online | done => rfl

theorem Removal.passed_afterLook {role : SessionRole} {seen : Look}
    (h : (Removal.look role seen).Passed c.id app) :
    (Removal.afterLook role (seen.step app)).Passed c.id app := by
  obtain ⟨hslots, hseen⟩ := h
  have hlook : ∀ seen', avoids c.id seen' → (Removal.afterLook role seen').Passed c.id app := by
    rintro (⟨online, _ | ⟨r, todo⟩⟩ | ⟨online, r, id, todo⟩) havoids
    · exact trivial
    · exact ⟨hslots, havoids⟩
    · exact ⟨hslots, havoids⟩
  apply hlook
  rcases seen with ⟨online, _ | ⟨r, todo⟩⟩ | ⟨online, r, id, todo⟩
  · exact trivial
  · cases hslot : app.roleSessions.lookup r with
    | none => simp [Look.step, hslot, avoids]
    | some id =>
        simp only [Look.step, hslot]
        exact fun heq => hslots r (by rw [hslot, heq])
  · cases hsession : app.sessions.lookup id <;> simp [Look.step, hsession, avoids]

theorem Removal.mustClear_afterLook (role : SessionRole) (seen : Look) :
    (Removal.afterLook role seen).mustClear = false := by
  rcases seen with ⟨online, _ | ⟨r, todo⟩⟩ | ⟨online, r, id, todo⟩ <;> rfl

theorem Newcomer.afterLook_updating (previousUser : Bool) (seen : Look) :
    (Newcomer.afterLook previousUser seen).updating = true := by
  rcases seen with ⟨online, _ | ⟨r, todo⟩⟩ | ⟨online, r, id, todo⟩ <;> rfl

theorem Newcomer.waiting_of_updating {n : Newcomer} (h : n.updating = true) :
    n.waiting = false := by
  cases n <;> first | rfl | cases h

theorem Kept.not_accepted {s : State} (hs : Kept c s) (hclear : s.removal.mustClear = true) :
    s.accepted = false := by
  by_contra haccepted
  have hcleared := (hs.slot (by simpa using haccepted)).2
  rw [hclear] at hcleared
  cases hcleared

theorem Kept.removal {r r' : Removal} {n : Newcomer} {accepted : Bool}
    (hs : Kept c ⟨s, r, n, accepted⟩) (h : r.step c s = some (s', r')) :
    Kept c ⟨s', r', n, accepted⟩ := by
  cases r with
  | remove =>
      simp only [Removal.step] at h
      rcases s.app.removeEntry_cases c.id (some c.oldPeer) with hkept | ⟨old, hold, hpeer, hgone⟩
      · rw [hkept] at h
        cases h
        exact ⟨hs.registered, fun hn => ⟨(hs.waiting hn).1, trivial⟩, hs.updating,
          fun ha => ⟨(hs.slot ha).1, rfl⟩⟩
      · -- the old session is there, so the new one is not
        rw [hgone] at h
        cases h
        have hadd : n = .add := by
          by_contra hn
          have hreg := hs.registered hn
          simp only at hreg
          rw [hold] at hreg
          cases hreg
          exact c.peer_ne (hpeer c.oldPeer rfl)
        subst hadd
        have haccepted : accepted = false := (hs.waiting rfl).1
        exact ⟨fun hn => absurd rfl hn, fun _ => ⟨haccepted, trivial⟩, by simp [Newcomer.updating],
          by simp [haccepted]⟩
  | clearSlots role =>
      cases h
      have haccepted : accepted = false := hs.not_accepted rfl
      exact ⟨hs.registered, fun _ => ⟨haccepted, lookup_clearRoleSlots_ne s.app c.id⟩, hs.updating,
        by simp [haccepted]⟩
  | clearTickets role =>
      cases h
      have haccepted : accepted = false := hs.not_accepted rfl
      exact ⟨hs.registered, fun hn => ⟨haccepted, (hs.waiting hn).2, trivial⟩, hs.updating,
        by simp [haccepted]⟩
  | look role seen =>
      cases h
      exact ⟨hs.registered, fun hn => ⟨(hs.waiting hn).1, Removal.passed_afterLook (hs.waiting hn).2⟩,
        hs.updating, fun ha => ⟨(hs.slot ha).1, Removal.mustClear_afterLook _ _⟩⟩
  | lockLease role online =>
      cases h
      exact ⟨hs.registered, fun hn => ⟨(hs.waiting hn).1, trivial⟩, hs.updating,
        fun ha => ⟨(hs.slot ha).1, rfl⟩⟩
  | done => cases h

theorem Kept.claim {r : Removal} {n : Newcomer} {accepted accepted' : Bool}
    (hs : Kept c ⟨s, r, .claim, accepted⟩) (hok : Ordered c ⟨s, r, .claim, accepted⟩ .newcomer)
    (h : Newcomer.claim.step c r.holdsSlots s accepted = some (s', n, accepted')) :
    Kept c ⟨s', r, n, accepted'⟩ := by
  have hreg : s.app.sessions.lookup c.id = some c.session := hs.registered (by simp)
  have hfalse : accepted = false := (hs.waiting rfl).1
  simp only [Newcomer.step] at h
  by_cases hlocked : r.holdsSlots = true
  · simp [hlocked] at h
  rw [if_neg hlocked] at h
  cases hclaim : s.app.claimRoleSlot c.session with
  | mk app result =>
      rw [hclaim] at h
      cases result with
      | accepted previous =>
          cases h
          obtain ⟨-, hslot⟩ := AppState.claimRoleSlot_accepted (s := s.app) (congrArg (·.2) hclaim)
          rw [hclaim] at hslot
          have hclear : r.mustClear = false := by
            cases r with
            | clearSlots role =>
                obtain ⟨hrole, other, hother, hne⟩ := hok
                rw [AppState.claimRoleSlot_occupied hreg hrole hother hne] at hclaim
                cases hclaim
            | clearTickets role => exact absurd rfl hlocked
            | remove | look _ _ | lockLease _ _ | done => rfl
          have hreg' : app.sessions.lookup c.id = some c.session := by
            rw [← hreg, ← s.app.claimRoleSlot_sessions c.session, hclaim]
          exact ⟨fun _ => hreg', by simp [Newcomer.waiting], fun _ => rfl,
            fun _ => ⟨hslot, hclear⟩⟩
      | rejectedOccupied | rejectedMcpDisabled | notRegistered =>
          cases h
          exact ⟨fun _ => hreg, by simp [Newcomer.waiting], by simp [Newcomer.updating],
            by simp [hfalse]⟩

theorem Kept.newcomer {r : Removal} {n n' : Newcomer} {accepted accepted' : Bool}
    (hs : Kept c ⟨s, r, n, accepted⟩) (hok : Ordered c ⟨s, r, n, accepted⟩ .newcomer)
    (h : n.step c r.holdsSlots s accepted = some (s', n', accepted')) :
    Kept c ⟨s', r, n', accepted'⟩ := by
  cases n with
  | add =>
      cases h
      have hfalse : accepted = false := (hs.waiting rfl).1
      refine ⟨fun _ => AList.lookup_insert _, fun _ => ⟨hfalse, ?_⟩, by simp [Newcomer.updating],
        by simp [hfalse]⟩
      have hpassed := (hs.waiting rfl).2
      cases r <;> exact hpassed
  | claim => exact hs.claim hok h
  | look previousUser seen =>
      simp only [Newcomer.step] at h
      by_cases hlocked : (r.holdsSlots && readsSlot seen) = true
      · simp [hlocked] at h
      rw [if_neg hlocked] at h
      cases h
      have hupdating := Newcomer.afterLook_updating previousUser (seen.step s.app)
      have hwaiting := Newcomer.waiting_of_updating hupdating
      exact ⟨fun _ => hs.registered (by simp), by simp [hwaiting], fun _ => hs.updating rfl, hs.slot⟩
  | lockLease previousUser online =>
      cases h
      exact ⟨fun _ => hs.registered (by simp), by simp [Newcomer.waiting],
        by simp [Newcomer.updating], hs.slot⟩
  | start requests =>
      cases requests with
      | nil => cases h
      | cons q rest =>
          cases h
          exact ⟨fun _ => hs.registered (by simp), by simp [Newcomer.waiting],
            by simp [Newcomer.updating], hs.slot⟩

end

end ArkKvm.Renegotiation
