import ArkKvm.Session.Renegotiation

/-!
# The new session keeps what it was given

The other half of the argument about renegotiation: a registration before the removal
has looked makes the removal find another peer and do nothing.  Where the new session
simply replaces the old one, slots, tickets and control end as if the removal had been
there first.
-/

namespace ArkKvm.Renegotiation

open Lib Lib.Run Tasks ControlLease IpForward

/-! ## The owner of the lease -/

def claimOwner (role : SessionRole) (previousUser : Bool) (online : Online)
    (owner : Option SessionRole) : Option SessionRole :=
  match role with
  | .user => if ¬ previousUser ∧ owner = some .agent ∧ online.agent then owner else some .user
  | .agent => if online.ownerOnline owner then owner else some .agent

def removedOwner (role : SessionRole) (online : Online) (owner : Option SessionRole) :
    Option SessionRole :=
  if owner = some role ∧ online.of role = false then fallback online else owner

theorem owner_onRoleClaimed (role : SessionRole) (previousUser : Bool) (online : Online)
    (l : Lease) :
    (onRoleClaimed role previousUser online 0 l).1.owner =
      claimOwner role previousUser online l.owner := by
  unfold onRoleClaimed claimOwner
  cases role with
  | user =>
      by_cases hprevious : previousUser = true
      · simp [hprevious, settle]
      · by_cases hagent : l.owner = some .agent ∧ online.agent = true <;>
          simp [hprevious, hagent, settle]
  | agent =>
      cases howner : l.owner with
      | none => simp [settle, Online.ownerOnline]
      | some role =>
          by_cases honline : online.ownerOnline (some role) = true <;>
            simp [honline, settle, howner]

theorem owner_onSessionRemoved (role : SessionRole) (online : Online) (l : Lease) :
    (onSessionRemoved role online l).1.owner = removedOwner role online l.owner := by
  have hcleared : (clearPendingLocked l).owner = l.owner := by
    unfold clearPendingLocked
    cases l.pending <;> rfl
  unfold onSessionRemoved removedOwner
  by_cases hgone : l.owner = some role ∧ online.of role = false
  · simp [hgone, settle]
  · by_cases hrequester : (l.pending.any fun p => p.requester = role && !online.of role) = true <;>
      simp [hgone, hrequester, hcleared]

/-- A claim after the removal of the old session makes the claimed role the owner when a
claim without that removal does. -/
theorem claimOwner_removedOwner {role old : SessionRole} {previousUser : Bool} {online : Online}
    {owner : Option SessionRole}
    (h : old = role → owner = some role → online.of role = false → ∀ r, online.of r = false) :
    claimOwner role previousUser (Online.found online role) (removedOwner old online owner) =
        some role ↔
      claimOwner role previousUser (Online.found online role) owner = some role := by
  by_cases hgone : owner = some old ∧ online.of old = false
  · obtain ⟨rfl, hoffline⟩ := hgone
    rw [removedOwner, if_pos ⟨rfl, hoffline⟩]
    by_cases hsame : old = role
    · -- the role comes back: nobody else may have been there to take over
      subst hsame
      have hnobody := h rfl rfl hoffline
      have huser : online.user = false := hnobody .user
      have hagent : online.agent = false := hnobody .agent
      cases old <;> simp [fallback, huser, hagent, claimOwner, Online.found, Online.ownerOnline,
        Online.of]
    · -- the other role is offline, so the claimed one gets the lease either way
      cases old with
      | user =>
          cases role with
          | user => exact absurd rfl hsame
          | agent =>
              have huser : online.user = false := hoffline
              cases hagent : online.agent <;> simp [fallback, huser, hagent, claimOwner,
                Online.found, Online.ownerOnline, Online.of]
      | agent =>
          cases role with
          | agent => exact absurd rfl hsame
          | user =>
              have hagent : online.agent = false := hoffline
              cases huser : online.user <;> simp [fallback, huser, hagent, claimOwner,
                Online.found]
  · rw [removedOwner, if_neg hgone]

/-! ## The claim of a session that replaces another -/

/-- The new session is in the slot of its role and that role owns the lease. -/
def HasControl (c : Setting) (s : Stores) : Prop :=
  s.app.roleSessions.lookup c.role = some c.id ∧ s.lease.owner = some c.role

structure Same (c : Setting) (x y : Stores × Bool) : Prop where
  accepted : x.2 = y.2
  tickets : x.1.tickets = y.1.tickets
  control : HasControl c x.1 ↔ HasControl c y.1

theorem Same.refl (c : Setting) (x : Stores × Bool) : Same c x x := ⟨rfl, rfl, Iff.rfl⟩

theorem Same.symm {c : Setting} {x y : Stores × Bool} (h : Same c x y) : Same c y x :=
  ⟨h.accepted.symm, h.tickets.symm, h.control.symm⟩

theorem Same.trans {c : Setting} {x y z : Stores × Bool} (h : Same c x y) (h' : Same c y z) :
    Same c x z :=
  ⟨h.accepted.trans h'.accepted, h.tickets.trans h'.tickets, h.control.trans h'.control⟩

section

variable {c : Setting} {s : Stores} {app a b : AppState}

theorem online_of (app : AppState) (r : SessionRole) :
    Online.of ⟨app.online .user, app.online .agent⟩ r = app.online r := by
  cases r <;> rfl

theorem finishLook_removal (app : AppState) :
    finishLook app Removal.startLook = ⟨app.online .user, app.online .agent⟩ := by
  cases huser : app.online .user <;> cases hagent : app.online .agent <;>
    simp [finishLook, Removal.startLook, Online.found, huser, hagent]

theorem finishLook_newcomer (app : AppState) :
    finishLook app Newcomer.startLook = ⟨app.online .user, app.online .agent⟩ := by
  cases huser : app.online .user <;> cases hagent : app.online .agent <;>
    simp [finishLook, Newcomer.startLook, Online.found, huser, hagent]

/-- The outcome of a claim depends on the slot of the role alone, and an own entry in it
counts as an empty one. -/
theorem claimRoleSlot_replaced (hsessions : ∀ id, a.sessions.lookup id = b.sessions.lookup id)
    (hreg : b.sessions.lookup c.id = some c.session)
    (hslot : a.roleSessions.lookup c.role = b.roleSessions.lookup c.role ∨
      (a.roleSessions.lookup c.role = some c.id ∧ b.roleSessions.lookup c.role = none)) :
    (a.claimRoleSlot c.session).2 = (b.claimRoleSlot c.session).2 ∧
      (a.claimRoleSlot c.session).1.roleSessions.lookup c.role =
        (b.claimRoleSlot c.session).1.roleSessions.lookup c.role := by
  have hrega : a.sessions.lookup c.id = some c.session := (hsessions c.id).trans hreg
  have htaken : ∀ slots : Table SessionRole String,
      (slots.insert c.session.role c.session.id).lookup c.role = some c.id :=
    fun slots => AList.lookup_insert slots
  rcases hslot with hsame | ⟨hown, hempty⟩
  · cases hb : b.roleSessions.lookup c.role with
    | none =>
        rw [AppState.claimRoleSlot_vacant hrega (hsame.trans hb),
          AppState.claimRoleSlot_vacant hreg hb]
        exact ⟨rfl, (htaken a.roleSessions).trans (htaken b.roleSessions).symm⟩
    | some existing =>
        by_cases hexisting : existing = c.id
        · subst hexisting
          rw [AppState.claimRoleSlot_own hrega (hsame.trans hb),
            AppState.claimRoleSlot_own hreg hb]
          exact ⟨rfl, hsame⟩
        · cases hrole : c.role with
          | agent =>
              rw [AppState.claimRoleSlot_occupied hrega hrole (hsame.trans hb) hexisting,
                AppState.claimRoleSlot_occupied hreg hrole hb hexisting]
              exact ⟨rfl, hrole ▸ hsame⟩
          | user =>
              rw [AppState.claimRoleSlot_takeover hrega hrole (hsame.trans hb) hexisting,
                AppState.claimRoleSlot_takeover hreg hrole hb hexisting, hsessions existing,
                ← hrole]
              exact ⟨rfl, (htaken a.roleSessions).trans (htaken b.roleSessions).symm⟩
  · rw [AppState.claimRoleSlot_own hrega hown, AppState.claimRoleSlot_vacant hreg hempty]
    exact ⟨rfl, hown.trans (htaken b.roleSessions).symm⟩

theorem online_claimRoleSlot_of_ne {r : SessionRole} (h : r ≠ c.role) :
    (app.claimRoleSlot c.session).1.online r = app.online r := by
  rcases app.claimRoleSlot_cases c.session with hkept | ⟨-, -, -, htaken⟩
  · rw [hkept]
  · rw [htaken]
    have hne : r ≠ c.session.role := h
    simp only [AppState.online, AppState.getSessionForRole]
    rw [AList.lookup_insert_ne hne]

theorem finishLook_accepted {previous : Option Session} (happ : app = (a.addSession c.session).1)
    (hslots : ∀ r, r ≠ c.role → a.roleSessions.lookup r ≠ some c.id)
    (hclaim : (app.claimRoleSlot c.session).2 = .accepted previous) :
    finishLook (app.claimRoleSlot c.session).1 Newcomer.startLook =
      Online.found ⟨a.online .user, a.online .agent⟩ c.role := by
  obtain ⟨hreg, hslot⟩ := AppState.claimRoleSlot_accepted hclaim
  have hself : (app.claimRoleSlot c.session).1.online c.role = true := by
    refine AppState.online_eq_true_iff.mpr ⟨c.id, c.session, hslot, ?_⟩
    rw [AppState.claimRoleSlot_sessions]
    exact hreg
  have hother : ∀ r, r ≠ c.role →
      (app.claimRoleSlot c.session).1.online r = a.online r := by
    intro r hr
    rw [online_claimRoleSlot_of_ne hr, happ]
    exact online_addSession_of_ne (hslots r hr)
  rw [finishLook_newcomer]
  cases hrole : c.role with
  | user =>
      rw [hrole] at hself hother
      rw [hself, hother .agent (by simp)]
      rfl
  | agent =>
      rw [hrole] at hself hother
      rw [hself, hother .user (by simp)]
      rfl

theorem finishClaim_accepted {previous : Option Session} (accepted : Bool)
    (h : (s.app.claimRoleSlot c.session).2 = .accepted previous) :
    finishClaim c s accepted =
      (finishClaimed c previous.isSome
        (finishLook (s.app.claimRoleSlot c.session).1 Newcomer.startLook)
        { s with app := (s.app.claimRoleSlot c.session).1 }, true) := by
  unfold finishClaim
  cases hclaim : s.app.claimRoleSlot c.session with
  | mk app result =>
      rw [hclaim] at h
      simp only at h
      subst h
      rfl

theorem finishClaim_rejected (accepted : Bool)
    (h : ∀ previous, (s.app.claimRoleSlot c.session).2 ≠ .accepted previous) :
    finishClaim c s accepted = (finishRequests c c.requests s, accepted) := by
  unfold finishClaim
  cases hclaim : s.app.claimRoleSlot c.session with
  | mk app result =>
      cases result with
      | accepted previous => exact absurd (by rw [hclaim]) (h previous)
      | rejectedOccupied | rejectedMcpDisabled | notRegistered => rfl

theorem Removal.finish_remove {old : Session} (hold : s.app.sessions.lookup c.id = some old)
    (hpeer : old.peer = c.oldPeer) :
    Removal.remove.finish c s =
      { app := c.cleared s.app
        tickets := clearSession c.id s.tickets
        lease := (onSessionRemoved old.role
          ⟨(c.cleared s.app).online .user, (c.cleared s.app).online .agent⟩ s.lease).1 } := by
  have hremove : s.app.removeEntry c.id (some c.oldPeer) =
      ({ s.app with sessions := s.app.sessions.erase c.id }, some old) := by
    simp [AppState.removeEntry, hold, hpeer]
  simp only [Removal.finish, hremove, finishSlots, finishTickets, finishLocked, finishLook_removal]
  rfl

theorem lookup_cleared (app : AppState) (r : SessionRole) :
    (c.cleared app).roleSessions.lookup r =
      (app.roleSessions.lookup r).filter fun id => !decide (id = c.id) :=
  Table.lookup_removeWhere_eq app.roleSessions (fun id => decide (id = c.id)) r

theorem lookup_cleared_of_ne {r : SessionRole} (h : app.roleSessions.lookup r ≠ some c.id) :
    (c.cleared app).roleSessions.lookup r = app.roleSessions.lookup r := by
  rw [lookup_cleared]
  cases hslot : app.roleSessions.lookup r with
  | none => rfl
  | some id =>
      have hne : id ≠ c.id := fun heq => h (by rw [hslot, heq])
      simp [hne]

theorem online_cleared_of_ne {r : SessionRole} (h : app.roleSessions.lookup r ≠ some c.id) :
    (c.cleared app).online r = app.online r := by
  simp only [AppState.online, AppState.getSessionForRole]
  rw [lookup_cleared_of_ne h]
  cases hslot : app.roleSessions.lookup r with
  | none => rfl
  | some id =>
      have hne : id ≠ c.id := fun heq => h (by rw [hslot, heq])
      have herase : (c.cleared app).sessions.lookup id = app.sessions.lookup id :=
        AList.lookup_erase_ne hne
      simp only [Option.bind_some, herase]

/-- Only the own role can be online because of the old session. -/
theorem found_online_cleared (h : ∀ r, r ≠ c.role → app.roleSessions.lookup r ≠ some c.id) :
    Online.found ⟨app.online .user, app.online .agent⟩ c.role =
      Online.found ⟨(c.cleared app).online .user, (c.cleared app).online .agent⟩ c.role := by
  cases hrole : c.role with
  | user =>
      have hagent := online_cleared_of_ne (h .agent (by simp [hrole]))
      simp [Online.found, hagent]
  | agent =>
      have huser := online_cleared_of_ne (h .user (by simp [hrole]))
      simp [Online.found, huser]

/-- A registration before the removal has looked ends like one after it, where the new
session replaces the old one. -/
theorem same_of_replaces {old : Session} (hold : s.app.sessions.lookup c.id = some old)
    (hpeer : old.peer = c.oldPeer) (h : Replaces c s old) (accepted : Bool) :
    Same c (finishClaim c { s with app := (s.app.addSession c.session).1 } accepted)
      (Newcomer.add.finish c (Removal.remove.finish c s) accepted) := by
  rw [Removal.finish_remove hold hpeer, clearSession_of_none h.tickets]
  simp only [Newcomer.finish]
  set a := (s.app.addSession c.session).1 with ha
  set b := ((c.cleared s.app).addSession c.session).1 with hb
  set online : Online := ⟨(c.cleared s.app).online .user, (c.cleared s.app).online .agent⟩
    with honline
  have hrega : a.sessions.lookup c.id = some c.session := AList.lookup_insert _
  have hregb : b.sessions.lookup c.id = some c.session := AList.lookup_insert _
  have hsessions : ∀ id, a.sessions.lookup id = b.sessions.lookup id := by
    intro id
    by_cases hid : id = c.id
    · rw [hid, hrega, hregb]
    · have hne : id ≠ c.session.id := hid
      calc a.sessions.lookup id
          = s.app.sessions.lookup id := AList.lookup_insert_ne hne
        _ = (s.app.sessions.erase c.id).lookup id := (AList.lookup_erase_ne hid).symm
        _ = b.sessions.lookup id := (AList.lookup_insert_ne hne).symm
  have hslot : a.roleSessions.lookup c.role = b.roleSessions.lookup c.role ∨
      (a.roleSessions.lookup c.role = some c.id ∧ b.roleSessions.lookup c.role = none) := by
    by_cases hown : s.app.roleSessions.lookup c.role = some c.id
    · refine .inr ⟨hown, ?_⟩
      change (c.cleared s.app).roleSessions.lookup c.role = none
      rw [lookup_cleared, hown]
      simp
    · exact .inl (lookup_cleared_of_ne hown).symm
  obtain ⟨hresult, hafter⟩ := claimRoleSlot_replaced hsessions hregb hslot
  by_cases haccepted : ∃ previous, (b.claimRoleSlot c.session).2 = .accepted previous
  · obtain ⟨previous, hacceptb⟩ := haccepted
    have haccepta := hresult.trans hacceptb
    have hlooka := finishLook_accepted ha h.slots haccepta
    have hlookb := finishLook_accepted hb
      (fun r _ => lookup_clearRoleSlots_ne _ c.id r) hacceptb
    rw [finishClaim_accepted accepted haccepta, finishClaim_accepted accepted hacceptb]
    refine ⟨rfl, rfl, ?_⟩
    simp only [HasControl, finishClaimed, finishRequests]
    rw [hafter, hlooka, hlookb, found_online_cleared h.slots]
    simp only [owner_onRoleClaimed, owner_onSessionRemoved]
    refine and_congr_right fun _ => (claimOwner_removedOwner ?_).symm
    intro hrole howner hoffline r
    rw [online_of] at hoffline ⊢
    exact h.control hrole howner hoffline r
  · have hrejectb : ∀ previous, (b.claimRoleSlot c.session).2 ≠ .accepted previous :=
      fun previous heq => haccepted ⟨previous, heq⟩
    have hrejecta : ∀ previous, (a.claimRoleSlot c.session).2 ≠ .accepted previous := by
      rwa [hresult]
    rw [finishClaim_rejected accepted hrejecta, finishClaim_rejected accepted hrejectb]
    have hslota : a.roleSessions.lookup c.role ≠ some c.id :=
      fun hown => hrejecta none (by rw [AppState.claimRoleSlot_own hrega hown])
    have hslotb : b.roleSessions.lookup c.role ≠ some c.id :=
      fun hown => hrejectb none (by rw [AppState.claimRoleSlot_own hregb hown])
    exact ⟨rfl, rfl, iff_of_false (fun hc => hslota hc.1) fun hc => hslotb hc.1⟩

end

/-! ## Whole runs -/

def begin (s : Stores) : State := { stores := s }

/-- The arrival waits for the end of the removal. -/
def RemovalFirst (s : State) : Thread → Prop
  | .removal => True
  | .newcomer => s.removal = .done

def SerialEnd (c : Setting) (s : Stores) (e : State) : Prop :=
  Reach (step c) RemovalFirst (begin s) e ∧ e.finished

/-- What the new session has at the end: its registration, its slot when its claim was
accepted, and the tickets and the control of the serial run. -/
structure Undisturbed (c : Setting) (s₀ : Stores) (s : State) : Prop where
  registered : s.stores.app.sessions.lookup c.id = some c.session
  slot : s.accepted = true → s.stores.app.roleSessions.lookup c.role = some c.id
  serial : (∃ e, SerialEnd c s₀ e) ∧ ∀ e, SerialEnd c s₀ e →
    s.stores.tickets = e.stores.tickets ∧ (HasControl c s.stores ↔ HasControl c e.stores)

section

variable {c : Setting} {s s' : State}

theorem Kept.step {t : Thread} (hs : Kept c s) (hok : Ordered c s t)
    (h : step c s t = some s') : Kept c s' ∧ Same c (s'.finish c) (s.finish c) := by
  obtain ⟨stores, r, n, accepted⟩ := s
  cases t with
  | removal =>
      obtain ⟨⟨stores', r'⟩, hstep, rfl⟩ := Option.map_eq_some_iff.mp h
      refine ⟨hs.removal hstep, ?_⟩
      simp only [State.finish, Removal.finish_step hstep]
      exact Same.refl c _
  | newcomer =>
      obtain ⟨⟨stores', n', accepted'⟩, hstep, rfl⟩ := Option.map_eq_some_iff.mp h
      refine ⟨hs.newcomer hok hstep, ?_⟩
      by_cases hearly : n = .add ∧ r = .remove
      · obtain ⟨rfl, rfl⟩ := hearly
        cases hstep
        have hreg : (stores.app.addSession c.session).1.sessions.lookup c.id = some c.session :=
          AList.lookup_insert _
        simp only [State.finish, Removal.finish_remove_of_registered
          (s := { stores with app := (stores.app.addSession c.session).1 }) hreg]
        rcases stores.app.removeEntry_cases c.id (some c.oldPeer) with
          hkept | ⟨old, hold, hpeer, -⟩
        · simp only [Removal.finish, hkept]
          exact Same.refl c _
        · have hpeer' := hpeer c.oldPeer rfl
          exact same_of_replaces hold hpeer' (hok old hold hpeer') accepted
      · have hcommutes := newcomer_commutes hs hok (fun hn hr => hearly ⟨hn, hr⟩) hstep
        simp only [State.finish, Newcomer.finish_step hcommutes]
        exact Same.refl c _

theorem kept_begin (c : Setting) (s : Stores) : Kept c (begin s) :=
  ⟨fun h => absurd rfl h, fun _ => ⟨rfl, trivial⟩, by simp [begin, Newcomer.updating],
    by simp [begin]⟩

theorem kept_of_reach {s₀ : Stores} (h : Reach (step c) (Ordered c) (begin s₀) s) :
    Kept c s ∧ Same c (s.finish c) ((begin s₀).finish c) := by
  refine Reach.invariant (P := fun s => Kept c s ∧ Same c (s.finish c) ((begin s₀).finish c))
    ⟨kept_begin c s₀, Same.refl c _⟩ ?_ h
  intro s t s' hs hok hstep
  obtain ⟨hkept, hsame⟩ := hs.1.step hok hstep
  exact ⟨hkept, hsame.trans hs.2⟩

theorem RemovalFirst.ordered {t : Thread} (h : RemovalFirst s t) : Ordered c s t := by
  obtain ⟨stores, r, n, accepted⟩ := s
  cases t with
  | removal => trivial
  | newcomer =>
      obtain rfl : r = .done := h
      cases n with
      | start requests => cases requests <;> trivial
      | add | claim | look _ _ | lockLease _ _ => trivial

theorem finish_of_finished (h : s.finished) : s.finish c = (s.stores, s.accepted) := by
  simp only [State.finish, h.1, h.2]
  rfl

/-! ### The serial run ends -/

def lookRank : Look → Nat
  | .slots _ todo => 2 * todo.length
  | .session _ _ _ todo => 2 * todo.length + 1

def Removal.rank : Removal → Nat
  | .remove => 9
  | .clearSlots _ => 8
  | .clearTickets _ => 7
  | .look _ seen => lookRank seen + 2
  | .lockLease _ _ => 1
  | .done => 0

def Newcomer.rank (c : Setting) : Newcomer → Nat
  | .add => c.requests.length + 8
  | .claim => c.requests.length + 7
  | .look _ seen => c.requests.length + lookRank seen + 2
  | .lockLease _ _ => c.requests.length + 1
  | .start requests => requests.length

theorem Removal.rank_afterLook (role : SessionRole) (app : AppState) (seen : Look) :
    (Removal.afterLook role (seen.step app)).rank < (Removal.look role seen).rank := by
  rcases seen with ⟨online, _ | ⟨r, todo⟩⟩ | ⟨online, r, id, todo⟩
  · simp [Look.step, Removal.afterLook, Removal.rank]
  · cases hslot : app.roleSessions.lookup r <;> cases todo <;>
      simp [Look.step, Removal.afterLook, Removal.rank, lookRank, hslot]
    omega
  · cases hsession : app.sessions.lookup id <;> cases todo <;>
      simp [Look.step, Removal.afterLook, Removal.rank, lookRank, hsession]

theorem Newcomer.rank_afterLook (previousUser : Bool) (app : AppState) (seen : Look) :
    (Newcomer.afterLook previousUser (seen.step app)).rank c <
      (Newcomer.look previousUser seen).rank c := by
  rcases seen with ⟨online, _ | ⟨r, todo⟩⟩ | ⟨online, r, id, todo⟩
  · simp [Look.step, Newcomer.afterLook, Newcomer.rank]
  · cases hslot : app.roleSessions.lookup r <;> cases todo <;>
      simp [Look.step, Newcomer.afterLook, Newcomer.rank, lookRank, hslot]
    omega
  · cases hsession : app.sessions.lookup id <;> cases todo <;>
      simp [Look.step, Newcomer.afterLook, Newcomer.rank, lookRank, hsession]

theorem Removal.progress {r : Removal} (c : Setting) (stores : Stores) (h : r ≠ .done) :
    ∃ stores' r', r.step c stores = some (stores', r') ∧ r'.rank < r.rank := by
  cases r with
  | remove =>
      rcases stores.app.removeEntry_cases c.id (some c.oldPeer) with hkept | ⟨old, -, -, hgone⟩
      · exact ⟨_, _, by simp only [Removal.step, hkept]; rfl, by simp [Removal.rank]⟩
      · exact ⟨_, _, by simp only [Removal.step, hgone]; rfl, by simp [Removal.rank]⟩
  | clearSlots role => exact ⟨_, _, rfl, by simp [Removal.rank]⟩
  | clearTickets role =>
      exact ⟨_, _, rfl, by simp [Removal.rank, Removal.startLook, lookRank]⟩
  | look role seen => exact ⟨_, _, rfl, Removal.rank_afterLook role stores.app seen⟩
  | lockLease role online => exact ⟨_, _, rfl, by simp [Removal.rank]⟩
  | done => exact absurd rfl h

theorem Newcomer.progress {n : Newcomer} (c : Setting) (stores : Stores) (accepted : Bool)
    (h : n ≠ .start []) :
    ∃ stores' n' accepted', n.step c false stores accepted = some (stores', n', accepted') ∧
      n'.rank c < n.rank c := by
  cases n with
  | add => exact ⟨_, _, _, rfl, by simp [Newcomer.rank]⟩
  | claim =>
      cases hclaim : stores.app.claimRoleSlot c.session with
      | mk app result =>
          cases result with
          | accepted previous =>
              refine ⟨_, _, _, by simp only [Newcomer.step, hclaim]; rfl, ?_⟩
              simp [Newcomer.rank, Newcomer.startLook, lookRank]
          | rejectedOccupied | rejectedMcpDisabled | notRegistered =>
              refine ⟨_, _, _, by simp only [Newcomer.step, hclaim]; rfl, ?_⟩
              simp [Newcomer.rank]
  | look previousUser seen =>
      exact ⟨_, _, _, by simp only [Newcomer.step, Bool.false_and]; rfl,
        Newcomer.rank_afterLook previousUser stores.app seen⟩
  | lockLease previousUser online => exact ⟨_, _, _, rfl, by simp [Newcomer.rank]⟩
  | start requests =>
      cases requests with
      | nil => exact absurd rfl h
      | cons q rest => exact ⟨_, _, _, rfl, by simp [Newcomer.rank]⟩

def State.rank (c : Setting) (s : State) : Nat := s.removal.rank + s.newcomer.rank c

theorem exists_serial (c : Setting) (s : State) :
    ∃ e, Reach (step c) RemovalFirst s e ∧ e.finished := by
  induction hrank : s.rank c using Nat.strong_induction_on generalizing s with
  | _ k ih =>
      obtain ⟨stores, r, n, accepted⟩ := s
      by_cases hr : r = .done
      · subst hr
        by_cases hn : n = .start []
        · exact ⟨_, .refl, rfl, hn⟩
        · obtain ⟨stores', n', accepted', hstep, hlt⟩ := Newcomer.progress c stores accepted hn
          have hfewer : State.rank c ⟨stores', .done, n', accepted'⟩ < k := by
            rw [← hrank]
            exact Nat.add_lt_add_left hlt _
          obtain ⟨e, he, hfinished⟩ := ih _ hfewer ⟨stores', .done, n', accepted'⟩ rfl
          have hfirst : Reach (step c) RemovalFirst ⟨stores, .done, n, accepted⟩
              ⟨stores', .done, n', accepted'⟩ :=
            .tail .refl (a := .newcomer) rfl (Option.map_eq_some_iff.mpr ⟨_, hstep, rfl⟩)
          exact ⟨e, hfirst.trans he, hfinished⟩
      · obtain ⟨stores', r', hstep, hlt⟩ := Removal.progress c stores hr
        have hfewer : State.rank c ⟨stores', r', n, accepted⟩ < k := by
          rw [← hrank]
          exact Nat.add_lt_add_right hlt _
        obtain ⟨e, he, hfinished⟩ := ih _ hfewer ⟨stores', r', n, accepted⟩ rfl
        have hfirst : Reach (step c) RemovalFirst ⟨stores, r, n, accepted⟩
            ⟨stores', r', n, accepted⟩ :=
          .tail .refl (a := .removal) trivial (Option.map_eq_some_iff.mpr ⟨_, hstep, rfl⟩)
        exact ⟨e, hfirst.trans he, hfinished⟩

end

/-- In every run of such steps that comes to its end, the new session has what the serial
run would have given it. -/
theorem renegotiation_undisturbed {c : Setting} {s₀ : Stores} {s : State}
    (h : Reach (step c) (Ordered c) (begin s₀) s) (hs : s.finished) : Undisturbed c s₀ s := by
  obtain ⟨hkept, hsame⟩ := kept_of_reach h
  rw [finish_of_finished hs] at hsame
  refine ⟨hkept.registered (by simp [hs.2]), fun ha => (hkept.slot ha).1,
    exists_serial c (begin s₀), fun e he => ?_⟩
  have hserial := (kept_of_reach (he.1.mono fun _ _ hfirst => hfirst.ordered)).2
  rw [finish_of_finished he.2] at hserial
  have hends := hsame.trans hserial.symm
  exact ⟨hends.tickets, hends.control⟩

/-- A user comes back under the same id and asks for a ticket. -/
def userReturns : Setting where
  id := "user-1"
  oldPeer := 0
  role := .user
  newPeer := 1
  requests := [⟨{ host := some "10.0.0.2", port := 22 }, .error "", "b", 50, 50⟩]
  peer_ne := by decide

/-- The old session has control and a ticket that nobody has used. -/
def oldUser : Stores where
  app :=
    { sessions := AList.insert "user-1" ⟨"user-1", .user, 0⟩ ∅
      roleSessions := AList.insert .user "user-1" ∅ }
  tickets := AList.insert "ip_forward_a" ⟨"user-1", ⟨"10.0.0.1", 80, .tcp⟩, 60000⟩ ∅
  lease := { owner := some .user }

/-- The new session is registered in the middle of the removal and does the rest after it. -/
def registersMeanwhile : List Thread :=
  [.removal, .newcomer, .removal, .removal, .removal, .removal, .removal] ++
    List.replicate 6 .newcomer

/-- A sufficient test for the condition on a step. -/
def settled (s : State) : Thread → Bool
  | .removal => true
  | .newcomer =>
      match s.newcomer, s.removal with
      | _, .done => true
      | .add, .remove => false
      | .add, _ => true
      | _, _ => false

theorem ordered_of_settled (c : Setting) (s : State) (t : Thread) (h : settled s t = true) :
    Ordered c s t := by
  obtain ⟨stores, r, n, accepted⟩ := s
  cases t with
  | removal => trivial
  | newcomer =>
      cases r with
      | done => exact RemovalFirst.ordered rfl
      | remove => cases n <;> cases h
      | clearSlots _ | clearTickets _ | look _ _ | lockLease _ _ =>
          cases n with
          | add => trivial
          | claim | look _ _ | lockLease _ _ | start _ => cases h

theorem finished_of_rank {c : Setting} {s : State} (h : s.rank c = 0) : s.finished := by
  obtain ⟨stores, r, n, accepted⟩ := s
  obtain ⟨hr, hn⟩ := Nat.add_eq_zero_iff.mp h
  constructor
  · cases r with
    | done => rfl
    | remove | clearSlots _ | clearTickets _ | look _ _ | lockLease _ _ =>
        simp [Removal.rank] at hr
  · cases n with
    | start requests => rw [List.eq_nil_of_length_eq_zero hn]
    | add | claim | look _ _ | lockLease _ _ => simp [Newcomer.rank] at hn

theorem renegotiation_undisturbed_userReturns :
    ∃ s, Reach (step userReturns) (Ordered userReturns) (begin oldUser) s ∧ s.finished ∧
      s.accepted = true ∧ pendingFor "user-1" s.stores.tickets = 1 ∧
      Undisturbed userReturns oldUser s := by
  have hexec : (exec (step userReturns) settled (begin oldUser) registersMeanwhile).map
      (fun s => (s.rank userReturns, s.accepted, pendingFor "user-1" s.stores.tickets)) =
        some (0, true, 1) := by
    decide +kernel
  obtain ⟨s, hs, hobs⟩ := exists_reach_of_exec (ordered_of_settled userReturns) hexec
  obtain ⟨hrank, hobs⟩ := Prod.mk.inj hobs
  obtain ⟨haccepted, htickets⟩ := Prod.mk.inj hobs
  have hfinished := finished_of_rank hrank
  exact ⟨s, hs, hfinished, haccepted, htickets, renegotiation_undisturbed hs hfinished⟩

/-- The new session is registered and claims its slot between the removal's first step and
its second. -/
def claimsTooEarly : List Thread :=
  [.removal, .newcomer, .newcomer] ++ List.replicate 5 .removal ++ List.replicate 4 .newcomer

theorem renegotiation_undone :
    ¬ ∀ (c : Setting) (s₀ : Stores) (s : State),
      Reach (step c) anyStep (begin s₀) s → s.finished → Undisturbed c s₀ s := by
  intro hclaim
  have hexec : (exec (step userReturns) (fun _ _ => true) (begin oldUser) claimsTooEarly).map
      (fun s => (s.rank userReturns, s.accepted,
        s.stores.app.roleSessions.lookup userReturns.role)) = some (0, true, none) := by
    decide +kernel
  obtain ⟨s, hs, hobs⟩ := exists_reach_of_exec (fun _ _ _ => trivial) hexec
  obtain ⟨hrank, hobs⟩ := Prod.mk.inj hobs
  obtain ⟨haccepted, hslot⟩ := Prod.mk.inj hobs
  have hheld := (hclaim userReturns oldUser s hs (finished_of_rank hrank)).slot haccepted
  rw [hslot] at hheld
  cases hheld

end ArkKvm.Renegotiation
