import ArkKvm.Config.Manager
import ArkKvm.Lib.Table

/-!
# Sessions and role slots

`AppState` of `state.rs`: the map of registered sessions and the slot of each role.
The two maps have locks of their own.  Every function here is one critical section,
so a caller of several of them may be interleaved with others in between; `remove_session_inner`
is therefore split into `removeEntry` and `clearRoleSlots`.
-/

namespace ArkKvm

open Lib

instance SessionRole.decidableForall (p : SessionRole → Prop) [DecidablePred p] :
    Decidable (∀ role, p role) :=
  decidable_of_iff (p .user ∧ p .agent)
    ⟨fun h role => role.casesOn h.1 h.2, fun h => ⟨h .user, h .agent⟩⟩

/-- The part of a session that the server decides by.  `new_session` makes a peer
connection for every session, so its number `peer` also tells two session objects with
the same id apart. -/
structure Session where
  id : String
  role : SessionRole
  peer : Nat
deriving DecidableEq

structure AppState where
  sessions : Table String Session := ∅
  roleSessions : Table SessionRole String := ∅
deriving DecidableEq

inductive ClaimRoleResult
  | accepted (previous : Option Session)
  | rejectedOccupied
  | rejectedMcpDisabled
  | notRegistered
deriving DecidableEq

namespace AppState

def addSession (session : Session) (s : AppState) : AppState × Option Session :=
  ({ s with sessions := s.sessions.insert session.id session }, s.sessions.lookup session.id)

def sessionOwnsPeer (id : String) (peer : Nat) (s : AppState) : Bool :=
  (s.sessions.lookup id).any fun session => session.peer = peer

/-- `remove_session_inner` under the lock of `sessions`. -/
def removeEntry (id : String) (expectedPeer : Option Nat) (s : AppState) :
    AppState × Option Session :=
  let matchesPeer := (s.sessions.lookup id).any fun session =>
    expectedPeer.all fun expected => session.peer = expected
  if matchesPeer then
    ({ s with sessions := s.sessions.erase id }, s.sessions.lookup id)
  else (s, none)

/-- `remove_session_inner` under the lock of `role_sessions`. -/
def clearRoleSlots (id : String) (s : AppState) : AppState :=
  { s with roleSessions := s.roleSessions.removeWhere (· = id) }

def claimRoleSlot (session : Session) (s : AppState) : AppState × ClaimRoleResult :=
  let taken := { s with roleSessions := s.roleSessions.insert session.role session.id }
  if s.sessions.lookup session.id ≠ some session then (s, .notRegistered)
  else
    match s.roleSessions.lookup session.role with
    | none => (taken, .accepted none)
    | some existing =>
        if existing = session.id then (s, .accepted none)
        else
          match session.role with
          | .agent => (s, .rejectedOccupied)
          | .user => (taken, .accepted (s.sessions.lookup existing))

def setRoleSlotIfNone (role : SessionRole) (id : String) (s : AppState) : AppState × Bool :=
  match s.roleSessions.lookup role with
  | some _ => (s, false)
  | none => ({ s with roleSessions := s.roleSessions.insert role id }, true)

def isRoleSlotHolder (id : String) (s : AppState) : Bool :=
  s.roleSessions.entries.any fun slot => slot.2 = id

/-- The registered holder of a slot.  The server reads the two maps one after the other. -/
def getSessionForRole (role : SessionRole) (s : AppState) : Option Session :=
  (s.roleSessions.lookup role).bind fun id => s.sessions.lookup id

/-- `role_still_online`. -/
def online (role : SessionRole) (s : AppState) : Bool := (s.getSessionForRole role).isSome

def hasAnySession (s : AppState) : Bool :=
  !s.sessions.entries.isEmpty || !s.roleSessions.entries.isEmpty

/-! ## What the critical sections do -/

variable {s : AppState} {session : Session} {id : String} {role : SessionRole}

theorem online_eq_true_iff :
    s.online role = true ↔
      ∃ id session, s.roleSessions.lookup role = some id ∧ s.sessions.lookup id = some session := by
  unfold online getSessionForRole
  rw [Option.isSome_iff_exists]
  constructor
  · rintro ⟨session, h⟩
    obtain ⟨id, hslot, hsession⟩ := Option.bind_eq_some_iff.mp h
    exact ⟨id, session, hslot, hsession⟩
  · rintro ⟨id, session, hslot, hsession⟩
    exact ⟨session, Option.bind_eq_some_iff.mpr ⟨id, hslot, hsession⟩⟩

theorem isRoleSlotHolder_iff :
    s.isRoleSlotHolder id = true ↔ ∃ role, s.roleSessions.lookup role = some id := by
  unfold isRoleSlotHolder
  simp only [List.any_eq_true, decide_eq_true_eq, Table.lookup_eq_some_iff]
  constructor
  · rintro ⟨⟨role, id'⟩, hmem, rfl⟩
    exact ⟨role, hmem⟩
  · rintro ⟨role, hmem⟩
    exact ⟨⟨role, id⟩, hmem, rfl⟩

theorem removeEntry_cases (id : String) (expectedPeer : Option Nat) (s : AppState) :
    s.removeEntry id expectedPeer = (s, none) ∨
    ∃ session, s.sessions.lookup id = some session ∧
      (∀ peer ∈ expectedPeer, session.peer = peer) ∧
      s.removeEntry id expectedPeer =
        ({ s with sessions := s.sessions.erase id }, some session) := by
  unfold removeEntry
  cases hlookup : s.sessions.lookup id with
  | none => exact .inl rfl
  | some session =>
      by_cases hpeer : (expectedPeer.all fun expected => session.peer = expected) = true
      · refine .inr ⟨session, rfl, fun peer hmem => ?_, by simp [hpeer]⟩
        rw [Option.mem_def.mp hmem] at hpeer
        simpa using hpeer
      · exact .inl (by simp [hpeer])

/-! ### The claim of a registered session -/

section

variable (hreg : s.sessions.lookup session.id = some session)

include hreg

theorem claimRoleSlot_vacant (hslot : s.roleSessions.lookup session.role = none) :
    s.claimRoleSlot session =
      ({ s with roleSessions := s.roleSessions.insert session.role session.id },
        .accepted none) := by
  simp only [claimRoleSlot]
  rw [if_neg (not_not.mpr hreg), hslot]

theorem claimRoleSlot_own (hslot : s.roleSessions.lookup session.role = some session.id) :
    s.claimRoleSlot session = (s, .accepted none) := by
  simp only [claimRoleSlot]
  rw [if_neg (not_not.mpr hreg), hslot]
  exact if_pos rfl

theorem claimRoleSlot_takeover {existing : String} (hrole : session.role = .user)
    (hslot : s.roleSessions.lookup session.role = some existing) (hne : existing ≠ session.id) :
    s.claimRoleSlot session =
      ({ s with roleSessions := s.roleSessions.insert session.role session.id },
        .accepted (s.sessions.lookup existing)) := by
  simp only [claimRoleSlot]
  rw [if_neg (not_not.mpr hreg), hslot, hrole]
  exact if_neg hne

theorem claimRoleSlot_occupied {existing : String} (hrole : session.role = .agent)
    (hslot : s.roleSessions.lookup session.role = some existing) (hne : existing ≠ session.id) :
    s.claimRoleSlot session = (s, .rejectedOccupied) := by
  simp only [claimRoleSlot]
  rw [if_neg (not_not.mpr hreg), hslot, hrole]
  exact if_neg hne

end

inductive Claimed (session : Session) (s : AppState) : AppState × ClaimRoleResult → Prop
  | notRegistered (hreg : s.sessions.lookup session.id ≠ some session) :
      Claimed session s (s, .notRegistered)
  | vacant (hreg : s.sessions.lookup session.id = some session)
      (hslot : s.roleSessions.lookup session.role = none) :
      Claimed session s
        ({ s with roleSessions := s.roleSessions.insert session.role session.id }, .accepted none)
  | own (hreg : s.sessions.lookup session.id = some session)
      (hslot : s.roleSessions.lookup session.role = some session.id) :
      Claimed session s (s, .accepted none)
  | takeover {existing : String} (hreg : s.sessions.lookup session.id = some session)
      (hrole : session.role = .user)
      (hslot : s.roleSessions.lookup session.role = some existing)
      (hne : existing ≠ session.id) :
      Claimed session s
        ({ s with roleSessions := s.roleSessions.insert session.role session.id },
          .accepted (s.sessions.lookup existing))
  | occupied {existing : String} (hreg : s.sessions.lookup session.id = some session)
      (hrole : session.role = .agent)
      (hslot : s.roleSessions.lookup session.role = some existing)
      (hne : existing ≠ session.id) :
      Claimed session s (s, .rejectedOccupied)

theorem claimed (session : Session) (s : AppState) :
    Claimed session s (s.claimRoleSlot session) := by
  by_cases hreg : s.sessions.lookup session.id = some session
  · cases hslot : s.roleSessions.lookup session.role with
    | none =>
        rw [claimRoleSlot_vacant hreg hslot]
        exact .vacant hreg hslot
    | some existing =>
        by_cases hsame : existing = session.id
        · subst hsame
          rw [claimRoleSlot_own hreg hslot]
          exact .own hreg hslot
        · cases hrole : session.role with
          | agent =>
              rw [claimRoleSlot_occupied hreg hrole hslot hsame]
              exact .occupied hreg hrole hslot hsame
          | user =>
              rw [claimRoleSlot_takeover hreg hrole hslot hsame]
              exact .takeover hreg hrole hslot hsame
  · have hrefused : s.claimRoleSlot session = (s, .notRegistered) := if_pos hreg
    rw [hrefused]
    exact .notRegistered hreg

/-- A claim that is accepted is a registered session's; it leaves that session in the
slot of its role and every other slot as it was. -/
theorem claimRoleSlot_cases (session : Session) (s : AppState) :
    ((s.claimRoleSlot session).1 = s) ∨
    (s.sessions.lookup session.id = some session ∧
      s.roleSessions.lookup session.role ≠ some session.id ∧
      (session.role = .agent → s.roleSessions.lookup .agent = none) ∧
      (s.claimRoleSlot session).1 =
        { s with roleSessions := s.roleSessions.insert session.role session.id }) := by
  have hclaimed := s.claimed session
  generalize s.claimRoleSlot session = r at hclaimed ⊢
  cases hclaimed with
  | notRegistered _ | own _ _ | occupied _ _ _ _ => exact .inl rfl
  | vacant hreg hslot => exact .inr ⟨hreg, by simp [hslot], fun hrole => hrole ▸ hslot, rfl⟩
  | takeover hreg hrole hslot hne =>
      exact .inr ⟨hreg, by simpa [hslot] using hne, by simp [hrole], rfl⟩

theorem claimRoleSlot_sessions (session : Session) (s : AppState) :
    (s.claimRoleSlot session).1.sessions = s.sessions := by
  have hclaimed := s.claimed session
  generalize s.claimRoleSlot session = r at hclaimed ⊢
  cases hclaimed <;> rfl

theorem claimRoleSlot_accepted {previous : Option Session}
    (h : (s.claimRoleSlot session).2 = .accepted previous) :
    s.sessions.lookup session.id = some session ∧
      (s.claimRoleSlot session).1.roleSessions.lookup session.role = some session.id := by
  have hclaimed := s.claimed session
  generalize s.claimRoleSlot session = r at hclaimed h ⊢
  cases hclaimed with
  | notRegistered _ | occupied _ _ _ _ => cases h
  | own hreg hslot => exact ⟨hreg, hslot⟩
  | vacant hreg _ | takeover hreg _ _ _ => exact ⟨hreg, AList.lookup_insert _⟩

theorem claimRoleSlot_not_accepted
    (h : ∀ previous, (s.claimRoleSlot session).2 ≠ .accepted previous) :
    (s.claimRoleSlot session).1 = s := by
  have hclaimed := s.claimed session
  generalize s.claimRoleSlot session = r at hclaimed h ⊢
  cases hclaimed with
  | notRegistered _ | own _ _ | occupied _ _ _ _ => rfl
  | vacant _ _ | takeover _ _ _ _ => exact absurd rfl (h _)

theorem claimRoleSlot_rejected (h : (s.claimRoleSlot session).2 = .rejectedOccupied) :
    ∃ id, s.roleSessions.lookup .agent = some id := by
  have hclaimed := s.claimed session
  generalize s.claimRoleSlot session = r at hclaimed h
  cases hclaimed with
  | notRegistered _ | own _ _ | vacant _ _ | takeover _ _ _ _ => cases h
  | occupied _ hrole hslot _ => exact ⟨_, hrole ▸ hslot⟩

theorem setRoleSlotIfNone_cases (role : SessionRole) (id : String) (s : AppState) :
    ((s.setRoleSlotIfNone role id).1 = s) ∨
    (s.roleSessions.lookup role = none ∧
      (s.setRoleSlotIfNone role id).1 =
        { s with roleSessions := s.roleSessions.insert role id }) := by
  unfold setRoleSlotIfNone
  cases hslot : s.roleSessions.lookup role with
  | some existing => exact .inl rfl
  | none => exact .inr ⟨rfl, rfl⟩

/-! ## Who stays online -/

variable {r : SessionRole}

theorem online_insert_slot
    (hid : s.roleSessions.lookup role = none ∨ s.sessions.lookup id ≠ none)
    (h : s.online r = true) :
    online r { s with roleSessions := s.roleSessions.insert role id } = true := by
  obtain ⟨id', session', hslot, hreg⟩ := online_eq_true_iff.mp h
  by_cases hrole : r = role
  · subst hrole
    rcases hid with hnone | hne
    · rw [hnone] at hslot
      cases hslot
    · obtain ⟨filler, hfiller⟩ := Option.ne_none_iff_exists'.mp hne
      exact online_eq_true_iff.mpr
        ⟨id, filler, Table.lookup_insert_iff.mpr (.inl ⟨rfl, rfl⟩), hfiller⟩
  · exact online_eq_true_iff.mpr
      ⟨id', session', Table.lookup_insert_iff.mpr (.inr ⟨hrole, hslot⟩), hreg⟩

theorem online_claimRoleSlot (h : s.online r = true) :
    (s.claimRoleSlot session).1.online r = true := by
  rcases s.claimRoleSlot_cases session with hkept | ⟨hreg, -, -, htaken⟩
  · rwa [hkept]
  · rw [htaken]
    exact online_insert_slot (.inr (by rw [hreg]; exact Option.some_ne_none _)) h

theorem online_setRoleSlotIfNone (h : s.online r = true) :
    (s.setRoleSlotIfNone role id).1.online r = true := by
  rcases s.setRoleSlotIfNone_cases role id with hkept | ⟨hnone, hfilled⟩
  · rwa [hkept]
  · rw [hfilled]
    exact online_insert_slot (.inl hnone) h

theorem online_addSession (h : s.online r = true) :
    (s.addSession session).1.online r = true := by
  obtain ⟨id, session', hslot, hreg⟩ := online_eq_true_iff.mp h
  by_cases hid : id = session.id
  · exact online_eq_true_iff.mpr
      ⟨id, session, hslot, Table.lookup_insert_iff.mpr (.inl ⟨hid, rfl⟩)⟩
  · exact online_eq_true_iff.mpr
      ⟨id, session', hslot, Table.lookup_insert_iff.mpr (.inr ⟨hid, hreg⟩)⟩

end AppState

end ArkKvm
