import ArkKvm.Lease.Outcome
import ArkKvm.Lib.Run
import ArkKvm.Session.State

/-!
# The HID gate

`allows_hid` combines four pieces of state: the registered sessions, the role slots,
the MCP switch and the owner of the lease.  It asks whether the session holds a slot,
not whether it holds the slot of its own role.  `set_role_slot_if_none` and the
registration of a session do not ask either, so the gate is as exclusive as the
slots and the sessions agree on roles (`SlotRoles`).
-/

namespace ArkKvm.HidGate

open Lib Lib.Run ControlLease

/-- What the gate reads, and the number of peer connections made so far. -/
structure Desk where
  app : AppState := {}
  lease : Lease := {}
  mcpEnabled : Bool := false
  made : Nat := 0
deriving DecidableEq

def allowsHid (id : String) (s : Desk) : Bool :=
  match s.app.sessions.lookup id with
  | none => false
  | some session =>
      s.app.isRoleSlotHolder id && (session.role ≠ .agent || s.mcpEnabled) &&
        s.lease.owner = some session.role

/-- The operations on that state, one after the other.  A registration is
`add_session` of a session that `new_session` has just made; a removal is
`remove_session_inner` with the update of the lease at its end. -/
inductive Op
  | addSession (id : String) (role : SessionRole)
  | claimRoleSlot (session : Session)
  | setRoleSlotIfNone (role : SessionRole) (id : String)
  | removeSession (id : String) (expectedPeer : Option Nat)
  | setMcpEnabled (enabled : Bool)
  | lease (uuid : String) (now : Nat) (op : LeaseOp)
deriving DecidableEq

def removeSession (id : String) (expectedPeer : Option Nat) (s : Desk) : Desk :=
  match s.app.removeEntry id expectedPeer with
  | (_, none) => s
  | (app, some session) =>
      let app := app.clearRoleSlots id
      let online : Online := ⟨app.online .user, app.online .agent⟩
      { s with
        app := app
        lease := (onSessionRemoved session.role online s.lease).1 }

def step (s : Desk) : Op → Option Desk
  | .addSession id role =>
      some { s with
        app := (s.app.addSession ⟨id, role, s.made⟩).1
        made := s.made + 1 }
  | .claimRoleSlot session => some { s with app := (s.app.claimRoleSlot session).1 }
  | .setRoleSlotIfNone role id => some { s with app := (s.app.setRoleSlotIfNone role id).1 }
  | .removeSession id expectedPeer => some (removeSession id expectedPeer s)
  | .setMcpEnabled enabled => some { s with mcpEnabled := enabled }
  | .lease uuid now op => some { s with lease := (op.run uuid now s.lease).1 }

/-- A session that is registered under an id has the role of every slot that holds
that id: a registration finds its id in no slot of the other role, and an empty slot
is not filled with a session of the other role. -/
def RoleKept (s : Desk) : Op → Prop
  | .addSession id role => ∀ r, s.app.roleSessions.lookup r = some id → r = role
  | .setRoleSlotIfNone role id =>
      s.app.roleSessions.lookup role = none →
        ∀ session ∈ s.app.sessions.lookup id, session.role = role
  | _ => True

instance (s : Desk) : DecidablePred (RoleKept s)
  | .addSession id role =>
      inferInstanceAs (Decidable (∀ r, s.app.roleSessions.lookup r = some id → r = role))
  | .setRoleSlotIfNone role id =>
      inferInstanceAs (Decidable (s.app.roleSessions.lookup role = none →
        ∀ session ∈ s.app.sessions.lookup id, session.role = role))
  | .claimRoleSlot _ | .removeSession _ _ | .setMcpEnabled _ | .lease _ _ _ =>
      inferInstanceAs (Decidable True)

def SlotRoles (app : AppState) : Prop :=
  ∀ r id session, app.roleSessions.lookup r = some id → app.sessions.lookup id = some session →
    session.role = r

theorem SlotRoles.insert_slot {app : AppState} (h : SlotRoles app) {role : SessionRole} {id : String}
    (hid : ∀ session, app.sessions.lookup id = some session → session.role = role) :
    SlotRoles { app with roleSessions := app.roleSessions.insert role id } := by
  intro r id' session hslot hsession
  rcases Table.lookup_insert_iff.mp hslot with ⟨rfl, rfl⟩ | ⟨-, hold⟩
  · exact hid session hsession
  · exact h r id' session hold hsession

theorem SlotRoles.addSession {app : AppState} (h : SlotRoles app) {session : Session}
    (hslots : ∀ r, app.roleSessions.lookup r = some session.id → r = session.role) :
    SlotRoles (app.addSession session).1 := by
  intro r id session' hslot hsession
  rcases Table.lookup_insert_iff.mp hsession with ⟨rfl, rfl⟩ | ⟨-, hold⟩
  · exact (hslots r hslot).symm
  · exact h r id session' hslot hold

theorem SlotRoles.of_subset {app app' : AppState} (h : SlotRoles app)
    (hslots : ∀ r id, app'.roleSessions.lookup r = some id → app.roleSessions.lookup r = some id)
    (hsessions : ∀ id session, app'.sessions.lookup id = some session →
      app.sessions.lookup id = some session) : SlotRoles app' :=
  fun r id session hslot hsession =>
    h r id session (hslots r id hslot) (hsessions id session hsession)

theorem SlotRoles.removeSession {s : Desk} (h : SlotRoles s.app) (id : String)
    (expectedPeer : Option Nat) : SlotRoles (removeSession id expectedPeer s).app := by
  unfold HidGate.removeSession
  rcases s.app.removeEntry_cases id expectedPeer with hkept | ⟨session, -, -, hremoved⟩
  · rw [hkept]
    exact h
  · rw [hremoved]
    refine h.of_subset (fun r id' hslot => ?_) (fun id' session' hsession => ?_)
    · exact (Table.lookup_removeWhere.mp hslot).1
    · exact (Table.lookup_erase_iff.mp hsession).2

theorem SlotRoles.step {s s' : Desk} {op : Op} (h : SlotRoles s.app) (hok : RoleKept s op)
    (hstep : step s op = some s') : SlotRoles s'.app := by
  cases op with
  | addSession id role =>
      cases hstep
      exact h.addSession hok
  | claimRoleSlot session =>
      cases hstep
      rcases s.app.claimRoleSlot_cases session with hkept | ⟨hreg, -, -, htaken⟩
      · simpa only [hkept] using h
      · simp only [htaken]
        refine h.insert_slot fun session' hsession => ?_
        rw [Option.some.inj (hreg.symm.trans hsession)]
  | setRoleSlotIfNone role id =>
      cases hstep
      rcases s.app.setRoleSlotIfNone_cases role id with hkept | ⟨hnone, hfilled⟩
      · simpa only [hkept] using h
      · simp only [hfilled]
        exact h.insert_slot (hok hnone)
  | removeSession id expectedPeer =>
      cases hstep
      exact h.removeSession id expectedPeer
  | setMcpEnabled enabled | lease uuid now op =>
      cases hstep
      exact h

theorem allowsHid_iff {s : Desk} {id : String} :
    allowsHid id s = true ↔
      ∃ session, s.app.sessions.lookup id = some session ∧
        (∃ r, s.app.roleSessions.lookup r = some id) ∧
        (session.role = .agent → s.mcpEnabled = true) ∧ s.lease.owner = some session.role := by
  unfold allowsHid
  cases hlookup : s.app.sessions.lookup id with
  | none => simp
  | some session =>
      simp only [Bool.and_eq_true, AppState.isRoleSlotHolder_iff, Bool.or_eq_true,
        decide_eq_true_eq, Option.some.injEq, exists_eq_left', and_assoc, ne_eq,
        Decidable.imp_iff_not_or]

/-- A session that passes the gate is registered, holds the slot of its own role, has
that role in control and, if an agent, MCP enabled. -/
def Entitled (s : Desk) (id : String) : Prop :=
  ∃ session, s.app.sessions.lookup id = some session ∧
    s.app.roleSessions.lookup session.role = some id ∧
    s.lease.owner = some session.role ∧ (session.role = .agent → s.mcpEnabled = true)

theorem SlotRoles.entitled {s : Desk} (h : SlotRoles s.app) {id : String}
    (hid : allowsHid id s = true) : Entitled s id := by
  obtain ⟨session, hsession, ⟨r, hslot⟩, hmcp, howner⟩ := allowsHid_iff.mp hid
  obtain rfl := h r id session hslot hsession
  exact ⟨session, hsession, hslot, howner, hmcp⟩

theorem Entitled.eq {s : Desk} {id id' : String} (h : Entitled s id) (h' : Entitled s id') :
    id = id' := by
  obtain ⟨session, -, hslot, howner, -⟩ := h
  obtain ⟨session', -, hslot', howner', -⟩ := h'
  rw [Option.some.inj (howner.symm.trans howner')] at hslot
  exact Option.some.inj (hslot.symm.trans hslot')

/-- In every run that keeps roles, at most one session passes the gate, and it is
entitled to. -/
theorem hid_gate_exclusive {s : Desk} (h : Reach step RoleKept {} s) :
    (∀ id id', allowsHid id s = true → allowsHid id' s = true → id = id') ∧
      ∀ id, allowsHid id s = true → Entitled s id := by
  have hroles : SlotRoles s.app := by
    refine Reach.invariant (P := fun t => SlotRoles t.app) ?_
      (fun _ _ _ hs hok hstep => hs.step hok hstep) h
    intro r id session hslot
    cases hslot
  exact ⟨fun id id' hid hid' => (hroles.entitled hid).eq (hroles.entitled hid'),
    fun id hid => hroles.entitled hid⟩

def agentAndViewer : List Op :=
  [.setMcpEnabled true, .addSession "agent-1" .agent, .claimRoleSlot ⟨"agent-1", .agent, 0⟩,
    .lease "" 0 (.roleClaimed .agent false ⟨false, true⟩), .addSession "ws-7" .user,
    .claimRoleSlot ⟨"ws-7", .user, 1⟩, .lease "" 0 (.roleClaimed .user false ⟨true, true⟩)]

theorem hid_gate_exclusive_agentAndViewer :
    ∃ s, Reach step RoleKept {} s ∧ allowsHid "agent-1" s = true ∧ Entitled s "agent-1" ∧
      allowsHid "ws-7" s = false := by
  have hexec : (exec step (fun s op => decide (RoleKept s op)) {} agentAndViewer).map
      (fun s => (allowsHid "agent-1" s, allowsHid "ws-7" s)) = some (true, false) := by
    decide +kernel
  obtain ⟨s, hs, hpass⟩ := exists_reach_of_exec (fun _ _ h => of_decide_eq_true h) hexec
  obtain ⟨hagent, hviewer⟩ := Prod.mk.inj hpass
  exact ⟨s, hs, hagent, (hid_gate_exclusive hs).2 "agent-1" hagent, hviewer⟩

/-- The viewer's WebSocket sends a second offer as an agent.  The session is registered
under the same id, the user's slot still holds that id, and both sessions pass. -/
theorem hid_gate_not_exclusive :
    ¬ ∀ s, Reach step anyStep {} s →
      (∀ id id', allowsHid id s = true → allowsHid id' s = true → id = id') ∧
        ∀ id, allowsHid id s = true → Entitled s id := by
  intro hclaim
  have hexec : (exec step (fun _ _ => true) {} (agentAndViewer ++ [.addSession "ws-7" .agent])).map
      (fun s => (allowsHid "agent-1" s, allowsHid "ws-7" s)) = some (true, true) := by
    decide +kernel
  obtain ⟨s, hs, hpass⟩ := exists_reach_of_exec (fun _ _ _ => trivial) hexec
  obtain ⟨hagent, hviewer⟩ := Prod.mk.inj hpass
  exact absurd ((hclaim s hs).1 "agent-1" "ws-7" hagent hviewer) (by decide)

end ArkKvm.HidGate
