import ArkKvm.Lease.Outcome
import ArkKvm.Lib.Pool
import ArkKvm.Lib.Run
import ArkKvm.Session.State

/-!
# The server's tasks

Sessions, role slots, lease and MCP switch with every operation on them in progress.
A task runs from one lock to the next in one step, and any task may run next.  What a
task has read before a lock is carried in it: an operation that wants to know who is
online reads the slot of a role, then the session under the id it found there, then
the same for the other role, and only then takes the lock of the lease.
-/

namespace ArkKvm.Tasks

open Lib Lib.Run Lib.Pool ControlLease

inductive Sampling
  | roleClaimed (role : SessionRole) (previousUser : Bool)
  | sessionRemoved (role : SessionRole)
  | requestControl (role : SessionRole)
  | releaseControl (role : SessionRole)
deriving DecidableEq

def Sampling.op (online : Online) : Sampling → LeaseOp
  | .roleClaimed role previousUser => .roleClaimed role previousUser online
  | .sessionRemoved role => .sessionRemoved role online
  | .requestControl role => .requestControl role online
  | .releaseControl role => .releaseControl role online

def Sampling.order : Sampling → List SessionRole
  | .roleClaimed _ _ => [.agent, .user]
  | .sessionRemoved _ | .requestControl _ | .releaseControl _ => [.user, .agent]

def Online.found (online : Online) : SessionRole → Online
  | .user => { online with user := true }
  | .agent => { online with agent := true }

/-- `get_session_for_role` for one role after the other: which roles were found online, the
slot that was read last, and the roles still to look up. -/
inductive Look
  | slots (online : Online) (todo : List SessionRole)
  | session (online : Online) (role : SessionRole) (id : String) (todo : List SessionRole)
deriving DecidableEq

def Look.online : Look → Online
  | .slots online _ | .session online _ _ _ => online

def Look.step (app : AppState) : Look → Look
  | .slots online [] => .slots online []
  | .slots online (role :: todo) =>
      match app.roleSessions.lookup role with
      | some id => .session online role id todo
      | none => .slots online todo
  | .session online role id todo =>
      match app.sessions.lookup id with
      | some _ => .slots (Online.found online role) todo
      | none => .slots online todo

/-- Where an operation stands.  `media` marks a removal by an ICE callback, which holds
`MEDIA_LIFECYCLE_LOCK` from its first step to its last. -/
inductive Task
  -- `remove_session_inner`
  | remove (id : String) (expectedPeer : Option Nat) (media : Bool)
  | clearSlots (id : String) (role : SessionRole) (media : Bool)
  -- the operations of the lease
  | look (call : Sampling) (seen : Look) (media : Bool)
  | lockLease (op : LeaseOp) (media : Bool)
  -- `claim_and_activate_session`
  | claim (session : Session)
  | claimSlot (session : Session)
  -- `on_ice_connection_state_change`, connected
  | iceConnected (session : Session)
  | fillSlot (role : SessionRole) (id : String)
  -- the entry points of the lease
  | requestControl (id : String)
  | requestSlot (id : String) (role : SessionRole)
  | requestMcp (role : SessionRole)
  | resolvePending (id : String) (requestId : Option String) (grant : Bool)
  | takeOverControl (id : String)
  | takeOverSlot (id : String)
  | releaseControl (id : String)
  | timeout (timer : Timer)
  -- `disconnect_agent_for_mcp_off`
  | disconnectAgent
  | disconnectSession (id : String)
deriving DecidableEq

/-- `made` lists the sessions that `new_session` has made; their number is the next peer. -/
structure Server where
  app : AppState := {}
  lease : Lease := {}
  mcpEnabled : Bool := false
  media : Bool := false
  tasks : List Task := []
  timers : List Timer := []
  made : List Session := []
deriving DecidableEq

def Server.spawn (task : Task) (s : Server) : Server := { s with tasks := s.tasks ++ [task] }

def sample (call : Sampling) (media : Bool) : Look → Task
  | .slots online [] => .lockLease (call.op online) media
  | seen => .look call seen media

/-- Start to look who is online. -/
def Sampling.start (call : Sampling) (media : Bool) : Task :=
  sample call media (.slots ⟨false, false⟩ call.order)

/-- `close_previous_session_after_delay` of a session that was taken over. -/
def closePrevious (previous : Option Session) (s : Server) : Server :=
  match previous with
  | some old => s.spawn (.remove old.id (some old.peer) false)
  | none => s

/-- One step of a task that has been taken out of the pool; `none` while it waits for the
media lock. -/
def Task.run (uuid : String) (now : Nat) (s : Server) : Task → Option Server
  | .remove id expectedPeer media =>
      if media && s.media then none
      else
        match s.app.removeEntry id expectedPeer with
        | (_, none) => some s
        | (app, some session) =>
            some ({ s with app := app, media := s.media || media }.spawn
              (.clearSlots id session.role media))
  | .clearSlots id role media =>
      some ({ s with app := s.app.clearRoleSlots id }.spawn
        ((Sampling.sessionRemoved role).start media))
  | .look call seen media => some (s.spawn (sample call media (seen.step s.app)))
  | .lockLease op media =>
      let r := op.run uuid now s.lease
      some { s with
        lease := r.1
        timers := s.timers ++ r.2.toList
        media := s.media && !media }
  | .claim session =>
      if session.role = .agent && !s.mcpEnabled then some s
      else some (s.spawn (.claimSlot session))
  | .claimSlot session =>
      if s.media then none
      else
        match s.app.claimRoleSlot session with
        | (app, .accepted previous) =>
            some ((closePrevious previous { s with app := app }).spawn
              ((Sampling.roleClaimed session.role previous.isSome).start false))
        | _ => some s
  | .iceConnected session =>
      if s.media then none
      else if s.app.sessionOwnsPeer session.id session.peer then
        some ({ s with media := true }.spawn (.fillSlot session.role session.id))
      else some s
  | .fillSlot role id =>
      some { s with
        app := (s.app.setRoleSlotIfNone role id).1
        media := false }
  | .requestControl id =>
      match s.app.sessions.lookup id with
      | some session => some (s.spawn (.requestSlot id session.role))
      | none => some s
  | .requestSlot id role =>
      if s.app.isRoleSlotHolder id then some (s.spawn (.requestMcp role)) else some s
  | .requestMcp role =>
      if role = .agent && !s.mcpEnabled then some s
      else some (s.spawn ((Sampling.requestControl role).start false))
  | .resolvePending id requestId grant =>
      match s.app.sessions.lookup id with
      | some session =>
          some (s.spawn (.lockLease (.resolvePending session.role requestId grant) false))
      | none => some s
  | .takeOverControl id =>
      match s.app.sessions.lookup id with
      | some session => if session.role = .user then some (s.spawn (.takeOverSlot id)) else some s
      | none => some s
  | .takeOverSlot id =>
      if s.app.isRoleSlotHolder id then some (s.spawn (.lockLease .takeOverControl false))
      else some s
  | .releaseControl id =>
      match s.app.sessions.lookup id with
      | some session => some (s.spawn ((Sampling.releaseControl session.role).start false))
      | none => some s
  | .timeout timer => some (s.spawn (.lockLease (.timeout timer s.mcpEnabled) false))
  | .disconnectAgent =>
      match s.app.roleSessions.lookup .agent with
      | some id => some (s.spawn (.disconnectSession id))
      | none => some s
  | .disconnectSession id =>
      match s.app.sessions.lookup id with
      | some session => some (s.spawn (.remove session.id none false))
      | none => some s

/-- What may be called at any time: `remove_and_close_session`, the callbacks and the
claim of a session that was made, and the entry points of the lease. -/
def Task.isEntry (made : List Session) : Task → Bool
  | .remove _ none false => true
  | .remove id (some peer) true => made.any fun session => session.id = id && session.peer = peer
  | .claim session | .iceConnected session => session ∈ made
  | .requestControl _ | .resolvePending _ _ _ | .takeOverControl _ | .releaseControl _ => true
  | _ => false

inductive Event
  | addSession (id : String) (role : SessionRole)
  | setMcpEnabled (enabled : Bool)
  | start (task : Task)
  | fire (i : Nat)
  | run (i : Nat) (uuid : String) (now : Nat)
deriving DecidableEq

def step (s : Server) : Event → Option Server
  | .addSession id role =>
      let session : Session := ⟨id, role, s.made.length⟩
      some { s with
        app := (s.app.addSession session).1
        made := s.made ++ [session] }
  | .setMcpEnabled enabled =>
      let s' := { s with mcpEnabled := enabled }
      some (if enabled then s' else s'.spawn .disconnectAgent)
  | .start task => if task.isEntry s.made then some (s.spawn task) else none
  | .fire i =>
      (pick i s.timers).map fun (timer, rest) => { s with timers := rest }.spawn (.timeout timer)
  | .run i uuid now =>
      (pick i s.tasks).bind fun (task, rest) => task.run uuid now { s with tasks := rest }

/-! ## What a step does -/

inductive Follows (s : Server) : Task → Task → Prop
  | looked {call : Sampling} {seen : Look} {media : Bool} :
      Follows s (.look call seen media) (sample call media (seen.step s.app))
  | claim {session : Session} (hmcp : session.role = .agent → s.mcpEnabled = true) :
      Follows s (.claim session) (.claimSlot session)
  | request {id : String} {role : SessionRole} :
      Follows s (.requestControl id) (.requestSlot id role)
  | requestSlot {id : String} {role : SessionRole} :
      Follows s (.requestSlot id role) (.requestMcp role)
  | requestMcp {role : SessionRole} (hmcp : role = .agent → s.mcpEnabled = true) :
      Follows s (.requestMcp role) ((Sampling.requestControl role).start false)
  | resolve {id : String} {requestId : Option String} {grant : Bool} {role : SessionRole} :
      Follows s (.resolvePending id requestId grant)
        (.lockLease (.resolvePending role requestId grant) false)
  | takeOver {id : String} : Follows s (.takeOverControl id) (.takeOverSlot id)
  | takeOverSlot {id : String} : Follows s (.takeOverSlot id) (.lockLease .takeOverControl false)
  | release {id : String} {role : SessionRole} :
      Follows s (.releaseControl id) ((Sampling.releaseControl role).start false)
  | timeout {timer : Timer} :
      Follows s (.timeout timer) (.lockLease (.timeout timer s.mcpEnabled) false)
  | disconnect {id : String} : Follows s .disconnectAgent (.disconnectSession id)
  | disconnectSession {id id' : String} :
      Follows s (.disconnectSession id) (.remove id' none false)

/-- A task that may end without a trace: a check has failed. -/
def Task.mayStop : Task → Bool
  | .clearSlots _ _ _ | .look _ _ _ | .lockLease _ _ => false
  | _ => true

/-- All that a step of a task can do; `s` is the server without that task. -/
inductive Ran (uuid : String) (now : Nat) (s : Server) : Task → Server → Prop
  | stopped {task : Task} (h : task.mayStop = true) : Ran uuid now s task s
  | follows {task task' : Task} (h : Follows s task task') : Ran uuid now s task (s.spawn task')
  | removed {id : String} {expectedPeer : Option Nat} {m media : Bool} {session : Session}
      (h : s.app.sessions.lookup id = some session)
      (hpeer : ∀ peer ∈ expectedPeer, session.peer = peer) :
      Ran uuid now s (.remove id expectedPeer m)
        ({ s with
          app := { s.app with sessions := s.app.sessions.erase id }
          media := media }.spawn (.clearSlots id session.role m))
  | cleared {id : String} {role : SessionRole} {m : Bool} :
      Ran uuid now s (.clearSlots id role m)
        ({ s with app := s.app.clearRoleSlots id }.spawn ((Sampling.sessionRemoved role).start m))
  | claimed {session : Session} {previous : Option Session}
      (h : (s.app.claimRoleSlot session).2 = .accepted previous) :
      Ran uuid now s (.claimSlot session)
        ((closePrevious previous { s with app := (s.app.claimRoleSlot session).1 }).spawn
          ((Sampling.roleClaimed session.role previous.isSome).start false))
  | connected {session : Session} :
      Ran uuid now s (.iceConnected session)
        ({ s with media := true }.spawn (.fillSlot session.role session.id))
  | filled {role : SessionRole} {id : String} :
      Ran uuid now s (.fillSlot role id)
        { s with
          app := (s.app.setRoleSlotIfNone role id).1
          media := false }
  | locked {op : LeaseOp} {m media : Bool} {timers : List Timer} :
      Ran uuid now s (.lockLease op m)
        { s with
          lease := (op.run uuid now s.lease).1
          timers := timers
          media := media }

section

variable {uuid : String} {now : Nat} {s s' : Server}

theorem ran_remove {id : String} {expectedPeer : Option Nat} {m : Bool}
    (h : (Task.remove id expectedPeer m).run uuid now s = some s') :
    Ran uuid now s (.remove id expectedPeer m) s' := by
  simp only [Task.run] at h
  by_cases hmedia : (m && s.media) = true
  · simp [hmedia] at h
  rw [if_neg hmedia] at h
  rcases s.app.removeEntry_cases id expectedPeer with hkept | ⟨session, hsession, hpeer, hremoved⟩
  · rw [hkept] at h
    cases h
    exact .stopped rfl
  · rw [hremoved] at h
    cases h
    exact .removed hsession hpeer

theorem ran_claimSlot {session : Session}
    (h : (Task.claimSlot session).run uuid now s = some s') :
    Ran uuid now s (.claimSlot session) s' := by
  simp only [Task.run] at h
  by_cases hmedia : s.media = true
  · simp [hmedia] at h
  rw [if_neg hmedia] at h
  cases hclaim : s.app.claimRoleSlot session with
  | mk app result =>
      rw [hclaim] at h
      cases result with
      | accepted previous =>
          cases h
          have happ : app = (s.app.claimRoleSlot session).1 := by rw [hclaim]
          rw [happ]
          exact .claimed (by rw [hclaim])
      | rejectedOccupied | rejectedMcpDisabled | notRegistered =>
          cases h
          exact .stopped rfl

theorem ran_iceConnected {session : Session}
    (h : (Task.iceConnected session).run uuid now s = some s') :
    Ran uuid now s (.iceConnected session) s' := by
  simp only [Task.run] at h
  by_cases hmedia : s.media = true
  · simp [hmedia] at h
  rw [if_neg hmedia] at h
  by_cases howns : s.app.sessionOwnsPeer session.id session.peer = true
  · rw [if_pos howns] at h
    cases h
    exact .connected
  · rw [if_neg howns] at h
    cases h
    exact .stopped rfl

theorem gate_cases {role : SessionRole} {task : Task}
    (h : (if (role = .agent && !s.mcpEnabled) = true then some s else some (s.spawn task)) =
      some s') :
    s' = s ∨ ((role = .agent → s.mcpEnabled = true) ∧ s' = s.spawn task) := by
  by_cases hgate : (role = .agent && !s.mcpEnabled) = true
  · rw [if_pos hgate] at h
    exact .inl (Option.some.inj h).symm
  · rw [if_neg hgate] at h
    refine .inr ⟨fun hrole => ?_, (Option.some.inj h).symm⟩
    simpa [hrole] using hgate

theorem Task.ran {task : Task} (h : task.run uuid now s = some s') : Ran uuid now s task s' := by
  cases task with
  | remove id expectedPeer m => exact ran_remove h
  | claimSlot session => exact ran_claimSlot h
  | iceConnected session => exact ran_iceConnected h
  | clearSlots id role m =>
      cases h
      exact .cleared
  | fillSlot role id =>
      cases h
      exact .filled
  | lockLease op m =>
      cases h
      exact .locked
  | timeout timer =>
      cases h
      exact .follows .timeout
  | look call seen m =>
      cases h
      exact .follows .looked
  | claim session =>
      rcases gate_cases h with rfl | ⟨hmcp, rfl⟩
      · exact .stopped rfl
      · exact .follows (.claim hmcp)
  | requestMcp role =>
      rcases gate_cases h with rfl | ⟨hmcp, rfl⟩
      · exact .stopped rfl
      · exact .follows (.requestMcp hmcp)
  | requestControl id =>
      simp only [Task.run] at h
      cases hsession : s.app.sessions.lookup id <;> rw [hsession] at h <;> cases h
      · exact .stopped rfl
      · exact .follows .request
  | resolvePending id requestId grant =>
      simp only [Task.run] at h
      cases hsession : s.app.sessions.lookup id <;> rw [hsession] at h <;> cases h
      · exact .stopped rfl
      · exact .follows .resolve
  | releaseControl id =>
      simp only [Task.run] at h
      cases hsession : s.app.sessions.lookup id <;> rw [hsession] at h <;> cases h
      · exact .stopped rfl
      · exact .follows .release
  | disconnectSession id =>
      simp only [Task.run] at h
      cases hsession : s.app.sessions.lookup id <;> rw [hsession] at h <;> cases h
      · exact .stopped rfl
      · exact .follows .disconnectSession
  | disconnectAgent =>
      simp only [Task.run] at h
      cases hslot : s.app.roleSessions.lookup .agent <;> rw [hslot] at h <;> cases h
      · exact .stopped rfl
      · exact .follows .disconnect
  | takeOverControl id =>
      simp only [Task.run] at h
      cases hsession : s.app.sessions.lookup id with
      | none =>
          rw [hsession] at h
          cases h
          exact .stopped rfl
      | some session =>
          simp only [hsession] at h
          by_cases hrole : session.role = .user
          · rw [if_pos hrole] at h
            cases h
            exact .follows .takeOver
          · rw [if_neg hrole] at h
            cases h
            exact .stopped rfl
  | requestSlot id role =>
      simp only [Task.run] at h
      by_cases hholder : s.app.isRoleSlotHolder id = true
      · rw [if_pos hholder] at h
        cases h
        exact .follows .requestSlot
      · rw [if_neg hholder] at h
        cases h
        exact .stopped rfl
  | takeOverSlot id =>
      simp only [Task.run] at h
      by_cases hholder : s.app.isRoleSlotHolder id = true
      · rw [if_pos hholder] at h
        cases h
        exact .follows .takeOverSlot
      · rw [if_neg hholder] at h
        cases h
        exact .stopped rfl

theorem step_run {i : Nat} (h : step s (.run i uuid now) = some s') :
    ∃ task rest, pick i s.tasks = some (task, rest) ∧
      Ran uuid now { s with tasks := rest } task s' := by
  obtain ⟨⟨task, rest⟩, hpick, hrun⟩ := Option.bind_eq_some_iff.mp h
  exact ⟨task, rest, hpick, task.ran hrun⟩

@[simp]
theorem mem_spawn {t task : Task} : t ∈ (s.spawn task).tasks ↔ t ∈ s.tasks ∨ t = task := by
  simp [Server.spawn]

end

def userClaims : List Event :=
  [.addSession "user-1" .user, .start (.claim ⟨"user-1", .user, 0⟩)] ++
    List.replicate 6 (.run 0 "" 0)

end ArkKvm.Tasks
