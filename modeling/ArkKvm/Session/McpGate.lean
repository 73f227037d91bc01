import ArkKvm.Session.Tasks

/-!
# The agent and the MCP switch

The claim of a slot, a request for control and a timeout read the MCP switch before
they act; what they do later rests on that reading.  The ICE callback, a grant, a
release and the departure of a user do not read it at all, although each of them can
bring an agent into its slot or into control.
-/

namespace ArkKvm.Tasks

open Lib Lib.Run Lib.Pool ControlLease

def Sampling.passedMcp : Sampling → Bool
  | .roleClaimed .agent _ | .requestControl .agent => true
  | _ => false

end ArkKvm.Tasks

namespace ArkKvm.ControlLease

def LeaseOp.passedMcp : LeaseOp → Bool
  | .roleClaimed .agent _ _ | .requestControl .agent _ | .timeout _ true => true
  | _ => false

def LeaseOp.leavesAgentOut (l : Lease) : LeaseOp → Prop
  | .resolvePending responder requestId true =>
      ∀ p ∈ l.pending, p.requester = .agent → responder = .agent ∨ ∃ id ∈ requestId, id ≠ p.requestId
  | .releaseControl .user online => l.owner = some .user → online.agent = false
  | .sessionRemoved .user online =>
      l.owner = some .user → online.user = false → online.agent = false
  | _ => True

instance (l : Lease) : DecidablePred (LeaseOp.leavesAgentOut l)
  | .resolvePending responder requestId true =>
      inferInstanceAs (Decidable (∀ p ∈ l.pending, p.requester = .agent →
        responder = .agent ∨ ∃ id ∈ requestId, id ≠ p.requestId))
  | .releaseControl .user online =>
      inferInstanceAs (Decidable (l.owner = some .user → online.agent = false))
  | .sessionRemoved .user online =>
      inferInstanceAs (Decidable (l.owner = some .user → online.user = false →
        online.agent = false))
  | .resolvePending _ _ false | .releaseControl .agent _ | .sessionRemoved .agent _
  | .roleClaimed _ _ _ | .requestControl _ _ | .takeOverControl | .timeout _ _ =>
      inferInstanceAs (Decidable True)

theorem Settles.owner_agent {l : Lease} {op : LeaseOp} {owner : Option SessionRole}
    (h : Settles l op owner) (howner : owner = some .agent) (hpassed : op.passedMcp = false)
    (hout : op.leavesAgentOut l) : l.owner = some .agent := by
  cases h with
  | userTakeover online | userClaimed online hoff | takenOver => cases howner
  | agentClaimed previousUser online hoff => cases hpassed
  | requesterGone hp hreq hoff | denied hp hids | timeoutDenied hp => exact howner
  | @ownerGone role online hrole hoff =>
      -- the role that has gone was found offline, so the other one was the agent
      have hagent : online.agent = false := by
        cases role with
        | agent => exact hoff
        | user => exact hout hrole hoff
      cases huser : online.user <;> simp [fallback, huser, hagent] at howner
  | @vacant role online hother hoff =>
      obtain rfl := Option.some.inj howner
      cases hpassed
  | @granted responder requestId p hp hids hother =>
      have hagent := Option.some.inj howner
      rcases hout p hp hagent with hself | ⟨id, hid, hne⟩
      · exact absurd (hagent.trans hself.symm) hother
      · exact absurd (hids id hid) hne
  | @released role online hrole =>
      cases role with
      | agent => exact hrole
      | user => simp [successor, hout hrole] at howner
  | @timeoutGranted p mcpEnabled hp hpolicy hmcp =>
      rw [hmcp (Option.some.inj howner)] at hpassed
      cases hpassed

end ArkKvm.ControlLease

namespace ArkKvm.Tasks

open Lib Lib.Run Lib.Pool ControlLease

def Task.passedMcp : Task → Bool
  | .claimSlot session => session.role = .agent
  | .look call _ _ => call.passedMcp
  | .lockLease op _ => op.passedMcp
  | _ => false

/-- A step that does not ask for MCP leaves the agent out of its slot and of control. -/
def Task.leavesAgentOut (s : Server) : Task → Prop
  | .fillSlot .agent _ => s.app.roleSessions.lookup .agent ≠ none
  | .lockLease op _ => op.leavesAgentOut s.lease
  | _ => True

/-- MCP is switched off when nothing is in progress that rests on its having been on;
and while it is off, no step that does not ask brings an agent in. -/
def McpKept (s : Server) : Event → Prop
  | .setMcpEnabled false => ∀ t ∈ s.tasks, t.passedMcp = false
  | .run i _ _ => ∀ task ∈ s.tasks[i]?, s.mcpEnabled = false → task.leavesAgentOut s
  | _ => True

instance (s : Server) : DecidablePred (Task.leavesAgentOut s)
  | .fillSlot .agent _ => inferInstanceAs (Decidable (s.app.roleSessions.lookup .agent ≠ none))
  | .lockLease op _ => inferInstanceAs (Decidable (op.leavesAgentOut s.lease))
  | .fillSlot .user _ | .remove _ _ _ | .clearSlots _ _ _ | .look _ _ _ | .claim _ | .claimSlot _
  | .iceConnected _ | .requestControl _ | .requestSlot _ _ | .requestMcp _ | .resolvePending _ _ _
  | .takeOverControl _ | .takeOverSlot _ | .releaseControl _ | .timeout _ | .disconnectAgent
  | .disconnectSession _ => inferInstanceAs (Decidable True)

instance (s : Server) : DecidablePred (McpKept s)
  | .setMcpEnabled false => inferInstanceAs (Decidable (∀ t ∈ s.tasks, t.passedMcp = false))
  | .run i _ _ => inferInstanceAs (Decidable
      (∀ task ∈ s.tasks[i]?, s.mcpEnabled = false → task.leavesAgentOut s))
  | .setMcpEnabled true | .addSession _ _ | .start _ | .fire _ => inferInstanceAs (Decidable True)

def McpTrusted (s : Server) : Prop := ∀ t ∈ s.tasks, t.passedMcp = true → s.mcpEnabled = true

section

variable {uuid : String} {now : Nat} {s s' : Server} {task : Task}

@[simp]
theorem sample_passedMcp {call : Sampling} {m : Bool} {seen : Look} :
    (sample call m seen).passedMcp = call.passedMcp := by
  rcases seen with ⟨online, _ | ⟨role, todo⟩⟩ | _
  · cases call with
    | roleClaimed role previousUser => cases role <;> rfl
    | requestControl role => cases role <;> rfl
    | sessionRemoved role | releaseControl role => rfl
  · rfl
  · rfl

@[simp]
theorem start_passedMcp {call : Sampling} {m : Bool} :
    (call.start m).passedMcp = call.passedMcp := by
  unfold Sampling.start
  exact sample_passedMcp

theorem Follows.passedMcp {task' : Task} (h : Follows s task task')
    (hpassed : task'.passedMcp = true) : task.passedMcp = true ∨ s.mcpEnabled = true := by
  cases h with
  | looked =>
      rw [sample_passedMcp] at hpassed
      exact .inl hpassed
  | claim hmcp => exact .inr (hmcp (by simpa [Task.passedMcp] using hpassed))
  | @requestMcp role hmcp =>
      cases role with
      | user => cases hpassed
      | agent => exact .inr (hmcp rfl)
  | @timeout timer =>
      refine .inr ?_
      cases henabled : s.mcpEnabled with
      | true => rfl
      | false => simp [Task.passedMcp, LeaseOp.passedMcp, henabled] at hpassed
  | request | requestSlot | resolve | takeOver | takeOverSlot | release | disconnect
  | disconnectSession => cases hpassed

theorem McpTrusted.spawn (h : McpTrusted s)
    (htask : task.passedMcp = true → s.mcpEnabled = true) : McpTrusted (s.spawn task) := by
  intro t ht hpassed
  rcases mem_spawn.mp ht with ht | rfl
  · exact h t ht hpassed
  · exact htask hpassed

theorem McpTrusted.ran (hs : McpTrusted s) (htask : task.passedMcp = true → s.mcpEnabled = true)
    (h : Ran uuid now s task s') : McpTrusted s' := by
  cases h with
  | stopped _ | filled | locked => exact hs
  | follows hfollows =>
      exact hs.spawn fun hpassed => (hfollows.passedMcp hpassed).elim htask id
  | removed _ _ | connected => exact McpTrusted.spawn (s := { s with .. }) hs nofun
  | cleared =>
      refine McpTrusted.spawn (s := { s with .. }) hs fun hpassed => ?_
      rw [start_passedMcp] at hpassed
      cases hpassed
  | @claimed session previous _ =>
      have hprevious : McpTrusted (closePrevious previous
          { s with app := (s.app.claimRoleSlot session).1 }) := by
        cases previous with
        | none => exact hs
        | some old => exact McpTrusted.spawn (s := { s with .. }) hs nofun
      refine hprevious.spawn fun hpassed => ?_
      rw [start_passedMcp] at hpassed
      have hmcp : s.mcpEnabled = true := by
        cases hrole : session.role with
        | agent => exact htask (by simp [Task.passedMcp, hrole])
        | user =>
            rw [hrole] at hpassed
            cases hpassed
      cases previous <;> exact hmcp

theorem passedMcp_of_isEntry {made : List Session} (h : task.isEntry made = true) :
    task.passedMcp = false := by
  cases task <;> first | rfl | cases h

theorem McpTrusted.step {e : Event} (hs : McpTrusted s) (hok : McpKept s e)
    (h : step s e = some s') : McpTrusted s' := by
  cases e with
  | addSession id role =>
      cases h
      exact hs
  | setMcpEnabled enabled =>
      cases h
      cases enabled with
      | true => exact fun _ _ _ => rfl
      | false =>
          refine McpTrusted.spawn (s := { s with mcpEnabled := false }) ?_ nofun
          intro t ht hpassed
          exact absurd ((hok t ht).symm.trans hpassed) Bool.false_ne_true
  | start task =>
      simp only [Tasks.step] at h
      split at h
      · cases h
        refine hs.spawn fun hpassed => ?_
        exact absurd ((passedMcp_of_isEntry ‹_›).symm.trans hpassed) Bool.false_ne_true
      · cases h
  | fire i =>
      obtain ⟨⟨timer, rest⟩, -, rfl⟩ := Option.map_eq_some_iff.mp h
      exact McpTrusted.spawn (s := { s with timers := rest }) hs nofun
  | run i uuid now =>
      obtain ⟨task, rest, hpick, hran⟩ := step_run h
      have hmem (t : Task) (ht : t = task ∨ t ∈ rest) : t.passedMcp = true → s.mcpEnabled = true :=
        hs t ((mem_iff_of_pick hpick).mpr ht)
      exact McpTrusted.ran (s := { s with tasks := rest }) (fun t ht => hmem t (.inr ht))
        (hmem task (.inl rfl)) hran

/-- No session gets into the agent's slot, and the agent does not get control. -/
structure AgentKeptOut (s s' : Server) : Prop where
  slot : ∀ id, s'.app.roleSessions.lookup .agent = some id →
    s.app.roleSessions.lookup .agent = some id
  owner : s'.lease.owner = some .agent → s.lease.owner = some .agent

theorem AgentKeptOut.of_eq (happ : s'.app.roleSessions = s.app.roleSessions)
    (hlease : s'.lease = s.lease) : AgentKeptOut s s' :=
  ⟨fun _ h => happ ▸ h, fun h => hlease ▸ h⟩

theorem AgentKeptOut.ran (hpassed : task.passedMcp = false) (hout : task.leavesAgentOut s)
    (h : Ran uuid now s task s') : AgentKeptOut s s' := by
  cases h with
  | stopped _ | follows _ | removed _ _ | connected => exact .of_eq rfl rfl
  | cleared => exact ⟨fun id hslot => (Table.lookup_removeWhere.mp hslot).1, id⟩
  | @claimed session previous _ =>
      have huser : session.role ≠ .agent := by simpa [Task.passedMcp] using hpassed
      have hslots : AgentKeptOut s { s with app := (s.app.claimRoleSlot session).1 } := by
        refine ⟨fun id hslot => ?_, id⟩
        rcases s.app.claimRoleSlot_cases session with hkept | ⟨-, -, -, htaken⟩
        · rwa [hkept] at hslot
        · rw [htaken] at hslot
          exact (Table.lookup_insert_iff.mp hslot).resolve_left (fun h => huser h.1.symm) |>.2
      cases previous <;> exact ⟨hslots.slot, hslots.owner⟩
  | @filled role id' =>
      refine ⟨fun id hslot => ?_, id⟩
      rcases s.app.setRoleSlotIfNone_cases role id' with hkept | ⟨hnone, hfilled⟩
      · rwa [hkept] at hslot
      · rw [hfilled] at hslot
        rcases Table.lookup_insert_iff.mp hslot with ⟨rfl, -⟩ | ⟨-, hold⟩
        · exact absurd hnone hout
        · exact hold
  | @locked op m media timers =>
      refine ⟨fun _ hslot => hslot, fun howner => ?_⟩
      rcases op.run_owner uuid now s.lease with hsame | hsettles
      · rwa [hsame] at howner
      · exact hsettles.owner_agent howner hpassed hout

theorem AgentKeptOut.step {e : Event} (hs : McpTrusted s) (hok : McpKept s e)
    (h : step s e = some s') (hoff : s.mcpEnabled = false) : AgentKeptOut s s' := by
  cases e with
  | addSession id role =>
      cases h
      exact .of_eq rfl rfl
  | setMcpEnabled enabled =>
      cases h
      cases enabled <;> exact .of_eq rfl rfl
  | start task =>
      simp only [Tasks.step] at h
      split at h
      · cases h
        exact .of_eq rfl rfl
      · cases h
  | fire i =>
      obtain ⟨⟨timer, rest⟩, -, rfl⟩ := Option.map_eq_some_iff.mp h
      exact .of_eq rfl rfl
  | run i uuid now =>
      obtain ⟨task, rest, hpick, hran⟩ := step_run h
      have hpassed : task.passedMcp = false := by
        refine Bool.eq_false_iff.mpr fun hpassed => ?_
        have hon := hs task ((mem_iff_of_pick hpick).mpr (.inl rfl)) hpassed
        exact Bool.false_ne_true (hoff.symm.trans hon)
      have hout := hok task (getElem?_of_pick hpick) hoff
      have hkept := AgentKeptOut.ran (s := { s with tasks := rest }) hpassed hout hran
      exact ⟨hkept.slot, hkept.owner⟩

end

/-- In every run of such steps, no step that is taken while MCP is off brings a session
into the agent's slot or the agent into control. -/
theorem agent_gated_by_mcp {s s' : Server} {e : Event} (h : Reach step McpKept {} s)
    (hok : McpKept s e) (hstep : step s e = some s') (hoff : s.mcpEnabled = false) :
    AgentKeptOut s s' := by
  have htrusted : McpTrusted s := by
    refine Reach.invariant ?_ (fun _ _ _ hs hok' hstep' => hs.step hok' hstep') h
    intro t ht
    cases ht
  exact AgentKeptOut.step htrusted hok hstep hoff

/-- An agent claims its slot and gets control; MCP is switched off and the agent is removed; it
comes back, and its claim is about to be refused. -/
def agentSwitchedOff : List Event :=
  [.setMcpEnabled true, .addSession "agent-1" .agent, .start (.claim ⟨"agent-1", .agent, 0⟩)] ++
    List.replicate 6 (.run 0 "" 0) ++ [.setMcpEnabled false] ++ List.replicate 7 (.run 0 "" 0) ++
    [.addSession "agent-1" .agent, .start (.claim ⟨"agent-1", .agent, 1⟩)]

theorem agent_gated_by_mcp_switchedOff :
    ∃ s s', Reach step McpKept {} s ∧ s.mcpEnabled = false ∧
      s.tasks = [.claim ⟨"agent-1", .agent, 1⟩] ∧ s.app.roleSessions.lookup .agent = none ∧
      step s (.run 0 "" 0) = some s' ∧ AgentKeptOut s s' := by
  have hexec : (exec step (fun s e => decide (McpKept s e)) {} agentSwitchedOff).map
      (fun s => (s.mcpEnabled, s.tasks, s.app.roleSessions.lookup .agent,
        (step s (.run 0 "" 0)).isSome)) =
          some (false, [.claim ⟨"agent-1", .agent, 1⟩], none, true) := by
    decide +kernel
  obtain ⟨s, hs, hobs⟩ := exists_reach_of_exec (fun _ _ h => of_decide_eq_true h) hexec
  obtain ⟨hoff, hobs⟩ := Prod.mk.inj hobs
  obtain ⟨htasks, hobs⟩ := Prod.mk.inj hobs
  obtain ⟨hslot, hsome⟩ := Prod.mk.inj hobs
  obtain ⟨s', hstep⟩ := Option.isSome_iff_exists.mp hsome
  refine ⟨s, s', hs, hoff, htasks, hslot, hstep, agent_gated_by_mcp hs ?_ hstep hoff⟩
  intro task htask
  rw [htasks] at htask
  cases htask
  exact fun _ => trivial

/-- MCP is off, and the ICE callback of the agent's session fills the agent's slot. -/
theorem agent_not_gated_by_mcp :
    ¬ ∀ s e s', Reach step anyStep {} s → step s e = some s' → s.mcpEnabled = false →
      AgentKeptOut s s' := by
  intro hclaim
  have hexec : (exec step (fun _ _ => true) {} [.addSession "agent-1" .agent,
      .start (.iceConnected ⟨"agent-1", .agent, 0⟩), .run 0 "" 0]).map
      (fun s => (s.mcpEnabled, s.app.roleSessions.lookup .agent,
        (step s (.run 0 "" 0)).bind fun s' => s'.app.roleSessions.lookup .agent)) =
          some (false, none, some "agent-1") := by
    decide +kernel
  obtain ⟨s, hs, hobs⟩ := exists_reach_of_exec (fun _ _ _ => trivial) hexec
  obtain ⟨hoff, hobs⟩ := Prod.mk.inj hobs
  obtain ⟨hempty, hfilled⟩ := Prod.mk.inj hobs
  obtain ⟨s', hstep, hslot⟩ := Option.bind_eq_some_iff.mp hfilled
  have hkept := (hclaim s _ s' hs hstep hoff).slot "agent-1" hslot
  rw [hempty] at hkept
  cases hkept

end ArkKvm.Tasks
