import ArkKvm.Session.Tasks

/-!
# Control and the presence of its owner

A role that owns control is online, or some removal of a session of that role is in
progress that will find it offline and pass control on: it has not looked yet, or it
has looked and found nobody.  That is `Server.covered`.  Who is online is looked up
outside the lock of the lease, and a grant and a timeout do not look at all, so a
locked step may hand control to a role that has left in the meantime.
-/

namespace ArkKvm.Tasks

open Lib Lib.Run Lib.Pool ControlLease

/-- A removal of a session of role `r` that has not found the role online. -/
def Sampling.watches (online : Online) (r : SessionRole) : Sampling → Bool
  | .sessionRemoved role => role = r && !online.of r
  | _ => false

def Task.watches (r : SessionRole) : Task → Bool
  | .clearSlots _ role _ => role = r
  | .look call seen _ => call.watches seen.online r
  | .lockLease (.sessionRemoved role online) _ => role = r && !online.of r
  | _ => false

/-- The role is online, or a removal in progress will notice that it is not. -/
def Server.covered (s : Server) (r : SessionRole) : Prop :=
  s.app.online r = true ∨ ∃ t ∈ s.tasks, t.watches r = true

/-- The step of a task does not lose sight of the owner.  A removal takes away the holder
of the owner's slot only if its session has the owner's role, and when it finds that role
online, the holder it has found still holds the slot.  A locked step gives control only
to a role that is covered. -/
def Task.keepsSight (s : Server) : Task → Prop
  | .remove id expectedPeer _ =>
      ∀ session ∈ s.app.sessions.lookup id, (∀ peer ∈ expectedPeer, session.peer = peer) →
        ∀ r, s.lease.owner = some r → s.app.roleSessions.lookup r = some id → session.role = r
  | .clearSlots id role _ =>
      s.app.sessions.lookup id ≠ none →
        ∀ r, s.lease.owner = some r → s.app.roleSessions.lookup r = some id → role = r
  | .look (.sessionRemoved role) (.session _ role' id _) _ =>
      role' = role → s.lease.owner = some role → s.app.sessions.lookup id ≠ none →
        s.app.roleSessions.lookup role = some id
  | .lockLease op _ =>
      ∀ r, s.lease.owner ≠ some r → Settles s.lease op (some r) → s.covered r
  | _ => True

def SightKept (s : Server) : Event → Prop
  | .run i _ _ => ∀ task ∈ s.tasks[i]?, task.keepsSight s
  | _ => True

def OwnerCovered (s : Server) : Prop := ∀ r, s.lease.owner = some r → s.covered r

section

variable {uuid : String} {now : Nat} {s s' : Server} {task : Task} {r : SessionRole}

theorem covered_mono (happ : s.app.online r = true → s'.app.online r = true)
    (hsub : ∀ t ∈ s.tasks, t ∈ s'.tasks) (h : s.covered r) : s'.covered r :=
  h.imp happ fun ⟨t, ht, hwatches⟩ => ⟨t, hsub t ht, hwatches⟩

theorem covered_spawn (h : s.covered r) : (s.spawn task).covered r :=
  covered_mono (s := s) id (fun _ ht => mem_spawn.mpr (.inl ht)) h

@[simp]
theorem sample_watches {call : Sampling} {m : Bool} {seen : Look} :
    (sample call m seen).watches r = call.watches seen.online r := by
  rcases seen with ⟨online, _ | ⟨role, todo⟩⟩ | _
  · cases call <;> rfl
  · rfl
  · rfl

theorem found_of_ne {online : Online} {role : SessionRole} (h : role ≠ r) :
    (Online.found online role).of r = online.of r := by
  cases role <;> cases r <;> first | rfl | exact absurd rfl h

theorem Look.step_online (seen : Look) (app : AppState) :
    (seen.step app).online = seen.online ∨
    ∃ online role id todo session, seen = .session online role id todo ∧
      app.sessions.lookup id = some session ∧
      (seen.step app).online = Online.found online role := by
  rcases seen with ⟨online, _ | ⟨role, todo⟩⟩ | ⟨online, role, id, todo⟩
  · exact .inl rfl
  · cases hslot : app.roleSessions.lookup role <;> simp [Look.step, Look.online, hslot]
  · cases hsession : app.sessions.lookup id with
    | none => exact .inl (by simp [Look.step, Look.online, hsession])
    | some session =>
        exact .inr ⟨online, role, id, todo, session, rfl, hsession,
          by simp [Look.step, Look.online, hsession]⟩

theorem Follows.watches {task' : Task} {tasks : List Task} (h : Follows s task task')
    (hsight : task.keepsSight { s with tasks := tasks }) (howner : s.lease.owner = some r)
    (hwatches : task.watches r = true) :
    task'.watches r = true ∨ s.app.online r = true := by
  cases h with
  | @looked call seen m =>
      rw [sample_watches]
      rcases seen.step_online s.app with
        hsame | ⟨online, role, id, todo, session, rfl, hsession, hfound⟩
      · rw [hsame]
        exact .inl hwatches
      cases call with
      | sessionRemoved removed =>
          obtain ⟨hremoved, hoff⟩ := Bool.and_eq_true_iff.mp hwatches
          obtain rfl : removed = r := of_decide_eq_true hremoved
          by_cases hrole : role = removed
          · have hne : s.app.sessions.lookup id ≠ none := by
              rw [hsession]
              exact Option.some_ne_none _
            exact .inr (AppState.online_eq_true_iff.mpr
              ⟨id, session, hsight hrole howner hne, hsession⟩)
          · rw [hfound, Sampling.watches, found_of_ne hrole]
            exact .inl hwatches
      | roleClaimed _ _ | requestControl _ | releaseControl _ => cases hwatches
  | claim _ | request | requestSlot | requestMcp _ | resolve | takeOver | takeOverSlot | release
  | timeout | disconnect | disconnectSession => cases hwatches

theorem watches_of_mayStop (h : task.mayStop = true) : task.watches r = false := by
  cases task <;> first | rfl | cases h

theorem owner_ne_of_watches {op : LeaseOp} {m : Bool} {l : Lease} (howner : l.owner = some r)
    (hwatches : (Task.lockLease op m).watches r = true) :
    (op.run uuid now l).1.owner ≠ some r := by
  cases op with
  | sessionRemoved role online =>
      obtain ⟨hrole, hoff⟩ := Bool.and_eq_true_iff.mp hwatches
      obtain rfl : role = r := of_decide_eq_true hrole
      have hoff' : online.of role = false := by simpa using hoff
      have hgone : (onSessionRemoved role online l).1.owner = fallback online := by
        simp [onSessionRemoved, howner, hoff', settle]
      change (onSessionRemoved role online l).1.owner ≠ some role
      rw [hgone]
      cases role <;> cases huser : online.user <;> cases hagent : online.agent <;>
        simp_all [fallback, Online.of]
  | _ => cases hwatches

/-- Without the task that runs, a role is covered still, or it was that task that watched. -/
theorem covered_of_pick {i : Nat} {rest : List Task} (hpick : pick i s.tasks = some (task, rest))
    (h : s.covered r) : { s with tasks := rest }.covered r ∨ task.watches r = true := by
  rcases h with honline | ⟨t, ht, hwatches⟩
  · exact .inl (.inl honline)
  · rcases (mem_iff_of_pick hpick).mp ht with rfl | ht
    · exact .inr hwatches
    · exact .inl (.inr ⟨t, ht, hwatches⟩)

/-- A locked step that gives control to another role was not the one that watched it. -/
theorem watches_of_settles {op : LeaseOp} {m : Bool} {l : Lease} (hne : l.owner ≠ some r)
    (h : Settles l op (some r)) : (Task.lockLease op m).watches r = false := by
  refine Bool.eq_false_iff.mpr fun hwatches => ?_
  cases op with
  | sessionRemoved role online =>
      obtain ⟨hrole, hoff⟩ := Bool.and_eq_true_iff.mp hwatches
      obtain rfl : role = r := of_decide_eq_true hrole
      generalize hr : some role = owner at h
      cases h with
      | requesterGone _ _ _ => exact hne hr.symm
      | ownerGone howner _ => exact hne howner
  | _ => cases hwatches

theorem OwnerCovered.run {i : Nat} {rest : List Task} (hs : OwnerCovered s)
    (hpick : pick i s.tasks = some (task, rest)) (hsight : task.keepsSight s)
    (h : Ran uuid now { s with tasks := rest } task s') : OwnerCovered s' := by
  -- what covered the owner before, apart from the task itself
  have hrest (r : SessionRole) (howner : s.lease.owner = some r)
      (hwatches : task.watches r = false) : { s with tasks := rest }.covered r :=
    (covered_of_pick hpick (hs r howner)).resolve_right (by simp [hwatches])
  cases h with
  | stopped hstop => exact fun r howner => hrest r howner (watches_of_mayStop hstop)
  | @follows _ task' hfollows =>
      intro r howner
      rcases covered_of_pick hpick (hs r howner) with hcovered | hwatches
      · exact covered_spawn hcovered
      · rcases hfollows.watches hsight howner hwatches with hwatches' | honline
        · exact .inr ⟨task', mem_spawn.mpr (.inr rfl), hwatches'⟩
        · exact .inl honline
  | @removed id expectedPeer m media session hsession hpeer =>
      intro r howner
      rcases hrest r howner rfl with honline | ⟨t, ht, hwatches⟩
      · obtain ⟨id', session', hslot, hreg⟩ := AppState.online_eq_true_iff.mp honline
        by_cases hid : id' = id
        · subst hid
          refine .inr ⟨_, mem_spawn.mpr (.inr rfl), ?_⟩
          simp [Task.watches, hsight session hsession hpeer r howner hslot]
        · exact .inl (AppState.online_eq_true_iff.mpr
            ⟨id', session', hslot, Table.lookup_erase_iff.mpr ⟨hid, hreg⟩⟩)
      · exact .inr ⟨t, mem_spawn.mpr (.inl ht), hwatches⟩
  | @cleared id role m =>
      intro r howner
      -- the removal itself watches its role from here on
      have hself (hrole : role = r) : Server.covered
          ({ s with tasks := rest, app := s.app.clearRoleSlots id }.spawn
            ((Sampling.sessionRemoved role).start m)) r := by
        refine .inr ⟨_, mem_spawn.mpr (.inr rfl), ?_⟩
        rw [Sampling.start, sample_watches]
        cases r <;> simp [Sampling.watches, Look.online, hrole, Online.of]
      rcases covered_of_pick hpick (hs r howner) with (honline | ⟨t, ht, hwatches⟩) | hwatches
      · obtain ⟨id', session', hslot, hreg⟩ := AppState.online_eq_true_iff.mp honline
        by_cases hid : id' = id
        · subst hid
          have hne : s.app.sessions.lookup id' ≠ none := by
            rw [hreg]
            exact Option.some_ne_none _
          exact hself (hsight hne r howner hslot)
        · exact .inl (AppState.online_eq_true_iff.mpr ⟨id', session',
            Table.lookup_removeWhere.mpr ⟨hslot, by simpa using hid⟩, hreg⟩)
      · exact .inr ⟨t, mem_spawn.mpr (.inl ht), hwatches⟩
      · exact hself (of_decide_eq_true hwatches)
  | @claimed session previous hclaim =>
      intro r howner
      refine covered_spawn ?_
      have hcovered : Server.covered
          { s with tasks := rest, app := (s.app.claimRoleSlot session).1 } r :=
        covered_mono (s := { s with tasks := rest }) AppState.online_claimRoleSlot (fun _ ht => ht)
          (hrest r (by cases previous <;> exact howner) rfl)
      cases previous with
      | none => exact hcovered
      | some old => exact covered_spawn hcovered
  | connected =>
      exact fun r howner => covered_spawn (s := { s with media := true, tasks := rest })
        (hrest r howner rfl)
  | @filled role id =>
      exact fun r howner => covered_mono (s := { s with tasks := rest })
        AppState.online_setRoleSlotIfNone
        (fun _ ht => ht) (hrest r howner rfl)
  | @locked op m media timers =>
      intro r howner
      by_cases hold : s.lease.owner = some r
      · refine hrest r hold (Bool.eq_false_iff.mpr fun hwatches => ?_)
        exact owner_ne_of_watches hold hwatches howner
      · have hsettles : Settles s.lease op (some r) := by
          rcases op.run_owner uuid now s.lease with hsame | hsettles
          · exact absurd (hsame.symm.trans howner) hold
          · exact howner ▸ hsettles
        exact (covered_of_pick hpick (hsight r hold hsettles)).resolve_right
          (by simp [watches_of_settles hold hsettles])

theorem OwnerCovered.spawn (h : OwnerCovered s) : OwnerCovered (s.spawn task) :=
  fun r howner => covered_spawn (h r howner)

theorem OwnerCovered.step {e : Event} (hs : OwnerCovered s) (hok : SightKept s e)
    (h : step s e = some s') : OwnerCovered s' := by
  cases e with
  | addSession id role =>
      cases h
      exact fun r howner => (hs r howner).imp_left AppState.online_addSession
  | setMcpEnabled enabled =>
      cases h
      cases enabled with
      | true => exact hs
      | false => exact OwnerCovered.spawn (s := { s with mcpEnabled := false }) hs
  | start task =>
      simp only [Tasks.step] at h
      split at h
      · cases h
        exact hs.spawn
      · cases h
  | fire i =>
      obtain ⟨⟨timer, rest⟩, -, rfl⟩ := Option.map_eq_some_iff.mp h
      exact OwnerCovered.spawn (s := { s with timers := rest }) hs
  | run i uuid now =>
      obtain ⟨task, rest, hpick, hran⟩ := step_run h
      exact hs.run hpick (hok task (getElem?_of_pick hpick)) hran

end

/-- In every run of such steps, whenever no operation is in progress, the role that owns
control has a registered session in its slot. -/
theorem owner_is_present {s : Server} (h : Reach step SightKept {} s) (hrest : s.tasks = [])
    {r : SessionRole} (howner : s.lease.owner = some r) :
    ∃ id session, s.app.roleSessions.lookup r = some id ∧
      s.app.sessions.lookup id = some session := by
  have hcovered : OwnerCovered s := by
    refine Reach.invariant ?_ (fun _ _ _ hs hok hstep => hs.step hok hstep) h
    intro r howner
    cases howner
  rcases hcovered r howner with honline | ⟨t, ht, -⟩
  · exact AppState.online_eq_true_iff.mp honline
  · rw [hrest] at ht
    cases ht

def Task.userComes (s : Server) : Task → Bool
  | .lockLease (.roleClaimed .user _ _) _ => s.app.online .user
  | .lockLease _ _ | .remove _ _ _ | .clearSlots _ _ _ => false
  | .look (.sessionRemoved _) _ _ => false
  | _ => true

def usersCome (s : Server) : Event → Bool
  | .run i _ _ => s.tasks[i]?.all fun task => task.userComes s
  | _ => true

theorem Task.keepsSight_of_userComes {s : Server} {task : Task} (h : task.userComes s = true) :
    task.keepsSight s := by
  cases task with
  | lockLease op m =>
      cases op with
      | roleClaimed role previousUser online =>
          cases role with
          | agent => cases h
          | user =>
              intro r _ hsettles
              cases hsettles <;> exact .inl h
      | _ => cases h
  | look call seen m => cases call <;> cases seen <;> trivial
  | remove _ _ _ | clearSlots _ _ _ => cases h
  | _ => trivial

theorem sightKept_of_usersCome (s : Server) (e : Event) (h : usersCome s e = true) :
    SightKept s e := by
  cases e with
  | run i uuid now =>
      intro task htask
      rw [usersCome, Option.mem_def.mp htask] at h
      exact Task.keepsSight_of_userComes h
  | _ => trivial

theorem owner_is_present_userClaims :
    ∃ s, Reach step SightKept {} s ∧ s.tasks = [] ∧ s.lease.owner = some .user ∧
      ∃ id session, s.app.roleSessions.lookup .user = some id ∧
        s.app.sessions.lookup id = some session := by
  have hexec : (exec step usersCome {} userClaims).map (fun s => (s.tasks, s.lease.owner)) =
      some ([], some .user) := by
    decide +kernel
  obtain ⟨s, hs, hobs⟩ := exists_reach_of_exec sightKept_of_usersCome hexec
  obtain ⟨hrest, howner⟩ := Prod.mk.inj hobs
  exact ⟨s, hs, hrest, howner, owner_is_present hs hrest howner⟩

/-- The user releases control and finds the agent online; the agent is removed to the
end; then control goes to the agent. -/
def releasedToAbsentAgent : List Event :=
  [.setMcpEnabled true] ++ userClaims ++
    [.addSession "agent-1" .agent, .start (.claim ⟨"agent-1", .agent, 1⟩)] ++
    List.replicate 7 (.run 0 "" 0) ++
    [.start (.releaseControl "user-1")] ++ List.replicate 5 (.run 0 "" 0) ++
    [.start (.remove "agent-1" none false)] ++ List.replicate 6 (.run 1 "" 0) ++ [.run 0 "" 0]

theorem owner_is_absent :
    ¬ ∀ s : Server, Reach step anyStep {} s → s.tasks = [] → ∀ r, s.lease.owner = some r →
      ∃ id session, s.app.roleSessions.lookup r = some id ∧
        s.app.sessions.lookup id = some session := by
  intro hclaim
  have hexec : (exec step (fun _ _ => true) {} releasedToAbsentAgent).map
      (fun s => (s.tasks, s.lease.owner, s.app.roleSessions.lookup .agent)) =
        some ([], some .agent, none) := by
    decide +kernel
  obtain ⟨s, hs, hobs⟩ := exists_reach_of_exec (fun _ _ _ => trivial) hexec
  obtain ⟨hrest, hobs⟩ := Prod.mk.inj hobs
  obtain ⟨howner, hempty⟩ := Prod.mk.inj hobs
  obtain ⟨id, session, hslot, -⟩ := hclaim s hs hrest .agent howner
  rw [hempty] at hslot
  cases hslot

end ArkKvm.Tasks
