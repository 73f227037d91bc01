import ArkKvm.Session.Tasks

/-!
# Slots hold live sessions

A slot is filled by a claim and by the ICE callback, and cleared by a removal some
time after the session has left the map.  Until then the removal is in progress:
`Server.clearing` says that some task still has to clear the slots of an id.
-/

namespace ArkKvm.Tasks

open Lib Lib.Run Lib.Pool ControlLease

def Task.clears (id : String) : Task → Bool
  | .clearSlots id' _ _ => id' = id
  | _ => false

def Server.clearing (s : Server) (id : String) : Bool := s.tasks.any fun t => t.clears id

def Registered (app : AppState) (role : SessionRole) (id : String) : Prop :=
  ∃ session ∈ app.sessions.lookup id, session.role = role

instance (app : AppState) (role : SessionRole) (id : String) : Decidable (Registered app role id) :=
  inferInstanceAs (Decidable (∃ session ∈ app.sessions.lookup id, session.role = role))

/-- The ICE callback fills an empty slot while its session is still registered, or
before the removal of that session has come to the slots. -/
def FillKept (s : Server) : Task → Prop
  | .fillSlot role id =>
      s.app.roleSessions.lookup role = none → Registered s.app role id ∨ s.clearing id = true
  | _ => True

/-- The two steps that could leave a slot behind do not: the ICE callback's, and the
registration of a session under an id that the slot of the other role holds. -/
def SlotKept (s : Server) : Event → Prop
  | .addSession id role =>
      ∀ r, s.app.roleSessions.lookup r = some id → r = role ∨ s.clearing id = true
  | .run i _ _ => ∀ task ∈ s.tasks[i]?, FillKept s task
  | _ => True

instance (s : Server) : DecidablePred (FillKept s)
  | .fillSlot role id =>
      inferInstanceAs (Decidable (s.app.roleSessions.lookup role = none →
        Registered s.app role id ∨ s.clearing id = true))
  | .remove _ _ _ | .clearSlots _ _ _ | .look _ _ _ | .lockLease _ _ | .claim _ | .claimSlot _
  | .iceConnected _ | .requestControl _
  | .requestSlot _ _ | .requestMcp _ | .resolvePending _ _ _ | .takeOverControl _
  | .takeOverSlot _ | .releaseControl _ | .timeout _ | .disconnectAgent | .disconnectSession _ =>
      inferInstanceAs (Decidable True)

instance (s : Server) : DecidablePred (SlotKept s)
  | .addSession id role =>
      inferInstanceAs (Decidable (∀ r, s.app.roleSessions.lookup r = some id →
        r = role ∨ s.clearing id = true))
  | .run i _ _ => inferInstanceAs (Decidable (∀ task ∈ s.tasks[i]?, FillKept s task))
  | .setMcpEnabled _ | .start _ | .fire _ => inferInstanceAs (Decidable True)

/-- Every slot holds a registered session of its role, or is about to be cleared. -/
def SlotsLive (s : Server) : Prop :=
  ∀ r id, s.app.roleSessions.lookup r = some id → Registered s.app r id ∨ s.clearing id = true

section

variable {uuid : String} {now : Nat} {s s' : Server} {task : Task} {id : String} {r : SessionRole}

theorem clearing_iff : s.clearing id = true ↔ ∃ t ∈ s.tasks, t.clears id = true :=
  List.any_eq_true

theorem clearing_mono (hsub : ∀ t ∈ s.tasks, t ∈ s'.tasks) (h : s.clearing id = true) :
    s'.clearing id = true := by
  obtain ⟨t, ht, hclears⟩ := clearing_iff.mp h
  exact clearing_iff.mpr ⟨t, hsub t ht, hclears⟩

theorem clearing_spawn (h : s.clearing id = true) : (s.spawn task).clearing id = true :=
  clearing_mono (fun _ ht => mem_spawn.mpr (.inl ht)) h

theorem SlotsLive.spawn (h : SlotsLive s) : SlotsLive (s.spawn task) :=
  fun r id hslot => (h r id hslot).imp_right clearing_spawn

theorem SlotsLive.closePrevious {previous : Option Session} (h : SlotsLive s) :
    SlotsLive (closePrevious previous s) := by
  cases previous with
  | none => exact h
  | some old => exact h.spawn

theorem Follows.clears {task' : Task} (h : Follows s task task') : task.clears id = false := by
  cases h <;> rfl

theorem clears_of_mayStop (h : task.mayStop = true) : task.clears id = false := by
  cases task <;> first | rfl | cases h

/-- A step of a task.  `s` is the server without the task, so what the task was about to
clear is said apart. -/
theorem SlotsLive.ran
    (hs : ∀ r id, s.app.roleSessions.lookup r = some id →
      Registered s.app r id ∨ task.clears id = true ∨ s.clearing id = true)
    (hfill : ∀ role id, task = .fillSlot role id → s.app.roleSessions.lookup role = none →
      Registered s.app role id ∨ s.clearing id = true)
    (h : Ran uuid now s task s') : SlotsLive s' := by
  -- a task that clears nothing has left nothing to clear behind
  have hrest (hclears : ∀ id, task.clears id = false) : SlotsLive s := fun r id hslot =>
    (hs r id hslot).imp_right fun hor => hor.resolve_left (by simp [hclears id])
  cases h with
  | stopped hstop => exact hrest fun id => clears_of_mayStop hstop
  | follows hfollows => exact (hrest fun id => hfollows.clears).spawn
  | @removed id' _ m media session hsession _ =>
      intro r id hslot
      rcases hrest (fun _ => rfl) r id hslot with ⟨session', hsession', hrole⟩ | hclearing
      · by_cases hid : id = id'
        · subst hid
          exact .inr (clearing_iff.mpr ⟨_, mem_spawn.mpr (.inr rfl), by simp [Task.clears]⟩)
        · exact .inl ⟨session', Table.lookup_erase_iff.mpr ⟨hid, hsession'⟩, hrole⟩
      · exact .inr (clearing_spawn (s := { s with app := _, media := _ }) hclearing)
  | @cleared id' role m =>
      intro r id hslot
      obtain ⟨hslot', hne⟩ := Table.lookup_removeWhere.mp hslot
      rcases hs r id hslot' with hreg | hclears | hclearing
      · exact .inl hreg
      · simp only [Task.clears, decide_eq_true_eq] at hclears
        simp [hclears] at hne
      · exact .inr (clearing_spawn (s := { s with app := _ }) hclearing)
  | @claimed session previous hclaim =>
      have hreg := (AppState.claimRoleSlot_accepted hclaim).1
      refine SlotsLive.spawn (SlotsLive.closePrevious ?_)
      rcases s.app.claimRoleSlot_cases session with hkept | ⟨-, -, -, htaken⟩
      · rw [hkept]
        exact hrest fun _ => rfl
      · rw [htaken]
        intro r id hslot
        rcases Table.lookup_insert_iff.mp hslot with ⟨rfl, rfl⟩ | ⟨-, hold⟩
        · exact .inl ⟨session, hreg, rfl⟩
        · exact hrest (fun _ => rfl) r id hold
  | connected => exact SlotsLive.spawn (s := { s with media := true }) (hrest fun _ => rfl)
  | @filled role id' =>
      rcases s.app.setRoleSlotIfNone_cases role id' with hkept | ⟨hnone, hfilled⟩
      · rw [hkept]
        exact hrest fun _ => rfl
      · rw [hfilled]
        intro r id hslot
        rcases Table.lookup_insert_iff.mp hslot with ⟨rfl, rfl⟩ | ⟨-, hold⟩
        · exact hfill r id rfl hnone
        · exact hrest (fun _ => rfl) r id hold
  | locked => exact hrest fun _ => rfl

theorem SlotsLive.step {e : Event} (hs : SlotsLive s) (hok : SlotKept s e)
    (h : step s e = some s') : SlotsLive s' := by
  cases e with
  | addSession id role =>
      cases h
      intro r id' hslot
      by_cases hid : id' = id
      · subst hid
        rcases hok r hslot with rfl | hclearing
        · exact .inl ⟨_, Table.lookup_insert_iff.mpr (.inl ⟨rfl, rfl⟩), rfl⟩
        · exact .inr hclearing
      · refine (hs r id' hslot).imp_left fun ⟨session, hsession, hrole⟩ => ?_
        exact ⟨session, Table.lookup_insert_iff.mpr (.inr ⟨hid, hsession⟩), hrole⟩
  | setMcpEnabled enabled =>
      cases h
      cases enabled with
      | true => exact hs
      | false => exact SlotsLive.spawn (s := { s with mcpEnabled := false }) hs
  | start task =>
      simp only [Tasks.step] at h
      split at h
      · cases h
        exact hs.spawn
      · cases h
  | fire i =>
      obtain ⟨⟨timer, rest⟩, -, rfl⟩ := Option.map_eq_some_iff.mp h
      exact SlotsLive.spawn (s := { s with timers := rest }) hs
  | run i uuid now =>
      obtain ⟨task, rest, hpick, hran⟩ := step_run h
      -- a clear in progress is the task that runs or one of the others
      have hsplit : ∀ id, s.clearing id = true →
          task.clears id = true ∨ { s with tasks := rest }.clearing id = true := by
        intro id hclearing
        obtain ⟨t, ht, hclears⟩ := clearing_iff.mp hclearing
        rcases (mem_iff_of_pick hpick).mp ht with rfl | ht
        · exact .inl hclears
        · exact .inr (clearing_iff.mpr ⟨t, ht, hclears⟩)
      refine SlotsLive.ran (s := { s with tasks := rest })
        (fun r id hslot => (hs r id hslot).imp_right (hsplit id)) ?_ hran
      rintro role id rfl hnone
      refine (hok _ (getElem?_of_pick hpick) hnone).imp_right fun hclearing => ?_
      exact (hsplit id hclearing).resolve_left (by simp [Task.clears])

/-- What the slots of a server at rest say. -/
structure SlotsSettled (app : AppState) : Prop where
  live : ∀ r id, app.roleSessions.lookup r = some id → Registered app r id
  present : app.sessions = ∅ → app.hasAnySession = false
  occupied : ∀ session, (app.claimRoleSlot session).2 = .rejectedOccupied →
    ∃ id, app.roleSessions.lookup .agent = some id ∧ Registered app .agent id

theorem slotsSettled_of_live {app : AppState}
    (h : ∀ r id, app.roleSessions.lookup r = some id → Registered app r id) : SlotsSettled app := by
  refine ⟨h, fun hempty => ?_, fun session hrejected => ?_⟩
  · have hslots : app.roleSessions.entries = [] := by
      refine List.eq_nil_iff_forall_not_mem.mpr fun slot hslot => ?_
      obtain ⟨session, hsession, -⟩ := h slot.1 slot.2 (Table.lookup_eq_some_iff.mpr hslot)
      rw [hempty] at hsession
      cases hsession
    simp [AppState.hasAnySession, hslots, hempty]
  · obtain ⟨id, hslot⟩ := AppState.claimRoleSlot_rejected hrejected
    exact ⟨id, hslot, h .agent id hslot⟩

end

/-- In every run of such steps, whenever no operation is in progress, every slot holds a
registered session of its role. -/
theorem slots_hold_live_sessions {s : Server} (h : Reach step SlotKept {} s)
    (hrest : s.tasks = []) : SlotsSettled s.app := by
  have hlive : SlotsLive s := by
    refine Reach.invariant ?_ (fun _ _ _ hs hok hstep => hs.step hok hstep) h
    intro r id hslot
    cases hslot
  refine slotsSettled_of_live fun r id hslot => ?_
  refine (hlive r id hslot).resolve_right fun hclearing => ?_
  simp [Server.clearing, hrest] at hclearing

/-- The ICE callback of a session fills the slot while a removal of the session has yet to clear
it; then another user comes, whose own callback fills the slot. -/
def filledDuringRemoval : List Event :=
  [.addSession "user-1" .user, .start (.iceConnected ⟨"user-1", .user, 0⟩), .run 0 "" 0,
    .start (.remove "user-1" none false), .run 1 "" 0] ++ List.replicate 5 (.run 0 "" 0) ++
    [.addSession "user-2" .user, .start (.iceConnected ⟨"user-2", .user, 1⟩)] ++
    List.replicate 2 (.run 0 "" 0)

theorem slots_hold_live_sessions_filledDuringRemoval :
    ∃ s, Reach step SlotKept {} s ∧ s.tasks = [] ∧ s.app.sessions.lookup "user-1" = none ∧
      s.app.roleSessions.lookup .user = some "user-2" ∧ SlotsSettled s.app := by
  have hexec : (exec step (fun s e => decide (SlotKept s e)) {} filledDuringRemoval).map
      (fun s => (s.tasks, s.app.sessions.lookup "user-1", s.app.roleSessions.lookup .user)) =
        some ([], none, some "user-2") := by
    decide +kernel
  obtain ⟨s, hs, hobs⟩ := exists_reach_of_exec (fun _ _ h => of_decide_eq_true h) hexec
  obtain ⟨hrest, hobs⟩ := Prod.mk.inj hobs
  obtain ⟨hgone, hslot⟩ := Prod.mk.inj hobs
  exact ⟨s, hs, hrest, hgone, hslot, slots_hold_live_sessions hs hrest⟩

/-- The ICE callback checks that its session is registered, the session is removed to the
end, and then the callback fills the slot. -/
def filledAfterRemoval : List Event :=
  [.addSession "user-1" .user, .start (.iceConnected ⟨"user-1", .user, 0⟩), .run 0 "" 0,
    .start (.remove "user-1" none false)] ++ List.replicate 5 (.run 1 "" 0) ++ [.run 0 "" 0]

theorem slots_hold_dead_session :
    ¬ ∀ s : Server, Reach step anyStep {} s → s.tasks = [] → SlotsSettled s.app := by
  intro hclaim
  have hexec : (exec step (fun _ _ => true) {} filledAfterRemoval).map
      (fun s => (s.tasks, s.app.roleSessions.lookup .user, s.app.sessions.lookup "user-1")) =
        some ([], some "user-1", none) := by
    decide +kernel
  obtain ⟨s, hs, hobs⟩ := exists_reach_of_exec (fun _ _ _ => trivial) hexec
  obtain ⟨hrest, hobs⟩ := Prod.mk.inj hobs
  obtain ⟨hslot, hgone⟩ := Prod.mk.inj hobs
  obtain ⟨session, hsession, -⟩ := (hclaim s hs hrest).live .user "user-1" hslot
  rw [hgone] at hsession
  cases hsession

end ArkKvm.Tasks
