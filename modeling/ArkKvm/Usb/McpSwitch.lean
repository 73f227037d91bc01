import ArkKvm.Lib.Run
import ArkKvm.Usb.Calls

/-!
# The MCP switch under concurrent calls

`set_mcp_enabled(false)` is the security switch.  It should stay off once a call
has returned, and SSH forwarding should never be left on without MCP.  The calls
read the two flags early and write them late; `Ordered` says for one step that
such a late write does not go against what was written in between.
-/

namespace ArkKvm.Usb

open Lib

def Task.enabling : Task → Bool
  | .mcpReadMcp enabled => enabled
  | .mcpReadSsh enabled _ => enabled
  | .mcpWrite enabled => enabled
  | _ => false

/-- A `set_mcp_enabled(false)` call that has cleared the flag, or has seen it
cleared, and only has to return. -/
def Task.switchedOff : Task → Bool
  | .mcpReadSsh false false => true
  | .mcpDisconnect => true
  | .applyWriteSsh .mcpOff _ => true
  | _ => false

def Task.caller : Task → Option ApplyCaller
  | .applyReadDevices caller => some caller
  | .applyReadConfig caller _ => some caller
  | .applyStopMic caller _ => some caller
  | .applyLock caller _ _ => some caller
  | .applyRun caller _ _ => some caller
  | .applyWriteDevices caller _ => some caller
  | .applyWriteMcp caller _ => some caller
  | .applyWriteSsh caller _ => some caller
  | _ => none

def Task.mcpAfter (mcp : Bool) : Task → Bool
  | .mcpWrite enabled => enabled
  | .applyWriteMcp caller _ => caller.mcp
  | _ => mcp

def Task.sshAfter (ssh : Bool) : Task → Bool
  | .applyWriteSsh caller _ => caller.ssh
  | _ => ssh

/-- Flags that only a call outside the two switches passes are excluded: SSH is
never switched on without MCP. -/
def ApplyCaller.Sound : ApplyCaller → Prop
  | .mcpOff => True
  | .sshForwarding mcp ssh => ssh = true → mcp = true
  | .direct _ _ => False

section Advance

variable {s s' : Shared} {outcome : Bool} {task task' : Task} {r : Rest}

theorem advance_flags (h : advance s outcome task = some (s', r)) :
    s'.config.mcpEnabled = task.mcpAfter s.config.mcpEnabled ∧
      s'.config.sshForwardingEnabled = task.sshAfter s.config.sshForwardingEnabled := by
  cases task <;> simp only [advance] at h <;> (repeat' split at h) <;> cases h <;> exact ⟨rfl, rfl⟩

theorem advance_enabling (h : advance s outcome task = some (s', .goto task'))
    (hen : task'.enabling = true) : task.enabling = true := by
  cases task with
  | mcpReadMcp enabled =>
      cases h
      exact hen
  | mcpReadSsh enabled prevMcp =>
      simp only [advance] at h
      split at h
      · cases h
      · split at h
        · next hon => exact hon
        · split at h <;> cases h <;> cases hen
  | _ =>
      simp only [advance] at h
      (repeat' split at h) <;> cases h <;> cases hen

theorem advance_switchedOff (h : advance s outcome task = some (s', .goto task'))
    (hoff : task'.switchedOff = true) :
    task.switchedOff = true ∨ (task = .mcpReadMcp false ∧ s.config.mcpEnabled = false) ∨
      task = .mcpWrite false ∨ ∃ p, task = .applyWriteMcp .mcpOff p := by
  cases task with
  | mcpReadMcp enabled =>
      cases h
      cases enabled <;> cases hmcp : s.config.mcpEnabled <;> simp_all [Task.switchedOff]
  | mcpWrite enabled =>
      cases enabled
      · exact .inr (.inr (.inl rfl))
      · simp [advance] at h
  | applyWriteMcp caller p =>
      cases h
      cases caller with
      | mcpOff => exact .inr (.inr (.inr ⟨p, rfl⟩))
      | _ => cases hoff
  | applyWriteSsh caller p =>
      cases caller with
      | mcpOff => exact .inl rfl
      | _ => simp [advance] at h
  | _ =>
      simp only [advance] at h
      (repeat' split at h) <;> cases h <;> cases hoff

theorem advance_caller (h : advance s outcome task = some (s', .goto task')) {c : ApplyCaller}
    (hc : task'.caller = some c) : task.caller = some c ∨ c.Sound := by
  cases task with
  | mcpReadSsh enabled prevMcp =>
      simp only [advance] at h
      (repeat' split at h) <;> cases h <;> cases hc
      exact .inr trivial
  | sshReadSsh enabled mcp =>
      simp only [advance] at h
      split at h
      · cases h
      · next hgate =>
          split at h <;> cases h
          cases hc
          refine .inr fun hon => ?_
          by_contra hmcp
          exact hgate ⟨hon, hmcp⟩
  | _ =>
      simp only [advance] at h
      (repeat' split at h) <;> cases h <;> first | exact .inl hc | cases hc

end Advance

/-! ## The watched system -/

/-- The system with a history variable: `off` holds from the moment a
`set_mcp_enabled(false)` returns Ok while no `set_mcp_enabled(true)` is in
progress, until a `set_mcp_enabled(true)` starts. -/
structure Watched where
  sys : State
  off : Bool

def returnsOff (s : State) (t : Nat) (outcome : Bool) : Bool :=
  match s.tasks.lookup t with
  | none => false
  | some task =>
      match task, advance s.shared outcome task with
      | .mcpReadSsh false _, some (_, .finish true) => true
      | .mcpDisconnect, some (_, .finish true) => true
      | _, _ => false

def noneEnabling (s : State) : Bool := s.tasks.entries.all fun x => !x.2.enabling

def offAfter (w : Watched) : Event → Bool
  | .call (.setMcpEnabled true) => false
  | .call _ => w.off
  | .run t outcome => w.off || (returnsOff w.sys t outcome && noneEnabling w.sys)

def watch (w : Watched) (ev : Event) : Option Watched :=
  (step w.sys ev).map fun sys => ⟨sys, offAfter w ev⟩

/-- The condition on the step that a task is about to take: `set_ssh_forwarding`
writes its old copy of the MCP flag back only over the same or a set flag, and
switches SSH on only while MCP is on; `set_mcp_enabled(false)`, when it saw SSH
off, clears the flag only while SSH is off; `set_mcp_enabled(true)` sets the flag
only while no `set_mcp_enabled(false)` is done but has not returned. -/
def TaskOrdered (s : State) : Task → Prop
  | .applyWriteMcp (.sshForwarding true _) _ => s.shared.config.mcpEnabled = true
  | .applyWriteSsh (.sshForwarding _ true) _ => s.shared.config.mcpEnabled = true
  | .mcpWrite false => s.shared.config.sshForwardingEnabled = false
  | .mcpWrite true => ∀ x ∈ s.tasks.entries, x.2.switchedOff = false
  | _ => True

instance (s : State) (task : Task) : Decidable (TaskOrdered s task) := by
  unfold TaskOrdered
  split <;> infer_instance

/-- The condition on a step.  The calls are those of the two switches (and of the
device preference); nobody else calls `apply_ssh_forwarding_state`. -/
def Ordered (w : Watched) : Event → Prop
  | .call (.applySshForwardingState _ _) => False
  | .call _ => True
  | .run t _ => ∀ task ∈ w.sys.tasks.lookup t, TaskOrdered w.sys task

instance (w : Watched) (ev : Event) : Decidable (Ordered w ev) := by
  unfold Ordered
  split <;> infer_instance

structure McpInv (w : Watched) : Prop where
  off : w.off = true → w.sys.shared.config.mcpEnabled = false
  quiet : w.off = true → ∀ {t task}, w.sys.tasks.lookup t = some task → task.enabling = false
  switched : ∀ {t task}, w.sys.tasks.lookup t = some task → task.switchedOff = true →
    w.sys.shared.config.mcpEnabled = false
  /-- SSH without MCP is about to be repaired -/
  cleared : w.sys.shared.config.sshForwardingEnabled = true →
    w.sys.shared.config.mcpEnabled = false →
      ∃ t c p, w.sys.tasks.lookup t = some (.applyWriteSsh c p) ∧ c.ssh = false
  callers : ∀ {t task c}, w.sys.tasks.lookup t = some task → task.caller = some c → c.Sound
  fresh : ∀ {t task}, w.sys.tasks.lookup t = some task → t < w.sys.nextTask

theorem noneEnabling_iff {s : State} (h : noneEnabling s = true) {t : Nat} {task : Task}
    (hlookup : s.tasks.lookup t = some task) : task.enabling = false := by
  unfold noneEnabling at h
  rw [List.all_eq_true] at h
  simpa using h _ (Table.lookup_eq_some_iff.mp hlookup)

theorem call_inv {w : Watched} (h : McpInv w) (c : Call) (hord : Ordered w (.call c)) :
    McpInv
      { sys := { w.sys with
          tasks := w.sys.tasks.insert w.sys.nextTask c.task
          nextTask := w.sys.nextTask + 1 }
        off := offAfter w (.call c) } := by
  have hoff : offAfter w (.call c) = true → w.off = true ∧ c.task.enabling = false := by
    intro hafter
    cases c with
    | setMcpEnabled enabled =>
        cases enabled
        · exact ⟨hafter, rfl⟩
        · cases hafter
    | _ => exact ⟨hafter, rfl⟩
  have hnew : c.task.switchedOff = false := by cases c <;> rfl
  have hcaller : c.task.caller = none := by
    cases c with
    | applySshForwardingState mcp ssh => exact hord.elim
    | _ => rfl
  refine ⟨fun hafter => h.off (hoff hafter).1, ?_, ?_, ?_, ?_, ?_⟩
  · intro hafter t task hlookup
    rcases Table.lookup_insert_iff.mp hlookup with ⟨-, rfl⟩ | ⟨-, hold⟩
    · exact (hoff hafter).2
    · exact h.quiet (hoff hafter).1 hold
  · intro t task hlookup hsw
    rcases Table.lookup_insert_iff.mp hlookup with ⟨-, rfl⟩ | ⟨-, hold⟩
    · rw [hnew] at hsw
      cases hsw
    · exact h.switched hold hsw
  · intro hssh hmcp
    obtain ⟨t, c', p, hold, hc'⟩ := h.cleared hssh hmcp
    refine ⟨t, c', p, ?_, hc'⟩
    have hlt := h.fresh hold
    exact (AList.lookup_insert_ne (Nat.ne_of_lt hlt)).trans hold
  · intro t task c' hlookup hc'
    rcases Table.lookup_insert_iff.mp hlookup with ⟨-, rfl⟩ | ⟨-, hold⟩
    · rw [hcaller] at hc'
      cases hc'
    · exact h.callers hold hc'
  · intro t task hlookup
    rcases Table.lookup_insert_iff.mp hlookup with ⟨rfl, -⟩ | ⟨-, hold⟩
    · exact Nat.lt_succ_self _
    · exact Nat.lt_succ_of_lt (h.fresh hold)

theorem returnsOff_switchedOff {s : State} {t : Nat} {outcome : Bool} {task : Task}
    (hlookup : s.tasks.lookup t = some task) (h : returnsOff s t outcome = true) :
    task.switchedOff = true := by
  unfold returnsOff at h
  rw [hlookup] at h
  dsimp only at h
  split at h
  · next prev after hadv =>
      simp only [advance] at hadv
      cases prev with
      | false => rfl
      | true =>
          simp only [Bool.false_eq_true, if_false] at hadv
          split at hadv <;> cases hadv
  · rfl
  · cases h

section Ordered

variable {s : State} {task : Task}

theorem mcpAfter_of_cleared (hsound : ∀ c, task.caller = some c → c.Sound)
    (hord : TaskOrdered s task) (hmcp : s.shared.config.mcpEnabled = false)
    (hne : task ≠ .mcpWrite true) : task.mcpAfter s.shared.config.mcpEnabled = false := by
  cases task with
  | mcpWrite enabled =>
      cases enabled
      · rfl
      · exact absurd rfl hne
  | applyWriteMcp caller p =>
      cases caller with
      | mcpOff => rfl
      | sshForwarding mcp ssh =>
          cases mcp
          · rfl
          · exact absurd (hmcp.symm.trans hord) (by decide)
      | direct mcp ssh => exact (hsound _ rfl).elim
  | _ => exact hmcp

/-- An ordered step that clears the MCP flag while SSH forwarding is on is the
flag write of an apply that switches SSH forwarding off next. -/
theorem apply_of_mcp_cleared (hsound : ∀ c, task.caller = some c → c.Sound)
    (hord : TaskOrdered s task) (hssh : s.shared.config.sshForwardingEnabled = true)
    (hmcp : s.shared.config.mcpEnabled = true)
    (hafter : task.mcpAfter s.shared.config.mcpEnabled = false) :
    ∃ c p, task = .applyWriteMcp c p ∧ c.ssh = false := by
  cases task with
  | mcpWrite enabled =>
      cases enabled
      · exact absurd (hssh.symm.trans hord) (by decide)
      · cases hafter
  | applyWriteMcp caller p =>
      refine ⟨caller, p, rfl, ?_⟩
      have hs := hsound caller rfl
      cases caller with
      | mcpOff => rfl
      | sshForwarding mcp ssh =>
          cases hssh' : ssh
          · rfl
          · exact absurd ((hs hssh').symm.trans hafter) (by decide)
      | direct mcp ssh => exact hs.elim
  | _ => exact absurd (hmcp.symm.trans hafter) (by decide)

theorem mcp_of_ssh_switched_on {c : ApplyCaller} {p : UsbDevices} (hsound : c.Sound)
    (hord : TaskOrdered s (.applyWriteSsh c p)) (hssh : c.ssh = true) :
    s.shared.config.mcpEnabled = true := by
  cases c with
  | mcpOff => cases hssh
  | sshForwarding mcp ssh =>
      cases ssh
      · cases hssh
      · exact hord
  | direct mcp ssh => exact hsound.elim

end Ordered

section Step

variable {w : Watched} {t : Nat} {outcome : Bool} {task : Task} {s' : Shared} {r : Rest}

/-- After a step at which the MCP switch counts as off, it was off before and no task
was about to switch it on. -/
theorem McpInv.before (h : McpInv w) (hlookup : w.sys.tasks.lookup t = some task)
    (hafter : offAfter w (.run t outcome) = true) :
    w.sys.shared.config.mcpEnabled = false ∧
      ∀ {t' task'}, w.sys.tasks.lookup t' = some task' → task'.enabling = false := by
  rcases Bool.or_eq_true_iff.mp hafter with hoff | hret
  · exact ⟨h.off hoff, fun hl => h.quiet hoff hl⟩
  · obtain ⟨hret, hnone⟩ := Bool.and_eq_true_iff.mp hret
    exact ⟨h.switched hlookup (returnsOff_switchedOff hlookup hret),
      fun hl => noneEnabling_iff hnone hl⟩

theorem McpInv.run_switched (h : McpInv w) (hlookup : w.sys.tasks.lookup t = some task)
    (hadv : advance w.sys.shared outcome task = some (s', r)) (hord : TaskOrdered w.sys task)
    {t' : Nat} {task' : Task} (hl : (r.record w.sys.tasks t).lookup t' = some task')
    (hsw : task'.switchedOff = true) :
    task.mcpAfter w.sys.shared.config.mcpEnabled = false := by
  have hsound : ∀ c, task.caller = some c → c.Sound := fun c => h.callers hlookup
  rcases lookup_record hl with ⟨-, rfl⟩ | ⟨-, hold⟩
  · rcases advance_switchedOff hadv hsw with hsw | ⟨rfl, hmcp⟩ | rfl | ⟨p, rfl⟩
    · refine mcpAfter_of_cleared hsound hord (h.switched hlookup hsw) ?_
      rintro rfl
      cases hsw
    · exact hmcp
    · rfl
    · rfl
  · refine mcpAfter_of_cleared hsound hord (h.switched hold hsw) ?_
    rintro rfl
    exact absurd (hord _ (Table.lookup_eq_some_iff.mp hold)) (by simp [hsw])

/-- SSH without MCP after a step: the task that repairs it is there. -/
theorem McpInv.run_cleared (h : McpInv w) (hlookup : w.sys.tasks.lookup t = some task)
    (hadv : advance w.sys.shared outcome task = some (s', r)) (hord : TaskOrdered w.sys task)
    (hssh : task.sshAfter w.sys.shared.config.sshForwardingEnabled = true)
    (hmcp : task.mcpAfter w.sys.shared.config.mcpEnabled = false) :
    ∃ t' c p, (r.record w.sys.tasks t).lookup t' = some (.applyWriteSsh c p) ∧
      c.ssh = false := by
  have hsound : ∀ c, task.caller = some c → c.Sound := fun c => h.callers hlookup
  by_cases happly : ∃ c p, task = .applyWriteSsh c p
  · obtain ⟨c, p, rfl⟩ := happly
    have hon := mcp_of_ssh_switched_on (hsound c rfl) hord hssh
    exact absurd (hon.symm.trans hmcp) (by decide)
  · have hsame : task.sshAfter w.sys.shared.config.sshForwardingEnabled =
        w.sys.shared.config.sshForwardingEnabled := by
      cases task with
      | applyWriteSsh c p => exact absurd ⟨c, p, rfl⟩ happly
      | _ => rfl
    rw [hsame] at hssh
    cases hold : w.sys.shared.config.mcpEnabled with
    | false =>
        -- another task still has to repair the flags
        obtain ⟨t₀, c, p, hl, hc⟩ := h.cleared hssh hold
        refine ⟨t₀, c, p, (lookup_record_ne ?_).trans hl, hc⟩
        rintro rfl
        exact happly ⟨c, p, Option.some.inj (hlookup.symm.trans hl)⟩
    | true =>
        obtain ⟨c, p, rfl, hc⟩ := apply_of_mcp_cleared hsound hord hssh hold hmcp
        cases hadv
        exact ⟨t, c, p, AList.lookup_insert _, hc⟩

theorem run_inv (h : McpInv w) (hlookup : w.sys.tasks.lookup t = some task)
    (hadv : advance w.sys.shared outcome task = some (s', r)) (hord : TaskOrdered w.sys task) :
    McpInv
      { sys := { w.sys with
          shared := s'
          tasks := r.record w.sys.tasks t }
        off := offAfter w (.run t outcome) } := by
  obtain ⟨hmcp', hssh'⟩ := advance_flags hadv
  have hsound : ∀ c, task.caller = some c → c.Sound := fun c => h.callers hlookup
  refine ⟨?_, ?_, ?_, ?_, ?_, ?_⟩
  · intro hafter
    obtain ⟨hmcp, hquiet⟩ := h.before hlookup hafter
    refine hmcp'.trans (mcpAfter_of_cleared hsound hord hmcp ?_)
    rintro rfl
    exact absurd (hquiet hlookup) (by decide)
  · intro hafter t' task' hl
    obtain ⟨-, hquiet⟩ := h.before hlookup hafter
    rcases lookup_record hl with ⟨-, rfl⟩ | ⟨-, hold⟩
    · by_contra hen
      exact absurd (hquiet hlookup)
        (by simp [advance_enabling hadv (by simpa using hen)])
    · exact hquiet hold
  · intro t' task' hl hsw
    exact hmcp'.trans (h.run_switched hlookup hadv hord hl hsw)
  · intro hssh hmcp
    exact h.run_cleared hlookup hadv hord (hssh'.symm.trans hssh) (hmcp'.symm.trans hmcp)
  · intro t' task' c hl hc
    rcases lookup_record hl with ⟨-, rfl⟩ | ⟨-, hold⟩
    · exact (advance_caller hadv hc).elim (hsound c) id
    · exact h.callers hold hc
  · intro t' task' hl
    rcases lookup_record hl with ⟨rfl, -⟩ | ⟨-, hold⟩
    · exact h.fresh hlookup
    · exact h.fresh hold

end Step

theorem watch_inv {w w' : Watched} {ev : Event} (h : McpInv w) (hord : Ordered w ev)
    (hstep : watch w ev = some w') : McpInv w' := by
  cases ev with
  | call c =>
      cases hstep
      exact call_inv h c hord
  | run t outcome =>
      obtain ⟨sys, hsys, rfl⟩ := Option.map_eq_some_iff.mp hstep
      simp only [step] at hsys
      split at hsys
      · cases hsys
      · next task hlookup =>
          obtain ⟨⟨s', r⟩, hadv, rfl⟩ := Option.map_eq_some_iff.mp hsys
          exact run_inv h hlookup hadv (hord task hlookup)

/-! ## Whole runs -/

/-- No call has started yet and SSH forwarding is on only if MCP is. -/
def Initial (s : State) : Prop :=
  s.tasks = ∅ ∧ (s.shared.config.sshForwardingEnabled = true → s.shared.config.mcpEnabled = true)

/-- In every run of ordered steps, for any number of calls and any answers of
the sidecar, MCP stays off after a `set_mcp_enabled(false)` has returned, and SSH
forwarding implies MCP whenever no call is in progress. -/
theorem mcp_switch_durable {s₀ : State} (hinit : Initial s₀) {w : Watched}
    (hrun : Run.Reach watch Ordered ⟨s₀, false⟩ w) :
    (w.off = true → w.sys.shared.config.mcpEnabled = false) ∧
      (Quiescent w.sys → w.sys.shared.config.sshForwardingEnabled = true →
        w.sys.shared.config.mcpEnabled = true) := by
  have hnone : ∀ {t task}, s₀.tasks.lookup t ≠ some task := lookup_ne_some_of_empty hinit.1
  have hinv₀ : McpInv ⟨s₀, false⟩ := by
    constructor
    case cleared =>
      intro hssh hmcp
      exact absurd ((hinit.2 hssh).symm.trans hmcp) (by decide)
    case off => exact fun hoff => absurd hoff Bool.false_ne_true
    case quiet => exact fun hoff => absurd hoff Bool.false_ne_true
    all_goals exact fun hlookup => absurd hlookup hnone
  have hinv := hrun.invariant hinv₀ fun w ev w' => watch_inv
  refine ⟨hinv.off, fun hquiet hssh => ?_⟩
  by_contra hmcp
  obtain ⟨t, c, p, hlookup, -⟩ := hinv.cleared hssh (by simpa using hmcp)
  exact absurd ((hquiet t).symm.trans hlookup) (by simp)

/-- A device with MCP on and SSH forwarding as given, on which no call runs. -/
def switchesAt (ssh : Bool) : State where
  shared :=
    { config := { Config.default "dev" with
        mcpEnabled := true
        sshForwardingEnabled := ssh }
      applied := none
      locked := false }
  tasks := ∅
  nextTask := 0

def runs (t n : Nat) : List Event := List.replicate n (.run t true)

theorem initial_switchesAt (ssh : Bool) : Initial (switchesAt ssh) := ⟨rfl, fun _ => rfl⟩

/-- SSH forwarding goes on, at the second attempt of the sidecar, and then MCP
off, which takes SSH forwarding down with it. -/
def orderedRun : List Event :=
  .call (.setSshForwarding true) :: runs 0 6 ++ .run 0 false :: runs 0 5 ++
    .call (.setMcpEnabled false) :: runs 1 11

theorem mcp_switch_durable_orderedRun :
    ∃ w, Run.Reach watch Ordered ⟨switchesAt false, false⟩ w ∧ w.off = true ∧
      w.sys.shared.config.mcpEnabled = false ∧
      ¬ w.sys.shared.config.sshForwardingEnabled = true := by
  have hexec : (Run.exec watch (fun w ev => decide (Ordered w ev)) ⟨switchesAt false, false⟩
      orderedRun).map (fun w => (w.off, w.sys.tasks.keys)) = some (true, []) := by
    decide +kernel
  obtain ⟨w, hrun, hend⟩ := Run.exists_reach_of_exec (fun _ _ => of_decide_eq_true) hexec
  obtain ⟨hoff, hkeys⟩ := Prod.mk.inj hend
  obtain ⟨hmcp, hssh⟩ := mcp_switch_durable (initial_switchesAt false) hrun
  refine ⟨w, hrun, hoff, hmcp hoff, fun hon => ?_⟩
  exact absurd ((hssh (quiescent_of_keys hkeys) hon).symm.trans (hmcp hoff)) (by decide)

/-- `set_ssh_forwarding(true)` reads the MCP flag; `set_mcp_enabled(false)` runs
and returns; then the first call finishes its apply. -/
def lateWriteRun : List Event :=
  .call (.setSshForwarding true) :: runs 0 2 ++ .call (.setMcpEnabled false) :: runs 1 4 ++ runs 0 8

/-- MCP is on again after a `set_mcp_enabled(false)` has returned Ok, although
nobody asked for it. -/
theorem late_write_restores_mcp :
    ∃ w, Run.Reach watch Run.anyStep ⟨switchesAt false, false⟩ w ∧ Initial (switchesAt false) ∧
      Quiescent w.sys ∧ w.off = true ∧ w.sys.shared.config.mcpEnabled = true := by
  have hexec : (Run.exec watch (fun _ _ => true) ⟨switchesAt false, false⟩ lateWriteRun).map
      (fun w => (w.sys.tasks.keys, w.off, w.sys.shared.config.mcpEnabled)) =
        some ([], true, true) := by
    decide +kernel
  obtain ⟨w, hrun, hend⟩ := Run.exists_reach_of_exec (fun _ _ _ => trivial) hexec
  obtain ⟨hkeys, hflags⟩ := Prod.mk.inj hend
  obtain ⟨hoff, hmcp⟩ := Prod.mk.inj hflags
  exact ⟨w, hrun, initial_switchesAt false, quiescent_of_keys hkeys, hoff, hmcp⟩

end ArkKvm.Usb
