import ArkKvm.Usb.McpSwitch

/-!
# Agreement of the sidecar with the persisted preference

Between two calls the sidecar should run `devices_for_apply` of what is
persisted, and a device that a call has switched should stay as that call left
it.  The reconcile lock serialises the applies, but some calls read the
preference before they take it, and `apply_ssh_forwarding_state` writes after it
has released it.  `Fresh` says for one step that what the call read is still
what is persisted and that no such late write is pending.
-/

namespace ArkKvm.Usb

open Lib

/-! ## The reconcile lock -/

def Task.holdsLock : Task → Bool
  | .applyRun _ _ _ => true
  | .overlayRun _ _ => true
  | .overlayWriteDevices _ _ => true
  | .rebootReadConfig _ _ => true
  | .rebootReadDevices _ _ => true
  | .rebootReadSsh _ _ => true
  | .rebootReadPrev _ _ _ => true
  | .rebootCompare _ _ _ _ => true
  | .rebootRunL3 _ _ => true
  | .rebootRunFull _ _ _ => true
  | .rebootPersist _ _ _ => true
  | .rebootWriteConfig _ _ _ => true
  | .rebootWriteDevices _ _ => true
  | _ => false

def Rest.holdsLock : Rest → Bool
  | .goto task => task.holdsLock
  | .finish _ => false

/-- The lock is taken by every task inside the guard, and there is at most one. -/
structure LockInv (s : State) : Prop where
  held : ∀ {t task}, s.tasks.lookup t = some task → task.holdsLock = true → s.shared.locked = true
  one : ∀ {t t' task task'}, s.tasks.lookup t = some task → s.tasks.lookup t' = some task' →
    task.holdsLock = true → task'.holdsLock = true → t = t'

/-- A task inside the guard leaves the lock taken exactly when it stays inside. -/
theorem advance_locked {s s' : Shared} {outcome : Bool} {task : Task} {r : Rest}
    (h : advance s outcome task = some (s', r)) (hin : task.holdsLock = true)
    (hlocked : s.locked = true) : s'.locked = r.holdsLock := by
  cases task <;> cases hin
  all_goals
    simp only [advance] at h
    (repeat' split at h) <;> cases h <;> first | rfl | exact hlocked

/-- A task outside the guard gets inside only when the lock is free, and does not
touch the lock otherwise. -/
theorem advance_unlocked {s s' : Shared} {outcome : Bool} {task : Task} {r : Rest}
    (h : advance s outcome task = some (s', r)) (hout : task.holdsLock = false) :
    (r.holdsLock = false ∧ s'.locked = s.locked) ∨
      (r.holdsLock = true ∧ s.locked = false ∧ s'.locked = true) := by
  cases task <;> cases hout
  all_goals
    simp only [advance] at h
    (repeat' split at h) <;> cases h <;>
      first | exact .inl ⟨rfl, rfl⟩ | exact .inr ⟨rfl, by simp_all, rfl⟩

theorem LockInv.run {s : State} (h : LockInv s) {t : Nat} {outcome : Bool} {task : Task}
    {s' : Shared} {r : Rest} (hlookup : s.tasks.lookup t = some task)
    (hadv : advance s.shared outcome task = some (s', r)) :
    LockInv { s with
      shared := s'
      tasks := r.record s.tasks t } := by
  -- what the other tasks inside the guard can be once task `t` has moved
  have hothers : ∀ {t' task'}, t' ≠ t → s.tasks.lookup t' = some task' →
      task'.holdsLock = true → s'.locked = true ∧ r.holdsLock = false := by
    intro t' task' hne hold hin
    have hlocked := h.held hold hin
    cases hout : task.holdsLock with
    | true => exact absurd (h.one hold hlookup hin hout) hne
    | false =>
        rcases advance_unlocked hadv hout with ⟨hr, hsame⟩ | ⟨-, hfree, -⟩
        · exact ⟨hsame.trans hlocked, hr⟩
        · exact absurd (hlocked.symm.trans hfree) (by decide)
  constructor
  · intro t' task' hl hin
    rcases lookup_record hl with ⟨-, rfl⟩ | ⟨hne, hold⟩
    · cases hout : task.holdsLock with
      | true => exact (advance_locked hadv hout (h.held hlookup hout)).trans hin
      | false =>
          rcases advance_unlocked hadv hout with ⟨hr, -⟩ | ⟨-, -, hlocked⟩
          · exact absurd (hin.symm.trans hr) (by decide)
          · exact hlocked
    · exact (hothers hne hold hin).1
  · intro t₁ t₂ task₁ task₂ hl₁ hl₂ hin₁ hin₂
    rcases lookup_record hl₁ with ⟨rfl, rfl⟩ | ⟨hne₁, hold₁⟩ <;>
      rcases lookup_record hl₂ with ⟨rfl, hr⟩ | ⟨hne₂, hold₂⟩
    · rfl
    · exact absurd (hin₁.symm.trans (hothers hne₂ hold₂ hin₂).2) (by decide)
    · rw [hr] at hothers
      exact absurd (hin₂.symm.trans (hothers hne₁ hold₁ hin₁).2) (by decide)
    · exact h.one hold₁ hold₂ hin₁ hin₂

/-! ## Preferences -/

def SamePreference (a b : UsbDevices) : Prop :=
  devicesForPersist a false = devicesForPersist b false

instance (a b : UsbDevices) : Decidable (SamePreference a b) :=
  inferInstanceAs (Decidable (_ = _))

theorem SamePreference.persist (a : UsbDevices) (ssh : Bool) :
    SamePreference a (devicesForPersist a ssh) := rfl

theorem SamePreference.trans {a b c : UsbDevices} (h : SamePreference a b)
    (h' : SamePreference b c) : SamePreference a c := Eq.trans h h'

theorem SamePreference.symm {a b : UsbDevices} (h : SamePreference a b) : SamePreference b a :=
  Eq.symm h

theorem SamePreference.apply_eq {a b : UsbDevices} (h : SamePreference a b) (ssh : Bool) :
    devicesForApply a ssh = devicesForApply b ssh := by
  have hd : devicesForApply (devicesForPersist a false) ssh =
      devicesForApply (devicesForPersist b false) ssh := congrArg (devicesForApply · ssh) h
  exact hd

theorem SamePreference.deviceEnabled_eq {a b : UsbDevices} (h : SamePreference a b)
    (d : UsbDeviceType) : deviceEnabled a d = deviceEnabled b d := by
  have hd := congrArg (deviceEnabled · d) h
  cases d <;> exact hd

theorem deviceEnabled_setDevice (a : UsbDevices) (d d' : UsbDeviceType) (b : Bool) :
    deviceEnabled (setDevice a d b) d' = if d' = d then b else deviceEnabled a d' := by
  cases d <;> cases d' <;> rfl

theorem eq_of_switches_l3 {a b : UsbDevices} (hswitches : gadgetSwitchesEqual a b = true)
    (hl3 : networkAdapterL3Equal a.networkAdapter b.networkAdapter = true) : a = b := by
  obtain ⟨_, _, _, _, _, _, _, ⟨_, _, _⟩⟩ := a
  obtain ⟨_, _, _, _, _, _, _, ⟨_, _, _⟩⟩ := b
  simp only [gadgetSwitchesEqual, Bool.and_eq_true, beq_iff_eq] at hswitches
  simp only [networkAdapterL3Equal, beq_iff_eq] at hl3
  simp only [UsbDevices.mk.injEq, NetworkAdapter.mk.injEq]
  tauto

theorem apply_eq_of_persistOnly {stored usbConfig : UsbConfig} {source : Source} {ssh : Bool}
    {prev : UsbDevices} (h : rebootPath stored usbConfig source ssh prev = .persistOnly) :
    devicesForApply prev ssh = devicesForApply source.preference ssh := by
  unfold rebootPath at h
  dsimp only at h
  split at h
  · next hsame =>
      split at h
      · next hl3 =>
          exact eq_of_switches_l3 hsame.1 hl3
      · cases h
  · cases h

/-! ## What one step writes -/

def Task.devicesAfter (stored : UsbDevices) : Task → UsbDevices
  | .applyWriteDevices caller preference => devicesForPersist preference caller.ssh
  | .overlayWriteDevices ssh preference => devicesForPersist preference ssh
  | .rebootPersist source ssh _ => devicesForPersist source.preference ssh
  | .rebootWriteDevices source ssh => devicesForPersist source.preference ssh
  | _ => stored

def Task.appliedAfter (applied : Option UsbDevices) (outcome : Bool) : Task → Option UsbDevices
  | .applyRun caller preference _ =>
      if outcome then some (devicesForApply preference caller.ssh) else applied
  | .overlayRun ssh preference => if outcome then some (devicesForApply preference ssh) else applied
  | .rebootRunL3 source ssh =>
      if outcome then some (devicesForApply source.preference ssh) else applied
  | .rebootRunFull _ source ssh =>
      if outcome then some (devicesForApply source.preference ssh) else applied
  | _ => applied

theorem advance_devices {s s' : Shared} {outcome : Bool} {task : Task} {r : Rest}
    (h : advance s outcome task = some (s', r)) :
    s'.config.usbDevices = task.devicesAfter s.config.usbDevices ∧
      s'.applied = task.appliedAfter s.applied outcome := by
  cases task <;> simp only [advance] at h <;> (repeat' split at h) <;> cases h <;>
    first
      | exact ⟨rfl, rfl⟩
      | simp_all [Task.devicesAfter, Task.appliedAfter, Shared.unlock, Shared.apply]

/-- `apply_ssh_forwarding_state` between its successful apply and its last write. -/
def Task.pendingSwitch : Task → Bool
  | .applyWriteDevices _ _ => true
  | .applyWriteMcp _ _ => true
  | .applyWriteSsh _ _ => true
  | _ => false

def Task.pendingWrite : Task → Bool
  | .overlayWriteDevices _ _ => true
  | .rebootWriteConfig _ _ _ => true
  | .rebootWriteDevices _ _ => true
  | task => task.pendingSwitch

def Source.Current (stored : UsbDevices) : Source → Prop
  | .given _ => True
  | .stored base => SamePreference base stored
  | .toggled _ _ base => SamePreference base stored

instance (stored : UsbDevices) (source : Source) : Decidable (source.Current stored) := by
  unfold Source.Current
  split <;> infer_instance

def NoPendingSwitch (s : State) : Prop := ∀ x ∈ s.tasks.entries, x.2.pendingSwitch = false

instance (s : State) : Decidable (NoPendingSwitch s) :=
  inferInstanceAs (Decidable (∀ x ∈ s.tasks.entries, x.2.pendingSwitch = false))

/-- The condition on the step that a task is about to take.  When the sidecar
accepts the devices of a call, and when a call stores a preference without an
apply, what the call read of the preference and of the SSH switch is still
stored, and no `apply_ssh_forwarding_state` is between its successful apply and
its last write.  A call that finds nothing to do has compared with the stored
preference. -/
def TaskFresh (s : State) (outcome : Bool) : Task → Prop
  | .applyRun _ preference _ =>
      outcome = true →
        SamePreference preference s.shared.config.usbDevices ∧ NoPendingSwitch s
  | .overlayRun ssh preference =>
      outcome = true →
        SamePreference preference s.shared.config.usbDevices ∧
          s.shared.config.sshForwardingEnabled = ssh ∧ NoPendingSwitch s
  | .rebootRunL3 source ssh =>
      outcome = true →
        source.Current s.shared.config.usbDevices ∧
          s.shared.config.sshForwardingEnabled = ssh ∧ NoPendingSwitch s
  | .rebootRunFull _ source ssh =>
      outcome = true →
        source.Current s.shared.config.usbDevices ∧
          s.shared.config.sshForwardingEnabled = ssh ∧ NoPendingSwitch s
  | .rebootPersist source ssh prev =>
      SamePreference prev s.shared.config.usbDevices ∧
        source.Current s.shared.config.usbDevices ∧
          s.shared.config.sshForwardingEnabled = ssh ∧ NoPendingSwitch s
  | .rebootCompare _ source ssh prev =>
      prev = devicesForPersist source.preference ssh →
        SamePreference prev s.shared.config.usbDevices
  | _ => True

instance (s : State) (outcome : Bool) (task : Task) : Decidable (TaskFresh s outcome task) := by
  unfold TaskFresh
  split <;> infer_instance

def TaskOk (s : Shared) : Task → Prop
  | .applyWriteDevices caller preference =>
      s.applied = some (devicesForApply preference caller.ssh) ∧
        SamePreference preference s.config.usbDevices
  | .applyWriteMcp caller preference =>
      s.applied = some (devicesForApply preference caller.ssh) ∧
        SamePreference preference s.config.usbDevices
  | .applyWriteSsh caller preference =>
      s.applied = some (devicesForApply preference caller.ssh) ∧
        SamePreference preference s.config.usbDevices
  | .overlayWriteDevices ssh preference =>
      s.applied = some (devicesForApply preference ssh) ∧ s.config.sshForwardingEnabled = ssh ∧
        SamePreference preference s.config.usbDevices
  | .rebootWriteConfig _ source ssh =>
      s.applied = some (devicesForApply source.preference ssh) ∧
        s.config.sshForwardingEnabled = ssh ∧ source.Current s.config.usbDevices
  | .rebootWriteDevices source ssh =>
      s.applied = some (devicesForApply source.preference ssh) ∧
        s.config.sshForwardingEnabled = ssh ∧ source.Current s.config.usbDevices
  | .rebootPersist source ssh prev =>
      devicesForApply prev ssh = devicesForApply source.preference ssh
  | _ => True

def Settled (s : Shared) : Prop :=
  ∀ devices, s.applied = some devices →
    devices = devicesForApply s.config.usbDevices s.config.sshForwardingEnabled

section Advance

variable {s : State} {s' : Shared} {outcome : Bool} {task task' : Task} {r : Rest}

theorem advance_taskOk (h : advance s.shared outcome task = some (s', .goto task'))
    (hok : TaskOk s.shared task) (hfresh : TaskFresh s outcome task) : TaskOk s' task' := by
  cases task with
  | applyRun caller preference attempt =>
      simp only [advance] at h
      (repeat' split at h) <;> cases h
      · next hout => exact ⟨rfl, (hfresh hout).1⟩
      · trivial
  | applyWriteDevices caller preference =>
      cases h
      exact ⟨hok.1, .persist _ _⟩
  | applyWriteMcp caller preference =>
      cases h
      exact hok
  | overlayRun ssh preference =>
      simp only [advance] at h
      (repeat' split at h) <;> cases h
      next hout _ =>
        obtain ⟨hsame, hssh, -⟩ := hfresh (by simpa using hout)
        exact ⟨rfl, hssh, hsame⟩
  | rebootRunL3 source ssh =>
      simp only [advance] at h
      split at h <;> cases h
      next hout =>
        obtain ⟨hcur, hssh, -⟩ := hfresh hout
        exact ⟨rfl, hssh, hcur⟩
  | rebootRunFull usbConfig source ssh =>
      simp only [advance] at h
      split at h <;> cases h
      next hout =>
        obtain ⟨hcur, hssh, -⟩ := hfresh hout
        exact ⟨rfl, hssh, hcur⟩
  | rebootWriteConfig usbConfig source ssh =>
      cases h
      exact hok
  | rebootCompare usbConfig source ssh prev =>
      simp only [advance] at h
      split at h
      · cases h
      · split at h
        · cases h
          trivial
        · cases h
          trivial
        · next hpath =>
            split at h <;> cases h
            exact apply_eq_of_persistOnly hpath
  | _ =>
      simp only [advance] at h
      (repeat' split at h) <;> cases h <;> trivial

/-- After a step that leaves no write of its own pending, the sidecar and the
configuration agree. -/
theorem advance_settled (h : advance s.shared outcome task = some (s', r))
    (hset : task.pendingWrite = false → Settled s.shared) (hok : TaskOk s.shared task)
    (hfresh : TaskFresh s outcome task)
    (hdone : ∀ task', r = .goto task' → task'.pendingWrite = false) : Settled s' := by
  cases task with
  | applyWriteSsh caller preference =>
      cases h
      intro devices happ
      obtain rfl := Option.some.inj (hok.1.symm.trans happ)
      exact hok.2.apply_eq caller.ssh
  | overlayRun ssh preference =>
      simp only [advance] at h
      (repeat' split at h) <;> cases h
      · exact hset rfl
      · exact absurd (hdone _ rfl) (by simp [Task.pendingWrite])
      · next hout _ =>
          obtain ⟨hsame, hssh, -⟩ := hfresh (by simpa using hout)
          rintro devices ⟨⟩
          exact (hsame.apply_eq ssh).trans (congrArg (devicesForApply _) hssh.symm)
  | overlayWriteDevices ssh preference =>
      cases h
      intro devices happ
      obtain rfl := Option.some.inj (hok.1.symm.trans happ)
      exact congrArg (devicesForApply _) hok.2.1.symm
  | rebootWriteDevices source ssh =>
      cases h
      intro devices happ
      obtain rfl := Option.some.inj (hok.1.symm.trans happ)
      exact congrArg (devicesForApply _) hok.2.1.symm
  | rebootPersist source ssh prev =>
      cases h
      obtain ⟨hprev, -, hssh, -⟩ := hfresh
      intro devices happ
      calc devices = devicesForApply s.shared.config.usbDevices ssh := by
            rw [← hssh]
            exact hset rfl devices happ
        _ = devicesForApply prev ssh := (hprev.apply_eq ssh).symm
        _ = devicesForApply source.preference ssh := hok
        _ = devicesForApply _ s.shared.config.sshForwardingEnabled := by
            rw [hssh]
            rfl
  | _ =>
      simp only [advance] at h
      (repeat' split at h) <;> cases h <;>
        first
        | exact hset rfl
        | exact absurd (hdone _ rfl) (by simp [Task.pendingWrite, Task.pendingSwitch])

/-- The step writes the preference, the SSH switch or the devices of the sidecar,
or may do so. -/
def Task.writes (outcome : Bool) : Task → Bool
  | .applyRun _ _ _ => outcome
  | .overlayRun _ _ => outcome
  | .rebootRunL3 _ _ => outcome
  | .rebootRunFull _ _ _ => outcome
  | .rebootPersist _ _ _ => true
  | task => task.pendingWrite

theorem advance_unwritten (h : advance s.shared outcome task = some (s', r))
    (hw : task.writes outcome = false) :
    s'.config.usbDevices = s.shared.config.usbDevices ∧
      s'.config.sshForwardingEnabled = s.shared.config.sshForwardingEnabled ∧
        s'.applied = s.shared.applied := by
  obtain ⟨hdevices, happlied⟩ := advance_devices h
  have hssh := (advance_flags h).2
  rw [hdevices, hssh, happlied]
  cases task <;>
    first
    | exact ⟨rfl, rfl, rfl⟩
    | cases hw; exact ⟨rfl, rfl, rfl⟩
    | cases hw

theorem advance_pendingWrite (h : advance s.shared outcome task = some (s', .goto task'))
    (hp : task'.pendingWrite = true) : task.writes outcome = true := by
  cases task <;> simp only [advance] at h <;> (repeat' split at h) <;> cases h <;>
    first | rfl | (cases hp; done) | simp_all [Task.writes]

/-- A step that begins to write is taken inside the guard, with no late write of
`apply_ssh_forwarding_state` pending. -/
theorem guarded_of_writes (hw : task.writes outcome = true) (hp : task.pendingWrite = false)
    (hfresh : TaskFresh s outcome task) : task.holdsLock = true ∧ NoPendingSwitch s := by
  cases task with
  | applyRun caller preference attempt => exact ⟨rfl, (hfresh hw).2⟩
  | overlayRun ssh preference => exact ⟨rfl, (hfresh hw).2.2⟩
  | rebootRunL3 source ssh => exact ⟨rfl, (hfresh hw).2.2⟩
  | rebootRunFull usbConfig source ssh => exact ⟨rfl, (hfresh hw).2.2⟩
  | rebootPersist source ssh prev => exact ⟨rfl, hfresh.2.2.2⟩
  | _ => exact absurd (hw.symm.trans hp) (by decide)

theorem holdsLock_of_pendingWrite (hp : task.pendingWrite = true)
    (hs : task.pendingSwitch = false) : task.holdsLock = true := by
  cases task <;> first | rfl | (cases hs; done) | cases hp

theorem TaskOk.congr {s s' : Shared} (h : TaskOk s task)
    (hdevices : s'.config.usbDevices = s.config.usbDevices)
    (hssh : s'.config.sshForwardingEnabled = s.config.sshForwardingEnabled)
    (happlied : s'.applied = s.applied) : TaskOk s' task := by
  cases task <;> simp only [TaskOk, hdevices, hssh, happlied] at h ⊢ <;> exact h

theorem TaskOk.of_not_pending {s : Shared} (s' : Shared) (h : TaskOk s task)
    (hp : task.pendingWrite = false) : TaskOk s' task := by
  cases task <;> trivial

end Advance

/-! ## Switched devices -/

abbrev Wanted := UsbDeviceType → Option Bool

def Wanted.MetBy (want : Wanted) (stored : UsbDevices) : Prop :=
  ∀ d v, want d = some v → deviceEnabled stored d = v

def Source.record (want : Wanted) : Source → Wanted
  | .given devices => fun d => some (deviceEnabled devices d)
  | .stored _ => want
  | .toggled device enable _ => fun d => if d = device then some enable else want d

/-- The call that the task belongs to, where it can return Ok. -/
def Task.source : Task → Option Source
  | .rebootCompare _ source _ _ => some source
  | .rebootPersist source _ _ => some source
  | .rebootWriteDevices source _ => some source
  | _ => none

def Rest.want (want : Wanted) (task : Task) (r : Rest) : Wanted :=
  match r, task.source with
  | .finish true, some source => source.record want
  | _, _ => want

theorem Source.record_metBy {source : Source} {want : Wanted} {stored : UsbDevices}
    (hcur : source.Current stored) (h : want.MetBy stored) :
    (source.record want).MetBy source.preference := by
  intro d v hd
  cases source with
  | given devices => exact Option.some.inj hd
  | stored base => exact (hcur.deviceEnabled_eq d).trans (h d v hd)
  | toggled device enable base =>
      simp only [Source.record] at hd
      rw [Source.preference, deviceEnabled_setDevice]
      split at hd
      · next heq => exact (if_pos heq).trans (Option.some.inj hd)
      · next hne => exact (if_neg hne).trans <| (hcur.deviceEnabled_eq d).trans (h d v hd)

theorem Source.record_metBy_same {source : Source} {want : Wanted} {stored : UsbDevices}
    (hsame : SamePreference source.preference stored) (h : want.MetBy stored) :
    (source.record want).MetBy stored := by
  intro d v hd
  cases source with
  | given devices => exact (hsame.deviceEnabled_eq d).symm.trans (Option.some.inj hd)
  | stored base => exact h d v hd
  | toggled device enable base =>
      simp only [Source.record] at hd
      split at hd
      · next heq =>
          rw [← hsame.deviceEnabled_eq d, Source.preference, deviceEnabled_setDevice, if_pos heq]
          exact Option.some.inj hd
      · exact h d v hd

theorem Wanted.MetBy.of_same {want : Wanted} {a b : UsbDevices} (h : want.MetBy a)
    (hsame : SamePreference a b) : want.MetBy b :=
  fun d v hd => (hsame.deviceEnabled_eq d).symm.trans (h d v hd)

theorem advance_metBy {s : State} {s' : Shared} {outcome : Bool} {task : Task} {r : Rest}
    {want : Wanted} (h : advance s.shared outcome task = some (s', r))
    (hok : TaskOk s.shared task) (hfresh : TaskFresh s outcome task)
    (hwant : want.MetBy s.shared.config.usbDevices) :
    (r.want want task).MetBy s'.config.usbDevices := by
  cases task with
  | applyWriteDevices caller preference =>
      cases h
      exact hwant.of_same (hok.2.symm.trans (.persist _ _))
  | overlayWriteDevices ssh preference =>
      cases h
      exact hwant.of_same (hok.2.2.symm.trans (.persist _ _))
  | rebootWriteDevices source ssh =>
      cases h
      exact (Source.record_metBy hok.2.2 hwant).of_same (.persist _ _)
  | rebootPersist source ssh prev =>
      cases h
      exact (Source.record_metBy hfresh.2.1 hwant).of_same (.persist _ _)
  | rebootCompare usbConfig source ssh prev =>
      simp only [advance] at h
      (repeat' split at h) <;> cases h
      · exact hwant
      · exact hwant
      · exact hwant
      · exact hwant
      · next hprev =>
          have hprev : prev = devicesForPersist source.preference ssh := by simpa using hprev
          have hsame := (hprev ▸ SamePreference.persist source.preference ssh).trans (hfresh hprev)
          exact Source.record_metBy_same hsame hwant
  | _ =>
      rw [(advance_devices h).1]
      rcases r with _ | (_ | _) <;> exact hwant

/-! ## The tracked system -/

/-- The system with a history variable for the devices that calls have switched. -/
structure Tracked where
  sys : State
  want : Wanted

def wantAfter (w : Tracked) : Event → Wanted
  | .call _ => w.want
  | .run t outcome =>
      match w.sys.tasks.lookup t with
      | none => w.want
      | some task =>
          match advance w.sys.shared outcome task with
          | none => w.want
          | some (_, r) => r.want w.want task

def track (w : Tracked) (ev : Event) : Option Tracked :=
  (step w.sys ev).map fun sys => ⟨sys, wantAfter w ev⟩

def Fresh (w : Tracked) : Event → Prop
  | .call _ => True
  | .run t outcome => ∀ task ∈ w.sys.tasks.lookup t, TaskFresh w.sys outcome task

instance (w : Tracked) : (ev : Event) → Decidable (Fresh w ev)
  | .call _ => .isTrue trivial
  | .run t outcome =>
      inferInstanceAs (Decidable (∀ task ∈ w.sys.tasks.lookup t, TaskFresh w.sys outcome task))

structure AgreeInv (w : Tracked) : Prop where
  lock : LockInv w.sys
  one : ∀ {t t' task task'}, w.sys.tasks.lookup t = some task → w.sys.tasks.lookup t' = some task' →
    task.pendingWrite = true → task'.pendingWrite = true → t = t'
  ok : ∀ {t task}, w.sys.tasks.lookup t = some task → TaskOk w.sys.shared task
  settled : (∀ {t task}, w.sys.tasks.lookup t = some task → task.pendingWrite = false) →
    Settled w.sys.shared
  want : w.want.MetBy w.sys.shared.config.usbDevices
  fresh : ∀ {t task}, w.sys.tasks.lookup t = some task → t < w.sys.nextTask

theorem AgreeInv.call {w : Tracked} (h : AgreeInv w) (c : Call) :
    AgreeInv
      { sys := { w.sys with
          tasks := w.sys.tasks.insert w.sys.nextTask c.task
          nextTask := w.sys.nextTask + 1 }
        want := w.want } := by
  have hlock : c.task.holdsLock = false := by cases c <;> rfl
  have hpend : c.task.pendingWrite = false := by cases c <;> rfl
  have hold : ∀ {t task}, (w.sys.tasks.insert w.sys.nextTask c.task).lookup t = some task →
      task.holdsLock = true ∨ task.pendingWrite = true → w.sys.tasks.lookup t = some task := by
    intro t task hl hin
    rcases Table.lookup_insert_iff.mp hl with ⟨-, rfl⟩ | ⟨-, hl⟩
    · simp [hlock, hpend] at hin
    · exact hl
  refine ⟨⟨?_, ?_⟩, ?_, ?_, ?_, h.want, ?_⟩
  · intro t task hl hin
    exact h.lock.held (hold hl (.inl hin)) hin
  · intro t t' task task' hl hl' hin hin'
    exact h.lock.one (hold hl (.inl hin)) (hold hl' (.inl hin')) hin hin'
  · intro t t' task task' hl hl' hp hp'
    exact h.one (hold hl (.inr hp)) (hold hl' (.inr hp')) hp hp'
  · intro t task hl
    rcases Table.lookup_insert_iff.mp hl with ⟨-, rfl⟩ | ⟨-, hl⟩
    · cases c <;> trivial
    · exact h.ok hl
  · intro hall
    refine h.settled fun {t task} hl => hall (t := t) ?_
    have hne : t ≠ w.sys.nextTask := Nat.ne_of_lt (h.fresh hl)
    exact (AList.lookup_insert_ne hne).trans hl
  · intro t task hl
    rcases Table.lookup_insert_iff.mp hl with ⟨rfl, -⟩ | ⟨-, hl⟩
    · exact Nat.lt_succ_self _
    · exact Nat.lt_succ_of_lt (h.fresh hl)

theorem AgreeInv.others {w : Tracked} (h : AgreeInv w) {t t' : Nat} {outcome : Bool}
    {task task' : Task} (hlookup : w.sys.tasks.lookup t = some task)
    (hfresh : TaskFresh w.sys outcome task) (hw : task.writes outcome = true) (hne : t' ≠ t)
    (hlookup' : w.sys.tasks.lookup t' = some task') : task'.pendingWrite = false := by
  by_contra hp'
  rw [Bool.not_eq_false] at hp'
  cases hp : task.pendingWrite with
  | true => exact hne (h.one hlookup' hlookup hp' hp)
  | false =>
      obtain ⟨hlock, hnone⟩ := guarded_of_writes hw hp hfresh
      have hs' := hnone _ (Table.lookup_eq_some_iff.mp hlookup')
      exact hne (h.lock.one hlookup' hlookup (holdsLock_of_pendingWrite hp' hs') hlock)

theorem AgreeInv.run {w : Tracked} (h : AgreeInv w) {t : Nat} {outcome : Bool} {task : Task}
    {s' : Shared} {r : Rest} (hlookup : w.sys.tasks.lookup t = some task)
    (hadv : advance w.sys.shared outcome task = some (s', r))
    (hfresh : TaskFresh w.sys outcome task) :
    AgreeInv
      { sys := { w.sys with
          shared := s'
          tasks := r.record w.sys.tasks t }
        want := r.want w.want task } := by
  refine ⟨h.lock.run hlookup hadv, ?_, ?_, ?_, ?_, ?_⟩
  · intro t₁ t₂ task₁ task₂ hl₁ hl₂ hp₁ hp₂
    rcases lookup_record hl₁ with ⟨rfl, rfl⟩ | ⟨hne₁, hold₁⟩ <;>
      rcases lookup_record hl₂ with ⟨rfl, hr⟩ | ⟨hne₂, hold₂⟩
    · rfl
    · have hw := advance_pendingWrite hadv hp₁
      exact absurd (hp₂.symm.trans (h.others hlookup hfresh hw hne₂ hold₂)) (by decide)
    · subst hr
      have hw := advance_pendingWrite hadv hp₂
      exact absurd (hp₁.symm.trans (h.others hlookup hfresh hw hne₁ hold₁)) (by decide)
    · exact h.one hold₁ hold₂ hp₁ hp₂
  · intro t' task' hl
    rcases lookup_record hl with ⟨-, rfl⟩ | ⟨hne, hold⟩
    · exact advance_taskOk hadv (h.ok hlookup) hfresh
    · cases hw : task.writes outcome with
      | true => exact (h.ok hold).of_not_pending s' (h.others hlookup hfresh hw hne hold)
      | false =>
          obtain ⟨hdevices, hssh, happlied⟩ := advance_unwritten hadv hw
          exact (h.ok hold).congr hdevices hssh happlied
  · intro hall
    refine advance_settled hadv (fun hp => h.settled ?_) (h.ok hlookup) hfresh ?_
    · intro t' task' hl
      by_cases ht : t' = t
      · subst ht
        obtain rfl := Option.some.inj (hlookup.symm.trans hl)
        exact hp
      · exact hall (t := t') ((lookup_record_ne ht).trans hl)
    · rintro task' rfl
      exact hall (t := t) (AList.lookup_insert _)
  · exact advance_metBy hadv (h.ok hlookup) hfresh h.want
  · intro t' task' hl
    rcases lookup_record hl with ⟨rfl, -⟩ | ⟨-, hold⟩
    · exact h.fresh hlookup
    · exact h.fresh hold

theorem track_inv {w w' : Tracked} {ev : Event} (h : AgreeInv w) (hfresh : Fresh w ev)
    (hstep : track w ev = some w') : AgreeInv w' := by
  cases ev with
  | call c =>
      cases hstep
      exact h.call c
  | run t outcome =>
      obtain ⟨sys, hsys, rfl⟩ := Option.map_eq_some_iff.mp hstep
      simp only [step] at hsys
      split at hsys
      · cases hsys
      · next task hlookup =>
          obtain ⟨⟨s', r⟩, hadv, rfl⟩ := Option.map_eq_some_iff.mp hsys
          have hwant : wantAfter w (.run t outcome) = r.want w.want task := by
            simp only [wantAfter, hlookup, hadv]
          rw [hwant]
          exact h.run hlookup hadv (hfresh task hlookup)

/-! ## Whole runs -/

/-- No call has started yet, and the sidecar runs nothing else than what is
persisted. -/
def Idle (s : State) : Prop := s.tasks = ∅ ∧ Settled s.shared

/-- In every run of fresh steps, for any number of calls and any answers of the
sidecar, the sidecar runs what is persisted whenever no call is in progress, and
every device is as the last call that set it and returned Ok has left it. -/
theorem usb_preference_agreement {s₀ : State} (hinit : Idle s₀) {w : Tracked}
    (hrun : Run.Reach track Fresh ⟨s₀, fun _ => none⟩ w) :
    (Quiescent w.sys → ∀ devices, w.sys.shared.applied = some devices →
        devices = devicesForApply w.sys.shared.config.usbDevices
          w.sys.shared.config.sshForwardingEnabled) ∧
      ∀ d v, w.want d = some v → deviceEnabled w.sys.shared.config.usbDevices d = v := by
  have hnone : ∀ {t task}, s₀.tasks.lookup t ≠ some task := lookup_ne_some_of_empty hinit.1
  have hinv₀ : AgreeInv ⟨s₀, fun _ => none⟩ := by
    refine ⟨⟨?_, ?_⟩, ?_, ?_, fun _ => hinit.2, ?_, ?_⟩
    case refine_5 => exact fun d v hd => by cases hd
    all_goals
      intros
      exact absurd ‹_› hnone
  have hinv := hrun.invariant hinv₀ fun w ev w' => track_inv
  refine ⟨fun hquiet => hinv.settled ?_, hinv.want⟩
  intro t task hlookup
  exact absurd ((hquiet t).symm.trans hlookup) (by simp)

theorem idle_switchesAt (ssh : Bool) : Idle (switchesAt ssh) :=
  ⟨rfl, fun _ happlied => by cases happlied⟩

def freshRun : List Event :=
  .call (.rebootUsbManagerByDevice .camera true) :: runs 0 10 ++
    .call (.applySshForwardingState true true) :: runs 1 8

theorem usb_preference_agreement_freshRun :
    ∃ w devices, Run.Reach track Fresh ⟨switchesAt false, fun _ => none⟩ w ∧
      w.sys.shared.applied = some devices ∧
      devices = devicesForApply w.sys.shared.config.usbDevices
        w.sys.shared.config.sshForwardingEnabled ∧
      deviceEnabled w.sys.shared.config.usbDevices .camera = true := by
  have hexec : (Run.exec track (fun w ev => decide (Fresh w ev))
      ⟨switchesAt false, fun _ => none⟩ freshRun).map
        (fun w => (w.sys.tasks.keys, w.sys.shared.applied.isSome, w.want .camera)) =
      some ([], true, some true) := by
    decide +kernel
  obtain ⟨w, hrun, hend⟩ := Run.exists_reach_of_exec (fun _ _ => of_decide_eq_true) hexec
  obtain ⟨hkeys, hend⟩ := Prod.mk.inj hend
  obtain ⟨happlied, hcamera⟩ := Prod.mk.inj hend
  obtain ⟨devices, hdevices⟩ := Option.isSome_iff_exists.mp happlied
  obtain ⟨hagree, hwant⟩ := usb_preference_agreement (idle_switchesAt false) hrun
  exact ⟨w, devices, hrun, hdevices, hagree (quiescent_of_keys hkeys) devices hdevices,
    hwant .camera true hcamera⟩

/-- SSH forwarding goes on at the sidecar; before its call writes the
configuration, another call switches the camera on and returns. -/
def crossedRun : List Event :=
  .call (.applySshForwardingState true true) :: runs 0 5 ++
    .call (.rebootUsbManagerByDevice .camera true) :: runs 1 10 ++ runs 0 3

/-- The sidecar runs the devices without the SSH overlay while SSH forwarding is
persisted as on, and the camera that a call has switched on is off again. -/
theorem crossed_calls_disagree :
    ∃ w devices, Run.Reach track Run.anyStep ⟨switchesAt false, fun _ => none⟩ w ∧
      Idle (switchesAt false) ∧ Quiescent w.sys ∧ w.sys.shared.applied = some devices ∧
      devices ≠ devicesForApply w.sys.shared.config.usbDevices
        w.sys.shared.config.sshForwardingEnabled ∧
      w.want .camera = some true ∧
      deviceEnabled w.sys.shared.config.usbDevices .camera = false := by
  have hexec : (Run.exec track (fun _ _ => true) ⟨switchesAt false, fun _ => none⟩
      crossedRun).map (fun w => (w.sys.tasks.keys, w.sys.shared.applied,
        w.sys.shared.config.usbDevices, w.sys.shared.config.sshForwardingEnabled,
        w.want .camera)) =
      some ([], some { ({} : UsbDevices) with camera := true },
        devicesForPersist {} true, true, some true) := by
    decide +kernel
  obtain ⟨w, hrun, hend⟩ := Run.exists_reach_of_exec (fun _ _ _ => trivial) hexec
  simp only [Prod.mk.injEq] at hend
  obtain ⟨hkeys, happlied, hdevices, hssh, hcamera⟩ := hend
  refine ⟨w, _, hrun, idle_switchesAt false, quiescent_of_keys hkeys, happlied, ?_, hcamera, ?_⟩
  · rw [hdevices, hssh]
    decide
  · rw [hdevices]
    rfl

end ArkKvm.Usb
