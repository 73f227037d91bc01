import ArkKvm.Lib.Table
import ArkKvm.Usb.Devices

/-!
# Concurrent USB calls

The calls of `mcp_ssh.rs` and `hardware/usb/mod.rs` that read and write the USB
preference, the MCP switch and the SSH switch, interleaved at their await
points.  A call is a task: each constructor of `Task` is the point before one
configuration access, one wait for `USB_RECONCILE_LOCK` or the end of one
sidecar apply, with the local variables that the rest of the call still uses.
Configuration writes succeed; the sidecar runs the devices it accepts and keeps
the old ones when it refuses.
-/

namespace ArkKvm.Usb

open ConfigManager Lib

inductive UsbDeviceType
  | absoluteMouse
  | relativeMouse
  | keyboard
  | massStorageVm
  | massStorageFt
  | microphone
  | camera
deriving DecidableEq

def deviceEnabled (devices : UsbDevices) : UsbDeviceType → Bool
  | .absoluteMouse => devices.absoluteMouse
  | .relativeMouse => devices.relativeMouse
  | .keyboard => devices.keyboard
  | .massStorageVm => devices.massStorageVm
  | .massStorageFt => devices.massStorageFt
  | .microphone => devices.microphone
  | .camera => devices.camera

def setDevice (devices : UsbDevices) (device : UsbDeviceType) (enable : Bool) : UsbDevices :=
  match device with
  | .absoluteMouse => { devices with absoluteMouse := enable }
  | .relativeMouse => { devices with relativeMouse := enable }
  | .keyboard => { devices with keyboard := enable }
  | .massStorageVm => { devices with massStorageVm := enable }
  | .massStorageFt => { devices with massStorageFt := enable }
  | .microphone => { devices with microphone := enable }
  | .camera => { devices with camera := enable }

inductive ApplyCaller
  /-- `set_mcp_enabled(false)` while SSH forwarding was on -/
  | mcpOff
  /-- `set_ssh_forwarding(ssh)`, which read the MCP flag before -/
  | sshForwarding (mcp ssh : Bool)
  | direct (mcp ssh : Bool)
deriving DecidableEq

def ApplyCaller.mcp : ApplyCaller → Bool
  | .mcpOff => false
  | .sshForwarding mcp _ => mcp
  | .direct mcp _ => mcp

def ApplyCaller.ssh : ApplyCaller → Bool
  | .mcpOff => false
  | .sshForwarding _ ssh => ssh
  | .direct _ ssh => ssh

inductive Source
  /-- the caller passes the devices -/
  | given (devices : UsbDevices)
  /-- the stored preference, read under the lock -/
  | stored (base : UsbDevices)
  /-- one device toggled in the preference that was read before the lock -/
  | toggled (device : UsbDeviceType) (enable : Bool) (base : UsbDevices)

def Source.preference : Source → UsbDevices
  | .given devices => devices
  | .stored base => base
  | .toggled device enable base => setDevice base device enable

inductive Task
  -- set_mcp_enabled
  | mcpReadMcp (enabled : Bool)
  | mcpReadSsh (enabled prevMcp : Bool)
  | mcpWrite (enabled : Bool)
  | mcpDisconnect
  -- set_ssh_forwarding
  | sshReadMcp (enabled : Bool)
  | sshReadSsh (enabled mcp : Bool)
  -- apply_ssh_forwarding_state
  | applyReadDevices (caller : ApplyCaller)
  | applyReadConfig (caller : ApplyCaller) (preference : UsbDevices)
  | applyStopMic (caller : ApplyCaller) (preference : UsbDevices)
  | applyLock (caller : ApplyCaller) (preference : UsbDevices) (attempt : Nat)
  | applyRun (caller : ApplyCaller) (preference : UsbDevices) (attempt : Nat)
  | applyWriteDevices (caller : ApplyCaller) (preference : UsbDevices)
  | applyWriteMcp (caller : ApplyCaller) (preference : UsbDevices)
  | applyWriteSsh (caller : ApplyCaller) (preference : UsbDevices)
  -- reconcile_with_ssh_overlay
  | overlayReadSsh
  | overlayReadDevices (ssh : Bool)
  | overlayReadConfig (ssh : Bool) (preference : UsbDevices)
  | overlayLock (ssh : Bool) (preference : UsbDevices)
  | overlayRun (ssh : Bool) (preference : UsbDevices)
  | overlayWriteDevices (ssh : Bool) (preference : UsbDevices)
  -- reboot_usb_manager_by_device, reboot_usb_manager_with_reason
  | toggleReadDevices (device : UsbDeviceType) (enable : Bool)
  | rebootLock (usbConfig : Option UsbConfig) (source : Option Source)
  | rebootReadConfig (usbConfig : Option UsbConfig) (source : Option Source)
  | rebootReadDevices (usbConfig : UsbConfig) (source : Option Source)
  | rebootReadSsh (usbConfig : UsbConfig) (source : Source)
  | rebootReadPrev (usbConfig : UsbConfig) (source : Source) (ssh : Bool)
  | rebootCompare (usbConfig : UsbConfig) (source : Source) (ssh : Bool) (prev : UsbDevices)
  | rebootRunL3 (source : Source) (ssh : Bool)
  | rebootRunFull (usbConfig : UsbConfig) (source : Source) (ssh : Bool)
  | rebootPersist (source : Source) (ssh : Bool) (prev : UsbDevices)
  | rebootWriteConfig (usbConfig : UsbConfig) (source : Source) (ssh : Bool)
  | rebootWriteDevices (source : Source) (ssh : Bool)

inductive Call
  | setMcpEnabled (enabled : Bool)
  | setSshForwarding (enabled : Bool)
  | applySshForwardingState (mcpEnabled sshForwarding : Bool)
  | reconcileWithSshOverlay
  | rebootUsbManager (usbConfig : Option UsbConfig) (devices : Option UsbDevices)
  | rebootUsbManagerByDevice (device : UsbDeviceType) (enable : Bool)

def Call.task : Call → Task
  | .setMcpEnabled enabled => .mcpReadMcp enabled
  | .setSshForwarding enabled => .sshReadMcp enabled
  | .applySshForwardingState mcp ssh => .applyReadDevices (.direct mcp ssh)
  | .reconcileWithSshOverlay => .overlayReadSsh
  | .rebootUsbManager usbConfig devices => .rebootLock usbConfig (devices.map Source.given)
  | .rebootUsbManagerByDevice device enable => .toggleReadDevices device enable

/-- What the calls share: the configuration, the devices that the sidecar runs,
and whether `USB_RECONCILE_LOCK` is taken. -/
structure Shared where
  config : Config
  applied : Option UsbDevices
  locked : Bool

inductive Rest
  | goto (task : Task)
  | finish (ok : Bool)

namespace Shared

def set (s : Shared) (f : Config → Config) : Shared := { s with config := f s.config }

def lock (s : Shared) : Shared := { s with locked := true }

def unlock (s : Shared) : Shared := { s with locked := false }

def apply (s : Shared) (devices : UsbDevices) : Shared := { s with applied := some devices }

end Shared

inductive RebootPath
  | l3Only
  | persistOnly
  | full
deriving DecidableEq

def rebootPath (stored usbConfig : UsbConfig) (source : Source) (ssh : Bool) (prev : UsbDevices) :
    RebootPath :=
  let prevApply := devicesForApply prev ssh
  let applyDevices := devicesForApply source.preference ssh
  if gadgetSwitchesEqual prevApply applyDevices ∧ stored = usbConfig then
    if networkAdapterL3Equal prevApply.networkAdapter applyDevices.networkAdapter then .persistOnly
    else .l3Only
  else .full

/-- One step of a call.  `outcome` is the answer of the sidecar where the call
waits for one (and whether the USB client exists where the call asks for it);
`none` means that the call waits for the lock. -/
def advance (s : Shared) (outcome : Bool) : Task → Option (Shared × Rest)
  | .mcpReadMcp enabled => some (s, .goto (.mcpReadSsh enabled s.config.mcpEnabled))
  | .mcpReadSsh enabled prevMcp =>
      if enabled = prevMcp then some (s, .finish true)
      else if enabled then some (s, .goto (.mcpWrite true))
      else if s.config.sshForwardingEnabled then some (s, .goto (.applyReadDevices .mcpOff))
      else some (s, .goto (.mcpWrite false))
  | .mcpWrite enabled =>
      some (s.set (setMcpEnabled enabled), if enabled then .finish true else .goto .mcpDisconnect)
  | .mcpDisconnect => some (s, .finish true)
  | .sshReadMcp enabled => some (s, .goto (.sshReadSsh enabled s.config.mcpEnabled))
  | .sshReadSsh enabled mcp =>
      if enabled ∧ ¬ mcp then some (s, .finish false)
      else if enabled = s.config.sshForwardingEnabled then some (s, .finish true)
      else some (s, .goto (.applyReadDevices (.sshForwarding mcp enabled)))
  | .applyReadDevices caller => some (s, .goto (.applyReadConfig caller s.config.usbDevices))
  | .applyReadConfig caller preference => some (s, .goto (.applyStopMic caller preference))
  | .applyStopMic caller preference =>
      -- `stop_mic_process_if_running`, only when SSH forwarding goes on
      let stop := caller.ssh && outcome && s.config.microphoneEmulation == some true
      some (if stop then s.set (setMicrophoneEmulation false) else s,
        .goto (.applyLock caller preference 1))
  | .applyLock caller preference attempt =>
      if s.locked then none else some (s.lock, .goto (.applyRun caller preference attempt))
  | .applyRun caller preference attempt =>
      if outcome then
        some ((s.apply (devicesForApply preference caller.ssh)).unlock,
          .goto (.applyWriteDevices caller preference))
      else if attempt < 5 then some (s.unlock, .goto (.applyLock caller preference (attempt + 1)))
      else some (s.unlock, .finish false)
  | .applyWriteDevices caller preference =>
      some (s.set (setUsbDevices (devicesForPersist preference caller.ssh)),
        .goto (.applyWriteMcp caller preference))
  | .applyWriteMcp caller preference =>
      some (s.set (setMcpEnabled caller.mcp), .goto (.applyWriteSsh caller preference))
  | .applyWriteSsh caller _ =>
      some (s.set (setSshForwardingEnabled caller.ssh),
        if caller = .mcpOff then .goto .mcpDisconnect else .finish true)
  | .overlayReadSsh => some (s, .goto (.overlayReadDevices s.config.sshForwardingEnabled))
  | .overlayReadDevices ssh => some (s, .goto (.overlayReadConfig ssh s.config.usbDevices))
  | .overlayReadConfig ssh preference => some (s, .goto (.overlayLock ssh preference))
  | .overlayLock ssh preference =>
      if s.locked then none else some (s.lock, .goto (.overlayRun ssh preference))
  | .overlayRun ssh preference =>
      if ¬ outcome then some (s.unlock, .finish false)
      else if preference.networkAdapter.enable ≠ ssh then
        some (s.apply (devicesForApply preference ssh), .goto (.overlayWriteDevices ssh preference))
      else some ((s.apply (devicesForApply preference ssh)).unlock, .finish true)
  | .overlayWriteDevices ssh preference =>
      some ((s.set (setUsbDevices (devicesForPersist preference ssh))).unlock, .finish true)
  | .toggleReadDevices device enable =>
      some (s, .goto (.rebootLock none (some (.toggled device enable s.config.usbDevices))))
  | .rebootLock usbConfig source =>
      if s.locked then none else some (s.lock, .goto (.rebootReadConfig usbConfig source))
  | .rebootReadConfig usbConfig source =>
      some (s, .goto (.rebootReadDevices (usbConfig.getD s.config.usbConfig) source))
  | .rebootReadDevices usbConfig source =>
      some (s, .goto (.rebootReadSsh usbConfig (source.getD (.stored s.config.usbDevices))))
  | .rebootReadSsh usbConfig source =>
      some (s, .goto (.rebootReadPrev usbConfig source s.config.sshForwardingEnabled))
  | .rebootReadPrev usbConfig source ssh =>
      some (s, .goto (.rebootCompare usbConfig source ssh s.config.usbDevices))
  | .rebootCompare usbConfig source ssh prev =>
      if ¬ outcome then some (s.unlock, .finish false)
      else match rebootPath s.config.usbConfig usbConfig source ssh prev with
        | .l3Only => some (s, .goto (.rebootRunL3 source ssh))
        | .full => some (s, .goto (.rebootRunFull usbConfig source ssh))
        | .persistOnly =>
            if prev ≠ devicesForPersist source.preference ssh then
              some (s, .goto (.rebootPersist source ssh prev))
            else some (s.unlock, .finish true)
  | .rebootRunL3 source ssh =>
      if outcome then
        some (s.apply (devicesForApply source.preference ssh),
          .goto (.rebootWriteDevices source ssh))
      else some (s.unlock, .finish false)
  | .rebootRunFull usbConfig source ssh =>
      if outcome then
        some (s.apply (devicesForApply source.preference ssh),
          .goto (.rebootWriteConfig usbConfig source ssh))
      else some (s.unlock, .finish false)
  | .rebootPersist source ssh _ =>
      some ((s.set (setUsbDevices (devicesForPersist source.preference ssh))).unlock, .finish true)
  | .rebootWriteConfig usbConfig source ssh =>
      some (s.set (setUsbConfig usbConfig), .goto (.rebootWriteDevices source ssh))
  | .rebootWriteDevices source ssh =>
      some ((s.set (setUsbDevices (devicesForPersist source.preference ssh))).unlock, .finish true)

/-! ## The system -/

structure State where
  shared : Shared
  tasks : Table Nat Task
  nextTask : Nat

inductive Event
  | call (c : Call)
  | run (t : Nat) (outcome : Bool)

def Rest.record (r : Rest) (tasks : Table Nat Task) (t : Nat) : Table Nat Task :=
  match r with
  | .goto task => tasks.insert t task
  | .finish _ => tasks.erase t

def step (s : State) : Event → Option State
  | .call c =>
      some { s with tasks := s.tasks.insert s.nextTask c.task, nextTask := s.nextTask + 1 }
  | .run t outcome =>
      match s.tasks.lookup t with
      | none => none
      | some task =>
          (advance s.shared outcome task).map fun r =>
            { s with shared := r.1, tasks := r.2.record s.tasks t }

def Quiescent (s : State) : Prop := ∀ t, s.tasks.lookup t = none

theorem quiescent_of_keys {s : State} (h : s.tasks.keys = []) : Quiescent s := by
  intro t
  rw [AList.lookup_eq_none, AList.mem_keys, h]
  exact List.not_mem_nil

theorem lookup_ne_some_of_empty {tasks : Table Nat Task} (h : tasks = ∅) {t : Nat} {task : Task} :
    tasks.lookup t ≠ some task := by
  subst h
  simp

theorem lookup_record {r : Rest} {tasks : Table Nat Task} {t t' : Nat} {task : Task}
    (h : (r.record tasks t).lookup t' = some task) :
    (t' = t ∧ r = .goto task) ∨ (t' ≠ t ∧ tasks.lookup t' = some task) := by
  cases r with
  | goto next =>
      rcases Table.lookup_insert_iff.mp h with ⟨rfl, rfl⟩ | h
      · exact .inl ⟨rfl, rfl⟩
      · exact .inr h
  | finish ok => exact .inr (Table.lookup_erase_iff.mp h)

theorem lookup_record_ne {r : Rest} {tasks : Table Nat Task} {t t' : Nat} (hne : t' ≠ t) :
    (r.record tasks t).lookup t' = tasks.lookup t' := by
  cases r with
  | goto next => exact AList.lookup_insert_ne hne
  | finish ok => exact AList.lookup_erase_ne hne

end ArkKvm.Usb
