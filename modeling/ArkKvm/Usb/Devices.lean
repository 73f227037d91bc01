import ArkKvm.Config.Manager
import ArkKvm.Lib.Action

/-!
# USB device preference and overlay

The persisted preference says which USB functions the user wants.  While SSH
forwarding is on, the devices sent to the sidecar are the preference with the
network adapter forced on and the relative mouse and the microphone forced off.
`rebootUsbManager` is one uninterrupted call of `reboot_usb_manager_with_reason`.
-/

namespace ArkKvm.Usb

open ConfigManager (update setUsbDevices setUsbConfig)
open Lib (Action)

/-- `devices_for_apply`: the devices sent to the sidecar. -/
def devicesForApply (preference : UsbDevices) (sshForwarding : Bool) : UsbDevices :=
  { preference with
    networkAdapter := { preference.networkAdapter with enable := sshForwarding }
    relativeMouse := if sshForwarding then false else preference.relativeMouse
    microphone := if sshForwarding then false else preference.microphone }

def devicesForPersist (preference : UsbDevices) (sshForwarding : Bool) : UsbDevices :=
  { preference with
    networkAdapter := { preference.networkAdapter with enable := sshForwarding } }

def gadgetSwitchesEqual (a b : UsbDevices) : Bool :=
  a.absoluteMouse == b.absoluteMouse && a.relativeMouse == b.relativeMouse &&
    a.keyboard == b.keyboard && a.massStorageVm == b.massStorageVm &&
    a.massStorageFt == b.massStorageFt && a.microphone == b.microphone &&
    a.camera == b.camera && a.networkAdapter.enable == b.networkAdapter.enable &&
    a.networkAdapter.adapterType == b.networkAdapter.adapterType

def networkAdapterL3Equal (a b : NetworkAdapter) : Bool := a.l3Config == b.l3Config

structure RebootOutcome where
  /-- the USB client is initialised -/
  ready : Bool
  /-- the sidecar accepts the devices -/
  applied : Bool
  configSaved : Bool
  devicesSaved : Bool

/-- `reboot_usb_manager_with_reason`, run without interruption. -/
def rebootUsbManager (o : RebootOutcome) (usbConfig : Option UsbConfig)
    (devices : Option UsbDevices) : Action ConfigError ConfigManager Unit := do
  let m ← Action.read
  let usbConfig := usbConfig.getD m.config.usbConfig
  let preference := devices.getD m.config.usbDevices
  let ssh := m.config.sshForwardingEnabled
  let applyDevices := devicesForApply preference ssh
  let persistDevices := devicesForPersist preference ssh
  let prevDevices := m.config.usbDevices
  let prevApply := devicesForApply prevDevices ssh
  let gadgetSame := gadgetSwitchesEqual prevApply applyDevices
  let usbConfigSame := m.config.usbConfig == usbConfig
  let l3Same := networkAdapterL3Equal prevApply.networkAdapter applyDevices.networkAdapter
  Action.ensure (o.ready = true) (.rejected "UsbClient not initialized")
  if gadgetSame ∧ usbConfigSame ∧ ¬ l3Same then
    Action.ensure (o.applied = true) .sidecar
    update o.devicesSaved (setUsbDevices persistDevices)
  else if gadgetSame ∧ usbConfigSame then
    if prevDevices ≠ persistDevices then update o.devicesSaved (setUsbDevices persistDevices)
    else pure ()
  else
    Action.ensure (o.applied = true) .sidecar
    update o.configSaved (setUsbConfig usbConfig)
    update o.devicesSaved (setUsbDevices persistDevices)

end ArkKvm.Usb
