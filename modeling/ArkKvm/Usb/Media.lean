import ArkKvm.Usb.Sidecar
import ArkKvm.Upload.Store

/-!
# Virtual media on the application side

The mount and unmount calls of `hardware/usb/storage.rs` and `reconcile_usb_runtime`,
with the three copies of the mount state: what the application says is mounted,
the payload that the USB client remembers from its last successful apply, and the
sidecar itself.  Every call runs to its end before the next one starts; the USB
client is initialised.
-/

namespace ArkKvm.Media

open Lib (Action)
open Sidecar

inductive VirtualMediaSource
  | webRTC
  | http
  | storage
deriving DecidableEq

inductive VirtualMediaMode
  | cdrom
  | disk
deriving DecidableEq

def VirtualMediaMode.vmType : VirtualMediaMode → UmsVmType
  | .cdrom => .vmCdRom
  | .disk => .vmDisk

structure VirtualMediaState where
  source : VirtualMediaSource
  mode : VirtualMediaMode
  filename : Option String
  url : Option String
  size : Int
deriving DecidableEq

inductive RemoteReader
  | http (url : String) (size : Int)
  | webRTC (size : Int)
deriving DecidableEq

structure World where
  /-- `CURRENT_VIRTUAL_MEDIA_STATE` -/
  media : Option VirtualMediaState := none
  /-- the payload that `UsbClient` caches -/
  usbInfo : UsbDeviceInfo := {}
  reader : Option RemoteReader := none
  /-- `NBD_DEVICE` holds a device -/
  nbd : Bool := false
  manager : UsbDeviceManager

structure CallIo where
  sidecar : Io
  /-- the images folder is there or can be made -/
  folder : Except String Unit
  nbdStarted : Except String Unit
  nbdReady : Except String Unit

def CallIo.working (vmFirst : Bool) : CallIo where
  sidecar := .working vmFirst
  folder := .ok ()
  nbdStarted := .ok ()
  nbdReady := .ok ()

def umsControl (x : Action String UsbDeviceManager Unit) : Action String World Unit := fun w =>
  let r := x w.manager
  ({ w with manager := r.1 }, r.2.mapError ("ums_control failed: " ++ ·))

/-- `get_vm_mode_from_sidecar`. -/
def vmModeFromSidecar (m : UsbDeviceManager) : VirtualMediaMode :=
  match m.umsMode with
  | .disk => .disk
  | .cdRom => .cdrom

def setMassStorageMode (io : CallIo) (mode : VirtualMediaMode) : Action String World Unit :=
  umsControl (UsbDeviceManager.umsVmSwitchMode io.sidecar mode.vmType)

/-- `set_mass_storage_image` at the virtual media LUN.  The mode is the one of the
medium that the application says is mounted, else the one of the sidecar. -/
def setMassStorageImage (io : CallIo) (path : String) : Action String World Unit := do
  let w ← Action.read
  if path = "" ∨ path = "\n" then umsControl (UsbDeviceManager.umsVmUnmount io.sidecar)
  else
    let mode := match w.media with
      | some st => st.mode
      | none => vmModeFromSidecar w.manager
    umsControl (UsbDeviceManager.umsVmMount io.sidecar path mode.vmType)

def nbdPath : String := "/dev/nbd0"

/-- `mount_with_http`; `size` is what the server says about the image. -/
def mountWithHttp (io : CallIo) (url : String) (mode : VirtualMediaMode)
    (size : Except String Int) : Action String World Unit := do
  Action.ofExcept io.folder
  setMassStorageMode io mode
  let size ← Action.ofExcept size
  let w ← Action.read
  Action.ensure (w.media = none) "another virtual media is already mounted"
  Action.modify fun w =>
    { w with
      media := some ⟨.http, mode, none, some url, size⟩
      reader := some (.http url size)
      nbd := true }
  Action.ofExcept io.nbdStarted
  Action.ofExcept io.nbdReady
  Action.mapErr (fun _ => "failed to set mass storage image to nbd0")
    (setMassStorageImage io nbdPath)

def mountWithWebrtc (io : CallIo) (filename : String) (size : Int) (mode : VirtualMediaMode) :
    Action String World Unit := do
  Action.mapErr (fun _ => "failed to set mass storage mode") (setMassStorageMode io mode)
  let w ← Action.read
  Action.ensure (w.media = none) "another virtual media is already mounted"
  Action.modify fun w =>
    { w with
      media := some ⟨.webRTC, mode, some filename, none, size⟩
      reader := some (.webRTC size)
      nbd := true }
  Action.ofExcept io.nbdStarted
  Action.ofExcept io.nbdReady
  Action.mapErr (fun _ => "failed to set mass storage image to nbd0")
    (setMassStorageImage io nbdPath)

def mountWithStorage (io : CallIo) (filename : String) (mode : VirtualMediaMode)
    (size : Option Int) : Action String World Unit := do
  let filename ← Action.ofExcept (Upload.sanitizeFilename filename)
  Action.ofExcept io.folder
  let size ← Action.ofExcept (size.elim (.error ("failed to stat file: " ++ filename)) .ok)
  Action.mapErr (fun _ => "failed to set mass storage mode") (setMassStorageMode io mode)
  Action.mapErr (fun _ => "failed to set mass storage image")
    (setMassStorageImage io (Upload.finalPathOf filename))
  Action.modify fun w => { w with media := some ⟨.storage, mode, some filename, none, size⟩ }

def unmountImage (io : CallIo) : Action String World Unit := fun w =>
  let w' := (umsControl (UsbDeviceManager.umsVmUnmount io.sidecar) w).1
  ({ w' with
    nbd := false
    media := none
    reader := none }, .ok ())

/-! ## Reconciliation -/

def usbInfoFromDevicesWithPaths (devices : UsbDevices) (vmPath ftPath : String)
    (vmType : UmsVmType) : UsbDeviceInfo where
  switches := some
    { hidKbEnabled := devices.keyboard
      hidAbsEnabled := devices.absoluteMouse
      hidRelEnabled := devices.relativeMouse
      umsVmEnabled := devices.massStorageVm
      umsFtEnabled := devices.massStorageFt
      uac1Enabled := devices.microphone
      uvcEnabled := devices.camera
      networkAdapter :=
        some ⟨devices.networkAdapter.enable, devices.networkAdapter.adapterType⟩ }
  umsVmType := vmType
  umsVmPath := vmPath
  umsFtPath := ftPath
  networkAdapterL3 :=
    let l3 := devices.networkAdapter.l3Config
    some ⟨l3.ipAddress, l3.subnetMask, l3.gateway, l3.dnsServers.getD []⟩

def usbInfoForReconcile (cached : UsbDeviceInfo) (devices : UsbDevices) : UsbDeviceInfo :=
  usbInfoFromDevicesWithPaths devices cached.umsVmPath cached.umsFtPath cached.umsVmType

/-- `classify_runtime_error`: whether the application may try again. -/
def retryable (e : UsbError) : Bool :=
  let lower := e.text.toLower.toList
  ["busy", "timed out", "timeout", "recover"].any fun word => decide (word.toList <:+: lower)

def applyRuntimeConfig (io : CallIo) (usbConfig : UsbConfig) (info : UsbDeviceInfo) :
    Action UsbError World Unit := fun w =>
  match UsbDeviceManager.applyRuntimeUsbInfo io.sidecar usbConfig info w.manager with
  | (m, .ok ()) =>
      ({ w with
        manager := m
        usbInfo := info }, .ok ())
  | (m, .error e) => ({ w with manager := m }, .error e)

def reconcileAttempts (io : CallIo) (usbConfig : UsbConfig) (info : UsbDeviceInfo) :
    Nat → Action String World Unit
  | 0 => Action.fail "usb_devices runtime apply exhausted retries"
  | n + 1 => fun w =>
      match applyRuntimeConfig io usbConfig info w with
      | (w', .ok ()) => (w', .ok ())
      | (w', .error e) =>
          if retryable e ∧ n ≠ 0 then reconcileAttempts io usbConfig info n w'
          else (w', .error ("usb_devices runtime apply rejected: " ++ e.text))

def reconcileUsbRuntime (io : CallIo) (usbConfig : UsbConfig) (devices : UsbDevices) :
    Action String World Unit := do
  let w ← Action.read
  reconcileAttempts io usbConfig (usbInfoForReconcile w.usbInfo devices) 5

end ArkKvm.Media
