import ArkKvm.Usb.GadgetManager

/-!
# Commands of the USB control service

The UMS commands of the manager and the full configuration of the control
service (`control/service.rs`), and the commands as steps of a system.
-/

namespace ArkKvm.GadgetChange

open Lib (Action)
open Lib.Run (Reach anyStep)
open Sidecar (UsbError UmsMode UmsVmType DeviceSwitches NetworkAdapterL3Info UsbDeviceInfo
  UsbBaseInfo LunIo UmsHandle Ums1Handle)
open Sidecar.UsbDeviceManager (isSwitchesChange isPathsChange)

/-! ## UMS commands -/

inductive UmsOperation
  | unspecified
  | mount
  | unmount
  | switchVmMode
  | getMountState
deriving DecidableEq

inductive UmsTarget
  | unspecified
  | vm
  | ft
deriving DecidableEq

structure UmsControlRequest where
  operation : UmsOperation
  target : UmsTarget
  imagePath : String
  vmType : UmsVmType

structure UmsControlResponse where
  ok : Bool
  error : Option String := none
  mounted : Bool := false
  mountedPath : String := ""
  vmType : UmsVmType := .unknown
deriving DecidableEq

/-- `ums_resp_ok`, `ums_resp_err`. -/
def UmsControlResponse.ofResult : Except UsbError Unit → UmsControlResponse
  | .ok () => { ok := true }
  | .error e => { ok := false, error := some e.text }

/-- `ums_resp_err` for a refusal of the manager itself. -/
def UmsControlResponse.refuse (message : String) : UmsControlResponse :=
  { ok := false, error := some message }

/-- What the outside world answers during one UMS command. -/
structure UmsIo where
  rebuild : RebuildIo
  vm : LunIo
  ft : LunIo

/-- `ums_mode_to_proto`. -/
def modeToProto : UmsMode → UmsVmType
  | .disk => .vmDisk
  | .cdRom => .vmCdRom

/-- The mode of the virtual media LUN that a request asks for. -/
def UmsControlRequest.requestedMode (req : UmsControlRequest) : Option UmsMode :=
  match req.operation with
  | .switchVmMode => some req.vmType.mode
  | .mount =>
      if req.imagePath = "" ∨ req.imagePath = "\n" ∨ req.target ≠ .vm then none
      else some req.vmType.mode
  | _ => none

namespace UsbDeviceManager

def withVm (op : UmsHandle → Except UsbError UmsHandle) (u : UmsHandle) :
    Action UsbError UsbDeviceManager Unit := fun s =>
  match op u with
  | .error e => (s, .error e)
  | .ok u' => ({ s with handlers := setVm u' s.handlers }, .ok ())

def withFt (op : Ums1Handle → Except UsbError Ums1Handle) (u : Ums1Handle) :
    Action UsbError UsbDeviceManager Unit := fun s =>
  match op u with
  | .error e => (s, .error e)
  | .ok u' => ({ s with handlers := setFt u' s.handlers }, .ok ())

def umsVmMountState (s : UsbDeviceManager) : UmsControlResponse :=
  match vmHandle s.handlers with
  | none => { ok := true, vmType := modeToProto .cdRom }
  | some u =>
      { ok := true
        mounted := u.filePath.isSome
        mountedPath := u.filePath.getD ""
        vmType := modeToProto u.mode }

def umsFtMountState (s : UsbDeviceManager) : UmsControlResponse :=
  let path := ((ftHandle s.handlers).bind (·.filePath)).getD ""
  { ok := true, mounted := path ≠ "", mountedPath := path }

def respond (x : Action UsbError UsbDeviceManager Unit) (s : UsbDeviceManager) :
    UsbDeviceManager × UmsControlResponse :=
  ((x s).1, .ofResult (x s).2)

def umsVmUnmount (io : UmsIo) : Action UsbError UsbDeviceManager Unit := fun s =>
  match vmHandle s.handlers with
  | none => (s, .ok ())
  | some u => withVm (·.unmount io.vm) u s

def umsFtUnmount (io : UmsIo) : Action UsbError UsbDeviceManager Unit := fun s =>
  match ftHandle s.handlers with
  | none => (s, .ok ())
  | some u => withFt (·.unmount io.ft) u s

/-- Commit the mode to the handle and rebuild the gadget when it is a new one:
`ums_vm_switch_mode` and the first half of `ums_vm_mount`. -/
def switchVmMode (io : UmsIo) (mode : UmsMode) (u : UmsHandle) :
    Action UsbError UsbDeviceManager Unit := fun s =>
  match u.switchMode mode with
  | .error e => (s, .error e)
  | .ok (u', false) => ({ s with handlers := setVm u' s.handlers }, .ok ())
  | .ok (u', true) => applySwitches io.rebuild none none { s with handlers := setVm u' s.handlers }

def mountVm (io : UmsIo) (path : String) : Action UsbError UsbDeviceManager Unit := fun s =>
  match vmHandle s.handlers with
  | none => (s, .error (.invalidArgument "failed to send event"))
  | some u => withVm (·.mount io.vm path) u s

def umsVmMount (io : UmsIo) (path : String) (mode : UmsMode) (s : UsbDeviceManager) :
    UsbDeviceManager × UmsControlResponse :=
  match vmHandle s.handlers with
  | none => (s, .refuse "virtual media controller not initialized")
  | some u => respond (do switchVmMode io mode u; mountVm io path) s

def umsVmSwitchMode (io : UmsIo) (mode : UmsMode) (s : UsbDeviceManager) :
    UsbDeviceManager × UmsControlResponse :=
  match vmHandle s.handlers with
  | none => (s, .refuse "virtual media controller not initialized")
  | some u => respond (switchVmMode io mode u) s

def umsFtMount (io : UmsIo) (path : String) (s : UsbDeviceManager) :
    UsbDeviceManager × UmsControlResponse :=
  match ftHandle s.handlers with
  | none => (s, .refuse "file transfer controller not initialized")
  | some u => respond (withFt (·.mount io.ft path) u) s

/-- `handle_ums_control`; a mount of the empty path is an unmount. -/
def handleUmsControl (io : UmsIo) (req : UmsControlRequest) (s : UsbDeviceManager) :
    UsbDeviceManager × UmsControlResponse :=
  match req.operation with
  | .unspecified => (s, .refuse "unspecified ums operation")
  | .getMountState => match req.target with
      | .vm => (s, umsVmMountState s)
      | .ft => (s, umsFtMountState s)
      | .unspecified => (s, .refuse "get_mount_state requires ums_vm or ums_ft target")
  | .unmount => match req.target with
      | .vm => respond (umsVmUnmount io) s
      | .ft => respond (umsFtUnmount io) s
      | .unspecified => (s, .refuse "unmount requires ums_vm or ums_ft target")
  | .mount =>
      if req.imagePath = "" ∨ req.imagePath = "\n" then match req.target with
        | .vm => respond (umsVmUnmount io) s
        | .ft => respond (umsFtUnmount io) s
        | .unspecified =>
            (s, .refuse "mount with empty path requires ums_vm or ums_ft target")
      else match req.target with
        | .vm => umsVmMount io req.imagePath req.vmType.mode s
        | .ft => umsFtMount io req.imagePath s
        | .unspecified => (s, .refuse "mount requires ums_vm or ums_ft target")
  | .switchVmMode => umsVmSwitchMode io req.vmType.mode s

/-! ## The full configuration -/

/-- `set_network_adapter_l3_config`: the service is made when it is missing. -/
def setNetworkAdapterL3Config (l3 : Option NetworkAdapterL3Info) (s : UsbDeviceManager) :
    UsbDeviceManager :=
  { s with
    handlers :=
      updateNetwork (·.setL3FromProto l3) (addService s.switches s.handlers .networkAdapter) }

def applyNetworkAdapterL3Only (io : NetworkIo) : Action UsbError UsbDeviceManager Unit := fun s =>
  match networkHandle s.handlers with
  | none => (s, .error (.deviceNotFound "network adapter service not initialized"))
  | some u =>
      let r := NetworkAdapterHandle.applyL3 io u
      ({ s with handlers := updateNetwork (fun _ => r.1) s.handlers }, r.2)

def isUmsVmMounted (s : UsbDeviceManager) : Bool :=
  (vmHandle s.handlers).any fun u => u.filePath.isSome

def isUmsFtMounted (s : UsbDeviceManager) : Bool :=
  (ftHandle s.handlers).any fun u => u.filePath.isSome

def preflightUmsPathChanges (info : UsbDeviceInfo) (s : UsbDeviceManager) : Except UsbError Unit :=
  match s.lastUsbInfo, info.switches with
  | some last, some sw =>
      if sw.umsVmEnabled ∧ info.umsVmPath ≠ "" ∧ info.umsVmPath ≠ last.umsVmPath ∧
          isUmsVmMounted s then
        .error (.changeRejected "virtual media is mounted, cannot change image path")
      else if sw.umsFtEnabled ∧ info.umsFtPath ≠ "" ∧ info.umsFtPath ≠ last.umsFtPath ∧
          isUmsFtMounted s then
        .error (.changeRejected "file transfer storage is mounted, cannot change image path")
      else .ok ()
  | _, _ => .ok ()

def logged (x : Action UsbError UsbDeviceManager Unit) : Action UsbError UsbDeviceManager Unit :=
  fun s => ((x s).1, .ok ())

def applyVmMount (io : UmsIo) (info : UsbDeviceInfo) (enabled : Bool) :
    Action UsbError UsbDeviceManager Unit := fun s =>
  match vmHandle s.handlers with
  | none => (s, .ok ())
  | some u =>
      if ¬ enabled then logged (umsVmUnmount io) s
      else if info.umsVmPath = "" then (s, .ok ())
      else match u.switchMode info.umsVmType.mode with
        | .error _ => logged (mountVm io info.umsVmPath) s
        | .ok _ => (do
            switchVmMode io info.umsVmType.mode u
            logged (mountVm io info.umsVmPath)) s

def applyFtMount (io : UmsIo) (info : UsbDeviceInfo) (enabled : Bool) :
    Action UsbError UsbDeviceManager Unit := fun s =>
  match ftHandle s.handlers with
  | none => (s, .ok ())
  | some u =>
      if ¬ enabled then logged (umsFtUnmount io) s
      else if info.umsFtPath = "" then (s, .ok ())
      else logged (withFt (·.mount io.ft info.umsFtPath) u) s

def applyUmsMounts (io : UmsIo) (info : UsbDeviceInfo) : Action UsbError UsbDeviceManager Unit := do
  let s ← Action.read
  Action.ofExcept (preflightUmsPathChanges info s)
  match info.switches with
  | none => pure ()
  | some sw =>
      applyVmMount io info sw.umsVmEnabled
      applyFtMount io info sw.umsFtEnabled

/-- `is_network_adapter_l3_change` against the last configuration, if there was one. -/
def networkL3Changed (last : Option UsbDeviceInfo) (info : UsbDeviceInfo) : Bool :=
  match last with
  | some prev => prev.networkAdapterL3 != info.networkAdapterL3
  | none => info.networkAdapterL3.isSome

def pathsChanged (last : Option UsbDeviceInfo) (info : UsbDeviceInfo) : Bool :=
  match last with
  | some prev => isPathsChange prev info
  | none => false

/-- The condition of the shortcut in `apply_full_config`. -/
def takesShortcut (s : UsbDeviceManager) (info : UsbDeviceInfo) (switches : DeviceSwitches)
    (baseInfo : UsbBaseInfo) : Bool :=
  s.lastUsbInfo.isSome && !isSwitchesChange s.switches switches &&
    !pathsChanged s.lastUsbInfo info && !(s.baseInfo != baseInfo) &&
    networkL3Changed s.lastUsbInfo info

structure FullConfigIo where
  rebuild : RebuildIo
  /-- during the mounts, with the rebuild for a new mode -/
  mounts : UmsIo
  network : NetworkIo

def rebuildAndMount (io : FullConfigIo) (info : UsbDeviceInfo) (switches : DeviceSwitches)
    (baseInfo : UsbBaseInfo) : Action UsbError UsbDeviceManager Unit := do
  applySwitches io.rebuild (some baseInfo) (some switches)
  applyUmsMounts io.mounts info

/-- `apply_full_config`, with the choice of the way as an argument. -/
def applyFullConfigVia
    (chooses : UsbDeviceManager → UsbDeviceInfo → DeviceSwitches → UsbBaseInfo → Bool)
    (io : FullConfigIo) (info : UsbDeviceInfo) (baseInfo : UsbBaseInfo) :
    Action UsbError UsbDeviceManager Unit := do
  match info.switches with
  | none => Action.fail (.invalidArgument "missing switches in usb_info")
  | some switches =>
      Action.modify (setNetworkAdapterL3Config info.networkAdapterL3)
      let s ← Action.read
      if chooses s info switches baseInfo then applyNetworkAdapterL3Only io.network
      else rebuildAndMount io info switches baseInfo
      Action.modify fun s => { s with lastUsbInfo := some info }

def applyFullConfig (io : FullConfigIo) (info : UsbDeviceInfo) (baseInfo : UsbBaseInfo) :
    Action UsbError UsbDeviceManager Unit :=
  applyFullConfigVia takesShortcut io info baseInfo

/-! ## Runs -/

/-- `UsbDeviceManager::new`. -/
def start (baseInfo : UsbBaseInfo) : UsbDeviceManager := { baseInfo := baseInfo }

/-- The commands of the manager.  A full configuration is carried out by several of
them. -/
inductive Command
  | applySwitches (io : RebuildIo) (baseInfo : Option UsbBaseInfo) (switches : Option DeviceSwitches)
  | setEmulationEnabled (io : RebuildIo) (enabled : Bool)
  | umsControl (io : UmsIo) (req : UmsControlRequest)
  | setNetworkAdapterL3Config (l3 : Option NetworkAdapterL3Info)
  | applyNetworkAdapterL3Only (io : NetworkIo)
  | applyVmMount (io : UmsIo) (info : UsbDeviceInfo) (enabled : Bool)
  | applyFtMount (io : UmsIo) (info : UsbDeviceInfo) (enabled : Bool)
  | setLastUsbInfo (info : UsbDeviceInfo)
  | addChangeHandler (name : String)
  | removeChangeHandler (name : String)
  /-- the hash map of the handlers is iterated in another order from now on -/
  | reorder (handlers : List ChangeHandler)

def removeChangeHandler (name : String) (hs : List ChangeHandler) : List ChangeHandler :=
  hs.filterMap fun h =>
    if h.registered ∧ h.name = name then
      if h.device = .subscriber then none else some { h with registered := false }
    else some h

def step (s : UsbDeviceManager) : Command → Option UsbDeviceManager
  | .applySwitches io baseInfo switches => some (applySwitches io baseInfo switches s).1
  | .setEmulationEnabled io enabled => some (setEmulationEnabled io enabled s).1
  | .umsControl io req => some (handleUmsControl io req s).1
  | .setNetworkAdapterL3Config l3 => some (setNetworkAdapterL3Config l3 s)
  | .applyNetworkAdapterL3Only io => some (applyNetworkAdapterL3Only io s).1
  | .applyVmMount io info enabled => some (applyVmMount io info enabled s).1
  | .applyFtMount io info enabled => some (applyFtMount io info enabled s).1
  | .setLastUsbInfo info => some { s with lastUsbInfo := some info }
  | .addChangeHandler name =>
      if nameTaken s.handlers name then none
      else some { s with handlers := s.handlers ++ [{ name := name, device := .subscriber }] }
  | .removeChangeHandler name => some { s with handlers := removeChangeHandler name s.handlers }
  | .reorder hs => if hs.Perm s.handlers then some { s with handlers := hs } else none

end UsbDeviceManager

end ArkKvm.GadgetChange
