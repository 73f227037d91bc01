import ArkKvm.Lib.Action
import ArkKvm.Lib.Text
import ArkKvm.Config.Types

/-!
# The USB sidecar

The part of the `usb_devices` process that the mass storage functions depend on:
the handles of the virtual media and file transfer LUNs (`devices/ums.rs`,
`devices/ums1.rs`), the gadget rebuild (`manager.rs`) and the apply and UMS
commands (`control/service.rs`).  What the file system and the USB stack answer
during a command is a parameter.  The handlers of the other functions agree to
every change and do not touch the LUNs; they are left out, and so are the board
settings of the network adapter, of which only whether applying them works is
kept.
-/

namespace ArkKvm.Sidecar

open Lib (Action)

inductive UsbError
  | invalidArgument (message : String)
  | gadgetError (message : String)
  | changeRejected (message : String)
  | deviceNotEnabled (name : String)
  | deviceNotFound (path : String)
  | fileNotFound (path : String)
  | ioError (message : String)
  | endpointBudgetExceeded (message : String)
deriving DecidableEq

def UsbError.text : UsbError → String
  | .invalidArgument message => "Invalid argument: " ++ message
  | .gadgetError message => "Gadget operation failed: " ++ message
  | .changeRejected message => "Change rejected by upper layer: " ++ message
  | .deviceNotEnabled name => "Device not enabled: " ++ name
  | .deviceNotFound path => "File not found: " ++ path
  | .fileNotFound path => "File not found: " ++ path
  | .ioError message => "IO Error: " ++ message
  | .endpointBudgetExceeded message => "USB endpoint budget exceeded: " ++ message

def UsbError.debug : UsbError → String
  | .invalidArgument message => "InvalidArgument(" ++ message.quote ++ ")"
  | .gadgetError message => "GadgetError(" ++ message.quote ++ ")"
  | .changeRejected message => "ChangeRejected(" ++ message.quote ++ ")"
  | .deviceNotEnabled name => "DeviceNotEnabled(" ++ name.quote ++ ")"
  | .deviceNotFound path => "DeviceNotFound(" ++ path.quote ++ ")"
  | .fileNotFound path => "FileNotFound(" ++ path.quote ++ ")"
  | .ioError message => "IoError(" ++ message.quote ++ ")"
  | .endpointBudgetExceeded message => "EndpointBudgetExceeded(" ++ message.quote ++ ")"

/-! ## Requests -/

inductive UmsMode
  | cdRom
  | disk
deriving DecidableEq

inductive UmsVmType
  | unknown
  | vmCdRom
  | vmDisk
deriving DecidableEq

/-- `proto_vm_type_to_mode`, `proto_vm_type_to_ums_mode`. -/
def UmsVmType.mode : UmsVmType → UmsMode
  | .vmDisk => .disk
  | _ => .cdRom

structure NetworkAdapterSwitch where
  enable : Bool
  adapterType : NetworkAdapterType
deriving DecidableEq

structure DeviceSwitches where
  hidKbEnabled : Bool := false
  hidAbsEnabled : Bool := false
  hidRelEnabled : Bool := false
  umsVmEnabled : Bool := false
  umsFtEnabled : Bool := false
  uac1Enabled : Bool := false
  uvcEnabled : Bool := false
  networkAdapter : Option NetworkAdapterSwitch := none
deriving DecidableEq

structure NetworkAdapterL3Info where
  ipAddress : String
  subnetMask : String
  gateway : Option String
  dnsServers : List String
deriving DecidableEq

structure UsbDeviceInfo where
  switches : Option DeviceSwitches := none
  umsVmType : UmsVmType := .unknown
  umsVmPath : String := ""
  umsFtPath : String := ""
  networkAdapterL3 : Option NetworkAdapterL3Info := none
deriving DecidableEq

structure UsbBaseInfo where
  vendorId : Nat := 0x1d6b
  productId : Nat := 0x0104
  bcdDevice : Nat := 0x0100
  bcdUsb : Nat := 0x0200
  serialNumber : String
  manufacturer : String := "ArkKVM"
  product : String := "Multifunction Composite Gadget"
  strictMode : Bool := false
  forceFullSpeed : Bool := false
deriving DecidableEq

def hexDigit (c : Char) : Option Nat :=
  if '0' ≤ c ∧ c ≤ '9' then some (c.toNat - '0'.toNat)
  else if 'a' ≤ c ∧ c ≤ 'f' then some (c.toNat - 'a'.toNat + 10)
  else if 'A' ≤ c ∧ c ≤ 'F' then some (c.toNat - 'A'.toNat + 10)
  else none

def fromStrRadix16 (s : List Char) : Option Nat :=
  let digits := match s with
    | '+' :: cs => cs
    | cs => cs
  if digits = [] then none
  else
    let value :=
      digits.foldl (fun acc c => acc.bind fun n => (hexDigit c).map (n * 16 + ·)) (some 0)
    value.filter (· < 2 ^ 16)

def parseHexU16 (name value : String) : Except UsbError Nat :=
  let raw := Lib.Text.trim value.toList
  let trimmed := match raw with
    | '0' :: 'x' :: cs => cs
    | '0' :: 'X' :: cs => cs
    | cs => cs
  match fromStrRadix16 trimmed with
  | some n => .ok n
  | none =>
      .error (.invalidArgument ("invalid " ++ name ++ " (expected hex u16): " ++ value))

def runtimeUsbConfigToBaseInfo (current : UsbBaseInfo) (runtime : UsbConfig) :
    Except UsbError UsbBaseInfo := do
  let vendorId ← parseHexU16 "vendor_id" runtime.vendorId
  let productId ← parseHexU16 "product_id" runtime.productId
  return { current with
    vendorId := vendorId
    productId := productId
    serialNumber := runtime.serialNumber
    manufacturer := runtime.manufacturer
    product := runtime.product
    forceFullSpeed := runtime.forceFullSpeed }

/-! ## Endpoints -/

/-- `network_adapter_enabled`. -/
def DeviceSwitches.networkEnabled (s : DeviceSwitches) : Bool :=
  (s.networkAdapter.map (·.enable)).getD false

def DeviceSwitches.hasAnyEnabled (s : DeviceSwitches) : Bool :=
  s.hidKbEnabled || s.hidAbsEnabled || s.hidRelEnabled || s.umsVmEnabled || s.umsFtEnabled ||
    s.uac1Enabled || s.uvcEnabled || s.networkEnabled

/-- The functions with their IN and OUT endpoints; NCM and RNDIS use the same number. -/
def DeviceSwitches.functions (s : DeviceSwitches) : List (Bool × Nat × Nat) :=
  [(s.hidKbEnabled, 1, 1), (s.hidAbsEnabled, 1, 0), (s.hidRelEnabled, 1, 0),
    (s.umsVmEnabled, 1, 1), (s.umsFtEnabled, 1, 1), (s.uac1Enabled, 1, 0), (s.uvcEnabled, 2, 0),
    (s.networkEnabled, 2, 1)]

/-- The IN and OUT endpoints of the enabled functions.  The sums stay far below
the saturation of `u8`. -/
def endpointUsage (s : DeviceSwitches) : Nat × Nat :=
  let used := s.functions.filter (·.1)
  ((used.map (·.2.1)).sum, (used.map (·.2.2)).sum)

def maxFunctionInEps : Nat := 6

def maxFunctionOutEps : Nat := 5

def checkEndpointBudget (s : DeviceSwitches) : Except UsbError Unit :=
  let (inn, out) := endpointUsage s
  if maxFunctionInEps < inn ∨ maxFunctionOutEps < out then
    .error (.endpointBudgetExceeded
      ("in=" ++ toString inn ++ "/" ++ toString maxFunctionInEps ++ " out=" ++ toString out ++
        "/" ++ toString maxFunctionOutEps))
  else .ok ()

/-! ## The LUN handles -/

structure LunIo where
  imageExists : Bool
  /-- the result of `get_lun_file_path` -/
  lunFile : Except UsbError String
  lunExists : Bool
  /-- the result of `write_file` -/
  written : Except UsbError Unit

def LunIo.working : LunIo where
  imageExists := true
  lunFile := .ok "/sys/kernel/config/usb_gadget/arkkvm/functions/mass_storage.0/lun.0/file"
  lunExists := true
  written := .ok ()

structure UmsHandle where
  enabled : Bool
  mode : UmsMode
  filePath : Option String
  udcUpdating : Bool
deriving DecidableEq

def umsVmName : String := "ArkKVM Virtual Media"

def UmsHandle.switchMode (h : UmsHandle) (mode : UmsMode) : Except UsbError (UmsHandle × Bool) :=
  if ¬ h.enabled then .error (.deviceNotEnabled umsVmName)
  else if h.filePath.isSome then .error (.changeRejected (umsVmName ++ " is busy"))
  else if h.udcUpdating then .error (.changeRejected "USBGadget is updating")
  else if h.mode = mode then .ok (h, false)
  else .ok ({ h with mode := mode }, true)

/-- `mount_ums`. -/
def UmsHandle.mount (io : LunIo) (h : UmsHandle) (path : String) : Except UsbError UmsHandle :=
  if ¬ h.enabled then .error (.deviceNotEnabled umsVmName)
  else if h.udcUpdating then .error (.changeRejected "USBGadget is updating")
  else if ¬ io.imageExists then .error (.fileNotFound path)
  else match io.lunFile with
    | .error e => .error e
    | .ok lun =>
        if ¬ io.lunExists then .error (.deviceNotFound lun)
        else match h.filePath with
          | some existing =>
              if existing = path then .ok h
              else .error (.changeRejected (umsVmName ++ " is already mounted"))
          | none => io.written.map fun _ => { h with filePath := some path }

/-- `unmount_ums`. -/
def UmsHandle.unmount (io : LunIo) (h : UmsHandle) : Except UsbError UmsHandle :=
  if ¬ h.enabled then .ok h
  else if h.udcUpdating then .error (.changeRejected "USBGadget is updating")
  else match io.lunFile with
    | .error _ => .ok { h with filePath := none }
    | .ok _ =>
        if ¬ io.lunExists then .ok { h with filePath := none }
        else io.written.map fun _ => { h with filePath := none }

def UmsHandle.prepareChange (io : LunIo) (h : UmsHandle) : Except String UmsHandle :=
  match h.unmount io with
  | .ok h' => .ok { h' with udcUpdating := true }
  | .error e => .error ("failed to unmount: " ++ e.debug)

structure Ums1Handle where
  enabled : Bool
  filePath : Option String
  udcUpdating : Bool
deriving DecidableEq

def umsFtName : String := "ArkKVM Virtual USB Drive"

/-- `mount_ums1`: unlike the other LUN it does not accept the same path again. -/
def Ums1Handle.mount (io : LunIo) (h : Ums1Handle) (path : String) : Except UsbError Ums1Handle :=
  if ¬ h.enabled then .error (.deviceNotEnabled umsFtName)
  else if h.udcUpdating then .error (.changeRejected "USBGadget is updating")
  else if ¬ io.imageExists then .error (.fileNotFound path)
  else match io.lunFile with
    | .error e => .error e
    | .ok lun =>
        if ¬ io.lunExists then .error (.deviceNotFound lun)
        else if h.filePath.isSome then .error (.changeRejected (umsFtName ++ " is busy"))
        else io.written.map fun _ => { h with filePath := some path }

/-- `unmount_ums1`: unlike the other LUN it reports a missing LUN as an error. -/
def Ums1Handle.unmount (io : LunIo) (h : Ums1Handle) : Except UsbError Ums1Handle :=
  if ¬ h.enabled then .error (.deviceNotEnabled umsFtName)
  else if h.udcUpdating then .error (.changeRejected "USBGadget is updating")
  else match io.lunFile with
    | .error e => .error e
    | .ok lun =>
        if ¬ io.lunExists then .error (.deviceNotFound lun)
        else io.written.map fun _ => { h with filePath := none }

def Ums1Handle.prepareChange (io : LunIo) (h : Ums1Handle) : Except String Ums1Handle :=
  match h.unmount io with
  | .ok h' => .ok { h' with udcUpdating := true }
  | .error (.deviceNotEnabled _) => .ok { h with udcUpdating := true }
  | .error (.deviceNotFound _) => .ok { h with udcUpdating := true }
  | .error e => .error ("failed to unmount: " ++ e.debug)

/-! ## The gadget -/

/-- What the bound gadget was built from. -/
structure Gadget where
  baseInfo : UsbBaseInfo
  switches : DeviceSwitches
  umsMode : UmsMode
deriving DecidableEq

/-- The state of the manager, with the `last_usb_info` that the control service keeps. -/
structure UsbDeviceManager where
  baseInfo : UsbBaseInfo
  switches : DeviceSwitches := {}
  vm : Option UmsHandle := none
  ft : Option Ums1Handle := none
  activeGadget : Option Gadget := none
  emulationEnabled : Bool := true
  lastUsbInfo : Option UsbDeviceInfo := none

structure Io where
  vm : LunIo
  ft : LunIo
  /-- the virtual media handle is notified before the file transfer handle -/
  vmFirst : Bool
  /-- the old gadget is removed -/
  unbound : Except UsbError Unit
  /-- the new gadget is built, registered and bound -/
  bound : Except UsbError Unit
  /-- the old gadget is, after the new one was not -/
  rebound : Except UsbError Unit
  /-- the board settings of the network adapter are applied -/
  l3Applied : Except UsbError Unit

def Io.working (vmFirst : Bool) : Io where
  vm := .working
  ft := .working
  vmFirst := vmFirst
  unbound := .ok ()
  bound := .ok ()
  rebound := .ok ()
  l3Applied := .ok ()

namespace UsbDeviceManager

def changeCompleted (s : UsbDeviceManager) : UsbDeviceManager :=
  { s with
    vm := s.vm.map fun h => { h with udcUpdating := false }
    ft := s.ft.map fun h => { h with udcUpdating := false } }

def prepareVm (io : Io) : Action String UsbDeviceManager Unit := fun s =>
  match s.vm.map (UmsHandle.prepareChange io.vm) with
  | none => (s, .ok ())
  | some (.ok h) => ({ s with vm := some h }, .ok ())
  | some (.error reason) => (s, .error reason)

def prepareFt (io : Io) : Action String UsbDeviceManager Unit := fun s =>
  match s.ft.map (Ums1Handle.prepareChange io.ft) with
  | none => (s, .ok ())
  | some (.ok h) => ({ s with ft := some h }, .ok ())
  | some (.error reason) => (s, .error reason)

def prepareChange (io : Io) : Action String UsbDeviceManager Unit :=
  if io.vmFirst then do
    prepareVm io
    prepareFt io
  else do
    prepareFt io
    prepareVm io

/-- `request_change_approval`.  Every handler proceeds at `RequestChange`; the two
LUNs can reject at `PrepareChange`. -/
def requestChangeApproval (io : Io) : Action UsbError UsbDeviceManager Unit := fun s =>
  match prepareChange io s with
  | (s', .ok ()) => (s', .ok ())
  | (s', .error reason) => (s'.changeCompleted, .error (.changeRejected reason))

def applyDeviceServices (s : UsbDeviceManager) : UsbDeviceManager :=
  { s with
    vm := some <| match s.vm with
      | some h => { h with enabled := s.switches.umsVmEnabled }
      | none => ⟨s.switches.umsVmEnabled, .cdRom, none, false⟩
    ft := some <| match s.ft with
      | some h => { h with enabled := s.switches.umsFtEnabled }
      | none => ⟨s.switches.umsFtEnabled, none, false⟩ }

/-- The mode the virtual media function is built with. -/
def umsMode (s : UsbDeviceManager) : UmsMode := (s.vm.map (·.mode)).getD .cdRom

/-- `bind_gadget_from_current_switches`. -/
def bindGadgetFromCurrentSwitches (bound : Except UsbError Unit) :
    Action UsbError UsbDeviceManager Unit := do
  Action.modify applyDeviceServices
  let s ← Action.read
  if ¬ s.switches.hasAnyEnabled then pure ()
  else
    Action.ofExcept bound
    Action.modify fun s => { s with activeGadget := some ⟨s.baseInfo, s.switches, s.umsMode⟩ }

/-- The last part of `apply_switches_locked`: when the new gadget cannot be bound,
the old values are restored and bound again. -/
def bindOrRestore (io : Io) (old : UsbDeviceManager) : Action UsbError UsbDeviceManager Unit :=
  fun s =>
    match bindGadgetFromCurrentSwitches io.bound s with
    | (s', .ok ()) => (s'.changeCompleted, .ok ())
    | (s', .error e) =>
        let restored := { s' with
          baseInfo := old.baseInfo
          switches := old.switches }
        ((bindGadgetFromCurrentSwitches io.rebound restored).1.changeCompleted, .error e)

def rebuildGadget (io : Io) (baseInfo : Option UsbBaseInfo) (switches : Option DeviceSwitches) :
    Action UsbError UsbDeviceManager Unit := do
  Action.modify fun s => { s with activeGadget := none }
  Action.ofExcept io.unbound
  let old ← Action.read
  Action.modify fun s =>
    { s with
      baseInfo := baseInfo.getD s.baseInfo
      switches := switches.getD s.switches }
  bindOrRestore io old

def applySwitches (io : Io) (baseInfo : Option UsbBaseInfo) (switches : Option DeviceSwitches) :
    Action UsbError UsbDeviceManager Unit := do
  let s ← Action.read
  Action.ensure (s.emulationEnabled = true) (.gadgetError "USB emulation disabled")
  Action.ofExcept (checkEndpointBudget (switches.getD s.switches))
  requestChangeApproval io
  rebuildGadget io baseInfo switches

/-! ## Commands -/

def umsVmUnmount (io : Io) : Action String UsbDeviceManager Unit := fun s =>
  match s.vm.map (UmsHandle.unmount io.vm) with
  | none => (s, .ok ())
  | some (.ok h) => ({ s with vm := some h }, .ok ())
  | some (.error e) => (s, .error e.text)

def umsVmSwitchMode (io : Io) (vmType : UmsVmType) : Action String UsbDeviceManager Unit := fun s =>
  match s.vm.map (UmsHandle.switchMode · vmType.mode) with
  | none => (s, .error "virtual media controller not initialized")
  | some (.error e) => (s, .error e.text)
  | some (.ok (h, false)) => ({ s with vm := some h }, .ok ())
  | some (.ok (h, true)) =>
      Action.mapErr UsbError.text (applySwitches io none none) { s with vm := some h }

def mountVm (io : Io) (path : String) : Action String UsbDeviceManager Unit := fun s =>
  match s.vm.map (UmsHandle.mount io.vm · path) with
  | none => (s, .error "virtual media controller not initialized")
  | some (.ok h) => ({ s with vm := some h }, .ok ())
  | some (.error e) => (s, .error e.text)

/-- `UmsMount` at the virtual media target. -/
def umsVmMount (io : Io) (path : String) (vmType : UmsVmType) :
    Action String UsbDeviceManager Unit :=
  if path = "" ∨ path = "\n" then umsVmUnmount io
  else do
    umsVmSwitchMode io vmType
    mountVm io path

def isUmsVmMounted (s : UsbDeviceManager) : Bool := s.vm.any fun h => h.filePath.isSome

def isUmsFtMounted (s : UsbDeviceManager) : Bool := s.ft.any fun h => h.filePath.isSome

def preflightUmsPathChanges (info : UsbDeviceInfo) (s : UsbDeviceManager) : Except UsbError Unit :=
  match s.lastUsbInfo, info.switches with
  | some last, some sw =>
      if sw.umsVmEnabled ∧ info.umsVmPath ≠ "" ∧ info.umsVmPath ≠ last.umsVmPath ∧
          s.isUmsVmMounted then
        .error (.changeRejected "virtual media is mounted, cannot change image path")
      else if sw.umsFtEnabled ∧ info.umsFtPath ≠ "" ∧ info.umsFtPath ≠ last.umsFtPath ∧
          s.isUmsFtMounted then
        .error (.changeRejected "file transfer storage is mounted, cannot change image path")
      else .ok ()
  | _, _ => .ok ()

def applyVmMount (io : Io) (info : UsbDeviceInfo) (enabled : Bool) :
    Action UsbError UsbDeviceManager Unit := fun s =>
  match s.vm with
  | none => (s, .ok ())
  | some h =>
      if ¬ enabled then ((umsVmUnmount io s).1, .ok ())
      else if info.umsVmPath = "" then (s, .ok ())
      else match h.switchMode info.umsVmType.mode with
        | .error _ => ((mountVm io info.umsVmPath s).1, .ok ())
        | .ok (h', false) => ((mountVm io info.umsVmPath { s with vm := some h' }).1, .ok ())
        | .ok (h', true) =>
            match applySwitches io none none { s with vm := some h' } with
            | (s', .error e) => (s', .error e)
            | (s', .ok ()) => ((mountVm io info.umsVmPath s').1, .ok ())

def applyFtMount (io : Io) (info : UsbDeviceInfo) (enabled : Bool) (s : UsbDeviceManager) :
    UsbDeviceManager :=
  let result := if ¬ enabled then s.ft.map (Ums1Handle.unmount io.ft)
    else if info.umsFtPath = "" then none
    else s.ft.map (Ums1Handle.mount io.ft · info.umsFtPath)
  match result with
  | some (.ok h) => { s with ft := some h }
  | _ => s

def applyUmsMounts (io : Io) (info : UsbDeviceInfo) : Action UsbError UsbDeviceManager Unit := do
  let s ← Action.read
  Action.ofExcept (preflightUmsPathChanges info s)
  match info.switches with
  | none => pure ()
  | some sw =>
      applyVmMount io info sw.umsVmEnabled
      Action.modify (applyFtMount io info sw.umsFtEnabled)

def networkAdapterSwitchChanged :
    Option NetworkAdapterSwitch → Option NetworkAdapterSwitch → Bool
  | none, none => false
  | some a, some b => a.enable != b.enable || a.adapterType != b.adapterType
  | none, some b => b.enable
  | some a, none => a.enable

def isSwitchesChange (a b : DeviceSwitches) : Bool :=
  a.hidKbEnabled != b.hidKbEnabled || a.hidAbsEnabled != b.hidAbsEnabled ||
    a.hidRelEnabled != b.hidRelEnabled || a.umsVmEnabled != b.umsVmEnabled ||
    a.umsFtEnabled != b.umsFtEnabled || a.uac1Enabled != b.uac1Enabled ||
    a.uvcEnabled != b.uvcEnabled || networkAdapterSwitchChanged a.networkAdapter b.networkAdapter

def isPathsChange (a b : UsbDeviceInfo) : Bool :=
  a.umsVmPath != b.umsVmPath || a.umsFtPath != b.umsFtPath || a.umsVmType != b.umsVmType

def l3Only (s : UsbDeviceManager) (info : UsbDeviceInfo) (switches : DeviceSwitches)
    (baseInfo : UsbBaseInfo) : Bool :=
  match s.lastUsbInfo with
  | none => false
  | some last =>
      !isSwitchesChange s.switches switches && !isPathsChange last info &&
        s.baseInfo == baseInfo && last.networkAdapterL3 != info.networkAdapterL3

def applyFullConfig (io : Io) (info : UsbDeviceInfo) (baseInfo : UsbBaseInfo) :
    Action UsbError UsbDeviceManager Unit := do
  match info.switches with
  | none => Action.fail (.invalidArgument "missing switches in usb_info")
  | some switches =>
      let s ← Action.read
      if s.l3Only info switches baseInfo then Action.ofExcept io.l3Applied
      else
        applySwitches io (some baseInfo) (some switches)
        applyUmsMounts io info
      Action.modify fun s => { s with lastUsbInfo := some info }

def applyRuntimeUsbInfo (io : Io) (usbConfig : UsbConfig) (info : UsbDeviceInfo) :
    Action UsbError UsbDeviceManager Unit := do
  let s ← Action.read
  let baseInfo ← Action.ofExcept (runtimeUsbConfigToBaseInfo s.baseInfo usbConfig)
  applyFullConfig io info baseInfo

end UsbDeviceManager

end ArkKvm.Sidecar
