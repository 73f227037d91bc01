import ArkKvm.Lib.Poll
import ArkKvm.Lib.Run
import ArkKvm.Usb.ChangeHandlers

/-!
# The gadget manager

`UsbDeviceManager` with every registered change handler, every step of taking
the gadget down and building it, and the control service's full configuration.
The manager is borrowed exclusively by each command, so the operation lock is
never found taken.  The handlers stand in the order in which the hash map is
iterated; between two commands that order may become any other one.
-/

namespace ArkKvm.GadgetChange

open Lib (Action poll)
open Sidecar (UsbError UmsMode UmsVmType DeviceSwitches NetworkAdapterL3Info UsbDeviceInfo
  UsbBaseInfo LunIo UmsHandle Ums1Handle Gadget checkEndpointBudget umsVmName umsFtName)

/-! ## The outside world -/

structure BindIo where
  registered : Except UsbError Unit
  /-- the compatibility identifiers of an RNDIS function are written -/
  msOsCompat : Except UsbError Unit
  /-- the gadget is bound to the controller -/
  bound : Except UsbError Unit

def BindIo.working : BindIo where
  registered := .ok ()
  msOsCompat := .ok ()
  bound := .ok ()

/-- What the outside world answers while the gadget is changed. -/
structure RebuildIo where
  handlers : HandlerIo
  /-- the tree of the old gadget is removed -/
  released : Except UsbError Unit
  bind : BindIo
  /-- the old gadget is bound again, after the new one was not -/
  fallback : BindIo

def HandlerIo.working : HandlerIo where
  vm := .working
  ft := .working
  hid
    | .kb => ⟨some "/dev/hidg0", true, true⟩
    | .rel => ⟨some "/dev/hidg1", true, true⟩
    | .abs => ⟨some "/dev/hidg2", true, true⟩
  network := ⟨some "usb0", .ok ()⟩
  answer := fun _ _ => .proceed

def RebuildIo.working : RebuildIo where
  handlers := .working
  released := .ok ()
  bind := .working
  fallback := .working

/-! ## State -/

structure BindAttempt where
  baseInfo : UsbBaseInfo
  switches : DeviceSwitches
  succeeded : Bool
deriving DecidableEq

/-- The manager, with the `last_usb_info` of the control service and the attempts to
bring up a gadget so far. -/
structure UsbDeviceManager where
  baseInfo : UsbBaseInfo
  switches : DeviceSwitches := {}
  handlers : List ChangeHandler := []
  activeGadget : Option Gadget := none
  emulationEnabled : Bool := true
  lastUsbInfo : Option UsbDeviceInfo := none
  attempts : List BindAttempt := []
deriving DecidableEq

/-! ## Device services -/

def nameTaken (hs : List ChangeHandler) (name : String) : Bool :=
  hs.any fun h => h.registered && h.name == name

def hasService (hs : List ChangeHandler) (svc : Service) : Bool :=
  hs.any fun h => h.device.service? == some svc

def newService (sw : DeviceSwitches) (hs : List ChangeHandler) (svc : Service) : ChangeHandler where
  name := svc.handlerName
  device := .new (svc.enabledBy sw) svc
  registered := !nameTaken hs svc.handlerName

def addService (sw : DeviceSwitches) (hs : List ChangeHandler) (svc : Service) :
    List ChangeHandler :=
  if hasService hs svc then hs else hs ++ [newService sw hs svc]

@[irreducible]
def applyDeviceServices (sw : DeviceSwitches) (hs : List ChangeHandler) : List ChangeHandler :=
  Service.all.foldl (addService sw)
    (hs.map fun h => { h with device := h.device.setEnabled sw })

def vmHandle (hs : List ChangeHandler) : Option UmsHandle := hs.findSome? (·.device.ums?)

def ftHandle (hs : List ChangeHandler) : Option Ums1Handle := hs.findSome? (·.device.ums1?)

def networkHandle (hs : List ChangeHandler) : Option NetworkAdapterHandle :=
  hs.findSome? (·.device.network?)

def umsMode (hs : List ChangeHandler) : UmsMode := ((vmHandle hs).map (·.mode)).getD .cdRom

/-- Put another state of the handle behind the virtual media service. -/
def setVm (u : UmsHandle) (hs : List ChangeHandler) : List ChangeHandler :=
  hs.map fun h => match h.device with
    | .ums _ => { h with device := .ums u }
    | _ => h

def setFt (u : Ums1Handle) (hs : List ChangeHandler) : List ChangeHandler :=
  hs.map fun h => match h.device with
    | .ums1 _ => { h with device := .ums1 u }
    | _ => h

def updateNetwork (f : NetworkAdapterHandle → NetworkAdapterHandle) (hs : List ChangeHandler) :
    List ChangeHandler :=
  hs.map fun h => match h.device with
    | .networkAdapter u => { h with device := .networkAdapter (f u) }
    | _ => h

/-! ## Building a gadget -/

def usbMaxStringLen : Nat := 126

def validateStrings (baseInfo : UsbBaseInfo) : Except UsbError Unit :=
  if usbMaxStringLen < baseInfo.manufacturer.utf8ByteSize ∨
      usbMaxStringLen < baseInfo.product.utf8ByteSize ∨
      usbMaxStringLen < baseInfo.serialNumber.utf8ByteSize then
    .error (.invalidArgument
      ("length of manufacturer, product or serial_number must not exceed " ++
        toString usbMaxStringLen ++ " characters"))
  else .ok ()

def onGadgetRegistered (io : BindIo) (sw : DeviceSwitches) : Except UsbError Unit :=
  match sw.networkAdapter with
  | some na => if na.enable ∧ na.adapterType = .rndis then io.msOsCompat else .ok ()
  | none => .ok ()

def netFunction (sw : DeviceSwitches) : Option NetworkAdapterType :=
  sw.networkAdapter.bind fun na => if na.enable then some na.adapterType else none

def bringUp (io : BindIo) (baseInfo : UsbBaseInfo) (sw : DeviceSwitches) :
    Except UsbError Unit := do
  validateStrings baseInfo
  io.registered
  onGadgetRegistered io sw
  io.bound

/-- The `cdrom` flag of the virtual media LUN that `build_gadget` makes. -/
def vmLunCdrom (g : Gadget) : Option Bool :=
  if g.switches.umsVmEnabled then some (g.umsMode = .cdRom) else none

namespace UsbDeviceManager

def bindGadgetFromCurrentSwitches (io : BindIo) : Action UsbError UsbDeviceManager Unit := fun s =>
  let hs := applyDeviceServices s.switches s.handlers
  let attempt (succeeded : Bool) := s.attempts ++ [⟨s.baseInfo, s.switches, succeeded⟩]
  if ¬ s.switches.hasAnyEnabled then
    ({ s with
      handlers := hs
      attempts := attempt true }, .ok ())
  else match bringUp io s.baseInfo s.switches with
    | .error e =>
        ({ s with
          handlers := hs
          attempts := attempt false }, .error e)
    | .ok () =>
        ({ s with
          handlers := updateNetwork (·.setNet (netFunction s.switches)) hs
          activeGadget := some ⟨s.baseInfo, s.switches, umsMode hs⟩
          attempts := attempt true }, .ok ())

def unbindActiveGadget (released : Except UsbError Unit) :
    Action UsbError UsbDeviceManager Unit := fun s =>
  ({ s with activeGadget := none }, released)

/-! ## Notifications -/

def notifyAll (io : HandlerIo) (req : ChangeRequest) (s : UsbDeviceManager) : UsbDeviceManager :=
  { s with handlers := s.handlers.map fun h => (h.onChangeRequest io req).1 }

/-- Ask the handlers, up to the first that rejects; then the change is cancelled at
all of them. -/
def askHandlers (io : HandlerIo) (req : ChangeRequest) : Action UsbError UsbDeviceManager Unit :=
  fun s =>
    let r := poll (fun h => (h.onChangeRequest io req).map id ChangeResponse.reason?) s.handlers
    match r.2 with
    | none => ({ s with handlers := r.1 }, .ok ())
    | some reason =>
        (notifyAll io .changeCanceled { s with handlers := r.1 }, .error (.changeRejected reason))

def requestChangeOnly (io : HandlerIo) : Action UsbError UsbDeviceManager Unit :=
  askHandlers io .requestChange

def requestChangeApproval (io : HandlerIo) : Action UsbError UsbDeviceManager Unit := do
  requestChangeOnly io
  askHandlers io .prepareChange

/-! ## Changing the gadget -/

/-- The last part of `apply_switches_locked`: when the new gadget cannot be brought up,
the old values are restored and tried. -/
def bindOrRestore (io : RebuildIo) (old : UsbDeviceManager) :
    Action UsbError UsbDeviceManager Unit := fun s =>
  match bindGadgetFromCurrentSwitches io.bind s with
  | (s', .ok ()) => (notifyAll io.handlers .changeCompleted s', .ok ())
  | (s', .error e) =>
      let restored := { s' with
        baseInfo := old.baseInfo
        switches := old.switches }
      (notifyAll io.handlers .changeCanceled (bindGadgetFromCurrentSwitches io.fallback restored).1,
        .error e)

def applySwitches (io : RebuildIo) (baseInfo : Option UsbBaseInfo)
    (switches : Option DeviceSwitches) : Action UsbError UsbDeviceManager Unit := do
  let s ← Action.read
  Action.ensure (s.emulationEnabled = true) (.gadgetError "USB emulation disabled")
  Action.ofExcept (checkEndpointBudget (switches.getD s.switches))
  requestChangeApproval io.handlers
  unbindActiveGadget io.released
  let old ← Action.read
  Action.modify fun s =>
    { s with
      baseInfo := baseInfo.getD s.baseInfo
      switches := switches.getD s.switches }
  bindOrRestore io old

/-- `set_emulation_enabled(true)`. -/
def enableEmulation (io : RebuildIo) : Action UsbError UsbDeviceManager Unit := do
  let s ← Action.read
  if s.activeGadget.isSome then Action.modify fun s => { s with emulationEnabled := true }
  else
    requestChangeApproval io.handlers
    bindGadgetFromCurrentSwitches io.bind
    Action.modify fun s => notifyAll io.handlers .changeCompleted { s with emulationEnabled := true }

/-- `set_emulation_enabled(false)`. -/
def disableEmulation (io : RebuildIo) : Action UsbError UsbDeviceManager Unit := do
  let s ← Action.read
  if s.activeGadget = none then Action.modify fun s => { s with emulationEnabled := false }
  else
    requestChangeApproval io.handlers
    unbindActiveGadget io.released
    Action.modify fun s => notifyAll io.handlers .changeCompleted { s with emulationEnabled := false }

def setEmulationEnabled (io : RebuildIo) (enabled : Bool) : Action UsbError UsbDeviceManager Unit :=
  if enabled then enableEmulation io else disableEmulation io

end UsbDeviceManager

end ArkKvm.GadgetChange
