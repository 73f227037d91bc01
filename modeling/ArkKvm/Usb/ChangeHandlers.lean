import ArkKvm.Usb.Sidecar

/-!
# Change handlers of the gadget

Before the manager takes a gadget down it asks every registered change handler
(`events.rs`), and when it is done or gives up it tells them.  The handlers are
the seven device services with the resources they hold, and subscribers of which
only the answers matter.  Commands to the I/O threads of a HID handle are taken
as carried out when they are sent.  The microphone process and the flags that
limit log messages are left out.
-/

namespace ArkKvm.GadgetChange

open Lib (Action)
open Sidecar (UsbError UmsMode UmsVmType DeviceSwitches NetworkAdapterL3Info LunIo UmsHandle
  Ums1Handle umsVmName umsFtName)

inductive ChangeRequest
  | requestChange
  | prepareChange
  | changeCompleted
  | changeCanceled
deriving DecidableEq

def ChangeRequest.closes : ChangeRequest → Bool
  | .requestChange | .prepareChange => false
  | .changeCompleted | .changeCanceled => true

inductive ChangeResponse
  | proceed
  | reject (reason : String)
deriving DecidableEq

def ChangeResponse.reason? : ChangeResponse → Option String
  | .proceed => none
  | .reject reason => some reason

/-! ## HID handles -/

inductive HidKind
  | kb
  | rel
  | abs
deriving DecidableEq

structure HidHandle where
  enabled : Bool
  udcUpdating : Bool := false
  devicePath : Option String := none
  /-- the file that the write thread has open -/
  file : Option String := none
  /-- the file that the LED thread of the keyboard has open -/
  ledFile : Option String := none
deriving DecidableEq

structure HidIo where
  /-- the path that `resolve_hid_device_path` finds -/
  resolved : Option String
  opens : Bool
  ledOpens : Bool

namespace HidHandle

def setEnabled (enabled : Bool) (h : HidHandle) : HidHandle :=
  if enabled then { h with enabled := true }
  else { h with enabled := false, file := none, ledFile := none }

def syncDevicePath (io : HidIo) (h : HidHandle) : HidHandle :=
  { h with devicePath := if h.enabled then io.resolved else none }

/-- `open_device_if_ready`: a thread drops the file it has before it opens another. -/
def openDeviceIfReady (kind : HidKind) (io : HidIo) (h : HidHandle) : HidHandle :=
  if ¬ h.enabled then h
  else match h.devicePath with
    | none => h
    | some path =>
        { h with
          file := if io.opens then some path else none
          ledFile := match kind with
            | .kb => if io.ledOpens then some path else none
            | .rel | .abs => h.ledFile }

def onChangeRequest (kind : HidKind) (io : HidIo) (h : HidHandle) :
    ChangeRequest → HidHandle × ChangeResponse
  | .requestChange => ({ h with udcUpdating := true }, .proceed)
  | .prepareChange => ({ h with file := none, ledFile := none, devicePath := none }, .proceed)
  | .changeCompleted | .changeCanceled =>
      ({ openDeviceIfReady kind io (syncDevicePath io h) with udcUpdating := false }, .proceed)

end HidHandle

/-! ## The microphone -/

structure UacHandle where
  enabled : Bool
  udcUpdating : Bool := false
deriving DecidableEq

def UacHandle.onChangeRequest (h : UacHandle) : ChangeRequest → UacHandle × ChangeResponse
  | .requestChange => ({ h with udcUpdating := true }, .proceed)
  | .prepareChange => (h, .proceed)
  | .changeCompleted | .changeCanceled => ({ h with udcUpdating := false }, .proceed)

/-! ## The network adapter -/

structure AdapterL3Settings where
  ipAddress : String := "172.16.0.1"
  subnetMask : String := "255.255.255.0"
  gateway : Option String := none
  dnsServers : List String := []
deriving DecidableEq

def AdapterL3Settings.ofProto (c : NetworkAdapterL3Info) : AdapterL3Settings where
  ipAddress := c.ipAddress
  subnetMask := c.subnetMask
  gateway := c.gateway.filter (· ≠ "")
  dnsServers := c.dnsServers

structure NetworkAdapterHandle where
  enabled : Bool
  udcUpdating : Bool := false
  /-- the network function of the bound gadget -/
  net : Option NetworkAdapterType := none
  ifname : Option String := none
  l3 : AdapterL3Settings := {}
deriving DecidableEq

structure NetworkIo where
  /-- the interface name that the network function has while it is waited for -/
  ifname : Option String
  /-- the result of `apply_board_l3` -/
  boardL3 : Except UsbError Unit

namespace NetworkAdapterHandle

def setNet (net : Option NetworkAdapterType) (h : NetworkAdapterHandle) : NetworkAdapterHandle :=
  { h with
    net := net
    ifname := if net = none then none else h.ifname }

def setL3FromProto (cfg : Option NetworkAdapterL3Info) (h : NetworkAdapterHandle) :
    NetworkAdapterHandle :=
  match cfg with
  | none => h
  | some c =>
      if c.ipAddress = "" ∧ c.subnetMask = "" then h else { h with l3 := .ofProto c }

def refreshIfnameFromNet (io : NetworkIo) (h : NetworkAdapterHandle) : NetworkAdapterHandle :=
  if ¬ h.enabled then { h with ifname := none }
  else { h with ifname := (h.net.bind fun _ => io.ifname).filter (· ≠ "") }

def applyL3 (io : NetworkIo) : Action UsbError NetworkAdapterHandle Unit := fun h =>
  if ¬ h.enabled then (h, .ok ())
  else
    let h := h.refreshIfnameFromNet io
    match h.ifname with
    | none =>
        (h, .error (.deviceNotFound "network adapter enabled but netdev ifname not found"))
    | some _ => (h, io.boardL3)

def onChangeRequest (io : NetworkIo) (h : NetworkAdapterHandle) :
    ChangeRequest → NetworkAdapterHandle × ChangeResponse
  | .requestChange => (h, .proceed)
  | .prepareChange => (({ h with udcUpdating := true } : NetworkAdapterHandle).setNet none, .proceed)
  | .changeCompleted | .changeCanceled => ((applyL3 io { h with udcUpdating := false }).1, .proceed)

end NetworkAdapterHandle

/-! ## The mass storage LUNs -/

/-- `on_change_request` of the virtual media LUN. -/
def umsOnChangeRequest (io : LunIo) (h : UmsHandle) : ChangeRequest → UmsHandle × ChangeResponse
  | .requestChange => (h, .proceed)
  | .prepareChange => match h.prepareChange io with
      | .ok h' => (h', .proceed)
      | .error reason => (h, .reject reason)
  | .changeCompleted | .changeCanceled => ({ h with udcUpdating := false }, .proceed)

/-- `on_change_request` of the file transfer LUN. -/
def ums1OnChangeRequest (io : LunIo) (h : Ums1Handle) : ChangeRequest → Ums1Handle × ChangeResponse
  | .requestChange => (h, .proceed)
  | .prepareChange => match h.prepareChange io with
      | .ok h' => (h', .proceed)
      | .error reason => (h, .reject reason)
  | .changeCompleted | .changeCanceled => ({ h with udcUpdating := false }, .proceed)

/-! ## Handlers -/

inductive Service
  | ums
  | ums1
  | uac
  | hid (kind : HidKind)
  | networkAdapter
deriving DecidableEq

def Service.all : List Service :=
  [.ums, .ums1, .uac, .hid .kb, .hid .rel, .hid .abs, .networkAdapter]

def Service.handlerName : Service → String
  | .ums => umsVmName
  | .ums1 => umsFtName
  | .uac => "ArkKVM Microphone"
  | .hid .kb => "usb0"
  | .hid .abs => "usb1"
  | .hid .rel => "usb2"
  | .networkAdapter => "network_adapter"

def Service.enabledBy (sw : DeviceSwitches) : Service → Bool
  | .ums => sw.umsVmEnabled
  | .ums1 => sw.umsFtEnabled
  | .uac => sw.uac1Enabled
  | .hid .kb => sw.hidKbEnabled
  | .hid .rel => sw.hidRelEnabled
  | .hid .abs => sw.hidAbsEnabled
  | .networkAdapter => sw.networkEnabled

/-- What is behind a change handler. -/
inductive Device
  | ums (h : UmsHandle)
  | ums1 (h : Ums1Handle)
  | uac (h : UacHandle)
  | hid (kind : HidKind) (h : HidHandle)
  | networkAdapter (h : NetworkAdapterHandle)
  | subscriber
deriving DecidableEq

/-- What the outside world and the subscribers answer during one change. -/
structure HandlerIo where
  vm : LunIo
  ft : LunIo
  hid : HidKind → HidIo
  network : NetworkIo
  /-- the answer of the subscriber of that name -/
  answer : String → ChangeRequest → ChangeResponse

namespace Device

def service? : Device → Option Service
  | .ums _ => some .ums
  | .ums1 _ => some .ums1
  | .uac _ => some .uac
  | .hid kind _ => some (.hid kind)
  | .networkAdapter _ => some .networkAdapter
  | .subscriber => none

def enabled : Device → Bool
  | .ums h => h.enabled
  | .ums1 h => h.enabled
  | .uac h => h.enabled
  | .hid _ h => h.enabled
  | .networkAdapter h => h.enabled
  | .subscriber => true

def udcUpdating : Device → Bool
  | .ums h => h.udcUpdating
  | .ums1 h => h.udcUpdating
  | .uac h => h.udcUpdating
  | .hid _ h => h.udcUpdating
  | .networkAdapter h => h.udcUpdating
  | .subscriber => false

def ums? : Device → Option UmsHandle
  | .ums h => some h
  | _ => none

def ums1? : Device → Option Ums1Handle
  | .ums1 h => some h
  | _ => none

def network? : Device → Option NetworkAdapterHandle
  | .networkAdapter h => some h
  | _ => none

structure Traits where
  service : Option Service
  enabled : Bool
  umsMode : Option UmsMode
  l3 : Option AdapterL3Settings

def traits (d : Device) : Traits where
  service := d.service?
  enabled := d.enabled
  umsMode := d.ums?.map (·.mode)
  l3 := d.network?.map (·.l3)

/-- The handle of a service as it is made by `apply_device_services`. -/
def new (enabled : Bool) : Service → Device
  | .ums => .ums ⟨enabled, .cdRom, none, false⟩
  | .ums1 => .ums1 ⟨enabled, none, false⟩
  | .uac => .uac { enabled := enabled }
  | .hid kind => .hid kind { enabled := enabled }
  | .networkAdapter => .networkAdapter { enabled := enabled }

def setEnabled (sw : DeviceSwitches) : Device → Device
  | .ums h => .ums { h with enabled := sw.umsVmEnabled }
  | .ums1 h => .ums1 { h with enabled := sw.umsFtEnabled }
  | .uac h => .uac { h with enabled := sw.uac1Enabled }
  | .hid kind h => .hid kind (h.setEnabled (Service.enabledBy sw (.hid kind)))
  | .networkAdapter h => .networkAdapter { h with enabled := sw.networkEnabled }
  | .subscriber => .subscriber

def onChangeRequest (io : HandlerIo) (name : String) (req : ChangeRequest) :
    Device → Device × ChangeResponse
  | .ums h => ((umsOnChangeRequest io.vm h req).map .ums id)
  | .ums1 h => ((ums1OnChangeRequest io.ft h req).map .ums1 id)
  | .uac h => ((h.onChangeRequest req).map .uac id)
  | .hid kind h => ((h.onChangeRequest kind (io.hid kind) req).map (.hid kind) id)
  | .networkAdapter h => ((h.onChangeRequest io.network req).map .networkAdapter id)
  | .subscriber => (.subscriber, io.answer name req)

end Device

/-- A device service or a subscriber.  A service stays with the manager when its
handler is removed, or was never registered because its name was taken. -/
structure ChangeHandler where
  name : String
  device : Device
  registered : Bool := true
  /-- the last request that was delivered did not end a change -/
  pending : Bool := false
deriving DecidableEq

namespace ChangeHandler

def onChangeRequest (io : HandlerIo) (req : ChangeRequest) (h : ChangeHandler) :
    ChangeHandler × ChangeResponse :=
  if ¬ h.registered then (h, .proceed)
  else
    let r := h.device.onChangeRequest io h.name req
    ({ h with
      device := r.1
      pending := !req.closes }, r.2)

def Closed (h : ChangeHandler) : Prop := h.pending = false ∧ h.device.udcUpdating = false

instance (h : ChangeHandler) : Decidable h.Closed :=
  inferInstanceAs (Decidable (h.pending = false ∧ h.device.udcUpdating = false))

end ChangeHandler

/-! ## The LUNs -/

theorem umsUnmount_ok {io : LunIo} {h h' : UmsHandle} (hok : h.unmount io = .ok h') :
    h' = if h.enabled then { h with filePath := none } else h := by
  unfold UmsHandle.unmount at hok
  by_cases hon : h.enabled = true
  · rw [if_neg (not_not_intro hon)] at hok
    rw [if_pos hon]
    split at hok
    · cases hok
    · split at hok
      · cases hok
        rfl
      · split at hok
        · cases hok
          rfl
        · cases hw : io.written with
          | error e =>
              rw [hw] at hok
              cases hok
          | ok _ =>
              rw [hw] at hok
              cases hok
              rfl
  · rw [if_pos hon] at hok
    rw [if_neg hon]
    cases hok
    rfl

theorem ums1Unmount_ok {io : LunIo} {h h' : Ums1Handle} (hok : h.unmount io = .ok h') :
    h' = { h with filePath := none } := by
  unfold Ums1Handle.unmount at hok
  split at hok
  · cases hok
  · split at hok
    · cases hok
    · split at hok
      · cases hok
      · split at hok
        · cases hok
        · cases hw : io.written with
          | error e =>
              rw [hw] at hok
              cases hok
          | ok _ =>
              rw [hw] at hok
              cases hok
              rfl

theorem umsPrepareChange_ok {io : LunIo} {h h' : UmsHandle} (hok : h.prepareChange io = .ok h') :
    h' = { h with
      filePath := if h.enabled then none else h.filePath
      udcUpdating := true } := by
  unfold UmsHandle.prepareChange at hok
  split at hok
  · next h₁ h₁ok =>
      cases hok
      rw [umsUnmount_ok h₁ok]
      by_cases hon : h.enabled = true
      · rw [if_pos hon, if_pos hon]
      · rw [if_neg hon, if_neg hon]
  · cases hok

/-- The file transfer LUN also agrees to a change when it cannot be unmounted
because it is off or not found; it then keeps its image. -/
theorem ums1PrepareChange_ok {io : LunIo} {h h' : Ums1Handle}
    (hok : h.prepareChange io = .ok h') :
    h' = { h with
      filePath := if (h.unmount io).isOk then none else h.filePath
      udcUpdating := true } := by
  unfold Ums1Handle.prepareChange at hok
  split at hok
  · next h₁ h₁ok =>
      cases hok
      rw [h₁ok, ums1Unmount_ok h₁ok]
      rfl
  · next herr =>
      cases hok
      rw [herr]
      rfl
  · next herr =>
      cases hok
      rw [herr]
      rfl
  · cases hok

/-! ## What a request does to a handler -/

theorem umsOnChangeRequest_frame (io : LunIo) (h : UmsHandle) (req : ChangeRequest) :
    (umsOnChangeRequest io h req).1.enabled = h.enabled ∧
      (umsOnChangeRequest io h req).1.mode = h.mode := by
  cases req with
  | prepareChange =>
      unfold umsOnChangeRequest
      cases hp : h.prepareChange io with
      | ok h' =>
          rw [umsPrepareChange_ok hp]
          exact ⟨rfl, rfl⟩
      | error reason => exact ⟨rfl, rfl⟩
  | _ => exact ⟨rfl, rfl⟩

theorem ums1OnChangeRequest_enabled (io : LunIo) (h : Ums1Handle) (req : ChangeRequest) :
    (ums1OnChangeRequest io h req).1.enabled = h.enabled := by
  cases req with
  | prepareChange =>
      unfold ums1OnChangeRequest
      cases hp : h.prepareChange io with
      | ok h' => rw [ums1PrepareChange_ok hp]
      | error reason => rfl
  | _ => rfl

theorem UacHandle.onChangeRequest_enabled (h : UacHandle) (req : ChangeRequest) :
    (h.onChangeRequest req).1.enabled = h.enabled := by
  cases req <;> rfl

namespace HidHandle

theorem openDeviceIfReady_enabled (kind : HidKind) (io : HidIo) (h : HidHandle) :
    (openDeviceIfReady kind io h).enabled = h.enabled := by
  unfold openDeviceIfReady
  split
  · rfl
  · split <;> rfl

theorem onChangeRequest_enabled (kind : HidKind) (io : HidIo) (h : HidHandle)
    (req : ChangeRequest) : (h.onChangeRequest kind io req).1.enabled = h.enabled := by
  cases req with
  | requestChange => rfl
  | prepareChange => rfl
  | changeCompleted => exact openDeviceIfReady_enabled kind io _
  | changeCanceled => exact openDeviceIfReady_enabled kind io _

end HidHandle

namespace NetworkAdapterHandle

theorem refreshIfnameFromNet_eq (io : NetworkIo) (h : NetworkAdapterHandle) :
    h.refreshIfnameFromNet io = { h with ifname := (h.refreshIfnameFromNet io).ifname } := by
  unfold refreshIfnameFromNet
  split <;> rfl

theorem applyL3_eq (io : NetworkIo) (h : NetworkAdapterHandle) :
    (applyL3 io h).1 =
      { h with ifname := if h.enabled then (h.refreshIfnameFromNet io).ifname else h.ifname } := by
  unfold applyL3
  by_cases hon : h.enabled = true
  · rw [if_neg (not_not_intro hon), if_pos hon]
    have hfst : ∀ h₁ : NetworkAdapterHandle, (match h₁.ifname with
        | none => (h₁, Except.error
            (UsbError.deviceNotFound "network adapter enabled but netdev ifname not found"))
        | some _ => (h₁, io.boardL3)).1 = h₁ := by
      intro h₁
      split <;> rfl
    rw [hfst]
    exact refreshIfnameFromNet_eq io h
  · rw [if_pos hon, if_neg hon]

theorem onChangeRequest_frame (io : NetworkIo) (h : NetworkAdapterHandle) (req : ChangeRequest) :
    (h.onChangeRequest io req).1.enabled = h.enabled ∧
      (h.onChangeRequest io req).1.l3 = h.l3 := by
  cases req with
  | requestChange => exact ⟨rfl, rfl⟩
  | prepareChange => exact ⟨rfl, rfl⟩
  | changeCompleted =>
      unfold onChangeRequest
      rw [applyL3_eq]
      exact ⟨rfl, rfl⟩
  | changeCanceled =>
      unfold onChangeRequest
      rw [applyL3_eq]
      exact ⟨rfl, rfl⟩

end NetworkAdapterHandle

namespace Device

theorem traits_onChangeRequest (io : HandlerIo) (name : String) (req : ChangeRequest)
    (d : Device) : (d.onChangeRequest io name req).1.traits = d.traits := by
  cases d with
  | ums h =>
      obtain ⟨henabled, hmode⟩ := umsOnChangeRequest_frame io.vm h req
      change Traits.mk _ (umsOnChangeRequest io.vm h req).1.enabled
        (some (umsOnChangeRequest io.vm h req).1.mode) _ = _
      rw [henabled, hmode]
      rfl
  | ums1 h =>
      change Traits.mk _ (ums1OnChangeRequest io.ft h req).1.enabled _ _ = _
      rw [ums1OnChangeRequest_enabled]
      rfl
  | uac h =>
      change Traits.mk _ (h.onChangeRequest req).1.enabled _ _ = _
      rw [UacHandle.onChangeRequest_enabled]
      rfl
  | hid kind h =>
      change Traits.mk _ (h.onChangeRequest kind (io.hid kind) req).1.enabled _ _ = _
      rw [HidHandle.onChangeRequest_enabled]
      rfl
  | networkAdapter h =>
      obtain ⟨henabled, hl3⟩ := h.onChangeRequest_frame io.network req
      change Traits.mk _ (h.onChangeRequest io.network req).1.enabled _
        (some (h.onChangeRequest io.network req).1.l3) = _
      rw [henabled, hl3]
      rfl
  | subscriber => rfl

theorem udcUpdating_of_closes {req : ChangeRequest} (h : req.closes = true) (io : HandlerIo)
    (name : String) (d : Device) : (d.onChangeRequest io name req).1.udcUpdating = false := by
  have hnet : ∀ u : NetworkAdapterHandle, u.udcUpdating = false →
      (NetworkAdapterHandle.applyL3 io.network u).1.udcUpdating = false := by
    intro u hu
    rw [NetworkAdapterHandle.applyL3_eq]
    exact hu
  cases req with
  | requestChange => cases h
  | prepareChange => cases h
  | changeCompleted =>
      cases d with
      | networkAdapter u => exact hnet { u with udcUpdating := false } rfl
      | _ => rfl
  | changeCanceled =>
      cases d with
      | networkAdapter u => exact hnet { u with udcUpdating := false } rfl
      | _ => rfl

theorem proceeds_at_requestChange (io : HandlerIo) (name : String) {d : Device}
    (h : d ≠ .subscriber) : (d.onChangeRequest io name .requestChange).2 = .proceed := by
  cases d with
  | subscriber => exact absurd rfl h
  | _ => rfl

theorem prepareChange_after_requestChange (io : HandlerIo) (name : String) (d : Device) :
    ((d.onChangeRequest io name .requestChange).1.onChangeRequest io name .prepareChange).2 =
      (d.onChangeRequest io name .prepareChange).2 := by
  cases d <;> rfl

end Device

namespace ChangeHandler

variable (io : HandlerIo) (req : ChangeRequest) (h : ChangeHandler)

theorem onChangeRequest_of_registered (hreg : h.registered = true) :
    h.onChangeRequest io req =
      ({ h with
        device := (h.device.onChangeRequest io h.name req).1
        pending := !req.closes }, (h.device.onChangeRequest io h.name req).2) := by
  unfold onChangeRequest
  rw [if_neg (not_not_intro hreg)]

theorem onChangeRequest_of_unregistered (hreg : ¬ h.registered = true) :
    h.onChangeRequest io req = (h, .proceed) := by
  unfold onChangeRequest
  rw [if_pos hreg]

theorem onChangeRequest_frame :
    (h.onChangeRequest io req).1.name = h.name ∧
      (h.onChangeRequest io req).1.registered = h.registered ∧
      (h.onChangeRequest io req).1.device.traits = h.device.traits := by
  by_cases hreg : h.registered = true
  · rw [onChangeRequest_of_registered io req h hreg]
    exact ⟨rfl, rfl, Device.traits_onChangeRequest io h.name req h.device⟩
  · rw [onChangeRequest_of_unregistered io req h hreg]
    exact ⟨rfl, rfl, rfl⟩

theorem registered_onChangeRequest :
    (h.onChangeRequest io req).1.registered = h.registered :=
  (onChangeRequest_frame io req h).2.1

theorem closed_of_closes (hreq : req.closes = true) (hreg : h.registered = true) :
    (h.onChangeRequest io req).1.Closed := by
  rw [onChangeRequest_of_registered io req h hreg]
  refine ⟨?_, Device.udcUpdating_of_closes hreq io h.name h.device⟩
  rw [hreq]
  rfl

theorem prepareChange_after_requestChange :
    ((h.onChangeRequest io .requestChange).1.onChangeRequest io .prepareChange).2 =
      (h.onChangeRequest io .prepareChange).2 := by
  by_cases hreg : h.registered = true
  · have hreg' := registered_onChangeRequest io .requestChange h
    rw [hreg] at hreg'
    rw [onChangeRequest_of_registered io .prepareChange _ hreg',
      onChangeRequest_of_registered io _ h hreg, onChangeRequest_of_registered io _ h hreg]
    exact Device.prepareChange_after_requestChange io h.name h.device
  · rw [onChangeRequest_of_unregistered io .requestChange h hreg]

end ChangeHandler

end ArkKvm.GadgetChange
