import ArkKvm.Lib.Run
import ArkKvm.Usb.Media

/-!
# The mounted medium across gadget rebuilds

The application's `CURRENT_VIRTUAL_MEDIA_STATE`, the payload cached by its USB
client and the LUN of the sidecar are three copies of one fact.  Mounts go to the
LUN without touching the cache, and a rebuild empties the LUN and mounts what the
cache says, so the copies agree over a run only if no rebuild is asked for while
a medium is mounted.
-/

namespace ArkKvm.Media

open Lib
open Sidecar Sidecar.UsbDeviceManager

/-! ## Rebuilds without faults -/

/-- Between two commands: no handle waits for the end of a change, and the
virtual media function is on once it exists. -/
structure Ready (m : UsbDeviceManager) : Prop where
  vm : ∀ h, m.vm = some h → h.enabled = true ∧ h.udcUpdating = false
  ft : ∀ h, m.ft = some h → h.udcUpdating = false
  switches : m.vm.isSome → m.switches.umsVmEnabled = true

structure Rebuilt (m : UsbDeviceManager) (switches : DeviceSwitches) (m' : UsbDeviceManager) :
    Prop where
  vm : m'.vm = some ⟨switches.umsVmEnabled, m.umsMode, none, false⟩
  ft : ∀ h, m'.ft = some h → h.udcUpdating = false
  switches : m'.switches = switches

theorem unmount_working {h : UmsHandle} (hon : h.enabled = true)
    (hidle : h.udcUpdating = false) : h.unmount .working = .ok { h with filePath := none } := by
  simp [UmsHandle.unmount, hon, hidle, LunIo.working, Except.map]

theorem ftPrepareChange_working {h : Ums1Handle} (hidle : h.udcUpdating = false) :
    ∃ h', h.prepareChange .working = .ok h' := by
  cases hon : h.enabled <;>
    simp [Ums1Handle.prepareChange, Ums1Handle.unmount, hon, hidle, LunIo.working, Except.map]

def prepared (h : UmsHandle) : UmsHandle :=
  { h with
    filePath := none
    udcUpdating := true }

theorem prepareVm_working (vmFirst : Bool) {m : UsbDeviceManager}
    (hvm : ∀ h, m.vm = some h → h.enabled = true ∧ h.udcUpdating = false) :
    prepareVm (.working vmFirst) m = ({ m with vm := m.vm.map prepared }, .ok ()) := by
  cases hm : m.vm with
  | none =>
      unfold prepareVm
      rw [hm, Option.map_none, Option.map_none, ← hm]
  | some h =>
      obtain ⟨hon, hidle⟩ := hvm h hm
      simp [prepareVm, hm, UmsHandle.prepareChange, Io.working, prepared,
        unmount_working hon hidle]

theorem prepareFt_working (vmFirst : Bool) {m : UsbDeviceManager}
    (hft : ∀ h, m.ft = some h → h.udcUpdating = false) :
    ∃ ft', prepareFt (.working vmFirst) m = ({ m with ft := ft' }, .ok ()) := by
  cases hm : m.ft with
  | none =>
      refine ⟨none, ?_⟩
      unfold prepareFt
      rw [hm, Option.map_none, ← hm]
  | some h =>
      obtain ⟨h', hp⟩ := ftPrepareChange_working (hft h hm)
      refine ⟨some h', ?_⟩
      simp only [prepareFt, hm, Option.map_some, Io.working, hp]

theorem requestChangeApproval_working (vmFirst : Bool) {m : UsbDeviceManager} (h : Ready m) :
    ∃ ft', requestChangeApproval (.working vmFirst) m =
      ({ m with
        vm := m.vm.map prepared
        ft := ft' }, .ok ()) := by
  cases vmFirst with
  | true =>
      obtain ⟨ft', hft⟩ := prepareFt_working true (m := { m with vm := m.vm.map prepared }) h.ft
      have hrun : prepareChange (.working true) m = _ :=
        (Action.bind_run _ _ m).trans
          (by rw [prepareVm_working true h.vm, Action.andThen_ok, hft])
      exact ⟨ft', by rw [requestChangeApproval, hrun]⟩
  | false =>
      obtain ⟨ft', hft⟩ := prepareFt_working false h.ft
      have hvm := prepareVm_working false (m := { m with ft := ft' }) h.vm
      have hrun : prepareChange (.working false) m = _ :=
        (Action.bind_run _ _ m).trans (by rw [hft, Action.andThen_ok, hvm])
      exact ⟨ft', by rw [requestChangeApproval, hrun]⟩

theorem bindGadget_ok (m : UsbDeviceManager) :
    ∃ g, bindGadgetFromCurrentSwitches (.ok ()) m =
      ({ applyDeviceServices m with activeGadget := g }, .ok ()) := by
  unfold bindGadgetFromCurrentSwitches
  simp only [Action.bind_run, Action.modify, Action.read, Action.andThen_ok]
  split
  · exact ⟨_, rfl⟩
  · exact ⟨_, rfl⟩

theorem rebuildGadget_working (vmFirst : Bool) (baseInfo : Option UsbBaseInfo)
    (switches : Option DeviceSwitches) (m : UsbDeviceManager) :
    ∃ g, rebuildGadget (.working vmFirst) baseInfo switches m =
      (changeCompleted { applyDeviceServices { m with
          activeGadget := none
          baseInfo := baseInfo.getD m.baseInfo
          switches := switches.getD m.switches } with activeGadget := g }, .ok ()) := by
  obtain ⟨g, hbind⟩ := bindGadget_ok { m with
    activeGadget := none
    baseInfo := baseInfo.getD m.baseInfo
    switches := switches.getD m.switches }
  refine ⟨g, ?_⟩
  change bindOrRestore _ _ _ = _
  unfold bindOrRestore
  rw [show (Io.working vmFirst).bound = .ok () from rfl, hbind]

/-- A rebuild without faults either is refused before anything is changed or
goes through and leaves the LUN empty. -/
theorem applySwitches_working (vmFirst : Bool) (baseInfo : Option UsbBaseInfo)
    (switches : Option DeviceSwitches) {m : UsbDeviceManager} (h : Ready m) :
    (∃ e, applySwitches (.working vmFirst) baseInfo switches m = (m, .error e)) ∨
      ∃ m', applySwitches (.working vmFirst) baseInfo switches m = (m', .ok ()) ∧
        Rebuilt m (switches.getD m.switches) m' := by
  unfold applySwitches
  rw [Action.bind_of_ok (show Action.read m = (m, .ok m) from rfl)]
  by_cases hemu : m.emulationEnabled = true
  · have hpassed : Action.ensure (m.emulationEnabled = true)
        (UsbError.gadgetError "USB emulation disabled") m = (m, .ok ()) := if_pos hemu
    rw [Action.bind_of_ok hpassed]
    cases hbudget : checkEndpointBudget (switches.getD m.switches) with
    | error e => exact .inl ⟨e, Action.bind_of_error rfl⟩
    | ok u =>
        obtain ⟨ft', happroved⟩ := requestChangeApproval_working vmFirst h
        rw [Action.bind_of_ok (show Action.ofExcept (.ok u) m = (m, .ok u) from rfl),
          Action.bind_of_ok happroved]
        obtain ⟨g, hrebuilt⟩ := rebuildGadget_working vmFirst baseInfo switches
          { m with
            vm := m.vm.map prepared
            ft := ft' }
        refine .inr ⟨_, hrebuilt, ?_, ?_, rfl⟩
        · cases hvm : m.vm <;>
            simp [changeCompleted, applyDeviceServices, umsMode, hvm, prepared]
        · intro h' hft
          cases ft' <;> simp [changeCompleted, applyDeviceServices] at hft <;> rw [← hft]
  · have hrefused : Action.ensure (m.emulationEnabled = true)
        (UsbError.gadgetError "USB emulation disabled") m = _ := if_neg hemu
    exact .inl ⟨_, Action.bind_of_error hrefused⟩

/-! ## Commands without faults -/

theorem switchMode_ok {h h' : UmsHandle} {mode : UmsMode} {rebuild : Bool}
    (hok : h.switchMode mode = .ok (h', rebuild)) :
    h.filePath = none ∧ h' = { h with mode := mode } := by
  unfold UmsHandle.switchMode at hok
  split at hok
  · cases hok
  · split at hok
    · cases hok
    · next hpath =>
        have hpath : h.filePath = none := by simpa using hpath
        split at hok
        · cases hok
        · split at hok
          · next hmode =>
              cases hok
              exact ⟨hpath, by rw [← hmode]⟩
          · cases hok
            exact ⟨hpath, rfl⟩

theorem Ready.of_vm {m : UsbDeviceManager} (h : Ready m) {u u' : UmsHandle} (hu : m.vm = some u)
    (hon : u'.enabled = u.enabled) (hidle : u'.udcUpdating = u.udcUpdating) :
    Ready { m with vm := some u' } := by
  refine ⟨?_, h.ft, fun _ => h.switches (by rw [hu]; rfl)⟩
  rintro _ ⟨⟩
  rw [hon, hidle]
  exact h.vm u hu

theorem Rebuilt.ready {m m' : UsbDeviceManager} {switches : DeviceSwitches}
    (h : Rebuilt m switches m') (hvm : switches.umsVmEnabled = true) : Ready m' := by
  refine ⟨?_, h.ft, fun _ => by rw [h.switches, hvm]⟩
  intro u hu
  rw [h.vm] at hu
  cases hu
  exact ⟨hvm, rfl⟩

theorem umsVmSwitchMode_ok {vmFirst : Bool} {vmType : UmsVmType} {m m' : UsbDeviceManager}
    (h : Ready m) (hok : umsVmSwitchMode (.working vmFirst) vmType m = (m', .ok ())) :
    (∃ u, m.vm = some u ∧ u.filePath = none) ∧ m'.vm = some ⟨true, vmType.mode, none, false⟩ ∧
      Ready m' := by
  unfold umsVmSwitchMode at hok
  cases hvm : m.vm with
  | none => simp [hvm] at hok
  | some u =>
      obtain ⟨hon, hidle⟩ := h.vm u hvm
      rw [hvm, Option.map_some] at hok
      split at hok
      · cases hok
      · cases hok
      · next u' hsw =>
          obtain ⟨hpath, rfl⟩ := switchMode_ok (Option.some.inj hsw)
          cases hok
          refine ⟨⟨u, rfl, hpath⟩, ?_, h.of_vm hvm rfl rfl⟩
          simp [hon, hidle, hpath]
      · next u' hsw =>
          obtain ⟨hpath, rfl⟩ := switchMode_ok (Option.some.inj hsw)
          have hready : Ready { m with vm := some { u with mode := vmType.mode } } :=
            h.of_vm hvm rfl rfl
          have hswitch : m.switches.umsVmEnabled = true := h.switches (by rw [hvm]; rfl)
          replace hok := Action.mapErr_eq_ok hok
          rcases applySwitches_working vmFirst none none hready with ⟨e, herr⟩ | ⟨m₁, hrun, hre⟩
          · rw [herr] at hok
            cases hok
          · obtain rfl := (Prod.mk.inj (hrun.symm.trans hok)).1
            refine ⟨⟨u, rfl, hpath⟩, ?_, hre.ready hswitch⟩
            rw [hre.vm]
            simp [hswitch, umsMode]

theorem mountVm_working (vmFirst : Bool) (path : String) {mode : UmsMode} {m : UsbDeviceManager}
    (hvm : m.vm = some ⟨true, mode, none, false⟩) :
    mountVm (.working vmFirst) path m =
      ({ m with vm := some ⟨true, mode, some path, false⟩ }, .ok ()) := by
  simp [mountVm, hvm, UmsHandle.mount, Io.working, LunIo.working, Except.map]

theorem umsVmMount_ok {vmFirst : Bool} {path : String} {vmType : UmsVmType}
    {m m' : UsbDeviceManager} (h : Ready m) (hpath : path ≠ "" ∧ path ≠ "\n")
    (hok : umsVmMount (.working vmFirst) path vmType m = (m', .ok ())) :
    m'.vm = some ⟨true, vmType.mode, some path, false⟩ ∧ Ready m' := by
  unfold umsVmMount at hok
  rw [if_neg (by tauto)] at hok
  obtain ⟨_, m₁, hsw, hmount⟩ := Action.bind_eq_ok hok
  obtain ⟨-, hvm, hready⟩ := umsVmSwitchMode_ok h hsw
  rw [mountVm_working vmFirst path hvm] at hmount
  obtain ⟨rfl, -⟩ := Prod.mk.inj hmount
  exact ⟨rfl, hready.of_vm hvm rfl rfl⟩

theorem umsVmUnmount_working (vmFirst : Bool) {m : UsbDeviceManager} (h : Ready m) :
    umsVmUnmount (.working vmFirst) m =
      ({ m with vm := m.vm.map fun u => { u with filePath := none } }, .ok ()) := by
  cases hvm : m.vm with
  | none =>
      unfold umsVmUnmount
      rw [hvm, Option.map_none, Option.map_none, ← hvm]
  | some u =>
      obtain ⟨hon, hidle⟩ := h.vm u hvm
      simp [umsVmUnmount, hvm, Io.working, unmount_working hon hidle]

theorem ftUnmount_idle {io : LunIo} {h h' : Ums1Handle} (hok : h.unmount io = .ok h') :
    h'.udcUpdating = h.udcUpdating := by
  unfold Ums1Handle.unmount at hok
  (repeat' split at hok) <;> try cases hok
  cases hw : io.written <;> rw [hw] at hok <;> cases hok
  rfl

theorem applyFtMount_working (io : Io) {info : UsbDeviceInfo} (enabled : Bool)
    {m : UsbDeviceManager} (hpath : info.umsFtPath = "")
    (hft : ∀ h, m.ft = some h → h.udcUpdating = false) :
    ∃ ft', applyFtMount io info enabled m = { m with ft := ft' } ∧
      ∀ h, ft' = some h → h.udcUpdating = false := by
  unfold applyFtMount
  dsimp only
  split
  · next h' hres =>
      refine ⟨some h', rfl, ?_⟩
      rintro _ ⟨⟩
      rw [if_pos hpath] at hres
      split at hres
      · obtain ⟨h, hm, hun⟩ := Option.map_eq_some_iff.mp hres
        exact (ftUnmount_idle hun).trans (hft h hm)
      · cases hres
  · exact ⟨m.ft, rfl, hft⟩

theorem applyUmsMounts_working (vmFirst : Bool) {info : UsbDeviceInfo} {sw : DeviceSwitches}
    {m : UsbDeviceManager} (hsw : info.switches = some sw) (hvm : sw.umsVmEnabled = true)
    (hpaths : info.umsVmPath = "" ∧ info.umsFtPath = "")
    (hft : ∀ h, m.ft = some h → h.udcUpdating = false) :
    ∃ ft', applyUmsMounts (.working vmFirst) info m = ({ m with ft := ft' }, .ok ()) ∧
      ∀ h, ft' = some h → h.udcUpdating = false := by
  have hpre : preflightUmsPathChanges info m = .ok () := by
    unfold preflightUmsPathChanges
    split
    · rw [if_neg (by simp [hpaths.1]), if_neg (by simp [hpaths.2])]
    · rfl
  have hmount : applyVmMount (.working vmFirst) info sw.umsVmEnabled m = (m, .ok ()) := by
    unfold applyVmMount
    split
    · rfl
    · rw [if_neg (by simp [hvm]), if_pos hpaths.1]
  obtain ⟨ft', hftm, hidle⟩ := applyFtMount_working (.working vmFirst)
    sw.umsFtEnabled hpaths.2 hft
  refine ⟨ft', ?_, hidle⟩
  unfold applyUmsMounts
  rw [Action.bind_of_ok (show Action.read m = (m, .ok m) from rfl), hpre,
    Action.bind_of_ok (show Action.ofExcept (.ok ()) m = (m, .ok ()) from rfl), hsw]
  dsimp only
  rw [Action.bind_of_ok hmount, Action.modify, hftm]

/-- An apply without faults and without paths either is refused before anything
is changed, or leaves the LUN alone (board settings only), or leaves it empty. -/
theorem applyFullConfig_working (vmFirst : Bool) (baseInfo : UsbBaseInfo) (info : UsbDeviceInfo)
    {sw : DeviceSwitches} {m : UsbDeviceManager} (h : Ready m) (hsw : info.switches = some sw)
    (hvm : sw.umsVmEnabled = true) (hpaths : info.umsVmPath = "" ∧ info.umsFtPath = "") :
    (∃ e, applyFullConfig (.working vmFirst) info baseInfo m = (m, .error e)) ∨
      ∃ m', applyFullConfig (.working vmFirst) info baseInfo m = (m', .ok ()) ∧ Ready m' ∧
        (m'.vm = m.vm ∨ ∃ mode, m'.vm = some ⟨true, mode, none, false⟩) ∧
        (m.l3Only info sw baseInfo = true → m'.vm = m.vm) := by
  unfold applyFullConfig
  rw [hsw]
  dsimp only
  rw [Action.bind_of_ok (show Action.read m = (m, .ok m) from rfl)]
  by_cases hl3 : m.l3Only info sw baseInfo = true
  · rw [if_pos hl3]
    refine .inr ⟨{ m with lastUsbInfo := some info }, rfl, ⟨h.vm, h.ft, h.switches⟩, .inl rfl, ?_⟩
    exact fun _ => rfl
  · rw [if_neg hl3]
    rcases applySwitches_working vmFirst (some baseInfo) (some sw) h with
      ⟨e, herr⟩ | ⟨m₁, hrun, hre⟩
    · exact .inl ⟨e, Action.bind_of_error herr⟩
    · obtain ⟨ft', hmounts, hidle⟩ := applyUmsMounts_working vmFirst hsw hvm hpaths hre.ft
      have hready := hre.ready hvm
      refine .inr ⟨{ m₁ with
          ft := ft'
          lastUsbInfo := some info }, (Action.bind_of_ok hrun).trans (Action.bind_of_ok hmounts),
        ⟨hready.vm, hidle, hready.switches⟩, .inr ⟨m.umsMode, ?_⟩, fun h => absurd h hl3⟩
      change m₁.vm = _
      rw [hre.vm, Option.getD_some, hvm]

/-! ## The application -/

/-- The LUN mode that goes with a media mode. -/
def VirtualMediaMode.umsMode (mode : VirtualMediaMode) : UmsMode := mode.vmType.mode

/-- Where the medium that the application says is mounted lives. -/
def VirtualMediaState.path (st : VirtualMediaState) : String :=
  match st.source with
  | .storage => Upload.finalPathOf (st.filename.getD "")
  | .http => nbdPath
  | .webRTC => nbdPath

/-- The path on the sidecar's virtual media LUN. -/
def lunPath (m : UsbDeviceManager) : Option String := m.vm.bind (·.filePath)

/-- The LUN holds what the application says is mounted, in its mode. -/
def Agrees (w : World) : Prop :=
  lunPath w.manager = w.media.map (·.path) ∧
    ∀ st, w.media = some st → w.manager.umsMode = st.mode.umsMode

structure MediaInv (w : World) : Prop where
  ready : Ready w.manager
  paths : w.usbInfo.umsVmPath = "" ∧ w.usbInfo.umsFtPath = ""
  agrees : Agrees w

theorem vmModeFromSidecar_umsMode (m : UsbDeviceManager) :
    (vmModeFromSidecar m).vmType.mode = m.umsMode := by
  unfold vmModeFromSidecar
  cases m.umsMode <;> rfl

theorem umsControl_ok {x : Action String UsbDeviceManager Unit} {w w' : World}
    (hok : umsControl x w = (w', .ok ())) :
    ∃ m', x w.manager = (m', .ok ()) ∧ w' = { w with manager := m' } := by
  unfold umsControl at hok
  rcases hx : x w.manager with ⟨m', e | _⟩
  · simp [hx, Except.mapError] at hok
  · simp only [hx, Except.mapError, Prod.mk.injEq] at hok
    exact ⟨m', rfl, hok.1.symm⟩

theorem setMassStorageMode_ok {vmFirst : Bool} {mode : VirtualMediaMode} {w w' : World}
    (h : MediaInv w) (hok : setMassStorageMode (.working vmFirst) mode w = (w', .ok ())) :
    w.media = none ∧ Ready w'.manager ∧
      w' = { w with manager := w'.manager } ∧
      w'.manager.vm = some ⟨true, mode.umsMode, none, false⟩ := by
  obtain ⟨m', hrun, rfl⟩ := umsControl_ok hok
  obtain ⟨⟨u, hu, hpath⟩, hvm, hready⟩ := umsVmSwitchMode_ok h.ready hrun
  refine ⟨?_, hready, rfl, hvm⟩
  have hlun := h.agrees.1
  rw [lunPath, hu, Option.bind_some, hpath] at hlun
  cases hmedia : w.media with
  | none => rfl
  | some st => simp [hmedia] at hlun

theorem setMassStorageImage_ok {vmFirst : Bool} {path : String} {mode : VirtualMediaMode}
    {w w' : World} (hready : Ready w.manager) (hpath : path ≠ "" ∧ path ≠ "\n")
    (hmode : ∀ st, w.media = some st → st.mode = mode)
    (hvm : w.manager.vm = some ⟨true, mode.umsMode, none, false⟩)
    (hok : setMassStorageImage (.working vmFirst) path w = (w', .ok ())) :
    Ready w'.manager ∧ w' = { w with manager := w'.manager } ∧
      w'.manager.vm = some ⟨true, mode.umsMode, some path, false⟩ := by
  unfold setMassStorageImage at hok
  rw [Action.bind_of_ok (show Action.read w = (w, .ok w) from rfl), if_neg (by tauto)] at hok
  obtain ⟨m', hrun, rfl⟩ := umsControl_ok hok
  obtain ⟨hvm', hready'⟩ := umsVmMount_ok hready hpath hrun
  refine ⟨hready', rfl, hvm'.trans ?_⟩
  cases hmedia : w.media with
  | some st =>
      dsimp only
      rw [hmode st hmedia, VirtualMediaMode.umsMode]
  | none =>
      dsimp only
      rw [vmModeFromSidecar_umsMode, umsMode, hvm]
      rfl

theorem finalPathOf_mountable (filename : String) :
    Upload.finalPathOf filename ≠ "" ∧ Upload.finalPathOf filename ≠ "\n" := by
  have hlen : 2 ≤ (Upload.finalPathOf filename).length := by
    have hfolder : 2 ≤ Upload.imagesFolder.length := by decide
    simp only [Upload.finalPathOf, String.length_append]
    omega
  constructor <;>
    · intro h
      rw [h] at hlen
      revert hlen
      decide

theorem mountWithStorage_inv {vmFirst : Bool} {filename : String} {mode : VirtualMediaMode}
    {size : Option Int} {w w' : World} (h : MediaInv w)
    (hok : mountWithStorage (.working vmFirst) filename mode size w = (w', .ok ())) :
    MediaInv w' := by
  unfold mountWithStorage at hok
  obtain ⟨name, w₁, hname, hok⟩ := Action.bind_eq_ok hok
  obtain ⟨rfl, -⟩ := Action.ofExcept_eq_ok hname
  obtain ⟨_, w₂, hfolder, hok⟩ := Action.bind_eq_ok hok
  obtain ⟨rfl, -⟩ := Action.ofExcept_eq_ok hfolder
  obtain ⟨len, w₃, hsize, hok⟩ := Action.bind_eq_ok hok
  obtain ⟨rfl, -⟩ := Action.ofExcept_eq_ok hsize
  obtain ⟨_, w₄, hmode, hok⟩ := Action.bind_eq_ok hok
  obtain ⟨hnone, hready, hw₄, hvm⟩ := setMassStorageMode_ok h (Action.mapErr_eq_ok hmode)
  obtain ⟨_, w₅, himage, hok⟩ := Action.bind_eq_ok hok
  have hmedia : ∀ st, w₄.media = some st → st.mode = mode := by
    intro st hst
    rw [hw₄, hnone] at hst
    cases hst
  obtain ⟨hready', hw₅, hvm'⟩ := setMassStorageImage_ok hready (finalPathOf_mountable name) hmedia
    hvm (Action.mapErr_eq_ok himage)
  cases hok
  refine ⟨hready', by rw [hw₅, hw₄]; exact h.paths, ?_, ?_⟩
  · change w₅.manager.vm.bind _ = _
    rw [hvm']
    rfl
  · rintro _ ⟨⟩
    change (w₅.manager.vm.map _).getD _ = _
    rw [hvm']
    rfl

theorem mountWithHttp_inv {vmFirst : Bool} {url : String} {mode : VirtualMediaMode}
    {size : Except String Int} {w w' : World} (h : MediaInv w)
    (hok : mountWithHttp (.working vmFirst) url mode size w = (w', .ok ())) : MediaInv w' := by
  unfold mountWithHttp at hok
  obtain ⟨_, w₁, hfolder, hok⟩ := Action.bind_eq_ok hok
  obtain ⟨rfl, -⟩ := Action.ofExcept_eq_ok hfolder
  obtain ⟨_, w₂, hmode, hok⟩ := Action.bind_eq_ok hok
  obtain ⟨-, hready, hw₂, hvm⟩ := setMassStorageMode_ok h hmode
  obtain ⟨len, w₃, hsize, hok⟩ := Action.bind_eq_ok hok
  obtain ⟨rfl, -⟩ := Action.ofExcept_eq_ok hsize
  rw [Action.bind_of_ok (show Action.read w₂ = (w₂, .ok w₂) from rfl)] at hok
  obtain ⟨_, w₄, hfree, hok⟩ := Action.bind_eq_ok hok
  obtain ⟨-, rfl⟩ := Action.ensure_eq_ok hfree
  obtain ⟨_, w₅, hset, hok⟩ := Action.bind_eq_ok hok
  obtain ⟨rfl, -⟩ := Prod.mk.inj hset
  obtain ⟨_, w₆, hstarted, hok⟩ := Action.bind_eq_ok hok
  obtain ⟨rfl, -⟩ := Action.ofExcept_eq_ok hstarted
  obtain ⟨_, w₇, hnbd, hok⟩ := Action.bind_eq_ok hok
  obtain ⟨rfl, -⟩ := Action.ofExcept_eq_ok hnbd
  have hmedia : ∀ st, some (VirtualMediaState.mk .http mode none (some url) len) = some st →
      st.mode = mode := by
    rintro _ ⟨⟩
    rfl
  obtain ⟨hready', hw', hvm'⟩ := setMassStorageImage_ok (w := { w₂ with
      media := some ⟨.http, mode, none, some url, len⟩
      reader := some (.http url len)
      nbd := true }) hready (by decide : nbdPath ≠ "" ∧ nbdPath ≠ "\n") hmedia hvm
    (Action.mapErr_eq_ok hok)
  refine ⟨hready', by rw [hw', hw₂]; exact h.paths, ?_, ?_⟩
  · rw [lunPath, hvm', hw']
    rfl
  · intro st hst
    rw [hw'] at hst
    rw [umsMode, hvm', hmedia st hst]
    rfl

theorem unmountImage_inv {vmFirst : Bool} {w w' : World} (h : MediaInv w)
    (hok : unmountImage (.working vmFirst) w = (w', .ok ())) : MediaInv w' := by
  have hrun := umsVmUnmount_working vmFirst h.ready
  have hw' : w' = { w with
      manager := { w.manager with vm := w.manager.vm.map fun u => { u with filePath := none } }
      nbd := false
      media := none
      reader := none } := by
    obtain ⟨rfl, -⟩ := Prod.mk.inj hok
    rw [umsControl, show (CallIo.working vmFirst).sidecar = .working vmFirst from rfl, hrun]
  subst hw'
  refine ⟨⟨?_, h.ready.ft, ?_⟩, h.paths, ?_, fun st hst => by cases hst⟩
  · intro u hu
    obtain ⟨u', hu', rfl⟩ := Option.map_eq_some_iff.mp hu
    exact h.ready.vm u' hu'
  · intro hsome
    exact h.ready.switches (by simpa using hsome)
  · rw [lunPath]
    cases w.manager.vm <;> rfl

/-! ## Reconciliation -/

/-- The request changes nothing but the board settings of the network adapter, so
that the sidecar keeps its gadget. -/
def keepsGadget (w : World) (usbConfig : UsbConfig) (devices : UsbDevices) : Bool :=
  let info := usbInfoForReconcile w.usbInfo devices
  match runtimeUsbConfigToBaseInfo w.manager.baseInfo usbConfig, info.switches with
  | .ok baseInfo, some switches => w.manager.l3Only info switches baseInfo
  | _, _ => false

theorem applyRuntimeConfig_working (vmFirst : Bool) (usbConfig : UsbConfig) {devices : UsbDevices}
    {w : World} (h : MediaInv w) (hvm : devices.massStorageVm = true) :
    (∃ e, applyRuntimeConfig (.working vmFirst) usbConfig
        (usbInfoForReconcile w.usbInfo devices) w = (w, .error e)) ∨
      ∃ m', applyRuntimeConfig (.working vmFirst) usbConfig
          (usbInfoForReconcile w.usbInfo devices) w = ({ w with
            manager := m'
            usbInfo := usbInfoForReconcile w.usbInfo devices }, .ok ()) ∧ Ready m' ∧
        (m'.vm = w.manager.vm ∨ ∃ mode, m'.vm = some ⟨true, mode, none, false⟩) ∧
        (keepsGadget w usbConfig devices = true → m'.vm = w.manager.vm) := by
  unfold applyRuntimeConfig applyRuntimeUsbInfo
  rw [Action.bind_of_ok (show Action.read w.manager = (w.manager, .ok w.manager) from rfl)]
  cases hbase : runtimeUsbConfigToBaseInfo w.manager.baseInfo usbConfig with
  | error e => exact .inl ⟨e, rfl⟩
  | ok baseInfo =>
      rw [Action.bind_of_ok (show Action.ofExcept (.ok baseInfo) w.manager = _ from rfl)]
      rcases applyFullConfig_working vmFirst baseInfo (usbInfoForReconcile w.usbInfo devices)
        h.ready rfl hvm h.paths with ⟨e, herr⟩ | ⟨m', hrun, hready, hlun, hl3⟩
      · refine .inl ⟨e, ?_⟩
        rw [show (CallIo.working vmFirst).sidecar = .working vmFirst from rfl, herr]
      · refine .inr ⟨m', ?_, hready, hlun, fun hkeep => hl3 ?_⟩
        · rw [show (CallIo.working vmFirst).sidecar = .working vmFirst from rfl, hrun]
        · rw [keepsGadget, hbase] at hkeep
          exact hkeep

/-- A refused attempt changes nothing, so that a repeated one is refused as well. -/
theorem reconcileAttempts_ok {io : CallIo} {usbConfig : UsbConfig} {info : UsbDeviceInfo}
    {w w' : World}
    (hatomic : (∃ e, applyRuntimeConfig io usbConfig info w = (w, .error e)) ∨
      ∃ w₁, applyRuntimeConfig io usbConfig info w = (w₁, .ok ()))
    {n : Nat} (hok : reconcileAttempts io usbConfig info n w = (w', .ok ())) :
    applyRuntimeConfig io usbConfig info w = (w', .ok ()) := by
  induction n with
  | zero => cases hok
  | succ n ih =>
      simp only [reconcileAttempts] at hok
      rcases hatomic with ⟨e, herr⟩ | ⟨w₁, hrun⟩
      · rw [herr] at hok
        dsimp only at hok
        split at hok
        · exact ih hok
        · cases hok
      · rw [hrun] at hok ⊢
        obtain ⟨rfl, -⟩ := Prod.mk.inj hok
        rfl

theorem reconcileUsbRuntime_inv {vmFirst : Bool} {usbConfig : UsbConfig} {devices : UsbDevices}
    {w w' : World} (h : MediaInv w) (hvm : devices.massStorageVm = true)
    (hcalm : w.media = none ∨ keepsGadget w usbConfig devices = true)
    (hok : reconcileUsbRuntime (.working vmFirst) usbConfig devices w = (w', .ok ())) :
    MediaInv w' := by
  have hspec := applyRuntimeConfig_working vmFirst usbConfig h hvm
  have happly : applyRuntimeConfig (.working vmFirst) usbConfig
      (usbInfoForReconcile w.usbInfo devices) w = (w', .ok ()) := by
    refine reconcileAttempts_ok ?_ hok
    rcases hspec with herr | ⟨m', hrun, -⟩
    · exact .inl herr
    · exact .inr ⟨_, hrun⟩
  rcases hspec with ⟨e, herr⟩ | ⟨m', hrun, hready, hlun, hkeep⟩
  · rw [herr] at happly
    cases happly
  · rw [hrun] at happly
    obtain ⟨rfl, -⟩ := Prod.mk.inj happly
    refine ⟨hready, h.paths, ?_⟩
    rcases hcalm with hnone | hl3
    · refine ⟨?_, fun st hst => absurd (hnone.symm.trans hst) (by simp)⟩
      have hempty := h.agrees.1
      change lunPath m' = w.media.map _
      rw [hnone] at hempty ⊢
      rcases hlun with hsame | ⟨mode, hnew⟩
      · rw [lunPath, hsame]
        exact hempty
      · rw [lunPath, hnew]
        rfl
    · have hsame := hkeep hl3
      refine ⟨?_, ?_⟩
      · change m'.vm.bind _ = _
        rw [hsame]
        exact h.agrees.1
      · intro st hst
        change (m'.vm.map _).getD _ = _
        rw [hsame]
        exact h.agrees.2 st hst

/-! ## Whole runs -/

inductive MediaCall
  | mountWithStorage (filename : String) (mode : VirtualMediaMode) (size : Option Int)
  | mountWithHttp (url : String) (mode : VirtualMediaMode) (size : Except String Int)
  | unmountImage
  | reconcileUsbRuntime (usbConfig : UsbConfig) (devices : UsbDevices)

def perform (io : CallIo) : MediaCall → Action String World Unit
  | .mountWithStorage filename mode size => mountWithStorage io filename mode size
  | .mountWithHttp url mode size => mountWithHttp io url mode size
  | .unmountImage => unmountImage io
  | .reconcileUsbRuntime usbConfig devices => reconcileUsbRuntime io usbConfig devices

/-- One successful call without faults; the handlers of the sidecar are notified
in either order. -/
def callStep (w : World) (ev : MediaCall × Bool) : Option World :=
  match perform (.working ev.2) ev.1 w with
  | (w', .ok ()) => some w'
  | (_, .error _) => none

/-- The calls keep the virtual media function on. -/
def KeepsVm (_ : World) (ev : MediaCall × Bool) : Prop :=
  match ev.1 with
  | .reconcileUsbRuntime _ devices => devices.massStorageVm = true
  | _ => True

/-- The condition on a call: a rebuild is asked for only while nothing is mounted. -/
def Calm (w : World) (ev : MediaCall × Bool) : Prop :=
  match ev.1 with
  | .reconcileUsbRuntime usbConfig devices =>
      w.media = none ∨ keepsGadget w usbConfig devices = true
  | _ => True

instance (w : World) (ev : MediaCall × Bool) : Decidable (KeepsVm w ev) := by
  unfold KeepsVm
  split <;> infer_instance

instance (w : World) (ev : MediaCall × Bool) : Decidable (Calm w ev) := by
  unfold Calm
  split <;> infer_instance

def Started (w : World) : Prop :=
  w.media = none ∧ w.usbInfo = {} ∧ w.manager.vm = none ∧ w.manager.ft = none

theorem callStep_inv (w : World) (ev : MediaCall × Bool) (w' : World) (h : MediaInv w)
    (hok : KeepsVm w ev ∧ Calm w ev) (hstep : callStep w ev = some w') : MediaInv w' := by
  obtain ⟨call, vmFirst⟩ := ev
  unfold callStep at hstep
  split at hstep
  · next w₁ hrun =>
      cases hstep
      cases call with
      | mountWithStorage filename mode size => exact mountWithStorage_inv h hrun
      | mountWithHttp url mode size => exact mountWithHttp_inv h hrun
      | unmountImage => exact unmountImage_inv h hrun
      | reconcileUsbRuntime usbConfig devices => exact reconcileUsbRuntime_inv h hok.1 hok.2 hrun
  · cases hstep

/-- In every run of successful calls that keep the function on and ask for a
rebuild only while nothing is mounted, the LUN holds what the application says is
mounted, in its mode, after every call. -/
theorem media_survives_rebuilds {w₀ w : World} (hinit : Started w₀)
    (hrun : Run.Reach callStep (fun w ev => KeepsVm w ev ∧ Calm w ev) w₀ w) :
    lunPath w.manager = w.media.map (·.path) ∧
      ∀ st, w.media = some st → w.manager.umsMode = st.mode.umsMode := by
  obtain ⟨hmedia, hinfo, hvm, hft⟩ := hinit
  have hinv₀ : MediaInv w₀ := by
    refine ⟨⟨?_, ?_, ?_⟩, by rw [hinfo]; exact ⟨rfl, rfl⟩, ?_, ?_⟩
    · intro u hu
      exact absurd (hvm.symm.trans hu) (by simp)
    · intro u hu
      exact absurd (hft.symm.trans hu) (by simp)
    · rw [hvm]
      simp
    · rw [lunPath, hvm, hmedia]
      rfl
    · intro st hst
      exact absurd (hmedia.symm.trans hst) (by simp)
  exact (hrun.invariant hinv₀ callStep_inv).agrees

/-- The two processes right after their start. -/
def startedWorld : World where
  manager := { baseInfo := { serialNumber := "ark" } }

theorem started_startedWorld : Started startedWorld := ⟨rfl, rfl, rfl, rfl⟩

def usbIds : UsbConfig where
  vendorId := "0x1d6b"
  productId := "0x0104"
  serialNumber := "ark"
  manufacturer := "ArkKVM"
  product := "KVM"
  forceFullSpeed := false

/-- The default devices without the relative mouse and the microphone, with the
given address on the network adapter's board side. -/
def devicesAt (address : String) : UsbDevices :=
  { relativeMouse := false
    microphone := false
    networkAdapter := { l3Config := { ipAddress := address } } }

/-- The gadget is built, a disk image is mounted, the board address changes, and
the image is taken out and replaced by a remote one. -/
def calmCalls : List (MediaCall × Bool) :=
  [(.reconcileUsbRuntime usbIds (devicesAt "172.16.0.1"), true),
    (.mountWithStorage "boot.img" .disk (some 4096), false),
    (.reconcileUsbRuntime usbIds (devicesAt "172.16.0.2"), false),
    (.unmountImage, true),
    (.reconcileUsbRuntime usbIds { devicesAt "172.16.0.2" with camera := true }, true),
    (.mountWithHttp "http://host/a.iso" .cdrom (.ok 8192), true)]

theorem media_survives_rebuilds_calmCalls :
    ∃ w st, Run.Reach callStep (fun w ev => KeepsVm w ev ∧ Calm w ev) startedWorld w ∧
      w.media = some st ∧ lunPath w.manager = some st.path ∧
      w.manager.umsMode = st.mode.umsMode := by
  have hexec : (Run.exec callStep (fun w ev => decide (KeepsVm w ev ∧ Calm w ev)) startedWorld
      calmCalls).map (fun w => w.media.isSome) = some true := by
    decide +kernel
  obtain ⟨w, hrun, hmedia⟩ := Run.exists_reach_of_exec (fun _ _ => of_decide_eq_true) hexec
  obtain ⟨st, hst⟩ := Option.isSome_iff_exists.mp hmedia
  obtain ⟨hpath, hmode⟩ := media_survives_rebuilds started_startedWorld hrun
  refine ⟨w, st, hrun, hst, ?_, hmode st hst⟩
  rw [hpath, hst]
  rfl

def rebuildCalls : List (MediaCall × Bool) :=
  [(.reconcileUsbRuntime usbIds (devicesAt "172.16.0.1"), true),
    (.mountWithStorage "boot.img" .disk (some 4096), true),
    (.reconcileUsbRuntime usbIds { devicesAt "172.16.0.1" with camera := true }, true)]

/-- The rebuild empties the LUN; the application still says that the image is
mounted. -/
theorem rebuild_drops_medium :
    ∃ w st, Run.Reach callStep KeepsVm startedWorld w ∧ Started startedWorld ∧
      w.media = some st ∧ lunPath w.manager = none := by
  have hexec : (Run.exec callStep (fun w ev => decide (KeepsVm w ev)) startedWorld
      rebuildCalls).map (fun w => (w.media.isSome, lunPath w.manager)) = some (true, none) := by
    decide +kernel
  obtain ⟨w, hrun, hend⟩ := Run.exists_reach_of_exec (fun _ _ => of_decide_eq_true) hexec
  obtain ⟨hmedia, hlun⟩ := Prod.mk.inj hend
  obtain ⟨st, hst⟩ := Option.isSome_iff_exists.mp hmedia
  exact ⟨w, st, hrun, started_startedWorld, hst, hlun⟩

end ArkKvm.Media
