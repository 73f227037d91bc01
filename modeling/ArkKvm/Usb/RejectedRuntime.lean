import ArkKvm.Usb.L3Shortcut

/-!
# A rejected runtime configuration

`apply_runtime_usb_info` writes the switch of the microphone process before it looks at
the request, and `apply_full_config` writes the board settings of the network adapter
before it asks anybody.  A request that is refused afterwards leaves both behind.
-/

namespace ArkKvm.GadgetChange

open Lib (Action)
open Lib.Action (Keeps)
open Sidecar (UsbError DeviceSwitches UsbBaseInfo UsbDeviceInfo NetworkAdapterL3Info
  checkEndpointBudget runtimeUsbConfigToBaseInfo)

/-- The request as the control service reads it; its reason and its number are only logged. -/
structure ApplyRuntimeConfigRequest where
  usbConfig : Option UsbConfig
  usbInfo : Option UsbDeviceInfo
  micProcessEnabled : Bool

inductive ApplyErrorCode
  | unspecified
  | usbGadgetBusy
  | invalidArgument
  | internal
deriving DecidableEq

structure ApplyRuntimeConfigResponse where
  ok : Bool
  applied : Option DeviceSwitches
  error : Option String := none
  errorCode : ApplyErrorCode := .unspecified
  retryable : Bool := false
  appliedUsbInfo : Option UsbDeviceInfo

structure RuntimeManager where
  manager : UsbDeviceManager
  micProcessEnabled : Bool := false

namespace RuntimeManager

def onManager {α : Type} (x : Action UsbError UsbDeviceManager α) :
    Action UsbError RuntimeManager α := fun s =>
  ({ s with manager := (x s.manager).1 }, (x s.manager).2)

def setMicProcessEnabled (enabled : Bool) (s : RuntimeManager) : RuntimeManager :=
  { s with micProcessEnabled := enabled }

def required {α : Type} (message : String) (field : Option α) :
    Action UsbError RuntimeManager α :=
  Action.ofExcept (field.elim (.error (.invalidArgument message)) .ok)

/-- The configuration and the base values that a request asks for, in the order in which
`apply_runtime_usb_info` takes it apart. -/
def readRequest (req : ApplyRuntimeConfigRequest) :
    Action UsbError RuntimeManager (UsbDeviceInfo × UsbBaseInfo) := do
  let runtimeUsbConfig ← required "missing usb_config in ApplyRuntimeConfigRequest" req.usbConfig
  let usbInfo ← required "missing usb_info in ApplyRuntimeConfigRequest" req.usbInfo
  let s ← Action.read
  let baseInfo ← Action.ofExcept
    (runtimeUsbConfigToBaseInfo s.manager.baseInfo runtimeUsbConfig)
  return (usbInfo, baseInfo)

def runtimeApplyOk (s : RuntimeManager) (usbInfo : UsbDeviceInfo) :
    ApplyRuntimeConfigResponse where
  ok := true
  applied := some s.manager.switches
  appliedUsbInfo := some usbInfo

def applyRuntimeUsbInfo (io : UsbDeviceManager.FullConfigIo) (req : ApplyRuntimeConfigRequest) :
    Action UsbError RuntimeManager ApplyRuntimeConfigResponse := do
  Action.modify (setMicProcessEnabled req.micProcessEnabled)
  let (usbInfo, baseInfo) ← readRequest req
  onManager (UsbDeviceManager.applyFullConfig io usbInfo baseInfo)
  let s ← Action.read
  return runtimeApplyOk s usbInfo

end RuntimeManager

namespace UsbDeviceManager

/-! ## Up to the release of the old gadget -/

/-- `apply_switches` up to `unbind_active_gadget`. -/
def applySwitchesUntilRelease (io : RebuildIo) (switches : DeviceSwitches) :
    Action UsbError UsbDeviceManager Unit := do
  let s ← Action.read
  Action.ensure (s.emulationEnabled = true) (.gadgetError "USB emulation disabled")
  Action.ofExcept (checkEndpointBudget switches)
  requestChangeApproval io.handlers

/-- `apply_full_config` up to the same place; the shortcut never comes there. -/
def applyFullConfigUntilRelease (io : FullConfigIo) (info : UsbDeviceInfo)
    (baseInfo : UsbBaseInfo) : Action UsbError UsbDeviceManager Unit :=
  match info.switches with
  | none => Action.fail (.invalidArgument "missing switches in usb_info")
  | some switches => do
      Action.modify (setNetworkAdapterL3Config info.networkAdapterL3)
      let s ← Action.read
      if takesShortcut s info switches baseInfo then applyNetworkAdapterL3Only io.network
      else applySwitchesUntilRelease io.rebuild switches

/-! ## What happens up to there -/

structure SameConfig (s t : UsbDeviceManager) : Prop where
  baseInfo : t.baseInfo = s.baseInfo
  switches : t.switches = s.switches
  lastUsbInfo : t.lastUsbInfo = s.lastUsbInfo
  l3 : KeepsL3 s t

theorem SameConfig.refl (s : UsbDeviceManager) : SameConfig s s :=
  ⟨rfl, rfl, rfl, KeepsL3.refl s⟩

theorem SameConfig.trans (s t u : UsbDeviceManager) (hst : SameConfig s t)
    (htu : SameConfig t u) : SameConfig s u where
  baseInfo := htu.baseInfo.trans hst.baseInfo
  switches := htu.switches.trans hst.switches
  lastUsbInfo := htu.lastUsbInfo.trans hst.lastUsbInfo
  l3 := hst.l3.trans s t u htu.l3

theorem sameConfig_askHandlers (io : HandlerIo) (req : ChangeRequest) :
    Keeps SameConfig (askHandlers io req) := by
  intro s
  have hkeep := keepsL3_askHandlers io req s
  have hframe : (askHandlers io req s).1.baseInfo = s.baseInfo ∧
      (askHandlers io req s).1.switches = s.switches ∧
      (askHandlers io req s).1.lastUsbInfo = s.lastUsbInfo := by
    unfold askHandlers
    dsimp only
    split
    · exact ⟨rfl, rfl, rfl⟩
    · exact ⟨rfl, rfl, rfl⟩
  exact ⟨hframe.1, hframe.2.1, hframe.2.2, hkeep⟩

theorem sameConfig_applySwitchesUntilRelease (io : RebuildIo) (switches : DeviceSwitches) :
    Keeps SameConfig (applySwitchesUntilRelease io switches) := by
  unfold applySwitchesUntilRelease
  apply Keeps.bind SameConfig.trans (Keeps.read SameConfig.refl)
  intro s
  apply Keeps.bind SameConfig.trans (Keeps.ensure SameConfig.refl _ _)
  intro _
  apply Keeps.bind SameConfig.trans fun s => SameConfig.refl s
  intro _
  apply Keeps.bind SameConfig.trans (sameConfig_askHandlers io.handlers .requestChange)
  intro _
  exact sameConfig_askHandlers io.handlers .prepareChange

theorem sameConfig_applyNetworkAdapterL3Only (io : NetworkIo) :
    Keeps SameConfig (applyNetworkAdapterL3Only io) := by
  intro s
  unfold applyNetworkAdapterL3Only
  cases hu : networkHandle s.handlers with
  | none => exact SameConfig.refl s
  | some u =>
      have hl3 : (NetworkAdapterHandle.applyL3 io u).1.l3 = u.l3 := by
        rw [NetworkAdapterHandle.applyL3_eq]
      refine ⟨rfl, rfl, rfl, KeepsL3.of_eq ?_⟩
      change networkL3 (updateNetwork (fun _ => (NetworkAdapterHandle.applyL3 io u).1) _) = _
      rw [networkL3, networkHandle_updateNetwork, networkL3, hu]
      exact congrArg some hl3

/-- The board settings of the adapter; one that is not made yet starts with the defaults. -/
def adapterL3 (s : UsbDeviceManager) : AdapterL3Settings := (networkL3 s.handlers).getD {}

/-- The configuration with other board settings. -/
structure ConfigWith (l3 : AdapterL3Settings) (s t : UsbDeviceManager) : Prop where
  baseInfo : t.baseInfo = s.baseInfo
  switches : t.switches = s.switches
  lastUsbInfo : t.lastUsbInfo = s.lastUsbInfo
  l3 : adapterL3 t = l3

theorem configWith_applyFullConfigUntilRelease (io : FullConfigIo) {info : UsbDeviceInfo}
    {switches : DeviceSwitches} (hsw : info.switches = some switches) (baseInfo : UsbBaseInfo)
    (s : UsbDeviceManager) :
    ConfigWith ((adapterL3 s).after info.networkAdapterL3) s
      (applyFullConfigUntilRelease io info baseInfo s).1 := by
  have hset := networkL3_setNetworkAdapterL3Config info.networkAdapterL3 s
  have hrest : SameConfig (setNetworkAdapterL3Config info.networkAdapterL3 s)
      (applyFullConfigUntilRelease io info baseInfo s).1 := by
    unfold applyFullConfigUntilRelease
    rw [hsw]
    change SameConfig _ ((if takesShortcut _ _ _ _ = true then _ else _ :
      Action UsbError UsbDeviceManager Unit) _).1
    split
    · exact sameConfig_applyNetworkAdapterL3Only io.network _
    · exact sameConfig_applySwitchesUntilRelease io.rebuild switches _
  refine ⟨hrest.baseInfo, hrest.switches, hrest.lastUsbInfo, ?_⟩
  rw [adapterL3, hrest.l3 _ hset]
  rfl

/-! ## A failure there is the failure of the call -/

/-- `apply_switches` from the release on. -/
def applySwitchesFromRelease (io : RebuildIo) (baseInfo : UsbBaseInfo)
    (switches : DeviceSwitches) : Action UsbError UsbDeviceManager Unit := do
  unbindActiveGadget io.released
  let old ← Action.read
  Action.modify fun s =>
    { s with
      baseInfo := baseInfo
      switches := switches }
  bindOrRestore io old

theorem applySwitches_eq (io : RebuildIo) (baseInfo : UsbBaseInfo) (switches : DeviceSwitches) :
    applySwitches io (some baseInfo) (some switches) =
      applySwitchesUntilRelease io switches >>= fun _ =>
        applySwitchesFromRelease io baseInfo switches := by
  unfold applySwitchesUntilRelease
  simp only [Action.bind_assoc]
  rfl

theorem applyFullConfig_of_refusedEarly {io : FullConfigIo} {info : UsbDeviceInfo}
    {baseInfo : UsbBaseInfo} {s t : UsbDeviceManager} {e : UsbError}
    (h : applyFullConfigUntilRelease io info baseInfo s = (t, .error e)) :
    applyFullConfig io info baseInfo s = (t, .error e) := by
  unfold applyFullConfigUntilRelease at h
  unfold applyFullConfig applyFullConfigVia
  cases hsw : info.switches with
  | none =>
      rw [hsw] at h
      exact h
  | some switches =>
      rw [hsw] at h
      dsimp only at h ⊢
      rw [Action.bind_of_ok (t := setNetworkAdapterL3Config info.networkAdapterL3 s) rfl,
        Action.bind_of_ok (x := Action.read) rfl] at h ⊢
      split at h
      · next hshort =>
          rw [if_pos hshort]
          exact Action.bind_of_error h
      · next hshort =>
          rw [if_neg hshort]
          have hswitches : applySwitches io.rebuild (some baseInfo) (some switches)
              (setNetworkAdapterL3Config info.networkAdapterL3 s) = (t, .error e) := by
            rw [applySwitches_eq]
            exact Action.bind_of_error h
          exact Action.bind_of_error (Action.bind_of_error hswitches)

end UsbDeviceManager

/-- `apply_runtime_usb_info` up to the same place. -/
def RuntimeManager.applyUntilRelease (io : UsbDeviceManager.FullConfigIo)
    (req : ApplyRuntimeConfigRequest) : Action UsbError RuntimeManager Unit := do
  Action.modify (setMicProcessEnabled req.micProcessEnabled)
  let (usbInfo, baseInfo) ← readRequest req
  onManager (UsbDeviceManager.applyFullConfigUntilRelease io usbInfo baseInfo)

namespace RuntimeManager

variable {io : UsbDeviceManager.FullConfigIo} {req : ApplyRuntimeConfigRequest}
  {s : RuntimeManager}

def Readable (req : ApplyRuntimeConfigRequest) (s : RuntimeManager) (info : UsbDeviceInfo)
    (baseInfo : UsbBaseInfo) : Prop :=
  ∃ cfg, req.usbConfig = some cfg ∧ req.usbInfo = some info ∧
    runtimeUsbConfigToBaseInfo s.manager.baseInfo cfg = .ok baseInfo

theorem readRequest_of_some {cfg : UsbConfig} {info : UsbDeviceInfo}
    (hcfg : req.usbConfig = some cfg) (hinfo : req.usbInfo = some info) :
    readRequest req s =
      (s, (runtimeUsbConfigToBaseInfo s.manager.baseInfo cfg).map fun b => (info, b)) := by
  unfold readRequest
  rw [hcfg, hinfo]
  change Action.andThen (s, runtimeUsbConfigToBaseInfo s.manager.baseInfo cfg) _ = _
  cases runtimeUsbConfigToBaseInfo s.manager.baseInfo cfg <;> rfl

theorem readRequest_cases (req : ApplyRuntimeConfigRequest) (s : RuntimeManager) :
    (∃ info baseInfo, Readable req s info baseInfo ∧
      readRequest req s = (s, .ok (info, baseInfo))) ∨
    ((∀ info baseInfo, ¬ Readable req s info baseInfo) ∧
      ∃ e, readRequest req s = (s, .error e)) := by
  cases hcfg : req.usbConfig with
  | none =>
      refine .inr ⟨fun info baseInfo hr => ?_, ?_⟩
      · obtain ⟨cfg, hcfg', -⟩ := hr
        rw [hcfg] at hcfg'
        cases hcfg'
      · unfold readRequest
        rw [hcfg]
        exact ⟨_, rfl⟩
  | some cfg =>
      cases hinfo : req.usbInfo with
      | none =>
          refine .inr ⟨fun info baseInfo hr => ?_, ?_⟩
          · obtain ⟨cfg, -, hinfo', -⟩ := hr
            rw [hinfo] at hinfo'
            cases hinfo'
          · unfold readRequest
            rw [hcfg, hinfo]
            exact ⟨_, rfl⟩
      | some info =>
          rw [readRequest_of_some hcfg hinfo]
          cases hbase : runtimeUsbConfigToBaseInfo s.manager.baseInfo cfg with
          | error e =>
              refine .inr ⟨fun info baseInfo hr => ?_, e, rfl⟩
              obtain ⟨cfg', hcfg', -, hok⟩ := hr
              rw [hcfg] at hcfg'
              cases hcfg'
              rw [hbase] at hok
              cases hok
          | ok baseInfo => exact .inl ⟨info, baseInfo, ⟨cfg, hcfg, hinfo, hbase⟩, rfl⟩

/-- The request is refused before the old gadget is released. -/
def RefusedEarly (io : UsbDeviceManager.FullConfigIo) (req : ApplyRuntimeConfigRequest)
    (s : RuntimeManager) : Prop :=
  ∃ e, (applyUntilRelease io req s).2 = .error e

theorem onManager_of_error {α : Type} {x : Action UsbError UsbDeviceManager α}
    {m : UsbDeviceManager} {e : UsbError} (h : x s.manager = (m, .error e)) :
    onManager x s = ({ s with manager := m }, .error e) := by
  rw [onManager, h]

theorem applyRuntimeUsbInfo_of_refusedEarly {e : UsbError}
    (h : (applyUntilRelease io req s).2 = .error e) :
    applyRuntimeUsbInfo io req s = ((applyUntilRelease io req s).1, .error e) := by
  unfold applyUntilRelease at h ⊢
  unfold applyRuntimeUsbInfo
  have hset : (Action.modify (setMicProcessEnabled req.micProcessEnabled) :
      Action UsbError RuntimeManager Unit) s =
        (setMicProcessEnabled req.micProcessEnabled s, .ok ()) := rfl
  rw [Action.bind_of_ok hset] at h ⊢
  rw [Action.bind_of_ok hset]
  generalize setMicProcessEnabled req.micProcessEnabled s = s₁ at h ⊢
  rcases readRequest_cases req s₁ with ⟨info, baseInfo, -, hread⟩ | ⟨-, e', hread⟩
  · rw [Action.bind_of_ok hread] at h ⊢
    rw [Action.bind_of_ok hread]
    dsimp only at h ⊢
    have hmanager : UsbDeviceManager.applyFullConfigUntilRelease io info baseInfo s₁.manager =
        ((UsbDeviceManager.applyFullConfigUntilRelease io info baseInfo s₁.manager).1,
          .error e) := Prod.ext rfl h
    have hcall := UsbDeviceManager.applyFullConfig_of_refusedEarly hmanager
    rw [onManager_of_error hmanager]
    exact Action.bind_of_error (onManager_of_error hcall)
  · rw [Action.bind_of_error hread] at h ⊢
    rw [Action.bind_of_error hread]
    cases h
    rfl

/-! ## What a refused request leaves behind -/

/-- What the next rebuild and the next board configuration start from is as before. -/
structure Unchanged (s t : RuntimeManager) : Prop where
  micProcessEnabled : t.micProcessEnabled = s.micProcessEnabled
  networkL3 : t.manager.adapterL3 = s.manager.adapterL3
  baseInfo : t.manager.baseInfo = s.manager.baseInfo
  switches : t.manager.switches = s.manager.switches
  lastUsbInfo : t.manager.lastUsbInfo = s.manager.lastUsbInfo

/-- The request asks for the microphone process as it is, and for the board settings as
they are, unless it is taken for malformed before they are written. -/
structure WritesNothingNew (req : ApplyRuntimeConfigRequest) (s : RuntimeManager) : Prop where
  micProcessEnabled : req.micProcessEnabled = s.micProcessEnabled
  networkL3 : ∀ info baseInfo, Readable req s info baseInfo → info.switches.isSome = true →
    s.manager.adapterL3.after info.networkAdapterL3 = s.manager.adapterL3

/-- A request that is refused before the old gadget is released leaves everything as it
was if and only if it writes nothing new. -/
theorem refused_unchanged_iff (h : RefusedEarly io req s) :
    (∃ e, (applyRuntimeUsbInfo io req s).2 = .error e) ∧
      (Unchanged s (applyRuntimeUsbInfo io req s).1 ↔ WritesNothingNew req s) := by
  obtain ⟨e, he⟩ := h
  rw [applyRuntimeUsbInfo_of_refusedEarly he]
  refine ⟨⟨e, rfl⟩, ?_⟩
  dsimp only
  clear he
  unfold applyUntilRelease
  rw [Action.bind_of_ok (t := setMicProcessEnabled req.micProcessEnabled s) rfl]
  rcases readRequest_cases req (setMicProcessEnabled req.micProcessEnabled s) with
    ⟨info, baseInfo, hr, hread⟩ | ⟨hr, e', hread⟩
  · rw [Action.bind_of_ok hread]
    change Unchanged s { s with
      manager := (UsbDeviceManager.applyFullConfigUntilRelease io info baseInfo s.manager).1
      micProcessEnabled := req.micProcessEnabled } ↔ _
    cases hsw : info.switches with
    | none =>
        unfold UsbDeviceManager.applyFullConfigUntilRelease
        rw [hsw]
        refine ⟨fun h => ⟨h.micProcessEnabled, ?_⟩,
          fun h => ⟨h.micProcessEnabled, rfl, rfl, rfl, rfl⟩⟩
        rintro info' baseInfo' ⟨cfg, hcfg, hinfo, hbase⟩ hsome
        obtain ⟨-, -, hinfo', -⟩ := hr
        rw [hinfo] at hinfo'
        cases hinfo'
        rw [hsw] at hsome
        cases hsome
    | some switches =>
        have hend :=
          UsbDeviceManager.configWith_applyFullConfigUntilRelease io hsw baseInfo s.manager
        refine ⟨fun h => ⟨h.micProcessEnabled, ?_⟩, fun h => ⟨h.micProcessEnabled, ?_,
          hend.baseInfo, hend.switches, hend.lastUsbInfo⟩⟩
        · rintro info' baseInfo' ⟨cfg, hcfg, hinfo, hbase⟩ hsome
          obtain ⟨-, -, hinfo', -⟩ := hr
          rw [hinfo] at hinfo'
          cases hinfo'
          exact hend.l3.symm.trans h.networkL3
        · exact hend.l3.trans (h.networkL3 info baseInfo hr (by rw [hsw]; rfl))
  · rw [Action.bind_of_error hread]
    exact ⟨fun h => ⟨h.micProcessEnabled, fun info baseInfo hnot => absurd hnot (hr info baseInfo)⟩,
      fun h => ⟨h.micProcessEnabled, rfl, rfl, rfl, rfl⟩⟩

section Witness

private def anyIo : UsbDeviceManager.FullConfigIo where
  rebuild := .working
  mounts := ⟨.working, .working, .working⟩
  network := ⟨some "usb0", .ok ()⟩

/-- A well-formed request with an address for the adapter and the microphone process on. -/
private def fullRequest : ApplyRuntimeConfigRequest where
  usbConfig := some ⟨"0x1d6b", "0104", "ARK0123456789", "ArkKVM", "ArkKVM", false⟩
  usbInfo := some
    { switches := some { hidKbEnabled := true }
      networkAdapterL3 := some ⟨"10.0.0.2", "255.255.255.0", none, []⟩ }
  micProcessEnabled := true

private def emulationOff : RuntimeManager where
  manager :=
    { baseInfo := { serialNumber := "ARK0123456789" }
      emulationEnabled := false }

/-- Refused for the emulation: the microphone process and the board settings are new. -/
theorem refused_request_writes :
    RefusedEarly anyIo fullRequest emulationOff ∧
    (∃ e, (applyRuntimeUsbInfo anyIo fullRequest emulationOff).2 = .error e) ∧
    (applyRuntimeUsbInfo anyIo fullRequest emulationOff).1.micProcessEnabled ≠
      emulationOff.micProcessEnabled ∧
    (applyRuntimeUsbInfo anyIo fullRequest emulationOff).1.manager.adapterL3 ≠
      emulationOff.manager.adapterL3 ∧
    ¬ Unchanged emulationOff (applyRuntimeUsbInfo anyIo fullRequest emulationOff).1 := by
  have hmic : (applyRuntimeUsbInfo anyIo fullRequest emulationOff).1.micProcessEnabled ≠
      emulationOff.micProcessEnabled := by decide +kernel
  refine ⟨⟨.gadgetError "USB emulation disabled", by decide +kernel⟩, ?_, hmic,
    by decide +kernel, fun h => hmic h.micProcessEnabled⟩
  exact ⟨_, congrArg Prod.snd (applyRuntimeUsbInfo_of_refusedEarly
    (e := .gadgetError "USB emulation disabled") (by decide +kernel))⟩

theorem refused_unchanged_iff_emulationOff :
    (∃ e, (applyRuntimeUsbInfo anyIo fullRequest emulationOff).2 = .error e) ∧
      (Unchanged emulationOff (applyRuntimeUsbInfo anyIo fullRequest emulationOff).1 ↔
        WritesNothingNew fullRequest emulationOff) :=
  refused_unchanged_iff ⟨.gadgetError "USB emulation disabled", by decide +kernel⟩

end Witness

end RuntimeManager

end ArkKvm.GadgetChange
