import ArkKvm.Usb.GadgetSteps

/-!
# The shortcut for board settings

A full configuration that changes nothing but the board settings of the network
adapter leaves the gadget alone.  It then ends with the same switches, base values,
board settings and last configuration as the way through a rebuild, up to an absent
network adapter switch, which counts as a disabled one.
-/

namespace ArkKvm.GadgetChange

open Lib (Action Poll.map_eq)
open Lib.Action (Keeps)
open Sidecar (UsbError UmsMode DeviceSwitches UsbBaseInfo UsbDeviceInfo UmsHandle Ums1Handle
  NetworkAdapterSwitch NetworkAdapterL3Info Gadget)
open Sidecar.UsbDeviceManager (isSwitchesChange isPathsChange networkAdapterSwitchChanged)

/-- The switches with a disabled network adapter dropped. -/
def normalized (sw : DeviceSwitches) : DeviceSwitches :=
  { sw with networkAdapter := sw.networkAdapter.filter (·.enable) }

theorem normalized_eq_of_unchanged {a b : DeviceSwitches} (h : isSwitchesChange a b = false) :
    normalized a = normalized b := by
  obtain ⟨a₁, a₂, a₃, a₄, a₅, a₆, a₇, na⟩ := a
  obtain ⟨b₁, b₂, b₃, b₄, b₅, b₆, b₇, nb⟩ := b
  simp only [isSwitchesChange, Bool.or_eq_false_iff, bne_eq_false_iff_eq] at h
  obtain ⟨⟨⟨⟨⟨⟨⟨rfl, rfl⟩, rfl⟩, rfl⟩, rfl⟩, rfl⟩, rfl⟩, hna⟩ := h
  have hadapter : na.filter (·.enable) = nb.filter (·.enable) := by
    cases na with
    | none =>
        cases nb with
        | none => rfl
        | some b =>
            have hoff : b.enable = false := hna
            simp [Option.filter, hoff]
    | some a =>
        cases nb with
        | none =>
            have hoff : a.enable = false := hna
            simp [Option.filter, hoff]
        | some b =>
            have hboth : (a.enable != b.enable || a.adapterType != b.adapterType) = false := hna
            rw [Bool.or_eq_false_iff, bne_eq_false_iff_eq, bne_eq_false_iff_eq] at hboth
            obtain ⟨enable, type⟩ := a
            obtain ⟨enable', type'⟩ := b
            obtain ⟨rfl, rfl⟩ := hboth
            rfl
  simp only [normalized, hadapter]

/-! ## The board settings of the handle -/

def ChangeHandler.l3? (c : ChangeHandler) : Option AdapterL3Settings := c.device.network?.map (·.l3)

def networkL3 (hs : List ChangeHandler) : Option AdapterL3Settings := (networkHandle hs).map (·.l3)

theorem networkL3_eq (hs : List ChangeHandler) : networkL3 hs = hs.findSome? (·.l3?) := by
  have hl3 : (fun c : ChangeHandler => c.l3?) = fun c => c.device.network?.map (·.l3) := rfl
  rw [networkL3, networkHandle, hl3, List.map_findSome?]
  rfl

theorem networkL3_map {f : ChangeHandler → ChangeHandler} (h : ∀ c, (f c).l3? = c.l3?)
    (hs : List ChangeHandler) : networkL3 (hs.map f) = networkL3 hs := by
  rw [networkL3_eq, networkL3_eq, List.findSome?_map]
  exact congrArg (List.findSome? · hs) (funext h)

theorem networkL3_setVm (u : UmsHandle) (hs : List ChangeHandler) :
    networkL3 (setVm u hs) = networkL3 hs := by
  refine networkL3_map (fun ⟨name, device, registered, pending⟩ => ?_) hs
  cases device <;> rfl

theorem networkL3_setFt (u : Ums1Handle) (hs : List ChangeHandler) :
    networkL3 (setFt u hs) = networkL3 hs := by
  refine networkL3_map (fun ⟨name, device, registered, pending⟩ => ?_) hs
  cases device <;> rfl

theorem networkL3_updateNetwork {f : NetworkAdapterHandle → NetworkAdapterHandle}
    (hf : ∀ u, (f u).l3 = u.l3) (hs : List ChangeHandler) :
    networkL3 (updateNetwork f hs) = networkL3 hs := by
  refine networkL3_map (fun ⟨name, device, registered, pending⟩ => ?_) hs
  cases device with
  | networkAdapter u => exact congrArg some (hf u)
  | _ => rfl

theorem networkL3_of_frame {hs hs' : List ChangeHandler}
    (h : hs'.map (·.frame) = hs.map (·.frame)) : networkL3 hs' = networkL3 hs := by
  have hmap : ∀ l : List ChangeHandler,
      networkL3 l = (l.map (·.frame)).findSome? fun f => f.traits.l3 := by
    intro l
    rw [networkL3_eq, List.findSome?_map]
    rfl
  rw [hmap, hmap, h]

theorem networkL3_applyDeviceServices (sw : DeviceSwitches) {hs : List ChangeHandler}
    {l3 : AdapterL3Settings} (h : networkL3 hs = some l3) :
    networkL3 (applyDeviceServices sw hs) = some l3 := by
  obtain ⟨made, heq, -⟩ := applyDeviceServices_eq sw hs
  have hold : networkL3 (hs.map fun c => { c with device := c.device.setEnabled sw }) =
      some l3 := by
    rw [networkL3_map (fun ⟨name, device, registered, pending⟩ => ?_), h]
    cases device <;> rfl
  rw [heq, networkL3_eq, List.findSome?_append, ← networkL3_eq, hold]
  rfl

theorem networkHandle_updateNetwork (f : NetworkAdapterHandle → NetworkAdapterHandle)
    (hs : List ChangeHandler) :
    networkHandle (updateNetwork f hs) = (networkHandle hs).map f := by
  induction hs with
  | nil => rfl
  | cons c hs ih =>
      obtain ⟨name, device, registered, pending⟩ := c
      cases device with
      | networkAdapter u => rfl
      | _ => exact ih

theorem hasService_networkAdapter (hs : List ChangeHandler) :
    hasService hs .networkAdapter = (networkHandle hs).isSome := by
  induction hs with
  | nil => rfl
  | cons c hs ih =>
      obtain ⟨name, device, registered, pending⟩ := c
      cases device with
      | networkAdapter u => rfl
      | hid kind u => cases kind <;> exact ih
      | _ => exact ih

theorem networkL3_addService (sw : DeviceSwitches) (hs : List ChangeHandler) :
    networkL3 (addService sw hs .networkAdapter) = some ((networkL3 hs).getD {}) := by
  unfold addService
  rw [hasService_networkAdapter]
  cases hu : networkHandle hs with
  | some u => simp [networkL3, hu]
  | none =>
      have hnew : networkHandle (hs ++ [newService sw hs .networkAdapter]) =
          some { enabled := Service.networkAdapter.enabledBy sw } := by
        unfold networkHandle at hu ⊢
        rw [List.findSome?_append, hu]
        rfl
      simp [networkL3, hu, hnew]

/-- The board settings after a request: none, or settings without address and mask, leave
them as they are. -/
def AdapterL3Settings.after (l3 : AdapterL3Settings) :
    Option NetworkAdapterL3Info → AdapterL3Settings
  | none => l3
  | some c => if c.ipAddress = "" ∧ c.subnetMask = "" then l3 else .ofProto c

theorem setL3FromProto_l3 (cfg : Option NetworkAdapterL3Info) (u : NetworkAdapterHandle) :
    (u.setL3FromProto cfg).l3 = u.l3.after cfg := by
  cases cfg with
  | none => rfl
  | some c =>
      change (if _ then u else _ : NetworkAdapterHandle).l3 = if _ then u.l3 else _
      split <;> rfl

theorem networkL3_setNetworkAdapterL3Config (cfg : Option NetworkAdapterL3Info)
    (s : UsbDeviceManager) :
    networkL3 (UsbDeviceManager.setNetworkAdapterL3Config cfg s).handlers =
      some (((networkL3 s.handlers).getD {}).after cfg) := by
  have hadded := networkL3_addService s.switches s.handlers
  unfold networkL3 at hadded ⊢
  change (networkHandle (updateNetwork (·.setL3FromProto cfg) _)).map _ = _
  rw [networkHandle_updateNetwork]
  cases hu : networkHandle (addService s.switches s.handlers .networkAdapter) with
  | none =>
      rw [hu] at hadded
      cases hadded
  | some u =>
      rw [hu] at hadded
      rw [← Option.some.inj hadded]
      exact congrArg some (setL3FromProto_l3 cfg u)

namespace UsbDeviceManager

/-! ## What the way through a rebuild leaves alone -/

def KeepsL3 (s t : UsbDeviceManager) : Prop :=
  ∀ l3, networkL3 s.handlers = some l3 → networkL3 t.handlers = some l3

theorem KeepsL3.refl (s : UsbDeviceManager) : KeepsL3 s s := fun _ h => h

theorem KeepsL3.trans (s t u : UsbDeviceManager) (hst : KeepsL3 s t) (htu : KeepsL3 t u) :
    KeepsL3 s u := fun l3 h => htu l3 (hst l3 h)

theorem KeepsL3.of_eq {s t : UsbDeviceManager}
    (h : networkL3 t.handlers = networkL3 s.handlers) : KeepsL3 s t :=
  fun _ hs => h.trans hs

theorem keepsL3_notifyAll (io : HandlerIo) (req : ChangeRequest) (s : UsbDeviceManager) :
    KeepsL3 s (notifyAll io req s) :=
  KeepsL3.of_eq (networkL3_of_frame (notifyAll_frame io req s))

theorem keepsL3_askHandlers (io : HandlerIo) (req : ChangeRequest) :
    Keeps KeepsL3 (askHandlers io req) := by
  intro s
  by_cases hall : ∀ c ∈ s.handlers, (c.onChangeRequest io req).2 = .proceed
  · rw [askHandlers_of_agreed hall]
    exact keepsL3_notifyAll io req s
  · obtain ⟨reason, hask⟩ := askHandlers_of_rejected hall
    rw [hask]
    apply KeepsL3.of_eq
    apply networkL3_of_frame
    rw [notifyAll_frame]
    exact Poll.map_eq _ (fun c => c.frame_onChangeRequest io req) s.handlers

theorem keepsL3_bindGadget (io : BindIo) : Keeps KeepsL3 (bindGadgetFromCurrentSwitches io) := by
  intro s l3 h
  have hservices := networkL3_applyDeviceServices s.switches h
  have hset : ∀ net (u : NetworkAdapterHandle), (u.setNet net).l3 = u.l3 := by
    intro net u
    cases net <;> rfl
  unfold bindGadgetFromCurrentSwitches
  by_cases hany : s.switches.hasAnyEnabled = true
  · simp only [hany]
    cases bringUp io s.baseInfo s.switches with
    | error e => exact hservices
    | ok u =>
        apply (networkL3_updateNetwork (hset (netFunction s.switches)) _).trans
        exact hservices
  · simp only [hany]
    exact hservices

theorem keepsL3_bindOrRestore (io : RebuildIo) (old : UsbDeviceManager) :
    Keeps KeepsL3 (bindOrRestore io old) := by
  intro s
  have hbind := keepsL3_bindGadget io.bind s
  unfold bindOrRestore
  generalize bindGadgetFromCurrentSwitches io.bind s = r at hbind ⊢
  obtain ⟨s', e | u⟩ := r
  · apply KeepsL3.trans _ _ _ hbind
    apply KeepsL3.trans _ _ _ _ (keepsL3_notifyAll io.handlers .changeCanceled _)
    exact keepsL3_bindGadget io.fallback
      { s' with
        baseInfo := old.baseInfo
        switches := old.switches }
  · exact hbind.trans _ _ _ (keepsL3_notifyAll io.handlers .changeCompleted s')

theorem keepsL3_applySwitches (io : RebuildIo) (baseInfo : Option UsbBaseInfo)
    (switches : Option DeviceSwitches) : Keeps KeepsL3 (applySwitches io baseInfo switches) := by
  have happroval : Keeps KeepsL3 (requestChangeApproval io.handlers) :=
    (keepsL3_askHandlers io.handlers .requestChange).bind KeepsL3.trans
      fun _ => keepsL3_askHandlers io.handlers .prepareChange
  unfold applySwitches
  apply Keeps.bind KeepsL3.trans (Keeps.read KeepsL3.refl)
  intro s₀
  apply Keeps.bind KeepsL3.trans (Keeps.ensure KeepsL3.refl _ _)
  intro _
  apply Keeps.bind KeepsL3.trans fun s => KeepsL3.refl s
  intro _
  apply Keeps.bind KeepsL3.trans happroval
  intro _
  apply Keeps.bind KeepsL3.trans fun s => KeepsL3.refl s
  intro _
  apply Keeps.bind KeepsL3.trans (Keeps.read KeepsL3.refl)
  intro old
  apply Keeps.bind KeepsL3.trans fun s => KeepsL3.of_eq rfl
  intro _
  exact keepsL3_bindOrRestore io old

def Carries (s t : UsbDeviceManager) : Prop :=
  t.switches = s.switches ∧ t.baseInfo = s.baseInfo ∧ KeepsL3 s t

theorem Carries.refl (s : UsbDeviceManager) : Carries s s := ⟨rfl, rfl, KeepsL3.refl s⟩

theorem Carries.trans {s t u : UsbDeviceManager} (hst : Carries s t) (htu : Carries t u) :
    Carries s u :=
  ⟨htu.1.trans hst.1, htu.2.1.trans hst.2.1, KeepsL3.trans s t u hst.2.2 htu.2.2⟩

theorem carries_setVm (u : UmsHandle) (s : UsbDeviceManager) :
    Carries s { s with handlers := setVm u s.handlers } :=
  ⟨rfl, rfl, KeepsL3.of_eq (networkL3_setVm u s.handlers)⟩

theorem carries_withVm (op : UmsHandle → Except UsbError UmsHandle) (u : UmsHandle)
    (s : UsbDeviceManager) : Carries s (withVm op u s).1 := by
  unfold withVm
  cases op u with
  | error e => exact Carries.refl s
  | ok u' => exact carries_setVm u' s

theorem carries_withFt (op : Ums1Handle → Except UsbError Ums1Handle) (u : Ums1Handle)
    (s : UsbDeviceManager) : Carries s (withFt op u s).1 := by
  unfold withFt
  cases op u with
  | error e => exact Carries.refl s
  | ok u' => exact ⟨rfl, rfl, KeepsL3.of_eq (networkL3_setFt u' s.handlers)⟩

theorem carries_umsVmUnmount (io : UmsIo) (s : UsbDeviceManager) :
    Carries s (umsVmUnmount io s).1 := by
  unfold umsVmUnmount
  split
  · exact Carries.refl s
  · exact carries_withVm _ _ s

theorem carries_umsFtUnmount (io : UmsIo) (s : UsbDeviceManager) :
    Carries s (umsFtUnmount io s).1 := by
  unfold umsFtUnmount
  split
  · exact Carries.refl s
  · exact carries_withFt _ _ s

theorem carries_mountVm (io : UmsIo) (path : String) (s : UsbDeviceManager) :
    Carries s (mountVm io path s).1 := by
  unfold mountVm
  split
  · exact Carries.refl s
  · exact carries_withVm _ _ s

theorem carries_switchVmMode {io : UmsIo} {mode : UmsMode} {u : UmsHandle}
    {s t : UsbDeviceManager} (h : switchVmMode io mode u s = (t, .ok ())) : Carries s t := by
  unfold switchVmMode at h
  split at h
  · cases h
  · next u' _ =>
      cases h
      exact carries_setVm u' s
  · next u' _ =>
      have hok := applySwitches_ok (congrArg Prod.snd h)
      have hkeep := keepsL3_applySwitches io.rebuild none none
        { s with handlers := setVm u' s.handlers }
      rw [h] at hok hkeep
      exact (carries_setVm u' s).trans ⟨hok.2.2.2.1, hok.2.2.1, hkeep⟩

theorem carries_applyVmMount {io : UmsIo} {info : UsbDeviceInfo} {enabled : Bool}
    {s t : UsbDeviceManager} (h : applyVmMount io info enabled s = (t, .ok ())) :
    Carries s t := by
  have hmount : ∀ s t, logged (mountVm io info.umsVmPath) s = (t, .ok ()) → Carries s t := by
    intro s t h
    cases h
    exact carries_mountVm io info.umsVmPath s
  unfold applyVmMount at h
  split at h
  · cases h
    exact Carries.refl s
  · split at h
    · cases h
      exact carries_umsVmUnmount io s
    · split at h
      · cases h
        exact Carries.refl s
      · split at h
        · exact hmount s t h
        · obtain ⟨_, s₁, hswitch, hrest⟩ := Action.bind_eq_ok h
          exact (carries_switchVmMode hswitch).trans (hmount s₁ t hrest)

theorem carries_applyFtMount {io : UmsIo} {info : UsbDeviceInfo} {enabled : Bool}
    {s t : UsbDeviceManager} (h : applyFtMount io info enabled s = (t, .ok ())) :
    Carries s t := by
  unfold applyFtMount at h
  split at h
  · cases h
    exact Carries.refl s
  · split at h
    · cases h
      exact carries_umsFtUnmount io s
    · split at h
      · cases h
        exact Carries.refl s
      · cases h
        exact carries_withFt _ _ s

theorem carries_applyUmsMounts {io : UmsIo} {info : UsbDeviceInfo} {s t : UsbDeviceManager}
    (h : applyUmsMounts io info s = (t, .ok ())) : Carries s t := by
  unfold applyUmsMounts at h
  obtain ⟨s₀, s₁, hread, h⟩ := Action.bind_eq_ok h
  cases hread
  obtain ⟨_, s₂, hpreflight, h⟩ := Action.bind_eq_ok h
  obtain ⟨rfl, -⟩ := Action.ofExcept_eq_ok hpreflight
  cases hsw : info.switches with
  | none =>
      rw [hsw] at h
      cases h
      exact Carries.refl s
  | some sw =>
      rw [hsw] at h
      obtain ⟨_, s₃, hvm, hft⟩ := Action.bind_eq_ok h
      exact (carries_applyVmMount hvm).trans (carries_applyFtMount hft)

/-! ## The two ways -/

theorem rebuildAndMount_ok {io : FullConfigIo} {info : UsbDeviceInfo} {sw : DeviceSwitches}
    {baseInfo : UsbBaseInfo} {s t : UsbDeviceManager}
    (h : rebuildAndMount io info sw baseInfo s = (t, .ok ())) :
    t.switches = sw ∧ t.baseInfo = baseInfo ∧ KeepsL3 s t := by
  obtain ⟨_, s₁, hswitches, hmounts⟩ := Action.bind_eq_ok h
  have hok := applySwitches_ok (congrArg Prod.snd hswitches)
  have hkeep := keepsL3_applySwitches io.rebuild (some baseInfo) (some sw) s
  rw [hswitches] at hok hkeep
  obtain ⟨hsw, hbase, hl3⟩ := carries_applyUmsMounts hmounts
  exact ⟨hsw.trans hok.2.2.2.1, hbase.trans hok.2.2.1, KeepsL3.trans s s₁ t hkeep hl3⟩

theorem applyNetworkAdapterL3Only_ok {io : NetworkIo} {s t : UsbDeviceManager}
    (h : applyNetworkAdapterL3Only io s = (t, .ok ())) :
    ∃ l3, networkL3 s.handlers = some l3 ∧ networkL3 t.handlers = some l3 ∧
      t.switches = s.switches ∧ t.baseInfo = s.baseInfo := by
  unfold applyNetworkAdapterL3Only at h
  split at h
  · cases h
  · next u hu =>
      have hl3 : (NetworkAdapterHandle.applyL3 io u).1.l3 = u.l3 := by
        rw [NetworkAdapterHandle.applyL3_eq]
      have ht := congrArg Prod.fst h
      subst ht
      refine ⟨u.l3, ?_, ?_, rfl, rfl⟩
      · rw [networkL3, hu]
        rfl
      · rw [networkL3, networkHandle_updateNetwork, hu, ← hl3]
        rfl

structure Outcome where
  switches : DeviceSwitches
  baseInfo : UsbBaseInfo
  networkL3 : Option AdapterL3Settings
  lastUsbInfo : Option UsbDeviceInfo
deriving DecidableEq

def outcome (s : UsbDeviceManager) : Outcome where
  switches := normalized s.switches
  baseInfo := s.baseInfo
  networkL3 := networkL3 s.handlers
  lastUsbInfo := s.lastUsbInfo

/-- What a configuration asks for: its values in place of the old ones, and board
settings that build on the old ones. -/
def Outcome.after (o : Outcome) (info : UsbDeviceInfo) (sw : DeviceSwitches)
    (baseInfo : UsbBaseInfo) : Outcome where
  switches := normalized sw
  baseInfo := baseInfo
  networkL3 := some ((o.networkL3.getD {}).after info.networkAdapterL3)
  lastUsbInfo := some info

theorem takesShortcut_iff (s : UsbDeviceManager) (info : UsbDeviceInfo) (sw : DeviceSwitches)
    (baseInfo : UsbBaseInfo) :
    takesShortcut s info sw baseInfo = true ↔
      ∃ last, s.lastUsbInfo = some last ∧ isSwitchesChange s.switches sw = false ∧
        isPathsChange last info = false ∧ s.baseInfo = baseInfo ∧
        last.networkAdapterL3 ≠ info.networkAdapterL3 := by
  unfold takesShortcut pathsChanged networkL3Changed
  cases s.lastUsbInfo with
  | none => simp
  | some last => simp [and_assoc]

/-- Whichever way a configuration goes, as long as the shortcut is taken for nothing
else: when it succeeds, the outcome is what it asks for. -/
theorem outcome_of_config
    {chooses : UsbDeviceManager → UsbDeviceInfo → DeviceSwitches → UsbBaseInfo → Bool}
    (hchooses : ∀ s info sw baseInfo,
      chooses s info sw baseInfo = true → takesShortcut s info sw baseInfo = true)
    {io : FullConfigIo} {info : UsbDeviceInfo} {sw : DeviceSwitches} {baseInfo : UsbBaseInfo}
    {s t : UsbDeviceManager} (hsw : info.switches = some sw)
    (h : applyFullConfigVia chooses io info baseInfo s = (t, .ok ())) :
    outcome t = (outcome s).after info sw baseInfo := by
  have hl3 := networkL3_setNetworkAdapterL3Config info.networkAdapterL3 s
  unfold applyFullConfigVia at h
  rw [hsw] at h
  obtain ⟨_, s₁, hset, h⟩ := Action.bind_eq_ok h
  cases hset
  obtain ⟨s₁', s₂, hread, h⟩ := Action.bind_eq_ok h
  cases hread
  generalize setNetworkAdapterL3Config info.networkAdapterL3 s = s₁ at hl3 h
  have hend : ∃ s₃ : UsbDeviceManager, t = { s₃ with lastUsbInfo := some info } ∧
      normalized s₃.switches = normalized sw ∧ s₃.baseInfo = baseInfo ∧
      networkL3 s₃.handlers = networkL3 s₁.handlers := by
    split at h
    · next hchosen =>
        obtain ⟨_, s₃, hway, hlast⟩ := Action.bind_eq_ok h
        cases hlast
        obtain ⟨last, -, hsame, -, hbase, -⟩ :=
          (takesShortcut_iff s₁ info sw baseInfo).mp (hchooses s₁ info sw baseInfo hchosen)
        obtain ⟨l3, hbefore, hafter, hswitches, hinfo⟩ := applyNetworkAdapterL3Only_ok hway
        refine ⟨s₃, rfl, ?_⟩
        rw [hswitches, hinfo, hafter, hbefore]
        exact ⟨normalized_eq_of_unchanged hsame, hbase, rfl⟩
    · obtain ⟨_, s₃, hway, hlast⟩ := Action.bind_eq_ok h
      cases hlast
      obtain ⟨hswitches, hbase, hkeep⟩ := rebuildAndMount_ok hway
      refine ⟨s₃, rfl, ?_⟩
      rw [hswitches, hkeep _ hl3, hl3]
      exact ⟨rfl, hbase, rfl⟩
  obtain ⟨s₃, rfl, hswitches, hbase, hboard⟩ := hend
  simp only [outcome, Outcome.after, Outcome.mk.injEq]
  exact ⟨hswitches, hbase, hboard.trans hl3, trivial⟩

/-- The request changes a switch, the type of an enabled adapter, a base value, a path
or the mode of the virtual media. -/
def ChangesGadget (s : UsbDeviceManager) (info : UsbDeviceInfo) (sw : DeviceSwitches)
    (baseInfo : UsbBaseInfo) : Prop :=
  normalized sw ≠ normalized s.switches ∨ baseInfo ≠ s.baseInfo ∨
    ∃ last ∈ s.lastUsbInfo, info.umsVmPath ≠ last.umsVmPath ∨
      info.umsFtPath ≠ last.umsFtPath ∨ info.umsVmType ≠ last.umsVmType

theorem not_takesShortcut_of_changesGadget {s : UsbDeviceManager} {info : UsbDeviceInfo}
    {sw : DeviceSwitches} {baseInfo : UsbBaseInfo} (h : ChangesGadget s info sw baseInfo) :
    takesShortcut s info sw baseInfo = false := by
  rw [Bool.eq_false_iff]
  intro htakes
  obtain ⟨last, hlast, hsame, hpaths, hbase, -⟩ :=
    (takesShortcut_iff s info sw baseInfo).mp htakes
  simp only [isPathsChange, Bool.or_eq_false_iff, bne_eq_false_iff_eq] at hpaths
  obtain ⟨⟨hvm, hft⟩, hmode⟩ := hpaths
  rcases h with hswitches | hinfo | ⟨last', hlast', hvm' | hft' | hmode'⟩
  · exact hswitches (normalized_eq_of_unchanged hsame).symm
  · exact hinfo hbase.symm
  all_goals
    rw [hlast] at hlast'
    cases hlast'
  · exact hvm' hvm.symm
  · exact hft' hft.symm
  · exact hmode' hmode.symm

/-- A full configuration that succeeds ends as it would through a rebuild, in whatever
state it finds the manager; and the shortcut is not taken when anything else changes. -/
theorem shortcut_agrees {info : UsbDeviceInfo} {sw : DeviceSwitches}
    (hsw : info.switches = some sw) (baseInfo : UsbBaseInfo) (s : UsbDeviceManager) :
    (∀ io io' t u, applyFullConfig io info baseInfo s = (t, .ok ()) →
      applyFullConfigVia (fun _ _ _ _ => false) io' info baseInfo s = (u, .ok ()) →
      outcome t = outcome u) ∧
    (ChangesGadget s info sw baseInfo →
      takesShortcut (setNetworkAdapterL3Config info.networkAdapterL3 s) info sw baseInfo =
        false) := by
  refine ⟨fun io io' t u ht hu => ?_, fun h => ?_⟩
  · rw [outcome_of_config (fun _ _ _ _ h => h) hsw ht,
      outcome_of_config (fun _ _ _ _ h => absurd h (by simp)) hsw hu]
  · exact not_takesShortcut_of_changesGadget h

section Witness

/-- An enabled adapter with this address. -/
private def adapterAt (ipAddress : String) : UsbDeviceInfo where
  switches := some { networkAdapter := some ⟨true, .ncm⟩ }
  networkAdapterL3 := some ⟨ipAddress, "255.255.255.0", none, []⟩

private def someBase : UsbBaseInfo := { serialNumber := "ARK0123456789" }

private def workingIo : FullConfigIo where
  rebuild := .working
  mounts := ⟨.working, .working, .working⟩
  network := ⟨some "usb0", .ok ()⟩

/-- The adapter is set up, at the first address. -/
private def adapterUp : UsbDeviceManager :=
  (applyFullConfig workingIo (adapterAt "10.0.0.1") someBase (start someBase)).1

/-- Another address: both ways work, and they end alike. -/
theorem shortcut_agrees_newAddress :
    takesShortcut (setNetworkAdapterL3Config (adapterAt "10.0.0.2").networkAdapterL3 adapterUp)
      (adapterAt "10.0.0.2") { networkAdapter := some ⟨true, .ncm⟩ } someBase = true ∧
    outcome (applyFullConfig workingIo (adapterAt "10.0.0.2") someBase adapterUp).1 =
      outcome (applyFullConfigVia (fun _ _ _ _ => false) workingIo (adapterAt "10.0.0.2")
        someBase adapterUp).1 := by
  refine ⟨by decide +kernel, ?_⟩
  have hok : ∀ x : UsbDeviceManager × Except UsbError Unit, x.2.isOk = true →
      x = (x.1, .ok ()) := by
    rintro ⟨t, e | u⟩ h
    · cases h
    · rfl
  exact (shortcut_agrees rfl someBase adapterUp).1 workingIo workingIo _ _
    (hok _ (by decide +kernel)) (hok _ (by decide +kernel))

end Witness

/-! ## Sequences of configurations -/

inductive Configured
    (chooses : UsbDeviceManager → UsbDeviceInfo → DeviceSwitches → UsbBaseInfo → Bool) :
    UsbDeviceManager → List (UsbDeviceInfo × UsbBaseInfo) → UsbDeviceManager → Prop
  | nil (s : UsbDeviceManager) : Configured chooses s [] s
  | cons {io : FullConfigIo} {info : UsbDeviceInfo} {sw : DeviceSwitches}
      {baseInfo : UsbBaseInfo} {s t u : UsbDeviceManager}
      {calls : List (UsbDeviceInfo × UsbBaseInfo)} (hsw : info.switches = some sw)
      (hcall : applyFullConfigVia chooses io info baseInfo s = (t, .ok ()))
      (hrest : Configured chooses t calls u) : Configured chooses s ((info, baseInfo) :: calls) u

theorem Configured.outcome_eq
    {chooses : UsbDeviceManager → UsbDeviceInfo → DeviceSwitches → UsbBaseInfo → Bool}
    (hchooses : ∀ s info sw baseInfo,
      chooses s info sw baseInfo = true → takesShortcut s info sw baseInfo = true)
    {calls : List (UsbDeviceInfo × UsbBaseInfo)} {s t : UsbDeviceManager}
    (h : Configured chooses s calls t) :
    outcome t = calls.foldl (fun o c => o.after c.1 (c.1.switches.getD {}) c.2) (outcome s) := by
  induction h with
  | nil s => rfl
  | cons hsw hcall hrest ih =>
      rw [ih, outcome_of_config hchooses hsw hcall, List.foldl_cons, hsw, Option.getD_some]

theorem Configured.agrees {calls : List (UsbDeviceInfo × UsbBaseInfo)}
    {s t u : UsbDeviceManager} (ht : Configured takesShortcut s calls t)
    (hu : Configured (fun _ _ _ _ => false) s calls u) : outcome t = outcome u := by
  rw [ht.outcome_eq fun _ _ _ _ h => h, hu.outcome_eq fun _ _ _ _ h => absurd h (by simp)]

end UsbDeviceManager

end ArkKvm.GadgetChange
