import ArkKvm.Usb.GadgetInvariant

/-!
# The mode of the virtual media LUN

A mode switch is committed to the handle before the gadget is rebuilt.  When a
handler rejects that rebuild, the old gadget stays bound with the old mode, and the
same request made again is answered without a rebuild.  In runs without such a
rejection the mode of the handle is the mode of the bound gadget.
-/

namespace ArkKvm.GadgetChange

open Lib.Run (Reach anyStep)
open Sidecar (UsbError UmsMode UmsVmType DeviceSwitches UsbBaseInfo UmsHandle Ums1Handle LunIo Gadget)

/-! ## The mode of the handle -/

def ChangeHandler.mode? (c : ChangeHandler) : Option UmsMode := c.device.ums?.map (·.mode)

theorem umsMode_eq (hs : List ChangeHandler) :
    umsMode hs = (hs.filterMap (·.mode?)).head?.getD .cdRom := by
  have hmode : (fun c : ChangeHandler => c.mode?) = fun c => c.device.ums?.map (·.mode) := rfl
  rw [umsMode, vmHandle, List.head?_filterMap, hmode, List.map_findSome?]
  rfl

theorem umsMode_congr {hs hs' : List ChangeHandler}
    (h : hs'.map (·.mode?) = hs.map (·.mode?)) : umsMode hs' = umsMode hs := by
  have hmap : ∀ l : List ChangeHandler,
      l.filterMap (·.mode?) = (l.map (·.mode?)).filterMap id := by
    intro l
    rw [List.filterMap_map]
    rfl
  rw [umsMode_eq, umsMode_eq, hmap, hmap, h]

theorem umsMode_of_frame {hs hs' : List ChangeHandler}
    (h : hs'.map (·.frame) = hs.map (·.frame)) : umsMode hs' = umsMode hs := by
  have hmap : ∀ l : List ChangeHandler,
      l.map (·.mode?) = (l.map (·.frame)).map fun f => f.traits.umsMode := by
    intro l
    rw [List.map_map]
    rfl
  exact umsMode_congr (by rw [hmap, hmap, h])

theorem umsMode_map {f : ChangeHandler → ChangeHandler} (h : ∀ c, (f c).mode? = c.mode?)
    (hs : List ChangeHandler) : umsMode (hs.map f) = umsMode hs := by
  refine umsMode_congr ?_
  rw [List.map_map]
  exact List.map_congr_left fun c _ => h c

theorem umsMode_updateNetwork (f : NetworkAdapterHandle → NetworkAdapterHandle)
    (hs : List ChangeHandler) : umsMode (updateNetwork f hs) = umsMode hs := by
  refine umsMode_map (fun ⟨name, device, registered, pending⟩ => ?_) hs
  cases device <;> rfl

theorem umsMode_setFt (u : Ums1Handle) (hs : List ChangeHandler) :
    umsMode (setFt u hs) = umsMode hs := by
  refine umsMode_map (fun ⟨name, device, registered, pending⟩ => ?_) hs
  cases device <;> rfl

theorem vmHandle_setVm {u : UmsHandle} (u' : UmsHandle) {hs : List ChangeHandler}
    (h : vmHandle hs = some u) : vmHandle (setVm u' hs) = some u' := by
  induction hs with
  | nil => cases h
  | cons c hs ih =>
      obtain ⟨name, device, registered, pending⟩ := c
      cases device with
      | ums u₀ => rfl
      | _ => exact ih h

theorem umsMode_setVm {u : UmsHandle} (u' : UmsHandle) {hs : List ChangeHandler}
    (h : vmHandle hs = some u) : umsMode (setVm u' hs) = u'.mode := by
  rw [umsMode, vmHandle_setVm u' h]
  rfl

theorem umsMode_of_vmHandle {u : UmsHandle} {hs : List ChangeHandler}
    (h : vmHandle hs = some u) : umsMode hs = u.mode := by
  rw [umsMode, h]
  rfl

theorem umsMode_addService (sw : DeviceSwitches) (hs : List ChangeHandler) (svc : Service) :
    umsMode (addService sw hs svc) = umsMode hs := by
  unfold addService
  by_cases hhas : hasService hs svc = true
  · rw [if_pos hhas]
  · rw [if_neg hhas]
    unfold umsMode vmHandle
    rw [List.findSome?_append]
    cases hu : hs.findSome? (·.device.ums?) with
    | some u => rfl
    | none => cases svc <;> rfl

theorem umsMode_applyDeviceServices (sw : DeviceSwitches) (hs : List ChangeHandler) :
    umsMode (applyDeviceServices sw hs) = umsMode hs := by
  have hfold : ∀ (svcs : List Service) (l : List ChangeHandler),
      umsMode (svcs.foldl (addService sw) l) = umsMode l := by
    intro svcs
    induction svcs with
    | nil => exact fun l => rfl
    | cons svc svcs ih => exact fun l => (ih _).trans (umsMode_addService sw l svc)
  unfold applyDeviceServices
  rw [hfold]
  refine umsMode_map (fun ⟨name, device, registered, pending⟩ => ?_) hs
  cases device <;> rfl

theorem length_modes_le {hs : List ChangeHandler} (hone : (services hs).Nodup) :
    (hs.filterMap (·.mode?)).length ≤ 1 := by
  have hcount : (hs.filterMap (·.mode?)).length = (services hs).count .ums := by
    clear hone
    induction hs with
    | nil => rfl
    | cons c hs ih =>
        have hother : ∀ svc : Service, svc ≠ .ums →
            (hs.filterMap (·.mode?)).length = (svc :: services hs).count .ums := by
          intro svc hsvc
          rw [List.count_cons_of_ne hsvc, ih]
        obtain ⟨name, device, registered, pending⟩ := c
        cases device with
        | ums u =>
            change (u.mode :: hs.filterMap (·.mode?)).length = (.ums :: services hs).count .ums
            rw [List.length_cons, List.count_cons_self, ih]
        | ums1 u => exact hother .ums1 (by decide)
        | uac u => exact hother .uac (by decide)
        | hid kind u => exact hother (.hid kind) (by simp)
        | networkAdapter u => exact hother .networkAdapter (by decide)
        | subscriber => exact ih
  rw [hcount]
  exact List.nodup_iff_count_le_one.mp hone .ums

theorem umsMode_perm {hs hs' : List ChangeHandler} (hperm : hs'.Perm hs)
    (hone : (services hs).Nodup) : umsMode hs' = umsMode hs := by
  have hmodes := hperm.filterMap (·.mode?)
  have hlength := length_modes_le hone
  have hsame : hs'.filterMap (·.mode?) = hs.filterMap (·.mode?) := by
    match hlist : hs.filterMap (·.mode?) with
    | [] =>
        rw [hlist] at hmodes
        exact hmodes.eq_nil.trans hlist.symm
    | [m] =>
        rw [hlist] at hmodes
        exact hmodes.eq_singleton.trans hlist.symm
    | _ :: _ :: _ =>
        rw [hlist] at hlength
        simp at hlength
  rw [umsMode_eq, umsMode_eq, hsame]

namespace UsbDeviceManager

theorem umsMode_removeChangeHandler (name : String) (hs : List ChangeHandler) :
    umsMode (removeChangeHandler name hs) = umsMode hs := by
  rw [umsMode_eq, umsMode_eq, removeChangeHandler, List.filterMap_filterMap]
  have hsame : ∀ c : ChangeHandler, ((if c.registered ∧ c.name = name then
      if c.device = .subscriber then none else some { c with registered := false }
      else some c).bind fun c => c.mode?) = c.mode? := by
    intro c
    split
    · split
      · next hsub => simp [ChangeHandler.mode?, hsub, Device.ums?]
      · rfl
    · rfl
  rw [funext hsame]

variable {s : UsbDeviceManager}

theorem umsMode_notifyAll (io : HandlerIo) (req : ChangeRequest) (s : UsbDeviceManager) :
    umsMode (notifyAll io req s).handlers = umsMode s.handlers :=
  umsMode_of_frame (notifyAll_frame io req s)

theorem umsMode_prepared (io : HandlerIo) (s : UsbDeviceManager) :
    umsMode (prepared io s).handlers = umsMode s.handlers :=
  (umsMode_notifyAll io .prepareChange _).trans (umsMode_notifyAll io .requestChange s)

theorem umsMode_bind (bio : BindIo) (s : UsbDeviceManager) :
    umsMode (bindGadgetFromCurrentSwitches bio s).1.handlers = umsMode s.handlers := by
  have happly := umsMode_applyDeviceServices s.switches s.handlers
  unfold bindGadgetFromCurrentSwitches
  split
  · exact happly
  · split
    · exact happly
    · exact (umsMode_updateNetwork (·.setNet (netFunction s.switches)) _).trans happly

/-! ## Agreement -/

def ModeAgrees (s : UsbDeviceManager) : Prop := ∀ g ∈ s.activeGadget, g.umsMode = umsMode s.handlers

/-- Handlers that keep the mode. -/
theorem ModeAgrees.of_mode (h : ModeAgrees s) {t : UsbDeviceManager}
    (hgadget : t.activeGadget = s.activeGadget) (hmode : umsMode t.handlers = umsMode s.handlers) :
    ModeAgrees t := by
  intro g hg
  rw [hgadget] at hg
  rw [hmode]
  exact h g hg

theorem modeAgrees_notifyAll (io : HandlerIo) (req : ChangeRequest) (h : ModeAgrees s) :
    ModeAgrees (notifyAll io req s) :=
  h.of_mode rfl (umsMode_notifyAll io req s)

theorem modeAgrees_bind (bio : BindIo) (hnone : s.activeGadget = none) :
    ModeAgrees (bindGadgetFromCurrentSwitches bio s).1 := by
  intro g hg
  by_cases hup : BringsUp bio s.baseInfo s.switches
  · obtain ⟨hs, hrun, -⟩ := bind_of_bringsUp hup hnone
    rw [umsMode_bind]
    rw [hrun] at hg
    change g ∈ builtGadget _ _ _ at hg
    unfold builtGadget at hg
    split at hg
    · cases hg
      exact umsMode_applyDeviceServices s.switches s.handlers
    · cases hg
  · obtain ⟨e, hrun⟩ := bind_of_fails hup
    rw [hrun] at hg
    change g ∈ s.activeGadget at hg
    rw [hnone] at hg
    cases hg

theorem modeAgrees_bindOrRestore (rio : RebuildIo) (old : UsbDeviceManager)
    (hnone : s.activeGadget = none) :
    ModeAgrees (bindOrRestore rio old s).1 ∧
      umsMode (bindOrRestore rio old s).1.handlers = umsMode s.handlers := by
  have hmode := umsMode_bind rio.bind s
  have hagrees := modeAgrees_bind rio.bind hnone
  unfold bindOrRestore
  rcases hrun : bindGadgetFromCurrentSwitches rio.bind s with ⟨t, e | u⟩
  · have hgadget := bind_error_gadget rio.bind (s := s) (e := e) (by rw [hrun])
    rw [hrun] at hmode hgadget
    have hrestored := modeAgrees_bind rio.fallback (s := { t with
      baseInfo := old.baseInfo
      switches := old.switches }) (hgadget.trans hnone)
    exact ⟨modeAgrees_notifyAll _ _ hrestored,
      (umsMode_notifyAll _ _ _).trans ((umsMode_bind rio.fallback _).trans hmode)⟩
  · rw [hrun] at hmode hagrees
    exact ⟨modeAgrees_notifyAll _ _ hagrees, (umsMode_notifyAll _ _ _).trans hmode⟩

/-- A rebuild ends in agreement, whatever the modes were before, unless it is refused or
rejected. -/
theorem modeAgrees_applySwitches (rio : RebuildIo) (baseInfo : Option UsbBaseInfo)
    (switches : Option DeviceSwitches)
    (hkeep : ¬ (Admitted s switches ∧ Approves rio.handlers s.handlers) → ModeAgrees s) :
    ModeAgrees (applySwitches rio baseInfo switches s).1 ∧
      umsMode (applySwitches rio baseInfo switches s).1.handlers = umsMode s.handlers := by
  by_cases hadm : Admitted s switches
  · by_cases happ : Approves rio.handlers s.handlers
    · have hprep := umsMode_prepared rio.handlers s
      cases hrel : rio.released with
      | ok u =>
          rw [applySwitches_of_released hadm happ hrel]
          obtain ⟨hagrees, hmode⟩ := modeAgrees_bindOrRestore rio s
            (s := { prepared rio.handlers s with
              activeGadget := none
              baseInfo := baseInfo.getD s.baseInfo
              switches := switches.getD s.switches }) rfl
          exact ⟨hagrees, hmode.trans hprep⟩
      | error e =>
          rw [applySwitches_of_stuck hadm happ hrel]
          exact ⟨fun g hg => (by cases hg), hprep⟩
    · obtain ⟨hs, reason, hrun, hframe⟩ :=
        applySwitches_of_rejected baseInfo hadm happ
      have hmode := (umsMode_notifyAll rio.handlers .changeCanceled
        { s with handlers := hs }).trans (umsMode_of_frame hframe)
      rw [hrun]
      exact ⟨(hkeep fun h => happ h.2).of_mode rfl hmode, hmode⟩
  · obtain ⟨e, hrun⟩ := applySwitches_of_refused rio baseInfo hadm
    rw [hrun]
    exact ⟨hkeep fun h => hadm h.1, rfl⟩

/-! ## Commands that keep the mode -/

def KeepsMode (s t : UsbDeviceManager) : Prop :=
  ∃ hs, t = { s with handlers := hs } ∧ umsMode hs = umsMode s.handlers

theorem KeepsMode.refl (s : UsbDeviceManager) : KeepsMode s s := ⟨s.handlers, rfl, rfl⟩

theorem KeepsMode.agrees {t : UsbDeviceManager} (hk : KeepsMode s t) (h : ModeAgrees s) :
    ModeAgrees t := by
  obtain ⟨hs, rfl, hmode⟩ := hk
  exact h.of_mode rfl hmode

theorem keepsMode_withVm {op : UmsHandle → Except UsbError UmsHandle}
    (hop : ∀ u u', op u = .ok u' → u'.mode = u.mode) {u : UmsHandle}
    (hu : vmHandle s.handlers = some u) : KeepsMode s (withVm op u s).1 := by
  unfold withVm
  cases hrun : op u with
  | error e => exact .refl s
  | ok u' =>
      exact ⟨_, rfl, (umsMode_setVm u' hu).trans
        ((hop u u' hrun).trans (umsMode_of_vmHandle hu).symm)⟩

theorem keepsMode_withFt {op : Ums1Handle → Except UsbError Ums1Handle} {u : Ums1Handle} :
    KeepsMode s (withFt op u s).1 := by
  unfold withFt
  cases hrun : op u with
  | error e => exact .refl s
  | ok u' => exact ⟨_, rfl, umsMode_setFt u' s.handlers⟩

theorem keepsMode_mountVm (io : UmsIo) (path : String) (s : UsbDeviceManager) :
    KeepsMode s (mountVm io path s).1 := by
  unfold mountVm
  cases hu : vmHandle s.handlers with
  | none => exact .refl s
  | some u => exact keepsMode_withVm (fun _ _ hok => by rw [umsMount_ok hok]) hu

theorem keepsMode_umsVmUnmount (io : UmsIo) (s : UsbDeviceManager) :
    KeepsMode s (umsVmUnmount io s).1 := by
  unfold umsVmUnmount
  cases hu : vmHandle s.handlers with
  | none => exact .refl s
  | some u =>
      refine keepsMode_withVm (fun u u' hok => ?_) hu
      rw [umsUnmount_ok hok]
      split <;> rfl

theorem keepsMode_umsFtUnmount (io : UmsIo) (s : UsbDeviceManager) :
    KeepsMode s (umsFtUnmount io s).1 := by
  unfold umsFtUnmount
  cases ftHandle s.handlers with
  | none => exact .refl s
  | some u => exact keepsMode_withFt

theorem keepsMode_umsFtMount (io : UmsIo) (path : String) (s : UsbDeviceManager) :
    KeepsMode s (umsFtMount io path s).1 := by
  unfold umsFtMount
  cases ftHandle s.handlers with
  | none => exact .refl s
  | some u => exact keepsMode_withFt

/-! ## Mode switches -/

/-- The rebuild for a mode that is committed while a gadget is bound is not rejected. -/
def ModeRebuilds (io : UmsIo) (mode : UmsMode) (s : UsbDeviceManager) : Prop :=
  ∀ u u', vmHandle s.handlers = some u → u.switchMode mode = .ok (u', true) →
    s.activeGadget ≠ none → Approves io.rebuild.handlers (setVm u' s.handlers)

theorem modeAgrees_switchVmMode {io : UmsIo} {mode : UmsMode} {u : UmsHandle}
    (hu : vmHandle s.handlers = some u) (hrebuilds : ModeRebuilds io mode s)
    (hcons : Consistent s) (h : ModeAgrees s) : ModeAgrees (switchVmMode io mode u s).1 := by
  unfold switchVmMode
  cases hsw : u.switchMode mode with
  | error e => exact h
  | ok r =>
      obtain ⟨u', rebuild⟩ := r
      cases rebuild with
      | false =>
          refine h.of_mode rfl ((umsMode_setVm u' hu).trans ?_)
          rw [(switchMode_ok hsw).2.2 rfl, umsMode_of_vmHandle hu]
      | true =>
          refine (modeAgrees_applySwitches _ _ _ (s := { s with handlers := setVm u' s.handlers })
            fun hno g hg => ?_).1
          obtain ⟨hbase, hsame, hany, hon⟩ := hcons.gadget g hg
          refine absurd ⟨⟨hon, hcons.budget⟩, hrebuilds u u' hu hsw ?_⟩ hno
          intro hnone
          rw [hnone] at hg
          cases hg

theorem switchVmMode_ok {io : UmsIo} {mode : UmsMode} {u : UmsHandle}
    (hu : vmHandle s.handlers = some u) (hcons : Consistent s) (h : ModeAgrees s)
    (hok : (switchVmMode io mode u s).2 = .ok ()) :
    ModeAgrees (switchVmMode io mode u s).1 ∧
      umsMode (switchVmMode io mode u s).1.handlers = mode ∧
      (switchVmMode io mode u s).1.switches.umsVmEnabled = true := by
  unfold switchVmMode at hok ⊢
  cases hsw : u.switchMode mode with
  | error e =>
      rw [hsw] at hok
      cases hok
  | ok r =>
      obtain ⟨u', rebuild⟩ := r
      obtain ⟨hu', hon, hsame⟩ := switchMode_ok hsw
      have henabled : s.switches.umsVmEnabled = true := by
        obtain ⟨c, hc, hd⟩ := mem_of_vmHandle hu
        have hmatch := hcons.flags c hc .ums (by rw [hd]; rfl)
        rw [hd] at hmatch
        exact hmatch.symm.trans hon
      have hmode : umsMode (setVm u' s.handlers) = mode := by rw [umsMode_setVm u' hu, hu']
      rw [hsw] at hok
      cases rebuild with
      | false =>
          refine ⟨h.of_mode rfl ((umsMode_setVm u' hu).trans ?_), hmode, henabled⟩
          rw [hsame rfl, umsMode_of_vmHandle hu]
      | true =>
          obtain ⟨hadm, happ, -, hswitches, -⟩ := applySwitches_ok
            (s := { s with handlers := setVm u' s.handlers }) hok
          obtain ⟨hagrees, hkeeps⟩ := modeAgrees_applySwitches io.rebuild none none
            (s := { s with handlers := setVm u' s.handlers }) fun hno => absurd ⟨hadm, happ⟩ hno
          exact ⟨hagrees, hkeeps.trans hmode, (congrArg (·.umsVmEnabled) hswitches).trans henabled⟩

theorem modeAgrees_switchThen {io : UmsIo} {mode : UmsMode} {u : UmsHandle}
    (next : Lib.Action UsbError UsbDeviceManager Unit)
    (hnext : ∀ t, KeepsMode t (next t).1) (hu : vmHandle s.handlers = some u)
    (hrebuilds : ModeRebuilds io mode s) (hcons : Consistent s) (h : ModeAgrees s) :
    ModeAgrees ((switchVmMode io mode u >>= fun _ => next) s).1 := by
  have hswitch := modeAgrees_switchVmMode hu hrebuilds hcons h
  rcases hrun : switchVmMode io mode u s with ⟨t, e | a⟩
  · rw [hrun] at hswitch
    rw [Lib.Action.bind_of_error hrun]
    exact hswitch
  · rw [hrun] at hswitch
    rw [Lib.Action.bind_of_ok hrun]
    exact (hnext t).agrees hswitch

theorem modeAgrees_handleUmsControl {io : UmsIo} {req : UmsControlRequest}
    (hrebuilds : ∀ mode, req.requestedMode = some mode → ModeRebuilds io mode s)
    (hcons : Consistent s) (h : ModeAgrees s) : ModeAgrees (handleUmsControl io req s).1 := by
  rcases handleUmsControl_cases io req s with ⟨-, hway⟩ | ⟨mode, hmode, hway⟩
  · rcases hway with hrun | hrun | hrun | hrun <;> rw [hrun]
    · exact h
    · exact (keepsMode_umsVmUnmount io s).agrees h
    · exact (keepsMode_umsFtUnmount io s).agrees h
    · exact (keepsMode_umsFtMount io req.imagePath s).agrees h
  · have hrebuild := hrebuilds mode hmode
    rcases hway with hrun | hrun <;> rw [hrun]
    · unfold umsVmMount
      cases hu : vmHandle s.handlers with
      | none => exact h
      | some u =>
          exact modeAgrees_switchThen _ (keepsMode_mountVm io req.imagePath) hu hrebuild hcons h
    · unfold umsVmSwitchMode
      cases hu : vmHandle s.handlers with
      | none => exact h
      | some u => exact modeAgrees_switchVmMode hu hrebuild hcons h

theorem modeAgrees_enableEmulation {rio : RebuildIo} (h : ModeAgrees s) :
    ModeAgrees (enableEmulation rio s).1 := by
  by_cases hnone : s.activeGadget = none
  · by_cases happ : Approves rio.handlers s.handlers
    · rw [enableEmulation_of_approved hnone happ]
      have hbind := modeAgrees_bind rio.bind (s := prepared rio.handlers s) hnone
      rcases hrun : bindGadgetFromCurrentSwitches rio.bind (prepared rio.handlers s) with ⟨t, e | u⟩
      · rw [hrun] at hbind
        rw [Lib.Action.bind_of_error hrun]
        exact hbind
      · rw [hrun] at hbind
        rw [Lib.Action.bind_of_ok hrun]
        exact modeAgrees_notifyAll rio.handlers .changeCompleted
          (s := { t with emulationEnabled := true }) hbind
    · obtain ⟨hs, reason, hrun, hframe⟩ := enableEmulation_of_rejected hnone happ
      rw [hrun]
      exact h.of_mode rfl ((umsMode_notifyAll _ _ _).trans (umsMode_of_frame hframe))
  · rw [enableEmulation_of_bound (Option.isSome_iff_ne_none.mpr hnone)]
    exact h

theorem modeAgrees_disableEmulation {rio : RebuildIo} (h : ModeAgrees s) :
    ModeAgrees (disableEmulation rio s).1 := by
  by_cases hnone : s.activeGadget = none
  · rw [disableEmulation_of_unbound hnone]
    exact h
  · by_cases happ : Approves rio.handlers s.handlers
    · cases hrel : rio.released with
      | ok u =>
          rw [disableEmulation_of_released hnone happ hrel]
          exact fun g hg => by cases hg
      | error e =>
          rw [disableEmulation_of_stuck hnone happ hrel]
          exact fun g hg => by cases hg
    · obtain ⟨hs, reason, hrun, hframe⟩ := disableEmulation_of_rejected hnone happ
      rw [hrun]
      exact h.of_mode rfl ((umsMode_notifyAll _ _ _).trans (umsMode_of_frame hframe))

theorem modeAgrees_applyVmMount {io : UmsIo} {info : Sidecar.UsbDeviceInfo} {enabled : Bool}
    (hrebuilds : enabled = true → info.umsVmPath ≠ "" → ModeRebuilds io info.umsVmType.mode s)
    (hcons : Consistent s) (h : ModeAgrees s) : ModeAgrees (applyVmMount io info enabled s).1 := by
  unfold applyVmMount
  cases hu : vmHandle s.handlers with
  | none => exact h
  | some u =>
      simp only
      split
      · exact (keepsMode_umsVmUnmount io s).agrees h
      · next hon =>
          split
          · exact h
          · next hpath =>
              split
              · exact (keepsMode_mountVm io info.umsVmPath s).agrees h
              · exact modeAgrees_switchThen (logged (mountVm io info.umsVmPath))
                  (keepsMode_mountVm io info.umsVmPath) hu
                  (hrebuilds (not_not.mp hon) hpath) hcons h

theorem modeAgrees_applyFtMount {io : UmsIo} {info : Sidecar.UsbDeviceInfo} {enabled : Bool}
    (h : ModeAgrees s) : ModeAgrees (applyFtMount io info enabled s).1 := by
  unfold applyFtMount
  cases ftHandle s.handlers with
  | none => exact h
  | some u =>
      simp only
      split
      · exact (keepsMode_umsFtUnmount io s).agrees h
      · split
        · exact h
        · exact keepsMode_withFt.agrees h

/-! ## Runs -/

/-- No rebuild that a committed mode change needs is rejected while a gadget is bound. -/
def RebuildsForModes (s : UsbDeviceManager) : Command → Prop
  | .umsControl io req => ∀ mode, req.requestedMode = some mode → ModeRebuilds io mode s
  | .applyVmMount io info enabled =>
      enabled = true → info.umsVmPath ≠ "" → ModeRebuilds io info.umsVmType.mode s
  | _ => True

theorem modeAgrees_step {cmd : Command} {s' : UsbDeviceManager} (hok : RebuildsForModes s cmd)
    (hcons : Consistent s) (h : ModeAgrees s) (hs : step s cmd = some s') : ModeAgrees s' := by
  cases cmd with
  | applySwitches io baseInfo switches =>
      cases hs
      exact (modeAgrees_applySwitches _ _ _ fun _ => h).1
  | setEmulationEnabled io enabled =>
      cases hs
      cases enabled with
      | true => exact modeAgrees_enableEmulation h
      | false => exact modeAgrees_disableEmulation h
  | umsControl io req =>
      cases hs
      exact modeAgrees_handleUmsControl hok hcons h
  | setNetworkAdapterL3Config l3 =>
      cases hs
      exact h.of_mode rfl ((umsMode_updateNetwork (·.setL3FromProto l3) _).trans
        (umsMode_addService s.switches s.handlers .networkAdapter))
  | applyNetworkAdapterL3Only io =>
      cases hs
      unfold applyNetworkAdapterL3Only
      cases hu : networkHandle s.handlers with
      | none => exact h
      | some u =>
          exact h.of_mode rfl
            (umsMode_updateNetwork (fun _ => (NetworkAdapterHandle.applyL3 io u).1) _)
  | applyVmMount io info enabled =>
      cases hs
      exact modeAgrees_applyVmMount hok hcons h
  | applyFtMount io info enabled =>
      cases hs
      exact modeAgrees_applyFtMount h
  | setLastUsbInfo info =>
      cases hs
      exact h
  | addChangeHandler name =>
      simp only [step] at hs
      split at hs
      · cases hs
      · cases hs
        refine h.of_mode rfl ?_
        simp [umsMode_eq, ChangeHandler.mode?, Device.ums?]
  | removeChangeHandler name =>
      cases hs
      exact h.of_mode rfl (umsMode_removeChangeHandler name s.handlers)
  | reorder hs' =>
      simp only [step] at hs
      split at hs
      · next hperm =>
          cases hs
          exact h.of_mode rfl (umsMode_perm hperm hcons.oneHandle)
      · cases hs

theorem reach_modeAgrees {baseInfo : UsbBaseInfo}
    (hrun : Reach step RebuildsForModes (start baseInfo) s) : ModeAgrees s := by
  have hboth : Consistent s ∧ ModeAgrees s := by
    refine hrun.invariant (P := fun t => Consistent t ∧ ModeAgrees t)
      ⟨consistent_start baseInfo, fun g hg => by cases hg⟩ fun t cmd t' ht hok hstep => ?_
    exact ⟨consistent_step ht.1 hstep, modeAgrees_step hok ht.1 ht.2 hstep⟩
  exact hboth.2

theorem respond_ok {x : Lib.Action UsbError UsbDeviceManager Unit}
    (h : (respond x s).2.ok = true) : (x s).2 = .ok () := by
  cases hrun : (x s).2 with
  | error e =>
      simp only [respond, hrun] at h
      cases h
  | ok u => rfl

/-- A request for a mode that is answered ok was carried out by a mode switch, after
which at most the image was mounted. -/
theorem handleUmsControl_ok {io : UmsIo} {req : UmsControlRequest} {mode : UmsMode}
    (hreq : req.requestedMode = some mode) (hok : (handleUmsControl io req s).2.ok = true) :
    ∃ u, vmHandle s.handlers = some u ∧ (switchVmMode io mode u s).2 = .ok () ∧
      KeepsMode (switchVmMode io mode u s).1 (handleUmsControl io req s).1 := by
  rcases handleUmsControl_cases io req s with ⟨hnone, -⟩ | ⟨mode', hmode', hway⟩
  · rw [hreq] at hnone
    cases hnone
  · rw [hreq] at hmode'
    cases hmode'
    rcases hway with hrun | hrun <;> rw [hrun] at hok ⊢
    · unfold umsVmMount at hok ⊢
      cases hu : vmHandle s.handlers with
      | none =>
          rw [hu] at hok
          cases hok
      | some u =>
          rw [hu] at hok
          obtain ⟨a, t, hswitch, hmount⟩ := Lib.Action.bind_eq_ok
            (x := switchVmMode io mode u) (f := fun _ => mountVm io req.imagePath)
            (Prod.ext rfl (respond_ok hok))
          refine ⟨u, rfl, by rw [hswitch], ?_⟩
          have hkeeps := keepsMode_mountVm io req.imagePath t
          change KeepsMode _ ((switchVmMode io mode u >>= fun _ => mountVm io req.imagePath) s).1
          rw [Lib.Action.bind_of_ok hswitch, hswitch]
          exact hkeeps
    · unfold umsVmSwitchMode at hok ⊢
      cases hu : vmHandle s.handlers with
      | none =>
          rw [hu] at hok
          cases hok
      | some u =>
          rw [hu] at hok
          exact ⟨u, rfl, respond_ok hok, .refl _⟩

/-- In a run without such a rejection, a request for a mode that is answered ok finds the
bound gadget built with that mode. -/
theorem built_mode_of_ok {baseInfo : UsbBaseInfo}
    (hrun : Reach step RebuildsForModes (start baseInfo) s) {io : UmsIo} {req : UmsControlRequest}
    {mode : UmsMode} {g : Gadget} (hreq : req.requestedMode = some mode)
    (hok : (handleUmsControl io req s).2.ok = true)
    (hg : (handleUmsControl io req s).1.activeGadget = some g) :
    vmLunCdrom g = some (decide (mode = .cdRom)) := by
  have hcons := reach_consistent hrun
  obtain ⟨u, hu, hswitch, hs, hkept, -⟩ := handleUmsControl_ok hreq hok
  obtain ⟨hagrees, hmode, hon⟩ := switchVmMode_ok hu hcons (reach_modeAgrees hrun) hswitch
  rw [hkept] at hg
  have hbuilt : g.umsMode = mode := (hagrees g hg).trans hmode
  have hsw := ((consistent_switchVmMode hu hcons).gadget g hg).2.1
  rw [vmLunCdrom, hsw, hon, if_pos rfl, hbuilt]

def twoLunsApplied : UsbDeviceManager :=
  (applySwitches .working none (some { umsVmEnabled := true, umsFtEnabled := true })
    (start { serialNumber := "ARK0123456789" })).1

def switchToDisk : UmsControlRequest := ⟨.switchVmMode, .vm, "", .vmDisk⟩

theorem built_mode_of_ok_disk :
    ∃ g, (handleUmsControl ⟨.working, .working, .working⟩ switchToDisk
      twoLunsApplied).1.activeGadget = some g ∧ vmLunCdrom g = some false := by
  have hbound : (handleUmsControl ⟨.working, .working, .working⟩ switchToDisk
      twoLunsApplied).1.activeGadget.isSome = true := by decide +kernel
  obtain ⟨g, hg⟩ := Option.isSome_iff_exists.mp hbound
  have hmode : switchToDisk.requestedMode = some .disk := rfl
  exact ⟨g, hg, built_mode_of_ok
    (.tail (a := .applySwitches .working none
      (some { umsVmEnabled := true, umsFtEnabled := true })) .refl trivial rfl)
    hmode (by decide +kernel) hg⟩

/-- The file transfer LUN cannot be written while the gadget is rebuilt. -/
def ftStuck : UmsIo where
  rebuild := { RebuildIo.working with
    handlers := { HandlerIo.working with
      ft := { LunIo.working with written := .error (.ioError "EBUSY") } } }
  vm := .working
  ft := .working

/-- The rebuild for disk mode is rejected; the same request made again is answered ok
while the gadget still shows a CD-ROM. -/
theorem repeated_switch_keeps_cdrom :
    ¬ ∀ (baseInfo : UsbBaseInfo) (s : UsbDeviceManager) (io : UmsIo) (req : UmsControlRequest)
      (mode : UmsMode) (g : Gadget), Reach step anyStep (start baseInfo) s →
        req.requestedMode = some mode → (handleUmsControl io req s).2.ok = true →
        (handleUmsControl io req s).1.activeGadget = some g →
        vmLunCdrom g = some (decide (mode = .cdRom)) := by
  intro h
  have hexec : (Lib.Run.exec step (fun _ _ => true) (start { serialNumber := "ARK0123456789" })
      [.applySwitches .working none (some { umsVmEnabled := true, umsFtEnabled := true }),
        .umsControl ftStuck switchToDisk]).map
      (fun s =>
        let r := handleUmsControl ⟨.working, .working, .working⟩ switchToDisk s
        (r.2.ok, r.1.activeGadget.map vmLunCdrom)) = some (true, some (some true)) := by
    decide +kernel
  obtain ⟨s, hrun, hobs⟩ := Lib.Run.exists_reach_of_exec (fun _ _ _ => trivial) hexec
  obtain ⟨hok, hcdrom⟩ := Prod.mk.inj hobs
  obtain ⟨g, hg, hflag⟩ := Option.map_eq_some_iff.mp hcdrom
  rw [h _ s ⟨.working, .working, .working⟩ switchToDisk .disk g hrun rfl hok hg] at hflag
  cases hflag

end UsbDeviceManager

end ArkKvm.GadgetChange
