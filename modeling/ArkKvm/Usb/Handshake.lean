import ArkKvm.Usb.GadgetSteps

/-!
# The handshake of a gadget change

A handler that was asked to prepare drops its input, or refuses every mount,
until it is told that the change is completed or cancelled.  Every exit of the
manager's commands tells all handlers, but for the exits at which the old gadget
cannot be removed and at which emulation cannot be switched on.
-/

namespace ArkKvm.GadgetChange

open Lib.Run (Reach anyStep)
open Sidecar (UsbError UmsMode DeviceSwitches UsbBaseInfo UmsHandle Ums1Handle LunIo)

/-- Handlers that are not registered were left with no change open. -/
def Quiet (hs : List ChangeHandler) : Prop := ∀ h ∈ hs, h.registered = false → h.Closed

/-- No registered handler waits for the end of a change. -/
def HandshakeClosed (hs : List ChangeHandler) : Prop := ∀ h ∈ hs, h.registered = true → h.Closed

def AnyRegistered (hs : List ChangeHandler) : Prop := ∃ h ∈ hs, h.registered = true

theorem forall_closed_iff {hs : List ChangeHandler} :
    (∀ h ∈ hs, h.Closed) ↔ Quiet hs ∧ HandshakeClosed hs := by
  refine ⟨fun h => ⟨fun c hc _ => h c hc, fun c hc _ => h c hc⟩, fun h c hc => ?_⟩
  cases hreg : c.registered with
  | false => exact h.1 c hc hreg
  | true => exact h.2 c hc hreg

theorem quiet_iff_frame (hs : List ChangeHandler) :
    Quiet hs ↔ ∀ f ∈ hs.map (·.frame), ∀ h ∈ f.unreached, h.Closed := by
  simp only [List.forall_mem_map, ChangeHandler.frame]
  refine forall₂_congr fun h _ => ?_
  cases hreg : h.registered with
  | false => simp
  | true => simp

theorem Quiet.of_frame {hs hs' : List ChangeHandler} (h : Quiet hs)
    (hframe : hs'.map (·.frame) = hs.map (·.frame)) : Quiet hs' := by
  rw [quiet_iff_frame, hframe, ← quiet_iff_frame]
  exact h

theorem anyRegistered_iff_frame (hs : List ChangeHandler) :
    AnyRegistered hs ↔ ∃ f ∈ hs.map (·.frame), f.registered = true := by
  simp [AnyRegistered, ChangeHandler.frame]

theorem AnyRegistered.of_frame {hs hs' : List ChangeHandler} (h : AnyRegistered hs)
    (hframe : hs'.map (·.frame) = hs.map (·.frame)) : AnyRegistered hs' := by
  rw [anyRegistered_iff_frame, hframe, ← anyRegistered_iff_frame]
  exact h

namespace UsbDeviceManager

variable {s : UsbDeviceManager}

/-! ## Notifications -/

theorem closed_notifyAll (io : HandlerIo) {req : ChangeRequest} (hreq : req.closes = true)
    (h : Quiet s.handlers) : ∀ c ∈ (notifyAll io req s).handlers, c.Closed := by
  intro c hc
  obtain ⟨c₀, hc₀, rfl⟩ := List.mem_map.mp hc
  by_cases hreg : c₀.registered = true
  · exact c₀.closed_of_closes io req hreq hreg
  · rw [c₀.onChangeRequest_of_unregistered io req hreg]
    exact h c₀ hc₀ (by simpa using hreg)

theorem prepared_frame (io : HandlerIo) (s : UsbDeviceManager) :
    (prepared io s).handlers.map (·.frame) = s.handlers.map (·.frame) :=
  (notifyAll_frame io .prepareChange _).trans (notifyAll_frame io .requestChange s)

theorem not_closed_prepared (io : HandlerIo) (h : AnyRegistered s.handlers) :
    ∃ c ∈ (prepared io s).handlers, c.registered = true ∧ c.pending = true := by
  have hany : AnyRegistered (notifyAll io .requestChange s).handlers :=
    h.of_frame (notifyAll_frame io .requestChange s)
  obtain ⟨c, hc, hreg⟩ := hany
  refine ⟨_, List.mem_map_of_mem hc, ?_⟩
  rw [c.onChangeRequest_of_registered io .prepareChange hreg]
  exact ⟨hreg, rfl⟩

/-- At the exit where the old gadget cannot be removed, the handlers are left as they
prepared. -/
theorem closed_prepared_iff (io : HandlerIo) (h : Quiet s.handlers) :
    (∀ c ∈ (prepared io s).handlers, c.Closed) ↔ ¬ AnyRegistered s.handlers := by
  refine ⟨fun hclosed hany => ?_, fun hnone c hc => ?_⟩
  · obtain ⟨c, hc, -, hpending⟩ := not_closed_prepared io hany
    rw [(hclosed c hc).1] at hpending
    cases hpending
  · refine (h.of_frame (prepared_frame io s)) c hc (Bool.eq_false_iff.mpr fun hreg => hnone ?_)
    exact AnyRegistered.of_frame ⟨c, hc, hreg⟩ (prepared_frame io s).symm

/-! ## Device services -/

theorem closed_setEnabled (sw : DeviceSwitches) {h : ChangeHandler} :
    ({ h with device := h.device.setEnabled sw } : ChangeHandler).Closed ↔ h.Closed := by
  have hupdating : (h.device.setEnabled sw).udcUpdating = h.device.udcUpdating := by
    cases h.device with
    | hid kind u =>
        change (u.setEnabled _).udcUpdating = u.udcUpdating
        unfold HidHandle.setEnabled
        split <;> rfl
    | _ => rfl
  unfold ChangeHandler.Closed
  rw [hupdating]

theorem closed_newService (sw : DeviceSwitches) (hs : List ChangeHandler) (svc : Service) :
    (newService sw hs svc).Closed := by
  refine ⟨rfl, ?_⟩
  cases svc <;> rfl

theorem closed_applyDeviceServices (sw : DeviceSwitches) (hs : List ChangeHandler) :
    (∀ c ∈ applyDeviceServices sw hs, c.Closed) ↔ ∀ c ∈ hs, c.Closed := by
  obtain ⟨made, heq, hmade⟩ := applyDeviceServices_eq sw hs
  rw [heq, List.forall_mem_append, List.forall_mem_map]
  have hnew : ∀ c ∈ made, c.Closed := by
    intro c hc
    obtain ⟨hs', svc, rfl⟩ := hmade c hc
    exact closed_newService sw hs' svc
  exact (and_iff_left hnew).trans (forall₂_congr fun _ _ => closed_setEnabled sw)

theorem quiet_applyDeviceServices (sw : DeviceSwitches) {hs : List ChangeHandler}
    (h : Quiet hs) : Quiet (applyDeviceServices sw hs) := by
  obtain ⟨made, heq, hmade⟩ := applyDeviceServices_eq sw hs
  rw [heq]
  intro c hc hreg
  rcases List.mem_append.mp hc with hold | hnew
  · obtain ⟨c₀, hc₀, rfl⟩ := List.mem_map.mp hold
    exact (closed_setEnabled sw).mpr (h c₀ hc₀ hreg)
  · obtain ⟨hs', svc, rfl⟩ := hmade c hnew
    exact closed_newService sw hs' svc

theorem quiet_updateNetwork {f : NetworkAdapterHandle → NetworkAdapterHandle}
    (hf : ∀ u, (f u).udcUpdating = u.udcUpdating) {hs : List ChangeHandler} (h : Quiet hs) :
    Quiet (updateNetwork f hs) := by
  intro c hc hreg
  obtain ⟨c₀, hc₀, rfl⟩ := List.mem_map.mp hc
  have hc₀' := h c₀ hc₀
  obtain ⟨name, device, registered, pending⟩ := c₀
  cases device with
  | networkAdapter u =>
      have hclosed := hc₀' hreg
      exact ⟨hclosed.1, (hf u).trans hclosed.2⟩
  | _ => exact hc₀' hreg

theorem quiet_bind (bio : BindIo) (h : Quiet s.handlers) :
    Quiet (bindGadgetFromCurrentSwitches bio s).1.handlers := by
  have hquiet := quiet_applyDeviceServices s.switches h
  unfold bindGadgetFromCurrentSwitches
  split
  · exact hquiet
  · split
    · exact hquiet
    · exact quiet_updateNetwork (f := (·.setNet (netFunction s.switches))) (fun _ => rfl) hquiet

/-! ## Changes -/

def RebuildCloses (io : RebuildIo) (switches : Option DeviceSwitches) (s : UsbDeviceManager) :
    Prop :=
  Admitted s switches → Approves io.handlers s.handlers → AnyRegistered s.handlers →
    io.released = .ok ()

theorem closed_bindOrRestore {io : RebuildIo} {old : UsbDeviceManager} (h : Quiet s.handlers) :
    ∀ c ∈ (bindOrRestore io old s).1.handlers, c.Closed := by
  have hquiet := quiet_bind io.bind h
  unfold bindOrRestore
  split
  · next hrun =>
      rw [hrun] at hquiet
      exact closed_notifyAll io.handlers rfl hquiet
  · next hrun =>
      rw [hrun] at hquiet
      exact closed_notifyAll io.handlers rfl (quiet_bind _ hquiet)

theorem closed_of_canceled {io : HandlerIo} {hs : List ChangeHandler}
    (h : ∀ c ∈ s.handlers, c.Closed) (hframe : hs.map (·.frame) = s.handlers.map (·.frame)) :
    ∀ c ∈ (notifyAll io .changeCanceled { s with handlers := hs }).handlers, c.Closed :=
  closed_notifyAll io rfl ((forall_closed_iff.mp h).1.of_frame hframe)

theorem applySwitches_closed_iff {io : RebuildIo} {baseInfo : Option UsbBaseInfo}
    {switches : Option DeviceSwitches} (h : ∀ c ∈ s.handlers, c.Closed) :
    (∀ c ∈ (applySwitches io baseInfo switches s).1.handlers, c.Closed) ↔
      RebuildCloses io switches s := by
  unfold RebuildCloses
  by_cases hadm : Admitted s switches
  · by_cases happ : Approves io.handlers s.handlers
    · cases hrel : io.released with
      | ok u =>
          rw [applySwitches_of_released hadm happ hrel]
          have hquiet := (forall_closed_iff.mp h).1.of_frame (prepared_frame io.handlers s)
          exact iff_of_true (closed_bindOrRestore hquiet) fun _ _ _ => rfl
      | error e =>
          rw [applySwitches_of_stuck hadm happ hrel]
          refine (closed_prepared_iff io.handlers (forall_closed_iff.mp h).1).trans
            ⟨fun hnone _ _ hany => absurd hany hnone, fun himp hany => ?_⟩
          cases himp hadm happ hany
    · obtain ⟨hs, reason, hrun, hframe⟩ := applySwitches_of_rejected baseInfo hadm happ
      rw [hrun]
      exact iff_of_true (closed_of_canceled h hframe) fun _ happ' => absurd happ' happ
  · obtain ⟨e, hrun⟩ := applySwitches_of_refused io baseInfo hadm
    rw [hrun]
    exact iff_of_true h fun hadm' => absurd hadm' hadm

theorem RebuildCloses.of_ok {io : RebuildIo} {baseInfo : Option UsbBaseInfo}
    {switches : Option DeviceSwitches} (h : (applySwitches io baseInfo switches s).2 = .ok ()) :
    RebuildCloses io switches s := by
  intro hadm happ _
  cases hrel : io.released with
  | ok u => rfl
  | error e =>
      rw [applySwitches_of_stuck hadm happ hrel] at h
      cases h

/-- Emulation can be switched on without leaving the handlers waiting. -/
def EnableCloses (io : RebuildIo) (s : UsbDeviceManager) : Prop :=
  s.activeGadget = none → Approves io.handlers s.handlers → AnyRegistered s.handlers →
    BringsUp io.bind s.baseInfo s.switches

theorem enableEmulation_closed_iff {io : RebuildIo} (h : ∀ c ∈ s.handlers, c.Closed) :
    (∀ c ∈ (enableEmulation io s).1.handlers, c.Closed) ↔ EnableCloses io s := by
  unfold EnableCloses
  by_cases hbound : s.activeGadget = none
  · by_cases happ : Approves io.handlers s.handlers
    · rw [enableEmulation_of_approved hbound happ]
      have hquiet := (forall_closed_iff.mp h).1.of_frame (prepared_frame io.handlers s)
      by_cases hup : BringsUp io.bind s.baseInfo s.switches
      · obtain ⟨hs, hrun, -⟩ := bind_of_bringsUp (s := prepared io.handlers s) hup hbound
        rw [Lib.Action.bind_of_ok hrun]
        have hquiet' := quiet_bind io.bind hquiet
        rw [hrun] at hquiet'
        exact iff_of_true (closed_notifyAll io.handlers rfl hquiet') fun _ _ _ => hup
      · obtain ⟨e, hrun⟩ := bind_of_fails (s := prepared io.handlers s) hup
        rw [Lib.Action.bind_of_error hrun]
        refine (closed_applyDeviceServices _ _).trans
          ((closed_prepared_iff io.handlers (forall_closed_iff.mp h).1).trans
            ⟨fun hnone _ _ hany => absurd hany hnone, fun himp hany => ?_⟩)
        exact hup (himp hbound happ hany)
    · obtain ⟨hs, reason, hrun, hframe⟩ := enableEmulation_of_rejected hbound happ
      rw [hrun]
      exact iff_of_true (closed_of_canceled h hframe) fun _ happ' => absurd happ' happ
  · rw [enableEmulation_of_bound (Option.isSome_iff_ne_none.mpr hbound)]
    exact iff_of_true h fun hnone => absurd hnone hbound

/-- Emulation can be switched off without leaving the handlers waiting. -/
def DisableCloses (io : RebuildIo) (s : UsbDeviceManager) : Prop :=
  s.activeGadget ≠ none → Approves io.handlers s.handlers → AnyRegistered s.handlers →
    io.released = .ok ()

theorem disableEmulation_closed_iff {io : RebuildIo} (h : ∀ c ∈ s.handlers, c.Closed) :
    (∀ c ∈ (disableEmulation io s).1.handlers, c.Closed) ↔ DisableCloses io s := by
  unfold DisableCloses
  have hquiet := (forall_closed_iff.mp h).1
  by_cases hbound : s.activeGadget = none
  · rw [disableEmulation_of_unbound hbound]
    exact iff_of_true h fun hne => absurd hbound hne
  · by_cases happ : Approves io.handlers s.handlers
    · cases hrel : io.released with
      | ok u =>
          rw [disableEmulation_of_released hbound happ hrel]
          have hprep := hquiet.of_frame (prepared_frame io.handlers s)
          exact iff_of_true (closed_notifyAll io.handlers rfl hprep) fun _ _ _ => rfl
      | error e =>
          rw [disableEmulation_of_stuck hbound happ hrel]
          refine (closed_prepared_iff io.handlers hquiet).trans ⟨fun hnone _ _ hany => ?_,
            fun himp hany => ?_⟩
          · exact absurd hany hnone
          · cases himp hbound happ hany
    · obtain ⟨hs, reason, hrun, hframe⟩ := disableEmulation_of_rejected hbound happ
      rw [hrun]
      exact iff_of_true (closed_of_canceled h hframe) fun _ happ' => absurd happ' happ

/-! ## UMS commands -/

theorem closed_setVm {u : UmsHandle} (hu : u.udcUpdating = false) {hs : List ChangeHandler}
    (h : ∀ c ∈ hs, c.Closed) : ∀ c ∈ setVm u hs, c.Closed := by
  intro c hc
  obtain ⟨c₀, hc₀, rfl⟩ := List.mem_map.mp hc
  have hc₀' := h c₀ hc₀
  obtain ⟨name, device, registered, pending⟩ := c₀
  cases device with
  | ums u₀ => exact ⟨hc₀'.1, hu⟩
  | _ => exact hc₀'

theorem closed_setFt {u : Ums1Handle} (hu : u.udcUpdating = false) {hs : List ChangeHandler}
    (h : ∀ c ∈ hs, c.Closed) : ∀ c ∈ setFt u hs, c.Closed := by
  intro c hc
  obtain ⟨c₀, hc₀, rfl⟩ := List.mem_map.mp hc
  have hc₀' := h c₀ hc₀
  obtain ⟨name, device, registered, pending⟩ := c₀
  cases device with
  | ums1 u₀ => exact ⟨hc₀'.1, hu⟩
  | _ => exact hc₀'

theorem idle_of_vmHandle {hs : List ChangeHandler} (h : ∀ c ∈ hs, c.Closed) {u : UmsHandle}
    (hu : vmHandle hs = some u) : u.udcUpdating = false := by
  obtain ⟨c, hc, hd⟩ := mem_of_vmHandle hu
  have hidle := (h c hc).2
  rw [hd] at hidle
  exact hidle

theorem idle_of_ftHandle {hs : List ChangeHandler} (h : ∀ c ∈ hs, c.Closed) {u : Ums1Handle}
    (hu : ftHandle hs = some u) : u.udcUpdating = false := by
  obtain ⟨c, hc, hd⟩ := mem_of_ftHandle hu
  have hidle := (h c hc).2
  rw [hd] at hidle
  exact hidle

theorem closed_withVm {op : UmsHandle → Except UsbError UmsHandle}
    (hop : ∀ u u', op u = .ok u' → u'.udcUpdating = u.udcUpdating) {u : UmsHandle}
    (hu : vmHandle s.handlers = some u) (h : ∀ c ∈ s.handlers, c.Closed) :
    ∀ c ∈ (withVm op u s).1.handlers, c.Closed := by
  unfold withVm
  cases hrun : op u with
  | error e => exact h
  | ok u' => exact closed_setVm ((hop u u' hrun).trans (idle_of_vmHandle h hu)) h

theorem closed_withFt {op : Ums1Handle → Except UsbError Ums1Handle}
    (hop : ∀ u u', op u = .ok u' → u'.udcUpdating = u.udcUpdating) {u : Ums1Handle}
    (hu : ftHandle s.handlers = some u) (h : ∀ c ∈ s.handlers, c.Closed) :
    ∀ c ∈ (withFt op u s).1.handlers, c.Closed := by
  unfold withFt
  cases hrun : op u with
  | error e => exact h
  | ok u' => exact closed_setFt ((hop u u' hrun).trans (idle_of_ftHandle h hu)) h

theorem umsMount_updating (io : LunIo) (path : String) (u u' : UmsHandle)
    (h : u.mount io path = .ok u') : u'.udcUpdating = u.udcUpdating := by
  rw [umsMount_ok h]

theorem umsUnmount_updating (io : LunIo) (u u' : UmsHandle) (h : u.unmount io = .ok u') :
    u'.udcUpdating = u.udcUpdating := by
  rw [umsUnmount_ok h]
  split <;> rfl

theorem ums1Mount_updating (io : LunIo) (path : String) (u u' : Ums1Handle)
    (h : u.mount io path = .ok u') : u'.udcUpdating = u.udcUpdating := by
  rw [ums1Mount_ok h]

theorem ums1Unmount_updating (io : LunIo) (u u' : Ums1Handle) (h : u.unmount io = .ok u') :
    u'.udcUpdating = u.udcUpdating := by
  rw [ums1Unmount_ok h]

theorem closed_mountVm {io : UmsIo} {path : String} (h : ∀ c ∈ s.handlers, c.Closed) :
    ∀ c ∈ (mountVm io path s).1.handlers, c.Closed := by
  unfold mountVm
  cases hu : vmHandle s.handlers with
  | none => exact h
  | some u => exact closed_withVm (umsMount_updating io.vm path) hu h

theorem closed_umsVmUnmount {io : UmsIo} (h : ∀ c ∈ s.handlers, c.Closed) :
    ∀ c ∈ (umsVmUnmount io s).1.handlers, c.Closed := by
  unfold umsVmUnmount
  cases hu : vmHandle s.handlers with
  | none => exact h
  | some u => exact closed_withVm (umsUnmount_updating io.vm) hu h

theorem closed_umsFtUnmount {io : UmsIo} (h : ∀ c ∈ s.handlers, c.Closed) :
    ∀ c ∈ (umsFtUnmount io s).1.handlers, c.Closed := by
  unfold umsFtUnmount
  cases hu : ftHandle s.handlers with
  | none => exact h
  | some u => exact closed_withFt (ums1Unmount_updating io.ft) hu h

theorem closed_umsFtMount {io : UmsIo} {path : String} (h : ∀ c ∈ s.handlers, c.Closed) :
    ∀ c ∈ (umsFtMount io path s).1.handlers, c.Closed := by
  unfold umsFtMount
  cases hu : ftHandle s.handlers with
  | none => exact h
  | some u => exact closed_withFt (ums1Mount_updating io.ft path) hu h

def ModeCloses (io : UmsIo) (mode : UmsMode) (s : UsbDeviceManager) : Prop :=
  ∀ u u', vmHandle s.handlers = some u → u.switchMode mode = .ok (u', true) →
    RebuildCloses io.rebuild none { s with handlers := setVm u' s.handlers }

theorem switchVmMode_closed_iff {io : UmsIo} {mode : UmsMode} {u : UmsHandle}
    (hu : vmHandle s.handlers = some u) (h : ∀ c ∈ s.handlers, c.Closed) :
    (∀ c ∈ (switchVmMode io mode u s).1.handlers, c.Closed) ↔ ModeCloses io mode s := by
  unfold switchVmMode ModeCloses
  have hidle := idle_of_vmHandle h hu
  rw [hu]
  cases hsw : u.switchMode mode with
  | error e =>
      refine iff_of_true h fun u₁ u' hu₁ hsw' => ?_
      cases hu₁
      rw [hsw] at hsw'
      cases hsw'
  | ok r =>
      obtain ⟨u₂, rebuild⟩ := r
      have hidle₂ : u₂.udcUpdating = false := by
        rw [(switchMode_ok hsw).1]
        exact hidle
      cases rebuild with
      | false =>
          refine iff_of_true (closed_setVm hidle₂ h) fun u₁ u' hu₁ hsw' => ?_
          cases hu₁
          rw [hsw] at hsw'
          cases hsw'
      | true =>
          refine (applySwitches_closed_iff
            (s := { s with handlers := setVm u₂ s.handlers }) (closed_setVm hidle₂ h)).trans
            ⟨fun hcloses u₁ u' hu₁ hsw' => ?_, fun himp => himp u u₂ rfl hsw⟩
          cases hu₁
          rw [hsw] at hsw'
          cases hsw'
          exact hcloses

theorem ModeCloses.of_ok {io : UmsIo} {mode : UmsMode} {u : UmsHandle}
    (hu : vmHandle s.handlers = some u) (h : (switchVmMode io mode u s).2 = .ok ()) :
    ModeCloses io mode s := by
  intro u₁ u' hu₁ hsw
  rw [hu] at hu₁
  cases hu₁
  unfold switchVmMode at h
  rw [hsw] at h
  exact RebuildCloses.of_ok h

theorem switchThen_closed_iff {io : UmsIo} {mode : UmsMode} {u : UmsHandle}
    {next : Lib.Action UsbError UsbDeviceManager Unit}
    (hnext : ∀ t : UsbDeviceManager, (∀ c ∈ t.handlers, c.Closed) →
      ∀ c ∈ (next t).1.handlers, c.Closed)
    (hu : vmHandle s.handlers = some u) (h : ∀ c ∈ s.handlers, c.Closed) :
    (∀ c ∈ ((switchVmMode io mode u >>= fun _ => next) s).1.handlers, c.Closed) ↔
      ModeCloses io mode s := by
  have hiff : (∀ c ∈ (switchVmMode io mode u s).1.handlers, c.Closed) ↔ ModeCloses io mode s :=
    switchVmMode_closed_iff hu h
  rcases hrun : switchVmMode io mode u s with ⟨t, e | a⟩
  · rw [Lib.Action.bind_of_error hrun]
    rw [hrun] at hiff
    exact hiff
  · rw [Lib.Action.bind_of_ok hrun]
    have hcloses : ModeCloses io mode s := .of_ok hu (by rw [hrun])
    have ht := hiff.mpr hcloses
    rw [hrun] at ht
    exact iff_of_true (hnext t ht) hcloses

theorem closed_logged {x : Lib.Action UsbError UsbDeviceManager Unit}
    (h : ∀ c ∈ (x s).1.handlers, c.Closed) : ∀ c ∈ (logged x s).1.handlers, c.Closed := h

theorem handleUmsControl_closed_iff {io : UmsIo} {req : UmsControlRequest}
    (h : ∀ c ∈ s.handlers, c.Closed) :
    (∀ c ∈ (handleUmsControl io req s).1.handlers, c.Closed) ↔
      ∀ mode, req.requestedMode = some mode → ModeCloses io mode s := by
  rcases handleUmsControl_cases io req s with ⟨hmode, hway⟩ | ⟨mode, hmode, hway⟩
  · refine iff_of_true ?_ fun mode hm => by rw [hmode] at hm; cases hm
    rcases hway with hrun | hrun | hrun | hrun <;> rw [hrun]
    · exact h
    · exact closed_umsVmUnmount h
    · exact closed_umsFtUnmount h
    · exact closed_umsFtMount h
  · have hone : (∀ m, req.requestedMode = some m → ModeCloses io m s) ↔ ModeCloses io mode s :=
      ⟨fun hall => hall mode hmode, fun hm m hm' => by
        rw [hmode] at hm'
        cases hm'
        exact hm⟩
    have hnone : vmHandle s.handlers = none → ModeCloses io mode s := by
      intro hu u u' hu'
      rw [hu] at hu'
      cases hu'
    rw [hone]
    rcases hway with hrun | hrun <;> rw [hrun]
    · unfold umsVmMount
      cases hu : vmHandle s.handlers with
      | none => exact iff_of_true h (hnone hu)
      | some u => exact switchThen_closed_iff (fun t ht => closed_mountVm ht) hu h
    · unfold umsVmSwitchMode
      cases hu : vmHandle s.handlers with
      | none => exact iff_of_true h (hnone hu)
      | some u => exact switchVmMode_closed_iff hu h

/-! ## Parts of a full configuration -/

theorem closed_updateNetwork {f : NetworkAdapterHandle → NetworkAdapterHandle}
    {hs : List ChangeHandler} (hf : ∀ u, u.udcUpdating = false → (f u).udcUpdating = false)
    (h : ∀ c ∈ hs, c.Closed) : ∀ c ∈ updateNetwork f hs, c.Closed := by
  intro c hc
  obtain ⟨c₀, hc₀, rfl⟩ := List.mem_map.mp hc
  have hc₀' := h c₀ hc₀
  obtain ⟨name, device, registered, pending⟩ := c₀
  cases device with
  | networkAdapter u => exact ⟨hc₀'.1, hf u hc₀'.2⟩
  | _ => exact hc₀'

theorem closed_setNetworkAdapterL3Config {l3 : Option Sidecar.NetworkAdapterL3Info}
    (h : ∀ c ∈ s.handlers, c.Closed) :
    ∀ c ∈ (setNetworkAdapterL3Config l3 s).handlers, c.Closed := by
  refine closed_updateNetwork (f := (·.setL3FromProto l3)) (fun u hu => ?_) ?_
  · unfold NetworkAdapterHandle.setL3FromProto
    split
    · exact hu
    · split <;> exact hu
  · unfold addService
    split
    · exact h
    · rw [List.forall_mem_append, List.forall_mem_singleton]
      exact ⟨h, closed_newService _ _ _⟩

theorem closed_applyNetworkAdapterL3Only {io : NetworkIo} (h : ∀ c ∈ s.handlers, c.Closed) :
    ∀ c ∈ (applyNetworkAdapterL3Only io s).1.handlers, c.Closed := by
  unfold applyNetworkAdapterL3Only
  cases hu : networkHandle s.handlers with
  | none => exact h
  | some u =>
      obtain ⟨c, hc, hd⟩ := mem_of_networkHandle hu
      have hidle : u.udcUpdating = false := by
        have hclosed := (h c hc).2
        rw [hd] at hclosed
        exact hclosed
      refine closed_updateNetwork (f := fun _ => (NetworkAdapterHandle.applyL3 io u).1)
        (fun _ _ => ?_) h
      rw [NetworkAdapterHandle.applyL3_eq]
      exact hidle

theorem applyVmMount_closed_iff {io : UmsIo} {info : Sidecar.UsbDeviceInfo} {enabled : Bool}
    (h : ∀ c ∈ s.handlers, c.Closed) :
    (∀ c ∈ (applyVmMount io info enabled s).1.handlers, c.Closed) ↔
      (enabled = true → info.umsVmPath ≠ "" → ModeCloses io info.umsVmType.mode s) := by
  unfold applyVmMount
  cases hu : vmHandle s.handlers with
  | none =>
      refine iff_of_true h fun _ _ u u' hu' => ?_
      rw [hu] at hu'
      cases hu'
  | some u =>
      by_cases hon : enabled = true
      · by_cases hpath : info.umsVmPath = ""
        · simp only [hon, hpath]
          exact iff_of_true h fun _ hne => absurd rfl hne
        · simp only [hon, not_true_eq_false, if_false, if_neg hpath]
          refine Iff.trans ?_ (show ModeCloses io info.umsVmType.mode s ↔ _ from
            ⟨fun hm _ _ => hm, fun hall => hall trivial hpath⟩)
          cases hsw : u.switchMode info.umsVmType.mode with
          | error e =>
              refine iff_of_true (closed_logged (closed_mountVm h)) fun u₁ u' hu₁ hsw' => ?_
              rw [hu] at hu₁
              cases hu₁
              rw [hsw] at hsw'
              cases hsw'
          | ok r =>
              exact switchThen_closed_iff (fun t ht => closed_logged (closed_mountVm ht)) hu h
      · simp only [hon]
        exact iff_of_true (closed_logged (closed_umsVmUnmount h)) fun hf => by cases hf

theorem closed_applyFtMount {io : UmsIo} {info : Sidecar.UsbDeviceInfo} {enabled : Bool}
    (h : ∀ c ∈ s.handlers, c.Closed) :
    ∀ c ∈ (applyFtMount io info enabled s).1.handlers, c.Closed := by
  unfold applyFtMount
  cases hu : ftHandle s.handlers with
  | none => exact h
  | some u =>
      simp only
      split
      · exact closed_logged (closed_umsFtUnmount h)
      · split
        · exact h
        · exact closed_logged (closed_withFt (ums1Mount_updating io.ft info.umsFtPath) hu h)

theorem closed_removeChangeHandler (name : String) {hs : List ChangeHandler}
    (h : ∀ c ∈ hs, c.Closed) : ∀ c ∈ removeChangeHandler name hs, c.Closed := by
  intro c hc
  obtain ⟨c₀, hc₀, hsome⟩ := List.mem_filterMap.mp hc
  split at hsome
  · split at hsome
    · cases hsome
    · cases hsome
      exact h c₀ hc₀
  · cases hsome
    exact h c hc₀

/-! ## Runs -/

/-- The command does not leave by one of the exits at which nobody is told. -/
def ClosesHandshake (s : UsbDeviceManager) : Command → Prop
  | .applySwitches io _ switches => RebuildCloses io switches s
  | .setEmulationEnabled io enabled => if enabled then EnableCloses io s else DisableCloses io s
  | .umsControl io req => ∀ mode, req.requestedMode = some mode → ModeCloses io mode s
  | .applyVmMount io info enabled =>
      enabled = true → info.umsVmPath ≠ "" → ModeCloses io info.umsVmType.mode s
  | _ => True

theorem step_closed_iff {cmd : Command} {s' : UsbDeviceManager} (h : ∀ c ∈ s.handlers, c.Closed)
    (hs : step s cmd = some s') : (∀ c ∈ s'.handlers, c.Closed) ↔ ClosesHandshake s cmd := by
  cases cmd with
  | applySwitches io baseInfo switches =>
      cases hs
      exact applySwitches_closed_iff h
  | setEmulationEnabled io enabled =>
      cases hs
      cases enabled with
      | true => exact enableEmulation_closed_iff h
      | false => exact disableEmulation_closed_iff h
  | umsControl io req =>
      cases hs
      exact handleUmsControl_closed_iff h
  | setNetworkAdapterL3Config l3 =>
      cases hs
      exact iff_of_true (closed_setNetworkAdapterL3Config h) trivial
  | applyNetworkAdapterL3Only io =>
      cases hs
      exact iff_of_true (closed_applyNetworkAdapterL3Only h) trivial
  | applyVmMount io info enabled =>
      cases hs
      exact applyVmMount_closed_iff h
  | applyFtMount io info enabled =>
      cases hs
      exact iff_of_true (closed_applyFtMount h) trivial
  | setLastUsbInfo info =>
      cases hs
      exact iff_of_true h trivial
  | addChangeHandler name =>
      simp only [step] at hs
      split at hs
      · cases hs
      · cases hs
        refine iff_of_true ?_ trivial
        rw [List.forall_mem_append, List.forall_mem_singleton]
        exact ⟨h, rfl, rfl⟩
  | removeChangeHandler name =>
      cases hs
      exact iff_of_true (closed_removeChangeHandler name h) trivial
  | reorder hs' =>
      simp only [step] at hs
      split at hs
      · next hperm =>
          cases hs
          exact iff_of_true (fun c hc => h c (hperm.mem_iff.mp hc)) trivial
      · cases hs

theorem reach_closed {baseInfo : UsbBaseInfo}
    (hrun : Reach step ClosesHandshake (start baseInfo) s) : ∀ c ∈ s.handlers, c.Closed := by
  refine hrun.invariant (P := fun t => ∀ c ∈ t.handlers, c.Closed) ?_ ?_
  · intro c hc
    cases hc
  · intro t cmd t' ht hok hstep
    exact (step_closed_iff ht hstep).mpr hok

/-- In a run whose commands leave by no silent exit, every registered handler was told
about the end of each change that it was asked for. -/
theorem handshake_closed {baseInfo : UsbBaseInfo}
    (hrun : Reach step ClosesHandshake (start baseInfo) s) : HandshakeClosed s.handlers :=
  fun c hc _ => reach_closed hrun c hc

def boardInfo : UsbBaseInfo := { serialNumber := "ARK0123456789" }

def keyboardOnly : DeviceSwitches := { hidKbEnabled := true }

def mouseOnly : DeviceSwitches := { hidAbsEnabled := true }

/-- The new gadget cannot be bound, and the old one can. -/
def unboundOnce : RebuildIo :=
  { RebuildIo.working with
    bind := { BindIo.working with bound := .error (.gadgetError "No such device") } }

/-- The first configuration makes seven handlers, which the next two have to ask. -/
def keyboardBound : UsbDeviceManager :=
  (applySwitches .working none (some keyboardOnly) (start boardInfo)).1

def changeCancelled : UsbDeviceManager :=
  (applySwitches unboundOnce none (some mouseOnly) keyboardBound).1

def mouseBound : UsbDeviceManager :=
  (applySwitches .working none (some mouseOnly) changeCancelled).1

theorem reach_changeCancelled : Reach step ClosesHandshake (start boardInfo) changeCancelled :=
  (Reach.refl.tail (a := .applySwitches .working none (some keyboardOnly))
    (fun _ _ _ => rfl) rfl).tail
      (a := .applySwitches unboundOnce none (some mouseOnly)) (fun _ _ _ => rfl) rfl

/-- A bound keyboard is to become a mouse: all seven handlers prepare, and the first attempt is
cancelled while the second one completes. -/
theorem handshake_closed_cancelled_then_completed :
    (keyboardBound.handlers.map (·.registered) = List.replicate 7 true ∧
      Approves RebuildIo.working.handlers keyboardBound.handlers) ∧
    (applySwitches unboundOnce none (some mouseOnly) keyboardBound).2 =
      .error (.gadgetError "No such device") ∧
    HandshakeClosed changeCancelled.handlers ∧
    (applySwitches .working none (some mouseOnly) changeCancelled).2 = .ok () ∧
    HandshakeClosed mouseBound.handlers := by
  refine ⟨⟨by decide +kernel, by decide +kernel⟩, by decide +kernel,
    handshake_closed reach_changeCancelled, by decide +kernel, ?_⟩
  exact handshake_closed (reach_changeCancelled.tail
    (a := .applySwitches .working none (some mouseOnly)) (fun _ _ _ => rfl) rfl)

def unremovable : RebuildIo :=
  { RebuildIo.working with
    released := .error (.gadgetError "failed to remove leftover gadget") }

/-- A second configuration that cannot remove the old gadget leaves the keyboard waiting. -/
theorem failed_removal_leaves_keyboard_waiting :
    ¬ ∀ (baseInfo : UsbBaseInfo) (s : UsbDeviceManager),
      Reach step anyStep (start baseInfo) s → HandshakeClosed s.handlers := by
  intro h
  have hexec : (Lib.Run.exec step (fun _ _ => true) (start boardInfo)
      [.applySwitches .working none (some keyboardOnly), .applySwitches unremovable none none]).map
        (fun s => s.handlers.any fun c => c.registered && c.device.udcUpdating) = some true := by
    decide +kernel
  obtain ⟨s, hrun, hobs⟩ := Lib.Run.exists_reach_of_exec (fun _ _ _ => trivial) hexec
  obtain ⟨c, hc, hwait⟩ := List.any_eq_true.mp hobs
  obtain ⟨hreg, hupdating⟩ := Bool.and_eq_true_iff.mp hwait
  rw [(h boardInfo s hrun c hc hreg).2] at hupdating
  cases hupdating

end UsbDeviceManager

end ArkKvm.GadgetChange
