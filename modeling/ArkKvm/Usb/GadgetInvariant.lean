import ArkKvm.Usb.GadgetSteps

/-!
# What holds of the gadget manager in every state

In every state that a run reaches, each service has one handle, its flag is its
switch, the switches are within the endpoint budget, and a bound gadget was built
from the current values while emulation is on.
-/

namespace ArkKvm.GadgetChange

open Lib.Run (Reach anyStep)
open Sidecar (UsbError UmsMode DeviceSwitches UsbBaseInfo UmsHandle Ums1Handle LunIo Gadget
  checkEndpointBudget)

def FlagsMatch (sw : DeviceSwitches) (hs : List ChangeHandler) : Prop :=
  ∀ c ∈ hs, ∀ svc ∈ c.device.service?, c.device.enabled = svc.enabledBy sw

def services (hs : List ChangeHandler) : List Service := hs.filterMap (·.device.service?)

def ChangeHandler.signature (c : ChangeHandler) : Option Service × Bool :=
  (c.device.service?, c.device.enabled)

theorem flagsMatch_iff_signature (sw : DeviceSwitches) (hs : List ChangeHandler) :
    FlagsMatch sw hs ↔
      ∀ x ∈ hs.map (·.signature), ∀ svc ∈ x.1, x.2 = svc.enabledBy sw := by
  rw [List.forall_mem_map]
  rfl

theorem FlagsMatch.of_signature {sw : DeviceSwitches} {hs hs' : List ChangeHandler}
    (h : FlagsMatch sw hs) (hsame : hs'.map (·.signature) = hs.map (·.signature)) :
    FlagsMatch sw hs' := by
  rw [flagsMatch_iff_signature, hsame, ← flagsMatch_iff_signature]
  exact h

theorem services_of_signature {hs hs' : List ChangeHandler}
    (hsame : hs'.map (·.signature) = hs.map (·.signature)) : services hs' = services hs := by
  have hmap : ∀ l : List ChangeHandler, services l = (l.map (·.signature)).filterMap (·.1) := by
    intro l
    rw [List.filterMap_map]
    rfl
  rw [hmap, hmap, hsame]

theorem signature_of_frame {hs hs' : List ChangeHandler}
    (h : hs'.map (·.frame) = hs.map (·.frame)) :
    hs'.map (·.signature) = hs.map (·.signature) := by
  have hmap : ∀ l : List ChangeHandler, l.map (·.signature) =
      (l.map (·.frame)).map fun f => (f.traits.service, f.traits.enabled) := by
    intro l
    rw [List.map_map]
    rfl
  rw [hmap, hmap, h]

theorem signature_map {f : ChangeHandler → ChangeHandler}
    (h : ∀ c, (f c).signature = c.signature) (hs : List ChangeHandler) :
    (hs.map f).map (·.signature) = hs.map (·.signature) := by
  rw [List.map_map]
  exact List.map_congr_left fun c _ => h c

theorem signature_updateNetwork {f : NetworkAdapterHandle → NetworkAdapterHandle}
    (hf : ∀ u, (f u).enabled = u.enabled) (hs : List ChangeHandler) :
    (updateNetwork f hs).map (·.signature) = hs.map (·.signature) := by
  refine signature_map (fun c => ?_) hs
  obtain ⟨name, device, registered, pending⟩ := c
  cases device with
  | networkAdapter u => exact congrArg (Prod.mk (some Service.networkAdapter)) (hf u)
  | _ => rfl

/-! ## Device services -/

theorem setEnabled_service (sw : DeviceSwitches) (d : Device) :
    (d.setEnabled sw).service? = d.service? := by
  cases d <;> rfl

theorem setEnabled_enabled (sw : DeviceSwitches) (d : Device) :
    ∀ svc ∈ d.service?, (d.setEnabled sw).enabled = svc.enabledBy sw := by
  intro svc hsvc
  cases d with
  | subscriber => cases hsvc
  | hid kind u =>
      cases hsvc
      change (u.setEnabled _).enabled = _
      unfold HidHandle.setEnabled
      split
      · next hon => exact hon.symm
      · next hoff => exact (Bool.eq_false_iff.mpr hoff).symm
  | _ =>
      cases hsvc
      rfl

theorem newService_service (sw : DeviceSwitches) (hs : List ChangeHandler) (svc : Service) :
    (newService sw hs svc).device.service? = some svc := by
  cases svc <;> rfl

theorem newService_enabled (sw : DeviceSwitches) (hs : List ChangeHandler) (svc : Service) :
    (newService sw hs svc).device.enabled = svc.enabledBy sw := by
  cases svc <;> rfl

theorem flagsMatch_newService (sw : DeviceSwitches) (hs : List ChangeHandler) (svc : Service) :
    ∀ svc' ∈ (newService sw hs svc).device.service?,
      (newService sw hs svc).device.enabled = svc'.enabledBy sw := by
  intro svc' hsvc'
  rw [newService_service] at hsvc'
  cases hsvc'
  exact newService_enabled sw hs svc

theorem flagsMatch_applyDeviceServices (sw : DeviceSwitches) (hs : List ChangeHandler) :
    FlagsMatch sw (applyDeviceServices sw hs) := by
  obtain ⟨made, heq, hmade⟩ := applyDeviceServices_eq sw hs
  rw [heq]
  intro c hc
  rcases List.mem_append.mp hc with hold | hnew
  · obtain ⟨c₀, -, rfl⟩ := List.mem_map.mp hold
    intro svc hsvc
    change svc ∈ (c₀.device.setEnabled sw).service? at hsvc
    rw [setEnabled_service] at hsvc
    exact setEnabled_enabled sw c₀.device svc hsvc
  · obtain ⟨hs', svc, rfl⟩ := hmade c hnew
    exact flagsMatch_newService sw hs' svc

theorem mem_services_iff {hs : List ChangeHandler} {svc : Service} :
    svc ∈ services hs ↔ hasService hs svc = true := by
  simp [services, hasService]

theorem nodup_addService (sw : DeviceSwitches) {hs : List ChangeHandler} (svc : Service)
    (h : (services hs).Nodup) : (services (addService sw hs svc)).Nodup := by
  unfold addService
  by_cases hhas : hasService hs svc = true
  · rw [if_pos hhas]
    exact h
  · rw [if_neg hhas, services, List.filterMap_append]
    have hnew : List.filterMap (fun c : ChangeHandler => c.device.service?)
        [newService sw hs svc] = [svc] := by
      simp [newService_service]
    rw [hnew]
    exact (h.append (List.nodup_singleton svc)) (by simpa [mem_services_iff] using hhas)

theorem nodup_applyDeviceServices (sw : DeviceSwitches) {hs : List ChangeHandler}
    (h : (services hs).Nodup) : (services (applyDeviceServices sw hs)).Nodup := by
  have hfold : ∀ (svcs : List Service) (l : List ChangeHandler), (services l).Nodup →
      (services (svcs.foldl (addService sw) l)).Nodup := by
    intro svcs
    induction svcs with
    | nil => exact fun l hl => hl
    | cons svc svcs ih => exact fun l hl => ih _ (nodup_addService sw svc hl)
  unfold applyDeviceServices
  refine hfold _ _ ?_
  have hmap : services (hs.map fun c => { c with device := c.device.setEnabled sw }) =
      services hs := by
    unfold services
    rw [List.filterMap_map]
    exact congrArg (List.filterMap · hs) (funext fun c => setEnabled_service sw c.device)
  rw [hmap]
  exact h

/-! ## The invariant -/

structure Consistent (s : UsbDeviceManager) : Prop where
  flags : FlagsMatch s.switches s.handlers
  oneHandle : (services s.handlers).Nodup
  budget : checkEndpointBudget s.switches = .ok ()
  gadget : ∀ g ∈ s.activeGadget, g.baseInfo = s.baseInfo ∧ g.switches = s.switches ∧
    s.switches.hasAnyEnabled = true ∧ s.emulationEnabled = true

namespace Consistent

variable {s : UsbDeviceManager}

theorem of_handlers (h : Consistent s) {hs : List ChangeHandler}
    (hflags : FlagsMatch s.switches hs) (hone : (services hs).Nodup) :
    Consistent { s with handlers := hs } :=
  ⟨hflags, hone, h.budget, h.gadget⟩

theorem of_signature (h : Consistent s) {hs : List ChangeHandler}
    (hsame : hs.map (·.signature) = s.handlers.map (·.signature)) :
    Consistent { s with handlers := hs } :=
  h.of_handlers (h.flags.of_signature hsame) ((services_of_signature hsame).symm ▸ h.oneHandle)

theorem unbound (h : Consistent s) : Consistent { s with activeGadget := none } :=
  ⟨h.flags, h.oneHandle, h.budget, fun g hg => by cases hg⟩

theorem of_map (h : Consistent s) {f : ChangeHandler → ChangeHandler}
    (hf : ∀ c, (f c).device.service? = c.device.service? ∧
      ∀ svc ∈ c.device.service?, c.device.enabled = svc.enabledBy s.switches →
        (f c).device.enabled = svc.enabledBy s.switches) :
    Consistent { s with handlers := s.handlers.map f } := by
  have hsame : services (s.handlers.map f) = services s.handlers := by
    unfold services
    rw [List.filterMap_map]
    exact congrArg (List.filterMap · s.handlers) (funext fun c => (hf c).1)
  refine h.of_handlers (fun c hc => ?_) (hsame.symm ▸ h.oneHandle)
  obtain ⟨c₀, hc₀, rfl⟩ := List.mem_map.mp hc
  intro svc hsvc
  rw [(hf c₀).1] at hsvc
  exact (hf c₀).2 svc hsvc (h.flags c₀ hc₀ svc hsvc)

theorem withEmulation (h : Consistent s) {on : Bool}
    (hon : s.activeGadget = none ∨ on = true) :
    Consistent { s with emulationEnabled := on } := by
  refine ⟨h.flags, h.oneHandle, h.budget, fun g hg => ?_⟩
  obtain ⟨hbase, hsw, hany, -⟩ := h.gadget g hg
  refine ⟨hbase, hsw, hany, ?_⟩
  rcases hon with hnone | hon
  · change g ∈ s.activeGadget at hg
    rw [hnone] at hg
    cases hg
  · exact hon

theorem of_emulation {on : Bool} (h : Consistent { s with emulationEnabled := on })
    (hon : s.activeGadget = none ∨ s.emulationEnabled = true) : Consistent s := by
  refine ⟨h.flags, h.oneHandle, h.budget, fun g hg => ?_⟩
  obtain ⟨hbase, hsw, hany, -⟩ := h.gadget g hg
  refine ⟨hbase, hsw, hany, hon.resolve_left fun hnone => ?_⟩
  rw [hnone] at hg
  cases hg

end Consistent

namespace UsbDeviceManager

variable {s : UsbDeviceManager}

theorem signature_notifyAll (io : HandlerIo) (req : ChangeRequest) (s : UsbDeviceManager) :
    (notifyAll io req s).handlers.map (·.signature) = s.handlers.map (·.signature) :=
  signature_of_frame (notifyAll_frame io req s)

theorem consistent_notifyAll (io : HandlerIo) (req : ChangeRequest) (h : Consistent s) :
    Consistent (notifyAll io req s) :=
  h.of_signature (signature_notifyAll io req s)

theorem consistent_prepared (io : HandlerIo) (h : Consistent s) : Consistent (prepared io s) :=
  consistent_notifyAll io .prepareChange (consistent_notifyAll io .requestChange h)

theorem consistent_canceled (io : HandlerIo) (h : Consistent s) {hs : List ChangeHandler}
    (hframe : hs.map (·.frame) = s.handlers.map (·.frame)) :
    Consistent (notifyAll io .changeCanceled { s with handlers := hs }) :=
  consistent_notifyAll io .changeCanceled (h.of_signature (signature_of_frame hframe))

/-- Bringing up a gadget makes the flags match, whatever they were.  Emulation may be
switched on only after it. -/
theorem consistent_bind (bio : BindIo) (hone : (services s.handlers).Nodup)
    (hbudget : checkEndpointBudget s.switches = .ok ()) (hnone : s.activeGadget = none) :
    Consistent { (bindGadgetFromCurrentSwitches bio s).1 with emulationEnabled := true } := by
  have hflags := flagsMatch_applyDeviceServices s.switches s.handlers
  have hone' := nodup_applyDeviceServices s.switches hone
  by_cases hup : BringsUp bio s.baseInfo s.switches
  · obtain ⟨hs, hrun, hhs⟩ := bind_of_bringsUp hup hnone
    have hsame : hs.map (·.signature) =
        (applyDeviceServices s.switches s.handlers).map (·.signature) := by
      rcases hhs with rfl | rfl
      · rfl
      · exact signature_updateNetwork (f := (·.setNet (netFunction s.switches))) (fun _ => rfl) _
    rw [hrun]
    refine ⟨hflags.of_signature hsame, (services_of_signature hsame).symm ▸ hone', hbudget, ?_⟩
    intro g hg
    change g ∈ builtGadget _ _ _ at hg
    unfold builtGadget at hg
    split at hg
    · next hany =>
        cases hg
        exact ⟨rfl, rfl, hany, rfl⟩
    · cases hg
  · obtain ⟨e, hrun⟩ := bind_of_fails hup
    rw [hrun]
    refine ⟨hflags, hone', hbudget, fun g hg => ?_⟩
    change g ∈ s.activeGadget at hg
    rw [hnone] at hg
    cases hg

theorem bind_frame (bio : BindIo) :
    (bindGadgetFromCurrentSwitches bio s).1.baseInfo = s.baseInfo ∧
      (bindGadgetFromCurrentSwitches bio s).1.switches = s.switches ∧
      (bindGadgetFromCurrentSwitches bio s).1.emulationEnabled = s.emulationEnabled := by
  unfold bindGadgetFromCurrentSwitches
  split
  · exact ⟨rfl, rfl, rfl⟩
  · split <;> exact ⟨rfl, rfl, rfl⟩

theorem bind_error_gadget (bio : BindIo) {e : UsbError}
    (h : (bindGadgetFromCurrentSwitches bio s).2 = .error e) :
    (bindGadgetFromCurrentSwitches bio s).1.activeGadget = s.activeGadget := by
  by_cases hup : BringsUp bio s.baseInfo s.switches
  · unfold bindGadgetFromCurrentSwitches at h
    split at h
    · cases h
    · next hany =>
        rw [hup (not_not.mp hany)] at h
        cases h
  · obtain ⟨e', hrun⟩ := bind_of_fails hup
    rw [hrun]

theorem consistent_bindOrRestore {rio : RebuildIo} {old : UsbDeviceManager}
    (hone : (services s.handlers).Nodup) (hbudget : checkEndpointBudget s.switches = .ok ())
    (hold : checkEndpointBudget old.switches = .ok ()) (hnone : s.activeGadget = none)
    (hon : s.emulationEnabled = true) : Consistent (bindOrRestore rio old s).1 := by
  have hframe := (bind_frame rio.bind (s := s)).2.2
  have hbind := (consistent_bind rio.bind hone hbudget hnone).of_emulation
    (Or.inr (hframe.trans hon))
  unfold bindOrRestore
  rcases hrun : bindGadgetFromCurrentSwitches rio.bind s with ⟨s', e | u⟩
  · have hgadget := bind_error_gadget rio.bind (s := s) (e := e) (by rw [hrun])
    rw [hrun] at hbind hframe hgadget
    refine consistent_notifyAll rio.handlers .changeCanceled ?_
    exact (consistent_bind _ (s := { s' with
      baseInfo := old.baseInfo
      switches := old.switches }) hbind.oneHandle hold (hgadget.trans hnone)).of_emulation
        (Or.inr ((bind_frame _).2.2.trans (hframe.trans hon)))
  · rw [hrun] at hbind
    exact consistent_notifyAll rio.handlers .changeCompleted hbind

/-! ## Commands -/

theorem consistent_applySwitches {rio : RebuildIo} {baseInfo : Option UsbBaseInfo}
    {switches : Option DeviceSwitches} (h : Consistent s) :
    Consistent (applySwitches rio baseInfo switches s).1 := by
  by_cases hadm : Admitted s switches
  · by_cases happ : Approves rio.handlers s.handlers
    · have hprep := consistent_prepared rio.handlers h
      cases hrel : rio.released with
      | ok u =>
          rw [applySwitches_of_released hadm happ hrel]
          exact consistent_bindOrRestore hprep.oneHandle hadm.2 h.budget rfl hadm.1
      | error e =>
          rw [applySwitches_of_stuck hadm happ hrel]
          exact hprep.unbound
    · obtain ⟨hs, reason, hrun, hframe⟩ :=
        applySwitches_of_rejected baseInfo hadm happ
      rw [hrun]
      exact consistent_canceled rio.handlers h hframe
  · obtain ⟨e, hrun⟩ := applySwitches_of_refused rio baseInfo hadm
    rw [hrun]
    exact h

theorem consistent_enableEmulation {rio : RebuildIo} (h : Consistent s) :
    Consistent (enableEmulation rio s).1 := by
  by_cases hnone : s.activeGadget = none
  · by_cases happ : Approves rio.handlers s.handlers
    · rw [enableEmulation_of_approved hnone happ]
      have hprep := consistent_prepared rio.handlers h
      have hbind := consistent_bind rio.bind hprep.oneHandle hprep.budget hnone
      rcases hrun : bindGadgetFromCurrentSwitches rio.bind (prepared rio.handlers s) with ⟨t, e | u⟩
      · have hgadget := bind_error_gadget rio.bind (s := prepared rio.handlers s)
          (e := e) (by rw [hrun])
        rw [Lib.Action.bind_of_error hrun]
        rw [hrun] at hbind hgadget
        exact hbind.of_emulation (Or.inl (hgadget.trans hnone))
      · rw [Lib.Action.bind_of_ok hrun]
        rw [hrun] at hbind
        exact consistent_notifyAll rio.handlers .changeCompleted hbind
    · obtain ⟨hs, reason, hrun, hframe⟩ := enableEmulation_of_rejected hnone happ
      rw [hrun]
      exact consistent_canceled rio.handlers h hframe
  · rw [enableEmulation_of_bound (Option.isSome_iff_ne_none.mpr hnone)]
    exact h.withEmulation (Or.inr rfl)

theorem consistent_disableEmulation {rio : RebuildIo} (h : Consistent s) :
    Consistent (disableEmulation rio s).1 := by
  by_cases hnone : s.activeGadget = none
  · rw [disableEmulation_of_unbound hnone]
    exact h.withEmulation (Or.inl hnone)
  · have hprep := consistent_prepared rio.handlers h
    by_cases happ : Approves rio.handlers s.handlers
    · cases hrel : rio.released with
      | ok u =>
          rw [disableEmulation_of_released hnone happ hrel]
          exact consistent_notifyAll rio.handlers .changeCompleted
            (hprep.unbound.withEmulation (Or.inl rfl))
      | error e =>
          rw [disableEmulation_of_stuck hnone happ hrel]
          exact hprep.unbound
    · obtain ⟨hs, reason, hrun, hframe⟩ := disableEmulation_of_rejected hnone happ
      rw [hrun]
      exact consistent_canceled rio.handlers h hframe

/-! ### The LUNs -/

theorem consistent_setVm (h : Consistent s) {u : UmsHandle} (u' : UmsHandle)
    (hu : vmHandle s.handlers = some u)
    (henabled : u'.enabled = u.enabled) :
    Consistent { s with handlers := setVm u' s.handlers } := by
  obtain ⟨c, hc, hd⟩ := mem_of_vmHandle hu
  have hflag : u'.enabled = Service.ums.enabledBy s.switches := by
    have hmatch := h.flags c hc .ums (by rw [hd]; rfl)
    rw [hd] at hmatch
    exact henabled.trans hmatch
  refine h.of_map fun ⟨name, device, registered, pending⟩ => ?_
  cases device with
  | ums u₀ => exact ⟨rfl, fun svc hsvc _ => by cases hsvc; exact hflag⟩
  | _ => exact ⟨rfl, fun svc hsvc hmatch => hmatch⟩

theorem consistent_setFt (h : Consistent s) {u u' : Ums1Handle}
    (hu : ftHandle s.handlers = some u) (henabled : u'.enabled = u.enabled) :
    Consistent { s with handlers := setFt u' s.handlers } := by
  obtain ⟨c, hc, hd⟩ := mem_of_ftHandle hu
  have hflag : u'.enabled = Service.ums1.enabledBy s.switches := by
    have hmatch := h.flags c hc .ums1 (by rw [hd]; rfl)
    rw [hd] at hmatch
    exact henabled.trans hmatch
  refine h.of_map fun ⟨name, device, registered, pending⟩ => ?_
  cases device with
  | ums1 u₀ => exact ⟨rfl, fun svc hsvc _ => by cases hsvc; exact hflag⟩
  | _ => exact ⟨rfl, fun svc hsvc hmatch => hmatch⟩

theorem consistent_withVm {op : UmsHandle → Except UsbError UmsHandle}
    (hop : ∀ u u', op u = .ok u' → u'.enabled = u.enabled) {u : UmsHandle}
    (hu : vmHandle s.handlers = some u) (h : Consistent s) : Consistent (withVm op u s).1 := by
  unfold withVm
  cases hrun : op u with
  | error e => exact h
  | ok u' => exact consistent_setVm h _ hu (hop u u' hrun)

theorem consistent_withFt {op : Ums1Handle → Except UsbError Ums1Handle}
    (hop : ∀ u u', op u = .ok u' → u'.enabled = u.enabled) {u : Ums1Handle}
    (hu : ftHandle s.handlers = some u) (h : Consistent s) : Consistent (withFt op u s).1 := by
  unfold withFt
  cases hrun : op u with
  | error e => exact h
  | ok u' => exact consistent_setFt h hu (hop u u' hrun)

theorem consistent_mountVm {io : UmsIo} {path : String} (h : Consistent s) :
    Consistent (mountVm io path s).1 := by
  unfold mountVm
  cases hu : vmHandle s.handlers with
  | none => exact h
  | some u => exact consistent_withVm (fun _ _ hok => by rw [umsMount_ok hok]) hu h

theorem consistent_umsVmUnmount {io : UmsIo} (h : Consistent s) :
    Consistent (umsVmUnmount io s).1 := by
  unfold umsVmUnmount
  cases hu : vmHandle s.handlers with
  | none => exact h
  | some u =>
      refine consistent_withVm (fun u u' hok => ?_) hu h
      rw [umsUnmount_ok hok]
      split <;> rfl

theorem consistent_umsFtUnmount {io : UmsIo} (h : Consistent s) :
    Consistent (umsFtUnmount io s).1 := by
  unfold umsFtUnmount
  cases hu : ftHandle s.handlers with
  | none => exact h
  | some u => exact consistent_withFt (fun _ _ hok => by rw [ums1Unmount_ok hok]) hu h

theorem consistent_umsFtMount {io : UmsIo} {path : String} (h : Consistent s) :
    Consistent (umsFtMount io path s).1 := by
  unfold umsFtMount
  cases hu : ftHandle s.handlers with
  | none => exact h
  | some u => exact consistent_withFt (fun _ _ hok => by rw [ums1Mount_ok hok]) hu h

theorem consistent_switchVmMode {io : UmsIo} {mode : UmsMode} {u : UmsHandle}
    (hu : vmHandle s.handlers = some u) (h : Consistent s) :
    Consistent (switchVmMode io mode u s).1 := by
  unfold switchVmMode
  cases hsw : u.switchMode mode with
  | error e => exact h
  | ok r =>
      obtain ⟨u', rebuild⟩ := r
      have hset := consistent_setVm h u' hu (by rw [(switchMode_ok hsw).1])
      cases rebuild with
      | false => exact hset
      | true => exact consistent_applySwitches hset

theorem consistent_switchThen {io : UmsIo} {mode : UmsMode} {u : UmsHandle}
    (next : Lib.Action UsbError UsbDeviceManager Unit)
    (hnext : ∀ t, Consistent t → Consistent (next t).1)
    (hu : vmHandle s.handlers = some u) (h : Consistent s) :
    Consistent ((switchVmMode io mode u >>= fun _ => next) s).1 := by
  have hswitch : Consistent (switchVmMode io mode u s).1 := consistent_switchVmMode hu h
  rcases hrun : switchVmMode io mode u s with ⟨t, e | a⟩
  · rw [hrun] at hswitch
    rw [Lib.Action.bind_of_error hrun]
    exact hswitch
  · rw [hrun] at hswitch
    rw [Lib.Action.bind_of_ok hrun]
    exact hnext t hswitch

theorem consistent_handleUmsControl {io : UmsIo} {req : UmsControlRequest} (h : Consistent s) :
    Consistent (handleUmsControl io req s).1 := by
  rcases handleUmsControl_cases io req s with ⟨-, hway⟩ | ⟨mode, -, hway⟩
  · rcases hway with hrun | hrun | hrun | hrun <;> rw [hrun]
    · exact h
    · exact consistent_umsVmUnmount h
    · exact consistent_umsFtUnmount h
    · exact consistent_umsFtMount h
  · rcases hway with hrun | hrun <;> rw [hrun]
    · unfold umsVmMount
      cases hu : vmHandle s.handlers with
      | none => exact h
      | some u => exact consistent_switchThen _ (fun t ht => consistent_mountVm ht) hu h
    · unfold umsVmSwitchMode
      cases hu : vmHandle s.handlers with
      | none => exact h
      | some u => exact consistent_switchVmMode hu h

/-! ### Parts of a full configuration -/

theorem consistent_setNetworkAdapterL3Config {l3 : Option Sidecar.NetworkAdapterL3Info}
    (h : Consistent s) : Consistent (setNetworkAdapterL3Config l3 s) := by
  have hadded : Consistent { s with
      handlers := addService s.switches s.handlers .networkAdapter } := by
    refine h.of_handlers ?_ (nodup_addService s.switches _ h.oneHandle)
    unfold addService
    split
    · exact h.flags
    · intro c hc
      rcases List.mem_append.mp hc with hold | hnew
      · exact h.flags c hold
      · rw [List.mem_singleton.mp hnew]
        exact flagsMatch_newService s.switches s.handlers .networkAdapter
  refine hadded.of_signature (signature_updateNetwork (f := (·.setL3FromProto l3)) (fun u => ?_) _)
  unfold NetworkAdapterHandle.setL3FromProto
  split
  · rfl
  · split <;> rfl

theorem consistent_applyNetworkAdapterL3Only {io : NetworkIo} (h : Consistent s) :
    Consistent (applyNetworkAdapterL3Only io s).1 := by
  unfold applyNetworkAdapterL3Only
  cases hu : networkHandle s.handlers with
  | none => exact h
  | some u =>
      obtain ⟨c, hc, hd⟩ := mem_of_networkHandle hu
      have hflag : u.enabled = Service.networkAdapter.enabledBy s.switches := by
        have hmatch := h.flags c hc .networkAdapter (by rw [hd]; rfl)
        rw [hd] at hmatch
        exact hmatch
      refine h.of_map fun ⟨name, device, registered, pending⟩ => ?_
      cases device with
      | networkAdapter u₀ =>
          refine ⟨rfl, fun svc hsvc _ => ?_⟩
          cases hsvc
          change (NetworkAdapterHandle.applyL3 io u).1.enabled = _
          rw [NetworkAdapterHandle.applyL3_eq]
          exact hflag
      | _ => exact ⟨rfl, fun svc hsvc hmatch => hmatch⟩

theorem consistent_applyVmMount {io : UmsIo} {info : Sidecar.UsbDeviceInfo} {enabled : Bool}
    (h : Consistent s) : Consistent (applyVmMount io info enabled s).1 := by
  unfold applyVmMount
  cases hu : vmHandle s.handlers with
  | none => exact h
  | some u =>
      simp only
      split
      · exact consistent_umsVmUnmount h
      · split
        · exact h
        · split
          · exact consistent_mountVm h
          · exact consistent_switchThen
              (logged (mountVm io info.umsVmPath)) (fun t ht => consistent_mountVm ht) hu h

theorem consistent_applyFtMount {io : UmsIo} {info : Sidecar.UsbDeviceInfo} {enabled : Bool}
    (h : Consistent s) : Consistent (applyFtMount io info enabled s).1 := by
  unfold applyFtMount
  cases hu : ftHandle s.handlers with
  | none => exact h
  | some u =>
      simp only
      split
      · exact consistent_umsFtUnmount h
      · split
        · exact h
        · exact consistent_withFt (fun _ _ hok => by rw [ums1Mount_ok hok]) hu h

theorem consistent_removeChangeHandler (name : String) (h : Consistent s) :
    Consistent { s with handlers := removeChangeHandler name s.handlers } := by
  refine h.of_handlers (fun c hc => ?_) ?_
  · obtain ⟨c₀, hc₀, hsome⟩ := List.mem_filterMap.mp hc
    split at hsome
    · split at hsome
      · cases hsome
      · cases hsome
        exact h.flags c₀ hc₀
    · cases hsome
      exact h.flags c hc₀
  · have hsame : services (removeChangeHandler name s.handlers) = services s.handlers := by
      unfold services removeChangeHandler
      rw [List.filterMap_filterMap]
      refine congrArg (List.filterMap · s.handlers) (funext fun c => ?_)
      split
      · split
        · next hsub =>
            rw [hsub]
            rfl
        · rfl
      · rfl
    exact hsame.symm ▸ h.oneHandle

/-! ## Runs -/

theorem consistent_step {cmd : Command} {s' : UsbDeviceManager} (h : Consistent s)
    (hs : step s cmd = some s') : Consistent s' := by
  cases cmd with
  | applySwitches io baseInfo switches =>
      cases hs
      exact consistent_applySwitches h
  | setEmulationEnabled io enabled =>
      cases hs
      cases enabled with
      | true => exact consistent_enableEmulation h
      | false => exact consistent_disableEmulation h
  | umsControl io req =>
      cases hs
      exact consistent_handleUmsControl h
  | setNetworkAdapterL3Config l3 =>
      cases hs
      exact consistent_setNetworkAdapterL3Config h
  | applyNetworkAdapterL3Only io =>
      cases hs
      exact consistent_applyNetworkAdapterL3Only h
  | applyVmMount io info enabled =>
      cases hs
      exact consistent_applyVmMount h
  | applyFtMount io info enabled =>
      cases hs
      exact consistent_applyFtMount h
  | setLastUsbInfo info =>
      cases hs
      exact ⟨h.flags, h.oneHandle, h.budget, h.gadget⟩
  | addChangeHandler name =>
      simp only [step] at hs
      split at hs
      · cases hs
      · cases hs
        refine h.of_handlers (fun c hc => ?_) ?_
        · rcases List.mem_append.mp hc with hold | hnew
          · exact h.flags c hold
          · rw [List.mem_singleton.mp hnew]
            exact fun svc hsvc => by cases hsvc
        · have hsame : services (s.handlers ++ [{ name := name, device := .subscriber }]) =
              services s.handlers := by
            simp [services, Device.service?]
          exact hsame.symm ▸ h.oneHandle
  | removeChangeHandler name =>
      cases hs
      exact consistent_removeChangeHandler name h
  | reorder hs' =>
      simp only [step] at hs
      split at hs
      · next hperm =>
          cases hs
          exact h.of_handlers (fun c hc => h.flags c (hperm.mem_iff.mp hc))
            ((hperm.filterMap _).nodup_iff.mpr h.oneHandle)
      · cases hs

theorem consistent_start (baseInfo : UsbBaseInfo) : Consistent (start baseInfo) where
  flags := fun c hc => by cases hc
  oneHandle := List.nodup_nil
  budget := rfl
  gadget := fun g hg => by cases hg

theorem reach_consistent {baseInfo : UsbBaseInfo} {ok : UsbDeviceManager → Command → Prop}
    (hrun : Reach step ok (start baseInfo) s) : Consistent s :=
  hrun.invariant (P := Consistent) (consistent_start baseInfo)
    fun _ _ _ h _ hs => consistent_step h hs

end UsbDeviceManager

end ArkKvm.GadgetChange
