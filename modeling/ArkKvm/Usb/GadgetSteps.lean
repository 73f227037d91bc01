import ArkKvm.Usb.GadgetControl

/-!
# What the steps of a gadget change do

Equations for the ways in which the handlers can be asked and a gadget can be
changed, one for each exit of the source, and the part of the handlers that no
notification alters.
-/

namespace ArkKvm.GadgetChange

open Lib (Action poll Poll.of_agreed Poll.agreed_iff Poll.map_eq)
open Lib.Action
open Sidecar (UsbError UmsMode DeviceSwitches UsbBaseInfo UmsHandle Ums1Handle LunIo Gadget
  checkEndpointBudget)

/-- The part of a handler that no change request alters; of a handler that is not
registered, everything. -/
structure Frame where
  name : String
  registered : Bool
  traits : Device.Traits
  unreached : Option ChangeHandler

def ChangeHandler.frame (h : ChangeHandler) : Frame where
  name := h.name
  registered := h.registered
  traits := h.device.traits
  unreached := if h.registered then none else some h

theorem ChangeHandler.frame_onChangeRequest (io : HandlerIo) (req : ChangeRequest)
    (h : ChangeHandler) : (h.onChangeRequest io req).1.frame = h.frame := by
  by_cases hreg : h.registered = true
  · obtain ⟨hname, hreg', htraits⟩ := onChangeRequest_frame io req h
    rw [frame, hname, hreg', htraits, frame, hreg]
    rfl
  · rw [onChangeRequest_of_unregistered io req h hreg]

/-- All handlers agree to a change. -/
def Approves (io : HandlerIo) (hs : List ChangeHandler) : Prop :=
  ∀ h ∈ hs, (h.onChangeRequest io .requestChange).2 = .proceed ∧
    (h.onChangeRequest io .prepareChange).2 = .proceed

instance (io : HandlerIo) (hs : List ChangeHandler) : Decidable (Approves io hs) :=
  inferInstanceAs (Decidable (∀ h ∈ hs, _))

theorem reason?_eq_none {r : ChangeResponse} : r.reason? = none ↔ r = .proceed := by
  cases r <;> simp [ChangeResponse.reason?]

theorem addServices_eq (sw : DeviceSwitches) (svcs : List Service) (hs : List ChangeHandler) :
    ∃ made, svcs.foldl (addService sw) hs = hs ++ made ∧
      ∀ c ∈ made, ∃ hs' svc, c = newService sw hs' svc := by
  induction svcs generalizing hs with
  | nil => exact ⟨[], by simp, by simp⟩
  | cons svc svcs ih =>
      rw [List.foldl_cons]
      by_cases hhas : hasService hs svc = true
      · rw [addService, if_pos hhas]
        exact ih hs
      · rw [addService, if_neg hhas]
        obtain ⟨made, heq, hmade⟩ := ih (hs ++ [newService sw hs svc])
        refine ⟨newService sw hs svc :: made, by rw [heq, List.append_assoc]; rfl, ?_⟩
        rw [List.forall_mem_cons]
        exact ⟨⟨hs, svc, rfl⟩, hmade⟩

theorem applyDeviceServices_eq (sw : DeviceSwitches) (hs : List ChangeHandler) :
    ∃ made, applyDeviceServices sw hs =
        hs.map (fun h => { h with device := h.device.setEnabled sw }) ++ made ∧
      ∀ c ∈ made, ∃ hs' svc, c = newService sw hs' svc := by
  unfold applyDeviceServices
  exact addServices_eq sw Service.all _

namespace UsbDeviceManager

variable {io : HandlerIo} {s : UsbDeviceManager}

/-! ## Asking the handlers -/

theorem notifyAll_frame (io : HandlerIo) (req : ChangeRequest) (s : UsbDeviceManager) :
    (notifyAll io req s).handlers.map (·.frame) = s.handlers.map (·.frame) := by
  rw [notifyAll, List.map_map]
  exact List.map_congr_left fun h _ => h.frame_onChangeRequest io req

theorem askHandlers_of_agreed {req : ChangeRequest}
    (h : ∀ c ∈ s.handlers, (c.onChangeRequest io req).2 = .proceed) :
    askHandlers io req s = (notifyAll io req s, .ok ()) := by
  have hpoll : poll (fun c => (c.onChangeRequest io req).map id ChangeResponse.reason?)
      s.handlers = _ :=
    Poll.of_agreed fun c hc => reason?_eq_none.mpr (h c hc)
  unfold askHandlers
  simp only [hpoll]
  rfl

/-- A handler rejects: the poll stopped somewhere, and all handlers are told that the
change is cancelled. -/
theorem askHandlers_of_rejected {req : ChangeRequest}
    (h : ¬ ∀ c ∈ s.handlers, (c.onChangeRequest io req).2 = .proceed) :
    ∃ reason, askHandlers io req s =
      (notifyAll io .changeCanceled { s with
        handlers := (poll (fun c => (c.onChangeRequest io req).map id ChangeResponse.reason?)
          s.handlers).1 }, .error (.changeRejected reason)) := by
  have hpoll : ¬ (poll (fun c => (c.onChangeRequest io req).map id ChangeResponse.reason?)
      s.handlers).2 = none :=
    mt Poll.agreed_iff.mp fun hall => h fun c hc => reason?_eq_none.mp (hall c hc)
  unfold askHandlers
  generalize poll (fun c => (c.onChangeRequest io req).map id ChangeResponse.reason?)
    s.handlers = r at hpoll
  obtain ⟨hs, _ | reason⟩ := r
  · exact absurd rfl hpoll
  · exact ⟨reason, rfl⟩

def prepared (io : HandlerIo) (s : UsbDeviceManager) : UsbDeviceManager :=
  notifyAll io .prepareChange (notifyAll io .requestChange s)

theorem requestChangeApproval_of_approved (h : Approves io s.handlers) :
    requestChangeApproval io s = (prepared io s, .ok ()) := by
  have hask := askHandlers_of_agreed fun c hc => (h c hc).1
  have hprepare : ∀ c ∈ (notifyAll io .requestChange s).handlers,
      (c.onChangeRequest io .prepareChange).2 = .proceed := by
    intro c hc
    obtain ⟨c₀, hc₀, rfl⟩ := List.mem_map.mp hc
    rw [ChangeHandler.prepareChange_after_requestChange]
    exact (h c₀ hc₀).2
  unfold requestChangeApproval requestChangeOnly
  rw [bind_of_ok hask, askHandlers_of_agreed hprepare]
  rfl

theorem requestChangeApproval_of_rejected (h : ¬ Approves io s.handlers) :
    ∃ hs reason, requestChangeApproval io s =
        (notifyAll io .changeCanceled { s with handlers := hs },
          .error (.changeRejected reason)) ∧
      hs.map (·.frame) = s.handlers.map (·.frame) := by
  have hpoll : ∀ req cs, (poll (fun c => (ChangeHandler.onChangeRequest io req c).map id
      ChangeResponse.reason?) cs).1.map (·.frame) = cs.map (·.frame) := fun req cs =>
    Poll.map_eq _ (fun c => c.frame_onChangeRequest io req) cs
  unfold requestChangeApproval requestChangeOnly
  by_cases hall : ∀ c ∈ s.handlers, (c.onChangeRequest io .requestChange).2 = .proceed
  · rw [bind_of_ok (askHandlers_of_agreed hall)]
    have hrej : ¬ ∀ c ∈ (notifyAll io .requestChange s).handlers,
        (c.onChangeRequest io .prepareChange).2 = .proceed := by
      intro hprepare
      refine h fun c hc => ⟨hall c hc, ?_⟩
      rw [← ChangeHandler.prepareChange_after_requestChange]
      exact hprepare _ (List.mem_map_of_mem hc)
    obtain ⟨reason, hask⟩ := askHandlers_of_rejected hrej
    exact ⟨_, reason, hask, (hpoll _ _).trans (notifyAll_frame io .requestChange s)⟩
  · obtain ⟨reason, hask⟩ := askHandlers_of_rejected hall
    exact ⟨_, reason, bind_of_error hask, hpoll _ _⟩

/-! ## The exits of `apply_switches` -/

variable {rio : RebuildIo} {baseInfo : Option UsbBaseInfo} {switches : Option DeviceSwitches}

/-- The checks before any handler is asked. -/
def Admitted (s : UsbDeviceManager) (switches : Option DeviceSwitches) : Prop :=
  s.emulationEnabled = true ∧ checkEndpointBudget (switches.getD s.switches) = .ok ()

variable (rio baseInfo) in
theorem applySwitches_of_refused (h : ¬ Admitted s switches) :
    ∃ e, applySwitches rio baseInfo switches s = (s, .error e) := by
  change ∃ e, (ensure (s.emulationEnabled = true) (UsbError.gadgetError "USB emulation disabled")
    >>= _) s = (s, .error e)
  by_cases hon : s.emulationEnabled = true
  · rw [bind_of_ok (ensure_of_pos hon _ _)]
    cases hbudget : checkEndpointBudget (switches.getD s.switches) with
    | ok u => exact absurd ⟨hon, hbudget⟩ h
    | error e => exact ⟨e, rfl⟩
  · exact ⟨_, bind_of_error (ensure_of_neg hon _ _)⟩

theorem applySwitches_of_admitted (h : Admitted s switches) :
    applySwitches rio baseInfo switches s =
      (requestChangeApproval rio.handlers >>= fun _ => do
        unbindActiveGadget rio.released
        let old ← Action.read
        Action.modify fun s =>
          { s with
            baseInfo := baseInfo.getD s.baseInfo
            switches := switches.getD s.switches }
        bindOrRestore rio old) s := by
  change (ensure (s.emulationEnabled = true) (UsbError.gadgetError "USB emulation disabled")
    >>= _) s = _
  rw [bind_of_ok (ensure_of_pos h.1 _ _), bind_of_ok (t := s) (a := ()) (by rw [h.2]; rfl)]

theorem applySwitches_of_approval_error (hadm : Admitted s switches) {s' : UsbDeviceManager}
    {e : UsbError} (h : requestChangeApproval rio.handlers s = (s', .error e)) :
    applySwitches rio baseInfo switches s = (s', .error e) := by
  rw [applySwitches_of_admitted hadm, bind_of_error h]

variable (baseInfo) in
theorem applySwitches_of_rejected (hadm : Admitted s switches)
    (hrej : ¬ Approves rio.handlers s.handlers) :
    ∃ hs reason, applySwitches rio baseInfo switches s =
        (notifyAll rio.handlers .changeCanceled { s with handlers := hs },
          .error (.changeRejected reason)) ∧
      hs.map (·.frame) = s.handlers.map (·.frame) := by
  obtain ⟨hs, reason, hrun, hframe⟩ := requestChangeApproval_of_rejected hrej
  exact ⟨hs, reason, applySwitches_of_approval_error hadm hrun, hframe⟩

/-- The old gadget cannot be removed: it is given up, and nobody is told. -/
theorem applySwitches_of_stuck (hadm : Admitted s switches)
    (happ : Approves rio.handlers s.handlers) {e : UsbError} (hrel : rio.released = .error e) :
    applySwitches rio baseInfo switches s =
      ({ prepared rio.handlers s with activeGadget := none }, .error e) := by
  rw [applySwitches_of_admitted hadm, bind_of_ok (requestChangeApproval_of_approved happ),
    bind_of_error]
  rw [unbindActiveGadget, hrel]

theorem applySwitches_of_released (hadm : Admitted s switches)
    (happ : Approves rio.handlers s.handlers) (hrel : rio.released = .ok ()) :
    applySwitches rio baseInfo switches s =
      bindOrRestore rio s { prepared rio.handlers s with
        activeGadget := none
        baseInfo := baseInfo.getD s.baseInfo
        switches := switches.getD s.switches } := by
  rw [applySwitches_of_admitted hadm, bind_of_ok (requestChangeApproval_of_approved happ),
    bind_of_ok (a := ()) (t := { prepared rio.handlers s with activeGadget := none })
      (by rw [unbindActiveGadget, hrel])]
  rfl

/-! ## Bringing up a gadget -/

variable {bio : BindIo}

def BringsUp (bio : BindIo) (baseInfo : UsbBaseInfo) (sw : DeviceSwitches) : Prop :=
  sw.hasAnyEnabled = true → bringUp bio baseInfo sw = .ok ()

def builtGadget (baseInfo : UsbBaseInfo) (sw : DeviceSwitches) (mode : UmsMode) : Option Gadget :=
  if sw.hasAnyEnabled then some ⟨baseInfo, sw, mode⟩ else none

theorem bind_of_bringsUp (h : BringsUp bio s.baseInfo s.switches)
    (hnone : s.activeGadget = none) :
    ∃ hs, bindGadgetFromCurrentSwitches bio s =
        ({ s with
          handlers := hs
          activeGadget := builtGadget s.baseInfo s.switches
            (umsMode (applyDeviceServices s.switches s.handlers))
          attempts := s.attempts ++ [⟨s.baseInfo, s.switches, true⟩] }, .ok ()) ∧
      (hs = applyDeviceServices s.switches s.handlers ∨
        hs = updateNetwork (·.setNet (netFunction s.switches))
          (applyDeviceServices s.switches s.handlers)) := by
  unfold bindGadgetFromCurrentSwitches builtGadget
  by_cases hany : s.switches.hasAnyEnabled = true
  · simp only [hany, h hany]
    exact ⟨_, rfl, Or.inr rfl⟩
  · simp only [hany]
    exact ⟨_, by rw [if_pos (by simp), if_neg (by simp), ← hnone], Or.inl rfl⟩

theorem bind_of_fails (h : ¬ BringsUp bio s.baseInfo s.switches) :
    ∃ e, bindGadgetFromCurrentSwitches bio s =
      ({ s with
        handlers := applyDeviceServices s.switches s.handlers
        attempts := s.attempts ++ [⟨s.baseInfo, s.switches, false⟩] }, .error e) := by
  obtain ⟨hany, hfail⟩ := Classical.not_imp.mp h
  unfold bindGadgetFromCurrentSwitches
  simp only [hany]
  cases hup : bringUp bio s.baseInfo s.switches with
  | ok u => exact absurd hup hfail
  | error e => exact ⟨e, rfl⟩

variable (rio) in
theorem bindOrRestore_of_bringsUp (old : UsbDeviceManager)
    (h : BringsUp rio.bind s.baseInfo s.switches) (hnone : s.activeGadget = none) :
    ∃ hs, bindOrRestore rio old s =
      (notifyAll rio.handlers .changeCompleted { s with
        handlers := hs
        activeGadget := builtGadget s.baseInfo s.switches
          (umsMode (applyDeviceServices s.switches s.handlers))
        attempts := s.attempts ++ [⟨s.baseInfo, s.switches, true⟩] }, .ok ()) := by
  obtain ⟨hs, hrun, -⟩ := bind_of_bringsUp h hnone
  refine ⟨hs, ?_⟩
  unfold bindOrRestore
  rw [hrun]

variable (rio) in
/-- A rebuild whose new gadget cannot be brought up: the old values are tried. -/
theorem bindOrRestore_of_fails (old : UsbDeviceManager)
    (h : ¬ BringsUp rio.bind s.baseInfo s.switches) :
    ∃ e, bindOrRestore rio old s =
      (notifyAll rio.handlers .changeCanceled (bindGadgetFromCurrentSwitches rio.fallback { s with
        handlers := applyDeviceServices s.switches s.handlers
        attempts := s.attempts ++ [⟨s.baseInfo, s.switches, false⟩]
        baseInfo := old.baseInfo
        switches := old.switches }).1, .error e) := by
  obtain ⟨e, hrun⟩ := bind_of_fails h
  refine ⟨e, ?_⟩
  unfold bindOrRestore
  rw [hrun]

theorem applySwitches_ok (h : (applySwitches rio baseInfo switches s).2 = .ok ()) :
    Admitted s switches ∧ Approves rio.handlers s.handlers ∧
      (applySwitches rio baseInfo switches s).1.baseInfo = baseInfo.getD s.baseInfo ∧
      (applySwitches rio baseInfo switches s).1.switches = switches.getD s.switches ∧
      (applySwitches rio baseInfo switches s).1.activeGadget =
        builtGadget (baseInfo.getD s.baseInfo) (switches.getD s.switches)
          (umsMode (applyDeviceServices (switches.getD s.switches)
            (prepared rio.handlers s).handlers)) := by
  by_cases hadm : Admitted s switches
  · by_cases happ : Approves rio.handlers s.handlers
    · cases hrel : rio.released with
      | error e =>
          rw [applySwitches_of_stuck hadm happ hrel] at h
          cases h
      | ok u =>
          rw [applySwitches_of_released hadm happ hrel] at h ⊢
          by_cases hup : BringsUp rio.bind (baseInfo.getD s.baseInfo) (switches.getD s.switches)
          · obtain ⟨hs, hrun⟩ := bindOrRestore_of_bringsUp rio s
              (s := { prepared rio.handlers s with
                activeGadget := none
                baseInfo := baseInfo.getD s.baseInfo
                switches := switches.getD s.switches }) hup rfl
            rw [hrun]
            exact ⟨hadm, happ, rfl, rfl, rfl⟩
          · obtain ⟨e, hrun⟩ := bindOrRestore_of_fails rio s
              (s := { prepared rio.handlers s with
                activeGadget := none
                baseInfo := baseInfo.getD s.baseInfo
                switches := switches.getD s.switches }) hup
            rw [hrun] at h
            cases h
    · obtain ⟨hs, reason, hrun, -⟩ := applySwitches_of_rejected baseInfo hadm happ
      rw [hrun] at h
      cases h
  · obtain ⟨e, hrun⟩ := applySwitches_of_refused rio baseInfo hadm
    rw [hrun] at h
    cases h

/-! ## The exits of `set_emulation_enabled` -/

theorem enableEmulation_of_bound (h : s.activeGadget.isSome = true) :
    enableEmulation rio s = ({ s with emulationEnabled := true }, .ok ()) := by
  change (if s.activeGadget.isSome then _ else _ : Action UsbError UsbDeviceManager Unit) s = _
  rw [if_pos h]
  rfl

theorem enableEmulation_of_unbound (h : s.activeGadget = none) :
    enableEmulation rio s = (do
      requestChangeApproval rio.handlers
      bindGadgetFromCurrentSwitches rio.bind
      Action.modify fun s =>
        notifyAll rio.handlers .changeCompleted { s with emulationEnabled := true }) s := by
  change (if s.activeGadget.isSome then _ else _ : Action UsbError UsbDeviceManager Unit) s = _
  rw [if_neg (by simp [h])]

theorem enableEmulation_of_approval_error (h : s.activeGadget = none) {s' : UsbDeviceManager}
    {e : UsbError} (hrun : requestChangeApproval rio.handlers s = (s', .error e)) :
    enableEmulation rio s = (s', .error e) := by
  rw [enableEmulation_of_unbound h, bind_of_error hrun]

theorem enableEmulation_of_rejected (h : s.activeGadget = none)
    (hrej : ¬ Approves rio.handlers s.handlers) :
    ∃ hs reason, enableEmulation rio s =
        (notifyAll rio.handlers .changeCanceled { s with handlers := hs },
          .error (.changeRejected reason)) ∧
      hs.map (·.frame) = s.handlers.map (·.frame) := by
  obtain ⟨hs, reason, hrun, hframe⟩ := requestChangeApproval_of_rejected hrej
  exact ⟨hs, reason, enableEmulation_of_approval_error h hrun, hframe⟩

theorem enableEmulation_of_approved (h : s.activeGadget = none)
    (happ : Approves rio.handlers s.handlers) :
    enableEmulation rio s = (do
      bindGadgetFromCurrentSwitches rio.bind
      Action.modify fun s =>
        notifyAll rio.handlers .changeCompleted { s with emulationEnabled := true })
      (prepared rio.handlers s) := by
  rw [enableEmulation_of_unbound h, bind_of_ok (requestChangeApproval_of_approved happ)]

theorem disableEmulation_of_unbound (h : s.activeGadget = none) :
    disableEmulation rio s = ({ s with emulationEnabled := false }, .ok ()) := by
  change (if s.activeGadget = none then _ else _ : Action UsbError UsbDeviceManager Unit) s = _
  rw [if_pos h]
  rfl

theorem disableEmulation_of_bound (h : s.activeGadget ≠ none) :
    disableEmulation rio s = (do
      requestChangeApproval rio.handlers
      unbindActiveGadget rio.released
      Action.modify fun s =>
        notifyAll rio.handlers .changeCompleted { s with emulationEnabled := false }) s := by
  change (if s.activeGadget = none then _ else _ : Action UsbError UsbDeviceManager Unit) s = _
  rw [if_neg h]

theorem disableEmulation_of_approval_error (h : s.activeGadget ≠ none) {s' : UsbDeviceManager}
    {e : UsbError} (hrun : requestChangeApproval rio.handlers s = (s', .error e)) :
    disableEmulation rio s = (s', .error e) := by
  rw [disableEmulation_of_bound h, bind_of_error hrun]

theorem disableEmulation_of_rejected (h : s.activeGadget ≠ none)
    (hrej : ¬ Approves rio.handlers s.handlers) :
    ∃ hs reason, disableEmulation rio s =
        (notifyAll rio.handlers .changeCanceled { s with handlers := hs },
          .error (.changeRejected reason)) ∧
      hs.map (·.frame) = s.handlers.map (·.frame) := by
  obtain ⟨hs, reason, hrun, hframe⟩ := requestChangeApproval_of_rejected hrej
  exact ⟨hs, reason, disableEmulation_of_approval_error h hrun, hframe⟩

theorem disableEmulation_of_stuck (h : s.activeGadget ≠ none)
    (happ : Approves rio.handlers s.handlers) {e : UsbError} (hrel : rio.released = .error e) :
    disableEmulation rio s = ({ prepared rio.handlers s with activeGadget := none }, .error e) := by
  rw [disableEmulation_of_bound h, bind_of_ok (requestChangeApproval_of_approved happ),
    bind_of_error]
  rw [unbindActiveGadget, hrel]

theorem disableEmulation_of_released (h : s.activeGadget ≠ none)
    (happ : Approves rio.handlers s.handlers) (hrel : rio.released = .ok ()) :
    disableEmulation rio s =
      (notifyAll rio.handlers .changeCompleted { prepared rio.handlers s with
        activeGadget := none
        emulationEnabled := false }, .ok ()) := by
  rw [disableEmulation_of_bound h, bind_of_ok (requestChangeApproval_of_approved happ),
    bind_of_ok (a := ()) (t := { prepared rio.handlers s with activeGadget := none })
      (by rw [unbindActiveGadget, hrel])]
  rfl

/-! ## Virtual media -/

theorem switchMode_ok {u u' : UmsHandle} {mode : UmsMode} {rebuild : Bool}
    (h : u.switchMode mode = .ok (u', rebuild)) :
    u' = { u with mode := mode } ∧ u.enabled = true ∧ (rebuild = false → u' = u) := by
  unfold UmsHandle.switchMode at h
  split at h
  · cases h
  · next hon =>
      split at h
      · cases h
      · split at h
        · cases h
        · split at h
          · next hmode =>
              cases h
              rw [← hmode]
              exact ⟨rfl, by simpa using hon, fun _ => rfl⟩
          · cases h
            exact ⟨rfl, by simpa using hon, fun hf => by cases hf⟩

theorem umsMount_ok {io : LunIo} {u u' : UmsHandle} {path : String}
    (h : u.mount io path = .ok u') : u' = { u with filePath := u'.filePath } := by
  unfold UmsHandle.mount at h
  split at h
  · cases h
  · split at h
    · cases h
    · split at h
      · cases h
      · split at h
        · cases h
        · split at h
          · cases h
          · split at h
            · split at h
              · cases h
                rfl
              · cases h
            · cases hw : io.written with
              | error e =>
                  rw [hw] at h
                  cases h
              | ok _ =>
                  rw [hw] at h
                  cases h
                  rfl

theorem ums1Mount_ok {io : LunIo} {u u' : Ums1Handle} {path : String}
    (h : u.mount io path = .ok u') : u' = { u with filePath := u'.filePath } := by
  unfold Ums1Handle.mount at h
  split at h
  · cases h
  · split at h
    · cases h
    · split at h
      · cases h
      · split at h
        · cases h
        · split at h
          · cases h
          · split at h
            · cases h
            · cases hw : io.written with
              | error e =>
                  rw [hw] at h
                  cases h
              | ok _ =>
                  rw [hw] at h
                  cases h
                  rfl

theorem mem_of_vmHandle {hs : List ChangeHandler} {u : UmsHandle} (h : vmHandle hs = some u) :
    ∃ c ∈ hs, c.device = .ums u := by
  obtain ⟨c, hc, hu⟩ := List.exists_of_findSome?_eq_some h
  refine ⟨c, hc, ?_⟩
  cases hd : c.device with
  | ums u' =>
      rw [hd] at hu
      cases hu
      rfl
  | _ =>
      rw [hd] at hu
      cases hu

theorem mem_of_ftHandle {hs : List ChangeHandler} {u : Ums1Handle} (h : ftHandle hs = some u) :
    ∃ c ∈ hs, c.device = .ums1 u := by
  obtain ⟨c, hc, hu⟩ := List.exists_of_findSome?_eq_some h
  refine ⟨c, hc, ?_⟩
  cases hd : c.device with
  | ums1 u' =>
      rw [hd] at hu
      cases hu
      rfl
  | _ =>
      rw [hd] at hu
      cases hu

theorem mem_of_networkHandle {hs : List ChangeHandler} {u : NetworkAdapterHandle}
    (h : networkHandle hs = some u) : ∃ c ∈ hs, c.device = .networkAdapter u := by
  obtain ⟨c, hc, hu⟩ := List.exists_of_findSome?_eq_some h
  refine ⟨c, hc, ?_⟩
  cases hd : c.device with
  | networkAdapter u' =>
      rw [hd] at hu
      cases hu
      rfl
  | _ =>
      rw [hd] at hu
      cases hu

/-- The ways of a UMS command: a request that asks for no mode is answered, unmounts or
mounts the other LUN; one that does mounts or only switches the mode. -/
theorem handleUmsControl_cases (io : UmsIo) (req : UmsControlRequest) (s : UsbDeviceManager) :
    (req.requestedMode = none ∧
      ((handleUmsControl io req s).1 = s ∨
        (handleUmsControl io req s).1 = (umsVmUnmount io s).1 ∨
        (handleUmsControl io req s).1 = (umsFtUnmount io s).1 ∨
        (handleUmsControl io req s).1 = (umsFtMount io req.imagePath s).1)) ∨
    ∃ mode, req.requestedMode = some mode ∧
      (handleUmsControl io req s = umsVmMount io req.imagePath mode s ∨
        handleUmsControl io req s = umsVmSwitchMode io mode s) := by
  obtain ⟨operation, target, imagePath, vmType⟩ := req
  cases operation with
  | unspecified => exact Or.inl ⟨rfl, Or.inl rfl⟩
  | getMountState => exact Or.inl ⟨rfl, Or.inl (by cases target <;> rfl)⟩
  | unmount =>
      refine Or.inl ⟨rfl, ?_⟩
      cases target with
      | vm => exact Or.inr (Or.inl rfl)
      | ft => exact Or.inr (Or.inr (Or.inl rfl))
      | unspecified => exact Or.inl rfl
  | switchVmMode => exact Or.inr ⟨vmType.mode, rfl, Or.inr rfl⟩
  | mount =>
      by_cases hempty : imagePath = "" ∨ imagePath = "\n"
      · have hif : imagePath = "" ∨ imagePath = "\n" ∨ target ≠ .vm :=
          hempty.elim Or.inl fun hn => Or.inr (Or.inl hn)
        simp only [handleUmsControl, UmsControlRequest.requestedMode, if_pos hempty, if_pos hif]
        refine Or.inl ⟨trivial, ?_⟩
        cases target with
        | vm => exact Or.inr (Or.inl rfl)
        | ft => exact Or.inr (Or.inr (Or.inl rfl))
        | unspecified => exact Or.inl rfl
      · simp only [handleUmsControl, UmsControlRequest.requestedMode, if_neg hempty]
        cases target with
        | vm =>
            have hif : ¬ (imagePath = "" ∨ imagePath = "\n" ∨ UmsTarget.vm ≠ .vm) := by
              simpa using hempty
            rw [if_neg hif]
            exact Or.inr ⟨vmType.mode, rfl, Or.inl rfl⟩
        | ft => exact Or.inl ⟨by simp, Or.inr (Or.inr (Or.inr rfl))⟩
        | unspecified => exact Or.inl ⟨by simp, Or.inl rfl⟩

end UsbDeviceManager

end ArkKvm.GadgetChange
