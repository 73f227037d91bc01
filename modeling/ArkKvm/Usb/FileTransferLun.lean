import ArkKvm.Usb.MountCalls

/-!
# The file transfer LUN

What the calls on the USB devices do to the image at the file transfer LUN: none but a mount of
its own puts an image there.
-/

namespace ArkKvm.Media

open Lib
open Sidecar

def ftPath (m : UsbDeviceManager) : Option String := m.ft.bind (·.filePath)

/-- `ums_ft_unmount`. -/
def umsFtUnmount (io : Io) : Action String UsbDeviceManager Unit := fun s =>
  match s.ft.map (Ums1Handle.unmount io.ft) with
  | none => (s, .ok ())
  | some (.ok h) => ({ s with ft := some h }, .ok ())
  | some (.error e) => (s, .error e.text)

def umsFtMount (io : Io) (path : String) : Action String UsbDeviceManager Unit := fun s =>
  match s.ft.map (Ums1Handle.mount io.ft · path) with
  | none => (s, .error "file transfer controller not initialized")
  | some (.ok h) => ({ s with ft := some h }, .ok ())
  | some (.error e) => (s, .error e.text)

def NoNewImage (m m' : UsbDeviceManager) : Prop := ∀ p, ftPath m' = some p → ftPath m = some p

theorem NoNewImage.refl (m : UsbDeviceManager) : NoNewImage m m := fun _ h => h

theorem NoNewImage.trans (a b c : UsbDeviceManager) (h : NoNewImage a b) (h' : NoNewImage b c) :
    NoNewImage a c :=
  fun p hp => h p (h' p hp)

theorem noNewImage_of_ft {m m' : UsbDeviceManager} (h : m'.ft = m.ft) : NoNewImage m m' := by
  intro p hp
  unfold ftPath at hp ⊢
  rwa [h] at hp

/-! ## The LUN handle -/

theorem ftUnmount_ok {io : LunIo} {h h' : Ums1Handle} (hok : h.unmount io = .ok h') :
    h'.filePath = none := by
  unfold Ums1Handle.unmount at hok
  split at hok
  · cases hok
  · split at hok
    · cases hok
    · split at hok
      · cases hok
      · split at hok
        · cases hok
        · cases hw : io.written with
          | error e =>
              rw [hw] at hok
              cases hok
          | ok _ =>
              rw [hw] at hok
              cases hok
              rfl

theorem ftPrepareChange_ok {io : LunIo} {h h' : Ums1Handle} (hok : h.prepareChange io = .ok h') :
    h'.filePath = none ∨ h'.filePath = h.filePath := by
  unfold Ums1Handle.prepareChange at hok
  split at hok
  · next h₁ hun =>
      cases hok
      have hnone : h₁.filePath = none := ftUnmount_ok hun
      exact .inl hnone
  · cases hok
    exact .inr rfl
  · cases hok
    exact .inr rfl
  · cases hok

/-! ## The commands of the sidecar -/

theorem noNewImage_changeCompleted (m : UsbDeviceManager) : NoNewImage m m.changeCompleted := by
  intro p hp
  unfold ftPath UsbDeviceManager.changeCompleted at *
  cases hft : m.ft with
  | none =>
      rw [hft] at hp
      cases hp
  | some h =>
      rw [hft] at hp
      exact hp

theorem noNewImage_applyDeviceServices (m : UsbDeviceManager) :
    NoNewImage m m.applyDeviceServices := by
  intro p hp
  unfold ftPath UsbDeviceManager.applyDeviceServices at *
  cases hft : m.ft with
  | none =>
      rw [hft] at hp
      cases hp
  | some h =>
      rw [hft] at hp
      exact hp

section Commands

open UsbDeviceManager

variable {io : Io}

theorem noNewImage_prepareVm : Action.Keeps NoNewImage (prepareVm io) := by
  intro m
  apply noNewImage_of_ft
  unfold prepareVm
  split
  · rfl
  · rfl
  · rfl

theorem noNewImage_prepareFt : Action.Keeps NoNewImage (prepareFt io) := by
  intro m
  unfold prepareFt
  split
  · exact .refl m
  · next h' hprep =>
      obtain ⟨h, hft, hok⟩ := Option.map_eq_some_iff.mp hprep
      intro p hp
      change h'.filePath = some p at hp
      show m.ft.bind _ = _
      rw [hft]
      obtain hnone | hsame := ftPrepareChange_ok hok
      · rw [hnone] at hp
        cases hp
      · rw [hsame] at hp
        exact hp
  · exact .refl m

theorem noNewImage_prepareChange : Action.Keeps NoNewImage (prepareChange io) := by
  unfold prepareChange
  apply Action.Keeps.ite
  · exact .bind NoNewImage.trans noNewImage_prepareVm fun _ => noNewImage_prepareFt
  · exact .bind NoNewImage.trans noNewImage_prepareFt fun _ => noNewImage_prepareVm

theorem noNewImage_requestChangeApproval : Action.Keeps NoNewImage (requestChangeApproval io) := by
  intro m
  have hprep : NoNewImage m (prepareChange io m).1 := noNewImage_prepareChange m
  unfold requestChangeApproval
  rcases hrun : prepareChange io m with ⟨m', e | u⟩
  · rw [hrun] at hprep
    exact NoNewImage.trans _ _ _ hprep (noNewImage_changeCompleted m')
  · rw [hrun] at hprep
    exact hprep

theorem noNewImage_modify {f : UsbDeviceManager → UsbDeviceManager}
    (h : ∀ m, NoNewImage m (f m)) :
    Action.Keeps NoNewImage (Action.modify f : Action UsbError UsbDeviceManager Unit) := h

theorem noNewImage_ofExcept {ε α : Type} (r : Except ε α) :
    Action.Keeps NoNewImage (Action.ofExcept r) :=
  fun m => .refl m

theorem noNewImage_bindGadget (bound : Except UsbError Unit) :
    Action.Keeps NoNewImage (bindGadgetFromCurrentSwitches bound) := by
  unfold bindGadgetFromCurrentSwitches
  apply Action.Keeps.bind NoNewImage.trans (noNewImage_modify noNewImage_applyDeviceServices)
  intro _
  apply Action.Keeps.bind NoNewImage.trans (Action.Keeps.read NoNewImage.refl)
  intro m
  apply Action.Keeps.ite
  · exact .pure NoNewImage.refl ()
  · apply Action.Keeps.bind NoNewImage.trans (noNewImage_ofExcept bound)
    intro _
    exact noNewImage_modify fun _ => noNewImage_of_ft rfl

theorem noNewImage_bindOrRestore (old : UsbDeviceManager) :
    Action.Keeps NoNewImage (bindOrRestore io old) := by
  intro m
  have hbind := noNewImage_bindGadget io.bound m
  unfold bindOrRestore
  rcases hrun : bindGadgetFromCurrentSwitches io.bound m with ⟨m', e | u⟩
  · rw [hrun] at hbind
    apply NoNewImage.trans _ _ _ hbind
    refine NoNewImage.trans _ _ _ ?_ (noNewImage_changeCompleted _)
    exact noNewImage_bindGadget io.rebound { m' with
      baseInfo := old.baseInfo
      switches := old.switches }
  · rw [hrun] at hbind
    exact NoNewImage.trans _ _ _ hbind (noNewImage_changeCompleted m')

theorem noNewImage_applySwitches (baseInfo : Option UsbBaseInfo)
    (switches : Option DeviceSwitches) :
    Action.Keeps NoNewImage (applySwitches io baseInfo switches) := by
  unfold applySwitches rebuildGadget
  apply Action.Keeps.bind NoNewImage.trans (Action.Keeps.read NoNewImage.refl)
  intro _
  apply Action.Keeps.bind NoNewImage.trans (Action.Keeps.ensure NoNewImage.refl _ _)
  intro _
  apply Action.Keeps.bind NoNewImage.trans (noNewImage_ofExcept _)
  intro _
  apply Action.Keeps.bind NoNewImage.trans noNewImage_requestChangeApproval
  intro _
  refine Action.Keeps.bind NoNewImage.trans (noNewImage_modify ?_) ?_
  · exact fun _ => noNewImage_of_ft rfl
  intro _
  apply Action.Keeps.bind NoNewImage.trans (noNewImage_ofExcept _)
  intro _
  apply Action.Keeps.bind NoNewImage.trans (Action.Keeps.read NoNewImage.refl)
  intro old
  refine Action.Keeps.bind NoNewImage.trans (noNewImage_modify ?_) ?_
  · exact fun _ => noNewImage_of_ft rfl
  exact fun _ => noNewImage_bindOrRestore old

theorem noNewImage_umsVmUnmount : Action.Keeps NoNewImage (umsVmUnmount io) := by
  intro m
  apply noNewImage_of_ft
  unfold umsVmUnmount
  split
  · rfl
  · rfl
  · rfl

theorem noNewImage_umsVmSwitchMode (vmType : UmsVmType) :
    Action.Keeps NoNewImage (umsVmSwitchMode io vmType) := by
  intro m
  unfold umsVmSwitchMode
  split
  · exact .refl m
  · exact .refl m
  · exact noNewImage_of_ft rfl
  · next h _ =>
      have hset : NoNewImage m { m with vm := some h } := noNewImage_of_ft rfl
      exact NoNewImage.trans _ _ _ hset (noNewImage_applySwitches none none _)

theorem noNewImage_mountVm (path : String) : Action.Keeps NoNewImage (mountVm io path) := by
  intro m
  apply noNewImage_of_ft
  unfold mountVm
  split
  · rfl
  · rfl
  · rfl

theorem noNewImage_umsVmMount (path : String) (vmType : UmsVmType) :
    Action.Keeps NoNewImage (umsVmMount io path vmType) := by
  unfold umsVmMount
  apply Action.Keeps.ite
  · exact noNewImage_umsVmUnmount
  · exact .bind NoNewImage.trans (noNewImage_umsVmSwitchMode vmType) fun _ => noNewImage_mountVm path

theorem noNewImage_applyVmMount (info : UsbDeviceInfo) (enabled : Bool) :
    Action.Keeps NoNewImage (applyVmMount io info enabled) := by
  intro m
  unfold applyVmMount
  split
  · exact .refl m
  · split
    · exact noNewImage_umsVmUnmount m
    · split
      · exact .refl m
      · split
        · exact noNewImage_mountVm _ m
        · next h' _ =>
            have hset : NoNewImage m { m with vm := some h' } := noNewImage_of_ft rfl
            exact NoNewImage.trans _ _ _ hset (noNewImage_mountVm _ _)
        · next h' _ =>
            have happly : NoNewImage { m with vm := some h' }
                (applySwitches io none none { m with vm := some h' }).1 :=
              noNewImage_applySwitches none none _
            rcases hrun : applySwitches io none none { m with vm := some h' } with ⟨m', e | u⟩
            · rw [hrun] at happly
              exact happly
            · rw [hrun] at happly
              exact NoNewImage.trans _ _ _ happly (noNewImage_mountVm _ m')

theorem noNewImage_applyFtMount {info : UsbDeviceInfo} (hinfo : info.umsFtPath = "")
    (enabled : Bool) (m : UsbDeviceManager) : NoNewImage m (applyFtMount io info enabled m) := by
  unfold applyFtMount
  rw [if_pos hinfo]
  cases enabled with
  | true => exact .refl m
  | false =>
      rw [if_pos nofun]
      cases hft : m.ft with
      | none => exact .refl m
      | some h =>
          rw [Option.map_some]
          cases hun : h.unmount io.ft with
          | error e => exact .refl m
          | ok h' =>
              intro p hp
              change h'.filePath = some p at hp
              rw [ftUnmount_ok hun] at hp
              cases hp

theorem noNewImage_applyUmsMounts {info : UsbDeviceInfo} (hinfo : info.umsFtPath = "") :
    Action.Keeps NoNewImage (applyUmsMounts io info) := by
  unfold applyUmsMounts
  apply Action.Keeps.bind NoNewImage.trans (Action.Keeps.read NoNewImage.refl)
  intro m
  apply Action.Keeps.bind NoNewImage.trans (noNewImage_ofExcept _)
  intro _
  cases info.switches with
  | none => exact .pure NoNewImage.refl ()
  | some sw =>
      apply Action.Keeps.bind NoNewImage.trans (noNewImage_applyVmMount info _)
      exact fun _ => noNewImage_modify (noNewImage_applyFtMount hinfo _)

theorem noNewImage_applyRuntimeUsbInfo (usbConfig : UsbConfig) {info : UsbDeviceInfo}
    (hinfo : info.umsFtPath = "") :
    Action.Keeps NoNewImage (applyRuntimeUsbInfo io usbConfig info) := by
  unfold applyRuntimeUsbInfo
  apply Action.Keeps.bind NoNewImage.trans (Action.Keeps.read NoNewImage.refl)
  intro m
  apply Action.Keeps.bind NoNewImage.trans (noNewImage_ofExcept _)
  intro baseInfo
  unfold applyFullConfig
  cases info.switches with
  | none => exact fun m => .refl m
  | some switches =>
      have hremember : ∀ m : UsbDeviceManager, NoNewImage m { m with lastUsbInfo := some info } :=
        fun _ => noNewImage_of_ft rfl
      apply Action.Keeps.bind NoNewImage.trans (Action.Keeps.read NoNewImage.refl)
      intro m
      apply Action.Keeps.ite
      · exact .bind NoNewImage.trans (noNewImage_ofExcept _) fun _ => noNewImage_modify hremember
      · apply Action.Keeps.bind NoNewImage.trans (noNewImage_applySwitches _ _)
        intro _
        exact .bind NoNewImage.trans (noNewImage_applyUmsMounts hinfo) fun _ =>
          noNewImage_modify hremember

end Commands

/-! ## The calls of the application -/

def FtUntouched (w w' : World) : Prop :=
  w.usbInfo.umsFtPath = "" → w'.usbInfo.umsFtPath = "" ∧ NoNewImage w.manager w'.manager

theorem FtUntouched.refl (w : World) : FtUntouched w w := fun h => ⟨h, .refl _⟩

theorem FtUntouched.trans (a b c : World) (h : FtUntouched a b) (h' : FtUntouched b c) :
    FtUntouched a c := by
  intro hinfo
  obtain ⟨hinfo', himage⟩ := h hinfo
  obtain ⟨hinfo'', himage'⟩ := h' hinfo'
  exact ⟨hinfo'', .trans _ _ _ himage himage'⟩

theorem ftUntouched_of_same {w w' : World} (hinfo : w'.usbInfo = w.usbInfo)
    (hmanager : w'.manager = w.manager) : FtUntouched w w' := by
  intro h
  rw [hinfo, hmanager]
  exact ⟨h, .refl _⟩

section Calls

variable {io : CallIo}

theorem ftUntouched_umsControl {x : Action String UsbDeviceManager Unit}
    (hx : Action.Keeps NoNewImage x) : Action.Keeps FtUntouched (umsControl x) :=
  fun w h => ⟨h, hx w.manager⟩

theorem ftUntouched_ofExcept {α : Type} (r : Except String α) :
    Action.Keeps FtUntouched (Action.ofExcept r) :=
  fun w => .refl w

theorem ftUntouched_setMassStorageMode (mode : VirtualMediaMode) :
    Action.Keeps FtUntouched (setMassStorageMode io mode) :=
  ftUntouched_umsControl (noNewImage_umsVmSwitchMode _)

theorem ftUntouched_setMassStorageImage (path : String) :
    Action.Keeps FtUntouched (setMassStorageImage io path) := by
  unfold setMassStorageImage
  apply Action.Keeps.bind FtUntouched.trans (Action.Keeps.read FtUntouched.refl)
  intro w
  apply Action.Keeps.ite
  · exact ftUntouched_umsControl noNewImage_umsVmUnmount
  · exact ftUntouched_umsControl (noNewImage_umsVmMount _ _)

theorem ftUntouched_modify {f : World → World} (hinfo : ∀ w, (f w).usbInfo = w.usbInfo)
    (hmanager : ∀ w, (f w).manager = w.manager) :
    Action.Keeps FtUntouched (Action.modify f : Action String World Unit) :=
  fun w => ftUntouched_of_same (hinfo w) (hmanager w)

theorem ftUntouched_serveImage : Action.Keeps FtUntouched (serveImage io) := by
  unfold serveImage
  apply Action.Keeps.bind FtUntouched.trans (ftUntouched_ofExcept _)
  intro _
  apply Action.Keeps.bind FtUntouched.trans (ftUntouched_ofExcept _)
  intro _
  exact (ftUntouched_setMassStorageImage _).mapErr _

theorem ftUntouched_remoteMount {α : Type} {prepare : Action String World α}
    (hprepare : Action.Keeps FtUntouched prepare) (st : α → VirtualMediaState)
    (reader : α → RemoteReader) : Action.Keeps FtUntouched (remoteMount io prepare st reader) := by
  unfold remoteMount
  apply Action.Keeps.bind FtUntouched.trans hprepare
  intro a
  apply Action.Keeps.bind FtUntouched.trans (Action.Keeps.read FtUntouched.refl)
  intro w
  apply Action.Keeps.bind FtUntouched.trans (Action.Keeps.ensure FtUntouched.refl _ _)
  intro _
  refine Action.Keeps.bind FtUntouched.trans (ftUntouched_modify ?_ ?_) fun _ =>
    ftUntouched_serveImage
  · exact fun _ => rfl
  · exact fun _ => rfl

theorem ftUntouched_prepareHttp (mode : VirtualMediaMode) (size : Except String Int) :
    Action.Keeps FtUntouched (prepareHttp io mode size) := by
  unfold prepareHttp
  apply Action.Keeps.bind FtUntouched.trans (ftUntouched_ofExcept _)
  intro _
  apply Action.Keeps.bind FtUntouched.trans (ftUntouched_setMassStorageMode mode)
  exact fun _ => ftUntouched_ofExcept _

theorem ftUntouched_mountWithStorage (filename : String) (mode : VirtualMediaMode)
    (size : Option Int) : Action.Keeps FtUntouched (mountWithStorage io filename mode size) := by
  unfold mountWithStorage
  apply Action.Keeps.bind FtUntouched.trans (ftUntouched_ofExcept _)
  intro filename
  apply Action.Keeps.bind FtUntouched.trans (ftUntouched_ofExcept _)
  intro _
  apply Action.Keeps.bind FtUntouched.trans (ftUntouched_ofExcept _)
  intro size
  apply Action.Keeps.bind FtUntouched.trans ((ftUntouched_setMassStorageMode mode).mapErr _)
  intro _
  apply Action.Keeps.bind FtUntouched.trans ((ftUntouched_setMassStorageImage _).mapErr _)
  intro _
  apply ftUntouched_modify
  · exact fun _ => rfl
  · exact fun _ => rfl

theorem ftUntouched_mountCall (call : MountCall) : Action.Keeps FtUntouched call.run := by
  cases call with
  | http io url mode size =>
      show Action.Keeps FtUntouched (mountWithHttp io url mode size)
      rw [mountWithHttp_eq]
      exact ftUntouched_remoteMount (ftUntouched_prepareHttp mode size) _ _
  | webrtc io filename size mode =>
      show Action.Keeps FtUntouched (mountWithWebrtc io filename size mode)
      rw [mountWithWebrtc_eq]
      exact ftUntouched_remoteMount ((ftUntouched_setMassStorageMode mode).mapErr _) _ _
  | storage io filename mode size => exact ftUntouched_mountWithStorage filename mode size
  | unmount io => exact ftUntouched_umsControl noNewImage_umsVmUnmount

theorem ftUntouched_reconcileAttempts (usbConfig : UsbConfig) {info : UsbDeviceInfo}
    (hinfo : info.umsFtPath = "") (n : Nat) :
    Action.Keeps FtUntouched (reconcileAttempts io usbConfig info n) := by
  induction n with
  | zero => exact FtUntouched.refl
  | succ n ih =>
      intro w
      have happly : NoNewImage w.manager
          (UsbDeviceManager.applyRuntimeUsbInfo io.sidecar usbConfig info w.manager).1 :=
        noNewImage_applyRuntimeUsbInfo usbConfig hinfo w.manager
      unfold reconcileAttempts applyRuntimeConfig
      rcases hrun : UsbDeviceManager.applyRuntimeUsbInfo io.sidecar usbConfig info w.manager with
        ⟨m, e | u⟩
      · rw [hrun] at happly
        have hfirst : FtUntouched w { w with manager := m } := fun h => ⟨h, happly⟩
        dsimp only
        split
        · exact FtUntouched.trans _ _ _ hfirst (ih _)
        · exact hfirst
      · rw [hrun] at happly
        exact fun _ => ⟨hinfo, happly⟩

/-- The cache never holds an image for the LUN, so that a reconciliation mounts none. -/
theorem ftUntouched_reconcileUsbRuntime (usbConfig : UsbConfig) (devices : UsbDevices) :
    Action.Keeps FtUntouched (reconcileUsbRuntime io usbConfig devices) := by
  intro w h
  have hpath : (usbInfoForReconcile w.usbInfo devices).umsFtPath = "" := h
  exact ftUntouched_reconcileAttempts usbConfig hpath 5 w h

end Calls

end ArkKvm.Media
