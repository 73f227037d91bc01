import ArkKvm.Remote.ImageOwner

/-!
# One owner of the image

The image is never mounted on the KVM and exported to the host at once in runs whose questions
about the mount state are answered when it matters, whatever else fails.
-/

namespace ArkKvm.FsRemote

open Lib

structure DiskInv (d : World) : Prop where
  unmounted : d.fs.isMounted = false → d.kernel.mounts = []
  one : d.kernel.mounts.length ≤ 1

def Clear (d : World) : Prop := d.fs.isMounted = false ∧ d.kernel.mounts = []

theorem Clear.diskInv {d : World} (h : Clear d) : DiskInv d := by
  refine ⟨fun _ => h.2, ?_⟩
  rw [h.2]
  exact Nat.zero_le 1

theorem DiskInv.clear {d : World} (h : DiskInv d) (hflag : d.fs.isMounted = false) : Clear d :=
  ⟨hflag, h.unmounted hflag⟩

theorem command_impossible {possible : Kernel → Bool} {effect : Kernel → Kernel}
    {spawnError exitError : String} {d : World} (h : ¬ possible d.kernel = true) :
    command .success possible effect spawnError exitError d = (d, .error exitError) := by
  show (if possible d.kernel then _ else _) = _
  rw [if_neg h]

/-! ## A mount -/

theorem clear_isMountPointInUse {o : Exit} {d : World} (h : Clear d) :
    Action.wp (isMountPointInUse o) (fun _ d' => Clear d') d := by
  cases o with
  | notRun e => exact h
  | failed stderr => exact h
  | success => exact h

theorem clear_setupLoopDevice {m : MountIo} {d : World} (h : Clear d) :
    Action.wp (setupLoopDevice m) (fun _ d' => Clear d') d := by
  unfold setupLoopDevice
  apply Action.wp_ofExcept_bind
  · intro dev _
    apply Action.wp_bind (Q := fun _ d' => Clear d')
    · unfold associate command
      cases m.attach with
      | notRun e => exact h
      | failed stderr => exact h
      | success =>
          show Clear (if _ then _ else _ : World × Except String Unit).1
          split
          · exact h
          · exact h
    · exact fun _ _ h' => h'
    · exact fun _ _ h' => h'
  · exact fun _ _ => h

/-- A mount leaves the image mounted, and when it fails the image is not mounted. -/
def MountEnds (r : Except String Unit) (d : World) : Prop :=
  match r with
  | .ok _ => d.fs.isMounted = true ∧ d.kernel.mounts.length = 1
  | .error _ => Clear d

theorem mount_of_clear (m : MountIo) {d : World} (h : Clear d) :
    (∃ d', mount m d = (d', .ok ()) ∧ d'.fs.isMounted = true ∧ d'.kernel.mounts.length = 1) ∨
      ∃ d' e, mount m d = (d', .error e) ∧ Clear d' := by
  have hwp : Action.wp (mountImage m d.fs) MountEnds d := by
    unfold mountImage
    apply Action.wp_ensure_bind _ fun _ => h
    intro _
    apply Action.wp_ensure_bind _ fun _ => h
    intro _
    apply Action.wp_bind (clear_isMountPointInUse h) _ fun _ _ h' => h'
    intro inUse d₁ h₁
    apply Action.wp_ensure_bind _ fun _ => h₁
    intro _
    apply Action.wp_bind (clear_setupLoopDevice h₁) _ fun _ _ h' => h'
    intro dev d₂ h₂
    have h₃ : Clear (setLoopDevice (some dev) d₂) := h₂
    apply Action.wp_of_run_ok (show Action.modify (setLoopDevice (some dev)) d₂ = (_, .ok ()) from rfl)
    unfold mountLoopDevice
    cases hexit : m.mount with
    | notRun e => exact h₃
    | failed stderr => exact h₃
    | success =>
        by_cases hloop : (setLoopDevice (some dev) d₂).kernel.loops.contains dev = true
        · apply Action.wp_of_run_ok (command_success hloop)
          refine ⟨rfl, ?_⟩
          show (dev :: d₂.kernel.mounts).length = 1
          rw [h₂.2]
          rfl
        · exact Action.wp_of_run_error (command_impossible hloop) h₃
  have hrun : mount m d = mountImage m d.fs d := by
    unfold mount
    rw [Action.bind_of_ok (show Action.read d = (d, .ok d) from rfl), h.1]
    rfl
  rw [hrun]
  unfold Action.wp at hwp
  rcases hend : mountImage m d.fs d with ⟨d', e | u⟩
  · rw [hend] at hwp
    exact .inr ⟨d', e, rfl, hwp⟩
  · rw [hend] at hwp
    exact .inl ⟨d', rfl, hwp⟩

theorem mount_of_mounted (m : MountIo) {d : World} (h : d.fs.isMounted = true) :
    mount m d = (d, .ok ()) := by
  unfold mount
  rw [Action.bind_of_ok (show Action.read d = (d, .ok d) from rfl), h]
  rfl

theorem mount_diskInv (m : MountIo) {d : World} (h : DiskInv d) : DiskInv (mount m d).1 := by
  cases hflag : d.fs.isMounted with
  | true =>
      rw [mount_of_mounted m hflag]
      exact h
  | false =>
      obtain ⟨d', hrun, hflag', hone⟩ | ⟨d', e, hrun, hclear⟩ := mount_of_clear m (h.clear hflag)
      · rw [hrun]
        refine ⟨fun hnot => ?_, Nat.le_of_eq hone⟩
        rw [hflag'] at hnot
        cases hnot
      · rw [hrun]
        exact hclear.diskInv

/-! ## An unmount, a repair and a format -/

def UnmountEnds (r : Except String Unit) (d : World) : Prop :=
  match r with
  | .ok _ => Clear d
  | .error _ => d.fs.isMounted = true ∧ DiskInv d

theorem unmount_of_mounted (u : UnmountIo) {d : World} (hd : DiskInv d)
    (h : d.fs.isMounted = true) :
    (∃ d', unmount u d = (d', .ok ()) ∧ Clear d') ∨
      ∃ d' e, unmount u d = (d', .error e) ∧ d'.fs.isMounted = true ∧ DiskInv d' := by
  have hstays : ∀ d' : World, d'.fs = d.fs → d'.kernel.mounts.length ≤ 1 →
      d'.fs.isMounted = true ∧ DiskInv d' := by
    intro d' hfs hone
    have hflag : d'.fs.isMounted = true := by rw [hfs, h]
    refine ⟨hflag, fun hnot => ?_, hone⟩
    rw [hflag] at hnot
    cases hnot
  have hwp : Action.wp (unmountImage u d.fs) UnmountEnds d := by
    unfold unmountImage
    apply Action.wp_bind (Q := fun r d' => d'.fs = d.fs ∧ d'.kernel.mounts.length ≤ 1 ∧
      (r = .ok () → d'.kernel.mounts = []))
    · show _ ∧ _ ∧ _
      unfold Action.mapErr unmountFilesystem command
      cases u.umount with
      | notRun e => exact ⟨rfl, hd.one, nofun⟩
      | failed stderr => exact ⟨rfl, hd.one, nofun⟩
      | success =>
          dsimp only
          split
          · have hnil : d.kernel.mounts.tail = [] := by
              apply List.eq_nil_of_length_eq_zero
              have hone := hd.one
              rw [List.length_tail]
              omega
            refine ⟨rfl, ?_, fun _ => hnil⟩
            show d.kernel.mounts.tail.length ≤ 1
            rw [hnil]
            exact Nat.zero_le 1
          · exact ⟨rfl, hd.one, nofun⟩
    · rintro _ d₁ ⟨hfs, hone, hnil⟩
      have hmounts : d₁.kernel.mounts = [] := hnil rfl
      apply Action.wp_bind (Q := fun _ d' => d'.fs = d₁.fs ∧ d'.kernel.mounts = [])
      · unfold Action.wp cleanupRecorded
        cases d.fs.loopDevice with
        | none => exact ⟨rfl, hmounts⟩
        | some dev =>
            unfold Action.mapErr cleanupLoopDevice command
            cases u.detach with
            | notRun e => exact ⟨rfl, hmounts⟩
            | failed stderr => exact ⟨rfl, hmounts⟩
            | success =>
                dsimp only
                split
                · exact ⟨rfl, hmounts⟩
                · exact ⟨rfl, hmounts⟩
      · rintro _ d₂ ⟨-, hmounts₂⟩
        exact ⟨rfl, hmounts₂⟩
      · rintro e d₂ ⟨hfs₂, hmounts₂⟩
        apply hstays d₂ (hfs₂.trans hfs)
        rw [hmounts₂]
        exact Nat.zero_le 1
    · rintro e d₁ ⟨hfs, hone, -⟩
      exact hstays d₁ hfs hone
  have hrun : unmount u d = unmountImage u d.fs d := by
    unfold unmount
    rw [Action.bind_of_ok (show Action.read d = (d, .ok d) from rfl), h]
    rfl
  rw [hrun]
  unfold Action.wp at hwp
  rcases hend : unmountImage u d.fs d with ⟨d', e | v⟩
  · rw [hend] at hwp
    exact .inr ⟨d', e, rfl, hwp⟩
  · rw [hend] at hwp
    exact .inl ⟨d', rfl, hwp⟩

/-- Work on the image between an unmount and a mount, of an image that was mounted. -/
def remount (u : UnmountIo) (work : Except String Unit) (m : MountIo) : Op Unit := do
  let d ← Action.read
  if d.fs.isMounted then unmount u else pure ()
  Action.ofExcept work
  if d.fs.isMounted then mount m else pure ()

theorem repairFilesystem_eq (u : UnmountIo) (fsckVfat dosfsck : Exit) (m : MountIo) :
    repairFilesystem u fsckVfat dosfsck m =
      remount u (withCommands "repair" [("fsck.vfat", fsckVfat), ("dosfsck", dosfsck)]) m := rfl

theorem formatFilesystem_eq (u : UnmountIo) (imageExists : Bool) (mkfsVfat mkdosfs : Exit)
    (m : MountIo) (d : World) :
    formatFilesystem u imageExists mkfsVfat mkdosfs m d =
      remount u (if imageExists then
        withCommands "format" [("mkfs.vfat", mkfsVfat), ("mkdosfs", mkdosfs)]
      else .error ("Image file does not exist: " ++ d.fs.imagePath.quote)) m d := by
  unfold formatFilesystem remount
  rw [Action.bind_of_ok (show Action.read d = (d, .ok d) from rfl),
    Action.bind_of_ok (show Action.read d = (d, .ok d) from rfl)]
  cases imageExists with
  | true => rfl
  | false => rfl

theorem remount_diskInv (u : UnmountIo) (work : Except String Unit) (m : MountIo) {d : World}
    (h : DiskInv d) :
    DiskInv (remount u work m d).1 ∧
      (d.fs.isMounted = false → (remount u work m d).1 = d) := by
  unfold remount
  rw [Action.bind_of_ok (show Action.read d = (d, .ok d) from rfl)]
  cases hflag : d.fs.isMounted with
  | false =>
      rw [if_neg nofun]
      cases work with
      | error e => exact ⟨h, fun _ => rfl⟩
      | ok v => exact ⟨h, fun _ => rfl⟩
  | true =>
      refine ⟨?_, nofun⟩
      rw [if_pos rfl]
      obtain ⟨d', hrun, hclear⟩ | ⟨d', e, hrun, -, hinv⟩ := unmount_of_mounted u h hflag
      · rw [Action.bind_of_ok hrun]
        cases work with
        | error e => exact hclear.diskInv
        | ok v => exact mount_diskInv m hclear.diskInv
      · rw [Action.bind_of_error hrun]
        exact hinv

end ArkKvm.FsRemote

namespace ArkKvm.FtImage

open Lib
open Sidecar
open FsRemote (DiskInv Clear)

/-- What every call keeps: while the record says mounted the image is not exported, and the
cached USB payload would export nothing. -/
structure OwnerInv (w : World) : Prop where
  disk : DiskInv w.disk
  cache : w.media.usbInfo.umsFtPath = ""
  apart : w.disk.fs.isMounted = true → ¬ Exported w

theorem OwnerInv.oneOwner {w : World} (h : OwnerInv w) : OneOwner w := by
  refine ⟨fun hboth => ?_, fun hflag hmounted => hmounted (h.disk.unmounted hflag)⟩
  cases hflag : w.disk.fs.isMounted with
  | true => exact h.apart hflag hboth.2
  | false => exact hboth.1 (h.disk.unmounted hflag)

section Parts

variable {w : World}

theorem OwnerInv.withMedia (h : OwnerInv w) {media : Media.World}
    (hmedia : Media.FtUntouched w.media media) : OwnerInv { w with media := media } := by
  obtain ⟨hcache, himage⟩ := hmedia h.cache
  exact ⟨h.disk, hcache, fun hflag hexp => h.apart hflag (himage _ hexp)⟩

theorem OwnerInv.withDisk (h : OwnerInv w) {disk : FsRemote.World} (hdisk : DiskInv disk)
    (hapart : disk.fs.isMounted = true → ¬ Exported w) : OwnerInv { w with disk := disk } :=
  ⟨hdisk, h.cache, hapart⟩

theorem bind_inv {x : Op} {f : Unit → Op} (hx : OwnerInv (x w).1)
    (hf : (x w).2 = .ok () → OwnerInv (f () (x w).1).1) : OwnerInv ((x >>= f) w).1 := by
  rcases hrun : x w with ⟨w', e | u⟩
  · rw [Action.bind_of_error hrun]
    rwa [hrun] at hx
  · rw [Action.bind_of_ok hrun]
    rw [hrun] at hf
    exact hf rfl

theorem onDisk_run {x : FsRemote.Op Unit} {disk : FsRemote.World} {r : Except String Unit}
    (h : x w.disk = (disk, r)) : onDisk x w = ({ w with disk := disk }, r) := by
  unfold onDisk
  rw [h]

theorem ensure_run {p : Prop} [Decidable p] {e : String} (w : World) :
    ((Action.ensure p e : Op) w).1 = w := by
  unfold Action.ensure
  split
  · rfl
  · rfl

theorem setFtMountTarget_run (io : CallIo) (w : World) : (setFtMountTarget io w).1 = w :=
  ensure_run w

theorem bind_setFtMountTarget (x : Op) (io : CallIo) (w : World) :
    ((x >>= fun _ => setFtMountTarget io) w).1 = (x w).1 := by
  rcases hrun : x w with ⟨w', e | u⟩
  · rw [Action.bind_of_error hrun]
  · rw [Action.bind_of_ok hrun, setFtMountTarget_run]

theorem unexport_spec (io : CallIo) (w : World) :
    (∃ media, unexport io w = ({ w with media := media }, .ok ()) ∧
      Media.FtUntouched w.media media ∧ ¬ Exported { w with media := media }) ∨
      ∃ media e, unexport io w = ({ w with media := media }, .error e) ∧
        Media.FtUntouched w.media media := by
  unfold unexport onMedia Media.umsControl Media.umsFtUnmount
  cases hft : w.media.manager.ft with
  | none =>
      refine .inl ⟨w.media, rfl, .refl _, fun hexp => ?_⟩
      unfold Exported Media.ftPath at hexp
      rw [hft] at hexp
      cases hexp
  | some h =>
      rw [Option.map_some]
      cases hun : h.unmount io.sidecar.ft with
      | error e => exact .inr ⟨w.media, _, rfl, .refl _⟩
      | ok h' =>
          have hnone : h'.filePath = none := Media.ftUnmount_ok hun
          have hgone : ∀ p, h'.filePath ≠ some p := fun p hp => by
            rw [hnone] at hp
            cases hp
          exact .inl ⟨{ w.media with manager := { w.media.manager with ft := some h' } }, rfl,
            fun hcache => ⟨hcache, fun p hp => absurd hp (hgone p)⟩, fun hexp => hgone _ hexp⟩

theorem unloadWithFileImg_spec (io : CallIo) (h : OwnerInv w) (hflag : w.disk.fs.isMounted = true) :
    (∃ disk, unloadWithFileImg io w = ({ w with disk := disk }, .ok ()) ∧ Clear disk) ∨
      ∃ disk e, unloadWithFileImg io w = ({ w with disk := disk }, .error e) ∧ DiskInv disk := by
  obtain ⟨disk, hrun, hclear⟩ | ⟨disk, e, hrun, -, hdisk⟩ :=
    FsRemote.unmount_of_mounted io.unmount h.disk hflag
  · exact .inl ⟨disk, Action.mapErr_of_ok (onDisk_run hrun), hclear⟩
  · exact .inr ⟨disk, _, Action.mapErr_of_error (onDisk_run hrun), hdisk⟩

theorem mountOnKvm_run (io : CallIo) (w : World) :
    (mountOnKvm io w).1 = { w with disk := (FsRemote.mount io.mount w.disk).1 } := by
  unfold mountOnKvm
  rw [bind_setFtMountTarget]
  rfl

theorem mountOnKvm_inv (io : CallIo) (h : OwnerInv w) (hexp : ¬ Exported w) :
    OwnerInv (mountOnKvm io w).1 := by
  rw [mountOnKvm_run]
  exact h.withDisk (FsRemote.mount_diskInv io.mount h.disk) fun _ => hexp

theorem exportImage_inv (io : CallIo) (h : OwnerInv w) (hflag : w.disk.fs.isMounted = false) :
    OwnerInv (exportImage io w).1 := by
  have hdone : ∀ media : Media.World, media.usbInfo = w.media.usbInfo →
      OwnerInv { w with media := media } := by
    intro media hcache
    refine ⟨h.disk, ?_, fun hmounted => ?_⟩
    · show media.usbInfo.umsFtPath = ""
      rw [hcache]
      exact h.cache
    · rw [hflag] at hmounted
      cases hmounted
  unfold exportImage
  apply bind_inv
  · rw [ensure_run]
    exact h
  intro _
  rw [ensure_run]
  apply bind_inv
  · rw [ensure_run]
    exact h
  intro _
  rw [ensure_run, bind_setFtMountTarget]
  exact hdone _ rfl

theorem getFileTransferState_kvm {answered : Bool} (h : getFileTransferState answered w = .kvm) :
    w.disk.fs.isMounted = true := by
  unfold getFileTransferState at h
  split at h
  · next hflag => exact hflag
  · split at h
    · cases h
    · cases h

theorem getFileTransferState_remoteUsb {answered : Bool}
    (h : getFileTransferState answered w = .remoteUsb) :
    w.disk.fs.isMounted = false ∧ answered = true ∧ Exported w := by
  unfold getFileTransferState at h
  split at h
  · cases h
  · next hflag =>
      split at h
      · next hask => exact ⟨Bool.eq_false_iff.mpr hflag, hask⟩
      · cases h

theorem getFileTransferState_none {answered : Bool}
    (h : getFileTransferState answered w = .none) :
    w.disk.fs.isMounted = false ∧ (answered = true → ¬ Exported w) := by
  unfold getFileTransferState at h
  split at h
  · cases h
  · next hflag =>
      split at h
      · cases h
      · next hask =>
          exact ⟨Bool.eq_false_iff.mpr hflag, fun hanswered hexp => hask ⟨hanswered, hexp⟩⟩

theorem unmountFileImg_inv (io : CallIo) (answered : Bool) (h : OwnerInv w) :
    OwnerInv (unmountFileImg io answered w).1 := by
  unfold unmountFileImg
  rw [Action.bind_of_ok (show Action.read w = (w, .ok w) from rfl)]
  cases hstate : getFileTransferState answered w with
  | none => exact h
  | kvm =>
      have hflag := getFileTransferState_kvm hstate
      dsimp only
      rw [bind_setFtMountTarget]
      obtain ⟨disk, hrun, hclear⟩ | ⟨disk, e, hrun, hdisk⟩ := unloadWithFileImg_spec io h hflag
      · rw [hrun]
        refine h.withDisk hclear.diskInv fun hmounted => ?_
        rw [hclear.1] at hmounted
        cases hmounted
      · rw [hrun]
        exact h.withDisk hdisk fun _ => h.apart hflag
  | remoteUsb =>
      dsimp only
      rw [bind_setFtMountTarget]
      obtain ⟨media, hrun, hmedia, -⟩ | ⟨media, e, hrun, hmedia⟩ := unexport_spec io w
      · rw [hrun]
        exact h.withMedia hmedia
      · rw [hrun]
        exact h.withMedia hmedia

theorem mountWithFileImg_inv (io : CallIo) (h : OwnerInv w) :
    OwnerInv (mountWithFileImg io w).1 := by
  unfold mountWithFileImg
  rw [Action.bind_of_ok (show Action.read w = (w, .ok w) from rfl)]
  cases hstate : getFileTransferState io.first w with
  | none => exact exportImage_inv io h (getFileTransferState_none hstate).1
  | remoteUsb => exact h
  | kvm =>
      have hflag := getFileTransferState_kvm hstate
      obtain ⟨disk, hrun, hclear⟩ | ⟨disk, e, hrun, hdisk⟩ := unloadWithFileImg_spec io h hflag
      · have hfree : OwnerInv { w with disk := disk } := by
          refine h.withDisk hclear.diskInv fun hmounted => ?_
          rw [hclear.1] at hmounted
          cases hmounted
        dsimp only
        rw [Action.bind_of_ok hrun]
        exact exportImage_inv io hfree hclear.1
      · dsimp only
        rw [Action.bind_of_error hrun]
        exact h.withDisk hdisk fun _ => h.apart hflag

theorem reboot_inv (mio : Media.CallIo) (change : Option (UsbConfig × UsbDevices))
    (h : OwnerInv w) : OwnerInv (reboot mio change w).1 := by
  cases change with
  | none => exact h
  | some change => exact h.withMedia (Media.ftUntouched_reconcileUsbRuntime _ _ w.media)

theorem setFileTransfer_inv (io : CallIo) (mio : Media.CallIo) (enabled : Bool)
    (change : Option (UsbConfig × UsbDevices)) (h : OwnerInv w) :
    OwnerInv (setFileTransfer io mio enabled change w).1 := by
  unfold setFileTransfer
  rw [Action.bind_of_ok (show Action.read w = (w, .ok w) from rfl)]
  split
  · exact bind_inv (unmountFileImg_inv io io.second h) fun _ =>
      reboot_inv mio change (unmountFileImg_inv io io.second h)
  · exact reboot_inv mio change h

/-! ## The load -/

theorem load_of_blind {io : CallIo} (h : OwnerInv w) (hexp : Exported w)
    (hblind : ¬ (io.first = true ∧ io.second = true)) :
    (loadWithFileImg io w).1 = { w with disk := (FsRemote.mount io.mount w.disk).1 } := by
  have hflag : w.disk.fs.isMounted = false := by
    cases hflag : w.disk.fs.isMounted with
    | false => rfl
    | true => exact absurd hexp (h.apart hflag)
  unfold loadWithFileImg
  rw [Action.bind_of_ok (show Action.read w = (w, .ok w) from rfl)]
  cases hstate : getFileTransferState io.first w with
  | none => exact mountOnKvm_run io w
  | kvm =>
      rw [getFileTransferState_kvm hstate] at hflag
      cases hflag
  | remoteUsb =>
      have hfirst := (getFileTransferState_remoteUsb hstate).2.1
      have hsecond : getFileTransferState io.second w = .none := by
        unfold getFileTransferState
        rw [hflag, if_neg nofun, if_neg fun hask => hblind ⟨hfirst, hask.1⟩]
      have hskip : unmountFileImg io io.second w = (w, .ok ()) := by
        unfold unmountFileImg
        rw [Action.bind_of_ok (show Action.read w = (w, .ok w) from rfl), hsecond]
        rfl
      dsimp only
      rw [Action.bind_of_ok hskip]
      exact mountOnKvm_run io w

theorem load_inv {io : CallIo} (h : OwnerInv w)
    (hask : Exported w → io.first = true ∧ io.second = true) :
    OwnerInv (loadWithFileImg io w).1 := by
  unfold loadWithFileImg
  rw [Action.bind_of_ok (show Action.read w = (w, .ok w) from rfl)]
  cases hstate : getFileTransferState io.first w with
  | none =>
      have hunasked := (getFileTransferState_none hstate).2
      exact mountOnKvm_inv io h fun hexp => hunasked (hask hexp).1 hexp
  | kvm => exact h
  | remoteUsb =>
      obtain ⟨hflag, -, hexp⟩ := getFileTransferState_remoteUsb hstate
      have hsecond : getFileTransferState io.second w = .remoteUsb := by
        unfold getFileTransferState
        rw [hflag, if_neg nofun, if_pos ⟨(hask hexp).2, hexp⟩]
      have hun : unmountFileImg io io.second w =
          (unexport io >>= fun _ => setFtMountTarget io) w := by
        unfold unmountFileImg
        rw [Action.bind_of_ok (show Action.read w = (w, .ok w) from rfl), hsecond]
      apply bind_inv (unmountFileImg_inv io io.second h)
      intro hok
      have hmoved := unmountFileImg_inv io io.second h
      rw [hun, bind_setFtMountTarget] at hmoved ⊢
      rw [hun] at hok
      obtain ⟨media, hrun, -, hgone⟩ | ⟨media, e, hrun, -⟩ := unexport_spec io w
      · rw [hrun] at hmoved ⊢
        exact mountOnKvm_inv io hmoved hgone
      · rw [Action.bind_of_error hrun] at hok
        cases hok

end Parts

/-- A call keeps the image with one owner exactly when it asks where it must. -/
theorem call_cases {w : World} (h : OwnerInv w) (c : Call) :
    (Asked w c ∧ OwnerInv (c.run w).1) ∨ ¬ Asked w c ∧ ¬ OneOwner (c.run w).1 := by
  have hdisk : ∀ disk : FsRemote.World, DiskInv disk →
      (w.disk.fs.isMounted = false → disk = w.disk) → OwnerInv { w with disk := disk } := by
    intro disk hinv hsame
    refine h.withDisk hinv fun hmounted => ?_
    cases hflag : w.disk.fs.isMounted with
    | true => exact h.apart hflag
    | false =>
        rw [hsame hflag, hflag] at hmounted
        cases hmounted
  cases c with
  | mountUsb io => exact .inl ⟨trivial, mountWithFileImg_inv io h⟩
  | unmount io => exact .inl ⟨trivial, unmountFileImg_inv io io.first h⟩
  | setFileTransfer io mio enabled change =>
      exact .inl ⟨trivial, setFileTransfer_inv io mio enabled change h⟩
  | virtualMedia call =>
      exact .inl ⟨trivial, h.withMedia (Media.ftUntouched_mountCall call w.media)⟩
  | reconcile io usbConfig devices =>
      exact .inl ⟨trivial, h.withMedia (Media.ftUntouched_reconcileUsbRuntime _ _ w.media)⟩
  | repair u fsckVfat dosfsck m =>
      obtain ⟨hinv, hsame⟩ := FsRemote.remount_diskInv u
        (FsRemote.withCommands "repair" [("fsck.vfat", fsckVfat), ("dosfsck", dosfsck)]) m h.disk
      exact .inl ⟨trivial, hdisk _ hinv hsame⟩
  | format u imageExists mkfsVfat mkdosfs m =>
      obtain ⟨hinv, hsame⟩ := FsRemote.remount_diskInv u (if imageExists then
          FsRemote.withCommands "format" [("mkfs.vfat", mkfsVfat), ("mkdosfs", mkdosfs)]
        else .error ("Image file does not exist: " ++ w.disk.fs.imagePath.quote)) m h.disk
      rw [← FsRemote.formatFilesystem_eq] at hinv hsame
      exact .inl ⟨trivial, hdisk _ hinv hsame⟩
  | restart =>
      by_cases hmounted : Mounted w
      · refine .inr ⟨fun hask => hask hmounted, fun hone => ?_⟩
        exact hone.2 rfl hmounted
      · have hnil : w.disk.kernel.mounts = [] := not_not.mp hmounted
        refine .inl ⟨hmounted, ⟨fun _ => hnil, h.disk.one⟩, rfl, nofun⟩
  | load io =>
      by_cases hasked : Exported w → io.first = true ∧ io.second = true
      · exact .inl ⟨fun hexp => .inl (hasked hexp), load_inv h hasked⟩
      · obtain ⟨hexp, hblind⟩ := Classical.not_imp.mp hasked
        have hflag : w.disk.fs.isMounted = false := by
          cases hflag : w.disk.fs.isMounted with
          | false => rfl
          | true => exact absurd hexp (h.apart hflag)
        have hrun : (Call.run (.load io) w).1 =
            { w with disk := (FsRemote.mount io.mount w.disk).1 } := load_of_blind h hexp hblind
        obtain ⟨d', hmount, -, hone⟩ | ⟨d', e, hmount, hclear⟩ :=
          FsRemote.mount_of_clear io.mount (h.disk.clear hflag)
        · refine .inr ⟨fun hask => ?_, fun howner => ?_⟩
          · obtain hanswered | hfails := hask hexp
            · exact hblind hanswered
            · exact hfails (congrArg Prod.snd hmount)
          · apply howner.1
            rw [hrun, hmount]
            refine ⟨fun hnil => ?_, hexp⟩
            change d'.kernel.mounts = [] at hnil
            rw [hnil] at hone
            cases hone
        · refine .inl ⟨fun _ => .inr ?_, ?_⟩
          · rw [hmount]
            nofun
          · rw [hrun, hmount]
            refine h.withDisk hclear.diskInv fun hmounted => ?_
            rw [hclear.1] at hmounted
            cases hmounted

/-- Nothing is mounted or exported, and the USB client has no payload yet. -/
def Fresh (w : World) : Prop :=
  Clear w.disk ∧ ¬ Exported w ∧ w.media.usbInfo.umsFtPath = ""

/-- In every run whose loads of an exported image are answered, whatever else fails, the image has
one owner at most; and from each state reached a call breaks this exactly when it is a load that
mounts an exported image unasked, or a restart on a mounted one. -/
theorem image_one_owner {w₀ w : World} (hinit : Fresh w₀) (h : Run.Reach step Asked w₀ w) :
    OneOwner w ∧ ∀ c, OneOwner (c.run w).1 ↔ Asked w c := by
  have hinv : OwnerInv w := by
    apply h.invariant (P := OwnerInv)
    · exact ⟨hinit.1.diskInv, hinit.2.2, fun _ => hinit.2.1⟩
    · intro s c s' hs hok hrun
      cases hrun
      obtain ⟨-, hs'⟩ | ⟨hnot, -⟩ := call_cases hs c
      · exact hs'
      · exact absurd hok hnot
  refine ⟨hinv.oneOwner, fun c => ?_⟩
  obtain ⟨hask, hinv'⟩ | ⟨hnot, hbreaks⟩ := call_cases hinv c
  · exact ⟨fun _ => hask, fun _ => hinv'.oneOwner⟩
  · exact ⟨fun hone => absurd hone hbreaks, fun hask => absurd hask hnot⟩

/-- The image file of the KVM, and a gadget with the file transfer LUN. -/
def idle : World where
  disk := FsRemote.image
  media :=
    { manager :=
      { baseInfo := { serialNumber := "ark" }
        ft := some ⟨true, none, false⟩ } }

/-- Everything works; the sidecar answers if `answered`. -/
def working (answered : Bool) : CallIo where
  first := answered
  second := answered
  sidecar := .working true
  mount := FsRemote.attaching "/dev/loop0" .success
  unmount := ⟨.success, .success⟩
  imageExists := true
  stat := true
  saved := true

theorem fresh_idle : Fresh idle := by
  refine ⟨⟨rfl, rfl⟩, ?_, rfl⟩
  unfold Exported
  decide

def exported : World := (Call.run (.mountUsb (working true)) idle).1

theorem reach_exported : Run.Reach step Asked idle exported := by
  have hask : Asked idle (.mountUsb (working true)) := trivial
  exact .tail .refl hask rfl

theorem image_one_owner_load :
    ∃ w, Run.Reach step Asked idle w ∧ Mounted w ∧ ¬ Exported w ∧ OneOwner w := by
  have hask : Asked exported (.load (working true)) := fun _ => .inl ⟨rfl, rfl⟩
  have hreach : Run.Reach step Asked idle (Call.run (.load (working true)) exported).1 :=
    reach_exported.tail hask rfl
  refine ⟨_, hreach, ?_, ?_, (image_one_owner fresh_idle hreach).1⟩
  · unfold Mounted
    decide +kernel
  · unfold Exported
    decide +kernel

/-- The sidecar does not answer in time: the image is mounted under the host that writes to it. -/
theorem unanswered_load_shares_image :
    Mounted (Call.run (.load (working false)) exported).1 ∧
      Exported (Call.run (.load (working false)) exported).1 := by
  constructor
  · unfold Mounted
    decide +kernel
  · unfold Exported
    decide +kernel

end ArkKvm.FtImage
