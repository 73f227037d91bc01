import ArkKvm.Lib.Action
import ArkKvm.Lib.Run
import ArkKvm.Lib.Text

/-!
# The mounted image

`RemoteFs` of `hardware/fs_remote.rs` with the two kernel resources that its calls move: the loop
devices of the image and the mounts at the mount point.  Every command is an input of the call
that runs it.
-/

namespace ArkKvm.FsRemote

open Lib

inductive Exit
  | notRun (e : String)
  | failed (stderr : String)
  | success
deriving DecidableEq

inductive Found
  | notRun
  | failed (stderr : String)
  | printed (stdout : Option String)

structure RemoteFs where
  imagePath : String
  mountPoint : String
  loopDevice : Option String
  isMounted : Bool
deriving DecidableEq

/-- The loop devices that the image is attached to, and what is mounted at the mount point, the
last mount first. -/
structure Kernel where
  loops : List String
  mounts : List String
deriving DecidableEq

structure World where
  fs : RemoteFs
  kernel : Kernel
deriving DecidableEq

abbrev Op (α : Type) : Type := Action String World α

structure MountIo where
  imageExists : Bool
  createDir : Bool
  mountpoint : Exit
  find : Found
  attach : Exit
  mount : Exit

structure UnmountIo where
  umount : Exit
  detach : Exit

def setLoopDevice (dev : Option String) (w : World) : World :=
  { w with fs := { w.fs with loopDevice := dev } }

def setMounted (mounted : Bool) (w : World) : World :=
  { w with fs := { w.fs with isMounted := mounted } }

/-- `RemoteFs::with_mount_point`, on a kernel that knows nothing of the image. -/
def start (imagePath mountPoint : String) : World :=
  ⟨⟨imagePath, mountPoint, none, false⟩, ⟨[], []⟩⟩

/-! ## Commands -/

def command (o : Exit) (possible : Kernel → Bool) (effect : Kernel → Kernel)
    (spawnError exitError : String) : Op Unit := fun w =>
  match o with
  | .notRun _ => (w, .error spawnError)
  | .failed stderr => (w, .error (exitError ++ stderr))
  | .success =>
      if possible w.kernel then ({ w with kernel := effect w.kernel }, .ok ())
      else (w, .error exitError)

def isMountPointInUse (o : Exit) : Op Bool := fun w =>
  match o with
  | .notRun _ => (w, .error "Failed to execute mountpoint command")
  | .failed _ => (w, .ok false)
  | .success => (w, .ok (!w.kernel.mounts.isEmpty))

def findLoopDevice : Found → Except String String
  | .notRun => .error "Failed to execute losetup -f command"
  | .failed stderr => .error ("Failed to find available loop device: " ++ stderr)
  | .printed none => .error "Invalid UTF-8 in losetup output"
  | .printed (some stdout) => .ok (String.ofList (Lib.Text.trim stdout.toList))

/-- `losetup DEV IMAGE`: a device has one image. -/
def associate (o : Exit) (dev : String) : Op Unit :=
  command o (fun k => !k.loops.contains dev) (fun k => { k with loops := dev :: k.loops })
    "Failed to execute losetup command" "Failed to associate image with loop device: "

def setupLoopDevice (io : MountIo) : Op String := do
  let dev ← Action.ofExcept (findLoopDevice io.find)
  associate io.attach dev
  pure dev

def mountLoopDevice (o : Exit) (dev mountPoint : String) : Op Unit :=
  command o (fun k => k.loops.contains dev) (fun k => { k with mounts := dev :: k.mounts })
    "Failed to execute mount command"
    ("Failed to mount loop device " ++ dev ++ " to " ++ mountPoint.quote ++ ": ")

def unmountFilesystem (o : Exit) (mountPoint : String) : Op Unit :=
  command o (fun k => !k.mounts.isEmpty) (fun k => { k with mounts := k.mounts.tail })
    "Failed to execute umount command" ("Failed to unmount " ++ mountPoint.quote ++ ": ")

def cleanupLoopDevice (o : Exit) (dev : String) : Op Unit :=
  command o (fun k => k.loops.contains dev) (fun k => { k with loops := k.loops.erase dev })
    "Failed to execute losetup -d command" ("Failed to detach loop device " ++ dev ++ ": ")

/-! ## The calls -/

/-- `RemoteFs::mount` on a file system that is not mounted. -/
def mountImage (io : MountIo) (fs : RemoteFs) : Op Unit := do
  Action.ensure (io.imageExists = true) ("Image file does not exist: " ++ fs.imagePath.quote)
  Action.ensure (io.createDir = true) ("Failed to create mount point: " ++ fs.mountPoint.quote)
  let inUse ← isMountPointInUse io.mountpoint
  Action.ensure (inUse = false) ("Mount point " ++ fs.mountPoint.quote ++ " is already in use")
  let dev ← setupLoopDevice io
  Action.modify (setLoopDevice (some dev))
  mountLoopDevice io.mount dev fs.mountPoint
  Action.modify (setMounted true)

def mount (io : MountIo) : Op Unit := do
  let w ← Action.read
  if w.fs.isMounted then pure () else mountImage io w.fs

def cleanupRecorded (o : Exit) : Option String → Op Unit
  | none => pure ()
  | some dev =>
      Action.mapErr (fun e => "Failed to cleanup loop device: " ++ e) (cleanupLoopDevice o dev)

/-- `RemoteFs::unmount` on a mounted file system. -/
def unmountImage (io : UnmountIo) (fs : RemoteFs) : Op Unit := do
  Action.mapErr (fun e => "Failed to unmount filesystem error: " ++ e)
    (unmountFilesystem io.umount fs.mountPoint)
  cleanupRecorded io.detach fs.loopDevice
  Action.modify (setMounted false)
  Action.modify (setLoopDevice none)

def unmount (io : UnmountIo) : Op Unit := do
  let w ← Action.read
  if w.fs.isMounted then unmountImage io w.fs else pure ()

def tryCommands : List (String × Exit) → Option String → Except (Option String) Unit
  | [], lastError => .error lastError
  | (_, .success) :: _, _ => .ok ()
  | (name, .failed stderr) :: rest, _ =>
      tryCommands rest (some (name ++ " failed: " ++ stderr))
  | (name, .notRun e) :: rest, _ =>
      tryCommands rest (some ("Command " ++ name ++ " not found: " ++ e))

def withCommands (verb : String) (commands : List (String × Exit)) : Except String Unit :=
  (tryCommands commands none).mapError fun lastError =>
    "Failed to " ++ verb ++ " filesystem. Tried: " ++
      ", ".intercalate (commands.map Prod.fst) ++ ". Last error: " ++
      lastError.getD "Unknown error"

def repairFilesystem (u : UnmountIo) (fsckVfat dosfsck : Exit) (m : MountIo) : Op Unit := do
  let w ← Action.read
  if w.fs.isMounted then unmount u else pure ()
  Action.ofExcept (withCommands "repair" [("fsck.vfat", fsckVfat), ("dosfsck", dosfsck)])
  if w.fs.isMounted then mount m else pure ()

def formatFilesystem (u : UnmountIo) (imageExists : Bool) (mkfsVfat mkdosfs : Exit)
    (m : MountIo) : Op Unit := do
  let w ← Action.read
  if w.fs.isMounted then unmount u else pure ()
  Action.ensure (imageExists = true) ("Image file does not exist: " ++ w.fs.imagePath.quote)
  Action.ofExcept (withCommands "format" [("mkfs.vfat", mkfsVfat), ("mkdosfs", mkdosfs)])
  if w.fs.isMounted then mount m else pure ()

inductive Call
  | mount (m : MountIo)
  | unmount (u : UnmountIo)
  | repair (u : UnmountIo) (fsckVfat dosfsck : Exit) (m : MountIo)
  | format (u : UnmountIo) (imageExists : Bool) (mkfsVfat mkdosfs : Exit) (m : MountIo)

def Call.run : Call → Op Unit
  | .mount m => FsRemote.mount m
  | .unmount u => FsRemote.unmount u
  | .repair u fsckVfat dosfsck m => repairFilesystem u fsckVfat dosfsck m
  | .format u imageExists mkfsVfat mkdosfs m => formatFilesystem u imageExists mkfsVfat mkdosfs m

def Call.IsRepair : Call → Prop
  | .repair _ _ _ _ => True
  | _ => False

/-- `REMOTE_FS` is behind a lock: one call at a time. -/
def step (w : World) (c : Call) : Option World := some (c.run w).1

/-! ## What the calls should keep -/

/-- The record agrees with the kernel: mounted exactly when there is a mount, never more than one
loop device, and none without a mount. -/
structure Mirrors (w : World) : Prop where
  mounted_iff : w.fs.isMounted = true ↔ w.kernel.mounts ≠ []
  loops_le_one : w.kernel.loops.length ≤ 1
  loops_of_unmounted : w.kernel.mounts = [] → w.kernel.loops = []

/-- A call keeps the record and the kernel together, and a repair that fails leaves a mounted
file system mounted. -/
def Meets (w : World) (c : Call) : Prop :=
  Mirrors (c.run w).1 ∧
    (c.IsRepair → ∀ e, (c.run w).2 = .error e → w.kernel.mounts ≠ [] →
      (c.run w).1.kernel.mounts ≠ [])

def Attaches (m : MountIo) : Prop :=
  m.imageExists = true ∧ m.createDir = true ∧ (∀ e, m.mountpoint ≠ .notRun e) ∧
    (∃ stdout, m.find = .printed (some stdout)) ∧ m.attach = .success

/-- No early return leaves work of the call behind: a loop device that is attached gets mounted,
one that is not mounted any more gets detached, and a repair gets back to its mount. -/
def StepsHold (w : World) : Call → Prop
  | .mount m => w.fs.isMounted = false → Attaches m → m.mount = .success
  | .unmount u => w.fs.isMounted = true → u.umount = .success → u.detach = .success
  | .repair u fsckVfat dosfsck m => w.fs.isMounted = true → u.umount = .success →
      u.detach = .success ∧ (fsckVfat = .success ∨ dosfsck = .success) ∧ Attaches m ∧
        m.mount = .success
  | .format u imageExists mkfsVfat mkdosfs m => w.fs.isMounted = true → u.umount = .success →
      u.detach = .success ∧
        (imageExists = true → mkfsVfat = .success ∨ mkdosfs = .success → Attaches m →
          m.mount = .success)

/-! ## Commands -/

theorem command_success {possible : Kernel → Bool} {effect : Kernel → Kernel}
    {spawnError exitError : String} {w : World} (h : possible w.kernel = true) :
    command .success possible effect spawnError exitError w =
      ({ w with kernel := effect w.kernel }, .ok ()) := by
  show (if possible w.kernel then _ else _) = _
  rw [if_pos h]

theorem command_failed {o : Exit} (ho : o ≠ .success) (possible : Kernel → Bool)
    (effect : Kernel → Kernel) (spawnError exitError : String) (w : World) :
    ∃ e, command o possible effect spawnError exitError w = (w, .error e) := by
  cases o with
  | notRun e => exact ⟨_, rfl⟩
  | failed stderr => exact ⟨_, rfl⟩
  | success => exact absurd rfl ho

theorem tryCommands_ok_iff {commands : List (String × Exit)} {lastError : Option String} :
    tryCommands commands lastError = .ok () ↔ ∃ c ∈ commands, c.2 = .success := by
  induction commands generalizing lastError with
  | nil => exact ⟨nofun, fun ⟨c, hc, _⟩ => absurd hc List.not_mem_nil⟩
  | cons c rest ih =>
      simp only [List.mem_cons, exists_eq_or_imp]
      obtain ⟨name, o⟩ := c
      cases o with
      | success => exact ⟨fun _ => .inl rfl, fun _ => rfl⟩
      | failed stderr => exact ih.trans ⟨.inr, fun h => h.resolve_left nofun⟩
      | notRun e => exact ih.trans ⟨.inr, fun h => h.resolve_left nofun⟩

theorem withCommands_pair (verb first second : String) (o o' : Exit) :
    (o = .success ∨ o' = .success) ∧ withCommands verb [(first, o), (second, o')] = .ok () ∨
      ¬ (o = .success ∨ o' = .success) ∧
        ∃ e, withCommands verb [(first, o), (second, o')] = .error e := by
  have hiff := @tryCommands_ok_iff [(first, o), (second, o')] none
  simp only [List.mem_cons, exists_eq_or_imp] at hiff
  unfold withCommands
  cases htry : tryCommands [(first, o), (second, o')] none with
  | ok v =>
      refine .inl ⟨?_, rfl⟩
      obtain hfirst | hsecond | ⟨c, hc, -⟩ := hiff.mp htry
      · exact .inl hfirst
      · exact .inr hsecond
      · exact absurd hc List.not_mem_nil
  | error e =>
      refine .inr ⟨fun h => ?_, _, rfl⟩
      have hok := hiff.mpr (h.imp id .inl)
      rw [htry] at hok
      cases hok

/-! ## The two states between calls -/

def Down (w : World) : Prop := w.fs.isMounted = false ∧ w.kernel = ⟨[], []⟩

/-- Mounted through the loop device of the record. -/
def Up (w : World) : Prop :=
  w.fs.isMounted = true ∧ ∃ dev, w.fs.loopDevice = some dev ∧ w.kernel = ⟨[dev], [dev]⟩

theorem Down.mirrors {w : World} (h : Down w) : Mirrors w := by
  obtain ⟨hflag, hkernel⟩ := h
  constructor
  · rw [hflag, hkernel]
    exact ⟨nofun, fun hne => absurd rfl hne⟩
  · rw [hkernel]
    exact Nat.zero_le 1
  · rw [hkernel]
    exact fun _ => rfl

theorem Up.mirrors {w : World} (h : Up w) : Mirrors w := by
  obtain ⟨hflag, dev, -, hkernel⟩ := h
  constructor
  · rw [hflag, hkernel]
    exact ⟨fun _ => List.cons_ne_nil dev [], fun _ => rfl⟩
  · rw [hkernel]
    exact Nat.le_refl 1
  · rw [hkernel]
    exact fun hnil => absurd hnil (List.cons_ne_nil dev [])

def Leaks (w : World) : Prop := w.kernel.mounts = [] ∧ w.kernel.loops ≠ []

theorem Leaks.not_mirrors {w : World} (h : Leaks w) : ¬ Mirrors w :=
  fun hm => h.2 (hm.loops_of_unmounted h.1)

/-! ## One call -/

theorem isMountPointInUse_down {o : Exit} {w : World} (hw : Down w) :
    (∃ e e', o = .notRun e ∧ isMountPointInUse o w = (w, .error e')) ∨
      (∀ e, o ≠ .notRun e) ∧ isMountPointInUse o w = (w, .ok false) := by
  cases o with
  | notRun e => exact .inl ⟨e, _, rfl, rfl⟩
  | failed stderr => exact .inr ⟨nofun, rfl⟩
  | success =>
      refine .inr ⟨nofun, ?_⟩
      show (w, Except.ok (!w.kernel.mounts.isEmpty)) = _
      rw [hw.2]
      rfl

theorem setupLoopDevice_down {m : MountIo} {w : World} (hw : Down w) :
    ((∃ stdout, m.find = .printed (some stdout)) ∧ m.attach = .success ∧
        ∃ dev, setupLoopDevice m w = ({ w with kernel := ⟨[dev], []⟩ }, .ok dev)) ∨
      ¬ ((∃ stdout, m.find = .printed (some stdout)) ∧ m.attach = .success) ∧
        ∃ e, setupLoopDevice m w = (w, .error e) := by
  unfold setupLoopDevice
  cases hfind : m.find with
  | notRun => exact .inr ⟨nofun, _, rfl⟩
  | failed stderr => exact .inr ⟨nofun, _, rfl⟩
  | printed stdout =>
      cases stdout with
      | none =>
          refine .inr ⟨?_, _, rfl⟩
          rintro ⟨⟨text, htext⟩, -⟩
          cases htext
      | some text =>
          have hfound : Action.ofExcept (findLoopDevice (.printed (some text))) w =
              (w, .ok (String.ofList (Lib.Text.trim text.toList))) := rfl
          rw [Action.bind_of_ok hfound]
          by_cases hattach : m.attach = .success
          · refine .inl ⟨⟨text, rfl⟩, hattach, String.ofList (Lib.Text.trim text.toList), ?_⟩
            have hfree : (!w.kernel.loops.contains (String.ofList (Lib.Text.trim text.toList))) =
                true := by
              rw [hw.2]
              rfl
            rw [hattach]
            unfold associate
            rw [Action.bind_of_ok (command_success hfree), hw.2]
            rfl
          · obtain ⟨e, he⟩ := command_failed hattach
              (fun k => !k.loops.contains (String.ofList (Lib.Text.trim text.toList)))
              (fun k => { k with loops := String.ofList (Lib.Text.trim text.toList) :: k.loops })
              "Failed to execute losetup command"
              "Failed to associate image with loop device: " w
            exact .inr ⟨fun h => hattach h.2, e, Action.bind_of_error he⟩

/-- A mount of an unmounted file system stops before it has a loop device, leaves one behind, or
ends with the image mounted. -/
theorem mountImage_down {m : MountIo} {w : World} (hw : Down w) :
    (¬ Attaches m ∧ ∃ e, mountImage m w.fs w = (w, .error e)) ∨
      (Attaches m ∧ m.mount ≠ .success ∧
        ∃ w' e, mountImage m w.fs w = (w', .error e) ∧ Leaks w') ∨
      Attaches m ∧ m.mount = .success ∧ ∃ w', mountImage m w.fs w = (w', .ok ()) ∧ Up w' := by
  unfold mountImage
  by_cases himage : m.imageExists = true
  swap
  · exact .inl ⟨fun h => himage h.1, _, Action.bind_of_error (Action.ensure_of_neg himage _ w)⟩
  rw [Action.bind_of_ok (Action.ensure_of_pos himage _ w)]
  by_cases hdir : m.createDir = true
  swap
  · exact .inl ⟨fun h => hdir h.2.1, _, Action.bind_of_error (Action.ensure_of_neg hdir _ w)⟩
  rw [Action.bind_of_ok (Action.ensure_of_pos hdir _ w)]
  obtain ⟨e, e', hnotRun, hrun⟩ | ⟨hran, hrun⟩ := isMountPointInUse_down (o := m.mountpoint) hw
  · exact .inl ⟨fun h => h.2.2.1 e hnotRun, e', Action.bind_of_error hrun⟩
  rw [Action.bind_of_ok hrun, Action.bind_of_ok (Action.ensure_of_pos rfl _ w)]
  obtain ⟨hfind, hattach, dev, hsetup⟩ | ⟨hnot, e, hsetup⟩ := setupLoopDevice_down (m := m) hw
  swap
  · exact .inl ⟨fun h => hnot h.2.2.2, e, Action.bind_of_error hsetup⟩
  have hattaches : Attaches m := ⟨himage, hdir, hran, hfind, hattach⟩
  rw [Action.bind_of_ok hsetup, Action.bind_of_ok (show Action.modify _ _ = (_, .ok ()) from rfl)]
  unfold mountLoopDevice
  by_cases hmount : m.mount = .success
  · have hattached : ([dev] : List String).contains dev = true := by
      rw [List.contains_cons, beq_self_eq_true, Bool.true_or]
    refine .inr (.inr ⟨hattaches, hmount, ?_⟩)
    rw [hmount, Action.bind_of_ok (command_success hattached)]
    exact ⟨_, rfl, rfl, dev, rfl, rfl⟩
  · refine .inr (.inl ⟨hattaches, hmount, ?_⟩)
    obtain ⟨e, he⟩ := command_failed hmount (fun k => k.loops.contains dev)
      (fun k => { k with mounts := dev :: k.mounts }) "Failed to execute mount command"
      ("Failed to mount loop device " ++ dev ++ " to " ++ w.fs.mountPoint.quote ++ ": ")
      (setLoopDevice (some dev) { w with kernel := ⟨[dev], []⟩ })
    exact ⟨_, e, Action.bind_of_error he, rfl, List.cons_ne_nil dev []⟩

/-- An unmount of a mounted file system leaves it as it is, leaves its loop device behind, or ends
with nothing of the image in the kernel. -/
theorem unmountImage_up {u : UnmountIo} {w : World} (hw : Up w) :
    (u.umount ≠ .success ∧ ∃ e, unmountImage u w.fs w = (w, .error e)) ∨
      (u.umount = .success ∧ u.detach ≠ .success ∧
        ∃ w' e, unmountImage u w.fs w = (w', .error e) ∧ Leaks w') ∨
      u.umount = .success ∧ u.detach = .success ∧
        ∃ w', unmountImage u w.fs w = (w', .ok ()) ∧ Down w' := by
  obtain ⟨hflag, dev, hdev, hkernel⟩ := hw
  unfold unmountImage unmountFilesystem
  by_cases humount : u.umount = .success
  swap
  · obtain ⟨e, he⟩ := command_failed humount (fun k => !k.mounts.isEmpty)
      (fun k => { k with mounts := k.mounts.tail }) "Failed to execute umount command"
      ("Failed to unmount " ++ w.fs.mountPoint.quote ++ ": ") w
    exact .inl ⟨humount, _, Action.bind_of_error (Action.mapErr_of_error he)⟩
  have hmounted : (!w.kernel.mounts.isEmpty) = true := by
    rw [hkernel]
    rfl
  rw [humount, Action.bind_of_ok (Action.mapErr_of_ok (command_success hmounted)), hdev, hkernel]
  unfold cleanupRecorded cleanupLoopDevice
  dsimp only [List.tail_cons]
  by_cases hdetach : u.detach = .success
  · refine .inr (.inr ⟨rfl, hdetach, ?_⟩)
    have hattached : ([dev] : List String).contains dev = true := by
      rw [List.contains_cons, beq_self_eq_true, Bool.true_or]
    rw [hdetach, Action.bind_of_ok (Action.mapErr_of_ok (command_success hattached))]
    refine ⟨_, rfl, rfl, ?_⟩
    show Kernel.mk ([dev].erase dev) [] = _
    rw [List.erase_cons_head]
  · refine .inr (.inl ⟨rfl, hdetach, ?_⟩)
    obtain ⟨e, he⟩ := command_failed hdetach (fun k => k.loops.contains dev)
      (fun k => { k with loops := k.loops.erase dev }) "Failed to execute losetup -d command"
      ("Failed to detach loop device " ++ dev ++ ": ") { w with kernel := ⟨[dev], []⟩ }
    exact ⟨_, _, Action.bind_of_error (Action.mapErr_of_error he), rfl, List.cons_ne_nil dev []⟩

theorem mount_up {m : MountIo} {w : World} (hw : Up w) : mount m w = (w, .ok ()) := by
  show (if w.fs.isMounted then pure () else mountImage m w.fs : Op Unit) w = _
  rw [if_pos hw.1]
  rfl

theorem mount_down {m : MountIo} {w : World} (hw : Down w) :
    mount m w = mountImage m w.fs w := by
  show (if w.fs.isMounted then pure () else mountImage m w.fs : Op Unit) w = _
  rw [if_neg (by rw [hw.1]; nofun)]

theorem unmount_up {u : UnmountIo} {w : World} (hw : Up w) :
    unmount u w = unmountImage u w.fs w := by
  show (if w.fs.isMounted then unmountImage u w.fs else pure () : Op Unit) w = _
  rw [if_pos hw.1]

theorem unmount_down {u : UnmountIo} {w : World} (hw : Down w) : unmount u w = (w, .ok ()) := by
  show (if w.fs.isMounted then unmountImage u w.fs else pure () : Op Unit) w = _
  rw [if_neg (by rw [hw.1]; nofun)]
  rfl

def Settled (w : World) : Prop := Down w ∨ Up w

theorem Settled.mirrors {w : World} (h : Settled w) : Mirrors w :=
  h.elim Down.mirrors Up.mirrors

theorem Up.mounts_ne_nil {w : World} (h : Up w) : w.kernel.mounts ≠ [] :=
  h.mirrors.mounted_iff.mp h.1

theorem Down.mounts_eq_nil {w : World} (h : Down w) : w.kernel.mounts = [] := by
  rw [h.2]

/-- How a call ends: its steps hold and it settles again, a repair that failed with the mount it
found; or they do not and it breaks what it should keep. -/
def Ends (w : World) (c : Call) : Prop :=
  (StepsHold w c ∧ Settled (c.run w).1 ∧ Meets w c) ∨ ¬ StepsHold w c ∧ ¬ Meets w c

theorem ends_of_leaks {w w' : World} {c : Call} (hnot : ¬ StepsHold w c)
    (hrun : (c.run w).1 = w') (h : Leaks w') : Ends w c := by
  refine .inr ⟨hnot, fun hmeets => h.not_mirrors ?_⟩
  rw [← hrun]
  exact hmeets.1

theorem ends_of_settled {w w' : World} {c : Call}
    (hc : ¬ c.IsRepair) (hsteps : StepsHold w c) (hrun : (c.run w).1 = w') (h : Settled w') :
    Ends w c := by
  subst hrun
  exact .inl ⟨hsteps, h, h.mirrors, fun hrepair => absurd hrepair hc⟩

theorem mount_ends (m : MountIo) {w : World} (hw : Settled w) : Ends w (.mount m) := by
  have hother : ¬ (Call.mount m).IsRepair := id
  obtain hdown | hup := hw
  · have hcall : (Call.run (.mount m) w).1 = (mountImage m w.fs w).1 :=
      congrArg Prod.fst (mount_down hdown)
    obtain ⟨hnot, e, hrun⟩ | ⟨hattaches, hmount, w', e, hrun, hleaks⟩ |
      ⟨hattaches, hmount, w', hrun, hup⟩ := mountImage_down (m := m) hdown
    · rw [hrun] at hcall
      exact ends_of_settled hother (fun _ h => absurd h hnot) hcall (.inl hdown)
    · rw [hrun] at hcall
      have hsteps : ¬ StepsHold w (.mount m) := fun h => hmount (h hdown.1 hattaches)
      exact ends_of_leaks hsteps hcall hleaks
    · rw [hrun] at hcall
      exact ends_of_settled hother (fun _ _ => hmount) hcall (.inr hup)
  · have hcall : (Call.run (.mount m) w).1 = w := congrArg Prod.fst (mount_up hup)
    have hsteps : StepsHold w (.mount m) := fun hflag => absurd hup.1 (by rw [hflag]; nofun)
    exact ends_of_settled hother hsteps hcall (.inr hup)

theorem unmount_ends (u : UnmountIo) {w : World} (hw : Settled w) : Ends w (.unmount u) := by
  have hother : ¬ (Call.unmount u).IsRepair := id
  obtain hdown | hup := hw
  · have hcall : (Call.run (.unmount u) w).1 = w := congrArg Prod.fst (unmount_down hdown)
    have hsteps : StepsHold w (.unmount u) := fun hflag => absurd hdown.1 (by rw [hflag]; nofun)
    exact ends_of_settled hother hsteps hcall (.inl hdown)
  · have hcall : (Call.run (.unmount u) w).1 = (unmountImage u w.fs w).1 :=
      congrArg Prod.fst (unmount_up hup)
    obtain ⟨humount, e, hrun⟩ | ⟨humount, hdetach, w', e, hrun, hleaks⟩ |
      ⟨humount, hdetach, w', hrun, hdown⟩ := unmountImage_up (u := u) hup
    · rw [hrun] at hcall
      exact ends_of_settled hother (fun _ h => absurd h humount) hcall (.inr hup)
    · rw [hrun] at hcall
      have hsteps : ¬ StepsHold w (.unmount u) := fun h => hdetach (h hup.1 humount)
      exact ends_of_leaks hsteps hcall hleaks
    · rw [hrun] at hcall
      exact ends_of_settled hother (fun _ _ => hdetach) hcall (.inl hdown)

/-! ## Repair and format -/

section Repair

variable {u : UnmountIo} {fsckVfat dosfsck : Exit} {m : MountIo} {w : World}

def fsckAndMount (fsckVfat dosfsck : Exit) (m : MountIo) : Op Unit := do
  Action.ofExcept (withCommands "repair" [("fsck.vfat", fsckVfat), ("dosfsck", dosfsck)])
  mount m

theorem repair_up (hw : Up w) :
    repairFilesystem u fsckVfat dosfsck m w =
      (unmount u >>= fun _ => fsckAndMount fsckVfat dosfsck m) w := by
  unfold repairFilesystem
  rw [Action.bind_of_ok (show Action.read w = (w, .ok w) from rfl), if_pos hw.1, if_pos hw.1]
  rfl

theorem repair_down (hw : Down w) : (repairFilesystem u fsckVfat dosfsck m w).1 = w := by
  unfold repairFilesystem
  have hflag : ¬ w.fs.isMounted = true := by
    rw [hw.1]
    nofun
  rw [Action.bind_of_ok (show Action.read w = (w, .ok w) from rfl), if_neg hflag, if_neg hflag]
  cases withCommands "repair" [("fsck.vfat", fsckVfat), ("dosfsck", dosfsck)] with
  | error e => rfl
  | ok _ => rfl

theorem repair_meets_of_down (hw : Down w) : Meets w (.repair u fsckVfat dosfsck m) := by
  refine ⟨?_, fun _ _ _ hmounted => absurd hw.mounts_eq_nil hmounted⟩
  show Mirrors (repairFilesystem u fsckVfat dosfsck m w).1
  rw [repair_down hw]
  exact hw.mirrors

theorem repair_ends_of_lost {w' : World} {e : String} (hup : Up w)
    (hnot : ¬ StepsHold w (.repair u fsckVfat dosfsck m))
    (hrun : repairFilesystem u fsckVfat dosfsck m w = (w', .error e))
    (hlost : w'.kernel.mounts = []) : Ends w (.repair u fsckVfat dosfsck m) := by
  refine .inr ⟨hnot, fun hmeets => ?_⟩
  have hkept := hmeets.2 trivial e
    (show (repairFilesystem u fsckVfat dosfsck m w).2 = _ by rw [hrun]) hup.mounts_ne_nil
  change (repairFilesystem u fsckVfat dosfsck m w).1.kernel.mounts ≠ [] at hkept
  rw [hrun] at hkept
  exact hkept hlost

theorem repair_ends_of_mounted {w' : World} {r : Except String Unit}
    (hsteps : StepsHold w (.repair u fsckVfat dosfsck m))
    (hrun : repairFilesystem u fsckVfat dosfsck m w = (w', r)) (h : Up w') :
    Ends w (.repair u fsckVfat dosfsck m) := by
  have hcall : (Call.run (.repair u fsckVfat dosfsck m) w).1 = w' := congrArg Prod.fst hrun
  refine .inl ⟨hsteps, ?_, ?_, fun _ _ _ _ => ?_⟩
  · rw [hcall]
    exact .inr h
  · rw [hcall]
    exact h.mirrors
  · rw [hcall]
    exact h.mounts_ne_nil

theorem repair_ends (hw : Settled w) : Ends w (.repair u fsckVfat dosfsck m) := by
  obtain hdown | hup := hw
  · have hsteps : StepsHold w (.repair u fsckVfat dosfsck m) :=
      fun hflag => absurd hdown.1 (by rw [hflag]; nofun)
    have hcall : (Call.run (.repair u fsckVfat dosfsck m) w).1 = w := repair_down hdown
    refine .inl ⟨hsteps, ?_, repair_meets_of_down hdown⟩
    rw [hcall]
    exact .inl hdown
  obtain ⟨humount, e, hrun⟩ | ⟨humount, hdetach, w', e, hrun, hleaks⟩ |
    ⟨humount, hdetach, w', hrun, hdown⟩ := unmountImage_up (u := u) hup
  · have hrepair : repairFilesystem u fsckVfat dosfsck m w = (w, .error e) := by
      rw [repair_up hup]
      exact Action.bind_of_error ((unmount_up hup).trans hrun)
    exact repair_ends_of_mounted (fun _ h => absurd h humount) hrepair hup
  · have hrepair : repairFilesystem u fsckVfat dosfsck m w = (w', .error e) := by
      rw [repair_up hup]
      exact Action.bind_of_error ((unmount_up hup).trans hrun)
    exact repair_ends_of_lost hup (fun h => hdetach (h hup.1 humount).1) hrepair hleaks.1
  · have hafter : repairFilesystem u fsckVfat dosfsck m w = fsckAndMount fsckVfat dosfsck m w' := by
      rw [repair_up hup]
      exact Action.bind_of_ok ((unmount_up hup).trans hrun)
    unfold fsckAndMount at hafter
    obtain ⟨hfsck, hok⟩ | ⟨hfsck, e, herr⟩ :=
      withCommands_pair "repair" "fsck.vfat" "dosfsck" fsckVfat dosfsck
    swap
    · rw [herr] at hafter
      exact repair_ends_of_lost hup (fun h => hfsck (h hup.1 humount).2.1) hafter
        hdown.mounts_eq_nil
    rw [hok, Action.bind_of_ok (show Action.ofExcept (.ok ()) w' = (w', .ok ()) from rfl),
      mount_down hdown] at hafter
    obtain ⟨hnot, e, hmount⟩ | ⟨hattaches, hmount, w'', e, hmountRun, hleaks⟩ |
      ⟨hattaches, hmount, w'', hmountRun, hup'⟩ := mountImage_down (m := m) hdown
    · exact repair_ends_of_lost hup (fun h => hnot (h hup.1 humount).2.2.1) (hafter.trans hmount)
        hdown.mounts_eq_nil
    · exact repair_ends_of_lost hup (fun h => hmount (h hup.1 humount).2.2.2)
        (hafter.trans hmountRun) hleaks.1
    · have hsteps : StepsHold w (.repair u fsckVfat dosfsck m) :=
        fun _ _ => ⟨hdetach, hfsck, hattaches, hmount⟩
      exact repair_ends_of_mounted hsteps (hafter.trans hmountRun) hup'

end Repair

section Format

variable {u : UnmountIo} {imageExists : Bool} {mkfsVfat mkdosfs : Exit} {m : MountIo} {w : World}

def mkfsAndMount (imageExists : Bool) (mkfsVfat mkdosfs : Exit) (m : MountIo) (imagePath : String) :
    Op Unit := do
  Action.ensure (imageExists = true) ("Image file does not exist: " ++ imagePath.quote)
  Action.ofExcept (withCommands "format" [("mkfs.vfat", mkfsVfat), ("mkdosfs", mkdosfs)])
  mount m

def mkfsOnly (imageExists : Bool) (mkfsVfat mkdosfs : Exit) (imagePath : String) : Op Unit := do
  Action.ensure (imageExists = true) ("Image file does not exist: " ++ imagePath.quote)
  Action.ofExcept (withCommands "format" [("mkfs.vfat", mkfsVfat), ("mkdosfs", mkdosfs)])
  pure ()

theorem format_up (hw : Up w) :
    formatFilesystem u imageExists mkfsVfat mkdosfs m w =
      (unmount u >>= fun _ => mkfsAndMount imageExists mkfsVfat mkdosfs m w.fs.imagePath) w := by
  unfold formatFilesystem
  rw [Action.bind_of_ok (show Action.read w = (w, .ok w) from rfl), if_pos hw.1, if_pos hw.1]
  rfl

theorem format_down (hw : Down w) :
    (formatFilesystem u imageExists mkfsVfat mkdosfs m w).1 = w := by
  unfold formatFilesystem
  have hflag : ¬ w.fs.isMounted = true := by
    rw [hw.1]
    nofun
  rw [Action.bind_of_ok (show Action.read w = (w, .ok w) from rfl), if_neg hflag, if_neg hflag]
  show (mkfsOnly imageExists mkfsVfat mkdosfs w.fs.imagePath w).1 = w
  unfold mkfsOnly
  by_cases himage : imageExists = true
  · rw [Action.bind_of_ok (Action.ensure_of_pos himage _ w)]
    cases withCommands "format" [("mkfs.vfat", mkfsVfat), ("mkdosfs", mkdosfs)] with
    | error e => rfl
    | ok _ => rfl
  · rw [Action.bind_of_error (Action.ensure_of_neg himage _ w)]

theorem format_ends (hw : Settled w) : Ends w (.format u imageExists mkfsVfat mkdosfs m) := by
  have hother : ¬ (Call.format u imageExists mkfsVfat mkdosfs m).IsRepair := id
  obtain hdown | hup := hw
  · have hsteps : StepsHold w (.format u imageExists mkfsVfat mkdosfs m) :=
      fun hflag => absurd hdown.1 (by rw [hflag]; nofun)
    exact ends_of_settled hother hsteps (format_down hdown) (.inl hdown)
  have hcall : (Call.run (.format u imageExists mkfsVfat mkdosfs m) w).1 =
      ((unmount u >>= fun _ => mkfsAndMount imageExists mkfsVfat mkdosfs m w.fs.imagePath) w).1 :=
    congrArg Prod.fst (format_up hup)
  obtain ⟨humount, e, hrun⟩ | ⟨humount, hdetach, w', e, hrun, hleaks⟩ |
    ⟨humount, hdetach, w', hrun, hdown⟩ := unmountImage_up (u := u) hup
  · rw [Action.bind_of_error ((unmount_up hup).trans hrun)] at hcall
    exact ends_of_settled hother (fun _ h => absurd h humount) hcall (.inr hup)
  · rw [Action.bind_of_error ((unmount_up hup).trans hrun)] at hcall
    have hsteps : ¬ StepsHold w (.format u imageExists mkfsVfat mkdosfs m) :=
      fun h => hdetach (h hup.1 humount).1
    exact ends_of_leaks hsteps hcall hleaks
  · rw [Action.bind_of_ok ((unmount_up hup).trans hrun)] at hcall
    unfold mkfsAndMount at hcall
    by_cases himage : imageExists = true
    swap
    · rw [Action.bind_of_error (Action.ensure_of_neg himage _ w')] at hcall
      exact ends_of_settled hother (fun _ _ => ⟨hdetach, fun h => absurd h himage⟩) hcall
        (.inl hdown)
    rw [Action.bind_of_ok (Action.ensure_of_pos himage _ w')] at hcall
    obtain ⟨hmkfs, hok⟩ | ⟨hmkfs, e, herr⟩ :=
      withCommands_pair "format" "mkfs.vfat" "mkdosfs" mkfsVfat mkdosfs
    swap
    · rw [herr] at hcall
      exact ends_of_settled hother (fun _ _ => ⟨hdetach, fun _ h => absurd h hmkfs⟩) hcall
        (.inl hdown)
    rw [hok, Action.bind_of_ok (show Action.ofExcept (.ok ()) w' = (w', .ok ()) from rfl),
      mount_down hdown] at hcall
    obtain ⟨hnot, e, hmount⟩ | ⟨hattaches, hmount, w'', e, hmountRun, hleaks⟩ |
      ⟨hattaches, hmount, w'', hmountRun, hup'⟩ := mountImage_down (m := m) hdown
    · rw [hmount] at hcall
      exact ends_of_settled hother (fun _ _ => ⟨hdetach, fun _ _ h => absurd h hnot⟩) hcall
        (.inl hdown)
    · rw [hmountRun] at hcall
      have hsteps : ¬ StepsHold w (.format u imageExists mkfsVfat mkdosfs m) :=
        fun h => hmount ((h hup.1 humount).2 himage hmkfs hattaches)
      exact ends_of_leaks hsteps hcall hleaks
    · rw [hmountRun] at hcall
      exact ends_of_settled hother (fun _ _ => ⟨hdetach, fun _ _ _ => hmount⟩) hcall (.inr hup')

end Format

/-! ## Runs -/

/-- Between calls that meet their condition the record and the kernel agree, and there the
condition tells exactly which calls keep them together. -/
theorem mount_state_mirrors {imagePath mountPoint : String} {w : World}
    (hreach : Run.Reach step StepsHold (start imagePath mountPoint) w) :
    Mirrors w ∧ ∀ c, Meets w c ↔ StepsHold w c := by
  have hends : ∀ {w}, Settled w → ∀ c, Ends w c := by
    intro w hw c
    cases c with
    | mount m => exact mount_ends m hw
    | unmount u => exact unmount_ends u hw
    | repair u fsckVfat dosfsck m => exact repair_ends hw
    | format u imageExists mkfsVfat mkdosfs m => exact format_ends hw
  have hsettled : Settled w := by
    apply hreach.invariant (P := Settled) (.inl ⟨rfl, rfl⟩)
    intro s c s' hs hsteps hstep
    cases hstep
    exact (hends hs c).elim (fun h => h.2.1) fun h => absurd hsteps h.1
  refine ⟨hsettled.mirrors, fun c => ?_⟩
  obtain ⟨hsteps, -, hmeets⟩ | ⟨hsteps, hmeets⟩ := hends hsettled c
  · exact ⟨fun _ => hsteps, fun _ => hmeets⟩
  · exact ⟨fun h => absurd h hmeets, fun h => absurd h hsteps⟩

def attaching (dev : String) (mount : Exit) : MountIo :=
  ⟨true, true, .failed "", .printed (some (dev ++ "\n")), .success, mount⟩

def image : World := start "/userdata/arkkvm/imgs/ft_disk.img" "/mnt/ft_disk"

/-- `losetup` fails before it attaches anything. -/
def unattached : MountIo := { attaching "/dev/loop0" .success with attach := .failed "busy" }

/-- No loop device is free at first; then the image is mounted, cannot be unmounted while it is
used, is unmounted, and is mounted again by way of another loop device. -/
def secondMount : World :=
  (mount (attaching "/dev/loop1" .success) (unmount ⟨.success, .success⟩
    (unmount ⟨.failed "target is busy", .success⟩ (mount (attaching "/dev/loop0" .success)
      (mount unattached image).1).1).1).1).1

theorem reach_secondMount : Run.Reach step StepsHold image secondMount := by
  have hfailed : StepsHold image (.mount unattached) := by
    rintro - ⟨-, -, -, -, hattach⟩
    cases hattach
  have hfirst : Run.Reach step StepsHold image (mount unattached image).1 :=
    Run.Reach.refl.tail hfailed rfl
  have hmounted := hfirst.tail (a := Call.mount (attaching "/dev/loop0" .success))
    (fun _ _ => rfl) rfl
  have hbusy := hmounted.tail (a := Call.unmount ⟨.failed "target is busy", .success⟩)
    (fun _ _ => rfl) rfl
  have hunmounted := hbusy.tail (a := Call.unmount ⟨.success, .success⟩) (fun _ _ => rfl) rfl
  exact hunmounted.tail (a := Call.mount (attaching "/dev/loop1" .success)) (fun _ _ => rfl) rfl

theorem mirrors_after_second_mount :
    secondMount.kernel = ⟨["/dev/loop1"], ["/dev/loop1"]⟩ ∧
      Mirrors secondMount ∧ ∀ c, Meets secondMount c ↔ StepsHold secondMount c :=
  ⟨by decide +kernel, mount_state_mirrors reach_secondMount⟩

/-- The image has no FAT file system: each attempt to mount it leaves one more loop device. -/
theorem failed_mounts_leak_loops :
    ∃ w, Run.Reach step Run.anyStep image w ∧ w.fs.isMounted = false ∧
      w.kernel = ⟨["/dev/loop1", "/dev/loop0"], []⟩ ∧ ¬ Mirrors w := by
  have hreach : Run.Reach step Run.anyStep image
      (mount (attaching "/dev/loop1" (.failed "wrong fs type"))
        (mount (attaching "/dev/loop0" (.failed "wrong fs type")) image).1).1 :=
    .tail (.tail .refl trivial rfl
      (a := .mount (attaching "/dev/loop0" (.failed "wrong fs type")))) trivial rfl
      (a := .mount (attaching "/dev/loop1" (.failed "wrong fs type")))
  have hkernel : (mount (attaching "/dev/loop1" (.failed "wrong fs type"))
      (mount (attaching "/dev/loop0" (.failed "wrong fs type")) image).1).1.kernel =
        ⟨["/dev/loop1", "/dev/loop0"], []⟩ := by decide +kernel
  refine ⟨_, hreach, by decide +kernel, hkernel, fun hmirrors => ?_⟩
  have hloops := hmirrors.loops_le_one
  rw [hkernel] at hloops
  exact absurd hloops (by decide)

end ArkKvm.FsRemote
