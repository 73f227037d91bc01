import ArkKvm.Remote.MountState
import ArkKvm.Usb.FileTransferLun

/-!
# The owner of the file transfer image

The file transfer calls of `hardware/usb/storage.rs`.  The image is either mounted on the KVM or
shown to the controlled host at the file transfer LUN; who has it is asked of the mount record
and of the sidecar before each switch.  Calls run one after the other; the USB client is
initialised.
-/

namespace ArkKvm.FtImage

open Lib
open Sidecar

inductive FileTransferTarget
  | none
  | kvm
  | remoteUsb
deriving DecidableEq

structure World where
  /-- `REMOTE_FS` and the kernel -/
  disk : FsRemote.World
  /-- the sidecar, and what the application knows of the USB devices -/
  media : Media.World

abbrev Op : Type := Action String World Unit

structure CallIo where
  /-- the sidecar answers the first question about the mount state, and the second -/
  first : Bool
  second : Bool
  sidecar : Sidecar.Io
  mount : FsRemote.MountIo
  unmount : FsRemote.UnmountIo
  imageExists : Bool
  stat : Bool
  /-- the new target is saved in the configuration -/
  saved : Bool

/-- `IMG_FILE_PATH` and `IMG_FILE_NAME`. -/
def imageFile : String := "/userdata/arkkvm/imgs/ft_disk.img"

def onDisk (x : FsRemote.Op Unit) : Op := fun w =>
  ({ w with disk := (x w.disk).1 }, (x w.disk).2)

def onMedia (x : Action String Media.World Unit) : Op := fun w =>
  ({ w with media := (x w.media).1 }, (x w.media).2)

def getFileTransferState (answered : Bool) (w : World) : FileTransferTarget :=
  if w.disk.fs.isMounted then .kvm
  else if answered = true ∧ Media.ftPath w.media.manager = some imageFile then .remoteUsb
  else .none

def setFtMountTarget (io : CallIo) : Op :=
  Action.ensure (io.saved = true) "failed to save config"

def unloadWithFileImg (io : CallIo) : Op :=
  Action.mapErr ("File Tranfser Unloading unmount fatfs error: " ++ ·)
    (onDisk (FsRemote.unmount io.unmount))

def unexport (io : CallIo) : Op := onMedia (Media.umsControl (Media.umsFtUnmount io.sidecar))

def unmountFileImg (io : CallIo) (answered : Bool) : Op := do
  let w ← Action.read
  match getFileTransferState answered w with
  | .none => pure ()
  | .kvm =>
      unloadWithFileImg io
      setFtMountTarget io
  | .remoteUsb =>
      unexport io
      setFtMountTarget io

def mountOnKvm (io : CallIo) : Op := do
  Action.mapErr ("Failed to mount file system: " ++ ·) (onDisk (FsRemote.mount io.mount))
  setFtMountTarget io

def loadWithFileImg (io : CallIo) : Op := do
  let w ← Action.read
  match getFileTransferState io.first w with
  | .none => mountOnKvm io
  | .kvm => pure ()
  | .remoteUsb =>
      unmountFileImg io io.second
      mountOnKvm io

def exportImage (io : CallIo) : Op := do
  Action.ensure (io.imageExists = true) "image file not found"
  Action.ensure (io.stat = true) "failed to stat file: ft_disk.img"
  Action.mapErr (fun _ => "failed to set mass storage image")
    (onMedia (Media.umsControl (Media.umsFtMount io.sidecar imageFile)))
  setFtMountTarget io

def mountWithFileImg (io : CallIo) : Op := do
  let w ← Action.read
  match getFileTransferState io.first w with
  | .none => exportImage io
  | .kvm =>
      unloadWithFileImg io
      exportImage io
  | .remoteUsb => pure ()

def reboot (io : Media.CallIo) : Option (UsbConfig × UsbDevices) → Op
  | none => pure ()
  | some (usbConfig, devices) => onMedia (Media.reconcileUsbRuntime io usbConfig devices)

def setFileTransfer (io : CallIo) (mio : Media.CallIo) (enabled : Bool)
    (change : Option (UsbConfig × UsbDevices)) : Op := do
  let w ← Action.read
  if enabled = false ∧ getFileTransferState io.first w = .remoteUsb then
    unmountFileImg io io.second
    reboot mio change
  else reboot mio change

/-- A new process of the application: the kernel and the sidecar keep what they have. -/
def restart : Op := Action.modify fun w =>
  { disk := { w.disk with
      fs := { w.disk.fs with
        loopDevice := none
        isMounted := false } }
    media := { w.media with
      media := none
      usbInfo := {}
      reader := none
      nbd := false } }

inductive Call
  | load (io : CallIo)
  | mountUsb (io : CallIo)
  | unmount (io : CallIo)
  | setFileTransfer (io : CallIo) (mio : Media.CallIo) (enabled : Bool)
      (change : Option (UsbConfig × UsbDevices))
  | repair (u : FsRemote.UnmountIo) (fsckVfat dosfsck : FsRemote.Exit) (m : FsRemote.MountIo)
  | format (u : FsRemote.UnmountIo) (imageExists : Bool) (mkfsVfat mkdosfs : FsRemote.Exit)
      (m : FsRemote.MountIo)
  | virtualMedia (call : Media.MountCall)
  | reconcile (io : Media.CallIo) (usbConfig : UsbConfig) (devices : UsbDevices)
  | restart

def Call.run : Call → Op
  | .load io => loadWithFileImg io
  | .mountUsb io => mountWithFileImg io
  | .unmount io => unmountFileImg io io.first
  | .setFileTransfer io mio enabled change => FtImage.setFileTransfer io mio enabled change
  | .repair u fsckVfat dosfsck m => onDisk (FsRemote.repairFilesystem u fsckVfat dosfsck m)
  | .format u imageExists mkfsVfat mkdosfs m =>
      onDisk (FsRemote.formatFilesystem u imageExists mkfsVfat mkdosfs m)
  | .virtualMedia call => onMedia call.run
  | .reconcile io usbConfig devices => onMedia (Media.reconcileUsbRuntime io usbConfig devices)
  | .restart => FtImage.restart

def step (w : World) (c : Call) : Option World := some (c.run w).1

/-! ## What the calls should keep -/

def Mounted (w : World) : Prop := w.disk.kernel.mounts ≠ []

def Exported (w : World) : Prop := Media.ftPath w.media.manager = some imageFile

/-- One side at most has the image, and a record of no mount is right. -/
def OneOwner (w : World) : Prop :=
  ¬ (Mounted w ∧ Exported w) ∧ (w.disk.fs.isMounted = false → ¬ Mounted w)

/-- Where the image is exported and is to be loaded, the questions of the call are answered or the
mount fails; and the application does not restart on a mounted image. -/
def Asked (w : World) : Call → Prop
  | .load io => Exported w →
      (io.first = true ∧ io.second = true) ∨ (FsRemote.mount io.mount w.disk).2 ≠ .ok ()
  | .restart => ¬ Mounted w
  | _ => True

end ArkKvm.FtImage
