import ArkKvm.Lib.Run
import ArkKvm.Usb.Media

/-!
# Mounts that fail half-way

Every mount call sets the application's state at another point of its sequence of fallible
steps, and only the remote ones look for a medium that is already mounted.
-/

namespace ArkKvm.Media

open Lib

/-- The application's record of the medium, its reader and its NBD device are the same. -/
def SameMedia (w w' : World) : Prop :=
  w'.media = w.media ∧ w'.reader = w.reader ∧ w'.nbd = w.nbd

theorem SameMedia.refl (w : World) : SameMedia w w := ⟨rfl, rfl, rfl⟩

theorem SameMedia.trans {a b c : World} (h : SameMedia a b) (h' : SameMedia b c) :
    SameMedia a c :=
  ⟨h'.1.trans h.1, h'.2.1.trans h.2.1, h'.2.2.trans h.2.2⟩

/-! ## The steps of a mount -/

def serveImage (io : CallIo) : Action String World Unit := do
  Action.ofExcept io.nbdStarted
  Action.ofExcept io.nbdReady
  Action.mapErr (fun _ => "failed to set mass storage image to nbd0")
    (setMassStorageImage io nbdPath)

/-- The steps behind the record of a remote medium all succeed. -/
def Serves (io : CallIo) (w : World) : Prop :=
  io.nbdStarted = .ok () ∧ io.nbdReady = .ok () ∧ (setMassStorageImage io nbdPath w).2 = .ok ()

def withRemote (st : VirtualMediaState) (reader : RemoteReader) (w : World) : World :=
  { w with
    media := some st
    reader := some reader
    nbd := true }

/-- A remote mount: prepare it, look for another medium, record this one and serve it. -/
def remoteMount {α : Type} (io : CallIo) (prepare : Action String World α)
    (st : α → VirtualMediaState) (reader : α → RemoteReader) : Action String World Unit := do
  let a ← prepare
  let w ← Action.read
  Action.ensure (w.media = none) "another virtual media is already mounted"
  Action.modify (withRemote (st a) (reader a))
  serveImage io

def prepareHttp (io : CallIo) (mode : VirtualMediaMode) (size : Except String Int) :
    Action String World Int := do
  Action.ofExcept io.folder
  setMassStorageMode io mode
  Action.ofExcept size

def prepareWebrtc (io : CallIo) (mode : VirtualMediaMode) : Action String World Unit :=
  Action.mapErr (fun _ => "failed to set mass storage mode") (setMassStorageMode io mode)

theorem mountWithHttp_eq (io : CallIo) (url : String) (mode : VirtualMediaMode)
    (size : Except String Int) :
    mountWithHttp io url mode size =
      remoteMount io (prepareHttp io mode size) (fun n => ⟨.http, mode, none, some url, n⟩)
        (.http url) := by
  unfold remoteMount prepareHttp
  rw [Action.bind_assoc]
  unfold mountWithHttp
  congr 1
  funext _
  rw [Action.bind_assoc]
  rfl

theorem mountWithWebrtc_eq (io : CallIo) (filename : String) (size : Int)
    (mode : VirtualMediaMode) :
    mountWithWebrtc io filename size mode =
      remoteMount io (prepareWebrtc io mode)
        (fun _ => ⟨.webRTC, mode, some filename, none, size⟩) (fun _ => .webRTC size) := rfl

/-- The steps of a storage mount before it records the medium. -/
def prepareStorage (io : CallIo) (filename : String) (mode : VirtualMediaMode)
    (size : Option Int) : Action String World (String × Int) := do
  let filename ← Action.ofExcept (Upload.sanitizeFilename filename)
  Action.ofExcept io.folder
  let size ← Action.ofExcept (size.elim (.error ("failed to stat file: " ++ filename)) .ok)
  Action.mapErr (fun _ => "failed to set mass storage mode") (setMassStorageMode io mode)
  Action.mapErr (fun _ => "failed to set mass storage image")
    (setMassStorageImage io (Upload.finalPathOf filename))
  pure (filename, size)

inductive MountCall
  | http (io : CallIo) (url : String) (mode : VirtualMediaMode) (size : Except String Int)
  | webrtc (io : CallIo) (filename : String) (size : Int) (mode : VirtualMediaMode)
  | storage (io : CallIo) (filename : String) (mode : VirtualMediaMode) (size : Option Int)
  | unmount (io : CallIo)

def MountCall.run : MountCall → Action String World Unit
  | .http io url mode size => mountWithHttp io url mode size
  | .webrtc io filename size mode => mountWithWebrtc io filename size mode
  | .storage io filename mode size => mountWithStorage io filename mode size
  | .unmount io => unmountImage io

def MountCall.IsMount : MountCall → Prop
  | .unmount _ => False
  | _ => True

/-- A mount that fails leaves the record as it was, and one that succeeds found nothing
mounted. -/
def Atomic (w : World) (call : MountCall) : Prop :=
  call.IsMount →
    ((call.run w).2 ≠ .ok () → SameMedia w (call.run w).1) ∧
      ((call.run w).2 = .ok () → w.media = none)

/-- A remote mount that gets as far as its record is served, and the steps of a storage mount
do not all succeed while a medium is mounted. -/
def Completes (w : World) : MountCall → Prop
  | .http io url mode size => ∀ w₁ n, prepareHttp io mode size w = (w₁, .ok n) → w.media = none →
      Serves io (withRemote ⟨.http, mode, none, some url, n⟩ (.http url n) w₁)
  | .webrtc io filename size mode => ∀ w₁, prepareWebrtc io mode w = (w₁, .ok ()) →
      w.media = none →
      Serves io (withRemote ⟨.webRTC, mode, some filename, none, size⟩ (.webRTC size) w₁)
  | .storage io filename mode size =>
      (prepareStorage io filename mode size w).2.isOk → w.media = none
  | .unmount _ => True

end ArkKvm.Media
