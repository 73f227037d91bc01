import ArkKvm.Lib.Table
import ArkKvm.Lib.Action
import ArkKvm.Lib.Text
import ArkKvm.Lib.WriteBehind

/-!
# Virtual media uploads

The upload maps of `hardware/usb/storage.rs` and the functions on them.  Uploads
write to `<name>.incomplete` through an append handle, and a finished file is
renamed to its final name.  The disk keeps names and inodes apart, since an open
handle stays on its inode when the name moves.  Every function that takes both
map locks for its whole body is one action; the outcome of each file operation
is an input.  A write that fails may be found out only by the next write or flush
of its handle, so a handle remembers such an error.
-/

namespace ArkKvm.Upload

open Lib

abbrev Path := String

abbrev UploadId := Nat

structure Disk where
  names : Path → Option Nat
  data : Nat → List UInt8
  nextInode : Nat

namespace Disk

def empty : Disk := ⟨fun _ => none, fun _ => [], 0⟩

/-- `fs::metadata(..).len()`, 0 for a file that does not exist. -/
def len (d : Disk) (p : Path) : Int :=
  match d.names p with
  | some i => (d.data i).length
  | none => 0

def append (d : Disk) (inode : Nat) (bytes : List UInt8) : Disk :=
  { d with data := fun i => if i = inode then d.data i ++ bytes else d.data i }

def create (d : Disk) (p : Path) : Disk × Nat :=
  match d.names p with
  | some i => (d, i)
  | none =>
      ({ names := fun q => if q = p then some d.nextInode else d.names q
         data := fun i => if i = d.nextInode then [] else d.data i
         nextInode := d.nextInode + 1 }, d.nextInode)

def rename (d : Disk) (p q : Path) : Disk :=
  { d with names := fun r => if r = p then none else if r = q then d.names p else d.names r }

def remove (d : Disk) (p : Path) : Disk :=
  { d with names := fun r => if r = p then none else d.names r }

end Disk

structure FileHandle where
  inode : Nat
  /-- the error of a write that the next write or flush reports -/
  failed : Bool := false
deriving DecidableEq

structure PendingUpload where
  file : Option FileHandle
  size : Int
  alreadyUploadedBytes : Int
  uploadPath : Path
  finalPath : Path
  /-- a data channel task owns this session -/
  channelOpen : Bool

structure Store where
  disk : Disk
  pending : Table UploadId PendingUpload
  closed : Table UploadId PendingUpload
  nextId : UploadId

structure StorageFileUpload where
  alreadyUploadedBytes : Int
  dataChannel : UploadId
deriving DecidableEq

abbrev Op (α : Type) := Action String Store α

/-! ## Names -/

def imagesFolder : String := "/userdata/arkkvm/images"

def splitPath : List Char → List (List Char)
  | [] => [[]]
  | c :: cs =>
      if c = '/' then [] :: splitPath cs
      else match splitPath cs with
        | part :: parts => (c :: part) :: parts
        | [] => [[c]]

/-- `sanitize_filename`: the last component of a relative path without `..`. -/
def sanitizeFilename (filename : String) : Except String String :=
  let parts := (splitPath filename.toList).filter fun p => p ≠ [] ∧ p ≠ ['.']
  if filename.toList.head? = some '/' ∨ ['.', '.'] ∈ parts then .error "invalid filename"
  else match parts.getLast? with
    | none => .error "invalid filename"
    | some base => .ok (String.ofList base)

def finalPathOf (filename : String) : Path := imagesFolder ++ "/" ++ filename

def uploadPathOf (filename : String) : Path := finalPathOf filename ++ ".incomplete"

theorem uploadPathOf_ne_finalPathOf (filename : String) :
    uploadPathOf filename ≠ finalPathOf filename := by
  intro h
  have hlen := congrArg String.length h
  simp [uploadPathOf] at hlen

/-! ## Starting an upload -/

structure StartOutcome where
  folder : Bool
  stat : Bool
  removed : Bool
  opened : Bool
  pick : UploadId

def StartOutcome.works : StartOutcome := ⟨true, true, true, true, 0⟩

/-- An active session of this path and size: reuse it from the length on disk. -/
def reuseActive (diskSize size : Int) (uploadId : UploadId) (entry : PendingUpload) :
    Op StorageFileUpload := do
  Action.ensure (entry.channelOpen = false) "upload already in progress"
  Action.ensure (diskSize ≤ size) "incomplete upload larger than expected size"
  fun s =>
    ({ s with
      pending := s.pending.insert uploadId { entry with alreadyUploadedBytes := diskSize } },
      .ok { alreadyUploadedBytes := diskSize, dataChannel := uploadId })

/-- Drop the idle sessions of a path whose file is too long, and the file. -/
def discardOvershot (o : StartOutcome) (uploadPath : Path) : Op Unit := do
  let s ← Action.read
  Action.ensure
    ((s.pending.entries.any fun x => x.2.uploadPath = uploadPath && x.2.channelOpen) = false)
    "upload already in progress"
  fun s =>
    ({ s with
       pending := Table.removeWhere s.pending fun e => e.uploadPath = uploadPath && !e.channelOpen
       closed := Table.removeWhere s.closed fun e => e.uploadPath = uploadPath }, .ok ())
  Action.ensure (o.removed = true) "failed to remove overshot upload"
  fun s => ({ s with disk := s.disk.remove uploadPath }, .ok ())

/-- Continue on the existing file: with the closed session of this path and size
when there is one, else with a new session that replaces the closed ones. -/
def resumePartial (o : StartOutcome) (inode : Nat) (diskSize size : Int)
    (uploadPath finalPath : Path) :
    Op StorageFileUpload := fun s =>
  match Table.findEntry s.closed
    (fun e => e.finalPath = finalPath && e.uploadPath = uploadPath && e.size = size) o.pick with
  | some (uploadId, closedEntry) =>
      let entry := { closedEntry with
        channelOpen := false
        size := size
        alreadyUploadedBytes := diskSize }
      if o.opened then
        ({ s with
           closed := s.closed.erase uploadId
           pending := s.pending.insert uploadId { entry with file := some { inode := inode } } },
          .ok { alreadyUploadedBytes := diskSize, dataChannel := uploadId })
      else ({ s with closed := s.closed.insert uploadId entry },
        .error "failed to reopen partial upload")
  | none =>
      let closed := Table.removeWhere s.closed fun e => e.uploadPath = uploadPath
      if o.opened then
        ({ s with
           closed := closed
           pending := s.pending.insert s.nextId
             { file := some { inode := inode }
               size := size
               alreadyUploadedBytes := diskSize
               uploadPath := uploadPath
               finalPath := finalPath
               channelOpen := false }
           nextId := s.nextId + 1 },
          .ok { alreadyUploadedBytes := diskSize, dataChannel := s.nextId })
      else ({ s with closed := closed, nextId := s.nextId + 1 },
        .error "failed to reopen partial upload")

def startFresh (o : StartOutcome) (size : Int) (uploadPath finalPath : Path) :
    Op StorageFileUpload := do
  Action.ensure (o.opened = true) "failed to open file for upload"
  fun s =>
    ({ s with
       disk := (s.disk.create uploadPath).1
       pending := s.pending.insert s.nextId
         { file := some { inode := (s.disk.create uploadPath).2 }
           size := size
           alreadyUploadedBytes := 0
           uploadPath := uploadPath
           finalPath := finalPath
           channelOpen := false }
       nextId := s.nextId + 1 },
      .ok { alreadyUploadedBytes := 0, dataChannel := s.nextId })

def startLocked (o : StartOutcome) (size : Int) (uploadPath finalPath : Path) :
    Op StorageFileUpload := do
  let s ← Action.read
  Action.ensure (s.disk.names uploadPath ≠ none → o.stat = true) "failed to stat upload"
  let diskSize := s.disk.len uploadPath
  match Table.findEntry s.pending (fun e => e.uploadPath = uploadPath && e.size = size) o.pick with
  | some (uploadId, entry) => reuseActive diskSize size uploadId entry
  | none =>
      match s.disk.names uploadPath with
      | some inode =>
          if size < diskSize then do
            discardOvershot o uploadPath
            startFresh o size uploadPath finalPath
          else resumePartial o inode diskSize size uploadPath finalPath
      | none => startFresh o size uploadPath finalPath

def startStorageFileUpload (o : StartOutcome) (finalExists : Bool) (filename : String)
    (size : Int) :
    Op StorageFileUpload := do
  let base ← Action.ofExcept (sanitizeFilename filename)
  Action.ensure (o.folder = true) "failed to create images folder"
  Action.ensure (finalExists = false) ("file already exists: " ++ base)
  startLocked o size (uploadPathOf base) (finalPathOf base)

/-! ## Channels and data -/

def claimUploadChannel (uploadId : UploadId) : Op Unit := fun s =>
  match s.pending.lookup uploadId with
  | none => (s, .error "upload not found")
  | some entry =>
      if entry.channelOpen then (s, .error "upload already in progress")
      else
        ({ s with pending := s.pending.insert uploadId { entry with channelOpen := true } }, .ok ())

def bytesWithinSize (already size : Int) (data : List UInt8) : List UInt8 :=
  if size ≤ already then []
  else if (data.length : Int) ≤ size - already then data
  else data.take (size - already).toNat

/-- A session after a write of `len` bytes: the counter follows a write that answers success,
and the handle keeps an error that was not reported. -/
def PendingUpload.wrote (entry : PendingUpload) (len : Nat) (handed : WriteBehind.Handed) :
    PendingUpload :=
  { entry with
    file := entry.file.map ({ · with failed := handed.deferred })
    alreadyUploadedBytes := entry.alreadyUploadedBytes + (if handed.taken then len else 0 : Nat) }

def appendUploadData (uploadId : UploadId) (data : List UInt8) (fault : Option Nat) :
    Op (Int × Int) := fun s =>
  match s.pending.lookup uploadId with
  | none => (s, .error "upload not found")
  | some entry =>
      let data := bytesWithinSize entry.alreadyUploadedBytes entry.size data
      if data = [] then (s, .ok (entry.size, entry.alreadyUploadedBytes))
      else
        match entry.file with
        | none => (s, .error "upload file handle not open")
        | some file =>
            let handed := WriteBehind.handOver file.failed data.length fault
            let entry := entry.wrote data.length handed
            ({ s with
               disk := s.disk.append file.inode (handed.landed data)
               pending := s.pending.insert uploadId entry },
              if handed.taken then .ok (entry.size, entry.alreadyUploadedBytes)
              else .error "failed to write upload")

/-- The outcome of each file operation of `complete_upload`. -/
structure CompleteOutcome where
  /-- the first `exists()` finds the file when it is there; its own stat may fail -/
  seenBefore : Bool
  statBefore : Bool
  flushed : Bool
  synced : Bool
  seenAfter : Bool
  statAfter : Bool
  renamed : Bool
  reopened : Bool
  removed : Bool

def CompleteOutcome.works : CompleteOutcome :=
  ⟨true, true, true, true, true, true, true, true, true⟩

def settle (o : CompleteOutcome) (uploadId : UploadId) (entry : PendingUpload) (already : Int) :
    Op Int := fun s =>
  if already = entry.size then
    if o.renamed then
      ({ s with
         disk := s.disk.rename entry.uploadPath entry.finalPath
         pending := s.pending.erase uploadId }, .ok already)
    else
      -- the handle was taken before the rename; it comes back only if the reopen works
      match s.disk.names entry.uploadPath, o.reopened with
      | some inode, true =>
          ({ s with
             pending := s.pending.insert uploadId
               { entry with
                 file := some { inode := inode }
                 alreadyUploadedBytes := already
                 channelOpen := false } },
            .error "failed to rename uploaded file")
      | _, _ =>
          ({ s with
             pending := s.pending.insert uploadId
               { entry with
                 file := none
                 alreadyUploadedBytes := already } },
            .error "failed to rename uploaded file")
  else if entry.size < already then
    ({ s with
       disk := if o.removed then s.disk.remove entry.uploadPath else s.disk
       pending := s.pending.erase uploadId }, .ok 0)
  else
    ({ s with
       pending := s.pending.erase uploadId
       closed := s.closed.insert uploadId
         { entry with file := none, alreadyUploadedBytes := already, channelOpen := false } },
      .ok already)

/-- `upload_path.exists()`, which reads false when its stat fails. -/
def existsAt (s : Store) (seen : Bool) (p : Path) : Bool := (s.disk.names p).isSome && seen

/-- The length on disk for a file that `exists()` found. -/
def lenSeen (s : Store) (seen : Bool) (p : Path) : Int :=
  if existsAt s seen p then s.disk.len p else 0

/-- `flush` on the handle of a session: it reports the error of an earlier write. -/
def flushFile (flushed : Bool) (uploadId : UploadId) (entry : PendingUpload) : Op Unit := fun s =>
  match entry.file with
  | none => (s, .ok ())
  | some file =>
      if file.failed then
        ({ s with
           pending := s.pending.insert uploadId
             { entry with file := some { file with failed := false } } },
          .error "failed to flush upload")
      else if flushed then (s, .ok ())
      else (s, .error "failed to flush upload")

def completeUpload (o : CompleteOutcome) (uploadId : UploadId) : Op Int := do
  let s ← Action.read
  match s.pending.lookup uploadId with
  | none => Action.fail "upload not found"
  | some entry => do
      Action.ensure (existsAt s o.seenBefore entry.uploadPath = true → o.statBefore = true)
        "failed to stat upload"
      flushFile o.flushed uploadId entry
      Action.ensure (entry.file ≠ none → o.synced = true) "failed to sync upload"
      Action.ensure (existsAt s o.seenAfter entry.uploadPath = true → o.statAfter = true)
        "failed to stat upload"
      settle o uploadId entry (lenSeen s o.seenAfter entry.uploadPath)

def getUploadProgress (uploadId : UploadId) : Op (Int × Int) := fun s =>
  match s.pending.lookup uploadId with
  | none => (s, .error "upload not found")
  | some entry => (s, .ok (entry.size, entry.alreadyUploadedBytes))

end ArkKvm.Upload
