import ArkKvm.Lib.Disk
import ArkKvm.Upload.Store

/-!
# File transfer uploads

The upload maps of the file transfer page in `hardware/usb/storage.rs` and the functions on
them.  A file `name` is collected in `name.ftcache` and renamed when the counter of its session
has reached the announced size.  The functions of the source release the map locks between
their sections; each section is an action of its own here, and `startFtFileUpload` and
`completeFtUpload` are their compositions for a caller that nobody disturbs.
-/

namespace ArkKvm.FtUpload

open Lib
open Upload (Path UploadId StorageFileUpload bytesWithinSize)

structure AsyncFileWriter where
  inode : Nat
  /-- the handle was opened for appending, so the position is not used -/
  append : Bool
  currentPosition : Nat
  /-- the error of a write that the next write reports -/
  failed : Bool := false
deriving DecidableEq

structure FtPendingUpload where
  writer : Option AsyncFileWriter
  size : Int
  alreadyUploadedBytes : Int
  uploadPath : Path
  finalPath : Path
  /-- a data channel task owns this session -/
  channelOpen : Bool
deriving DecidableEq

structure Store where
  disk : Disk Path
  pending : Table UploadId FtPendingUpload
  closed : Table UploadId FtPendingUpload
  nextId : UploadId

abbrev Op (α : Type) := Action String Store α

/-! ## Names -/

/-- `replace("//", "/")`. -/
def replaceDoubleSlash : List Char → List Char
  | '/' :: '/' :: cs => '/' :: replaceDoubleSlash cs
  | c :: cs => c :: replaceDoubleSlash cs
  | [] => []

def filePathOf (path name : String) : Path :=
  String.ofList (replaceDoubleSlash (path ++ "/" ++ name).toList)

def fileCachePathOf (path name : String) : Path :=
  String.ofList (replaceDoubleSlash (path ++ "/" ++ name ++ ".ftcache").toList)

theorem replaceDoubleSlash_cons {c : Char} (h : c ≠ '/') (cs : List Char) :
    replaceDoubleSlash (c :: cs) = c :: replaceDoubleSlash cs := by
  rw [replaceDoubleSlash]
  rintro _ rfl
  exact absurd rfl h

/-- A character that is no slash ends what is replaced before it. -/
theorem replaceDoubleSlash_append {c : Char} (h : c ≠ '/') (xs cs : List Char) :
    replaceDoubleSlash (xs ++ c :: cs) = replaceDoubleSlash xs ++ c :: replaceDoubleSlash cs := by
  induction xs using replaceDoubleSlash.induct with
  | case1 xs ih =>
      show '/' :: replaceDoubleSlash (xs ++ c :: cs) = _
      rw [ih]
      rfl
  | case2 x xs hpair ih =>
      have hxs : replaceDoubleSlash (x :: xs) = x :: replaceDoubleSlash xs := by
        rw [replaceDoubleSlash]
        exact hpair
      rw [hxs, List.cons_append, replaceDoubleSlash, ih]
      · rfl
      · intro ys hx hys
        cases xs with
        | nil =>
            cases hys
            exact h rfl
        | cons y ys' =>
            cases hys
            exact hpair ys' hx rfl
  | case3 => exact replaceDoubleSlash_cons h cs

theorem fileCachePathOf_ne_filePathOf (path name : String) :
    fileCachePathOf path name ≠ filePathOf path name := by
  intro h
  have hchars := String.ofList_injective h
  have hsplit : (path ++ "/" ++ name ++ ".ftcache").toList =
      (path ++ "/" ++ name).toList ++ '.' :: "ftcache".toList := by
    rw [String.toList_append]
    rfl
  rw [hsplit, replaceDoubleSlash_append (by decide)] at hchars
  exact absurd (congrArg List.length hchars) (by simp)

/-! ## Files -/

/-- `AsyncFileWriter::write_chunk` gets `bytes` to the file: at the end when the handle was
opened for appending, else at the position of the writer. -/
def AsyncFileWriter.put (w : AsyncFileWriter) (bytes : List UInt8) (d : Disk Path) : Disk Path :=
  if bytes = [] then d
  else d.modify w.inode fun xs =>
    writeAt xs (if w.append then xs.length else w.currentPosition) bytes

def fsExists (works : Bool) (p : Path) : Op Bool := do
  Action.ensure (works = true) "Filesystem is not mounted. Call mount() first."
  fun s => (s, .ok (s.disk.names p).isSome)

def fileSize (works : Bool) (p : Path) : Op Int := fun s =>
  match s.disk.contents p, works with
  | some xs, true => (s, .ok xs.length)
  | _, _ => (s, .error "Failed to get file metadata")

def createAsyncWriter (works : Bool) (p : Path) (bytesWritten : Nat) : Op AsyncFileWriter := do
  Action.ensure (works = true) "Failed to create file"
  fun s =>
    if 0 < bytesWritten then
      ({ s with disk := (s.disk.openCreate p).1 },
        .ok { inode := (s.disk.openCreate p).2, append := true, currentPosition := bytesWritten })
    else
      ({ s with disk := (s.disk.openTruncate p).1 },
        .ok { inode := (s.disk.openTruncate p).2, append := false, currentPosition := 0 })

def createEmptyFile (works : Bool) (p : Path) : Op Unit := do
  Action.ensure (works = true) "Failed to create file"
  fun s => ({ s with disk := (s.disk.openTruncate p).1 }, .ok ())

def deleteFile (works : Bool) (p : Path) : Op Unit := fun s =>
  if s.disk.names p = none then (s, .ok ())
  else if works then ({ s with disk := s.disk.remove p }, .ok ())
  else (s, .error "Failed to delete file")

/-- `RemoteFs::rename`. -/
def renameFile (works : Bool) (p q : Path) : Op Unit := do
  let s ← Action.read
  Action.ensure (s.disk.names p ≠ none ∧ works = true) "Failed to rename"
  fun s => ({ s with disk := s.disk.rename p q }, .ok ())

/-! ## Starting an upload -/

/-- The first look of a start: the final name is free; the length of the cache file, -1 when
there is none. -/
def cacheSize (finalKnown cacheKnown sized : Bool) (filePath cachePath : Path) : Op Int := do
  let taken ← fsExists finalKnown filePath
  Action.ensure (taken = false) "File already exists"
  let cached ← fsExists cacheKnown cachePath
  if cached then fileSize sized cachePath else pure (-1)

/-- The active session of this path and size that a start finds.  `fitting` is the check
`already_uploaded_bytes <= size`, which the look before a resume leaves out. -/
def activeUpload (fitting : Bool) (filePath : Path) (size : Int) (pick : UploadId) :
    Op (Option StorageFileUpload) := fun s =>
  match Table.findEntry s.pending (fun e => e.finalPath = filePath && e.size = size) pick with
  | none => (s, .ok none)
  | some (uploadId, entry) =>
      if entry.channelOpen then (s, .error "upload already in progress")
      else if fitting && size < entry.alreadyUploadedBytes then (s, .ok none)
      else (s, .ok (some
        { alreadyUploadedBytes := entry.alreadyUploadedBytes, dataChannel := uploadId }))

/-- The closed sessions that a cache file of this length belongs to.  The announced size of
the session is not looked at. -/
def matchesClosed (filePath cachePath : Path) (len : Int) (e : FtPendingUpload) : Bool :=
  e.finalPath = filePath && e.uploadPath = cachePath && e.alreadyUploadedBytes = len

def ftClosedMatches (filePath cachePath : Path) (len : Int) (s : Store) : Bool :=
  s.closed.entries.any fun x => matchesClosed filePath cachePath len x.2

def onPath (filePath cachePath : Path) (e : FtPendingUpload) : Bool :=
  e.finalPath = filePath || e.uploadPath = cachePath

structure Removed where
  pending : Table UploadId FtPendingUpload
  closed : Table UploadId FtPendingUpload

/-- Take all sessions of a path out of both maps and their writers out of the sessions. -/
def takeEntries (filePath cachePath : Path) : Op Removed := fun s =>
  let taken (m : Table UploadId FtPendingUpload) : Table UploadId FtPendingUpload :=
    Table.mapValues (fun e => { e with writer := none })
      (Table.removeWhere m fun e => !onPath filePath cachePath e)
  if s.pending.entries.any fun x => x.2.channelOpen && onPath filePath cachePath x.2 then
    (s, .error "upload already in progress")
  else
    ({ s with
       pending := Table.removeWhere s.pending (onPath filePath cachePath)
       closed := Table.removeWhere s.closed (onPath filePath cachePath) },
      .ok { pending := taken s.pending, closed := taken s.closed })

/-- Put the sessions back, over whatever has their ids by now. -/
def restoreEntries (r : Removed) (s : Store) : Store :=
  { s with pending := r.pending ∪ s.pending, closed := r.closed ∪ s.closed }

structure DeleteOutcome where
  known : Bool
  /-- a file that is there is seen: `exists` takes a failing stat for a missing file -/
  seen : Bool
  deleted : Bool

def deleteCache (o : DeleteOutcome) (cachePath : Path) : Op Unit := do
  let cached ← fsExists o.known cachePath
  if cached && o.seen then deleteFile o.deleted cachePath else pure ()

def deleteOrRestore (meanwhile : Store → Store) (o : DeleteOutcome) (cachePath : Path)
    (removed : Removed) : Op Unit := fun s =>
  match deleteCache o cachePath (meanwhile s) with
  | (s', .ok ()) => (s', .ok ())
  | (s', .error e) => (restoreEntries removed s', .error e)

/-- `discard_ft_cache`.  `meanwhile` is what other tasks do after the maps are unlocked; a
writer whose shutdown fails is dropped all the same. -/
def discardFtCache (meanwhile : Store → Store) (o : DeleteOutcome) (filePath cachePath : Path) :
    Op Unit := do
  let removed ← takeEntries filePath cachePath
  deleteOrRestore meanwhile o cachePath removed

/-- Move the closed session of a cache file of this length to the active map. -/
def moveClosed (filePath cachePath : Path) (len : Int) (writer : AsyncFileWriter)
    (pick : UploadId) : Op (Option StorageFileUpload) := fun s =>
  match Table.findEntry s.closed (matchesClosed filePath cachePath len) pick with
  | none => (s, .ok none)
  | some (uploadId, entry) =>
      ({ s with
         closed := s.closed.erase uploadId
         pending := s.pending.insert uploadId
           { entry with
             channelOpen := false
             alreadyUploadedBytes := len
             writer := some writer } },
        .ok (some { alreadyUploadedBytes := len, dataChannel := uploadId }))

def resumeClosed (filePath cachePath : Path) (size len : Int) (writer : AsyncFileWriter)
    (pickActive pickClosed : UploadId) : Op (Option StorageFileUpload) := do
  match ← activeUpload false filePath size pickActive with
  | some up => pure (some up)
  | none => moveClosed filePath cachePath len writer pickClosed

def enterSession (filePath cachePath : Path) (size : Int) (writer : AsyncFileWriter) :
    Op StorageFileUpload := fun s =>
  ({ s with
     pending := s.pending.insert s.nextId
       { writer := some writer
         size := size
         alreadyUploadedBytes := 0
         uploadPath := cachePath
         finalPath := filePath
         channelOpen := false }
     nextId := s.nextId + 1 },
    .ok { alreadyUploadedBytes := 0, dataChannel := s.nextId })

def insertFresh (filePath cachePath : Path) (size : Int) (writer : AsyncFileWriter)
    (pick : UploadId) : Op StorageFileUpload := do
  match ← activeUpload true filePath size pick with
  | some up => pure up
  | none => enterSession filePath cachePath size writer

structure StartOutcome where
  finalKnown : Bool
  cacheKnown : Bool
  sized : Bool
  discarded : DeleteOutcome
  reopened : Bool
  created : Bool
  opened : Bool
  pickActive : UploadId
  pickClosed : UploadId

def startFresh (o : StartOutcome) (filePath cachePath : Path) (size : Int) :
    Op StorageFileUpload := do
  createEmptyFile o.created cachePath
  let writer ← createAsyncWriter o.opened cachePath 0
  insertFresh filePath cachePath size writer o.pickActive

def startResumed (o : StartOutcome) (filePath cachePath : Path) (size len : Int) :
    Op StorageFileUpload := do
  let writer ← createAsyncWriter o.reopened cachePath len.toNat
  match ← resumeClosed filePath cachePath size len writer o.pickActive o.pickClosed with
  | some up => pure up
  | none => startFresh o filePath cachePath size

/-- What a start does with a cache file of length `len` when no active session answers. -/
def startUnmatched (o : StartOutcome) (filePath cachePath : Path) (size len : Int) :
    Op StorageFileUpload := do
  let s ← Action.read
  if 0 ≤ len ∧ (size < len ∨ ftClosedMatches filePath cachePath len s = false) then do
    discardFtCache id o.discarded filePath cachePath
    startFresh o filePath cachePath size
  else if 0 ≤ len then startResumed o filePath cachePath size len
  else startFresh o filePath cachePath size

/-- `start_ft_file_upload` when no other task runs in between. -/
def startFtFileUpload (o : StartOutcome) (path name : String) (size : Int) :
    Op StorageFileUpload := do
  let filePath := filePathOf path name
  let cachePath := fileCachePathOf path name
  let len ← cacheSize o.finalKnown o.cacheKnown o.sized filePath cachePath
  match ← activeUpload true filePath size o.pickActive with
  | some up => pure up
  | none => startUnmatched o filePath cachePath size len

/-! ## Channels and data -/

def claimFtUploadChannel (uploadId : UploadId) : Op Unit := fun s =>
  match s.pending.lookup uploadId with
  | none => (s, .error "upload not found")
  | some entry =>
      if entry.channelOpen then (s, .error "upload already in progress")
      else
        ({ s with pending := s.pending.insert uploadId { entry with channelOpen := true } }, .ok ())

/-- A session after a write of `len` bytes: position and counter follow a write that answers
success, and the handle keeps an error that was not reported. -/
def FtPendingUpload.wrote (entry : FtPendingUpload) (len : Nat) (handed : WriteBehind.Handed) :
    FtPendingUpload :=
  let moved : Nat := if handed.taken then len else 0
  { entry with
    writer := entry.writer.map fun w =>
      { w with currentPosition := w.currentPosition + moved, failed := handed.deferred }
    alreadyUploadedBytes := entry.alreadyUploadedBytes + moved }

def appendFtUploadData (uploadId : UploadId) (data : List UInt8) (fault : Option Nat) :
    Op (Int × Int) := fun s =>
  match s.pending.lookup uploadId with
  | none => (s, .error "upload not found")
  | some entry =>
      let data := bytesWithinSize entry.alreadyUploadedBytes entry.size data
      if data = [] then (s, .ok (entry.size, entry.alreadyUploadedBytes))
      else
        match entry.writer with
        | none => (s, .error "writer not found")
        | some w =>
            let handed := WriteBehind.handOver w.failed data.length fault
            let entry := entry.wrote data.length handed
            ({ s with
               disk := w.put (handed.landed data) s.disk
               pending := s.pending.insert uploadId entry },
              if handed.taken then .ok (entry.size, entry.alreadyUploadedBytes)
              else .error "Failed to write chunk")

/-- The first section of `complete_ft_upload`: flush and close the writer.  The flush is a
`sync_all`, which waits for the last write but does not report its error; the shutdown would,
and its error is only logged. -/
def completeFlush (flushed : Bool) (uploadId : UploadId) : Op FtPendingUpload := fun s =>
  match s.pending.lookup uploadId with
  | none => (s, .error "upload not found")
  | some entry =>
      if entry.writer ≠ none ∧ flushed = false then
        ({ s with pending := s.pending.insert uploadId { entry with channelOpen := false } },
          .error "Failed to flush file")
      else
        ({ s with pending := s.pending.insert uploadId { entry with writer := none } },
          .ok { entry with writer := none })

/-- Move a session to the closed map.  Only the ending of a partial upload drops the writer
of the entry it finds. -/
def closeEntry (dropWriter : Bool) (uploadId : UploadId) (s : Store) : Store :=
  match s.pending.lookup uploadId with
  | none => s
  | some entry =>
      { s with
        pending := s.pending.erase uploadId
        closed := s.closed.insert uploadId
          { entry with
            channelOpen := false
            writer := if dropWriter then none else entry.writer } }

/-- The outcome of each file operation of `complete_ft_upload`. -/
structure CompleteOutcome where
  flushed : Bool
  renamed : Bool
  deleted : Bool

def afterRename (renamed : Bool) (entry : FtPendingUpload) (uploadId : UploadId) : Op Unit :=
  fun s =>
    if renamed then ({ s with pending := s.pending.erase uploadId }, .ok ())
    else
      (closeEntry false uploadId s,
        .error ("failed to rename uploaded file: " ++ entry.uploadPath ++ " -> " ++
          entry.finalPath))

def afterOvershot (uploadId : UploadId) : Op Unit := fun s =>
  ({ s with pending := s.pending.erase uploadId }, .ok ())

def afterPartial (uploadId : UploadId) : Op Unit := fun s =>
  match s.pending.lookup uploadId with
  | none => (s, .error "upload not found")
  | some _ => (closeEntry true uploadId s, .ok ())

def completeFtUpload (o : CompleteOutcome) (uploadId : UploadId) : Op Unit := do
  let entry ← completeFlush o.flushed uploadId
  if entry.alreadyUploadedBytes = entry.size then do
    let renamed ← Action.attempt (renameFile o.renamed entry.uploadPath entry.finalPath)
    afterRename renamed entry uploadId
  else if entry.size < entry.alreadyUploadedBytes then do
    let _ ← Action.attempt (deleteFile o.deleted entry.uploadPath)
    afterOvershot uploadId
  else afterPartial uploadId

def getFtUploadProgress (uploadId : UploadId) : Op (Int × Int) := fun s =>
  match s.pending.lookup uploadId with
  | none => (s, .error "upload not found")
  | some entry => (s, .ok (entry.size, entry.alreadyUploadedBytes))

end ArkKvm.FtUpload
