import ArkKvm.Upload.Store

/-!
# What the upload functions can do

One inversion lemma for each function of the upload store: the states and
results it can end with.  The invariants of uploads are case analyses over
these and never unfold the functions.
-/

namespace ArkKvm.Upload

open Lib

variable {s : Store}

/-- The session that a start on an existing file inserts. -/
def newEntry (inode : Nat) (already size : Int) (uploadPath finalPath : Path) : PendingUpload where
  file := some { inode := inode }
  size := size
  alreadyUploadedBytes := already
  uploadPath := uploadPath
  finalPath := finalPath
  channelOpen := false

def Store.insertNew (s : Store) (entry : PendingUpload) : Store :=
  { s with pending := s.pending.insert s.nextId entry, nextId := s.nextId + 1 }

def Store.dropOvershot (s : Store) (uploadPath : Path) : Store :=
  { s with
    pending := Table.removeWhere s.pending fun e => e.uploadPath = uploadPath && !e.channelOpen
    closed := Table.removeWhere s.closed fun e => e.uploadPath = uploadPath }

def Store.createFile (s : Store) (p : Path) : Store := { s with disk := (s.disk.create p).1 }

def Store.removeFile (s : Store) (p : Path) : Store := { s with disk := s.disk.remove p }

def NoActive (s : Store) (uploadPath : Path) (size : Int) : Prop :=
  ∀ k e, s.pending.lookup k = some e → e.uploadPath = uploadPath → e.size ≠ size

/-- The endings of a start under the locks: the state left and the result. -/
inductive Started (o : StartOutcome) (s : Store) (size : Int) (U F : Path) :
    Store → Except String StorageFileUpload → Prop
  /-- nothing was touched -/
  | stopped {e} : Started o s size U F s (.error e)
  | reused {id entry} (hlookup : s.pending.lookup id = some entry) (hpath : entry.uploadPath = U)
      (hsize : entry.size = size) (hidle : entry.channelOpen = false)
      (hlen : s.disk.len U ≤ size) :
      Started o s size U F
        { s with
          pending := s.pending.insert id { entry with alreadyUploadedBytes := s.disk.len U } }
        (.ok ⟨s.disk.len U, id⟩)
  /-- the closed session of this path and size is active again -/
  | reopened {id entry inode} (hopened : o.opened = true) (hnone : NoActive s U size)
      (hname : s.disk.names U = some inode)
      (hlen : s.disk.len U ≤ size) (hlookup : s.closed.lookup id = some entry)
      (hfinal : entry.finalPath = F) (hpath : entry.uploadPath = U) :
      Started o s size U F
        { s with
          closed := s.closed.erase id
          pending := s.pending.insert id
            { entry with
              file := some { inode := inode }
              channelOpen := false
              size := size
              alreadyUploadedBytes := s.disk.len U } }
        (.ok ⟨s.disk.len U, id⟩)
  | reopenFailed {id entry e} (hlookup : s.closed.lookup id = some entry)
      (hpath : entry.uploadPath = U) :
      Started o s size U F
        { s with
          closed := s.closed.insert id
            { entry with
              channelOpen := false
              size := size
              alreadyUploadedBytes := s.disk.len U } }
        (.error e)
  /-- a new session on the existing file; the closed ones of the path are gone -/
  | resumed {inode} (hopened : o.opened = true) (hnone : NoActive s U size)
      (hname : s.disk.names U = some inode)
      (hlen : s.disk.len U ≤ size) :
      Started o s size U F
        (Store.insertNew { s with closed := Table.removeWhere s.closed fun e => e.uploadPath = U }
          (newEntry inode (s.disk.len U) size U F))
        (.ok ⟨s.disk.len U, s.nextId⟩)
  | resumeFailed {e} :
      Started o s size U F
        { s with
          closed := Table.removeWhere s.closed fun e => e.uploadPath = U
          nextId := s.nextId + 1 }
        (.error e)
  | fresh (hopened : o.opened = true) (hnone : NoActive s U size) (hname : s.disk.names U = none) :
      Started o s size U F
        ((s.createFile U).insertNew (newEntry (s.disk.create U).2 0 size U F))
        (.ok ⟨0, s.nextId⟩)
  /-- the file is too long: its idle sessions and then the file are dropped -/
  | overshotFailed {e} (hover : size < s.disk.len U) :
      Started o s size U F (s.dropOvershot U) (.error e)
  | overshotRemoved {e} (hover : size < s.disk.len U) :
      Started o s size U F ((s.dropOvershot U).removeFile U) (.error e)
  | overshot (hover : size < s.disk.len U)
      (hidle : ∀ k e, s.pending.lookup k = some e → e.uploadPath = U → e.channelOpen = false) :
      Started o s size U F
        ((((s.dropOvershot U).removeFile U).createFile U).insertNew
          (newEntry ((s.disk.remove U).create U).2 0 size U F))
        (.ok ⟨0, s.nextId⟩)

theorem reuseActive_started (o : StartOutcome) {size : Int} {U F : Path} {id : UploadId}
    {entry : PendingUpload}
    (hlookup : s.pending.lookup id = some entry) (hpath : entry.uploadPath = U)
    (hsize : entry.size = size) :
    Action.wp (reuseActive (s.disk.len U) size id entry)
      (fun r s' => Started o s size U F s' r) s := by
  refine Action.wp_ensure_bind (fun hidle => ?_) (fun _ => .stopped)
  refine Action.wp_ensure_bind (fun hlen => ?_) (fun _ => .stopped)
  exact .reused hlookup hpath hsize hidle hlen

theorem resumePartial_started (o : StartOutcome) {size : Int} {U F : Path} {inode : Nat}
    (hnone : NoActive s U size) (hname : s.disk.names U = some inode) (hlen : s.disk.len U ≤ size) :
    Action.wp (resumePartial o inode (s.disk.len U) size U F)
      (fun r s' => Started o s size U F s' r) s := by
  unfold Action.wp resumePartial
  split
  · next id entry hfind =>
      obtain ⟨hlookup, hmatch⟩ := Table.findEntry_some hfind
      simp only [Bool.and_eq_true, decide_eq_true_eq] at hmatch
      split
      · next hopened =>
          exact @Started.reopened o s size U F id entry inode hopened hnone hname hlen hlookup
            hmatch.1.1 hmatch.1.2
      · exact @Started.reopenFailed o s size U F id entry _ hlookup hmatch.1.2
  · split
    · next hopened => exact .resumed hopened hnone hname hlen
    · exact .resumeFailed

theorem discardOvershot_started (o : StartOutcome) {size : Int} {U F : Path}
    (hover : size < s.disk.len U) :
    Action.wp (discardOvershot o U) (fun r s' =>
      match r with
      | .ok _ => s' = (s.dropOvershot U).removeFile U ∧
          ∀ k e, s.pending.lookup k = some e → e.uploadPath = U → e.channelOpen = false
      | .error e => Started o s size U F s' (.error e)) s := by
  refine Action.wp_read_bind ?_
  refine Action.wp_ensure_bind (fun hidle => ?_) (fun _ => .stopped)
  refine Action.wp_bind (Q := fun r s' => r = .ok () ∧ s' = s.dropOvershot U) ⟨rfl, rfl⟩ ?_
    (by rintro _ _ ⟨h, -⟩; cases h)
  rintro _ _ ⟨-, rfl⟩
  refine Action.wp_ensure_bind (fun _ => ?_) (fun _ => .overshotFailed hover)
  refine ⟨rfl, ?_⟩
  intro k e hlookup hpath
  rw [List.any_eq_false] at hidle
  have hk := hidle _ (Table.lookup_eq_some_iff.mp hlookup)
  simpa [hpath] using hk

theorem startLocked_started (o : StartOutcome) (size : Int) (U F : Path) (s : Store) :
    Action.wp (startLocked o size U F) (fun r s' => Started o s size U F s' r) s := by
  refine Action.wp_read_bind ?_
  refine Action.wp_ensure_bind (fun _ => ?_) (fun _ => .stopped)
  dsimp only
  split
  · next id entry hfind =>
      obtain ⟨hlookup, hmatch⟩ := Table.findEntry_some hfind
      simp only [Bool.and_eq_true, decide_eq_true_eq] at hmatch
      exact reuseActive_started o hlookup hmatch.1 hmatch.2
  · next hfind =>
      have hnone : NoActive s U size := by
        intro k e hlookup hpath
        have := Table.findEntry_none hfind hlookup
        simpa [hpath] using this
      split
      · next inode hname =>
          split
          · next hover =>
              refine Action.wp_bind (discardOvershot_started (F := F) o hover) ?_ (fun _ _ h => h)
              rintro _ _ ⟨rfl, hidle⟩
              exact Action.wp_ensure_bind (fun _ => .overshot hover hidle)
                (fun _ => .overshotRemoved hover)
          · next hover => exact resumePartial_started o hnone hname (by omega)
      · next hname =>
          exact Action.wp_ensure_bind (fun hopened => .fresh hopened hnone hname)
            (fun _ => .stopped)

theorem startStorageFileUpload_started (o : StartOutcome) (finalExists : Bool) (filename : String)
    (size : Int) (s : Store) :
    Action.wp (startStorageFileUpload o finalExists filename size)
      (fun r s' => (s' = s ∧ ∃ e, r = .error e) ∨
        ∃ base, sanitizeFilename filename = .ok base ∧ o.folder = true ∧ finalExists = false ∧
          (s.disk.names (uploadPathOf base) ≠ none → o.stat = true) ∧
          Started o s size (uploadPathOf base) (finalPathOf base) s' r) s := by
  refine Action.wp_ofExcept_bind (fun base hbase => ?_) (fun e _ => .inl ⟨rfl, e, rfl⟩)
  refine Action.wp_ensure_bind (fun hfolder => ?_) (fun _ => .inl ⟨rfl, _, rfl⟩)
  refine Action.wp_ensure_bind (fun hfinal => ?_) (fun _ => .inl ⟨rfl, _, rfl⟩)
  by_cases hstat : s.disk.names (uploadPathOf base) ≠ none → o.stat = true
  · exact Action.wp_mono (startLocked_started o size _ _ s)
      (fun _ _ h => .inr ⟨base, hbase, hfolder, hfinal, hstat, h⟩)
  · exact Action.wp_read_bind
      (Action.wp_ensure_bind (fun h => absurd h hstat) (fun _ => .inl ⟨rfl, _, rfl⟩))

/-- A flush leaves the session as it is, or takes the error of an earlier write off its handle. -/
theorem flushFile_cases (flushed : Bool) (id : UploadId) (entry : PendingUpload) (s : Store) :
    flushFile flushed id entry s = (s, .ok ()) ∨
      (∃ e, flushFile flushed id entry s = (s, .error e)) ∨
      ∃ file e, entry.file = some file ∧ file.failed = true ∧
        flushFile flushed id entry s =
          ({ s with
             pending := s.pending.insert id
               { entry with file := some { file with failed := false } } }, .error e) := by
  unfold flushFile
  cases hfile : entry.file with
  | none => exact .inl rfl
  | some file =>
      dsimp only
      by_cases hfailed : file.failed = true
      · rw [if_pos hfailed]
        exact .inr (.inr ⟨file, _, rfl, hfailed, rfl⟩)
      · rw [if_neg hfailed]
        cases flushed with
        | true => exact .inl rfl
        | false => exact .inr (.inl ⟨_, rfl⟩)

/-- `complete_upload` stops, at most with the error of a write taken off the handle, or settles
its entry by the length it has seen. -/
theorem completeUpload_cases (o : CompleteOutcome) (id : UploadId) (s : Store) :
    (∃ e, completeUpload o id s = (s, .error e)) ∨
      (∃ entry file e, s.pending.lookup id = some entry ∧ entry.file = some file ∧
        completeUpload o id s =
          ({ s with
             pending := s.pending.insert id
               { entry with file := some { file with failed := false } } }, .error e)) ∨
      ∃ entry, s.pending.lookup id = some entry ∧
        completeUpload o id s =
          settle o id entry (lenSeen s o.seenAfter entry.uploadPath) s := by
  change Action.wp (completeUpload o id) (fun r s' => (∃ e, (s', r) = (s, .error e)) ∨
    (∃ entry file e, s.pending.lookup id = some entry ∧ entry.file = some file ∧
      (s', r) =
        ({ s with
           pending := s.pending.insert id
             { entry with file := some { file with failed := false } } }, .error e)) ∨
    ∃ entry, s.pending.lookup id = some entry ∧
      (s', r) = settle o id entry (lenSeen s o.seenAfter entry.uploadPath) s) s
  refine Action.wp_read_bind ?_
  cases hlookup : s.pending.lookup id with
  | none => exact .inl ⟨_, rfl⟩
  | some entry =>
      refine Action.wp_ensure_bind (fun _ => ?_) (fun _ => .inl ⟨_, rfl⟩)
      rcases flushFile_cases o.flushed id entry s with hflush | ⟨e, hflush⟩ |
        ⟨file, e, hfile, -, hflush⟩
      · refine Action.wp_of_run_ok hflush ?_
        refine Action.wp_ensure_bind (fun _ => ?_) (fun _ => .inl ⟨_, rfl⟩)
        refine Action.wp_ensure_bind (fun _ => ?_) (fun _ => .inl ⟨_, rfl⟩)
        exact .inr (.inr ⟨entry, rfl, rfl⟩)
      · exact Action.wp_of_run_error hflush (.inl ⟨_, rfl⟩)
      · exact Action.wp_of_run_error hflush (.inr (.inl ⟨entry, file, _, rfl, hfile, rfl⟩))

theorem claimUploadChannel_cases (id : UploadId) (s : Store) :
    (∃ e, claimUploadChannel id s = (s, .error e)) ∨
      ∃ entry, s.pending.lookup id = some entry ∧ entry.channelOpen = false ∧
        claimUploadChannel id s =
          ({ s with pending := s.pending.insert id { entry with channelOpen := true } },
            .ok ()) := by
  unfold claimUploadChannel
  cases hlookup : s.pending.lookup id with
  | none => exact .inl ⟨_, rfl⟩
  | some entry =>
      cases hopen : entry.channelOpen with
      | true => exact .inl ⟨_, by simp [hopen]; rfl⟩
      | false => exact .inr ⟨entry, rfl, hopen, by simp [hopen]⟩

theorem appendUploadData_cases (id : UploadId) (data : List UInt8) (fault : Option Nat)
    (s : Store) :
    (appendUploadData id data fault s).1 = s ∨
      ∃ entry disk len handed, s.pending.lookup id = some entry ∧
        (appendUploadData id data fault s).1 =
          { s with disk := disk, pending := s.pending.insert id (entry.wrote len handed) } := by
  unfold appendUploadData
  cases hlookup : s.pending.lookup id with
  | none => exact .inl rfl
  | some entry =>
      dsimp only
      split
      · exact .inl rfl
      · split
        · exact .inl rfl
        · exact .inr ⟨entry, _, _, _, rfl, rfl⟩

end ArkKvm.Upload
