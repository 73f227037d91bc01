import ArkKvm.FtUpload.Effects
import ArkKvm.Lib.Run

/-!
# Interleaved file transfer uploads

Any number of `start_ft_file_upload` calls for one path, with any sizes, and any number of
writers: data channels that claimed a session and HTTP requests that found one.  A writer
appends until it completes.  Every call is cut at its awaits: one step is one file operation or
one section under the map locks.  `append_ft_upload_data` keeps the lock of the active map while
it writes, so the sections that need this lock wait for its end.
-/

namespace ArkKvm.FtUpload.Exclusive

open Lib
open Upload (Path UploadId StorageFileUpload bytesWithinSize)

/-! ## Starting -/

inductive StartPhase
  | checkFinal
  | checkCache
  | sizeCache
  /-- the cache file was looked at: its length, -1 when there is none -/
  | checkActive (len : Int)
  | checkClosed (len : Int)
  | take
  | seeCache (removed : Removed)
  | deleteCache (removed : Removed)
  | restore (removed : Removed) (e : String)
  | reopen (len : Int)
  | resume (len : Int) (writer : AsyncFileWriter)
  | createEmpty
  | openWriter
  | enter (writer : AsyncFileWriter)

def startNext (o : StartOutcome) (F C : Path) (size : Int) :
    StartPhase → Op (StartPhase ⊕ StorageFileUpload)
  | .checkFinal => do
      let taken ← fsExists o.finalKnown F
      Action.ensure (taken = false) "File already exists"
      pure (.inl .checkCache)
  | .checkCache => do
      let cached ← fsExists o.cacheKnown C
      pure (.inl (if cached then .sizeCache else .checkActive (-1)))
  | .sizeCache => do
      let len ← fileSize o.sized C
      pure (.inl (.checkActive len))
  | .checkActive len => do
      match ← activeUpload true F size o.pickActive with
      | some up => pure (.inr up)
      | none => pure (.inl (if len < 0 then .createEmpty
          else if size < len then .take else .checkClosed len))
  | .checkClosed len => do
      let s ← Action.read
      pure (.inl (if ftClosedMatches F C len s then .reopen len else .take))
  | .take => do
      let removed ← takeEntries F C
      pure (.inl (.seeCache removed))
  | .seeCache removed => fun s =>
      match fsExists o.discarded.known C s with
      | (s', .ok cached) =>
          (s', .ok (.inl (if cached && o.discarded.seen then .deleteCache removed
            else .createEmpty)))
      | (s', .error e) => (s', .ok (.inl (.restore removed e)))
  | .deleteCache removed => fun s =>
      match deleteFile o.discarded.deleted C s with
      | (s', .ok ()) => (s', .ok (.inl .createEmpty))
      | (s', .error e) => (s', .ok (.inl (.restore removed e)))
  | .restore removed e => fun s => (restoreEntries removed s, .error e)
  | .reopen len => do
      let writer ← createAsyncWriter o.reopened C len.toNat
      pure (.inl (.resume len writer))
  | .resume len writer => do
      match ← resumeClosed F C size len writer o.pickActive o.pickClosed with
      | some up => pure (.inr up)
      | none => pure (.inl .createEmpty)
  | .createEmpty => do
      createEmptyFile o.created C
      pure (.inl .openWriter)
  | .openWriter => do
      let writer ← createAsyncWriter o.opened C 0
      pure (.inl (.enter writer))
  | .enter writer => do
      let up ← insertFresh F C size writer o.pickActive
      pure (.inr up)

def StartPhase.locks : StartPhase → Bool
  | .checkActive _ | .take | .restore _ _ | .resume _ _ | .enter _ => true
  | _ => false

def StartPhase.looked : StartPhase → Bool
  | .checkFinal | .checkCache | .sizeCache => false
  | _ => true

def StartPhase.acts : StartPhase → Bool
  | .checkFinal | .checkCache | .sizeCache | .checkActive _ | .checkClosed _ => false
  | _ => true

/-! ## Completing -/

inductive WriterStage
  | writing
  | rename (entry : FtPendingUpload)
  | renamed (ok : Bool) (entry : FtPendingUpload)
  | seeOvershot (entry : FtPendingUpload)
  | deleteOvershot (entry : FtPendingUpload)
  | deleted
  | close

def completeNext (o : CompleteOutcome) (id : UploadId) : WriterStage → Op (Option WriterStage)
  | .writing => do
      let entry ← completeFlush o.flushed id
      pure (some (if entry.alreadyUploadedBytes = entry.size then .rename entry
        else if entry.size < entry.alreadyUploadedBytes then .seeOvershot entry else .close))
  | .rename entry => do
      let ok ← Action.attempt (renameFile o.renamed entry.uploadPath entry.finalPath)
      pure (some (.renamed ok entry))
  | .renamed ok entry => do
      afterRename ok entry id
      pure none
  | .seeOvershot entry => do
      let s ← Action.read
      pure (some (if (s.disk.names entry.uploadPath).isSome then .deleteOvershot entry else .deleted))
  | .deleteOvershot entry => do
      let _ ← Action.attempt (deleteFile o.deleted entry.uploadPath)
      pure (some .deleted)
  | .deleted => do
      afterOvershot id
      pure none
  | .close => do
      afterPartial id
      pure none

def WriterStage.locks : WriterStage → Bool
  | .writing | .renamed _ _ | .deleted | .close => true
  | _ => false

def WriterStage.finishing : WriterStage → Bool
  | .writing | .close => false
  | _ => true

/-- The cache file of the session is gone: what is left is to drop the session. -/
def WriterStage.retires : WriterStage → Bool
  | .renamed ok _ => ok
  | .deleted => true
  | _ => false

/-! ## The system -/

structure Writer where
  id : UploadId
  stage : WriterStage

structure Append where
  id : UploadId
  /-- what is still to be written -/
  rest : List UInt8
  /-- the bytes of the chunk that the file has got -/
  written : Nat

structure Shared where
  store : Store
  writers : Table Nat Writer
  nextWriter : Nat
  appending : Option Append

structure Start where
  size : Int
  phase : StartPhase

structure State where
  shared : Shared
  starts : Table Nat Start
  nextStart : Nat

/-- Take the lock and look the session up; nothing is left to do when the chunk does not fit
or the session cannot be written. -/
def beginAppend (id : UploadId) (data : List UInt8) (s : Store) : Option Append :=
  match s.pending.lookup id with
  | none => none
  | some entry =>
      let data := bytesWithinSize entry.alreadyUploadedBytes entry.size data
      if data = [] ∨ entry.writer = none then none
      else some { id := id, rest := data, written := 0 }

def writePiece (a : Append) (n : Nat) (s : Store) : Store :=
  match (s.pending.lookup a.id).bind (·.writer) with
  | none => s
  | some w =>
      { s with
        disk := AsyncFileWriter.put { w with currentPosition := w.currentPosition + a.written }
          (a.rest.take n) s.disk }

def endAppend (a : Append) (s : Store) : Store :=
  match s.pending.lookup a.id with
  | none => s
  | some entry =>
      let len := a.written + a.rest.length
      { s with
        pending := s.pending.insert a.id
          (entry.wrote len (WriteBehind.handOver (s.refuses a.id) len (some a.written))) }

inductive WriterEvent
  | claim (id : UploadId)
  | httpOpen (id : UploadId)
  | append (w : Nat) (data : List UInt8)
  | write (n : Nat)
  | appendEnd
  /-- the seek before the write fails -/
  | seekFail
  | complete (w : Nat) (o : CompleteOutcome)

def Shared.addWriter (sh : Shared) (store : Store) (id : UploadId) : Shared :=
  { sh with
    store := store
    writers := sh.writers.insert sh.nextWriter ⟨id, .writing⟩
    nextWriter := sh.nextWriter + 1 }

def Shared.afterComplete (sh : Shared) (w : Nat) (wr : Writer) (store : Store) :
    Except String (Option WriterStage) → Shared
  | .ok (some stage) => { sh with
      store := store
      writers := sh.writers.insert w { wr with stage := stage } }
  | _ => { sh with store := store, writers := sh.writers.erase w }

def writerStep (sh : Shared) : WriterEvent → Option Shared
  | .claim id =>
      if sh.appending.isSome then none
      else match claimFtUploadChannel id sh.store with
        | (store, .ok _) => some (sh.addWriter store id)
        | (store, .error _) => some { sh with store := store }
  | .httpOpen id =>
      if sh.appending.isSome then none
      else match getFtUploadProgress id sh.store with
        | (store, .ok _) => some (sh.addWriter store id)
        | (store, .error _) => some { sh with store := store }
  | .append w data =>
      match sh.appending, sh.writers.lookup w with
      | none, some ⟨id, .writing⟩ => some { sh with appending := beginAppend id data sh.store }
      | _, _ => none
  | .write n => sh.appending.bind fun a =>
      if 0 < n ∧ n ≤ a.rest.length ∧ sh.store.refuses a.id = false then some { sh with
        store := writePiece a n sh.store
        appending := some { a with rest := a.rest.drop n, written := a.written + n } }
      else none
  | .appendEnd => sh.appending.map fun a =>
      { sh with store := endAppend a sh.store, appending := none }
  | .seekFail => sh.appending.bind fun a =>
      if a.written = 0 then some { sh with appending := none } else none
  | .complete w o => (sh.writers.lookup w).bind fun wr =>
      if wr.stage.locks && sh.appending.isSome then none
      else
        let (store, r) := completeNext o wr.id wr.stage sh.store
        some (sh.afterComplete w wr store r)

def State.afterStart (s : State) (n : Nat) (st : Start) (store : Store) :
    Except String (StartPhase ⊕ StorageFileUpload) → State
  | .ok (.inl phase) => { s with
      shared := { s.shared with store := store }
      starts := s.starts.insert n { st with phase := phase } }
  | _ => { s with
      shared := { s.shared with store := store }
      starts := s.starts.erase n }

inductive Event
  | start (size : Int)
  | startStep (n : Nat) (o : StartOutcome)
  | writer (ev : WriterEvent)

def step (F C : Path) (s : State) : Event → Option State
  | .start size => some { s with
      starts := s.starts.insert s.nextStart ⟨size, .checkFinal⟩
      nextStart := s.nextStart + 1 }
  | .startStep n o => (s.starts.lookup n).bind fun st =>
      if st.phase.locks && s.shared.appending.isSome then none
      else
        let (store, r) := startNext o F C st.size st.phase s.shared.store
        some (s.afterStart n st store r)
  | .writer ev => (writerStep s.shared ev).map fun sh => { s with shared := sh }

/-! ## Calls that nobody disturbs -/

variable {F C : Path} {size : Int}

def startLooked (o : StartOutcome) (F C : Path) (size len : Int) : Op StorageFileUpload := do
  match ← activeUpload true F size o.pickActive with
  | some up => pure up
  | none => startUnmatched o F C size len

def startRest (o : StartOutcome) (F C : Path) (size : Int) : StartPhase → Op StorageFileUpload
  | .checkFinal => do
      let len ← cacheSize o.finalKnown o.cacheKnown o.sized F C
      startLooked o F C size len
  | .checkCache => do
      let cached ← fsExists o.cacheKnown C
      let len ← (if cached then fileSize o.sized C else pure (-1) : Op Int)
      startLooked o F C size len
  | .sizeCache => do
      let len ← fileSize o.sized C
      startLooked o F C size len
  | .checkActive len => startLooked o F C size len
  | .checkClosed len => do
      let s ← Action.read
      if ftClosedMatches F C len s then startResumed o F C size len
      else do
        discardFtCache id o.discarded F C
        startFresh o F C size
  | .take => do
      discardFtCache id o.discarded F C
      startFresh o F C size
  | .seeCache removed => do
      deleteOrRestore id o.discarded C removed
      startFresh o F C size
  | .deleteCache removed => fun s =>
      match deleteFile o.discarded.deleted C s with
      | (s', .ok ()) => startFresh o F C size s'
      | (s', .error e) => (restoreEntries removed s', .error e)
  | .restore removed e => fun s => (restoreEntries removed s, .error e)
  | .reopen len => startResumed o F C size len
  | .resume len writer => do
      match ← resumeClosed F C size len writer o.pickActive o.pickClosed with
      | some up => pure up
      | none => startFresh o F C size
  | .createEmpty => startFresh o F C size
  | .openWriter => do
      let writer ← createAsyncWriter o.opened C 0
      insertFresh F C size writer o.pickActive
  | .enter writer => insertFresh F C size writer o.pickActive

def startGo (o : StartOutcome) (F C : Path) (size : Int) :
    StartPhase ⊕ StorageFileUpload → Op StorageFileUpload
  | .inl phase => startRest o F C size phase
  | .inr up => pure up

theorem startRest_checkFinal (o : StartOutcome) (path name : String) (size : Int) :
    startRest o (filePathOf path name) (fileCachePathOf path name) size .checkFinal =
      startFtFileUpload o path name size := rfl

theorem startRest_found (o : StartOutcome) (len : Int) (s : Store) :
    startRest o F C size (if len < 0 then .createEmpty
        else if size < len then .take else .checkClosed len) s =
      startUnmatched o F C size len s := by
  unfold startUnmatched
  rw [Action.bind_of_ok (x := Action.read) rfl]
  by_cases hneg : len < 0
  · rw [if_pos hneg, if_neg (by omega), if_neg (by omega)]
    rfl
  · rw [if_neg hneg]
    by_cases hlong : size < len
    · rw [if_pos hlong, if_pos ⟨by omega, .inl hlong⟩]
      rfl
    · rw [if_neg hlong]
      show (if _ then _ else _ : Op StorageFileUpload) s = _
      cases hmatch : ftClosedMatches F C len s with
      | true => rw [if_pos rfl, if_neg (by simp [hlong]), if_pos (by omega)]
      | false => rw [if_neg (by simp), if_pos ⟨by omega, .inr rfl⟩]

theorem startNext_go_seeCache (o : StartOutcome) (removed : Removed) :
    startNext o F C size (.seeCache removed) >>= startGo o F C size =
      startRest o F C size (.seeCache removed) := by
  funext s
  show Action.andThen (startNext o F C size (.seeCache removed) s) _ =
    Action.andThen (deleteOrRestore id o.discarded C removed s) _
  unfold startNext deleteOrRestore deleteCache
  dsimp only [id]
  rw [Action.bind_run]
  rcases fsExists o.discarded.known C s with ⟨s', e | cached⟩
  · rfl
  · dsimp only
    rw [Action.andThen_ok, Action.andThen_ok]
    cases cached && o.discarded.seen with
    | false => rfl
    | true =>
        show startRest o F C size (.deleteCache removed) s' =
          Action.andThen (match deleteFile o.discarded.deleted C s' with
            | (t, .ok ()) => (t, .ok ())
            | (t, .error e) => (restoreEntries removed t, .error e)) _
        unfold startRest
        dsimp only
        rcases deleteFile o.discarded.deleted C s' with ⟨t, e | u⟩
        · rfl
        · rfl

theorem andThen_pure {α : Type} (r : Store × Except String α) :
    Action.andThen r (pure : α → Op α) = r := by
  rcases r with ⟨s, e | a⟩
  · rfl
  · rfl

theorem startNext_go (o : StartOutcome) (phase : StartPhase) :
    startNext o F C size phase >>= startGo o F C size = startRest o F C size phase := by
  cases phase with
  | checkFinal =>
      show (_ >>= _) >>= _ = cacheSize o.finalKnown o.cacheKnown o.sized F C >>= _
      unfold cacheSize
      simp only [Action.bind_assoc]
      rfl
  | checkCache =>
      show (_ >>= _) >>= _ = fsExists o.cacheKnown C >>= _
      rw [Action.bind_assoc]
      congr
      funext cached
      cases cached <;> rfl
  | sizeCache =>
      show (_ >>= _) >>= _ = fileSize o.sized C >>= _
      rw [Action.bind_assoc]
      rfl
  | checkActive len =>
      show (_ >>= _) >>= _ = activeUpload true F size o.pickActive >>= _
      rw [Action.bind_assoc]
      congr
      funext found
      cases found with
      | some up => rfl
      | none =>
          funext s
          exact startRest_found o len s
  | checkClosed len =>
      funext s
      show startGo o F C size (.inl _) s = (if _ then _ else _ : Op StorageFileUpload) s
      cases ftClosedMatches F C len s <;> rfl
  | take =>
      show (_ >>= _) >>= _ = discardFtCache id o.discarded F C >>= _
      unfold discardFtCache
      simp only [Action.bind_assoc]
      rfl
  | seeCache removed => exact startNext_go_seeCache o removed
  | deleteCache removed =>
      funext s
      show Action.andThen (startNext o F C size (.deleteCache removed) s) _ = _
      unfold startNext startRest
      dsimp only
      rcases deleteFile o.discarded.deleted C s with ⟨s', e | u⟩
      · rfl
      · rfl
  | restore removed e => rfl
  | reopen len =>
      show (_ >>= _) >>= _ = createAsyncWriter o.reopened C len.toNat >>= _
      rw [Action.bind_assoc]
      rfl
  | resume len writer =>
      show (_ >>= _) >>= _ = resumeClosed F C size len writer o.pickActive o.pickClosed >>= _
      rw [Action.bind_assoc]
      congr
      funext found
      cases found <;> rfl
  | createEmpty =>
      show (_ >>= _) >>= _ = createEmptyFile o.created C >>= _
      rw [Action.bind_assoc]
      rfl
  | openWriter =>
      show (_ >>= _) >>= _ = createAsyncWriter o.opened C 0 >>= _
      rw [Action.bind_assoc]
      rfl
  | enter writer =>
      show (_ >>= _) >>= _ = insertFresh F C size writer o.pickActive
      rw [Action.bind_assoc]
      funext s
      exact andThen_pure _

def completeRest (o : CompleteOutcome) (id : UploadId) : WriterStage → Op Unit
  | .writing => completeFtUpload o id
  | .rename entry => do
      let ok ← Action.attempt (renameFile o.renamed entry.uploadPath entry.finalPath)
      afterRename ok entry id
  | .renamed ok entry => afterRename ok entry id
  | .seeOvershot entry | .deleteOvershot entry => do
      let _ ← Action.attempt (deleteFile o.deleted entry.uploadPath)
      afterOvershot id
  | .deleted => afterOvershot id
  | .close => afterPartial id

def completeGo (o : CompleteOutcome) (id : UploadId) : Option WriterStage → Op Unit
  | some stage => completeRest o id stage
  | none => pure ()

theorem completeNext_go (o : CompleteOutcome) (id : UploadId) (stage : WriterStage) :
    completeNext o id stage >>= completeGo o id = completeRest o id stage := by
  cases stage with
  | writing =>
      show (_ >>= _) >>= _ = completeFlush o.flushed id >>= _
      rw [Action.bind_assoc]
      congr
      funext entry s
      by_cases hfull : entry.alreadyUploadedBytes = entry.size
      · show completeGo o id (some (if _ then _ else _)) s = (if _ then _ else _ : Op Unit) s
        rw [if_pos hfull, if_pos hfull]
        rfl
      · show completeGo o id (some (if _ then _ else _)) s = (if _ then _ else _ : Op Unit) s
        rw [if_neg hfull, if_neg hfull]
        by_cases hover : entry.size < entry.alreadyUploadedBytes
        · rw [if_pos hover, if_pos hover]
          rfl
        · rw [if_neg hover, if_neg hover]
          rfl
  | rename entry =>
      show (_ >>= _) >>= _ = Action.attempt _ >>= _
      rw [Action.bind_assoc]
      rfl
  | renamed ok entry =>
      show (afterRename ok entry id >>= _) >>= _ = _
      rw [Action.bind_assoc]
      funext s
      exact andThen_pure _
  | seeOvershot entry =>
      funext s
      show completeGo o id (some (if _ then _ else _)) s = _
      cases hname : s.disk.names entry.uploadPath with
      | some i => rfl
      | none =>
          show afterOvershot id s =
            afterOvershot id (deleteFile o.deleted entry.uploadPath s).1
          unfold deleteFile
          rw [if_pos hname]
  | deleteOvershot entry =>
      show (_ >>= _) >>= _ = Action.attempt _ >>= _
      rw [Action.bind_assoc]
      rfl
  | deleted => rfl
  | close =>
      show (afterPartial id >>= _) >>= _ = _
      rw [Action.bind_assoc]
      funext s
      exact andThen_pure _

theorem writePiece_landed {id : UploadId} {s : Store} {entry : FtPendingUpload}
    {w : AsyncFileWriter} (hlookup : s.pending.lookup id = some entry)
    (hwriter : entry.writer = some w) (chunk : List UInt8) (handed : WriteBehind.Handed) :
    writePiece ⟨id, chunk, 0⟩ (handed.landed chunk).length s =
      { s with disk := w.put (handed.landed chunk) s.disk } := by
  unfold writePiece
  rw [hlookup, Option.bind_some, hwriter,
    ← List.prefix_iff_eq_take.mp (WriteBehind.Handed.landed_prefix chunk handed)]
  rfl

/-- The steps of an append that nobody disturbs are `append_ft_upload_data`, whatever becomes of
its write: the pieces that land and then its return. -/
theorem append_undisturbed (id : UploadId) (data : List UInt8) (fault : Option Nat) (s : Store) :
    (beginAppend id data s = none → (appendFtUploadData id data fault s).1 = s) ∧
      ∀ a, beginAppend id data s = some a → ∃ n ≤ a.rest.length,
        (s.refuses id = true → n = 0) ∧
          endAppend { a with rest := a.rest.drop n, written := n } (writePiece a n s) =
            (appendFtUploadData id data fault s).1 := by
  unfold beginAppend appendFtUploadData
  cases hlookup : s.pending.lookup id with
  | none => exact ⟨fun _ => rfl, nofun⟩
  | some entry =>
      dsimp only
      generalize bytesWithinSize entry.alreadyUploadedBytes entry.size data = chunk
      by_cases hnil : chunk = []
      · rw [if_pos (.inl hnil), if_pos hnil]
        exact ⟨fun _ => rfl, nofun⟩
      · rw [if_neg hnil]
        cases hwriter : entry.writer with
        | none =>
            rw [if_pos (.inr rfl)]
            exact ⟨fun _ => rfl, nofun⟩
        | some w =>
            rw [if_neg (not_or.mpr ⟨hnil, nofun⟩)]
            refine ⟨nofun, ?_⟩
            rintro a ⟨⟩
            have hlanded := WriteBehind.handOver_landed w.failed chunk fault
            generalize hhanded : WriteBehind.handOver w.failed chunk.length fault = handed
              at hlanded
            have hpre := WriteBehind.Handed.landed_prefix chunk handed
            refine ⟨(handed.landed chunk).length, hpre.length_le, ?_, ?_⟩
            · intro hrefuses
              rw [refuses_eq hlookup hwriter] at hrefuses
              rw [hrefuses, WriteBehind.handOver_failed] at hhanded
              rw [← hhanded]
              rfl
            · rw [writePiece_landed hlookup hwriter]
              have hlen : (handed.landed chunk).length +
                  (chunk.drop (handed.landed chunk).length).length = chunk.length := by
                rw [List.length_drop]
                have := hpre.length_le
                omega
              unfold endAppend Store.refuses
              dsimp only
              rw [hlookup, Option.bind_some, hwriter, Option.any_some]
              dsimp only
              rw [hlen, hlanded, hhanded]

end ArkKvm.FtUpload.Exclusive
