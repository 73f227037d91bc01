import ArkKvm.FtUpload.Store

/-!
# What the file transfer upload functions can do

The endings of `start_ft_file_upload`, one constructor each, and the few facts about the
sections that they are assembled from.
-/

namespace ArkKvm.FtUpload

open Lib
open Upload (Path UploadId StorageFileUpload)

variable {s : Store} {F C : Path} {size : Int}

def Matching (s : Store) (F : Path) (size : Int) (id : UploadId) (e : FtPendingUpload) : Prop :=
  s.pending.lookup id = some e ∧ e.finalPath = F ∧ e.size = size

def cacheLen (s : Store) (C : Path) : Int :=
  match s.disk.contents C with
  | some xs => xs.length
  | none => -1

def Claimed (s : Store) (F C : Path) : Prop :=
  (s.pending.entries.any fun x => x.2.channelOpen && onPath F C x.2) = true

def Resumable (s : Store) (F C : Path) (size : Int) : Prop :=
  0 ≤ cacheLen s C ∧ cacheLen s C ≤ size ∧ ftClosedMatches F C (cacheLen s C) s = true

instance : Decidable (Claimed s F C) := inferInstanceAs (Decidable (_ = true))

instance : Decidable (Resumable s F C size) :=
  inferInstanceAs (Decidable (_ ∧ _ ∧ _ = true))

def Store.dropPath (s : Store) (F C : Path) : Store :=
  { s with
    pending := Table.removeWhere s.pending (onPath F C)
    closed := Table.removeWhere s.closed (onPath F C) }

def Store.discard (s : Store) (F C : Path) : Store :=
  { s.dropPath F C with disk := s.disk.remove C }

def Store.removed (s : Store) (F C : Path) : Removed where
  pending := Table.mapValues (fun e => { e with writer := none })
    (Table.removeWhere s.pending fun e => !onPath F C e)
  closed := Table.mapValues (fun e => { e with writer := none })
    (Table.removeWhere s.closed fun e => !onPath F C e)

def freshDisk (d : Disk Path) (C : Path) : Disk Path × Nat := (d.openTruncate C).1.openTruncate C

def freshEntry (inode : Nat) (size : Int) (C F : Path) : FtPendingUpload where
  writer := some { inode := inode, append := false, currentPosition := 0 }
  size := size
  alreadyUploadedBytes := 0
  uploadPath := C
  finalPath := F
  channelOpen := false

def Store.enterFresh (b : Store) (F C : Path) (size : Int) : Store :=
  { b with
    disk := (freshDisk b.disk C).1
    pending := b.pending.insert b.nextId (freshEntry (freshDisk b.disk C).2 size C F)
    nextId := b.nextId + 1 }

def reopen (d : Disk Path) (C : Path) (len : Nat) : Disk Path × AsyncFileWriter :=
  if 0 < len then
    ((d.openCreate C).1,
      { inode := (d.openCreate C).2, append := true, currentPosition := len })
  else
    ((d.openTruncate C).1,
      { inode := (d.openTruncate C).2, append := false, currentPosition := 0 })

/-! ## The sections -/

theorem wp_fsExists_bind {α : Type} {works : Bool} {p : Path} {f : Bool → Op α}
    {Q : Except String α → Store → Prop} (hok : Action.wp (f (s.disk.names p).isSome) Q s)
    (hfail : ∀ e, Q (.error e) s) : Action.wp (fsExists works p >>= f) Q s := by
  cases works with
  | true => exact hok
  | false => exact hfail _

theorem isSome_names_iff {d : Disk Path} {p : Path} :
    (d.names p).isSome = true ↔ ∃ xs, d.contents p = some xs := by
  unfold Disk.contents
  cases d.names p with
  | none => simp
  | some i => simp

theorem cacheLen_of_some {xs : List UInt8} (h : s.disk.contents C = some xs) :
    cacheLen s C = xs.length := by
  unfold cacheLen
  rw [h]

theorem cacheLen_of_none (h : s.disk.contents C = none) : cacheLen s C = -1 := by
  unfold cacheLen
  rw [h]

theorem contents_of_cacheLen (h : 0 ≤ cacheLen s C) :
    ∃ xs, s.disk.contents C = some xs ∧ cacheLen s C = xs.length := by
  cases hc : s.disk.contents C with
  | none =>
      rw [cacheLen_of_none hc] at h
      omega
  | some xs => exact ⟨xs, rfl, cacheLen_of_some hc⟩

theorem cacheSize_wp {a b c : Bool} {Q : Except String Int → Store → Prop}
    (hok : s.disk.names F = none → Q (.ok (cacheLen s C)) s) (hfail : ∀ e, Q (.error e) s) :
    Action.wp (cacheSize a b c F C) Q s := by
  refine wp_fsExists_bind (Action.wp_ensure_bind (fun hfree => ?_) (fun _ => hfail _)) hfail
  have hname : s.disk.names F = none := Option.isNone_iff_eq_none.mp (by simpa using hfree)
  refine wp_fsExists_bind ?_ hfail
  by_cases hc : (s.disk.names C).isSome = true
  · rw [if_pos hc]
    obtain ⟨xs, hxs⟩ := isSome_names_iff.mp hc
    unfold Action.wp fileSize
    rw [hxs]
    cases c with
    | true =>
        show Q (.ok xs.length) s
        rw [← cacheLen_of_some hxs]
        exact hok hname
    | false => exact hfail _
  · rw [if_neg hc]
    have hnone : s.disk.contents C = none := by
      cases hxs : s.disk.contents C with
      | none => rfl
      | some xs => exact absurd (isSome_names_iff.mpr ⟨xs, hxs⟩) hc
    show Q (.ok (-1)) s
    rw [← cacheLen_of_none hnone]
    exact hok hname

/-- A look at the active sessions: one is in progress, none answers, or one is handed out. -/
theorem activeUpload_wp {fitting : Bool} {pick : UploadId}
    {Q : Except String (Option StorageFileUpload) → Store → Prop}
    (hbusy : ∀ id e, Matching s F size id e → e.channelOpen = true →
      Q (.error "upload already in progress") s)
    (hnone : (∀ id e, ¬ Matching s F size id e) → Q (.ok none) s)
    (hover : ∀ id e, Matching s F size id e → e.channelOpen = false → fitting = true →
      size < e.alreadyUploadedBytes → Q (.ok none) s)
    (hfound : ∀ id e, Matching s F size id e → e.channelOpen = false →
      (fitting = true → e.alreadyUploadedBytes ≤ size) →
      Q (.ok (some ⟨e.alreadyUploadedBytes, id⟩)) s) :
    Action.wp (activeUpload fitting F size pick) Q s := by
  unfold Action.wp activeUpload
  cases hfind : Table.findEntry s.pending (fun e => e.finalPath = F && e.size = size) pick with
  | none =>
      apply hnone
      rintro id e ⟨hlookup, hfinal, hsize⟩
      have := Table.findEntry_none hfind hlookup
      simp [hfinal, hsize] at this
  | some x =>
      obtain ⟨id, e⟩ := x
      obtain ⟨hlookup, hmatch⟩ := Table.findEntry_some hfind
      have hmatching : Matching s F size id e := ⟨hlookup, by simpa using hmatch⟩
      dsimp only
      by_cases hopen : e.channelOpen = true
      · rw [if_pos hopen]
        exact hbusy id e hmatching hopen
      · have hidle := Bool.eq_false_of_not_eq_true hopen
        rw [if_neg hopen]
        by_cases hover' : (fitting && decide (size < e.alreadyUploadedBytes)) = true
        · rw [if_pos hover']
          obtain ⟨hfit, hlt⟩ := Bool.and_eq_true_iff.mp hover'
          exact hover id e hmatching hidle hfit (of_decide_eq_true hlt)
        · rw [if_neg hover']
          apply hfound id e hmatching hidle
          intro hfit
          rw [hfit] at hover'
          simpa using hover'

theorem createAsyncWriter_works (C : Path) (n : Nat) (s : Store) :
    createAsyncWriter true C n s =
      ({ s with disk := (reopen s.disk C n).1 }, .ok (reopen s.disk C n).2) := by
  unfold reopen
  by_cases h : 0 < n
  · rw [if_pos h]
    exact if_pos h
  · have hn : n = 0 := by omega
    subst hn
    rfl

theorem createAsyncWriter_fails (C : Path) (n : Nat) (s : Store) :
    createAsyncWriter false C n s = (s, .error "Failed to create file") := rfl

theorem createEmptyFile_works (C : Path) (s : Store) :
    createEmptyFile true C s = ({ s with disk := (s.disk.openTruncate C).1 }, .ok ()) := rfl

theorem createEmptyFile_fails (C : Path) (s : Store) :
    createEmptyFile false C s = (s, .error "Failed to create file") := rfl

theorem takeEntries_of_claimed (h : Claimed s F C) :
    takeEntries F C s = (s, .error "upload already in progress") := by
  unfold takeEntries
  exact if_pos h

theorem takeEntries_of_unclaimed (h : ¬ Claimed s F C) :
    takeEntries F C s = (s.dropPath F C, .ok (s.removed F C)) := by
  unfold takeEntries
  exact if_neg h

theorem deleteCache_wp {o : DeleteOutcome} {Q : Except String Unit → Store → Prop}
    (hfail : ∀ e, Q (.error e) s)
    (hunseen : s.disk.names C = none ∨ o.seen = false → Q (.ok ()) s)
    (hremoved : s.disk.names C ≠ none → Q (.ok ()) { s with disk := s.disk.remove C }) :
    Action.wp (deleteCache o C) Q s := by
  refine wp_fsExists_bind ?_ hfail
  cases hname : s.disk.names C with
  | none => exact hunseen (.inl hname)
  | some i =>
      have hne : s.disk.names C ≠ none := by
        rw [hname]
        nofun
      cases hseen : o.seen with
      | false => exact hunseen (.inr hseen)
      | true =>
          show Action.wp (deleteFile o.deleted C) Q s
          unfold Action.wp deleteFile
          rw [if_neg hne]
          cases o.deleted with
          | true => exact hremoved hne
          | false => exact hfail _

theorem deleteOrRestore_wp {meanwhile : Store → Store} {o : DeleteOutcome} {removed : Removed}
    {Q : Except String Unit → Store → Prop}
    (hfail : ∀ e, Q (.error e) (restoreEntries removed (meanwhile s)))
    (hunseen : (meanwhile s).disk.names C = none ∨ o.seen = false → Q (.ok ()) (meanwhile s))
    (hremoved : (meanwhile s).disk.names C ≠ none →
      Q (.ok ()) { meanwhile s with disk := (meanwhile s).disk.remove C }) :
    Action.wp (deleteOrRestore meanwhile o C removed) Q s := by
  have hdeleted : Action.wp (deleteCache o C) (fun r s' =>
      (∃ e, r = .error e ∧ Q (.error e) (restoreEntries removed s')) ∨ r = .ok () ∧ Q (.ok ()) s')
      (meanwhile s) :=
    deleteCache_wp (fun e => .inl ⟨e, rfl, hfail e⟩) (fun h => .inr ⟨rfl, hunseen h⟩)
      (fun h => .inr ⟨rfl, hremoved h⟩)
  unfold Action.wp at hdeleted
  unfold Action.wp deleteOrRestore
  rcases hrun : deleteCache o C (meanwhile s) with ⟨s', e | u⟩
  · rw [hrun] at hdeleted
    obtain ⟨e', he', hQ⟩ | ⟨hok, -⟩ := hdeleted
    · cases he'
      exact hQ
    · cases hok
  · rw [hrun] at hdeleted
    obtain ⟨e', he', -⟩ | ⟨-, hQ⟩ := hdeleted
    · cases he'
    · exact hQ

/-! ## Writing -/

def target (w : AsyncFileWriter) (xs : List UInt8) : Nat :=
  if w.append then xs.length else w.currentPosition

def Store.refuses (s : Store) (id : UploadId) : Bool :=
  ((s.pending.lookup id).bind (·.writer)).any (·.failed)

theorem refuses_eq {id : UploadId} {e : FtPendingUpload} {w : AsyncFileWriter}
    (hlookup : s.pending.lookup id = some e) (hwriter : e.writer = some w) :
    s.refuses id = w.failed := by
  unfold Store.refuses
  rw [hlookup, Option.bind_some, hwriter, Option.any_some]

theorem put_names (w : AsyncFileWriter) (bytes : List UInt8) (d : Disk Path) :
    (w.put bytes d).names = d.names := by
  unfold AsyncFileWriter.put
  split <;> rfl

theorem put_data {w : AsyncFileWriter} {d : Disk Path} (bytes : List UInt8)
    (h : target w (d.data w.inode) ≤ (d.data w.inode).length) :
    (w.put bytes d).data w.inode =
      writeAt (d.data w.inode) (target w (d.data w.inode)) bytes := by
  unfold AsyncFileWriter.put
  split
  · next hnil =>
      rw [hnil, writeAt, Nat.sub_eq_zero_of_le h]
      simp
  · exact Disk.modify_data_self _

theorem put_contents_of_ne {w : AsyncFileWriter} {d : Disk Path} {p : Path}
    (bytes : List UInt8) (h : d.names p ≠ some w.inode) :
    (w.put bytes d).contents p = d.contents p := by
  unfold AsyncFileWriter.put
  split
  · rfl
  · exact Disk.contents_modify_of_ne _ h

/-! ## Completing -/

section Complete

variable {id : UploadId} {entry : FtPendingUpload} {flushed : Bool}

theorem completeFlush_of_absent (h : s.pending.lookup id = none) :
    completeFlush flushed id s = (s, .error "upload not found") := by
  unfold completeFlush
  rw [h]

theorem completeFlush_of_fails (h : s.pending.lookup id = some entry)
    (hfails : entry.writer ≠ none ∧ flushed = false) :
    completeFlush flushed id s =
      ({ s with pending := s.pending.insert id { entry with channelOpen := false } },
        .error "Failed to flush file") := by
  unfold completeFlush
  rw [h]
  dsimp only
  rw [if_pos hfails]

theorem completeFlush_of_works (h : s.pending.lookup id = some entry)
    (hworks : ¬ (entry.writer ≠ none ∧ flushed = false)) :
    completeFlush flushed id s =
      ({ s with pending := s.pending.insert id { entry with writer := none } },
        .ok { entry with writer := none }) := by
  unfold completeFlush
  rw [h]
  dsimp only
  rw [if_neg hworks]

theorem closeEntry_of_some (dropWriter : Bool) (h : s.pending.lookup id = some entry) :
    closeEntry dropWriter id s =
      { s with
        pending := s.pending.erase id
        closed := s.closed.insert id
          { entry with
            channelOpen := false
            writer := if dropWriter then none else entry.writer } } := by
  unfold closeEntry
  rw [h]

end Complete

/-! ## The endings of a start -/

def Passes (s : Store) (F : Path) (size : Int) : Prop :=
  (∀ id e, ¬ Matching s F size id e) ∨
    ∃ id e, Matching s F size id e ∧ e.channelOpen = false ∧ size < e.alreadyUploadedBytes

inductive Cleared (s : Store) (F C : Path) (size : Int) : Store → Prop
  | absent (h : ¬ 0 ≤ cacheLen s C) : Cleared s F C size s
  | discarded (hcache : 0 ≤ cacheLen s C) (hfresh : ¬ Resumable s F C size)
      (hunclaimed : ¬ Claimed s F C) :
      Cleared s F C size (s.discard F C)
  /-- the cache file was not seen any more -/
  | unseen (hcache : 0 ≤ cacheLen s C) (hfresh : ¬ Resumable s F C size)
      (hunclaimed : ¬ Claimed s F C) : Cleared s F C size (s.dropPath F C)

inductive Started (s : Store) (F C : Path) (size : Int) :
    Store → Except String StorageFileUpload → Prop
  /-- nothing was touched -/
  | stopped {e} : Started s F C size s (.error e)
  | reused {id entry} (hfree : s.disk.names F = none) (hmatch : Matching s F size id entry)
      (hidle : entry.channelOpen = false) (hfit : entry.alreadyUploadedBytes ≤ size) :
      Started s F C size s (.ok ⟨entry.alreadyUploadedBytes, id⟩)
  /-- the cache file could not be deleted -/
  | restored {e} (hcache : 0 ≤ cacheLen s C) (hunclaimed : ¬ Claimed s F C) :
      Started s F C size (restoreEntries (s.removed F C) (s.dropPath F C)) (.error e)
  | cleared {b e} (hcleared : Cleared s F C size b) : Started s F C size b (.error e)
  | emptied {b d e} (hcleared : Cleared s F C size b)
      (hdisk : d = (b.disk.openTruncate C).1 ∨ d = (freshDisk b.disk C).1) :
      Started s F C size { b with disk := d } (.error e)
  /-- an idle session without a cache file is handed out after the file was created -/
  | refound {id entry} (hfree : s.disk.names F = none) (habsent : ¬ 0 ≤ cacheLen s C)
      (hmatch : Matching s F size id entry) (hidle : entry.channelOpen = false)
      (hfit : entry.alreadyUploadedBytes ≤ size) :
      Started s F C size { s with disk := (freshDisk s.disk C).1 }
        (.ok ⟨entry.alreadyUploadedBytes, id⟩)
  | fresh {b} (hfree : s.disk.names F = none) (hpass : Passes s F size)
      (hcleared : Cleared s F C size b) :
      Started s F C size (b.enterFresh F C size) (.ok ⟨0, b.nextId⟩)
  /-- the cache file was opened, and then an active session was in the way -/
  | blocked {e} (hresumable : Resumable s F C size) :
      Started s F C size { s with disk := (reopen s.disk C (cacheLen s C).toNat).1 } (.error e)
  /-- the look before the resume hands out an active session, whatever its counter -/
  | overlooked {id entry} (hfree : s.disk.names F = none) (hresumable : Resumable s F C size)
      (hmatch : Matching s F size id entry) (hidle : entry.channelOpen = false) :
      Started s F C size { s with disk := (reopen s.disk C (cacheLen s C).toNat).1 }
        (.ok ⟨entry.alreadyUploadedBytes, id⟩)
  | resumed {id entry} (hfree : s.disk.names F = none) (hresumable : Resumable s F C size)
      (hnone : ∀ id e, ¬ Matching s F size id e)
      (hlookup : s.closed.lookup id = some entry)
      (hmatch : matchesClosed F C (cacheLen s C) entry = true) :
      Started s F C size
        { s with
          disk := (reopen s.disk C (cacheLen s C).toNat).1
          closed := s.closed.erase id
          pending := s.pending.insert id
            { entry with
              channelOpen := false
              alreadyUploadedBytes := cacheLen s C
              writer := some (reopen s.disk C (cacheLen s C).toNat).2 } }
        (.ok ⟨cacheLen s C, id⟩)

variable (o : StartOutcome)

theorem not_matching_dropPath (id : UploadId) (e : FtPendingUpload) :
    ¬ Matching (s.dropPath F C) F size id e := by
  rintro ⟨hlookup, hfinal, -⟩
  have hoff := (Table.lookup_removeWhere.mp hlookup).2
  simp [onPath, hfinal] at hoff

theorem startFresh_started {b : Store} (hfree : s.disk.names F = none)
    (hpass : Passes s F size) (h : Cleared s F C size b) :
    Action.wp (startFresh o F C size) (fun r s' => Started s F C size s' r) b := by
  unfold startFresh
  cases o.created with
  | false => exact .cleared h
  | true =>
      refine Action.wp_of_run_ok (createEmptyFile_works C b) ?_
      cases o.opened with
      | false => exact .emptied h (.inl rfl)
      | true =>
          refine Action.wp_of_run_ok (createAsyncWriter_works C 0 _) ?_
          refine Action.wp_bind (activeUpload_wp (Q := fun r s' =>
              s' = { b with disk := (freshDisk b.disk C).1 } ∧ ∀ up, r = .ok (some up) →
                Started s F C size s' (.ok up)) ?_ ?_ ?_ ?_) ?_ ?_
          · exact fun _ _ _ _ => ⟨rfl, nofun⟩
          · exact fun _ => ⟨rfl, nofun⟩
          · exact fun _ _ _ _ _ _ => ⟨rfl, nofun⟩
          · intro id e hmatch hidle hfit
            refine ⟨rfl, fun up hup => ?_⟩
            cases hup
            cases h with
            | absent habsent => exact .refound hfree habsent hmatch hidle (hfit rfl)
            | discarded => exact absurd hmatch (not_matching_dropPath id e)
            | unseen => exact absurd hmatch (not_matching_dropPath id e)
          · intro found b' hb'
            obtain ⟨rfl, hfound⟩ := hb'
            cases found with
            | none => exact .fresh hfree hpass h
            | some up => exact hfound up rfl
          · rintro e b' ⟨rfl, -⟩
            exact .emptied h (.inr rfl)

theorem exists_closed_of_resumable (h : Resumable s F C size) (pick : UploadId) :
    Table.findEntry s.closed (matchesClosed F C (cacheLen s C)) pick ≠ none := by
  intro hnone
  obtain ⟨x, hx, hmatch⟩ := List.any_eq_true.mp h.2.2
  have := Table.findEntry_none hnone (Table.lookup_eq_some_iff.mpr hx)
  rw [hmatch] at this
  cases this

theorem moveClosed_found {t : Store} {len : Int} {w : AsyncFileWriter} {pick id : UploadId}
    {e : FtPendingUpload} (h : Table.findEntry t.closed (matchesClosed F C len) pick = some (id, e)) :
    moveClosed F C len w pick t =
      ({ t with
         closed := t.closed.erase id
         pending := t.pending.insert id
           { e with channelOpen := false, alreadyUploadedBytes := len, writer := some w } },
        .ok (some ⟨len, id⟩)) := by
  unfold moveClosed
  rw [h]

theorem startResumed_started (hfree : s.disk.names F = none) (h : Resumable s F C size) :
    Action.wp (startResumed o F C size (cacheLen s C))
      (fun r s' => Started s F C size s' r) s := by
  unfold startResumed
  cases o.reopened with
  | false => exact .stopped
  | true =>
      refine Action.wp_of_run_ok (createAsyncWriter_works C _ s) ?_
      -- no closed session can be missing here, so the fresh branch is not reached
      refine Action.wp_bind (Q := fun r s' => (∃ e, r = .error e ∧ Started s F C size s' (.error e)) ∨
        ∃ up, r = .ok (some up) ∧ Started s F C size s' (.ok up)) ?_ ?_ ?_
      · refine Action.wp_bind (activeUpload_wp (Q := fun r s' =>
          s' = { s with disk := (reopen s.disk C (cacheLen s C).toNat).1 } ∧
            (∀ up, r = .ok (some up) → Started s F C size s' (.ok up)) ∧
            (r = .ok none → ∀ id e, ¬ Matching s F size id e)) ?_ ?_ ?_ ?_) ?_ ?_
        · exact fun _ _ _ _ => ⟨rfl, nofun, nofun⟩
        · exact fun hnone => ⟨rfl, nofun, fun _ => hnone⟩
        · exact fun _ _ _ _ hfit _ => absurd hfit (by decide)
        · intro id e hmatch hidle _
          refine ⟨rfl, fun up hup => ?_, nofun⟩
          cases hup
          exact .overlooked hfree h hmatch hidle
        · intro found s' hs'
          obtain ⟨rfl, hfound, hnone⟩ := hs'
          cases found with
          | some up => exact .inr ⟨up, rfl, hfound up rfl⟩
          | none =>
              cases hfind : Table.findEntry s.closed (matchesClosed F C (cacheLen s C))
                  o.pickClosed with
              | none => exact absurd hfind (exists_closed_of_resumable h _)
              | some x =>
                  obtain ⟨id, e⟩ := x
                  obtain ⟨hlookup, hmatch⟩ := Table.findEntry_some hfind
                  have hmove := moveClosed_found
                    (t := { s with disk := (reopen s.disk C (cacheLen s C).toNat).1 })
                    (w := (reopen s.disk C (cacheLen s C).toNat).2) hfind
                  unfold Action.wp
                  dsimp only
                  rw [hmove]
                  exact .inr ⟨_, rfl, .resumed hfree h (hnone rfl) hlookup hmatch⟩
        · rintro e s' ⟨rfl, -, -⟩
          exact .inl ⟨e, rfl, .blocked h⟩
      · rintro found s' (⟨e, he, -⟩ | ⟨up, hup, hstarted⟩)
        · cases he
        · cases hup
          exact hstarted
      · rintro e s' (⟨e', he', hstarted⟩ | ⟨up, hup, -⟩)
        · cases he'
          exact hstarted
        · cases hup

theorem discard_started (hcache : 0 ≤ cacheLen s C) (hfresh : ¬ Resumable s F C size) :
    Action.wp (discardFtCache id o.discarded F C)
      (fun r s' => match r with
        | .ok () => Cleared s F C size s'
        | .error e => Started s F C size s' (.error e)) s := by
  by_cases hclaimed : Claimed s F C
  · exact Action.wp_of_run_error (takeEntries_of_claimed hclaimed) .stopped
  · refine Action.wp_of_run_ok (takeEntries_of_unclaimed hclaimed) ?_
    refine deleteOrRestore_wp ?_ ?_ ?_
    · exact fun e => .restored hcache hclaimed
    · exact fun _ => .unseen hcache hfresh hclaimed
    · exact fun _ => .discarded hcache hfresh hclaimed

theorem startUnmatched_resumable (h : Resumable s F C size) :
    startUnmatched o F C size (cacheLen s C) s = startResumed o F C size (cacheLen s C) s := by
  have hskip : ¬ (0 ≤ cacheLen s C ∧ (size < cacheLen s C ∨
      ftClosedMatches F C (cacheLen s C) s = false)) := by
    rintro ⟨-, hlong | hunmatched⟩
    · exact absurd h.2.1 (not_le.mpr hlong)
    · rw [h.2.2] at hunmatched
      cases hunmatched
  unfold startUnmatched
  rw [Action.bind_of_ok (show Action.read s = (s, .ok s) from rfl), if_neg hskip, if_pos h.1]

theorem startUnmatched_discards (hcache : 0 ≤ cacheLen s C) (h : ¬ Resumable s F C size) :
    startUnmatched o F C size (cacheLen s C) s =
      (discardFtCache id o.discarded F C >>= fun _ => startFresh o F C size) s := by
  have hdiscard : 0 ≤ cacheLen s C ∧ (size < cacheLen s C ∨
      ftClosedMatches F C (cacheLen s C) s = false) := by
    refine ⟨hcache, ?_⟩
    by_contra hn
    obtain ⟨hlong, hmatched⟩ := not_or.mp hn
    exact h ⟨hcache, not_lt.mp hlong, Bool.eq_true_of_not_eq_false hmatched⟩
  unfold startUnmatched
  rw [Action.bind_of_ok (show Action.read s = (s, .ok s) from rfl), if_pos hdiscard]

theorem startUnmatched_absent (h : ¬ 0 ≤ cacheLen s C) :
    startUnmatched o F C size (cacheLen s C) s = startFresh o F C size s := by
  have hskip : ¬ (0 ≤ cacheLen s C ∧ (size < cacheLen s C ∨
      ftClosedMatches F C (cacheLen s C) s = false)) := fun hn => h hn.1
  unfold startUnmatched
  rw [Action.bind_of_ok (show Action.read s = (s, .ok s) from rfl), if_neg hskip, if_neg h]

theorem startUnmatched_started (hfree : s.disk.names F = none) (hpass : Passes s F size) :
    Action.wp (startUnmatched o F C size (cacheLen s C))
      (fun r s' => Started s F C size s' r) s := by
  unfold Action.wp
  by_cases hcache : 0 ≤ cacheLen s C
  · by_cases hres : Resumable s F C size
    · rw [startUnmatched_resumable o hres]
      exact startResumed_started o hfree hres
    · rw [startUnmatched_discards o hcache hres]
      change Action.wp (discardFtCache id o.discarded F C >>= fun _ => startFresh o F C size)
        (fun r s' => Started s F C size s' r) s
      refine Action.wp_bind (discard_started o hcache hres) ?_ ?_
      · exact fun _ _ hcleared => startFresh_started o hfree hpass hcleared
      · exact fun _ _ hstarted => hstarted
  · rw [startUnmatched_absent o hcache]
    exact startFresh_started o hfree hpass (.absent hcache)

theorem startFtFileUpload_started (path name : String) (size : Int) (s : Store) :
    Action.wp (startFtFileUpload o path name size)
      (fun r s' => Started s (filePathOf path name) (fileCachePathOf path name) size s' r) s := by
  refine Action.wp_bind (cacheSize_wp (Q := fun r s' => s' = s ∧ ∀ len, r = .ok len →
    s.disk.names (filePathOf path name) = none ∧ len = cacheLen s (fileCachePathOf path name))
    ?_ ?_) ?_ ?_
  · exact fun hfree => ⟨rfl, fun len hlen => ⟨hfree, (Except.ok.inj hlen).symm⟩⟩
  · exact fun e => ⟨rfl, nofun⟩
  · intro len s' hs'
    obtain ⟨rfl, hlen⟩ := hs'
    obtain ⟨hfree, rfl⟩ := hlen len rfl
    refine Action.wp_bind (activeUpload_wp (Q := fun r t => t = s' ∧
      (∀ up, r = .ok (some up) → Started s' (filePathOf path name) (fileCachePathOf path name)
        size s' (.ok up)) ∧
      (r = .ok none → Passes s' (filePathOf path name) size)) ?_ ?_ ?_ ?_) ?_ ?_
    · exact fun _ _ _ _ => ⟨rfl, nofun, nofun⟩
    · exact fun hnone => ⟨rfl, nofun, fun _ => .inl hnone⟩
    · intro id e hmatch hidle _ hover
      exact ⟨rfl, nofun, fun _ => .inr ⟨id, e, hmatch, hidle, hover⟩⟩
    · intro id e hmatch hidle hfit
      refine ⟨rfl, fun up hup => ?_, nofun⟩
      cases hup
      exact .reused hfree hmatch hidle (hfit rfl)
    · intro found t ht
      obtain ⟨rfl, hfound, hpass⟩ := ht
      cases found with
      | some up => exact hfound up rfl
      | none => exact startUnmatched_started o hfree (hpass rfl)
    · rintro e t ⟨rfl, -, -⟩
      exact .stopped
  · rintro e s' ⟨rfl, -⟩
    exact .stopped

end ArkKvm.FtUpload
