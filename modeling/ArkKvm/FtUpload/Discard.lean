import ArkKvm.FtUpload.Effects

/-!
# Discarding a cache file

`discard_ft_cache` takes the sessions of a path out of both maps, lets go of the locks, deletes
the cache file and puts the sessions back when that fails.  What it puts back has lost its
writer, and what other tasks enter while the locks are free stays.
-/

namespace ArkKvm.FtUpload

open Lib
open Upload (Path UploadId)

variable {s t : Store} {F C : Path} {o : DeleteOutcome} {meanwhile : Store → Store}

/-- An active session accepts these bytes, at once or after it has reported the error of the
write before. -/
def Accepts (s : Store) (id : UploadId) (data : List UInt8) : Prop :=
  (appendFtUploadData id data none s).2.isOk = true ∨
    (appendFtUploadData id data none (appendFtUploadData id data none s).1).2.isOk = true

/-- Every session of the path is in its map again and as usable as before: what an active
session accepted it still accepts.  The writer of a closed session is never used. -/
structure Restored (s s' : Store) (F C : Path) : Prop where
  pending : ∀ id e, s.pending.lookup id = some e → onPath F C e = true →
    ∃ e', s'.pending.lookup id = some e' ∧ { e' with writer := e.writer } = e
  usable : ∀ id e, s.pending.lookup id = some e → onPath F C e = true →
    ∀ data, Accepts s id data → Accepts s' id data
  closed : ∀ id e, s.closed.lookup id = some e → onPath F C e = true →
    ∃ e', s'.closed.lookup id = some e' ∧ { e' with writer := e.writer } = e

def Unlisted (s : Store) (F C : Path) : Prop :=
  (∀ id e, s.pending.lookup id = some e → onPath F C e = false) ∧
    ∀ id e, s.closed.lookup id = some e → onPath F C e = false

/-- What the result of a discard promises. -/
def KeepsPromise (s s' : Store) (F C : Path) : Except String Unit → Prop
  | .ok () => Unlisted s' F C ∧ s'.disk.contents C = none
  | .error _ => Restored s s' F C

/-- The file operations of a discard answer `Ok`. -/
def DeleteOutcome.Succeeds (o : DeleteOutcome) (t : Store) (C : Path) : Prop :=
  o.known = true ∧ (t.disk.names C ≠ none → o.seen = true → o.deleted = true)

instance : Decidable (o.Succeeds t C) := inferInstanceAs (Decidable (_ ∧ (_ → _)))

/-- When a discard keeps its promise: a channel owns the path; or the deletion succeeds, the
file was seen and no session was entered meanwhile; or the deletion fails and no session that
it took away could still write. -/
def DiscardsCleanly (meanwhile : Store → Store) (o : DeleteOutcome) (s : Store) (F C : Path) :
    Prop :=
  Claimed s F C ∨
    (o.Succeeds (meanwhile (s.dropPath F C)) C ∧ Unlisted (meanwhile (s.dropPath F C)) F C ∧
      ((meanwhile (s.dropPath F C)).disk.names C ≠ none → o.seen = true)) ∨
    (¬ o.Succeeds (meanwhile (s.dropPath F C)) C ∧
      ∀ id e, s.pending.lookup id = some e → onPath F C e = true →
        e.writer = none ∨ e.size ≤ e.alreadyUploadedBytes)

/-! ## The deletion -/

theorem deleteCache_of_fails (h : ¬ o.Succeeds t C) :
    ∃ e, deleteCache o C t = (t, .error e) := by
  unfold deleteCache fsExists
  cases hknown : o.known with
  | false => exact ⟨_, rfl⟩
  | true =>
      have hdeny : t.disk.names C ≠ none ∧ o.seen = true ∧ o.deleted ≠ true := by
        by_contra hn
        refine h ⟨hknown, fun hname hseen => ?_⟩
        by_contra hdeleted
        exact hn ⟨hname, hseen, hdeleted⟩
      obtain ⟨i, hi⟩ := Option.ne_none_iff_exists'.mp hdeny.1
      refine ⟨"Failed to delete file", ?_⟩
      show (if (t.disk.names C).isSome && o.seen then deleteFile o.deleted C else pure ()) t = _
      rw [hi, hdeny.2.1]
      show deleteFile o.deleted C t = _
      unfold deleteFile
      rw [if_neg hdeny.1, if_neg hdeny.2.2]

theorem deleteCache_of_succeeds (h : o.Succeeds t C) :
    deleteCache o C t = (t, .ok ()) ∧ (t.disk.names C = none ∨ o.seen = false) ∨
      deleteCache o C t = ({ t with disk := t.disk.remove C }, .ok ()) ∧ o.seen = true := by
  unfold deleteCache fsExists
  rw [h.1]
  cases hname : t.disk.names C with
  | none =>
      refine .inl ⟨?_, .inl rfl⟩
      show (if (t.disk.names C).isSome && o.seen then deleteFile o.deleted C else pure ()) t = _
      rw [hname]
      rfl
  | some i =>
      have hne : t.disk.names C ≠ none := by
        rw [hname]
        nofun
      cases hseen : o.seen with
      | false =>
          refine .inl ⟨?_, .inr rfl⟩
          show (if (t.disk.names C).isSome && false then deleteFile o.deleted C else pure ()) t = _
          rw [Bool.and_false]
          rfl
      | true =>
          refine .inr ⟨?_, rfl⟩
          show (if (t.disk.names C).isSome && true then deleteFile o.deleted C else pure ()) t = _
          rw [hname]
          show deleteFile o.deleted C t = _
          unfold deleteFile
          rw [if_neg hne, if_pos (h.2 hne hseen)]

theorem contents_eq_none_iff {d : Disk Path} : d.contents C = none ↔ d.names C = none :=
  Option.map_eq_none_iff

/-! ## What is put back -/

theorem lookup_restored (m n : Table UploadId FtPendingUpload) {id : UploadId}
    {e : FtPendingUpload} (h : m.lookup id = some e) (hpath : onPath F C e = true) :
    (Table.mapValues (fun e => { e with writer := none })
      (Table.removeWhere m fun e => !onPath F C e) ∪ n).lookup id =
      some { e with writer := none } := by
  apply AList.mem_lookup_union.mpr
  refine .inl (Table.lookup_mapValues_iff.mpr ⟨e, ?_, rfl⟩)
  exact Table.lookup_removeWhere.mpr ⟨h, by rw [hpath]; rfl⟩

theorem append_isOk_of_lookup {id : UploadId} {e : FtPendingUpload}
    (h : s.pending.lookup id = some e) (data : List UInt8) :
    (appendFtUploadData id data none s).2.isOk = true ↔
      (∃ w, e.writer = some w ∧ w.failed = false) ∨
        Upload.bytesWithinSize e.alreadyUploadedBytes e.size data = [] := by
  unfold appendFtUploadData
  rw [h]
  dsimp only
  by_cases hnil : Upload.bytesWithinSize e.alreadyUploadedBytes e.size data = []
  · rw [if_pos hnil]
    exact ⟨fun _ => .inr hnil, fun _ => rfl⟩
  · rw [if_neg hnil]
    cases hwriter : e.writer with
    | none =>
        constructor
        · nofun
        · rintro (⟨w, hopen, -⟩ | hempty)
          · cases hopen
          · exact absurd hempty hnil
    | some w =>
        cases hfailed : w.failed with
        | false => exact ⟨fun _ => .inl ⟨w, rfl, hfailed⟩, fun _ => by dsimp only; rw [hfailed]; rfl⟩
        | true =>
            constructor
            · intro hok
              dsimp only at hok
              rw [hfailed] at hok
              cases hok
            · rintro (⟨w', hopen, hclean⟩ | hempty)
              · cases hopen
                rw [hfailed] at hclean
                cases hclean
              · exact absurd hempty hnil

theorem append_of_failed {id : UploadId} {e : FtPendingUpload} {w : AsyncFileWriter}
    {data : List UInt8} (h : s.pending.lookup id = some e) (hwriter : e.writer = some w)
    (hfailed : w.failed = true)
    (hne : Upload.bytesWithinSize e.alreadyUploadedBytes e.size data ≠ []) :
    ∃ e' w', (appendFtUploadData id data none s).1.pending.lookup id = some e' ∧
      e'.writer = some w' ∧ w'.failed = false := by
  unfold appendFtUploadData
  simp only [h, hwriter, if_neg hne, hfailed]
  exact ⟨_, _, AList.lookup_insert _, by rw [FtPendingUpload.wrote, hwriter]; rfl, rfl⟩

theorem accepts_iff {id : UploadId} {e : FtPendingUpload} (h : s.pending.lookup id = some e)
    (data : List UInt8) :
    Accepts s id data ↔
      e.writer ≠ none ∨ Upload.bytesWithinSize e.alreadyUploadedBytes e.size data = [] := by
  by_cases hnil : Upload.bytesWithinSize e.alreadyUploadedBytes e.size data = []
  · exact ⟨fun _ => .inr hnil, fun _ => .inl ((append_isOk_of_lookup h data).mpr (.inr hnil))⟩
  cases hwriter : e.writer with
  | none =>
      have hrefused : appendFtUploadData id data none s = (s, .error "writer not found") := by
        unfold appendFtUploadData
        simp only [h, if_neg hnil, hwriter]
      unfold Accepts
      rw [hrefused, hrefused]
      constructor
      · rintro (hok | hok)
        · cases hok
        · cases hok
      · rintro (hopen | hempty)
        · exact absurd rfl hopen
        · exact absurd hempty hnil
  | some w =>
      refine ⟨fun _ => .inl nofun, fun _ => ?_⟩
      cases hfailed : w.failed with
      | false => exact .inl ((append_isOk_of_lookup h data).mpr (.inl ⟨w, hwriter, hfailed⟩))
      | true =>
          obtain ⟨e', w', hlookup, hw', hclean⟩ := append_of_failed h hwriter hfailed hnil
          exact .inr ((append_isOk_of_lookup hlookup data).mpr (.inl ⟨w', hw', hclean⟩))

theorem bytesWithinSize_singleton {already size : Int} (h : already < size) (x : UInt8) :
    Upload.bytesWithinSize already size [x] = [x] := by
  unfold Upload.bytesWithinSize
  rw [if_neg (not_le.mpr h), if_pos]
  show (1 : Int) ≤ size - already
  omega

/-- A session that is put back accepts what it accepted before exactly when it had no writer
to lose or no byte to wait for. -/
theorem usable_iff {id : UploadId} {e : FtPendingUpload} (h : s.pending.lookup id = some e)
    (h' : t.pending.lookup id = some { e with writer := none }) :
    (∀ data, Accepts s id data → Accepts t id data) ↔
      e.writer = none ∨ e.size ≤ e.alreadyUploadedBytes := by
  constructor
  · intro hkept
    by_contra hn
    obtain ⟨hwriter, hroom⟩ := not_or.mp hn
    have haccepted := (accepts_iff h [0]).mpr (.inl hwriter)
    obtain hlost | hempty := (accepts_iff h' [0]).mp (hkept [0] haccepted)
    · exact hlost rfl
    · rw [bytesWithinSize_singleton (not_le.mp hroom)] at hempty
      cases hempty
  · rintro (hnone | hfull) data haccepted
    · obtain hopen | hempty := (accepts_iff h data).mp haccepted
      · exact absurd hnone hopen
      · exact (accepts_iff h' data).mpr (.inr hempty)
    · refine (accepts_iff h' data).mpr (.inr ?_)
      unfold Upload.bytesWithinSize
      exact if_pos hfull

theorem restored_iff (t : Store) :
    Restored s (restoreEntries (s.removed F C) t) F C ↔
      ∀ id e, s.pending.lookup id = some e → onPath F C e = true →
        e.writer = none ∨ e.size ≤ e.alreadyUploadedBytes := by
  have hback : ∀ id e, s.pending.lookup id = some e → onPath F C e = true →
      (restoreEntries (s.removed F C) t).pending.lookup id = some { e with writer := none } :=
    fun id e h hpath => lookup_restored s.pending t.pending h hpath
  constructor
  · intro h id e hlookup hpath
    exact (usable_iff hlookup (hback id e hlookup hpath)).mp (h.usable id e hlookup hpath)
  · intro h
    constructor
    · exact fun id e hlookup hpath => ⟨_, hback id e hlookup hpath, rfl⟩
    · intro id e hlookup hpath
      exact (usable_iff hlookup (hback id e hlookup hpath)).mpr (h id e hlookup hpath)
    · exact fun id e hlookup hpath =>
        ⟨_, lookup_restored s.closed t.closed hlookup hpath, rfl⟩

theorem restored_refl (s : Store) (F C : Path) : Restored s s F C where
  pending := fun _ e h _ => ⟨e, h, rfl⟩
  usable := fun _ _ _ _ _ h => h
  closed := fun _ e h _ => ⟨e, h, rfl⟩

/-- A discard keeps its promise, whatever fails and whatever other tasks do meanwhile, exactly
when it discards cleanly. -/
theorem discard_keeps_promise_iff (meanwhile : Store → Store) (o : DeleteOutcome) (F C : Path)
    (s : Store) :
    KeepsPromise s (discardFtCache meanwhile o F C s).1 F C
        (discardFtCache meanwhile o F C s).2 ↔
      DiscardsCleanly meanwhile o s F C := by
  by_cases hclaimed : Claimed s F C
  · unfold discardFtCache
    rw [Action.bind_of_error (takeEntries_of_claimed hclaimed)]
    exact ⟨fun _ => .inl hclaimed, fun _ => restored_refl s F C⟩
  · have htake := takeEntries_of_unclaimed hclaimed
    unfold discardFtCache
    rw [Action.bind_of_ok htake]
    unfold deleteOrRestore
    by_cases hok : o.Succeeds (meanwhile (s.dropPath F C)) C
    · obtain ⟨hrun, hunseen⟩ | ⟨hrun, hseen⟩ := deleteCache_of_succeeds hok
      · rw [hrun]
        show Unlisted _ F C ∧ _ ↔ _
        rw [contents_eq_none_iff]
        constructor
        · intro ⟨hunlisted, hnone⟩
          exact .inr (.inl ⟨hok, hunlisted, fun hname => absurd hnone hname⟩)
        · rintro (h | ⟨-, hunlisted, hfile⟩ | ⟨h, -⟩)
          · exact absurd h hclaimed
          · refine ⟨hunlisted, ?_⟩
            by_contra hname
            obtain hnone | hfalse := hunseen
            · exact hname hnone
            · rw [hfile hname] at hfalse
              cases hfalse
          · exact absurd hok h
      · rw [hrun]
        show Unlisted (meanwhile (s.dropPath F C)) F C ∧ _ ↔ _
        constructor
        · intro ⟨hunlisted, _⟩
          exact .inr (.inl ⟨hok, hunlisted, fun _ => hseen⟩)
        · rintro (h | ⟨-, hunlisted, -⟩ | ⟨h, -⟩)
          · exact absurd h hclaimed
          · exact ⟨hunlisted, (Disk.contents_remove _ C C).trans (if_pos rfl)⟩
          · exact absurd hok h
    · obtain ⟨e, hrun⟩ := deleteCache_of_fails hok
      rw [hrun]
      show Restored s (restoreEntries (s.removed F C) _) F C ↔ _
      rw [restored_iff]
      constructor
      · exact fun h => .inr (.inr ⟨hok, h⟩)
      · rintro (h | ⟨h, -⟩ | ⟨-, h⟩)
        · exact absurd h hclaimed
        · exact absurd h hok
        · exact h

/-! ## A session that is put back without its writer -/

/-- An idle session of ten bytes that has received four of them. -/
def idleUpload : Store where
  disk := ((Disk.empty.openTruncate (fileCachePathOf "" "a.bin")).1.modify 0 fun _ => [1, 2, 3, 4])
  pending := (∅ : Table UploadId FtPendingUpload).insert 0
    { writer := some { inode := 0, append := false, currentPosition := 4 }
      size := 10
      alreadyUploadedBytes := 4
      uploadPath := fileCachePathOf "" "a.bin"
      finalPath := filePathOf "" "a.bin"
      channelOpen := false }
  closed := ∅
  nextId := 1

/-- The deletion of the cache file fails: the session accepted a byte before and refuses it
after the discard. -/
theorem failed_discard_loses_writer :
    (discardFtCache id ⟨true, true, false⟩ (filePathOf "" "a.bin") (fileCachePathOf "" "a.bin")
        idleUpload).2 = .error "Failed to delete file" ∧
      ¬ KeepsPromise idleUpload
        (discardFtCache id ⟨true, true, false⟩ (filePathOf "" "a.bin")
          (fileCachePathOf "" "a.bin") idleUpload).1
        (filePathOf "" "a.bin") (fileCachePathOf "" "a.bin")
        (.error "Failed to delete file") := by
  constructor
  · rfl
  · intro h
    rcases h.usable 0 _ rfl rfl [5] (.inl rfl) with hkept | hkept
    · cases hkept
    · cases hkept

end ArkKvm.FtUpload
