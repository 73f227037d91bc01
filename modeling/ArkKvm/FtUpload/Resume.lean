import ArkKvm.FtUpload.Effects

/-!
# What a start promises

A start that answers `Ok` should leave an active session of the requested size whose writer
stands where the cache file ends.  A fresh session does; a session that is handed out again, or
taken from the closed map, was only compared in part with the request and with the cache file.
-/

namespace ArkKvm.FtUpload

open Lib
open Upload (Path UploadId StorageFileUpload)

variable {s : Store} {F C : Path} {size : Int}

/-- The answer of a start describes a usable session of the requested size. -/
def Resumes (s : Store) (C : Path) (size : Int) (up : StorageFileUpload) : Prop :=
  ∃ e w xs, s.pending.lookup up.dataChannel = some e ∧ e.size = size ∧ e.uploadPath = C ∧
    e.writer = some w ∧ (w.currentPosition : Int) = up.alreadyUploadedBytes ∧
    s.disk.contents C = some xs ∧ up.alreadyUploadedBytes = xs.length ∧
    up.alreadyUploadedBytes ≤ size

/-- An active session has this cache file open where its counter says. -/
def Fits (s : Store) (C : Path) (e : FtPendingUpload) : Prop :=
  ∃ w xs, e.uploadPath = C ∧ e.writer = some w ∧
    (w.currentPosition : Int) = e.alreadyUploadedBytes ∧ s.disk.contents C = some xs ∧
    e.alreadyUploadedBytes = xs.length

/-- The maps, the cache file and the size for which every answer of a start is right. -/
structure SoundStart (s : Store) (F C : Path) (size : Int) : Prop where
  /-- what the first look hands out has its cache file open -/
  reused : ∀ id e, Matching s F size id e → e.channelOpen = false →
    e.alreadyUploadedBytes ≤ size → Fits s C e
  /-- the look before a resume, which does not compare the counter, finds no long session -/
  overlooked : Resumable s F C size → ∀ id e, Matching s F size id e → e.channelOpen = false →
    e.alreadyUploadedBytes ≤ size
  /-- the closed sessions of the cache file were started with this size -/
  resumed : Resumable s F C size → (∀ id e, ¬ Matching s F size id e) →
    ∀ id e, s.closed.lookup id = some e → matchesClosed F C (cacheLen s C) e = true →
      e.size = size
  /-- a session that starts from nothing is not announced with a negative size -/
  fresh : Passes s F size → ¬ Resumable s F C size → (0 ≤ cacheLen s C → ¬ Claimed s F C) →
    0 ≤ size

/-! ## The answers are right -/

theorem contents_freshDisk (d : Disk Path) (C : Path) :
    (freshDisk d C).1.contents C = some [] := by
  unfold freshDisk
  rw [Disk.contents_of_names Disk.openTruncate_names_self]
  exact congrArg some Disk.openTruncate_data

theorem contents_reopen {d : Disk Path} {xs : List UInt8} (h : d.contents C = some xs) :
    (reopen d C xs.length).1.contents C = some xs := by
  unfold reopen
  by_cases hlen : 0 < xs.length
  · rw [if_pos hlen]
    obtain ⟨i, hi, -⟩ := Option.map_eq_some_iff.mp h
    rw [Disk.openCreate_of_some hi]
    exact h
  · rw [if_neg hlen, Disk.contents_of_names Disk.openTruncate_names_self, Disk.openTruncate_data]
    have hnil : xs = [] := List.eq_nil_of_length_eq_zero (by omega)
    rw [hnil]

theorem reopen_position (d : Disk Path) (C : Path) (n : Nat) :
    (reopen d C n).2.currentPosition = n := by
  unfold reopen
  by_cases h : 0 < n
  · rw [if_pos h]
  · rw [if_neg h]
    dsimp only
    omega

theorem enterFresh_resumes (b : Store) (hsize : 0 ≤ size) :
    Resumes (b.enterFresh F C size) C size ⟨0, b.nextId⟩ :=
  ⟨freshEntry (freshDisk b.disk C).2 size C F, _, [], AList.lookup_insert _, rfl, rfl, rfl, rfl,
    contents_freshDisk b.disk C, rfl, hsize⟩

theorem Fits.resumes {d : Disk Path} {id : UploadId} {e : FtPendingUpload} (h : Fits s C e)
    (hmatch : Matching s F size id e) (hfit : e.alreadyUploadedBytes ≤ size)
    (hdisk : d.contents C = s.disk.contents C) :
    Resumes { s with disk := d } C size ⟨e.alreadyUploadedBytes, id⟩ := by
  obtain ⟨w, xs, hpath, hwriter, hposition, hcontents, hlen⟩ := h
  exact ⟨e, w, xs, hmatch.1, hmatch.2.2, hpath, hwriter, hposition, hdisk.trans hcontents, hlen,
    hfit⟩

theorem cleared_size {b : Store} (hsound : SoundStart s F C size) (hpass : Passes s F size)
    (h : Cleared s F C size b) : 0 ≤ size := by
  cases h with
  | absent habsent =>
      exact hsound.fresh hpass (fun hres => habsent hres.1) (fun hcache => absurd hcache habsent)
  | discarded _ hfresh hunclaimed => exact hsound.fresh hpass hfresh (fun _ => hunclaimed)
  | unseen _ hfresh hunclaimed => exact hsound.fresh hpass hfresh (fun _ => hunclaimed)

theorem contents_reopen_cache (h : 0 ≤ cacheLen s C) :
    (reopen s.disk C (cacheLen s C).toNat).1.contents C = s.disk.contents C := by
  obtain ⟨xs, hxs, hlen⟩ := contents_of_cacheLen h
  rw [hlen, Int.toNat_natCast, contents_reopen hxs, hxs]

theorem SoundStart.resumes (hsound : SoundStart s F C size) {s' : Store} {up : StorageFileUpload}
    (h : Started s F C size s' (.ok up)) : Resumes s' C size up := by
  cases h with
  | reused _ hmatch hidle hfit =>
      exact (hsound.reused _ _ hmatch hidle hfit).resumes hmatch hfit rfl
  | refound _ habsent hmatch hidle hfit =>
      obtain ⟨w, xs, -, -, -, hcontents, -⟩ := hsound.reused _ _ hmatch hidle hfit
      rw [cacheLen_of_some hcontents] at habsent
      omega
  | fresh _ hpass hcleared => exact enterFresh_resumes _ (cleared_size hsound hpass hcleared)
  | overlooked _ hres hmatch hidle =>
      have hfit := hsound.overlooked hres _ _ hmatch hidle
      exact (hsound.reused _ _ hmatch hidle hfit).resumes hmatch hfit (contents_reopen_cache hres.1)
  | @resumed id entry _ hres hnone hlookup hmatch =>
      obtain ⟨xs, hxs, hlen⟩ := contents_of_cacheLen hres.1
      have hpath : entry.uploadPath = C := by
        simp only [matchesClosed, Bool.and_eq_true, decide_eq_true_eq] at hmatch
        exact hmatch.1.2
      refine ⟨_, _, xs, AList.lookup_insert _, ?_, hpath, rfl, ?_, ?_, hlen, hres.2.1⟩
      · exact hsound.resumed hres hnone id entry hlookup hmatch
      · dsimp only
        rw [reopen_position]
        have := hres.1
        omega
      · exact (contents_reopen_cache hres.1).trans hxs

/-! ## The answers that go wrong -/

def StartOutcome.works (pickActive pickClosed : UploadId) : StartOutcome :=
  ⟨true, true, true, ⟨true, true, true⟩, true, true, true, pickActive, pickClosed⟩

theorem cacheSize_works (hfree : s.disk.names F = none) :
    cacheSize true true true F C s = (s, .ok (cacheLen s C)) := by
  have hfinal : fsExists true F s = (s, .ok false) := by
    show (s, Except.ok (s.disk.names F).isSome) = _
    rw [hfree]
    rfl
  have hcache : fsExists true C s = (s, .ok (s.disk.names C).isSome) := rfl
  unfold cacheSize
  rw [Action.bind_of_ok hfinal, Action.bind_of_ok (Action.ensure_of_pos rfl _ s),
    Action.bind_of_ok hcache]
  by_cases hc : (s.disk.names C).isSome = true
  · obtain ⟨xs, hxs⟩ := isSome_names_iff.mp hc
    rw [if_pos hc, cacheLen_of_some hxs]
    unfold fileSize
    rw [hxs]
  · have hnone : s.disk.contents C = none := by
      cases hxs : s.disk.contents C with
      | none => rfl
      | some xs => exact absurd (isSome_names_iff.mpr ⟨xs, hxs⟩) hc
    rw [if_neg hc, cacheLen_of_none hnone]
    rfl

theorem findEntry_matching {id : UploadId} {e : FtPendingUpload} (h : Matching s F size id e) :
    Table.findEntry s.pending (fun e => e.finalPath = F && e.size = size) id = some (id, e) :=
  Table.findEntry_pick h.1 (by simp [h.2.1, h.2.2])

theorem activeUpload_none (h : ∀ id e, ¬ Matching s F size id e) (fitting : Bool)
    (pick : UploadId) : activeUpload fitting F size pick s = (s, .ok none) := by
  unfold activeUpload
  cases hfind : Table.findEntry s.pending (fun e => e.finalPath = F && e.size = size) pick with
  | none => rfl
  | some x =>
      obtain ⟨hlookup, hmatch⟩ := Table.findEntry_some hfind
      exact absurd ⟨hlookup, by simpa using hmatch⟩ (h x.1 x.2)

theorem activeUpload_disk (fitting : Bool) (pick : UploadId) (d : Disk Path) :
    activeUpload fitting F size pick { s with disk := d } =
      ({ s with disk := d }, (activeUpload fitting F size pick s).2) := by
  unfold activeUpload
  cases Table.findEntry s.pending (fun e => e.finalPath = F && e.size = size) pick with
  | none => rfl
  | some x =>
      dsimp only
      by_cases hopen : x.2.channelOpen = true
      · rw [if_pos hopen, if_pos hopen]
      · rw [if_neg hopen, if_neg hopen]
        by_cases hover : (fitting && decide (size < x.2.alreadyUploadedBytes)) = true
        · rw [if_pos hover, if_pos hover]
        · rw [if_neg hover, if_neg hover]

theorem activeUpload_found {id : UploadId} {e : FtPendingUpload} (h : Matching s F size id e)
    (hidle : e.channelOpen = false) {fitting : Bool}
    (hfit : fitting = true → e.alreadyUploadedBytes ≤ size) :
    activeUpload fitting F size id s = (s, .ok (some ⟨e.alreadyUploadedBytes, id⟩)) := by
  have hskip : ¬ (fitting && decide (size < e.alreadyUploadedBytes)) = true := by
    intro hover
    obtain ⟨hfitting, hlt⟩ := Bool.and_eq_true_iff.mp hover
    exact absurd (hfit hfitting) (not_le.mpr (of_decide_eq_true hlt))
  unfold activeUpload
  rw [findEntry_matching h]
  dsimp only
  rw [if_neg (by rw [hidle]; decide), if_neg hskip]

theorem activeUpload_over {id : UploadId} {e : FtPendingUpload} (h : Matching s F size id e)
    (hidle : e.channelOpen = false) (hover : size < e.alreadyUploadedBytes) :
    activeUpload true F size id s = (s, .ok none) := by
  unfold activeUpload
  rw [findEntry_matching h]
  dsimp only
  rw [if_neg (by rw [hidle]; decide), if_pos (by simpa using hover)]

theorem Passes.exists_pick (h : Passes s F size) :
    ∃ pick, activeUpload true F size pick s = (s, .ok none) := by
  rcases h with hnone | ⟨id, e, hmatch, hidle, hover⟩
  · exact ⟨0, activeUpload_none hnone true 0⟩
  · exact ⟨id, activeUpload_over hmatch hidle hover⟩

variable {path name : String}

theorem start_of_found {pickActive pickClosed : UploadId} {up : StorageFileUpload}
    (hfree : s.disk.names (filePathOf path name) = none)
    (hlook : activeUpload true (filePathOf path name) size pickActive s = (s, .ok (some up))) :
    startFtFileUpload (.works pickActive pickClosed) path name size s = (s, .ok up) := by
  unfold startFtFileUpload StartOutcome.works
  dsimp only
  rw [Action.bind_of_ok (cacheSize_works hfree), Action.bind_of_ok hlook]
  rfl

theorem start_of_none {pickActive pickClosed : UploadId}
    (hfree : s.disk.names (filePathOf path name) = none)
    (hlook : activeUpload true (filePathOf path name) size pickActive s = (s, .ok none)) :
    startFtFileUpload (.works pickActive pickClosed) path name size s =
      startUnmatched (.works pickActive pickClosed) (filePathOf path name)
        (fileCachePathOf path name) size (cacheLen s (fileCachePathOf path name)) s := by
  unfold startFtFileUpload StartOutcome.works
  dsimp only
  rw [Action.bind_of_ok (cacheSize_works hfree), Action.bind_of_ok hlook]

theorem startFresh_works {b : Store} {pickActive pickClosed : UploadId}
    (hlook : activeUpload true F size pickActive { b with disk := (freshDisk b.disk C).1 } =
      ({ b with disk := (freshDisk b.disk C).1 }, .ok none)) :
    startFresh (.works pickActive pickClosed) F C size b =
      (b.enterFresh F C size, .ok ⟨0, b.nextId⟩) := by
  unfold startFresh insertFresh StartOutcome.works
  dsimp only
  rw [Action.bind_of_ok (createEmptyFile_works C b),
    Action.bind_of_ok (createAsyncWriter_works C 0 _)]
  refine (Action.bind_of_ok hlook).trans ?_
  rfl

theorem discard_works (hcache : 0 ≤ cacheLen s C) (hunclaimed : ¬ Claimed s F C) :
    discardFtCache id ⟨true, true, true⟩ F C s =
      (s.discard F C, .ok ()) := by
  obtain ⟨xs, hxs, -⟩ := contents_of_cacheLen hcache
  obtain ⟨i, hi⟩ := Option.isSome_iff_exists.mp (isSome_names_iff.mpr ⟨xs, hxs⟩)
  have hdelete : deleteCache ⟨true, true, true⟩ C (s.dropPath F C) =
      (s.discard F C, .ok ()) := by
    have hexists : fsExists true C (s.dropPath F C) = (s.dropPath F C, .ok true) := by
      show (s.dropPath F C, Except.ok (s.disk.names C).isSome) = _
      rw [hi]
      rfl
    have hne : ¬ (s.dropPath F C).disk.names C = none := by
      show ¬ s.disk.names C = none
      rw [hi]
      nofun
    unfold deleteCache
    rw [Action.bind_of_ok hexists]
    show deleteFile true C (s.dropPath F C) = _
    unfold deleteFile
    rw [if_neg hne, if_pos rfl]
    rfl
  unfold discardFtCache
  rw [Action.bind_of_ok (takeEntries_of_unclaimed hunclaimed)]
  unfold deleteOrRestore
  rw [id, hdelete]

theorem startUnmatched_fresh (hpass : Passes s F size) (hfresh : ¬ Resumable s F C size)
    (hunclaimed : 0 ≤ cacheLen s C → ¬ Claimed s F C) :
    ∃ pick s' id, activeUpload true F size pick s = (s, .ok none) ∧
      startUnmatched (.works pick 0) F C size (cacheLen s C) s = (s', .ok ⟨0, id⟩) := by
  obtain ⟨pick, hlook⟩ := hpass.exists_pick
  by_cases hcache : 0 ≤ cacheLen s C
  · refine ⟨pick, (s.discard F C).enterFresh F C size, s.nextId, hlook, ?_⟩
    rw [startUnmatched_discards _ hcache hfresh]
    refine (Action.bind_of_ok (discard_works hcache (hunclaimed hcache))).trans
      (startFresh_works (activeUpload_none ?_ true pick))
    exact fun id e hmatch => not_matching_dropPath id e hmatch
  · refine ⟨pick, s.enterFresh F C size, s.nextId, hlook, ?_⟩
    rw [startUnmatched_absent _ hcache]
    refine startFresh_works ?_
    rw [activeUpload_disk, hlook]

theorem resumeClosed_of_found {t : Store} {len : Int} {w : AsyncFileWriter}
    {pickActive pickClosed : UploadId} {up : StorageFileUpload}
    (h : activeUpload false F size pickActive t = (t, .ok (some up))) :
    resumeClosed F C size len w pickActive pickClosed t = (t, .ok (some up)) := by
  unfold resumeClosed
  rw [Action.bind_of_ok h]
  rfl

theorem resumeClosed_of_none {t : Store} {len : Int} {w : AsyncFileWriter}
    {pickActive pickClosed : UploadId}
    (h : activeUpload false F size pickActive t = (t, .ok none)) :
    resumeClosed F C size len w pickActive pickClosed t = moveClosed F C len w pickClosed t := by
  unfold resumeClosed
  rw [Action.bind_of_ok h]

theorem startResumed_of_resumeClosed {len : Int} {pickActive pickClosed : UploadId} {t : Store}
    {up : StorageFileUpload}
    (h : resumeClosed F C size len (reopen s.disk C len.toNat).2 pickActive pickClosed
      { s with disk := (reopen s.disk C len.toNat).1 } = (t, .ok (some up))) :
    startResumed (.works pickActive pickClosed) F C size len s = (t, .ok up) := by
  unfold startResumed StartOutcome.works
  dsimp only
  rw [Action.bind_of_ok (createAsyncWriter_works C _ s)]
  exact Action.bind_of_ok h

theorem startUnmatched_overlooked (hres : Resumable s F C size) {id : UploadId}
    {e : FtPendingUpload} (hmatch : Matching s F size id e) (hidle : e.channelOpen = false) :
    ∃ s', startUnmatched (.works id 0) F C size (cacheLen s C) s =
      (s', .ok ⟨e.alreadyUploadedBytes, id⟩) := by
  refine ⟨_, (startUnmatched_resumable _ hres).trans (startResumed_of_resumeClosed
    (resumeClosed_of_found ?_))⟩
  have hlook := activeUpload_found hmatch hidle
    (fun h : false = true => absurd h Bool.false_ne_true)
  rw [activeUpload_disk, hlook]

theorem startUnmatched_resumed (hres : Resumable s F C size)
    (hnone : ∀ id e, ¬ Matching s F size id e) {id : UploadId} {e : FtPendingUpload}
    (hlookup : s.closed.lookup id = some e)
    (hmatch : matchesClosed F C (cacheLen s C) e = true) :
    ∃ s' e', startUnmatched (.works 0 id) F C size (cacheLen s C) s =
        (s', .ok ⟨cacheLen s C, id⟩) ∧
      s'.pending.lookup id = some e' ∧ e'.size = e.size := by
  have hlook : activeUpload false F size 0
      { s with disk := (reopen s.disk C (cacheLen s C).toNat).1 } =
      ({ s with disk := (reopen s.disk C (cacheLen s C).toNat).1 }, .ok none) := by
    rw [activeUpload_disk, activeUpload_none hnone]
  have hmove := moveClosed_found
    (t := { s with disk := (reopen s.disk C (cacheLen s C).toNat).1 })
    (w := (reopen s.disk C (cacheLen s C).toNat).2) (Table.findEntry_pick hlookup hmatch)
  exact ⟨_, _, (startUnmatched_resumable _ hres).trans (startResumed_of_resumeClosed
    ((resumeClosed_of_none hlook).trans hmove)), AList.lookup_insert _, rfl⟩

/-- Every answer of a start is right, whatever the file system says and in whatever order the
maps are searched, exactly when the final name is taken or the store is sound. -/
theorem start_resumes_iff (s : Store) (path name : String) (size : Int) :
    (∀ o s' up, startFtFileUpload o path name size s = (s', .ok up) →
        Resumes s' (fileCachePathOf path name) size up) ↔
      (s.disk.names (filePathOf path name) = none →
        SoundStart s (filePathOf path name) (fileCachePathOf path name) size) := by
  constructor
  · intro h hfree
    constructor
    · intro id e hmatch hidle hfit
      have hlook := activeUpload_found hmatch hidle (fun _ : true = true => hfit)
      obtain ⟨e', w, xs, hlookup, -, hpath, hwriter, hposition, hcontents, hlen, -⟩ :=
        h (.works id 0) _ _ (start_of_found hfree hlook)
      have he : e' = e := Option.some.inj (hlookup.symm.trans hmatch.1)
      subst he
      exact ⟨w, xs, hpath, hwriter, hposition, hcontents, hlen⟩
    · intro hres id e hmatch hidle
      by_contra hover
      have hlook := activeUpload_over hmatch hidle (not_le.mp hover)
      obtain ⟨s', hrun⟩ := startUnmatched_overlooked hres hmatch hidle
      obtain ⟨_, _, _, -, -, -, -, -, -, -, hfit⟩ :=
        h _ s' _ ((start_of_none hfree hlook).trans hrun)
      exact hover hfit
    · intro hres hnone id e hlookup hmatch
      have hlook := activeUpload_none hnone true 0
      obtain ⟨s', e', hrun, he', hsize⟩ := startUnmatched_resumed hres hnone hlookup hmatch
      obtain ⟨e'', _, _, he'', hsize'', -⟩ :=
        h _ s' _ ((start_of_none hfree hlook).trans hrun)
      have he : e'' = e' := Option.some.inj (he''.symm.trans he')
      rw [← hsize, ← he, hsize'']
    · intro hpass hfresh hunclaimed
      obtain ⟨pick, s', id, hlook, hrun⟩ := startUnmatched_fresh hpass hfresh hunclaimed
      obtain ⟨_, _, _, -, -, -, -, -, -, -, hfit⟩ :=
        h _ s' _ ((start_of_none hfree hlook).trans hrun)
      exact hfit
  · intro hsound o s' up hrun
    have hstarted := startFtFileUpload_started o path name size s
    unfold Action.wp at hstarted
    rw [hrun] at hstarted
    by_cases hfree : s.disk.names (filePathOf path name) = none
    · exact (hsound hfree).resumes hstarted
    · cases hstarted with
      | reused h => exact absurd h hfree
      | refound h => exact absurd h hfree
      | fresh h => exact absurd h hfree
      | overlooked h => exact absurd h hfree
      | resumed h => exact absurd h hfree

/-! ## A closed session of another size -/

/-- A closed session of ten bytes that has received four of them. -/
def interrupted : Store where
  disk := ((Disk.empty.openTruncate (fileCachePathOf "" "a.bin")).1.modify 0 fun _ => [1, 2, 3, 4])
  pending := ∅
  closed := (∅ : Table UploadId FtPendingUpload).insert 0
    { writer := none
      size := 10
      alreadyUploadedBytes := 4
      uploadPath := fileCachePathOf "" "a.bin"
      finalPath := filePathOf "" "a.bin"
      channelOpen := false }
  nextId := 1

/-- The file has grown to twenty bytes since; the start answers `Ok` and keeps the old size. -/
theorem resumed_session_keeps_its_size :
    (startFtFileUpload (.works 0 0) "" "a.bin" 20 interrupted).2 = .ok ⟨4, 0⟩ ∧
      ¬ Resumes (startFtFileUpload (.works 0 0) "" "a.bin" 20 interrupted).1
        (fileCachePathOf "" "a.bin") 20 ⟨4, 0⟩ := by
  constructor
  · rfl
  · rintro ⟨e, -, -, hlookup, hsize, -⟩
    have hten : ((startFtFileUpload (.works 0 0) "" "a.bin" 20 interrupted).1.pending.lookup 0).map
        (·.size) = some 10 := rfl
    rw [hlookup] at hten
    cases hten.symm.trans (congrArg some hsize)

end ArkKvm.FtUpload
