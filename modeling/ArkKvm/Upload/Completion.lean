import ArkKvm.Upload.Effects

/-!
# What a completion leaves behind

`complete_upload` ends with its session out of the active map or idle with an open handle,
unless it returns early: a failing stat, flush or sync, and a rename that fails where the
file cannot be opened again, leave the session claimed.  A flush fails too when it reports the
error of an earlier write.  A claimed session without a channel refuses every later start of
its file.
-/

namespace ArkKvm.Upload

open Lib

variable {s : Store} {id : UploadId} {entry : PendingUpload} {p : Path}

/-- No channel owns an active session of this file. -/
def Idle (s : Store) (p : Path) : Prop :=
  ∀ id entry, s.pending.lookup id = some entry → entry.uploadPath = p → entry.channelOpen = false

/-- The session has left the active map, or is idle with an open handle. -/
def Released (s : Store) (id : UploadId) : Prop :=
  ∀ entry, s.pending.lookup id = some entry → entry.channelOpen = false ∧ entry.file ≠ none

/-- No start of a name with this upload path answers that an upload is in progress. -/
def Startable (s : Store) (p : Path) : Prop :=
  ∀ filename base, sanitizeFilename filename = .ok base → uploadPathOf base = p →
    ∀ o finalExists size,
      (startStorageFileUpload o finalExists filename size s).2 ≠ .error "upload already in progress"

/-- The sessions of the file other than `id` are idle. -/
def OthersIdle (s : Store) (id : UploadId) (p : Path) : Prop :=
  ∀ id' entry, id' ≠ id → s.pending.lookup id' = some entry → entry.uploadPath = p →
    entry.channelOpen = false

/-- A stat that follows an `exists()` which found the file answers, and an open handle has no
error of an earlier write and can be flushed and synced. -/
def CompleteOutcome.Finishes (o : CompleteOutcome) (s : Store) (entry : PendingUpload) : Prop :=
  (existsAt s o.seenBefore entry.uploadPath = true → o.statBefore = true) ∧
  (∀ file, entry.file = some file →
    file.failed = false ∧ o.flushed = true ∧ o.synced = true) ∧
  (existsAt s o.seenAfter entry.uploadPath = true → o.statAfter = true)

/-- The outcomes that give the claim back: nothing fails before the length is known, and a file
that looks finished is renamed or can be opened again. -/
def CompleteOutcome.Releases (o : CompleteOutcome) (s : Store) (entry : PendingUpload) : Prop :=
  o.Finishes s entry ∧
  (lenSeen s o.seenAfter entry.uploadPath = entry.size →
    o.renamed = true ∨ s.disk.names entry.uploadPath ≠ none ∧ o.reopened = true)

/-! ## Starts of an idle file -/

private theorem exists_ne_inProgress (base : String) :
    "file already exists: " ++ base ≠ "upload already in progress" := by
  intro h
  have hchars := congrArg String.toList h
  simp at hchars

theorem Idle.any_eq_false (h : Idle s p) :
    (s.pending.entries.any fun x => x.2.uploadPath = p && x.2.channelOpen) = false := by
  rw [List.any_eq_false]
  intro x hx hclaimed
  obtain ⟨hpath, hopen⟩ := Bool.and_eq_true_iff.mp hclaimed
  have hidle := h x.1 x.2 (Table.lookup_eq_some_iff.mpr hx) (of_decide_eq_true hpath)
  rw [hidle] at hopen
  cases hopen

theorem startFresh_ne_inProgress (o : StartOutcome) (size : Int) (p f : Path) (s : Store) :
    Action.wp (startFresh o size p f) (fun r _ => r ≠ .error "upload already in progress") s :=
  Action.wp_ensure_bind (fun _ => nofun) (fun _ => by simp)

theorem resumePartial_ne_inProgress (o : StartOutcome) (inode : Nat) (len size : Int) (p f : Path)
    (s : Store) :
    (resumePartial o inode len size p f s).2 ≠ .error "upload already in progress" := by
  unfold resumePartial
  split
  · dsimp only
    split
    · nofun
    · simp
  · dsimp only
    split
    · nofun
    · simp

theorem Idle.discardOvershot_bind (h : Idle s p) (o : StartOutcome) (size : Int) (f : Path) :
    Action.wp (do discardOvershot o p; startFresh o size p f)
      (fun r _ => r ≠ .error "upload already in progress") s := by
  refine Action.wp_bind (Q := fun r _ => r ≠ .error "upload already in progress") ?_
    (fun _ s' _ => startFresh_ne_inProgress o size p f s') (fun e _ he heq => he ?_)
  · refine Action.wp_read_bind (Action.wp_ensure_bind (fun _ => ?_) (fun hn => ?_))
    · exact Action.wp_bind (Q := fun r _ => r = .ok ()) rfl
        (fun _ _ _ => Action.wp_ensure_bind (fun _ => nofun) (fun _ => by simp)) nofun
    · exact absurd h.any_eq_false hn
  · cases heq
    rfl

/-- An idle file can be started, whatever else a start may stumble on. -/
theorem Idle.startable (h : Idle s p) : Startable s p := by
  intro filename base hbase hp o finalExists size
  subst hp
  change Action.wp (startStorageFileUpload o finalExists filename size)
    (fun r _ => r ≠ .error "upload already in progress") s
  refine Action.wp_ofExcept_bind (fun b hb => ?_) (fun e he => ?_)
  · rw [hbase] at hb
    cases hb
    refine Action.wp_ensure_bind (fun _ => ?_) (fun _ => by simp)
    refine Action.wp_ensure_bind (fun _ => ?_)
      (fun _ heq => exists_ne_inProgress base (Except.error.inj heq))
    refine Action.wp_read_bind (Action.wp_ensure_bind (fun _ => ?_) (fun _ => by simp))
    dsimp only
    split
    · next id entry hfind =>
        obtain ⟨hlookup, hmatch⟩ := Table.findEntry_some hfind
        have hpath := of_decide_eq_true (Bool.and_eq_true_iff.mp hmatch).1
        refine Action.wp_ensure_bind (fun _ => ?_)
          (fun hn => absurd (h id entry hlookup hpath) hn)
        exact Action.wp_ensure_bind (fun _ => nofun) (fun _ => by simp)
    · split
      · split
        · exact h.discardOvershot_bind o size _
        · exact resumePartial_ne_inProgress o _ _ size _ _ s
      · exact startFresh_ne_inProgress o size _ _ s
  · rw [hbase] at he
    cases he

/-! ## The endings of a completion -/

theorem flushFile_ok {flushed : Bool}
    (h : ∀ file, entry.file = some file → file.failed = false ∧ flushed = true) :
    flushFile flushed id entry s = (s, .ok ()) := by
  unfold flushFile
  cases hfile : entry.file with
  | none => rfl
  | some file =>
      obtain ⟨hfailed, rfl⟩ := h file hfile
      simp [hfailed]

theorem clean_of_flushFile {flushed : Bool} (h : flushFile flushed id entry s = (s, .ok ())) :
    ∀ file, entry.file = some file → file.failed = false ∧ flushed = true := by
  intro file hfile
  unfold flushFile at h
  rw [hfile] at h
  cases hfailed : file.failed with
  | true => simp [hfailed] at h
  | false =>
      cases flushed with
      | true => exact ⟨rfl, rfl⟩
      | false => simp [hfailed] at h

theorem completeUpload_eq_settle {o : CompleteOutcome} (h : s.pending.lookup id = some entry)
    (hfinish : o.Finishes s entry) :
    completeUpload o id s =
      settle o id entry (lenSeen s o.seenAfter entry.uploadPath) s := by
  obtain ⟨hbefore, hfile, hafter⟩ := hfinish
  have hsync : entry.file ≠ none → o.synced = true := by
    intro hne
    obtain ⟨file, hsome⟩ := Option.ne_none_iff_exists'.mp hne
    exact (hfile file hsome).2.2
  unfold completeUpload
  rw [Action.bind_of_ok (show Action.read s = (s, .ok s) from rfl), h]
  dsimp only
  rw [Action.bind_of_ok (Action.ensure_of_pos hbefore _ s),
    Action.bind_of_ok (flushFile_ok fun file hsome =>
      ⟨(hfile file hsome).1, (hfile file hsome).2.1⟩),
    Action.bind_of_ok (Action.ensure_of_pos hsync _ s),
    Action.bind_of_ok (Action.ensure_of_pos hafter _ s)]

def StillClaimed (s' : Store) (id : UploadId) (entry : PendingUpload) : Prop :=
  ∃ e, s'.pending.lookup id = some e ∧ e.channelOpen = entry.channelOpen

theorem completeUpload_of_failed {o : CompleteOutcome} (h : s.pending.lookup id = some entry)
    (hfailed : ¬ o.Finishes s entry) : StillClaimed (completeUpload o id s).1 id entry := by
  have hsame : StillClaimed s id entry := ⟨entry, h, rfl⟩
  change Action.wp (completeUpload o id) (fun _ s' => StillClaimed s' id entry) s
  refine Action.wp_read_bind ?_
  rw [h]
  refine Action.wp_ensure_bind (fun hbefore => ?_) (fun _ => hsame)
  by_cases hclean : ∀ file, entry.file = some file → file.failed = false ∧ o.flushed = true
  · refine Action.wp_of_run_ok (flushFile_ok hclean) ?_
    refine Action.wp_ensure_bind (fun hsync => ?_) (fun _ => hsame)
    refine Action.wp_ensure_bind (fun hafter => ?_) (fun _ => hsame)
    refine absurd ⟨hbefore, fun file hfile => ?_, hafter⟩ hfailed
    exact ⟨(hclean file hfile).1, (hclean file hfile).2, hsync (by rw [hfile]; nofun)⟩
  · rcases flushFile_cases o.flushed id entry s with hflush | ⟨e, hflush⟩ |
      ⟨file, e, -, -, hflush⟩
    · exact absurd (clean_of_flushFile hflush) hclean
    · exact Action.wp_of_run_error hflush hsame
    · exact Action.wp_of_run_error hflush ⟨_, AList.lookup_insert _, rfl⟩

theorem released_insert {disk : Disk} {e : PendingUpload} :
    Released { s with disk := disk, pending := s.pending.insert id e } id ↔
      e.channelOpen = false ∧ e.file ≠ none := by
  constructor
  · intro h
    exact h e (AList.lookup_insert _)
  · intro h e' he'
    rw [AList.lookup_insert] at he'
    cases he'
    exact h

theorem released_of_none (h : s.pending.lookup id = none) : Released s id := by
  intro e he
  rw [h] at he
  cases he

theorem released_settle_iff {o : CompleteOutcome} {already : Int} :
    Released (settle o id entry already s).1 id ↔
      (already = entry.size →
        o.renamed = true ∨ s.disk.names entry.uploadPath ≠ none ∧ o.reopened = true) := by
  unfold settle
  by_cases hsize : already = entry.size
  · rw [if_pos hsize]
    by_cases hrenamed : o.renamed = true
    · rw [if_pos hrenamed]
      exact ⟨fun _ _ => .inl hrenamed, fun _ => released_of_none (AList.lookup_erase ..)⟩
    · rw [if_neg hrenamed]
      split
      · next inode hname hreopened =>
          constructor
          · intro _ _
            exact .inr ⟨by rw [hname]; nofun, hreopened⟩
          · intro _
            exact released_insert.mpr ⟨rfl, nofun⟩
      · next hstuck =>
          constructor
          · intro h
            exact absurd rfl (released_insert.mp h).2
          · intro h
            obtain hr | ⟨hname, hreopened⟩ := h hsize
            · exact absurd hr hrenamed
            · obtain ⟨inode, hinode⟩ := Option.ne_none_iff_exists'.mp hname
              exact absurd hreopened (hstuck inode hinode)
  · rw [if_neg hsize]
    split
    · exact ⟨fun _ h => absurd h hsize, fun _ => released_of_none (AList.lookup_erase ..)⟩
    · exact ⟨fun _ h => absurd h hsize, fun _ => released_of_none (AList.lookup_erase ..)⟩

/-- The completion gives its claim back, and its file can be started while no other channel
owns it, exactly when no early return is taken. -/
theorem completion_releases_iff (o : CompleteOutcome) (h : s.pending.lookup id = some entry)
    (hopen : entry.channelOpen = true) :
    (Released (completeUpload o id s).1 id ∧
        (OthersIdle (completeUpload o id s).1 id entry.uploadPath →
          Startable (completeUpload o id s).1 entry.uploadPath)) ↔
      o.Releases s entry := by
  constructor
  · intro ⟨hreleased, _⟩
    by_cases hfinish : o.Finishes s entry
    · rw [completeUpload_eq_settle h hfinish] at hreleased
      exact ⟨hfinish, released_settle_iff.mp hreleased⟩
    · obtain ⟨e, he, hclaimed⟩ := completeUpload_of_failed h hfinish
      have hidle := (hreleased e he).1
      rw [hclaimed, hopen] at hidle
      cases hidle
  · intro ⟨hfinish, hsettle⟩
    have hreleased : Released (completeUpload o id s).1 id := by
      rw [completeUpload_eq_settle h hfinish]
      exact released_settle_iff.mpr hsettle
    refine ⟨hreleased, fun hothers => Idle.startable ?_⟩
    intro id' e he hp
    by_cases hid : id' = id
    · subst hid
      exact (hreleased e he).1
    · exact hothers id' e hid he hp

/-! ## A claim that stays -/

/-- One claimed session of ten bytes, nothing of them written yet. -/
def claimed : Store where
  disk := (Disk.empty.create (uploadPathOf "disk.iso")).1
  pending := (∅ : Table UploadId PendingUpload).insert 0
    { newEntry 0 0 10 (uploadPathOf "disk.iso") (finalPathOf "disk.iso") with channelOpen := true }
  closed := ∅
  nextId := 1

theorem completion_releases_claimed :
    CompleteOutcome.works.Releases claimed
        { newEntry 0 0 10 (uploadPathOf "disk.iso") (finalPathOf "disk.iso") with
          channelOpen := true } ∧
      Released (completeUpload .works 0 claimed).1 0 := by
  have hreleases : CompleteOutcome.works.Releases claimed
      { newEntry 0 0 10 (uploadPathOf "disk.iso") (finalPathOf "disk.iso") with
        channelOpen := true } :=
    ⟨⟨fun _ => rfl, fun file hfile => ⟨by cases hfile; rfl, rfl, rfl⟩, fun _ => rfl⟩,
      fun _ => .inl rfl⟩
  exact ⟨hreleases, ((completion_releases_iff .works rfl rfl).mpr hreleases).1⟩

/-- A flush that fails leaves the session claimed, and the next start is refused. -/
theorem failed_flush_keeps_claim :
    ¬ Released (completeUpload { CompleteOutcome.works with flushed := false } 0 claimed).1 0 ∧
      (startStorageFileUpload .works false "disk.iso" 10
        (completeUpload { CompleteOutcome.works with flushed := false } 0 claimed).1).2 =
        .error "upload already in progress" := by
  constructor
  · intro h
    have hidle := (h _ rfl).1
    revert hidle
    decide
  · rfl

end ArkKvm.Upload
