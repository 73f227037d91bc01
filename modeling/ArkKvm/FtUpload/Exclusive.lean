import ArkKvm.FtUpload.Interleaving
import ArkKvm.FtUpload.Resume

/-!
# One owner of a cache file

The cache file of the path belongs to one session at most, active or closed, and is as long as
the counter of that session says.  What a start has found out about the file and the maps stays
true until it ends, because no other start acts meanwhile and the writers change nothing that
it relies on.
-/

namespace ArkKvm.FtUpload.Exclusive

open Lib
open Upload (Path UploadId StorageFileUpload)

variable {F C : Path} {sh : Shared}

def Finishing (sh : Shared) (id : UploadId) : Prop :=
  ∃ w wr, sh.writers.lookup w = some wr ∧ wr.id = id ∧ wr.stage.finishing = true

def Retired (sh : Shared) (id : UploadId) : Prop :=
  ∃ w wr, sh.writers.lookup w = some wr ∧ wr.id = id ∧ wr.stage.retires = true

def Owner (sh : Shared) (id : UploadId) (e : FtPendingUpload) : Prop :=
  (sh.store.pending.lookup id = some e ∧ ¬ Retired sh id) ∨ sh.store.closed.lookup id = some e

def Shared.ahead (sh : Shared) (id : UploadId) : Nat :=
  match sh.appending with
  | some a => if a.id = id then a.written else 0
  | none => 0

/-- An active session that bytes were appended for, or are being appended. -/
def Writing (sh : Shared) (id : UploadId) (e : FtPendingUpload) : Prop :=
  sh.store.pending.lookup id = some e ∧ ¬ Retired sh id ∧
    (0 < e.alreadyUploadedBytes ∨ ∃ a, sh.appending = some a ∧ a.id = id)

/-- What a step of a start leaves alone: the sessions with bytes, and the cache file while
there is one. -/
def Untouched (C : Path) (sh : Shared) (store : Store) : Prop :=
  ∀ id e, Writing sh id e →
    store.pending.lookup id = some e ∧ store.disk.contents C = sh.store.disk.contents C

/-- The cache file has one owner at most and is as long as its counter says, unless an append
is in progress. -/
def Owned (C : Path) (sh : Shared) : Prop :=
  (∀ id id' e e', Owner sh id e → Owner sh id' e' → id = id' ∧ e = e') ∧
    (sh.appending = none → ∀ id e, Owner sh id e →
      ∃ xs, sh.store.disk.contents C = some xs ∧ e.alreadyUploadedBytes = xs.length)

def Acting (F C : Path) (sh : Shared) (st : Start) : Prop :=
  st.phase.acts = true ∧ (st.phase = .take → ¬ Claimed sh.store F C)

/-- The condition on a step of a writer: a session that has all its bytes is completed by one
caller at a time, and an append returns with its whole chunk written, or it only reports the
error of the write before, or no byte of it is written and the next piece finds that out. -/
def WriterApart (sh : Shared) : WriterEvent → Prop
  | .complete w _ => ∀ wr e, sh.writers.lookup w = some wr → wr.stage = .writing →
      sh.store.pending.lookup wr.id = some e → e.size ≤ e.alreadyUploadedBytes →
      ∀ w' wr', sh.writers.lookup w' = some wr' → wr'.id = wr.id → w' ≠ w →
        wr'.stage = .writing
  | .appendEnd => ∀ a, sh.appending = some a → a.rest = [] ∨ sh.store.refuses a.id = true ∨
      (a.written = 0 ∧ WriteBehind.maxBufSize < a.rest.length)
  | _ => True

/-- The condition on a step.  A start acts only while no other start is past its look at the
cache file, and takes only sessions without bytes that nobody finishes out of the active map. -/
def Apart (F C : Path) (s : State) : Event → Prop
  | .start _ => True
  | .startStep n _ => ∀ st, s.starts.lookup n = some st → Acting F C s.shared st →
      (∀ n' st', s.starts.lookup n' = some st' → n' ≠ n → st'.phase.looked = false) ∧
        (st.phase = .take → ∀ id e, s.shared.store.pending.lookup id = some e →
          e.alreadyUploadedBytes = 0 ∧ ¬ Finishing s.shared id)
  | .writer ev => WriterApart s.shared ev

/-! ## The invariant -/

structure Inv (F C : Path) (sh : Shared) : Prop where
  path : ∀ {id e}, sh.store.pending.lookup id = some e ∨ sh.store.closed.lookup id = some e →
    e.uploadPath = C ∧ e.finalPath = F
  apart : ∀ {id e}, sh.store.closed.lookup id = some e → sh.store.pending.lookup id = none
  unique : ∀ {id id' e e'}, Owner sh id e → Owner sh id' e' → id = id'
  matched : ∀ {id e}, Owner sh id e → ∃ i, sh.store.disk.names C = some i ∧
    ((sh.store.disk.data i).length : Int) = e.alreadyUploadedBytes + sh.ahead id
  synced : ∀ {id e w}, sh.store.pending.lookup id = some e → e.writer = some w →
    sh.store.disk.names C = some w.inode ∧ (w.currentPosition : Int) = e.alreadyUploadedBytes
  finishing : ∀ {w wr}, sh.writers.lookup w = some wr → wr.stage.finishing = true →
    ∃ e, sh.store.pending.lookup wr.id = some e ∧ e.writer = none ∧
      e.size ≤ e.alreadyUploadedBytes
  /-- who finishes a session is the only one that completes it -/
  alone : ∀ {w w' wr wr'}, sh.writers.lookup w = some wr → wr.stage.finishing = true →
    sh.writers.lookup w' = some wr' → wr'.id = wr.id → w' ≠ w → wr'.stage = .writing
  appending : ∀ {a}, sh.appending = some a →
    ∃ e w, sh.store.pending.lookup a.id = some e ∧ e.writer = some w ∧
      (w.failed = true → a.written = 0)
  pendingId : ∀ {id e}, sh.store.pending.lookup id = some e → id < sh.store.nextId
  closedId : ∀ {id e}, sh.store.closed.lookup id = some e → id < sh.store.nextId
  writerKey : ∀ {w wr}, sh.writers.lookup w = some wr → w < sh.nextWriter

/-- The cache file belongs to no active session. -/
def Quiet (sh : Shared) : Prop :=
  ∀ id e, sh.store.pending.lookup id = some e → Retired sh id

def NoOwner (sh : Shared) : Prop := ∀ id e, ¬ Owner sh id e

def Taken (removed : Removed) (id : UploadId) (e : FtPendingUpload) : Prop :=
  removed.pending.lookup id = some e ∨ removed.closed.lookup id = some e

structure Held (F C : Path) (sh : Shared) (removed : Removed) : Prop where
  path : ∀ {id e}, Taken removed id e → e.uploadPath = C ∧ e.finalPath = F
  absent : ∀ {id e}, Taken removed id e → sh.store.pending.lookup id = none
  apart : ∀ {id e}, removed.closed.lookup id = some e → removed.pending.lookup id = none
  unique : ∀ {id id' e e'}, Taken removed id e → Taken removed id' e' → id = id'
  matched : ∀ {id e}, Taken removed id e → ∃ i, sh.store.disk.names C = some i ∧
    ((sh.store.disk.data i).length : Int) = e.alreadyUploadedBytes
  writer : ∀ {id e}, removed.pending.lookup id = some e → e.writer = none
  id_lt : ∀ {id e}, Taken removed id e → id < sh.store.nextId

def Waits (sh : Shared) (len : Int) : Prop :=
  Quiet sh ∧ ∃ id e, sh.store.closed.lookup id = some e ∧ e.alreadyUploadedBytes = len

/-- What a start has found out. -/
def Sound (F C : Path) (sh : Shared) : StartPhase → Prop
  | .checkFinal | .checkCache | .sizeCache | .checkClosed _ | .take => True
  | .checkActive len => len < 0 → NoOwner sh
  | .seeCache removed | .deleteCache removed | .restore removed _ =>
      NoOwner sh ∧ Held F C sh removed
  | .reopen len => Waits sh len
  | .resume len w => Waits sh len ∧ sh.store.disk.names C = some w.inode ∧
      (w.currentPosition : Int) = len
  | .createEmpty | .openWriter => NoOwner sh
  | .enter w => NoOwner sh ∧ sh.store.disk.names C = some w.inode ∧
      sh.store.disk.data w.inode = [] ∧ w.currentPosition = 0

/-! ## Owners -/

theorem WriterStage.finishing_of_retires {stage : WriterStage} (h : stage.retires = true) :
    stage.finishing = true := by
  cases stage <;> first | rfl | cases h

theorem Retired.finishing {id : UploadId} (h : Retired sh id) : Finishing sh id := by
  obtain ⟨w, wr, hw, hid, hretires⟩ := h
  exact ⟨w, wr, hw, hid, WriterStage.finishing_of_retires hretires⟩

theorem Inv.of_finishing (h : Inv F C sh) {id : UploadId} (hfinishing : Finishing sh id) :
    ∃ e, sh.store.pending.lookup id = some e ∧ e.writer = none ∧
      e.size ≤ e.alreadyUploadedBytes := by
  obtain ⟨w, wr, hw, rfl, hstage⟩ := hfinishing
  exact h.finishing hw hstage

theorem Inv.owner_of_writer (h : Inv F C sh) {id : UploadId} {e : FtPendingUpload}
    {w : AsyncFileWriter} (hlookup : sh.store.pending.lookup id = some e)
    (hwriter : e.writer = some w) : Owner sh id e := by
  refine .inl ⟨hlookup, fun hretired => ?_⟩
  obtain ⟨e', hlookup', hnone, -⟩ := h.of_finishing hretired.finishing
  cases hlookup.symm.trans hlookup'
  rw [hwriter] at hnone
  cases hnone

theorem NoOwner.quiet (h : NoOwner sh) : Quiet sh := by
  intro id e hlookup
  by_contra hretired
  exact h id e (.inl ⟨hlookup, hretired⟩)

theorem NoOwner.closed (h : NoOwner sh) {id : UploadId} {e : FtPendingUpload}
    (hlookup : sh.store.closed.lookup id = some e) : False :=
  h id e (.inr hlookup)

theorem Quiet.not_writing (h : Quiet sh) {id : UploadId} {e : FtPendingUpload} :
    ¬ Writing sh id e :=
  fun ⟨hlookup, hretired, _⟩ => hretired (h id e hlookup)

theorem Quiet.untouched (h : Quiet sh) (store : Store) : Untouched C sh store :=
  fun _ _ hwriting => absurd hwriting h.not_writing

theorem untouched_refl (sh : Shared) : Untouched C sh sh.store :=
  fun _ _ hwriting => ⟨hwriting.1, rfl⟩

theorem Inv.no_writer (h : Inv F C sh) (hquiet : Quiet sh) {id : UploadId}
    {e : FtPendingUpload} {w : AsyncFileWriter} (hlookup : sh.store.pending.lookup id = some e) :
    e.writer ≠ some w := by
  intro hwriter
  rcases h.owner_of_writer hlookup hwriter with ⟨-, hretired⟩ | hclosed
  · exact hretired (hquiet id e hlookup)
  · rw [h.apart hclosed] at hlookup
    cases hlookup

theorem Inv.quiet_of_closed (h : Inv F C sh) {id : UploadId} {e : FtPendingUpload}
    (hclosed : sh.store.closed.lookup id = some e) : Quiet sh := by
  intro id' e' hlookup
  by_contra hretired
  obtain rfl := h.unique (.inr hclosed) (.inl ⟨hlookup, hretired⟩)
  rw [h.apart hclosed] at hlookup
  cases hlookup

theorem Shared.ahead_of_none (h : sh.appending = none) (id : UploadId) : sh.ahead id = 0 := by
  unfold Shared.ahead
  rw [h]

theorem Inv.owned (h : Inv F C sh) : Owned C sh := by
  constructor
  · intro id id' e e' howner howner'
    obtain rfl := h.unique howner howner'
    refine ⟨rfl, ?_⟩
    rcases howner with ⟨hlookup, -⟩ | hclosed <;> rcases howner' with ⟨hlookup', -⟩ | hclosed'
    · exact Option.some.inj (hlookup.symm.trans hlookup')
    · rw [h.apart hclosed'] at hlookup
      cases hlookup
    · rw [h.apart hclosed] at hlookup'
      cases hlookup'
    · exact Option.some.inj (hclosed.symm.trans hclosed')
  · intro hfree id e howner
    obtain ⟨i, hname, hlen⟩ := h.matched howner
    refine ⟨_, Disk.contents_of_names hname, ?_⟩
    rw [Shared.ahead_of_none hfree] at hlen
    omega

/-! ## Changes of the store by a start -/

def Shared.withStore (sh : Shared) (store : Store) : Shared := { sh with store := store }

/-- Without an owner the disk may change. -/
theorem Inv.disk_of_noOwner (h : Inv F C sh) (hno : NoOwner sh) (disk : Disk Path) :
    Inv F C (sh.withStore { sh.store with disk := disk }) where
  path := h.path
  apart := h.apart
  unique := h.unique
  matched howner := absurd howner (hno _ _)
  synced hlookup hwriter := absurd hwriter (h.no_writer hno.quiet hlookup)
  finishing := h.finishing
  alone := h.alone
  appending := h.appending
  pendingId := h.pendingId
  closedId := h.closedId
  writerKey := h.writerKey

theorem Inv.disk_of_len (h : Inv F C sh) {disk : Disk Path}
    (hname : disk.names C = sh.store.disk.names C)
    (hlen : ∀ i, sh.store.disk.names C = some i →
      (disk.data i).length = (sh.store.disk.data i).length) :
    Inv F C (sh.withStore { sh.store with disk := disk }) where
  path := h.path
  apart := h.apart
  unique := h.unique
  matched howner := by
    obtain ⟨i, hi, hmatched⟩ := h.matched howner
    refine ⟨i, hname.trans hi, ?_⟩
    show ((disk.data i).length : Int) = _
    rw [hlen i hi]
    exact hmatched
  synced hlookup hwriter := by
    obtain ⟨hinode, hposition⟩ := h.synced hlookup hwriter
    exact ⟨hname.trans hinode, hposition⟩
  finishing := h.finishing
  alone := h.alone
  appending := h.appending
  pendingId := h.pendingId
  closedId := h.closedId
  writerKey := h.writerKey

theorem Inv.lookup_dropPath (h : Inv F C sh) {m : Table UploadId FtPendingUpload}
    (hm : ∀ {id e}, m.lookup id = some e →
      sh.store.pending.lookup id = some e ∨ sh.store.closed.lookup id = some e)
    (id : UploadId) : (Table.removeWhere m (onPath F C)).lookup id = none := by
  rw [Option.eq_none_iff_forall_not_mem]
  intro e hlookup
  obtain ⟨hold, hoff⟩ := Table.lookup_removeWhere.mp hlookup
  obtain ⟨-, hfinal⟩ := h.path (hm hold)
  simp [onPath, hfinal] at hoff

theorem Inv.not_pending_dropPath (h : Inv F C sh) {id : UploadId} {e : FtPendingUpload} :
    (sh.store.dropPath F C).pending.lookup id ≠ some e := by
  rw [show (sh.store.dropPath F C).pending.lookup id = none from h.lookup_dropPath .inl id]
  nofun

theorem Inv.not_closed_dropPath (h : Inv F C sh) {id : UploadId} {e : FtPendingUpload} :
    (sh.store.dropPath F C).closed.lookup id ≠ some e := by
  rw [show (sh.store.dropPath F C).closed.lookup id = none from h.lookup_dropPath .inr id]
  nofun

theorem noOwner_dropPath (h : Inv F C sh) :
    NoOwner (sh.withStore (sh.store.dropPath F C)) := by
  rintro id e (⟨hlookup, -⟩ | hclosed)
  · exact h.not_pending_dropPath hlookup
  · exact h.not_closed_dropPath hclosed

theorem lookup_removed {m : Table UploadId FtPendingUpload} {id : UploadId} {e : FtPendingUpload}
    (hlookup : (Table.mapValues (fun e => { e with writer := none })
      (Table.removeWhere m fun e => !onPath F C e)).lookup id = some e) :
    ∃ e', m.lookup id = some e' ∧ e = { e' with writer := none } := by
  obtain ⟨e', htaken, rfl⟩ := Table.lookup_mapValues_iff.mp hlookup
  exact ⟨e', (Table.lookup_removeWhere.mp htaken).1, rfl⟩

section Take

variable (h : Inv F C sh) (hfree : sh.appending = none)
  (htake : ∀ id e, sh.store.pending.lookup id = some e →
    e.alreadyUploadedBytes = 0 ∧ ¬ Finishing sh id)
include htake

theorem taken_owner {id : UploadId} {e : FtPendingUpload}
    (hlookup : Taken (sh.store.removed F C) id e) :
    ∃ e', Owner sh id e' ∧ e = { e' with writer := none } := by
  rcases hlookup with hlookup | hlookup
  · obtain ⟨e', hold, rfl⟩ := lookup_removed hlookup
    refine ⟨e', .inl ⟨hold, fun hretired => ?_⟩, rfl⟩
    exact (htake id e' hold).2 hretired.finishing
  · obtain ⟨e', hold, rfl⟩ := lookup_removed hlookup
    exact ⟨e', .inr hold, rfl⟩

include h hfree

theorem inv_dropPath : Inv F C (sh.withStore (sh.store.dropPath F C)) where
  path hlookup := by
    rcases hlookup with hlookup | hlookup
    · exact absurd hlookup h.not_pending_dropPath
    · exact absurd hlookup h.not_closed_dropPath
  apart hlookup := absurd hlookup h.not_closed_dropPath
  unique howner := absurd howner (noOwner_dropPath h _ _)
  matched howner := absurd howner (noOwner_dropPath h _ _)
  synced hlookup := absurd hlookup h.not_pending_dropPath
  finishing := by
    intro w wr hw hstage
    obtain ⟨e, hlookup, -⟩ := h.finishing hw hstage
    exact absurd ⟨w, wr, hw, rfl, hstage⟩ (htake _ _ hlookup).2
  alone := h.alone
  appending := by
    intro a ha
    rw [show sh.appending = some a from ha] at hfree
    cases hfree
  pendingId hlookup := absurd hlookup h.not_pending_dropPath
  closedId hlookup := absurd hlookup h.not_closed_dropPath
  writerKey := h.writerKey

theorem held_removed :
    Held F C (sh.withStore (sh.store.dropPath F C)) (sh.store.removed F C) where
  path := by
    intro id e hlookup
    obtain ⟨e', howner, rfl⟩ := taken_owner htake hlookup
    rcases howner with ⟨hold, -⟩ | hold
    · have hpath := h.path (.inl hold)
      exact hpath
    · have hpath := h.path (.inr hold)
      exact hpath
  absent _ := h.lookup_dropPath .inl _
  apart := by
    intro id e hlookup
    obtain ⟨e₁, hold, -⟩ := lookup_removed hlookup
    rw [Option.eq_none_iff_forall_not_mem]
    intro e₂ hlookup'
    obtain ⟨e₃, hold', -⟩ := lookup_removed hlookup'
    rw [h.apart hold] at hold'
    cases hold'
  unique := by
    intro id id' e e' hlookup hlookup'
    obtain ⟨e₁, howner, -⟩ := taken_owner htake hlookup
    obtain ⟨e₂, howner', -⟩ := taken_owner htake hlookup'
    exact h.unique howner howner'
  matched := by
    intro id e hlookup
    obtain ⟨e', howner, rfl⟩ := taken_owner htake hlookup
    obtain ⟨i, hi, hlen⟩ := h.matched howner
    refine ⟨i, hi, ?_⟩
    show ((sh.store.disk.data i).length : Int) = e'.alreadyUploadedBytes
    rw [Shared.ahead_of_none hfree] at hlen
    simpa using hlen
  writer := by
    intro id e hlookup
    obtain ⟨e', -, rfl⟩ := lookup_removed hlookup
    rfl
  id_lt := by
    intro id e hlookup
    obtain ⟨e', howner, rfl⟩ := taken_owner htake hlookup
    rcases howner with ⟨hold, -⟩ | hold
    · exact h.pendingId hold
    · exact h.closedId hold

omit h in
theorem untouched_dropPath : Untouched C sh (sh.store.dropPath F C) := by
  rintro id e ⟨hlookup, -, hpositive | ⟨a, ha, -⟩⟩
  · have hzero := (htake id e hlookup).1
    omega
  · rw [hfree] at ha
    cases ha

end Take

theorem inv_restore {removed : Removed} (h : Inv F C sh) (hfree : sh.appending = none)
    (hno : NoOwner sh) (hheld : Held F C sh removed) :
    Inv F C (sh.withStore (restoreEntries removed sh.store)) := by
  have hpending : ∀ {id e}, (removed.pending ∪ sh.store.pending).lookup id = some e →
      removed.pending.lookup id = some e ∨ sh.store.pending.lookup id = some e := by
    intro id e hlookup
    rcases AList.mem_lookup_union.mp hlookup with htaken | ⟨-, hold⟩
    · exact .inl htaken
    · exact .inr hold
  have hclosed : ∀ {id e}, (removed.closed ∪ sh.store.closed).lookup id = some e →
      removed.closed.lookup id = some e := by
    intro id e hlookup
    rcases AList.mem_lookup_union.mp hlookup with htaken | ⟨-, hold⟩
    · exact htaken
    · exact absurd hold fun hold => hno.closed hold
  have howner : ∀ {id e}, Owner (sh.withStore (restoreEntries removed sh.store)) id e →
      Taken removed id e := by
    rintro id e (⟨hlookup, hretired⟩ | hlookup)
    · rcases hpending hlookup with htaken | hold
      · exact .inl htaken
      · exact absurd (hno.quiet id e hold) hretired
    · exact .inr (hclosed hlookup)
  constructor
  · rintro id e (hlookup | hlookup)
    · rcases hpending hlookup with htaken | hold
      · exact hheld.path (.inl htaken)
      · exact h.path (.inl hold)
    · exact hheld.path (.inr (hclosed hlookup))
  · intro id e hlookup
    have htaken := hclosed hlookup
    rw [Option.eq_none_iff_forall_not_mem]
    intro e' hlookup'
    rcases hpending hlookup' with htaken' | hold
    · rw [hheld.apart htaken] at htaken'
      cases htaken'
    · rw [hheld.absent (.inr htaken)] at hold
      cases hold
  · exact fun h₁ h₂ => hheld.unique (howner h₁) (howner h₂)
  · intro id e hown
    obtain ⟨i, hi, hlen⟩ := hheld.matched (howner hown)
    refine ⟨i, hi, ?_⟩
    show ((sh.store.disk.data i).length : Int) = e.alreadyUploadedBytes + sh.ahead id
    rw [Shared.ahead_of_none hfree]
    simpa using hlen
  · intro id e w hlookup hwriter
    rcases hpending hlookup with htaken | hold
    · rw [hheld.writer htaken] at hwriter
      cases hwriter
    · exact h.synced hold hwriter
  · intro w wr hw hstage
    obtain ⟨e, hlookup, hrest⟩ := h.finishing hw hstage
    refine ⟨e, ?_, hrest⟩
    refine AList.mem_lookup_union.mpr (.inr ⟨fun hmem => ?_, hlookup⟩)
    obtain ⟨e', htaken⟩ := Option.isSome_iff_exists.mp (AList.lookup_isSome.mpr hmem)
    rw [hheld.absent (.inl htaken)] at hlookup
    cases hlookup
  · exact h.alone
  · intro a ha
    rw [show sh.appending = some a from ha] at hfree
    cases hfree
  · intro id e hlookup
    rcases hpending hlookup with htaken | hold
    · exact hheld.id_lt (.inl htaken)
    · exact h.pendingId hold
  · exact fun hlookup => hheld.id_lt (.inr (hclosed hlookup))
  · exact h.writerKey

theorem inv_activate (h : Inv F C sh) (hfree : sh.appending = none) (hquiet : Quiet sh)
    {k n : UploadId} {e : FtPendingUpload} {w : AsyncFileWriter}
    {closed : Table UploadId FtPendingUpload} (hclosed : ∀ id e', closed.lookup id ≠ some e')
    (hpath : e.uploadPath = C ∧ e.finalPath = F) (hwriter : e.writer = some w)
    (hname : sh.store.disk.names C = some w.inode)
    (hlen : ((sh.store.disk.data w.inode).length : Int) = e.alreadyUploadedBytes)
    (hposition : (w.currentPosition : Int) = e.alreadyUploadedBytes)
    (habsent : sh.store.pending.lookup k = none) (hk : k < n) (hn : sh.store.nextId ≤ n) :
    Inv F C (sh.withStore ⟨sh.store.disk, sh.store.pending.insert k e, closed, n⟩) := by
  have howner : ∀ {id e'},
      Owner (sh.withStore ⟨sh.store.disk, sh.store.pending.insert k e, closed, n⟩) id e' →
      id = k ∧ e' = e := by
    rintro id e' (⟨hlookup, hretired⟩ | hlookup)
    · rcases Table.lookup_insert_iff.mp hlookup with hnew | ⟨-, hold⟩
      · exact hnew
      · exact absurd (hquiet id e' hold) hretired
    · exact absurd hlookup (hclosed id e')
  constructor
  · rintro id e' (hlookup | hlookup)
    · rcases Table.lookup_insert_iff.mp hlookup with ⟨-, rfl⟩ | ⟨-, hold⟩
      · exact hpath
      · exact h.path (.inl hold)
    · exact absurd hlookup (hclosed id e')
  · exact fun hlookup => absurd hlookup (hclosed _ _)
  · exact fun h₁ h₂ => (howner h₁).1.trans (howner h₂).1.symm
  · intro id e' hown
    obtain ⟨-, rfl⟩ := howner hown
    refine ⟨w.inode, hname, ?_⟩
    show ((sh.store.disk.data w.inode).length : Int) = e'.alreadyUploadedBytes + sh.ahead id
    rw [Shared.ahead_of_none hfree]
    simpa using hlen
  · intro id e' w' hlookup hwriter'
    rcases Table.lookup_insert_iff.mp hlookup with ⟨-, rfl⟩ | ⟨-, hold⟩
    · cases hwriter.symm.trans hwriter'
      exact ⟨hname, hposition⟩
    · exact absurd hwriter' (h.no_writer hquiet hold)
  · intro v wr hv hstage
    obtain ⟨e', hlookup, hrest⟩ := h.finishing hv hstage
    refine ⟨e', Table.lookup_insert_iff.mpr (.inr ⟨?_, hlookup⟩), hrest⟩
    intro hid
    rw [hid, habsent] at hlookup
    cases hlookup
  · exact h.alone
  · intro a ha
    rw [show sh.appending = some a from ha] at hfree
    cases hfree
  · intro id e' hlookup
    rcases Table.lookup_insert_iff.mp hlookup with ⟨rfl, -⟩ | ⟨-, hold⟩
    · exact hk
    · exact Nat.lt_of_lt_of_le (h.pendingId hold) hn
  · exact fun hlookup => absurd hlookup (hclosed _ _)
  · exact h.writerKey

theorem Inv.not_appending (h : Inv F C sh) (hquiet : Quiet sh) : sh.appending = none := by
  rw [Option.eq_none_iff_forall_not_mem]
  intro a ha
  obtain ⟨e, w, hlookup, hwriter, -⟩ := h.appending ha
  exact h.no_writer hquiet hlookup hwriter

/-- A cache file that waits for its closed session is as long as the session says. -/
theorem Waits.names {len : Int} (hwaits : Waits sh len) (h : Inv F C sh) :
    ∃ i, sh.store.disk.names C = some i ∧ ((sh.store.disk.data i).length : Int) = len := by
  obtain ⟨hquiet, id, e, hclosed, rfl⟩ := hwaits
  obtain ⟨i, hi, hlen⟩ := h.matched (.inr hclosed)
  rw [Shared.ahead_of_none (h.not_appending hquiet)] at hlen
  exact ⟨i, hi, by simpa using hlen⟩

section Reopen

variable {d : Disk Path} {i : Nat}

theorem reopen_names (hi : d.names C = some i) (n : Nat) :
    (reopen d C n).1.names C = some i ∧ (reopen d C n).2.inode = i := by
  unfold reopen
  split
  · rw [Disk.openCreate_of_some hi]
    exact ⟨hi, rfl⟩
  · have hopened : (d.openTruncate C).2 = i := by
      show (d.openCreate C).2 = i
      rw [Disk.openCreate_of_some hi]
    exact ⟨by rw [Disk.openTruncate_names_self, hopened], hopened⟩

theorem reopen_length (hi : d.names C = some i) {n : Nat} (hlen : (d.data i).length = n) :
    ((reopen d C n).1.data i).length = n := by
  unfold reopen
  split
  · rw [Disk.openCreate_of_some hi]
    exact hlen
  · have hopened : (d.openTruncate C).2 = i := by
      show (d.openCreate C).2 = i
      rw [Disk.openCreate_of_some hi]
    have hempty := Disk.openTruncate_data (d := d) (n := C)
    rw [hopened] at hempty
    rw [hempty]
    show 0 = n
    omega

end Reopen

theorem inv_moveClosed (h : Inv F C sh) (hfree : sh.appending = none) {len : Int}
    {id : UploadId} {e : FtPendingUpload} {w : AsyncFileWriter}
    (hclosed : sh.store.closed.lookup id = some e) (hmatch : matchesClosed F C len e = true)
    (hname : sh.store.disk.names C = some w.inode) (hposition : (w.currentPosition : Int) = len) :
    Inv F C (sh.withStore { sh.store with
      closed := sh.store.closed.erase id
      pending := sh.store.pending.insert id
        { e with channelOpen := false, alreadyUploadedBytes := len, writer := some w } }) := by
  have hquiet := h.quiet_of_closed hclosed
  simp only [matchesClosed, Bool.and_eq_true, decide_eq_true_eq] at hmatch
  obtain ⟨i, hi, hlen⟩ := Waits.names ⟨hquiet, id, e, hclosed, hmatch.2⟩ h
  cases hi.symm.trans hname
  refine inv_activate h hfree hquiet ?_ ?_ rfl hname hlen hposition (h.apart hclosed)
    (h.closedId hclosed) (Nat.le_refl _)
  · intro id' e' hlookup
    obtain ⟨hne, hold⟩ := Table.lookup_erase_iff.mp hlookup
    exact hne (h.unique (.inr hold) (.inr hclosed))
  · have hpath := h.path (.inr hclosed)
    exact hpath

/-! ## One step of a start -/

structure StartStep (F C : Path) (sh : Shared) (r : Except String (StartPhase ⊕ StorageFileUpload))
    (store : Store) : Prop where
  inv : Inv F C (sh.withStore store)
  sound : ∀ phase, r = .ok (.inl phase) → Sound F C (sh.withStore store) phase
  untouched : Untouched C sh store

section Step

variable {o : StartOutcome} {size : Int}

theorem StartStep.same (h : Inv F C sh) {r : Except String (StartPhase ⊕ StorageFileUpload)}
    (hsound : ∀ phase, r = .ok (.inl phase) → Sound F C sh phase) :
    StartStep F C sh r sh.store :=
  ⟨h, hsound, untouched_refl sh⟩

theorem StartStep.ends (h : Inv F C sh) (e : String) : StartStep F C sh (.error e) sh.store :=
  .same h nofun

theorem StartStep.goes (h : Inv F C sh) (phase : StartPhase) (hsound : Sound F C sh phase) :
    StartStep F C sh (.ok (.inl phase)) sh.store := by
  refine .same h ?_
  rintro _ ⟨⟩
  exact hsound

theorem StartStep.disk (h : Inv F C sh) (hno : NoOwner sh) {disk : Disk Path}
    {r : Except String (StartPhase ⊕ StorageFileUpload)}
    (hsound : ∀ phase, r = .ok (.inl phase) →
      Sound F C (sh.withStore { sh.store with disk := disk }) phase) :
    StartStep F C sh r { sh.store with disk := disk } :=
  ⟨h.disk_of_noOwner hno disk, hsound, hno.quiet.untouched _⟩

theorem Inv.noOwner_of_missing (h : Inv F C sh) (hmissing : sh.store.disk.names C = none) :
    NoOwner sh := by
  intro id e howner
  obtain ⟨i, hi, -⟩ := h.matched howner
  rw [hmissing] at hi
  cases hi

theorem startNext_checkCache (h : Inv F C sh) :
    Action.wp (startNext o F C size .checkCache) (StartStep F C sh) sh.store := by
  refine wp_fsExists_bind ?_ (fun e => .ends h e)
  cases hname : sh.store.disk.names C with
  | some i => exact StartStep.goes h .sizeCache trivial
  | none =>
      exact StartStep.goes h (.checkActive (-1)) fun _ => h.noOwner_of_missing hname

theorem startNext_sizeCache (h : Inv F C sh) :
    Action.wp (startNext o F C size .sizeCache) (StartStep F C sh) sh.store := by
  have hsized : Action.wp (fileSize o.sized C) (fun r store => store = sh.store ∧
      ∀ len, r = .ok len → 0 ≤ len) sh.store := by
    unfold Action.wp fileSize
    cases sh.store.disk.contents C with
    | none => exact ⟨rfl, nofun⟩
    | some xs =>
        cases o.sized with
        | false => exact ⟨rfl, nofun⟩
        | true =>
            refine ⟨rfl, ?_⟩
            rintro _ ⟨⟩
            exact Int.natCast_nonneg _
  refine Action.wp_bind hsized ?_ ?_
  · rintro len store ⟨rfl, hlen⟩
    refine StartStep.goes h (.checkActive len) fun hneg => ?_
    have hnonneg := hlen len rfl
    omega
  · rintro e store ⟨rfl, -⟩
    exact .ends h e

theorem activeUpload_same (fitting : Bool) (pick : UploadId) (s : Store) :
    Action.wp (activeUpload fitting F size pick) (fun _ store => store = s) s :=
  activeUpload_wp (fun _ _ _ _ => rfl) (fun _ => rfl) (fun _ _ _ _ _ _ => rfl)
    fun _ _ _ _ _ => rfl

theorem startNext_checkActive (h : Inv F C sh) {len : Int}
    (hsound : Sound F C sh (.checkActive len)) :
    Action.wp (startNext o F C size (.checkActive len)) (StartStep F C sh) sh.store := by
  refine Action.wp_bind (activeUpload_same true o.pickActive sh.store) ?_ ?_
  · rintro found store rfl
    cases found with
    | some up => exact StartStep.same h nofun
    | none =>
        show StartStep F C sh (.ok (.inl (if _ then _ else _))) sh.store
        by_cases hneg : len < 0
        · rw [if_pos hneg]
          exact .goes h _ (hsound hneg)
        · rw [if_neg hneg]
          by_cases hlong : size < len
          · rw [if_pos hlong]
            exact .goes h _ trivial
          · rw [if_neg hlong]
            exact .goes h _ trivial
  · rintro e store rfl
    exact .ends h e

theorem startNext_checkClosed (h : Inv F C sh) (len : Int) :
    Action.wp (startNext o F C size (.checkClosed len)) (StartStep F C sh) sh.store := by
  show StartStep F C sh (.ok (.inl (if _ then _ else _))) sh.store
  by_cases hmatch : ftClosedMatches F C len sh.store = true
  · rw [if_pos hmatch]
    obtain ⟨x, hx, hmatches⟩ := List.any_eq_true.mp hmatch
    have hclosed := Table.lookup_eq_some_iff.mpr hx
    simp only [matchesClosed, Bool.and_eq_true, decide_eq_true_eq] at hmatches
    exact .goes h _ ⟨h.quiet_of_closed hclosed, x.1, x.2, hclosed, hmatches.2⟩
  · rw [if_neg hmatch]
    exact .goes h _ trivial

theorem startNext_take (h : Inv F C sh) (hfree : sh.appending = none)
    (htake : ¬ Claimed sh.store F C → ∀ id e, sh.store.pending.lookup id = some e →
      e.alreadyUploadedBytes = 0 ∧ ¬ Finishing sh id) :
    Action.wp (startNext o F C size .take) (StartStep F C sh) sh.store := by
  by_cases hclaimed : Claimed sh.store F C
  · exact Action.wp_of_run_error (takeEntries_of_claimed hclaimed) (.ends h _)
  · refine Action.wp_of_run_ok (takeEntries_of_unclaimed hclaimed) ?_
    refine ⟨inv_dropPath h hfree (htake hclaimed), ?_, untouched_dropPath hfree (htake hclaimed)⟩
    rintro _ ⟨⟩
    exact ⟨noOwner_dropPath h, held_removed h hfree (htake hclaimed)⟩

theorem startNext_seeCache (h : Inv F C sh) {removed : Removed} (hno : NoOwner sh)
    (hheld : Held F C sh removed) :
    Action.wp (startNext o F C size (.seeCache removed)) (StartStep F C sh) sh.store := by
  unfold Action.wp startNext fsExists
  dsimp only
  cases o.discarded.known with
  | false => exact .goes h _ ⟨hno, hheld⟩
  | true =>
      show StartStep F C sh (.ok (.inl (if _ then _ else _))) sh.store
      split
      · exact .goes h _ ⟨hno, hheld⟩
      · exact .goes h _ hno

theorem startNext_deleteCache (h : Inv F C sh) {removed : Removed} (hno : NoOwner sh)
    (hheld : Held F C sh removed) :
    Action.wp (startNext o F C size (.deleteCache removed)) (StartStep F C sh) sh.store := by
  unfold Action.wp startNext deleteFile
  dsimp only
  by_cases hmissing : sh.store.disk.names C = none
  · rw [if_pos hmissing]
    exact .goes h _ hno
  · rw [if_neg hmissing]
    cases o.discarded.deleted with
    | false => exact .goes h _ ⟨hno, hheld⟩
    | true =>
        refine .disk h hno ?_
        rintro _ ⟨⟩
        exact hno

theorem startNext_reopen (h : Inv F C sh) {len : Int} (hwaits : Waits sh len) :
    Action.wp (startNext o F C size (.reopen len)) (StartStep F C sh) sh.store := by
  cases hworks : o.reopened with
  | false =>
      refine Action.wp_of_run_error (e := "Failed to create file") ?_ (.ends h _)
      rw [hworks]
      exact createAsyncWriter_fails C len.toNat sh.store
  | true =>
      obtain ⟨i, hi, hlen⟩ := hwaits.names h
      have hnat : (sh.store.disk.data i).length = len.toNat := by omega
      have hname := reopen_names hi len.toNat
      refine Action.wp_of_run_ok (a := (reopen sh.store.disk C len.toNat).2)
        (t := { sh.store with disk := (reopen sh.store.disk C len.toNat).1 }) ?_ ?_
      · rw [hworks]
        exact createAsyncWriter_works C len.toNat sh.store
      refine ⟨h.disk_of_len (hname.1.trans hi.symm) ?_, ?_, hwaits.1.untouched _⟩
      · intro j hj
        cases hi.symm.trans hj
        rw [reopen_length hi hnat, hnat]
      · rintro _ ⟨⟩
        refine ⟨hwaits, ?_, ?_⟩
        · show (reopen sh.store.disk C len.toNat).1.names C = some _
          rw [hname.1, hname.2]
        · rw [reopen_position]
          omega

theorem startNext_resume (h : Inv F C sh) (hfree : sh.appending = none) {len : Int}
    {w : AsyncFileWriter} (hwaits : Waits sh len) (hname : sh.store.disk.names C = some w.inode)
    (hposition : (w.currentPosition : Int) = len) :
    Action.wp (startNext o F C size (.resume len w)) (StartStep F C sh) sh.store := by
  obtain ⟨hquiet, k, e, hclosed, halready⟩ := hwaits
  have hmatch : matchesClosed F C len e = true := by
    obtain ⟨hupload, hfinal⟩ := h.path (.inr hclosed)
    simp [matchesClosed, hupload, hfinal, halready]
  refine Action.wp_bind (Q := fun r store =>
    (∀ e, r = .error e → StartStep F C sh (.error e) store) ∧
      (∀ up, r = .ok (some up) → StartStep F C sh (.ok (.inr up)) store) ∧ r ≠ .ok none) ?_ ?_ ?_
  · refine Action.wp_bind (activeUpload_same false o.pickActive sh.store) ?_ ?_
    · rintro found store rfl
      cases found with
      | some up =>
          refine ⟨?_, ?_, ?_⟩
          · rintro _ ⟨⟩
          · rintro _ ⟨⟩
            exact .same h fun phase hphase => by cases hphase
          · rintro ⟨⟩
      | none =>
          show Action.wp (moveClosed F C len w o.pickClosed) _ sh.store
          cases hfind : Table.findEntry sh.store.closed (matchesClosed F C len) o.pickClosed with
          | none =>
              have hunmatched := Table.findEntry_none hfind hclosed
              rw [hmatch] at hunmatched
              cases hunmatched
          | some found =>
              obtain ⟨id, entry⟩ := found
              obtain ⟨hlookup, hfound⟩ := Table.findEntry_some hfind
              unfold Action.wp
              rw [moveClosed_found hfind]
              refine ⟨?_, ?_, ?_⟩
              · rintro _ ⟨⟩
              · rintro _ ⟨⟩
                exact ⟨inv_moveClosed h hfree hlookup hfound hname hposition,
                  (fun phase hphase => by cases hphase), hquiet.untouched _⟩
              · rintro ⟨⟩
    · rintro e store rfl
      refine ⟨?_, ?_, ?_⟩
      · rintro _ ⟨⟩
        exact .ends h _
      · rintro _ ⟨⟩
      · rintro ⟨⟩
  · rintro found store ⟨-, hfound, hnone⟩
    cases found with
    | some up => exact hfound up rfl
    | none => exact absurd rfl hnone
  · rintro e store ⟨hfail, -, -⟩
    exact hfail e rfl

theorem startNext_createEmpty (h : Inv F C sh) (hno : NoOwner sh) :
    Action.wp (startNext o F C size .createEmpty) (StartStep F C sh) sh.store := by
  show Action.wp (createEmptyFile o.created C >>= _) _ _
  cases o.created with
  | false => exact Action.wp_of_run_error (createEmptyFile_fails C sh.store) (.ends h _)
  | true =>
      refine Action.wp_of_run_ok (createEmptyFile_works C sh.store) (.disk h hno ?_)
      rintro _ ⟨⟩
      exact hno

theorem startNext_openWriter (h : Inv F C sh) (hno : NoOwner sh) :
    Action.wp (startNext o F C size .openWriter) (StartStep F C sh) sh.store := by
  show Action.wp (createAsyncWriter o.opened C 0 >>= _) _ _
  cases o.opened with
  | false => exact Action.wp_of_run_error (createAsyncWriter_fails C 0 sh.store) (.ends h _)
  | true =>
      refine Action.wp_of_run_ok (createAsyncWriter_works C 0 sh.store) (.disk h hno ?_)
      rintro _ ⟨⟩
      exact ⟨hno, Disk.openTruncate_names_self, Disk.openTruncate_data, rfl⟩

theorem startNext_enter (h : Inv F C sh) (hfree : sh.appending = none) {w : AsyncFileWriter}
    (hno : NoOwner sh) (hname : sh.store.disk.names C = some w.inode)
    (hempty : sh.store.disk.data w.inode = []) (hposition : w.currentPosition = 0) :
    Action.wp (startNext o F C size (.enter w)) (StartStep F C sh) sh.store := by
  refine Action.wp_bind (Q := fun r store =>
    (∀ e, r = .error e → StartStep F C sh (.error e) store) ∧
      ∀ up, r = .ok up → StartStep F C sh (.ok (.inr up)) store) ?_ ?_ ?_
  · refine Action.wp_bind (activeUpload_same true o.pickActive sh.store) ?_ ?_
    · rintro found store rfl
      cases found with
      | some up =>
          refine ⟨nofun, ?_⟩
          rintro _ ⟨⟩
          exact .same h nofun
      | none =>
          refine ⟨nofun, ?_⟩
          rintro _ ⟨⟩
          refine ⟨?_, nofun, hno.quiet.untouched _⟩
          have habsent : sh.store.pending.lookup sh.store.nextId = none := by
            rw [Option.eq_none_iff_forall_not_mem]
            exact fun e hlookup => Nat.lt_irrefl _ (h.pendingId hlookup)
          refine inv_activate h hfree hno.quiet (fun _ _ => hno.closed) ⟨rfl, rfl⟩ rfl hname ?_ ?_
            habsent (Nat.lt_succ_self _) (Nat.le_succ _)
          · rw [hempty]
            rfl
          · rw [hposition]
            rfl
    · rintro e store rfl
      refine ⟨?_, nofun⟩
      rintro _ ⟨⟩
      exact .ends h _
  · rintro up store ⟨-, hup⟩
    exact hup up rfl
  · rintro e store ⟨hfail, -⟩
    exact hfail e rfl

theorem startNext_step (h : Inv F C sh) {phase : StartPhase}
    (hfree : phase.locks = true → sh.appending = none) (hsound : Sound F C sh phase)
    (htake : phase = .take → ¬ Claimed sh.store F C →
      ∀ id e, sh.store.pending.lookup id = some e →
        e.alreadyUploadedBytes = 0 ∧ ¬ Finishing sh id) :
    Action.wp (startNext o F C size phase) (StartStep F C sh) sh.store := by
  cases phase with
  | checkFinal =>
      refine wp_fsExists_bind ?_ (fun e => .ends h e)
      refine Action.wp_ensure_bind (fun _ => ?_) (fun _ => .ends h _)
      exact StartStep.goes h .checkCache trivial
  | checkCache => exact startNext_checkCache h
  | sizeCache => exact startNext_sizeCache h
  | checkActive len => exact startNext_checkActive h hsound
  | checkClosed len => exact startNext_checkClosed h len
  | take => exact startNext_take h (hfree rfl) (htake rfl)
  | seeCache removed => exact startNext_seeCache h hsound.1 hsound.2
  | deleteCache removed => exact startNext_deleteCache h hsound.1 hsound.2
  | restore removed e =>
      exact ⟨inv_restore h (hfree rfl) hsound.1 hsound.2, nofun, hsound.1.quiet.untouched _⟩
  | reopen len => exact startNext_reopen h hsound
  | resume len w => exact startNext_resume h (hfree rfl) hsound.1 hsound.2.1 hsound.2.2
  | createEmpty => exact startNext_createEmpty h hsound
  | openWriter => exact startNext_openWriter h hsound
  | enter w =>
      obtain ⟨hno, hname, hempty, hposition⟩ := hsound
      exact startNext_enter h (hfree rfl) hno hname hempty hposition

end Step

end ArkKvm.FtUpload.Exclusive
