import ArkKvm.Lib.Run
import ArkKvm.Upload.Effects

/-!
# Exclusive uploads

Any number of clients start, claim, append, complete and cancel uploads.  A
writer is a data channel that claimed a session or an HTTP request that found
one; it appends until it completes.  `cancel_vm_upload` takes the two locks one
after the other and again for each session it drops, so it is a task of its own.
-/

namespace ArkKvm.Upload.Exclusive

open Lib

inductive WriterKind
  | channel
  | http
deriving DecidableEq

structure Writer where
  kind : WriterKind
  id : UploadId

inductive CancelPhase
  /-- the active sessions of the path are collected -/
  | scanClosed (ids : List UploadId)
  | removing (ids : List UploadId)
  /-- the session was not active: it is dropped from the closed ones -/
  | removingClosed (id : UploadId) (ids : List UploadId)

structure Cancel where
  uploadPath : Path
  phase : CancelPhase

structure State where
  store : Store
  writers : Table Nat Writer
  nextWriter : Nat
  cancels : Table Nat Cancel
  nextCancel : Nat

inductive Event
  | start (o : StartOutcome) (finalExists : Bool) (filename : String) (size : Int)
  | claim (id : UploadId)
  | httpOpen (id : UploadId)
  | append (w : Nat) (data : List UInt8) (fault : Option Nat)
  | complete (w : Nat) (o : CompleteOutcome)
  | cancel (filename : String)
  | cancelStep (c : Nat) (removed : Bool)

def idsOf (m : Table UploadId PendingUpload) (p : Path) : List UploadId :=
  (m.entries.filter fun x => x.2.uploadPath = p).map Sigma.fst

/-- The next lock region (or file operation) of a cancel call; `none` for the
phase means that the call is over. -/
def cancelNext (s : Store) (c : Cancel) (removed : Bool) : Store × Option CancelPhase :=
  match c.phase with
  | .scanClosed ids => (s, some (.removing (ids ++ idsOf s.closed c.uploadPath)))
  | .removing (id :: ids) =>
      match s.pending.lookup id with
      | some _ => ({ s with pending := s.pending.erase id }, some (.removing ids))
      | none => (s, some (.removingClosed id ids))
  | .removingClosed id ids => ({ s with closed := s.closed.erase id }, some (.removing ids))
  | .removing [] =>
      (if removed then { s with disk := s.disk.remove c.uploadPath } else s, none)

def State.addWriter (s : State) (store : Store) (wr : Writer) : State :=
  { s with
    store := store
    writers := s.writers.insert s.nextWriter wr
    nextWriter := s.nextWriter + 1 }

def step (s : State) : Event → Option State
  | .start o finalExists filename size =>
      some { s with store := (startStorageFileUpload o finalExists filename size s.store).1 }
  | .claim id =>
      match claimUploadChannel id s.store with
      | (store, .ok _) => some (s.addWriter store ⟨.channel, id⟩)
      | (store, .error _) => some { s with store := store }
  | .httpOpen id =>
      match getUploadProgress id s.store with
      | (store, .ok _) => some (s.addWriter store ⟨.http, id⟩)
      | (store, .error _) => some { s with store := store }
  | .append w data fault =>
      (s.writers.lookup w).map fun wr =>
        { s with store := (appendUploadData wr.id data fault s.store).1 }
  | .complete w o =>
      (s.writers.lookup w).map fun wr =>
        { s with store := (completeUpload o wr.id s.store).1, writers := s.writers.erase w }
  | .cancel filename =>
      match sanitizeFilename filename with
      | .ok base =>
          let p := uploadPathOf base
          some { s with
            cancels := s.cancels.insert s.nextCancel ⟨p, .scanClosed (idsOf s.store.pending p)⟩
            nextCancel := s.nextCancel + 1 }
      | .error _ => some s
  | .cancelStep c removed =>
      (s.cancels.lookup c).map fun cancel =>
        { s with
          store := (cancelNext s.store cancel removed).1
          cancels := match (cancelNext s.store cancel removed).2 with
            | some phase => s.cancels.insert c { cancel with phase := phase }
            | none => s.cancels.erase c }

/-- At most one active session has a given path. -/
def OnePerPath (s : Store) : Prop :=
  ∀ {k k' e e'}, s.pending.lookup k = some e → s.pending.lookup k' = some e' →
    e.uploadPath = e'.uploadPath → k = k'

/-- The writer `w` can append to the file `p`. -/
def Appends (s : State) (w : Nat) (p : Path) : Prop :=
  ∃ wr e, s.writers.lookup w = some wr ∧ s.store.pending.lookup wr.id = some e ∧ e.uploadPath = p

def Unwritten (s : State) (id : UploadId) : Prop :=
  ∀ w wr, s.writers.lookup w = some wr → wr.id ≠ id

/-- The condition on a step.  A start that nothing else stops finds no active
session of its path with another size, unless the file is longer than the new
size (then the idle sessions are dropped).  An HTTP request does not join a
session that has a writer, and no channel claims a session that an HTTP request
writes. -/
def Separate (s : State) : Event → Prop
  | .start o finalExists filename size => ∀ base, sanitizeFilename filename = .ok base →
      finalExists = false → o.folder = true → o.opened = true →
      (s.store.disk.names (uploadPathOf base) ≠ none → o.stat = true) →
      ∀ k e, s.store.pending.lookup k = some e → e.uploadPath = uploadPathOf base →
        e.size = size ∨ (s.store.disk.names (uploadPathOf base) ≠ none ∧
          size < s.store.disk.len (uploadPathOf base))
  | .claim id => ∀ e, s.store.pending.lookup id = some e → e.channelOpen = false →
      ∀ w wr, s.writers.lookup w = some wr → wr.id = id → wr.kind ≠ .http
  | .httpOpen id => ∀ e, s.store.pending.lookup id = some e → Unwritten s id
  | _ => True

/-! ## The invariant -/

structure Inv (s : State) : Prop where
  unique : OnePerPath s.store
  /-- a session that a channel writes is marked -/
  owned : ∀ {w wr e}, s.writers.lookup w = some wr → wr.kind = .channel →
    s.store.pending.lookup wr.id = some e → e.channelOpen = true
  oneWriter : ∀ {w w' wr wr'}, s.writers.lookup w = some wr → s.writers.lookup w' = some wr' →
    wr.id = wr'.id → w = w'
  /-- closed sessions are not active and have no writer -/
  closedIdle : ∀ {k e}, s.store.closed.lookup k = some e →
    s.store.pending.lookup k = none ∧ Unwritten s k
  pendingId : ∀ {k e}, s.store.pending.lookup k = some e → k < s.store.nextId
  closedId : ∀ {k e}, s.store.closed.lookup k = some e → k < s.store.nextId
  writerId : ∀ {w wr}, s.writers.lookup w = some wr → wr.id < s.store.nextId

theorem Inv.exclusive {s : State} (h : Inv s) :
    OnePerPath s.store ∧ ∀ w w' p, Appends s w p → Appends s w' p → w = w' := by
  refine ⟨h.unique, ?_⟩
  rintro w w' p ⟨wr, e, hw, he, hp⟩ ⟨wr', e', hw', he', hp'⟩
  exact h.oneWriter hw hw' (h.unique he he' (hp.trans hp'.symm))

theorem Inv.shrink {s : State} (h : Inv s) {store : Store}
    (hpending : ∀ {k e}, store.pending.lookup k = some e → s.store.pending.lookup k = some e)
    (hclosed : ∀ {k e}, store.closed.lookup k = some e → ∃ e', s.store.closed.lookup k = some e')
    (hnext : s.store.nextId ≤ store.nextId) : Inv { s with store := store } where
  unique hk hk' := h.unique (hpending hk) (hpending hk')
  owned hw hkind he := h.owned hw hkind (hpending he)
  oneWriter := h.oneWriter
  closedIdle := by
    intro k e hk
    obtain ⟨e', hk'⟩ := hclosed hk
    refine ⟨?_, (h.closedIdle hk').2⟩
    cases hp : store.pending.lookup k with
    | none => rfl
    | some e'' =>
        have := (h.closedIdle hk').1
        rw [hpending hp] at this
        cases this
  pendingId hk := Nat.lt_of_lt_of_le (h.pendingId (hpending hk)) hnext
  closedId hk := by
    obtain ⟨e', hk'⟩ := hclosed hk
    exact Nat.lt_of_lt_of_le (h.closedId hk') hnext
  writerId hw := Nat.lt_of_lt_of_le (h.writerId hw) hnext

theorem Inv.modify {s : State} (h : Inv s) {id : UploadId} {e e' : PendingUpload} {disk : Disk}
    (hlookup : s.store.pending.lookup id = some e) (hpath : e'.uploadPath = e.uploadPath)
    (hmark : ∀ w wr, s.writers.lookup w = some wr → wr.kind = .channel → wr.id = id →
      e'.channelOpen = true) :
    Inv { s with
      store := { s.store with disk := disk, pending := s.store.pending.insert id e' } } := by
  have hold : ∀ {k e₁}, (s.store.pending.insert id e').lookup k = some e₁ →
      ∃ e₀, s.store.pending.lookup k = some e₀ ∧ e₁.uploadPath = e₀.uploadPath := by
    intro k e₁ hk
    rcases Table.lookup_insert_iff.mp hk with ⟨rfl, rfl⟩ | ⟨-, hk⟩
    · exact ⟨e, hlookup, hpath⟩
    · exact ⟨e₁, hk, rfl⟩
  refine ⟨?_, ?_, h.oneWriter, ?_, ?_, h.closedId, h.writerId⟩
  · intro k k' e₁ e₂ hk hk' hp
    obtain ⟨e₁', hk, hp₁⟩ := hold hk
    obtain ⟨e₂', hk', hp₂⟩ := hold hk'
    exact h.unique hk hk' (by rw [← hp₁, ← hp₂, hp])
  · intro w wr e₁ hw hkind he
    rcases Table.lookup_insert_iff.mp he with ⟨hid, rfl⟩ | ⟨-, he⟩
    · exact hmark w wr hw hkind hid
    · exact h.owned hw hkind he
  · intro k e₁ hk
    refine ⟨?_, (h.closedIdle hk).2⟩
    rw [AList.lookup_insert_ne, (h.closedIdle hk).1]
    rintro rfl
    have := (h.closedIdle hk).1
    rw [hlookup] at this
    cases this
  · intro k e₁ hk
    obtain ⟨e₀, hk, -⟩ := hold hk
    exact h.pendingId hk

theorem Inv.touch {s : State} (h : Inv s) {id : UploadId} {e e' : PendingUpload} {disk : Disk}
    (hlookup : s.store.pending.lookup id = some e) (hpath : e'.uploadPath = e.uploadPath)
    (hopen : e'.channelOpen = e.channelOpen) :
    Inv { s with
      store := { s.store with disk := disk, pending := s.store.pending.insert id e' } } := by
  refine h.modify hlookup hpath ?_
  intro w wr hw hkind hid
  rw [hopen]
  exact h.owned hw hkind (hid ▸ hlookup)

theorem Inv.insert {s : State} (h : Inv s) {id : UploadId} {e : PendingUpload} {disk : Disk}
    {n : UploadId} (hnopath : ∀ k e', s.store.pending.lookup k = some e' →
      e'.uploadPath ≠ e.uploadPath)
    (hwriter : Unwritten s id) (hclosed : s.store.closed.lookup id = none)
    (hid : id < n) (hn : s.store.nextId ≤ n) :
    Inv { s with store := ⟨disk, s.store.pending.insert id e, s.store.closed, n⟩ } where
  unique := by
    intro k k' e₁ e₂ hk hk' hp
    rcases Table.lookup_insert_iff.mp hk with ⟨rfl, rfl⟩ | ⟨-, hold⟩ <;>
      rcases Table.lookup_insert_iff.mp hk' with ⟨rfl, rfl⟩ | ⟨-, hold'⟩
    · rfl
    · exact absurd hp.symm (hnopath _ _ hold')
    · exact absurd hp (hnopath _ _ hold)
    · exact h.unique hold hold' hp
  owned := by
    intro w wr e₁ hw hkind he
    rcases Table.lookup_insert_iff.mp he with ⟨hk, -⟩ | ⟨-, he⟩
    · exact absurd hk (hwriter w wr hw)
    · exact h.owned hw hkind he
  oneWriter := h.oneWriter
  closedIdle := by
    intro k e₁ hk
    refine ⟨?_, (h.closedIdle hk).2⟩
    have hne : k ≠ id := by
      rintro rfl
      rw [show s.store.closed.lookup k = none from hclosed] at hk
      cases hk
    change (s.store.pending.insert id e).lookup k = none
    rw [AList.lookup_insert_ne hne]
    exact (h.closedIdle hk).1
  pendingId := by
    intro k e₁ hk
    rcases Table.lookup_insert_iff.mp hk with ⟨rfl, -⟩ | ⟨-, hk⟩
    · exact hid
    · exact Nat.lt_of_lt_of_le (h.pendingId hk) hn
  closedId hk := Nat.lt_of_lt_of_le (h.closedId hk) hn
  writerId hw := Nat.lt_of_lt_of_le (h.writerId hw) hn

theorem Inv.unused {s : State} (h : Inv s) :
    Unwritten s s.store.nextId ∧ s.store.closed.lookup s.store.nextId = none := by
  refine ⟨?_, ?_⟩
  · intro w wr hw heq
    exact absurd (h.writerId hw) (by rw [heq]; exact Nat.lt_irrefl _)
  · cases hk : s.store.closed.lookup s.store.nextId with
    | none => rfl
    | some e => exact absurd (h.closedId hk) (Nat.lt_irrefl _)

/-! ## One step -/

theorem lookup_erase_sub {m : Table UploadId PendingUpload} {id k : UploadId} {e : PendingUpload}
    (h : (m.erase id).lookup k = some e) : m.lookup k = some e :=
  (Table.lookup_erase_iff.mp h).2

theorem lookup_removeWhere_sub {m : Table UploadId PendingUpload} {p : PendingUpload → Bool}
    {k : UploadId} {e : PendingUpload} (h : (Table.removeWhere m p).lookup k = some e) :
    m.lookup k = some e :=
  (Table.lookup_removeWhere.mp h).1

theorem start_inv {o : StartOutcome} {s : State} {size : Int} {U F : Path} {store : Store}
    {r : Except String StorageFileUpload} (h : Inv s)
    (hsep : o.opened = true → ∀ k e, s.store.pending.lookup k = some e → e.uploadPath = U →
      e.size = size ∨ (s.store.disk.names U ≠ none ∧ size < s.store.disk.len U))
    (hst : Started o s.store size U F store r) : Inv { s with store := store } := by
  -- without an active session of this path and size the path has no session
  have hnopath : o.opened = true → NoActive s.store U size →
      (s.store.disk.names U ≠ none → s.store.disk.len U ≤ size) →
      ∀ k e, s.store.pending.lookup k = some e → e.uploadPath ≠ U := by
    intro hopened hnone hlen k e hk hp
    rcases hsep hopened k e hk hp with hsize | ⟨hfile, hover⟩
    · exact hnone k e hk hp hsize
    · have := hlen hfile
      omega
  cases hst with
  | stopped => exact h
  | reused hlookup _ _ _ _ => exact h.touch hlookup rfl rfl
  | @reopened key entry _ hopened hnone _ hlen hlookup _ hpath =>
      have hdrop : Inv { s with store := { s.store with closed := s.store.closed.erase key } } :=
        h.shrink id (fun hk => ⟨_, lookup_erase_sub hk⟩) (Nat.le_refl _)
      refine hdrop.insert ?_ (h.closedIdle hlookup).2 ?_ (h.closedId hlookup) (Nat.le_refl _)
      · intro k e hk
        change e.uploadPath ≠ entry.uploadPath
        rw [hpath]
        exact hnopath hopened hnone (fun _ => hlen) k e hk
      · exact AList.lookup_erase _ _
  | reopenFailed hlookup _ =>
      refine h.shrink id ?_ (Nat.le_refl _)
      intro k e hk
      rcases Table.lookup_insert_iff.mp hk with ⟨rfl, -⟩ | ⟨-, hk⟩
      · exact ⟨_, hlookup⟩
      · exact ⟨e, hk⟩
  | resumed hopened hnone _ hlen =>
      have hdrop : Inv { s with
          store := { s.store with
            closed := Table.removeWhere s.store.closed fun e => e.uploadPath = U } } :=
        h.shrink id (fun hk => ⟨_, lookup_removeWhere_sub hk⟩) (Nat.le_refl _)
      exact hdrop.insert (hnopath hopened hnone (fun _ => hlen)) hdrop.unused.1 hdrop.unused.2
        (Nat.lt_succ_self _) (Nat.le_succ _)
  | resumeFailed =>
      exact h.shrink id (fun hk => ⟨_, lookup_removeWhere_sub hk⟩) (Nat.le_succ _)
  | fresh hopened hnone hname =>
      exact h.insert (hnopath hopened hnone (fun hfile => absurd hname hfile)) h.unused.1
        h.unused.2 (Nat.lt_succ_self _) (Nat.le_succ _)
  | overshotFailed _ =>
      exact h.shrink lookup_removeWhere_sub (fun hk => ⟨_, lookup_removeWhere_sub hk⟩)
        (Nat.le_refl _)
  | overshotRemoved _ =>
      exact h.shrink lookup_removeWhere_sub (fun hk => ⟨_, lookup_removeWhere_sub hk⟩)
        (Nat.le_refl _)
  | overshot hover hidle =>
      have hdrop : Inv { s with store := s.store.dropOvershot U } :=
        h.shrink lookup_removeWhere_sub (fun hk => ⟨_, lookup_removeWhere_sub hk⟩) (Nat.le_refl _)
      refine hdrop.insert ?_ hdrop.unused.1 hdrop.unused.2 (Nat.lt_succ_self _) (Nat.le_succ _)
      intro k e hk hp
      obtain ⟨hk, hkept⟩ := Table.lookup_removeWhere.mp hk
      have hmark := hidle k e hk hp
      simp [show e.uploadPath = U from hp, hmark] at hkept

theorem addWriter_inv {s : State} (h : Inv s) (wr : Writer) {e : PendingUpload}
    (hlookup : s.store.pending.lookup wr.id = some e) (hfree : Unwritten s wr.id)
    (hopen : wr.kind = .channel → e.channelOpen = true) :
    Inv (s.addWriter s.store wr) where
  unique := h.unique
  owned := by
    intro w wr' e' hw hkind he
    rcases Table.lookup_insert_iff.mp hw with ⟨-, rfl⟩ | ⟨-, hw⟩
    · obtain rfl := Option.some.inj (hlookup.symm.trans he)
      exact hopen hkind
    · exact h.owned hw hkind he
  oneWriter := by
    intro w w' wr₁ wr₂ hw hw' hid
    rcases Table.lookup_insert_iff.mp hw with ⟨rfl, rfl⟩ | ⟨-, hold⟩ <;>
      rcases Table.lookup_insert_iff.mp hw' with ⟨rfl, rfl⟩ | ⟨-, hold'⟩
    · rfl
    · exact absurd hid.symm (hfree _ _ hold')
    · exact absurd hid (hfree _ _ hold)
    · exact h.oneWriter hold hold' hid
  closedIdle := by
    intro k e' hk
    refine ⟨(h.closedIdle hk).1, ?_⟩
    intro w wr' hw
    rcases Table.lookup_insert_iff.mp hw with ⟨-, rfl⟩ | ⟨-, hw⟩
    · rintro rfl
      have := (h.closedIdle hk).1
      rw [hlookup] at this
      cases this
    · exact (h.closedIdle hk).2 w wr' hw
  pendingId := h.pendingId
  closedId := h.closedId
  writerId := by
    intro w wr' hw
    rcases Table.lookup_insert_iff.mp hw with ⟨-, rfl⟩ | ⟨-, hw⟩
    · exact h.pendingId hlookup
    · exact h.writerId hw

/-- Marking an idle session that no HTTP request writes: its marked state is what
`owned` asks of a channel. -/
theorem claim_inv {s : State} (h : Inv s) {id : UploadId} {e : PendingUpload}
    (hlookup : s.store.pending.lookup id = some e) (hidle : e.channelOpen = false)
    (hsep : ∀ w wr, s.writers.lookup w = some wr → wr.id = id → wr.kind ≠ .http) :
    Inv (s.addWriter
      { s.store with pending := s.store.pending.insert id { e with channelOpen := true } }
      ⟨.channel, id⟩) := by
  have hfree : Unwritten s id := by
    intro w wr hw hid
    cases hkind : wr.kind with
    | http => exact hsep w wr hw hid hkind
    | channel =>
        have := h.owned hw hkind (hid ▸ hlookup)
        rw [hidle] at this
        cases this
  have hmarked : Inv { s with store := { s.store with
      pending := s.store.pending.insert id { e with channelOpen := true } } } :=
    h.modify hlookup rfl (fun _ _ _ _ _ => rfl)
  exact addWriter_inv (s := { s with store := { s.store with
    pending := s.store.pending.insert id { e with channelOpen := true } } }) hmarked _
    (AList.lookup_insert _) hfree (fun _ => rfl)

theorem Inv.eraseWriter {s : State} (h : Inv s) (w : Nat) :
    Inv { s with writers := s.writers.erase w } where
  unique := h.unique
  owned hw hkind he := h.owned (Table.lookup_erase_iff.mp hw).2 hkind he
  oneWriter hw hw' hid :=
    h.oneWriter (Table.lookup_erase_iff.mp hw).2 (Table.lookup_erase_iff.mp hw').2 hid
  closedIdle hk :=
    ⟨(h.closedIdle hk).1,
      fun w' wr' hw => (h.closedIdle hk).2 w' wr' (Table.lookup_erase_iff.mp hw).2⟩
  pendingId := h.pendingId
  closedId := h.closedId
  writerId hw := h.writerId (Table.lookup_erase_iff.mp hw).2

theorem Inv.close {s : State} (h : Inv s) {id : UploadId} (hnone : s.store.pending.lookup id = none)
    (hfree : Unwritten s id) (hid : id < s.store.nextId) (e : PendingUpload) :
    Inv { s with store := { s.store with closed := s.store.closed.insert id e } } where
  unique := h.unique
  owned := h.owned
  oneWriter := h.oneWriter
  closedIdle := by
    intro k e' hk
    rcases Table.lookup_insert_iff.mp hk with ⟨rfl, -⟩ | ⟨-, hk⟩
    · exact ⟨hnone, hfree⟩
    · exact h.closedIdle hk
  pendingId := h.pendingId
  closedId := by
    intro k e' hk
    rcases Table.lookup_insert_iff.mp hk with ⟨rfl, -⟩ | ⟨-, hk⟩
    · exact hid
    · exact h.closedId hk
  writerId := h.writerId

/-- A writer completes: its session ends, is closed, or stays without a writer. -/
theorem complete_inv {s : State} (h : Inv s) {w : Nat} {wr : Writer}
    (hw : s.writers.lookup w = some wr) (o : CompleteOutcome) :
    Inv { s with store := (completeUpload o wr.id s.store).1, writers := s.writers.erase w } := by
  have hgone := h.eraseWriter w
  have hfree : Unwritten { s with writers := s.writers.erase w } wr.id := by
    intro w' wr' hw' hid
    obtain ⟨hne, hw'⟩ := Table.lookup_erase_iff.mp hw'
    exact hne (h.oneWriter hw' hw hid)
  have hdropped : ∀ disk, Inv { s with
      store := { s.store with disk := disk, pending := s.store.pending.erase wr.id }
      writers := s.writers.erase w } := by
    intro disk
    exact hgone.shrink lookup_erase_sub (fun hk => ⟨_, hk⟩) (Nat.le_refl _)
  have hkept : ∀ e e' : PendingUpload, s.store.pending.lookup wr.id = some e →
      e'.uploadPath = e.uploadPath → Inv { s with
      store := { s.store with pending := s.store.pending.insert wr.id e' }
      writers := s.writers.erase w } := by
    intro e e' he hpath
    exact hgone.modify he hpath (fun w' wr' hw' _ hid => absurd hid (hfree w' wr' hw'))
  rcases completeUpload_cases o wr.id s.store with ⟨msg, hstop⟩ |
    ⟨e, file, msg, he, -, hstop⟩ | ⟨e, he, hsettle⟩
  · rw [hstop]
    exact hgone
  · rw [hstop]
    exact hkept e _ he rfl
  rw [hsettle]
  unfold settle
  split
  · split
    · exact hdropped _
    · split
      · exact hkept e _ he rfl
      · exact hkept e _ he rfl
  · split
    · exact hdropped _
    · exact (hdropped s.store.disk).close (AList.lookup_erase _ _) hfree (h.pendingId he) _

theorem cancelNext_inv {s : State} (h : Inv s) (c : Cancel) (removed : Bool) :
    Inv { s with store := (cancelNext s.store c removed).1 } := by
  unfold cancelNext
  split
  · exact h
  · split
    · exact h.shrink lookup_erase_sub (fun hk => ⟨_, hk⟩) (Nat.le_refl _)
    · exact h
  · exact h.shrink id (fun hk => ⟨_, lookup_erase_sub hk⟩) (Nat.le_refl _)
  · cases removed with
    | true => exact h.shrink id (fun hk => ⟨_, hk⟩) (Nat.le_refl _)
    | false => exact h

theorem Inv.of_cancels {s : State} (h : Inv s) (cancels : Table Nat Cancel) (n : Nat) :
    Inv { s with cancels := cancels, nextCancel := n } :=
  ⟨h.unique, h.owned, h.oneWriter, h.closedIdle, h.pendingId, h.closedId, h.writerId⟩

theorem step_inv (s : State) (ev : Event) (s' : State) (h : Inv s) (hsep : Separate s ev)
    (hstep : step s ev = some s') : Inv s' := by
  cases ev with
  | start o finalExists filename size =>
      obtain rfl := Option.some.inj hstep
      rcases startStorageFileUpload_started o finalExists filename size s.store with
        ⟨hsame, -⟩ | ⟨base, hbase, hfolder, hfinal, hstat, hst⟩
      · rw [hsame]
        exact h
      · exact start_inv h (fun hopened => hsep base hbase hfinal hfolder hopened hstat) hst
  | claim id =>
      simp only [step] at hstep
      rcases claimUploadChannel_cases id s.store with ⟨e, hclaim⟩ | ⟨e, hlookup, hidle, hclaim⟩
      · rw [hclaim] at hstep
        cases hstep
        exact h
      · rw [hclaim] at hstep
        cases hstep
        exact claim_inv h hlookup hidle (hsep e hlookup hidle)
  | httpOpen id =>
      simp only [step, getUploadProgress] at hstep
      cases hlookup : s.store.pending.lookup id with
      | none =>
          rw [hlookup] at hstep
          cases hstep
          exact h
      | some e =>
          rw [hlookup] at hstep
          cases hstep
          exact addWriter_inv h ⟨.http, id⟩ hlookup (hsep e hlookup) nofun
  | append w data fault =>
      obtain ⟨wr, -, rfl⟩ := Option.map_eq_some_iff.mp hstep
      rcases appendUploadData_cases wr.id data fault s.store with
        hsame | ⟨e, disk, len, handed, hlookup, hsame⟩
      · rw [hsame]
        exact h
      · rw [hsame]
        exact h.touch hlookup rfl rfl
  | complete w o =>
      obtain ⟨wr, hw, rfl⟩ := Option.map_eq_some_iff.mp hstep
      exact complete_inv h hw o
  | cancel filename =>
      simp only [step] at hstep
      cases hbase : sanitizeFilename filename with
      | error e =>
          rw [hbase] at hstep
          cases hstep
          exact h
      | ok base =>
          rw [hbase] at hstep
          cases hstep
          exact h.of_cancels _ _
  | cancelStep c removed =>
      obtain ⟨cancel, -, rfl⟩ := Option.map_eq_some_iff.mp hstep
      exact (cancelNext_inv h cancel removed).of_cancels _ _

/-! ## Whole runs -/

/-- A freshly started process: no sessions and no tasks, whatever is on disk. -/
def booted (disk : Disk) : State :=
  { store := ⟨disk, ∅, ∅, 0⟩, writers := ∅, nextWriter := 0, cancels := ∅, nextCancel := 0 }

theorem inv_booted (disk : Disk) : Inv (booted disk) := by
  have hpending : ∀ {k e}, (booted disk).store.pending.lookup k ≠ some e := by simp [booted]
  have hclosed : ∀ {k e}, (booted disk).store.closed.lookup k ≠ some e := by simp [booted]
  have hwriters : ∀ {w wr}, (booted disk).writers.lookup w ≠ some wr := by simp [booted]
  exact ⟨fun hk => absurd hk hpending, fun hw => absurd hw hwriters, fun hw => absurd hw hwriters,
    fun hk => absurd hk hclosed, fun hk => absurd hk hpending, fun hk => absurd hk hclosed,
    fun hw => absurd hw hwriters⟩

/-- In every run whose steps keep sessions and writers apart, at most one active
session has a given path and at most one writer appends to a given file. -/
theorem upload_exclusive {disk : Disk} {s : State}
    (hrun : Run.Reach step Separate (booted disk) s) :
    OnePerPath s.store ∧ ∀ w w' p, Appends s w p → Appends s w' p → w = w' :=
  (hrun.invariant (inv_booted disk) step_inv).exclusive

def separate (s : State) : Event → Bool
  | .start _ _ filename size =>
      match sanitizeFilename filename with
      | .ok base => s.store.pending.entries.all fun x =>
          x.2.uploadPath ≠ uploadPathOf base || x.2.size = size
      | .error _ => true
  | .claim id => s.writers.entries.all fun x => x.2.id ≠ id
  | .httpOpen id => s.writers.entries.all fun x => x.2.id ≠ id
  | _ => true

theorem separate_sound (s : State) (ev : Event) (h : separate s ev = true) : Separate s ev := by
  cases ev with
  | start o finalExists filename size =>
      intro base hbase _ _ _ _ k e hk hp
      simp only [separate, hbase, List.all_eq_true] at h
      have := h _ (Table.lookup_eq_some_iff.mp hk)
      exact .inl (by simpa [hp] using this)
  | claim id =>
      intro e _ _ w wr hw hid
      simp only [separate, List.all_eq_true] at h
      have := h _ (Table.lookup_eq_some_iff.mp hw)
      simp [hid] at this
  | httpOpen id =>
      intro e _ w wr hw hid
      simp only [separate, List.all_eq_true] at h
      have := h _ (Table.lookup_eq_some_iff.mp hw)
      simp [hid] at this
  | append w data fault => trivial
  | complete w o => trivial
  | cancel filename => trivial
  | cancelStep c removed => trivial

def appending (s : State) : List (Nat × Path) :=
  s.writers.entries.filterMap fun x =>
    (s.store.pending.lookup x.2.id).map fun e => (x.1, e.uploadPath)

theorem appends_iff {s : State} {w : Nat} {p : Path} : (w, p) ∈ appending s ↔ Appends s w p := by
  unfold appending Appends
  simp only [List.mem_filterMap, Option.map_eq_some_iff, Prod.mk.injEq]
  constructor
  · rintro ⟨⟨w', wr⟩, hmem, e, he, rfl, rfl⟩
    exact ⟨wr, e, Table.lookup_eq_some_iff.mpr hmem, he, rfl⟩
  · rintro ⟨wr, e, hw, he, rfl⟩
    exact ⟨⟨w, wr⟩, Table.lookup_eq_some_iff.mp hw, e, he, rfl, rfl⟩

def resumedRun : List Event :=
  [.start .works false "a.iso" 3, .claim 0, .append 0 [1] none, .complete 0 .works,
    .start .works false "a.iso" 3, .claim 0, .append 1 [2] none]

theorem upload_exclusive_resumed :
    ∃ s, Run.Reach step Separate (booted .empty) s ∧
      Appends s 1 (uploadPathOf "a.iso") ∧
      ∀ w, Appends s w (uploadPathOf "a.iso") → w = 1 := by
  have hlast : (Run.exec step separate (booted .empty) resumedRun).map appending =
      some [(1, uploadPathOf "a.iso")] := by decide +kernel
  obtain ⟨s, hrun, happ⟩ := Run.exists_reach_of_exec separate_sound hlast
  have hone : Appends s 1 (uploadPathOf "a.iso") :=
    appends_iff.mp (by rw [happ]; exact List.mem_singleton_self _)
  exact ⟨s, hrun, hone, fun w hw => (upload_exclusive hrun).2 w 1 _ hw hone⟩

/-- Starting the same name with another size gives a second session on the same
file, and both can be claimed; an HTTP request joins a claimed session. -/
theorem two_writers_one_file :
    (∃ s, Run.Reach step Run.anyStep (booted .empty) s ∧ ¬ OnePerPath s.store ∧
        Appends s 0 (uploadPathOf "a.iso") ∧ Appends s 1 (uploadPathOf "a.iso")) ∧
      ∃ s, Run.Reach step Run.anyStep (booted .empty) s ∧
        Appends s 0 (uploadPathOf "a.iso") ∧ Appends s 1 (uploadPathOf "a.iso") := by
  constructor
  · have hlast : (Run.exec step (fun _ _ => true) (booted .empty)
        [.start .works false "a.iso" 10, .start .works false "a.iso" 20, .claim 0,
          .claim 1]).map (fun s => (appending s, (s.store.pending.lookup 0).map (·.uploadPath),
            (s.store.pending.lookup 1).map (·.uploadPath))) =
        some ([(1, uploadPathOf "a.iso"), (0, uploadPathOf "a.iso")],
          some (uploadPathOf "a.iso"), some (uploadPathOf "a.iso")) := by decide +kernel
    obtain ⟨s, hrun, heq⟩ := Run.exists_reach_of_exec (fun _ _ _ => trivial) hlast
    simp only [Prod.mk.injEq, Option.map_eq_some_iff] at heq
    obtain ⟨happ, ⟨e, he, hp⟩, e', he', hp'⟩ := heq
    refine ⟨s, hrun, ?_, appends_iff.mp (by simp [happ]), appends_iff.mp (by simp [happ])⟩
    intro hone
    exact absurd (hone he he' (hp.trans hp'.symm)) (by decide)
  · have hlast : (Run.exec step (fun _ _ => true) (booted .empty)
        [.start .works false "a.iso" 10, .claim 0, .httpOpen 0]).map appending =
        some [(1, uploadPathOf "a.iso"), (0, uploadPathOf "a.iso")] := by decide +kernel
    obtain ⟨s, hrun, happ⟩ := Run.exists_reach_of_exec (fun _ _ _ => trivial) hlast
    exact ⟨s, hrun, appends_iff.mp (by simp [happ]), appends_iff.mp (by simp [happ])⟩

end ArkKvm.Upload.Exclusive
