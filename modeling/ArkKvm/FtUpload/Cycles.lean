import ArkKvm.FtUpload.Discard
import ArkKvm.FtUpload.Resume
import ArkKvm.Lib.Run
import ArkKvm.Upload.Delivery

/-!
# Cycles of a file transfer upload

One client uploads one file in cycles: it starts, opens the channel that it was told about,
sends the source from the offset that the start returned, in chunks of any length, and closes.
Any write may fail after any prefix of its chunk, and any flush may fail.  A failed write is
found out by the next append, and by nobody when it was the last one.  Next to the store the
state keeps what the client was told and has not used yet (`offer`) and the channel handler of
`data_channel.rs` with the position of the client (`sent`).
-/

namespace ArkKvm.FtUpload.Delivery

open Lib
open Upload (Path UploadId StorageFileUpload bytesWithinSize)
open Upload.Delivery (Channel bytesWithinSize_of_le)

structure State where
  store : Store
  offer : Option StorageFileUpload
  channel : Option Channel

inductive Event
  /-- the client calls `start_ft_file_upload` -/
  | start (o : StartOutcome)
  /-- the client opens the channel that it was told about -/
  | openChannel
  /-- the handler takes the next chunk of at most `n` bytes -/
  | message (n : Nat) (fault : Option Nat)
  /-- the channel ends, and the handler finalizes -/
  | close (o : CompleteOutcome)

def chunkOf (source : List UInt8) (sent n : Nat) : List UInt8 := (source.drop sent).take n

/-- An append of the chunk leaves out accepted bytes. -/
def tears (s : Store) (id : UploadId) (chunk : List UInt8) (fault : Option Nat) : Bool :=
  match s.pending.lookup id with
  | some e =>
      let data := bytesWithinSize e.alreadyUploadedBytes e.size chunk
      decide (data ≠ []) && match e.writer with
        | none => true
        | some w => decide (WriteBehind.handOver w.failed data.length fault ≠ .done)
  | none => false

/-- `handle_ft_upload_channel` on one message: chunks are ignored once finished, and a failed
append is only logged. -/
def onMessage (source : List UInt8) (n : Nat) (fault : Option Nat) (s : Store) (ch : Channel) :
    Store × Channel :=
  let chunk := chunkOf source ch.sent n
  let sent := ch.sent + chunk.length
  let torn := ch.torn || tears s ch.id chunk fault
  if ch.finished then (s, { ch with sent := sent })
  else match appendFtUploadData ch.id chunk fault s with
    | (s', .ok (size, already)) =>
        (s', { ch with sent := sent, finished := decide (size ≤ already), torn := torn })
    | (s', .error _) => (s', { ch with sent := sent, torn := torn })

variable (path name : String) (source : List UInt8)

def step (s : State) : Event → Option State
  | .start o =>
      match startFtFileUpload o path name source.length s.store with
      | (store, .ok up) => some { s with store := store, offer := some up }
      | (store, .error _) => some { s with store := store }
  | .openChannel =>
      match s.channel, s.offer with
      | none, some up =>
          match claimFtUploadChannel up.dataChannel s.store with
          | (store, .ok _) => some
              { store := store
                offer := none
                channel := some
                  { id := up.dataChannel
                    sent := up.alreadyUploadedBytes.toNat
                    finished := false
                    torn := false } }
          | (store, .error _) => some { s with store := store, offer := none }
      | _, _ => none
  | .message n fault =>
      match s.channel with
      | some ch => some { s with
          store := (onMessage source n fault s.store ch).1
          channel := some (onMessage source n fault s.store ch).2 }
      | none => none
  | .close o =>
      match s.channel with
      | some ch => some { s with store := (completeFtUpload o ch.id s.store).1, channel := none }
      | none => none

def writing (s : Store) (id : UploadId) : Option (FtPendingUpload × AsyncFileWriter) :=
  (s.pending.lookup id).bind fun e => e.writer.map fun w => (e, w)

/-- An append of the chunk would write: some of it is accepted, and the handle has no error of
an earlier write to report first. -/
def writes (s : Store) (id : UploadId) (chunk : List UInt8) : Bool :=
  (writing s id).any fun (e, w) =>
    !w.failed && decide (bytesWithinSize e.alreadyUploadedBytes e.size chunk ≠ [])

/-- The session writes at the end of its file, which is not as long as its counter says. -/
def strayed (s : Store) (id : UploadId) : Bool :=
  (writing s id).any fun (e, w) =>
    w.append && decide (((s.disk.data w.inode).length : Int) ≠ e.alreadyUploadedBytes)

/-- The file is as long as the counter says; where the writer does not append it may be longer. -/
def inStep (s : Store) (id : UploadId) : Bool :=
  (writing s id).all fun (e, w) =>
    decide (e.alreadyUploadedBytes ≤ (s.disk.data w.inode).length) &&
      (!w.append || decide (((s.disk.data w.inode).length : Int) = e.alreadyUploadedBytes))

def full (s : Store) (id : UploadId) : Bool :=
  (s.pending.lookup id).any fun e => decide (e.alreadyUploadedBytes = e.size)

/-- After an append that left bytes out the channel writes nothing more, unless the file can no
longer be continued and the write works; and no session whose file is out of step is renamed, or
stays active because its flush fails. -/
def FailureContained (s : State) : Event → Prop
  | .message n fault => ∀ ch, s.channel = some ch → ch.torn = true →
      writes s.store ch.id (chunkOf source ch.sent n) = false ∨
        (strayed s.store ch.id = true ∧ fault = none)
  | .close o => ∀ ch, s.channel = some ch →
      o.flushed = false ∨ (o.renamed = true ∧ full s.store ch.id = true) →
      inStep s.store ch.id = true
  | _ => True

/-- No session has one of the two names. -/
def Free (F C : Path) (m : Table UploadId FtPendingUpload) : Prop :=
  ∀ k e, m.lookup k = some e → onPath F C e = false

/-- Before the first start: no session of the file and no final file.  A cache file may have
been left by anyone, and other files may be on their way. -/
structure Initial (F C : Path) (s : State) : Prop where
  pending : Free F C s.store.pending
  closed : Free F C s.store.closed
  final : s.store.disk.names F = none
  offer : s.offer = none
  channel : s.channel = none

/-! ## The invariant -/

structure Ours (F C : Path) (source : List UInt8) (e : FtPendingUpload) (counter : Nat) :
    Prop where
  finalPath : e.finalPath = F
  uploadPath : e.uploadPath = C
  size : e.size = source.length
  already : e.alreadyUploadedBytes = counter
  counter_le : counter ≤ source.length

def Only (F C : Path) (m : Table UploadId FtPendingUpload) (k : UploadId) (e : FtPendingUpload) :
    Prop :=
  m.lookup k = some e ∧ ∀ k' e', m.lookup k' = some e' → onPath F C e' = true → k' = k

/-- The file begins like the source up to the counter at least, and the next bytes go where the
counter stands. -/
structure Synced (source : List UInt8) (w : AsyncFileWriter) (counter : Nat) (xs : List UInt8) :
    Prop where
  begins : xs <+: source
  counter_le : counter ≤ xs.length
  position : w.currentPosition = counter
  append : w.append = true → xs.length = counter

/-- After an append that left bytes out the client may be ahead of the counter.  The file still
begins like the source, or its length tells that it cannot be continued. -/
structure Torn (source : List UInt8) (w : AsyncFileWriter) (counter sent : Nat)
    (xs : List UInt8) : Prop where
  counter_le : counter ≤ sent
  sent_le : sent ≤ source.length
  position : w.currentPosition = counter
  content : xs <+: source ∨ (w.append = true ∧ xs.length ≠ counter)

inductive Sending (source : List UInt8) (w : AsyncFileWriter) (counter : Nat)
    (xs : List UInt8) (ch : Channel) : Prop
  | clean (htorn : ch.torn = false) (hsent : ch.sent = counter)
      (hsynced : Synced source w counter xs)
  | torn (htorn : ch.torn = true) (hcontent : Torn source w counter ch.sent xs)

structure Live (F C : Path) (source : List UInt8) (st : Store) (ch : Channel)
    (e : FtPendingUpload) (counter : Nat) (w : AsyncFileWriter) : Prop where
  only : Only F C st.pending ch.id e
  ours : Ours F C source e counter
  claimed : e.channelOpen = true
  writer : e.writer = some w
  name : st.disk.names C = some w.inode
  sending : Sending source w counter (st.disk.data w.inode) ch
  finished : ch.finished = true → counter = source.length

inductive Phase (F C : Path) (source : List UInt8) (s : State) : Prop
  | absent (hpending : Free F C s.store.pending) (hclosed : Free F C s.store.closed)
      (hoffer : s.offer = none) (hchannel : s.channel = none)
  /-- a cache file as long as the counter says begins like the source -/
  | closed {k : UploadId} {e : FtPendingUpload} {counter : Nat} {xs : List UInt8}
      (hpending : Free F C s.store.pending) (honly : Only F C s.store.closed k e)
      (hours : Ours F C source e counter) (hcache : s.store.disk.contents C = some xs)
      (hbegins : xs.length = counter → xs <+: source)
      (hoffer : s.offer = none) (hchannel : s.channel = none)
  | idle {k : UploadId} {e : FtPendingUpload} {counter : Nat} {w : AsyncFileWriter}
      (hclosed : Free F C s.store.closed) (honly : Only F C s.store.pending k e)
      (hours : Ours F C source e counter) (hidle : e.channelOpen = false)
      (hwriter : e.writer = some w) (hname : s.store.disk.names C = some w.inode)
      (hsynced : Synced source w counter (s.store.disk.data w.inode))
      (hoffer : ∀ up, s.offer = some up → up = ⟨counter, k⟩) (hchannel : s.channel = none)
  | sending {e : FtPendingUpload} {counter : Nat} {w : AsyncFileWriter} {ch : Channel}
      (hclosed : Free F C s.store.closed) (hlive : Live F C source s.store ch e counter w)
      (hoffer : s.offer = none) (hchannel : s.channel = some ch)

/-- The final file, if it is there, is the source. -/
def Delivered (F : Path) (source : List UInt8) (s : State) : Prop :=
  ∀ xs, s.store.disk.contents F = some xs → xs = source

structure Inv (F C : Path) (source : List UInt8) (s : State) : Prop where
  phase : Phase F C source s
  delivered : Delivered F source s

variable {F C : Path} {s : State} {m : Table UploadId FtPendingUpload}

/-! ## Maps with one session of the path -/

theorem Ours.onPath {e : FtPendingUpload} {counter : Nat} (h : Ours F C source e counter) :
    onPath F C e = true := by
  simp [FtUpload.onPath, h.finalPath]

theorem Free.insert (h : Free F C m) (k : UploadId) (e : FtPendingUpload) :
    Only F C (m.insert k e) k e := by
  refine ⟨AList.lookup_insert _, ?_⟩
  intro k' e' hlookup hpath
  rcases Table.lookup_insert_iff.mp hlookup with ⟨heq, -⟩ | ⟨-, hold⟩
  · exact heq
  · rw [h k' e' hold] at hpath
    cases hpath

theorem Only.insert {k : UploadId} {e : FtPendingUpload} (h : Only F C m k e)
    (e' : FtPendingUpload) : Only F C (m.insert k e') k e' := by
  refine ⟨AList.lookup_insert _, ?_⟩
  intro k' e'' hlookup hpath
  rcases Table.lookup_insert_iff.mp hlookup with ⟨heq, -⟩ | ⟨-, hold⟩
  · exact heq
  · exact h.2 k' e'' hold hpath

theorem Only.erase {k : UploadId} {e : FtPendingUpload} (h : Only F C m k e) :
    Free F C (m.erase k) := by
  intro k' e' hlookup
  obtain ⟨hne, hold⟩ := Table.lookup_erase_iff.mp hlookup
  by_contra hpath
  exact hne (h.2 k' e' hold (Bool.eq_true_of_not_eq_false hpath))

theorem free_removeWhere (m : Table UploadId FtPendingUpload) :
    Free F C (Table.removeWhere m (onPath F C)) :=
  fun _ _ hlookup => (Table.lookup_removeWhere.mp hlookup).2

theorem Free.not_matching {st : Store} (h : Free F C st.pending) (size : Int) (id : UploadId)
    (e : FtPendingUpload) : ¬ Matching st F size id e := by
  rintro ⟨hlookup, hfinal, -⟩
  have hoff := h id e hlookup
  simp [onPath, hfinal] at hoff

/-! ## Starting -/

/-- While there is an active session of this size that is in use or not too long, a start
changes nothing, and what it answers is such a session that is not in use. -/
theorem start_of_matching (o : StartOutcome) {path name : String} {size : Int} {st : Store}
    (hfits : ∀ id e, Matching st (filePathOf path name) size id e →
      e.channelOpen = true ∨ e.alreadyUploadedBytes ≤ size)
    (hexists : ∃ id e, Matching st (filePathOf path name) size id e) :
    Action.wp (startFtFileUpload o path name size)
      (fun r st' => st' = st ∧ ∀ up, r = .ok up → ∃ id e,
        Matching st (filePathOf path name) size id e ∧ e.channelOpen = false ∧
          up = ⟨e.alreadyUploadedBytes, id⟩) st := by
  refine Action.wp_bind (cacheSize_wp (Q := fun _ st' => st' = st) (fun _ => rfl) fun _ => rfl) ?_ ?_
  · rintro len st' rfl
    refine Action.wp_bind (activeUpload_wp (Q := fun r t => t = st' ∧ r ≠ .ok none ∧
      ∀ up, r = .ok (some up) → ∃ id e, Matching st' (filePathOf path name) size id e ∧
        e.channelOpen = false ∧ up = ⟨e.alreadyUploadedBytes, id⟩) ?_ ?_ ?_ ?_) ?_ ?_
    · exact fun _ _ _ _ => ⟨rfl, nofun, nofun⟩
    · intro hnone
      obtain ⟨id, e, hmatch⟩ := hexists
      exact absurd hmatch (hnone id e)
    · intro id e hmatch hidle _ hover
      rcases hfits id e hmatch with hopen | hle
      · rw [hidle] at hopen
        cases hopen
      · omega
    · intro id e hmatch hidle _
      refine ⟨rfl, nofun, fun up hup => ?_⟩
      cases hup
      exact ⟨id, e, hmatch, hidle, rfl⟩
    · rintro found t ⟨rfl, hsome, hfound⟩
      cases found with
      | none => exact absurd rfl hsome
      | some up =>
          refine ⟨rfl, fun up' hup => ?_⟩
          cases hup
          exact hfound up rfl
    · rintro e t ⟨rfl, -, -⟩
      exact ⟨rfl, nofun⟩
  · rintro e st' rfl
    exact ⟨rfl, nofun⟩

theorem contents_reopen_of_ne {d : Disk Path} {p : Path} (h : p ≠ C) (len : Nat) :
    (reopen d C len).1.contents p = d.contents p := by
  unfold reopen
  split
  · exact Disk.contents_openCreate_of_ne h
  · exact Disk.contents_openTruncate_of_ne h

theorem contents_freshDisk_of_ne {d : Disk Path} {p : Path} (h : p ≠ C) :
    (freshDisk d C).1.contents p = d.contents p :=
  (Disk.contents_openTruncate_of_ne h).trans (Disk.contents_openTruncate_of_ne h)

theorem contents_cleared_of_ne {st b : Store} {size : Int} {p : Path} (hne : p ≠ C)
    (h : Cleared st F C size b) : b.disk.contents p = st.disk.contents p := by
  cases h with
  | absent => rfl
  | discarded => exact (Disk.contents_remove st.disk C p).trans (if_neg hne)
  | unseen => rfl

theorem contents_started_of_ne {st st' : Store} {size : Int} {p : Path}
    {r : Except String StorageFileUpload} (hne : p ≠ C) (h : Started st F C size st' r) :
    st'.disk.contents p = st.disk.contents p := by
  cases h with
  | stopped => rfl
  | reused => rfl
  | restored => rfl
  | cleared hcleared => exact contents_cleared_of_ne hne hcleared
  | emptied hcleared hdisk =>
      rw [← contents_cleared_of_ne hne hcleared]
      rcases hdisk with rfl | rfl
      · exact Disk.contents_openTruncate_of_ne hne
      · exact contents_freshDisk_of_ne hne
  | refound => exact contents_freshDisk_of_ne hne
  | fresh _ _ hcleared =>
      rw [← contents_cleared_of_ne hne hcleared]
      exact contents_freshDisk_of_ne hne
  | blocked => exact contents_reopen_of_ne hne _
  | overlooked => exact contents_reopen_of_ne hne _
  | resumed => exact contents_reopen_of_ne hne _

/-- A session after sessions were taken out and put back: it lost its writer or is not on the
path. -/
theorem lookup_restored_cases {k : UploadId} {e : FtPendingUpload}
    (h : (Table.mapValues (fun e => { e with writer := none })
      (Table.removeWhere m fun e => !onPath F C e) ∪
        Table.removeWhere m (onPath F C)).lookup k = some e) :
    (∃ e', m.lookup k = some e' ∧ onPath F C e' = true ∧ e = { e' with writer := none }) ∨
      onPath F C e = false := by
  rcases AList.mem_lookup_union.mp h with h | ⟨-, h⟩
  · obtain ⟨e', hlookup, rfl⟩ := Table.lookup_mapValues_iff.mp h
    obtain ⟨hold, hpath⟩ := Table.lookup_removeWhere.mp hlookup
    exact .inl ⟨e', hold, by simpa using hpath, rfl⟩
  · exact .inr (Table.lookup_removeWhere.mp h).2

theorem Free.restored (h : Free F C m) :
    Free F C (Table.mapValues (fun e => { e with writer := none })
      (Table.removeWhere m fun e => !onPath F C e) ∪ Table.removeWhere m (onPath F C)) := by
  intro k e hlookup
  rcases lookup_restored_cases hlookup with ⟨e', hold, hpath, -⟩ | hoff
  · rw [h k e' hold] at hpath
    cases hpath
  · exact hoff

theorem Only.restored {k : UploadId} {e : FtPendingUpload} (h : Only F C m k e)
    (hpath : onPath F C e = true) :
    Only F C (Table.mapValues (fun e => { e with writer := none })
      (Table.removeWhere m fun e => !onPath F C e) ∪ Table.removeWhere m (onPath F C)) k
      { e with writer := none } := by
  refine ⟨lookup_restored m _ h.1 hpath, ?_⟩
  intro k' e' hlookup hon
  rcases lookup_restored_cases hlookup with ⟨e'', hold, hpath', -⟩ | hoff
  · exact h.2 k' e'' hold hpath'
  · rw [hoff] at hon
    cases hon

theorem free_of_cleared {st b : Store} {size : Int} (h : Cleared st F C size b)
    (hcache : 0 ≤ cacheLen st C ∨ (Free F C st.pending ∧ Free F C st.closed)) :
    Free F C b.pending ∧ Free F C b.closed := by
  cases h with
  | absent habsent => exact hcache.resolve_left habsent
  | discarded => exact ⟨free_removeWhere _, free_removeWhere _⟩
  | unseen => exact ⟨free_removeWhere _, free_removeWhere _⟩

theorem Phase.fresh {b : Store} (source : List UInt8) (hpending : Free F C b.pending)
    (hclosed : Free F C b.closed) (s : State) (hchannel : s.channel = none) :
    Phase F C source { s with
      store := b.enterFresh F C source.length
      offer := some ⟨0, b.nextId⟩ } := by
  have hname : (freshDisk b.disk C).1.names C = some (freshDisk b.disk C).2 :=
    Disk.openTruncate_names_self
  have hdata : (freshDisk b.disk C).1.data (freshDisk b.disk C).2 = [] := Disk.openTruncate_data
  have hours : Ours F C source (freshEntry (freshDisk b.disk C).2 source.length C F) 0 :=
    ⟨rfl, rfl, rfl, rfl, Nat.zero_le _⟩
  refine .idle hclosed (hpending.insert _ _) hours rfl rfl hname ?_ ?_ hchannel
  · show Synced source _ 0 ((freshDisk b.disk C).1.data (freshDisk b.disk C).2)
    rw [hdata]
    exact ⟨List.nil_prefix, Nat.le_refl 0, rfl, nofun⟩
  · rintro up ⟨⟩
    rfl

def State.afterStart (s : State) (st : Store) : Except String StorageFileUpload → State
  | .ok up => { s with store := st, offer := some up }
  | .error _ => { s with store := st }

theorem phase_start_absent (source : List UInt8) {st : Store} {r : Except String StorageFileUpload}
    (hpending : Free F C s.store.pending) (hclosed : Free F C s.store.closed)
    (hoffer : s.offer = none) (hchannel : s.channel = none)
    (h : Started s.store F C source.length st r) : Phase F C source (s.afterStart st r) := by
  have hnone : ¬ Resumable s.store F C source.length := by
    intro hres
    obtain ⟨x, hx, hmatch⟩ := List.any_eq_true.mp hres.2.2
    have hoff := hclosed x.1 x.2 (Table.lookup_eq_some_iff.mpr hx)
    simp only [matchesClosed, Bool.and_eq_true, decide_eq_true_eq] at hmatch
    simp [onPath, hmatch.1.1] at hoff
  cases h with
  | stopped => exact .absent hpending hclosed hoffer hchannel
  | reused _ hmatch => exact absurd hmatch (hpending.not_matching _ _ _)
  | restored => exact .absent hpending.restored hclosed.restored hoffer hchannel
  | cleared hcleared =>
      obtain ⟨hp, hc⟩ := free_of_cleared hcleared (.inr ⟨hpending, hclosed⟩)
      exact .absent hp hc hoffer hchannel
  | emptied hcleared =>
      obtain ⟨hp, hc⟩ := free_of_cleared hcleared (.inr ⟨hpending, hclosed⟩)
      exact .absent hp hc hoffer hchannel
  | refound _ _ hmatch => exact absurd hmatch (hpending.not_matching _ _ _)
  | fresh _ _ hcleared =>
      obtain ⟨hp, hc⟩ := free_of_cleared hcleared (.inr ⟨hpending, hclosed⟩)
      exact .fresh source hp hc s hchannel
  | blocked hres => exact absurd hres hnone
  | overlooked _ hres => exact absurd hres hnone
  | resumed _ hres => exact absurd hres hnone

theorem phase_resumed {source : List UInt8} {k : UploadId} {e : FtPendingUpload}
    {xs : List UInt8} (hpending : Free F C s.store.pending) (honly : Only F C s.store.closed k e)
    (hours : Ours F C source e xs.length) (hcache : s.store.disk.contents C = some xs)
    (hbegins : xs <+: source) (hchannel : s.channel = none) :
    Phase F C source { s with
      store := { s.store with
        disk := (reopen s.store.disk C xs.length).1
        closed := s.store.closed.erase k
        pending := s.store.pending.insert k
          { e with
            channelOpen := false
            alreadyUploadedBytes := xs.length
            writer := some (reopen s.store.disk C xs.length).2 } }
      offer := some ⟨xs.length, k⟩ } := by
  obtain ⟨i, hi, hdata⟩ := Option.map_eq_some_iff.mp hcache
  have hours' : Ours F C source
      { e with
        channelOpen := false
        alreadyUploadedBytes := xs.length
        writer := some (reopen s.store.disk C xs.length).2 } xs.length :=
    ⟨hours.finalPath, hours.uploadPath, hours.size, rfl, hours.counter_le⟩
  have hreopened : (reopen s.store.disk C xs.length).1.names C =
        some (reopen s.store.disk C xs.length).2.inode ∧
      Synced source (reopen s.store.disk C xs.length).2 xs.length
        ((reopen s.store.disk C xs.length).1.data (reopen s.store.disk C xs.length).2.inode) := by
    unfold reopen
    by_cases hlen : 0 < xs.length
    · rw [if_pos hlen, Disk.openCreate_of_some hi]
      refine ⟨hi, ?_⟩
      show Synced source _ xs.length (s.store.disk.data i)
      rw [hdata]
      exact ⟨hbegins, Nat.le_refl _, rfl, fun _ => rfl⟩
    · rw [if_neg hlen]
      refine ⟨Disk.openTruncate_names_self, ?_⟩
      show Synced source _ xs.length ((s.store.disk.openTruncate C).1.data _)
      rw [Disk.openTruncate_data]
      have hzero : xs.length = 0 := by omega
      rw [hzero]
      exact ⟨List.nil_prefix, Nat.le_refl _, rfl, nofun⟩
  refine .idle honly.erase (hpending.insert _ _) hours' rfl rfl hreopened.1 hreopened.2 ?_ hchannel
  rintro up ⟨⟩
  rfl

theorem phase_start_closed {source : List UInt8} {st : Store}
    {r : Except String StorageFileUpload} {k : UploadId} {e : FtPendingUpload} {counter : Nat}
    {xs : List UInt8} (hpending : Free F C s.store.pending) (honly : Only F C s.store.closed k e)
    (hours : Ours F C source e counter) (hcache : s.store.disk.contents C = some xs)
    (hbegins : xs.length = counter → xs <+: source) (hoffer : s.offer = none)
    (hchannel : s.channel = none) (h : Started s.store F C source.length st r) :
    Phase F C source (s.afterStart st r) := by
  have hlen : cacheLen s.store C = xs.length := cacheLen_of_some hcache
  have hthere : 0 ≤ cacheLen s.store C := by omega
  cases h with
  | stopped => exact .closed hpending honly hours hcache hbegins hoffer hchannel
  | reused _ hmatch => exact absurd hmatch (hpending.not_matching _ _ _)
  | restored =>
      exact .closed hpending.restored (honly.restored hours.onPath)
        ⟨hours.finalPath, hours.uploadPath, hours.size, hours.already, hours.counter_le⟩
        hcache hbegins hoffer hchannel
  | cleared hcleared =>
      obtain ⟨hp, hc⟩ := free_of_cleared hcleared (.inl hthere)
      exact .absent hp hc hoffer hchannel
  | emptied hcleared =>
      obtain ⟨hp, hc⟩ := free_of_cleared hcleared (.inl hthere)
      exact .absent hp hc hoffer hchannel
  | refound _ _ hmatch => exact absurd hmatch (hpending.not_matching _ _ _)
  | fresh _ _ hcleared =>
      obtain ⟨hp, hc⟩ := free_of_cleared hcleared (.inl hthere)
      exact .fresh source hp hc s hchannel
  | blocked =>
      have hsame : (reopen s.store.disk C (cacheLen s.store C).toNat).1.contents C = some xs := by
        rw [hlen, Int.toNat_natCast, contents_reopen hcache]
      exact .closed hpending honly hours hsame hbegins hoffer hchannel
  | overlooked _ _ hmatch => exact absurd hmatch (hpending.not_matching _ _ _)
  | @resumed id entry _ _ _ hlookup hmatch =>
      simp only [matchesClosed, Bool.and_eq_true, decide_eq_true_eq] at hmatch
      have hpath : onPath F C entry = true := by simp [onPath, hmatch.1.1]
      obtain rfl := honly.2 id entry hlookup hpath
      cases hlookup.symm.trans honly.1
      have hcounter : counter = xs.length := by
        have halready := hours.already
        have hequal := hmatch.2
        omega
      subst hcounter
      have hphase := phase_resumed hpending honly hours hcache (hbegins rfl) hchannel
      rw [hlen, Int.toNat_natCast]
      exact hphase

theorem Only.matching {st : Store} {size : Int} {k : UploadId} {e : FtPendingUpload}
    (h : Only F C st.pending k e) {id : UploadId} {e' : FtPendingUpload}
    (hmatch : Matching st F size id e') : id = k ∧ e' = e := by
  obtain ⟨hlookup, hfinal, -⟩ := hmatch
  have hid : id = k := h.2 id e' hlookup (by simp [onPath, hfinal])
  subst hid
  exact ⟨rfl, Option.some.inj (hlookup.symm.trans h.1)⟩

end ArkKvm.FtUpload.Delivery
