import ArkKvm.Lib.Run
import ArkKvm.Upload.Effects

/-!
# Uploads over a data channel deliver the source

One client uploads one file.  On every channel it opens it sends the source from
the offset that the last start returned, in chunks of any length; any write may
fail after any prefix of its chunk, and is found out by the next append or by the
flush at the end.  The state keeps, next to the store, what the client was told
(`offer`) and the channel handler of `data_channel.rs` with the position of the
client (`sent`).  `torn` remembers that bytes of this channel were left out.
-/

namespace ArkKvm.Upload.Delivery

open Lib

structure Channel where
  id : UploadId
  sent : Nat
  finished : Bool
  torn : Bool

def Channel.after (ch : Channel) (chunk : List UInt8) (finished : Bool)
    (handed : WriteBehind.Handed) : Channel :=
  { ch with
    sent := ch.sent + chunk.length
    finished := finished
    torn := ch.torn || decide (handed ≠ .done) }

structure State where
  store : Store
  offer : Option StorageFileUpload
  channel : Option Channel

inductive Event
  /-- the client calls `start_storage_file_upload` -/
  | start (o : StartOutcome)
  /-- the client opens the channel it was told about -/
  | openChannel
  /-- the handler takes the next chunk of at most `n` bytes -/
  | message (n : Nat) (fault : Option Nat)
  /-- the channel ends, and the handler finalizes -/
  | close (o : CompleteOutcome)

/-- An append of the chunk would write: some of it is accepted, and the handle has no error of
an earlier write to report first. -/
def writes (s : Store) (id : UploadId) (chunk : List UInt8) : Bool :=
  match s.pending.lookup id with
  | some e => decide (bytesWithinSize e.alreadyUploadedBytes e.size chunk ≠ []) &&
      e.file.any fun file => !file.failed
  | none => false

def tears (s : Store) (id : UploadId) (chunk : List UInt8) (fault : Option Nat) : Bool :=
  match s.pending.lookup id with
  | some e =>
      let data := bytesWithinSize e.alreadyUploadedBytes e.size chunk
      decide (data ≠ []) && match e.file with
        | none => true
        | some file => decide (WriteBehind.handOver file.failed data.length fault ≠ .done)
  | none => false

/-- `handle_upload_channel` on one message: chunks are ignored once finished, and
a failed append is only logged. -/
def onMessage (source : List UInt8) (n : Nat) (fault : Option Nat) (s : Store) (ch : Channel) :
    Store × Channel :=
  let chunk := (source.drop ch.sent).take n
  let sent := ch.sent + chunk.length
  let torn := ch.torn || tears s ch.id chunk fault
  if ch.finished then (s, { ch with sent := sent })
  else match appendUploadData ch.id chunk fault s with
    | (s', .ok (size, already)) =>
        (s', { ch with sent := sent, finished := decide (size ≤ already), torn := torn })
    | (s', .error _) => (s', { ch with sent := sent, torn := torn })

variable (filename : String) (source : List UInt8)

def step (s : State) : Event → Option State
  | .start o =>
      let finalExists := match sanitizeFilename filename with
        | .ok base => (s.store.disk.names (finalPathOf base)).isSome
        | .error _ => false
      match startStorageFileUpload o finalExists filename source.length s.store with
      | (store, .ok up) => some { s with store := store, offer := some up }
      | (store, .error _) => some { s with store := store }
  | .openChannel =>
      match s.channel, s.offer with
      | none, some up =>
          match claimUploadChannel up.dataChannel s.store with
          | (store, .ok _) => some { s with
              store := store
              channel := some
                { id := up.dataChannel
                  sent := up.alreadyUploadedBytes.toNat
                  finished := false
                  torn := false } }
          | (store, .error _) => some { s with store := store }
      | _, _ => none
  | .message n fault =>
      match s.channel with
      | some ch =>
          some { s with
            store := (onMessage source n fault s.store ch).1
            channel := some (onMessage source n fault s.store ch).2 }
      | none => none
  | .close o =>
      match s.channel with
      | some ch => some { s with store := (completeUpload o ch.id s.store).1, channel := none }
      | none => none

/-- Nothing is written on a channel after one of its appends left bytes out. -/
def NoWriteAfterTear (s : State) : Event → Prop
  | .message n _ => ∀ ch, s.channel = some ch → ch.torn = true →
      ch.finished = true ∨ writes s.store ch.id ((source.drop ch.sent).take n) = false
  | _ => True

/-- Before the first start: no session, no final file, and an incomplete file
holds at most the beginning of the source. -/
structure Initial (base : String) (s : State) : Prop where
  pending : s.store.pending = ∅
  final : s.store.disk.names (finalPathOf base) = none
  begun : ∀ i, s.store.disk.names (uploadPathOf base) = some i → s.store.disk.data i <+: source
  offer : s.offer = none
  channel : s.channel = none

/-! ## The invariant -/

/-- The bytes of the incomplete file. -/
def content (s : Store) (base : String) : List UInt8 :=
  match s.disk.names (uploadPathOf base) with
  | some i => s.disk.data i
  | none => []

theorem len_eq (s : Store) (base : String) :
    s.disk.len (uploadPathOf base) = (content s base).length := by
  unfold Disk.len content
  cases s.disk.names (uploadPathOf base) <;> rfl

structure StoreInv (base : String) (s : Store) : Prop where
  entry : ∀ {k e}, s.pending.lookup k = some e →
    e.uploadPath = uploadPathOf base ∧ e.finalPath = finalPathOf base ∧ e.size = source.length
  single : ∀ {k k' e e'}, s.pending.lookup k = some e → s.pending.lookup k' = some e' → k = k'
  /-- an active session writes to the incomplete file and there is no final one -/
  handle : ∀ {k e}, s.pending.lookup k = some e →
    s.disk.names (finalPathOf base) = none ∧
      ∃ u, s.disk.names (uploadPathOf base) = some u ∧
        ∀ file, e.file = some file → file.inode = u
  begun : content s base <+: source
  final : ∀ i, s.disk.names (finalPathOf base) = some i → s.disk.data i = source

/-- The client's position on a live channel, as long as the session still takes
bytes and no append of the channel was torn. -/
structure ChannelInv (base : String) (s : Store) (ch : Channel) : Prop where
  active : ∃ e, s.pending.lookup ch.id = some e ∧ e.channelOpen = true ∧
    (ch.finished = true → (source.length : Int) ≤ e.alreadyUploadedBytes) ∧
    (e.alreadyUploadedBytes < source.length → ch.torn = false →
      ch.sent = (content s base).length ∧ e.alreadyUploadedBytes ≤ (content s base).length)

/-- The offset the client was told, as long as a channel could still use it. -/
def OfferInv (base : String) (s : Store) (up : StorageFileUpload) : Prop :=
  ∀ e, s.pending.lookup up.dataChannel = some e → e.channelOpen = false →
    e.alreadyUploadedBytes < source.length →
      up.alreadyUploadedBytes = (content s base).length ∧
        e.alreadyUploadedBytes = (content s base).length

structure Inv (base : String) (s : State) : Prop where
  store : StoreInv source base s.store
  channel : ∀ ch, s.channel = some ch → ChannelInv source base s.store ch
  offer : s.channel = none → ∀ up, s.offer = some up → OfferInv source base s.store up

variable {filename source} {base : String}

theorem StoreInv.len_le {s : Store} (h : StoreInv source base s) :
    s.disk.len (uploadPathOf base) ≤ source.length := by
  rw [len_eq]
  exact_mod_cast h.begun.length_le

/-- The length a completion sees is never beyond the source, and the whole source is there when
it looks complete: a file that `exists()` misses counts as empty. -/
theorem StoreInv.lenSeen {s : Store} (h : StoreInv source base s) (seen : Bool) :
    lenSeen s seen (uploadPathOf base) ≤ source.length ∧
      (lenSeen s seen (uploadPathOf base) = source.length → content s base = source) := by
  unfold Upload.lenSeen
  split
  · refine ⟨h.len_le, fun heq => h.begun.eq_of_length ?_⟩
    rw [len_eq] at heq
    exact_mod_cast heq
  · refine ⟨Int.natCast_nonneg _, fun heq => ?_⟩
    have hnil : source = [] := List.eq_nil_of_length_eq_zero (by omega)
    rw [hnil]
    exact List.prefix_nil.mp (hnil ▸ h.begun)

theorem StoreInv.pending_none {s : Store} (h : StoreInv source base s)
    (hnone : NoActive s (uploadPathOf base) source.length) (k : UploadId) :
    s.pending.lookup k = none := by
  cases hk : s.pending.lookup k with
  | none => rfl
  | some e => exact absurd (h.entry hk).2.2 (hnone k e hk (h.entry hk).1)

theorem lookup_insert_of_none {m : Table UploadId PendingUpload} (hnone : ∀ k, m.lookup k = none)
    {id k : UploadId} {e e' : PendingUpload} (h : (m.insert id e).lookup k = some e') :
    k = id ∧ e' = e := by
  rcases Table.lookup_insert_iff.mp h with h | ⟨-, h⟩
  · exact h
  · rw [hnone k] at h
    cases h

theorem StoreInv.insert_first {s : Store} {m : Table UploadId PendingUpload} {id : UploadId}
    {e : PendingUpload} {u : Nat} {c : Table UploadId PendingUpload} {n : UploadId}
    (hm : ∀ k, m.lookup k = none) (hbegun : content s base <+: source)
    (hfinal : s.disk.names (finalPathOf base) = none)
    (hname : s.disk.names (uploadPathOf base) = some u)
    (he : e.uploadPath = uploadPathOf base ∧ e.finalPath = finalPathOf base ∧
      e.size = source.length) (hfile : e.file = some { inode := u }) :
    StoreInv source base
      { disk := s.disk, pending := m.insert id e, closed := c, nextId := n } where
  entry := by
    intro k e' hk
    obtain ⟨-, rfl⟩ := lookup_insert_of_none hm hk
    exact he
  single := by
    intro k k' e₁ e₂ hk hk'
    rw [(lookup_insert_of_none hm hk).1, (lookup_insert_of_none hm hk').1]
  handle := by
    intro k e' hk
    obtain ⟨-, rfl⟩ := lookup_insert_of_none hm hk
    refine ⟨hfinal, u, hname, ?_⟩
    intro file hf
    rw [hfile] at hf
    cases hf
    rfl
  begun := hbegun
  final := by
    intro i hi
    rw [show s.disk.names (finalPathOf base) = none from hfinal] at hi
    cases hi

theorem StoreInv.insert_same {s : Store} (h : StoreInv source base s) {id : UploadId}
    {e e' : PendingUpload} (hlookup : s.pending.lookup id = some e)
    (hpath : e'.uploadPath = e.uploadPath) (hfinal : e'.finalPath = e.finalPath)
    (hsize : e'.size = e.size) (hfile : ∀ file, e'.file = some file →
      s.disk.names (uploadPathOf base) = some file.inode) :
    StoreInv source base { s with pending := s.pending.insert id e' } := by
  have hcases : ∀ {k e''}, (s.pending.insert id e').lookup k = some e'' → k = id ∧ e'' = e' := by
    intro k e'' hk
    rcases Table.lookup_insert_iff.mp hk with hk | ⟨hne, hk⟩
    · exact hk
    · exact absurd (h.single hk hlookup) hne
  refine ⟨?_, ?_, ?_, h.begun, h.final⟩
  · intro k e'' hk
    obtain ⟨-, rfl⟩ := hcases hk
    rw [hpath, hfinal, hsize]
    exact h.entry hlookup
  · intro k k' e₁ e₂ hk hk'
    rw [(hcases hk).1, (hcases hk').1]
  · intro k e'' hk
    obtain ⟨-, rfl⟩ := hcases hk
    obtain ⟨hnone, u, hu, -⟩ := h.handle hlookup
    refine ⟨hnone, u, hu, ?_⟩
    intro file hf
    exact Option.some.inj ((hfile file hf).symm.trans hu)

/-! ## Starting -/

theorem Inv.no_channel {s : State} (h : Inv source base s) {id : UploadId} {e : PendingUpload}
    (hlookup : s.store.pending.lookup id = some e) (hidle : e.channelOpen = false) :
    s.channel = none := by
  cases hch : s.channel with
  | none => rfl
  | some ch =>
      obtain ⟨e', he', hopen, -⟩ := (h.channel ch hch).active
      obtain rfl := h.store.single hlookup he'
      rw [hlookup] at he'
      cases he'
      rw [hidle] at hopen
      cases hopen

theorem Inv.no_channel_of_none {s : State} (h : Inv source base s)
    (hnone : ∀ k, s.store.pending.lookup k = none) : s.channel = none := by
  cases hch : s.channel with
  | none => rfl
  | some ch =>
      obtain ⟨e, he, -⟩ := (h.channel ch hch).active
      rw [hnone] at he
      cases he

theorem Inv.of_closed {s : State} (h : Inv source base s) (c : Table UploadId PendingUpload)
    (n : UploadId) :
    Inv source base { s with store := { s.store with closed := c, nextId := n } } where
  store := ⟨h.store.entry, h.store.single, h.store.handle, h.store.begun, h.store.final⟩
  channel ch hch := ⟨(h.channel ch hch).active⟩
  offer := h.offer

theorem offerInv_of_len {s : Store} {id : UploadId} {e : PendingUpload}
    (hlookup : s.pending.lookup id = some e)
    (hlen : e.alreadyUploadedBytes = s.disk.len (uploadPathOf base)) :
    OfferInv source base s ⟨s.disk.len (uploadPathOf base), id⟩ := by
  intro e' he' _ _
  rw [show s.pending.lookup id = some e from hlookup] at he'
  cases he'
  rw [hlen, len_eq]
  exact ⟨rfl, rfl⟩

theorem names_create {d : Disk} {p : Path} (hname : d.names p = none) (q : Path) :
    (d.create p).1.names q = if q = p then some d.nextInode else d.names q := by
  unfold Disk.create
  rw [hname]

theorem data_create {d : Disk} {p : Path} (hname : d.names p = none) (i : Nat) :
    (d.create p).1.data i = if i = d.nextInode then [] else d.data i := by
  unfold Disk.create
  rw [hname]

theorem inode_create {d : Disk} {p : Path} (hname : d.names p = none) :
    (d.create p).2 = d.nextInode := by
  unfold Disk.create
  rw [hname]

theorem content_createFile {s : Store} (hname : s.disk.names (uploadPathOf base) = none) :
    content (s.createFile (uploadPathOf base)) base = [] := by
  unfold content Store.createFile
  simp only [names_create hname, data_create hname, if_true]

theorem Inv.offered {s : State} {store : Store} {up : StorageFileUpload} (hch : s.channel = none)
    (hstore : StoreInv source base store) (hoffer : OfferInv source base store up) :
    Inv source base { s with
      store := store
      offer := some up } where
  store := hstore
  channel := by
    intro ch hsome
    exact absurd (hch.symm.trans hsome) (by simp)
  offer := by
    rintro _ _ ⟨⟩
    exact hoffer

theorem start_inv {o : StartOutcome} {s : State} (h : Inv source base s) {store : Store}
    {r : Except String StorageFileUpload}
    (hfinal : s.store.disk.names (finalPathOf base) = none)
    (hst : Started o s.store source.length (uploadPathOf base) (finalPathOf base) store r) :
    Inv source base { s with
      store := store
      offer := match r with
        | .ok up => some up
        | .error _ => s.offer } := by
  have hlen := h.store.len_le
  cases hst with
  | stopped => exact ⟨h.store, h.channel, h.offer⟩
  | reused hlookup hpath hsize hidle _ =>
      refine .offered (h.no_channel hlookup hidle)
        (h.store.insert_same hlookup rfl rfl rfl ?_) (offerInv_of_len (AList.lookup_insert _) rfl)
      intro file hf
      obtain ⟨-, u, hu, hfile⟩ := h.store.handle hlookup
      rw [hu, hfile file hf]
  | reopened _ hnone hname _ _ hf hp =>
      have hempty := h.store.pending_none hnone
      exact .offered (h.no_channel_of_none hempty)
        (.insert_first hempty h.store.begun hfinal hname ⟨hp, hf, rfl⟩ rfl)
        (offerInv_of_len (AList.lookup_insert _) rfl)
  | reopenFailed _ _ => exact h.of_closed _ _
  | resumed _ hnone hname _ =>
      have hempty := h.store.pending_none hnone
      exact .offered (h.no_channel_of_none hempty)
        (.insert_first hempty h.store.begun hfinal hname ⟨rfl, rfl, rfl⟩ rfl)
        (offerInv_of_len (AList.lookup_insert _) rfl)
  | resumeFailed => exact h.of_closed _ _
  | fresh _ hnone hname =>
      have hempty := h.store.pending_none hnone
      have hcontent := content_createFile hname
      have hfinal' :
          (s.store.createFile (uploadPathOf base)).disk.names (finalPathOf base) = none := by
        unfold Store.createFile
        rw [names_create hname, if_neg (uploadPathOf_ne_finalPathOf base).symm, hfinal]
      have hname' : (s.store.createFile (uploadPathOf base)).disk.names (uploadPathOf base) =
          some (s.store.disk.create (uploadPathOf base)).2 := by
        unfold Store.createFile
        rw [names_create hname, if_pos rfl, inode_create hname]
      refine .offered (h.no_channel_of_none hempty)
        (StoreInv.insert_first (s := s.store.createFile (uploadPathOf base)) hempty ?_
          hfinal' hname' ⟨rfl, rfl, rfl⟩ rfl) ?_
      · rw [hcontent]
        exact List.nil_prefix
      · intro e he _ _
        have hcontent' : content ((s.store.createFile (uploadPathOf base)).insertNew
            (newEntry (s.store.disk.create (uploadPathOf base)).2 0 source.length
              (uploadPathOf base) (finalPathOf base))) base = [] := hcontent
        rw [hcontent']
        obtain ⟨-, rfl⟩ := lookup_insert_of_none hempty he
        exact ⟨rfl, rfl⟩
  | overshotFailed hover => omega
  | overshotRemoved hover => omega
  | overshot hover _ => omega

/-! ## Channels -/

theorem claim_inv {s : State} (h : Inv source base s) (hch : s.channel = none)
    {up : StorageFileUpload} (hup : s.offer = some up) {e : PendingUpload}
    (hlookup : s.store.pending.lookup up.dataChannel = some e) (hidle : e.channelOpen = false) :
    Inv source base { s with
      store := { s.store with
        pending := s.store.pending.insert up.dataChannel { e with channelOpen := true } }
      channel := some ⟨up.dataChannel, up.alreadyUploadedBytes.toNat, false, false⟩ } := by
  refine ⟨h.store.insert_same hlookup rfl rfl rfl ?_, ?_, ?_⟩
  · intro file hf
    obtain ⟨-, u, hu, hfile⟩ := h.store.handle hlookup
    rw [hu, hfile file hf]
  · rintro ch ⟨⟩
    refine ⟨_, AList.lookup_insert _, rfl, nofun, ?_⟩
    intro halready _
    obtain ⟨hoffer, he⟩ := h.offer hch up hup e hlookup hidle halready
    change up.alreadyUploadedBytes.toNat = (content s.store base).length ∧
      e.alreadyUploadedBytes ≤ (content s.store base).length
    omega
  · intro hnone
    cases hnone

theorem bytesWithinSize_nil {already size : Int} {data : List UInt8} (hroom : already < size)
    (h : bytesWithinSize already size data = []) : data = [] := by
  unfold bytesWithinSize at h
  rw [if_neg (by omega)] at h
  by_cases hfit : (data.length : Int) ≤ size - already
  · rwa [if_pos hfit] at h
  · rw [if_neg hfit, List.take_eq_nil_iff] at h
    rcases h with h | h
    · omega
    · exact h

theorem bytesWithinSize_of_le {already size : Int} {data : List UInt8} (hroom : already < size)
    (h : (data.length : Int) ≤ size - already) : bytesWithinSize already size data = data := by
  rw [bytesWithinSize, if_neg (by omega), if_pos h]

theorem room_of_bytesWithinSize {already size : Int} {data : List UInt8}
    (h : bytesWithinSize already size data ≠ []) : already < size := by
  by_contra hge
  apply h
  rw [bytesWithinSize, if_pos (by omega)]

theorem content_append {s : Store} {u : Nat} {bytes : List UInt8}
    {m c : Table UploadId PendingUpload} {n : UploadId}
    (hu : s.disk.names (uploadPathOf base) = some u) :
    content { disk := s.disk.append u bytes, pending := m, closed := c, nextId := n } base =
      content s base ++ bytes := by
  simp only [content, Disk.append, hu, if_true]

/-- Bytes of the source at the end of the file keep it a beginning of the source. -/
theorem prefix_append_chunk {xs source bytes : List UInt8} {sent n : Nat} (h : xs <+: source)
    (hsent : sent = xs.length) (hbytes : bytes <+: (source.drop sent).take n) :
    xs ++ bytes <+: source := by
  obtain ⟨rest, rfl⟩ := h
  rw [hsent, List.drop_left] at hbytes
  exact (List.prefix_append_right_inj xs).mpr (hbytes.trans (List.take_prefix _ _))

theorem StoreInv.append {s : Store} (h : StoreInv source base s) {id : UploadId}
    {e : PendingUpload} {u : Nat} {bytes : List UInt8} (hlookup : s.pending.lookup id = some e)
    (hu : s.disk.names (uploadPathOf base) = some u)
    (hbegins : content s base ++ bytes <+: source) :
    StoreInv source base { s with disk := s.disk.append u bytes } := by
  refine ⟨h.entry, h.single, h.handle, ?_, ?_⟩
  · rw [content_append hu]
    exact hbegins
  · intro i hi
    exact absurd ((h.handle hlookup).1.symm.trans hi) (by simp)

/-- The client never sends more than the rest of the source, so nothing is cut. -/
theorem chunk_fits {s : Store} (hs : StoreInv source base s) {already : Int} {sent n : Nat}
    (hroom : already < source.length) (hsent : sent = (content s base).length)
    (halready : already ≤ (content s base).length) :
    bytesWithinSize already source.length ((source.drop sent).take n) =
      (source.drop sent).take n := by
  apply bytesWithinSize_of_le hroom
  have hlen : ((source.drop sent).take n).length ≤ source.length - sent := by
    rw [List.length_take, List.length_drop]
    omega
  have hcontent := hs.begun.length_le
  omega

theorem onMessage_eq {s : Store} {ch : Channel} {e : PendingUpload} {file : FileHandle}
    {chunk data : List UInt8} {n : Nat} (fault : Option Nat) (hfresh : ch.finished = false)
    (hchunk : (source.drop ch.sent).take n = chunk) (he : s.pending.lookup ch.id = some e)
    (hfile : e.file = some file)
    (hdata : bytesWithinSize e.alreadyUploadedBytes e.size chunk = data) (hne : data ≠ []) :
    let handed := WriteBehind.handOver file.failed data.length fault
    ∃ finished, onMessage source n fault s ch =
        ({ s with
           disk := s.disk.append file.inode (handed.landed data)
           pending := s.pending.insert ch.id (e.wrote data.length handed) },
          ch.after chunk finished handed) ∧
      (finished = true → e.size ≤ (e.wrote data.length handed).alreadyUploadedBytes) := by
  intro handed
  have happend : appendUploadData ch.id chunk fault s =
      ({ s with
         disk := s.disk.append file.inode (handed.landed data)
         pending := s.pending.insert ch.id (e.wrote data.length handed) },
        if handed.taken then
          .ok (e.size, (e.wrote data.length handed).alreadyUploadedBytes)
        else .error "failed to write upload") := by
    unfold appendUploadData
    simp only [he, hdata, hfile, if_neg hne]
    rfl
  have htears : tears s ch.id chunk fault = decide (handed ≠ .done) := by
    unfold tears
    simp only [he, hdata, hfile, decide_eq_true hne, Bool.true_and]
    rfl
  unfold onMessage
  dsimp only
  rw [hfresh, if_neg Bool.false_ne_true, hchunk, happend, htears]
  cases handed.taken with
  | true => exact ⟨_, rfl, of_decide_eq_true⟩
  | false => exact ⟨false, rfl, nofun⟩

/-- What a message leaves in the file is a beginning of the source: on a torn channel the
handle reports its error first, so nothing lands. -/
theorem landed_begins {s : Store} {file : FileHandle} {chunk data : List UInt8} {sent n : Nat}
    {torn : Bool} (fault : Option Nat) (hs : StoreInv source base s)
    (hchunk : (source.drop sent).take n = chunk)
    (hfailed : torn = true → file.failed = true)
    (hclean : torn = false → sent = (content s base).length ∧ data = chunk) :
    content s base ++ (WriteBehind.handOver file.failed data.length fault).landed data <+:
      source := by
  cases torn with
  | true =>
      rw [hfailed rfl, WriteBehind.handOver_failed, WriteBehind.Handed.landed, List.append_nil]
      exact hs.begun
  | false =>
      obtain ⟨hsent, rfl⟩ := hclean rfl
      refine prefix_append_chunk (n := n) hs.begun hsent ?_
      rw [hchunk]
      exact WriteBehind.Handed.landed_prefix _ _

/-- A chunk that was handed over: a channel that lost none of it stands where the file ends. -/
theorem handed_inv {s : Store} {ch : Channel} {e : PendingUpload} {file : FileHandle}
    {chunk data : List UInt8} {finished : Bool} {handed : WriteBehind.Handed}
    (hs : StoreInv source base s) (he : s.pending.lookup ch.id = some e)
    (hopen : e.channelOpen = true) (hu : s.disk.names (uploadPathOf base) = some file.inode)
    (hfile : e.file = some file)
    (hbegins : content s base ++ handed.landed data <+: source)
    (hwhole : ch.torn = false → ch.sent = (content s base).length ∧
      e.alreadyUploadedBytes ≤ (content s base).length ∧ data = chunk)
    (hfinished : finished = true →
      (source.length : Int) ≤ (e.wrote data.length handed).alreadyUploadedBytes) :
    StoreInv source base { s with
        disk := s.disk.append file.inode (handed.landed data)
        pending := s.pending.insert ch.id (e.wrote data.length handed) } ∧
      ChannelInv source base { s with
          disk := s.disk.append file.inode (handed.landed data)
          pending := s.pending.insert ch.id (e.wrote data.length handed) }
        (ch.after chunk finished handed) := by
  refine ⟨(hs.append he hu hbegins).insert_same he rfl rfl rfl ?_,
    _, AList.lookup_insert _, hopen, hfinished, ?_⟩
  · intro file' hf
    rw [PendingUpload.wrote, hfile] at hf
    cases hf
    exact hu
  · intro _ htorn
    obtain ⟨hclean, hdone⟩ := Bool.or_eq_false_iff.mp htorn
    obtain rfl : handed = .done := by simpa using hdone
    obtain ⟨hsent, halready, rfl⟩ := hwhole hclean
    rw [content_append hu, List.length_append]
    refine ⟨congrArg (· + data.length) hsent, ?_⟩
    show e.alreadyUploadedBytes + (data.length : Int) ≤ _
    simp only [WriteBehind.Handed.landed]
    omega

theorem message_inv {s : Store} {ch : Channel} {n : Nat} (fault : Option Nat)
    (hs : StoreInv source base s) (hc : ChannelInv source base s ch)
    (hok : ch.torn = true → ch.finished = true ∨
      writes s ch.id ((source.drop ch.sent).take n) = false) :
    StoreInv source base (onMessage source n fault s ch).1 ∧
      ChannelInv source base (onMessage source n fault s ch).1
        (onMessage source n fault s ch).2 := by
  obtain ⟨e, he, hopen, hfin, hpos⟩ := hc.active
  obtain ⟨-, -, hsize⟩ := hs.entry he
  obtain ⟨-, u, hu, hhandle⟩ := hs.handle he
  generalize hchunk : (source.drop ch.sent).take n = chunk at hok
  cases hfinished : ch.finished with
  | true =>
      unfold onMessage
      simp only [hfinished, if_true]
      refine ⟨hs, e, he, hopen, fun _ => hfin hfinished, ?_⟩
      intro hlt
      have hfull := hfin hfinished
      omega
  | false =>
      generalize hdata : bytesWithinSize e.alreadyUploadedBytes e.size chunk = data
      by_cases hnil : data = []
      · -- nothing to write: with room left the chunk was empty
        subst hnil
        unfold onMessage
        simp only [hfinished, Bool.false_eq_true, if_false, hchunk, appendUploadData, tears, he,
          hdata, if_true]
        refine ⟨hs, e, he, hopen, by simp [hsize], ?_⟩
        intro hlt htorn
        obtain rfl := bytesWithinSize_nil (by omega) hdata
        simpa using hpos hlt (by simpa using htorn)
      · have hroom : e.alreadyUploadedBytes < source.length := by
          have := room_of_bytesWithinSize (hdata ▸ hnil)
          omega
        cases hfile : e.file with
        | none =>
            unfold onMessage
            simp only [hfinished, Bool.false_eq_true, if_false, hchunk, appendUploadData, tears,
              he, hdata, hfile, if_neg hnil]
            refine ⟨hs, e, he, hopen, by simp, ?_⟩
            intro _ hfalse
            simp [hnil] at hfalse
        | some file =>
            obtain rfl := hhandle file hfile
            have hwhole : ch.torn = false → ch.sent = (content s base).length ∧
                e.alreadyUploadedBytes ≤ (content s base).length ∧ data = chunk := by
              intro htorn
              obtain ⟨hsent, halready⟩ := hpos hroom htorn
              refine ⟨hsent, halready, ?_⟩
              rw [← hdata, ← hchunk, hsize]
              exact chunk_fits hs hroom hsent halready
            have hfailed : ch.torn = true → file.failed = true := by
              intro htorn
              simpa [writes, he, hdata, hnil, hfile, hfinished] using hok htorn
            obtain ⟨finished, hmessage, hend⟩ :=
              onMessage_eq fault hfinished hchunk he hfile hdata hnil
            rw [hmessage]
            exact handed_inv hs he hopen hu hfile (landed_begins fault hs hchunk hfailed
              fun htorn => ⟨(hwhole htorn).1, (hwhole htorn).2.2⟩) hwhole (hsize ▸ hend)

theorem inv_of_no_pending {s : Store} {offer : Option StorageFileUpload}
    (hm : ∀ k, s.pending.lookup k = none) (hbegun : content s base <+: source)
    (hfinal : ∀ i, s.disk.names (finalPathOf base) = some i → s.disk.data i = source) :
    Inv source base ⟨s, offer, none⟩ := by
  have hnone : ∀ {k e}, s.pending.lookup k ≠ some e := by
    intro k e hk
    rw [hm k] at hk
    cases hk
  exact ⟨⟨fun hk => absurd hk hnone, fun hk _ => absurd hk hnone, fun hk => absurd hk hnone,
    hbegun, hfinal⟩, nofun, fun _ _ _ _ hk => absurd hk hnone⟩

theorem rename_inv {s : Store} {m c : Table UploadId PendingUpload} {n : UploadId}
    {offer : Option StorageFileUpload} (hm : ∀ k, m.lookup k = none)
    (hsource : content s base = source) {u : Nat}
    (hu : s.disk.names (uploadPathOf base) = some u) :
    Inv source base
      ⟨⟨s.disk.rename (uploadPathOf base) (finalPathOf base), m, c, n⟩, offer, none⟩ := by
  refine inv_of_no_pending hm ?_ ?_
  · simp only [content, Disk.rename, if_true]
    exact List.nil_prefix
  · intro i hi
    simp only [Disk.rename, if_neg (uploadPathOf_ne_finalPathOf base).symm, if_true, hu,
      Option.some.injEq] at hi
    subst hi
    change s.disk.data u = source
    simpa only [content, hu] using hsource

theorem close_inv {s : State} {ch : Channel} (h : Inv source base s) (hch : s.channel = some ch)
    (o : CompleteOutcome) :
    Inv source base { s with store := (completeUpload o ch.id s.store).1, channel := none } := by
  obtain ⟨e, he, hopen, -⟩ := (h.channel ch hch).active
  -- stopped early: the session stays claimed, so no channel can be opened for it
  have hclaimed : ∀ store : Store, StoreInv source base store →
      (∃ e', store.pending.lookup ch.id = some e' ∧ e'.channelOpen = true) →
      Inv source base { s with store := store, channel := none } := by
    intro store hstore ⟨e', he', hopen'⟩
    refine ⟨hstore, nofun, ?_⟩
    intro _ up _ e'' he'' hidle
    rw [← hstore.single he' he'', he'] at he''
    cases he''
    rw [hopen'] at hidle
    cases hidle
  rcases completeUpload_cases o ch.id s.store with ⟨msg, hstop⟩ |
    ⟨e', file, msg, he', hfile, hstop⟩ | ⟨e', he', hsettle⟩
  · rw [hstop]
    exact hclaimed _ h.store ⟨e, he, hopen⟩
  · rw [he] at he'
    cases he'
    rw [hstop]
    obtain ⟨-, u, hu, hhandle⟩ := h.store.handle he
    refine hclaimed _ (h.store.insert_same he rfl rfl rfl ?_) ⟨_, AList.lookup_insert _, hopen⟩
    rintro _ ⟨⟩
    rw [hu, ← hhandle file hfile]
  rw [he] at he'
  cases he'
  rw [hsettle]
  obtain ⟨hpath, hfinal, hsize⟩ := h.store.entry he
  obtain ⟨-, u, hu, -⟩ := h.store.handle he
  have herased : ∀ k, (s.store.pending.erase ch.id).lookup k = none := by
    intro k
    cases hk : (s.store.pending.erase ch.id).lookup k with
    | none => rfl
    | some e' =>
        obtain ⟨hne, hk⟩ := Table.lookup_erase_iff.mp hk
        exact absurd (h.store.single hk he) hne
  obtain ⟨hle, hsource⟩ := h.store.lenSeen o.seenAfter
  unfold settle
  rw [hpath, hfinal, hsize]
  generalize lenSeen s.store o.seenAfter (uploadPathOf base) = already at hle hsource
  by_cases heq : already = source.length
  · rw [if_pos heq]
    cases o.renamed with
    | true => exact rename_inv herased (hsource heq) hu
    | false =>
        -- the session stays, full: a channel that claims it again writes nothing
        have hfull : ∀ e' : PendingUpload, e'.alreadyUploadedBytes = already →
            ∀ up, OfferInv source base
              { s.store with pending := s.store.pending.insert ch.id e' } up := by
          intro e' hal up e'' he'' _ hlt
          rcases Table.lookup_insert_iff.mp he'' with ⟨-, rfl⟩ | ⟨hne, hk⟩
          · omega
          · exact absurd (h.store.single hk he) hne
        simp only [Bool.false_eq_true, if_false, hu]
        cases o.reopened with
        | true =>
            exact ⟨h.store.insert_same he hpath.symm hfinal.symm hsize.symm
              (fun file hf => by cases hf; exact hu), nofun, fun _ up _ => hfull _ rfl up⟩
        | false =>
            exact ⟨h.store.insert_same he hpath.symm hfinal.symm hsize.symm nofun, nofun,
              fun _ up _ => hfull _ rfl up⟩
  · rw [if_neg heq, if_neg (by omega)]
    exact inv_of_no_pending herased h.store.begun h.store.final

/-! ## Whole runs -/

theorem initial_inv {s : State} (h : Initial source base s) : Inv source base s := by
  have hempty : ∀ k, s.store.pending.lookup k = none := by
    intro k
    rw [h.pending]
    exact AList.lookup_empty k
  obtain ⟨store, offer, channel⟩ := s
  obtain rfl : channel = none := h.channel
  refine inv_of_no_pending hempty ?_ ?_
  · unfold content
    cases hname : store.disk.names (uploadPathOf base) with
    | none => exact List.nil_prefix
    | some i => exact h.begun i hname
  · intro i hi
    exact absurd (h.final.symm.trans hi) (by simp)

theorem step_inv (hbase : sanitizeFilename filename = .ok base)
    (s : State) (ev : Event) (s' : State)
    (h : Inv source base s) (hok : NoWriteAfterTear source s ev)
    (hstep : step filename source s ev = some s') : Inv source base s' := by
  cases ev with
  | start o =>
      simp only [step, hbase] at hstep
      have hspec := startStorageFileUpload_started o
        (s.store.disk.names (finalPathOf base)).isSome filename source.length s.store
      unfold Action.wp at hspec
      rcases hr : startStorageFileUpload o (s.store.disk.names (finalPathOf base)).isSome filename
        source.length s.store with ⟨store, r⟩
      rw [hr] at hstep hspec
      rcases hspec with ⟨hsame, e, he⟩ | ⟨base', hbase', -, hfinal, -, hst⟩
      · obtain rfl : r = .error e := he
        obtain rfl : store = s.store := hsame
        cases hstep
        exact h
      · rw [hbase] at hbase'
        cases hbase'
        have hinv := start_inv h (by simpa using hfinal) hst
        cases r with
        | ok up =>
            cases hstep
            exact hinv
        | error e =>
            cases hstep
            exact hinv
  | openChannel =>
      obtain ⟨store, _ | up, _ | ch⟩ := s
      · cases hstep
      · cases hstep
      · simp only [step] at hstep
        rcases claimUploadChannel_cases up.dataChannel store with
          ⟨e, hclaim⟩ | ⟨e, hlookup, hidle, hclaim⟩
        · rw [hclaim] at hstep
          cases hstep
          exact h
        · rw [hclaim] at hstep
          cases hstep
          exact claim_inv h rfl rfl hlookup hidle
      · cases hstep
  | message n fault =>
      simp only [step] at hstep
      cases hch : s.channel with
      | none => simp [hch] at hstep
      | some ch =>
          simp only [hch, Option.some.injEq] at hstep
          subst hstep
          have hmsg := message_inv fault h.store (h.channel ch hch) (hok ch hch)
          exact ⟨hmsg.1, by rintro _ ⟨⟩; exact hmsg.2, nofun⟩
  | close o =>
      simp only [step] at hstep
      cases hch : s.channel with
      | none => simp [hch] at hstep
      | some ch =>
          simp only [hch, Option.some.injEq] at hstep
          subst hstep
          exact close_inv h hch o

/-- In every run in which no channel writes after a torn append, the file under
the final name is the source, and the incomplete file is a beginning of it. -/
theorem upload_delivers_source (hbase : sanitizeFilename filename = .ok base) {s₀ s : State}
    (hinit : Initial source base s₀)
    (hrun : Run.Reach (step filename source) (NoWriteAfterTear source) s₀ s) :
    (∀ i, s.store.disk.names (finalPathOf base) = some i → s.store.disk.data i = source) ∧
      ∀ i, s.store.disk.names (uploadPathOf base) = some i → s.store.disk.data i <+: source := by
  have hinv : Inv source base s :=
    hrun.invariant (initial_inv hinit) (step_inv hbase)
  refine ⟨hinv.store.final, ?_⟩
  intro i hi
  have hbegun := hinv.store.begun
  simpa only [content, hi] using hbegun

def noWriteAfterTear (source : List UInt8) (s : State) : Event → Bool
  | .message n _ =>
      match s.channel with
      | some ch => !ch.torn || ch.finished ||
          !writes s.store ch.id ((source.drop ch.sent).take n)
      | none => true
  | _ => true

theorem noWriteAfterTear_sound (s : State) (ev : Event) (h : noWriteAfterTear source s ev = true) :
    NoWriteAfterTear source s ev := by
  cases ev with
  | message n fault =>
      intro ch hch htorn
      simp only [noWriteAfterTear, hch, htorn, Bool.not_true, Bool.false_or, Bool.or_eq_true,
        Bool.not_eq_true'] at h
      exact h
  | start o => trivial
  | openChannel => trivial
  | close o => trivial

def idle : State :=
  { store := ⟨.empty, ∅, ∅, 0⟩, offer := none, channel := none }

theorem initial_idle (source : List UInt8) (base : String) : Initial source base idle :=
  ⟨rfl, rfl, nofun, rfl, rfl⟩

/-- The write of two bytes fails after one.  The next append reports it and is lost, the
channel is closed, and a second channel sends the rest. -/
def resumedRun : List Event :=
  [.start .works, .openChannel, .message 2 (some 1), .message 1 none, .close .works,
    .start .works, .openChannel, .message 5 none, .close .works]

def tornRun : List Event :=
  [.start .works, .openChannel, .message 2 (some 1), .message 1 none, .message 1 none,
    .close .works, .start .works, .openChannel, .message 5 none, .close .works]

/-- The bytes under the final name at the end of a run. -/
def delivered (s : Option State) (base : String) : Option (List UInt8) :=
  s.bind fun s => (s.store.disk.names (finalPathOf base)).map s.store.disk.data

/-- The interrupted upload of four bytes ends with the four bytes. -/
theorem upload_delivers_source_resumed :
    ∃ s, Run.Reach (step "a.iso" [1, 2, 3, 4]) (NoWriteAfterTear [1, 2, 3, 4]) idle s ∧
      ∃ i, s.store.disk.names (finalPathOf "a.iso") = some i ∧ s.store.disk.data i = [1, 2, 3, 4] := by
  have hsome : (Run.exec (step "a.iso" [1, 2, 3, 4]) (noWriteAfterTear [1, 2, 3, 4]) idle
      resumedRun).isSome := by decide +kernel
  obtain ⟨s, hs⟩ := Option.isSome_iff_exists.mp hsome
  have hrun := Run.reach_of_exec noWriteAfterTear_sound hs
  have hfinal : ((Run.exec (step "a.iso" [1, 2, 3, 4]) (noWriteAfterTear [1, 2, 3, 4]) idle
      resumedRun).bind fun s => s.store.disk.names (finalPathOf "a.iso")).isSome := by
    decide +kernel
  rw [hs] at hfinal
  obtain ⟨i, hi⟩ := Option.isSome_iff_exists.mp hfinal
  exact ⟨s, hrun, i, hi,
    (upload_delivers_source (by decide +kernel) (initial_idle _ _) hrun).1 i hi⟩

/-- A channel that goes on after a failed write leaves a hole: the file that is
renamed has the right length and the wrong bytes. -/
theorem torn_upload_is_renamed :
    ∃ s, Run.Reach (step "a.iso" [1, 2, 3, 4]) Run.anyStep idle s ∧
      Initial [1, 2, 3, 4] "a.iso" idle ∧
      ∃ i, s.store.disk.names (finalPathOf "a.iso") = some i ∧ s.store.disk.data i = [1, 4, 3, 4] := by
  have hfinal : delivered (Run.exec (step "a.iso" [1, 2, 3, 4]) (fun _ _ => true) idle tornRun)
      "a.iso" = some [1, 4, 3, 4] := by decide +kernel
  obtain ⟨s, hs, hmap⟩ := Option.bind_eq_some_iff.mp hfinal
  obtain ⟨i, hi, hdata⟩ := Option.map_eq_some_iff.mp hmap
  exact ⟨s, Run.reach_of_exec (fun _ _ _ => trivial) hs, initial_idle _ _, i, hi, hdata⟩

end ArkKvm.Upload.Delivery
