import ArkKvm.FtUpload.Exclusive

/-!
# What writers do to the cache file

A step of a channel or of an HTTP request keeps the invariant, and while no active session owns
the cache file it changes nothing that a start relies on.
-/

namespace ArkKvm.FtUpload.Exclusive

open Lib
open Upload (Path UploadId StorageFileUpload bytesWithinSize)

variable {F C : Path} {sh sh' : Shared}

structure Still (sh sh' : Shared) : Prop where
  quiet : Quiet sh'
  disk : sh'.store.disk = sh.store.disk
  closed : sh'.store.closed = sh.store.closed
  pending : ∀ {id}, sh.store.pending.lookup id = none → sh'.store.pending.lookup id = none
  nextId : sh'.store.nextId = sh.store.nextId

theorem NoOwner.still (h : NoOwner sh) (hstill : Quiet sh → Still sh sh') : NoOwner sh' := by
  have hkept := hstill h.quiet
  rintro id e (⟨hlookup, hretired⟩ | hclosed)
  · exact hretired (hkept.quiet id e hlookup)
  · rw [hkept.closed] at hclosed
    exact h.closed hclosed

theorem Held.still {removed : Removed} (h : Held F C sh removed) (hkept : Still sh sh') :
    Held F C sh' removed where
  path := h.path
  absent htaken := hkept.pending (h.absent htaken)
  apart := h.apart
  unique := h.unique
  matched := by
    rw [hkept.disk]
    exact h.matched
  writer := h.writer
  id_lt := by
    rw [hkept.nextId]
    exact h.id_lt

theorem Waits.still {len : Int} (h : Waits sh len) (hstill : Quiet sh → Still sh sh') :
    Waits sh' len := by
  have hkept := hstill h.1
  refine ⟨hkept.quiet, ?_⟩
  rw [hkept.closed]
  exact h.2

theorem Sound.still {phase : StartPhase} (h : Sound F C sh phase)
    (hstill : Quiet sh → Still sh sh') : Sound F C sh' phase := by
  cases phase with
  | checkFinal => trivial
  | checkCache => trivial
  | sizeCache => trivial
  | checkActive len => exact fun hneg => (h hneg).still hstill
  | checkClosed len => trivial
  | take => trivial
  | seeCache removed => exact ⟨h.1.still hstill, h.2.still (hstill h.1.quiet)⟩
  | deleteCache removed => exact ⟨h.1.still hstill, h.2.still (hstill h.1.quiet)⟩
  | restore removed e => exact ⟨h.1.still hstill, h.2.still (hstill h.1.quiet)⟩
  | reopen len => exact Waits.still h hstill
  | resume len w =>
      refine ⟨h.1.still hstill, ?_⟩
      rw [(hstill h.1.1).disk]
      exact h.2
  | createEmpty => exact NoOwner.still h hstill
  | openWriter => exact NoOwner.still h hstill
  | enter w =>
      refine ⟨h.1.still hstill, ?_⟩
      rw [(hstill h.1.quiet).disk]
      exact h.2

structure WriterKeeps (F C : Path) (sh sh' : Shared) : Prop where
  inv : Inv F C sh'
  still : Quiet sh → Still sh sh'

theorem WriterKeeps.refl (h : Inv F C sh) : WriterKeeps F C sh sh :=
  ⟨h, fun hquiet => ⟨hquiet, rfl, rfl, id, rfl⟩⟩

theorem WriterKeeps.trans {sh'' : Shared} (h : WriterKeeps F C sh sh')
    (h' : WriterKeeps F C sh' sh'') : WriterKeeps F C sh sh'' := by
  refine ⟨h'.inv, fun hquiet => ?_⟩
  have h₁ := h.still hquiet
  have h₂ := h'.still h₁.quiet
  exact ⟨h₂.quiet, h₂.disk.trans h₁.disk, h₂.closed.trans h₁.closed,
    fun habsent => h₂.pending (h₁.pending habsent), h₂.nextId.trans h₁.nextId⟩

/-! ## Changes by a writer -/

theorem keeps_modify (h : Inv F C sh) {id : UploadId} {e : FtPendingUpload} (e' : FtPendingUpload)
    (hlookup : sh.store.pending.lookup id = some e)
    (hsame : { e' with channelOpen := e.channelOpen, writer := e.writer } = e)
    (hwriter : e'.writer = e.writer ∨ (e'.writer = none ∧ sh.appending = none)) :
    WriterKeeps F C sh
      (sh.withStore { sh.store with pending := sh.store.pending.insert id e' }) := by
  have hpath : e'.uploadPath = e.uploadPath ∧ e'.finalPath = e.finalPath := by
    rw [← hsame]
    exact ⟨rfl, rfl⟩
  have hcounter : e'.size = e.size ∧ e'.alreadyUploadedBytes = e.alreadyUploadedBytes := by
    rw [← hsame]
    exact ⟨rfl, rfl⟩
  have hold : ∀ {k e₁}, (sh.store.pending.insert id e').lookup k = some e₁ →
      ∃ e₀, sh.store.pending.lookup k = some e₀ ∧ (k = id ∧ e₀ = e ∧ e₁ = e' ∨ e₁ = e₀) := by
    intro k e₁ hk
    rcases Table.lookup_insert_iff.mp hk with ⟨rfl, rfl⟩ | ⟨-, hk⟩
    · exact ⟨e, hlookup, .inl ⟨rfl, rfl, rfl⟩⟩
    · exact ⟨e₁, hk, .inr rfl⟩
  have howner : ∀ {k e₁},
      Owner (sh.withStore { sh.store with pending := sh.store.pending.insert id e' }) k e₁ →
      ∃ e₀, Owner sh k e₀ ∧ e₁.alreadyUploadedBytes = e₀.alreadyUploadedBytes := by
    rintro k e₁ (⟨hk, hretired⟩ | hk)
    · obtain ⟨e₀, hprev, ⟨rfl, rfl, rfl⟩ | rfl⟩ := hold hk
      · exact ⟨e₀, .inl ⟨hprev, hretired⟩, hcounter.2⟩
      · exact ⟨e₁, .inl ⟨hprev, hretired⟩, rfl⟩
    · exact ⟨e₁, .inr hk, rfl⟩
  refine ⟨?_, fun hquiet => ⟨?_, rfl, rfl, ?_, rfl⟩⟩
  · constructor
    · rintro k e₁ (hk | hk)
      · obtain ⟨e₀, hprev, ⟨rfl, rfl, rfl⟩ | rfl⟩ := hold hk
        · rw [hpath.1, hpath.2]
          exact h.path (.inl hprev)
        · exact h.path (.inl hprev)
      · exact h.path (.inr hk)
    · intro k e₁ hk
      have habsent := h.apart hk
      refine (AList.lookup_insert_ne ?_).trans habsent
      rintro rfl
      rw [hlookup] at habsent
      cases habsent
    · intro k k' e₁ e₂ hk hk'
      obtain ⟨e₁', howner₁, -⟩ := howner hk
      obtain ⟨e₂', howner₂, -⟩ := howner hk'
      exact h.unique howner₁ howner₂
    · intro k e₁ hk
      obtain ⟨e₀, howner₀, halready⟩ := howner hk
      rw [halready]
      exact h.matched howner₀
    · intro k e₁ w hk hw
      obtain ⟨e₀, hprev, ⟨rfl, rfl, rfl⟩ | rfl⟩ := hold hk
      · rcases hwriter with hkept | ⟨hnone, -⟩
        · rw [hcounter.2]
          exact h.synced hprev (hkept.symm.trans hw)
        · rw [hnone] at hw
          cases hw
      · exact h.synced hprev hw
    · intro w wr hw hstage
      obtain ⟨e₀, hk, hnone, hfull⟩ := h.finishing hw hstage
      by_cases hid : wr.id = id
      · rw [hid] at hk ⊢
        cases hlookup.symm.trans hk
        refine ⟨e', AList.lookup_insert _, ?_, ?_⟩
        · rcases hwriter with hkept | ⟨hnone', -⟩
          · exact hkept.trans hnone
          · exact hnone'
        · rw [hcounter.1, hcounter.2]
          exact hfull
      · exact ⟨e₀, (AList.lookup_insert_ne hid).trans hk, hnone, hfull⟩
    · exact h.alone
    · intro a ha
      obtain ⟨e₀, w, hk, hw, hclean⟩ := h.appending ha
      by_cases hid : a.id = id
      · rw [hid] at hk ⊢
        cases hlookup.symm.trans hk
        rcases hwriter with hkept | ⟨-, hfree⟩
        · exact ⟨e', w, AList.lookup_insert _, hkept.trans hw, hclean⟩
        · rw [show sh.appending = some a from ha] at hfree
          cases hfree
      · exact ⟨e₀, w, (AList.lookup_insert_ne hid).trans hk, hw, hclean⟩
    · intro k e₁ hk
      obtain ⟨e₀, hk, -⟩ := hold hk
      exact h.pendingId hk
    · exact h.closedId
    · exact h.writerKey
  · intro k e₁ hk
    obtain ⟨e₀, hk, -⟩ := hold hk
    exact hquiet k e₀ hk
  · intro k habsent
    refine (AList.lookup_insert_ne ?_).trans habsent
    rintro rfl
    rw [hlookup] at habsent
    cases habsent

theorem keeps_addWriter (h : Inv F C sh) (id : UploadId) :
    WriterKeeps F C sh (sh.addWriter sh.store id) := by
  have hold : ∀ {w wr}, (sh.writers.insert sh.nextWriter ⟨id, .writing⟩).lookup w = some wr →
      wr.stage = .writing ∨ sh.writers.lookup w = some wr := by
    intro w wr hw
    rcases Table.lookup_insert_iff.mp hw with ⟨-, rfl⟩ | ⟨-, hw⟩
    · exact .inl rfl
    · exact .inr hw
  have hretired : ∀ {k}, Retired sh k → Retired (sh.addWriter sh.store id) k := by
    rintro k ⟨w, wr, hw, hid, hstage⟩
    refine ⟨w, wr, Table.lookup_insert_iff.mpr (.inr ⟨?_, hw⟩), hid, hstage⟩
    exact Nat.ne_of_lt (h.writerKey hw)
  have howner : ∀ {k e}, Owner (sh.addWriter sh.store id) k e → Owner sh k e := by
    rintro k e (⟨hk, hnot⟩ | hk)
    · exact .inl ⟨hk, fun hret => hnot (hretired hret)⟩
    · exact .inr hk
  refine ⟨?_, fun hquiet => ⟨fun k e hk => hretired (hquiet k e hk), rfl, rfl, fun hk => hk, rfl⟩⟩
  constructor
  · exact h.path
  · exact h.apart
  · exact fun h₁ h₂ => h.unique (howner h₁) (howner h₂)
  · exact fun hk => h.matched (howner hk)
  · exact h.synced
  · intro w wr hw hstage
    rcases hold hw with hnew | hw
    · rw [hnew] at hstage
      cases hstage
    · exact h.finishing hw hstage
  · intro w w' wr wr' hw hstage hw' hid hne
    rcases hold hw with hnew | hw
    · rw [hnew] at hstage
      cases hstage
    · rcases hold hw' with hnew | hw'
      · exact hnew
      · exact h.alone hw hstage hw' hid hne
  · exact h.appending
  · exact h.pendingId
  · exact h.closedId
  · intro w wr hw
    rcases Table.lookup_insert_iff.mp hw with ⟨rfl, -⟩ | ⟨-, hw⟩
    · exact Nat.lt_succ_self _
    · exact Nat.lt_succ_of_lt (h.writerKey hw)

/-! ## Appending -/

theorem beginAppend_some {id : UploadId} {data : List UInt8} {s : Store} {a : Append}
    (hbegin : beginAppend id data s = some a) :
    a.id = id ∧ a.written = 0 ∧ ∃ e w, s.pending.lookup id = some e ∧ e.writer = some w := by
  unfold beginAppend at hbegin
  cases hlookup : s.pending.lookup id with
  | none =>
      rw [hlookup] at hbegin
      cases hbegin
  | some e =>
      rw [hlookup] at hbegin
      dsimp only at hbegin
      split at hbegin
      · cases hbegin
      · next hready =>
          cases hbegin
          obtain ⟨w, hwriter⟩ := Option.ne_none_iff_exists'.mp (not_or.mp hready).2
          exact ⟨rfl, rfl, e, w, rfl, hwriter⟩

theorem keeps_begin (h : Inv F C sh) (hfree : sh.appending = none) (id : UploadId)
    (data : List UInt8) :
    WriterKeeps F C sh { sh with appending := beginAppend id data sh.store } := by
  have hahead : ∀ k,
      Shared.ahead { sh with appending := beginAppend id data sh.store } k = sh.ahead k := by
    intro k
    rw [Shared.ahead_of_none hfree]
    unfold Shared.ahead
    dsimp only
    cases hbegin : beginAppend id data sh.store with
    | none => rfl
    | some a =>
        obtain ⟨-, hzero, -⟩ := beginAppend_some hbegin
        dsimp only
        rw [hzero, ite_self]
  refine ⟨?_, fun hquiet => ⟨hquiet, rfl, rfl, fun hk => hk, rfl⟩⟩
  refine ⟨h.path, h.apart, h.unique, ?_, h.synced, h.finishing, h.alone, ?_, h.pendingId,
    h.closedId, h.writerKey⟩
  · intro k e howner
    rw [hahead]
    exact h.matched howner
  · intro a ha
    obtain ⟨hid, hzero, e, w, hlookup, hwriter⟩ := beginAppend_some ha
    rw [hid]
    exact ⟨e, w, hlookup, hwriter, fun _ => hzero⟩

theorem keeps_fail (h : Inv F C sh) {a : Append} (ha : sh.appending = some a)
    (hnothing : a.written = 0) : WriterKeeps F C sh { sh with appending := none } := by
  have hahead : ∀ k, sh.ahead k = 0 := by
    intro k
    unfold Shared.ahead
    rw [ha]
    dsimp only
    rw [hnothing, ite_self]
  refine ⟨?_, fun hquiet => ⟨hquiet, rfl, rfl, fun hk => hk, rfl⟩⟩
  refine ⟨h.path, h.apart, h.unique, ?_, h.synced, h.finishing, h.alone, nofun, h.pendingId,
    h.closedId, h.writerKey⟩
  intro k e howner
  have hmatched := h.matched howner
  rw [hahead] at hmatched
  exact hmatched

section Appending

variable {a : Append} {e : FtPendingUpload} {w : AsyncFileWriter}

theorem Shared.ahead_self (ha : sh.appending = some a) : sh.ahead a.id = a.written := by
  unfold Shared.ahead
  rw [ha]
  exact if_pos rfl

/-- The session of the append is the owner of the file, and the writer stands at its end. -/
theorem Inv.append_position (h : Inv F C sh) (ha : sh.appending = some a)
    (hlookup : sh.store.pending.lookup a.id = some e) (hwriter : e.writer = some w) :
    sh.store.disk.names C = some w.inode ∧ w.currentPosition + a.written =
      (sh.store.disk.data w.inode).length := by
  obtain ⟨hname, hposition⟩ := h.synced hlookup hwriter
  obtain ⟨i, hi, hlen⟩ := h.matched (h.owner_of_writer hlookup hwriter)
  cases hname.symm.trans hi
  rw [Shared.ahead_self ha] at hlen
  exact ⟨hname, by omega⟩

theorem keeps_write (h : Inv F C sh) (ha : sh.appending = some a) {n : Nat}
    (hn : n ≤ a.rest.length) (hclean : sh.store.refuses a.id = false) :
    WriterKeeps F C sh { sh with
      store := writePiece a n sh.store
      appending := some { a with rest := a.rest.drop n, written := a.written + n } } := by
  obtain ⟨e, w, hlookup, hwriter, -⟩ := h.appending ha
  obtain ⟨hname, hend⟩ := h.append_position ha hlookup hwriter
  have howner := h.owner_of_writer hlookup hwriter
  have hpiece : writePiece a n sh.store = { sh.store with
      disk := AsyncFileWriter.put { w with currentPosition := w.currentPosition + a.written }
        (a.rest.take n) sh.store.disk } := by
    unfold writePiece
    rw [hlookup, Option.bind_some, hwriter]
  have htarget : target { w with currentPosition := w.currentPosition + a.written }
      (sh.store.disk.data w.inode) = (sh.store.disk.data w.inode).length := by
    unfold target
    split
    · rfl
    · exact hend
  have hlen : ((AsyncFileWriter.put { w with currentPosition := w.currentPosition + a.written }
      (a.rest.take n) sh.store.disk).data w.inode).length =
        (sh.store.disk.data w.inode).length + n := by
    rw [put_data _ (Nat.le_of_eq htarget)]
    show (writeAt (sh.store.disk.data w.inode) _ _).length = _
    rw [htarget, length_writeAt (Nat.le_refl _), List.length_take, Nat.min_eq_left hn]
    exact Nat.max_eq_right (Nat.le_add_right _ _)
  rw [hpiece]
  refine ⟨?_, fun hquiet => absurd hwriter (h.no_writer hquiet hlookup)⟩
  refine ⟨h.path, h.apart, h.unique, ?_, ?_, h.finishing, h.alone, ?_, h.pendingId,
    h.closedId, h.writerKey⟩
  · intro k e' hown
    obtain rfl := h.unique howner hown
    obtain ⟨i, hi, hmatched⟩ := h.matched hown
    cases hname.symm.trans hi
    rw [Shared.ahead_self ha] at hmatched
    refine ⟨w.inode, (congrFun (put_names _ _ _) C).trans hname, ?_⟩
    show (((AsyncFileWriter.put _ _ _).data w.inode).length : Int) =
      _ + ((if a.id = a.id then a.written + n else 0 : Nat) : Int)
    rw [hlen, if_pos rfl]
    omega
  · intro k e' w' hk hw'
    obtain ⟨hname', hposition⟩ := h.synced hk hw'
    exact ⟨(congrFun (put_names _ _ _) C).trans hname', hposition⟩
  · rintro _ ⟨⟩
    refine ⟨e, w, hlookup, hwriter, fun hfailed => ?_⟩
    rw [refuses_eq hlookup hwriter, hfailed] at hclean
    cases hclean

def advanced (e : FtPendingUpload) (w : AsyncFileWriter) (n : Nat) (failed : Bool) :
    FtPendingUpload :=
  { e with
    writer := some { w with currentPosition := w.currentPosition + n, failed := failed }
    alreadyUploadedBytes := e.alreadyUploadedBytes + n }

theorem endAppend_eq (hlookup : sh.store.pending.lookup a.id = some e)
    (hwriter : e.writer = some w) (hclean : w.failed = true → a.written = 0)
    (hwhole : a.rest = [] ∨ sh.store.refuses a.id = true ∨
      (a.written = 0 ∧ WriteBehind.maxBufSize < a.rest.length)) :
    ∃ failed, endAppend a sh.store = { sh.store with
      pending := sh.store.pending.insert a.id (advanced e w a.written failed) } := by
  have hwrote : ∀ len handed, (if WriteBehind.Handed.taken handed then len else 0) = a.written →
      e.wrote len handed = advanced e w a.written handed.deferred := by
    intro len handed hmoved
    unfold FtPendingUpload.wrote advanced
    rw [hmoved, hwriter]
    rfl
  unfold endAppend
  rw [hlookup, refuses_eq hlookup hwriter]
  dsimp only
  refine ⟨_, congrArg (fun e' : FtPendingUpload =>
    { sh.store with pending := sh.store.pending.insert a.id e' }) (hwrote _ _ ?_)⟩
  cases hfailed : w.failed with
  | true =>
      rw [hclean hfailed]
      rfl
  | false =>
      rcases hwhole with hrest | hrefuses | ⟨hzero, hlong⟩
      · rw [hrest, List.length_nil, Nat.add_zero, WriteBehind.handOver_of_le (Nat.le_refl _)]
        rfl
      · rw [refuses_eq hlookup hwriter, hfailed] at hrefuses
        cases hrefuses
      · have hreported : WriteBehind.handOver false (0 + a.rest.length) (some 0) =
            .reported 0 := by
          rw [WriteBehind.handOver_of_lt (by omega), Nat.zero_add]
          exact if_neg (by simpa using hlong)
        rw [hzero, hreported]
        rfl

theorem keeps_end (h : Inv F C sh) (ha : sh.appending = some a)
    (hwhole : a.rest = [] ∨ sh.store.refuses a.id = true ∨
      (a.written = 0 ∧ WriteBehind.maxBufSize < a.rest.length)) :
    WriterKeeps F C sh { sh with store := endAppend a sh.store, appending := none } := by
  obtain ⟨e, w, hlookup, hwriter, hclean⟩ := h.appending ha
  have howner := h.owner_of_writer hlookup hwriter
  obtain ⟨failed, hended⟩ := endAppend_eq hlookup hwriter hclean hwhole
  rw [hended]
  refine ⟨?_, fun hquiet => absurd hwriter (h.no_writer hquiet hlookup)⟩
  -- whoever owns the file afterwards is the session of the append
  have hold : ∀ {k e'}, Owner { sh with
      store := { sh.store with
        pending := sh.store.pending.insert a.id (advanced e w a.written failed) }
      appending := none } k e' →
      k = a.id ∧ e'.alreadyUploadedBytes = e.alreadyUploadedBytes + a.written := by
    rintro k e' (⟨hk, hretired⟩ | hk)
    · rcases Table.lookup_insert_iff.mp hk with ⟨rfl, rfl⟩ | ⟨hne, hprev⟩
      · exact ⟨rfl, rfl⟩
      · exact absurd (h.unique (.inl ⟨hprev, hretired⟩) howner) hne
    · obtain rfl := h.unique (.inr hk) howner
      rw [h.apart hk] at hlookup
      cases hlookup
  obtain ⟨hname, hposition⟩ := h.synced hlookup hwriter
  constructor
  · rintro k e' (hk | hk)
    · rcases Table.lookup_insert_iff.mp hk with ⟨rfl, rfl⟩ | ⟨-, hprev⟩
      · have hpath := h.path (.inl hlookup)
        exact hpath
      · exact h.path (.inl hprev)
    · exact h.path (.inr hk)
  · intro k e' hk
    have habsent := h.apart hk
    refine (AList.lookup_insert_ne ?_).trans habsent
    rintro rfl
    rw [hlookup] at habsent
    cases habsent
  · exact fun h₁ h₂ => (hold h₁).1.trans (hold h₂).1.symm
  · intro k e' hown
    obtain ⟨rfl, halready⟩ := hold hown
    obtain ⟨i, hi, hmatched⟩ := h.matched howner
    rw [Shared.ahead_self ha] at hmatched
    refine ⟨i, hi, ?_⟩
    rw [halready, Shared.ahead_of_none rfl]
    simpa using hmatched
  · intro k e' w' hk hw'
    rcases Table.lookup_insert_iff.mp hk with ⟨rfl, rfl⟩ | ⟨-, hprev⟩
    · cases hw'
      refine ⟨hname, ?_⟩
      show ((w.currentPosition + a.written : Nat) : Int) = e.alreadyUploadedBytes + a.written
      omega
    · exact h.synced hprev hw'
  · intro v vr hv hstage
    obtain ⟨e', hk, hnone, hfull⟩ := h.finishing hv hstage
    refine ⟨e', Table.lookup_insert_iff.mpr (.inr ⟨?_, hk⟩), hnone, hfull⟩
    intro hid
    rw [hid] at hk
    cases hlookup.symm.trans hk
    rw [hwriter] at hnone
    cases hnone
  · exact h.alone
  · nofun
  · intro k e' hk
    rcases Table.lookup_insert_iff.mp hk with ⟨rfl, -⟩ | ⟨-, hprev⟩
    · exact h.pendingId hlookup
    · exact h.pendingId hprev
  · exact h.closedId
  · exact h.writerKey

end Appending

/-! ## Completing -/

section Completing

variable {w : Nat} {wr : Writer}

theorem keeps_stage (h : Inv F C sh) (hw : sh.writers.lookup w = some wr) {stage : WriterStage}
    (hretires : wr.stage.retires = true → stage.retires = true)
    (hothers : ∀ v vr, sh.writers.lookup v = some vr → vr.id = wr.id → v ≠ w →
      vr.stage.finishing = false)
    (hfinishing : stage.finishing = true →
      (∃ e, sh.store.pending.lookup wr.id = some e ∧ e.writer = none ∧
        e.size ≤ e.alreadyUploadedBytes) ∧
      ∀ v vr, sh.writers.lookup v = some vr → vr.id = wr.id → v ≠ w → vr.stage = .writing) :
    WriterKeeps F C sh
      { sh with writers := sh.writers.insert w { wr with stage := stage } } := by
  have hretired : ∀ {k}, Retired sh k →
      Retired { sh with writers := sh.writers.insert w { wr with stage := stage } } k := by
    rintro k ⟨v, vr, hv, hid, hstage⟩
    by_cases hvw : v = w
    · subst hvw
      cases hw.symm.trans hv
      exact ⟨v, _, AList.lookup_insert _, hid, hretires hstage⟩
    · exact ⟨v, vr, (AList.lookup_insert_ne hvw).trans hv, hid, hstage⟩
  have howner : ∀ {k e},
      Owner { sh with writers := sh.writers.insert w { wr with stage := stage } } k e →
      Owner sh k e := by
    rintro k e (⟨hk, hnot⟩ | hk)
    · exact .inl ⟨hk, fun hret => hnot (hretired hret)⟩
    · exact .inr hk
  refine ⟨?_, fun hquiet => ⟨fun k e hk => hretired (hquiet k e hk), rfl, rfl, fun hk => hk, rfl⟩⟩
  refine ⟨h.path, h.apart, fun h₁ h₂ => h.unique (howner h₁) (howner h₂),
    fun hk => h.matched (howner hk), h.synced, ?_, ?_, h.appending, h.pendingId, h.closedId, ?_⟩
  · intro v vr hv hstage
    rcases Table.lookup_insert_iff.mp hv with ⟨-, rfl⟩ | ⟨-, hv⟩
    · exact (hfinishing hstage).1
    · exact h.finishing hv hstage
  · intro v v' vr vr' hv hstage hv' hid hne
    rcases Table.lookup_insert_iff.mp hv with ⟨rfl, rfl⟩ | ⟨hvw, hprev⟩
    · rcases Table.lookup_insert_iff.mp hv' with ⟨heq, -⟩ | ⟨-, hprev'⟩
      · exact absurd heq hne
      · exact (hfinishing hstage).2 v' vr' hprev' hid hne
    · rcases Table.lookup_insert_iff.mp hv' with ⟨rfl, rfl⟩ | ⟨-, hprev'⟩
      · rw [hothers v vr hprev hid.symm hvw] at hstage
        cases hstage
      · exact h.alone hprev hstage hprev' hid hne
  · intro v vr hv
    rcases Table.lookup_insert_iff.mp hv with ⟨rfl, -⟩ | ⟨-, hv⟩
    · exact h.writerKey hw
    · exact h.writerKey hv

/-- A writer ends without a session whose cache file it had taken away. -/
theorem keeps_drop (h : Inv F C sh) (hw : sh.writers.lookup w = some wr)
    (hretires : ∀ e, sh.store.pending.lookup wr.id = some e → wr.stage.retires = false) :
    WriterKeeps F C sh { sh with writers := sh.writers.erase w } := by
  have hretired : ∀ {k e}, sh.store.pending.lookup k = some e → Retired sh k →
      Retired { sh with writers := sh.writers.erase w } k := by
    rintro k e hk ⟨v, vr, hv, rfl, hstage⟩
    refine ⟨v, vr, Table.lookup_erase_iff.mpr ⟨?_, hv⟩, rfl, hstage⟩
    rintro rfl
    cases hw.symm.trans hv
    rw [hretires e hk] at hstage
    cases hstage
  have howner : ∀ {k e}, Owner { sh with writers := sh.writers.erase w } k e →
      Owner sh k e := by
    rintro k e (⟨hk, hnot⟩ | hk)
    · exact .inl ⟨hk, fun hret => hnot (hretired hk hret)⟩
    · exact .inr hk
  refine ⟨?_, fun hquiet =>
    ⟨fun k e hk => hretired hk (hquiet k e hk), rfl, rfl, fun hk => hk, rfl⟩⟩
  refine ⟨h.path, h.apart, fun h₁ h₂ => h.unique (howner h₁) (howner h₂),
    fun hk => h.matched (howner hk), h.synced, ?_, ?_, h.appending, h.pendingId, h.closedId, ?_⟩
  · exact fun hv hstage => h.finishing (Table.lookup_erase_iff.mp hv).2 hstage
  · exact fun hv hstage hv' hid hne => h.alone (Table.lookup_erase_iff.mp hv).2 hstage
      (Table.lookup_erase_iff.mp hv').2 hid hne
  · exact fun hv => h.writerKey (Table.lookup_erase_iff.mp hv).2

theorem keeps_erase (h : Inv F C sh) (hw : sh.writers.lookup w = some wr)
    (hretires : wr.stage.retires = true) :
    WriterKeeps F C sh { sh with
      store := { sh.store with pending := sh.store.pending.erase wr.id }
      writers := sh.writers.erase w } := by
  have hstage := WriterStage.finishing_of_retires hretires
  have hretired : ∀ {k}, k ≠ wr.id → Retired sh k → Retired { sh with
      store := { sh.store with pending := sh.store.pending.erase wr.id }
      writers := sh.writers.erase w } k := by
    rintro k hne ⟨v, vr, hv, rfl, hret⟩
    refine ⟨v, vr, Table.lookup_erase_iff.mpr ⟨?_, hv⟩, rfl, hret⟩
    rintro rfl
    cases hw.symm.trans hv
    exact hne rfl
  have howner : ∀ {k e}, Owner { sh with
      store := { sh.store with pending := sh.store.pending.erase wr.id }
      writers := sh.writers.erase w } k e → Owner sh k e := by
    rintro k e (⟨hk, hnot⟩ | hk)
    · obtain ⟨hne, hk⟩ := Table.lookup_erase_iff.mp hk
      exact .inl ⟨hk, fun hret => hnot (hretired hne hret)⟩
    · exact .inr hk
  refine ⟨?_, fun hquiet => ⟨?_, rfl, rfl, ?_, rfl⟩⟩
  · constructor
    · rintro k e (hk | hk)
      · exact h.path (.inl (Table.lookup_erase_iff.mp hk).2)
      · exact h.path (.inr hk)
    · intro k e hk
      rw [Option.eq_none_iff_forall_not_mem]
      intro e' hk'
      obtain ⟨-, hprev⟩ := Table.lookup_erase_iff.mp hk'
      rw [h.apart hk] at hprev
      cases hprev
    · exact fun h₁ h₂ => h.unique (howner h₁) (howner h₂)
    · exact fun hk => h.matched (howner hk)
    · exact fun hk => h.synced (Table.lookup_erase_iff.mp hk).2
    · intro v vr hv hfin
      obtain ⟨hne, hv⟩ := Table.lookup_erase_iff.mp hv
      obtain ⟨e, hk, hrest⟩ := h.finishing hv hfin
      refine ⟨e, Table.lookup_erase_iff.mpr ⟨?_, hk⟩, hrest⟩
      intro hid
      rw [h.alone hw hstage hv hid hne] at hfin
      cases hfin
    · exact fun hv hfin hv' hid hne => h.alone (Table.lookup_erase_iff.mp hv).2 hfin
        (Table.lookup_erase_iff.mp hv').2 hid hne
    · intro a ha
      obtain ⟨e, wt, hk, hwriter, hclean⟩ := h.appending ha
      refine ⟨e, wt, Table.lookup_erase_iff.mpr ⟨?_, hk⟩, hwriter, hclean⟩
      intro hid
      obtain ⟨e', hk', hnone, -⟩ := h.finishing hw hstage
      rw [← hid] at hk'
      cases hk.symm.trans hk'
      rw [hwriter] at hnone
      cases hnone
    · exact fun hk => h.pendingId (Table.lookup_erase_iff.mp hk).2
    · exact h.closedId
    · exact fun hv => h.writerKey (Table.lookup_erase_iff.mp hv).2
  · intro k e hk
    obtain ⟨hne, hk⟩ := Table.lookup_erase_iff.mp hk
    exact hretired hne (hquiet k e hk)
  · intro k habsent
    rw [Option.eq_none_iff_forall_not_mem]
    intro e hk
    obtain ⟨-, hk⟩ := Table.lookup_erase_iff.mp hk
    rw [habsent] at hk
    cases hk

theorem keeps_close (h : Inv F C sh) (hfree : sh.appending = none)
    (hw : sh.writers.lookup w = some wr) {e e' : FtPendingUpload}
    (hlookup : sh.store.pending.lookup wr.id = some e) (hretired : ¬ Retired sh wr.id)
    (hothers : ∀ v vr, sh.writers.lookup v = some vr → vr.id = wr.id → v ≠ w →
      vr.stage.finishing = false)
    (hsame : { e' with channelOpen := e.channelOpen, writer := e.writer } = e) :
    WriterKeeps F C sh { sh with
      store := { sh.store with
        pending := sh.store.pending.erase wr.id
        closed := sh.store.closed.insert wr.id e' }
      writers := sh.writers.erase w } := by
  have hclosing : Owner sh wr.id e := .inl ⟨hlookup, hretired⟩
  have hnone : ∀ {k e₁}, sh.store.closed.lookup k ≠ some e₁ := by
    intro k e₁ hk
    obtain rfl := h.unique (.inr hk) hclosing
    rw [h.apart hk] at hlookup
    cases hlookup
  have hclosed : ∀ {k e₁}, (sh.store.closed.insert wr.id e').lookup k = some e₁ →
      k = wr.id ∧ e₁ = e' := by
    intro k e₁ hk
    rcases Table.lookup_insert_iff.mp hk with hnew | ⟨-, hprev⟩
    · exact hnew
    · exact absurd hprev hnone
  have howner : ∀ {k e₁}, Owner { sh with
      store := { sh.store with
        pending := sh.store.pending.erase wr.id
        closed := sh.store.closed.insert wr.id e' }
      writers := sh.writers.erase w } k e₁ → k = wr.id ∧ e₁ = e' := by
    rintro k e₁ (⟨hk, hnot⟩ | hk)
    · obtain ⟨hne, hk⟩ := Table.lookup_erase_iff.mp hk
      refine absurd (h.unique (.inl ⟨hk, fun hret => hnot ?_⟩) hclosing) hne
      obtain ⟨v, vr, hv, rfl, hstage⟩ := hret
      refine ⟨v, vr, Table.lookup_erase_iff.mpr ⟨?_, hv⟩, rfl, hstage⟩
      rintro rfl
      cases hw.symm.trans hv
      exact hne rfl
    · exact hclosed hk
  have hpath : e'.uploadPath = e.uploadPath ∧ e'.finalPath = e.finalPath ∧
      e'.alreadyUploadedBytes = e.alreadyUploadedBytes := by
    rw [← hsame]
    exact ⟨rfl, rfl, rfl⟩
  refine ⟨?_, fun hquiet => absurd (hquiet _ _ hlookup) hretired⟩
  constructor
  · rintro k e₁ (hk | hk)
    · exact h.path (.inl (Table.lookup_erase_iff.mp hk).2)
    · obtain ⟨-, rfl⟩ := hclosed hk
      rw [hpath.1, hpath.2.1]
      exact h.path (.inl hlookup)
  · intro k e₁ hk
    obtain ⟨rfl, -⟩ := hclosed hk
    exact AList.lookup_erase _ _
  · exact fun h₁ h₂ => (howner h₁).1.trans (howner h₂).1.symm
  · intro k e₁ hk
    obtain ⟨rfl, rfl⟩ := howner hk
    obtain ⟨i, hi, hlen⟩ := h.matched hclosing
    refine ⟨i, hi, ?_⟩
    rw [hpath.2.2]
    exact hlen
  · exact fun hk => h.synced (Table.lookup_erase_iff.mp hk).2
  · intro v vr hv hstage
    obtain ⟨hne, hv⟩ := Table.lookup_erase_iff.mp hv
    obtain ⟨e₁, hk, hrest⟩ := h.finishing hv hstage
    refine ⟨e₁, Table.lookup_erase_iff.mpr ⟨?_, hk⟩, hrest⟩
    intro hid
    rw [hothers v vr hv hid hne] at hstage
    cases hstage
  · exact fun hv hstage hv' hid hne => h.alone (Table.lookup_erase_iff.mp hv).2 hstage
      (Table.lookup_erase_iff.mp hv').2 hid hne
  · intro a ha
    rw [show sh.appending = some a from ha] at hfree
    cases hfree
  · exact fun hk => h.pendingId (Table.lookup_erase_iff.mp hk).2
  · intro k e₁ hk
    obtain ⟨rfl, -⟩ := hclosed hk
    exact h.pendingId hlookup
  · exact fun hv => h.writerKey (Table.lookup_erase_iff.mp hv).2

end Completing

/-! ## One step of a completion -/

section Complete

variable {w : Nat} {wr : Writer} {o : CompleteOutcome}

theorem Inv.others_not_finishing (h : Inv F C sh) (hw : sh.writers.lookup w = some wr)
    (hstage : wr.stage ≠ .writing) :
    ∀ v vr, sh.writers.lookup v = some vr → vr.id = wr.id → v ≠ w →
      vr.stage.finishing = false := by
  intro v vr hv hid hne
  by_contra hfinishing
  exact hstage (h.alone hv (Bool.eq_true_of_not_eq_false hfinishing) hw hid.symm hne.symm)

theorem Inv.not_retired (h : Inv F C sh) (hw : sh.writers.lookup w = some wr)
    (hstage : wr.stage ≠ .writing) (hretires : wr.stage.retires = false) :
    ¬ Retired sh wr.id := by
  rintro ⟨v, vr, hv, hid, hret⟩
  by_cases hvw : v = w
  · subst hvw
    cases hw.symm.trans hv
    rw [hretires] at hret
    cases hret
  · have hfinishing := h.others_not_finishing hw hstage v vr hv hid hvw
    rw [WriterStage.finishing_of_retires hret] at hfinishing
    cases hfinishing

theorem keeps_finishing (h : Inv F C sh) (hw : sh.writers.lookup w = some wr)
    (hstage : wr.stage.finishing = true) {stage : WriterStage}
    (hretires : wr.stage.retires = true → stage.retires = true) :
    WriterKeeps F C sh
      { sh with writers := sh.writers.insert w { wr with stage := stage } } := by
  have hne : wr.stage ≠ .writing := by
    intro heq
    rw [heq] at hstage
    cases hstage
  refine keeps_stage h hw hretires (h.others_not_finishing hw hne) fun _ => ?_
  exact ⟨h.finishing hw hstage, fun v vr hv hid hvw => h.alone hw hstage hv hid hvw⟩

theorem completeNext_writing (h : Inv F C sh) (hw : sh.writers.lookup w = some wr)
    (hstage : wr.stage = .writing) (hfree : sh.appending = none)
    (hok : WriterApart sh (.complete w o)) :
    Action.wp (completeNext o wr.id .writing)
      (fun r store => WriterKeeps F C sh (sh.afterComplete w wr store r)) sh.store := by
  have hretires : wr.stage.retires = false := by
    rw [hstage]
    rfl
  unfold completeNext
  cases hlookup : sh.store.pending.lookup wr.id with
  | none =>
      refine Action.wp_of_run_error (completeFlush_of_absent hlookup) ?_
      exact keeps_drop h hw fun _ _ => hretires
  | some e =>
      by_cases hflush : e.writer ≠ none ∧ o.flushed = false
      · refine Action.wp_of_run_error (completeFlush_of_fails hlookup hflush) ?_
        have hmodify := keeps_modify h { e with channelOpen := false } hlookup rfl
          (.inl rfl)
        exact hmodify.trans (keeps_drop hmodify.inv hw fun _ _ => hretires)
      · refine Action.wp_of_run_ok (completeFlush_of_works hlookup hflush) ?_
        have hmodify := keeps_modify h { e with writer := none } hlookup rfl
          (.inr ⟨rfl, hfree⟩)
        refine hmodify.trans ?_
        by_cases hfull : e.size ≤ e.alreadyUploadedBytes
        · have halone := hok wr e hw hstage hlookup hfull
          refine keeps_stage hmodify.inv hw (fun hret => ?_) ?_ fun _ => ⟨?_, halone⟩
          · rw [hretires] at hret
            cases hret
          · intro v vr hv hid hne
            rw [halone v vr hv hid hne]
            rfl
          · exact ⟨_, AList.lookup_insert _, rfl, hfull⟩
        · have hclose : (if e.alreadyUploadedBytes = e.size then WriterStage.rename
              { e with writer := none }
            else if e.size < e.alreadyUploadedBytes then .seeOvershot { e with writer := none }
            else .close) = .close := by
            rw [if_neg (by omega), if_neg (by omega)]
          refine keeps_stage hmodify.inv hw (fun hret => ?_) ?_ fun hfinishing => ?_
          · rw [hretires] at hret
            cases hret
          · intro v vr hv hid hne
            by_contra hfinishing
            obtain ⟨e', hk, -, hfull'⟩ :=
              h.finishing hv (Bool.eq_true_of_not_eq_false hfinishing)
            rw [hid] at hk
            cases hlookup.symm.trans hk
            exact hfull hfull'
          · rw [hclose] at hfinishing
            cases hfinishing

theorem keeps_retire (h : Inv F C sh) (hw : sh.writers.lookup w = some wr)
    (hfinishing : wr.stage.finishing = true) (hretires : wr.stage.retires = false)
    (stage : WriterStage) (hretire : stage.retires = true) (disk : Disk Path) :
    WriterKeeps F C sh { sh with
      store := { sh.store with disk := disk }
      writers := sh.writers.insert w { wr with stage := stage } } := by
  have hne : wr.stage ≠ .writing := by
    intro heq
    rw [heq] at hfinishing
    cases hfinishing
  have hnot := h.not_retired hw hne hretires
  obtain ⟨e, hlookup, -⟩ := h.finishing hw hfinishing
  refine ⟨?_, fun hquiet => absurd (hquiet _ _ hlookup) hnot⟩
  have hstaged := (keeps_finishing h hw hfinishing (fun _ => hretire)).inv
  have hretired : Retired { sh with
      writers := sh.writers.insert w { wr with stage := stage } } wr.id :=
    ⟨w, _, AList.lookup_insert _, rfl, hretire⟩
  refine hstaged.disk_of_noOwner ?_ disk
  rintro id e' (⟨hk, hnot'⟩ | hk)
  · have howner : Owner sh id e' := by
      refine .inl ⟨hk, fun hret => hnot' ?_⟩
      obtain ⟨v, vr, hv, hid, hstage⟩ := hret
      by_cases hvw : v = w
      · subst hvw
        exact ⟨v, _, AList.lookup_insert _, by cases hw.symm.trans hv; exact hid, hretire⟩
      · exact ⟨v, vr, (AList.lookup_insert_ne hvw).trans hv, hid, hstage⟩
    obtain rfl := h.unique howner (.inl ⟨hlookup, hnot⟩)
    exact hnot' hretired
  · obtain rfl := h.unique (.inr hk) (.inl ⟨hlookup, hnot⟩)
    rw [h.apart hk] at hlookup
    cases hlookup

theorem completeNext_rename (h : Inv F C sh) (hw : sh.writers.lookup w = some wr)
    {entry : FtPendingUpload} (hstage : wr.stage = .rename entry) :
    Action.wp (completeNext o wr.id (.rename entry))
      (fun r store => WriterKeeps F C sh (sh.afterComplete w wr store r)) sh.store := by
  have hfinishing : wr.stage.finishing = true := by
    rw [hstage]
    rfl
  have hretires : wr.stage.retires = false := by
    rw [hstage]
    rfl
  have hmoved : Action.wp (renameFile o.renamed entry.uploadPath entry.finalPath)
      (fun r store => WriterKeeps F C sh { sh with
        store := store
        writers := sh.writers.insert w { wr with stage := .renamed r.isOk entry } })
      sh.store := by
    refine Action.wp_read_bind (Action.wp_ensure_bind (fun _ => ?_) (fun _ => ?_))
    · exact keeps_retire h hw hfinishing hretires (.renamed true entry) rfl _
    · refine keeps_finishing h hw hfinishing fun hret => ?_
      rw [hretires] at hret
      cases hret
  exact hmoved

theorem completeNext_renamed (h : Inv F C sh) (hw : sh.writers.lookup w = some wr)
    {ok : Bool} {entry : FtPendingUpload} (hstage : wr.stage = .renamed ok entry)
    (hfree : sh.appending = none) :
    Action.wp (completeNext o wr.id (.renamed ok entry))
      (fun r store => WriterKeeps F C sh (sh.afterComplete w wr store r)) sh.store := by
  have hfinishing : wr.stage.finishing = true := by
    rw [hstage]
    rfl
  have hne : wr.stage ≠ .writing := by
    rw [hstage]
    nofun
  cases ok with
  | true =>
      refine keeps_erase h hw ?_
      rw [hstage]
      rfl
  | false =>
      have hretires : wr.stage.retires = false := by
        rw [hstage]
        rfl
      obtain ⟨e, hlookup, -⟩ := h.finishing hw hfinishing
      show WriterKeeps F C sh { sh with
        store := closeEntry false wr.id sh.store
        writers := sh.writers.erase w }
      rw [closeEntry_of_some false hlookup]
      exact keeps_close h hfree hw hlookup (h.not_retired hw hne hretires)
        (h.others_not_finishing hw hne) rfl

theorem completeNext_seeOvershot (h : Inv F C sh) (hw : sh.writers.lookup w = some wr)
    {entry : FtPendingUpload} (hstage : wr.stage = .seeOvershot entry) :
    Action.wp (completeNext o wr.id (.seeOvershot entry))
      (fun r store => WriterKeeps F C sh (sh.afterComplete w wr store r)) sh.store := by
  have hfinishing : wr.stage.finishing = true := by
    rw [hstage]
    rfl
  have hretires : wr.stage.retires = false := by
    rw [hstage]
    rfl
  refine keeps_finishing h hw hfinishing fun hret => ?_
  rw [hretires] at hret
  cases hret

theorem completeNext_deleteOvershot (h : Inv F C sh) (hw : sh.writers.lookup w = some wr)
    {entry : FtPendingUpload} (hstage : wr.stage = .deleteOvershot entry) :
    Action.wp (completeNext o wr.id (.deleteOvershot entry))
      (fun r store => WriterKeeps F C sh (sh.afterComplete w wr store r)) sh.store := by
  have hfinishing : wr.stage.finishing = true := by
    rw [hstage]
    rfl
  have hretires : wr.stage.retires = false := by
    rw [hstage]
    rfl
  have hgone : ∀ disk, WriterKeeps F C sh { sh with
      store := { sh.store with disk := disk }
      writers := sh.writers.insert w { wr with stage := .deleted } } :=
    fun disk => keeps_retire h hw hfinishing hretires _ rfl disk
  have hdeleted : Action.wp (deleteFile o.deleted entry.uploadPath)
      (fun _ store => WriterKeeps F C sh { sh with
        store := store
        writers := sh.writers.insert w { wr with stage := .deleted } }) sh.store := by
    unfold Action.wp deleteFile
    split
    · exact hgone sh.store.disk
    · split
      · exact hgone _
      · exact hgone sh.store.disk
  exact hdeleted

theorem completeNext_close (h : Inv F C sh) (hw : sh.writers.lookup w = some wr)
    (hstage : wr.stage = .close) (hfree : sh.appending = none) :
    Action.wp (completeNext o wr.id .close)
      (fun r store => WriterKeeps F C sh (sh.afterComplete w wr store r)) sh.store := by
  have hne : wr.stage ≠ .writing := by
    rw [hstage]
    nofun
  have hretires : wr.stage.retires = false := by
    rw [hstage]
    rfl
  unfold completeNext
  cases hlookup : sh.store.pending.lookup wr.id with
  | none =>
      refine Action.wp_of_run_error (x := afterPartial wr.id) (e := "upload not found")
        (t := sh.store) ?_ (keeps_drop h hw fun _ _ => hretires)
      unfold afterPartial
      rw [hlookup]
  | some e =>
      refine Action.wp_of_run_ok (x := afterPartial wr.id) (a := ())
        (t := closeEntry true wr.id sh.store) ?_ ?_
      · unfold afterPartial
        rw [hlookup]
      · show WriterKeeps F C sh { sh with
          store := closeEntry true wr.id sh.store
          writers := sh.writers.erase w }
        rw [closeEntry_of_some true hlookup]
        exact keeps_close h hfree hw hlookup (h.not_retired hw hne hretires)
          (h.others_not_finishing hw hne) rfl

theorem completeNext_keeps (h : Inv F C sh) (hw : sh.writers.lookup w = some wr)
    (hfree : wr.stage.locks = true → sh.appending = none)
    (hok : WriterApart sh (.complete w o)) :
    Action.wp (completeNext o wr.id wr.stage)
      (fun r store => WriterKeeps F C sh (sh.afterComplete w wr store r)) sh.store := by
  cases hstage : wr.stage with
  | writing => exact completeNext_writing h hw hstage (hfree (by rw [hstage]; rfl)) hok
  | rename entry => exact completeNext_rename h hw hstage
  | renamed ok entry => exact completeNext_renamed h hw hstage (hfree (by rw [hstage]; rfl))
  | seeOvershot entry => exact completeNext_seeOvershot h hw hstage
  | deleteOvershot entry => exact completeNext_deleteOvershot h hw hstage
  | deleted =>
      refine keeps_erase h hw ?_
      rw [hstage]
      rfl
  | close => exact completeNext_close h hw hstage (hfree (by rw [hstage]; rfl))

end Complete

/-! ## One step -/

theorem claim_keeps (h : Inv F C sh) (id : UploadId) :
    WriterKeeps F C sh (match claimFtUploadChannel id sh.store with
      | (store, .ok _) => sh.addWriter store id
      | (store, .error _) => { sh with store := store }) := by
  unfold claimFtUploadChannel
  cases hlookup : sh.store.pending.lookup id with
  | none => exact .refl h
  | some e =>
      dsimp only
      by_cases hopen : e.channelOpen = true
      · rw [if_pos hopen]
        exact .refl h
      · rw [if_neg hopen]
        have hmodify := keeps_modify h { e with channelOpen := true } hlookup rfl
          (.inl rfl)
        exact hmodify.trans (keeps_addWriter hmodify.inv id)

theorem writerStep_keeps (h : Inv F C sh) {ev : WriterEvent} (hok : WriterApart sh ev)
    (hstep : writerStep sh ev = some sh') : WriterKeeps F C sh sh' := by
  cases ev with
  | claim id =>
      have hkeeps := claim_keeps h id
      dsimp only [writerStep] at hstep
      split at hstep
      · cases hstep
      · rcases hrun : claimFtUploadChannel id sh.store with ⟨store, e | u⟩
        · rw [hrun] at hstep hkeeps
          cases hstep
          exact hkeeps
        · rw [hrun] at hstep hkeeps
          cases hstep
          exact hkeeps
  | httpOpen id =>
      dsimp only [writerStep, getFtUploadProgress] at hstep
      split at hstep
      · cases hstep
      · cases hlookup : sh.store.pending.lookup id with
        | none =>
            rw [hlookup] at hstep
            cases hstep
            exact .refl h
        | some e =>
            rw [hlookup] at hstep
            cases hstep
            exact keeps_addWriter h id
  | append w data =>
      dsimp only [writerStep] at hstep
      split at hstep
      · next id hfree hw =>
          cases hstep
          exact keeps_begin h hfree id data
      · cases hstep
  | write n =>
      obtain ⟨a, ha, hwrite⟩ := Option.bind_eq_some_iff.mp hstep
      split at hwrite
      · next hn =>
          cases hwrite
          exact keeps_write h ha hn.2.1 hn.2.2
      · cases hwrite
  | appendEnd =>
      obtain ⟨a, ha, rfl⟩ := Option.map_eq_some_iff.mp hstep
      exact keeps_end h ha (hok a ha)
  | seekFail =>
      obtain ⟨a, ha, hfail⟩ := Option.bind_eq_some_iff.mp hstep
      split at hfail
      · next hzero =>
          cases hfail
          exact keeps_fail h ha hzero
      · cases hfail
  | complete w o =>
      obtain ⟨wr, hw, hcomplete⟩ := Option.bind_eq_some_iff.mp hstep
      split at hcomplete
      · cases hcomplete
      · next hlocked =>
          cases hcomplete
          refine completeNext_keeps h hw (fun hlocks => ?_) hok
          rw [hlocks, Bool.true_and, Option.not_isSome_iff_eq_none] at hlocked
          exact hlocked

end ArkKvm.FtUpload.Exclusive
