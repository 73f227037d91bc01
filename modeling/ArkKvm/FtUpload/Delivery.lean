import ArkKvm.FtUpload.Cycles

/-!
# File transfer uploads deliver the source

What the chunks of a channel and its end do to the upload, and the run theorem: as long as
failures are contained, a file under the final name is the source.
-/

namespace ArkKvm.FtUpload.Delivery

open Lib
open Upload (Path UploadId StorageFileUpload bytesWithinSize)
open Upload.Delivery (Channel bytesWithinSize_of_le)
open Run (Reach)

variable {F C : Path} {s : State}

/-! ## Writing -/

section Writing

variable {source xs bytes : List UInt8} {w : AsyncFileWriter} {counter sent : Nat}

theorem Synced.target_eq (h : Synced source w counter xs) : target w xs = counter := by
  unfold target
  split
  · next happend => exact h.append happend
  · exact h.position

theorem Synced.writeAt_begins (h : Synced source w counter xs)
    (hbytes : bytes <+: source.drop counter) : writeAt xs (target w xs) bytes <+: source := by
  rw [h.target_eq]
  exact Lib.writeAt_begins h.begins h.counter_le hbytes

theorem Synced.length_writeAt (h : Synced source w counter xs) :
    (writeAt xs (target w xs) bytes).length = max xs.length (counter + bytes.length) := by
  rw [h.target_eq]
  exact Lib.length_writeAt h.counter_le

theorem Synced.written (h : Synced source w counter xs) (hbytes : bytes <+: source.drop counter) :
    Synced source
      { w with
        currentPosition := w.currentPosition + bytes.length
        failed := false }
      (counter + bytes.length) (writeAt xs (target w xs) bytes) where
  begins := h.writeAt_begins hbytes
  counter_le := by
    rw [h.length_writeAt]
    exact Nat.le_max_right _ _
  position := congrArg (· + bytes.length) h.position
  append := by
    intro happend
    rw [h.length_writeAt, h.append happend]
    omega

theorem Synced.torn (h : Synced source w counter xs) (hbytes : bytes <+: source.drop counter)
    {moved : Nat} {failed : Bool} (hmoved : counter + moved ≤ sent)
    (hsent : sent ≤ source.length) :
    Torn source
      { w with
        currentPosition := w.currentPosition + moved
        failed := failed }
      (counter + moved) sent (writeAt xs (target w xs) bytes) where
  counter_le := hmoved
  sent_le := hsent
  position := congrArg (· + moved) h.position
  content := .inl (h.writeAt_begins hbytes)

end Writing

/-! ## Messages -/

theorem chunkOf_prefix (source : List UInt8) (sent n : Nat) :
    chunkOf source sent n <+: source.drop sent := List.take_prefix _ _

theorem length_chunkOf_le (source : List UInt8) (sent n : Nat) :
    (chunkOf source sent n).length ≤ source.length - sent := by
  unfold chunkOf
  rw [List.length_take, List.length_drop]
  omega

theorem bytesWithinSize_chunkOf {source : List UInt8} {counter sent : Nat} (n : Nat)
    (hcounter : counter ≤ sent) (hsent : sent ≤ source.length) :
    bytesWithinSize (counter : Int) (source.length : Int) (chunkOf source sent n) =
      chunkOf source sent n := by
  have hlen := length_chunkOf_le source sent n
  by_cases hroom : counter < source.length
  · apply bytesWithinSize_of_le
    · omega
    · omega
  · have hnil : chunkOf source sent n = [] := List.eq_nil_of_length_eq_zero (by omega)
    rw [hnil, bytesWithinSize]
    split
    · rfl
    · simp

theorem appendFtUploadData_chunkOf {source : List UInt8} {st : Store} {k : UploadId}
    {e : FtPendingUpload} {counter sent : Nat} {w : AsyncFileWriter} (n : Nat)
    (fault : Option Nat) (hlookup : st.pending.lookup k = some e)
    (hours : Ours F C source e counter) (hwriter : e.writer = some w) (hcounter : counter ≤ sent)
    (hsent : sent ≤ source.length) :
    appendFtUploadData k (chunkOf source sent n) fault st =
      if chunkOf source sent n = [] then (st, .ok (source.length, counter))
      else
        let handed := WriteBehind.handOver w.failed (chunkOf source sent n).length fault
        let entry := e.wrote (chunkOf source sent n).length handed
        ({ st with
           disk := w.put (handed.landed (chunkOf source sent n)) st.disk
           pending := st.pending.insert k entry },
          if handed.taken then .ok (entry.size, entry.alreadyUploadedBytes)
          else .error "Failed to write chunk") := by
  unfold appendFtUploadData
  rw [hlookup]
  dsimp only
  rw [hours.size, hours.already, bytesWithinSize_chunkOf n hcounter hsent, hwriter]

theorem tears_chunkOf {source : List UInt8} {st : Store} {k : UploadId}
    {e : FtPendingUpload} {counter sent : Nat} {w : AsyncFileWriter} (n : Nat)
    (fault : Option Nat) (hlookup : st.pending.lookup k = some e)
    (hours : Ours F C source e counter) (hwriter : e.writer = some w) (hcounter : counter ≤ sent)
    (hsent : sent ≤ source.length) :
    tears st k (chunkOf source sent n) fault =
      (decide (chunkOf source sent n ≠ []) && decide
        (WriteBehind.handOver w.failed (chunkOf source sent n).length fault ≠ .done)) := by
  unfold tears
  rw [hlookup]
  dsimp only
  rw [hours.size, hours.already, bytesWithinSize_chunkOf n hcounter hsent, hwriter]

section Message

variable {source : List UInt8} {st : Store} {e : FtPendingUpload} {counter n : Nat}
  {w : AsyncFileWriter} {ch : Channel}

theorem Sending.position_le (h : Sending source w counter (st.disk.data w.inode) ch)
    (hcounter : counter ≤ source.length) : counter ≤ ch.sent ∧ ch.sent ≤ source.length := by
  cases h with
  | clean htorn hsent hsynced => omega
  | torn htorn hcontent => exact ⟨hcontent.counter_le, hcontent.sent_le⟩

/-- The next chunk after bytes that were left out: the handle reports an error first, or the
chunk goes behind a file that cannot be continued any more. -/
def MayWrite (w : AsyncFileWriter) (counter : Nat) (xs : List UInt8) (ch : Channel)
    (fault : Option Nat) : Prop :=
  ch.torn = true → w.failed = true ∨ ((w.append = true ∧ xs.length ≠ counter) ∧ fault = none)

def movedBy (chunk : List UInt8) (handed : WriteBehind.Handed) : Nat :=
  if handed.taken then chunk.length else 0

def writerAfter (w : AsyncFileWriter) (chunk : List UInt8) (handed : WriteBehind.Handed) :
    AsyncFileWriter :=
  { w with
    currentPosition := w.currentPosition + movedBy chunk handed
    failed := handed.deferred }

theorem put_nil (w : AsyncFileWriter) (d : Disk Path) : w.put [] d = d := if_pos rfl

theorem sending_of_synced {chunk : List UInt8} {finished : Bool} (handed : WriteBehind.Handed)
    (htorn : ch.torn = false) (hsent : ch.sent = counter)
    (hsynced : Synced source w counter (st.disk.data w.inode))
    (hpre : chunk <+: source.drop ch.sent) (hlen : ch.sent + chunk.length ≤ source.length) :
    Sending source (writerAfter w chunk handed) (counter + movedBy chunk handed)
      ((w.put (handed.landed chunk) st.disk).data w.inode)
      (ch.after chunk finished handed) := by
  have htarget : target w (st.disk.data w.inode) ≤ (st.disk.data w.inode).length := by
    rw [hsynced.target_eq]
    exact hsynced.counter_le
  have hrest : handed.landed chunk <+: source.drop counter := by
    rw [← hsent]
    exact (WriteBehind.Handed.landed_prefix chunk handed).trans hpre
  have hmoved : counter + movedBy chunk handed ≤ ch.sent + chunk.length := by
    unfold movedBy
    split <;> omega
  rw [put_data _ htarget]
  by_cases hdone : handed = .done
  · subst hdone
    exact .clean (by simp [Channel.after, htorn]) (by simp [Channel.after, hsent, movedBy,
      WriteBehind.Handed.taken]) (hsynced.written hrest)
  · exact .torn (by simp [Channel.after, hdone]) (hsynced.torn hrest hmoved hlen)

theorem sending_of_torn {chunk : List UInt8} {finished : Bool} {fault : Option Nat}
    (htorn : ch.torn = true) (hcontent : Torn source w counter ch.sent (st.disk.data w.inode))
    (hok : w.failed = true ∨
      ((w.append = true ∧ (st.disk.data w.inode).length ≠ counter) ∧ fault = none))
    (hlen : ch.sent + chunk.length ≤ source.length) :
    let handed := WriteBehind.handOver w.failed chunk.length fault
    Sending source (writerAfter w chunk handed) (counter + movedBy chunk handed)
      ((w.put (handed.landed chunk) st.disk).data w.inode)
      (ch.after chunk finished handed) := by
  intro handed
  have hbehind := hcontent.counter_le
  have htorn' : (ch.after chunk finished handed).torn = true := by
    simp [Channel.after, htorn]
  cases hfailed : w.failed with
  | true =>
      have hrefused : handed = .refused := by
        rw [show handed = WriteBehind.handOver w.failed chunk.length fault from rfl, hfailed]
        rfl
      rw [hrefused] at htorn' ⊢
      refine .torn htorn' ⟨?_, hlen, hcontent.position, ?_⟩
      · show counter + 0 ≤ ch.sent + chunk.length
        omega
      · rw [WriteBehind.Handed.landed, put_nil]
        exact hcontent.content
  | false =>
      obtain ⟨⟨happend, hne⟩, rfl⟩ := hok.resolve_left (by simp [hfailed])
      have hdone : handed = .done := by
        rw [show handed = WriteBehind.handOver w.failed chunk.length none from rfl, hfailed]
        rfl
      rw [hdone] at htorn' ⊢
      have htarget : target w (st.disk.data w.inode) = (st.disk.data w.inode).length := by
        rw [target, if_pos happend]
      rw [put_data _ htarget.le, htarget]
      refine .torn htorn' ⟨?_, hlen, congrArg (· + chunk.length) hcontent.position,
        .inr ⟨happend, ?_⟩⟩
      · show counter + chunk.length ≤ ch.sent + chunk.length
        omega
      · show (writeAt _ _ chunk).length ≠ counter + chunk.length
        rw [Lib.length_writeAt (Nat.le_refl _)]
        omega

theorem wrote_eq (hwriter : e.writer = some w) (chunk : List UInt8)
    (handed : WriteBehind.Handed) :
    e.wrote chunk.length handed =
      { e with
        writer := some (writerAfter w chunk handed)
        alreadyUploadedBytes := e.alreadyUploadedBytes + (movedBy chunk handed : Nat) } := by
  unfold FtPendingUpload.wrote writerAfter movedBy
  rw [hwriter]
  rfl

theorem onMessage_eq (fault : Option Nat) (h : Live F C source st ch e counter w)
    (hfresh : ch.finished = false) (hne : chunkOf source ch.sent n ≠ []) :
    let chunk := chunkOf source ch.sent n
    let handed := WriteBehind.handOver w.failed chunk.length fault
    ∃ finished, onMessage source n fault st ch =
        ({ st with
           disk := w.put (handed.landed chunk) st.disk
           pending := st.pending.insert ch.id (e.wrote chunk.length handed) },
          ch.after chunk finished handed) ∧
      (finished = true → counter + movedBy chunk handed = source.length) := by
  intro chunk handed
  obtain ⟨hcounter, hsent⟩ := h.sending.position_le h.ours.counter_le
  have happend := appendFtUploadData_chunkOf n fault h.only.1 h.ours h.writer hcounter hsent
  have htears := tears_chunkOf n fault h.only.1 h.ours h.writer hcounter hsent
  rw [if_neg hne] at happend
  rw [decide_eq_true hne, Bool.true_and] at htears
  have hlen := length_chunkOf_le source ch.sent n
  unfold onMessage
  dsimp only
  rw [hfresh, if_neg Bool.false_ne_true, happend, htears]
  dsimp only
  cases htaken : handed.taken with
  | true =>
      rw [if_pos rfl]
      refine ⟨_, rfl, fun hfinished => ?_⟩
      have hge := of_decide_eq_true hfinished
      rw [wrote_eq h.writer] at hge
      have hsize := h.ours.size
      have halready := h.ours.already
      have hmoved : movedBy chunk handed ≤ chunk.length := by
        unfold movedBy
        split <;> omega
      have hchunk : chunk.length ≤ source.length - ch.sent := hlen
      dsimp only at hge
      change e.size ≤ e.alreadyUploadedBytes + (movedBy chunk handed : Nat) at hge
      omega
  | false =>
      rw [if_neg Bool.false_ne_true]
      exact ⟨false, rfl, nofun⟩

theorem Live.message (fault : Option Nat) (h : Live F C source st ch e counter w)
    (hfresh : ch.finished = false)
    (hok : chunkOf source ch.sent n ≠ [] →
      MayWrite w counter (st.disk.data w.inode) ch fault) :
    (∃ e' counter' w', Live F C source (onMessage source n fault st ch).1
        (onMessage source n fault st ch).2 e' counter' w') ∧
      (onMessage source n fault st ch).1.closed = st.closed ∧
      ∀ p, st.disk.names p ≠ some w.inode →
        (onMessage source n fault st ch).1.disk.contents p = st.disk.contents p := by
  obtain ⟨hcounter, hsent⟩ := h.sending.position_le h.ours.counter_le
  have hlen := length_chunkOf_le source ch.sent n
  have hpre := chunkOf_prefix source ch.sent n
  by_cases hnil : chunkOf source ch.sent n = []
  · have happend := appendFtUploadData_chunkOf n fault h.only.1 h.ours h.writer hcounter hsent
    have htears := tears_chunkOf n fault h.only.1 h.ours h.writer hcounter hsent
    rw [if_pos hnil] at happend
    rw [hnil] at htears
    unfold onMessage
    dsimp only
    rw [hfresh, if_neg Bool.false_ne_true, happend, hnil, htears]
    refine ⟨⟨e, counter, w, h.only, h.ours, h.claimed, h.writer, h.name, ?_, ?_⟩, rfl,
      fun _ _ => rfl⟩
    · cases h.sending with
      | clean htorn hsent hsynced => exact .clean (by simp [htorn]) hsent hsynced
      | torn htorn hcontent => exact .torn (by simp [htorn]) hcontent
    · intro hfinished
      have hle := h.ours.counter_le
      have hge := of_decide_eq_true hfinished
      omega
  · obtain ⟨finished, hmessage, hfinished⟩ := onMessage_eq fault h hfresh hnil
    have hmay := hok hnil
    rw [hmessage]
    generalize chunkOf source ch.sent n = chunk at hlen hpre hfinished
    have hsending : Sending source
        (writerAfter w chunk (WriteBehind.handOver w.failed chunk.length fault))
        (counter + movedBy chunk (WriteBehind.handOver w.failed chunk.length fault))
        ((w.put ((WriteBehind.handOver w.failed chunk.length fault).landed chunk)
          st.disk).data w.inode)
        (ch.after chunk finished (WriteBehind.handOver w.failed chunk.length fault)) := by
      cases h.sending with
      | clean htorn hsent hsynced =>
          exact sending_of_synced _ htorn hsent hsynced hpre (by omega)
      | torn htorn hcontent => exact sending_of_torn htorn hcontent (hmay htorn) (by omega)
    have hmoved : movedBy chunk (WriteBehind.handOver w.failed chunk.length fault) ≤
        chunk.length := by
      unfold movedBy
      split <;> omega
    rw [wrote_eq h.writer]
    refine ⟨⟨_, _, _, h.only.insert _, ?_, h.claimed, rfl, ?_, hsending, hfinished⟩, rfl,
      fun p hp => put_contents_of_ne _ hp⟩
    · refine ⟨h.ours.finalPath, h.ours.uploadPath, h.ours.size, ?_, by omega⟩
      rw [h.ours.already]
      push_cast
      rfl
    · show (w.put _ st.disk).names C = some w.inode
      rw [put_names]
      exact h.name

/-! ## Closing -/

/-- The store with the session as it is after the flush. -/
def Store.flushed (st : Store) (k : UploadId) (e : FtPendingUpload) : Store :=
  { st with pending := st.pending.insert k { e with writer := none } }

theorem complete_of_unflushed {o : CompleteOutcome} {k : UploadId}
    (hlookup : st.pending.lookup k = some e) (hwriter : e.writer = some w)
    (hflush : o.flushed = false) :
    (completeFtUpload o k st).1 =
      { st with pending := st.pending.insert k { e with channelOpen := false } } := by
  have hfails : e.writer ≠ none ∧ o.flushed = false := ⟨by rw [hwriter]; nofun, hflush⟩
  unfold completeFtUpload
  rw [Action.bind_of_error (completeFlush_of_fails hlookup hfails)]

theorem completeFlush_of_flushed {k : UploadId} {flushed : Bool}
    (hlookup : st.pending.lookup k = some e) (hflush : flushed = true) :
    completeFlush flushed k st = (Store.flushed st k e, .ok { e with writer := none }) := by
  refine completeFlush_of_works hlookup ?_
  rintro ⟨-, hfalse⟩
  rw [hflush] at hfalse
  cases hfalse

theorem closeEntry_flushed (dropWriter : Bool) (st : Store) (k : UploadId)
    (e : FtPendingUpload) :
    closeEntry dropWriter k (Store.flushed st k e) =
      { st with
        pending := (st.pending.insert k { e with writer := none }).erase k
        closed := st.closed.insert k
          { e with
            channelOpen := false
            writer := none } } := by
  unfold Store.flushed
  rw [closeEntry_of_some dropWriter (AList.lookup_insert _)]
  cases dropWriter <;> rfl

theorem complete_of_leftover {o : CompleteOutcome} {k : UploadId}
    (hlookup : st.pending.lookup k = some e) (hflush : o.flushed = true)
    (hpart : e.alreadyUploadedBytes < e.size) :
    (completeFtUpload o k st).1 = closeEntry true k (Store.flushed st k e) := by
  unfold completeFtUpload
  rw [Action.bind_of_ok (completeFlush_of_flushed hlookup hflush)]
  dsimp only
  rw [if_neg (by omega), if_neg (by omega)]
  unfold afterPartial
  rw [Store.flushed, AList.lookup_insert]

theorem complete_of_unrenamed {o : CompleteOutcome} {k : UploadId}
    (hlookup : st.pending.lookup k = some e) (hflush : o.flushed = true)
    (hfull : e.alreadyUploadedBytes = e.size) (hrename : o.renamed = false) :
    (completeFtUpload o k st).1 = closeEntry false k (Store.flushed st k e) := by
  have hfails : ∀ p q : Path, ∀ st' : Store,
      Action.attempt (renameFile o.renamed p q) st' = (st', .ok false) := by
    intro p q st'
    have hrun : renameFile o.renamed p q st' = (st', .error "Failed to rename") := by
      unfold renameFile
      rw [Action.bind_of_ok (x := Action.read) rfl, hrename]
      exact Action.bind_of_error (Action.ensure_of_neg (by simp) _ _)
    unfold Action.attempt
    rw [hrun]
    rfl
  unfold completeFtUpload
  rw [Action.bind_of_ok (completeFlush_of_flushed hlookup hflush)]
  dsimp only
  rw [if_pos hfull, Action.bind_of_ok (hfails _ _ _)]
  rfl

theorem complete_of_renamed {o : CompleteOutcome} {k : UploadId}
    (hlookup : st.pending.lookup k = some e) (hflush : o.flushed = true)
    (hfull : e.alreadyUploadedBytes = e.size) (hrename : o.renamed = true)
    (hname : st.disk.names e.uploadPath ≠ none) :
    (completeFtUpload o k st).1 =
      { st with
        disk := st.disk.rename e.uploadPath e.finalPath
        pending := (st.pending.insert k { e with writer := none }).erase k } := by
  have hworks : Action.attempt (renameFile o.renamed e.uploadPath e.finalPath)
      (Store.flushed st k e) =
        ({ Store.flushed st k e with disk := st.disk.rename e.uploadPath e.finalPath },
          .ok true) := by
    have hrun : renameFile o.renamed e.uploadPath e.finalPath (Store.flushed st k e) =
        ({ Store.flushed st k e with disk := st.disk.rename e.uploadPath e.finalPath },
          .ok ()) := by
      unfold renameFile
      rw [Action.bind_of_ok (x := Action.read) rfl]
      exact Action.bind_of_ok (Action.ensure_of_pos ⟨hname, hrename⟩ _ _)
    unfold Action.attempt
    rw [hrun]
    rfl
  unfold completeFtUpload
  rw [Action.bind_of_ok (completeFlush_of_flushed hlookup hflush)]
  dsimp only
  rw [if_pos hfull, Action.bind_of_ok hworks]
  rfl

def InStep (w : AsyncFileWriter) (counter : Nat) (xs : List UInt8) : Prop :=
  counter ≤ xs.length ∧ (w.append = true → xs.length = counter)

theorem Sending.synced {xs : List UInt8} (h : Sending source w counter xs ch)
    (hstep : InStep w counter xs) : Synced source w counter xs := by
  cases h with
  | clean htorn hsent hsynced => exact hsynced
  | torn htorn hcontent =>
      have hbegins : xs <+: source :=
        hcontent.content.resolve_right fun ⟨happend, hne⟩ => hne (hstep.2 happend)
      exact ⟨hbegins, hstep.1, hcontent.position, hstep.2⟩

theorem Sending.begins {xs : List UInt8} (h : Sending source w counter xs ch)
    (hlen : xs.length = counter) : xs <+: source :=
  (h.synced ⟨hlen.ge, fun _ => hlen⟩).begins

theorem Sending.eq_source {xs : List UInt8} (h : Sending source w counter xs ch)
    (hstep : InStep w counter xs) (hfull : counter = source.length) : xs = source := by
  have hle := hstep.1
  exact (h.synced hstep).begins.eq_of_length_le (by omega)

theorem Live.closeEntry (h : Live F C source st ch e counter w) (hclosed : Free F C st.closed)
    (dropWriter : Bool) (offer : s.offer = none) :
    Phase F C source { s with
      store := closeEntry dropWriter ch.id (Store.flushed st ch.id e)
      channel := none } := by
  rw [closeEntry_flushed]
  have hcache : st.disk.contents C = some (st.disk.data w.inode) :=
    Disk.contents_of_names h.name
  have hours : Ours F C source
      { e with
        channelOpen := false
        writer := none } counter :=
    ⟨h.ours.finalPath, h.ours.uploadPath, h.ours.size, h.ours.already, h.ours.counter_le⟩
  exact .closed (h.only.insert _).erase (hclosed.insert _ _) hours hcache h.sending.begins offer rfl

theorem Live.close {o : CompleteOutcome} (hne : F ≠ C) (h : Live F C source st ch e counter w)
    (hclosed : Free F C st.closed) (hoffer : s.offer = none)
    (hok : o.flushed = false ∨ (o.renamed = true ∧ counter = source.length) →
      InStep w counter (st.disk.data w.inode)) :
    Phase F C source { s with
      store := (completeFtUpload o ch.id st).1
      channel := none } ∧
    ((completeFtUpload o ch.id st).1.disk.contents F = st.disk.contents F ∨
      (completeFtUpload o ch.id st).1.disk.contents F = some source) := by
  cases hflush : o.flushed with
  | false =>
      rw [complete_of_unflushed h.only.1 h.writer hflush]
      refine ⟨?_, .inl rfl⟩
      have hours : Ours F C source { e with channelOpen := false } counter :=
        ⟨h.ours.finalPath, h.ours.uploadPath, h.ours.size, h.ours.already, h.ours.counter_le⟩
      refine .idle hclosed (h.only.insert _) hours rfl h.writer h.name
        (h.sending.synced (hok (.inl hflush))) ?_ rfl
      intro up hup
      rw [hoffer] at hup
      cases hup
  | true =>
      have halready := h.ours.already
      have hsize := h.ours.size
      have hle := h.ours.counter_le
      by_cases hfull : counter = source.length
      · have hequal : e.alreadyUploadedBytes = e.size := by omega
        cases hrename : o.renamed with
        | false =>
            rw [complete_of_unrenamed h.only.1 hflush hequal hrename]
            refine ⟨h.closeEntry hclosed false hoffer, .inl ?_⟩
            rw [closeEntry_flushed]
        | true =>
            have hname : st.disk.names e.uploadPath ≠ none := by
              rw [h.ours.uploadPath, h.name]
              nofun
            rw [complete_of_renamed h.only.1 hflush hequal hrename hname]
            refine ⟨.absent (h.only.insert _).erase hclosed hoffer rfl, .inr ?_⟩
            show (st.disk.rename e.uploadPath e.finalPath).contents F = some source
            rw [h.ours.uploadPath, h.ours.finalPath, Disk.contents_rename hne.symm,
              Disk.contents_of_names h.name,
              h.sending.eq_source (hok (.inr ⟨hrename, hfull⟩)) hfull]
      · have hpart : e.alreadyUploadedBytes < e.size := by omega
        rw [complete_of_leftover h.only.1 hflush hpart]
        refine ⟨h.closeEntry hclosed true hoffer, .inl ?_⟩
        rw [closeEntry_flushed]

end Message

/-! ## Runs -/

variable {path name : String} {source : List UInt8}

theorem step_start (o : StartOutcome) (s : State) :
    step path name source s (.start o) =
      some (s.afterStart (startFtFileUpload o path name source.length s.store).1
        (startFtFileUpload o path name source.length s.store).2) := by
  unfold step
  dsimp only
  rcases startFtFileUpload o path name source.length s.store with ⟨st, e | up⟩
  · rfl
  · rfl

theorem phase_start (o : StartOutcome)
    (h : Phase (filePathOf path name) (fileCachePathOf path name) source s) :
    Phase (filePathOf path name) (fileCachePathOf path name) source
      (s.afterStart (startFtFileUpload o path name source.length s.store).1
        (startFtFileUpload o path name source.length s.store).2) := by
  have hstarted := startFtFileUpload_started o path name source.length s.store
  unfold Action.wp at hstarted
  cases h with
  | absent hpending hclosed hoffer hchannel =>
      exact phase_start_absent source hpending hclosed hoffer hchannel hstarted
  | closed hpending honly hours hcache hbegins hoffer hchannel =>
      exact phase_start_closed hpending honly hours hcache hbegins hoffer hchannel hstarted
  | @idle k e counter w hclosed honly hours hidle hwriter hname hsynced hoffer hchannel =>
      have hmatching : Matching s.store (filePathOf path name) source.length k e :=
        ⟨honly.1, hours.finalPath, hours.size⟩
      have halready := hours.already
      have hfits : ∀ id e', Matching s.store (filePathOf path name) source.length id e' →
          e'.channelOpen = true ∨ e'.alreadyUploadedBytes ≤ source.length := by
        intro id e' hmatch
        obtain ⟨rfl, rfl⟩ := honly.matching hmatch
        have hle := hours.counter_le
        omega
      have hrun := start_of_matching o hfits ⟨k, e, hmatching⟩
      unfold Action.wp at hrun
      generalize startFtFileUpload o path name source.length s.store = r at hrun
      obtain ⟨st, result⟩ := r
      obtain ⟨rfl, hanswer⟩ := hrun
      cases result with
      | error err =>
          exact .idle hclosed honly hours hidle hwriter hname hsynced hoffer hchannel
      | ok up =>
          refine .idle hclosed honly hours hidle hwriter hname hsynced ?_ hchannel
          rintro up' ⟨⟩
          obtain ⟨id, e', hmatch, -, rfl⟩ := hanswer up rfl
          obtain ⟨rfl, rfl⟩ := honly.matching hmatch
          rw [halready]
  | @sending e counter w ch hclosed hlive hoffer hchannel =>
      have hmatching : Matching s.store (filePathOf path name) source.length ch.id e :=
        ⟨hlive.only.1, hlive.ours.finalPath, hlive.ours.size⟩
      have hfits : ∀ id e', Matching s.store (filePathOf path name) source.length id e' →
          e'.channelOpen = true ∨ e'.alreadyUploadedBytes ≤ source.length := by
        intro id e' hmatch
        obtain ⟨-, rfl⟩ := hlive.only.matching hmatch
        exact .inl hlive.claimed
      have hrun := start_of_matching o hfits ⟨ch.id, e, hmatching⟩
      unfold Action.wp at hrun
      generalize startFtFileUpload o path name source.length s.store = r at hrun
      obtain ⟨st, result⟩ := r
      obtain ⟨rfl, hanswer⟩ := hrun
      cases result with
      | error err => exact .sending hclosed hlive hoffer hchannel
      | ok up =>
          obtain ⟨id, e', hmatch, hidle, -⟩ := hanswer up rfl
          obtain ⟨-, rfl⟩ := hlive.only.matching hmatch
          rw [hlive.claimed] at hidle
          cases hidle

theorem inv_openChannel {s' : State} (h : Inv F C source s)
    (hstep : step path name source s .openChannel = some s') : Inv F C source s' := by
  obtain ⟨hphase, hdelivered⟩ := h
  dsimp only [step] at hstep
  cases hphase with
  | absent _ _ hoffer hchannel =>
      rw [hoffer, hchannel] at hstep
      cases hstep
  | closed _ _ _ _ _ hoffer hchannel =>
      rw [hoffer, hchannel] at hstep
      cases hstep
  | sending _ _ hoffer hchannel =>
      rw [hchannel] at hstep
      cases hstep
  | @idle k e counter w hclosed honly hours hidle hwriter hname hsynced hoffer hchannel =>
      rw [hchannel] at hstep
      cases hup : s.offer with
      | none =>
          rw [hup] at hstep
          cases hstep
      | some up =>
          rw [hup] at hstep
          obtain rfl := hoffer up hup
          have hclaim : claimFtUploadChannel k s.store =
              ({ s.store with
                 pending := s.store.pending.insert k { e with channelOpen := true } }, .ok ()) := by
            unfold claimFtUploadChannel
            rw [honly.1]
            dsimp only
            rw [if_neg (by rw [hidle]; nofun)]
          dsimp only at hstep
          rw [hclaim] at hstep
          cases hstep
          have hours' : Ours F C source { e with channelOpen := true } counter :=
            ⟨hours.finalPath, hours.uploadPath, hours.size, hours.already, hours.counter_le⟩
          refine ⟨.sending hclosed ⟨honly.insert _, hours', rfl, hwriter, hname, ?_, ?_⟩
            rfl rfl, hdelivered⟩
          · exact .clean rfl (Int.toNat_natCast counter) hsynced
          · nofun

theorem Live.writing_eq {st : Store} {ch : Channel} {e : FtPendingUpload} {counter : Nat}
    {w : AsyncFileWriter} (h : Live F C source st ch e counter w) :
    writing st ch.id = some (e, w) := by
  unfold writing
  rw [h.only.1, Option.bind_some, h.writer, Option.map_some]

theorem Live.writes_eq {st : Store} {ch : Channel} {e : FtPendingUpload} {counter n : Nat}
    {w : AsyncFileWriter} (h : Live F C source st ch e counter w)
    (hne : chunkOf source ch.sent n ≠ []) :
    writes st ch.id (chunkOf source ch.sent n) = !w.failed := by
  obtain ⟨hcounter, hsent⟩ := h.sending.position_le h.ours.counter_le
  unfold writes
  rw [h.writing_eq, Option.any_some]
  dsimp only
  rw [h.ours.size, h.ours.already, bytesWithinSize_chunkOf n hcounter hsent,
    decide_eq_true hne, Bool.and_true]

theorem Live.strayed_iff {st : Store} {ch : Channel} {e : FtPendingUpload} {counter : Nat}
    {w : AsyncFileWriter} (h : Live F C source st ch e counter w) :
    strayed st ch.id = true ↔
      w.append = true ∧ (st.disk.data w.inode).length ≠ counter := by
  unfold strayed
  rw [h.writing_eq, Option.any_some]
  dsimp only
  rw [h.ours.already, Bool.and_eq_true, decide_eq_true_iff, Ne, Nat.cast_inj]

theorem Live.inStep_iff {st : Store} {ch : Channel} {e : FtPendingUpload} {counter : Nat}
    {w : AsyncFileWriter} (h : Live F C source st ch e counter w) :
    inStep st ch.id = true ↔ InStep w counter (st.disk.data w.inode) := by
  unfold inStep InStep
  rw [h.writing_eq, Option.all_some]
  dsimp only
  rw [h.ours.already, Bool.and_eq_true, decide_eq_true_iff, Nat.cast_le]
  cases w.append <;> simp

theorem Live.full_iff {st : Store} {ch : Channel} {e : FtPendingUpload} {counter : Nat}
    {w : AsyncFileWriter} (h : Live F C source st ch e counter w) :
    full st ch.id = true ↔ counter = source.length := by
  unfold full
  rw [h.only.1, Option.any_some, decide_eq_true_iff, h.ours.already, h.ours.size, Nat.cast_inj]

theorem Live.final_ne {st : Store} {ch : Channel} {e : FtPendingUpload} {counter : Nat}
    {w : AsyncFileWriter} (hne : F ≠ C) (h : Live F C source st ch e counter w) :
    st.disk.names F ≠ some w.inode :=
  fun hname => hne (st.disk.names_inj hname h.name)

theorem inv_message {s' : State} {n : Nat} {fault : Option Nat} (hne : F ≠ C)
    (h : Inv F C source s) (hok : FailureContained source s (.message n fault))
    (hstep : step path name source s (.message n fault) = some s') : Inv F C source s' := by
  obtain ⟨hphase, hdelivered⟩ := h
  dsimp only [step] at hstep
  cases hphase with
  | absent _ _ _ hchannel =>
      rw [hchannel] at hstep
      cases hstep
  | closed _ _ _ _ _ _ hchannel =>
      rw [hchannel] at hstep
      cases hstep
  | idle _ _ _ _ _ _ _ _ hchannel =>
      rw [hchannel] at hstep
      cases hstep
  | @sending e counter w ch hclosed hlive hoffer hchannel =>
      rw [hchannel] at hstep
      cases hstep
      cases hfinished : ch.finished with
      | true =>
          have hfull := hlive.finished hfinished
          obtain ⟨hcounter, hsent⟩ := hlive.sending.position_le hlive.ours.counter_le
          have hlen := length_chunkOf_le source ch.sent n
          have hignored : onMessage source n fault s.store ch = (s.store, ch) := by
            have hnil : (chunkOf source ch.sent n).length = 0 := by omega
            unfold onMessage
            dsimp only
            rw [if_pos hfinished, hnil]
            rfl
          rw [hignored]
          exact ⟨.sending hclosed hlive hoffer rfl, hdelivered⟩
      | false =>
          have hmay : chunkOf source ch.sent n ≠ [] →
              MayWrite w counter (s.store.disk.data w.inode) ch fault := by
            intro hchunk htorn
            have hcontained := hok ch hchannel htorn
            rw [hlive.writes_eq hchunk, hlive.strayed_iff, Bool.not_eq_false'] at hcontained
            exact hcontained
          obtain ⟨⟨e', counter', w', hlive'⟩, hsame, hframe⟩ :=
            hlive.message fault hfinished hmay
          refine ⟨.sending ?_ hlive' hoffer rfl, ?_⟩
          · rw [hsame]
            exact hclosed
          · intro xs hxs
            exact hdelivered xs ((hframe F (hlive.final_ne hne)).symm.trans hxs)

/-- The end of a channel keeps the invariant unless its file is out of step and is renamed or
stays active. -/
theorem inv_close {s' : State} {o : CompleteOutcome} (hne : F ≠ C) (h : Inv F C source s)
    (hok : FailureContained source s (.close o))
    (hstep : step path name source s (.close o) = some s') : Inv F C source s' := by
  obtain ⟨hphase, hdelivered⟩ := h
  dsimp only [step] at hstep
  cases hphase with
  | absent _ _ _ hchannel =>
      rw [hchannel] at hstep
      cases hstep
  | closed _ _ _ _ _ _ hchannel =>
      rw [hchannel] at hstep
      cases hstep
  | idle _ _ _ _ _ _ _ _ hchannel =>
      rw [hchannel] at hstep
      cases hstep
  | @sending e counter w ch hclosed hlive hoffer hchannel =>
      rw [hchannel] at hstep
      cases hstep
      have hstepping : o.flushed = false ∨ (o.renamed = true ∧ counter = source.length) →
          InStep w counter (s.store.disk.data w.inode) := by
        intro hends
        refine hlive.inStep_iff.mp (hok ch hchannel ?_)
        exact hends.imp_right fun ⟨hrenamed, hfull⟩ => ⟨hrenamed, hlive.full_iff.mpr hfull⟩
      obtain ⟨hphase', hfinal⟩ := hlive.close hne hclosed hoffer hstepping
      refine ⟨hphase', fun xs hxs => ?_⟩
      rcases hfinal with hsame | hsource
      · exact hdelivered xs (hsame.symm.trans hxs)
      · exact Option.some.inj (hxs.symm.trans hsource)

theorem inv_step {s' : State} {a : Event}
    (h : Inv (filePathOf path name) (fileCachePathOf path name) source s)
    (hok : FailureContained source s a) (hstep : step path name source s a = some s') :
    Inv (filePathOf path name) (fileCachePathOf path name) source s' := by
  have hne : filePathOf path name ≠ fileCachePathOf path name :=
    (fileCachePathOf_ne_filePathOf path name).symm
  cases a with
  | start o =>
      rw [step_start] at hstep
      cases hstep
      refine ⟨phase_start o h.phase, fun xs hxs => h.delivered xs ?_⟩
      have hstarted := startFtFileUpload_started o path name source.length s.store
      rw [← hxs, ← contents_started_of_ne hne hstarted]
      cases (startFtFileUpload o path name source.length s.store).2 <;> rfl
  | openChannel => exact inv_openChannel h hstep
  | message n fault => exact inv_message hne h hok hstep
  | close o => exact inv_close hne h hok hstep

theorem inv_of_initial (h : Initial F C s) : Inv F C source s where
  phase := .absent h.pending h.closed h.offer h.channel
  delivered := by
    intro xs hxs
    rw [Disk.contents, h.final] at hxs
    cases hxs

/-- In every run whose failures are contained, a file under the final name is the source. -/
theorem ft_upload_delivers (path name : String) (source : List UInt8) {init s : State}
    (hinit : Initial (filePathOf path name) (fileCachePathOf path name) init)
    (h : Reach (step path name source) (FailureContained source) init s) :
    ∀ xs, s.store.disk.contents (filePathOf path name) = some xs → xs = source := by
  have hinv : Inv (filePathOf path name) (fileCachePathOf path name) source s :=
    h.invariant (inv_of_initial hinit) fun _ _ _ hi hok hstep => inv_step hi hok hstep
  exact hinv.delivered

def failureContained (source : List UInt8) (s : State) : Event → Bool
  | .message n fault =>
      match s.channel with
      | some ch => !ch.torn || !writes s.store ch.id (chunkOf source ch.sent n) ||
          (strayed s.store ch.id && fault.isNone)
      | none => true
  | .close o =>
      match s.channel with
      | some ch => (o.flushed && !(o.renamed && full s.store ch.id)) || inStep s.store ch.id
      | none => true
  | _ => true

theorem failureContained_sound (s : State) (a : Event)
    (h : failureContained source s a = true) : FailureContained source s a := by
  cases a with
  | start o => trivial
  | openChannel => trivial
  | message n fault =>
      intro ch hch htorn
      simpa [failureContained, hch, htorn] using h
  | close o =>
      intro ch hch hends
      simp only [failureContained, hch, Bool.or_eq_true] at h
      refine h.resolve_left fun hquiet => ?_
      rcases hends with hflush | ⟨hrenamed, hfull⟩
      · simp [hflush] at hquiet
      · simp [hrenamed, hfull] at hquiet

section Witness

/-- A mounted disk without files and uploads. -/
private def emptyState : State where
  store :=
    { disk := Disk.empty
      pending := ∅
      closed := ∅
      nextId := 0 }
  offer := none
  channel := none

private theorem initial_emptyState (F C : Path) : Initial F C emptyState :=
  ⟨nofun, nofun, rfl, rfl, rfl⟩

private def closes : CompleteOutcome := ⟨true, true, true⟩

private def tornRun : List Event :=
  [.start (.works 0 0), .openChannel, .message 3 (some 1), .close closes]

/-- A write fails in its chunk, the next append reports it and is lost, and the channel ends. -/
private def containedRun : List Event :=
  [.start (.works 0 0), .openChannel, .message 2 (some 1), .message 1 none, .close closes,
    .start (.works 0 0), .openChannel, .message 5 none, .close closes]

private def finalFile (s : State) : Option (List UInt8) :=
  s.store.disk.contents (filePathOf "" "a.bin")

/-- The file that is renamed is too short: nobody asks for the error of its last write. -/
theorem torn_ft_upload_is_renamed :
    Initial (filePathOf "" "a.bin") (fileCachePathOf "" "a.bin") emptyState ∧
    ∃ s, Reach (step "" "a.bin" [1, 2, 3]) Run.anyStep emptyState s ∧
      s.store.disk.contents (filePathOf "" "a.bin") = some [1] := by
  refine ⟨initial_emptyState _ _, ?_⟩
  have hexec : (Run.exec (step "" "a.bin" [1, 2, 3]) (fun _ _ => true) emptyState tornRun).map
      finalFile = some (some [1]) := by decide +kernel
  exact Run.exists_reach_of_exec (fun _ _ _ => trivial) hexec

theorem ft_upload_delivers_contained :
    ∃ s xs, Reach (step "" "a.bin" [1, 2, 3]) (FailureContained [1, 2, 3]) emptyState s ∧
      s.store.disk.contents (filePathOf "" "a.bin") = some xs ∧ xs = [1, 2, 3] := by
  have hexec : (Run.exec (step "" "a.bin" [1, 2, 3]) (failureContained [1, 2, 3]) emptyState
      containedRun).map (fun s => (finalFile s).isSome) = some true := by decide +kernel
  obtain ⟨s, hrun, hsome⟩ := Run.exists_reach_of_exec failureContained_sound hexec
  obtain ⟨xs, hxs⟩ := Option.isSome_iff_exists.mp hsome
  exact ⟨s, xs, hrun, hxs, ft_upload_delivers "" "a.bin" [1, 2, 3] (initial_emptyState _ _)
    hrun xs hxs⟩

end Witness

end ArkKvm.FtUpload.Delivery
