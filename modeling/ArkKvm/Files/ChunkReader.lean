import ArkKvm.Lib.Bytes

/-!
# Streaming a file in chunks

`LocalFileReader` of `services/local_file.rs` and `AsyncFileReader` of `hardware/fs_remote.rs`.
Both read a window of a file in chunks until a read answers `None`.  The remaining length is a
`u64` that is cast to a 32-bit `usize` before the minimum with the chunk size is taken, so a
window delivers its length modulo `2 ^ 32`.  The file does not change during a transfer; how its
reads are split is up to the run.
-/

namespace ArkKvm.Files

open Lib.Bytes

structure Handle where
  content : List UInt8
  offset : Nat

abbrev Split := Nat → Nat → Nat

variable (split : Split)

/-- `file.read`: at least one byte, except at the end of the file or for an empty buffer. -/
def Handle.read (h : Handle) (want : Nat) : List UInt8 :=
  slice h.content h.offset (min (max 1 (split h.offset want)) want)

def Handle.advance (h : Handle) (n : Nat) : Handle := { h with offset := h.offset + n }

def fill (h : Handle) (want : Nat) : List UInt8 :=
  if want = 0 then []
  else if _hread : h.read split want = [] then []
  else h.read split want ++
    fill (h.advance (h.read split want).length) (want - (h.read split want).length)
termination_by want
decreasing_by
  have hpos : 0 < (h.read split want).length := List.length_pos_iff.mpr _hread
  omega

def nextChunk (chunkSize remaining : Nat) (h : Handle) : List UInt8 :=
  fill split h (min chunkSize (remaining % 2 ^ 32))

/-! ## LocalFileReader -/

/-- The first and the last byte of a range. -/
structure ByteRange where
  start : Nat
  «end» : Nat
deriving DecidableEq

def ByteRange.fullFile (fileSize : Nat) : ByteRange :=
  if fileSize = 0 then ⟨0, 0⟩ else ⟨0, fileSize - 1⟩

def localFileChunkSize : Nat := 4096

structure LocalFileReader where
  file : Handle
  chunkSize : Nat
  rangeStart : Nat
  currentPosition : Nat
  endPosition : Nat
  fileSize : Nat

namespace LocalFileReader

def rangeLen (r : LocalFileReader) : Nat :=
  if r.fileSize = 0 then 0 else r.endPosition - r.rangeStart + 1

def readNextChunk (r : LocalFileReader) : Option (List UInt8) × LocalFileReader :=
  if r.endPosition < r.currentPosition then (none, r)
  else
    let buffer := nextChunk split r.chunkSize (r.endPosition - r.currentPosition + 1) r.file
    if buffer = [] then (none, r)
    else (some buffer,
      { r with
        file := r.file.advance buffer.length
        currentPosition := r.currentPosition + buffer.length })

theorem readNextChunk_some {r r' : LocalFileReader} {buffer : List UInt8}
    (h : r.readNextChunk split = (some buffer, r')) :
    r.currentPosition ≤ r.endPosition ∧ buffer ≠ [] ∧
      buffer = nextChunk split r.chunkSize (r.endPosition - r.currentPosition + 1) r.file ∧
      r' = { r with
        file := r.file.advance buffer.length
        currentPosition := r.currentPosition + buffer.length } := by
  unfold readNextChunk at h
  dsimp only at h
  by_cases hend : r.endPosition < r.currentPosition
  · rw [if_pos hend] at h
    cases h
  · rw [if_neg hend] at h
    split at h
    · cases h
    · next hne =>
        cases h
        exact ⟨not_lt.mp hend, hne, rfl, rfl⟩

/-- The chunks that a transfer sends, one after the other. -/
def collect (r : LocalFileReader) : List UInt8 :=
  match _h : r.readNextChunk split with
  | (none, _) => []
  | (some buffer, r') => buffer ++ r'.collect
termination_by r.endPosition + 1 - r.currentPosition
decreasing_by
  obtain ⟨hle, hne, -, rfl⟩ := readNextChunk_some split _h
  have hpos : 0 < buffer.length := List.length_pos_iff.mpr hne
  dsimp only
  omega

end LocalFileReader

/-- The range that a transfer without one asks for. -/
def requested (content : List UInt8) (range : Option ByteRange) : ByteRange :=
  range.getD (.fullFile content.length)

def ByteRange.endPosition (w : ByteRange) (fileSize : Nat) : Nat :=
  if fileSize = 0 then 0 else min w.end (fileSize - 1)

def openLocalFileReader (content : List UInt8) (range : Option ByteRange) :
    Except String LocalFileReader :=
  let fileSize := content.length
  let range := requested content range
  if 0 < fileSize ∧ fileSize ≤ range.start then .error "range start beyond file size"
  else if range.endPosition fileSize < range.start ∧ 0 < fileSize then
    .error "invalid byte range"
  else
    -- a full file is read without a seek
    let seeks := 0 < range.start ∨ (0 < fileSize ∧ range.endPosition fileSize < fileSize - 1)
    .ok
      { file := { content := content, offset := if seeks then range.start else 0 }
        chunkSize := localFileChunkSize
        rangeStart := range.start
        currentPosition := range.start
        endPosition := range.endPosition fileSize
        fileSize := fileSize }

/-! ## AsyncFileReader -/

structure AsyncFileReader where
  file : Handle
  chunkSize : Nat
  currentPosition : Nat
  fileSize : Nat

def createAsyncReader (content : List UInt8) (chunkSize : Nat) : AsyncFileReader where
  file := { content := content, offset := 0 }
  chunkSize := chunkSize
  currentPosition := 0
  fileSize := content.length

def fsDownloadFile (content : List UInt8) : AsyncFileReader := createAsyncReader content (1024 * 4)

namespace AsyncFileReader

def readNextChunk (r : AsyncFileReader) : Option (List UInt8) × AsyncFileReader :=
  if r.fileSize ≤ r.currentPosition then (none, r)
  else
    let buffer := nextChunk split r.chunkSize (r.fileSize - r.currentPosition) r.file
    let r' := { r with
      file := r.file.advance buffer.length
      currentPosition := r.currentPosition + buffer.length }
    if buffer = [] then (none, r') else (some buffer, r')

theorem readNextChunk_some {r r' : AsyncFileReader} {buffer : List UInt8}
    (h : r.readNextChunk split = (some buffer, r')) :
    r.currentPosition < r.fileSize ∧ buffer ≠ [] ∧
      buffer = nextChunk split r.chunkSize (r.fileSize - r.currentPosition) r.file ∧
      r' = { r with
        file := r.file.advance buffer.length
        currentPosition := r.currentPosition + buffer.length } := by
  unfold readNextChunk at h
  dsimp only at h
  by_cases hend : r.fileSize ≤ r.currentPosition
  · rw [if_pos hend] at h
    cases h
  · rw [if_neg hend] at h
    split at h
    · cases h
    · next hne =>
        cases h
        exact ⟨not_le.mp hend, hne, rfl, rfl⟩

def collect (r : AsyncFileReader) : List UInt8 :=
  match _h : r.readNextChunk split with
  | (none, _) => []
  | (some buffer, r') => buffer ++ r'.collect
termination_by r.fileSize - r.currentPosition
decreasing_by
  obtain ⟨hlt, hne, -, rfl⟩ := readNextChunk_some split _h
  have hpos : 0 < buffer.length := List.length_pos_iff.mpr hne
  dsimp only
  omega

def skipBytes (r : AsyncFileReader) (bytes : Nat) : AsyncFileReader :=
  { r with
    file := { r.file with offset := min r.fileSize (r.currentPosition + bytes) }
    currentPosition := min r.fileSize (r.currentPosition + bytes) }

end AsyncFileReader

/-! ## What is delivered -/

theorem length_read (h : Handle) (want : Nat) :
    (h.read split want).length =
      min (min (max 1 (split h.offset want)) want) (h.content.length - h.offset) := by
  unfold Handle.read
  rw [length_slice]

/-- However its reads are split, the loop fills the buffer with the next bytes of the file. -/
theorem fill_eq_slice (h : Handle) (want : Nat) :
    fill split h want = slice h.content h.offset want := by
  induction h, want using fill.induct split with
  | case1 h => rw [fill, if_pos rfl, slice_zero]
  | case2 h want hwant hread =>
      rw [fill, if_neg hwant, dif_pos hread]
      have hlen := length_read split h want
      rw [hread, List.length_nil] at hlen
      symm
      apply List.eq_nil_of_length_eq_zero
      rw [length_slice]
      omega
  | case3 h want hwant hread ih =>
      rw [fill, if_neg hwant, dif_neg hread, ih]
      have hlen := length_read split h want
      have hle : (h.read split want).length ≤ want := by omega
      have hslices : h.read split want =
          slice h.content h.offset (h.read split want).length := by
        apply List.ext_getElem?
        intro i
        by_cases hi : i < (h.read split want).length
        · rw [getElem?_slice, if_pos hi]
          unfold Handle.read at hi ⊢
          rw [getElem?_slice, if_pos]
          rw [length_slice] at hi
          omega
        · rw [getElem?_slice, if_neg hi, List.getElem?_eq_none (not_lt.mp hi)]
      generalize (h.read split want).length = n at hle hslices ⊢
      show h.read split want ++ slice h.content (h.offset + n) (want - n) = _
      rw [hslices, slice_append_slice, Nat.add_sub_cancel' hle]

theorem nextChunk_eq (chunkSize remaining : Nat) (h : Handle) :
    nextChunk split chunkSize remaining h =
      slice h.content h.offset (min chunkSize (remaining % 2 ^ 32)) :=
  fill_eq_slice split h _

theorem truncated_step (chunkSize remaining : Nat) :
    (remaining - min chunkSize (remaining % 2 ^ 32)) % 2 ^ 32 =
      remaining % 2 ^ 32 - min chunkSize (remaining % 2 ^ 32) := by
  have hmod := Nat.mod_add_div remaining (2 ^ 32)
  have hlt := Nat.mod_lt remaining (show 0 < 2 ^ 32 by norm_num)
  have hle : min chunkSize (remaining % 2 ^ 32) ≤ remaining % 2 ^ 32 := min_le_right _ _
  have hsplit : remaining - min chunkSize (remaining % 2 ^ 32) =
      (remaining % 2 ^ 32 - min chunkSize (remaining % 2 ^ 32)) +
        2 ^ 32 * (remaining / 2 ^ 32) := by
    omega
  rw [hsplit, Nat.add_mul_mod_self_left]
  exact Nat.mod_eq_of_lt (by omega)

variable {content : List UInt8} {p chunkSize : Nat}

theorem chunk_append_rest (content : List UInt8) (p chunkSize remaining : Nat) :
    slice content p (min chunkSize (remaining % 2 ^ 32)) ++
        slice content (p + min chunkSize (remaining % 2 ^ 32))
          ((remaining - min chunkSize (remaining % 2 ^ 32)) % 2 ^ 32) =
      slice content p (remaining % 2 ^ 32) := by
  rw [truncated_step, slice_append_slice, Nat.add_sub_cancel' (min_le_right _ _)]

theorem slice_eq_nil_of_chunk {n : Nat} (hchunk : 0 < chunkSize)
    (h : slice content p (min chunkSize n) = []) : slice content p n = [] := by
  have hlen := congrArg List.length h
  rw [length_slice, List.length_nil] at hlen
  apply List.eq_nil_of_length_eq_zero
  rw [length_slice]
  omega

theorem length_chunk (chunkSize : Nat) {remaining : Nat} (h : p + remaining ≤ content.length) :
    (slice content p (min chunkSize (remaining % 2 ^ 32))).length =
      min chunkSize (remaining % 2 ^ 32) := by
  have hmod := Nat.mod_le remaining (2 ^ 32)
  apply length_slice_of_le
  omega

theorem LocalFileReader.collect_eq (r : LocalFileReader) (hchunk : 0 < r.chunkSize)
    (hoffset : r.file.offset = r.currentPosition)
    (hend : r.endPosition < r.file.content.length) :
    r.collect split =
      slice r.file.content r.currentPosition
        ((r.endPosition + 1 - r.currentPosition) % 2 ^ 32) := by
  induction r using LocalFileReader.collect.induct split with
  | case1 r r' hnone =>
      rw [collect, hnone]
      dsimp only
      unfold readNextChunk at hnone
      by_cases hpast : r.endPosition < r.currentPosition
      · have hzero : r.endPosition + 1 - r.currentPosition = 0 := by omega
        rw [hzero, Nat.zero_mod, slice_zero]
      · rw [if_neg hpast] at hnone
        dsimp only at hnone
        split at hnone
        · next hempty =>
            have hrem : r.endPosition - r.currentPosition + 1 =
                r.endPosition + 1 - r.currentPosition := by omega
            rw [nextChunk_eq, hoffset, hrem] at hempty
            exact (slice_eq_nil_of_chunk hchunk hempty).symm
        · cases hnone
  | case2 r buffer r' hsome ih =>
      obtain ⟨hle, -, hbuffer, hr'⟩ := readNextChunk_some split hsome
      have hrem : r.endPosition - r.currentPosition + 1 =
          r.endPosition + 1 - r.currentPosition := by omega
      rw [nextChunk_eq, hoffset, hrem] at hbuffer
      have hlen := length_chunk r.chunkSize
        (show r.currentPosition + (r.endPosition + 1 - r.currentPosition) ≤
          r.file.content.length by omega)
      rw [← hbuffer] at hlen
      rw [collect, hsome]
      dsimp only
      rw [hr'] at ih ⊢
      rw [ih hchunk (congrArg (· + buffer.length) hoffset) hend]
      have hleft : r.endPosition + 1 - (r.currentPosition + buffer.length) =
          r.endPosition + 1 - r.currentPosition - buffer.length := by omega
      show buffer ++ slice r.file.content (r.currentPosition + buffer.length)
        ((r.endPosition + 1 - (r.currentPosition + buffer.length)) % 2 ^ 32) = _
      rw [hleft, hlen, hbuffer]
      exact chunk_append_rest ..

theorem AsyncFileReader.collect_eq (r : AsyncFileReader) (hchunk : 0 < r.chunkSize)
    (hoffset : r.file.offset = r.currentPosition)
    (hsize : r.fileSize = r.file.content.length) :
    r.collect split =
      slice r.file.content r.currentPosition ((r.fileSize - r.currentPosition) % 2 ^ 32) := by
  induction r using AsyncFileReader.collect.induct split with
  | case1 r r' hnone =>
      rw [collect, hnone]
      dsimp only
      unfold readNextChunk at hnone
      by_cases hpast : r.fileSize ≤ r.currentPosition
      · have hzero : r.fileSize - r.currentPosition = 0 := by omega
        rw [hzero, Nat.zero_mod, slice_zero]
      · rw [if_neg hpast] at hnone
        dsimp only at hnone
        split at hnone
        · next hempty =>
            rw [nextChunk_eq, hoffset] at hempty
            exact (slice_eq_nil_of_chunk hchunk hempty).symm
        · cases hnone
  | case2 r buffer r' hsome ih =>
      obtain ⟨hlt, -, hbuffer, hr'⟩ := readNextChunk_some split hsome
      rw [nextChunk_eq, hoffset] at hbuffer
      have hlen := length_chunk r.chunkSize
        (show r.currentPosition + (r.fileSize - r.currentPosition) ≤ r.file.content.length by omega)
      rw [← hbuffer] at hlen
      rw [collect, hsome]
      dsimp only
      rw [hr'] at ih ⊢
      rw [ih hchunk (congrArg (· + buffer.length) hoffset) hsize]
      show buffer ++ slice r.file.content (r.currentPosition + buffer.length)
        ((r.fileSize - (r.currentPosition + buffer.length)) % 2 ^ 32) = _
      rw [← Nat.sub_sub, hlen, hbuffer]
      exact chunk_append_rest ..

/-! ## Whole ranges -/

/-- The number of bytes of the file in a range. -/
def ByteRange.bytesIn (w : ByteRange) (content : List UInt8) : Nat :=
  min (w.end + 1) content.length - w.start

/-- The bytes of the file in a range. -/
def ByteRange.window (w : ByteRange) (content : List UInt8) : List UInt8 :=
  slice content w.start (w.end + 1 - w.start)

theorem ByteRange.length_window (w : ByteRange) (content : List UInt8) :
    (w.window content).length = w.bytesIn content := by
  unfold window bytesIn
  rw [length_slice]
  omega

theorem openLocalFileReader_ok {range : Option ByteRange} {r : LocalFileReader}
    (h : openLocalFileReader content range = .ok r) :
    r.file = ⟨content, r.currentPosition⟩ ∧ r.chunkSize = localFileChunkSize ∧
      r.currentPosition = (requested content range).start ∧
      r.rangeStart = (requested content range).start ∧ r.fileSize = content.length ∧
      r.endPosition = (requested content range).endPosition content.length ∧
      (0 < content.length → r.rangeStart ≤ r.endPosition) := by
  unfold openLocalFileReader at h
  dsimp only at h
  split at h
  · cases h
  · split at h
    · cases h
    · next hstart =>
        cases h
        dsimp only
        refine ⟨?_, rfl, rfl, rfl, rfl, rfl, fun hpos => ?_⟩
        · congr 1
          split
          · rfl
          · next hseek =>
              have : ¬ 0 < (requested content range).start := fun h => hseek (.inl h)
              omega
        · by_contra hlt
          exact hstart ⟨not_le.mp hlt, hpos⟩

theorem LocalFileReader.collect_of_empty (r : LocalFileReader) (h : r.file.content = []) :
    r.collect split = [] := by
  have hchunk :
      nextChunk split r.chunkSize (r.endPosition - r.currentPosition + 1) r.file = [] := by
    rw [nextChunk_eq, h]
    unfold slice
    rw [List.drop_nil, List.take_nil]
  have hnone : r.readNextChunk split = (none, r) := by
    unfold readNextChunk
    dsimp only
    rw [hchunk, if_pos rfl, ite_self]
  rw [collect, hnone]

theorem collect_of_open {range : Option ByteRange} {r : LocalFileReader}
    (h : openLocalFileReader content range = .ok r) :
    r.collect split = slice content (requested content range).start
        ((requested content range).bytesIn content % 2 ^ 32) ∧
      r.rangeLen = (requested content range).bytesIn content := by
  obtain ⟨hfile, hchunk, hposition, hstart, hsize, hend, hle⟩ := openLocalFileReader_ok h
  have hcontent : r.file.content = content := by rw [hfile]
  unfold LocalFileReader.rangeLen ByteRange.bytesIn
  by_cases hempty : content.length = 0
  · have hnil : content = [] := List.eq_nil_of_length_eq_zero hempty
    constructor
    · rw [r.collect_of_empty split (hcontent.trans hnil), hnil]
      unfold slice
      rw [List.drop_nil, List.take_nil]
    · rw [hsize, if_pos hempty]
      omega
  · unfold ByteRange.endPosition at hend
    rw [if_neg hempty] at hend
    have hpos : 0 < content.length := by omega
    have hrange := hle hpos
    have hlen : r.endPosition + 1 - (requested content range).start =
        min ((requested content range).end + 1) content.length -
          (requested content range).start := by
      omega
    constructor
    · rw [r.collect_eq split (by rw [hchunk]; decide) (by rw [hfile]) (by rw [hcontent]; omega),
        hcontent, hposition, hlen]
    · rw [hsize, if_neg hempty]
      omega

theorem slice_mod_eq_iff {n : Nat} (h : p + n ≤ content.length) :
    slice content p (n % 2 ^ 32) = slice content p n ↔ n < 2 ^ 32 := by
  constructor
  · intro heq
    have hlen := congrArg List.length heq
    have hmod := Nat.mod_le n (2 ^ 32)
    rw [length_slice_of_le h, length_slice_of_le (by omega)] at hlen
    exact (Nat.mod_eq_iff_lt (by norm_num)).mp hlen
  · intro hlt
    rw [Nat.mod_eq_of_lt hlt]

theorem ByteRange.window_eq (w : ByteRange) (content : List UInt8) :
    w.window content = slice content w.start (w.bytesIn content) := by
  unfold window bytesIn slice
  rw [List.take_eq_take_iff, List.length_drop]
  omega

theorem ByteRange.bytesIn_le {w : ByteRange} (h : 0 < w.bytesIn content) :
    w.start + w.bytesIn content ≤ content.length := by
  unfold bytesIn at h ⊢
  omega

theorem ByteRange.slice_bytesIn_iff (w : ByteRange) (content : List UInt8) :
    slice content w.start (w.bytesIn content % 2 ^ 32) = w.window content ↔
      w.bytesIn content < 2 ^ 32 := by
  rw [window_eq]
  by_cases hpos : 0 < w.bytesIn content
  · exact slice_mod_eq_iff (bytesIn_le hpos)
  · have hzero : w.bytesIn content = 0 := by omega
    rw [hzero]
    exact ⟨fun _ => by norm_num, fun _ => rfl⟩

/-- After a skip the rest of the file is delivered up to a multiple of `2 ^ 32` bytes. -/
theorem collect_of_skip (content : List UInt8) (offset : Nat) :
    ((fsDownloadFile content).skipBytes offset).collect split =
      slice content (min content.length offset)
        ((content.length - min content.length offset) % 2 ^ 32) := by
  have h := AsyncFileReader.collect_eq split ((fsDownloadFile content).skipBytes offset)
    (show 0 < 1024 * 4 by norm_num) rfl rfl
  rw [h]
  unfold AsyncFileReader.skipBytes fsDownloadFile createAsyncReader
  dsimp only
  rw [Nat.zero_add]

/-- Both readers deliver the whole window, however their reads are split, exactly when it is
shorter than `2 ^ 32` bytes. -/
theorem readers_deliver_iff (content : List UInt8) {range : Option ByteRange}
    {r : LocalFileReader} (hopen : openLocalFileReader content range = .ok r) (offset : Nat) :
    ((∀ split, r.collect split = (requested content range).window content ∧
        (r.collect split).length = r.rangeLen) ↔
      (requested content range).bytesIn content < 2 ^ 32) ∧
    ((∀ split, ((fsDownloadFile content).skipBytes offset).collect split =
        content.drop (min offset content.length)) ↔
      content.length - offset < 2 ^ 32) := by
  constructor
  · have hiff := (requested content range).slice_bytesIn_iff content
    constructor
    · intro h
      exact hiff.mp ((collect_of_open (fun _ _ => 1) hopen).1.symm.trans (h fun _ _ => 1).1)
    · intro hlt split
      have hcollect : r.collect split = (requested content range).window content :=
        (collect_of_open split hopen).1.trans (hiff.mpr hlt)
      refine ⟨hcollect, ?_⟩
      rw [hcollect, ByteRange.length_window, (collect_of_open split hopen).2]
  · have hrest : content.drop (min offset content.length) =
        slice content (min content.length offset)
          (content.length - min content.length offset) := by
      unfold slice
      rw [min_comm, List.take_of_length_le (by rw [List.length_drop])]
    have hiff := slice_mod_eq_iff (show min content.length offset +
      (content.length - min content.length offset) ≤ content.length by omega)
    have hlen : content.length - min content.length offset = content.length - offset := by omega
    constructor
    · intro h
      rw [← hlen]
      exact hiff.mp ((collect_of_skip (fun _ _ => 1) content offset).symm.trans
        ((h fun _ _ => 1).trans hrest))
    · intro hlt split
      rw [← hlen] at hlt
      exact (collect_of_skip split content offset).trans ((hiff.mpr hlt).trans hrest.symm)

theorem readers_deliver_five :
    openLocalFileReader [1, 2, 3, 4, 5] (some ⟨1, 3⟩) =
        .ok ⟨⟨[1, 2, 3, 4, 5], 1⟩, 4096, 1, 1, 3, 5⟩ ∧
      (∀ split, (⟨⟨[1, 2, 3, 4, 5], 1⟩, 4096, 1, 1, 3, 5⟩ : LocalFileReader).collect split =
        [2, 3, 4]) ∧
      ∀ split, ((fsDownloadFile [1, 2, 3, 4, 5]).skipBytes 2).collect split = [3, 4, 5] := by
  have hopen : openLocalFileReader [1, 2, 3, 4, 5] (some ⟨1, 3⟩) =
      .ok ⟨⟨[1, 2, 3, 4, 5], 1⟩, 4096, 1, 1, 3, 5⟩ := rfl
  have h := readers_deliver_iff [1, 2, 3, 4, 5] hopen 2
  exact ⟨hopen, fun split => (h.1.mpr (by decide) split).1, h.2.mpr (by decide)⟩

theorem openLocalFileReader_full (h : 0 < content.length) :
    ∃ r, openLocalFileReader content none = .ok r := by
  have hfull : requested content none = ⟨0, content.length - 1⟩ := by
    unfold requested ByteRange.fullFile
    rw [Option.getD_none, if_neg (by omega)]
  unfold openLocalFileReader
  dsimp only
  rw [hfull, if_neg (by dsimp only; omega), if_neg (by dsimp only; omega)]
  exact ⟨_, rfl⟩

/-- A file of exactly `2 ^ 32` bytes: both readers end before the first byte. -/
theorem four_gib_delivers_nothing :
    ∃ content : List UInt8, content.length = 2 ^ 32 ∧
      (∃ r, openLocalFileReader content none = .ok r ∧ r.rangeLen = 2 ^ 32 ∧
        ∀ split, r.collect split = []) ∧
      ∀ split, ((fsDownloadFile content).skipBytes 0).collect split = [] := by
  obtain ⟨content, hlen⟩ : ∃ content : List UInt8, content.length = 2 ^ 32 :=
    ⟨List.replicate (2 ^ 32) 1, List.length_replicate⟩
  have hbytes : (requested content none).bytesIn content = 2 ^ 32 := by
    unfold requested ByteRange.fullFile ByteRange.bytesIn
    rw [Option.getD_none, if_neg (by omega), hlen]
    norm_num
  refine ⟨content, hlen, ?_, fun split => ?_⟩
  · obtain ⟨r, hopen⟩ := openLocalFileReader_full (show 0 < content.length by omega)
    refine ⟨r, hopen, ?_, fun split => ?_⟩
    · rw [(collect_of_open (fun _ _ => 1) hopen).2, hbytes]
    · rw [(collect_of_open split hopen).1, hbytes, Nat.mod_self, slice_zero]
  · rw [collect_of_skip, hlen, Nat.min_zero, Nat.sub_zero, Nat.mod_self, slice_zero]

end ArkKvm.Files
