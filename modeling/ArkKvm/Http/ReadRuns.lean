import ArkKvm.Http.ReadCorrect

/-!
# Runs of `read_at`

The state of a run is the reader together with the history variable of the
block cache.  A step is one `read_at` call inside the image.
-/

namespace ArkKvm.Http

open ArkKvm.Lib.Bytes ArkKvm.Lib.Run

structure ReadCall where
  off : Int
  buf : List UInt8

structure RunState where
  reader : HttpRangeReader
  stored : Stored

def initial (image : List UInt8) : RunState := ⟨.new image.length, fun _ => false⟩

/-- The history variable after a `read_at` call: the two stores of `readAt`
mark what they copy. -/
def storedAfter (srv : Server) (s : RunState) (off : Int) (buf : List UInt8) : Stored :=
  let r := s.reader
  if off < 0 then s.stored
  else if buf.isEmpty then s.stored
  else
    match tryReadBlockCache r.prefetch.cache off buf.length buf with
    | (_, some _, _) => s.stored
    | (cache, none, missBuf) =>
        let p := { r.prefetch with cache := cache }.beginReadWithPrefetchState off buf.length
        match HttpRangeReader.readAtWithPrefetch srv { r with prefetch := p } off buf.length
            missBuf with
        | (_, .error _, _) => s.stored
        | (r, .ok (some n), out) => markStored r.prefetch.cache off (out.take n) s.stored
        | (r, .ok none, missBuf) =>
            match HttpRangeReader.readAtDirect srv off (off + buf.length - 1) buf.length
                httpRangeReadReissueMax r.requestSeq 0 missBuf with
            | (_, .error _, _) => s.stored
            | (_, .ok total, out) => markStored r.prefetch.cache off (out.take total) s.stored

def stepRead (srv : Server) (s : RunState) (call : ReadCall) : Option RunState :=
  some ⟨(s.reader.readAt srv call.off call.buf).1, storedAfter srv s call.off call.buf⟩

/-- The calls that `read_at` is made for: inside the image, with a buffer whose
length is a `usize`. -/
structure InRange (s : RunState) (call : ReadCall) : Prop where
  off_nonneg : 0 ≤ call.off
  end_le : call.off + call.buf.length ≤ s.reader.size
  usize : call.buf.length < 2 ^ 32

def FillsBuffer (s : RunState) (call : ReadCall) : Prop :=
  let p := s.reader.prefetch.beginReadWithPrefetchState call.off call.buf.length
  ¬AllCached s.reader.prefetch.cache call.off call.buf.length ∧
    call.buf.length ≤ httpPrefetchChunkSize ∧ p.enabled = true ∧
    p.inCache call.off call.buf.length = false

/-- The read asks the block cache for no byte that was never stored, and does
not fill the prefetch buffer when the length of the rest of the image is a
multiple of `2 ^ 32`. -/
structure AvoidsDefects (s : RunState) (call : ReadCall) : Prop where
  covered : Covered s.reader.prefetch.cache s.stored call.off call.buf.length
  no_wrap : call.buf ≠ [] → FillsBuffer s call → (s.reader.size - call.off) % 2 ^ 32 ≠ 0

/-- A call that returns `Ok(n)` read `n` bytes of the image, and at least one
if it asked for any. -/
def ReadOk (image : List UInt8) (call : ReadCall) (result : Except ReadError Nat)
    (buf : List UInt8) : Prop :=
  ∀ n, result = .ok n →
    (call.buf ≠ [] → 1 ≤ n) ∧ n ≤ call.buf.length ∧ buf.take n = slice image call.off.toNat n

structure ReaderOk (image : List UInt8) (s : RunState) : Prop where
  size : s.reader.size = image.length
  cache : CacheOk image s.reader.prefetch.cache s.stored
  buffer : BufferOk image s.reader.prefetch

theorem readerOk_initial (image : List UInt8) : ReaderOk image (initial image) where
  size := rfl
  cache := cacheOk_new image _ _
  buffer := BufferOk.of_empty rfl rfl

theorem beginRead_with_cache (p : PrefetchState) (cache : BlockCache) (off : Int) (want : Nat) :
    { p with cache := cache }.beginReadWithPrefetchState off want =
      { p.beginReadWithPrefetchState off want with cache := cache } := by
  have hcount : { p with cache := cache }.countRead off want =
      { p.countRead off want with cache := cache } := by
    unfold PrefetchState.countRead PrefetchState.clearBuffer
    have hseq : { p with cache := cache }.isSequential off = p.isSequential off := rfl
    have hin : { p with cache := cache }.inCache off want = p.inCache off want := rfl
    rw [hseq, hin]
    split
    · rfl
    · split
      · rfl
      · split <;> rfl
  unfold PrefetchState.beginReadWithPrefetchState
  dsimp only
  rw [hcount]
  split <;> rfl

theorem CacheOk.of_map {image : List UInt8} {cache cache' : BlockCache} {stored : Stored}
    (h : CacheOk image cache stored) (hmap : cache'.map = cache.map) :
    CacheOk image cache' stored := by
  intro k data hl
  exact h k data (hmap ▸ hl)

theorem take_eq_slice {image buf : List UInt8} {off n : Nat}
    (h : ∀ i < n, buf[i]? = image[off + i]?) : buf.take n = slice image off n := by
  have hwin : slice buf 0 n = slice image off n :=
    slice_eq_of_getElem? fun i hi => by simpa using h i hi
  simpa [slice] using hwin

theorem getElem?_take_of_bytes {image buf : List UInt8} {off n : Nat}
    (h : ∀ i < n, buf[i]? = image[off + i]?) :
    ∀ i < (buf.take n).length, (buf.take n)[i]? = image[off + i]? := by
  intro i hi
  rw [List.length_take] at hi
  rw [List.getElem?_take, if_pos (by omega)]
  exact h i (by omega)

section ReadOk

variable {image : List UInt8} {call : ReadCall} {out : List UInt8}

theorem ReadOk.of_error (e : ReadError) : ReadOk image call (.error e) out := by
  intro n hn
  cases hn

theorem ReadOk.of_bytes {n : Nat} (hpos : 1 ≤ n) (hle : n ≤ call.buf.length)
    (hbytes : ∀ i < n, out[i]? = image[call.off.toNat + i]?) :
    ReadOk image call (.ok n) out := by
  rintro m ⟨⟩
  exact ⟨fun _ => hpos, hle, take_eq_slice hbytes⟩

end ReadOk

theorem readAt_step {image : List UInt8} {srv : Server} (hsrv : Honest image srv)
    {s : RunState} {call : ReadCall} (hs : ReaderOk image s) (hrange : InRange s call)
    (hav : AvoidsDefects s call) :
    ReaderOk image ⟨(s.reader.readAt srv call.off call.buf).1,
        storedAfter srv s call.off call.buf⟩ ∧
      ReadOk image call (s.reader.readAt srv call.off call.buf).2.1
        (s.reader.readAt srv call.off call.buf).2.2 := by
  obtain ⟨off, buf⟩ := call
  obtain ⟨hoff, hend, husize⟩ := hrange
  obtain ⟨hcov, hwrap⟩ := hav
  dsimp only at hoff hend husize hcov hwrap ⊢
  unfold HttpRangeReader.readAt storedAfter
  have hnonneg : ¬off < 0 := by omega
  simp only [if_neg hnonneg]
  by_cases hempty : buf = []
  · subst hempty
    refine ⟨by simpa using ⟨hs.size, hs.cache, hs.buffer⟩, fun n hn => ?_⟩
    simp only [List.isEmpty_nil, if_true, Except.ok.injEq] at hn
    subst hn
    simp
  have hne : buf.isEmpty = false := by simpa using hempty
  have hpos : 0 < buf.length := List.length_pos_of_ne_nil hempty
  simp only [hne, Bool.false_eq_true, if_false]
  rcases hlook : tryReadBlockCache s.reader.prefetch.cache off buf.length buf with
    ⟨cache, hit, missBuf⟩
  have hcache : CacheOk image cache s.stored := by
    apply hs.cache.of_map
    have hmap := tryReadBlockCache_map s.reader.prefetch.cache off buf.length buf
    rwa [hlook] at hmap
  cases hit with
  | some n =>
      have hbytes := tryReadBlockCache_bytes hs.cache hoff hempty hcov (by rw [hlook])
      rw [hlook] at hbytes
      exact ⟨⟨hs.size, hcache, hs.buffer.congr rfl rfl rfl⟩,
        .of_bytes (by omega) (Nat.le_of_eq hbytes.1) (hbytes.1 ▸ hbytes.2)⟩
  | none =>
      have hmiss : ¬AllCached s.reader.prefetch.cache off buf.length :=
        not_allCached_of_miss hs.cache hempty (by rw [hlook])
      have hlen : missBuf.length = buf.length := by
        have hlen := length_tryReadBlockCache s.reader.prefetch.cache off buf
        rwa [hlook] at hlen
      dsimp only
      rw [beginRead_with_cache]
      set p := s.reader.prefetch.beginReadWithPrefetchState off buf.length with hp
      have hbuffer : BufferOk image { p with cache := cache } :=
        (hs.buffer.beginRead off buf.length).congr rfl rfl rfl
      set started : HttpRangeReader := { s.reader with prefetch := { p with cache := cache } }
      rcases hpre : HttpRangeReader.readAtWithPrefetch srv started off buf.length missBuf with
        ⟨r, result, out⟩
      have hfill : buf.length ≤ httpPrefetchChunkSize → started.prefetch.enabled = true →
          started.prefetch.inCache off buf.length = false → (started.size - off) % 2 ^ 32 ≠ 0 :=
        fun hsmall hen hin => hwrap hempty ⟨hmiss, hsmall, hen, hin⟩
      obtain ⟨hb, hc, hsz, hout, hres⟩ :=
        readAtWithPrefetch_spec (r := started) hsrv hbuffer hs.size hoff hend hpos hlen hfill hpre
      have hrcache : CacheOk image r.prefetch.cache s.stored := by
        rw [hc]
        exact hcache
      have hrsize : r.size = image.length := by
        rw [hsz]
        exact hs.size
      cases result with
      | error e => exact ⟨⟨hrsize, hrcache, hb⟩, .of_error e⟩
      | ok served =>
          cases served with
          | some n =>
              obtain ⟨hn, hle, hbytes⟩ := hres n rfl
              have hstore := hrcache.store hoff (getElem?_take_of_bytes hbytes)
              exact ⟨⟨hrsize, hstore, hb.congr rfl rfl rfl⟩, .of_bytes hn hle hbytes⟩
          | none =>
              dsimp only
              rcases hdir : HttpRangeReader.readAtDirect srv off (off + buf.length - 1) buf.length
                httpRangeReadReissueMax r.requestSeq 0 out with ⟨seq, result, out'⟩
              cases result with
              | error e => exact ⟨⟨hrsize, hrcache, hb⟩, .of_error e⟩
              | ok total =>
                  obtain ⟨htotal, hlen', hbytes⟩ := readAtDirect_spec hsrv hoff husize _ hpos hout
                    (fun i hi => absurd hi (Nat.not_lt_zero i)) hdir
                  subst htotal
                  have hstore := hrcache.store hoff (getElem?_take_of_bytes hbytes)
                  exact ⟨⟨hrsize, hstore, hb.congr rfl rfl rfl⟩,
                    .of_bytes hpos (Nat.le_refl _) hbytes⟩

/-- In every run whose calls avoid the padding of partly stored blocks and the
wrapped length, every call reads bytes of the image. -/
theorem readAt_reads_image {image : List UInt8} {srv : Server} (hsrv : Honest image srv)
    {s : RunState}
    (hreach : Reach (stepRead srv) (fun s call => InRange s call ∧ AvoidsDefects s call)
      (initial image) s)
    {call : ReadCall} (hrange : InRange s call) (hav : AvoidsDefects s call) :
    ReadOk image call (s.reader.readAt srv call.off call.buf).2.1
      (s.reader.readAt srv call.off call.buf).2.2 := by
  have hs : ReaderOk image s := by
    refine hreach.invariant (readerOk_initial image) fun s call s' hs hok hstep => ?_
    simp only [stepRead, Option.some.injEq] at hstep
    exact hstep ▸ (readAt_step hsrv hs hok.1 hok.2).1
  exact (readAt_step hsrv hs hrange hav).2

/-- A server for the image `[1, 2]` that knows three ranges. -/
def twoByteServer : Server := fun _ a b =>
  if a = 0 ∧ b = 0 then some ⟨206, some "bytes 0-0/2".toList, [1], false⟩
  else if a = 1 ∧ b = 1 then some ⟨206, some "bytes 1-1/2".toList, [2], false⟩
  else if a = 0 ∧ b = 1 then some ⟨206, some "bytes 0-1/2".toList, [1, 2], false⟩
  else none

theorem twoByteServer_honest : Honest [1, 2] twoByteServer := by
  intro seq a b resp start e total hresp hcr
  unfold twoByteServer at hresp
  split at hresp
  · next hab =>
      obtain ⟨rfl, rfl⟩ := hab
      obtain rfl := Option.some.inj hresp
      obtain ⟨rfl, rfl, -⟩ : (0, 0, 2) = (start, e, total) := Option.some.inj hcr
      decide
  · split at hresp
    · next hab =>
        obtain ⟨rfl, rfl⟩ := hab
        obtain rfl := Option.some.inj hresp
        obtain ⟨rfl, rfl, -⟩ : (1, 1, 2) = (start, e, total) := Option.some.inj hcr
        decide
    · split at hresp
      · next hab =>
          obtain ⟨rfl, rfl⟩ := hab
          obtain rfl := Option.some.inj hresp
          obtain ⟨rfl, rfl, -⟩ : (0, 1, 2) = (start, e, total) := Option.some.inj hcr
          decide
      · simp at hresp

/-- The run state after one call on the image `[1, 2]`. -/
def afterCall (call : ReadCall) : RunState :=
  ⟨((initial [1, 2]).reader.readAt twoByteServer call.off call.buf).1,
    storedAfter twoByteServer (initial [1, 2]) call.off call.buf⟩

/-- Reading the whole image twice: the second read is served from the cache. -/
theorem readAt_reads_image_twice :
    ((afterCall ⟨0, [0, 0]⟩).reader.readAt twoByteServer 0 [0, 0]).2.1 = .ok 2 ∧
      ReadOk [1, 2] ⟨0, [0, 0]⟩
        ((afterCall ⟨0, [0, 0]⟩).reader.readAt twoByteServer 0 [0, 0]).2.1
        ((afterCall ⟨0, [0, 0]⟩).reader.readAt twoByteServer 0 [0, 0]).2.2 := by
  have hrange : ∀ s : RunState, s.reader.size = 2 → InRange s ⟨0, [0, 0]⟩ := by
    intro s hs
    exact ⟨by decide, by rw [hs]; decide, by decide⟩
  have hfirst : AvoidsDefects (initial [1, 2]) ⟨0, [0, 0]⟩ := by
    refine ⟨fun hall => ?_, fun _ _ => by decide⟩
    exact absurd (hall 0 (by decide) (by decide)) (AList.notMem_empty 0)
  have hsecond : AvoidsDefects (afterCall ⟨0, [0, 0]⟩) ⟨0, [0, 0]⟩ := by
    refine ⟨fun _ g hlo hhi => ?_, fun _ _ => by decide +kernel⟩
    have hg : g = 0 ∨ g = 1 := by
      simp only [List.length_cons, List.length_nil] at hlo hhi
      omega
    rcases hg with rfl | rfl <;> decide +kernel
  have hreach : Reach (stepRead twoByteServer) (fun s call => InRange s call ∧ AvoidsDefects s call)
      (initial [1, 2]) (afterCall ⟨0, [0, 0]⟩) :=
    .tail .refl ⟨hrange _ rfl, hfirst⟩ rfl
  exact ⟨by decide +kernel,
    readAt_reads_image twoByteServer_honest hreach (hrange _ (by decide +kernel)) hsecond⟩

/-- Reading one byte of the image `[1, 2]` caches a block whose second byte is
padding; the next read returns that padding. -/
theorem readAt_serves_padding :
    ¬∀ (image : List UInt8) (srv : Server), Honest image srv →
      ∀ s, Reach (stepRead srv) InRange (initial image) s →
        ∀ call, InRange s call →
          ReadOk image call (s.reader.readAt srv call.off call.buf).2.1
            (s.reader.readAt srv call.off call.buf).2.2 := by
  intro h
  have hrange : InRange (initial [1, 2]) ⟨0, [0]⟩ := ⟨by decide, by decide, by decide⟩
  have hreach : Reach (stepRead twoByteServer) InRange (initial [1, 2]) (afterCall ⟨0, [0]⟩) :=
    .tail .refl hrange rfl
  have hread := h [1, 2] twoByteServer twoByteServer_honest _ hreach ⟨1, [0]⟩
    ⟨by decide, by decide +kernel, by decide⟩ 1 (by decide +kernel)
  have hpad : ((afterCall ⟨0, [0]⟩).reader.readAt twoByteServer 1 [0]).2.2.take 1 = [0] := by
    decide +kernel
  exact absurd (hpad.symm.trans hread.2.2) (by decide)

end ArkKvm.Http
