import ArkKvm.Http.Coverage
import ArkKvm.Lib.Run

/-!
# Reads of a remote image

Every read of a run returns bytes of the image, as long as the block cache is
never asked for bytes that were not fetched and the rest of the image does not
wrap to zero in `usize`.  `ReaderOk` is the invariant that carries the proof:
the three places a byte can come from agree with the image.
-/

namespace ArkKvm.Http

open ArkKvm.Lib.Bytes ArkKvm.Lib.Run

/-! ## The server -/

/-- An answer to `bytes=a-b` is an error, or it announces a range that starts
at `a` and ends inside the request and carries the bytes of the image.  A
transfer that breaks off is an error as well. -/
def HonestAnswer (image : List UInt8) (a b : Int) (answer : Option Response) : Prop :=
  ∀ resp start e total, answer = some resp →
    resp.contentRange.bind parseContentRange = some (start, e, total) →
    start = a ∧ a ≤ e ∧ e ≤ b ∧
      (resp.body.fails = false → resp.body.data = slice image a.toNat (e - a + 1).toNat)

def Honest (image : List UInt8) (srv : Server) : Prop :=
  ∀ seq a b, HonestAnswer image a b (srv seq a b)

theorem length_readBody (body : Body) (reqOff reqEnd gotStart gotEnd : Int) (out : List UInt8) :
    (readBody body reqOff reqEnd gotStart gotEnd out).2.length = out.length := by
  unfold readBody
  split
  · rfl
  · dsimp only
    split
    · rfl
    · split
      · rfl
      · have hlen : (splice out 0 (body.data.take (asUsize (gotEnd - gotStart + 1)))).length =
            out.length := by
          apply length_splice
          rw [List.length_take]
          omega
        split
        · split <;> exact hlen
        · split
          · exact hlen
          · split <;> exact hlen

theorem length_fetchRangeOnce (answer : Option Response) (reqOff reqEnd : Int)
    (out : List UInt8) : (fetchRangeOnce answer reqOff reqEnd out).2.length = out.length := by
  unfold fetchRangeOnce
  split
  · rfl
  · split
    · rfl
    · exact length_readBody _ _ _ _ _ _

theorem fetchRangeOnce_spec {image : List UInt8} {answer : Option Response} {a b : Int}
    {out out' : List UInt8} {n : Nat} (hsrv : HonestAnswer image a b answer) (ha : 0 ≤ a)
    (hout : (out.length : Int) = b - a + 1) (husize : out.length < 2 ^ 32)
    (h : fetchRangeOnce answer a b out = (.ok n, out')) :
    1 ≤ n ∧ n ≤ out.length ∧ ∀ i < n, out'[i]? = image[a.toNat + i]? := by
  unfold fetchRangeOnce at h
  cases answer with
  | none => simp at h
  | some resp =>
      cases hcr : resp.contentRange.bind parseContentRange with
      | none => simp [hcr] at h
      | some cr =>
          obtain ⟨start, e, total⟩ := cr
          obtain ⟨rfl, hae, heb, hbody⟩ := hsrv resp start e total rfl hcr
          simp only [hcr] at h
          unfold readBody at h
          rw [if_neg (by omega)] at h
          have hexp : (asUsize (e - start + 1) : Int) = e - start + 1 :=
            asUsize_of_nonneg (by omega) (by omega)
          set expected := asUsize (e - start + 1)
          dsimp only at h
          rw [if_neg (by omega), if_neg (by omega)] at h
          split at h
          · split at h <;> simp at h
          · next hlong =>
              split at h
              · simp at h
              · next hshort =>
                  split at h
                  · simp at h
                  · next hfails =>
                      simp only [Prod.mk.injEq, Except.ok.injEq] at h
                      obtain ⟨rfl, rfl⟩ := h
                      have hdata := hbody (by simpa using hfails)
                      have htake : (resp.body.data.take expected).length = expected := by
                        rw [List.length_take]
                        omega
                      refine ⟨by omega, by omega, fun i hi => ?_⟩
                      rw [getElem?_splice (by omega), htake, if_pos (by omega),
                        List.getElem?_take, if_pos (by omega), hdata, getElem?_slice,
                        if_pos (by omega)]
                      congr 1

/-! ## The direct path -/

theorem direct_pass {image : List UInt8} {answer : Option Response} {off : Int}
    {want total n : Nat} {buf out : List UInt8}
    (hsrv : HonestAnswer image (off + total) (off + want - 1) answer) (hoff : 0 ≤ off)
    (husize : want < 2 ^ 32) (htotal : total < want) (hbuf : buf.length = want)
    (hbytes : ∀ i < total, buf[i]? = image[off.toNat + i]?)
    (h : fetchRangeOnce answer (off + total) (off + want - 1) (slice buf total (want - total)) =
      (.ok n, out)) :
    1 ≤ n ∧ total + n ≤ want ∧ (splice buf total out).length = want ∧
      ∀ i < total + n, (splice buf total out)[i]? = image[off.toNat + i]? := by
  have hslice : (slice buf total (want - total)).length = want - total :=
    length_slice_of_le (by omega)
  have hout : out.length = want - total := by
    have hlen := length_fetchRangeOnce answer (off + total) (off + want - 1)
      (slice buf total (want - total))
    rw [h, hslice] at hlen
    exact hlen
  obtain ⟨hn, hle, hnew⟩ := fetchRangeOnce_spec hsrv (by omega) (by omega) (by omega) h
  refine ⟨hn, by omega, by rw [length_splice (by omega), hbuf], fun i hi => ?_⟩
  rw [getElem?_splice (by omega)]
  by_cases hold : i < total
  · rw [if_neg (by omega), hbytes i hold]
  · rw [if_pos (by omega), hnew _ (by omega)]
    congr 1
    omega

theorem readAtDirect_spec {image : List UInt8} {srv : Server} (hsrv : Honest image srv)
    {off : Int} {want : Nat} (hoff : 0 ≤ off) (husize : want < 2 ^ 32) (left : Nat) :
    ∀ {seq total : Nat} {buf : List UInt8} {seq' n : Nat} {buf' : List UInt8},
      total < want → buf.length = want →
      (∀ i < total, buf[i]? = image[off.toNat + i]?) →
      HttpRangeReader.readAtDirect srv off (off + want - 1) want left seq total buf =
        (seq', .ok n, buf') →
      n = want ∧ buf'.length = want ∧ ∀ i < want, buf'[i]? = image[off.toNat + i]? := by
  induction left with
  | zero =>
      intro seq total buf seq' n buf' htotal hbuf hbytes h
      unfold HttpRangeReader.readAtDirect at h
      rw [if_pos htotal] at h
      dsimp only at h
      split at h
      · simp at h
      · next expected out hfetch =>
          obtain ⟨hn, hle, hlen, hpass⟩ :=
            direct_pass (hsrv _ _ _) hoff husize htotal hbuf hbytes hfetch
          split at h
          · simp at h
          · simp only [Prod.mk.injEq, Except.ok.injEq] at h
            obtain ⟨-, rfl, rfl⟩ := h
            exact ⟨by omega, hlen, fun i hi => hpass i (by omega)⟩
  | succ left ih =>
      intro seq total buf seq' n buf' htotal hbuf hbytes h
      unfold HttpRangeReader.readAtDirect at h
      rw [if_pos htotal] at h
      dsimp only at h
      split at h
      · simp at h
      · next expected out hfetch =>
          obtain ⟨hn, hle, hlen, hpass⟩ :=
            direct_pass (hsrv _ _ _) hoff husize htotal hbuf hbytes hfetch
          split at h
          · exact ih (by omega) hlen hpass h
          · simp only [Prod.mk.injEq, Except.ok.injEq] at h
            obtain ⟨-, rfl, rfl⟩ := h
            exact ⟨by omega, hlen, fun i hi => hpass i (by omega)⟩

/-! ## The prefetch path -/

structure BufferOk (image : List UInt8) (p : PrefetchState) : Prop where
  len_le : p.bufLen ≤ p.buf.length
  len_chunk : p.bufLen ≤ httpPrefetchChunkSize
  off_nonneg : 0 ≤ p.bufOff
  bytes : ∀ i < p.bufLen, p.buf[i]? = image[p.bufOff.toNat + i]?

namespace BufferOk

theorem of_empty {image : List UInt8} {p : PrefetchState} (hlen : p.bufLen = 0)
    (hoff : p.bufOff = 0) : BufferOk image p where
  len_le := by omega
  len_chunk := by omega
  off_nonneg := by omega
  bytes := fun i hi => by omega

theorem congr {image : List UInt8} {p p' : PrefetchState} (h : BufferOk image p)
    (hbuf : p'.buf = p.buf) (hlen : p'.bufLen = p.bufLen) (hoff : p'.bufOff = p.bufOff) :
    BufferOk image p' where
  len_le := by rw [hbuf, hlen]; exact h.len_le
  len_chunk := by rw [hlen]; exact h.len_chunk
  off_nonneg := by rw [hoff]; exact h.off_nonneg
  bytes := by rw [hbuf, hlen, hoff]; exact h.bytes

theorem recordLastRead {image : List UInt8} {p : PrefetchState} (h : BufferOk image p)
    (off : Int) (total : Nat) : BufferOk image (p.recordLastRead off total) :=
  h.congr rfl rfl rfl

theorem countRead {image : List UInt8} {p : PrefetchState} (h : BufferOk image p)
    (off : Int) (want : Nat) : BufferOk image (p.countRead off want) := by
  have hkeep : ∀ k, BufferOk image { p with seqReads := k } := fun _ => h.congr rfl rfl rfl
  unfold PrefetchState.countRead
  split
  · exact hkeep _
  · split
    · exact of_empty rfl rfl
    · split <;> exact hkeep _

theorem beginRead {image : List UInt8} {p : PrefetchState} (h : BufferOk image p)
    (off : Int) (want : Nat) : BufferOk image (p.beginReadWithPrefetchState off want) := by
  unfold PrefetchState.beginReadWithPrefetchState
  dsimp only
  split
  · exact of_empty rfl rfl
  · exact h.countRead off want

end BufferOk

def EntryOk (image : List UInt8) (size off : Int) (want : Nat) : PrefetchState.Entry → Prop
  | .direct => True
  | .done n buf => n = want ∧ buf.length = want ∧ ∀ i < n, buf[i]? = image[off.toNat + i]?
  | .fetch localBuf fetchLen => httpPrefetchChunkSize ≤ localBuf.length ∧
      0 < fetchLen ∧ fetchLen ≤ httpPrefetchChunkSize ∧ off + fetchLen ≤ size

theorem enterPrefetch_hit {image : List UInt8} {p : PrefetchState} (size : Int) {off : Int}
    {want : Nat} {buf : List UInt8} (hp : BufferOk image p) (hwant : 0 < want)
    (hbuf : buf.length = want) (hen : p.enabled = true) (hin : p.inCache off want = true) :
    asUsize (off - p.bufOff) + want ≤ p.bufLen ∧
      ∃ out, p.enterPrefetch size off want buf = (p.recordLastRead off want, .done want out) ∧
        out.length = want ∧ ∀ i < want, out[i]? = image[off.toNat + i]? := by
  have hrange := hin
  simp only [PrefetchState.inCache, Bool.and_eq_true, decide_eq_true_eq] at hrange
  obtain ⟨⟨hpos, hlo⟩, hhi⟩ := hrange
  have hchunk := hp.len_chunk
  have hstart : (asUsize (off - p.bufOff) : Int) = off - p.bufOff := by
    apply asUsize_of_nonneg
    · omega
    · simp only [httpPrefetchChunkSize] at hchunk
      omega
  have hlen := hp.len_le
  have hmin : min (p.bufLen - asUsize (off - p.bufOff)) want = want := by omega
  have hslice : (slice p.buf (asUsize (off - p.bufOff)) want).length = want := by
    rw [length_slice]
    omega
  refine ⟨by omega, splice buf 0 (slice p.buf (asUsize (off - p.bufOff)) want), ?_, ?_, ?_⟩
  · unfold PrefetchState.enterPrefetch
    simp only [hen, hin, Bool.not_true, Bool.false_eq_true, if_false, if_true, hmin]
    rw [if_neg (by omega)]
  · rw [length_splice (by omega), hbuf]
  · intro i hi
    rw [getElem?_splice (by omega), if_pos (by omega), getElem?_slice, if_pos (by omega),
      hp.bytes _ (by omega)]
    have := hp.off_nonneg
    congr 1
    omega

theorem enterPrefetch_spec {image : List UInt8} {p p' : PrefetchState} {size off : Int}
    {want : Nat} {buf : List UInt8} {entry : PrefetchState.Entry} (hp : BufferOk image p)
    (hwant : 0 < want) (hbuf : buf.length = want)
    (hwrap : p.enabled = true → p.inCache off want = false → (size - off) % 2 ^ 32 ≠ 0)
    (hsize : off < size)
    (h : p.enterPrefetch size off want buf = (p', entry)) :
    BufferOk image p' ∧ p'.cache = p.cache ∧ EntryOk image size off want entry := by
  by_cases hen : p.enabled = true
  · by_cases hin : p.inCache off want = true
    · -- served from the buffer: the whole range lies in it
      obtain ⟨-, out, henter, hlen, hbytes⟩ := enterPrefetch_hit size hp hwant hbuf hen hin
      rw [henter, Prod.mk.injEq] at h
      obtain ⟨rfl, rfl⟩ := h
      exact ⟨hp.recordLastRead _ _, rfl, rfl, hlen, hbytes⟩
    · unfold PrefetchState.enterPrefetch at h
      simp only [Bool.not_eq_true] at hin
      have hrem : (size - off) % 2 ^ 32 ≠ 0 := hwrap hen hin
      have hmax : max (size - off) 0 = size - off := by omega
      simp only [hen, hin, Bool.not_true, Bool.false_eq_true, if_false, hmax] at h
      have hremain : asUsize (size - off) ≠ 0 := by
        unfold asUsize
        omega
      have hremle : (asUsize (size - off) : Int) ≤ size - off := by
        unfold asUsize
        omega
      rw [if_neg hremain] at h
      simp only [Prod.mk.injEq] at h
      obtain ⟨rfl, rfl⟩ := h
      refine ⟨BufferOk.of_empty rfl rfl, rfl, ?_, ?_, ?_, ?_⟩
      · simp only [List.length_append, List.length_replicate]
        omega
      · simp only [httpPrefetchChunkSize]
        omega
      · exact Nat.min_le_right _ _
      · omega
  · unfold PrefetchState.enterPrefetch at h
    simp only [hen, Bool.not_false, if_true, Prod.mk.injEq] at h
    obtain ⟨rfl, rfl⟩ := h
    exact ⟨hp, rfl, trivial⟩

theorem finishPrefetch_spec {image : List UInt8} {p : PrefetchState} {off : Int}
    {want fetched : Nat} {localBuf buf : List UInt8} (hoff : 0 ≤ off) (hwant : 0 < want)
    (hbuf : buf.length = want) (hpos : 1 ≤ fetched) (hlen : fetched ≤ localBuf.length)
    (hchunk : fetched ≤ httpPrefetchChunkSize)
    (hfilled : ∀ i < fetched, localBuf[i]? = image[off.toNat + i]?) :
    ∃ p' n out, p.finishPrefetch localBuf fetched off want buf = (p', n, out) ∧
      BufferOk image p' ∧ p'.cache = p.cache ∧ out.length = want ∧ 1 ≤ n ∧ n ≤ want ∧
      ∀ i < n, out[i]? = image[off.toNat + i]? := by
  have hslice : (slice localBuf 0 (min fetched want)).length = min fetched want :=
    length_slice_of_le (by omega)
  unfold PrefetchState.finishPrefetch
  dsimp only
  rw [if_neg (by omega : ¬ min fetched want = 0)]
  refine ⟨_, _, _, rfl, ?_, ?_, ?_, by omega, by omega, fun i hi => ?_⟩
  · apply BufferOk.recordLastRead
    split
    · exact ⟨hlen, hchunk, hoff, hfilled⟩
    · exact BufferOk.of_empty rfl rfl
  · dsimp only [PrefetchState.recordLastRead]
    split <;> rfl
  · rw [length_splice (by omega), hbuf]
  · rw [getElem?_splice (by omega), if_pos (by omega), getElem?_slice, if_pos (by omega)]
    simpa using hfilled i (by omega)

theorem readAtWithPrefetch_spec {image : List UInt8} {srv : Server} (hsrv : Honest image srv)
    {r r' : HttpRangeReader} {off : Int} {want : Nat} {buf buf' : List UInt8}
    {result : Except ReadError (Option Nat)} (hp : BufferOk image r.prefetch)
    (hsize : r.size = image.length) (hoff : 0 ≤ off) (hend : off + want ≤ r.size)
    (hwant : 0 < want) (hbuf : buf.length = want)
    (hwrap : want ≤ httpPrefetchChunkSize → r.prefetch.enabled = true →
      r.prefetch.inCache off want = false → (r.size - off) % 2 ^ 32 ≠ 0)
    (h : HttpRangeReader.readAtWithPrefetch srv r off want buf = (r', result, buf')) :
    BufferOk image r'.prefetch ∧ r'.prefetch.cache = r.prefetch.cache ∧ r'.size = r.size ∧
      buf'.length = want ∧ ∀ n, result = .ok (some n) →
        1 ≤ n ∧ n ≤ want ∧ ∀ i < n, buf'[i]? = image[off.toNat + i]? := by
  unfold HttpRangeReader.readAtWithPrefetch at h
  by_cases hlarge : httpPrefetchChunkSize < want
  · simp only [if_pos hlarge, Prod.mk.injEq] at h
    obtain ⟨rfl, rfl, rfl⟩ := h
    exact ⟨hp, rfl, rfl, hbuf, by simp⟩
  rw [if_neg hlarge] at h
  rcases hentry : r.prefetch.enterPrefetch r.size off want buf with ⟨p, entry⟩
  obtain ⟨hp', hcache, hcase⟩ :=
    enterPrefetch_spec hp hwant hbuf (hwrap (by omega)) (by omega) hentry
  simp only [hentry] at h
  cases entry with
  | direct =>
      simp only [Prod.mk.injEq] at h
      obtain ⟨rfl, rfl, rfl⟩ := h
      exact ⟨hp', hcache, rfl, hbuf, by simp⟩
  | done n bufDone =>
      simp only [Prod.mk.injEq] at h
      obtain ⟨rfl, rfl, rfl⟩ := h
      obtain ⟨hn, hlen, hbytes⟩ := hcase
      refine ⟨hp', hcache, rfl, hlen, fun m hm => ?_⟩
      simp only [Except.ok.injEq, Option.some.injEq] at hm
      subst hm
      exact ⟨by omega, by omega, hbytes⟩
  | fetch localBuf fetchLen =>
      obtain ⟨hlocal, hpos, hchunk, hfit⟩ := hcase
      have htake : (localBuf.take fetchLen).length = fetchLen := by
        rw [List.length_take]
        omega
      dsimp only at h
      rcases hfetch : fetchRangeOnce (srv (r.requestSeq + 1) off (off + fetchLen - 1)) off
        (off + fetchLen - 1) (localBuf.take fetchLen) with ⟨fetched, out⟩
      have hout : out.length = fetchLen := by
        have hlen := length_fetchRangeOnce (srv (r.requestSeq + 1) off (off + fetchLen - 1)) off
          (off + fetchLen - 1) (localBuf.take fetchLen)
        rwa [hfetch, htake] at hlen
      rw [hfetch] at h
      cases fetched with
      | error e =>
          simp only [Prod.mk.injEq] at h
          obtain ⟨rfl, rfl, rfl⟩ := h
          exact ⟨BufferOk.of_empty rfl rfl, hcache, rfl, hbuf, by simp⟩
      | ok fetched =>
          simp only [httpPrefetchChunkSize] at hchunk hlocal
          obtain ⟨hn, hle, hbytes⟩ :=
            fetchRangeOnce_spec (hsrv _ _ _) hoff (by omega) (by omega) hfetch
          have hfilled : ∀ i < fetched, (splice localBuf 0 out)[i]? = image[off.toNat + i]? := by
            intro i hi
            rw [getElem?_splice (by omega), if_pos (by omega)]
            exact hbytes i hi
          have hfilledLen : (splice localBuf 0 out).length = localBuf.length :=
            length_splice (by omega)
          have hsmall : fetched ≤ httpPrefetchChunkSize := by
            simp only [httpPrefetchChunkSize]
            omega
          obtain ⟨p', n, served, hfinish, hb, hc, hlen, hn', hle', hserved⟩ :=
            finishPrefetch_spec (p := p) hoff hwant hbuf hn (by omega) hsmall hfilled
          simp only [hfinish, Prod.mk.injEq] at h
          obtain ⟨rfl, rfl, rfl⟩ := h
          refine ⟨hb, hc.trans hcache, rfl, hlen, fun m hm => ?_⟩
          simp only [Except.ok.injEq, Option.some.injEq] at hm
          subst hm
          exact ⟨hn', hle', hserved⟩

end ArkKvm.Http
