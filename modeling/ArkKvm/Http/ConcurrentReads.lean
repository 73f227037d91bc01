import ArkKvm.Http.ReadRuns

/-!
# Concurrent reads

`read_at` calls of any number of threads on one `HttpRangeReader`.  A step of a thread is a
part of the call that holds the lock of the prefetch state, or what it does between two such
parts: a GET into its own buffer, or the direct path, which shares only the count of the
requests.  A slice that leaves its buffer panics.
-/

namespace ArkKvm.Http

open ArkKvm.Lib.Bytes ArkKvm.Lib.Run

structure Window where
  start : Nat
  count : Nat
  length : Nat

def Window.InRange (w : Window) : Prop := w.start + w.count ≤ w.length

instance (w : Window) : Decidable w.InRange := inferInstanceAs (Decidable (_ ≤ _))

namespace PrefetchState

/-- The slices of the first locked part: of the caller's buffer and of the prefetch buffer. -/
def enterWindows (p : PrefetchState) (off : Int) (want : Nat) (buf : List UInt8) : List Window :=
  if p.enabled && p.inCache off want then
    let start := asUsize (off - p.bufOff)
    let n := min (p.bufLen - start) want
    if n = 0 then [] else [⟨0, n, buf.length⟩, ⟨start, n, p.buf.length⟩]
  else []

def finishWindows (localBuf : List UInt8) (fetched want : Nat) (buf : List UInt8) : List Window :=
  let n := min fetched want
  if n = 0 then [] else [⟨0, n, buf.length⟩, ⟨0, n, localBuf.length⟩]

end PrefetchState

structure ReadArgs where
  off : Int
  want : Nat
  buf : List UInt8
deriving DecidableEq

inductive ReadPhase
  | idle
  | looking (c : ReadArgs)
  | beginning (c : ReadArgs)
  | entering (c : ReadArgs)
  /-- the prefetch buffer is detached -/
  | fetching (c : ReadArgs) (localBuf : List UInt8) (fetchLen : Nat)
  | failed (c : ReadArgs) (localBuf : List UInt8) (e : ReadError)
  | fetched (c : ReadArgs) (localBuf : List UInt8) (n : Nat)
  /-- `read_at_with_prefetch` answers `Some(n)` -/
  | answered (c : ReadArgs) (n : Nat)
  | direct (c : ReadArgs)
  | storing (c : ReadArgs) (total : Nat)
  | recording (c : ReadArgs) (total : Nat)
  | returned (result : Except ReadError Nat)
  | panicked

inductive ReadAction
  | call (off : Int) (buf : List UInt8)
  | lookup
  | beginRead
  | enter
  | fetch (answer : Option Response)
  | finish
  | readDirect (srv : Server)
  | store
  | record

/-- The threads that read, by number. -/
structure ReadThreads where
  reader : HttpRangeReader
  phase : Nat → ReadPhase

namespace ReadThreads

def advance (r : HttpRangeReader) : ReadPhase → ReadAction → Option (HttpRangeReader × ReadPhase)
  | .idle, .call off buf | .returned _, .call off buf =>
      some (r,
        if off < 0 then .returned (.error .invalidRange)
        else if buf.isEmpty then .returned (.ok 0)
        else .looking ⟨off, buf.length, buf⟩)
  | .looking c, .lookup =>
      let (cache, hit, buf) := tryReadBlockCache r.prefetch.cache c.off c.want c.buf
      some ({ r with prefetch := { r.prefetch with cache := cache } },
        match hit with
        | some n => .returned (.ok n)
        | none => .beginning { c with buf := buf })
  | .beginning c, .beginRead =>
      some ({ r with prefetch := r.prefetch.beginReadWithPrefetchState c.off c.want }, .entering c)
  | .entering c, .enter =>
      if httpPrefetchChunkSize < c.want then some (r, .direct c)
      else if ∀ w ∈ r.prefetch.enterWindows c.off c.want c.buf, w.InRange then
        let (p, entry) := r.prefetch.enterPrefetch r.size c.off c.want c.buf
        some ({ r with prefetch := p },
          match entry with
          | .direct => .direct c
          | .done n buf => .answered { c with buf := buf } n
          | .fetch localBuf fetchLen => .fetching c localBuf fetchLen)
      else some (r, .panicked)
  | .fetching c localBuf fetchLen, .fetch answer =>
      if fetchLen ≤ localBuf.length then
        let fetchEnd := c.off + fetchLen - 1
        let (result, out) := fetchRangeOnce answer c.off fetchEnd (localBuf.take fetchLen)
        some ({ r with requestSeq := r.requestSeq + 1 },
          match result with
          | .error e => .failed c (splice localBuf 0 out) e
          | .ok n => .fetched c (splice localBuf 0 out) n)
      else some (r, .panicked)
  | .failed _ localBuf e, .finish =>
      some ({ r with prefetch := r.prefetch.abortPrefetch localBuf }, .returned (.error e))
  | .fetched c localBuf fetched, .finish =>
      if ∀ w ∈ PrefetchState.finishWindows localBuf fetched c.want c.buf, w.InRange then
        let (p, n, buf) := r.prefetch.finishPrefetch localBuf fetched c.off c.want c.buf
        some ({ r with prefetch := p }, .answered { c with buf := buf } n)
      else some (r, .panicked)
  | .answered c n, .store => some (r.storeIntoCache c.off (c.buf.take n), .returned (.ok n))
  | .direct c, .readDirect srv =>
      let (seq, result, buf) := HttpRangeReader.readAtDirect srv c.off (c.off + c.want - 1) c.want
        httpRangeReadReissueMax r.requestSeq 0 c.buf
      some ({ r with requestSeq := seq },
        match result with
        | .error e => .returned (.error e)
        | .ok total => .storing { c with buf := buf } total)
  | .storing c total, .store =>
      some (r.storeIntoCache c.off (c.buf.take total), .recording c total)
  | .recording c total, .record =>
      some ({ r with prefetch := r.prefetch.recordLastRead c.off total }, .returned (.ok total))
  | _, _ => none

def step (s : ReadThreads) : Nat × ReadAction → Option ReadThreads
  | (i, action) =>
      (advance s.reader (s.phase i) action).map fun (r, phase) =>
        ⟨r, Function.update s.phase i phase⟩

def new (size : Int) : ReadThreads := ⟨.new size, fun _ => .idle⟩

/-! ## What the GETs answer -/

/-- A fetch fails or puts bytes of the image into its buffer, as many as it says. -/
def TrueBytes (image : List UInt8) (off : Int) : Except ReadError Nat × List UInt8 → Prop
  | (.ok n, out) => ∀ i < n, out[i]? = image[off.toNat + i]?
  | (.error _, _) => True

def AnswersTruly (image : List UInt8) : ReadPhase → ReadAction → Prop
  | .fetching c localBuf fetchLen, .fetch answer =>
      TrueBytes image c.off
        (fetchRangeOnce answer c.off (c.off + fetchLen - 1) (localBuf.take fetchLen))
  | _, _ => True

def TrueFetches (image : List UInt8) (s : ReadThreads) : Nat × ReadAction → Prop
  | (i, action) => AnswersTruly image (s.phase i) action

theorem fetchRangeOnce_count {answer : Option Response} {reqOff reqEnd : Int}
    {out out' : List UInt8} {n : Nat}
    (h : fetchRangeOnce answer reqOff reqEnd out = (.ok n, out')) : 1 ≤ n ∧ n ≤ out.length := by
  unfold fetchRangeOnce at h
  split at h
  · cases h
  · split at h
    · cases h
    · unfold readBody at h
      split at h
      · cases h
      · dsimp only at h
        split at h
        · cases h
        · next hpos =>
            split at h
            · cases h
            · next hfit =>
                split at h
                · split at h <;> cases h
                · split at h
                  · cases h
                  · split at h
                    · cases h
                    · rw [Prod.mk.injEq, Except.ok.injEq] at h
                      obtain ⟨rfl, -⟩ := h
                      exact ⟨by omega, by omega⟩

/-! ## The invariant -/

structure ArgsOk (c : ReadArgs) : Prop where
  off_nonneg : 0 ≤ c.off
  want_pos : 0 < c.want
  length : c.buf.length = c.want

/-- The buffer that a thread has detached is its own: only the thread's place counts. -/
def PhaseOk (image : List UInt8) : ReadPhase → Prop
  | .looking c | .beginning c | .entering c => ArgsOk c
  | .fetching c localBuf fetchLen => ArgsOk c ∧ httpPrefetchChunkSize ≤ localBuf.length ∧
      fetchLen ≤ httpPrefetchChunkSize
  | .fetched c localBuf n => ArgsOk c ∧ 1 ≤ n ∧ n ≤ localBuf.length ∧
      n ≤ httpPrefetchChunkSize ∧ ∀ i < n, localBuf[i]? = image[c.off.toNat + i]?
  | .answered c n => n ≤ c.buf.length ∧ ∀ i < n, c.buf[i]? = image[c.off.toNat + i]?
  | .panicked => False
  | _ => True

structure ThreadsOk (image : List UInt8) (s : ReadThreads) : Prop where
  buffer : BufferOk image s.reader.prefetch
  phases : ∀ i, PhaseOk image (s.phase i)

variable {image : List UInt8} {r : HttpRangeReader} {c : ReadArgs}

theorem enterWindows_inRange (h : BufferOk image r.prefetch) (hc : ArgsOk c) :
    ∀ w ∈ r.prefetch.enterWindows c.off c.want c.buf, w.InRange := by
  intro w hw
  unfold PrefetchState.enterWindows at hw
  split at hw
  · next hhit =>
      obtain ⟨hen, hin⟩ := Bool.and_eq_true_iff.mp hhit
      obtain ⟨hstart, -⟩ := enterPrefetch_hit r.size h hc.want_pos hc.length hen hin
      dsimp only at hw
      split at hw
      · cases hw
      · have hlen := h.len_le
        have hbuf := hc.length
        obtain rfl | hw := List.mem_cons.mp hw
        · show 0 + min (r.prefetch.bufLen - asUsize (c.off - r.prefetch.bufOff)) c.want ≤
            c.buf.length
          omega
        · obtain rfl := List.mem_singleton.mp hw
          show asUsize (c.off - r.prefetch.bufOff) +
            min (r.prefetch.bufLen - asUsize (c.off - r.prefetch.bufOff)) c.want ≤
              r.prefetch.buf.length
          omega
  · cases hw

theorem finishWindows_inRange {localBuf : List UInt8} {n : Nat} (hc : ArgsOk c)
    (hfit : n ≤ localBuf.length) :
    ∀ w ∈ PrefetchState.finishWindows localBuf n c.want c.buf, w.InRange := by
  intro w hw
  unfold PrefetchState.finishWindows at hw
  dsimp only at hw
  split at hw
  · cases hw
  · have hbuf := hc.length
    obtain rfl | hw := List.mem_cons.mp hw
    · show 0 + min n c.want ≤ c.buf.length
      omega
    · obtain rfl := List.mem_singleton.mp hw
      show 0 + min n c.want ≤ localBuf.length
      omega

/-- The first locked part keeps the buffer a window of the image or gives it away empty. -/
theorem enterPrefetch_phase (size : Int) {p p' : PrefetchState} {entry : PrefetchState.Entry}
    (h : BufferOk image p) (hc : ArgsOk c)
    (henter : p.enterPrefetch size c.off c.want c.buf = (p', entry)) :
    BufferOk image p' ∧ match entry with
      | .direct => True
      | .done n buf => PhaseOk image (.answered { c with buf := buf } n)
      | .fetch localBuf fetchLen => PhaseOk image (.fetching c localBuf fetchLen) := by
  by_cases hen : p.enabled = true
  · by_cases hin : p.inCache c.off c.want = true
    · obtain ⟨-, out, hhit, hlen, hbytes⟩ :=
        enterPrefetch_hit size h hc.want_pos hc.length hen hin
      rw [hhit, Prod.mk.injEq] at henter
      obtain ⟨rfl, rfl⟩ := henter
      refine ⟨h.recordLastRead _ _, ?_, hbytes⟩
      show c.want ≤ out.length
      omega
    · unfold PrefetchState.enterPrefetch at henter
      simp only [Bool.not_eq_true] at hin
      simp only [hen, hin, Bool.not_true, Bool.false_eq_true, if_false] at henter
      split at henter
      · -- the rest of the image is empty, or its length wraps to zero
        rw [Prod.mk.injEq] at henter
        obtain ⟨rfl, rfl⟩ := henter
        exact ⟨h.recordLastRead _ _, Nat.zero_le _, nofun⟩
      · rw [Prod.mk.injEq] at henter
        obtain ⟨rfl, rfl⟩ := henter
        refine ⟨BufferOk.of_empty rfl rfl, hc, ?_, Nat.min_le_right _ _⟩
        rw [List.length_append, List.length_replicate]
        omega
  · unfold PrefetchState.enterPrefetch at henter
    simp only [hen, Bool.not_false, if_true, Prod.mk.injEq] at henter
    obtain ⟨rfl, rfl⟩ := henter
    exact ⟨h, trivial⟩

theorem fetched_phase {localBuf out : List UInt8} {fetchLen n : Nat} {answer : Option Response}
    (hc : PhaseOk image (.fetching c localBuf fetchLen))
    (hfetch : fetchRangeOnce answer c.off (c.off + fetchLen - 1) (localBuf.take fetchLen) =
      (.ok n, out))
    (htrue : TrueBytes image c.off (.ok n, out)) :
    PhaseOk image (.fetched c (splice localBuf 0 out) n) := by
  obtain ⟨hargs, hlocal, hchunk⟩ := hc
  have htake : (localBuf.take fetchLen).length = fetchLen := by
    rw [List.length_take]
    omega
  obtain ⟨hpos, hcount⟩ := fetchRangeOnce_count hfetch
  have hout : out.length = fetchLen := by
    have hlen := length_fetchRangeOnce answer c.off (c.off + fetchLen - 1) (localBuf.take fetchLen)
    rwa [hfetch, htake] at hlen
  have hsplice : (splice localBuf 0 out).length = localBuf.length := length_splice (by omega)
  refine ⟨hargs, hpos, by omega, by omega, fun i hi => ?_⟩
  rw [getElem?_splice (by omega), if_pos (by omega)]
  exact htrue i hi

/-- The second locked part answers with what was fetched, and keeps it when prefetching is
still on. -/
theorem finishPrefetch_phase {p : PrefetchState} {localBuf : List UInt8} {fetched : Nat}
    (hc : PhaseOk image (.fetched c localBuf fetched)) :
    ∃ p' n out, p.finishPrefetch localBuf fetched c.off c.want c.buf = (p', n, out) ∧
      BufferOk image p' ∧ PhaseOk image (.answered { c with buf := out } n) := by
  obtain ⟨hargs, hpos, hlen, hchunk, hfilled⟩ := hc
  obtain ⟨p', n, out, hfinish, hbuffer, -, hout, -, hn, hbytes⟩ :=
    finishPrefetch_spec (p := p) hargs.off_nonneg hargs.want_pos hargs.length hpos hlen hchunk
      hfilled
  refine ⟨p', n, out, hfinish, hbuffer, ?_, hbytes⟩
  show n ≤ out.length
  omega

/-! ## A thread alone -/

def alone (s : HttpRangeReader × ReadPhase) (action : ReadAction) :
    Option (HttpRangeReader × ReadPhase) := advance s.1 s.2 action

def Ends (s : HttpRangeReader × ReadPhase)
    (x : HttpRangeReader × Except ReadError Nat × List UInt8) : Prop :=
  Reach alone anyStep s (x.1, .returned x.2.1)

section Alone

variable {s t : HttpRangeReader × ReadPhase}
  {x : HttpRangeReader × Except ReadError Nat × List UInt8}

theorem Ends.head (action : ReadAction) (hstep : alone s action = some t) (h : Ends t x) :
    Ends s x :=
  (Reach.refl.tail trivial hstep).trans h

theorem Ends.last (action : ReadAction) (hstep : alone s action = some (x.1, .returned x.2.1)) :
    Ends s x :=
  Reach.refl.tail trivial hstep

theorem ends_direct (srv : Server) (r : HttpRangeReader) (c : ReadArgs) :
    Ends (r, .direct c)
      (match HttpRangeReader.readAtDirect srv c.off (c.off + c.want - 1) c.want
          httpRangeReadReissueMax r.requestSeq 0 c.buf with
        | (seq, .error e, buf) => ({ r with requestSeq := seq }, .error e, buf)
        | (seq, .ok total, buf) =>
            let r := { r with requestSeq := seq }.storeIntoCache c.off (buf.take total)
            ({ r with prefetch := r.prefetch.recordLastRead c.off total }, .ok total, buf)) := by
  rcases hread : HttpRangeReader.readAtDirect srv c.off (c.off + c.want - 1) c.want
    httpRangeReadReissueMax r.requestSeq 0 c.buf with ⟨seq, e | total, buf⟩
  · refine Ends.last (.readDirect srv) ?_
    unfold alone advance
    dsimp only
    rw [hread]
  · have hstep : alone (r, .direct c) (.readDirect srv) =
        some ({ r with requestSeq := seq }, .storing { c with buf := buf } total) := by
      unfold alone advance
      dsimp only
      rw [hread]
    exact Ends.head _ hstep (Ends.head .store rfl (Ends.last .record rfl))

theorem ends_fetching (srv : Server) {localBuf : List UInt8} {fetchLen : Nat}
    (h : PhaseOk image (.fetching c localBuf fetchLen)) :
    Ends (r, .fetching c localBuf fetchLen)
      (match fetchRangeOnce (srv (r.requestSeq + 1) c.off (c.off + fetchLen - 1)) c.off
          (c.off + fetchLen - 1) (localBuf.take fetchLen) with
        | (.error e, out) =>
            ({ r with prefetch := r.prefetch.abortPrefetch (splice localBuf 0 out)
                      requestSeq := r.requestSeq + 1 }, .error e, c.buf)
        | (.ok fetched, out) =>
            let (p, n, buf) := r.prefetch.finishPrefetch (splice localBuf 0 out) fetched c.off
              c.want c.buf
            ({ r with prefetch := p, requestSeq := r.requestSeq + 1 }.storeIntoCache c.off
              (buf.take n), .ok n, buf)) := by
  obtain ⟨hargs, hlocal, hchunk⟩ := h
  have hroom : fetchLen ≤ localBuf.length := by omega
  rcases hfetch : fetchRangeOnce (srv (r.requestSeq + 1) c.off (c.off + fetchLen - 1)) c.off
    (c.off + fetchLen - 1) (localBuf.take fetchLen) with ⟨e | fetched, out⟩
  · have hstep : alone (r, .fetching c localBuf fetchLen)
        (.fetch (srv (r.requestSeq + 1) c.off (c.off + fetchLen - 1))) =
        some ({ r with requestSeq := r.requestSeq + 1 },
          .failed c (splice localBuf 0 out) e) := by
      unfold alone advance
      dsimp only
      rw [if_pos hroom, hfetch]
    exact Ends.head _ hstep (Ends.last .finish rfl)
  · have hstep : alone (r, .fetching c localBuf fetchLen)
        (.fetch (srv (r.requestSeq + 1) c.off (c.off + fetchLen - 1))) =
        some ({ r with requestSeq := r.requestSeq + 1 },
          .fetched c (splice localBuf 0 out) fetched) := by
      unfold alone advance
      dsimp only
      rw [if_pos hroom, hfetch]
    have hout : out.length = (localBuf.take fetchLen).length := by
      have hlen := length_fetchRangeOnce (srv (r.requestSeq + 1) c.off (c.off + fetchLen - 1))
        c.off (c.off + fetchLen - 1) (localBuf.take fetchLen)
      rwa [hfetch] at hlen
    have hcount := (fetchRangeOnce_count hfetch).2
    have hfit : fetched ≤ (splice localBuf 0 out).length := by
      rw [List.length_take] at hout hcount
      rw [length_splice (by omega)]
      omega
    rcases hfinish : r.prefetch.finishPrefetch (splice localBuf 0 out) fetched c.off c.want
      c.buf with ⟨p, n, buf⟩
    have hput : alone ({ r with requestSeq := r.requestSeq + 1 },
          .fetched c (splice localBuf 0 out) fetched) .finish =
        some ({ r with prefetch := p, requestSeq := r.requestSeq + 1 },
          .answered { c with buf := buf } n) := by
      unfold alone advance
      dsimp only
      rw [if_pos (finishWindows_inRange hargs hfit), hfinish]
    dsimp only
    rw [hfinish]
    exact Ends.head _ hstep (Ends.head _ hput (Ends.last .store rfl))

theorem ends_entering (srv : Server) (hbuffer : BufferOk image r.prefetch) (hc : ArgsOk c) :
    Ends (r, .entering c)
      (match HttpRangeReader.readAtWithPrefetch srv r c.off c.want c.buf with
        | (r, .error e, buf) => (r, .error e, buf)
        | (r, .ok (some n), buf) => (r.storeIntoCache c.off (buf.take n), .ok n, buf)
        | (r, .ok none, buf) =>
            match HttpRangeReader.readAtDirect srv c.off (c.off + c.want - 1) c.want
                httpRangeReadReissueMax r.requestSeq 0 buf with
            | (seq, .error e, buf) => ({ r with requestSeq := seq }, .error e, buf)
            | (seq, .ok total, buf) =>
                let r := { r with requestSeq := seq }.storeIntoCache c.off (buf.take total)
                ({ r with prefetch := r.prefetch.recordLastRead c.off total }, .ok total, buf)) := by
  unfold HttpRangeReader.readAtWithPrefetch
  by_cases hlarge : httpPrefetchChunkSize < c.want
  · have hstep : alone (r, .entering c) .enter = some (r, .direct c) := by
      unfold alone advance
      dsimp only
      rw [if_pos hlarge]
    rw [if_pos hlarge]
    exact Ends.head _ hstep (ends_direct srv r c)
  · rw [if_neg hlarge]
    have hstep (p : PrefetchState) (entry : PrefetchState.Entry) :
        r.prefetch.enterPrefetch r.size c.off c.want c.buf = (p, entry) →
        alone (r, .entering c) .enter = some ({ r with prefetch := p },
          match entry with
          | .direct => .direct c
          | .done n buf => .answered { c with buf := buf } n
          | .fetch localBuf fetchLen => .fetching c localBuf fetchLen) := by
      intro henter
      unfold alone advance
      dsimp only
      rw [if_neg hlarge, if_pos (enterWindows_inRange hbuffer hc), henter]
    rcases henter : r.prefetch.enterPrefetch r.size c.off c.want c.buf with ⟨p, entry⟩
    have hstep := hstep p entry henter
    obtain ⟨-, hentry⟩ := enterPrefetch_phase r.size hbuffer hc henter
    cases entry with
    | direct => exact Ends.head _ hstep (ends_direct srv _ c)
    | done n buf => exact Ends.head _ hstep (Ends.last .store rfl)
    | fetch localBuf fetchLen =>
        have hfetch := ends_fetching (r := { r with prefetch := p }) srv hentry
        dsimp only at hfetch ⊢
        rcases hanswer : fetchRangeOnce (srv (r.requestSeq + 1) c.off (c.off + fetchLen - 1)) c.off
          (c.off + fetchLen - 1) (localBuf.take fetchLen) with ⟨e | fetched, out⟩ <;>
          rw [hanswer] at hfetch
        · exact Ends.head _ hstep hfetch
        · exact Ends.head _ hstep hfetch

theorem ends_looking (srv : Server) (hbuffer : BufferOk image r.prefetch) {off : Int}
    {buf : List UInt8} (hoff : ¬off < 0) (hempty : ¬buf.isEmpty = true) :
    Ends (r, .looking ⟨off, buf.length, buf⟩) (r.readAt srv off buf) := by
  unfold HttpRangeReader.readAt
  rw [if_neg hoff, if_neg hempty]
  dsimp only
  have hlen := length_tryReadBlockCache r.prefetch.cache off buf
  rcases hlookup : tryReadBlockCache r.prefetch.cache off buf.length buf with
    ⟨cache, n | _, missBuf⟩
  · have hmiss : alone (r, .looking ⟨off, buf.length, buf⟩) .lookup =
        some ({ r with prefetch := { r.prefetch with cache := cache } },
          .beginning ⟨off, buf.length, missBuf⟩) := by
      unfold alone advance
      dsimp only
      rw [hlookup]
    rw [hlookup] at hlen
    have hpos : 0 < buf.length := List.length_pos_iff.mpr fun h => hempty (List.isEmpty_iff.mpr h)
    have hc : ArgsOk ⟨off, buf.length, missBuf⟩ := ⟨Int.not_lt.mp hoff, hpos, hlen⟩
    have hcache : BufferOk image { r.prefetch with cache := cache } := hbuffer.congr rfl rfl rfl
    have hrest := ends_entering (r := { r with prefetch := _ }) srv
      (hcache.beginRead off buf.length) hc
    exact Ends.head _ hmiss (Ends.head .beginRead rfl hrest)
  · next n =>
      have hhit : alone (r, .looking ⟨off, buf.length, buf⟩) .lookup =
          some ({ r with prefetch := { r.prefetch with cache := cache } }, .returned (.ok n)) := by
        unfold alone advance
        dsimp only
        rw [hlookup]
      exact Ends.last _ hhit

theorem readAt_alone (srv : Server) (hbuffer : BufferOk image r.prefetch) (off : Int)
    (buf : List UInt8) : Ends (r, .idle) (r.readAt srv off buf) := by
  by_cases hoff : off < 0
  · have hcall : alone (r, .idle) (.call off buf) = some (r, .returned (.error .invalidRange)) := by
      unfold alone advance
      dsimp only
      rw [if_pos hoff]
    unfold HttpRangeReader.readAt
    rw [if_pos hoff]
    exact Ends.last _ hcall
  by_cases hempty : buf.isEmpty = true
  · have hcall : alone (r, .idle) (.call off buf) = some (r, .returned (.ok 0)) := by
      unfold alone advance
      dsimp only
      rw [if_neg hoff, if_pos hempty]
    unfold HttpRangeReader.readAt
    rw [if_neg hoff, if_pos hempty]
    exact Ends.last _ hcall
  have hcall : alone (r, .idle) (.call off buf) = some (r, .looking ⟨off, buf.length, buf⟩) := by
    unfold alone advance
    dsimp only
    rw [if_neg hoff, if_neg hempty]
  exact Ends.head _ hcall (ends_looking srv hbuffer hoff hempty)

end Alone

/-! ## Steps and runs -/

theorem advance_spec {r' : HttpRangeReader} {phase phase' : ReadPhase} {action : ReadAction}
    (hbuffer : BufferOk image r.prefetch) (hphase : PhaseOk image phase)
    (htrue : AnswersTruly image phase action)
    (hstep : advance r phase action = some (r', phase')) :
    BufferOk image r'.prefetch ∧ PhaseOk image phase' := by
  cases action with
  | call off buf =>
      have hcall : PhaseOk image
          (if off < 0 then .returned (.error .invalidRange)
            else if buf.isEmpty then .returned (.ok 0)
            else .looking ⟨off, buf.length, buf⟩) := by
        split
        · trivial
        · split
          · trivial
          · next hoff hempty =>
              refine ⟨Int.not_lt.mp hoff, ?_, rfl⟩
              exact List.length_pos_iff.mpr fun h => hempty (List.isEmpty_iff.mpr h)
      cases phase <;> cases hstep
      · exact ⟨hbuffer, hcall⟩
      · exact ⟨hbuffer, hcall⟩
  | lookup =>
      cases phase <;> cases hstep
      rename_i c
      refine ⟨hbuffer.congr rfl rfl rfl, ?_⟩
      split
      · trivial
      · refine ⟨hphase.off_nonneg, hphase.want_pos, ?_⟩
        have hlen := length_tryReadBlockCache r.prefetch.cache c.off c.buf
        rw [hphase.length] at hlen
        exact hlen
  | beginRead =>
      cases phase <;> cases hstep
      exact ⟨hbuffer.beginRead _ _, hphase⟩
  | enter =>
      cases phase with
      | entering c =>
          unfold advance at hstep
          dsimp only at hstep
          rw [if_pos (enterWindows_inRange hbuffer hphase)] at hstep
          split at hstep
          · cases hstep
            exact ⟨hbuffer, trivial⟩
          · rcases henter : r.prefetch.enterPrefetch r.size c.off c.want c.buf with ⟨p, entry⟩
            obtain ⟨hp, hentry⟩ := enterPrefetch_phase r.size hbuffer hphase henter
            rw [henter] at hstep
            cases hstep
            refine ⟨hp, ?_⟩
            cases entry with
            | direct => trivial
            | done n buf => exact hentry
            | fetch localBuf fetchLen => exact hentry
      | _ => cases hstep
  | fetch answer =>
      cases phase with
      | fetching c localBuf fetchLen =>
          have hlocal := hphase.2.1
          have hchunk := hphase.2.2
          unfold advance at hstep
          dsimp only at hstep
          rw [if_pos (by omega)] at hstep
          have hbytes : TrueBytes image c.off (fetchRangeOnce answer c.off
            (c.off + fetchLen - 1) (localBuf.take fetchLen)) := htrue
          rcases hfetch : fetchRangeOnce answer c.off (c.off + fetchLen - 1)
            (localBuf.take fetchLen) with ⟨result, out⟩
          rw [hfetch] at hbytes hstep
          cases hstep
          refine ⟨hbuffer, ?_⟩
          cases result with
          | error e => trivial
          | ok n => exact fetched_phase hphase hfetch hbytes
      | _ => cases hstep
  | finish =>
      cases phase with
      | failed c localBuf e =>
          cases hstep
          exact ⟨BufferOk.of_empty rfl rfl, trivial⟩
      | fetched c localBuf fetched =>
          unfold advance at hstep
          dsimp only at hstep
          rw [if_pos (finishWindows_inRange hphase.1 hphase.2.2.1)] at hstep
          obtain ⟨p, n, out, hfinish, hp, hanswer⟩ :=
            finishPrefetch_phase (p := r.prefetch) hphase
          rw [hfinish] at hstep
          cases hstep
          exact ⟨hp, hanswer⟩
      | _ => cases hstep
  | readDirect srv =>
      cases phase <;> cases hstep
      refine ⟨hbuffer, ?_⟩
      split
      · trivial
      · trivial
  | store =>
      cases phase <;> cases hstep
      · exact ⟨hbuffer.congr rfl rfl rfl, trivial⟩
      · exact ⟨hbuffer.congr rfl rfl rfl, trivial⟩
  | record =>
      cases phase <;> cases hstep
      exact ⟨hbuffer.recordLastRead _ _, trivial⟩

theorem step_threadsOk {s s' : ReadThreads} {ev : Nat × ReadAction} (h : ThreadsOk image s)
    (htrue : TrueFetches image s ev) (hstep : step s ev = some s') : ThreadsOk image s' := by
  obtain ⟨i, action⟩ := ev
  obtain ⟨⟨r, phase⟩, hadvance, rfl⟩ := Option.map_eq_some_iff.mp hstep
  obtain ⟨hbuffer, hphase⟩ := advance_spec h.buffer (h.phases i) htrue hadvance
  refine ⟨hbuffer, fun j => ?_⟩
  dsimp only
  by_cases hj : j = i
  · subst hj
    rw [Function.update_self]
    exact hphase
  · rw [Function.update_of_ne hj]
    exact h.phases j

theorem reach_threadsOk {size : Int} {s : ReadThreads}
    (h : Reach step (TrueFetches image) (new size) s) : ThreadsOk image s := by
  have hnew : ThreadsOk image (new size) := by
    refine ⟨BufferOk.of_empty rfl rfl, fun i => ?_⟩
    show PhaseOk image .idle
    trivial
  refine h.invariant hnew fun s ev s' hs htrue hstep => ?_
  exact step_threadsOk hs htrue hstep

/-- Whenever no thread is in a locked part, the valid part of the prefetch buffer is a window
of the image; no thread takes a slice outside of its buffer, and what `read_at_with_prefetch`
answers is in the image. -/
theorem prefetch_buffer_is_image {size : Int} {s : ReadThreads}
    (h : Reach step (TrueFetches image) (new size) s) :
    (0 < s.reader.prefetch.bufLen →
      s.reader.prefetch.bufLen ≤ s.reader.prefetch.buf.length ∧ 0 ≤ s.reader.prefetch.bufOff ∧
      s.reader.prefetch.buf.take s.reader.prefetch.bufLen =
        slice image s.reader.prefetch.bufOff.toNat s.reader.prefetch.bufLen) ∧
    (∀ i, s.phase i ≠ .panicked) ∧
    (∀ i c n, s.phase i = .answered c n →
      n ≤ c.buf.length ∧ c.buf.take n = slice image c.off.toNat n) := by
  have hok := reach_threadsOk h
  refine ⟨fun _ => ⟨hok.buffer.len_le, hok.buffer.off_nonneg, ?_⟩, fun i hi => ?_,
    fun i c n hi => ?_⟩
  · exact take_eq_slice hok.buffer.bytes
  · have hphase := hok.phases i
    rw [hi] at hphase
    exact hphase
  · have hphase := hok.phases i
    rw [hi] at hphase
    exact ⟨hphase.1, take_eq_slice hphase.2⟩

/-! ## Three threads that read byte after byte -/

private def firstBytes : Server := fun _ a b =>
  if a = 0 ∧ b = 0 then some ⟨206, some "bytes 0-0/4".toList, [1], false⟩
  else if a = 1 ∧ b = 1 then some ⟨206, some "bytes 1-1/4".toList, [2], false⟩
  else none

private def lastBytes : Response := ⟨206, some "bytes 2-3/4".toList, [3, 4], false⟩

/-- All miss the block cache; then each goes on in turn, and the third read is the third in
sequence. -/
private def threeReads : List (Nat × ReadAction) :=
  [(0, .call 0 [0]), (1, .call 1 [0]), (2, .call 2 [0]), (0, .lookup), (1, .lookup), (2, .lookup),
    (0, .beginRead), (0, .enter), (0, .readDirect firstBytes), (0, .store), (0, .record),
    (1, .beginRead), (1, .enter), (1, .readDirect firstBytes), (1, .store), (1, .record),
    (2, .beginRead)]

private def notFetch (_ : ReadThreads) : Nat × ReadAction → Bool
  | (_, .fetch _) => false
  | _ => true

private theorem trueFetches_of_notFetch (image : List UInt8) (s : ReadThreads)
    (ev : Nat × ReadAction) (h : notFetch s ev = true) : TrueFetches image s ev := by
  obtain ⟨i, action⟩ := ev
  show AnswersTruly image (s.phase i) action
  cases action with
  | fetch answer => exact absurd h Bool.false_ne_true
  | _ => cases s.phase i <;> trivial

private def thirdByte : ReadArgs := ⟨2, 1, [0]⟩

/-- The third thread is about to fill the prefetch buffer. -/
private def fills (s : ReadThreads) : Bool :=
  s.reader.size == 4 && s.reader.prefetch.enabled && s.reader.prefetch.bufLen == 0 &&
    match s.phase 2 with
    | .entering c => c == thirdByte
    | _ => false

private theorem exec_threeReads :
    (exec step notFetch (new 4) threeReads).map fills = some true := by
  decide +kernel

private theorem thirdByte_ok : ArgsOk thirdByte := ⟨by decide, by decide, rfl⟩

/-- A buffer without valid bytes is detached to be filled with the rest of the image. -/
private theorem enterPrefetch_detaches {p : PrefetchState} (hen : p.enabled = true)
    (hlen : p.bufLen = 0) :
    ∃ p' localBuf, p.enterPrefetch 4 2 1 [0] = (p', .fetch localBuf 2) ∧ p'.enabled = true ∧
      2 ≤ localBuf.length := by
  have hmiss : p.inCache 2 1 = false := by
    unfold PrefetchState.inCache
    rw [hlen]
    rfl
  refine ⟨{ p with buf := [] }.clearBuffer,
    p.buf ++ List.replicate (httpPrefetchChunkSize - p.buf.length) 0, ?_, hen, ?_⟩
  · unfold PrefetchState.enterPrefetch
    rw [hen, hmiss]
    rfl
  · rw [List.length_append, List.length_replicate]
    simp only [httpPrefetchChunkSize]
    omega

private theorem advance_detaches (h : BufferOk image r.prefetch) (hsize : r.size = 4)
    (hen : r.prefetch.enabled = true) (hlen : r.prefetch.bufLen = 0) :
    ∃ p localBuf, advance r (.entering thirdByte) .enter =
        some ({ r with prefetch := p }, .fetching thirdByte localBuf 2) ∧
      p.enabled = true ∧ 2 ≤ localBuf.length := by
  obtain ⟨p, localBuf, henter, hp, hroom⟩ := enterPrefetch_detaches hen hlen
  refine ⟨p, localBuf, ?_, hp, hroom⟩
  have hargs : r.prefetch.enterPrefetch r.size thirdByte.off thirdByte.want thirdByte.buf =
      (p, .fetch localBuf 2) := by
    rw [hsize]
    exact henter
  unfold advance
  dsimp only
  rw [if_neg (by decide), if_pos (enterWindows_inRange h thirdByte_ok), hargs]

private theorem fetch_lastBytes {localBuf : List UInt8} (hroom : 2 ≤ localBuf.length) :
    fetchRangeOnce (some lastBytes) thirdByte.off (thirdByte.off + (2 : Nat) - 1)
      (localBuf.take 2) = (.ok 2, [3, 4]) := by
  match localBuf, hroom with
  | a :: b :: rest, _ => rfl

private theorem answersTruly_lastBytes {localBuf : List UInt8} (hroom : 2 ≤ localBuf.length) :
    AnswersTruly [1, 2, 3, 4] (.fetching thirdByte localBuf 2) (.fetch (some lastBytes)) := by
  show TrueBytes [1, 2, 3, 4] thirdByte.off _
  rw [fetch_lastBytes hroom]
  intro i hi
  obtain rfl | rfl : i = 0 ∨ i = 1 := by omega
  · rfl
  · rfl

private theorem advance_fills {localBuf : List UInt8} (hroom : 2 ≤ localBuf.length) :
    advance r (.fetching thirdByte localBuf 2) (.fetch (some lastBytes)) =
      some ({ r with requestSeq := r.requestSeq + 1 },
        .fetched thirdByte (splice localBuf 0 [3, 4]) 2) := by
  unfold advance
  dsimp only
  rw [if_pos hroom, fetch_lastBytes hroom]

private theorem advance_putsBack {localBuf : List UInt8} (hroom : 2 ≤ localBuf.length)
    (hen : r.prefetch.enabled = true) :
    ∃ r' phase, advance r (.fetched thirdByte localBuf 2) .finish = some (r', phase) ∧
      r'.prefetch.bufLen = 2 ∧ r'.prefetch.bufOff = 2 := by
  unfold advance
  dsimp only
  rw [if_pos (finishWindows_inRange thirdByte_ok hroom)]
  refine ⟨_, _, rfl, ?_, ?_⟩
  · unfold PrefetchState.finishPrefetch
    rw [hen]
    rfl
  · unfold PrefetchState.finishPrefetch
    rw [hen]
    rfl

private theorem reach_advance {size : Int} {s : ReadThreads} {i : Nat} {action : ReadAction}
    {phase phase' : ReadPhase} {r' : HttpRangeReader}
    (hreach : Reach step (TrueFetches image) (new size) s) (hphase : s.phase i = phase)
    (htrue : AnswersTruly image phase action)
    (h : advance s.reader phase action = some (r', phase')) :
    ∃ s', Reach step (TrueFetches image) (new size) s' ∧ s'.reader = r' ∧ s'.phase i = phase' := by
  subst hphase
  refine ⟨⟨r', Function.update s.phase i phase'⟩, hreach.tail (a := (i, action)) htrue ?_, rfl,
    Function.update_self ..⟩
  unfold step
  dsimp only
  rw [h]
  rfl

private theorem reach_filled :
    ∃ s, Reach step (TrueFetches [1, 2, 3, 4]) (new 4) s ∧ s.reader.prefetch.bufLen = 2 ∧
      s.reader.prefetch.bufOff = 2 := by
  obtain ⟨s, hready, hfills⟩ :=
    exists_reach_of_exec (trueFetches_of_notFetch [1, 2, 3, 4]) exec_threeReads
  unfold fills at hfills
  simp only [Bool.and_eq_true, beq_iff_eq] at hfills
  obtain ⟨⟨⟨hsize, hen⟩, hlen⟩, hphase⟩ := hfills
  split at hphase
  · next c hc =>
      obtain rfl : c = thirdByte := beq_iff_eq.mp hphase
      obtain ⟨p, localBuf, hdetaches, hp, hroom⟩ :=
        advance_detaches (reach_threadsOk hready).buffer hsize hen hlen
      obtain ⟨s₁, hreach₁, hreader₁, hphase₁⟩ := reach_advance hready hc trivial hdetaches
      obtain ⟨s₂, hreach₂, hreader₂, hphase₂⟩ :=
        reach_advance hreach₁ hphase₁ (answersTruly_lastBytes hroom) (advance_fills hroom)
      have hsplice : (splice localBuf 0 [3, 4]).length = localBuf.length := length_splice hroom
      have hen₂ : s₂.reader.prefetch.enabled = true := by
        rw [hreader₂, hreader₁]
        exact hp
      obtain ⟨r₃, phase₃, hputsBack, hlen₃, hoff₃⟩ :=
        advance_putsBack (r := s₂.reader) (hsplice ▸ hroom) hen₂
      obtain ⟨s₃, hreach₃, hreader₃, -⟩ := reach_advance hreach₂ hphase₂ trivial hputsBack
      rw [← hreader₃] at hlen₃ hoff₃
      exact ⟨s₃, hreach₃, hlen₃, hoff₃⟩
  · cases hphase

/-- Three threads that read the first bytes in turn: the third leaves the last two bytes of
the image in the buffer. -/
theorem prefetch_buffer_is_image_threeReads :
    ∃ s, Reach step (TrueFetches [1, 2, 3, 4]) (new 4) s ∧ s.reader.prefetch.bufLen = 2 ∧
      s.reader.prefetch.buf.take 2 = [3, 4] := by
  obtain ⟨s, hreach, hlen, hoff⟩ := reach_filled
  refine ⟨s, hreach, hlen, ?_⟩
  obtain ⟨-, -, hbytes⟩ := (prefetch_buffer_is_image hreach).1 (by omega)
  rw [hlen, hoff] at hbytes
  exact hbytes

end ReadThreads

end ArkKvm.Http
