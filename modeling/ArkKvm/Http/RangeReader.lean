import ArkKvm.Http.BlockCache
import ArkKvm.Lib.Text

/-!
# `HttpRangeReader`

The reader behind HTTP virtual media: `read_at` serves a range from the block
cache, from a 1 MiB prefetch buffer or by ranged GETs.  The server is a
function of the request number and of the requested range, so it may answer
the same range differently each time.  Offsets are mathematical integers: they
stay below `reader.size`, which is an `i64`.  Conversions to `usize` wrap at
32 bits as on the target.  Request metrics are not modelled.
-/

namespace ArkKvm.Http

open ArkKvm.Lib.Bytes ArkKvm.Lib.Text

def httpRangeReadReissueMax : Nat := 4

def httpPrefetchChunkSize : Nat := 1024 * 1024

def httpPrefetchEnableSeqReads : Nat := 3

inductive ReadError where
  | invalidRange
  | sendFailed
  | noContentRange (status : Nat)
  | mismatchedRange (gotStart gotEnd reqOff reqEnd : Int)
  | zeroLength
  | largerThanBuffer (expected out : Nat)
  | bodyRead
  | shortBody (expected got : Nat) (reqOff reqEnd : Int)
  | tooLong
  | drainFailed
  | shortAfterReissues (off : Int) (len got : Nat)
  deriving DecidableEq, Repr

/-- A response body: the bytes that arrive, and whether the read after them
fails instead of reporting the end of the stream. -/
structure Body where
  data : List UInt8
  fails : Bool

structure Response where
  status : Nat
  contentRange : Option (List Char)
  body : Body

/-- What `send_with_retry` gives for the GET with this number and range;
`none` when every attempt failed. -/
abbrev Server := Nat → Int → Int → Option Response

/-- `bytes START-END/TOTAL` -/
def parseContentRange (s : List Char) : Option (Int × Int × Int) := do
  let rest ← ['b', 'y', 't', 'e', 's', ' '].isPrefixOf? (trim s)
  let (rangePart, totalPart) ← splitOnce '/' rest
  let (startPart, endPart) ← splitOnce '-' rangePart
  let start ← parseI64 (trim startPart)
  let «end» ← parseI64 (trim endPart)
  let total ← parseI64 (trim totalPart)
  if start < 0 ∨ «end» < start ∨ total ≤ 0 then none else some (start, «end», total)

/-- The part of `fetch_range_once` after the response headers: check the
announced range against the request and read the body into `out`. -/
def readBody (body : Body) (reqOff reqEnd gotStart gotEnd : Int) (out : List UInt8) :
    Except ReadError Nat × List UInt8 :=
  if gotStart ≠ reqOff ∨ gotEnd < gotStart then
    (.error (.mismatchedRange gotStart gotEnd reqOff reqEnd), out)
  else
    let expected := asUsize (gotEnd - gotStart + 1)
    if expected = 0 then (.error .zeroLength, out)
    else if out.length < expected then (.error (.largerThanBuffer expected out.length), out)
    else
      let out := splice out 0 (body.data.take expected)
      if body.data.length < expected then
        if body.fails then (.error .bodyRead, out)
        else (.error (.shortBody expected body.data.length reqOff reqEnd), out)
      else if expected < body.data.length then (.error .tooLong, out)
      else if body.fails then (.error .drainFailed, out)
      else (.ok expected, out)

def fetchRangeOnce (answer : Option Response) (reqOff reqEnd : Int) (out : List UInt8) :
    Except ReadError Nat × List UInt8 :=
  match answer with
  | none => (.error .sendFailed, out)
  | some resp =>
      match resp.contentRange.bind parseContentRange with
      | none => (.error (.noContentRange resp.status), out)
      | some (gotStart, gotEnd, _) => readBody resp.body reqOff reqEnd gotStart gotEnd out

structure PrefetchState where
  enabled : Bool
  seqReads : Nat
  lastOff : Option Int
  lastLen : Nat
  buf : List UInt8
  bufOff : Int
  bufLen : Nat
  cache : BlockCache

namespace PrefetchState

def new : PrefetchState where
  enabled := false
  seqReads := 0
  lastOff := none
  lastLen := 0
  buf := List.replicate httpPrefetchChunkSize 0
  bufOff := 0
  bufLen := 0
  cache := BlockCache.new httpBlockCacheCapacity

def clearBuffer (p : PrefetchState) : PrefetchState := { p with bufOff := 0, bufLen := 0 }

def recordLastRead (p : PrefetchState) (off : Int) (total : Nat) : PrefetchState :=
  { p with lastOff := some off, lastLen := total }

def inCache (p : PrefetchState) (off : Int) (want : Nat) : Bool :=
  0 < p.bufLen && p.bufOff ≤ off && off + want ≤ p.bufOff + p.bufLen

def isSequential (p : PrefetchState) (off : Int) : Bool :=
  match p.lastOff with
  | some lastOff => lastOff + p.lastLen == off
  | none => false

/-- The sequential-read counter; a read outside of the buffer that is not
sequential ends prefetching. -/
def countRead (p : PrefetchState) (off : Int) (want : Nat) : PrefetchState :=
  if p.isSequential off then { p with seqReads := min (p.seqReads + 1) (2 ^ 32 - 1) }
  else if p.enabled && !p.inCache off want then
    { p.clearBuffer with enabled := false, seqReads := 1 }
  else if p.enabled && p.inCache off want then { p with seqReads := 0 }
  else { p with seqReads := 1 }

def beginReadWithPrefetchState (p : PrefetchState) (off : Int) (want : Nat) : PrefetchState :=
  let p := p.countRead off want
  if !p.enabled && httpPrefetchEnableSeqReads ≤ p.seqReads then
    { p.clearBuffer with enabled := true }
  else p

inductive Entry where
  /-- the direct path serves the read -/
  | direct
  /-- the read returns `n` bytes -/
  | done (n : Nat) (buf : List UInt8)
  /-- the detached buffer is to be filled with `fetchLen` bytes -/
  | fetch (localBuf : List UInt8) (fetchLen : Nat)

def enterPrefetch (p : PrefetchState) (size off : Int) (want : Nat) (buf : List UInt8) :
    PrefetchState × Entry :=
  if !p.enabled then (p, .direct)
  else if p.inCache off want then
    let start := asUsize (off - p.bufOff)
    let n := min (p.bufLen - start) want
    if n = 0 then (p.recordLastRead off 0, .done 0 buf)
    else (p.recordLastRead off n, .done n (splice buf 0 (slice p.buf start n)))
  else
    let remain := asUsize (max (size - off) 0)
    if remain = 0 then (p.recordLastRead off 0, .done 0 buf)
    else
      let fetchLen := min remain httpPrefetchChunkSize
      let localBuf := p.buf ++ List.replicate (httpPrefetchChunkSize - p.buf.length) 0
      ({ p with buf := [] }.clearBuffer, .fetch localBuf fetchLen)

def abortPrefetch (p : PrefetchState) (localBuf : List UInt8) : PrefetchState :=
  { p with buf := localBuf }.clearBuffer

def finishPrefetch (p : PrefetchState) (localBuf : List UInt8) (fetched : Nat)
    (off : Int) (want : Nat) (buf : List UInt8) : PrefetchState × Nat × List UInt8 :=
  let p := { p with buf := localBuf }
  let n := min fetched want
  let p := if p.enabled then { p with bufOff := off, bufLen := fetched } else p.clearBuffer
  if n = 0 then (p.recordLastRead off 0, 0, buf)
  else (p.recordLastRead off n, n, splice buf 0 (slice localBuf 0 n))

end PrefetchState

/-- `requestSeq` is `HTTP_RANGE_REQUEST_SEQ`, the number of GETs sent so far. -/
structure HttpRangeReader where
  size : Int
  prefetch : PrefetchState
  requestSeq : Nat

namespace HttpRangeReader

def new (size : Int) : HttpRangeReader where
  size := size
  prefetch := .new
  requestSeq := 0

def readAtWithPrefetch (srv : Server) (r : HttpRangeReader) (off : Int) (want : Nat)
    (buf : List UInt8) : HttpRangeReader × Except ReadError (Option Nat) × List UInt8 :=
  if httpPrefetchChunkSize < want then (r, .ok none, buf)
  else
    match r.prefetch.enterPrefetch r.size off want buf with
    | (p, .direct) => ({ r with prefetch := p }, .ok none, buf)
    | (p, .done n buf) => ({ r with prefetch := p }, .ok (some n), buf)
    | (p, .fetch localBuf fetchLen) =>
        let fetchEnd := off + fetchLen - 1
        let answer := srv (r.requestSeq + 1) off fetchEnd
        match fetchRangeOnce answer off fetchEnd (localBuf.take fetchLen) with
        | (.error e, out) =>
            ({ r with prefetch := p.abortPrefetch (splice localBuf 0 out)
                      requestSeq := r.requestSeq + 1 }, .error e, buf)
        | (.ok fetched, out) =>
            let (p, n, buf) := p.finishPrefetch (splice localBuf 0 out) fetched off want buf
            ({ r with prefetch := p, requestSeq := r.requestSeq + 1 }, .ok (some n), buf)

/-- The `while total < want` loop of `read_at_direct`; `left` is the number of
short answers that it still accepts. -/
def readAtDirect (srv : Server) (off «end» : Int) (want : Nat) :
    Nat → Nat → Nat → List UInt8 → Nat × Except ReadError Nat × List UInt8
  | left, seq, total, buf =>
      if total < want then
        let reqOff := off + total
        match fetchRangeOnce (srv (seq + 1) reqOff «end») reqOff «end»
            (slice buf total (want - total)) with
        | (.error e, out) => (seq + 1, .error e, splice buf total out)
        | (.ok expected, out) =>
            let buf := splice buf total out
            if expected < want - total then
              match left with
              | 0 => (seq + 1, .error (.shortAfterReissues off want (total + expected)), buf)
              | left + 1 => readAtDirect srv off «end» want left (seq + 1) (total + expected) buf
            else (seq + 1, .ok (total + expected), buf)
      else (seq, .ok total, buf)

def storeIntoCache (r : HttpRangeReader) (off : Int) (data : List UInt8) : HttpRangeReader :=
  { r with prefetch := { r.prefetch with
      cache := storeIntoBlockCache r.prefetch.cache off data } }

/-- `read_at`: the bytes read are `buf[..n]` of the returned buffer. -/
def readAt (srv : Server) (r : HttpRangeReader) (off : Int) (buf : List UInt8) :
    HttpRangeReader × Except ReadError Nat × List UInt8 :=
  if off < 0 then (r, .error .invalidRange, buf)
  else if buf.isEmpty then (r, .ok 0, buf)
  else
    let want := buf.length
    let «end» := off + want - 1
    match tryReadBlockCache r.prefetch.cache off want buf with
    | (cache, some n, buf) =>
        ({ r with prefetch := { r.prefetch with cache := cache } }, .ok n, buf)
    | (cache, none, buf) =>
        let p := { r.prefetch with cache := cache }.beginReadWithPrefetchState off want
        match readAtWithPrefetch srv { r with prefetch := p } off want buf with
        | (r, .error e, buf) => (r, .error e, buf)
        | (r, .ok (some n), buf) => (r.storeIntoCache off (buf.take n), .ok n, buf)
        | (r, .ok none, buf) =>
            match readAtDirect srv off «end» want httpRangeReadReissueMax r.requestSeq 0 buf with
            | (seq, .error e, buf) => ({ r with requestSeq := seq }, .error e, buf)
            | (seq, .ok total, buf) =>
                let r := { r with requestSeq := seq }.storeIntoCache off (buf.take total)
                ({ r with prefetch := r.prefetch.recordLastRead off total }, .ok total, buf)

end HttpRangeReader

end ArkKvm.Http
