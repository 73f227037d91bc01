import ArkKvm.Http.RangeReader

/-!
# The direct path, read by read

`read_at_direct` with the body of every response arriving in pieces: each index into the
caller's buffer is checked, and each read of a body is recorded with the bytes that it put
there.  It computes what `readAtDirect` computes of the whole bodies.
-/

namespace ArkKvm.Http

open ArkKvm.Lib.Bytes

/-! ## The reads -/

structure PiecewiseResponse where
  status : Nat
  contentRange : Option (List Char)
  pieces : List (List UInt8)
  nonempty : ∀ p ∈ pieces, p ≠ []
  fails : Bool

def PiecewiseResponse.whole (r : PiecewiseResponse) : Response :=
  ⟨r.status, r.contentRange, ⟨r.pieces.flatten, r.fails⟩⟩

abbrev PiecewiseServer := Nat → Int → Int → Option PiecewiseResponse

def PiecewiseServer.whole (srv : PiecewiseServer) : Server := fun i a b =>
  (srv i a b).map PiecewiseResponse.whole

/-- One read of a body: the request with its offset, and the bytes with their place in the
caller's buffer. -/
structure Write where
  request : Nat
  reqOff : Int
  start : Nat
  bytes : List UInt8

/-- `&mut buf[a..b]`; `none` when it panics. -/
def window (buf : List UInt8) (a b : Nat) : Option (List UInt8) :=
  if a ≤ b ∧ b ≤ buf.length then some (slice buf a (b - a)) else none

structure BodyRead where
  result : Except ReadError Nat
  pieces : List (List UInt8)
  out : List UInt8
  writes : List Write

/-- `while read < expected`.  Every read that goes on takes a byte, so `expected` passes are
enough. -/
def readLoop (request : Nat) (reqOff : Int) (base : Nat) (fails : Bool) (expected : Nat) :
    Nat → Nat → List (List UInt8) → List UInt8 → Option BodyRead
  | 0, read, pieces, out => some ⟨.ok read, pieces, out, []⟩
  | fuel + 1, read, pieces, out =>
      if read < expected then
        (window out read expected).bind fun room =>
          match pieces with
          | [] => some ⟨if fails then .error .bodyRead else .ok read, [], out, []⟩
          | piece :: rest =>
              let bytes := piece.take room.length
              let pieces :=
                if piece.length ≤ room.length then rest else piece.drop room.length :: rest
              (readLoop request reqOff base fails expected fuel (read + bytes.length) pieces
                (splice out read bytes)).map fun r =>
                  { r with writes := ⟨request, reqOff, base + read, bytes⟩ :: r.writes }
      else some ⟨.ok read, pieces, out, []⟩

def finishBody (fails : Bool) (expected : Nat) (reqOff reqEnd : Int) (r : BodyRead) :
    Except ReadError Nat :=
  match r.result with
  | .error e => .error e
  | .ok read =>
      if read ≠ expected then .error (.shortBody expected read reqOff reqEnd)
      else if r.pieces ≠ [] then .error .tooLong
      else if fails = true then .error .drainFailed
      else .ok expected

structure RangeFetch where
  result : Except ReadError Nat
  out : List UInt8
  writes : List Write

/-- `fetch_range_once` into `out`, which starts at `base` in the caller's buffer. -/
def fetchPieces (answer : Option PiecewiseResponse) (request base : Nat) (reqOff reqEnd : Int)
    (out : List UInt8) : Option RangeFetch :=
  match answer with
  | none => some ⟨.error .sendFailed, out, []⟩
  | some resp =>
      match resp.contentRange.bind parseContentRange with
      | none => some ⟨.error (.noContentRange resp.status), out, []⟩
      | some (gotStart, gotEnd, _) =>
          if gotStart ≠ reqOff ∨ gotEnd < gotStart then
            some ⟨.error (.mismatchedRange gotStart gotEnd reqOff reqEnd), out, []⟩
          else
            let expected := asUsize (gotEnd - gotStart + 1)
            if expected = 0 then some ⟨.error .zeroLength, out, []⟩
            else if out.length < expected then
              some ⟨.error (.largerThanBuffer expected out.length), out, []⟩
            else
              (readLoop request reqOff base resp.fails expected expected 0 resp.pieces out).map
                fun r => ⟨finishBody resp.fails expected reqOff reqEnd r, r.out, r.writes⟩

structure DirectRun where
  seq : Nat
  result : Except ReadError Nat
  buf : List UInt8
  writes : List Write

/-- The loop of `read_at_direct`; `left` is the number of short answers that it still
accepts, `seq` the number of requests sent so far. -/
def readAtDirectPieces (srv : PiecewiseServer) (off «end» : Int) (want : Nat) :
    Nat → Nat → Nat → List UInt8 → Option DirectRun
  | left, seq, total, buf =>
      if total < want then
        let reqOff := off + total
        (window buf total want).bind fun room =>
          (fetchPieces (srv (seq + 1) reqOff «end») (seq + 1) total reqOff «end» room).bind fun f =>
            let buf := splice buf total f.out
            match f.result with
            | .error e => some ⟨seq + 1, .error e, buf, f.writes⟩
            | .ok expected =>
                if expected < want - total then
                  match left with
                  | 0 =>
                      some ⟨seq + 1, .error (.shortAfterReissues off want (total + expected)), buf,
                        f.writes⟩
                  | left + 1 =>
                      (readAtDirectPieces srv off «end» want left (seq + 1) (total + expected)
                        buf).map fun r => { r with writes := f.writes ++ r.writes }
                else some ⟨seq + 1, .ok (total + expected), buf, f.writes⟩
      else some ⟨seq, .ok total, buf, []⟩

/-! ## The loop over a body -/

/-- The writes cover a part of the buffer from `a` to `b`, one behind the other. -/
def Tiles : Nat → List Write → Nat → Prop
  | a, [], b => a = b
  | a, w :: ws, b => w.start = a ∧ Tiles (a + w.bytes.length) ws b

theorem Tiles.append {a b c : Nat} {ws vs : List Write} (h : Tiles a ws b) (h' : Tiles b vs c) :
    Tiles a (ws ++ vs) c := by
  induction ws generalizing a with
  | nil =>
      cases h
      exact h'
  | cons w ws ih => exact ⟨h.1, ih h.2⟩

theorem Tiles.le {a b : Nat} {ws : List Write} (h : Tiles a ws b) : a ≤ b := by
  induction ws generalizing a with
  | nil => exact le_of_eq h
  | cons w ws ih =>
      have hrest := ih h.2
      omega

theorem Tiles.bounds {a b : Nat} {ws : List Write} (h : Tiles a ws b) {w : Write} (hw : w ∈ ws) :
    a ≤ w.start ∧ w.start + w.bytes.length ≤ b := by
  induction ws generalizing a with
  | nil => cases hw
  | cons v ws ih =>
      obtain ⟨hstart, hrest⟩ := h
      have hle := hrest.le
      rcases List.mem_cons.mp hw with rfl | hw
      · omega
      · have hbounds := ih hrest hw
        omega

/-- The write covers this byte of the buffer. -/
def Write.covers (i : Nat) (w : Write) : Bool := w.start ≤ i && i < w.start + w.bytes.length

/-- Every byte between the ends is covered by one write. -/
theorem Tiles.once {a b : Nat} {ws : List Write} (h : Tiles a ws b) {i : Nat} (ha : a ≤ i)
    (hb : i < b) : (ws.filter (Write.covers i)).length = 1 := by
  induction ws generalizing a with
  | nil =>
      cases h
      omega
  | cons w ws ih =>
      obtain ⟨hstart, hrest⟩ := h
      by_cases hin : i < a + w.bytes.length
      · have hcovers : w.covers i = true := by
          simp only [Write.covers, Bool.and_eq_true, decide_eq_true_eq]
          omega
        have hnone : ws.filter (Write.covers i) = [] := by
          rw [List.filter_eq_nil_iff]
          intro v hv hcovered
          have hbounds := hrest.bounds hv
          simp only [Write.covers, Bool.and_eq_true, decide_eq_true_eq] at hcovered
          omega
        rw [List.filter_cons_of_pos hcovers, hnone]
        rfl
      · have hcovers : ¬ w.covers i = true := by
          simp only [Write.covers, Bool.and_eq_true, decide_eq_true_eq]
          omega
        rw [List.filter_cons_of_neg hcovers]
        exact ih hrest (by omega)

theorem window_eq {buf : List UInt8} {a b : Nat} (hab : a ≤ b) (hb : b ≤ buf.length) :
    window buf a b = some (slice buf a (b - a)) := if_pos ⟨hab, hb⟩

theorem flatten_eq_read (piece : List UInt8) (rest : List (List UInt8)) (n : Nat) :
    (piece :: rest).flatten = piece.take n ++
      (if piece.length ≤ n then rest else piece.drop n :: rest).flatten := by
  split
  · next h => rw [List.take_of_length_le h, List.flatten_cons]
  · rw [List.flatten_cons, List.flatten_cons, ← List.append_assoc, List.take_append_drop]

theorem nonempty_of_read {piece : List UInt8} {rest : List (List UInt8)} {n : Nat}
    (h : ∀ p ∈ piece :: rest, p ≠ []) :
    ∀ p ∈ (if piece.length ≤ n then rest else piece.drop n :: rest), p ≠ [] := by
  intro p hp
  split at hp
  · exact h p (List.mem_cons_of_mem piece hp)
  · next hlong =>
      rcases List.mem_cons.mp hp with rfl | hp
      · rw [Ne, List.drop_eq_nil_iff]
        exact hlong
      · exact h p (List.mem_cons_of_mem piece hp)

/-- What a loop over a body has done: it took the bytes up to `expected`, as far as they
came, and each of its writes is a window of the body. -/
structure BodyTaken (request : Nat) (reqOff : Int) (base : Nat) (fails : Bool)
    (expected read : Nat) (data out : List UInt8) (r : BodyRead) : Prop where
  out : r.out = splice out read (data.take (expected - read))
  result : r.result = if data.length < expected - read ∧ fails = true then .error .bodyRead
    else .ok (read + min (expected - read) data.length)
  left : r.pieces.flatten = data.drop (expected - read)
  nonempty : ∀ p ∈ r.pieces, p ≠ []
  tiles : Tiles (base + read) r.writes (base + read + min (expected - read) data.length)
  source : ∀ w ∈ r.writes, w.request = request ∧ w.reqOff = reqOff ∧
    w.bytes = slice data (w.start - (base + read)) w.bytes.length

section Loop

variable {request : Nat} {reqOff : Int} {base : Nat} {fails : Bool} {expected read : Nat}
  {data bytes out : List UInt8}

theorem bodyTaken_done {pieces : List (List UInt8)} (hne : ∀ p ∈ pieces, p ≠ [])
    (hdone : expected ≤ read) :
    BodyTaken request reqOff base fails expected read pieces.flatten out
      ⟨.ok read, pieces, out, []⟩ := by
  have hnone : expected - read = 0 := by omega
  refine ⟨?_, ?_, ?_, hne, ?_, nofun⟩
  · rw [hnone, List.take_zero, splice_nil]
  · rw [hnone, if_neg (by omega), Nat.zero_min, Nat.add_zero]
  · rw [hnone, List.drop_zero]
  · rw [hnone, Nat.zero_min]
    exact rfl

theorem bodyTaken_short (hmore : read < expected) :
    BodyTaken request reqOff base fails expected read [] out
      ⟨if fails then .error .bodyRead else .ok read, [], out, []⟩ := by
  refine ⟨?_, ?_, ?_, nofun, ?_, nofun⟩
  · rw [List.take_nil, splice_nil]
  · have hshort : 0 < expected - read := by omega
    simp only [List.length_nil, hshort, true_and, Nat.min_zero, Nat.add_zero]
  · rw [List.drop_nil]
    rfl
  · rw [List.length_nil, Nat.min_zero]
    exact rfl

theorem BodyTaken.cons {r : BodyRead}
    (h : BodyTaken request reqOff base fails expected (read + bytes.length) data
      (splice out read bytes) r) (hle : read + bytes.length ≤ expected)
    (hout : expected ≤ out.length) :
    BodyTaken request reqOff base fails expected read (bytes ++ data) out
      { r with writes := ⟨request, reqOff, base + read, bytes⟩ :: r.writes } := by
  have hneed : expected - read = bytes.length + (expected - (read + bytes.length)) := by omega
  have hlength : (bytes ++ data).length = bytes.length + data.length := List.length_append
  refine ⟨?_, ?_, ?_, h.nonempty, ⟨rfl, ?_⟩, ?_⟩
  · dsimp only
    rw [h.out, splice_splice, hneed, List.take_length_add_append]
    rw [List.length_take]
    omega
  · dsimp only
    rw [h.result, hlength]
    refine if_congr (and_congr_left fun _ => ?_) rfl (congrArg Except.ok ?_)
    · omega
    · omega
  · dsimp only
    rw [h.left, hneed, List.drop_length_add_append]
  · have htiles := h.tiles
    have hend : base + (read + bytes.length) + min (expected - (read + bytes.length)) data.length =
        base + read + min (expected - read) (bytes.length + data.length) := by omega
    rw [hend, ← Nat.add_assoc] at htiles
    rw [hlength]
    exact htiles
  · intro w hw
    rcases List.mem_cons.mp hw with rfl | hw
    · refine ⟨rfl, rfl, ?_⟩
      dsimp only
      rw [Nat.sub_self]
      simp [slice]
    · obtain ⟨hrequest, hoff, hbytes⟩ := h.source w hw
      have hbounds := h.tiles.bounds hw
      refine ⟨hrequest, hoff, ?_⟩
      rw [show w.start - (base + read) =
        bytes.length + (w.start - (base + (read + bytes.length))) by omega, slice_append_right]
      exact hbytes

theorem readLoop_spec (request : Nat) (reqOff : Int) (base : Nat) (fails : Bool) (expected : Nat)
    (fuel read : Nat) {pieces : List (List UInt8)} (hne : ∀ p ∈ pieces, p ≠ [])
    {out : List UInt8} (hread : read ≤ expected) (hfuel : expected ≤ read + fuel)
    (hout : expected ≤ out.length) :
    ∃ r, readLoop request reqOff base fails expected fuel read pieces out = some r ∧
      BodyTaken request reqOff base fails expected read pieces.flatten out r := by
  induction fuel generalizing read pieces out with
  | zero => exact ⟨_, rfl, bodyTaken_done hne (by omega)⟩
  | succ fuel ih =>
      unfold readLoop
      by_cases hmore : read < expected
      · rw [if_pos hmore, window_eq hread hout, Option.bind_some]
        cases pieces with
        | nil => exact ⟨_, rfl, bodyTaken_short hmore⟩
        | cons piece rest =>
            have hroom : (slice out read (expected - read)).length = expected - read :=
              length_slice_of_le (by omega)
            have hpiece : 1 ≤ piece.length :=
              List.length_pos_of_ne_nil (hne piece List.mem_cons_self)
            have hdata := flatten_eq_read piece rest (expected - read)
            have hne' := nonempty_of_read (n := expected - read) hne
            have hbytes :
                (piece.take (expected - read)).length = min (expected - read) piece.length :=
              List.length_take
            dsimp only
            rw [hroom]
            generalize (if piece.length ≤ expected - read then rest
              else piece.drop (expected - read) :: rest) = pieces' at hdata hne' ⊢
            generalize piece.take (expected - read) = bytes at hdata hbytes ⊢
            have hlength : (splice out read bytes).length = out.length :=
              length_splice (by omega)
            obtain ⟨r, hrun, htaken⟩ := ih (read + bytes.length) hne' (by omega) (by omega)
              (hout.trans (le_of_eq hlength.symm))
            rw [hrun, Option.map_some, hdata]
            exact ⟨_, rfl, htaken.cons (by omega) hout⟩
      · rw [if_neg hmore]
        exact ⟨_, rfl, bodyTaken_done hne (by omega)⟩

end Loop

/-! ## One request -/

/-- A successful request for `n` bytes: its writes tile the first `n` bytes of `out` with
windows of a response that starts where the request does. -/
structure FetchOk (answer : Option PiecewiseResponse) (request base : Nat) (reqOff : Int)
    (out : List UInt8) (f : RangeFetch) (n : Nat) : Prop where
  pos : 1 ≤ n
  le : n ≤ out.length
  tiles : Tiles base f.writes (base + n)
  source : ∃ resp gotEnd total, answer = some resp ∧
    resp.contentRange.bind parseContentRange = some (reqOff, gotEnd, total) ∧
    ∀ w ∈ f.writes, w.request = request ∧ w.reqOff = reqOff ∧
      w.bytes = slice resp.pieces.flatten (w.start - base) w.bytes.length
  content : ∀ w ∈ f.writes, slice f.out (w.start - base) w.bytes.length = w.bytes
  length : f.out.length = out.length

theorem pieces_eq_nil_iff {pieces : List (List UInt8)} (hne : ∀ p ∈ pieces, p ≠ []) :
    pieces = [] ↔ pieces.flatten = [] := by
  constructor
  · rintro rfl
    rfl
  · intro hflat
    rw [List.eq_nil_iff_forall_not_mem]
    intro p hp
    exact hne p hp (List.flatten_eq_nil_iff.mp hflat p hp)

theorem fetchOk_of_taken {resp : PiecewiseResponse} {request base expected : Nat}
    {reqOff gotEnd total : Int} {out : List UInt8} {r : BodyRead}
    (hrange : resp.contentRange.bind parseContentRange = some (reqOff, gotEnd, total))
    (hpos : expected ≠ 0) (hout : expected ≤ out.length)
    (hdata : expected ≤ resp.pieces.flatten.length)
    (h : BodyTaken request reqOff base resp.fails expected 0 resp.pieces.flatten out r) :
    FetchOk (some resp) request base reqOff out ⟨.ok expected, r.out, r.writes⟩ expected := by
  have htiles := h.tiles
  rw [Nat.sub_zero, Nat.min_eq_left hdata, Nat.add_zero] at htiles
  have htake : (resp.pieces.flatten.take expected).length = expected := by
    rw [List.length_take]
    omega
  have hroutput : r.out = splice out 0 (resp.pieces.flatten.take expected) := h.out
  have hbounds : 0 + (resp.pieces.flatten.take expected).length ≤ out.length := by omega
  refine ⟨by omega, hout, htiles, ⟨resp, gotEnd, total, rfl, hrange, fun w hw => ?_⟩,
    fun w hw => ?_, ?_⟩
  · have hsource := h.source w hw
    rwa [Nat.add_zero] at hsource
  · have hwindow := htiles.bounds hw
    obtain ⟨-, -, hbytes⟩ := h.source w hw
    rw [Nat.add_zero] at hbytes
    dsimp only
    conv_rhs => rw [hbytes]
    apply slice_eq_of_getElem?
    intro i hi
    rw [hroutput, getElem?_splice hbounds, if_pos (by omega), Nat.sub_zero, List.getElem?_take,
      if_pos (by omega)]
  · dsimp only
    rw [hroutput, length_splice hbounds]

theorem finishBody_eq {request base expected : Nat} {reqOff reqEnd : Int} {fails : Bool}
    {data out : List UInt8} {r : BodyRead}
    (h : BodyTaken request reqOff base fails expected 0 data out r) :
    finishBody fails expected reqOff reqEnd r =
      if data.length < expected then
        if fails = true then .error .bodyRead
        else .error (.shortBody expected data.length reqOff reqEnd)
      else if expected < data.length then .error .tooLong
      else if fails = true then .error .drainFailed
      else .ok expected := by
  have hresult := h.result
  have hnil := pieces_eq_nil_iff h.nonempty
  rw [h.left, Nat.sub_zero, List.drop_eq_nil_iff] at hnil
  rw [Nat.sub_zero, Nat.zero_add] at hresult
  unfold finishBody
  rw [hresult]
  by_cases hshort : data.length < expected
  · rw [if_pos hshort]
    cases fails with
    | true =>
        rw [if_pos ⟨hshort, rfl⟩]
        rfl
    | false =>
        rw [if_neg (fun hboth => Bool.false_ne_true hboth.2), Nat.min_eq_right hshort.le]
        exact if_pos hshort.ne
  · rw [if_neg hshort, if_neg (fun hboth => hshort hboth.1)]
    dsimp only
    rw [Nat.min_eq_left (not_lt.mp hshort), if_neg (not_not.mpr rfl)]
    by_cases hlong : expected < data.length
    · rw [if_pos hlong, if_pos (fun hr => absurd (hnil.mp hr) (not_le.mpr hlong))]
    · rw [if_neg hlong, if_neg (not_not.mpr (hnil.mpr (not_lt.mp hlong)))]

theorem finishBody_ok {request base expected n : Nat} {reqOff reqEnd : Int} {fails : Bool}
    {data out : List UInt8} {r : BodyRead}
    (h : BodyTaken request reqOff base fails expected 0 data out r)
    (hok : finishBody fails expected reqOff reqEnd r = .ok n) :
    expected = n ∧ expected ≤ data.length := by
  rw [finishBody_eq h] at hok
  split at hok
  · split at hok
    · cases hok
    · cases hok
  · next hcomplete =>
      split at hok
      · cases hok
      · split at hok
        · cases hok
        · cases hok
          exact ⟨rfl, not_lt.mp hcomplete⟩

theorem fetchPieces_spec (answer : Option PiecewiseResponse) (request base : Nat)
    (reqOff reqEnd : Int) (out : List UInt8) :
    ∃ f, fetchPieces answer request base reqOff reqEnd out = some f ∧
      (f.result, f.out) =
        fetchRangeOnce (answer.map PiecewiseResponse.whole) reqOff reqEnd out ∧
      ∀ n, f.result = .ok n → FetchOk answer request base reqOff out f n := by
  unfold fetchPieces fetchRangeOnce
  cases answer with
  | none => exact ⟨_, rfl, rfl, nofun⟩
  | some resp =>
      rw [Option.map_some]
      dsimp only
      rw [show resp.whole.contentRange = resp.contentRange from rfl]
      cases hrange : resp.contentRange.bind parseContentRange with
      | none => exact ⟨_, rfl, rfl, nofun⟩
      | some range =>
          obtain ⟨gotStart, gotEnd, total⟩ := range
          dsimp only
          rw [show resp.whole.body = ⟨resp.pieces.flatten, resp.fails⟩ from rfl]
          unfold readBody
          by_cases hmismatch : gotStart ≠ reqOff ∨ gotEnd < gotStart
          · rw [if_pos hmismatch, if_pos hmismatch]
            exact ⟨_, rfl, rfl, nofun⟩
          rw [if_neg hmismatch, if_neg hmismatch]
          have hstart : gotStart = reqOff := by
            by_contra hne
            exact hmismatch (Or.inl hne)
          dsimp only
          generalize hexpected : asUsize (gotEnd - gotStart + 1) = expected
          by_cases hzero : expected = 0
          · rw [if_pos hzero, if_pos hzero]
            exact ⟨_, rfl, rfl, nofun⟩
          rw [if_neg hzero, if_neg hzero]
          by_cases hlarge : out.length < expected
          · rw [if_pos hlarge, if_pos hlarge]
            exact ⟨_, rfl, rfl, nofun⟩
          rw [if_neg hlarge, if_neg hlarge]
          obtain ⟨r, hrun, htaken⟩ := readLoop_spec request reqOff base resp.fails expected expected
            0 resp.nonempty (Nat.zero_le expected) (by omega) (not_lt.mp hlarge)
          rw [hrun, Option.map_some]
          refine ⟨_, rfl, ?_, fun n hok => ?_⟩
          · have hout : r.out = splice out 0 (resp.pieces.flatten.take expected) := htaken.out
            dsimp only
            rw [finishBody_eq htaken, hout]
            by_cases hshort : resp.pieces.flatten.length < expected
            · rw [if_pos hshort, if_pos hshort]
              cases resp.fails <;> rfl
            · rw [if_neg hshort, if_neg hshort]
              by_cases hlong : expected < resp.pieces.flatten.length
              · rw [if_pos hlong, if_pos hlong]
              · rw [if_neg hlong, if_neg hlong]
                cases resp.fails <;> rfl
          · dsimp only at hok
            obtain ⟨hn, hcomplete⟩ := finishBody_ok htaken hok
            rw [hok, ← hn]
            rw [hstart] at hrange
            exact fetchOk_of_taken hrange hzero (not_lt.mp hlarge) hcomplete htaken

/-! ## The whole read -/

/-- The write put a window of a response there whose Content-Range starts at the offset of
the request. -/
def FromResponse (srv : PiecewiseServer) (off «end» : Int) (w : Write) : Prop :=
  ∃ resp gotEnd total, srv w.request w.reqOff «end» = some resp ∧
    resp.contentRange.bind parseContentRange = some (w.reqOff, gotEnd, total) ∧
    w.reqOff ≤ off + w.start ∧
    w.bytes = slice resp.pieces.flatten (off + w.start - w.reqOff).toNat w.bytes.length

structure DirectOk (srv : PiecewiseServer) (off «end» : Int) (want total : Nat)
    (buf : List UInt8) (run : DirectRun) (n : Nat) : Prop where
  count : n = want
  tiles : Tiles total run.writes want
  source : ∀ w ∈ run.writes, FromResponse srv off «end» w
  content : ∀ w ∈ run.writes, slice run.buf w.start w.bytes.length = w.bytes
  frame : ∀ i < total, run.buf[i]? = buf[i]?

section Pass

variable {srv : PiecewiseServer} {off «end» : Int} {want seq total expected : Nat}
  {buf : List UInt8} {f : RangeFetch}

theorem fromResponse_of_fetch
    (h : FetchOk (srv (seq + 1) (off + total) «end») (seq + 1) total (off + total)
      (slice buf total (want - total)) f expected) :
    ∀ w ∈ f.writes, FromResponse srv off «end» w := by
  intro w hw
  obtain ⟨resp, gotEnd, size, hanswer, hrange, hwrites⟩ := h.source
  obtain ⟨hrequest, hoff, hbytes⟩ := hwrites w hw
  have hbounds := h.tiles.bounds hw
  refine ⟨resp, gotEnd, size, ?_, ?_, ?_, ?_⟩
  · rw [hrequest, hoff]
    exact hanswer
  · rw [hoff]
    exact hrange
  · rw [hoff]
    omega
  · rw [hoff, show (off + w.start - (off + total)).toNat = w.start - total by omega]
    exact hbytes

theorem length_out (h : FetchOk (srv (seq + 1) (off + total) «end») (seq + 1) total (off + total)
    (slice buf total (want - total)) f expected) (htotal : total ≤ want)
    (hwant : want ≤ buf.length) : f.out.length = want - total := by
  rw [h.length, length_slice_of_le (by omega)]

theorem content_of_fetch
    (h : FetchOk (srv (seq + 1) (off + total) «end») (seq + 1) total (off + total)
      (slice buf total (want - total)) f expected) (htotal : total ≤ want)
    (hwant : want ≤ buf.length) :
    ∀ w ∈ f.writes, slice (splice buf total f.out) w.start w.bytes.length = w.bytes := by
  intro w hw
  have hlength := length_out h htotal hwant
  have hbounds := h.tiles.bounds hw
  have hle := h.le
  rw [length_slice_of_le (by omega)] at hle
  conv_rhs => rw [← h.content w hw]
  apply slice_eq_of_getElem?
  intro i hi
  rw [getElem?_splice (by omega), if_pos (by omega)]
  congr 1
  omega

theorem frame_of_fetch
    (h : FetchOk (srv (seq + 1) (off + total) «end») (seq + 1) total (off + total)
      (slice buf total (want - total)) f expected) (htotal : total ≤ want)
    (hwant : want ≤ buf.length) : ∀ i < total, (splice buf total f.out)[i]? = buf[i]? := by
  intro i hi
  have hlength := length_out h htotal hwant
  rw [getElem?_splice (by omega), if_neg (by omega)]

theorem directOk_of_fetch
    (h : FetchOk (srv (seq + 1) (off + total) «end») (seq + 1) total (off + total)
      (slice buf total (want - total)) f expected) (htotal : total ≤ want)
    (hwant : want ≤ buf.length) (hrest : ¬ expected < want - total) (n : Nat)
    (hn : total + expected = n) :
    DirectOk srv off «end» want total buf
      ⟨seq + 1, .ok (total + expected), splice buf total f.out, f.writes⟩ n := by
  have hle := h.le
  rw [length_slice_of_le (by omega)] at hle
  have hwhole : total + expected = want := by omega
  have htiles := h.tiles
  rw [hwhole] at htiles
  exact ⟨by omega, htiles, fromResponse_of_fetch h, content_of_fetch h htotal hwant,
    frame_of_fetch h htotal hwant⟩

theorem DirectOk.reissue {run : DirectRun} {n : Nat}
    (hrun : DirectOk srv off «end» want (total + expected) (splice buf total f.out) run n)
    (h : FetchOk (srv (seq + 1) (off + total) «end») (seq + 1) total (off + total)
      (slice buf total (want - total)) f expected) (htotal : total ≤ want)
    (hwant : want ≤ buf.length) :
    DirectOk srv off «end» want total buf { run with writes := f.writes ++ run.writes } n := by
  refine ⟨hrun.count, h.tiles.append hrun.tiles, fun w hw => ?_, fun w hw => ?_, fun i hi => ?_⟩
  · rcases List.mem_append.mp hw with hw | hw
    · exact fromResponse_of_fetch h w hw
    · exact hrun.source w hw
  · rcases List.mem_append.mp hw with hw | hw
    · have hbounds := h.tiles.bounds hw
      refine Eq.trans ?_ (content_of_fetch h htotal hwant w hw)
      apply slice_eq_of_getElem?
      intro i hi
      exact hrun.frame _ (by omega)
    · exact hrun.content w hw
  · rw [hrun.frame i (by omega)]
    exact frame_of_fetch h htotal hwant i hi

end Pass

/-- The loop takes no index out of the buffer, sends at most one request more than it
accepts short answers, and computes what it computes of the whole bodies. -/
theorem readAtDirectPieces_spec (srv : PiecewiseServer) (off «end» : Int)
    (want left seq total : Nat) (buf : List UInt8) (htotal : total ≤ want)
    (hwant : want ≤ buf.length) :
    ∃ run, readAtDirectPieces srv off «end» want left seq total buf = some run ∧
      run.seq ≤ seq + left + 1 ∧
      (run.seq, run.result, run.buf) =
        HttpRangeReader.readAtDirect srv.whole off «end» want left seq total buf ∧
      ∀ n, run.result = .ok n → DirectOk srv off «end» want total buf run n := by
  induction left using Nat.strong_induction_on generalizing seq total buf with
  | _ left ih =>
      unfold readAtDirectPieces HttpRangeReader.readAtDirect
      by_cases hmore : total < want
      · rw [if_pos hmore, if_pos hmore, window_eq htotal hwant, Option.bind_some]
        obtain ⟨f, hrun, hwhole, hok⟩ := fetchPieces_spec (srv (seq + 1) (off + total) «end»)
          (seq + 1) total (off + total) «end» (slice buf total (want - total))
        dsimp only
        rw [hrun, Option.bind_some]
        have hanswer : srv.whole (seq + 1) (off + total) «end» =
            (srv (seq + 1) (off + total) «end»).map PiecewiseResponse.whole := rfl
        rw [hanswer, ← hwhole]
        cases hresult : f.result with
        | error e =>
            refine ⟨_, rfl, by dsimp only; omega, rfl, ?_⟩
            nofun
        | ok expected =>
            have hfetch := hok expected hresult
            have hle := hfetch.le
            rw [length_slice_of_le (by omega)] at hle
            dsimp only
            by_cases hshort : expected < want - total
            · rw [if_pos hshort, if_pos hshort]
              cases left with
              | zero => exact ⟨_, rfl, by dsimp only; omega, rfl, nofun⟩
              | succ left =>
                  have hlength := length_out hfetch htotal hwant
                  have hsplice : (splice buf total f.out).length = buf.length :=
                    length_splice (by omega)
                  obtain ⟨run, hrest, hseq, hcoarse, hdirect⟩ := ih left (Nat.lt_succ_self left)
                    (seq + 1) (total + expected) (splice buf total f.out) (by omega)
                    (hwant.trans (le_of_eq hsplice.symm))
                  dsimp only
                  rw [hrest, Option.map_some]
                  exact ⟨_, rfl, by dsimp only; omega, hcoarse, fun n hn =>
                    (hdirect n hn).reissue hfetch htotal hwant⟩
            · rw [if_neg hshort, if_neg hshort]
              refine ⟨_, rfl, by dsimp only; omega, rfl, fun n hn => ?_⟩
              exact directOk_of_fetch hfetch htotal hwant hshort n (Except.ok.inj hn)
      · rw [if_neg hmore, if_neg hmore]
        refine ⟨_, rfl, by dsimp only; omega, rfl, fun n hn => ?_⟩
        have htotal' : total = want := by omega
        cases hn
        exact ⟨htotal', htotal', nofun, nofun, fun _ _ => rfl⟩

/-- `read_at_direct` ends for every server without leaving the buffer: it sends at most one
request more than it may reissue, and when it succeeds every byte of the range was written
once, from a response whose Content-Range starts at the offset of its request. -/
theorem read_at_direct_exact (srv : PiecewiseServer) (off «end» : Int) (want seq : Nat)
    (buf : List UInt8) (hwant : want ≤ buf.length) :
    ∃ run, readAtDirectPieces srv off «end» want httpRangeReadReissueMax seq 0 buf = some run ∧
      run.seq ≤ seq + (httpRangeReadReissueMax + 1) ∧
      ∀ n, run.result = .ok n → n = want ∧
        (∀ i < want, (run.writes.filter (Write.covers i)).length = 1) ∧
        ∀ w ∈ run.writes, FromResponse srv off «end» w ∧
          slice run.buf w.start w.bytes.length = w.bytes := by
  obtain ⟨run, hrun, hseq, -, hdirect⟩ := readAtDirectPieces_spec srv off «end» want
    httpRangeReadReissueMax seq 0 buf (Nat.zero_le want) hwant
  refine ⟨run, hrun, by omega, fun n hn => ?_⟩
  have hok := hdirect n hn
  refine ⟨hok.count, fun i hi => hok.tiles.once (Nat.zero_le i) hi, fun w hw => ?_⟩
  exact ⟨hok.source w hw, hok.content w hw⟩

/-- A server that sends the two bytes of its image one by one. -/
private def twoPieces : PiecewiseServer := fun _ a b =>
  if a = 0 ∧ b = 1 then some ⟨206, some "bytes 0-1/2".toList, [[1], [2]], by decide, false⟩
  else none

theorem read_at_direct_exact_twoPieces :
    ∃ run, readAtDirectPieces twoPieces 0 1 2 4 0 0 [0, 0] = some run ∧ run.buf = [1, 2] ∧
      ∀ i < 2, (run.writes.filter (Write.covers i)).length = 1 := by
  have hread : ((readAtDirectPieces twoPieces 0 1 2 4 0 0 [0, 0]).map fun run =>
      (run.result.isOk, run.buf)) = some (true, [1, 2]) := by decide +kernel
  obtain ⟨run, hrun, -, hexact⟩ := read_at_direct_exact twoPieces 0 1 2 0 [0, 0] (le_refl 2)
  have hsame : readAtDirectPieces twoPieces 0 1 2 4 0 0 [0, 0] = some run := hrun
  rw [hsame, Option.map_some, Option.some_inj, Prod.mk.injEq] at hread
  obtain ⟨hok, hbuf⟩ := hread
  cases hresult : run.result with
  | error e =>
      rw [hresult] at hok
      cases hok
  | ok n => exact ⟨run, hrun, hbuf, (hexact n hresult).2.1⟩

end ArkKvm.Http
