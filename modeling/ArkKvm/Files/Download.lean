import ArkKvm.Files.Serve
import ArkKvm.Lib.Run

/-!
# Downloads that are resumed

A client downloads a file in pieces: it asks for ranges as it likes, loses the connection at any
byte, and keeps what continues the bytes that it has.  It learns where a piece belongs and how
long the file is from the headers alone.
-/

namespace ArkKvm.Files

open Lib.Text Lib.Run
open Lib.Bytes (slice)

/-! ## The client -/

/-- What a client has of a file, and the length of the whole once it is told. -/
structure Download where
  got : List UInt8
  total : Option Nat
deriving DecidableEq

/-- The header that asks for the bytes from `first` on. -/
def rangeFrom (first : Nat) : String := String.ofList (bytesUnit ++ (decimal first ++ '-' :: []))

/-- The first byte, the last byte and the length that a `Content-Range` names. -/
def readContentRange (text : List Char) : Option (Nat × Nat × Nat) :=
  (bytesUnitOf.isPrefixOf? text).bind fun range =>
    (splitOnce '-' range).bind fun (first, rest) =>
      (splitOnce '/' rest).bind fun (last, size) =>
        (parseDigits first).bind fun first =>
          (parseDigits last).bind fun last =>
            (parseDigits size).map fun size => (first, last, size)

def Download.receive (d : Download) (res : Response) (kept : Nat) : Download :=
  match res.contentRange.bind readContentRange, res.body with
  | some (first, _, size), some body =>
      if res.status = 206 ∧ first = d.got.length then
        { got := d.got ++ body.take kept, total := some size }
      else d
  | none, some body =>
      if res.status = 200 then
        { got := body.take kept, total := res.contentLength.bind parseDigits }
      else d
  | _, none => d

structure Attempt where
  range : RangeHeader
  kept : Nat

def attempt (fs : FileSystem) (base : Except String (List Char)) (t : Target) (d : Download)
    (a : Attempt) : Option Download :=
  match t.serve fs base a.range false with
  | .error _ => some d
  | .ok res => some (d.receive res a.kept)

/-! ## The texts are read back -/

theorem readContentRange_text (first last size : Nat) :
    readContentRange (contentRangeText first last size) = some (first, last, size) := by
  have hminus : '-' ∉ decimal first := fun h => absurd (isDigit_of_mem_toDigits h) (by decide)
  have hslash : '/' ∉ decimal last := fun h => absurd (isDigit_of_mem_toDigits h) (by decide)
  have hread (n : Nat) : parseDigits (decimal n) = some n := parseDigits_toDigits n
  unfold readContentRange contentRangeText
  rw [isPrefixOf?_append, Option.bind_some, splitOnce_append hminus, Option.bind_some]
  dsimp only
  rw [splitOnce_append hslash, Option.bind_some]
  dsimp only
  rw [hread, hread, hread]
  rfl

theorem parseU64_decimal {n : Nat} (h : n < 2 ^ 64) : parseU64 (decimal n) = some n := by
  have hplus : ∀ cs, decimal n ≠ '+' :: cs := by
    intro cs heq
    have hdigit := isDigit_of_mem_toDigits (show '+' ∈ decimal n by rw [heq]; simp)
    exact absurd hdigit (by decide)
  have hread : parseDigits (decimal n) = some n := parseDigits_toDigits n
  rw [parseU64_eq_field, field_eq_of_ne_plus hplus, hread]
  exact Option.filter_eq_some_iff.mpr ⟨rfl, decide_eq_true h⟩

theorem solid_unit : ∀ c ∈ bytesUnit, isWhiteSpace c = false := by
  simp [bytesUnit, isWhiteSpace]

theorem requestedRange_rangeFrom {first size : Nat} (hlt : first < size) (hsize : size < 2 ^ 64) :
    requestedRange (some (some (rangeFrom first))) size = some ⟨first, size - 1⟩ := by
  have hminus : '-' ∉ decimal first := fun h => absurd (isDigit_of_mem_toDigits h) (by decide)
  have hsolid : ∀ c ∈ bytesUnit ++ (decimal first ++ '-' :: []), isWhiteSpace c = false := by
    intro c hc
    have hmem : c ∈ bytesUnit ∨ c ∈ decimal first ∨ c = '-' := by
      simpa only [List.mem_append, List.mem_singleton] using hc
    rcases hmem with hunit | hdigit | rfl
    · exact solid_unit c hunit
    · exact isWhiteSpace_of_isDigit (isDigit_of_mem_toDigits hdigit)
    · decide
  have hne : decimal first ≠ [] := Nat.toDigits_ne_nil
  have hparse : parseRangeHeader (rangeFrom first) size = .ok (some ⟨first, size - 1⟩) := by
    rw [parseRangeHeader_some_iff]
    refine ⟨decimal first, [], ?_, ?_⟩
    · rw [rangeFrom, String.toList_ofList, trim_of_solid hsolid, fields_eq hminus]
    · unfold parseFields parseFirstLast
      rw [if_neg hne, parseU64_decimal (by omega)]
      dsimp only
      rw [if_pos rfl, if_neg (by omega), if_neg (by omega)]
  unfold requestedRange
  simp only [hparse]

/-! ## Downloads -/

variable {fs : FileSystem} {base : Except String (List Char)} {t : Target} {p : List Char}
  {content : List UInt8}

/-- What the client has is the beginning of the file, and the length that it was told is right. -/
def Download.Faithful (content : List UInt8) (d : Download) : Prop :=
  d.got <+: content ∧ ∀ n, d.total = some n → n = content.length

theorem take_slice_prefix {got : List UInt8} (hgot : got <+: content) (n kept : Nat) :
    got ++ (slice content got.length n).take kept <+: content := by
  obtain ⟨rest, rfl⟩ := hgot
  rw [List.prefix_append_right_inj]
  unfold slice
  rw [List.drop_left, List.take_take]
  exact List.take_prefix _ _

theorem receive_whole {res : Response} {body : List UInt8} (hstatus : res.status = 200)
    (hrange : res.contentRange = none) (hlength : res.contentLength = some (decimal content.length))
    (hbody : res.body = some body) (d : Download) (kept : Nat) :
    d.receive res kept = ⟨body.take kept, some content.length⟩ := by
  have hread : parseDigits (decimal content.length) = some content.length := parseDigits_toDigits _
  unfold Download.receive
  rw [hrange, hbody, hlength, Option.bind_none, Option.bind_some, hread]
  exact if_pos hstatus

theorem receive_part {res : Response} {body : List UInt8} {first last : Nat}
    (hstatus : res.status = 206)
    (hrange : res.contentRange = some (contentRangeText first last content.length))
    (hbody : res.body = some body) (d : Download) (kept : Nat) :
    d.receive res kept =
      if first = d.got.length then ⟨d.got ++ body.take kept, some content.length⟩ else d := by
  unfold Download.receive
  rw [hrange, hbody, Option.bind_some, readContentRange_text, hstatus]
  simp only [true_and]

theorem receive_nothing {res : Response} (hbody : res.body = none) (d : Download) (kept : Nat) :
    d.receive res kept = d := by
  unfold Download.receive
  rw [hbody]
  split
  · cases ‹none = some _›
  · cases ‹none = some _›
  · rfl

theorem Answers.receive {range : RangeHeader} {res : Response} (h : Answers content range false res)
    {d : Download} (hd : d.Faithful content) (kept : Nat) :
    (d.receive res kept).Faithful content := by
  cases h with
  | whole hrange status contentRange length body =>
      rw [receive_whole status contentRange length body]
      exact ⟨List.take_prefix _ _, fun n hn => (Option.some.inj hn).symm⟩
  | part r hrange hle hlt status contentRange length body =>
      rw [receive_part status contentRange body]
      split
      · next hfirst =>
          refine ⟨?_, fun n hn => (Option.some.inj hn).symm⟩
          rw [hfirst]
          exact take_slice_prefix hd.1 _ _
      · exact hd
  | unsatisfiable hrange status contentRange body =>
      rw [receive_nothing body]
      exact hd

theorem attempt_faithful (hp : t.resolve fs base = .ok p) (hnode : fs.node p = some (.file content))
    {d d' : Download} {a : Attempt} (hd : d.Faithful content)
    (h : attempt fs base t d a = some d') : d'.Faithful content := by
  unfold attempt at h
  split at h
  · obtain rfl := Option.some.inj h
    exact hd
  · next res hres =>
      obtain rfl := Option.some.inj h
      obtain ⟨p', content', hp', hnode', hanswers⟩ := serve_answers hres
      obtain rfl := Except.ok.inj (hp.symm.trans hp')
      obtain rfl := Node.file.inj (Option.some.inj (hnode.symm.trans hnode'))
      exact hanswers.receive hd a.kept

theorem serveFile_ok {notFound : String → StatusError} {i : FileInfo}
    (hnode : fs.node p = some (.file content)) (range : RangeHeader) :
    ∃ res, serveFile fs notFound (.ok i) (.ok p) range false = .ok res := by
  simp only [serveFile, bind, Except.bind, Except.mapError, hnode]
  cases requestedRange range i.size with
  | none => exact ⟨_, rfl⟩
  | some r => exact ⟨_, rfl⟩

theorem serve_of_resolve (hp : t.resolve fs base = .ok p)
    (hnode : fs.node p = some (.file content)) (range : RangeHeader) :
    ∃ res, t.serve fs base range false = .ok res := by
  cases t with
  | localFile path =>
      have hresolve : resolveLocalFilePath fs base path = .ok p := hp
      obtain ⟨relative, hrelative, -⟩ := Lib.Action.exceptBind_eq_ok_iff.mp hresolve
      have hgiven := ((userPathToRelative_ok_iff path relative).mp hrelative).1
      have hinfo : ∃ i, getLocalFileInfo fs base path = .ok i := by
        simp only [getLocalFileInfo, bind, Except.bind, hrelative, hresolve, fileInfo, hnode]
        exact ⟨_, rfl⟩
      obtain ⟨i, hi⟩ := hinfo
      show ∃ res, serveLocalFile fs base path range false = .ok res
      unfold serveLocalFile
      rw [if_neg hgiven, hi, hresolve]
      exact serveFile_ok hnode range
  | ftFile path name =>
      have hresolve : resolveFtFilePath fs base path name = .ok p := hp
      obtain ⟨relative, hrelative, -⟩ := Lib.Action.exceptBind_eq_ok_iff.mp hresolve
      have hinfo : ∃ i, getFtFileInfo fs base path name = .ok i := by
        simp only [getFtFileInfo, bind, Except.bind, hrelative, hresolve, fileInfo, hnode]
        exact ⟨_, rfl⟩
      obtain ⟨i, hi⟩ := hinfo
      show ∃ res, serveFtFile fs base (some (path, name)) range false = .ok res
      unfold serveFtFile
      dsimp only
      rw [hi, hresolve]
      exact serveFile_ok hnode range

theorem rest_completes (hp : t.resolve fs base = .ok p) (hnode : fs.node p = some (.file content))
    (hsize : content.length < 2 ^ 64) {d : Download} (hd : d.Faithful content)
    (hrest : d.got.length < content.length) {kept : Nat} (hkept : content.length ≤ kept) :
    attempt fs base t d ⟨some (some (rangeFrom d.got.length)), kept⟩ =
      some ⟨content, some content.length⟩ := by
  obtain ⟨res, hres⟩ := serve_of_resolve hp hnode (some (some (rangeFrom d.got.length)))
  have hrequest := requestedRange_rangeFrom hrest hsize
  obtain ⟨p', content', hp', hnode', hanswers⟩ := serve_answers hres
  obtain rfl := Except.ok.inj (hp.symm.trans hp')
  obtain rfl := Node.file.inj (Option.some.inj (hnode.symm.trans hnode'))
  have hattempt : attempt fs base t d ⟨some (some (rangeFrom d.got.length)), kept⟩ =
      some (d.receive res kept) := by
    unfold attempt
    rw [hres]
  rw [hattempt]
  cases hanswers with
  | whole hrange status contentRange length body =>
      rcases hrange with hnone | hempty
      · cases hnone
      · rw [hempty] at hrest
        exact absurd hrest (Nat.not_lt_zero _)
  | part r hrange hle hlt status contentRange length body =>
      obtain rfl := Option.some.inj (hrequest.symm.trans hrange)
      rw [receive_part status contentRange body, if_pos rfl]
      obtain ⟨rest, rfl⟩ := hd.1
      rw [List.length_append] at hrest hkept
      have hslice : slice (d.got ++ rest) d.got.length
          ((d.got ++ rest).length - 1 + 1 - d.got.length) = rest := by
        unfold slice
        rw [List.drop_left, List.length_append, List.take_of_length_le (by omega)]
      dsimp only
      rw [hslice, List.take_of_length_le (by omega)]
  | unsatisfiable hrange status contentRange body =>
      rw [hrequest] at hrange
      cases hrange

/-- However often the connection breaks, and whatever ranges the client asks for: what it has is
the beginning of the file, the length that it was told is the one of the file, and one request
for the rest that is answered to its end completes the download. -/
theorem download_resumes (hp : t.resolve fs base = .ok p)
    (hnode : fs.node p = some (.file content)) (hsize : content.length < 2 ^ 64) {d : Download}
    (h : Reach (attempt fs base t) anyStep ⟨[], none⟩ d) :
    d.got <+: content ∧ (d.total = some d.got.length → d.got = content) ∧
      (d.got ≠ content → ∀ kept, content.length ≤ kept →
        attempt fs base t d ⟨some (some (rangeFrom d.got.length)), kept⟩ =
          some ⟨content, some content.length⟩) := by
  have hd : d.Faithful content := by
    apply h.invariant
    · exact ⟨List.nil_prefix, nofun⟩
    · intro d a d' hd _ hstep
      exact attempt_faithful hp hnode hd hstep
  refine ⟨hd.1, fun htotal => ?_, fun hne kept hkept => ?_⟩
  · exact hd.1.eq_of_length (hd.2 _ htotal)
  · have hrest : d.got.length < content.length := by
      have hle := hd.1.length_le
      have hlen : d.got.length ≠ content.length := fun heq => hne (hd.1.eq_of_length heq)
      omega
    exact rest_completes hp hnode hsize hd hrest hkept

theorem download_resumes_halfway :
    ([0, 1, 2, 3, 4] : List UInt8) <+: [0, 1, 2, 3, 4, 5, 6, 7, 8, 9] ∧
      attempt tenBytes (.ok "/d".toList) (.localFile "latest".toList)
        ⟨[0, 1, 2, 3, 4], some 10⟩ ⟨some (some (rangeFrom 5)), 10⟩ =
        some ⟨[0, 1, 2, 3, 4, 5, 6, 7, 8, 9], some 10⟩ := by
  have hp : (Target.localFile "latest".toList).resolve tenBytes (.ok "/d".toList) =
      .ok "/d/log.txt".toList := by decide +kernel
  have hreach : Reach (attempt tenBytes (.ok "/d".toList) (.localFile "latest".toList)) anyStep
      ⟨[], none⟩ ⟨[0, 1, 2, 3, 4], some 10⟩ :=
    .tail .refl trivial (show attempt _ _ _ _ ⟨some (some "bytes=0-7"), 5⟩ = _ by decide +kernel)
  obtain ⟨hfront, -, hrest⟩ := download_resumes hp rfl (by decide) hreach
  exact ⟨hfront, hrest (by decide) 10 (by decide)⟩

end ArkKvm.Files
