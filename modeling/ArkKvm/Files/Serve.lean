import ArkKvm.Files.Containment
import ArkKvm.Files.RangeHeader

/-!
# Files over HTTP

`serve_local_file` and `serve_ft_file` of `web.rs`, with the resolving of a path and the deleting
of an archive by `services/local_file.rs` and `services/ft_file.rs`.  The file system may hold
links that lead anywhere; it does not change while one request is served.
-/

namespace ArkKvm.Files

open Lib.Text Lib.UnixPath
open Lib.Bytes (slice)

/-! ## The file system -/

inductive Node
  | file (content : List UInt8)
  | other

/-- Where a path leads when links are followed, and what is there. -/
structure FileSystem where
  canonicalize : List Char → Option (List Char)
  node : List Char → Option Node

def FileSystem.metadata (fs : FileSystem) (path : List Char) : Option Node :=
  (fs.canonicalize path).bind fs.node

def startsWith (path base : List Char) : Bool := (components base).isPrefixOf (components path)

/-- `Path::file_name`. -/
def fileName (path : List Char) : Option (List Char) :=
  match (components path).getLast? with
  | some (.normal name) => some name
  | _ => none

def resolveBelow (fs : FileSystem) (base relative : List Char) : Except String (List Char) :=
  match fs.metadata (join base relative) with
  | none => .error "file not found"
  | some .other => .error "not a regular file"
  | some (.file _) =>
      match fs.canonicalize (join base relative) with
      | none => .error "failed to resolve file path"
      | some resolved =>
          if startsWith resolved base then .ok resolved
          else .error "path outside allowed directory"

def resolveLocalFilePath (fs : FileSystem) (base : Except String (List Char))
    (userPath : List Char) : Except String (List Char) := do
  let relative ← userPathToRelative userPath
  let base ← base
  resolveBelow fs base relative

def resolveFtFilePath (fs : FileSystem) (base : Except String (List Char))
    (path name : List Char) : Except String (List Char) := do
  let relative ← buildRelativeFilePath path name
  let base ← base
  resolveBelow fs base relative

/-- `LocalFileInfo` and `FtFileInfo`. -/
structure FileInfo where
  name : List Char
  size : Nat
  path : List Char

def fileInfo (fs : FileSystem) (relative resolved : List Char) : Except String FileInfo :=
  match fs.node resolved with
  | some (.file content) =>
      .ok { name := (fileName resolved).getD [], size := content.length, path := relative }
  | _ => .error "No such file or directory (os error 2)"

def getLocalFileInfo (fs : FileSystem) (base : Except String (List Char))
    (userPath : List Char) : Except String FileInfo := do
  let relative ← userPathToRelative userPath
  let resolved ← resolveLocalFilePath fs base userPath
  fileInfo fs relative resolved

def getFtFileInfo (fs : FileSystem) (base : Except String (List Char))
    (path name : List Char) : Except String FileInfo := do
  let relative ← buildRelativeFilePath path name
  let resolved ← resolveFtFilePath fs base path name
  fileInfo fs relative resolved

/-! ## Responses -/

structure StatusError where
  code : Nat
  brief : String
deriving DecidableEq

structure Response where
  status : Nat
  acceptRanges : Option String := none
  contentType : Option String := none
  contentDisposition : Option (List Char) := none
  contentLength : Option (List Char) := none
  contentRange : Option (List Char) := none
  body : Option (List UInt8) := none
deriving DecidableEq

/-- `HeaderValue::from_str`: no control characters but the tab. -/
def headerValue (s : List Char) : Option (List Char) :=
  if s.all fun c => c = '\t' ∨ 32 ≤ c.toNat ∧ c.toNat ≠ 127 then some s else none

def ByteRange.len (r : ByteRange) : Nat := if r.end < r.start then 0 else r.end - r.start + 1

/-- `ByteRange::content_len` -/
def ByteRange.contentLen (r : ByteRange) (fileSize : Nat) : Nat :=
  if fileSize = 0 then 0 else r.len

abbrev RangeHeader := Option (Option String)

/-- The range to send, if there is one. -/
def requestedRange (range : RangeHeader) (fileSize : Nat) : Option ByteRange :=
  match range with
  | some (some header) =>
      match parseRangeHeader header fileSize with
      | .ok (some r) => some r
      | .ok none => some (.fullFile fileSize)
      | .error _ => none
  | _ => some (.fullFile fileSize)

def decimal (n : Nat) : List Char := Nat.toDigits 10 n

def bytesUnitOf : List Char := ['b', 'y', 't', 'e', 's', ' ']

def unsatisfiedRange (size : Nat) : List Char := bytesUnitOf ++ '*' :: '/' :: decimal size

def contentRangeText (first last size : Nat) : List Char :=
  bytesUnitOf ++ (decimal first ++ '-' :: (decimal last ++ '/' :: decimal size))

def disposition (name : List Char) : List Char :=
  "attachment; filename=\"".toList ++
    (name.map (fun c => if c = '\x22' then '_' else c) ++ ['\x22'])

/-- What `serve_local_file` and `serve_ft_file` do with what they know of the file, and with the
errors of their own. -/
def serveFile (fs : FileSystem) (notFound : String → StatusError) (info : Except String FileInfo)
    (resolved : Except String (List Char)) (range : RangeHeader) (headOnly : Bool) :
    Except StatusError Response := do
  let info ← info.mapError notFound
  match requestedRange range info.size with
  | none => return { status := 416, contentRange := headerValue (unsatisfiedRange info.size) }
  | some byteRange =>
      let resolved ← resolved.mapError notFound
      let rangeLen := byteRange.contentLen info.size
      let isPartial := range.isSome ∧ 0 < info.size
      let res : Response :=
        { status := if isPartial then 206 else 200
          acceptRanges := some "bytes"
          contentType := some "application/octet-stream"
          contentDisposition := headerValue (disposition info.name)
          contentLength := headerValue (decimal rangeLen)
          contentRange :=
            if isPartial then
              headerValue (contentRangeText byteRange.start byteRange.end info.size)
            else none }
      if headOnly then return res
      else
        match fs.node resolved with
        | some (.file content) =>
            return { res with body := some (slice content byteRange.start rangeLen) }
        | _ => throw { code := 500, brief := "failed to open file" }

def serveLocalFile (fs : FileSystem) (base : Except String (List Char)) (path : List Char)
    (range : RangeHeader) (headOnly : Bool) : Except StatusError Response :=
  if trim path = [] then .error { code := 400, brief := "missing path" }
  else
    serveFile fs (fun _ => { code := 404, brief := "file not found" })
      (getLocalFileInfo fs base path) (resolveLocalFilePath fs base path) range headOnly

def ftError (msg : String) : StatusError :=
  if "not mounted".toList <:+: msg.toList then
    { code := 503, brief := "file transfer filesystem not mounted" }
  else { code := 404, brief := "file not found" }

def serveFtFile (fs : FileSystem) (base : Except String (List Char))
    (query : Option (List Char × List Char)) (range : RangeHeader) (headOnly : Bool) :
    Except StatusError Response :=
  match query with
  | none => .error { code := 400, brief := "invalid query parameters" }
  | some (path, name) =>
      serveFile fs ftError (getFtFileInfo fs base path name) (resolveFtFilePath fs base path name)
        range headOnly

/-- What the two routes ask for. -/
inductive Target
  | localFile (path : List Char)
  | ftFile (path name : List Char)

section

variable (fs : FileSystem) (base : Except String (List Char))

def Target.resolve : Target → Except String (List Char)
  | .localFile path => resolveLocalFilePath fs base path
  | .ftFile path name => resolveFtFilePath fs base path name

def Target.serve : Target → RangeHeader → Bool → Except StatusError Response
  | .localFile path => serveLocalFile fs base path
  | .ftFile path name => serveFtFile fs base (some (path, name))

end

/-! ## What a response says -/

/-- What a response says about the content of a file, and carries of it. -/
inductive Answers (content : List UInt8) (range : RangeHeader) (headOnly : Bool)
    (res : Response) : Prop
  | whole (hrange : range = none ∨ content = [])
      (status : res.status = 200) (contentRange : res.contentRange = none)
      (length : res.contentLength = some (decimal content.length))
      (body : res.body = if headOnly then none else some content)
  | part (r : ByteRange) (hrange : requestedRange range content.length = some r)
      (hle : r.start ≤ r.end) (hlt : r.end < content.length)
      (status : res.status = 206)
      (contentRange : res.contentRange = some (contentRangeText r.start r.end content.length))
      (length : res.contentLength = some (decimal (r.end + 1 - r.start)))
      (body : res.body =
        if headOnly then none else some (slice content r.start (r.end + 1 - r.start)))
  | unsatisfiable (hrange : requestedRange range content.length = none)
      (status : res.status = 416)
      (contentRange : res.contentRange = some (unsatisfiedRange content.length))
      (body : res.body = none)

/-- What a request without a body gets. -/
def Response.head (res : Response) : Response := { res with body := none }

/-! ## Ranges of a file that is not empty -/

theorem parseFields_bounds {a b : List Char} {fileSize : Nat} {r : ByteRange} (hpos : 0 < fileSize)
    (h : parseFields a b fileSize = .ok r) : r.start ≤ r.end ∧ r.end < fileSize := by
  unfold parseFields at h
  split at h
  · unfold parseSuffix at h
    split at h
    · cases h
    · split_ifs at h; cases h
      dsimp only
      omega
  · unfold parseFirstLast at h
    split at h
    · cases h
    · next first _ =>
        by_cases hb : b = []
        · rw [if_pos hb, if_neg (by omega)] at h
          split_ifs at h; cases h
          dsimp only
          omega
        · rw [if_neg hb] at h
          split at h
          · cases h
          · split_ifs at h; cases h
            dsimp only
            omega

theorem requestedRange_bounds {range : RangeHeader} {fileSize : Nat} {r : ByteRange}
    (hpos : 0 < fileSize) (h : requestedRange range fileSize = some r) :
    r.start ≤ r.end ∧ r.end < fileSize := by
  have hfull : (ByteRange.fullFile fileSize).start ≤ (ByteRange.fullFile fileSize).end ∧
      (ByteRange.fullFile fileSize).end < fileSize := by
    unfold ByteRange.fullFile
    rw [if_neg (by omega)]
    dsimp only
    omega
  unfold requestedRange at h
  split at h
  · split at h
    · next header r' hparse =>
        obtain rfl := Option.some.inj h
        obtain ⟨a, b, -, hfields⟩ := parseRangeHeader_some_iff.mp hparse
        exact parseFields_bounds hpos hfields
    · obtain rfl := Option.some.inj h
      exact hfull
    · cases h
  · obtain rfl := Option.some.inj h
    exact hfull

/-! ## The texts of the headers -/

theorem headerValue_of_all {s : List Char} (h : ∀ c ∈ s, 32 ≤ c.toNat ∧ c.toNat ≠ 127) :
    headerValue s = some s := by
  unfold headerValue
  rw [if_pos]
  rw [List.all_eq_true]
  intro c hc
  exact decide_eq_true (Or.inr (h c hc))

theorem decimal_printable {n : Nat} {c : Char} (h : c ∈ decimal n) :
    32 ≤ c.toNat ∧ c.toNat ≠ 127 := by
  have hdigit := isDigit_of_mem_toDigits h
  have hrange : 48 ≤ c.toNat ∧ c.toNat ≤ 57 := by
    simpa [Char.isDigit, UInt32.le_iff_toNat_le] using hdigit
  omega

theorem unit_printable : ∀ c ∈ bytesUnitOf, 32 ≤ c.toNat ∧ c.toNat ≠ 127 := by
  simp [bytesUnitOf]

theorem headerValue_decimal (n : Nat) : headerValue (decimal n) = some (decimal n) :=
  headerValue_of_all fun _ => decimal_printable

theorem headerValue_unsatisfiedRange (size : Nat) :
    headerValue (unsatisfiedRange size) = some (unsatisfiedRange size) := by
  apply headerValue_of_all
  intro c hc
  have hmem : c ∈ bytesUnitOf ∨ c = '*' ∨ c = '/' ∨ c ∈ decimal size := by
    simpa only [unsatisfiedRange, List.mem_append, List.mem_cons] using hc
  rcases hmem with hunit | rfl | rfl | hsize
  · exact unit_printable c hunit
  · decide
  · decide
  · exact decimal_printable hsize

theorem headerValue_contentRangeText (first last size : Nat) :
    headerValue (contentRangeText first last size) = some (contentRangeText first last size) := by
  apply headerValue_of_all
  intro c hc
  have hmem : c ∈ bytesUnitOf ∨ c ∈ decimal first ∨ c = '-' ∨ c ∈ decimal last ∨ c = '/' ∨
      c ∈ decimal size := by
    simpa only [contentRangeText, List.mem_append, List.mem_cons] using hc
  rcases hmem with hunit | hfirst | rfl | hlast | rfl | hsize
  · exact unit_printable c hunit
  · exact decimal_printable hfirst
  · decide
  · exact decimal_printable hlast
  · decide
  · exact decimal_printable hsize

/-! ## Resolving -/

variable {fs : FileSystem} {base : Except String (List Char)}

/-- A resolved path is a regular file below the base, whatever led there. -/
theorem resolveBelow_ok {b relative p : List Char} (h : resolveBelow fs b relative = .ok p) :
    fs.canonicalize (join b relative) = some p ∧ startsWith p b = true ∧
      ∃ content, fs.node p = some (.file content) := by
  unfold resolveBelow at h
  split at h
  · cases h
  · cases h
  · next content hmeta =>
      split at h
      · cases h
      · next resolved hcanon =>
          split_ifs at h with hbelow
          obtain rfl := Except.ok.inj h
          unfold FileSystem.metadata at hmeta
          rw [hcanon, Option.bind_some] at hmeta
          exact ⟨hcanon, hbelow, content, hmeta⟩

theorem resolve_ok {t : Target} {p : List Char} (h : t.resolve fs base = .ok p) :
    ∃ b content, base = .ok b ∧ startsWith p b = true ∧ fs.node p = some (.file content) := by
  have hbelow : ∃ b relative, base = .ok b ∧ resolveBelow fs b relative = .ok p := by
    cases t with
    | localFile path =>
        simp only [Target.resolve, resolveLocalFilePath, bind, Except.bind] at h
        split at h
        · cases h
        · split at h
          · cases h
          · next _ b => exact ⟨b, _, rfl, h⟩
    | ftFile path name =>
        simp only [Target.resolve, resolveFtFilePath, bind, Except.bind] at h
        split at h
        · cases h
        · split at h
          · cases h
          · next _ b => exact ⟨b, _, rfl, h⟩
  obtain ⟨b, relative, hb, hresolve⟩ := hbelow
  obtain ⟨-, hstarts, content, hnode⟩ := resolveBelow_ok hresolve
  exact ⟨b, content, hb, hstarts, hnode⟩

/-! ## Responses -/

theorem contentLen_eq {r : ByteRange} {fileSize : Nat} (hle : r.start ≤ r.end)
    (hlt : r.end < fileSize) : r.contentLen fileSize = r.end + 1 - r.start := by
  unfold ByteRange.contentLen ByteRange.len
  rw [if_neg (by omega), if_neg (by omega)]
  omega

theorem contentLen_fullFile (content : List UInt8) :
    (ByteRange.fullFile content.length).contentLen content.length = content.length := by
  by_cases hzero : content.length = 0
  · unfold ByteRange.contentLen
    rw [if_pos hzero, hzero]
  · unfold ByteRange.fullFile
    rw [if_neg hzero, contentLen_eq (Nat.zero_le _) (by dsimp only; omega)]
    dsimp only
    omega

theorem slice_fullFile (content : List UInt8) :
    slice content (ByteRange.fullFile content.length).start content.length = content := by
  have hstart : (ByteRange.fullFile content.length).start = 0 := by
    unfold ByteRange.fullFile
    split
    · rfl
    · rfl
  rw [hstart]
  unfold slice
  rw [List.drop_zero, List.take_length]

variable {notFound : String → StatusError} {info : Except String FileInfo}
  {resolved : Except String (List Char)} {range : RangeHeader} {headOnly : Bool} {res : Response}

theorem serveFile_answers {p : List Char} {content : List UInt8} {i : FileInfo}
    (hinfo : info = .ok i) (hsize : i.size = content.length) (hresolved : resolved = .ok p)
    (hnode : fs.node p = some (.file content))
    (h : serveFile fs notFound info resolved range headOnly = .ok res) :
    Answers content range headOnly res := by
  subst hinfo hresolved
  simp only [serveFile, bind, Except.bind, Except.mapError, hsize, hnode] at h
  cases hrange : requestedRange range content.length with
  | none =>
      rw [hrange] at h
      obtain rfl := Except.ok.inj h
      exact .unsatisfiable hrange rfl (headerValue_unsatisfiedRange content.length) rfl
  | some r =>
      rw [hrange] at h
      dsimp only at h
      have hbody : ∃ body : Option (List UInt8),
          body = (if headOnly then none
            else some (slice content r.start (r.contentLen content.length))) ∧
          res.status = (if range.isSome ∧ 0 < content.length then 206 else 200) ∧
          res.contentLength = headerValue (decimal (r.contentLen content.length)) ∧
          res.contentRange = (if range.isSome ∧ 0 < content.length then
            headerValue (contentRangeText r.start r.end content.length) else none) ∧
          res.body = body := by
        split at h
        · next hhead =>
            obtain rfl := Except.ok.inj h
            exact ⟨none, (if_pos hhead).symm, rfl, rfl, rfl, rfl⟩
        · next hget =>
            obtain rfl := Except.ok.inj h
            exact ⟨_, (if_neg hget).symm, rfl, rfl, rfl, rfl⟩
      obtain ⟨body, hbody, hstatus, hlength, hcontentRange, hres⟩ := hbody
      rw [headerValue_decimal] at hlength
      rw [headerValue_contentRangeText] at hcontentRange
      by_cases hpart : range.isSome ∧ 0 < content.length
      · obtain ⟨hle, hlt⟩ := requestedRange_bounds hpart.2 hrange
        rw [if_pos hpart] at hstatus hcontentRange
        rw [contentLen_eq hle hlt] at hbody hlength
        exact .part r hrange hle hlt hstatus hcontentRange hlength (hres.trans hbody)
      · rw [if_neg hpart] at hstatus hcontentRange
        by_cases hempty : content = []
        · subst hempty
          rw [ByteRange.contentLen, List.length_nil, if_pos rfl] at hbody hlength
          refine .whole (.inr rfl) hstatus hcontentRange hlength (hres.trans ?_)
          rw [hbody, Lib.Bytes.slice_zero]
        · have hnone : range = none := by
            rw [not_and, Option.isSome_iff_ne_none] at hpart
            by_contra hsome
            exact hpart hsome (List.length_pos_iff.mpr hempty)
          rw [hnone] at hrange
          obtain rfl := Option.some.inj hrange
          rw [contentLen_fullFile, slice_fullFile] at hbody
          rw [contentLen_fullFile] at hlength
          exact .whole (.inl hnone) hstatus hcontentRange hlength (hres.trans hbody)

theorem fileInfo_ok {relative p : List Char} {i : FileInfo} (h : fileInfo fs relative p = .ok i) :
    ∃ content, fs.node p = some (.file content) ∧ i.size = content.length := by
  unfold fileInfo at h
  split at h
  · next content hnode =>
      obtain rfl := Except.ok.inj h
      exact ⟨content, hnode, rfl⟩
  · cases h

theorem getLocalFileInfo_ok {path : List Char} {i : FileInfo}
    (h : getLocalFileInfo fs base path = .ok i) :
    ∃ p content, resolveLocalFilePath fs base path = .ok p ∧ fs.node p = some (.file content) ∧
      i.size = content.length := by
  simp only [getLocalFileInfo, bind, Except.bind] at h
  split at h
  · cases h
  · split at h
    · cases h
    · next p hp =>
        obtain ⟨content, hnode, hsize⟩ := fileInfo_ok h
        exact ⟨p, content, hp, hnode, hsize⟩

theorem getFtFileInfo_ok {path name : List Char} {i : FileInfo}
    (h : getFtFileInfo fs base path name = .ok i) :
    ∃ p content, resolveFtFilePath fs base path name = .ok p ∧
      fs.node p = some (.file content) ∧ i.size = content.length := by
  simp only [getFtFileInfo, bind, Except.bind] at h
  split at h
  · cases h
  · split at h
    · cases h
    · next p hp =>
        obtain ⟨content, hnode, hsize⟩ := fileInfo_ok h
        exact ⟨p, content, hp, hnode, hsize⟩

theorem info_of_serveFile (h : serveFile fs notFound info resolved range headOnly = .ok res) :
    ∃ i, info = .ok i := by
  cases info with
  | error e => cases h
  | ok i => exact ⟨i, rfl⟩

theorem serve_answers {t : Target} (h : t.serve fs base range headOnly = .ok res) :
    ∃ p content, t.resolve fs base = .ok p ∧ fs.node p = some (.file content) ∧
      Answers content range headOnly res := by
  cases t with
  | localFile path =>
      have hserve : serveLocalFile fs base path range headOnly = .ok res := h
      unfold serveLocalFile at hserve
      split_ifs at hserve
      obtain ⟨i, hinfo⟩ := info_of_serveFile hserve
      obtain ⟨p, content, hp, hnode, hsize⟩ := getLocalFileInfo_ok hinfo
      exact ⟨p, content, hp, hnode, serveFile_answers hinfo hsize hp hnode hserve⟩
  | ftFile path name =>
      have hserve : serveFtFile fs base (some (path, name)) range headOnly = .ok res := h
      unfold serveFtFile at hserve
      obtain ⟨i, hinfo⟩ := info_of_serveFile hserve
      obtain ⟨p, content, hp, hnode, hsize⟩ := getFtFileInfo_ok hinfo
      exact ⟨p, content, hp, hnode, serveFile_answers hinfo hsize hp hnode hserve⟩

/-- A request for the head gets what the request for the file gets, but for the body. -/
theorem serveFile_head {p : List Char} {content : List UInt8} {i : FileInfo}
    (hinfo : info = .ok i) (hresolved : resolved = .ok p) (hnode : fs.node p = some (.file content)) :
    serveFile fs notFound info resolved range true =
      (serveFile fs notFound info resolved range false).map Response.head := by
  subst hinfo hresolved
  simp only [serveFile, bind, Except.bind, Except.mapError, hnode]
  cases requestedRange range i.size with
  | none => rfl
  | some r => rfl

theorem serve_head (t : Target) :
    t.serve fs base range true = (t.serve fs base range false).map Response.head := by
  cases t with
  | localFile path =>
      show serveLocalFile fs base path range true = (serveLocalFile ..).map _
      unfold serveLocalFile
      split_ifs
      · rfl
      · cases hinfo : getLocalFileInfo fs base path with
        | error e => rfl
        | ok i =>
            obtain ⟨p, content, hp, hnode, hsize⟩ := getLocalFileInfo_ok hinfo
            exact serveFile_head rfl hp hnode
  | ftFile path name =>
      show serveFtFile fs base (some (path, name)) range true =
        (serveFtFile fs base (some (path, name)) range false).map _
      unfold serveFtFile
      dsimp only
      cases hinfo : getFtFileInfo fs base path name with
      | error e => rfl
      | ok i =>
          obtain ⟨p, content, hp, hnode, hsize⟩ := getFtFileInfo_ok hinfo
          exact serveFile_head rfl hp hnode

/-- Whatever links the file system holds: a response of either route is about a regular file below
the base, its status and headers say which bytes of that file it carries, it carries exactly
these, and the request for the head gets the same without them. -/
theorem served_is_announced (t : Target)
    (h : t.serve fs base range headOnly = .ok res) :
    (∃ b p content, base = .ok b ∧ t.resolve fs base = .ok p ∧ startsWith p b = true ∧
      fs.node p = some (.file content) ∧ Answers content range headOnly res) ∧
    t.serve fs base range true = .ok res.head := by
  obtain ⟨p, content, hp, hnode, hanswers⟩ := serve_answers h
  obtain ⟨b, -, hb, hbelow, -⟩ := resolve_ok hp
  refine ⟨⟨b, p, content, hb, hp, hbelow, hnode, hanswers⟩, ?_⟩
  cases headOnly with
  | false => rw [serve_head, h, Except.map]
  | true =>
      rw [h]
      have hbody : res.body = none := by
        cases hanswers with
        | whole hrange status contentRange length body => exact body
        | part r hrange hle hlt status contentRange length body => exact body
        | unsatisfiable hrange status contentRange body => exact body
      show Except.ok res = Except.ok { res with body := none }
      rw [← hbody]

/-- The base and a file of ten bytes in it, which a link of another name leads to. -/
def tenBytes : FileSystem where
  canonicalize path :=
    if path = "/d/log.txt".toList ∨ path = "/d/latest".toList then some "/d/log.txt".toList
    else none
  node path :=
    if path = "/d/log.txt".toList then some (.file [0, 1, 2, 3, 4, 5, 6, 7, 8, 9]) else none

def lastThree : Response where
  status := 206
  acceptRanges := some "bytes"
  contentType := some "application/octet-stream"
  contentDisposition := some (disposition "log.txt".toList)
  contentLength := some (decimal 3)
  contentRange := some (contentRangeText 7 9 10)
  body := some [7, 8, 9]

theorem served_is_announced_lastThree :
    (∃ b p content, (.ok "/d".toList : Except String (List Char)) = .ok b ∧
      (Target.localFile "latest".toList).resolve tenBytes (.ok "/d".toList) = .ok p ∧
      startsWith p b = true ∧ tenBytes.node p = some (.file content) ∧
      Answers content (some (some "bytes=7-")) false lastThree) ∧
    (Target.localFile "latest".toList).serve tenBytes (.ok "/d".toList) (some (some "bytes=7-"))
      true = .ok lastThree.head :=
  served_is_announced (.localFile "latest".toList) (by decide +kernel)

/-! ## Deleting an archive -/

def validateEvidenceBasename (path : List Char) : Except String Unit := do
  let relative ← userPathToRelative path
  if (components relative).length ≠ 1 then
    throw "path must be a filename without directories"
  else if ¬ ".zip".toList <:+ relative ∧ ¬ ".tgz".toList <:+ relative then
    throw "only .zip and .tgz evidence archives can be deleted"
  else return ()

def FileSystem.removeFile (fs : FileSystem) (path : List Char) : FileSystem where
  canonicalize q := (fs.canonicalize q).filter (· ≠ path)
  node q := if q = path then none else fs.node q

def deleteCollectedEvidenceFile (fs : FileSystem) (base : Except String (List Char))
    (userPath : List Char) : Except String FileSystem := do
  validateEvidenceBasename userPath
  let relative ← userPathToRelative userPath
  let b ← base
  if (fs.metadata (join b relative)).isNone then return fs
  else do
    let resolved ← resolveLocalFilePath fs base userPath
    return fs.removeFile resolved

theorem head_parts_ne_nil {c : Char} (hc : c ≠ '/') (path : List Char) :
    (parts (c :: path)).head? ≠ some [] := by
  unfold parts
  rw [List.splitOn_eq_splitOnP, List.splitOnP_cons_eq_if_modifyHead, if_neg (by simpa using hc)]
  obtain ⟨first, rest, hsplit⟩ :=
    List.exists_cons_of_ne_nil (List.splitOnP_ne_nil (· == '/') path)
  rw [hsplit, List.modifyHead_cons, List.head?_cons]
  exact fun h => List.cons_ne_nil c first (Option.some.inj h)

theorem components_append_slash {dir last : List Char} (hlast : '/' ∉ last) {name : List Char}
    (hname : partComponent last = some (.normal name)) :
    (components (dir ++ '/' :: last)).length ≠ 1 := by
  unfold components
  rw [parts_append_slash, parts_of_notMem hlast, List.filterMap_append,
    List.filterMap_cons_some hname, List.filterMap_nil, List.length_append, List.length_append,
    List.length_singleton]
  by_cases hroot : (dir ++ '/' :: last).head? = some '/'
  · rw [if_pos hroot, List.length_singleton]
    omega
  · rw [if_neg hroot]
    by_cases hdot : (parts dir ++ [last]).head? = some ['.']
    · rw [if_pos hdot, List.length_singleton]
      omega
    · -- the first part is a name of its own
      obtain ⟨first, rest, hparts⟩ := List.exists_cons_of_ne_nil (parts_ne_nil dir)
      rw [hparts] at hdot ⊢
      have hne : first ≠ ['.'] := fun h => hdot (by rw [h]; rfl)
      have hfirst : first ≠ [] := by
        intro hnil
        cases dir with
        | nil => exact hroot rfl
        | cons c dir =>
            have hc : c ≠ '/' := fun h => hroot (by rw [h]; rfl)
            apply head_parts_ne_nil hc dir
            rw [hparts, hnil, List.head?_cons]
      have hsome : (partComponent first).isSome := by
        unfold partComponent
        split
        · exact absurd rfl hfirst
        · exact absurd rfl hne
        · rfl
        · rfl
      obtain ⟨c, hc⟩ := Option.isSome_iff_exists.mp hsome
      rw [List.filterMap_cons_some hc, List.length_cons]
      omega

theorem last_slash {path : List Char} (h : '/' ∈ path) :
    ∃ dir last, path = dir ++ '/' :: last ∧ '/' ∉ last := by
  obtain ⟨front, back, hsplit, hfront⟩ := List.eq_append_cons_of_mem (List.mem_reverse.mpr h)
  refine ⟨back.reverse, front.reverse, ?_, fun hmem => hfront (List.mem_reverse.mp hmem)⟩
  rw [← List.reverse_reverse path, hsplit]
  simp

theorem slash_notMem_of_components {path ending : List Char} (hone : (components path).length = 1)
    (hending : ending <:+ path) (hslash : '/' ∉ ending) (hlong : 2 < ending.length) :
    '/' ∉ path := by
  intro hmem
  obtain ⟨dir, last, rfl, hlast⟩ := last_slash hmem
  have hsuffix : ending <:+ last := by
    rcases List.suffix_or_suffix_of_suffix hending
      ⟨dir, rfl⟩ with hshort | hover
    · rcases List.suffix_cons_iff.mp hshort with rfl | hin
      · exact absurd List.mem_cons_self hslash
      · exact hin
    · exact absurd (hover.subset List.mem_cons_self) hslash
  have hlen := hsuffix.length_le
  have hname : partComponent last = some (.normal last) := by
    unfold partComponent
    split
    · rw [List.length_nil] at hlen
      omega
    · rw [List.length_singleton] at hlen
      omega
    · rw [List.length_cons, List.length_singleton] at hlen
      omega
    · rfl
  exact components_append_slash hlast hname hone

theorem validateEvidenceBasename_ok {path : List Char} {u : Unit}
    (h : validateEvidenceBasename path = .ok u) :
    ∃ name, userPathToRelative path = .ok name ∧ (components name).length = 1 ∧
      (".zip".toList <:+ name ∨ ".tgz".toList <:+ name) := by
  obtain ⟨name, hname, hcheck⟩ := Lib.Action.exceptBind_eq_ok_iff.mp h
  refine ⟨name, hname, ?_⟩
  split at hcheck
  · cases hcheck
  · next hone =>
      refine ⟨not_not.mp hone, ?_⟩
      by_contra hneither
      rw [not_or] at hneither
      rw [if_pos hneither] at hcheck
      cases hcheck

/-- A deletion removes at most one file: the regular file below the base that a plain name in the
base with one of the two endings leads to. -/
theorem delete_removes_archive {userPath : List Char} {fs' : FileSystem}
    (h : deleteCollectedEvidenceFile fs base userPath = .ok fs') :
    fs' = fs ∨ ∃ b name p content, base = .ok b ∧ userPathToRelative userPath = .ok name ∧
      '/' ∉ name ∧ (".zip".toList <:+ name ∨ ".tgz".toList <:+ name) ∧
      fs.canonicalize (join b name) = some p ∧ startsWith p b = true ∧
      fs.node p = some (.file content) ∧ fs' = fs.removeFile p := by
  obtain ⟨u, hvalid, h⟩ := Lib.Action.exceptBind_eq_ok_iff.mp h
  obtain ⟨name, hname, hone, hending⟩ := validateEvidenceBasename_ok hvalid
  obtain ⟨name', hname', h⟩ := Lib.Action.exceptBind_eq_ok_iff.mp h
  obtain rfl := Except.ok.inj (hname.symm.trans hname')
  obtain ⟨b, hb, h⟩ := Lib.Action.exceptBind_eq_ok_iff.mp h
  have hplain : '/' ∉ name := by
    rcases hending with hzip | htgz
    · exact slash_notMem_of_components hone hzip (by decide) (by decide)
    · exact slash_notMem_of_components hone htgz (by decide) (by decide)
  split at h
  · exact .inl (Except.ok.inj h).symm
  · obtain ⟨p, hp, h⟩ := Lib.Action.exceptBind_eq_ok_iff.mp h
    have hresolve : resolveBelow fs b name = .ok p := by
      simpa only [resolveLocalFilePath, hname, hb, bind, Except.bind] using hp
    obtain ⟨hcanon, hbelow, content, hnode⟩ := resolveBelow_ok hresolve
    exact .inr ⟨b, name, p, content, hb, hname, hplain, hending, hcanon, hbelow, hnode,
      (Except.ok.inj h).symm⟩

def oneArchive : FileSystem where
  canonicalize path :=
    if path = ['/', 'd', '/', 'a', '.', 'z', 'i', 'p'] then some path else none
  node path :=
    if path = ['/', 'd', '/', 'a', '.', 'z', 'i', 'p'] then some (.file [80, 75]) else none

theorem delete_removes_archive_zip :
    oneArchive.removeFile ['/', 'd', '/', 'a', '.', 'z', 'i', 'p'] = oneArchive ∨
      ∃ b name p content, (.ok ['/', 'd'] : Except String (List Char)) = .ok b ∧
        userPathToRelative ['a', '.', 'z', 'i', 'p'] = .ok name ∧ '/' ∉ name ∧
        (".zip".toList <:+ name ∨ ".tgz".toList <:+ name) ∧
        oneArchive.canonicalize (join b name) = some p ∧ startsWith p b = true ∧
        oneArchive.node p = some (.file content) ∧
        oneArchive.removeFile ['/', 'd', '/', 'a', '.', 'z', 'i', 'p'] = oneArchive.removeFile p :=
  delete_removes_archive (show deleteCollectedEvidenceFile oneArchive (.ok ['/', 'd'])
    ['a', '.', 'z', 'i', 'p'] = .ok _ from rfl)

end ArkKvm.Files
