import ArkKvm.Lib.Bytes

/-!
# Downloading an update

`CloudManager::download_file` asks for the length of the package, and then for its bytes until
it has that many.  A connection that breaks is resumed from the byte reached with a `Range`
header, and every body that comes back is written behind what is there, whether the server
answered with the rest (206) or with the whole package again (200).
-/

namespace ArkKvm.Ota

namespace Download

def maxRetries : Nat := 12

/-! ## What the server answers -/

inductive StreamItem
  /-- `fault = some k`: the write of the chunk fails after `k` bytes -/
  | chunk (bytes : List UInt8) (fault : Option Nat)
  | failed (err : String)

inductive Answer
  | sendFailed (err : String)
  /-- a response, with its body until it breaks or ends -/
  | response (status : Nat) (items : List StreamItem)

/-- The answer to the request of this number with this `Range: bytes=N-`. -/
abbrev Server := Nat → Option Nat → Answer

/-- `StatusCode::is_success`. -/
def isSuccess (status : Nat) : Bool := 200 ≤ status && status < 300

/-- The bytes of a body before it breaks. -/
def delivered : List StreamItem → List UInt8
  | [] => []
  | .failed _ :: _ => []
  | .chunk bytes _ :: items => bytes ++ delivered items

/-! ## The download -/

structure Progress where
  file : List UInt8 := []
  downloaded : Nat := 0
  retryCount : Nat := 0

inductive StreamEnd
  | finished
  | broken
  | stopped (err : String)

def readStream : List StreamItem → Progress → Progress × StreamEnd
  | [], p => (p, .finished)
  | .failed err :: _, p =>
      let p := { p with retryCount := p.retryCount + 1 }
      if maxRetries < p.retryCount then
        (p, .stopped ("Download failed after " ++ toString maxRetries ++ " retries: " ++ err))
      else (p, .broken)
  | .chunk bytes (some k) :: _, p =>
      ({ p with
        file := p.file ++ bytes.take k
        retryCount := 0 }, .stopped "Failed to write chunk")
  | .chunk bytes none :: items, p =>
      readStream items
        { file := p.file ++ bytes
          downloaded := p.downloaded + bytes.length
          retryCount := 0 }

inductive Round
  | again (p : Progress)
  | done (p : Progress)
  | stopped (p : Progress) (err : String)

def round (totalSize : Nat) (p : Progress) : Answer → Round
  | .sendFailed err =>
      let p := { p with retryCount := p.retryCount + 1 }
      if maxRetries < p.retryCount then
        .stopped p ("Failed to send download request after " ++ toString maxRetries ++
          " retries: " ++ err)
      else .again p
  | .response status items =>
      if ¬ isSuccess status ∧ status ≠ 206 then
        .stopped p ("Download file failed: HTTP " ++ toString status)
      else match readStream items p with
        | (p, .stopped err) => .stopped p err
        | (p, .broken) => .again p
        | (p, .finished) =>
            if totalSize ≤ p.downloaded then .done p
            else
              let p := { p with retryCount := p.retryCount + 1 }
              if maxRetries < p.retryCount then
                .stopped p ("Download incomplete after " ++ toString maxRetries ++ " retries")
              else .again p

def rangeOf (p : Progress) : Option Nat := if 0 < p.downloaded then some p.downloaded else none

/-- The loop, for as many rounds as there is fuel; `none` when it goes on. -/
def downloadLoop (server : Server) (totalSize : Nat) : Nat → Nat → Progress →
    Option (Progress × Except String Unit)
  | 0, _, _ => none
  | fuel + 1, i, p =>
      match round totalSize p (server i (rangeOf p)) with
      | .again p => downloadLoop server totalSize fuel (i + 1) p
      | .done p => some (p, .ok ())
      | .stopped p err => some (p, .error err)

structure LocalIo where
  directories : Bool
  opened : Bool
  flushed : Bool
  synced : Bool
  hashed : Bool

def finish (hash : List UInt8 → String) (io : LocalIo) (file : List UInt8) :
    Except String String :=
  if ¬ io.flushed then .error "Failed to flush file"
  else if ¬ io.synced then .error "Failed to sync file"
  else if ¬ io.hashed then .error "Failed to read file"
  else .ok (hash file)

/-- `download_file`: the file at the path and the result.  `head` is the Content-Length of the
answer to the first request; a missing one counts as zero. -/
def downloadFile (hash : List UInt8 → String) (io : LocalIo) (head : Except String (Option Nat))
    (server : Server) (fuel : Nat) (before : Option (List UInt8)) :
    Option (Option (List UInt8) × Except String String) :=
  if ¬ io.directories then some (before, .error "Failed to create directories")
  else match head with
    | .error err => some (before, .error err)
    | .ok length =>
        if ¬ io.opened then some (before, .error "Failed to open file")
        else match downloadLoop server (length.getD 0) fuel 0 {} with
          | none => none
          | some (p, .error err) => some (some p.file, .error err)
          | some (p, .ok ()) => some (some p.file, finish hash io p.file)

/-! ## Servers that conform -/

/-- A server with this content may answer with all of it, or to a `Range` with the rest; the
connection may break anywhere, and a request may be refused. -/
def Conforms (content : List UInt8) (range : Option Nat) : Answer → Prop
  | .sendFailed _ => True
  | .response status items => isSuccess status = true →
      (status = 200 ∧ delivered items <+: content) ∨
        (status = 206 ∧ ∃ n < content.length, range = some n ∧
          delivered items <+: content.drop n)

def Answer.delivered : Answer → List UInt8
  | .sendFailed _ => []
  | .response _ items => Download.delivered items

/-- The requests of a download, each by its `Range`, with their answers. -/
def exchanges (server : Server) (totalSize : Nat) : Nat → Nat → Progress →
    List (Option Nat × Answer)
  | 0, _, _ => []
  | fuel + 1, i, p =>
      (rangeOf p, server i (rangeOf p)) ::
        match round totalSize p (server i (rangeOf p)) with
        | .again p => exchanges server totalSize fuel (i + 1) p
        | _ => []

/-! ## What a round adds -/

variable {server : Server} {totalSize fuel i : Nat} {p p' : Progress} {content : List UInt8}

/-- `d` was written behind the file. -/
def Adds (d : List UInt8) (p p' : Progress) : Prop :=
  p'.file = p.file ++ d ∧ p'.downloaded = p.downloaded + d.length

/-- A body that is not cut short by a failure of the call is written as far as it came. -/
theorem readStream_adds {items : List StreamItem} {e : StreamEnd}
    (h : readStream items p = (p', e)) (hgo : ∀ err, e ≠ .stopped err) :
    Adds (delivered items) p p' := by
  induction items generalizing p with
  | nil =>
      cases h
      exact ⟨(List.append_nil _).symm, rfl⟩
  | cons item items ih =>
      cases item with
      | failed err =>
          simp only [readStream] at h
          split at h
          · cases h
            exact absurd rfl (hgo _)
          · cases h
            exact ⟨(List.append_nil _).symm, rfl⟩
      | chunk bytes fault =>
          cases fault with
          | some k =>
              cases h
              exact absurd rfl (hgo _)
          | none =>
              obtain ⟨hfile, hcount⟩ := ih h
              refine ⟨?_, ?_⟩
              · rw [hfile, delivered, List.append_assoc]
              · rw [hcount, delivered, List.length_append, Nat.add_assoc]

theorem round_again {a : Answer} (h : round totalSize p a = .again p') :
    Adds a.delivered p p' := by
  cases a with
  | sendFailed err =>
      simp only [round] at h
      split at h
      · cases h
      · cases h
        exact ⟨(List.append_nil _).symm, rfl⟩
  | response status items =>
      simp only [round] at h
      split at h
      · cases h
      · split at h
        · cases h
        · next p₁ hread =>
            cases h
            exact readStream_adds hread (by nofun)
        · next p₁ hread =>
            split at h
            · cases h
            · split at h
              · cases h
              · have hadds := readStream_adds hread (by nofun)
                cases h
                exact ⟨hadds.1, hadds.2⟩

theorem round_done {a : Answer} (h : round totalSize p a = .done p') :
    Adds a.delivered p p' ∧ totalSize ≤ p'.downloaded := by
  cases a with
  | sendFailed err =>
      simp only [round] at h
      split at h
      · cases h
      · cases h
  | response status items =>
      simp only [round] at h
      split at h
      · cases h
      · split at h
        · cases h
        · cases h
        · next p₁ hread =>
            split at h
            · next hlong =>
                cases h
                exact ⟨readStream_adds hread (by nofun), hlong⟩
            · split at h
              · cases h
              · cases h

theorem getD_rangeOf (p : Progress) : (rangeOf p).getD 0 = p.downloaded := by
  unfold rangeOf
  split
  · rfl
  · show 0 = p.downloaded
    omega

/-- The bytes of an answer are those of the content from the requested byte on. -/
def Fits (content : List UInt8) (x : Option Nat × Answer) : Prop :=
  x.2.delivered <+: content.drop (x.1.getD 0)

theorem adds_prefix_iff (content : List UInt8) {range : Option Nat} {a : Answer}
    (hcount : p.downloaded = p.file.length) (hrange : range.getD 0 = p.downloaded) (h : Adds a.delivered p p') :
    p'.downloaded = p'.file.length ∧
      (p'.file <+: content ↔ p.file <+: content ∧ Fits content (range, a)) := by
  obtain ⟨hfile, hdownloaded⟩ := h
  refine ⟨?_, ?_⟩
  · rw [hdownloaded, hfile, List.length_append, hcount]
  · rw [hfile, Lib.Bytes.append_prefix_iff, Fits, hrange, hcount]

/-- A download that ends has the announced length at least, and is a beginning of the content
if and only if every answer fits. -/
theorem downloadLoop_ok (content : List UInt8) (hcount : p.downloaded = p.file.length)
    (h : downloadLoop server totalSize fuel i p = some (p', .ok ())) :
    totalSize ≤ p'.file.length ∧
      (p'.file <+: content ↔
        p.file <+: content ∧ ∀ x ∈ exchanges server totalSize fuel i p, Fits content x) := by
  induction fuel generalizing i p with
  | zero => cases h
  | succ fuel ih =>
      unfold downloadLoop at h
      unfold exchanges
      cases hround : round totalSize p (server i (rangeOf p)) with
      | again p₁ =>
          rw [hround] at h
          obtain ⟨hcount₁, hfits⟩ :=
            adds_prefix_iff content hcount (getD_rangeOf p) (round_again hround)
          obtain ⟨hlong, hrest⟩ := ih hcount₁ h
          refine ⟨hlong, ?_⟩
          rw [hrest, hfits, List.forall_mem_cons, and_assoc]
      | done p₁ =>
          rw [hround] at h
          cases h
          obtain ⟨hadds, hlong⟩ := round_done hround
          obtain ⟨hcount₁, hfits⟩ :=
            adds_prefix_iff content hcount (getD_rangeOf p) hadds
          refine ⟨hcount₁ ▸ hlong, ?_⟩
          rw [hfits]
          simp
      | stopped p₁ err =>
          rw [hround] at h
          cases h

/-! ## The condition -/

theorem downloadFile_ok {hash : List UInt8 → String} {io : LocalIo}
    {head : Except String (Option Nat)} {before file : Option (List UInt8)} {hex : String}
    (h : downloadFile hash io head server fuel before = some (file, .ok hex)) :
    ∃ length p, head = .ok length ∧
      downloadLoop server (length.getD 0) fuel 0 {} = some (p, .ok ()) ∧ file = some p.file ∧
      hex = hash p.file := by
  unfold downloadFile at h
  split at h
  · cases h
  · cases head with
    | error err => cases h
    | ok length =>
        dsimp only at h
        split at h
        · cases h
        · split at h
          · cases h
          · cases h
          · next p hloop =>
              refine ⟨length, p, rfl, hloop, ?_⟩
              unfold finish at h
              split at h
              · cases h
              · split at h
                · cases h
                · split at h
                  · cases h
                  · cases h
                    exact ⟨rfl, rfl⟩

/-- A resumed request that is answered with the whole package delivers only bytes that the
package also has from the requested byte on. -/
def ResumesFit (content : List UInt8) (x : Option Nat × Answer) : Prop :=
  ∀ n items, x = (some n, .response 200 items) → delivered items <+: content.drop n

/-- An answer of a server that conforms fits, but for a resumed request that is answered with
the whole package; refused requests end the download. -/
theorem fits_iff {x : Option Nat × Answer} (hconf : Conforms content x.1 x.2)
    (hsuccess : ∀ status items, x.2 = .response status items → isSuccess status = true) :
    Fits content x ↔ ResumesFit content x := by
  obtain ⟨range, a⟩ := x
  constructor
  · rintro hfits n items heq
    cases heq
    exact hfits
  · intro hresumes
    cases a with
    | sendFailed err => exact List.nil_prefix
    | response status items =>
        rcases hconf (hsuccess status items rfl) with ⟨rfl, hwhole⟩ | ⟨rfl, n, -, rfl, hrest⟩
        · cases range with
          | none => exact hwhole
          | some n => exact hresumes n items rfl
        · exact hrest

theorem isSuccess_of_round {status : Nat} {items : List StreamItem}
    (h : ∀ p' err, round totalSize p (.response status items) ≠ .stopped p' err) :
    isSuccess status = true := by
  by_contra hrefused
  refine h p ("Download file failed: HTTP " ++ toString status) ?_
  have hother : status ≠ 206 := fun heq => hrefused (heq ▸ rfl)
  simp only [round]
  exact if_pos ⟨hrefused, hother⟩

theorem isSuccess_of_done (h : downloadLoop server totalSize fuel i p = some (p', .ok ()))
    {x : Option Nat × Answer} (hx : x ∈ exchanges server totalSize fuel i p) {status : Nat}
    {items : List StreamItem} (hanswer : x.2 = .response status items) :
    isSuccess status = true := by
  induction fuel generalizing i p with
  | zero => cases hx
  | succ fuel ih =>
      unfold downloadLoop at h
      unfold exchanges at hx
      have hfirst : ∀ a, a = .response status items →
          (∀ p' err, round totalSize p a ≠ .stopped p' err) → isSuccess status = true := by
        rintro a rfl hgo
        exact isSuccess_of_round hgo
      cases hround : round totalSize p (server i (rangeOf p)) with
      | again p₁ =>
          rw [hround] at h hx
          rcases List.mem_cons.mp hx with rfl | hx
          · exact hfirst _ hanswer (by rw [hround]; nofun)
          · exact ih h hx
      | done p₁ =>
          rw [hround] at hx
          obtain rfl := List.mem_singleton.mp hx
          exact hfirst _ hanswer (by rw [hround]; nofun)
      | stopped p₁ err =>
          rw [hround] at h
          cases h

theorem mem_exchanges {x : Option Nat × Answer} (hx : x ∈ exchanges server totalSize fuel i p) :
    ∃ j, x.2 = server j x.1 := by
  induction fuel generalizing i p with
  | zero => cases hx
  | succ fuel ih =>
      unfold exchanges at hx
      rcases List.mem_cons.mp hx with rfl | hx
      · exact ⟨i, rfl⟩
      · split at hx
        · exact ih hx
        · cases hx

section Faithful

variable {hash : List UInt8 → String} {io : LocalIo} {before file : Option (List UInt8)}
  {hex : String}

/-- A download of a package of the announced length is faithful if and only if every answer
fits. -/
theorem eq_content_iff (h : downloadFile hash io (.ok (some content.length)) server fuel before =
      some (file, .ok hex)) :
    (file = some content ↔ ∀ x ∈ exchanges server content.length fuel 0 {}, Fits content x) ∧
      ∀ x ∈ exchanges server content.length fuel 0 {}, ∀ status items,
        x.2 = .response status items → isSuccess status = true := by
  obtain ⟨length, p, hhead, hloop, rfl, -⟩ := downloadFile_ok h
  cases hhead
  refine ⟨?_, fun x hx status items => isSuccess_of_done hloop hx⟩
  obtain ⟨hlong, hbegins⟩ := downloadLoop_ok content rfl hloop
  have hwhole : some p.file = some content ↔ p.file <+: content := by
    rw [Option.some.injEq]
    exact ⟨fun heq => heq ▸ List.prefix_rfl, fun hpre => hpre.eq_of_length_le hlong⟩
  rw [hwhole, hbegins, and_iff_right List.nil_prefix]
  exact Iff.rfl

/-- A download from a server that conforms and reports the true length: when it succeeds, the
file is the content if and only if every resumed request that was answered with the whole
package delivered nothing but what belonged there. -/
theorem download_faithful_iff (hconf : ∀ j range, Conforms content range (server j range))
    (h : downloadFile hash io (.ok (some content.length)) server fuel before =
      some (file, .ok hex)) :
    file = some content ↔
      ∀ x ∈ exchanges server content.length fuel 0 {}, ResumesFit content x := by
  obtain ⟨hfits, hsuccess⟩ := eq_content_iff h
  rw [hfits]
  apply forall₂_congr
  intro x hx
  obtain ⟨j, hj⟩ := mem_exchanges hx
  exact fits_iff (hj ▸ hconf j x.1) (hsuccess x hx)

theorem eq_content_of_partial (hconf : ∀ j range, Conforms content range (server j range))
    (hhonours : ∀ j n items, server j (some n) ≠ .response 200 items)
    (h : downloadFile hash io (.ok (some content.length)) server fuel before =
      some (file, .ok hex)) : file = some content := by
  obtain ⟨hfits, hsuccess⟩ := eq_content_iff h
  apply hfits.mpr
  intro x hx
  obtain ⟨j, hj⟩ := mem_exchanges hx
  apply (fits_iff (hj ▸ hconf j x.1) (hsuccess x hx)).mpr
  rintro n items rfl
  exact absurd hj.symm (hhonours j n items)

end Faithful

section Witness

private def package : List UInt8 := [1, 2, 3, 4]

/-- The first connection breaks after two bytes; the server ignores the `Range` of the second
request. -/
private def ignoresRange : Server := fun _ range =>
  match range with
  | none => .response 200 [.chunk [1, 2] none, .failed "connection reset"]
  | some _ => .response 200 [.chunk package none]

private theorem ignoresRange_conforms (j : Nat) (range : Option Nat) :
    Conforms package range (ignoresRange j range) := by
  cases range with
  | none => exact fun _ => .inl ⟨rfl, by decide⟩
  | some n => exact fun _ => .inl ⟨rfl, by decide⟩

private def workingIo : LocalIo := ⟨true, true, true, true, true⟩

/-- The package stands behind its own first half. -/
theorem resumed_download_doubles :
    (∀ j range, Conforms package range (ignoresRange j range)) ∧
    downloadFile (fun _ => "") workingIo (.ok (some package.length)) ignoresRange 2 none =
      some (some [1, 2, 1, 2, 3, 4], .ok "") ∧
    some [1, 2, 1, 2, 3, 4] ≠ some package :=
  ⟨ignoresRange_conforms, rfl, by decide⟩

theorem download_faithful_iff_ignoresRange :
    some [1, 2, 1, 2, 3, 4] = some package ↔
      ∀ x ∈ exchanges ignoresRange package.length 2 0 {}, ResumesFit package x := by
  have hrun : downloadFile (fun _ => "") workingIo (.ok (some package.length)) ignoresRange 2 none =
      some (some [1, 2, 1, 2, 3, 4], .ok "") := rfl
  exact download_faithful_iff ignoresRange_conforms hrun

end Witness

end Download

end ArkKvm.Ota
