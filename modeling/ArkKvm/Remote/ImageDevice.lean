import ArkKvm.Lib.Bytes
import ArkKvm.Lib.Run

/-!
# The block device of a remote image

`RemoteImageDevice` of `hardware/block_device.rs`: an image behind `read_at`, exported with its
size rounded up to blocks of 4096 bytes, the tail filled with zeros.  The lengths to the end of
the image and of the export are `u64` values that are cast to a 32-bit `usize` before the
minimum with the buffer length is taken.
-/

namespace ArkKvm.RemoteImage

open Lib Lib.Bytes

/-- The answers of `read_at`: the number of the call, its offset and the length of its buffer. -/
abbrev ReadAt := Nat → Int → Nat → Except String (List UInt8)

/-- `as i64` on a `u64`. -/
def asI64 (n : Nat) : Int := if n < 2 ^ 63 then n else (n : Int) - 2 ^ 64

def alignExportSize (dataSize : Nat) : Nat := (dataSize + 4096 - 1) / 4096 * 4096

structure RemoteImageDevice where
  dataSize : Nat
  exportSize : Nat
  pos : Nat
deriving DecidableEq

namespace RemoteImageDevice

def new (dataSize : Nat) : RemoteImageDevice where
  dataSize := dataSize
  exportSize := alignExportSize dataSize
  pos := 0

def fillImage (readAt : ReadAt) (pos want k : Nat) (filled : List UInt8) :
    Except String (List UInt8) :=
  if want ≤ filled.length then .ok filled
  else
    match readAt k (asI64 (pos + filled.length)) (want - filled.length) with
    | .error e => .error e
    | .ok bytes =>
        if want - filled.length < bytes.length then .error "read_at wrote past buffer"
        else if _hread : bytes = [] then
          .error ("remote image short read at off=" ++ toString pos ++ " want=" ++ toString want ++
            " got=" ++ toString filled.length)
        else fillImage readAt pos want (k + 1) (filled ++ bytes)
termination_by want - filled.length
decreasing_by
  have hpos : 0 < bytes.length := List.length_pos_iff.mpr _hread
  rw [List.length_append]
  omega

/-- `Read::read` for a buffer of `len` bytes: the device afterwards and the bytes read. -/
def read (readAt : ReadAt) (len : Nat) (d : RemoteImageDevice) :
    RemoteImageDevice × Except String (List UInt8) :=
  if d.exportSize ≤ d.pos then (d, .ok [])
  else
    let toRead := min len ((d.exportSize - d.pos) % 2 ^ 32)
    if toRead = 0 then (d, .ok [])
    else if d.dataSize ≤ d.pos then
      ({ d with pos := d.pos + toRead }, .ok (List.replicate toRead 0))
    else
      let fromImage := min toRead ((d.dataSize - d.pos) % 2 ^ 32)
      match fillImage readAt d.pos fromImage 0 [] with
      | .error e => (d, .error e)
      | .ok bytes =>
          ({ d with pos := d.pos + toRead },
            .ok (bytes ++ List.replicate (toRead - fromImage) 0))

inductive SeekFrom
  | start (x : Nat)
  | current (x : Int)
  | end_ (x : Int)

def SeekFrom.newPos (d : RemoteImageDevice) : SeekFrom → Int
  | .start x => x
  | .current x => d.pos + x
  | .end_ x => d.exportSize + x

def seek (p : SeekFrom) (d : RemoteImageDevice) : RemoteImageDevice × Except String Nat :=
  if p.newPos d < 0 then (d, .error "seek before start")
  else if d.exportSize < (p.newPos d).toNat % 2 ^ 64 then (d, .error "seek past end of export")
  else
    ({ d with pos := (p.newPos d).toNat % 2 ^ 64 }, .ok ((p.newPos d).toNat % 2 ^ 64))

/-! ## Calls -/

inductive Call
  | seek (p : SeekFrom)
  | read (readAt : ReadAt) (len : Nat)

def step (d : RemoteImageDevice) : Call → Option RemoteImageDevice
  | .seek p => some (seek p d).1
  | .read readAt len => some (read readAt len d).1

/-- The reader answers with bytes of the image, at least one before its end, or fails. -/
def Serves (image : List UInt8) (readAt : ReadAt) : Prop :=
  ∀ k len bytes, ∀ off : Nat, readAt k off len = .ok bytes →
    bytes.length ≤ len ∧ bytes = slice image off bytes.length ∧
      (off < image.length → 0 < len → bytes ≠ [])

def exported (image : List UInt8) (i : Nat) : UInt8 := image.getD i 0

/-- What a read with a non-empty buffer should do: fail and stay, or move on by at least one
byte of the export; it reads nothing only at the end. -/
def ReadsExport (image : List UInt8) (d : RemoteImageDevice) (len : Nat) :
    RemoteImageDevice × Except String (List UInt8) → Prop
  | (d', .error _) => d' = d
  | (d', .ok bytes) =>
      if d.pos < d.exportSize then
        1 ≤ bytes.length ∧ bytes.length ≤ min len (d.exportSize - d.pos) ∧
          (∀ i < bytes.length, bytes[i]? = some (exported image (d.pos + i))) ∧
          d' = { d with pos := d.pos + bytes.length }
      else bytes = [] ∧ d' = d

/-- Where the casts do no harm: the distance to the end of the export is no multiple of
`2 ^ 32`, and a read that starts `2 ^ 32` bytes or more before the end of the image asks for no
more than the truncated distance to that end. -/
def CastsFit (d : RemoteImageDevice) (len : Nat) : Prop :=
  d.pos < d.exportSize →
    (d.exportSize - d.pos) % 2 ^ 32 ≠ 0 ∧
      (d.pos + 2 ^ 32 ≤ d.dataSize →
        min len ((d.exportSize - d.pos) % 2 ^ 32) ≤ (d.dataSize - d.pos) % 2 ^ 32)

/-! ## The sizes -/

def Of (dataSize : Nat) (d : RemoteImageDevice) : Prop :=
  d.dataSize = dataSize ∧ d.exportSize = alignExportSize dataSize

theorem read_sizes (readAt : ReadAt) (len : Nat) (d : RemoteImageDevice) :
    (read readAt len d).1.dataSize = d.dataSize ∧
      (read readAt len d).1.exportSize = d.exportSize := by
  unfold read
  dsimp only
  split
  · exact ⟨rfl, rfl⟩
  · split
    · exact ⟨rfl, rfl⟩
    · split
      · exact ⟨rfl, rfl⟩
      · split
        · exact ⟨rfl, rfl⟩
        · exact ⟨rfl, rfl⟩

theorem seek_sizes (p : SeekFrom) (d : RemoteImageDevice) :
    (seek p d).1.dataSize = d.dataSize ∧ (seek p d).1.exportSize = d.exportSize := by
  unfold seek
  split
  · exact ⟨rfl, rfl⟩
  · split
    · exact ⟨rfl, rfl⟩
    · exact ⟨rfl, rfl⟩

theorem Of.step {dataSize : Nat} {d d' : RemoteImageDevice} {call : Call} (h : Of dataSize d)
    (hstep : step d call = some d') : Of dataSize d' := by
  cases call with
  | seek p =>
      cases hstep
      exact ⟨(seek_sizes p d).1.trans h.1, (seek_sizes p d).2.trans h.2⟩
  | read readAt len =>
      cases hstep
      exact ⟨(read_sizes readAt len d).1.trans h.1, (read_sizes readAt len d).2.trans h.2⟩

theorem of_reach {dataSize : Nat} {d : RemoteImageDevice}
    (h : Run.Reach step Run.anyStep (new dataSize) d) : Of dataSize d :=
  Run.Reach.invariant ⟨rfl, rfl⟩ (fun _ _ _ hd _ hstep => hd.step hstep) h

theorem le_alignExportSize (n : Nat) : n ≤ alignExportSize n ∧ alignExportSize n < n + 4096 := by
  unfold alignExportSize
  omega

/-! ## The loop over `read_at` -/

theorem asI64_of_lt {n : Nat} (h : n < 2 ^ 63) : asI64 n = n := by
  unfold asI64
  rw [if_pos h]

/-- What the loop has filled stays the next bytes of the image; it ends with all of them or
with an error. -/
theorem fillImage_ok {image : List UInt8} {readAt : ReadAt} (hserves : Serves image readAt)
    {pos want : Nat} (hend : pos + want ≤ image.length) (hsize : image.length < 2 ^ 63)
    {k : Nat} {filled bytes : List UInt8} (hfilled : filled = slice image pos filled.length)
    (hlen : filled.length ≤ want) (h : fillImage readAt pos want k filled = .ok bytes) :
    bytes = slice image pos want := by
  induction k, filled using fillImage.induct readAt pos want with
  | case1 k filled hdone =>
      rw [fillImage, if_pos hdone] at h
      have heq : filled.length = want := le_antisymm hlen hdone
      rw [← Except.ok.inj h, hfilled, heq]
  | case2 k filled hmore e hread =>
      rw [fillImage, if_neg hmore, hread] at h
      cases h
  | case3 k filled hmore bytes' hread hlong =>
      rw [fillImage, if_neg hmore, hread] at h
      dsimp only at h
      rw [if_pos hlong] at h
      cases h
  | case4 k filled hmore hread hlong =>
      rw [fillImage, if_neg hmore, hread] at h
      dsimp only at h
      rw [if_neg hlong, dif_pos rfl] at h
      cases h
  | case5 k filled hmore bytes' hread hlong hne ih =>
      rw [fillImage, if_neg hmore, hread] at h
      dsimp only at h
      rw [if_neg hlong, dif_neg hne] at h
      rw [asI64_of_lt (by omega)] at hread
      have hserved := (hserves k _ _ _ hread).2.1
      apply ih ?_ ?_ h
      · rw [List.length_append, ← slice_append_slice, ← hfilled, ← hserved]
      · rw [List.length_append]
        omega

/-- A reader that always answers in full. -/
def fullReader (image : List UInt8) : ReadAt := fun _ off len => .ok (slice image off.toNat len)

theorem fullReader_serves (image : List UInt8) : Serves image (fullReader image) := by
  intro k len bytes off h
  cases h
  have hlen := length_slice image off len
  rw [Int.toNat_natCast]
  refine ⟨by omega, ?_, fun hoff hpos hnil => ?_⟩
  · apply List.ext_getElem?
    intro i
    rw [getElem?_slice, getElem?_slice, hlen]
    by_cases hi : i < min len (image.length - off)
    · rw [if_pos hi, if_pos (by omega)]
    · rw [if_neg hi]
      by_cases hlen' : i < len
      · rw [if_pos hlen', List.getElem?_eq_none (by omega)]
      · rw [if_neg hlen']
  · rw [hnil, List.length_nil] at hlen
    omega

theorem fillImage_fullReader {image : List UInt8} {pos want : Nat}
    (hend : pos + want ≤ image.length) (hsize : image.length < 2 ^ 63) :
    fillImage (fullReader image) pos want 0 [] = .ok (slice image pos want) := by
  rw [fillImage]
  by_cases hzero : want ≤ ([] : List UInt8).length
  · rw [if_pos hzero]
    have : want = 0 := Nat.le_zero.mp hzero
    rw [this, slice_zero]
  · have hlen : (slice image pos want).length = want := length_slice_of_le hend
    have hne : slice image pos want ≠ [] := by
      intro hnil
      rw [hnil] at hlen
      exact hzero (le_of_eq hlen.symm)
    rw [if_neg hzero]
    have hread : fullReader image 0 (asI64 (pos + ([] : List UInt8).length))
        (want - ([] : List UInt8).length) = .ok (slice image pos want) := by
      rw [asI64_of_lt (by rw [List.length_nil]; omega)]
      rfl
    rw [hread]
    dsimp only
    rw [if_neg (by rw [hlen, List.length_nil]; omega), dif_neg hne, fillImage,
      if_pos (by rw [List.nil_append, hlen]), List.nil_append]

/-! ## Reads -/

theorem getElem?_image_then_zeros {image : List UInt8} {pos n m i : Nat}
    (hend : pos + n ≤ image.length) (htail : 0 < m → image.length ≤ pos + n)
    (hi : i < n + m) :
    (slice image pos n ++ List.replicate m 0)[i]? = some (exported image (pos + i)) := by
  have hlen : (slice image pos n).length = n := length_slice_of_le hend
  unfold exported
  by_cases hin : i < n
  · rw [List.getElem?_append_left (by omega), getElem?_slice, if_pos hin,
      List.getElem?_eq_getElem (by omega), List.getD_eq_getElem _ _ (by omega)]
  · have hpad := htail (by omega)
    rw [List.getElem?_append_right (by omega), hlen, List.getElem?_replicate_of_lt (by omega),
      List.getD_eq_default _ _ (by omega)]

variable {image : List UInt8} {readAt : ReadAt} {d : RemoteImageDevice} {len : Nat}

theorem readsExport_ok_iff {d' : RemoteImageDevice} {bytes : List UInt8}
    (h : d.pos < d.exportSize) :
    ReadsExport image d len (d', .ok bytes) ↔
      1 ≤ bytes.length ∧ bytes.length ≤ min len (d.exportSize - d.pos) ∧
        (∀ i < bytes.length, bytes[i]? = some (exported image (d.pos + i))) ∧
        d' = { d with pos := d.pos + bytes.length } := by
  unfold ReadsExport
  dsimp only
  rw [if_pos h]

theorem readsExport_end (h : d.exportSize ≤ d.pos) : ReadsExport image d len (d, .ok []) := by
  unfold ReadsExport
  dsimp only
  rw [if_neg (not_lt.mpr h)]
  exact ⟨rfl, rfl⟩

theorem reads_of_castsFit (hof : Of image.length d) (hsize : image.length < 2 ^ 63 - 4096)
    (hserves : Serves image readAt) (hlen : 0 < len) (hfit : CastsFit d len) :
    ReadsExport image d len (read readAt len d) := by
  have halign := le_alignExportSize image.length
  obtain ⟨hdata, hexport⟩ := hof
  unfold read
  by_cases hpast : d.exportSize ≤ d.pos
  · rw [if_pos hpast]
    exact readsExport_end hpast
  · obtain ⟨hdistance, hlong⟩ := hfit (not_le.mp hpast)
    have hmod := Nat.mod_le (d.exportSize - d.pos) (2 ^ 32)
    rw [if_neg hpast]
    dsimp only
    rw [if_neg (by omega)]
    generalize htoRead : min len ((d.exportSize - d.pos) % 2 ^ 32) = toRead at hlong
    have hbounds : 1 ≤ toRead ∧ toRead ≤ min len (d.exportSize - d.pos) := by omega
    by_cases htail : d.dataSize ≤ d.pos
    · rw [if_pos htail]
      rw [readsExport_ok_iff (not_le.mp hpast), List.length_replicate]
      refine ⟨hbounds.1, hbounds.2, fun i hi => ?_, rfl⟩
      unfold exported
      rw [List.getElem?_replicate_of_lt hi, List.getD_eq_default _ _ (by omega)]
    · rw [if_neg htail]
      have hmod' := Nat.mod_le (d.dataSize - d.pos) (2 ^ 32)
      generalize hfrom : min toRead ((d.dataSize - d.pos) % 2 ^ 32) = fromImage
      have hend : d.pos + fromImage ≤ image.length := by omega
      -- zeros are added only where the image has ended
      have hzeros : 0 < toRead - fromImage → image.length ≤ d.pos + fromImage := by
        intro hpos
        by_cases hfar : d.pos + 2 ^ 32 ≤ d.dataSize
        · have := hlong hfar
          omega
        · have hsmall := Nat.mod_eq_of_lt (show d.dataSize - d.pos < 2 ^ 32 by omega)
          omega
      split
      · rfl
      · next bytes hfill =>
          have hbytes := fillImage_ok hserves hend (by omega) (by rw [List.length_nil, slice_zero])
            (Nat.zero_le _) hfill
          have htotal : (bytes ++ List.replicate (toRead - fromImage) (0 : UInt8)).length =
              toRead := by
            rw [List.length_append, List.length_replicate, hbytes, length_slice_of_le hend]
            omega
          rw [readsExport_ok_iff (not_le.mp hpast), htotal]
          refine ⟨hbounds.1, hbounds.2, fun i hi => ?_, rfl⟩
          rw [hbytes]
          exact getElem?_image_then_zeros hend hzeros (by omega)

/-- Where a cast harms, a reader that answers in full and an image without zeros show it. -/
theorem castsFit_of_reads {dataSize : Nat} (hof : Of dataSize d) (hsize : dataSize < 2 ^ 63 - 4096)
    (h : ∀ image, image.length = dataSize → ∀ readAt, Serves image readAt →
      ReadsExport image d len (read readAt len d)) : CastsFit d len := by
  obtain ⟨image, himage, hones⟩ : ∃ image : List UInt8, image.length = dataSize ∧
      ∀ i < dataSize, image.getD i 0 = 1 := by
    refine ⟨List.replicate dataSize 1, List.length_replicate, fun i hi => ?_⟩
    rw [List.getD_eq_getElem _ _ (by rwa [List.length_replicate]), List.getElem_replicate]
  have hread := h image himage (fullReader image) (fullReader_serves image)
  have halign := le_alignExportSize dataSize
  obtain ⟨hdata, hexport⟩ := hof
  intro hpast
  unfold read at hread
  rw [if_neg (not_le.mpr hpast)] at hread
  dsimp only at hread
  have hdistance : (d.exportSize - d.pos) % 2 ^ 32 ≠ 0 := by
    intro hzero
    rw [hzero, Nat.min_zero, if_pos rfl] at hread
    rw [readsExport_ok_iff hpast] at hread
    exact absurd hread.1 (by simp)
  refine ⟨hdistance, fun hfar => ?_⟩
  by_contra hover
  rw [if_neg (by omega)] at hread
  generalize htoRead : min len ((d.exportSize - d.pos) % 2 ^ 32) = toRead at hread hover
  have hmod := Nat.mod_lt (d.dataSize - d.pos) (show 0 < 2 ^ 32 by norm_num)
  rw [if_neg (by omega)] at hread
  have hfrom : min toRead ((d.dataSize - d.pos) % 2 ^ 32) = (d.dataSize - d.pos) % 2 ^ 32 := by
    omega
  rw [hfrom] at hread
  generalize (d.dataSize - d.pos) % 2 ^ 32 = fromImage at hread hover hmod
  have hend : d.pos + fromImage ≤ image.length := by omega
  rw [fillImage_fullReader hend (by omega)] at hread
  dsimp only at hread
  rw [readsExport_ok_iff hpast] at hread
  -- the first zero of the tail stands where the image still has bytes
  have hlenBytes : (slice image d.pos fromImage).length = fromImage := length_slice_of_le hend
  have hbyte := hread.2.2.1 fromImage (by
    rw [List.length_append, List.length_replicate, hlenBytes]
    omega)
  rw [List.getElem?_append_right (by omega), hlenBytes, Nat.sub_self,
    List.getElem?_replicate_of_lt (by omega)] at hbyte
  unfold exported at hbyte
  rw [hones (d.pos + fromImage) (by omega)] at hbyte
  exact absurd (Option.some.inj hbyte) (by decide)

/-- In every state that seeks and reads lead to, a read behaves as the zero-padded image for
every image of this size and every reader exactly when the casts fit. -/
theorem device_reads_export_iff {dataSize : Nat} (hsize : dataSize < 2 ^ 63 - 4096)
    {d : RemoteImageDevice} (hreach : Run.Reach step Run.anyStep (new dataSize) d) {len : Nat}
    (hlen : 0 < len) :
    (∀ image, image.length = dataSize → ∀ readAt, Serves image readAt →
        ReadsExport image d len (read readAt len d)) ↔
      CastsFit d len := by
  have hof := of_reach hreach
  constructor
  · exact castsFit_of_reads hof hsize
  · intro hfit image himage readAt hserves
    subst himage
    exact reads_of_castsFit hof hsize hserves hlen hfit

theorem device_reads_export_small :
    CastsFit (new 3) 512 ∧
      ReadsExport [7, 8, 9] (new 3) 512 (read (fullReader [7, 8, 9]) 512 (new 3)) := by
  have hfit : CastsFit (new 3) 512 := fun _ => ⟨by decide, fun hfar => absurd hfar (by decide)⟩
  have hreads := (device_reads_export_iff (by norm_num) .refl (by norm_num)).mpr hfit
  exact ⟨hfit, hreads [7, 8, 9] rfl (fullReader [7, 8, 9]) (fullReader_serves [7, 8, 9])⟩

/-- An image of `2 ^ 32` bytes and a reader that serves it: the first read answers `Ok(0)`. -/
theorem four_gib_image_reads_nothing :
    ∃ image readAt, image.length = 2 ^ 32 ∧ Serves image readAt ∧
      read readAt 512 (new (2 ^ 32)) = (new (2 ^ 32), .ok []) ∧
      ¬ ReadsExport image (new (2 ^ 32)) 512 (read readAt 512 (new (2 ^ 32))) := by
  obtain ⟨image, hlen⟩ : ∃ image : List UInt8, image.length = 2 ^ 32 :=
    ⟨List.replicate (2 ^ 32) 1, List.length_replicate⟩
  have hread : read (fullReader image) 512 (new (2 ^ 32)) = (new (2 ^ 32), .ok []) := by
    unfold read
    rw [if_neg (by decide)]
    dsimp only
    rw [if_pos (by decide)]
  refine ⟨image, fullReader image, hlen, fullReader_serves image, hread, ?_⟩
  rw [hread, readsExport_ok_iff (by decide)]
  intro h
  exact absurd h.1 (by simp)

end RemoteImageDevice

end ArkKvm.RemoteImage
