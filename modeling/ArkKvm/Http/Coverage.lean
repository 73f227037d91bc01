import ArkKvm.Http.RangeReader

/-!
# What the block cache holds

A cached block is a mixture of fetched bytes and of the zeros it started with.
`stored` is the history variable that tells them apart: the image offsets that
were copied into a block since the block was last inserted.  No function of
the reader reads it.
-/

namespace ArkKvm.Http

open ArkKvm.Lib.Bytes

abbrev Stored := Int → Bool

/-- One pass of the store loop marks the bytes it copies and forgets the rest
of the block when the block was not cached. -/
def markBlock (cache : BlockCache) (off : Int) (data : List UInt8) (cursor : Nat)
    (stored : Stored) : Stored := fun g =>
  let blockId := (off + cursor) / httpBlockSize
  if g / httpBlockSize = blockId then
    (decide (off + cursor ≤ g) && decide (g < off + cursor + writable off data cursor)) ||
      ((cache.map.lookup blockId).isSome && stored g)
  else stored g

def markBlocks (off : Int) (data : List UInt8) : Nat → Nat → BlockCache → Stored → Stored
  | 0, _, _, stored => stored
  | fuel + 1, cursor, cache, stored =>
      if cursor < data.length then
        markBlocks off data fuel (cursor + writable off data cursor)
          (storeBlock cache off data cursor) (markBlock cache off data cursor stored)
      else stored

def markStored (cache : BlockCache) (off : Int) (data : List UInt8) (stored : Stored) : Stored :=
  if data.isEmpty then stored else markBlocks off data data.length 0 cache stored

def CacheOk (image : List UInt8) (cache : BlockCache) (stored : Stored) : Prop :=
  ∀ k data, cache.map.lookup k = some data →
    data.length = httpBlockSize ∧
      ∀ i < httpBlockSize, stored (k * httpBlockSize + i) = true →
        data[i]? = image[(k * httpBlockSize + i).toNat]?

theorem cacheOk_new (image : List UInt8) (cap : Nat) (stored : Stored) :
    CacheOk image (BlockCache.new cap) stored := by
  intro k data h
  simp [BlockCache.new] at h

theorem CacheOk.touch {image : List UInt8} {cache : BlockCache} {stored : Stored}
    (h : CacheOk image cache stored) (key : Int) : CacheOk image (cache.touch key) stored := h

/-! ## Storing -/

theorem offsetInBlock_eq (g : Int) :
    (asUsize (g - g / httpBlockSize * httpBlockSize) : Int) =
      g - g / httpBlockSize * httpBlockSize := by
  apply asUsize_of_nonneg <;> simp only [httpBlockSize] <;> omega

/-- One pass of the store loop keeps the cache correct when the bytes that it
copies are bytes of the image. -/
theorem CacheOk.storeBlock {image : List UInt8} {cache : BlockCache} {stored : Stored}
    {off : Int} {data : List UInt8} {cursor : Nat} (h : CacheOk image cache stored)
    (hoff : 0 ≤ off) (hcursor : cursor < data.length)
    (hdata : ∀ i < data.length, data[i]? = image[off.toNat + i]?) :
    CacheOk image (storeBlock cache off data cursor)
      (markBlock cache off data cursor stored) := by
  have hin := offsetInBlock_eq (off + cursor)
  set blockId := (off + cursor) / (httpBlockSize : Int) with hblock
  set inBlock := asUsize (off + cursor - blockId * httpBlockSize) with hinBlock
  have hw : writable off data cursor = min (httpBlockSize - inBlock) (data.length - cursor) := rfl
  have hold : ((cache.map.lookup blockId).getD (List.replicate httpBlockSize 0)).length =
      httpBlockSize := by
    cases hl : cache.map.lookup blockId with
    | none => simp
    | some old => exact (h blockId old hl).1
  set old := (cache.map.lookup blockId).getD (List.replicate httpBlockSize 0) with hold'
  have hfit : inBlock + (slice data cursor (writable off data cursor)).length ≤ old.length := by
    rw [length_slice, hold, hw]
    simp only [httpBlockSize] at *
    omega
  intro k block hlookup
  have hput : (k = blockId ∧
      block = splice old inBlock (slice data cursor (writable off data cursor))) ∨
      (k ≠ blockId ∧ (cache.remove blockId).map.lookup k = some block) :=
    BlockCache.lookup_put hlookup
  rcases hput with ⟨hk, hvalue⟩ | ⟨hne, hother⟩
  · subst hk hvalue
    refine ⟨by rw [length_splice hfit, hold], ?_⟩
    intro i hi hmark
    have hg : (blockId * httpBlockSize + i) / (httpBlockSize : Int) = blockId := by
      simp only [httpBlockSize] at *
      omega
    simp only [markBlock, ← hblock, if_pos hg, Bool.or_eq_true, Bool.and_eq_true,
      decide_eq_true_eq] at hmark
    rw [getElem?_splice hfit, length_slice]
    by_cases hnew : off + cursor ≤ blockId * httpBlockSize + i ∧
        blockId * httpBlockSize + i < off + cursor + writable off data cursor
    · -- a byte of this pass
      rw [if_pos (by omega), getElem?_slice, if_pos (by omega), hdata _ (by omega)]
      congr 1
      omega
    · obtain ⟨hcached, hstored⟩ := hmark.resolve_left hnew
      rw [if_neg (by omega)]
      obtain ⟨prev, hprev⟩ := Option.isSome_iff_exists.mp hcached
      rw [hold', hprev, Option.getD_some]
      exact (h blockId prev hprev).2 i hi hstored
  · have hkeep : cache.map.lookup k = some block := by
      simpa only [BlockCache.remove, AList.lookup_erase_ne hne] using hother
    obtain ⟨hlen, hbytes⟩ := h k block hkeep
    refine ⟨hlen, fun i hi hmark => hbytes i hi ?_⟩
    have hg : (k * httpBlockSize + i) / (httpBlockSize : Int) = k := by
      simp only [httpBlockSize] at *
      omega
    simpa only [markBlock, ← hblock, hg, if_neg hne] using hmark

theorem CacheOk.storeBlocks {image : List UInt8} {off : Int} {data : List UInt8} (hoff : 0 ≤ off)
    (hdata : ∀ i < data.length, data[i]? = image[off.toNat + i]?) (fuel : Nat) :
    ∀ {cursor : Nat} {cache : BlockCache} {stored : Stored}, CacheOk image cache stored →
      CacheOk image (storeBlocks off data fuel cursor cache)
        (markBlocks off data fuel cursor cache stored) := by
  induction fuel with
  | zero => exact fun h => h
  | succ fuel ih =>
      intro cursor cache stored h
      simp only [Http.storeBlocks, markBlocks]
      split
      · next hcursor => exact ih (h.storeBlock hoff hcursor hdata)
      · exact h

theorem CacheOk.store {image : List UInt8} {cache : BlockCache} {stored : Stored} {off : Int}
    {data : List UInt8} (h : CacheOk image cache stored) (hoff : 0 ≤ off)
    (hdata : ∀ i < data.length, data[i]? = image[off.toNat + i]?) :
    CacheOk image (storeIntoBlockCache cache off data) (markStored cache off data stored) := by
  unfold storeIntoBlockCache markStored
  split
  · exact h
  · exact h.storeBlocks hoff hdata data.length

/-! ## Serving from the cache -/

theorem blockOffset_eq {off blockId : Int} {copied : Nat}
    (hstart : blockId * httpBlockSize ≤ off + copied)
    (hlt : off + copied < (blockId + 1) * httpBlockSize) :
    (asUsize (max (off + copied - blockId * httpBlockSize) 0) : Int) =
      off + copied - blockId * httpBlockSize := by
  have hmax : max (off + copied - blockId * httpBlockSize) 0 =
      off + copied - blockId * httpBlockSize := by omega
  rw [hmax]
  apply asUsize_of_nonneg <;> simp only [httpBlockSize] at * <;> omega

/-- The block loop succeeds only when every block up to the last one of the
range is cached. -/
theorem mem_of_tryReadBlocks {image : List UInt8} {stored : Stored} {off : Int} {want : Nat}
    (blocks : Nat) :
    ∀ {blockId : Int} {copied : Nat} {cache : BlockCache} {buf : List UInt8} {n : Nat},
      CacheOk image cache stored → copied < want →
      blockId * httpBlockSize ≤ off + copied → off + copied < (blockId + 1) * httpBlockSize →
      (tryReadBlocks off want blocks blockId copied cache buf).2.1 = some n →
      ∀ k, blockId ≤ k → k ≤ endBlock off want → k ∈ cache.map := by
  induction blocks with
  | zero => intro blockId copied cache buf n _ _ _ _ h; simp [tryReadBlocks] at h
  | succ blocks ih =>
      intro blockId copied cache buf n hcache hcopied hstart hlt h k hk hend
      unfold tryReadBlocks at h
      cases hl : cache.map.lookup blockId with
      | none => simp [hl] at h
      | some blockData =>
          have hmem : blockId ∈ cache.map := AList.lookup_isSome.mp (by simp [hl])
          have hlen := (hcache blockId blockData hl).1
          have hin := blockOffset_eq hstart hlt
          simp only [hl, hlen] at h
          set inBlock := asUsize (max (off + copied - blockId * httpBlockSize) 0)
          by_cases hkb : k = blockId
          · exact hkb ▸ hmem
          split at h
          · simp at h
          · next hn =>
              split at h
              · -- the range ends inside this block, so there is no later one
                next hdone =>
                  exfalso
                  simp only [endBlock, httpBlockSize] at *
                  omega
              · next hmore =>
                  -- the block was read to its end
                  exact ih (hcache.touch blockId) (by omega)
                    (by simp only [httpBlockSize] at *; omega)
                    (by simp only [httpBlockSize] at *; omega) h k (by omega) hend

/-- What the block loop copies is the image when every byte of the range has
been stored. -/
theorem bytes_of_tryReadBlocks {image : List UInt8} {stored : Stored} {off : Int} {want : Nat}
    (hoff : 0 ≤ off) (hstored : ∀ g, off ≤ g → g < off + want → stored g = true)
    (blocks : Nat) :
    ∀ {blockId : Int} {copied : Nat} {cache : BlockCache} {buf : List UInt8} {n : Nat},
      CacheOk image cache stored → copied < want → buf.length = want →
      blockId * httpBlockSize ≤ off + copied → off + copied < (blockId + 1) * httpBlockSize →
      (∀ i < copied, buf[i]? = image[off.toNat + i]?) →
      (tryReadBlocks off want blocks blockId copied cache buf).2.1 = some n →
      n = want ∧ ∀ i < want,
        (tryReadBlocks off want blocks blockId copied cache buf).2.2[i]? =
          image[off.toNat + i]? := by
  induction blocks with
  | zero => intro blockId copied cache buf n _ _ _ _ _ _ h; simp [tryReadBlocks] at h
  | succ blocks ih =>
      intro blockId copied cache buf n hcache hcopied hbuf hstart hlt hbytes h
      unfold tryReadBlocks at h ⊢
      cases hl : cache.map.lookup blockId with
      | none => simp [hl] at h
      | some blockData =>
          obtain ⟨hlen, hblock⟩ := hcache blockId blockData hl
          have hin := blockOffset_eq hstart hlt
          simp only [hl, hlen] at h ⊢
          set inBlock := asUsize (max (off + copied - blockId * httpBlockSize) 0)
          set n' := min (want - copied) (httpBlockSize - inBlock) with hn'
          have hfit : copied + (slice blockData inBlock n').length ≤ buf.length := by
            rw [length_slice, hlen]
            omega
          have hcopy : ∀ i < copied + n',
              (splice buf copied (slice blockData inBlock n'))[i]? = image[off.toNat + i]? := by
            intro i hi
            rw [getElem?_splice hfit, length_slice, hlen]
            by_cases hold : i < copied
            · rw [if_neg (by omega), hbytes i hold]
            · rw [if_pos (by omega), getElem?_slice, if_pos (by omega),
                hblock _ (by omega) (hstored _ (by omega) (by omega))]
              congr 1
              omega
          by_cases hzero : n' = 0
          · simp [hzero] at h
          · rw [if_neg hzero] at h ⊢
            by_cases hdone : copied + n' = want
            · rw [if_pos hdone] at h ⊢
              simp only [Option.some.injEq] at h
              exact ⟨by omega, fun i hi => hcopy i (by omega)⟩
            · rw [if_neg hdone] at h ⊢
              exact ih (hcache.touch blockId) (by omega) (by rw [length_splice hfit, hbuf])
                (by simp only [httpBlockSize] at *; omega)
                (by simp only [httpBlockSize] at *; omega) hcopy h

theorem tryReadBlocks_isSome {image : List UInt8} {stored : Stored} {off : Int} {want : Nat}
    (blocks : Nat) :
    ∀ {blockId : Int} {copied : Nat} {cache : BlockCache} {buf : List UInt8},
      CacheOk image cache stored → copied < want →
      blockId * httpBlockSize ≤ off + copied → off + copied < (blockId + 1) * httpBlockSize →
      endBlock off want < blockId + blocks →
      (∀ k, blockId ≤ k → k ≤ endBlock off want → k ∈ cache.map) →
      (tryReadBlocks off want blocks blockId copied cache buf).2.1 ≠ none := by
  induction blocks with
  | zero =>
      intro blockId copied cache buf _ hcopied hstart hlt hend _
      simp only [endBlock, httpBlockSize] at *
      omega
  | succ blocks ih =>
      intro blockId copied cache buf hcache hcopied hstart hlt hend hmem
      have hblock : blockId ∈ cache.map := by
        apply hmem blockId (Int.le_refl blockId)
        simp only [endBlock, httpBlockSize] at *
        omega
      obtain ⟨blockData, hl⟩ := Option.isSome_iff_exists.mp (AList.lookup_isSome.mpr hblock)
      have hlen := (hcache blockId blockData hl).1
      have hin := blockOffset_eq hstart hlt
      unfold tryReadBlocks
      simp only [hl, hlen]
      set inBlock := asUsize (max (off + copied - blockId * httpBlockSize) 0)
      rw [if_neg (by simp only [httpBlockSize] at *; omega)]
      split
      · simp
      · next hmore =>
          exact ih (hcache.touch blockId) (by omega)
            (by simp only [httpBlockSize] at *; omega)
            (by simp only [httpBlockSize] at *; omega) (by omega)
            (fun k hk => hmem k (by omega))

def AllCached (cache : BlockCache) (off : Int) (want : Nat) : Prop :=
  ∀ k, startBlock off ≤ k → k ≤ endBlock off want → k ∈ cache.map

/-- Whenever every block of the range is cached, every byte of the range has
been stored since its block was inserted: the cache serves no padding. -/
def Covered (cache : BlockCache) (stored : Stored) (off : Int) (want : Nat) : Prop :=
  AllCached cache off want → ∀ g, off ≤ g → g < off + want → stored g = true

theorem tryReadBlockCache_bytes {image : List UInt8} {stored : Stored} {cache : BlockCache}
    {off : Int} {buf : List UInt8} {n : Nat} (h : CacheOk image cache stored) (hoff : 0 ≤ off)
    (hbuf : buf ≠ []) (hcov : Covered cache stored off buf.length)
    (hhit : (tryReadBlockCache cache off buf.length buf).2.1 = some n) :
    n = buf.length ∧ ∀ i < buf.length,
      (tryReadBlockCache cache off buf.length buf).2.2[i]? = image[off.toNat + i]? := by
  have hpos : 0 < buf.length := List.length_pos_of_ne_nil hbuf
  have hstart : startBlock off * httpBlockSize ≤ off + (0 : Nat) := by
    simp only [startBlock, httpBlockSize]
    omega
  have hlt : off + (0 : Nat) < (startBlock off + 1) * httpBlockSize := by
    simp only [startBlock, httpBlockSize]
    omega
  unfold tryReadBlockCache at hhit ⊢
  rw [if_neg (by omega)] at hhit ⊢
  have hmem := mem_of_tryReadBlocks _ h hpos hstart hlt hhit
  exact bytes_of_tryReadBlocks hoff (hcov hmem) _ h hpos rfl hstart hlt
    (fun i hi => absurd hi (Nat.not_lt_zero i)) hhit

theorem not_allCached_of_miss {image : List UInt8} {stored : Stored} {cache : BlockCache}
    {off : Int} {buf : List UInt8} (h : CacheOk image cache stored) (hbuf : buf ≠ [])
    (hmiss : (tryReadBlockCache cache off buf.length buf).2.1 = none) :
    ¬AllCached cache off buf.length := by
  intro hall
  have hpos : 0 < buf.length := List.length_pos_of_ne_nil hbuf
  unfold tryReadBlockCache at hmiss
  rw [if_neg (by omega)] at hmiss
  refine tryReadBlocks_isSome _ h hpos ?_ ?_ ?_ hall hmiss
  · simp only [startBlock, httpBlockSize]
    omega
  · simp only [startBlock, httpBlockSize]
    omega
  · simp only [startBlock, endBlock, httpBlockSize]
    omega

theorem tryReadBlocks_map (off : Int) (want blocks : Nat) :
    ∀ (blockId : Int) (copied : Nat) (cache : BlockCache) (buf : List UInt8),
      (tryReadBlocks off want blocks blockId copied cache buf).1.map = cache.map := by
  induction blocks with
  | zero => intro blockId copied cache buf; rfl
  | succ blocks ih =>
      intro blockId copied cache buf
      unfold tryReadBlocks
      cases cache.map.lookup blockId with
      | none => rfl
      | some blockData =>
          dsimp only
          split
          · rfl
          · split
            · rfl
            · rw [ih, BlockCache.touch_map]

theorem tryReadBlockCache_map (cache : BlockCache) (off : Int) (want : Nat) (buf : List UInt8) :
    (tryReadBlockCache cache off want buf).1.map = cache.map := by
  unfold tryReadBlockCache
  split
  · rfl
  · exact tryReadBlocks_map _ _ _ _ _ _ _

theorem length_tryReadBlocks (off : Int) (want blocks : Nat) :
    ∀ {blockId : Int} {copied : Nat} {cache : BlockCache} {buf : List UInt8},
      buf.length = want → copied ≤ want →
      (tryReadBlocks off want blocks blockId copied cache buf).2.2.length = want := by
  induction blocks with
  | zero => intro blockId copied cache buf hbuf _; exact hbuf
  | succ blocks ih =>
      intro blockId copied cache buf hbuf hcopied
      unfold tryReadBlocks
      cases hl : cache.map.lookup blockId with
      | none => exact hbuf
      | some blockData =>
          dsimp only
          have hfit : ∀ a n, n ≤ want - copied →
              copied + (slice blockData a n).length ≤ buf.length := by
            intro a n hn
            rw [length_slice]
            omega
          split
          · exact hbuf
          · split
            · rw [length_splice (hfit _ _ (by omega)), hbuf]
            · exact ih (by rw [length_splice (hfit _ _ (by omega)), hbuf]) (by omega)

theorem length_tryReadBlockCache (cache : BlockCache) (off : Int) (buf : List UInt8) :
    (tryReadBlockCache cache off buf.length buf).2.2.length = buf.length := by
  unfold tryReadBlockCache
  split
  · rfl
  · exact length_tryReadBlocks _ _ _ rfl (Nat.zero_le _)

end ArkKvm.Http
