import ArkKvm.Lib.Bytes

/-!
# The block cache of the HTTP range reader

`BlockCache` of `storage.rs`: a map from block numbers to 4 KiB blocks with a
least-recently-used queue.  The block loops of `try_read_block_cache` and
`store_into_block_cache` are here as well, over the cache they lock.
-/

namespace ArkKvm.Http

open ArkKvm.Lib.Bytes

def httpBlockSize : Nat := 4096

def httpBlockCacheCapacity : Nat := 2048

/-- `x as usize` on the 32-bit target. -/
def asUsize (x : Int) : Nat := (x % 2 ^ 32).toNat

theorem asUsize_of_nonneg {x : Int} (h₀ : 0 ≤ x) (h₁ : x < 2 ^ 32) : (asUsize x : Int) = x := by
  unfold asUsize
  omega

abbrev BlockMap := AList fun _ : Int => List UInt8

/-- The queue mentions every cached block, so that an eviction always finds a
block to drop. -/
structure BlockCache where
  map : BlockMap
  lru : List Int
  cap : Nat
  mem_lru : ∀ k ∈ map, k ∈ lru

namespace BlockCache

def new (cap : Nat) : BlockCache where
  map := ∅
  lru := []
  cap := cap
  mem_lru := fun k h => absurd h (AList.notMem_empty k)

def touch (c : BlockCache) (key : Int) : BlockCache where
  map := c.map
  lru := c.lru.erase key ++ [key]
  cap := c.cap
  mem_lru := by
    intro k hk
    by_cases hkey : k = key
    · simp [hkey]
    · exact List.mem_append_left _ ((List.mem_erase_of_ne hkey).mpr (c.mem_lru k hk))

/-- `while self.map.len() > self.cap`: drop the oldest block.  The queue runs
dry only when the map is empty (`evict_mem`). -/
def evict (cap : Nat) : BlockMap → List Int → BlockMap × List Int
  | map, [] => (map, [])
  | map, oldest :: lru =>
      if cap < map.entries.length then evict cap (map.erase oldest) lru
      else (map, oldest :: lru)

theorem evict_mem {cap : Nat} {map : BlockMap} {lru : List Int}
    (h : ∀ k ∈ map, k ∈ lru) : ∀ k ∈ (evict cap map lru).1, k ∈ (evict cap map lru).2 := by
  induction lru generalizing map with
  | nil => exact h
  | cons oldest lru ih =>
      unfold evict
      split
      · apply ih
        intro k hk
        obtain ⟨hne, hmem⟩ := AList.mem_erase.mp hk
        exact (List.mem_cons.mp (h k hmem)).resolve_left hne
      · exact h

theorem lookup_evict {cap : Nat} {map : BlockMap} {lru : List Int} {k : Int} {data : List UInt8}
    (h : (evict cap map lru).1.lookup k = some data) : map.lookup k = some data := by
  induction lru generalizing map with
  | nil => exact h
  | cons oldest lru ih =>
      unfold evict at h
      split at h
      · have hrest := ih h
        by_cases hk : k = oldest
        · subst hk
          rw [AList.lookup_erase] at hrest
          exact absurd hrest (by simp)
        · rwa [AList.lookup_erase_ne hk] at hrest
      · exact h

def put (c : BlockCache) (key : Int) (value : List UInt8) : BlockCache where
  map := (evict c.cap (c.map.insert key value) (c.lru.erase key ++ [key])).1
  lru := (evict c.cap (c.map.insert key value) (c.lru.erase key ++ [key])).2
  cap := c.cap
  mem_lru := by
    apply evict_mem
    intro k hk
    rcases (AList.mem_insert _).mp hk with rfl | hmem
    · simp
    · by_cases hkey : k = key
      · simp [hkey]
      · exact List.mem_append_left _ ((List.mem_erase_of_ne hkey).mpr (c.mem_lru k hmem))

/-- `self.map.remove(&key)` outside of `put`: the queue keeps the key. -/
def remove (c : BlockCache) (key : Int) : BlockCache where
  map := c.map.erase key
  lru := c.lru
  cap := c.cap
  mem_lru := fun k hk => c.mem_lru k (AList.mem_erase.mp hk).2

@[simp] theorem touch_map (c : BlockCache) (key : Int) : (c.touch key).map = c.map := rfl

theorem lookup_put {c : BlockCache} {key k : Int} {value data : List UInt8}
    (h : (c.put key value).map.lookup k = some data) :
    (k = key ∧ data = value) ∨ (k ≠ key ∧ c.map.lookup k = some data) := by
  have hins : (c.map.insert key value).lookup k = some data := lookup_evict h
  by_cases hk : k = key
  · subst hk
    rw [AList.lookup_insert] at hins
    exact Or.inl ⟨rfl, (Option.some.inj hins).symm⟩
  · rw [AList.lookup_insert_ne hk] at hins
    exact Or.inr ⟨hk, hins⟩

end BlockCache

/-! ## Reading cached blocks -/

def tryReadBlocks (off : Int) (want : Nat) :
    Nat → Int → Nat → BlockCache → List UInt8 → BlockCache × Option Nat × List UInt8
  | 0, _, _, cache, buf => (cache, none, buf)
  | blocks + 1, blockId, copied, cache, buf =>
      match cache.map.lookup blockId with
      | none => (cache, none, buf)
      | some blockData =>
          let cache := cache.touch blockId
          let blockStart := blockId * httpBlockSize
          let offsetInBlock := asUsize (max (off + copied - blockStart) 0)
          let remaining := want - copied
          let n := min remaining (blockData.length - offsetInBlock)
          if n = 0 then (cache, none, buf)
          else
            let buf := splice buf copied (slice blockData offsetInBlock n)
            if copied + n = want then (cache, some (copied + n), buf)
            else tryReadBlocks off want blocks (blockId + 1) (copied + n) cache buf

def startBlock (off : Int) : Int := off / httpBlockSize

def endBlock (off : Int) (want : Nat) : Int := (off + want - 1) / httpBlockSize

/-- Serve the whole range from the cache, or report a miss; a miss may have
overwritten part of `buf`. -/
def tryReadBlockCache (cache : BlockCache) (off : Int) (want : Nat) (buf : List UInt8) :
    BlockCache × Option Nat × List UInt8 :=
  if want = 0 then (cache, some 0, buf)
  else
    tryReadBlocks off want (endBlock off want - startBlock off + 1).toNat
      (startBlock off) 0 cache buf

/-! ## Storing fetched bytes -/

/-- Number of bytes of `data` that one pass of the store loop writes at `cursor`. -/
def writable (off : Int) (data : List UInt8) (cursor : Nat) : Nat :=
  let globalOff := off + cursor
  let offsetInBlock := asUsize (globalOff - globalOff / httpBlockSize * httpBlockSize)
  min (httpBlockSize - offsetInBlock) (data.length - cursor)

/-- One pass of the store loop.  A block that is not cached starts out as
zeros, whatever the image holds there. -/
def storeBlock (cache : BlockCache) (off : Int) (data : List UInt8) (cursor : Nat) : BlockCache :=
  let globalOff := off + cursor
  let blockId := globalOff / httpBlockSize
  let offsetInBlock := asUsize (globalOff - blockId * httpBlockSize)
  let blockData := (cache.map.lookup blockId).getD (List.replicate httpBlockSize 0)
  let blockData := splice blockData offsetInBlock (slice data cursor (writable off data cursor))
  (cache.remove blockId).put blockId blockData

/-- `while cursor < data.len()`.  Every pass writes a byte, so `data.length`
passes are enough. -/
def storeBlocks (off : Int) (data : List UInt8) : Nat → Nat → BlockCache → BlockCache
  | 0, _, cache => cache
  | fuel + 1, cursor, cache =>
      if cursor < data.length then
        storeBlocks off data fuel (cursor + writable off data cursor)
          (storeBlock cache off data cursor)
      else cache

def storeIntoBlockCache (cache : BlockCache) (off : Int) (data : List UInt8) : BlockCache :=
  if data.isEmpty then cache else storeBlocks off data data.length 0 cache

end ArkKvm.Http
