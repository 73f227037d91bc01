import ArkKvm.Http.BlockCache
import ArkKvm.Lib.Recency
import ArkKvm.Lib.Run

/-!
# The representation of the block cache

The queue of the block cache against its map over every run of lookups and stores.  A store
takes a block out of the map and leaves its key in the queue until `put` moves it to the
back; the eviction loop of `put` ends because the queue mentions what the map holds.
-/

namespace ArkKvm.Http

open ArkKvm.Lib.Bytes
open ArkKvm.Lib.Recency (use mem_use nodup_use UsedBefore Recent)
open ArkKvm.Lib.Run (Reach anyStep exec exists_reach_of_exec)
open BlockCache (evict)

/-! ## The eviction loop -/

/-- The loop of `put` ends with the keys that it took from the queue, and the map and the
queue that it leaves.  With an empty queue a pass changes nothing. -/
inductive EvictLoop (cap : Nat) : BlockMap → List Int → List Int → BlockMap → List Int → Prop
  | stop {map : BlockMap} {lru : List Int} :
      map.entries.length ≤ cap → EvictLoop cap map lru [] map lru
  | pop {map map' : BlockMap} {oldest : Int} {lru lru' evicted : List Int} :
      cap < map.entries.length → EvictLoop cap (map.erase oldest) lru evicted map' lru' →
      EvictLoop cap map (oldest :: lru) (oldest :: evicted) map' lru'
  | spin {map map' : BlockMap} {lru' evicted : List Int} :
      cap < map.entries.length → EvictLoop cap map [] evicted map' lru' →
      EvictLoop cap map [] evicted map' lru'

structure Matched (map : BlockMap) (lru : List Int) : Prop where
  nodup : lru.Nodup
  mem_iff : ∀ k, k ∈ lru ↔ k ∈ map

theorem Matched.length {map : BlockMap} {lru : List Int} (h : Matched map lru) :
    map.entries.length = lru.length := by
  have hperm : lru.Perm map.keys := by
    rw [List.perm_ext_iff_of_nodup h.nodup map.keys_nodup]
    exact h.mem_iff
  have hkeys : map.keys.length = map.entries.length := List.length_map _
  rw [← hkeys, hperm.length_eq]

theorem Matched.erase_head {map : BlockMap} {oldest : Int} {lru : List Int}
    (h : Matched map (oldest :: lru)) : Matched (map.erase oldest) lru where
  nodup := h.nodup.of_cons
  mem_iff := by
    intro k
    have hnot : oldest ∉ lru := (List.nodup_cons.mp h.nodup).1
    rw [AList.mem_erase, ← h.mem_iff k, List.mem_cons]
    constructor
    · intro hk
      exact ⟨fun heq => hnot (heq ▸ hk), Or.inr hk⟩
    · rintro ⟨hne, hk⟩
      exact hk.resolve_left hne

/-- The loop ends with at most `cap` blocks; what it evicts is the front of the queue. -/
theorem evictLoop_of_matched (cap : Nat) {map : BlockMap} {lru : List Int}
    (h : Matched map lru) :
    ∃ evicted, EvictLoop cap map lru evicted (evict cap map lru).1 (evict cap map lru).2 ∧
      evicted ++ (evict cap map lru).2 = lru ∧
      Matched (evict cap map lru).1 (evict cap map lru).2 ∧
      (evict cap map lru).1.entries.length ≤ cap := by
  induction lru generalizing map with
  | nil =>
      have hempty : map.entries.length ≤ cap := by
        rw [h.length]
        exact Nat.zero_le cap
      exact ⟨[], .stop hempty, rfl, h, hempty⟩
  | cons oldest lru ih =>
      unfold evict
      by_cases hover : cap < map.entries.length
      · rw [if_pos hover]
        obtain ⟨evicted, hloop, hqueue, hmatched, hsize⟩ := ih h.erase_head
        refine ⟨oldest :: evicted, .pop hover hloop, ?_, hmatched, hsize⟩
        rw [List.cons_append, hqueue]
      · rw [if_neg hover]
        exact ⟨[], .stop (not_lt.mp hover), rfl, h, not_lt.mp hover⟩

theorem last_not_evicted {cap : Nat} (hcap : 1 ≤ cap) {map map' : BlockMap}
    {lru lru' evicted : List Int} {key : Int} (h : Matched map (lru ++ [key]))
    (hloop : EvictLoop cap map (lru ++ [key]) evicted map' lru') : key ∉ evicted := by
  induction lru generalizing map evicted with
  | nil =>
      cases hloop with
      | stop _ => exact List.not_mem_nil
      | pop hover _ =>
          have hlength := h.length
          simp only [List.nil_append, List.length_singleton] at hlength
          omega
  | cons oldest lru ih =>
      cases hloop with
      | stop _ => exact List.not_mem_nil
      | pop hover hloop =>
          have hne : key ≠ oldest := by
            rintro rfl
            have hnot := (List.nodup_cons.mp h.nodup).1
            exact hnot (List.mem_append_right lru (List.mem_singleton_self key))
          rw [List.mem_cons, not_or]
          exact ⟨hne, ih h.erase_head hloop⟩

/-! ## The representation -/

/-- The cache after a history of uses: the queue is the keys of the map in the order of
their last uses, and there are at most `cap` blocks, all of them whole. -/
structure Represents (c : BlockCache) (uses : List Int) : Prop where
  matched : Matched c.map c.lru
  size : c.map.entries.length ≤ c.cap
  block : ∀ k data, c.map.lookup k = some data → data.length = httpBlockSize
  recent : Recent uses c.lru

/-- What is asked of one `put`: its loop ends, the keys that it evicts were used before all
that stay, and the key just stored is none of them. -/
def PutOk (c : BlockCache) (uses : List Int) (key : Int) (value : List UInt8) : Prop :=
  ∃ evicted, EvictLoop c.cap (c.map.insert key value) (c.lru.erase key ++ [key]) evicted
      (c.put key value).map (c.put key value).lru ∧
    (∀ e ∈ evicted, ∀ k ∈ (c.put key value).map, UsedBefore (uses ++ [key]) e k) ∧
    key ∉ evicted

theorem represents_new (cap : Nat) : Represents (.new cap) [] where
  matched := ⟨List.nodup_nil, fun k => iff_of_false List.not_mem_nil (AList.notMem_empty k)⟩
  size := Nat.zero_le cap
  block := nofun
  recent := List.suffix_rfl

variable {c : BlockCache} {uses : List Int}

theorem Represents.touch (h : Represents c uses) {key : Int} (hkey : key ∈ c.map) :
    Represents (c.touch key) (uses ++ [key]) where
  matched := by
    refine ⟨nodup_use h.matched.nodup key, fun k => ?_⟩
    show k ∈ use c.lru key ↔ k ∈ c.map
    rw [mem_use, h.matched.mem_iff]
    exact or_iff_right_of_imp fun heq => heq ▸ hkey
  size := h.size
  block := h.block
  recent := h.recent.use key

theorem Represents.matched_insert (h : Represents c uses) (key : Int) (value : List UInt8) :
    Matched ((c.remove key).map.insert key value) (use c.lru key) where
  nodup := nodup_use h.matched.nodup key
  mem_iff := by
    intro k
    show k ∈ use c.lru key ↔ k ∈ (c.map.erase key).insert key value
    rw [mem_use, AList.mem_insert, AList.mem_erase, h.matched.mem_iff]
    by_cases hk : k = key
    · simp [hk]
    · simp [hk]

theorem Represents.put (h : Represents c uses) (hcap : 1 ≤ c.cap) (key : Int)
    {value : List UInt8} (hvalue : value.length = httpBlockSize) :
    Represents ((c.remove key).put key value) (uses ++ [key]) ∧
      PutOk (c.remove key) uses key value := by
  have hmatched := h.matched_insert key value
  obtain ⟨evicted, hloop, hqueue, hmatched', hsize⟩ := evictLoop_of_matched c.cap hmatched
  have hrecent := h.recent.use key
  rw [← hqueue] at hrecent
  constructor
  · refine ⟨hmatched', hsize, fun k data hlookup => ?_, hrecent.of_append⟩
    rcases BlockCache.lookup_put hlookup with ⟨-, rfl⟩ | ⟨hne, hold⟩
    · exact hvalue
    · exact h.block k data (by rwa [← AList.lookup_erase_ne hne])
  · refine ⟨evicted, hloop, fun e he k hk => ?_, last_not_evicted hcap hmatched hloop⟩
    exact hrecent.usedBefore he ((hmatched'.mem_iff k).mpr hk)

/-! ## The calls -/

def touchedBlocks (off : Int) (want : Nat) (map : BlockMap) : Nat → Int → Nat → List Int
  | 0, _, _ => []
  | blocks + 1, blockId, copied =>
      match map.lookup blockId with
      | none => []
      | some blockData =>
          let offsetInBlock := asUsize (max (off + copied - blockId * httpBlockSize) 0)
          let n := min (want - copied) (blockData.length - offsetInBlock)
          if n = 0 ∨ copied + n = want then [blockId]
          else blockId :: touchedBlocks off want map blocks (blockId + 1) (copied + n)

def storedBlocks (off : Int) (data : List UInt8) : Nat → Nat → List Int
  | 0, _ => []
  | fuel + 1, cursor =>
      if cursor < data.length then
        (off + cursor) / httpBlockSize ::
          storedBlocks off data fuel (cursor + writable off data cursor)
      else []

/-- Every `put` of the store loop meets `PutOk`. -/
def EveryPut (off : Int) (data : List UInt8) : Nat → Nat → BlockCache → List Int → Prop
  | 0, _, _, _ => True
  | fuel + 1, cursor, c, uses =>
      cursor < data.length →
        (∃ block, storeBlock c off data cursor =
            (c.remove ((off + cursor) / httpBlockSize)).put ((off + cursor) / httpBlockSize) block ∧
          PutOk (c.remove ((off + cursor) / httpBlockSize)) uses
            ((off + cursor) / httpBlockSize) block) ∧
        EveryPut off data fuel (cursor + writable off data cursor) (storeBlock c off data cursor)
          (uses ++ [(off + cursor) / httpBlockSize])

theorem Represents.tryReadBlocks (off : Int) (want blocks : Nat) (blockId : Int) (copied : Nat)
    (h : Represents c uses) (buf : List UInt8) :
    Represents (tryReadBlocks off want blocks blockId copied c buf).1
      (uses ++ touchedBlocks off want c.map blocks blockId copied) := by
  induction blocks generalizing blockId copied c uses buf with
  | zero => simpa [Http.tryReadBlocks, touchedBlocks] using h
  | succ blocks ih =>
      unfold Http.tryReadBlocks touchedBlocks
      cases hlookup : c.map.lookup blockId with
      | none => simpa using h
      | some blockData =>
          have hkey : blockId ∈ c.map := by
            rw [← AList.lookup_isSome, hlookup]
            rfl
          have htouch := h.touch hkey
          dsimp only
          generalize hoffset : asUsize (max (off + copied - blockId * httpBlockSize) 0) = offset
          by_cases hn : min (want - copied) (blockData.length - offset) = 0
          · rw [if_pos hn, if_pos (Or.inl hn)]
            exact htouch
          · rw [if_neg hn]
            by_cases hdone : copied + min (want - copied) (blockData.length - offset) = want
            · rw [if_pos hdone, if_pos (Or.inr hdone)]
              exact htouch
            · rw [if_neg hdone, if_neg (not_or.mpr ⟨hn, hdone⟩)]
              have hrest := ih (blockId + 1)
                (copied + min (want - copied) (blockData.length - offset)) htouch
                (splice buf copied (slice blockData offset
                  (min (want - copied) (blockData.length - offset))))
              rwa [List.append_assoc, List.singleton_append, BlockCache.touch_map] at hrest

theorem storeBlock_eq (h : Represents c uses) (off : Int) (data : List UInt8) (cursor : Nat) :
    ∃ block : List UInt8, block.length = httpBlockSize ∧
      storeBlock c off data cursor =
        (c.remove ((off + cursor) / httpBlockSize)).put ((off + cursor) / httpBlockSize) block := by
  refine ⟨_, ?_, rfl⟩
  have hold : ((c.map.lookup ((off + cursor) / httpBlockSize)).getD
      (List.replicate httpBlockSize 0)).length = httpBlockSize := by
    cases hlookup : c.map.lookup ((off + cursor) / httpBlockSize) with
    | none => exact List.length_replicate
    | some data => exact h.block _ data hlookup
  rw [length_splice, hold]
  rw [hold, length_slice]
  unfold writable
  dsimp only
  have hoffset : asUsize (off + cursor - (off + cursor) / httpBlockSize * httpBlockSize) <
      httpBlockSize := by
    unfold asUsize httpBlockSize
    omega
  omega

theorem cap_storeBlock (c : BlockCache) (off : Int) (data : List UInt8) (cursor : Nat) :
    (storeBlock c off data cursor).cap = c.cap := rfl

theorem Represents.storeBlocks (off : Int) (data : List UInt8) (fuel cursor : Nat)
    (h : Represents c uses) (hcap : 1 ≤ c.cap) :
    Represents (storeBlocks off data fuel cursor c) (uses ++ storedBlocks off data fuel cursor) ∧
      EveryPut off data fuel cursor c uses := by
  induction fuel generalizing cursor c uses with
  | zero => exact ⟨by simpa [Http.storeBlocks, storedBlocks] using h, trivial⟩
  | succ fuel ih =>
      obtain ⟨block, hlength, hstore⟩ := storeBlock_eq h off data cursor
      obtain ⟨hput, hputOk⟩ := h.put hcap ((off + cursor) / httpBlockSize) hlength
      rw [← hstore] at hput
      obtain ⟨hrest, hevery⟩ := ih (cursor + writable off data cursor) hput hcap
      unfold Http.storeBlocks storedBlocks EveryPut
      by_cases hmore : cursor < data.length
      · rw [if_pos hmore, if_pos hmore]
        rw [List.append_assoc, List.singleton_append] at hrest
        exact ⟨hrest, fun _ => ⟨⟨block, hstore, hputOk⟩, hevery⟩⟩
      · rw [if_neg hmore, if_neg hmore]
        exact ⟨by simpa using h, fun hlt => absurd hlt hmore⟩

/-! ## Runs -/

inductive CacheCall
  | read (off : Int) (want : Nat) (buf : List UInt8)
  | store (off : Int) (data : List UInt8)

/-- The cache, and the history of the blocks that were touched or put. -/
structure CacheState where
  cache : BlockCache
  uses : List Int

def stepCache (s : CacheState) : CacheCall → Option CacheState
  | .read off want buf => some {
      cache := (tryReadBlockCache s.cache off want buf).1
      uses := s.uses ++ if want = 0 then [] else
        touchedBlocks off want s.cache.map (endBlock off want - startBlock off + 1).toNat
          (startBlock off) 0 }
  | .store off data => some {
      cache := storeIntoBlockCache s.cache off data
      uses := s.uses ++ storedBlocks off data data.length 0 }

structure CacheRunOk (cap : Nat) (s : CacheState) : Prop where
  represents : Represents s.cache s.uses
  cap : s.cache.cap = cap

theorem cap_tryReadBlocks (off : Int) (want blocks : Nat) (blockId : Int) (copied : Nat)
    (c : BlockCache) (buf : List UInt8) :
    (tryReadBlocks off want blocks blockId copied c buf).1.cap = c.cap := by
  induction blocks generalizing blockId copied c buf with
  | zero => rfl
  | succ blocks ih =>
      unfold Http.tryReadBlocks
      split
      · rfl
      · dsimp only
        split
        · rfl
        · split
          · rfl
          · exact ih _ _ _ _

theorem cap_storeBlocks (off : Int) (data : List UInt8) (fuel cursor : Nat) (c : BlockCache) :
    (storeBlocks off data fuel cursor c).cap = c.cap := by
  induction fuel generalizing cursor c with
  | zero => rfl
  | succ fuel ih =>
      unfold Http.storeBlocks
      split
      · exact (ih _ _).trans (cap_storeBlock c off data cursor)
      · rfl

theorem CacheRunOk.step {cap : Nat} (hcap : 1 ≤ cap) {s s' : CacheState} {call : CacheCall}
    (h : CacheRunOk cap s) (hstep : stepCache s call = some s') : CacheRunOk cap s' := by
  obtain ⟨hrepresents, hcapacity⟩ := h
  cases call with
  | read off want buf =>
      cases hstep
      unfold tryReadBlockCache
      by_cases hwant : want = 0
      · rw [if_pos hwant, if_pos hwant, List.append_nil]
        exact ⟨hrepresents, hcapacity⟩
      · rw [if_neg hwant, if_neg hwant]
        exact ⟨hrepresents.tryReadBlocks off want _ _ 0 buf,
          (cap_tryReadBlocks off want _ _ 0 _ buf).trans hcapacity⟩
  | store off data =>
      cases hstep
      have hstored := (hrepresents.storeBlocks off data data.length 0 (hcapacity ▸ hcap)).1
      unfold storeIntoBlockCache
      by_cases hempty : data.isEmpty = true
      · have hnil : data = [] := List.isEmpty_iff.mp hempty
        rw [if_pos hempty]
        rw [hnil] at hstored ⊢
        exact ⟨hstored, hcapacity⟩
      · rw [if_neg hempty]
        exact ⟨hstored, (cap_storeBlocks off data _ _ _).trans hcapacity⟩

/-- After every run of lookups and stores the queue is the keys of the map in the order of
their last uses, and every `put` of a store ends and evicts only keys that were used before
all that stay. -/
theorem block_cache_represents {cap : Nat} (hcap : 1 ≤ cap) {s : CacheState}
    (h : Reach stepCache anyStep ⟨.new cap, []⟩ s) :
    Represents s.cache s.uses ∧ s.cache.cap = cap ∧
      ∀ off data, EveryPut off data data.length 0 s.cache s.uses := by
  have hinit : CacheRunOk cap ⟨.new cap, []⟩ := ⟨represents_new cap, rfl⟩
  have hok : CacheRunOk cap s :=
    h.invariant hinit fun s call s' hs _ hstep => hs.step hcap hstep
  refine ⟨hok.represents, hok.cap, fun off data => ?_⟩
  exact (hok.represents.storeBlocks off data data.length 0 (hok.cap ▸ hcap)).2

/-- Two blocks are stored, the first one is stored over, the second one is looked up, and a third
one is stored. -/
private def evictingCalls : List CacheCall :=
  [.store 0 [7], .store 4096 [8], .store 0 [9], .read 4096 1 [0], .store 8192 [5]]

/-- In a cache for two blocks the first block has to go, although it was stored later than the
second one. -/
theorem block_cache_represents_evicted :
    ∃ s, Reach stepCache anyStep ⟨.new 2, []⟩ s ∧ s.uses = [0, 1, 0, 1, 2] ∧
      s.cache.map.keys = [2, 1] ∧ Represents s.cache s.uses := by
  have hexec : (exec stepCache (fun _ _ => true) ⟨.new 2, []⟩ evictingCalls).map
      (fun s => (s.uses, s.cache.map.keys)) = some ([0, 1, 0, 1, 2], [2, 1]) := by
    decide +kernel
  obtain ⟨s, hrun, hobserved⟩ := exists_reach_of_exec (fun _ _ _ => trivial) hexec
  obtain ⟨huses, hkeys⟩ := Prod.mk.inj hobserved
  exact ⟨s, hrun, huses, hkeys, (block_cache_represents (by decide) hrun).1⟩

end ArkKvm.Http
