import ArkKvm.Lib.Action

/-!
# Capture buffers

`request_buffers` and `release_capture_buffers` of `hardware/hdmi` over the memory pools, memory
blocks and the encoder channel of the media library.  The driver remembers a call on something
that is not there: such a call is a fault of the caller.
-/

namespace ArkKvm.Hdmi

structure Block where
  pool : Nat
  id : Nat
deriving DecidableEq

inductive Channel
  | absent
  | created
  | receiving
deriving DecidableEq

structure Driver where
  pools : List Nat := []
  blocks : List Block := []
  channel : Channel := .absent
  /-- no pool and no block has this name or a later one -/
  fresh : Nat := 0
  misused : Bool := false

namespace Driver

def misuse (d : Driver) : Driver := { d with misused := true }

/-- `mb_create_pool`, when it succeeds. -/
def createPool (d : Driver) : Driver × Nat :=
  ({ d with pools := d.pools ++ [d.fresh], fresh := d.fresh + 1 }, d.fresh)

/-- `mb_destroy_pool`: the pool is there and none of its blocks is in use. -/
def destroyPool (pool : Nat) (d : Driver) : Driver :=
  if pool ∈ d.pools ∧ ∀ b ∈ d.blocks, b.pool ≠ pool then
    { d with pools := d.pools.erase pool }
  else d.misuse

/-- `mb_get_mb`, which fails on a pool that is not there. -/
def getMb (pool : Nat) (d : Driver) : Option (Driver × Block) :=
  if pool ∈ d.pools then
    some ({ d with blocks := d.blocks ++ [⟨pool, d.fresh⟩], fresh := d.fresh + 1 },
      ⟨pool, d.fresh⟩)
  else none

/-- `mb_release_mb`. -/
def releaseMb (b : Block) (d : Driver) : Driver :=
  if b ∈ d.blocks then { d with blocks := d.blocks.erase b } else d.misuse

def releaseAll (blocks : List Block) (d : Driver) : Driver :=
  blocks.foldl (fun d b => d.releaseMb b) d

/-- `venc_create_chn`: there is one channel of this number. -/
def createChn (d : Driver) : Option Driver :=
  if d.channel = .absent then some { d with channel := .created } else none

/-- `venc_start_recv_frame`, when it succeeds. -/
def startRecvFrame (d : Driver) : Driver :=
  if d.channel = .absent then d.misuse else { d with channel := .receiving }

/-- `venc_stop_recv_frame`; that it fails is only logged. -/
def stopRecvFrame (d : Driver) : Driver :=
  if d.channel = .absent then d.misuse else { d with channel := .created }

/-- `venc_destroy_chn`; that it fails is only logged. -/
def destroyChn (d : Driver) : Driver :=
  if d.channel = .absent then d.misuse else { d with channel := .absent }

/-- `venc_send_frame` reads the frame from its block. -/
def sendFrame (b : Block) (d : Driver) : Driver :=
  if d.channel = .receiving ∧ b ∈ d.blocks then d else d.misuse

end Driver

structure VideoBuffer where
  fd : Int
  length : Nat
  mbBlk : Option Block
deriving DecidableEq

def blocksOf (buffers : List VideoBuffer) : List Block := buffers.filterMap (·.mbBlk)

/-- What the driver answers for one buffer: the length that `VIDIOC_QUERYBUF` fills in, whether
the pool has a block for it, and the descriptor of that block. -/
structure BufferIo where
  query : Option Nat
  block : Bool
  fd : Option Int

structure RequestIo where
  /-- the number of buffers that `VIDIOC_REQBUFS` grants -/
  granted : Option Nat
  buffer : Nat → BufferIo
  /-- `VIDIOC_QBUF` of each buffer -/
  queued : Nat → Bool

def inputBufferCount : Nat := 2

def newBuffer (io : BufferIo) (i pool : Nat) (d : Driver) : Driver × Except String VideoBuffer :=
  match io.query with
  | none => (d, .error ("Failed to query buffer " ++ toString i))
  | some length =>
      match if io.block then d.getMb pool else none with
      | none => (d, .error ("Failed to get MB block for buffer " ++ toString i))
      | some (d', b) =>
          match io.fd with
          | none =>
              (d'.releaseMb b, .error ("Failed to get file descriptor for buffer " ++ toString i))
          | some fd => (d', .ok ⟨fd, length, some b⟩)

def fillBuffers (io : RequestIo) (pool : Nat) :
    Nat → List VideoBuffer → Driver → Driver × Except String (List VideoBuffer)
  | 0, buffers, d => (d, .ok buffers)
  | n + 1, buffers, d =>
      match newBuffer (io.buffer buffers.length) buffers.length pool d with
      | (d', .error e) => (d'.releaseAll (blocksOf buffers), .error e)
      | (d', .ok buffer) => fillBuffers io pool n (buffers ++ [buffer]) d'

def unqueued (io : RequestIo) (buffers : List VideoBuffer) : Option Nat :=
  (List.range buffers.length).find? fun i => !io.queued i

def requestBuffers (io : RequestIo) (memPool : Option Nat) (d : Driver) :
    Driver × Except String (List VideoBuffer) :=
  match io.granted with
  | none => (d, .error "Failed to request buffers")
  | some 0 => (d, .error "Driver returned 0 buffers (requested 2), cannot proceed")
  | some (n + 1) =>
      match memPool with
      | none => (d, .error "Memory pool not initialized")
      | some pool =>
          match fillBuffers io pool (min (n + 1) inputBufferCount) [] d with
          | (d', .error e) => (d', .error e)
          | (d', .ok buffers) =>
              match unqueued io buffers with
              | some i =>
                  (d'.releaseAll (blocksOf buffers),
                    .error ("Failed to queue buffer " ++ toString i))
              | none => (d', .ok buffers)

def releaseCaptureBuffers (buffers : List VideoBuffer) (d : Driver) : Driver :=
  d.releaseAll (blocksOf buffers)

/-! ## Blocks -/

/-- The names in use are older than the next one. -/
structure Driver.Fresh (d : Driver) : Prop where
  blocks : ∀ b ∈ d.blocks, b.id < d.fresh
  nodup : d.blocks.Nodup

structure Driver.Restored (d d' : Driver) : Prop where
  pools : d'.pools = d.pools
  blocks : d'.blocks = d.blocks
  channel : d'.channel = d.channel
  fresh : d.fresh ≤ d'.fresh
  misused : d'.misused = d.misused

/-- `taken` were handed out on top of what `d` has in use. -/
structure Driver.Took (pool : Nat) (taken : List Block) (d d' : Driver) : Prop where
  pools : d'.pools = d.pools
  blocks : d'.blocks = d.blocks ++ taken
  channel : d'.channel = d.channel
  fresh : d.fresh ≤ d'.fresh
  misused : d'.misused = d.misused
  names : d'.Fresh
  of_pool : ∀ b ∈ taken, b.pool = pool

theorem blocksOf_append (buffers : List VideoBuffer) (buffer : VideoBuffer) :
    blocksOf (buffers ++ [buffer]) = blocksOf buffers ++ buffer.mbBlk.toList := by
  unfold blocksOf
  rw [List.filterMap_append]
  cases hblk : buffer.mbBlk with
  | none => rw [List.filterMap_cons_none hblk, List.filterMap_nil, Option.toList_none]
  | some b => rw [List.filterMap_cons_some hblk, List.filterMap_nil, Option.toList_some]

theorem releaseAll_of_append (taken : List Block) :
    ∀ (d : Driver) (kept : List Block), d.blocks = kept ++ taken → (kept ++ taken).Nodup →
      d.releaseAll taken = { d with blocks := kept } := by
  induction taken with
  | nil =>
      intro d kept hblocks _
      rw [List.append_nil] at hblocks
      rw [← hblocks]
      rfl
  | cons b taken ih =>
      intro d kept hblocks hnodup
      have hkept : b ∉ kept := by
        rw [List.nodup_append] at hnodup
        exact fun hb => hnodup.2.2 b hb b List.mem_cons_self rfl
      have hrelease : d.releaseMb b = { d with blocks := kept ++ taken } := by
        unfold Driver.releaseMb
        rw [hblocks, if_pos (List.mem_append_right _ List.mem_cons_self),
          List.erase_append_right _ hkept, List.erase_cons_head]
      have hrest : (kept ++ taken).Nodup :=
        hnodup.sublist ((List.sublist_cons_self b taken).append_left kept)
      show Driver.releaseAll taken (d.releaseMb b) = _
      rw [hrelease, ih _ kept rfl hrest]

theorem Driver.Took.release {pool : Nat} {taken : List Block} {d d' : Driver}
    (h : d.Took pool taken d') : d.Restored (d'.releaseAll taken) := by
  have hrun : d'.releaseAll taken = { d' with blocks := d.blocks } :=
    releaseAll_of_append taken d' d.blocks h.blocks (h.blocks ▸ h.names.nodup)
  rw [hrun]
  exact ⟨h.pools, rfl, h.channel, h.fresh, h.misused⟩

theorem Driver.Took.nil {d : Driver} (hd : d.Fresh) (pool : Nat) : d.Took pool [] d :=
  ⟨rfl, (List.append_nil _).symm, rfl, Nat.le_refl _, rfl, hd,
    fun _ hb => absurd hb List.not_mem_nil⟩

theorem Driver.Took.getMb {pool : Nat} {taken : List Block} {d d' d'' : Driver} {b : Block}
    (h : d.Took pool taken d') (hget : d'.getMb pool = some (d'', b)) :
    d.Took pool (taken ++ [b]) d'' := by
  unfold Driver.getMb at hget
  split at hget
  · cases hget
    have hnew : (⟨pool, d'.fresh⟩ : Block) ∉ d'.blocks := by
      intro hmem
      have hlt : d'.fresh < d'.fresh := h.names.blocks _ hmem
      omega
    refine ⟨h.pools, ?_, h.channel, Nat.le_succ_of_le h.fresh, h.misused, ⟨?_, ?_⟩, ?_⟩
    · show d'.blocks ++ _ = _
      rw [h.blocks, List.append_assoc]
    · intro c hc
      obtain hc | hc := List.mem_append.mp hc
      · exact Nat.lt_succ_of_lt (h.names.blocks c hc)
      · rw [List.mem_singleton.mp hc]
        exact Nat.lt_succ_self _
    · apply List.Nodup.append h.names.nodup (List.nodup_singleton _)
      intro c hc hc'
      rw [List.mem_singleton.mp hc'] at hc
      exact hnew hc
    · intro c hc
      obtain hc | hc := List.mem_append.mp hc
      · exact h.of_pool c hc
      · rw [List.mem_singleton.mp hc]
  · cases hget

theorem newBuffer_took (io : BufferIo) (i : Nat) {pool : Nat} {taken : List Block} {d d' : Driver}
    (h : d.Took pool taken d') :
    (∃ e d'', newBuffer io i pool d' = (d'', .error e) ∧ d.Took pool taken d'') ∨
      ∃ fd length b d'', newBuffer io i pool d' = (d'', .ok ⟨fd, length, some b⟩) ∧
        d.Took pool (taken ++ [b]) d'' := by
  unfold newBuffer
  cases io.query with
  | none => exact .inl ⟨_, _, rfl, h⟩
  | some length =>
      dsimp only
      cases hget : if io.block then d'.getMb pool else none with
      | none => exact .inl ⟨_, _, rfl, h⟩
      | some got =>
          obtain ⟨d'', b⟩ := got
          have hblock : d'.getMb pool = some (d'', b) := by
            split at hget
            · exact hget
            · cases hget
          have htook := h.getMb hblock
          cases io.fd with
          | some fd => exact .inr ⟨fd, length, b, d'', rfl, htook⟩
          | none =>
              refine .inl ⟨_, _, rfl, ?_⟩
              have hblocks : d''.blocks = (d.blocks ++ taken) ++ [b] := by
                rw [htook.blocks, List.append_assoc]
              have hrelease : d''.releaseMb b = { d'' with blocks := d.blocks ++ taken } :=
                releaseAll_of_append [b] d'' _ hblocks (hblocks ▸ htook.names.nodup)
              rw [hrelease]
              refine ⟨htook.pools, rfl, htook.channel, htook.fresh, htook.misused, ⟨?_, ?_⟩,
                h.of_pool⟩
              · intro c hc
                apply htook.names.blocks c
                rw [hblocks]
                exact List.mem_append_left _ hc
              · have hnodup := htook.names.nodup
                rw [hblocks] at hnodup
                exact hnodup.of_append_left

theorem fillBuffers_took (io : RequestIo) {pool : Nat} (n : Nat) :
    ∀ {buffers : List VideoBuffer} {d d' : Driver}, d.Took pool (blocksOf buffers) d' →
      (∃ e d'', fillBuffers io pool n buffers d' = (d'', .error e) ∧ d.Restored d'') ∨
        ∃ buffers' d'', fillBuffers io pool n buffers d' = (d'', .ok buffers') ∧
          d.Took pool (blocksOf buffers') d'' ∧ buffers'.length = buffers.length + n := by
  induction n with
  | zero =>
      intro buffers d d' h
      exact .inr ⟨buffers, d', rfl, h, rfl⟩
  | succ n ih =>
      intro buffers d d' h
      unfold fillBuffers
      obtain ⟨e, d'', hnew, htook⟩ | ⟨fd, length, b, d'', hnew, htook⟩ :=
        newBuffer_took (io.buffer buffers.length) buffers.length h
      · rw [hnew]
        exact .inl ⟨e, _, rfl, htook.release⟩
      · rw [hnew]
        have hblocks : blocksOf (buffers ++ [⟨fd, length, some b⟩]) = blocksOf buffers ++ [b] :=
          blocksOf_append buffers _
        obtain hfail | ⟨buffers', d₂, hrun, htook', hlength⟩ := ih (hblocks ▸ htook)
        · exact .inl hfail
        · refine .inr ⟨buffers', d₂, hrun, htook', ?_⟩
          rw [hlength, List.length_append, List.length_singleton]
          omega

theorem requestBuffers_cases (io : RequestIo) (memPool : Option Nat) {d : Driver}
    (hd : d.Fresh) :
    (∃ e d', requestBuffers io memPool d = (d', .error e) ∧ d.Restored d') ∨
      ∃ pool buffers d', memPool = some pool ∧
        requestBuffers io memPool d = (d', .ok buffers) ∧ d.Took pool (blocksOf buffers) d' ∧
        0 < buffers.length ∧ buffers.length ≤ inputBufferCount := by
  have hsame : d.Restored d := ⟨rfl, rfl, rfl, Nat.le_refl _, rfl⟩
  unfold requestBuffers
  cases io.granted with
  | none => exact .inl ⟨_, d, rfl, hsame⟩
  | some n =>
      cases n with
      | zero => exact .inl ⟨_, d, rfl, hsame⟩
      | succ n =>
          cases memPool with
          | none => exact .inl ⟨_, d, rfl, hsame⟩
          | some pool =>
              dsimp only
              have htaken : d.Took pool (blocksOf []) d := Driver.Took.nil hd pool
              obtain ⟨e, d', hfill, hrestored⟩ | ⟨buffers, d', hfill, htook, hlength⟩ :=
                fillBuffers_took io (min (n + 1) inputBufferCount) htaken
              · rw [hfill]
                exact .inl ⟨e, d', rfl, hrestored⟩
              · rw [hfill]
                dsimp only
                cases unqueued io buffers with
                | some i => exact .inl ⟨_, _, rfl, htook.release⟩
                | none =>
                    refine .inr ⟨pool, buffers, d', rfl, rfl, htook, ?_, ?_⟩
                    · rw [hlength, List.length_nil]
                      unfold inputBufferCount
                      omega
                    · rw [hlength, List.length_nil]
                      omega

end ArkKvm.Hdmi
