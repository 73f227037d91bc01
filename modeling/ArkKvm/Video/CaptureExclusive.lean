import ArkKvm.Video.CaptureThreads

/-!
# One capture at a time

The slot of the memory pool is what keeps stream threads apart: a thread that finds it empty and
fills it holds the pool, the blocks and the encoder channel until it empties the slot again.
-/

namespace ArkKvm.Hdmi

open Lib

/-- The buffers and the state of the channel that a thread answers for, once it has a pool. -/
def Place.held : Place → Option (List VideoBuffer × Channel)
  | .absent | .head | .opening | .opened | .sized | .unpooled => none
  | .pooled | .unpooling => some ([], .absent)
  | .buffered buffers | .switchingOff buffers | .releasing buffers => some (buffers, .absent)
  | .created buffers | .taking buffers _ | .joining buffers _ | .destroying buffers _ =>
      some (buffers, .created)
  | .receiving buffers | .marked buffers | .spawned buffers _ | .encoding buffers
  | .streaming buffers | .dequeued buffers _ | .sent buffers _ | .requeuing buffers _
  | .stopping buffers _ | .halting buffers _ => some (buffers, .receiving)

def Place.Inside (p : Place) : Prop := p.held ≠ none

def Handled (s : Shared) : Prop :=
  ∀ r ∈ s.readers, s.readThread = some r ∨ ∃ who, s.readLock = some (who, r)

def Place.Readers (t : Nat) (s : Shared) : Place → Prop
  | .spawned _ r => ∀ r' ∈ s.readers, r' = r
  | .encoding _ | .streaming _ | .dequeued _ _ | .sent _ _ | .requeuing _ _ | .stopping _ _
  | .halting _ _ | .taking _ _ => Handled s
  | .joining _ _ => ∃ r, s.readLock = some (.thread t, r) ∧ ∀ r' ∈ s.readers, r' = r
  | _ => s.readers = []

/-- Nothing of the media library is in use. -/
structure Released (s : Shared) : Prop where
  memPool : s.memPool = none
  pools : s.driver.pools = []
  blocks : s.driver.blocks = []
  channel : s.driver.channel = .absent
  readers : s.readers = []

/-- What is in use is what thread `t` answers for. -/
structure Owned (t : Nat) (p : Place) (s : Shared) (buffers : List VideoBuffer)
    (channel : Channel) : Prop where
  held : p.held = some (buffers, channel)
  pool : ∃ pool, s.memPool = some pool ∧ s.driver.pools = [pool] ∧
    ∀ b ∈ blocksOf buffers, b.pool = pool
  blocks : s.driver.blocks = blocksOf buffers
  channel : s.driver.channel = channel
  readers : p.Readers t s

structure Sound (d : Driver) : Prop where
  misused : d.misused = false
  names : d.Fresh

def Holds (t : Nat) (p : Place) (s : Shared) : Prop :=
  Sound s.driver ∧
    ((∃ buffers channel, Owned t p s buffers channel) ∨
      (p.held = none ∧ p ≠ .unpooled) ∧ Released s)

section Inside

variable {t : Nat} {p p' : Place} {s s' : Shared} {ev : Event} {buffers : List VideoBuffer}
  {channel : Channel}

theorem Owned.congr (h : Owned t p s buffers channel) (hdriver : s'.driver = s.driver)
    (hpool : s'.memPool = s.memPool) {channel' : Channel} (hheld : p'.held = some (buffers, channel'))
    (hchannel : channel' = channel) (hreaders : p'.Readers t s') :
    Owned t p' s' buffers channel' := by
  subst hchannel
  constructor
  · exact hheld
  · rw [hpool, hdriver]
    exact h.pool
  · rw [hdriver]
    exact h.blocks
  · rw [hdriver]
    exact h.channel
  · exact hreaders

theorem Owned.goes (h : Owned t p s buffers channel) (hd : Sound s.driver)
    (hdriver : s'.driver = s.driver) (hpool : s'.memPool = s.memPool)
    (hheld : p'.held = some (buffers, channel)) (hreaders : p'.Readers t s') :
    Holds t p' s' := by
  refine ⟨?_, .inl ⟨buffers, channel, h.congr hdriver hpool hheld rfl hreaders⟩⟩
  rw [hdriver]
  exact hd

theorem Owned.goesChannel (h : Owned t p s buffers channel) (hd : Sound s.driver)
    {channel' : Channel} (hheld : p'.held = some (buffers, channel'))
    (hdriver : s'.driver = { s.driver with channel := channel' })
    (hpool : s'.memPool = s.memPool) (hreaders : p'.Readers t s') : Holds t p' s' := by
  refine ⟨?_, .inl ⟨buffers, channel', hheld, ?_, ?_, ?_, hreaders⟩⟩
  · rw [hdriver]
    exact ⟨hd.misused, hd.names.blocks, hd.names.nodup⟩
  · rw [hpool, hdriver]
    exact h.pool
  · rw [hdriver]
    exact h.blocks
  · rw [hdriver]

theorem openStep_holds (h : Owned t p s buffers channel) (hd : Sound s.driver)
    (hstep : p.openStep s ev = some (p', s')) : Holds t p' s' := by
  have hheld := h.held
  unfold Place.openStep at hstep
  split at hstep
  case h_9 io =>
    cases hheld
    obtain ⟨pool, hslot, hpools, hof⟩ := h.pool
    have hblocks : s.driver.blocks = [] := h.blocks
    obtain ⟨e, d, hrun, hback⟩ | ⟨pool', buffers', d, hslot', hrun, htook, hlen, -⟩ :=
      requestBuffers_cases io s.memPool hd.names
    · rw [hrun] at hstep
      cases hstep
      refine ⟨⟨hback.misused.trans hd.misused, ?_, ?_⟩, .inl ⟨[], .absent, rfl, ?_, ?_, ?_, ?_⟩⟩
      · intro b hb
        rw [hback.blocks, hblocks] at hb
        exact absurd hb List.not_mem_nil
      · rw [hback.blocks, hblocks]
        exact List.nodup_nil
      · exact ⟨pool, hslot, hback.pools.trans hpools, hof⟩
      · exact hback.blocks.trans hblocks
      · exact hback.channel.trans h.channel
      · exact h.readers
    · rw [hrun] at hstep
      cases hstep
      cases hslot.symm.trans hslot'
      refine ⟨⟨htook.misused.trans hd.misused, htook.names⟩,
        .inl ⟨buffers', .absent, rfl, ?_, ?_, ?_, ?_⟩⟩
      · exact ⟨pool, hslot, htook.pools.trans hpools, htook.of_pool⟩
      · show d.blocks = _
        rw [htook.blocks, hblocks, List.nil_append]
      · exact htook.channel.trans h.channel
      · exact h.readers
  case h_10 => cases hstep
  all_goals cases hheld

theorem startStep_holds (h : Owned t p s buffers channel) (hd : Sound s.driver)
    (hstep : p.startStep s ev = some (p', s')) : Holds t p' s' := by
  have hheld := h.held
  have hreaders := h.readers
  have hchannel := h.channel
  unfold Place.startStep at hstep
  split at hstep
  case h_1 buffers ok =>
    cases hheld
    split at hstep
    · cases hstep
      exact h.goes hd rfl rfl rfl hreaders
    · next d hcreate =>
        cases hstep
        split at hcreate
        · unfold Driver.createChn at hcreate
          rw [if_pos hchannel] at hcreate
          cases hcreate
          exact h.goesChannel hd rfl rfl rfl hreaders
        · cases hcreate
  case h_2 buffers =>
    cases hheld
    cases hstep
    have hdriver : s.driver.startRecvFrame = { s.driver with channel := .receiving } := by
      rw [Driver.startRecvFrame, if_neg (by rw [hchannel]; nofun)]
    exact h.goesChannel hd rfl hdriver rfl hreaders
  case h_3 buffers =>
    cases hheld
    cases hstep
    have hdriver : s.driver.destroyChn = { s.driver with channel := .absent } := by
      rw [Driver.destroyChn, if_neg (by rw [hchannel]; nofun)]
    exact h.goesChannel hd rfl hdriver rfl hreaders
  case h_4 buffers =>
    cases hheld
    cases hstep
    exact h.goes hd rfl rfl rfl hreaders
  case h_5 buffers =>
    cases hheld
    cases hstep
    refine h.goes hd rfl rfl rfl ?_
    intro r hr
    have hnone : s.readers = [] := hreaders
    have hmem : r ∈ s.nextReader :: s.readers := hr
    rw [hnone] at hmem
    exact List.mem_singleton.mp hmem
  case h_6 buffers r =>
    cases hheld
    split at hstep
    · cases hstep
      refine h.goes hd rfl rfl rfl ?_
      intro r' hr'
      exact .inl (congrArg some (hreaders r' hr').symm)
    · cases hstep
  case h_7 buffers =>
    cases hheld
    cases hstep
    exact h.goes hd rfl rfl rfl hreaders
  case h_8 buffers =>
    cases hheld
    cases hstep
    exact h.goes hd rfl rfl rfl hreaders
  case h_9 => cases hstep

theorem mem_blocksOf {buffers : List VideoBuffer} {index : Nat} {b : Block}
    (h : (buffers[index]?).bind (·.mbBlk) = some b) : b ∈ blocksOf buffers := by
  obtain ⟨buffer, hbuffer, hblk⟩ := Option.bind_eq_some_iff.mp h
  exact List.mem_filterMap.mpr ⟨buffer, List.mem_of_getElem? hbuffer, hblk⟩

theorem frameStep_holds (h : Owned t p s buffers channel) (hd : Sound s.driver)
    (hstep : p.frameStep s ev = some (p', s')) : Holds t p' s' := by
  have hheld := h.held
  have hreaders := h.readers
  have hchannel := h.channel
  unfold Place.frameStep at hstep
  split at hstep
  case h_5 buffers index ok =>
    cases hheld
    split at hstep
    · cases hstep
      exact h.goes hd rfl rfl rfl hreaders
    · next b hb =>
        cases hstep
        have hsend : (s.withDriver (Driver.sendFrame b)).driver = s.driver := by
          show s.driver.sendFrame b = _
          rw [Driver.sendFrame, if_pos ⟨hchannel, h.blocks ▸ mem_blocksOf hb⟩]
        cases ok with
        | true => exact h.goes hd hsend rfl rfl hreaders
        | false => exact h.goes hd hsend rfl rfl hreaders
  case h_6 buffers index =>
    cases hheld
    cases hstep
    cases s.vencRunning with
    | true => exact h.goes hd rfl rfl rfl hreaders
    | false => exact h.goes hd rfl rfl rfl hreaders
  case h_7 buffers index ok =>
    cases hheld
    cases hstep
    cases ok && decide (index < buffers.length) with
    | true => exact h.goes hd rfl rfl rfl hreaders
    | false => exact h.goes hd rfl rfl rfl hreaders
  case h_8 => cases hstep
  all_goals
    cases hheld
    cases hstep
    exact h.goes hd rfl rfl rfl hreaders

theorem takeReader_cases {who : Who} {found : Bool} (h : s.takeReader who = some (found, s')) :
    s.readLock = none ∧
      (found = false ∧ s.readThread = none ∧ s' = s ∨
        ∃ r, found = true ∧ s.readThread = some r ∧
          s' = { s with readThread := none, readLock := some (who, r) }) := by
  unfold Shared.takeReader at h
  split at h
  · cases h
  · next hlock hslot =>
      cases h
      exact ⟨hlock, .inl ⟨rfl, hslot, rfl⟩⟩
  · next r hlock hslot =>
      cases h
      exact ⟨hlock, .inr ⟨r, rfl, hslot, rfl⟩⟩

theorem joined_cases {who : Who} (h : s.joined who = some s') :
    ∃ r, s.readLock = some (who, r) ∧ r ∉ s.readers ∧ s' = { s with readLock := none } := by
  unfold Shared.joined at h
  split at h
  · next holder r hlock =>
      split at h
      · next hwho =>
          cases h
          exact ⟨r, hwho.1 ▸ hlock, hwho.2, rfl⟩
      · cases h
  · cases h

theorem Owned.releases (h : Owned t p s buffers channel) (hd : Sound s.driver) :
    releaseCaptureBuffers buffers s.driver = { s.driver with blocks := [] } := by
  apply releaseAll_of_append
  · exact h.blocks
  · have hnodup := hd.names.nodup
    rw [h.blocks] at hnodup
    exact hnodup

theorem Owned.unpools (h : Owned t p s [] .absent) (hd : Sound s.driver) (hnone : s.readers = []) :
    Released s.destroyPool ∧ Sound s.destroyPool.driver := by
  obtain ⟨pool, hslot, hpools, -⟩ := h.pool
  have hblocks : s.driver.blocks = [] := h.blocks
  have hdriver : s.driver.destroyPool pool = { s.driver with pools := [] } := by
    have hmem : pool ∈ s.driver.pools := hpools ▸ List.mem_singleton_self pool
    have hfree : ∀ b ∈ s.driver.blocks, b.pool ≠ pool := by
      intro b hb
      rw [hblocks] at hb
      exact absurd hb List.not_mem_nil
    have herase : s.driver.pools.erase pool = [] := by
      rw [hpools, List.erase_cons_head]
    rw [Driver.destroyPool, if_pos ⟨hmem, hfree⟩, herase]
  have hrun : s.destroyPool = { s with driver := { s.driver with pools := [] }, memPool := none } := by
    unfold Shared.destroyPool
    rw [hslot, ← hdriver]
  rw [hrun]
  exact ⟨⟨rfl, rfl, hblocks, h.channel, hnone⟩, hd.misused, hd.names.blocks, hd.names.nodup⟩

theorem stopStep_holds (h : Owned t p s buffers channel) (hd : Sound s.driver)
    (hstep : p.stopStep t s ev = some (p', s')) : Holds t p' s' := by
  have hheld := h.held
  have hreaders := h.readers
  have hchannel := h.channel
  unfold Place.stopStep at hstep
  split at hstep
  case h_1 buffers on =>
    cases hheld
    cases hstep
    exact h.goes hd rfl rfl rfl hreaders
  case h_2 buffers on =>
    cases hheld
    cases hstep
    have hdriver : s.driver.stopRecvFrame = { s.driver with channel := .created } := by
      rw [Driver.stopRecvFrame, if_neg (by rw [hchannel]; nofun)]
    exact h.goesChannel hd rfl hdriver rfl hreaders
  case h_3 buffers on =>
    cases hheld
    obtain ⟨⟨found, s₁⟩, htake, hgo⟩ := Option.map_eq_some_iff.mp hstep
    cases hgo
    obtain ⟨hlock, ⟨rfl, hslot, rfl⟩ | ⟨r, rfl, hslot, rfl⟩⟩ := takeReader_cases htake
    · refine h.goes hd rfl rfl rfl (List.eq_nil_iff_forall_not_mem.mpr fun r hr => ?_)
      obtain hmine | ⟨who, hheldby⟩ := hreaders r hr
      · rw [hslot] at hmine
        cases hmine
      · rw [hlock] at hheldby
        cases hheldby
    · refine h.goes hd rfl rfl rfl ⟨r, rfl, fun r' hr' => ?_⟩
      obtain hmine | ⟨who, hheldby⟩ := hreaders r' hr'
      · rw [hslot] at hmine
        exact (Option.some.inj hmine).symm
      · rw [hlock] at hheldby
        cases hheldby
  case h_4 buffers on =>
    cases hheld
    obtain ⟨s₁, hjoin, hgo⟩ := Option.map_eq_some_iff.mp hstep
    cases hgo
    obtain ⟨r, hlock, hended, rfl⟩ := joined_cases hjoin
    obtain ⟨r₀, hlock₀, hall⟩ := hreaders
    rw [hlock] at hlock₀
    cases hlock₀
    refine h.goes hd rfl rfl rfl (List.eq_nil_iff_forall_not_mem.mpr fun r' hr' => ?_)
    rw [hall r' hr'] at hr'
    exact hended hr'
  case h_5 buffers on =>
    cases hheld
    cases hstep
    have hdestroy : (s.withDriver Driver.destroyChn).driver =
        { s.driver with channel := .absent } := by
      show s.driver.destroyChn = _
      rw [Driver.destroyChn, if_neg (by rw [hchannel]; nofun)]
    cases on with
    | true => exact h.goesChannel hd rfl hdestroy rfl hreaders
    | false => exact h.goesChannel hd rfl hdestroy rfl hreaders
  case h_6 buffers ok =>
    cases hheld
    cases hstep
    exact h.goes hd rfl rfl rfl hreaders
  case h_7 buffers ok =>
    cases hheld
    cases hstep
    have hrelease : (s.withDriver (releaseCaptureBuffers buffers)).driver =
        { s.driver with blocks := [] } := h.releases hd
    obtain ⟨pool, hslot, hpools, -⟩ := h.pool
    refine ⟨?_, .inl ⟨[], .absent, rfl, ?_, ?_, ?_, hreaders⟩⟩
    · rw [hrelease]
      exact ⟨hd.misused, fun _ hb => absurd hb List.not_mem_nil, List.nodup_nil⟩
    · rw [hrelease]
      exact ⟨pool, hslot, hpools, fun _ hb => absurd hb List.not_mem_nil⟩
    · rw [hrelease]
      rfl
    · rw [hrelease]
      exact hchannel
  case h_8 =>
    cases hheld
    cases hstep
    obtain ⟨hreleased, hsound⟩ := h.unpools hd hreaders
    exact ⟨hsound, .inr ⟨⟨rfl, nofun⟩, hreleased⟩⟩
  case h_9 => cases hstep

theorem step_cases (hstep : p.step t ev s = some (p', s')) :
    p.openStep s ev = some (p', s') ∨ p.startStep s ev = some (p', s') ∨
      p.frameStep s ev = some (p', s') ∨ p.stopStep t s ev = some (p', s') := by
  unfold Place.step at hstep
  obtain hopen | ⟨-, hrest⟩ := Option.or_eq_some_iff.mp hstep
  · exact .inl hopen
  · obtain hstart | ⟨-, hrest⟩ := Option.or_eq_some_iff.mp hrest
    · exact .inr (.inl hstart)
    · obtain hframe | ⟨-, hstop⟩ := Option.or_eq_some_iff.mp hrest
      · exact .inr (.inr (.inl hframe))
      · exact .inr (.inr (.inr hstop))

theorem step_holds (h : Owned t p s buffers channel) (hd : Sound s.driver)
    (hstep : p.step t ev s = some (p', s')) : Holds t p' s' := by
  obtain hopen | hstart | hframe | hstop := step_cases hstep
  · exact openStep_holds h hd hopen
  · exact startStep_holds h hd hstart
  · exact frameStep_holds h hd hframe
  · exact stopStep_holds h hd hstop

/-! ## Outside -/

theorem openStep_of_outside (hp : p.held = none) (hstep : p.step t ev s = some (p', s')) :
    p.openStep s ev = some (p', s') := by
  obtain hopen | hstart | hframe | hstop := step_cases hstep
  · exact hopen
  · unfold Place.startStep at hstart
    split at hstart
    all_goals first | cases hp | cases hstart
  · unfold Place.frameStep at hframe
    split at hframe
    all_goals first | cases hp | cases hframe
  · unfold Place.stopStep at hstop
    split at hstop
    all_goals first | cases hp | cases hstop

theorem step_outside (hp : p.held = none) (hstep : p.step t ev s = some (p', s')) :
    (p'.held = none ∧ s' = s ∧ (p' = .unpooled → ev = .next ∧ p = .sized ∧ s.memPool = none)) ∨
      p = .unpooled ∧ p' = .pooled ∧ s' = s.storePool := by
  have hopen := openStep_of_outside hp hstep
  unfold Place.openStep at hopen
  split at hopen
  case h_4 ok =>
    cases hopen
    cases ok with
    | true => exact .inl ⟨rfl, rfl, nofun⟩
    | false => exact .inl ⟨rfl, rfl, nofun⟩
  case h_5 ok =>
    cases hopen
    cases ok with
    | true => exact .inl ⟨rfl, rfl, nofun⟩
    | false => exact .inl ⟨rfl, rfl, nofun⟩
  case h_6 =>
    cases hopen
    cases hslot : s.memPool with
    | none => exact .inl ⟨rfl, rfl, fun _ => ⟨rfl, rfl, rfl⟩⟩
    | some pool => exact .inl ⟨rfl, rfl, nofun⟩
  case h_7 =>
    cases hopen
    exact .inr ⟨rfl, rfl, rfl⟩
  case h_9 io => cases hp
  case h_10 => cases hopen
  all_goals
    cases hopen
    exact .inl ⟨rfl, rfl, nofun⟩

theorem Released.storePool (h : Released s) (hd : Sound s.driver) :
    Sound s.storePool.driver ∧ Owned t .pooled s.storePool [] .absent := by
  refine ⟨⟨hd.misused, ?_, ?_⟩, rfl, ?_, h.blocks, h.channel, h.readers⟩
  · intro b hb
    rw [show s.storePool.driver.blocks = [] from h.blocks] at hb
    exact absurd hb List.not_mem_nil
  · exact hd.names.nodup
  · refine ⟨s.driver.fresh, rfl, ?_, fun _ hb => absurd hb List.not_mem_nil⟩
    show s.driver.pools ++ [s.driver.fresh] = _
    rw [h.pools, List.nil_append]

end Inside

/-! ## What the other tasks do to the shared state -/

/-- The driver and the slot of the pool are as they were, and no reader is new. -/
structure Beside (s s' : Shared) : Prop where
  driver : s'.driver = s.driver
  memPool : s'.memPool = s.memPool
  readers : s'.readers ⊆ s.readers
  places : ∀ t p, Place.Readers t s p → Place.Readers t s' p

theorem Beside.refl (s : Shared) : Beside s s :=
  ⟨rfl, rfl, fun _ h => h, fun _ _ h => h⟩

theorem Beside.released {s s' : Shared} (h : Beside s s') (hs : Released s) : Released s' := by
  refine ⟨h.memPool.trans hs.memPool, ?_, ?_, ?_, ?_⟩
  · rw [h.driver]
    exact hs.pools
  · rw [h.driver]
    exact hs.blocks
  · rw [h.driver]
    exact hs.channel
  · exact List.subset_nil.mp (hs.readers ▸ h.readers)

theorem Beside.owned {s s' : Shared} {t : Nat} {p : Place} {buffers : List VideoBuffer}
    {channel : Channel} (h : Beside s s') (hs : Owned t p s buffers channel) :
    Owned t p s' buffers channel :=
  hs.congr h.driver h.memPool hs.held rfl (h.places t p hs.readers)

theorem beside_of_handled {s s' : Shared} (hdriver : s'.driver = s.driver)
    (hpool : s'.memPool = s.memPool) (hsub : s'.readers ⊆ s.readers)
    (hhandle : Handled s → Handled s')
    (hlock : ∀ t r, s.readLock = some (.thread t, r) → s'.readLock = some (.thread t, r)) :
    Beside s s' := by
  have hnil : s.readers = [] → s'.readers = [] := fun h => List.subset_nil.mp (h ▸ hsub)
  refine ⟨hdriver, hpool, hsub, fun t p hp => ?_⟩
  cases p with
  | spawned _ r => exact fun r' hr' => hp r' (hsub hr')
  | joining _ _ =>
      obtain ⟨r, hlock', hall⟩ := hp
      exact ⟨r, hlock t r hlock', fun r' hr' => hall r' (hsub hr')⟩
  | encoding _ | streaming _ | dequeued _ _ | sent _ _ | requeuing _ _ | stopping _ _
  | halting _ _ | taking _ _ => exact hhandle hp
  | absent | head | opening | opened | sized | unpooled | pooled | buffered _ | created _
  | receiving _ | marked _ | destroying _ _ | switchingOff _ | releasing _ | unpooling =>
      exact hnil hp

theorem beside_of_readers {s s' : Shared} (hdriver : s'.driver = s.driver)
    (hpool : s'.memPool = s.memPool) (hsub : s'.readers ⊆ s.readers)
    (hthread : s'.readThread = s.readThread) (hlock : s'.readLock = s.readLock) :
    Beside s s' := by
  apply beside_of_handled hdriver hpool hsub
  · intro h r hr
    rw [hthread, hlock]
    exact h r (hsub hr)
  · intro t r h
    exact hlock.trans h

theorem beside_takeReader {s s' : Shared} {who : Who} {found : Bool}
    (h : s.takeReader who = some (found, s')) : Beside s s' := by
  obtain ⟨hlock, ⟨-, -, hs'⟩ | ⟨r, -, hslot, hs'⟩⟩ := takeReader_cases h
  · exact hs' ▸ .refl s
  · subst hs'
    refine beside_of_handled rfl rfl (fun _ hr => hr) ?_ ?_
    · intro hall r' hr'
      obtain hmine | ⟨w, hheldby⟩ := hall r' hr'
      · rw [hslot] at hmine
        cases hmine
        exact .inr ⟨who, rfl⟩
      · rw [hlock] at hheldby
        cases hheldby
    · intro t r' hlock'
      rw [hlock] at hlock'
      cases hlock'

theorem beside_joined {s s' : Shared} {who : Who} (hwho : ∀ t, who ≠ .thread t)
    (h : s.joined who = some s') : Beside s s' := by
  obtain ⟨r, hlock, hended, hs'⟩ := joined_cases h
  subst hs'
  refine beside_of_handled rfl rfl (fun _ hr => hr) ?_ ?_
  · intro hall r' hr'
    obtain hmine | ⟨w, hheldby⟩ := hall r' hr'
    · exact .inl hmine
    · rw [hlock] at hheldby
      cases hheldby
      exact absurd hr' hended
  · intro t r' hlock'
    rw [hlock] at hlock'
    cases hlock'
    exact absurd rfl (hwho t)

end ArkKvm.Hdmi
