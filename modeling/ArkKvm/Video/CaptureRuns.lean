import ArkKvm.Video.CaptureExclusive

/-!
# Runs of the capture

Every interleaving of the stream threads, the readers and the two tasks that start and stop the
stream: exclusive as long as no two threads look for the pool at once, which a stop that waits
for its thread ensures.
-/

namespace ArkKvm.Hdmi

open Lib

/-- A thread looks for the pool while no other one has found the slot empty. -/
def Calm (w : World) (a : Act) : Prop :=
  ∀ t, a = .thread t .next → w.place t = .sized → ∀ i, i ≠ t → w.place i ≠ .unpooled

/-- Either nothing is in use and one thread at most is about to make a pool, or one thread answers
for everything and no other one gets past the slot. -/
def Exclusive (w : World) : Prop :=
  (Released w.shared ∧ (∀ i, (w.place i).held = none) ∧
      ∀ i j, w.place i = .unpooled → w.place j = .unpooled → i = j) ∨
    ∃ t buffers channel, Owned t (w.place t) w.shared buffers channel ∧
      ∀ i, i ≠ t → (w.place i).held = none ∧ w.place i ≠ .unpooled

structure CaptureInv (w : World) : Prop where
  sound : Sound w.shared.driver
  later : ∀ t, w.nextThread ≤ t → w.place t = .absent
  exclusive : Exclusive w

theorem captureInv_start : CaptureInv {} := by
  refine ⟨⟨rfl, fun _ hb => absurd hb List.not_mem_nil, List.nodup_nil⟩, fun _ _ => rfl, .inl ?_⟩
  exact ⟨⟨rfl, rfl, rfl, rfl, rfl⟩, fun _ => rfl, nofun⟩

section Step

variable {w w' : World}

theorem absent_step {t : Nat} {ev : Event} {s : Shared} :
    Place.step t .absent ev s = none := rfl

theorem threadStep_inv {t : Nat} {ev : Event} {p : Place} {s : Shared} (h : CaptureInv w)
    (hcalm : Calm w (.thread t ev)) (hstep : (w.place t).step t ev w.shared = some (p, s)) :
    CaptureInv { w with place := Function.update w.place t p, shared := s } := by
  have hmoved : Function.update w.place t p t = p := Function.update_self t p w.place
  have hother : ∀ i, i ≠ t → Function.update w.place t p i = w.place i :=
    fun i hi => Function.update_of_ne hi p w.place
  have hlater : ∀ i, w.nextThread ≤ i → Function.update w.place t p i = .absent := by
    intro i hi
    by_cases heq : i = t
    · subst heq
      rw [h.later i hi, absent_step] at hstep
      cases hstep
    · rw [hother i heq]
      exact h.later i hi
  have hout : (w.place t).held = none → CaptureInv
      { w with place := Function.update w.place t p, shared := s } := by
    intro hheld
    obtain ⟨hp, rfl, hfound⟩ | ⟨hfrom, rfl, rfl⟩ := step_outside hheld hstep
    · refine ⟨h.sound, hlater, ?_⟩
      obtain ⟨hreleased, hnone, hone⟩ | ⟨o, buffers, channel, howned, hrest⟩ := h.exclusive
      · refine .inl ⟨hreleased, ?_, ?_⟩
        · intro i
          show (Function.update w.place t p i).held = none
          by_cases heq : i = t
          · rw [heq, hmoved]
            exact hp
          · rw [hother i heq]
            exact hnone i
        · have honly : p = .unpooled → ∀ i, i ≠ t → w.place i ≠ .unpooled := by
            intro hpu
            obtain ⟨rfl, hsized, -⟩ := hfound hpu
            exact hcalm t rfl hsized
          intro i j hi hj
          change Function.update w.place t p i = _ at hi
          change Function.update w.place t p j = _ at hj
          by_cases hit : i = t
          · by_cases hjt : j = t
            · rw [hit, hjt]
            · rw [hit, hmoved] at hi
              rw [hother j hjt] at hj
              exact absurd hj (honly hi j hjt)
          · by_cases hjt : j = t
            · rw [hjt, hmoved] at hj
              rw [hother i hit] at hi
              exact absurd hi (honly hj i hit)
            · rw [hother i hit] at hi
              rw [hother j hjt] at hj
              exact hone i j hi hj
      · have hto : o ≠ t := by
          intro heq
          have hheld' := howned.held
          rw [heq, hheld] at hheld'
          cases hheld'
        refine .inr ⟨o, buffers, channel, ?_, ?_⟩
        · show Owned o (Function.update w.place t p o) _ buffers channel
          rw [hother o hto]
          exact howned
        · intro i hi
          show (Function.update w.place t p i).held = none ∧ Function.update w.place t p i ≠ _
          by_cases heq : i = t
          · rw [heq, hmoved]
            refine ⟨hp, fun hpu => ?_⟩
            obtain ⟨-, -, hslot⟩ := hfound hpu
            obtain ⟨pool, hpool, -⟩ := howned.pool
            rw [hslot] at hpool
            cases hpool
          · rw [hother i heq]
            exact hrest i hi
    · obtain ⟨hreleased, hnone, hone⟩ | ⟨o, buffers, channel, howned, hrest⟩ := h.exclusive
      · obtain ⟨hsound, howned⟩ := hreleased.storePool (t := t) h.sound
        refine ⟨hsound, hlater, .inr ⟨t, [], .absent, ?_, ?_⟩⟩
        · show Owned t (Function.update w.place t _ t) _ [] .absent
          rw [hmoved]
          exact howned
        · intro i hi
          show (Function.update w.place t _ i).held = none ∧ Function.update w.place t _ i ≠ _
          rw [hother i hi]
          exact ⟨hnone i, fun hu => hi (hone i t hu hfrom)⟩
      · have hto : t ≠ o := by
          intro heq
          have hheld' := howned.held
          rw [← heq, hheld] at hheld'
          cases hheld'
        exact absurd hfrom (hrest t hto).2
  cases hheld : (w.place t).held with
  | none => exact hout hheld
  | some held =>
      obtain ⟨-, hnone, -⟩ | ⟨o, buffers, channel, howned, hrest⟩ := h.exclusive
      · rw [hnone t] at hheld
        cases hheld
      · have hto : o = t := by
          by_contra hne
          rw [(hrest t (Ne.symm hne)).1] at hheld
          cases hheld
        subst hto
        obtain ⟨hsound, ⟨buffers', channel', howned'⟩ | ⟨⟨hp, hpu⟩, hreleased⟩⟩ :=
          step_holds howned h.sound hstep
        · refine ⟨hsound, hlater, .inr ⟨o, buffers', channel', ?_, ?_⟩⟩
          · show Owned o (Function.update w.place o p o) _ buffers' channel'
            rw [hmoved]
            exact howned'
          · intro i hi
            show (Function.update w.place o p i).held = none ∧ Function.update w.place o p i ≠ _
            rw [hother i hi]
            exact hrest i hi
        · have hall : ∀ i, (Function.update w.place o p i).held = none ∧
              Function.update w.place o p i ≠ .unpooled := by
            intro i
            by_cases heq : i = o
            · rw [heq, hmoved]
              exact ⟨hp, hpu⟩
            · rw [hother i heq]
              exact hrest i heq
          exact ⟨hsound, hlater,
            .inl ⟨hreleased, fun i => (hall i).1, fun i _ hi _ => absurd hi (hall i).2⟩⟩

theorem CaptureInv.beside (h : CaptureInv w) (hshared : Beside w.shared w'.shared)
    (hplace : w'.place = w.place) (hnext : w'.nextThread = w.nextThread) : CaptureInv w' := by
  refine ⟨?_, ?_, ?_⟩
  · rw [hshared.driver]
    exact h.sound
  · rw [hplace, hnext]
    exact h.later
  · unfold Exclusive
    rw [hplace]
    obtain ⟨hreleased, hrest⟩ | ⟨t, buffers, channel, howned, hrest⟩ := h.exclusive
    · exact .inl ⟨hshared.released hreleased, hrest⟩
    · exact .inr ⟨t, buffers, channel, hshared.owned howned, hrest⟩

theorem CaptureInv.spawn (h : CaptureInv w) :
    CaptureInv { w with
      place := Function.update w.place w.nextThread .head, nextThread := w.nextThread + 1 } := by
  have hnew : Function.update w.place w.nextThread .head w.nextThread = .head :=
    Function.update_self _ _ _
  have hother : ∀ i, i ≠ w.nextThread → Function.update w.place w.nextThread .head i = w.place i :=
    fun i hi => Function.update_of_ne hi _ _
  have habsent : w.place w.nextThread = .absent := h.later _ (Nat.le_refl _)
  have heither : ∀ i, Function.update w.place w.nextThread .head i = w.place i ∨
      i = w.nextThread ∧ Function.update w.place w.nextThread .head i = .head := by
    intro i
    by_cases heq : i = w.nextThread
    · rw [heq]
      exact .inr ⟨rfl, hnew⟩
    · exact .inl (hother i heq)
  have hunpooled : ∀ i, Function.update w.place w.nextThread .head i = .unpooled →
      w.place i = .unpooled := by
    intro i hi
    obtain hsame | ⟨-, hhead⟩ := heither i
    · exact hsame ▸ hi
    · rw [hhead] at hi
      cases hi
  have hheld : ∀ i, (w.place i).held = none →
      (Function.update w.place w.nextThread .head i).held = none := by
    intro i hi
    obtain hsame | ⟨-, hhead⟩ := heither i
    · rw [hsame]
      exact hi
    · rw [hhead]
      rfl
  refine ⟨h.sound, ?_, ?_⟩
  · intro i hi
    have hlt : w.nextThread < i := hi
    show Function.update w.place w.nextThread .head i = .absent
    rw [hother i (by omega)]
    exact h.later i (Nat.le_of_lt hlt)
  · obtain ⟨hreleased, hnone, hone⟩ | ⟨t, buffers, channel, howned, hrest⟩ := h.exclusive
    · exact .inl ⟨hreleased, fun i => hheld i (hnone i),
        fun i j hi hj => hone i j (hunpooled i hi) (hunpooled j hj)⟩
    · have ht : t ≠ w.nextThread := by
        intro heq
        have hheld' := howned.held
        rw [heq, habsent] at hheld'
        cases hheld'
      refine .inr ⟨t, buffers, channel, ?_, fun i hi => ⟨hheld i (hrest i hi).1, ?_⟩⟩
      · show Owned t (Function.update w.place w.nextThread .head t) _ buffers channel
        rw [hother t ht]
        exact howned
      · exact fun hu => (hrest i hi).2 (hunpooled i hu)

theorem controlStep_inv {who : Who} (hwho : ∀ t, who ≠ .thread t) {c c' : Control}
    {ev : ControlEvent} (h : CaptureInv w) (hstep : controlStep who w c ev = some (c', w')) :
    CaptureInv w' := by
  unfold controlStep at hstep
  split at hstep
  case h_1 =>
    split at hstep
    · cases hstep
      exact h
    · cases hstep
  case h_2 =>
    cases hstep
    exact h.spawn
  case h_3 t =>
    split at hstep
    · cases hstep
      exact h.beside (.refl _) rfl rfl
    · cases hstep
  case h_4 =>
    split at hstep
    · cases hstep
      exact h.beside (.refl _) rfl rfl
    · cases hstep
  case h_5 t =>
    split at hstep
    · cases hstep
      exact h
    · cases hstep
  case h_6 t =>
    cases hstep
    exact h
  case h_7 =>
    cases hstep
    have hsame : Beside w.shared { w.shared with vencRunning := false } :=
      beside_of_readers rfl rfl (fun _ hr => hr) rfl rfl
    exact h.beside hsame rfl rfl
  case h_8 =>
    obtain ⟨r, htake, hgo⟩ := Option.map_eq_some_iff.mp hstep
    cases hgo
    exact h.beside (beside_takeReader htake) rfl rfl
  case h_9 =>
    obtain ⟨s, hjoin, hgo⟩ := Option.map_eq_some_iff.mp hstep
    cases hgo
    exact h.beside (beside_joined hwho hjoin) rfl rfl
  case h_10 => cases hstep

theorem CaptureInv.channel_of_readers (h : CaptureInv w) (hreaders : w.shared.readers ≠ []) :
    w.shared.driver.channel ≠ .absent := by
  obtain ⟨hreleased, -⟩ | ⟨t, buffers, channel, howned, -⟩ := h.exclusive
  · exact absurd hreleased.readers hreaders
  · rw [howned.channel]
    have hheld := howned.held
    have hplace := howned.readers
    revert hheld hplace
    cases w.place t with
    | pooled | unpooling | buffered _ | switchingOff _ | releasing _ =>
        exact fun _ hnone => absurd hnone hreaders
    | absent | head | opening | opened | sized | unpooled => exact fun hnone _ => nomatch hnone
    | created _ | taking _ _ | joining _ _ | destroying _ _ =>
        intro hheld _
        cases hheld
        nofun
    | receiving _ | marked _ | spawned _ _ | encoding _ | streaming _ | dequeued _ _ | sent _ _
    | requeuing _ _ | stopping _ _ | halting _ _ =>
        intro hheld _
        cases hheld
        nofun

theorem step_inv {a : Act} (h : CaptureInv w) (hcalm : Calm w a) (hstep : step w a = some w') :
    CaptureInv w' := by
  cases a with
  | thread t ev =>
      obtain ⟨⟨p, s⟩, hrun, hgo⟩ := Option.map_eq_some_iff.mp hstep
      cases hgo
      exact threadStep_inv h hcalm hrun
  | reader r last =>
      change (if r ∈ w.shared.readers then _ else none) = _ at hstep
      split at hstep
      · next hr =>
          cases last with
          | true =>
              cases hstep
              have hfewer : Beside w.shared
                  { w.shared with readers := w.shared.readers.filter (· ≠ r) } :=
                beside_of_readers rfl rfl (List.filter_subset_self _) rfl rfl
              exact h.beside hfewer rfl rfl
          | false =>
              cases hstep
              have hchannel := h.channel_of_readers (List.ne_nil_of_mem hr)
              have hsame : Beside w.shared w.shared.getStream := by
                rw [Shared.getStream, if_neg hchannel]
                exact .refl _
              exact h.beside hsame rfl rfl
      · cases hstep
  | hpd ev =>
      obtain ⟨⟨c, w₁⟩, hrun, hgo⟩ := Option.map_eq_some_iff.mp hstep
      cases hgo
      have hwho : ∀ t, Who.hpd ≠ .thread t := fun _ => nofun
      exact (controlStep_inv hwho h hrun).beside (.refl _) rfl rfl
  | shutdown ev =>
      cases ev with
      | start => cases hstep
      | stop | timedOut | next =>
          obtain ⟨⟨c, w₁⟩, hrun, hgo⟩ := Option.map_eq_some_iff.mp hstep
          cases hgo
          have hwho : ∀ t, Who.shutdown ≠ .thread t := fun _ => nofun
          exact (controlStep_inv hwho h hrun).beside (.refl _) rfl rfl

end Step

/-- However many stream threads run, and whatever the driver answers: no call is made on something
that is not there, nothing is given back twice, one thread at most holds a pool with its blocks
and the encoder, and when none does nothing is left in use. -/
theorem capture_exclusive {w : World} (h : Run.Reach step Calm {} w) :
    w.shared.driver.misused = false ∧
      (∀ i j, (w.place i).Inside → (w.place j).Inside → i = j) ∧
      ((∀ i, ¬ (w.place i).Inside) → Released w.shared) ∧
      (w.shared.readers ≠ [] → w.shared.driver.channel ≠ .absent) := by
  have hinv : CaptureInv w := h.invariant captureInv_start fun _ _ _ hs hok hrun =>
    step_inv hs hok hrun
  refine ⟨hinv.sound.misused, ?_, ?_, hinv.channel_of_readers⟩
  · intro i j hi hj
    obtain ⟨-, hnone, -⟩ | ⟨t, _, _, -, hrest⟩ := hinv.exclusive
    · exact absurd (hnone i) hi
    · have heq : ∀ k, (w.place k).Inside → k = t := by
        intro k hk
        by_contra hne
        exact hk (hrest k hne).1
      rw [heq i hi, heq j hj]
  · intro hnone
    obtain ⟨hreleased, -⟩ | ⟨t, _, _, howned, -⟩ := hinv.exclusive
    · exact hreleased
    · have hheld := howned.held
      rw [not_not.mp (hnone t)] at hheld
      cases hheld

/-! ## Stops that wait -/

/-- Each stop waits until its thread has ended. -/
def InTime (_ : World) (a : Act) : Prop := a ≠ .hpd .timedOut ∧ a ≠ .shutdown .timedOut

/-- The thread that a task answers for; one that is about to be spawned has no number yet. -/
def Control.charge : Control → List (Option Nat)
  | .starting => [none]
  | .storing t | .waiting t => [some t]
  | _ => []

def slotCharge : Option Nat → List (Option Nat)
  | some t => [some t]
  | none => []

/-- There is one thread at most, and the slot or one of the two tasks answers for it. -/
structure Sole (slot : Option Nat) (c other : Control) (place : Nat → Place) : Prop where
  one : (slotCharge slot).length + c.charge.length + other.charge.length ≤ 1
  alive : ∀ t, place t ≠ .absent →
    some t ∈ slotCharge slot ∨ some t ∈ c.charge ∨ some t ∈ other.charge

section Sole

variable {slot : Option Nat} {c c' other : Control} {place : Nat → Place} {w w' : World}

theorem Sole.symm (h : Sole slot c other place) : Sole slot other c place := by
  have hone := h.one
  exact ⟨by omega, fun t ht => (h.alive t ht).imp_right Or.symm⟩

theorem Sole.moves (h : Sole slot c other place) {slot' : Option Nat}
    (hlength : (slotCharge slot').length + c'.charge.length ≤
      (slotCharge slot).length + c.charge.length)
    (hmem : ∀ t, some t ∈ slotCharge slot ∨ some t ∈ c.charge →
      some t ∈ slotCharge slot' ∨ some t ∈ c'.charge) : Sole slot' c' other place := by
  have hone := h.one
  refine ⟨by omega, fun t ht => ?_⟩
  obtain hslot | hc | hother := h.alive t ht
  · exact (hmem t (.inl hslot)).imp_right .inl
  · exact (hmem t (.inr hc)).imp_right .inl
  · exact .inr (.inr hother)

theorem Sole.absent (h : Sole none .starting other place) (t : Nat) : place t = .absent := by
  by_contra ht
  have hone := h.one
  obtain hslot | hc | hother := h.alive t ht
  · cases hslot
  · cases List.mem_singleton.mp hc
  · have hpos := List.length_pos_of_mem hother
    have hstart : Control.starting.charge.length = 1 := rfl
    omega

/-- A task that starts or stops the stream, without a wait that times out. -/
theorem controlStep_sole {who : Who} {ev : ControlEvent}
    (h : Sole w.streamingThread c other w.place) (hev : ev ≠ .timedOut)
    (hfree : ev = .start → w.unlocked = true → other.charge = [])
    (hstep : controlStep who w c ev = some (c', w')) :
    Sole w'.streamingThread c' other w'.place := by
  have hone := h.one
  unfold controlStep at hstep
  split at hstep
  case h_1 =>
    split at hstep
    · next hunlocked =>
        cases hstep
        cases hslot : w.streamingThread with
        | some t =>
            rw [hslot] at h
            exact h
        | none =>
            rw [hslot] at h
            have hnone := hfree rfl hunlocked
            refine ⟨?_, fun t ht => ?_⟩
            · rw [hnone]
              exact Nat.le_refl 1
            · obtain hmem | hmem | hmem := h.alive t ht
              · cases hmem
              · cases hmem
              · rw [hnone] at hmem
                cases hmem
    · cases hstep
  case h_2 =>
    cases hstep
    have hstart : Control.starting.charge.length = 1 := rfl
    cases hslot : w.streamingThread with
    | some t =>
        rw [hslot] at hone
        have hsome : (slotCharge (some t)).length = 1 := rfl
        omega
    | none =>
        rw [hslot] at h hone
        refine ⟨hone, fun t ht => .inr (.inl ?_)⟩
        by_cases heq : t = w.nextThread
        · exact heq ▸ List.mem_singleton_self _
        · change Function.update w.place w.nextThread .head t ≠ .absent at ht
          rw [Function.update_of_ne heq] at ht
          exact absurd (h.absent t) ht
  case h_3 t =>
    split at hstep
    · cases hstep
      apply h.moves
      · show 1 ≤ (slotCharge w.streamingThread).length + 1
        omega
      · intro t' ht'
        obtain hslot | hc := ht'
        · cases hold : w.streamingThread with
          | none =>
              rw [hold] at hslot
              cases hslot
          | some t₀ =>
              rw [hold] at hone
              have hsome : (slotCharge (some t₀)).length = 1 := rfl
              have hstoring : (Control.storing t).charge.length = 1 := rfl
              omega
        · exact .inl hc
    · cases hstep
  case h_4 =>
    split at hstep
    · cases hstep
      cases hslot : w.streamingThread with
      | none =>
          rw [hslot] at h
          exact h.moves (Nat.le_refl _) fun _ ht => ht
      | some t =>
          rw [hslot] at h
          exact h.moves (Nat.le_refl _) fun _ ht => ht.symm
    · cases hstep
  case h_5 t =>
    split at hstep
    · next hended =>
        cases hstep
        have hwaiting : (Control.waiting t).charge.length = 1 := rfl
        have hdrained : Control.unmarking.charge.length = 0 := rfl
        refine ⟨by omega, fun t' ht' => ?_⟩
        obtain hslot | hc | hother := h.alive t' ht'
        · exact .inl hslot
        · cases List.mem_singleton.mp hc
          exact absurd hended ht'
        · exact .inr (.inr hother)
    · cases hstep
  case h_6 t => exact absurd rfl hev
  case h_7 =>
    cases hstep
    exact h.moves (Nat.le_refl _) fun _ ht => ht
  case h_8 =>
    obtain ⟨r, -, hgo⟩ := Option.map_eq_some_iff.mp hstep
    cases hgo
    cases r.1 with
    | true => exact h.moves (Nat.le_refl _) fun _ ht => ht
    | false => exact h.moves (Nat.le_refl _) fun _ ht => ht
  case h_9 =>
    obtain ⟨s, -, hgo⟩ := Option.map_eq_some_iff.mp hstep
    cases hgo
    exact h.moves (Nat.le_refl _) fun _ ht => ht
  case h_10 => cases hstep

end Sole

/-- `shutdown` never starts the stream. -/
def NeverStarts (c : Control) : Prop := c ≠ .starting ∧ ∀ t, c ≠ .storing t

structure SoleInv (w : World) : Prop where
  sole : Sole w.streamingThread w.hpd w.shutdown w.place
  shutdown : NeverStarts w.shutdown

theorem neverStarts_step {who : Who} {c c' : Control} {ev : ControlEvent} {w w' : World}
    (h : NeverStarts c) (hev : ev ≠ .start) (hstep : controlStep who w c ev = some (c', w')) :
    NeverStarts c' := by
  unfold controlStep at hstep
  split at hstep
  case h_1 => exact absurd rfl hev
  case h_2 => exact absurd rfl h.1
  case h_3 t => exact absurd rfl (h.2 t)
  case h_4 =>
    split at hstep
    · cases hstep
      cases w.streamingThread with
      | none => exact ⟨nofun, nofun⟩
      | some t => exact ⟨nofun, nofun⟩
    · cases hstep
  case h_5 t =>
    split at hstep
    · cases hstep
      exact ⟨nofun, nofun⟩
    · cases hstep
  case h_8 =>
    obtain ⟨r, -, hgo⟩ := Option.map_eq_some_iff.mp hstep
    cases hgo
    cases r.1 with
    | true => exact ⟨nofun, nofun⟩
    | false => exact ⟨nofun, nofun⟩
  case h_9 =>
    obtain ⟨s, -, hgo⟩ := Option.map_eq_some_iff.mp hstep
    cases hgo
    exact ⟨nofun, nofun⟩
  case h_10 => cases hstep
  all_goals
    cases hstep
    exact ⟨nofun, nofun⟩

theorem charge_of_neverStarts {c : Control} (h : NeverStarts c) (hwaiting : c.isWaiting = false) :
    c.charge = [] := by
  cases c with
  | starting => exact absurd rfl h.1
  | storing t => exact absurd rfl (h.2 t)
  | waiting t => cases hwaiting
  | idle | unmarking | draining | joining => rfl

theorem controlStep_keeps {who : Who} {c c' : Control} {ev : ControlEvent} {w w' : World}
    (hstep : controlStep who w c ev = some (c', w')) : w'.hpd = w.hpd ∧ w'.shutdown = w.shutdown := by
  unfold controlStep at hstep
  split at hstep
  case h_8 | h_9 =>
    obtain ⟨r, -, hgo⟩ := Option.map_eq_some_iff.mp hstep
    cases hgo
    exact ⟨rfl, rfl⟩
  case h_10 => cases hstep
  all_goals try split at hstep
  all_goals first
    | cases hstep; exact ⟨rfl, rfl⟩
    | cases hstep

theorem soleInv_step {w w' : World} {a : Act} (h : SoleInv w) (hin : InTime w a)
    (hstep : step w a = some w') : SoleInv w' := by
  cases a with
  | thread t ev =>
      obtain ⟨⟨p, s⟩, hrun, hgo⟩ := Option.map_eq_some_iff.mp hstep
      cases hgo
      refine ⟨⟨h.sole.one, fun i hi => h.sole.alive i fun hgone => hi ?_⟩, h.shutdown⟩
      have hi' : i ≠ t := by
        intro heq
        rw [heq] at hgone
        rw [hgone, absent_step] at hrun
        cases hrun
      show Function.update w.place t p i = .absent
      rw [Function.update_of_ne hi', hgone]
  | reader r last =>
      change (if r ∈ w.shared.readers then _ else none) = _ at hstep
      split at hstep
      · cases last with
        | true =>
            cases hstep
            exact ⟨h.sole, h.shutdown⟩
        | false =>
            cases hstep
            exact ⟨h.sole, h.shutdown⟩
      · cases hstep
  | hpd ev =>
      obtain ⟨⟨c, w₁⟩, hrun, hgo⟩ := Option.map_eq_some_iff.mp hstep
      cases hgo
      have hkeeps := (controlStep_keeps hrun).2
      have hev : ev ≠ .timedOut := fun heq => hin.1 (heq ▸ rfl)
      have hsole := controlStep_sole h.sole hev (fun _ hunlocked => by
        apply charge_of_neverStarts h.shutdown
        unfold World.unlocked at hunlocked
        simpa using (Bool.and_eq_true_iff.mp hunlocked).2) hrun
      constructor
      · show Sole w₁.streamingThread c w₁.shutdown w₁.place
        rw [hkeeps]
        exact hsole
      · show NeverStarts w₁.shutdown
        rw [hkeeps]
        exact h.shutdown
  | shutdown ev =>
      cases ev with
      | start => cases hstep
      | timedOut => exact absurd rfl hin.2
      | stop | next =>
          obtain ⟨⟨c, w₁⟩, hrun, hgo⟩ := Option.map_eq_some_iff.mp hstep
          cases hgo
          have hkeeps := (controlStep_keeps hrun).1
          have hsole : Sole w₁.streamingThread c w.hpd w₁.place := by
            refine controlStep_sole h.sole.symm ?_ ?_ hrun
            · nofun
            · nofun
          constructor
          · show Sole w₁.streamingThread w₁.hpd c w₁.place
            rw [hkeeps]
            exact hsole.symm
          · refine neverStarts_step h.shutdown ?_ hrun
            nofun

theorem soleInv_start : SoleInv {} :=
  ⟨⟨Nat.zero_le 1, fun _ ht => absurd rfl ht⟩, nofun, nofun⟩

theorem Sole.unique {slot : Option Nat} {c other : Control} {place : Nat → Place}
    (h : Sole slot c other place) {i j : Nat} (hi : place i ≠ .absent) (hj : place j ≠ .absent) :
    i = j := by
  have hone := h.one
  have hlength : (slotCharge slot ++ c.charge ++ other.charge).length ≤ 1 := by
    rw [List.length_append, List.length_append]
    exact hone
  have hmem : ∀ t, place t ≠ .absent → some t ∈ slotCharge slot ++ c.charge ++ other.charge := by
    intro t ht
    rw [List.mem_append, List.mem_append, or_assoc]
    exact h.alive t ht
  have heq : ∀ l : List (Option Nat), l.length ≤ 1 → some i ∈ l → some j ∈ l → i = j := by
    intro l hl hil hjl
    match l, hl with
    | [o], _ =>
        rw [List.mem_singleton] at hil hjl
        exact Option.some.inj (hil.trans hjl.symm)
  exact heq _ hlength (hmem i hi) (hmem j hj)

theorem SoleInv.calm {w : World} (h : SoleInv w) (a : Act) : Calm w a := by
  intro t _ hsized i hi hunpooled
  apply hi
  apply h.sole.unique
  · rw [hunpooled]
    nofun
  · rw [hsized]
    nofun

theorem calm_of_inTime {w : World} (h : Run.Reach step InTime {} w) :
    Run.Reach step Calm {} w ∧ SoleInv w := by
  induction h with
  | refl => exact ⟨.refl, soleInv_start⟩
  | tail _ hok hrun ih => exact ⟨ih.1.tail (ih.2.calm _) hrun, soleInv_step ih.2 hok hrun⟩

/-- While stops wait for their threads, there is one stream thread at most; and once the slot is
empty and no start or stop is on its way, no thread is left and nothing is in use. -/
theorem capture_stopped {w : World} (h : Run.Reach step InTime {} w) :
    (∀ i j, w.place i ≠ .absent → w.place j ≠ .absent → i = j) ∧
      w.shared.driver.misused = false ∧
      (w.streamingThread = none → w.hpd.charge = [] → w.shutdown.charge = [] →
        (∀ i, w.place i = .absent) ∧ Released w.shared) := by
  obtain ⟨hcalm, hsole⟩ := calm_of_inTime h
  have hinv : CaptureInv w := hcalm.invariant captureInv_start fun _ _ _ hs hok hrun =>
    step_inv hs hok hrun
  refine ⟨fun i j => hsole.sole.unique, hinv.sound.misused, fun hslot hhpd hshutdown => ?_⟩
  have hall : ∀ i, w.place i = .absent := by
    intro i
    by_contra hi
    obtain hmem | hmem | hmem := hsole.sole.alive i hi
    · rw [hslot] at hmem
      cases hmem
    · rw [hhpd] at hmem
      cases hmem
    · rw [hshutdown] at hmem
      cases hmem
  refine ⟨hall, ?_⟩
  obtain ⟨hreleased, -⟩ | ⟨t, _, _, howned, -⟩ := hinv.exclusive
  · exact hreleased
  · have hheld := howned.held
    rw [hall t] at hheld
    cases hheld

def grants : RequestIo where
  granted := some 2
  buffer _ := ⟨some 4147200, true, some 7⟩
  queued _ := true

def toFirstFrame (t : Nat) : List Act :=
  [.detected, .call true, .call true, .next, .call true, .request grants, .call true, .call true,
    .next, .next, .next, .call true, .dequeue 0, .call true].map (Act.thread t)

def inTime : World → Act → Bool
  | _, .hpd .timedOut | _, .shutdown .timedOut => false
  | _, _ => true

theorem inTime_sound (w : World) (a : Act) (h : inTime w a = true) : InTime w a := by
  constructor
  · rintro rfl
    cases h
  · rintro rfl
    cases h

def frameThenStop : List Act :=
  [.hpd .start, .hpd .next, .hpd .next] ++ toFirstFrame 0 ++ [.hpd .stop]

def cleansUp : List Act :=
  [.next, .call true, .flagged, .next, .next, .next].map (Act.thread 0) ++ [.reader 0 true] ++
    [.next, .next, .call true, .call true, .next, .flagged].map (Act.thread 0) ++
    [.hpd .next, .hpd .next, .hpd .next]

theorem capture_stopped_frameThenStop :
    ∃ w : World, w.nextThread = 1 ∧ (∀ i, w.place i = .absent) ∧ Released w.shared := by
  have hrun : (Run.exec step inTime {} (frameThenStop ++ cleansUp)).map
      (fun w => (w.nextThread, w.streamingThread, w.hpd, w.shutdown)) =
        some (1, none, .idle, .idle) := by decide +kernel
  obtain ⟨w, hreach, hw⟩ := Run.exists_reach_of_exec inTime_sound hrun
  simp only [Prod.mk.injEq] at hw
  obtain ⟨hthreads, hslot, hhpd, hshutdown⟩ := hw
  refine ⟨w, hthreads, (capture_stopped hreach).2.2 hslot ?_ ?_⟩
  · rw [hhpd]
    rfl
  · rw [hshutdown]
    rfl

def stopping : World := (Run.exec step inTime {} frameThenStop).get (by decide +kernel)

def looksAway (w : World) : Act → Bool
  | .thread t .next => decide (w.place t ≠ .sized)
  | _ => true

theorem looksAway_sound (w : World) (a : Act) (h : looksAway w a = true) : Calm w a := by
  rintro t rfl hsized
  exact absurd hsized (of_decide_eq_true h)

/-- The stop times out while thread 0 has a frame in hand, and a start brings a second thread. -/
def secondThread : List Act :=
  [.hpd .timedOut, .hpd .next, .hpd .next, .reader 0 true, .hpd .next,
    .hpd .start, .hpd .next, .hpd .next] ++
    [.detected, .call true, .call true].map (Act.thread 1)

theorem capture_exclusive_secondThread :
    ∃ w : World, w.place 0 ≠ .absent ∧ w.place 1 = .sized ∧ (w.place 0).Inside ∧
      ∀ i, (w.place i).Inside → i = 0 := by
  have hstop : Run.Reach step Calm {} stopping :=
    (calm_of_inTime (Run.reach_of_exec inTime_sound (Option.some_get _).symm)).1
  have hrun : (Run.exec step looksAway stopping secondThread).map
      (fun w => (w.place 0, w.place 1)) =
        some (.sent [⟨7, 4147200, some ⟨0, 1⟩⟩, ⟨7, 4147200, some ⟨0, 2⟩⟩] 0, .sized) := by
    decide +kernel
  obtain ⟨w, hreach, hw⟩ := Run.exists_reach_of_exec looksAway_sound hrun
  simp only [Prod.mk.injEq] at hw
  obtain ⟨hfirst, hsecond⟩ := hw
  have hinside : (w.place 0).Inside := by
    rw [hfirst]
    nofun
  refine ⟨w, ?_, hsecond, hinside, fun i hi => ?_⟩
  · rw [hfirst]
    nofun
  · exact (capture_exclusive (hstop.trans hreach)).2.1 i 0 hi hinside

end ArkKvm.Hdmi
