import Mathlib

/-!
# The reconnect gate

A network transition closes the gate and gets a generation, with which it opens the gate
again at its end.  The generation of a transition that was superseded or released opens
nothing, as long as the 64-bit counter does not wrap.
-/

namespace ArkKvm.Cloud

structure ReconnectGate where
  generation : Nat := 0
  paused : Bool := false
deriving DecidableEq

namespace ReconnectGate

/-- `self.generation += 1` on a `u64`, as a release build computes it. -/
def nextGeneration (gate : ReconnectGate) : Nat := (gate.generation + 1) % 2 ^ 64

/-- Close the gate and return the generation that must be handed back to `endTransition`. -/
def beginTransition (gate : ReconnectGate) : ReconnectGate × Nat :=
  (⟨gate.nextGeneration, true⟩, gate.nextGeneration)

def endTransition (gate : ReconnectGate) (generation : Nat) : ReconnectGate × Bool :=
  if gate.paused ∧ generation = gate.generation then ({ gate with paused := false }, true)
  else (gate, false)

def release (gate : ReconnectGate) : ReconnectGate := ⟨gate.nextGeneration, false⟩

/-- The counter does not wrap at the next transition or release. -/
def HasNext (gate : ReconnectGate) : Prop := gate.generation + 1 < 2 ^ 64

instance (gate : ReconnectGate) : Decidable gate.HasNext := inferInstanceAs (Decidable (_ < _))

theorem nextGeneration_eq {gate : ReconnectGate} (h : gate.HasNext) :
    gate.nextGeneration = gate.generation + 1 := Nat.mod_eq_of_lt h

end ReconnectGate

/-! ## What has happened to the gate -/

/-- A transition that has begun: its number, the generation that it got, and how often the
gate had been opened before. -/
structure Transition where
  number : Nat
  generation : Nat
  openings : Nat
deriving DecidableEq

structure GateHistory where
  gate : ReconnectGate := {}
  /-- the transitions begun so far -/
  begun : Nat := 0
  /-- the most recently begun transition has been ended or released -/
  settled : Bool := false
  /-- how often the gate has been opened -/
  openings : Nat := 0
deriving DecidableEq

namespace GateHistory

def beginTransition (h : GateHistory) : GateHistory × Transition :=
  let next := h.gate.beginTransition
  ({ h with
      gate := next.1
      begun := h.begun + 1
      settled := false },
    ⟨h.begun + 1, next.2, h.openings⟩)

def endTransition (h : GateHistory) (t : Transition) : GateHistory × Bool :=
  let next := h.gate.endTransition t.generation
  ({ h with
      gate := next.1
      settled := h.settled || decide (t.number = h.begun)
      openings := if next.2 then h.openings + 1 else h.openings },
    next.2)

def release (h : GateHistory) : GateHistory :=
  { h with
    gate := h.gate.release
    settled := true
    openings := if h.gate.paused then h.openings + 1 else h.openings }

/-- The gate is closed exactly when the latest transition is neither ended nor released. -/
def Exact (h : GateHistory) : Prop := h.gate.paused = true ↔ 0 < h.begun ∧ h.settled = false

/-- What is known of a transition that has not ended. -/
structure Knows (h : GateHistory) (t : Transition) : Prop where
  generation_le : t.generation ≤ h.gate.generation
  number_le : t.number ≤ h.begun
  openings_le : t.openings ≤ h.openings
  latest : t.generation = h.gate.generation → t.number = h.begun
  current : t.number = h.begun → h.settled = false → t.generation = h.gate.generation
  closed : t.openings = h.openings → h.gate.paused = true

variable {h : GateHistory}

theorem exact_begin : h.beginTransition.1.Exact :=
  ⟨fun _ => ⟨Nat.succ_pos _, rfl⟩, fun _ => rfl⟩

theorem knows_begin : h.beginTransition.1.Knows h.beginTransition.2 where
  generation_le := Nat.le_refl _
  number_le := Nat.le_refl _
  openings_le := Nat.le_refl _
  latest _ := rfl
  current _ _ := rfl
  closed _ := rfl

theorem Knows.begin {t : Transition} (ht : h.Knows t) (hnext : h.gate.HasNext) :
    h.beginTransition.1.Knows t := by
  have hgeneration : h.beginTransition.1.gate.generation = h.gate.generation + 1 :=
    ReconnectGate.nextGeneration_eq hnext
  have hbegun : h.beginTransition.1.begun = h.begun + 1 := rfl
  have hle := ht.generation_le
  have hnumber := ht.number_le
  constructor
  · omega
  · omega
  · exact ht.openings_le
  · intro heq
    omega
  · intro heq
    omega
  · exact fun _ => rfl

theorem release_openings_le : h.openings ≤ h.release.openings := by
  show h.openings ≤ if h.gate.paused then h.openings + 1 else h.openings
  split
  · exact Nat.le_succ _
  · exact Nat.le_refl _

theorem exact_release : h.release.Exact := by
  constructor
  · intro hpaused
    cases hpaused
  · rintro ⟨-, hsettled⟩
    cases hsettled

theorem Knows.release {t : Transition} (ht : h.Knows t) (hnext : h.gate.HasNext) :
    h.release.Knows t := by
  have hgeneration : h.release.gate.generation = h.gate.generation + 1 :=
    ReconnectGate.nextGeneration_eq hnext
  have hle := ht.generation_le
  constructor
  · omega
  · exact ht.number_le
  · exact Nat.le_trans ht.openings_le release_openings_le
  · intro heq
    omega
  · intro _ hsettled
    cases hsettled
  · intro heq
    have hopenings := ht.openings_le
    have hrelease : h.release.openings = if h.gate.paused then h.openings + 1 else h.openings := rfl
    by_cases hpaused : h.gate.paused = true
    · rw [if_pos hpaused] at hrelease
      omega
    · rw [if_neg hpaused] at hrelease
      exact absurd (ht.closed (heq.trans hrelease)) hpaused

/-- The end of a transition opens the gate exactly when it is the latest one and nothing has
been released. -/
theorem Knows.opens_iff {t : Transition} (ht : h.Knows t) (hexact : h.Exact) :
    (h.endTransition t).2 = true ↔ t.number = h.begun ∧ h.gate.paused = true := by
  show (h.gate.endTransition t.generation).2 = true ↔ _
  unfold ReconnectGate.endTransition
  by_cases hopen : h.gate.paused = true ∧ t.generation = h.gate.generation
  · rw [if_pos hopen]
    exact ⟨fun _ => ⟨ht.latest hopen.2, hopen.1⟩, fun _ => rfl⟩
  · rw [if_neg hopen]
    refine ⟨nofun, fun ⟨hlatest, hpaused⟩ => ?_⟩
    exact absurd ⟨hpaused, ht.current hlatest (hexact.mp hpaused).2⟩ hopen

theorem endTransition_gate (t : Transition) :
    (h.endTransition t).1.gate =
      if (h.endTransition t).2 then { h.gate with paused := false } else h.gate := by
  show (h.gate.endTransition t.generation).1 =
    if (h.gate.endTransition t.generation).2 then { h.gate with paused := false } else h.gate
  unfold ReconnectGate.endTransition
  by_cases hopen : h.gate.paused = true ∧ t.generation = h.gate.generation
  · rw [if_pos hopen]
    rfl
  · rw [if_neg hopen]
    rfl

theorem Exact.end {t : Transition} (hexact : h.Exact) (ht : h.Knows t) :
    (h.endTransition t).1.Exact := by
  have hsettled : (h.endTransition t).1.settled = (h.settled || decide (t.number = h.begun)) := rfl
  unfold Exact
  rw [endTransition_gate, hsettled]
  by_cases hopens : (h.endTransition t).2 = true
  · rw [if_pos hopens]
    have hlatest := ((ht.opens_iff hexact).mp hopens).1
    rw [decide_eq_true hlatest, Bool.or_true]
    exact ⟨nofun, nofun⟩
  · rw [if_neg hopens]
    have hother : ¬ (t.number = h.begun ∧ h.gate.paused = true) :=
      mt (ht.opens_iff hexact).mpr hopens
    show h.gate.paused = true ↔ 0 < h.begun ∧ _
    by_cases hlatest : t.number = h.begun
    · have hopen : ¬ h.gate.paused = true := fun hpaused => hother ⟨hlatest, hpaused⟩
      rw [decide_eq_true hlatest, Bool.or_true]
      exact ⟨fun hpaused => absurd hpaused hopen, nofun⟩
    · rw [decide_eq_false hlatest, Bool.or_false]
      exact hexact

theorem Knows.end {t t' : Transition} (ht' : h.Knows t') (ht : h.Knows t) (hexact : h.Exact) :
    (h.endTransition t).1.Knows t' := by
  have hopenings : (h.endTransition t).1.openings =
    if (h.endTransition t).2 then h.openings + 1 else h.openings := rfl
  have hle := ht'.openings_le
  by_cases hopens : (h.endTransition t).2 = true
  · have hlatest := ((ht.opens_iff hexact).mp hopens).1
    have hgate := endTransition_gate (h := h) t
    rw [if_pos hopens] at hgate hopenings
    have hgeneration : (h.endTransition t).1.gate.generation = h.gate.generation := by rw [hgate]
    constructor
    · exact hgeneration ▸ ht'.generation_le
    · exact ht'.number_le
    · omega
    · exact fun heq => ht'.latest (heq.trans hgeneration)
    · intro _ hsettled
      have hor : (h.settled || decide (t.number = h.begun)) = false := hsettled
      rw [decide_eq_true hlatest, Bool.or_true] at hor
      cases hor
    · intro heq
      omega
  · have hgate := endTransition_gate (h := h) t
    rw [if_neg hopens] at hgate hopenings
    constructor
    · exact hgate ▸ ht'.generation_le
    · exact ht'.number_le
    · exact hopenings ▸ hle
    · exact fun heq => ht'.latest (heq.trans (by rw [hgate]))
    · intro hnumber hsettled
      have hor : (h.settled || decide (t.number = h.begun)) = false := hsettled
      rw [hgate]
      exact ht'.current hnumber (Bool.or_eq_false_iff.mp hor).1
    · intro heq
      rw [hgate]
      exact ht'.closed (heq.trans hopenings)

end GateHistory

end ArkKvm.Cloud
