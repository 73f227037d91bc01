import ArkKvm.Lib.Pool

/-!
# Tasks behind a start flag

A starter reads a flag, sets it when it was clear, and spawns a task that clears it at its
end.  Reading and setting are two steps, so two starters can pass the flag at once; when none
does, there is at most one task.
-/

namespace ArkKvm.Lib

inductive StartPhase
  | load
  | store
  | spawn
deriving DecidableEq

/-- A flag with its starters and tasks; a starter carries what its task is made from. -/
structure StartFlag (α τ : Type) where
  flag : Bool
  starters : List (StartPhase × α)
  tasks : List τ

namespace StartFlag

variable {α τ : Type}

def clear : StartFlag α τ := ⟨false, [], []⟩

def call (a : α) (s : StartFlag α τ) : StartFlag α τ :=
  { s with starters := (.load, a) :: s.starters }

def startNext (mk : α → τ) (x : StartPhase × α) (s : StartFlag α τ) : StartFlag α τ :=
  match x with
  | (.load, a) => if s.flag then s else { s with starters := (.store, a) :: s.starters }
  | (.store, a) => { s with
      flag := true
      starters := (.spawn, a) :: s.starters }
  | (.spawn, a) => { s with tasks := mk a :: s.tasks }

/-- The next step of the `i`-th starter. -/
def start (mk : α → τ) (i : Nat) (s : StartFlag α τ) : Option (StartFlag α τ) :=
  (Pool.pick i s.starters).map fun x => startNext mk x.1 { s with starters := x.2 }

/-- The `i`-th starter passes the flag only when no other one has passed it and not set it. -/
def PassesAlone (i : Nat) (s : StartFlag α τ) : Prop :=
  ∀ x ∈ Pool.pick i s.starters, x.1.1 = .load → s.flag = false → ∀ y ∈ x.2, y.1 ≠ .store

instance (i : Nat) (s : StartFlag α τ) : Decidable (s.PassesAlone i) :=
  inferInstanceAs (Decidable (∀ x ∈ Pool.pick i s.starters, _))

theorem start_mem {s s' : StartFlag α τ} {mk : α → τ} {i : Nat} (hs : s.start mk i = some s') :
    s.starters ≠ [] ∧ (∀ x ∈ s'.starters, ∃ y ∈ s.starters, y.2 = x.2) ∧
      ∀ t ∈ s'.tasks, t ∈ s.tasks ∨ ∃ y ∈ s.starters, t = mk y.2 := by
  obtain ⟨⟨⟨phase, a⟩, rest⟩, hpick, rfl⟩ := Option.map_eq_some_iff.mp hs
  obtain ⟨hself, hrest⟩ := Pool.mem_of_pick hpick
  have hkept : ∀ x ∈ rest, ∃ y ∈ s.starters, y.2 = x.2 := fun x hx => ⟨x, hrest x hx, rfl⟩
  have hmoved : ∀ phase', ∀ x ∈ (phase', a) :: rest, ∃ y ∈ s.starters, y.2 = x.2 := by
    intro phase' x hx
    rcases List.mem_cons.mp hx with rfl | hx
    · exact ⟨_, hself, rfl⟩
    · exact hkept x hx
  refine ⟨List.ne_nil_of_mem hself, ?_⟩
  cases phase with
  | load =>
      unfold startNext
      dsimp only
      by_cases hflag : s.flag = true
      · rw [if_pos hflag]
        exact ⟨hkept, fun t ht => .inl ht⟩
      · rw [if_neg hflag]
        exact ⟨hmoved .store, fun t ht => .inl ht⟩
  | store => exact ⟨hmoved .spawn, fun t ht => .inl ht⟩
  | spawn =>
      refine ⟨hkept, fun t ht => ?_⟩
      rcases List.mem_cons.mp ht with rfl | ht
      · exact .inr ⟨_, hself, rfl⟩
      · exact .inl ht

theorem tasks_subset_start {s s' : StartFlag α τ} {mk : α → τ} {i : Nat}
    (hs : s.start mk i = some s') : ∀ t ∈ s.tasks, t ∈ s'.tasks := by
  obtain ⟨⟨⟨phase, a⟩, rest⟩, -, rfl⟩ := Option.map_eq_some_iff.mp hs
  intro t ht
  cases phase with
  | load =>
      unfold startNext
      dsimp only
      by_cases hflag : s.flag = true
      · rw [if_pos hflag]
        exact ht
      · rw [if_neg hflag]
        exact ht
  | store => exact ht
  | spawn => exact List.mem_cons_of_mem (mk a) ht

structure AtMostOne (s : StartFlag α τ) : Prop where
  holders : s.tasks.length + s.starters.countP (·.1 = .spawn) = if s.flag then 1 else 0
  passed : s.starters.countP (·.1 = .store) ≤ if s.flag then 0 else 1

theorem atMostOne_clear : AtMostOne (clear : StartFlag α τ) := ⟨rfl, Nat.zero_le _⟩

namespace AtMostOne

variable {s : StartFlag α τ}

theorem length_tasks_le (h : AtMostOne s) : s.tasks.length ≤ 1 := by
  have hholders := h.holders
  split at hholders
  · omega
  · omega

theorem call (h : AtMostOne s) (a : α) : AtMostOne (s.call a) := by
  constructor
  · show s.tasks.length + ((StartPhase.load, a) :: s.starters).countP (·.1 = .spawn) = _
    rw [List.countP_cons]
    exact h.holders
  · show ((StartPhase.load, a) :: s.starters).countP (·.1 = .store) ≤ _
    rw [List.countP_cons]
    exact h.passed

theorem start (h : AtMostOne s) {mk : α → τ} {i : Nat} {s' : StartFlag α τ}
    (halone : PassesAlone i s) (hs : s.start mk i = some s') : AtMostOne s' := by
  obtain ⟨⟨⟨phase, a⟩, rest⟩, hpick, rfl⟩ := Option.map_eq_some_iff.mp hs
  have hspawn := Pool.countP_of_pick (fun y => y.1 = .spawn) hpick
  have hstore := Pool.countP_of_pick (fun y => y.1 = .store) hpick
  have hholders := h.holders
  have hpassed := h.passed
  rw [hspawn] at hholders
  rw [hstore] at hpassed
  cases phase with
  | load =>
      simp only [reduceCtorEq, decide_false, Bool.false_eq_true, if_false, Nat.add_zero]
        at hholders hpassed
      unfold startNext
      dsimp only
      by_cases hflag : s.flag = true
      · rw [if_pos hflag]
        exact ⟨hholders, hpassed⟩
      · rw [if_neg hflag]
        have hfalse := Bool.eq_false_iff.mpr hflag
        have hnone : rest.countP (fun y => y.1 = .store) = 0 := by
          rw [List.countP_eq_zero]
          intro y hy heq
          exact halone _ hpick rfl hfalse y hy (of_decide_eq_true heq)
        constructor
        · show s.tasks.length + ((StartPhase.store, a) :: rest).countP (·.1 = .spawn) = _
          rw [List.countP_cons]
          exact hholders
        · show ((StartPhase.store, a) :: rest).countP (·.1 = .store) ≤ if s.flag then 0 else 1
          rw [List.countP_cons, hnone, hfalse]
          exact Nat.le_refl 1
  | store =>
      simp only [reduceCtorEq, decide_false, decide_true, Bool.false_eq_true, if_false, if_true,
        Nat.add_zero] at hholders hpassed
      have hfalse : s.flag = false := by
        by_contra hflag
        rw [if_pos (Bool.eq_true_of_not_eq_false hflag)] at hpassed
        omega
      rw [hfalse] at hholders hpassed
      simp only [Bool.false_eq_true, if_false] at hholders hpassed
      constructor
      · show s.tasks.length + ((StartPhase.spawn, a) :: rest).countP (·.1 = .spawn) = 1
        simp only [List.countP_cons, decide_true, if_true]
        omega
      · show ((StartPhase.spawn, a) :: rest).countP (·.1 = .store) ≤ 0
        simp only [List.countP_cons, reduceCtorEq, decide_false, Bool.false_eq_true, if_false]
        omega
  | spawn =>
      simp only [reduceCtorEq, decide_false, decide_true, Bool.false_eq_true, if_false, if_true,
        Nat.add_zero] at hholders hpassed
      constructor
      · show (mk a :: s.tasks).length + rest.countP (·.1 = .spawn) = if s.flag then 1 else 0
        rw [List.length_cons, ← hholders]
        omega
      · exact hpassed

theorem tasks (h : AtMostOne s) {tasks : List τ} (hlen : tasks.length = s.tasks.length) :
    AtMostOne { s with tasks := tasks } :=
  ⟨by rw [← h.holders, ← hlen], h.passed⟩

theorem only (h : AtMostOne s) {i : Nat} {t : τ} {rest : List τ}
    (hpick : Pool.pick i s.tasks = some (t, rest)) : s.tasks = [t] ∧ rest = [] := by
  have hlen := Pool.length_of_pick hpick
  have hle := h.length_tasks_le
  have hrest : rest = [] := List.length_eq_zero_iff.mp (by omega)
  obtain ⟨hsplit, hothers⟩ := Pool.pick_split hpick
  rw [hrest] at hothers
  obtain ⟨hbefore, hafter⟩ := List.append_eq_nil_iff.mp hothers.symm
  rw [hbefore, hafter] at hsplit
  exact ⟨hsplit, hrest⟩

theorem finish (h : AtMostOne s) {i : Nat} {t : τ} {rest : List τ}
    (hpick : Pool.pick i s.tasks = some (t, rest)) :
    AtMostOne { s with
      flag := false
      tasks := rest } := by
  have hlen := Pool.length_of_pick hpick
  have hholders := h.holders
  have hpassed := h.passed
  have hrest := (h.only hpick).2
  by_cases hflag : s.flag = true
  · rw [if_pos hflag] at hholders hpassed
    constructor
    · show rest.length + s.starters.countP (·.1 = .spawn) = 0
      rw [hrest] at hlen ⊢
      simp only [List.length_nil] at hlen ⊢
      omega
    · show s.starters.countP (·.1 = .store) ≤ 1
      omega
  · rw [if_neg hflag] at hholders
    omega

end AtMostOne

end StartFlag

end ArkKvm.Lib
