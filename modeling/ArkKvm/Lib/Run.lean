import Mathlib

/-!
# Runs of a partial step function

A system is a partial step function `step : σ → α → Option σ`: `none` means
that the action is not enabled.  `Reach step ok init` collects the states that
a run from `init` visits when every step of the run meets the condition `ok`
in the state before it.  Invariants are proved once per step and lifted here;
`exec` replays a fixed list of actions with a decidable check on every step, so
that concrete runs can be evaluated and then turned into reachability facts.
-/

namespace ArkKvm.Lib.Run

variable {σ α : Type*}

/-- States visited by the runs from `init` whose steps all meet `ok`. -/
inductive Reach (step : σ → α → Option σ) (ok : σ → α → Prop) (init : σ) : σ → Prop
  | refl : Reach step ok init init
  | tail {s s' : σ} {a : α} :
      Reach step ok init s → ok s a → step s a = some s' → Reach step ok init s'

/-- The condition that asks nothing of a step. -/
def anyStep (_ : σ) (_ : α) : Prop := True

/-- Replay a list of actions; `none` when one of them is not enabled or does not
pass the check `ok`. -/
def exec (step : σ → α → Option σ) (ok : σ → α → Bool) : σ → List α → Option σ
  | s, [] => some s
  | s, a :: as => if ok s a then (step s a).bind fun s' => exec step ok s' as else none

namespace Reach

variable {step : σ → α → Option σ} {ok : σ → α → Prop} {init s s' : σ}

/-- An invariant that holds initially and that every step meeting `ok` keeps
holds of every state reached. -/
theorem invariant {P : σ → Prop} (hinit : P init)
    (hstep : ∀ s a s', P s → ok s a → step s a = some s' → P s')
    (h : Reach step ok init s) : P s := by
  induction h with
  | refl => exact hinit
  | tail _ hok hs ih => exact hstep _ _ _ ih hok hs

theorem trans (h₁ : Reach step ok init s) (h₂ : Reach step ok s s') :
    Reach step ok init s' := by
  induction h₂ with
  | refl => exact h₁
  | tail _ hok hs ih => exact .tail ih hok hs

theorem mono {ok' : σ → α → Prop} (himp : ∀ s a, ok s a → ok' s a)
    (h : Reach step ok init s) : Reach step ok' init s := by
  induction h with
  | refl => exact .refl
  | tail _ hok hs ih => exact .tail ih (himp _ _ hok) hs

end Reach

theorem reach_of_exec {step : σ → α → Option σ} {check : σ → α → Bool} {ok : σ → α → Prop}
    (himp : ∀ s a, check s a = true → ok s a) {s s' : σ} {as : List α}
    (hexec : exec step check s as = some s') : Reach step ok s s' := by
  induction as generalizing s with
  | nil =>
      simp only [exec, Option.some.injEq] at hexec
      exact hexec ▸ .refl
  | cons a as ih =>
      unfold exec at hexec
      by_cases hcheck : check s a = true
      · rw [if_pos hcheck, Option.bind_eq_some_iff] at hexec
        obtain ⟨t, ht, hrest⟩ := hexec
        have hhead : Reach step ok s t := .tail .refl (himp s a hcheck) ht
        exact hhead.trans (ih hrest)
      · rw [if_neg hcheck] at hexec
        cases hexec

/-- What is observed at the end of a replay is observed in a state that a run reaches. -/
theorem exists_reach_of_exec {β : Type*} {step : σ → α → Option σ} {check : σ → α → Bool}
    {ok : σ → α → Prop} (himp : ∀ s a, check s a = true → ok s a) {s : σ} {as : List α}
    {observe : σ → β} {v : β} (hexec : (exec step check s as).map observe = some v) :
    ∃ s', Reach step ok s s' ∧ observe s' = v := by
  obtain ⟨s', hs', hobserve⟩ := Option.map_eq_some_iff.mp hexec
  exact ⟨s', reach_of_exec himp hs', hobserve⟩

end ArkKvm.Lib.Run
