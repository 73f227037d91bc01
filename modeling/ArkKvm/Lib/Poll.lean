import Mathlib

/-!
# Polling a list of participants

Participants are asked one after the other; each may change its own state and
may object.  The poll stops at the first objection, so the participants behind
it are not asked.  Telling all participants the same thing is `List.map`.
-/

namespace ArkKvm.Lib

variable {α β ρ : Type}

def poll (ask : α → α × Option ρ) : List α → List α × Option ρ
  | [] => ([], none)
  | a :: as =>
      match ask a with
      | (a', some reason) => (a' :: as, some reason)
      | (a', none) => (a' :: (poll ask as).1, (poll ask as).2)

namespace Poll

variable {ask : α → α × Option ρ}

theorem cons_of_objects {a a' : α} {reason : ρ} (h : ask a = (a', some reason)) (as : List α) :
    poll ask (a :: as) = (a' :: as, some reason) := by
  rw [poll, h]

theorem cons_of_agrees {a a' : α} (h : ask a = (a', none)) (as : List α) :
    poll ask (a :: as) = (a' :: (poll ask as).1, (poll ask as).2) := by
  rw [poll, h]

theorem of_agreed {as : List α} (h : ∀ a ∈ as, (ask a).2 = none) :
    poll ask as = (as.map fun a => (ask a).1, none) := by
  induction as with
  | nil => rfl
  | cons a as ih =>
      rw [List.forall_mem_cons] at h
      rw [cons_of_agrees (show ask a = ((ask a).1, none) from Prod.ext rfl h.1), ih h.2]
      rfl

theorem agreed_iff {as : List α} : (poll ask as).2 = none ↔ ∀ a ∈ as, (ask a).2 = none := by
  refine ⟨fun h => ?_, fun h => by rw [of_agreed h]⟩
  induction as with
  | nil => simp
  | cons a as ih =>
      rcases hask : ask a with ⟨a', _ | reason⟩
      · rw [cons_of_agrees hask] at h
        rw [List.forall_mem_cons, hask]
        exact ⟨rfl, ih h⟩
      · rw [cons_of_objects hask] at h
        cases h

theorem map_eq (f : α → β) (h : ∀ a, f (ask a).1 = f a) (as : List α) :
    (poll ask as).1.map f = as.map f := by
  induction as with
  | nil => rfl
  | cons a as ih =>
      rcases hask : ask a with ⟨a', _ | reason⟩
      · have ha : f a' = f a := by rw [← h a, hask]
        rw [cons_of_agrees hask, List.map_cons, List.map_cons, ih, ha]
      · have ha : f a' = f a := by rw [← h a, hask]
        rw [cons_of_objects hask, List.map_cons, List.map_cons, ha]

end Poll

end ArkKvm.Lib
