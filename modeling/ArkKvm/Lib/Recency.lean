import Mathlib

/-!
# Queues in the order of last uses

A key that is used moves to the back of a queue, so that the front holds the key whose last
use is the longest ago.  What the queue has to say about a history of uses is that it is an
end of the history, every key counted at its last use.
-/

namespace ArkKvm.Lib.Recency

variable {α : Type*} [DecidableEq α]

def use (queue : List α) (k : α) : List α := queue.erase k ++ [k]

theorem mem_use {queue : List α} {k x : α} : x ∈ use queue k ↔ x = k ∨ x ∈ queue := by
  unfold use
  by_cases hx : x = k
  · simp [hx]
  · simp [hx, List.mem_erase_of_ne hx]

theorem nodup_use {queue : List α} (h : queue.Nodup) (k : α) : (use queue k).Nodup := by
  unfold use
  apply List.Nodup.append (h.erase k) (List.nodup_singleton k)
  intro x hx hk
  rw [List.mem_singleton.mp hk] at hx
  exact h.not_mem_erase hx

def UsedBefore (uses : List α) (e k : α) : Prop :=
  ∃ us vs, uses = us ++ k :: vs ∧ e ∈ us ∧ e ∉ k :: vs

theorem usedBefore_of_sublist {uses : List α} {e k : α} (h : [e, k].Sublist uses.dedup) :
    UsedBefore uses e k := by
  induction uses with
  | nil => cases h
  | cons a uses ih =>
      have hrest : [e, k].Sublist uses.dedup → UsedBefore (a :: uses) e k := by
        intro hsub
        obtain ⟨us, vs, rfl, he, hnot⟩ := ih hsub
        exact ⟨a :: us, vs, rfl, List.mem_cons_of_mem a he, hnot⟩
      by_cases ha : a ∈ uses
      · rw [List.dedup_cons_of_mem ha] at h
        exact hrest h
      · rw [List.dedup_cons_of_notMem ha] at h
        rcases List.cons_sublist_cons'.mp h with hsub | ⟨rfl, hsub⟩
        · exact hrest hsub
        · have hk : k ∈ uses := List.mem_dedup.mp (List.singleton_sublist.mp hsub)
          obtain ⟨us, vs, rfl⟩ := List.append_of_mem hk
          exact ⟨e :: us, vs, rfl, List.mem_cons_self, fun he => ha (List.mem_append_right us he)⟩

theorem dedup_concat (uses : List α) (k : α) : (uses ++ [k]).dedup = use uses.dedup k := by
  induction uses with
  | nil => simp [use]
  | cons a uses ih =>
      rw [List.cons_append]
      by_cases ha : a ∈ uses
      · rw [List.dedup_cons_of_mem (List.mem_append_left [k] ha), List.dedup_cons_of_mem ha, ih]
      · rw [List.dedup_cons_of_notMem ha]
        by_cases hk : a = k
        · rw [List.dedup_cons_of_mem (by simp [hk]), ih]
          unfold use
          rw [hk, List.erase_cons_head, List.erase_of_not_mem]
          rwa [List.mem_dedup, ← hk]
        · rw [List.dedup_cons_of_notMem (by simp [ha, hk]), ih]
          unfold use
          rw [List.erase_cons_tail (by simpa using hk), List.cons_append]

def Recent (uses queue : List α) : Prop := queue <:+ uses.dedup

namespace Recent

variable {uses queue : List α}

theorem nodup (h : Recent uses queue) : queue.Nodup := (List.nodup_dedup uses).sublist h.sublist

theorem of_append {evicted : List α} (h : Recent uses (evicted ++ queue)) : Recent uses queue :=
  (List.suffix_append evicted queue).trans h

theorem use (h : Recent uses queue) (k : α) : Recent (uses ++ [k]) (Recency.use queue k) := by
  obtain ⟨older, holder⟩ := h
  unfold Recent
  rw [dedup_concat, ← holder]
  unfold Recency.use
  by_cases hk : k ∈ older
  · have hnodup := List.nodup_dedup uses
    rw [← holder] at hnodup
    have hnot : k ∉ queue := List.disjoint_of_nodup_append hnodup hk
    rw [List.erase_append_left _ hk, List.erase_of_not_mem hnot, List.append_assoc]
    exact List.suffix_append _ _
  · rw [List.erase_append_right _ hk, List.append_assoc]
    exact List.suffix_append _ _

theorem usedBefore {evicted : List α} (h : Recent uses (evicted ++ queue)) {e k : α}
    (he : e ∈ evicted) (hk : k ∈ queue) : UsedBefore uses e k := by
  apply usedBefore_of_sublist
  have hpair : [e, k].Sublist (evicted ++ queue) :=
    (List.singleton_sublist.mpr he).append (List.singleton_sublist.mpr hk)
  exact hpair.trans h.sublist

end Recent

end ArkKvm.Lib.Recency
