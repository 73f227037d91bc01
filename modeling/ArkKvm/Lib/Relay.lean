import Mathlib

/-!
# Bounded relays

A relay passes items from those who produce them on to one receiver.  The items wait in a
queue of bounded length, which gives up its oldest item to make room.  A flush takes the whole
queue at once and sends it item by item; when sending fails, the rest of the flush is lost.
-/

namespace ArkKvm.Lib

structure Relay (α : Type*) where
  produced : List α
  sent : List α
  flight : List α
  waiting : List α

namespace Relay

variable {α : Type*} {cap : Nat} {r r' : Relay α}

def push (cap : Nat) (q : List α) (a : α) : List α :=
  (if cap ≤ q.length then q.tail else q) ++ [a]

theorem push_of_lt {q : List α} (h : q.length < cap) (a : α) : push cap q a = q ++ [a] := by
  unfold push
  rw [if_neg (by omega)]

theorem push_length_le {q : List α} (hcap : 0 < cap) (h : q.length ≤ cap) (a : α) :
    (push cap q a).length ≤ cap := by
  unfold push
  split
  · simp only [List.length_append, List.length_tail, List.length_singleton]
    omega
  · simp only [List.length_append, List.length_singleton]
    omega

theorem push_sublist (q : List α) (a : α) : (push cap q a).Sublist (q ++ [a]) := by
  unfold push
  apply List.Sublist.append_right
  split
  · exact List.tail_sublist q
  · exact List.Sublist.refl q

inductive Move (cap : Nat) : Relay α → Relay α → Prop
  | push (r : Relay α) (a : α) :
      Move cap r { r with produced := r.produced ++ [a], waiting := push cap r.waiting a }
  | take (r : Relay α) (h : r.flight = []) :
      Move cap r { r with flight := r.waiting, waiting := [] }
  | send (r : Relay α) {a : α} {rest : List α} (h : r.flight = a :: rest) :
      Move cap r { r with sent := r.sent ++ [a], flight := rest }
  | lose (r : Relay α) : Move cap r { r with flight := [] }
  | clear (r : Relay α) : Move cap r { r with waiting := [] }
  | stay (r : Relay α) : Move cap r r

inductive Safe (cap : Nat) : Relay α → Relay α → Prop
  | push (r : Relay α) (a : α) (h : r.waiting.length < cap) :
      Safe cap r { r with produced := r.produced ++ [a], waiting := r.waiting ++ [a] }
  | take (r : Relay α) (h : r.flight = []) :
      Safe cap r { r with flight := r.waiting, waiting := [] }
  | send (r : Relay α) {a : α} {rest : List α} (h : r.flight = a :: rest) :
      Safe cap r { r with sent := r.sent ++ [a], flight := rest }
  | stay (r : Relay α) : Safe cap r r

theorem Safe.move (h : Safe cap r r') : Move cap r r' := by
  cases h with
  | push a hroom =>
      rw [← push_of_lt hroom a]
      exact .push r a
  | take hflight => exact .take r hflight
  | send hflight => exact .send r hflight
  | stay => exact .stay r

/-- What was sent, is being sent and waits comes from what was produced, in its order and
each item once. -/
def InOrder (r : Relay α) : Prop := (r.sent ++ r.flight ++ r.waiting).Sublist r.produced

/-- Everything that was produced was sent, is being sent or waits. -/
def Complete (r : Relay α) : Prop := r.sent ++ r.flight ++ r.waiting = r.produced

def Bounded (cap : Nat) (r : Relay α) : Prop := r.waiting.length ≤ cap ∧ r.flight.length ≤ cap

theorem InOrder.move (h : r.InOrder) (hmove : Move cap r r') : r'.InOrder := by
  unfold InOrder at h ⊢
  cases hmove with
  | push a =>
      have hqueue : (r.sent ++ r.flight ++ push cap r.waiting a).Sublist
          (r.sent ++ r.flight ++ (r.waiting ++ [a])) :=
        (push_sublist r.waiting a).append_left _
      apply hqueue.trans
      rw [← List.append_assoc]
      exact h.append_right [a]
  | take hflight =>
      rw [hflight, List.append_nil] at h
      simpa using h
  | send hflight =>
      rw [hflight] at h
      simpa using h
  | lose =>
      have hless : (r.sent ++ [] ++ r.waiting).Sublist (r.sent ++ r.flight ++ r.waiting) :=
        ((List.nil_sublist r.flight).append_left r.sent).append_right r.waiting
      exact hless.trans h
  | clear =>
      have hless : (r.sent ++ r.flight ++ []).Sublist (r.sent ++ r.flight ++ r.waiting) :=
        (List.nil_sublist r.waiting).append_left _
      exact hless.trans h
  | stay => exact h

theorem Bounded.move (hcap : 0 < cap) (h : r.Bounded cap) (hmove : Move cap r r') :
    r'.Bounded cap := by
  obtain ⟨hwaiting, hflight⟩ := h
  cases hmove with
  | push a => exact ⟨push_length_le hcap hwaiting a, hflight⟩
  | take => exact ⟨Nat.zero_le cap, hwaiting⟩
  | send hnext =>
      rw [hnext, List.length_cons] at hflight
      exact ⟨hwaiting, Nat.le_of_succ_le hflight⟩
  | lose => exact ⟨hwaiting, Nat.zero_le cap⟩
  | clear => exact ⟨Nat.zero_le cap, hflight⟩
  | stay => exact ⟨hwaiting, hflight⟩

theorem Complete.safe (h : r.Complete) (hsafe : Safe cap r r') : r'.Complete := by
  unfold Complete at h ⊢
  cases hsafe with
  | push a hroom => rw [← h, List.append_assoc _ r.waiting]
  | take hflight =>
      rw [hflight, List.append_nil] at h
      simpa using h
  | send hflight =>
      rw [hflight] at h
      simpa using h
  | stay => exact h

end Relay

end ArkKvm.Lib
