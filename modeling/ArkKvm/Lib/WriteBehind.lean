import Mathlib.Data.List.Basic

/-!
# Writes whose errors come late

An asynchronous file hands the bytes of a write to a worker, in pieces of at most
`maxBufSize`, and answers when it has handed over the last piece.  A worker that fails is
found out at the next piece, at the next write or at the next flush: the error of the last
piece is never the answer of the write it belongs to.  A write that reports such an error
writes nothing itself.
-/

namespace ArkKvm.Lib.WriteBehind

def maxBufSize : Nat := 2 * 1024 * 1024

inductive Handed
  | done
  /-- it reports the error of an earlier write -/
  | refused
  /-- the last piece fails, `k` bytes into the write, after the answer was given -/
  | behind (k : Nat)
  /-- an earlier piece fails, `k` bytes into the write, and the next piece reports it -/
  | reported (k : Nat)
deriving DecidableEq

/-- A write of `len` bytes on a file with or without an error kept for later.  With
`fault = some k` the disk takes no more than `k` bytes. -/
def handOver (failed : Bool) (len : Nat) (fault : Option Nat) : Handed :=
  if failed then .refused
  else match fault with
    | none => .done
    | some k =>
        if len ≤ k then .done
        else if len ≤ (k / maxBufSize + 1) * maxBufSize then .behind k
        else .reported k

namespace Handed

variable {α : Type}

def landed (data : List α) : Handed → List α
  | done => data
  | refused => []
  | behind k | reported k => data.take k

/-- The write answers that it succeeded. -/
def taken : Handed → Bool
  | done | behind _ => true
  | refused | reported _ => false

def deferred : Handed → Bool
  | behind _ => true
  | done | refused | reported _ => false

theorem landed_prefix (data : List α) (h : Handed) : h.landed data <+: data := by
  cases h with
  | done => exact List.prefix_rfl
  | refused => exact List.nil_prefix
  | behind k => exact List.take_prefix k data
  | reported k => exact List.take_prefix k data

end Handed

@[simp] theorem handOver_failed (len : Nat) (fault : Option Nat) :
    handOver true len fault = .refused := rfl

@[simp] theorem handOver_clean (len : Nat) : handOver false len none = .done := rfl

theorem handOver_of_le {len k : Nat} (h : len ≤ k) : handOver false len (some k) = .done := by
  simp only [handOver, Bool.false_eq_true, if_false, if_pos h]

theorem handOver_of_lt {len k : Nat} (h : k < len) :
    handOver false len (some k) =
      if len ≤ (k / maxBufSize + 1) * maxBufSize then .behind k else .reported k := by
  simp only [handOver, Bool.false_eq_true, if_false, if_neg (Nat.not_le.mpr h)]

theorem handOver_landed {α : Type} (failed : Bool) (data : List α) (fault : Option Nat) :
    handOver failed data.length
        (some ((handOver failed data.length fault).landed data).length) =
      handOver failed data.length fault := by
  cases failed with
  | true => rfl
  | false =>
      cases fault with
      | none =>
          rw [handOver_clean]
          exact handOver_of_le (Nat.le_refl _)
      | some k =>
          by_cases hk : k < data.length
          · have hlanded : ((handOver false data.length (some k)).landed data).length = k := by
              rw [handOver_of_lt hk]
              split <;> simp [Handed.landed, Nat.min_eq_left (Nat.le_of_lt hk)]
            rw [hlanded]
          · rw [handOver_of_le (Nat.not_lt.mp hk)]
            exact handOver_of_le (Nat.le_refl _)

end ArkKvm.Lib.WriteBehind
