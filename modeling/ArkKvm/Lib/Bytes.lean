import Mathlib

/-!
# Byte buffers as lists

`slice` reads a window of a buffer and `splice` overwrites one, as
`buf[start..start + n]` and `copy_from_slice` do on slices.  Windows are
compared pointwise through `getElem?`, which turns every question about
overlapping windows into linear arithmetic on indices.
-/

namespace ArkKvm.Lib.Bytes

variable {β : Type*}

def slice (xs : List β) (start n : Nat) : List β := (xs.drop start).take n

/-- Overwrite the window of `xs` that starts at `start` with `data`. -/
def splice (xs : List β) (start : Nat) (data : List β) : List β :=
  xs.take start ++ data ++ xs.drop (start + data.length)

theorem getElem?_slice (xs : List β) (start n i : Nat) :
    (slice xs start n)[i]? = if i < n then xs[start + i]? else none := by
  unfold slice
  rw [List.getElem?_take]
  split
  · rw [List.getElem?_drop]
  · rfl

@[simp] theorem length_slice (xs : List β) (start n : Nat) :
    (slice xs start n).length = min n (xs.length - start) := by
  simp [slice]

theorem length_slice_of_le {xs : List β} {start n : Nat} (h : start + n ≤ xs.length) :
    (slice xs start n).length = n := by
  rw [length_slice]
  omega

@[simp] theorem slice_zero (xs : List β) (start : Nat) : slice xs start 0 = [] := by
  simp [slice]

theorem length_splice {xs : List β} {start : Nat} {data : List β}
    (h : start + data.length ≤ xs.length) :
    (splice xs start data).length = xs.length := by
  simp only [splice, List.length_append, List.length_take, List.length_drop]
  omega

theorem getElem?_splice {xs : List β} {start : Nat} {data : List β}
    (h : start + data.length ≤ xs.length) (i : Nat) :
    (splice xs start data)[i]? =
      if start ≤ i ∧ i < start + data.length then data[i - start]? else xs[i]? := by
  have htake : (xs.take start).length = start := by
    rw [List.length_take]
    omega
  unfold splice
  by_cases hlt : i < start
  · rw [if_neg (by omega), List.append_assoc,
      List.getElem?_append_left (by omega), List.getElem?_take, if_pos hlt]
  · by_cases hmid : i < start + data.length
    · rw [if_pos (by omega), List.append_assoc,
        List.getElem?_append_right (by omega), htake,
        List.getElem?_append_left (by omega)]
    · rw [if_neg (by omega), List.getElem?_append_right (by simp; omega),
        List.getElem?_drop, List.length_append, htake]
      congr 1
      omega

theorem splice_nil (xs : List β) (start : Nat) : splice xs start [] = xs := by
  simp [splice]

theorem splice_splice {xs : List β} {start : Nat} {data rest : List β}
    (h : start + data.length + rest.length ≤ xs.length) :
    splice (splice xs start data) (start + data.length) rest = splice xs start (data ++ rest) := by
  have hfirst : start + data.length ≤ xs.length := by omega
  have hlength := length_splice hfirst
  apply List.ext_getElem?
  intro i
  rw [getElem?_splice (by omega), getElem?_splice hfirst, getElem?_splice (by simp; omega),
    List.length_append]
  by_cases hrest : start + data.length ≤ i ∧ i < start + data.length + rest.length
  · rw [if_pos hrest, if_pos (by omega), List.getElem?_append_right (by omega)]
    congr 1
    omega
  · rw [if_neg hrest]
    by_cases hdata : start ≤ i ∧ i < start + data.length
    · rw [if_pos hdata, if_pos (by omega), List.getElem?_append_left (by omega)]
    · rw [if_neg hdata, if_neg (by omega)]

theorem slice_eq_of_getElem? {xs ys : List β} {a b n : Nat}
    (h : ∀ i < n, xs[a + i]? = ys[b + i]?) : slice xs a n = slice ys b n := by
  apply List.ext_getElem?
  intro i
  rw [getElem?_slice, getElem?_slice]
  split
  · next hi => exact h i hi
  · rfl

theorem slice_append_slice (xs : List β) (start n m : Nat) :
    slice xs start n ++ slice xs (start + n) m = slice xs start (n + m) := by
  unfold slice
  rw [List.take_add, List.drop_drop]

theorem slice_append_right (xs ys : List β) (k n : Nat) :
    slice (xs ++ ys) (xs.length + k) n = slice ys k n := by
  unfold slice
  rw [← List.drop_drop, List.drop_left]

theorem append_prefix_iff {xs ys content : List β} :
    xs ++ ys <+: content ↔ xs <+: content ∧ ys <+: content.drop xs.length := by
  constructor
  · rintro ⟨rest, rfl⟩
    refine ⟨⟨ys ++ rest, (List.append_assoc _ _ _).symm⟩, rest, ?_⟩
    rw [List.append_assoc, List.drop_left]
  · rintro ⟨⟨rest, rfl⟩, hd⟩
    rw [List.drop_left] at hd
    exact (List.prefix_append_right_inj xs).mpr hd

end ArkKvm.Lib.Bytes
