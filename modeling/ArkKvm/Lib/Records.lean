import ArkKvm.Lib.Bytes

/-!
# Records in a buffer

Numbers in little endian, and records that are written one behind the other, each filled up
with zeros to a multiple of four.  `At buf off xs` says that a buffer holds `xs` from an offset
on: reading there finds `xs`, whatever stands around it.
-/

namespace ArkKvm.Lib.Records

open Bytes (slice)

/-! ## Numbers -/

def le : Nat → Nat → List UInt8
  | 0, _ => []
  | width + 1, n => UInt8.ofNat n :: le width (n / 256)

def readLe : List UInt8 → Nat
  | [] => 0
  | b :: bs => b.toNat + 256 * readLe bs

@[simp]
theorem length_le (width n : Nat) : (le width n).length = width := by
  induction width generalizing n with
  | zero => rfl
  | succ width ih => rw [le, List.length_cons, ih]

theorem readLe_le {width n : Nat} (h : n < 256 ^ width) : readLe (le width n) = n := by
  induction width generalizing n with
  | zero =>
      rw [Nat.pow_zero] at h
      rw [le, readLe]
      omega
  | succ width ih =>
      have hdiv : n / 256 < 256 ^ width := by
        rw [Nat.pow_succ] at h
        omega
      rw [le, readLe, ih hdiv, UInt8.toNat_ofNat']
      omega

/-! ## Places in a buffer -/

variable {β : Type*}

def At (buf : List β) (off : Nat) (xs : List β) : Prop := xs <+: buf.drop off

variable {buf xs ys : List β} {off : Nat}

theorem at_append : At buf off (xs ++ ys) ↔ At buf off xs ∧ At buf (off + xs.length) ys := by
  unfold At
  rw [Bytes.append_prefix_iff, List.drop_drop]

theorem At.slice_eq (h : At buf off xs) : slice buf off xs.length = xs := by
  unfold slice
  exact List.prefix_iff_eq_take.mp h |>.symm

theorem At.le (h : At buf off xs) (hne : 0 < xs.length) : off + xs.length ≤ buf.length := by
  have hle := h.length_le
  rw [List.length_drop] at hle
  omega

/-! ## Records -/

def align (n : Nat) : Nat := (n + 3) / 4 * 4

theorem le_align (n : Nat) : n ≤ align n := by
  unfold align
  omega

theorem align_lt (n : Nat) : align n < n + 4 := by
  unfold align
  omega

def padded (record : List UInt8) : List UInt8 :=
  record ++ List.replicate (align record.length - record.length) 0

def pack (records : List (List UInt8)) : List UInt8 := records.flatMap padded

@[simp]
theorem length_padded (record : List UInt8) : (padded record).length = align record.length := by
  unfold padded
  rw [List.length_append, List.length_replicate, Nat.add_sub_cancel' (le_align _)]

@[simp]
theorem pack_nil : pack [] = [] := rfl

theorem pack_cons (record : List UInt8) (records : List (List UInt8)) :
    pack (record :: records) = padded record ++ pack records := rfl

theorem At.uncons {bytes record : List UInt8} {records : List (List UInt8)}
    (h : At bytes off (pack (record :: records))) :
    At bytes off record ∧ At bytes (off + align record.length) (pack records) := by
  rw [pack_cons, at_append, length_padded] at h
  exact ⟨(at_append.mp h.1).1, h.2⟩

end ArkKvm.Lib.Records
