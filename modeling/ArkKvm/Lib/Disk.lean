import Mathlib

/-!
# Files behind names

A file system of one directory: names point to inodes, and an open handle stays on its inode
when the name moves.  No inode has two names.  A write at a position past the end fills the
gap with zeros.
-/

namespace ArkKvm.Lib

def writeAt (xs : List UInt8) (pos : Nat) (bytes : List UInt8) : List UInt8 :=
  xs.take pos ++ List.replicate (pos - xs.length) 0 ++ bytes ++ xs.drop (pos + bytes.length)

theorem writeAt_length (xs bytes : List UInt8) : writeAt xs xs.length bytes = xs ++ bytes := by
  unfold writeAt
  rw [List.take_length, Nat.sub_self, List.drop_eq_nil_of_le (Nat.le_add_right _ _)]
  simp

theorem length_writeAt {xs bytes : List UInt8} {pos : Nat} (hpos : pos ≤ xs.length) :
    (writeAt xs pos bytes).length = max xs.length (pos + bytes.length) := by
  simp only [writeAt, List.length_append, List.length_take, List.length_replicate, List.length_drop]
  omega

/-- Bytes of a longer text, written where they belong over a beginning of it, leave a
beginning of it. -/
theorem writeAt_begins {xs ys bytes : List UInt8} {pos : Nat} (hxs : xs <+: ys)
    (hpos : pos ≤ xs.length) (hbytes : bytes <+: ys.drop pos) : writeAt xs pos bytes <+: ys := by
  have hhead : xs.take pos ++ bytes <+: ys := by
    obtain ⟨rest, hrest⟩ := hbytes
    have htake : xs.take pos = ys.take pos := by
      obtain ⟨tail, rfl⟩ := hxs
      rw [List.take_append_of_le_length hpos]
    refine ⟨rest, ?_⟩
    rw [htake, List.append_assoc, hrest, List.take_append_drop]
  have heq : writeAt xs pos bytes = xs.take pos ++ bytes ++ xs.drop (pos + bytes.length) := by
    rw [writeAt, Nat.sub_eq_zero_of_le hpos, List.replicate_zero, List.append_nil]
  have hlen : (xs.take pos ++ bytes).length = pos + bytes.length := by
    rw [List.length_append, List.length_take, Nat.min_eq_left hpos]
  rw [heq]
  rcases Nat.le_total xs.length (pos + bytes.length) with hle | hle
  · rw [List.drop_eq_nil_of_le hle, List.append_nil]
    exact hhead
  · have hbelow : xs.take pos ++ bytes <+: xs :=
      List.prefix_of_prefix_length_le hhead hxs (by omega)
    obtain ⟨rest, hrest⟩ := hbelow
    have hdrop : xs.drop (pos + bytes.length) = rest := by
      rw [← hrest, ← hlen, List.drop_left]
    rw [hdrop, hrest]
    exact hxs

structure Disk (ν : Type) where
  names : ν → Option Nat
  data : Nat → List UInt8
  nextInode : Nat
  names_lt : ∀ {n i}, names n = some i → i < nextInode
  names_inj : ∀ {n n' i}, names n = some i → names n' = some i → n = n'

namespace Disk

variable {ν : Type} {d : Disk ν} {n m : ν} {i : Nat}

def empty : Disk ν where
  names := fun _ => none
  data := fun _ => []
  nextInode := 0
  names_lt := nofun
  names_inj := nofun

/-- What the file holds; `none` when there is no such file. -/
def contents (d : Disk ν) (n : ν) : Option (List UInt8) := (d.names n).map d.data

/-- Change what an inode holds. -/
def modify (d : Disk ν) (inode : Nat) (f : List UInt8 → List UInt8) : Disk ν :=
  { d with data := Function.update d.data inode (f (d.data inode)) }

@[simp] theorem modify_names (f : List UInt8 → List UInt8) : (d.modify i f).names = d.names := rfl

theorem modify_data_self (f : List UInt8 → List UInt8) :
    (d.modify i f).data i = f (d.data i) := by
  unfold modify
  dsimp only
  rw [Function.update_self]

theorem modify_data_of_ne (f : List UInt8 → List UInt8) {j : Nat} (h : j ≠ i) :
    (d.modify i f).data j = d.data j := by
  unfold modify
  dsimp only
  rw [Function.update_of_ne h]

theorem contents_of_names (h : d.names n = some i) : d.contents n = some (d.data i) := by
  unfold contents
  rw [h]
  rfl

theorem contents_modify_of_ne (f : List UInt8 → List UInt8) (h : d.names m ≠ some i) :
    (d.modify i f).contents m = d.contents m := by
  unfold contents
  rw [modify_names]
  cases hm : d.names m with
  | none => rfl
  | some j =>
      have hne : j ≠ i := fun heq => h (heq ▸ hm)
      rw [Option.map_some, Option.map_some, modify_data_of_ne f hne]

variable [DecidableEq ν]

def create (d : Disk ν) (n : ν) (hfree : d.names n = none) : Disk ν where
  names := Function.update d.names n (some d.nextInode)
  data := Function.update d.data d.nextInode []
  nextInode := d.nextInode + 1
  names_lt := by
    intro n' i h
    by_cases hn : n' = n
    · subst hn
      rw [Function.update_self] at h
      cases h
      exact Nat.lt_succ_self _
    · rw [Function.update_of_ne hn] at h
      exact Nat.lt_succ_of_lt (d.names_lt h)
  names_inj := by
    intro n' n'' i h h'
    have hold : ∀ {m}, d.names m ≠ some d.nextInode :=
      fun hm => Nat.lt_irrefl _ (d.names_lt hm)
    by_cases hn : n' = n
    · by_cases hn' : n'' = n
      · rw [hn, hn']
      · subst hn
        rw [Function.update_self] at h
        rw [Function.update_of_ne hn', ← h] at h'
        exact absurd h' hold
    · by_cases hn' : n'' = n
      · subst hn'
        rw [Function.update_self] at h'
        rw [Function.update_of_ne hn, ← h'] at h
        exact absurd h hold
      · rw [Function.update_of_ne hn] at h
        rw [Function.update_of_ne hn'] at h'
        exact d.names_inj h h'

/-- Open a file for writing: its inode, after it was created when it was missing. -/
def openCreate (d : Disk ν) (n : ν) : Disk ν × Nat :=
  match h : d.names n with
  | some i => (d, i)
  | none => (d.create n h, d.nextInode)

def openTruncate (d : Disk ν) (n : ν) : Disk ν × Nat :=
  ((d.openCreate n).1.modify (d.openCreate n).2 fun _ => [], (d.openCreate n).2)

/-- Move a file over another name. -/
def rename (d : Disk ν) (n n' : ν) : Disk ν where
  names := if n = n' then d.names else
    Function.update (Function.update d.names n' (d.names n)) n none
  data := d.data
  nextInode := d.nextInode
  names_lt := by
    intro m i h
    split at h
    · exact d.names_lt h
    · by_cases hm : m = n
      · subst hm
        rw [Function.update_self] at h
        cases h
      · rw [Function.update_of_ne hm] at h
        by_cases hm' : m = n'
        · subst hm'
          rw [Function.update_self] at h
          exact d.names_lt h
        · rw [Function.update_of_ne hm'] at h
          exact d.names_lt h
  names_inj := by
    intro m m' i h h'
    split at h
    · next heq =>
        rw [if_pos heq] at h'
        exact d.names_inj h h'
    · next hne =>
        rw [if_neg hne] at h'
        have hsource : ∀ {k}, Function.update (Function.update d.names n' (d.names n)) n none k =
            some i → (k = n' ∧ d.names n = some i) ∨ (k ≠ n ∧ k ≠ n' ∧ d.names k = some i) := by
          intro k hk
          by_cases hkn : k = n
          · subst hkn
            rw [Function.update_self] at hk
            cases hk
          · rw [Function.update_of_ne hkn] at hk
            by_cases hkn' : k = n'
            · subst hkn'
              rw [Function.update_self] at hk
              exact .inl ⟨rfl, hk⟩
            · rw [Function.update_of_ne hkn'] at hk
              exact .inr ⟨hkn, hkn', hk⟩
        rcases hsource h with ⟨rfl, hn⟩ | ⟨hm, -, hk⟩
        · rcases hsource h' with ⟨rfl, -⟩ | ⟨hm', -, hk'⟩
          · rfl
          · exact absurd (d.names_inj hk' hn) hm'
        · rcases hsource h' with ⟨rfl, hn⟩ | ⟨-, -, hk'⟩
          · exact absurd (d.names_inj hk hn) hm
          · exact d.names_inj hk hk'

def remove (d : Disk ν) (n : ν) : Disk ν where
  names := Function.update d.names n none
  data := d.data
  nextInode := d.nextInode
  names_lt := by
    intro m i h
    by_cases hm : m = n
    · subst hm
      rw [Function.update_self] at h
      cases h
    · rw [Function.update_of_ne hm] at h
      exact d.names_lt h
  names_inj := by
    intro m m' i h h'
    by_cases hm : m = n
    · subst hm
      rw [Function.update_self] at h
      cases h
    · by_cases hm' : m' = n
      · subst hm'
        rw [Function.update_self] at h'
        cases h'
      · rw [Function.update_of_ne hm] at h
        rw [Function.update_of_ne hm'] at h'
        exact d.names_inj h h'

/-! ## What the operations leave alone -/

theorem openCreate_of_some (h : d.names n = some i) : d.openCreate n = (d, i) := by
  unfold openCreate
  split
  · next j hj =>
      rw [h] at hj
      cases hj
      rfl
  · next hj =>
      rw [h] at hj
      cases hj

theorem openCreate_of_none (h : d.names n = none) :
    d.openCreate n = (d.create n h, d.nextInode) := by
  unfold openCreate
  split
  · next j hj =>
      rw [h] at hj
      cases hj
  · rfl

theorem openCreate_names_self : (d.openCreate n).1.names n = some (d.openCreate n).2 := by
  cases h : d.names n with
  | some i => rw [openCreate_of_some h, h]
  | none =>
      rw [openCreate_of_none h]
      exact Function.update_self ..

theorem openCreate_names_of_ne (hne : m ≠ n) : (d.openCreate n).1.names m = d.names m := by
  cases h : d.names n with
  | some i => rw [openCreate_of_some h]
  | none =>
      rw [openCreate_of_none h]
      exact Function.update_of_ne hne ..

theorem openCreate_data_of_lt {j : Nat} (h : j < d.nextInode) :
    (d.openCreate n).1.data j = d.data j := by
  cases hn : d.names n with
  | some i => rw [openCreate_of_some hn]
  | none =>
      rw [openCreate_of_none hn]
      exact Function.update_of_ne (Nat.ne_of_lt h) ..

theorem contents_openCreate_of_ne (hne : m ≠ n) :
    (d.openCreate n).1.contents m = d.contents m := by
  unfold contents
  rw [openCreate_names_of_ne hne]
  cases hm : d.names m with
  | none => rfl
  | some j => rw [Option.map_some, Option.map_some, openCreate_data_of_lt (d.names_lt hm)]

theorem openTruncate_names_self : (d.openTruncate n).1.names n = some (d.openTruncate n).2 :=
  openCreate_names_self

theorem openTruncate_names_of_ne (hne : m ≠ n) : (d.openTruncate n).1.names m = d.names m :=
  openCreate_names_of_ne hne

theorem openTruncate_data : (d.openTruncate n).1.data (d.openTruncate n).2 = [] :=
  modify_data_self (d := (d.openCreate n).1) (fun _ => [])

theorem contents_openTruncate_of_ne (hne : m ≠ n) :
    (d.openTruncate n).1.contents m = d.contents m := by
  have hother : (d.openCreate n).1.names m ≠ some (d.openCreate n).2 :=
    fun hm => hne (names_inj _ hm openCreate_names_self)
  calc (d.openTruncate n).1.contents m
      = (d.openCreate n).1.contents m := contents_modify_of_ne (fun _ => []) hother
    _ = d.contents m := contents_openCreate_of_ne hne

theorem contents_remove (d : Disk ν) (n m : ν) :
    (d.remove n).contents m = if m = n then none else d.contents m := by
  unfold contents remove
  dsimp only
  by_cases h : m = n
  · rw [if_pos h, h, Function.update_self]
    rfl
  · rw [if_neg h, Function.update_of_ne h]

theorem contents_rename (h : n ≠ m) : (d.rename n m).contents m = d.contents n := by
  unfold contents rename
  dsimp only
  rw [if_neg h, Function.update_of_ne h.symm, Function.update_self]

end Disk

end ArkKvm.Lib
