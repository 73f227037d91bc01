import Mathlib

/-!
# Hash maps

A hash map is an association list without duplicate keys.  The order in which
the real map is iterated is unspecified: a search takes the key that it prefers
as an argument, and falls back to the first match.
-/

namespace ArkKvm.Lib

variable {κ ν : Type} [DecidableEq κ]

abbrev Table (κ ν : Type) := AList fun _ : κ => ν

namespace Table

/-- Some entry whose value meets `p`: the one of `pick` when it does, else the
first one. -/
def findEntry (m : Table κ ν) (p : ν → Bool) (pick : κ) : Option (κ × ν) :=
  match (m.lookup pick).filter p with
  | some v => some (pick, v)
  | none => (m.entries.find? fun x => p x.2).map fun x => (x.1, x.2)

def removeWhere (m : Table κ ν) (p : ν → Bool) : Table κ ν where
  entries := m.entries.filter fun x => !p x.2
  nodupKeys := m.nodupKeys.sublist List.filter_sublist

def mapValues (f : ν → ν) (m : Table κ ν) : Table κ ν where
  entries := m.entries.map fun x => ⟨x.1, f x.2⟩
  nodupKeys := by
    have hkeys : (m.entries.map fun x => (⟨x.1, f x.2⟩ : Sigma fun _ : κ => ν)).keys =
        m.entries.keys := by
      simp [List.keys, Function.comp_def]
    rw [List.NodupKeys, hkeys]
    exact m.nodupKeys

theorem lookup_eq_some_iff {m : Table κ ν} {k : κ} {v : ν} :
    m.lookup k = some v ↔ (⟨k, v⟩ : Sigma fun _ : κ => ν) ∈ m.entries :=
  AList.mem_lookup_iff

theorem findEntry_some {m : Table κ ν} {p : ν → Bool} {pick k : κ} {v : ν}
    (h : findEntry m p pick = some (k, v)) : m.lookup k = some v ∧ p v = true := by
  unfold findEntry at h
  cases hpick : (m.lookup pick).filter p with
  | some v' =>
      rw [hpick] at h
      cases h
      exact Option.filter_eq_some_iff.mp hpick
  | none =>
      rw [hpick, Option.map_eq_some_iff] at h
      obtain ⟨⟨k', v'⟩, hfind, heq⟩ := h
      cases heq
      have hv := List.find?_some hfind
      exact ⟨lookup_eq_some_iff.mpr (List.mem_of_find?_eq_some hfind), hv⟩

theorem findEntry_pick {m : Table κ ν} {p : ν → Bool} {pick : κ} {v : ν}
    (hlookup : m.lookup pick = some v) (hv : p v = true) :
    findEntry m p pick = some (pick, v) := by
  unfold findEntry
  rw [Option.filter_eq_some_iff.mpr ⟨hlookup, hv⟩]

theorem findEntry_none {m : Table κ ν} {p : ν → Bool} {pick : κ} (h : findEntry m p pick = none)
    {k : κ} {v : ν} (hk : m.lookup k = some v) : p v = false := by
  unfold findEntry at h
  cases hpick : (m.lookup pick).filter p with
  | some v' => simp [hpick] at h
  | none =>
      rw [hpick, Option.map_eq_none_iff, List.find?_eq_none] at h
      simpa using h _ (lookup_eq_some_iff.mp hk)

theorem lookup_removeWhere {m : Table κ ν} {p : ν → Bool} {k : κ} {v : ν} :
    (removeWhere m p).lookup k = some v ↔ m.lookup k = some v ∧ p v = false := by
  rw [lookup_eq_some_iff, lookup_eq_some_iff]
  simp [removeWhere]

theorem lookup_mapValues_iff {f : ν → ν} {m : Table κ ν} {k : κ} {v : ν} :
    (mapValues f m).lookup k = some v ↔ ∃ v', m.lookup k = some v' ∧ f v' = v := by
  rw [lookup_eq_some_iff]
  constructor
  · intro h
    obtain ⟨⟨k', v'⟩, hmem, heq⟩ := List.mem_map.mp h
    cases heq
    exact ⟨v', lookup_eq_some_iff.mpr hmem, rfl⟩
  · rintro ⟨v', hlookup, rfl⟩
    exact List.mem_map.mpr ⟨⟨k, v'⟩, lookup_eq_some_iff.mp hlookup, rfl⟩

theorem lookup_removeWhere_eq (m : Table κ ν) (p : ν → Bool) (k : κ) :
    (removeWhere m p).lookup k = (m.lookup k).filter fun v => !p v := by
  refine Option.ext fun v => ?_
  rw [lookup_removeWhere, Option.filter_eq_some_iff, Bool.not_eq_true']

theorem lookup_insert_iff {m : Table κ ν} {k k' : κ} {v v' : ν} :
    (m.insert k v).lookup k' = some v' ↔ (k' = k ∧ v' = v) ∨ (k' ≠ k ∧ m.lookup k' = some v') := by
  by_cases h : k' = k
  · subst h
    simp [eq_comm]
  · simp [AList.lookup_insert_ne h, h]

theorem lookup_erase_iff {m : Table κ ν} {k k' : κ} {v' : ν} :
    (m.erase k).lookup k' = some v' ↔ k' ≠ k ∧ m.lookup k' = some v' := by
  by_cases h : k' = k
  · subst h
    simp
  · simp [AList.lookup_erase_ne h, h]

/-! ### Counting entries -/

variable (p : (Sigma fun _ : κ => ν) → Bool)

omit [DecidableEq κ] in
theorem countP_removeWhere_le (m : Table κ ν) (q : ν → Bool) :
    (removeWhere m q).entries.countP p ≤ m.entries.countP p :=
  List.filter_sublist.countP_le

theorem countP_erase_le (m : Table κ ν) (k : κ) :
    (m.erase k).entries.countP p ≤ m.entries.countP p :=
  (List.kerase_sublist k m.entries).countP_le

theorem countP_insert_le (m : Table κ ν) (k : κ) (v : ν) :
    (m.insert k v).entries.countP p ≤ m.entries.countP p + if p ⟨k, v⟩ then 1 else 0 := by
  rw [AList.entries_insert, List.countP_cons]
  exact Nat.add_le_add_right (countP_erase_le p m k) _

theorem countP_insert_erase {m : Table κ ν} {k : κ} {v : ν} (h : m.lookup k = some v) :
    ((m.erase k).insert k v).entries.countP p = m.entries.countP p := by
  have hmem := lookup_eq_some_iff.mp h
  obtain ⟨v', l₁, l₂, -, hentries, herase⟩ :=
    List.exists_of_kerase (List.mem_keys_of_mem hmem)
  have hv : v' = v := by
    have hmem' : (⟨k, v'⟩ : Sigma fun _ : κ => ν) ∈ m.entries := by
      rw [hentries]
      exact List.mem_append_right _ List.mem_cons_self
    have := (lookup_eq_some_iff.mpr hmem').symm.trans h
    exact Option.some.inj this
  have herased : (m.erase k).entries.kerase k = m.entries.kerase k :=
    List.kerase_of_notMem_keys (List.notMem_keys_kerase k m.nodupKeys)
  rw [AList.entries_insert, herased, herase, hentries, hv]
  simp only [List.countP_cons, List.countP_append]
  omega

end Table

end ArkKvm.Lib
