import Mathlib

/-!
# Spawned tasks

A pool holds what was spawned and has not run yet, oldest first.  A scheduler may
run any of them: `pick i` takes the `i`-th out.  Where the entries of a pool are
tagged with the number of the call that they belong to, `tagged n` keeps those of
one call.
-/

namespace ArkKvm.Lib.Pool

variable {α : Type*}

def pick (i : Nat) (pool : List α) : Option (α × List α) :=
  pool[i]?.map fun x => (x, pool.eraseIdx i)

theorem pick_split {i : Nat} {pool rest : List α} {x : α} (h : pick i pool = some (x, rest)) :
    pool = pool.take i ++ x :: pool.drop (i + 1) ∧ rest = pool.take i ++ pool.drop (i + 1) := by
  obtain ⟨y, hy, heq⟩ := Option.map_eq_some_iff.mp h
  obtain ⟨rfl, rfl⟩ := Prod.mk.inj heq
  obtain ⟨hi, rfl⟩ := List.getElem?_eq_some_iff.mp hy
  constructor
  · rw [← List.drop_eq_getElem_cons hi, List.take_append_drop]
  · exact List.eraseIdx_eq_take_drop_succ pool i

theorem mem_of_pick {i : Nat} {pool rest : List α} {x : α} (h : pick i pool = some (x, rest)) :
    x ∈ pool ∧ ∀ y ∈ rest, y ∈ pool := by
  obtain ⟨y, hy, heq⟩ := Option.map_eq_some_iff.mp h
  obtain ⟨rfl, rfl⟩ := Prod.mk.inj heq
  exact ⟨List.mem_of_getElem? hy, fun z hz => List.mem_of_mem_eraseIdx hz⟩

theorem mem_iff_of_pick {i : Nat} {pool rest : List α} {x y : α}
    (h : pick i pool = some (x, rest)) : y ∈ pool ↔ y = x ∨ y ∈ rest := by
  obtain ⟨hpool, hrest⟩ := pick_split h
  rw [hpool, hrest]
  simp only [List.mem_append, List.mem_cons]
  tauto

theorem getElem?_of_pick {i : Nat} {pool rest : List α} {x : α}
    (h : pick i pool = some (x, rest)) : pool[i]? = some x := by
  obtain ⟨y, hy, heq⟩ := Option.map_eq_some_iff.mp h
  rw [hy, (Prod.mk.inj heq).1]

theorem countP_of_pick (p : α → Bool) {i : Nat} {pool rest : List α} {x : α}
    (h : pick i pool = some (x, rest)) :
    pool.countP p = rest.countP p + if p x then 1 else 0 := by
  obtain ⟨hpool, hrest⟩ := pick_split h
  rw [hpool, hrest, List.countP_append, List.countP_append, List.countP_cons]
  omega

theorem length_of_pick {i : Nat} {pool rest : List α} {x : α} (h : pick i pool = some (x, rest)) :
    pool.length = rest.length + 1 := by
  obtain ⟨hpool, hrest⟩ := pick_split h
  rw [hpool, hrest, List.length_append, List.length_append, List.length_cons]
  omega

/-! ## The tasks of one call -/

def tagged (n : Nat) (pool : List (Nat × α)) : List α :=
  (pool.filter (·.1 = n)).map Prod.snd

variable {n i : Nat} {pool rest : List (Nat × α)} {x : Nat × α}

@[simp]
theorem tagged_nil : tagged n ([] : List (Nat × α)) = [] := rfl

@[simp]
theorem tagged_append (pool' : List (Nat × α)) :
    tagged n (pool ++ pool') = tagged n pool ++ tagged n pool' := by
  simp [tagged]

theorem tagged_cons_self (a : α) : tagged n ((n, a) :: pool) = a :: tagged n pool := by
  simp [tagged]

theorem tagged_cons_of_ne (h : x.1 ≠ n) : tagged n (x :: pool) = tagged n pool := by
  simp [tagged, h]

theorem mem_tagged {a : α} : a ∈ tagged n pool ↔ (n, a) ∈ pool := by
  simp [tagged]

theorem tagged_map_self (l : List α) : tagged n (l.map (n, ·)) = l := by
  induction l with
  | nil => rfl
  | cons a l ih => rw [List.map_cons, tagged_cons_self, ih]

theorem tagged_map_of_ne {m : Nat} (h : m ≠ n) (l : List α) : tagged n (l.map (m, ·)) = [] := by
  induction l with
  | nil => rfl
  | cons a l ih => rw [List.map_cons, tagged_cons_of_ne h, ih]

theorem tagged_eq_nil_of_lt (h : ∀ x ∈ pool, x.1 < n) : tagged n pool = [] := by
  induction pool with
  | nil => rfl
  | cons x pool ih =>
      rw [tagged_cons_of_ne (Nat.ne_of_lt (h x List.mem_cons_self))]
      exact ih fun y hy => h y (List.mem_cons_of_mem x hy)

theorem tagged_of_pick_ne (h : pick i pool = some (x, rest)) (hx : x.1 ≠ n) :
    tagged n rest = tagged n pool := by
  obtain ⟨hpool, hrest⟩ := pick_split h
  rw [hpool, hrest, tagged_append, tagged_append, tagged_cons_of_ne hx]

theorem tagged_of_pick_first {a : α} (h : pick i pool = some ((n, a), rest))
    (hfirst : tagged n (pool.take i) = []) : tagged n pool = a :: tagged n rest := by
  obtain ⟨hpool, hrest⟩ := pick_split h
  rw [hpool, hrest, tagged_append, tagged_append, tagged_cons_self, hfirst]
  rfl

theorem tagged_of_pick_only {a : α} (h : pick i pool = some ((n, a), rest))
    (honly : (tagged n pool).length ≤ 1) : tagged n pool = [a] ∧ tagged n rest = [] := by
  obtain ⟨hpool, -⟩ := pick_split h
  have hlen := congrArg (fun l => (tagged n l).length) hpool
  simp only [tagged_append, tagged_cons_self, List.length_append, List.length_cons] at hlen
  have hfirst := tagged_of_pick_first h (List.length_eq_zero_iff.mp (by omega))
  have hnone : tagged n rest = [] := by
    rw [hfirst, List.length_cons] at honly
    exact List.length_eq_zero_iff.mp (by omega)
  exact ⟨by rw [hfirst, hnone], hnone⟩

end ArkKvm.Lib.Pool
