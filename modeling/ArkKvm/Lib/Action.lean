import Mathlib

/-!
# Actions that may fail

An action works on a state and returns a value or an error.  What it did to the
state before an error stays done: there is no rollback.  `wp` reads an action as
a transformer of postconditions, one rule per way of building an action, and
`Keeps` is the special case of a reflexive and transitive relation between the
states before and after.
-/

namespace ArkKvm.Lib

variable {ε ε' σ α β : Type}

/-- A computation on a state `σ` that ends in a value or in an error. -/
def Action (ε σ α : Type) : Type := σ → σ × Except ε α

namespace Action

def andThen (r : σ × Except ε α) (f : α → Action ε σ β) : σ × Except ε β :=
  match r with
  | (s, .ok a) => f a s
  | (s, .error e) => (s, .error e)

instance : Monad (Action ε σ) where
  pure a := fun s => (s, .ok a)
  bind x f := fun s => andThen (x s) f

def read : Action ε σ σ := fun s => (s, .ok s)

/-- Change the state. -/
def modify (f : σ → σ) : Action ε σ Unit := fun s => (f s, .ok ())

def fail (e : ε) : Action ε σ α := fun s => (s, .error e)

/-- Stop with `e` unless `p` holds. -/
def ensure (p : Prop) [Decidable p] (e : ε) : Action ε σ Unit :=
  fun s => if p then (s, .ok ()) else (s, .error e)

def ofExcept (r : Except ε α) : Action ε σ α := fun s => (s, r)

/-- Go on after an error; the answer is whether there was none. -/
def attempt (x : Action ε σ α) : Action ε σ Bool := fun s => ((x s).1, .ok (x s).2.isOk)

def mapErr (g : ε → ε') (x : Action ε σ α) : Action ε' σ α :=
  fun s => ((x s).1, (x s).2.mapError g)

/-! ## Running an action -/

theorem bind_run (x : Action ε σ α) (f : α → Action ε σ β) (s : σ) :
    (x >>= f) s = andThen (x s) f := rfl

theorem andThen_ok (s : σ) (a : α) (f : α → Action ε σ β) : andThen (s, .ok a) f = f a s := rfl

theorem andThen_error (s : σ) (e : ε) (f : α → Action ε σ β) :
    andThen (s, .error e) f = (s, .error e) := rfl

theorem bind_of_ok {x : Action ε σ α} {f : α → Action ε σ β} {s t : σ} {a : α}
    (h : x s = (t, .ok a)) : (x >>= f) s = f a t := by
  rw [bind_run, h, andThen_ok]

theorem bind_of_error {x : Action ε σ α} {f : α → Action ε σ β} {s t : σ} {e : ε}
    (h : x s = (t, .error e)) : (x >>= f) s = (t, .error e) := by
  rw [bind_run, h, andThen_error]

theorem bind_assoc {γ : Type} (x : Action ε σ α) (f : α → Action ε σ β) (g : β → Action ε σ γ) :
    (x >>= f) >>= g = x >>= fun a => f a >>= g := by
  funext s
  show andThen (andThen (x s) f) g = andThen (x s) fun a s' => andThen (f a s') g
  rcases x s with ⟨s', e | a⟩
  · rfl
  · rfl

theorem bind_eq_ok {x : Action ε σ α} {f : α → Action ε σ β} {s s' : σ} {b : β}
    (h : (x >>= f) s = (s', .ok b)) : ∃ a s₁, x s = (s₁, .ok a) ∧ f a s₁ = (s', .ok b) := by
  rw [bind_run] at h
  rcases hx : x s with ⟨s₁, e | a⟩
  · rw [hx, andThen_error] at h
    cases h
  · exact ⟨a, s₁, rfl, by rwa [hx] at h⟩

theorem mapErr_of_ok {g : ε → ε'} {x : Action ε σ α} {s s' : σ} {a : α}
    (h : x s = (s', .ok a)) : mapErr g x s = (s', .ok a) := by
  unfold mapErr
  rw [h]
  rfl

theorem mapErr_of_error {g : ε → ε'} {x : Action ε σ α} {s s' : σ} {e : ε}
    (h : x s = (s', .error e)) : mapErr g x s = (s', .error (g e)) := by
  unfold mapErr
  rw [h]
  rfl

theorem mapErr_eq_ok {g : ε → ε'} {x : Action ε σ α} {s s' : σ} {a : α}
    (h : mapErr g x s = (s', .ok a)) : x s = (s', .ok a) := by
  unfold mapErr at h
  rcases hx : x s with ⟨s₁, e | a'⟩
  · rw [hx] at h
    cases h
  · rw [hx] at h
    cases h
    rfl

theorem exceptBind_eq_ok_iff {x : Except ε α} {f : α → Except ε β} {b : β} :
    x.bind f = .ok b ↔ ∃ a, x = .ok a ∧ f a = .ok b := by
  cases x with
  | error e => exact ⟨nofun, fun ⟨_, h, _⟩ => nomatch h⟩
  | ok a =>
      constructor
      · intro h
        exact ⟨a, rfl, h⟩
      · rintro ⟨_, ⟨⟩, h⟩
        exact h

theorem mapError_eq_ok {g : ε → ε'} {r : Except ε α} {a : α} (h : r.mapError g = .ok a) :
    r = .ok a := by
  cases r with
  | error e => cases h
  | ok a' =>
      cases h
      rfl

theorem ofExcept_eq_ok {r : Except ε α} {s s' : σ} {a : α} (h : ofExcept r s = (s', .ok a)) :
    s = s' ∧ r = .ok a := by
  cases h
  exact ⟨rfl, rfl⟩

theorem ensure_of_pos {p : Prop} [Decidable p] (hp : p) (e : ε) (s : σ) :
    (ensure p e : Action ε σ Unit) s = (s, .ok ()) := by
  rw [ensure, if_pos hp]

theorem ensure_of_neg {p : Prop} [Decidable p] (hp : ¬ p) (e : ε) (s : σ) :
    (ensure p e : Action ε σ Unit) s = (s, .error e) := by
  rw [ensure, if_neg hp]

theorem ensure_eq_ok {p : Prop} [Decidable p] {e : ε} {s s' : σ}
    (h : (ensure p e : Action ε σ Unit) s = (s', .ok ())) : p ∧ s = s' := by
  unfold ensure at h
  split at h
  · next hp =>
      cases h
      exact ⟨hp, rfl⟩
  · cases h

/-- `Q` holds of the result and the final state of `x` started in `s`. -/
def wp (x : Action ε σ α) (Q : Except ε α → σ → Prop) (s : σ) : Prop := Q (x s).2 (x s).1

section Rules

variable {Q : Except ε α → σ → Prop} {R : Except ε β → σ → Prop} {s : σ}

theorem wp_mono {x : Action ε σ α} {Q' : Except ε α → σ → Prop} (h : wp x Q s)
    (himp : ∀ r s', Q r s' → Q' r s') : wp x Q' s :=
  himp _ _ h

/-- Sequencing: the first action must establish what the second one needs, and
what is asked of the whole when it fails. -/
theorem wp_bind_of_result {x : Action ε σ α} {f : α → Action ε σ β} (hx : wp x Q s)
    (hok : ∀ a s', Q (.ok a) s' → (x s).2 = .ok a → wp (f a) R s')
    (hfail : ∀ e s', Q (.error e) s' → R (.error e) s') : wp (x >>= f) R s := by
  change R (andThen (x s) f).2 (andThen (x s) f).1
  unfold wp at hx
  rcases hxs : x s with ⟨s', e | a⟩
  · rw [hxs] at hx
    exact hfail e s' hx
  · rw [hxs] at hx
    exact hok a s' hx (by rw [hxs])

theorem wp_bind {x : Action ε σ α} {f : α → Action ε σ β} (hx : wp x Q s)
    (hok : ∀ a s', Q (.ok a) s' → wp (f a) R s')
    (hfail : ∀ e s', Q (.error e) s' → R (.error e) s') : wp (x >>= f) R s :=
  wp_bind_of_result hx (fun a s' h _ => hok a s' h) hfail

theorem wp_of_run_ok {x : Action ε σ α} {f : α → Action ε σ β} {a : α} {t : σ}
    (hx : x s = (t, .ok a)) (h : wp (f a) R t) : wp (x >>= f) R s := by
  unfold wp
  rw [bind_of_ok hx]
  exact h

theorem wp_of_run_error {x : Action ε σ α} {f : α → Action ε σ β} {e : ε} {t : σ}
    (hx : x s = (t, .error e)) (h : R (.error e) t) : wp (x >>= f) R s := by
  unfold wp
  rw [bind_of_error hx]
  exact h

theorem wp_read_bind {f : σ → Action ε σ β} (h : wp (f s) R s) : wp (read >>= f) R s := h

theorem wp_ofExcept_bind {r : Except ε α} {f : α → Action ε σ β}
    (hok : ∀ a, r = .ok a → wp (f a) R s) (hfail : ∀ e, r = .error e → R (.error e) s) :
    wp (ofExcept r >>= f) R s := by
  cases r with
  | error e => exact hfail e rfl
  | ok a => exact hok a rfl

theorem wp_ensure {p : Prop} [Decidable p] {e : ε} {Q : Except ε Unit → σ → Prop}
    (hok : p → Q (.ok ()) s) (hfail : ¬ p → Q (.error e) s) :
    wp (ensure p e : Action ε σ Unit) Q s := by
  unfold wp ensure
  by_cases hp : p
  · rw [if_pos hp]
    exact hok hp
  · rw [if_neg hp]
    exact hfail hp

theorem wp_ensure_bind {p : Prop} [Decidable p] {e : ε} {f : Unit → Action ε σ β}
    (hok : p → wp (f ()) R s) (hfail : ¬ p → R (.error e) s) : wp (ensure p e >>= f) R s := by
  by_cases hp : p
  · exact wp_bind (Q := fun r s' => r = .ok () ∧ s' = s)
      (wp_ensure (fun _ => ⟨rfl, rfl⟩) fun hn => absurd hp hn)
      (by rintro _ _ ⟨-, rfl⟩; exact hok hp) (by rintro _ _ ⟨h, -⟩; cases h)
  · exact wp_bind (Q := fun r s' => r = .error e ∧ s' = s)
      (wp_ensure (fun h => absurd h hp) fun _ => ⟨rfl, rfl⟩)
      (by rintro _ _ ⟨h, -⟩; cases h) (by rintro _ _ ⟨h, rfl⟩; cases h; exact hfail hp)

end Rules

/-- `R` relates the state before the action to the one after it, also after an error. -/
def Keeps (R : σ → σ → Prop) (x : Action ε σ α) : Prop := ∀ s, R s (x s).1

namespace Keeps

variable {R : σ → σ → Prop}

theorem bind (htrans : ∀ a b c, R a b → R b c → R a c) {x : Action ε σ α}
    {f : α → Action ε σ β} (hx : Keeps R x) (hf : ∀ a, Keeps R (f a)) : Keeps R (x >>= f) := by
  intro s
  have hs := hx s
  change R s (andThen (x s) f).1
  rcases hxs : x s with ⟨s', e | a⟩
  · rwa [hxs] at hs
  · rw [hxs] at hs
    exact htrans _ _ _ hs (hf a s')

theorem mapErr {x : Action ε σ α} (hx : Keeps R x) (g : ε → ε') : Keeps R (mapErr g x) := hx

theorem pure (hrefl : ∀ s, R s s) (a : α) : Keeps R (Pure.pure a : Action ε σ α) := hrefl

theorem ensure (hrefl : ∀ s, R s s) (p : Prop) [Decidable p] (e : ε) :
    Keeps R (ensure p e : Action ε σ Unit) := by
  intro s
  unfold Action.ensure
  split <;> exact hrefl s

theorem read (hrefl : ∀ s, R s s) : Keeps R (read : Action ε σ σ) := hrefl

theorem ite {p : Prop} [Decidable p] {x y : Action ε σ α} (hx : Keeps R x) (hy : Keeps R y) :
    Keeps R (if p then x else y) := by
  split
  · exact hx
  · exact hy

end Keeps

end Action

end ArkKvm.Lib
