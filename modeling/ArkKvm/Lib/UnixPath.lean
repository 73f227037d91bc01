import Mathlib

/-!
# Paths of Unix

A path is a list of characters.  `components` reads it as `std::path` does, which skips empty
parts and every dot but a leading one; `join` puts a path behind another.  `Within` is the
containment that a sandbox promises: the base, or plain parts behind it.
-/

namespace ArkKvm.Lib.UnixPath

/-! ## Splitting -/

section Split

variable {α : Type*} {p q : α → Bool}

theorem eq_false_of_mem_splitOnP {s c : List α} (h : c ∈ s.splitOnP p) : ∀ x ∈ c, p x = false := by
  induction s generalizing c with
  | nil =>
      rw [List.splitOnP_nil, List.mem_singleton] at h
      subst h
      nofun
  | cons a s ih =>
      rw [List.splitOnP_cons_eq_if_modifyHead] at h
      split at h
      · obtain rfl | h := List.mem_cons.mp h
        · nofun
        · exact ih h
      · next ha =>
          obtain ⟨first, rest, hsplit⟩ := List.exists_cons_of_ne_nil (List.splitOnP_ne_nil p s)
          rw [hsplit, List.modifyHead_cons] at h
          obtain rfl | h := List.mem_cons.mp h
          · intro x hx
            obtain rfl | hx := List.mem_cons.mp hx
            · exact Bool.eq_false_of_not_eq_true ha
            · exact ih (hsplit ▸ List.mem_cons_self) x hx
          · exact ih (hsplit ▸ List.mem_cons_of_mem _ h)

theorem splitOnP_refines (hpq : ∀ x, p x = true → q x = true) (s : List α) :
    (∀ c, (s.splitOnP p).head? = some c → (∀ x ∈ c, q x = false) →
      (s.splitOnP q).head? = some c) ∧
    (∀ c ∈ (s.splitOnP p).tail, (∀ x ∈ c, q x = false) → c ∈ (s.splitOnP q).tail) := by
  induction s with
  | nil => exact ⟨fun c h _ => h, nofun⟩
  | cons a s ih =>
      obtain ⟨first, rest, hp⟩ := List.exists_cons_of_ne_nil (List.splitOnP_ne_nil p s)
      obtain ⟨first', rest', hq⟩ := List.exists_cons_of_ne_nil (List.splitOnP_ne_nil q s)
      rw [hp, hq] at ih
      obtain ⟨hhead, htail⟩ := ih
      rw [List.splitOnP_cons_eq_if_modifyHead, List.splitOnP_cons_eq_if_modifyHead, hp, hq]
      by_cases ha : p a = true
      · rw [if_pos ha, if_pos (hpq a ha)]
        refine ⟨fun c h _ => h, fun c hc hplain => ?_⟩
        obtain rfl | hc := List.mem_cons.mp hc
        · obtain rfl := Option.some.inj (hhead c rfl hplain)
          exact List.mem_cons_self
        · exact List.mem_cons_of_mem _ (htail c hc hplain)
      · rw [if_neg ha]
        by_cases ha' : q a = true
        · rw [if_pos ha']
          refine ⟨fun c h hplain => ?_, fun c hc hplain => ?_⟩
          · obtain rfl := Option.some.inj h
            exact absurd (hplain a List.mem_cons_self) (by rw [ha']; nofun)
          · exact List.mem_cons_of_mem _ (htail c hc hplain)
        · rw [if_neg ha']
          refine ⟨fun c h hplain => ?_, htail⟩
          obtain rfl := Option.some.inj h
          have hfirst := hhead first rfl fun x hx => hplain x (List.mem_cons_of_mem _ hx)
          obtain rfl := Option.some.inj hfirst
          rfl

theorem mem_splitOnP_of_refines (hpq : ∀ x, p x = true → q x = true) {s c : List α}
    (h : c ∈ s.splitOnP p) (hplain : ∀ x ∈ c, q x = false) : c ∈ s.splitOnP q := by
  obtain ⟨hhead, htail⟩ := splitOnP_refines hpq s
  obtain ⟨first, rest, hsplit⟩ := List.exists_cons_of_ne_nil (List.splitOnP_ne_nil p s)
  rw [hsplit] at h hhead htail
  obtain rfl | h := List.mem_cons.mp h
  · exact List.mem_of_mem_head? (hhead c rfl hplain)
  · exact List.mem_of_mem_tail (htail c h hplain)

end Split

/-! ## Components -/

def parts (path : List Char) : List (List Char) := path.splitOn '/'

inductive Component
  | rootDir
  | curDir
  | parentDir
  | normal (name : List Char)
deriving DecidableEq

def partComponent : List Char → Option Component
  | [] => none
  | ['.'] => none
  | ['.', '.'] => some .parentDir
  | name => some (.normal name)

def components (path : List Char) : List Component :=
  (if path.head? = some '/' then [.rootDir]
    else if (parts path).head? = some ['.'] then [.curDir]
    else []) ++ (parts path).filterMap partComponent

/-- `PathBuf::join`: an absolute path replaces the base. -/
def join (base rel : List Char) : List Char :=
  if rel.head? = some '/' then rel
  else if base = [] ∨ base.getLast? = some '/' then base ++ rel
  else base ++ '/' :: rel

theorem parts_ne_nil (path : List Char) : parts path ≠ [] := List.splitOn_ne_nil '/' path

theorem slash_notMem_of_mem_parts {path c : List Char} (h : c ∈ parts path) : '/' ∉ c := by
  unfold parts at h
  rw [List.splitOn_eq_splitOnP] at h
  intro hslash
  exact absurd (eq_false_of_mem_splitOnP h '/' hslash) (by decide)

theorem parts_of_notMem {name : List Char} (h : '/' ∉ name) : parts name = [name] :=
  List.splitOn_eq_singleton h

theorem parts_append_slash (dir name : List Char) :
    parts (dir ++ '/' :: name) = parts dir ++ parts name :=
  List.splitOn_append_cons_self _ _

theorem mem_parts_dropWhile {path c : List Char} (hc : c ≠ []) :
    c ∈ parts (path.dropWhile (· = '/')) ↔ c ∈ parts path := by
  induction path with
  | nil => exact Iff.rfl
  | cons a path ih =>
      by_cases ha : a = '/'
      · subst ha
        rw [List.dropWhile_cons_of_pos (by decide), ih]
        show _ ↔ c ∈ parts ([] ++ '/' :: path)
        rw [parts_append_slash, List.mem_append]
        constructor
        · exact Or.inr
        · rintro (h | h)
          · exact absurd (List.mem_singleton.mp h) hc
          · exact h
      · rw [List.dropWhile_cons_of_neg (by simpa using ha)]

theorem parts_intercalate {names : List (List Char)} (hslash : ∀ c ∈ names, '/' ∉ c)
    (hne : names ≠ []) : parts (List.intercalate ['/'] names) = names :=
  List.splitOn_intercalate '/' hslash hne

theorem head?_intercalate {c : List Char} (names : List (List Char)) (hc : c ≠ []) :
    (List.intercalate ['/'] (c :: names)).head? = c.head? := by
  cases names with
  | nil => rw [List.intercalate_singleton]
  | cons d names =>
      rw [List.intercalate_cons_cons, List.append_assoc]
      exact List.head?_append_of_ne_nil _ hc

section Join

variable {base dir name c : List Char}

theorem mem_parts_join (hdir : dir ≠ []) (hname : '/' ∉ name) (hc : c ≠ []) :
    c ∈ parts (join dir name) ↔ c ∈ parts dir ∨ c = name := by
  have hrel : name.head? ≠ some '/' := fun h => hname (List.mem_of_mem_head? h)
  unfold join
  rw [if_neg hrel]
  split
  · next hend =>
      obtain ⟨stem, rfl⟩ : ∃ stem, dir = stem ++ ['/'] := by
        have hlast := hend.resolve_left hdir
        exact ⟨dir.dropLast, (List.dropLast_append_getLast? _ hlast).symm⟩
      rw [List.append_assoc]
      show c ∈ parts (stem ++ '/' :: name) ↔ c ∈ parts (stem ++ '/' :: []) ∨ c = name
      rw [parts_append_slash, parts_append_slash, parts_of_notMem hname, List.mem_append,
        List.mem_append, List.mem_singleton]
      constructor
      · rintro (h | h)
        · exact Or.inl (Or.inl h)
        · exact Or.inr h
      · rintro ((h | h) | h)
        · exact Or.inl h
        · exact absurd (List.mem_singleton.mp h) hc
        · exact Or.inr h
  · rw [parts_append_slash, parts_of_notMem hname, List.mem_append, List.mem_singleton]

theorem head?_parts_join (hdir : dir ≠ []) (hname : '/' ∉ name) :
    (parts (join dir name)).head? = (parts dir).head? := by
  have hrel : name.head? ≠ some '/' := fun h => hname (List.mem_of_mem_head? h)
  unfold join
  rw [if_neg hrel]
  split
  · next hend =>
      obtain ⟨stem, rfl⟩ : ∃ stem, dir = stem ++ ['/'] := by
        have hlast := hend.resolve_left hdir
        exact ⟨dir.dropLast, (List.dropLast_append_getLast? _ hlast).symm⟩
      rw [List.append_assoc]
      show (parts (stem ++ '/' :: name)).head? = (parts (stem ++ '/' :: [])).head?
      rw [parts_append_slash, parts_append_slash, List.head?_append_of_ne_nil _ (parts_ne_nil _),
        List.head?_append_of_ne_nil _ (parts_ne_nil _)]
  · rw [parts_append_slash, List.head?_append_of_ne_nil _ (parts_ne_nil _)]

theorem head?_join (hdir : dir ≠ []) (hname : '/' ∉ name) : (join dir name).head? = dir.head? := by
  have hrel : name.head? ≠ some '/' := fun h => hname (List.mem_of_mem_head? h)
  unfold join
  rw [if_neg hrel]
  split
  · exact List.head?_append_of_ne_nil _ hdir
  · exact List.head?_append_of_ne_nil _ hdir

end Join

/-! ## Containment -/

def DotPart (c : List Char) : Prop := c = ['.'] ∨ c = ['.', '.']

instance (c : List Char) : Decidable (DotPart c) := inferInstanceAs (Decidable (_ ∨ _))

/-- A relative path without dot parts. -/
structure Plain (rel : List Char) : Prop where
  relative : rel.head? ≠ some '/'
  parts : ∀ c ∈ parts rel, ¬ DotPart c

theorem plain_intercalate {names : List (List Char)} (hslash : ∀ c ∈ names, '/' ∉ c)
    (hne : ∀ c ∈ names, c ≠ []) (hdot : ∀ c ∈ names, ¬ DotPart c) :
    Plain (List.intercalate ['/'] names) := by
  cases names with
  | nil => exact ⟨nofun, fun c hc => List.mem_singleton.mp hc ▸ (by decide)⟩
  | cons c names =>
      refine ⟨?_, ?_⟩
      · rw [head?_intercalate names (hne c List.mem_cons_self)]
        exact fun h => hslash c List.mem_cons_self (List.mem_of_mem_head? h)
      · rw [parts_intercalate hslash nofun]
        exact hdot

def Within (base path : List Char) : Prop := path = base ∨ ∃ rel, Plain rel ∧ path = join base rel

/-- The text that a relative path is joined to. -/
def asDirectory (base : List Char) : List Char :=
  if base = [] ∨ base.getLast? = some '/' then base else base ++ ['/']

theorem join_of_relative {base rel : List Char} (hrel : rel.head? ≠ some '/') :
    join base rel = asDirectory base ++ rel := by
  unfold join asDirectory
  rw [if_neg hrel]
  split
  · rfl
  · rw [List.append_assoc]
    rfl

theorem within_iff_drop {base path : List Char} :
    Within base path ↔ path = base ∨
      (asDirectory base <+: path ∧ Plain (path.drop (asDirectory base).length)) := by
  refine or_congr_right ?_
  constructor
  · rintro ⟨rel, hplain, rfl⟩
    rw [join_of_relative hplain.relative, List.drop_left]
    exact ⟨List.prefix_append _ _, hplain⟩
  · rintro ⟨⟨rel, rfl⟩, hplain⟩
    rw [List.drop_left] at hplain
    exact ⟨rel, hplain, (join_of_relative hplain.relative).symm⟩

theorem join_injective {base a b : List Char} (ha : a.head? ≠ some '/') (hb : b.head? ≠ some '/')
    (h : join base a = join base b) : a = b := by
  unfold join at h
  rw [if_neg ha, if_neg hb] at h
  split at h
  · exact List.append_cancel_left h
  · exact List.tail_eq_of_cons_eq (List.append_cancel_left h)

theorem join_ne_base {base rel : List Char} (hrel : rel.head? ≠ some '/') (hne : rel ≠ []) :
    join base rel ≠ base := by
  intro h
  have hlen := congrArg List.length h
  have hpos := List.length_pos_iff.mpr hne
  unfold join at hlen
  rw [if_neg hrel] at hlen
  split at hlen
  · rw [List.length_append] at hlen
    omega
  · rw [List.length_append, List.length_cons] at hlen
    omega

theorem within_join_iff {base rel : List Char} (hrel : rel.head? ≠ some '/') (hne : rel ≠ []) :
    Within base (join base rel) ↔ ∀ c ∈ parts rel, ¬ DotPart c := by
  constructor
  · rintro (h | ⟨rel', hplain, h⟩)
    · exact absurd h (join_ne_base hrel hne)
    · rw [join_injective hrel hplain.relative h]
      exact hplain.parts
  · intro h
    exact Or.inr ⟨rel, ⟨hrel, h⟩, rfl⟩

/-- The path is a directory's name with a slash and no way up behind it. -/
def Inside (dir path : List Char) : Prop :=
  ∃ rest, path = dir ++ '/' :: rest ∧ ['.', '.'] ∉ parts rest

end ArkKvm.Lib.UnixPath
