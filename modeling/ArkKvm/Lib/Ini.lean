import ArkKvm.Lib.Table
import ArkKvm.Lib.Text

/-!
# INI text

Reading text of sections with `key=value` lines, and what is read from text that was
printed line by line: the last value under a key of a section, without the blanks
around it.
-/

namespace ArkKvm.Lib

namespace Text

/-! ## Trimming -/

theorem rdropWhile_append_of_neg {p : Char → Bool} {c : Char} (h : ¬ p c = true) (a v : List Char) :
    (a ++ c :: v).rdropWhile p = a ++ c :: v.rdropWhile p := by
  induction v using List.reverseRecOn with
  | nil => rw [List.rdropWhile_concat_neg _ _ _ h, List.rdropWhile_nil]
  | append_singleton v x ih =>
      have hassoc : a ++ c :: (v ++ [x]) = (a ++ c :: v) ++ [x] := by simp
      rw [hassoc, List.rdropWhile_concat, List.rdropWhile_concat, ih]
      split
      · rfl
      · exact hassoc.symm

theorem dropWhile_rdropWhile (p : Char → Bool) (s : List Char) :
    (s.rdropWhile p).dropWhile p = (s.dropWhile p).rdropWhile p := by
  induction s using List.reverseRecOn with
  | nil => rfl
  | append_singleton s x ih =>
      rw [List.rdropWhile_concat, List.dropWhile_append]
      by_cases hx : p x = true
      · rw [if_pos hx, ih]
        split
        · next hnil =>
            have hnil' : s.dropWhile p = [] := by simpa using hnil
            simp [hnil', hx]
        · rw [List.rdropWhile_concat_pos _ _ _ hx]
      · rw [if_neg hx, List.dropWhile_append]
        split
        · simp [List.rdropWhile_singleton, hx]
        · rw [List.rdropWhile_concat_neg _ _ _ hx]

theorem trim_eq (s : List Char) : trim s = (s.dropWhile isWhiteSpace).rdropWhile isWhiteSpace := rfl

theorem trim_rdropWhile (s : List Char) : trim (s.rdropWhile isWhiteSpace) = trim s := by
  rw [trim_eq, trim_eq, dropWhile_rdropWhile, List.rdropWhile_idempotent]

theorem trim_trim (s : List Char) : trim (trim s) = trim s := by
  conv_lhs => rw [trim_eq s, trim_rdropWhile, trim_eq, List.dropWhile_idempotent]
  rw [trim_eq]

theorem trim_concat_of_blank {c : Char} (h : isWhiteSpace c = true) (s : List Char) :
    trim (s ++ [c]) = trim s := by
  rw [← trim_rdropWhile, List.rdropWhile_concat_pos _ _ _ h, trim_rdropWhile]

theorem trim_cons_of_solid {c : Char} (h : isWhiteSpace c = false) (s : List Char) :
    trim (c :: s) = c :: s.rdropWhile isWhiteSpace := by
  rw [trim_eq, List.dropWhile_cons_of_neg (by simp [h])]
  exact rdropWhile_append_of_neg (by simp [h]) [] s

theorem trim_of_solid {s : List Char} (h : ∀ c ∈ s, isWhiteSpace c = false) : trim s = s := by
  cases s with
  | nil => rfl
  | cons c s =>
      rw [trim_cons_of_solid (h c List.mem_cons_self), List.rdropWhile_eq_self_iff.mpr]
      intro hne
      simp [h _ (List.mem_cons_of_mem c (List.getLast_mem hne))]

theorem mem_of_mem_trim {c : Char} {s : List Char} (h : c ∈ trim s) : c ∈ s :=
  (List.dropWhile_sublist isWhiteSpace).subset
    ((List.rdropWhile_prefix isWhiteSpace (s.dropWhile isWhiteSpace)).subset h)

/-! ## Splitting -/

theorem splitOnce_append {sep : Char} {k : List Char} (h : sep ∉ k) (v : List Char) :
    splitOnce sep (k ++ sep :: v) = some (k, v) := by
  induction k with
  | nil => simp [splitOnce]
  | cons c k ih =>
      obtain ⟨hc, hk⟩ := not_or.mp (mt List.mem_cons.mpr h)
      rw [List.cons_append, splitOnce, if_neg (Ne.symm hc), ih hk]
      rfl

theorem splitOnce_eq_some {sep : Char} {s k v : List Char} (h : splitOnce sep s = some (k, v)) :
    s = k ++ sep :: v := by
  induction s generalizing k with
  | nil => cases h
  | cons c s ih =>
      rw [splitOnce] at h
      split at h
      · next hc =>
          cases h
          rw [hc]
          rfl
      · obtain ⟨⟨k', v'⟩, hrest, heq⟩ := Option.map_eq_some_iff.mp h
        cases heq
        rw [ih hrest]
        rfl

def wordsFrom (word : List Char) : List Char → List (List Char)
  | [] => if word = [] then [] else [word.reverse]
  | c :: cs =>
      if isWhiteSpace c then (if word = [] then [] else [word.reverse]) ++ wordsFrom [] cs
      else wordsFrom (c :: word) cs

def splitWhitespace (s : List Char) : List (List Char) := wordsFrom [] s

theorem wordsFrom_append {c : Char} (h : isWhiteSpace c = true) (word a b : List Char) :
    wordsFrom word (a ++ c :: b) = wordsFrom word a ++ splitWhitespace b := by
  induction a generalizing word with
  | nil => simp [wordsFrom, h, splitWhitespace]
  | cons x a ih =>
      rw [List.cons_append, wordsFrom, wordsFrom]
      split
      · rw [ih, List.append_assoc]
      · exact ih _

theorem splitWhitespace_append {c : Char} (h : isWhiteSpace c = true) (a b : List Char) :
    splitWhitespace (a ++ c :: b) = splitWhitespace a ++ splitWhitespace b :=
  wordsFrom_append h [] a b

theorem splitWhitespace_intercalate {c : Char} (h : isWhiteSpace c = true)
    (ws : List (List Char)) :
    splitWhitespace ([c].intercalate ws) = ws.flatMap splitWhitespace := by
  induction ws with
  | nil => rfl
  | cons w ws ih =>
      cases ws with
      | nil => simp
      | cons w' ws =>
          have hcons : [c].intercalate (w :: w' :: ws) = w ++ c :: [c].intercalate (w' :: ws) := by
            simp [List.intercalate]
          rw [hcons, splitWhitespace_append h, ih]
          rfl

theorem splitWhitespace_dropWhile (s : List Char) :
    splitWhitespace (s.dropWhile isWhiteSpace) = splitWhitespace s := by
  induction s with
  | nil => rfl
  | cons c s ih =>
      by_cases hc : isWhiteSpace c = true
      · have hskip : splitWhitespace (c :: s) = splitWhitespace s :=
          splitWhitespace_append hc [] s
        rw [List.dropWhile_cons_of_pos hc, ih, hskip]
      · rw [List.dropWhile_cons_of_neg hc]

theorem splitWhitespace_rdropWhile (s : List Char) :
    splitWhitespace (s.rdropWhile isWhiteSpace) = splitWhitespace s := by
  induction s using List.reverseRecOn with
  | nil => rfl
  | append_singleton s c ih =>
      rw [List.rdropWhile_concat]
      split
      · next hc =>
          have hskip := splitWhitespace_append hc s []
          rw [ih, hskip]
          exact (List.append_nil _).symm
      · rfl

theorem splitWhitespace_trim (s : List Char) : splitWhitespace (trim s) = splitWhitespace s := by
  rw [trim_eq, splitWhitespace_rdropWhile, splitWhitespace_dropWhile]

theorem wordsFrom_of_solid {s : List Char} (h : ∀ c ∈ s, isWhiteSpace c = false)
    {word : List Char} (hne : word ≠ [] ∨ s ≠ []) : wordsFrom word s = [word.reverse ++ s] := by
  induction s generalizing word with
  | nil =>
      rw [wordsFrom, if_neg (by simpa using hne), List.append_nil]
  | cons c s ih =>
      obtain ⟨hc, hs⟩ := List.forall_mem_cons.mp h
      rw [wordsFrom, if_neg (by simp [hc]), ih hs (Or.inl (by simp))]
      simp

theorem mem_intercalate {c : Char} {sep : List Char} {ss : List (List Char)}
    (h : c ∈ sep.intercalate ss) : c ∈ sep ∨ ∃ s ∈ ss, c ∈ s := by
  induction ss with
  | nil => cases h
  | cons s ss ih =>
      cases ss with
      | nil => exact Or.inr ⟨s, List.mem_cons_self, by simpa using h⟩
      | cons s' ss =>
          have hcons : sep.intercalate (s :: s' :: ss) =
              s ++ (sep ++ sep.intercalate (s' :: ss)) := by
            simp [List.intercalate]
          rw [hcons] at h
          rcases List.mem_append.mp h with hs | h
          · exact Or.inr ⟨s, List.mem_cons_self, hs⟩
          · rcases List.mem_append.mp h with hsep | h
            · exact Or.inl hsep
            · rcases ih h with hsep | ⟨t, ht, hc⟩
              · exact Or.inl hsep
              · exact Or.inr ⟨t, List.mem_cons_of_mem s ht, hc⟩

theorem splitWhitespace_of_solid {s : List Char} (h : ∀ c ∈ s, isWhiteSpace c = false)
    (hne : s ≠ []) : splitWhitespace s = [s] :=
  wordsFrom_of_solid h (Or.inr hne)

theorem wordsFrom_solid {word : List Char} (hword : ∀ c ∈ word, isWhiteSpace c = false)
    (s : List Char) :
    ∀ w ∈ wordsFrom word s, w ≠ [] ∧ ∀ c ∈ w, isWhiteSpace c = false := by
  have hlast : ∀ word : List Char, (∀ c ∈ word, isWhiteSpace c = false) →
      ∀ w ∈ (if word = [] then [] else [word.reverse] : List (List Char)),
        w ≠ [] ∧ ∀ c ∈ w, isWhiteSpace c = false := by
    intro word hword w hw
    split at hw
    · cases hw
    · next hne =>
        rw [List.mem_singleton.mp hw]
        exact ⟨by simpa using hne, fun c hc => hword c (List.mem_reverse.mp hc)⟩
  induction s generalizing word with
  | nil => exact hlast word hword
  | cons c s ih =>
      intro w hw
      rw [wordsFrom] at hw
      split at hw
      · rcases List.mem_append.mp hw with hfirst | hrest
        · exact hlast word hword w hfirst
        · exact ih (by simp) w hrest
      · next hc =>
          exact ih (List.forall_mem_cons.mpr ⟨by simpa using hc, hword⟩) w hw

theorem splitWhitespace_solid {s w : List Char} (h : w ∈ splitWhitespace s) :
    w ≠ [] ∧ ∀ c ∈ w, isWhiteSpace c = false :=
  wordsFrom_solid (by simp) s w h

/-! ## Numbers -/

/-- `str::parse` for an unsigned 16-bit integer. -/
def parseU16 (s : List Char) : Option Nat :=
  let digits := match s with
    | '+' :: cs => cs
    | cs => cs
  (parseDigits digits).filter (· < 2 ^ 16)

theorem readDigits_eq {cs : List Char} (h : ∀ c ∈ cs, c.isDigit = true) (acc : Nat) :
    readDigits acc cs = some (Nat.ofDigitChars 10 cs acc) := by
  induction cs generalizing acc with
  | nil => rfl
  | cons c cs ih =>
      obtain ⟨hc, hcs⟩ := List.forall_mem_cons.mp h
      rw [readDigits, if_pos hc, ih hcs, Nat.ofDigitChars_cons, Nat.mul_comm]

theorem isDigit_of_readDigits {cs : List Char} {acc n : Nat} (h : readDigits acc cs = some n) :
    ∀ c ∈ cs, c.isDigit = true := by
  induction cs generalizing acc with
  | nil => simp
  | cons c cs ih =>
      rw [readDigits] at h
      split at h
      · next hc => exact List.forall_mem_cons.mpr ⟨hc, ih h⟩
      · cases h

theorem isDigit_of_parseDigits {cs : List Char} {n : Nat} (h : parseDigits cs = some n) :
    ∀ c ∈ cs, c.isDigit = true := by
  cases cs with
  | nil => cases h
  | cons c cs => exact isDigit_of_readDigits h

theorem isWhiteSpace_of_isDigit {c : Char} (h : c.isDigit = true) : isWhiteSpace c = false := by
  have hrange : 48 ≤ c.toNat ∧ c.toNat ≤ 57 := by
    simpa [Char.isDigit, UInt32.le_iff_toNat_le] using h
  simp [isWhiteSpace]
  omega

theorem isDigit_of_mem_toDigits {c : Char} {n : Nat} (h : c ∈ Nat.toDigits 10 n) :
    c.isDigit = true := Nat.isDigit_of_mem_toDigits (by decide) (by decide) h

theorem parseDigits_toDigits (n : Nat) : parseDigits (Nat.toDigits 10 n) = some n := by
  cases hd : Nat.toDigits 10 n with
  | nil => exact absurd hd Nat.toDigits_ne_nil
  | cons c cs =>
      change readDigits 0 (c :: cs) = some n
      rw [← hd, readDigits_eq (fun c hc => isDigit_of_mem_toDigits hc),
        Nat.ofDigitChars_ten_toDigits]

theorem parseU16_repr (n : Nat) :
    parseU16 n.repr.toList = if n < 2 ^ 16 then some n else none := by
  have hread := parseDigits_toDigits n
  have hsign : ∀ cs, Nat.toDigits 10 n ≠ '+' :: cs := by
    intro cs heq
    have := isDigit_of_mem_toDigits (heq ▸ List.mem_cons_self : '+' ∈ Nat.toDigits 10 n)
    cases this
  rw [Nat.toList_repr]
  unfold parseU16
  split
  · next cs heq => exact absurd heq (hsign cs)
  · simp only [hread]
    simp [Option.filter]

/-! ## Lines -/

def stripCr (s : List Char) : List Char := if s.getLast? = some '\r' then s.dropLast else s

/-- The lines behind the reversed beginning `line` of one. -/
def linesFrom (line : List Char) : List Char → List (List Char)
  | [] => if line = [] then [] else [line.reverse]
  | c :: cs =>
      if c = '\n' then stripCr line.reverse :: linesFrom [] cs else linesFrom (c :: line) cs

def lines (s : List Char) : List (List Char) := linesFrom [] s

/-- Every line ended. -/
def unlines (ls : List (List Char)) : List Char := ls.flatMap (· ++ ['\n'])

theorem linesFrom_append {l : List Char} (h : '\n' ∉ l) (line rest : List Char) :
    linesFrom line (l ++ '\n' :: rest) = stripCr (line.reverse ++ l) :: lines rest := by
  induction l generalizing line with
  | nil => simp [linesFrom, lines]
  | cons c l ih =>
      obtain ⟨hc, hl⟩ := not_or.mp (mt List.mem_cons.mpr h)
      rw [List.cons_append, linesFrom, if_neg (Ne.symm hc), ih hl]
      simp

theorem lines_unlines {ls : List (List Char)} (h : ∀ l ∈ ls, '\n' ∉ l) :
    lines (unlines ls) = ls.map stripCr := by
  induction ls with
  | nil => rfl
  | cons l ls ih =>
      obtain ⟨hl, hls⟩ := List.forall_mem_cons.mp h
      have hcons : unlines (l :: ls) = l ++ '\n' :: unlines ls := by simp [unlines]
      rw [hcons, lines, linesFrom_append hl, ih hls]
      rfl

/-- The lines behind a line break do not depend on what is before it. -/
theorem linesFrom_append_newline (line a b : List Char) :
    linesFrom line (a ++ '\n' :: b) = linesFrom line (a ++ ['\n']) ++ lines b := by
  induction a generalizing line with
  | nil => simp [linesFrom, lines]
  | cons c a ih =>
      rw [List.cons_append, List.cons_append, linesFrom, linesFrom]
      split
      · rw [ih, List.cons_append]
      · exact ih _

theorem infix_append_cons {p a b : List Char} {x : Char} (hx : x ∉ p) (h : p <:+: a ++ x :: b) :
    p <:+: a ∨ p <:+: b := by
  obtain ⟨s, t, hst⟩ := h
  rw [List.append_assoc] at hst
  rcases List.append_eq_append_iff.mp hst with ⟨a', ha, hpt⟩ | ⟨c, rfl, hb⟩
  · rcases List.append_eq_append_iff.mp hpt with ⟨c, rfl, hc⟩ | ⟨c, rfl, hc⟩
    · left
      exact ⟨s, c, by rw [ha, List.append_assoc]⟩
    · left
      cases c with
      | nil => exact ⟨s, [], by rw [ha]; simp⟩
      | cons y c =>
          cases hc
          exact absurd (by simp) hx
  · cases c with
    | nil =>
        cases p with
        | nil => exact Or.inl (List.nil_infix)
        | cons y p =>
            cases hb
            exact absurd List.mem_cons_self hx
    | cons y c =>
        cases hb
        right
        exact ⟨c, t, by simp⟩

theorem infix_unlines {p : List Char} (hp : p ≠ []) (hbreak : '\n' ∉ p) {ls : List (List Char)}
    (h : p <:+: unlines ls) : ∃ l ∈ ls, p <:+: l := by
  induction ls with
  | nil => exact absurd (List.infix_nil.mp h) hp
  | cons l ls ih =>
      have hcons : unlines (l :: ls) = l ++ '\n' :: unlines ls := by simp [unlines]
      rw [hcons] at h
      rcases infix_append_cons hbreak h with hl | hrest
      · exact ⟨l, List.mem_cons_self, hl⟩
      · obtain ⟨l', hl', hinfix⟩ := ih hrest
        exact ⟨l', List.mem_cons_of_mem l hl', hinfix⟩

theorem infix_intercalate {p : List Char} (hp : p ≠ []) {x : Char} (hx : x ∉ p)
    {ls : List (List Char)} (h : p <:+: [x].intercalate ls) : ∃ l ∈ ls, p <:+: l := by
  induction ls with
  | nil => exact absurd (List.infix_nil.mp h) hp
  | cons l ls ih =>
      cases ls with
      | nil => exact ⟨l, List.mem_cons_self, by simpa using h⟩
      | cons l' ls =>
          have hcons : [x].intercalate (l :: l' :: ls) = l ++ x :: [x].intercalate (l' :: ls) := by
            simp [List.intercalate]
          rw [hcons] at h
          rcases infix_append_cons hx h with hl | hrest
          · exact ⟨l, List.mem_cons_self, hl⟩
          · obtain ⟨l'', hl'', hinfix⟩ := ih hrest
            exact ⟨l'', List.mem_cons_of_mem l hl'', hinfix⟩

theorem mem_of_mem_stripCr {c : Char} {s : List Char} (h : c ∈ stripCr s) : c ∈ s := by
  unfold stripCr at h
  split at h
  · exact List.mem_of_mem_dropLast h
  · exact h

theorem newline_not_mem_linesFrom {line : List Char} (hline : '\n' ∉ line) (s : List Char) :
    ∀ l ∈ linesFrom line s, '\n' ∉ l := by
  induction s generalizing line with
  | nil =>
      intro l hl
      rw [linesFrom] at hl
      split at hl
      · cases hl
      · rw [List.mem_singleton.mp hl, List.mem_reverse]
        exact hline
  | cons c s ih =>
      intro l hl
      rw [linesFrom] at hl
      split at hl
      · rcases List.mem_cons.mp hl with rfl | hl
        · exact fun hmem => hline (List.mem_reverse.mp (mem_of_mem_stripCr hmem))
        · exact ih List.not_mem_nil l hl
      · next hc =>
          exact ih (fun hmem => (List.mem_cons.mp hmem).elim (fun h => hc h.symm) hline) l hl

theorem trim_stripCr (s : List Char) : trim (stripCr s) = trim s := by
  unfold stripCr
  split
  · next hlast =>
      conv_rhs => rw [← List.dropLast_append_getLast? '\r' hlast]
      rw [trim_concat_of_blank (by decide)]
  · rfl

end Text

namespace Ini

open Text

/-! ## Reading -/

abbrev Section := Table String String

abbrev Sections := Table String Section

def sectionOf (t : Sections) (name : String) : Section := (t.lookup name).getD ∅

/-- `entry(name).or_default()`. -/
def openSection (t : Sections) (name : String) : Sections := t.insert name (sectionOf t name)

/-- `entry(name).or_default().insert(key, value)`. -/
def put (t : Sections) (name key value : String) : Sections :=
  t.insert name ((sectionOf t name).insert key value)

structure Reading where
  sections : Sections := ∅
  current : String := "default"

def Reading.line (r : Reading) (text : List Char) : Reading :=
  let line := trim text
  if line = [] ∨ line.head? = some '#' then r
  else if line.head? = some '[' ∧ line.getLast? = some ']' then
    let name := String.ofList (trim line.tail.dropLast)
    { sections := openSection r.sections name, current := name }
  else match splitOnce '=' line with
    | none => r
    | some (key, value) =>
        { r with
          sections := put r.sections r.current (String.ofList (trim key))
            (String.ofList (trim value)) }

def parse (content : List Char) : Sections := ((lines content).foldl Reading.line {}).sections

theorem line_stripCr (r : Reading) (text : List Char) : r.line (stripCr text) = r.line text := by
  unfold Reading.line
  rw [trim_stripCr]

theorem parse_append (a b : List Char) :
    parse (a ++ '\n' :: b) =
      ((lines b).foldl Reading.line ((lines (a ++ ['\n'])).foldl Reading.line {})).sections := by
  unfold parse
  rw [lines, linesFrom_append_newline, List.foldl_append]
  rfl

theorem foldl_lines_unlines {ls : List (List Char)} (h : ∀ l ∈ ls, '\n' ∉ l) (r : Reading) :
    (lines (unlines ls)).foldl Reading.line r = ls.foldl Reading.line r := by
  rw [lines_unlines h, List.foldl_map]
  exact congrArg (fun f => ls.foldl f r) (funext fun r => funext (line_stripCr r))

theorem parse_unlines {ls : List (List Char)} (h : ∀ l ∈ ls, '\n' ∉ l) :
    parse (unlines ls) = (ls.foldl Reading.line {}).sections :=
  congrArg Reading.sections (foldl_lines_unlines h {})

/-! ## Lookups -/

theorem sectionOf_openSection (t : Sections) (name name' : String) :
    sectionOf (openSection t name) name' = sectionOf t name' := by
  unfold openSection
  by_cases h : name' = name
  · rw [h, sectionOf, AList.lookup_insert]
    rfl
  · rw [sectionOf, AList.lookup_insert_ne h]
    rfl

theorem lookup_sectionOf_put (t : Sections) (name key value name' key' : String) :
    (sectionOf (put t name key value) name').lookup key' =
      if name' = name ∧ key' = key then some value else (sectionOf t name').lookup key' := by
  unfold put
  by_cases h : name' = name
  · rw [sectionOf, h, AList.lookup_insert, Option.getD_some]
    by_cases hkey : key' = key
    · rw [if_pos ⟨rfl, hkey⟩, hkey, AList.lookup_insert]
    · rw [if_neg fun hand => hkey hand.2, AList.lookup_insert_ne hkey]
  · rw [sectionOf, AList.lookup_insert_ne h, if_neg fun hand => h hand.1]
    rfl

/-! ## The kinds of lines -/

def isNameChar (c : Char) : Bool := !isWhiteSpace c && decide (c ∉ ['=', '#', '[', ']'])

def IsName (name : String) : Prop := name.toList ≠ [] ∧ name.toList.all isNameChar = true

instance (name : String) : Decidable (IsName name) :=
  inferInstanceAs (Decidable (_ ∧ _))

theorem isNameChar_iff {c : Char} :
    isNameChar c = true ↔ isWhiteSpace c = false ∧ c ≠ '=' ∧ c ≠ '#' ∧ c ≠ '[' ∧ c ≠ ']' := by
  simp [isNameChar]

theorem IsName.char {name : String} (h : IsName name) {c : Char} (hc : c ∈ name.toList) :
    isWhiteSpace c = false ∧ c ≠ '=' ∧ c ≠ '#' ∧ c ≠ '[' ∧ c ≠ ']' :=
  isNameChar_iff.mp (List.all_eq_true.mp h.2 c hc)

theorem IsName.solid {name : String} (h : IsName name) :
    ∀ c ∈ name.toList, isWhiteSpace c = false := fun _ hc => (h.char hc).1

theorem IsName.trim_eq {name : String} (h : IsName name) : trim name.toList = name.toList :=
  trim_of_solid h.solid

theorem line_blank (r : Reading) : r.line [] = r := rfl

theorem line_comment (r : Reading) (text : List Char) : r.line ('#' :: text) = r := by
  unfold Reading.line
  rw [trim_cons_of_solid (by decide)]
  exact if_pos (Or.inr rfl)

theorem line_header (r : Reading) {name : String} (h : IsName name) :
    r.line ('[' :: name.toList ++ [']']) =
      { sections := openSection r.sections name, current := name } := by
  have htrim : trim ('[' :: name.toList ++ [']']) = '[' :: name.toList ++ [']'] := by
    apply trim_of_solid
    intro c hc
    rcases List.mem_append.mp hc with hname | hclose
    · rcases List.mem_cons.mp hname with rfl | hname
      · decide
      · exact h.solid c hname
    · rw [List.mem_singleton.mp hclose]
      decide
  have hlast : ('[' :: name.toList ++ [']']).getLast? = some ']' := List.getLast?_concat
  unfold Reading.line
  rw [htrim]
  simp only [hlast]
  simp [h.trim_eq]

/-- A line with a key stores the value without the blanks around it. -/
theorem line_entry (r : Reading) {key : String} (h : IsName key) (value : List Char) :
    r.line (key.toList ++ '=' :: value) =
      { r with sections := put r.sections r.current key (String.ofList (trim value)) } := by
  have hkey : '=' ∉ key.toList := fun hmem => (h.char hmem).2.1 rfl
  have htrim : trim (key.toList ++ '=' :: value) =
      key.toList ++ '=' :: value.rdropWhile isWhiteSpace := by
    have hsolid : (key.toList ++ '=' :: value).dropWhile isWhiteSpace =
        key.toList ++ '=' :: value := by
      cases hk : key.toList with
      | nil => exact absurd hk h.1
      | cons c cs =>
          have hc := h.solid c (hk ▸ List.mem_cons_self)
          rw [List.cons_append, List.dropWhile_cons_of_neg (by simp [hc])]
    rw [trim_eq, hsolid, rdropWhile_append_of_neg (by decide)]
  unfold Reading.line
  rw [htrim]
  cases hk : key.toList with
  | nil => exact absurd hk h.1
  | cons c cs =>
      have hc := h.char (hk ▸ List.mem_cons_self)
      rw [if_neg (by simp [hc.2.2.1]), if_neg (by simp [hc.2.2.2.1]), ← hk,
        splitOnce_append hkey]
      simp only [h.trim_eq, trim_rdropWhile, String.ofList_toList]

/-! ## Printed sections -/

structure Block where
  name : String
  entries : List (String × String)

def Block.lines (b : Block) : List (List Char) :=
  ('[' :: b.name.toList ++ [']']) ::
    (b.entries.map fun e => e.1.toList ++ '=' :: e.2.toList) ++ [[]]

def Block.Proper (b : Block) : Prop :=
  IsName b.name ∧ ∀ e ∈ b.entries, IsName e.1 ∧ '\n' ∉ e.2.toList

/-- A text without line breaks and without blanks around it. -/
def Plain (s : String) : Prop := '\n' ∉ s.toList ∧ trim s.toList = s.toList

instance (s : String) : Decidable (Plain s) := inferInstanceAs (Decidable (_ ∧ _))

def trimmed (value : String) : String := String.ofList (trim value.toList)

/-- The last value under a key. -/
def lastValue (key : String) : List (String × String) → Option String
  | [] => none
  | (k, v) :: es => lastValue key es <|> if k = key then some v else none

def valueOf (name key : String) : List Block → Option String
  | [] => none
  | b :: bs => valueOf name key bs <|> if b.name = name then lastValue key b.entries else none

theorem Plain.trimmed {s : String} (h : Plain s) : trimmed s = s := by
  unfold Ini.trimmed
  rw [h.2, String.ofList_toList]

theorem plain_of_solid {s : String} (h : ∀ c ∈ s.toList, isWhiteSpace c = false) : Plain s := by
  refine ⟨fun hmem => ?_, trim_of_solid h⟩
  have := h '\n' hmem
  cases this

def Reading.AllPlain (r : Reading) : Prop :=
  ∀ name key v, (sectionOf r.sections name).lookup key = some v → Plain v

theorem Reading.AllPlain.line {r : Reading} (h : r.AllPlain) {text : List Char}
    (htext : '\n' ∉ text) : (r.line text).AllPlain := by
  unfold Reading.line
  dsimp only
  split
  · exact h
  · split
    · intro name key v hv
      rw [sectionOf_openSection] at hv
      exact h name key v hv
    · split
      · exact h
      · next key' value hsplit =>
          intro name key v hv
          rw [lookup_sectionOf_put] at hv
          split at hv
          · cases hv
            refine ⟨fun hmem => ?_, ?_⟩
            · rw [String.toList_ofList] at hmem
              have hline : '\n' ∈ trim text := by
                rw [splitOnce_eq_some hsplit]
                simp [mem_of_mem_trim hmem]
              exact htext (mem_of_mem_trim hline)
            · rw [String.toList_ofList, trim_trim]
          · exact h name key v hv

theorem plain_of_lookup_parse {content : List Char} {name key v : String}
    (h : (sectionOf (parse content) name).lookup key = some v) : Plain v := by
  have hfold : ∀ ls : List (List Char), (∀ l ∈ ls, '\n' ∉ l) → ∀ r : Reading, r.AllPlain →
      (ls.foldl Reading.line r).AllPlain := by
    intro ls
    induction ls with
    | nil => exact fun _ r hr => hr
    | cons l ls ih =>
        intro hls r hr
        obtain ⟨hl, hls⟩ := List.forall_mem_cons.mp hls
        exact ih hls _ (hr.line hl)
  have hstart : ({} : Reading).AllPlain := fun name key v hv => by cases hv
  exact hfold _ (newline_not_mem_linesFrom List.not_mem_nil content) _ hstart name key v h

theorem foldl_entries {es : List (String × String)} (h : ∀ e ∈ es, IsName e.1) (r : Reading) :
    (es.map fun e => e.1.toList ++ '=' :: e.2.toList).foldl Reading.line r =
      { r with
        sections := es.foldl (fun t e => put t r.current e.1 (trimmed e.2)) r.sections } := by
  induction es generalizing r with
  | nil => rfl
  | cons e es ih =>
      obtain ⟨he, hes⟩ := List.forall_mem_cons.mp h
      rw [List.map_cons, List.foldl_cons, line_entry r he, ih hes]
      rfl

theorem foldl_block {b : Block} (h : b.Proper) (r : Reading) :
    b.lines.foldl Reading.line r =
      { sections := b.entries.foldl (fun t e => put t b.name e.1 (trimmed e.2))
          (openSection r.sections b.name)
        current := b.name } := by
  unfold Block.lines
  rw [List.cons_append, List.foldl_cons, List.foldl_append, line_header r h.1,
    foldl_entries fun e he => (h.2 e he).1]
  rfl

theorem lookup_foldl_put (name name' key : String) (es : List (String × String)) (t : Sections) :
    (sectionOf (es.foldl (fun t e => put t name e.1 (trimmed e.2)) t) name').lookup key =
      ((if name = name' then lastValue key es else none).map trimmed <|>
        (sectionOf t name').lookup key) := by
  induction es generalizing t with
  | nil => simp [lastValue]
  | cons e es ih =>
      have hcons : lastValue key (e :: es) =
          (lastValue key es <|> if e.1 = key then some e.2 else none) := rfl
      rw [List.foldl_cons, ih, lookup_sectionOf_put, hcons]
      by_cases hname : name = name'
      · rw [if_pos hname, if_pos hname]
        cases lastValue key es with
        | some v => rfl
        | none =>
            by_cases hkey : e.1 = key
            · rw [if_pos ⟨hname.symm, hkey.symm⟩, if_pos hkey]
              rfl
            · rw [if_neg fun hand => hkey hand.2.symm, if_neg hkey]
              rfl
      · rw [if_neg hname, if_neg hname, if_neg fun hand => hname hand.1.symm]

theorem lookup_foldl_blocks {bs : List Block} (h : ∀ b ∈ bs, b.Proper) (r : Reading)
    (name key : String) :
    (sectionOf ((bs.flatMap Block.lines).foldl Reading.line r).sections name).lookup key =
      ((valueOf name key bs).map trimmed <|> (sectionOf r.sections name).lookup key) := by
  induction bs generalizing r with
  | nil => rfl
  | cons b bs ih =>
      obtain ⟨hb, hbs⟩ := List.forall_mem_cons.mp h
      rw [List.flatMap_cons, List.foldl_append, ih hbs, foldl_block hb]
      simp only [lookup_foldl_put, sectionOf_openSection, valueOf]
      cases valueOf name key bs <;> rfl

theorem Block.Proper.lines {b : Block} (h : b.Proper) : ∀ l ∈ b.lines, '\n' ∉ l := by
  have hname : ∀ {name : String}, IsName name → '\n' ∉ name.toList := by
    intro name hn hmem
    have := hn.solid '\n' hmem
    cases this
  intro l hl
  unfold Block.lines at hl
  rcases List.mem_append.mp hl with hfirst | hlast
  · rcases List.mem_cons.mp hfirst with rfl | hentry
    · simpa using hname h.1
    · obtain ⟨e, he, rfl⟩ := List.mem_map.mp hentry
      have hkey := hname (h.2 e he).1
      have hvalue := (h.2 e he).2
      simp [hkey, hvalue]
  · rw [List.mem_singleton.mp hlast]
    exact List.not_mem_nil

/-- What is read from printed sections behind other text: their last values, trimmed, and
what the text before them says. -/
theorem lookup_parse_append {bs : List Block} (h : ∀ b ∈ bs, b.Proper) (a : List Char)
    (name key : String) :
    (sectionOf (parse (a ++ '\n' :: unlines (bs.flatMap Block.lines))) name).lookup key =
      ((valueOf name key bs).map trimmed <|>
        (sectionOf (parse (a ++ ['\n'])) name).lookup key) := by
  have hall : ∀ l ∈ bs.flatMap Block.lines, '\n' ∉ l := by
    intro l hl
    obtain ⟨b, hb, hl⟩ := List.mem_flatMap.mp hl
    exact (h b hb).lines l hl
  rw [parse_append, foldl_lines_unlines hall, lookup_foldl_blocks h]
  rfl

theorem lookup_parse {comment : List (List Char)} (hcomment : ∀ r : Reading,
      comment.foldl Reading.line r = r) (hlines : ∀ l ∈ comment, '\n' ∉ l)
    {bs : List Block} (h : ∀ b ∈ bs, b.Proper) (name key : String) :
    (sectionOf (parse (unlines (comment ++ bs.flatMap Block.lines))) name).lookup key =
      (valueOf name key bs).map trimmed := by
  have hall : ∀ l ∈ comment ++ bs.flatMap Block.lines, '\n' ∉ l := by
    intro l hl
    rcases List.mem_append.mp hl with hc | hb
    · exact hlines l hc
    · obtain ⟨b, hb, hl⟩ := List.mem_flatMap.mp hb
      exact (h b hb).lines l hl
  rw [parse_unlines hall, List.foldl_append, hcomment, lookup_foldl_blocks h]
  have hempty : (sectionOf ({} : Reading).sections name).lookup key = none := rfl
  rw [hempty]
  cases valueOf name key bs <;> rfl

end Ini

end ArkKvm.Lib
