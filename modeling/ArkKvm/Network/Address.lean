import ArkKvm.Lib.Ini

/-!
# Internet addresses

What `check_valid_ipv4` and `check_valid_ipv6` of `network/mod.rs` accept: the text forms
that the standard library reads, without the unspecified address.
-/

namespace ArkKvm

open Lib.Text (parseDigits isWhiteSpace)

/-! ## IPv4 -/

/-- A part of an IPv4 address: up to three digits, no leading zero, at most 255. -/
def parseOctet (s : List Char) : Option Nat :=
  if 3 < s.length ∨ (s.head? = some '0' ∧ 1 < s.length) then none
  else (parseDigits s).filter (· ≤ 255)

/-- `Ipv4Addr::from_str`. -/
def parseIpv4 (s : List Char) : Option (List Nat) :=
  let parts := s.splitOn '.'
  if parts.length = 4 then parts.mapM parseOctet else none

def checkValidIpv4 (address : String) : Bool :=
  match parseIpv4 address.toList with
  | some octets => octets ≠ [0, 0, 0, 0]
  | none => false

example : checkValidIpv4 "192.168.1.10" = true := by decide

/-! ## IPv6 -/

def hexDigit? (c : Char) : Option Nat :=
  if '0' ≤ c ∧ c ≤ '9' then some (c.toNat - '0'.toNat)
  else if 'a' ≤ c ∧ c ≤ 'f' then some (c.toNat - 'a'.toNat + 10)
  else if 'A' ≤ c ∧ c ≤ 'F' then some (c.toNat - 'A'.toNat + 10)
  else none

def parseGroup (s : List Char) : Option Nat :=
  if s = [] ∨ 4 < s.length then none
  else (s.mapM hexDigit?).map fun digits => digits.foldl (fun acc d => 16 * acc + d) 0

/-- Groups between colons; with `ipv4`, the last one may be an IPv4 address, which is two
groups. -/
def parseGroups (ipv4 : Bool) : List (List Char) → Option (List Nat)
  | [] => some []
  | [last] =>
      match if ipv4 then parseIpv4 last else none with
      | some [a, b, c, d] => some [256 * a + b, 256 * c + d]
      | _ => (parseGroup last).map fun g => [g]
  | s :: rest => do
      let g ← parseGroup s
      let gs ← parseGroups ipv4 rest
      some (g :: gs)

def splitGroups (s : List Char) : List (List Char) := if s = [] then [] else s.splitOn ':'

/-- The text before and behind the first `::`. -/
def splitDoubleColon : List Char → Option (List Char × List Char)
  | ':' :: ':' :: rest => some ([], rest)
  | c :: cs => (splitDoubleColon cs).map fun parts => (c :: parts.1, parts.2)
  | [] => none

/-- `Ipv6Addr::from_str`; `::` stands for at least one group of zeros. -/
def parseIpv6 (s : List Char) : Option (List Nat) :=
  match splitDoubleColon s with
  | none => (parseGroups true (s.splitOn ':')).filter (·.length = 8)
  | some (head, tail) => do
      let h ← parseGroups false (splitGroups head)
      let t ← parseGroups true (splitGroups tail)
      if h.length + t.length ≤ 7 then
        some (h ++ List.replicate (8 - h.length - t.length) 0 ++ t)
      else none

def checkValidIpv6 (address : String) : Bool :=
  match parseIpv6 address.toList with
  | some groups => groups.any (· ≠ 0)
  | none => false

example : checkValidIpv6 "fe80::1:192.168.1.10" = true := by decide

/-! ## Valid addresses hold no blanks -/

theorem solid_of_parseOctet {s : List Char} {n : Nat} (h : parseOctet s = some n) :
    ∀ c ∈ s, isWhiteSpace c = false := by
  unfold parseOctet at h
  split at h
  · cases h
  · have hdigits := Lib.Text.isDigit_of_parseDigits (Option.filter_eq_some_iff.mp h).1
    exact fun c hc => Lib.Text.isWhiteSpace_of_isDigit (hdigits c hc)

theorem isSome_of_mapM {α β : Type} {f : α → Option β} {as : List α} {bs : List β}
    (h : as.mapM f = some bs) : ∀ a ∈ as, ∃ b, f a = some b := by
  induction as generalizing bs with
  | nil => simp
  | cons a as ih =>
      rw [List.mapM_cons] at h
      cases ha : f a with
      | none =>
          rw [ha] at h
          cases h
      | some b =>
          rw [ha] at h
          cases has : as.mapM f with
          | none => simp [has] at h
          | some bs' => exact List.forall_mem_cons.mpr ⟨⟨b, ha⟩, ih has⟩

theorem solid_of_splitOn {s : List Char} {sep : Char} (hsep : isWhiteSpace sep = false)
    (h : ∀ part ∈ s.splitOn sep, ∀ c ∈ part, isWhiteSpace c = false) :
    ∀ c ∈ s, isWhiteSpace c = false := by
  have hparts : List.intercalate [sep] (s.splitOn sep) = s := List.intercalate_splitOn sep
  intro c hc
  rw [← hparts] at hc
  rcases Lib.Text.mem_intercalate hc with hmem | ⟨part, hpart, hc⟩
  · rw [List.mem_singleton.mp hmem]
    exact hsep
  · exact h part hpart c hc

theorem solid_of_parseIpv4 {s : List Char} {octets : List Nat} (h : parseIpv4 s = some octets) :
    ∀ c ∈ s, isWhiteSpace c = false := by
  unfold parseIpv4 at h
  dsimp only at h
  split at h
  · apply solid_of_splitOn (show isWhiteSpace '.' = false by decide)
    intro part hpart
    obtain ⟨n, hn⟩ := isSome_of_mapM h part hpart
    exact solid_of_parseOctet hn
  · cases h

theorem solid_of_checkValidIpv4 {address : String} (h : checkValidIpv4 address = true) :
    address ≠ "" ∧ ∀ c ∈ address.toList, isWhiteSpace c = false := by
  have hne : address ≠ "" := by
    rintro rfl
    exact absurd h (by decide)
  unfold checkValidIpv4 at h
  split at h
  · next octets hparse => exact ⟨hne, solid_of_parseIpv4 hparse⟩
  · cases h

theorem isWhiteSpace_of_hexDigit {c : Char} {n : Nat} (h : hexDigit? c = some n) :
    isWhiteSpace c = false := by
  unfold hexDigit? at h
  have hrange : (48 ≤ c.toNat ∧ c.toNat ≤ 57) ∨ (97 ≤ c.toNat ∧ c.toNat ≤ 102) ∨
      (65 ≤ c.toNat ∧ c.toNat ≤ 70) := by
    split at h
    · next hc => exact Or.inl hc
    · split at h
      · next hc => exact Or.inr (Or.inl hc)
      · split at h
        · next hc => exact Or.inr (Or.inr hc)
        · cases h
  simp [isWhiteSpace]
  omega

theorem solid_of_parseGroup {s : List Char} {n : Nat} (h : parseGroup s = some n) :
    ∀ c ∈ s, isWhiteSpace c = false := by
  unfold parseGroup at h
  split at h
  · cases h
  · obtain ⟨digits, hdigits, -⟩ := Option.map_eq_some_iff.mp h
    intro c hc
    obtain ⟨n, hn⟩ := isSome_of_mapM hdigits c hc
    exact isWhiteSpace_of_hexDigit hn

theorem solid_of_parseGroups {ipv4 : Bool} {parts : List (List Char)} {gs : List Nat}
    (h : parseGroups ipv4 parts = some gs) :
    ∀ part ∈ parts, ∀ c ∈ part, isWhiteSpace c = false := by
  induction parts generalizing gs with
  | nil => exact fun part hpart => absurd hpart List.not_mem_nil
  | cons s rest ih =>
      cases rest with
      | nil =>
          rw [List.forall_mem_singleton]
          rw [parseGroups] at h
          split at h
          · next hparse =>
              cases ipv4 with
              | false => cases hparse
              | true => exact solid_of_parseIpv4 hparse
          · obtain ⟨g, hg, -⟩ := Option.map_eq_some_iff.mp h
            exact solid_of_parseGroup hg
      | cons s' rest =>
          rw [parseGroups] at h
          · obtain ⟨g, hg, h⟩ := Option.bind_eq_some_iff.mp h
            obtain ⟨gs', hgs, -⟩ := Option.bind_eq_some_iff.mp h
            exact List.forall_mem_cons.mpr ⟨solid_of_parseGroup hg, ih hgs⟩
          · simp

theorem splitDoubleColon_eq_some {s head tail : List Char}
    (h : splitDoubleColon s = some (head, tail)) : s = head ++ ':' :: ':' :: tail := by
  induction s generalizing head with
  | nil => cases h
  | cons c cs ih =>
      unfold splitDoubleColon at h
      split at h
      · next rest heq =>
          cases h
          exact heq
      · next c' cs' _ heq =>
          cases heq
          obtain ⟨⟨head', tail'⟩, hrest, heq⟩ := Option.map_eq_some_iff.mp h
          cases heq
          rw [ih hrest]
          rfl
      · cases h

theorem solid_of_splitGroups {s : List Char}
    (h : ∀ part ∈ splitGroups s, ∀ c ∈ part, isWhiteSpace c = false) :
    ∀ c ∈ s, isWhiteSpace c = false := by
  unfold splitGroups at h
  split at h
  · next hnil =>
      rw [hnil]
      exact fun c hc => absurd hc List.not_mem_nil
  · exact solid_of_splitOn (by decide) h

theorem solid_of_parseIpv6 {s : List Char} {gs : List Nat} (h : parseIpv6 s = some gs) :
    ∀ c ∈ s, isWhiteSpace c = false := by
  unfold parseIpv6 at h
  split at h
  · have hgroups := solid_of_parseGroups (Option.filter_eq_some_iff.mp h).1
    exact solid_of_splitOn (by decide) hgroups
  · next head tail hsplit =>
      obtain ⟨hs, hhead, h⟩ := Option.bind_eq_some_iff.mp h
      obtain ⟨ts, htail, -⟩ := Option.bind_eq_some_iff.mp h
      have hfront := solid_of_splitGroups (solid_of_parseGroups hhead)
      have hback := solid_of_splitGroups (solid_of_parseGroups htail)
      have hcolon : isWhiteSpace ':' = false := by decide
      rw [splitDoubleColon_eq_some hsplit]
      simp only [List.forall_mem_append, List.forall_mem_cons]
      exact ⟨hfront, hcolon, hcolon, hback⟩

theorem solid_of_checkValidIpv6 {address : String} (h : checkValidIpv6 address = true) :
    address ≠ "" ∧ ∀ c ∈ address.toList, isWhiteSpace c = false := by
  have hne : address ≠ "" := by
    rintro rfl
    exact absurd h (by decide)
  unfold checkValidIpv6 at h
  split at h
  · next groups hparse => exact ⟨hne, solid_of_parseIpv6 hparse⟩
  · cases h

end ArkKvm
