import ArkKvm.Files.ChunkReader
import ArkKvm.Lib.Ini

/-!
# The Range header

`parse_range_header` of `services/local_file.rs` against the single byte ranges of RFC 7233.
Both readings of a header depend on its two fields, the texts before and after the first `-`
behind `bytes=`; they are compared field by field.
-/

namespace ArkKvm.Files

open Lib.Text

/-- `str::parse` for an unsigned 64-bit integer. -/
def parseU64 (s : List Char) : Option Nat :=
  let digits := match s with
    | '+' :: cs => cs
    | cs => cs
  (parseDigits digits).filter (· < 2 ^ 64)

def bytesUnit : List Char := ['b', 'y', 't', 'e', 's', '=']

def parseSuffix (suffix : List Char) (fileSize : Nat) : Except String ByteRange :=
  match parseU64 suffix with
  | none => .error "invalid suffix range"
  | some suffixLen =>
      if suffixLen = 0 then .error "invalid suffix range"
      else if fileSize = 0 then .error "range not satisfiable"
      else .ok ⟨fileSize - suffixLen, fileSize - 1⟩

def parseFirstLast (startS endS : List Char) (fileSize : Nat) : Except String ByteRange :=
  match parseU64 startS with
  | none => .error "invalid range start"
  | some start =>
      if endS = [] then
        if fileSize = 0 then
          if 0 < start then .error "range not satisfiable" else .ok ⟨0, 0⟩
        else if fileSize ≤ start then .error "range not satisfiable"
        else .ok ⟨start, fileSize - 1⟩
      else
        match parseU64 endS with
        | none => .error "invalid range end"
        | some «end» =>
            if fileSize = 0 ∨ «end» < start ∨ fileSize ≤ «end» then
              .error "range not satisfiable"
            else .ok ⟨start, «end»⟩

def parseSpec (spec : List Char) (fileSize : Nat) : Except String ByteRange :=
  if ',' ∈ spec then .error "multipart ranges are not supported"
  else
    match spec with
    | '-' :: suffix => parseSuffix suffix fileSize
    | spec =>
        match splitOnce '-' spec with
        | some (startS, endS) => parseFirstLast startS endS fileSize
        | none => .error "invalid range spec"

def parseRangeHeader (header : String) (fileSize : Nat) : Except String (Option ByteRange) :=
  let header := trim header.toList
  if header = [] then .ok none
  else
    match bytesUnit.isPrefixOf? header with
    | none => .error "invalid range unit"
    | some spec => (parseSpec spec fileSize).map some

/-! ## RFC 7233 -/

inductive RfcRange (fileSize : Nat) : List Char → ByteRange → Prop
  | firstLast {a b : List Char} {first last : Nat} (ha : parseDigits a = some first)
      (hb : parseDigits b = some last) (hle : first ≤ last) (hsat : first < fileSize) :
      RfcRange fileSize (bytesUnit ++ (a ++ '-' :: b)) ⟨first, min last (fileSize - 1)⟩
  | first {a : List Char} {first : Nat} (ha : parseDigits a = some first)
      (hsat : first < fileSize) :
      RfcRange fileSize (bytesUnit ++ (a ++ '-' :: [])) ⟨first, fileSize - 1⟩
  | suffix {b : List Char} {n : Nat} (hb : parseDigits b = some n) (hpos : 0 < n)
      (hsat : 0 < fileSize) :
      RfcRange fileSize (bytesUnit ++ '-' :: b) ⟨fileSize - n, fileSize - 1⟩

/-- The parser answers as the RFC does, and with bounds that the transfer can rely on. -/
structure MeetsRfc (header : String) (fileSize : Nat) : Prop where
  some_iff : ∀ r, parseRangeHeader header fileSize = .ok (some r) ↔
    RfcRange fileSize (trim header.toList) r
  none_iff : parseRangeHeader header fileSize = .ok none ↔ trim header.toList = []
  bounds : ∀ r, parseRangeHeader header fileSize = .ok (some r) →
    r.start ≤ r.end ∧ r.end < fileSize

inductive Field
  | digits (n : Nat)
  | signed (n : Nat)
  | other
deriving DecidableEq

def field : List Char → Field
  | '+' :: cs => match parseDigits cs with
      | some n => .signed n
      | none => .other
  | cs => match parseDigits cs with
      | some n => .digits n
      | none => .other

def fields (header : List Char) : Option (List Char × List Char) :=
  (bytesUnit.isPrefixOf? header).bind (splitOnce '-')

/-- The fields that the parser reads otherwise than the RFC: a last position behind the end of
the file, a suffix of `2 ^ 64` bytes or more, `0-` for an empty file, and a plus sign in a range
that is satisfiable without it. -/
def Deviates (fileSize : Nat) (a b : List Char) : Prop :=
  if a = [] then
    match field b with
    | .digits n => 2 ^ 64 ≤ n ∧ 0 < fileSize
    | .signed n => 0 < n ∧ n < 2 ^ 64 ∧ 0 < fileSize
    | .other => False
  else if b = [] then
    match field a with
    | .digits n => fileSize = 0 ∧ n = 0
    | .signed n => n < fileSize ∨ fileSize = 0 ∧ n = 0
    | .other => False
  else
    match field a, field b with
    | .digits m, .digits n => m ≤ n ∧ m < fileSize ∧ fileSize ≤ n
    | .digits m, .signed n => m ≤ n ∧ n < fileSize
    | .signed m, .digits n => m ≤ n ∧ n < fileSize
    | .signed m, .signed n => m ≤ n ∧ n < fileSize
    | _, _ => False

/-! ## Reading a field -/

theorem parseDigits_plus (cs : List Char) : parseDigits ('+' :: cs) = none := rfl

theorem field_plus (cs : List Char) :
    field ('+' :: cs) = match parseDigits cs with
      | some n => .signed n
      | none => .other := by
  rw [field]

theorem field_eq_of_ne_plus {s : List Char} (h : ∀ cs, s ≠ '+' :: cs) :
    field s = match parseDigits s with
      | some n => .digits n
      | none => .other := by
  unfold field
  split
  · next cs => exact absurd rfl (h cs)
  · rfl

theorem parseDigits_eq_field (s : List Char) :
    parseDigits s = match field s with
      | .digits n => some n
      | _ => none := by
  by_cases hplus : ∃ cs, s = '+' :: cs
  · obtain ⟨cs, rfl⟩ := hplus
    rw [parseDigits_plus, field_plus]
    cases parseDigits cs with
    | none => rfl
    | some n => rfl
  · rw [field_eq_of_ne_plus (fun cs h => hplus ⟨cs, h⟩)]
    cases parseDigits s with
    | none => rfl
    | some n => rfl

/-- The value of a field, with or without a sign. -/
def Field.value : Field → Option Nat
  | .digits n => some n
  | .signed n => some n
  | .other => none

theorem parseU64_eq_field (s : List Char) :
    parseU64 s = (field s).value.filter (· < 2 ^ 64) := by
  by_cases hplus : ∃ cs, s = '+' :: cs
  · obtain ⟨cs, rfl⟩ := hplus
    have hdigits : parseU64 ('+' :: cs) = (parseDigits cs).filter (· < 2 ^ 64) := by
      rw [parseU64]
    rw [hdigits, field_plus]
    cases parseDigits cs with
    | none => rfl
    | some n => rfl
  · have hdigits : parseU64 s = (parseDigits s).filter (· < 2 ^ 64) := by
      unfold parseU64
      split
      · next cs => exact absurd ⟨cs, rfl⟩ hplus
      · rfl
    rw [hdigits, field_eq_of_ne_plus (fun cs h => hplus ⟨cs, h⟩)]
    cases parseDigits s with
    | none => rfl
    | some n => rfl

theorem plain_of_parseU64 {s : List Char} {n : Nat} (h : parseU64 s = some n) :
    ',' ∉ s ∧ '-' ∉ s := by
  have hdigits : ∀ cs, (parseDigits cs).isSome = true → ',' ∉ cs ∧ '-' ∉ cs := by
    intro cs hcs
    obtain ⟨m, hm⟩ := Option.isSome_iff_exists.mp hcs
    have hall := isDigit_of_parseDigits hm
    exact ⟨fun hmem => absurd (hall _ hmem) (by decide),
      fun hmem => absurd (hall _ hmem) (by decide)⟩
  unfold parseU64 at h
  have hsome := (Option.filter_eq_some_iff.mp h).1
  split at hsome
  · next cs =>
      obtain ⟨hcomma, hminus⟩ := hdigits cs (Option.isSome_iff_exists.mpr ⟨n, hsome⟩)
      constructor
      · intro hmem
        obtain heq | hmem := List.mem_cons.mp hmem
        · exact absurd heq (by decide)
        · exact hcomma hmem
      · intro hmem
        obtain heq | hmem := List.mem_cons.mp hmem
        · exact absurd heq (by decide)
        · exact hminus hmem
  · exact hdigits s (Option.isSome_iff_exists.mpr ⟨n, hsome⟩)

/-! ## The two readings of the fields -/

def parseFields (a b : List Char) (fileSize : Nat) : Except String ByteRange :=
  if a = [] then parseSuffix b fileSize else parseFirstLast a b fileSize

def rfcFields (a b : List Char) (fileSize : Nat) : Option ByteRange :=
  if a = [] then
    (parseDigits b).bind fun n =>
      if 0 < n ∧ 0 < fileSize then some ⟨fileSize - n, fileSize - 1⟩ else none
  else
    (parseDigits a).bind fun first =>
      if b = [] then if first < fileSize then some ⟨first, fileSize - 1⟩ else none
      else
        (parseDigits b).bind fun last =>
          if first ≤ last ∧ first < fileSize then some ⟨first, min last (fileSize - 1)⟩ else none

theorem parseSuffix_ok {b : List Char} {fileSize : Nat} {r : ByteRange}
    (h : parseSuffix b fileSize = .ok r) : ∃ n, parseU64 b = some n := by
  unfold parseSuffix at h
  cases hb : parseU64 b with
  | none =>
      rw [hb] at h
      cases h
  | some n => exact ⟨n, rfl⟩

theorem parseFirstLast_ok {a b : List Char} {fileSize : Nat} {r : ByteRange}
    (h : parseFirstLast a b fileSize = .ok r) :
    (∃ n, parseU64 a = some n) ∧ (b = [] ∨ ∃ n, parseU64 b = some n) := by
  unfold parseFirstLast at h
  cases ha : parseU64 a with
  | none =>
      rw [ha] at h
      cases h
  | some n =>
      rw [ha] at h
      dsimp only at h
      refine ⟨⟨n, rfl⟩, ?_⟩
      by_cases hb : b = []
      · exact .inl hb
      · rw [if_neg hb] at h
        cases hlast : parseU64 b with
        | none =>
            rw [hlast] at h
            cases h
        | some m => exact .inr ⟨m, rfl⟩

theorem comma_notMem {a b : List Char} {fileSize : Nat} {r : ByteRange}
    (h : parseFields a b fileSize = .ok r) : ',' ∉ a ++ '-' :: b := by
  have hplain : ',' ∉ a ∧ ',' ∉ b := by
    unfold parseFields at h
    by_cases ha : a = []
    · rw [if_pos ha] at h
      obtain ⟨n, hb⟩ := parseSuffix_ok h
      exact ⟨by rw [ha]; exact List.not_mem_nil, (plain_of_parseU64 hb).1⟩
    · rw [if_neg ha] at h
      obtain ⟨⟨n, hfirst⟩, hlast⟩ := parseFirstLast_ok h
      refine ⟨(plain_of_parseU64 hfirst).1, ?_⟩
      obtain rfl | ⟨m, hm⟩ := hlast
      · exact List.not_mem_nil
      · exact (plain_of_parseU64 hm).1
  intro hmem
  obtain hmem | hmem := List.mem_append.mp hmem
  · exact hplain.1 hmem
  · obtain heq | hmem := List.mem_cons.mp hmem
    · exact absurd heq (by decide)
    · exact hplain.2 hmem

theorem parseSpec_eq {spec : List Char} {fileSize : Nat} (hcomma : ',' ∉ spec) :
    parseSpec spec fileSize = match splitOnce '-' spec with
      | some (a, b) => parseFields a b fileSize
      | none => .error "invalid range spec" := by
  unfold parseSpec
  rw [if_neg hcomma]
  split
  · next suffix =>
      rw [splitOnce, if_pos rfl]
      rfl
  · next hminus =>
      cases hsplit : splitOnce '-' spec with
      | none => rfl
      | some parts =>
          obtain ⟨a, b⟩ := parts
          have ha : a ≠ [] := by
            rintro rfl
            exact hminus b (splitOnce_eq_some hsplit)
          unfold parseFields
          dsimp only
          rw [if_neg ha]

theorem parseSpec_ok_iff {spec : List Char} {fileSize : Nat} {r : ByteRange} :
    parseSpec spec fileSize = .ok r ↔
      ∃ a b, splitOnce '-' spec = some (a, b) ∧ parseFields a b fileSize = .ok r := by
  constructor
  · intro h
    by_cases hcomma : ',' ∈ spec
    · unfold parseSpec at h
      rw [if_pos hcomma] at h
      cases h
    · rw [parseSpec_eq hcomma] at h
      cases hsplit : splitOnce '-' spec with
      | none =>
          rw [hsplit] at h
          cases h
      | some parts =>
          rw [hsplit] at h
          exact ⟨parts.1, parts.2, rfl, h⟩
  · rintro ⟨a, b, hsplit, h⟩
    have hcomma : ',' ∉ spec := by
      rw [splitOnce_eq_some hsplit]
      exact comma_notMem h
    rw [parseSpec_eq hcomma, hsplit]
    exact h

theorem isPrefixOf?_append (p spec : List Char) : p.isPrefixOf? (p ++ spec) = some spec :=
  List.isPrefixOf?_eq_some_iff_append_eq.mpr rfl

/-- The parser answers with a range exactly when its fields give one. -/
theorem parseRangeHeader_some_iff {header : String} {fileSize : Nat} {r : ByteRange} :
    parseRangeHeader header fileSize = .ok (some r) ↔
      ∃ a b, fields (trim header.toList) = some (a, b) ∧ parseFields a b fileSize = .ok r := by
  unfold parseRangeHeader fields
  dsimp only
  by_cases hempty : trim header.toList = []
  · rw [if_pos hempty, hempty]
    constructor
    · nofun
    · rintro ⟨a, b, hfields, -⟩
      cases hfields
  · rw [if_neg hempty]
    cases hunit : bytesUnit.isPrefixOf? (trim header.toList) with
    | none =>
        constructor
        · nofun
        · rintro ⟨a, b, hfields, -⟩
          cases hfields
    | some spec =>
        rw [Option.bind_some, ← parseSpec_ok_iff]
        dsimp only
        cases parseSpec spec fileSize with
        | error e =>
            constructor
            · nofun
            · nofun
        | ok r' =>
            constructor
            · intro h
              cases h
              rfl
            · intro h
              cases h
              rfl

theorem parseRangeHeader_none_iff {header : String} {fileSize : Nat} :
    parseRangeHeader header fileSize = .ok none ↔ trim header.toList = [] := by
  unfold parseRangeHeader
  dsimp only
  by_cases hempty : trim header.toList = []
  · rw [if_pos hempty]
    exact ⟨fun _ => hempty, fun _ => rfl⟩
  · rw [if_neg hempty]
    refine ⟨fun h => ?_, fun h => absurd h hempty⟩
    split at h
    · cases h
    · next spec hunit =>
        cases hspec : parseSpec spec fileSize with
        | error e =>
            rw [hspec] at h
            cases h
        | ok r =>
            rw [hspec] at h
            cases h

theorem minus_notMem_of_parseDigits {s : List Char} {n : Nat} (h : parseDigits s = some n) :
    '-' ∉ s :=
  fun hmem => absurd (isDigit_of_parseDigits h _ hmem) (by decide)

theorem ne_nil_of_parseDigits {s : List Char} {n : Nat} (h : parseDigits s = some n) : s ≠ [] := by
  rintro rfl
  cases h

theorem fields_eq {a b : List Char} (h : '-' ∉ a) :
    fields (bytesUnit ++ (a ++ '-' :: b)) = some (a, b) := by
  unfold fields
  rw [isPrefixOf?_append, Option.bind_some, splitOnce_append h]

theorem eq_of_fields {header a b : List Char} (h : fields header = some (a, b)) :
    header = bytesUnit ++ (a ++ '-' :: b) := by
  obtain ⟨spec, hunit, hsplit⟩ := Option.bind_eq_some_iff.mp h
  rw [← List.isPrefixOf?_eq_some_iff_append_eq.mp hunit, splitOnce_eq_some hsplit]

theorem rfcRange_iff {header : List Char} {fileSize : Nat} {r : ByteRange} :
    RfcRange fileSize header r ↔
      ∃ a b, fields header = some (a, b) ∧ rfcFields a b fileSize = some r := by
  constructor
  · intro h
    cases h with
    | @firstLast a b first last ha hb hle hsat =>
        refine ⟨a, b, fields_eq (minus_notMem_of_parseDigits ha), ?_⟩
        unfold rfcFields
        rw [if_neg (ne_nil_of_parseDigits ha), ha, Option.bind_some,
          if_neg (ne_nil_of_parseDigits hb), hb, Option.bind_some, if_pos ⟨hle, hsat⟩]
    | @first a first ha hsat =>
        refine ⟨a, [], fields_eq (minus_notMem_of_parseDigits ha), ?_⟩
        unfold rfcFields
        rw [if_neg (ne_nil_of_parseDigits ha), ha, Option.bind_some, if_pos rfl, if_pos hsat]
    | @suffix b n hb hpos hsat =>
        refine ⟨[], b, fields_eq (a := []) List.not_mem_nil, ?_⟩
        unfold rfcFields
        rw [if_pos rfl, hb, Option.bind_some, if_pos ⟨hpos, hsat⟩]
  · rintro ⟨a, b, hfields, hr⟩
    rw [eq_of_fields hfields]
    unfold rfcFields at hr
    by_cases ha : a = []
    · rw [if_pos ha] at hr
      obtain ⟨n, hn, hr⟩ := Option.bind_eq_some_iff.mp hr
      split at hr
      · next hsat =>
          cases hr
          rw [ha]
          exact .suffix hn hsat.1 hsat.2
      · cases hr
    · rw [if_neg ha] at hr
      obtain ⟨first, hfirst, hr⟩ := Option.bind_eq_some_iff.mp hr
      by_cases hb : b = []
      · rw [if_pos hb] at hr
        split at hr
        · next hsat =>
            cases hr
            rw [hb]
            exact .first hfirst hsat
        · cases hr
      · rw [if_neg hb] at hr
        obtain ⟨last, hlast, hr⟩ := Option.bind_eq_some_iff.mp hr
        split at hr
        · next hsat =>
            cases hr
            exact .firstLast hfirst hlast hsat.1 hsat.2
        · cases hr

theorem bind_filter {v : Option Nat} {f : Nat → Option ByteRange} :
    (v.filter (· < 2 ^ 64)).bind f = v.bind fun n => if n < 2 ^ 64 then f n else none := by
  cases v with
  | none => rfl
  | some n =>
      by_cases hn : n < 2 ^ 64
      · have hfilter : (some n).filter (· < 2 ^ 64) = some n :=
          Option.filter_eq_some_iff.mpr ⟨rfl, decide_eq_true hn⟩
        rw [Option.bind_some, if_pos hn, hfilter, Option.bind_some]
      · have hfilter : (some n).filter (· < 2 ^ 64) = none := by
          apply Option.filter_eq_none_iff.mpr
          intro m hm
          cases hm
          simpa using hn
        rw [Option.bind_some, if_neg hn, hfilter, Option.bind_none]

theorem parseSuffix_toOption (b : List Char) (fileSize : Nat) :
    (parseSuffix b fileSize).toOption = (field b).value.bind fun n =>
      if n < 2 ^ 64 ∧ 0 < n ∧ 0 < fileSize then some ⟨fileSize - n, fileSize - 1⟩ else none := by
  have hcode : (parseSuffix b fileSize).toOption = (parseU64 b).bind fun n =>
      if 0 < n ∧ 0 < fileSize then some ⟨fileSize - n, fileSize - 1⟩ else none := by
    unfold parseSuffix
    cases parseU64 b with
    | none => rfl
    | some n =>
        dsimp only [Option.bind_some]
        by_cases hn : n = 0
        · rw [if_pos hn, if_neg (by omega)]
          rfl
        · by_cases hsize : fileSize = 0
          · rw [if_neg hn, if_pos hsize, if_neg (by omega)]
            rfl
          · rw [if_neg hn, if_neg hsize, if_pos (by omega)]
            rfl
  rw [hcode, parseU64_eq_field, bind_filter]
  congr 1
  funext n
  exact (ite_and ..).symm

theorem parseFirst_toOption (a : List Char) {fileSize : Nat} (hsize : fileSize < 2 ^ 64) :
    (parseFirstLast a [] fileSize).toOption = (field a).value.bind fun n =>
      if n < fileSize ∨ fileSize = 0 ∧ n = 0 then some ⟨n, fileSize - 1⟩ else none := by
  have hcode : (parseFirstLast a [] fileSize).toOption = (parseU64 a).bind fun n =>
      if n < fileSize ∨ fileSize = 0 ∧ n = 0 then some ⟨n, fileSize - 1⟩ else none := by
    unfold parseFirstLast
    cases parseU64 a with
    | none => rfl
    | some n =>
        dsimp only [Option.bind_some]
        rw [if_pos rfl]
        by_cases hempty : fileSize = 0
        · rw [if_pos hempty]
          by_cases hn : 0 < n
          · rw [if_pos hn, if_neg (by omega)]
            rfl
          · have hzero : n = 0 := by omega
            rw [if_neg hn, if_pos (.inr ⟨hempty, hzero⟩), hzero, hempty]
            rfl
        · rw [if_neg hempty]
          by_cases hn : fileSize ≤ n
          · rw [if_pos hn, if_neg (by omega)]
            rfl
          · rw [if_neg hn, if_pos (by omega)]
            rfl
  rw [hcode, parseU64_eq_field, bind_filter]
  congr 1
  funext n
  rw [← ite_and]
  congr 1
  apply propext
  omega

theorem parseFirstLast_toOption {b : List Char} (hb : b ≠ []) (a : List Char) {fileSize : Nat}
    (hsize : fileSize < 2 ^ 64) :
    (parseFirstLast a b fileSize).toOption = (field a).value.bind fun m =>
      (field b).value.bind fun n =>
        if m ≤ n ∧ n < fileSize then some ⟨m, n⟩ else none := by
  have hcode : (parseFirstLast a b fileSize).toOption = (parseU64 a).bind fun m =>
      (parseU64 b).bind fun n => if m ≤ n ∧ n < fileSize then some ⟨m, n⟩ else none := by
    unfold parseFirstLast
    cases parseU64 a with
    | none => rfl
    | some m =>
        dsimp only [Option.bind_some]
        rw [if_neg hb]
        cases parseU64 b with
        | none => rfl
        | some n =>
            dsimp only [Option.bind_some]
            by_cases hin : m ≤ n ∧ n < fileSize
            · rw [if_neg (by omega), if_pos hin]
              rfl
            · rw [if_pos (by omega), if_neg hin]
              rfl
  rw [hcode, parseU64_eq_field, bind_filter]
  congr 1
  funext m
  rw [parseU64_eq_field, bind_filter]
  cases (field b).value with
  | none => rw [Option.bind_none, Option.bind_none, ite_self]
  | some n =>
      rw [Option.bind_some, Option.bind_some, ← ite_and, ← ite_and]
      congr 1
      apply propext
      omega

theorem ite_some_eq_none_iff {p : Prop} [Decidable p] {r : ByteRange} :
    (if p then some r else none) = none ↔ ¬ p := by
  by_cases hp : p
  · rw [if_pos hp]
    exact ⟨nofun, fun h => absurd hp h⟩
  · rw [if_neg hp]
    exact ⟨fun _ => hp, fun _ => rfl⟩

theorem ite_some_eq_iff {p q : Prop} [Decidable p] [Decidable q] {r : ByteRange} :
    (if p then some r else none) = (if q then some r else none) ↔ (p ↔ q) := by
  by_cases hq : q
  · rw [if_pos hq]
    by_cases hp : p
    · rw [if_pos hp]
      exact ⟨fun _ => ⟨fun _ => hq, fun _ => hp⟩, fun _ => rfl⟩
    · rw [if_neg hp]
      exact ⟨nofun, fun h => absurd (h.mpr hq) hp⟩
  · rw [if_neg hq, ite_some_eq_none_iff]
    exact ⟨fun h => ⟨fun hp => absurd hp h, fun h' => absurd h' hq⟩, fun h hp => hq (h.mp hp)⟩

theorem suffix_agrees_iff (b : List Char) (fileSize : Nat) :
    (parseSuffix b fileSize).toOption = rfcFields [] b fileSize ↔ ¬ Deviates fileSize [] b := by
  unfold rfcFields Deviates
  rw [if_pos rfl, if_pos rfl, parseSuffix_toOption, parseDigits_eq_field]
  cases field b with
  | digits n =>
      show (if _ then _ else _) = (if _ then _ else _) ↔ _
      rw [ite_some_eq_iff]
      omega
  | signed n =>
      show (if _ then _ else _) = none ↔ _
      rw [ite_some_eq_none_iff]
      dsimp only
      omega
  | other => exact ⟨fun _ => not_false, fun _ => rfl⟩

theorem first_agrees_iff {a : List Char} (ha : a ≠ []) {fileSize : Nat}
    (hsize : fileSize < 2 ^ 64) :
    (parseFirstLast a [] fileSize).toOption = rfcFields a [] fileSize ↔
      ¬ Deviates fileSize a [] := by
  unfold rfcFields Deviates
  rw [if_neg ha, if_neg ha, if_pos rfl, parseFirst_toOption a hsize, parseDigits_eq_field]
  cases field a with
  | digits n =>
      show (if _ then _ else _) = (if _ then _ else _) ↔ _
      rw [ite_some_eq_iff]
      omega
  | signed n =>
      show (if _ then _ else _) = none ↔ _
      exact ite_some_eq_none_iff
  | other => exact ⟨fun _ => not_false, fun _ => rfl⟩

theorem firstLast_agrees_iff {a b : List Char} (ha : a ≠ []) (hb : b ≠ []) {fileSize : Nat}
    (hsize : fileSize < 2 ^ 64) :
    (parseFirstLast a b fileSize).toOption = rfcFields a b fileSize ↔ ¬ Deviates fileSize a b := by
  unfold rfcFields Deviates
  rw [if_neg ha, if_neg ha, if_neg hb, parseFirstLast_toOption hb a hsize, parseDigits_eq_field,
    parseDigits_eq_field]
  cases field a with
  | digits m =>
      cases field b with
      | digits n =>
          show (if _ then _ else _) = (if b = [] then _ else if _ then _ else _) ↔ _
          rw [if_neg hb]
          -- inside the file both readings give the same range, behind its end only one does
          by_cases hin : n < fileSize
          · have hmin : min n (fileSize - 1) = n := by omega
            rw [hmin, ite_some_eq_iff]
            dsimp only
            omega
          · rw [if_neg (fun h => hin h.2), eq_comm, ite_some_eq_none_iff]
            dsimp only
            omega
      | signed n =>
          show (if _ then _ else _) = (if b = [] then _ else none) ↔ _
          rw [if_neg hb]
          exact ite_some_eq_none_iff
      | other =>
          show none = (if b = [] then _ else none) ↔ _
          rw [if_neg hb]
          exact ⟨fun _ => not_false, fun _ => rfl⟩
  | signed m =>
      cases field b with
      | digits n => exact ite_some_eq_none_iff
      | signed n => exact ite_some_eq_none_iff
      | other => exact ⟨fun _ => not_false, fun _ => rfl⟩
  | other => exact ⟨fun _ => not_false, fun _ => rfl⟩

/-- The two readings agree exactly on the fields that do not deviate. -/
theorem fields_agree_iff {a b : List Char} {fileSize : Nat} (hsize : fileSize < 2 ^ 64) :
    (parseFields a b fileSize).toOption = rfcFields a b fileSize ↔ ¬ Deviates fileSize a b := by
  unfold parseFields
  by_cases ha : a = []
  · subst ha
    rw [if_pos rfl]
    exact suffix_agrees_iff b fileSize
  · rw [if_neg ha]
    by_cases hb : b = []
    · subst hb
      exact first_agrees_iff ha hsize
    · exact firstLast_agrees_iff ha hb hsize

/-! ## Headers -/

theorem toOption_eq_some_iff {x : Except String ByteRange} {r : ByteRange} :
    x.toOption = some r ↔ x = .ok r := by
  cases x with
  | error e => exact ⟨nofun, nofun⟩
  | ok r' =>
      constructor
      · intro h
        rw [Option.some.inj h]
      · intro h
        cases h
        rfl

theorem parse_iff_of_fields {header : String} {fileSize : Nat} {a b : List Char}
    (h : fields (trim header.toList) = some (a, b)) (r : ByteRange) :
    parseRangeHeader header fileSize = .ok (some r) ↔
      (parseFields a b fileSize).toOption = some r := by
  rw [parseRangeHeader_some_iff, toOption_eq_some_iff]
  constructor
  · rintro ⟨a', b', hfields, hr⟩
    rw [h] at hfields
    cases hfields
    exact hr
  · exact fun hr => ⟨a, b, h, hr⟩

theorem rfc_iff_of_fields {header : List Char} {fileSize : Nat} {a b : List Char}
    (h : fields header = some (a, b)) (r : ByteRange) :
    RfcRange fileSize header r ↔ rfcFields a b fileSize = some r := by
  rw [rfcRange_iff]
  constructor
  · rintro ⟨a', b', hfields, hr⟩
    rw [h] at hfields
    cases hfields
    exact hr
  · exact fun hr => ⟨a, b, h, hr⟩

theorem RfcRange.bounds {fileSize : Nat} {header : List Char} {r : ByteRange}
    (h : RfcRange fileSize header r) : r.start ≤ r.end ∧ r.end < fileSize := by
  cases h with
  | firstLast ha hb hle hsat =>
      dsimp only
      omega
  | first ha hsat =>
      dsimp only
      omega
  | suffix hb hpos hsat =>
      dsimp only
      omega

/-- The parser implements the single byte ranges of the RFC exactly on the headers whose fields
do not deviate. -/
theorem meetsRfc_iff (header : String) {fileSize : Nat} (hsize : fileSize < 2 ^ 64) :
    MeetsRfc header fileSize ↔
      ∀ a b, fields (trim header.toList) = some (a, b) → ¬ Deviates fileSize a b := by
  constructor
  · intro h a b hfields
    rw [← fields_agree_iff hsize]
    apply Option.ext
    intro r
    rw [← parse_iff_of_fields hfields r, ← rfc_iff_of_fields hfields r]
    exact h.some_iff r
  · intro h
    have hsome : ∀ r, parseRangeHeader header fileSize = .ok (some r) ↔
        RfcRange fileSize (trim header.toList) r := by
      intro r
      cases hfields : fields (trim header.toList) with
      | none =>
          rw [parseRangeHeader_some_iff, rfcRange_iff, hfields]
          constructor
          · rintro ⟨a, b, hnone, -⟩
            cases hnone
          · rintro ⟨a, b, hnone, -⟩
            cases hnone
      | some parts =>
          obtain ⟨a, b⟩ := parts
          rw [parse_iff_of_fields hfields r, rfc_iff_of_fields hfields r,
            (fields_agree_iff hsize).mpr (h a b hfields)]
    exact ⟨hsome, parseRangeHeader_none_iff, fun r hr => ((hsome r).mp hr).bounds⟩

theorem meetsRfc_two_to_five : MeetsRfc "bytes=2-5" 10 := by
  apply (meetsRfc_iff "bytes=2-5" (by norm_num)).mpr
  intro a b hfields
  have hparts : fields (trim "bytes=2-5".toList) = some (['2'], ['5']) := by decide
  rw [hparts] at hfields
  cases hfields
  show ¬ (2 ≤ 5 ∧ 2 < 10 ∧ 10 ≤ 5)
  omega

/-- A last position behind the end of the file is refused; the RFC takes the rest of the file. -/
theorem last_beyond_end_is_refused :
    parseRangeHeader "bytes=0-999" 100 = .error "range not satisfiable" ∧
      ¬ MeetsRfc "bytes=0-999" 100 := by
  have hrefused : parseRangeHeader "bytes=0-999" 100 = .error "range not satisfiable" := by rfl
  refine ⟨hrefused, fun h => ?_⟩
  have hzero : parseDigits ['0'] = some 0 := rfl
  have hlast : parseDigits ['9', '9', '9'] = some 999 := rfl
  have hrfc : RfcRange 100 (trim "bytes=0-999".toList) ⟨0, 99⟩ :=
    RfcRange.firstLast hzero hlast (by norm_num) (by norm_num)
  have haccepted := (h.some_iff ⟨0, 99⟩).mpr hrfc
  rw [hrefused] at haccepted
  cases haccepted

end ArkKvm.Files
