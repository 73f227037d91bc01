import ArkKvm.FtUpload.Cancel
import ArkKvm.Lib.Text
import ArkKvm.Lib.UnixPath

/-!
# The paths that requests name

`user_path_to_relative` of `services/local_file.rs`, `build_relative_file_path` of
`services/ft_file.rs` and `RemoteFs::resolve_path`: the paths that they let through, read with
`/` as separator.  Both services turn `\` into `/`, one of them after its check.
-/

namespace ArkKvm.Files

open Lib.Text Lib.UnixPath

def configDir : List Char := "/userdata/arkkvm".toList

/-- `replace('\\', "/")` -/
def slashed (s : List Char) : List Char := s.map fun c => if c = '\\' then '/' else c

/-- The loop of `validate_relative_components`. -/
def checkComponents (relative : List Char) : List Component → Except String Unit
  | [] => .ok ()
  | .parentDir :: _ | .curDir :: _ =>
      .error ("unsafe path component in '" ++ String.ofList relative ++ "'")
  | .rootDir :: _ => .error ("absolute path not allowed in '" ++ String.ofList relative ++ "'")
  | .normal _ :: rest => checkComponents relative rest

def validateRelativeComponents (relative : List Char) : Except String Unit :=
  if relative = [] then .error "empty path" else checkComponents relative (components relative)

/-! ## Local files -/

/-- The trimmed path without `CONFIG_DIR` and the slashes behind it. -/
def relativePart (trimmed : List Char) : Except String (List Char) :=
  match configDir.isPrefixOf? trimmed with
  | some rest => .ok (rest.dropWhile (· = '/'))
  | none =>
      if trimmed.head? = some '/' then .error "path outside allowed directory" else .ok trimmed

def userPathToRelative (userPath : List Char) : Except String (List Char) := do
  let trimmed := trim userPath
  if trimmed = [] then throw "empty path"
  let relative ← relativePart trimmed
  if relative = [] then throw "empty path"
  validateRelativeComponents relative
  return slashed relative

/-! ## Files of the transfer disk -/

def normalizeRelativePath (path : List Char) : Except String (List Char) := do
  let trimmed := trim path
  if trimmed = [] then throw "empty path"
  if trimmed = ['/'] then return []
  let relative := trimmed.dropWhile (· = '/')
  if relative = [] then return []
  validateRelativeComponents relative
  return slashed relative

def normalizeFilename (name : List Char) : Except String (List Char) := do
  let trimmed := trim name
  if trimmed = [] then throw "empty name"
  validateRelativeComponents trimmed
  if '/' ∈ trimmed ∨ '\\' ∈ trimmed then throw "name must not contain directory separators"
  return trimmed

def buildRelativeFilePath (path name : List Char) : Except String (List Char) := do
  let relPath ← normalizeRelativePath path
  let relName ← normalizeFilename name
  let full := slashed (if relPath = [] then relName else join relPath relName)
  validateRelativeComponents full
  return full

/-! ## What the check lets through -/

/-- A relative path without `..`, and without a dot in front. -/
structure Valid (relative : List Char) : Prop where
  ne_nil : relative ≠ []
  not_absolute : relative.head? ≠ some '/'
  first : (parts relative).head? ≠ some ['.']
  no_parent : ['.', '.'] ∉ parts relative

theorem checkComponents_ok_iff (relative : List Char) (cs : List Component) :
    checkComponents relative cs = .ok () ↔ ∀ c ∈ cs, ∃ name, c = .normal name := by
  induction cs with
  | nil => exact ⟨fun _ => nofun, fun _ => rfl⟩
  | cons c cs ih =>
      rw [List.forall_mem_cons]
      cases c with
      | normal name =>
          unfold checkComponents
          rw [ih]
          exact ⟨fun h => ⟨⟨name, rfl⟩, h⟩, fun h => h.2⟩
      | rootDir | curDir | parentDir =>
          refine ⟨nofun, fun h => ?_⟩
          obtain ⟨⟨name, hname⟩, -⟩ := h
          cases hname

theorem partComponent_parent : partComponent ['.', '.'] = some .parentDir := rfl

theorem partComponent_normal {c : List Char} {component : Component}
    (h : partComponent c = some component) (hc : c ≠ ['.', '.']) :
    ∃ name, component = .normal name := by
  unfold partComponent at h
  split at h
  · cases h
  · cases h
  · exact absurd rfl hc
  · exact ⟨_, (Option.some.inj h).symm⟩

theorem validate_ok_iff (relative : List Char) :
    validateRelativeComponents relative = .ok () ↔ Valid relative := by
  unfold validateRelativeComponents
  by_cases hne : relative = []
  · rw [if_pos hne]
    exact ⟨nofun, fun h => absurd hne h.ne_nil⟩
  rw [if_neg hne, checkComponents_ok_iff]
  unfold components
  simp only [List.mem_append, or_imp, forall_and]
  constructor
  · rintro ⟨hfirst, hparts⟩
    refine ⟨hne, fun hroot => ?_, fun hdot => ?_, fun hparent => ?_⟩
    · rw [if_pos hroot] at hfirst
      obtain ⟨name, hname⟩ := hfirst .rootDir (List.mem_singleton_self _)
      cases hname
    · by_cases hroot : relative.head? = some '/'
      · rw [if_pos hroot] at hfirst
        obtain ⟨name, hname⟩ := hfirst .rootDir (List.mem_singleton_self _)
        cases hname
      · rw [if_neg hroot, if_pos hdot] at hfirst
        obtain ⟨name, hname⟩ := hfirst .curDir (List.mem_singleton_self _)
        cases hname
    · obtain ⟨name, hname⟩ := hparts .parentDir
        (List.mem_filterMap.mpr ⟨['.', '.'], hparent, partComponent_parent⟩)
      cases hname
  · intro h
    rw [if_neg h.not_absolute, if_neg h.first]
    refine ⟨nofun, fun component hcomponent => ?_⟩
    obtain ⟨c, hc, hpart⟩ := List.mem_filterMap.mp hcomponent
    exact partComponent_normal hpart fun heq => h.no_parent (heq ▸ hc)

/-! ## Both separators -/

def isSeparator (c : Char) : Bool := c = '/' || c = '\\'

def bothParts (s : List Char) : List (List Char) := s.splitOnP isSeparator

theorem parts_slashed (s : List Char) : parts (slashed s) = bothParts s := by
  unfold parts bothParts slashed
  rw [List.splitOn_eq_splitOnP]
  induction s with
  | nil => rfl
  | cons c s ih =>
      rw [List.map_cons, List.splitOnP_cons_eq_if_modifyHead, List.splitOnP_cons_eq_if_modifyHead,
        ih]
      by_cases hc : c = '\\'
      · subst hc
        rfl
      · rw [if_neg hc]
        by_cases hslash : c = '/'
        · subst hslash
          rfl
        · have hsep : isSeparator c = false := by
            unfold isSeparator
            rw [decide_eq_false hslash, decide_eq_false hc]
            rfl
          rw [if_neg (by simpa using hslash), hsep]
          rfl

theorem head?_slashed (s : List Char) :
    (slashed s).head? = some '/' ↔ s.head? = some '/' ∨ s.head? = some '\\' := by
  unfold slashed
  cases s with
  | nil => exact ⟨nofun, fun h => h.elim nofun nofun⟩
  | cons c s =>
      simp only [List.map_cons, List.head?_cons, Option.some.injEq]
      by_cases hc : c = '\\'
      · rw [if_pos hc]
        exact ⟨fun _ => Or.inr hc, fun _ => rfl⟩
      · rw [if_neg hc]
        exact ⟨Or.inl, fun h => h.resolve_right hc⟩

theorem slashed_ne_nil {s : List Char} (h : s ≠ []) : slashed s ≠ [] := by
  unfold slashed
  rwa [Ne, List.map_eq_nil_iff]

theorem slashed_eq_self {s : List Char} (h : '\\' ∉ s) : slashed s = s := by
  unfold slashed
  rw [List.map_congr_left (g := id), List.map_id]
  intro c hc
  exact if_neg fun heq : c = '\\' => h (heq ▸ hc)

theorem backslash_notMem_slashed (s : List Char) : '\\' ∉ slashed s := by
  intro h
  obtain ⟨c, -, hc⟩ := List.mem_map.mp h
  split at hc
  · cases hc
  · next hne => exact hne hc

private theorem separator_of_slash (c : Char) (h : (c == '/') = true) : isSeparator c = true := by
  rw [beq_iff_eq.mp h]
  rfl

private theorem dot_plain {n : Nat} : ∀ x ∈ List.replicate n '.', isSeparator x = false := by
  intro x hx
  rw [List.eq_of_mem_replicate hx]
  rfl

theorem parent_mem_bothParts {s : List Char} (h : ['.', '.'] ∈ parts s) :
    ['.', '.'] ∈ bothParts s := by
  unfold parts at h
  rw [List.splitOn_eq_splitOnP] at h
  exact mem_splitOnP_of_refines separator_of_slash h (dot_plain (n := 2))

theorem head?_bothParts {s : List Char} (h : (parts s).head? = some ['.']) :
    (bothParts s).head? = some ['.'] := by
  unfold parts at h
  rw [List.splitOn_eq_splitOnP] at h
  exact (splitOnP_refines separator_of_slash s).1 _ h (dot_plain (n := 1))

/-! ## What each function returns -/

theorem validate_bind_ok_iff {β : Type} {relative : List Char} {f : Unit → Except String β}
    {b : β} :
    (validateRelativeComponents relative).bind f = .ok b ↔ Valid relative ∧ f () = .ok b := by
  rw [Lib.Action.exceptBind_eq_ok_iff, ← validate_ok_iff]
  constructor
  · rintro ⟨_, hvalid, hb⟩
    exact ⟨hvalid, hb⟩
  · rintro ⟨hvalid, hb⟩
    exact ⟨(), hvalid, hb⟩

theorem userPathToRelative_ok_iff (userPath result : List Char) :
    userPathToRelative userPath = .ok result ↔
      trim userPath ≠ [] ∧ ∃ rel, relativePart (trim userPath) = .ok rel ∧ Valid rel ∧
        result = slashed rel := by
  unfold userPathToRelative
  by_cases hempty : trim userPath = []
  · rw [if_pos hempty]
    exact ⟨nofun, fun h => absurd hempty h.1⟩
  rw [if_neg hempty]
  cases hpart : relativePart (trim userPath) with
  | error e => exact ⟨nofun, fun ⟨_, _, hrel, _⟩ => nomatch hrel⟩
  | ok rel =>
      show (if rel = [] then Except.error "empty path" else
        (validateRelativeComponents rel).bind fun _ => .ok (slashed rel)) = .ok result ↔ _
      by_cases hrel : rel = []
      · rw [if_pos hrel]
        refine ⟨nofun, fun ⟨_, rel', hrel', hvalid, _⟩ => ?_⟩
        rw [← Except.ok.inj hrel'] at hvalid
        exact absurd hrel hvalid.ne_nil
      · rw [if_neg hrel, validate_bind_ok_iff]
        constructor
        · rintro ⟨hvalid, hresult⟩
          exact ⟨hempty, rel, rfl, hvalid, (Except.ok.inj hresult).symm⟩
        · rintro ⟨-, rel', hrel', hvalid, rfl⟩
          rw [Except.ok.inj hrel']
          exact ⟨hvalid, rfl⟩

/-- The directory that a path of the transfer disk names, without the slashes in front. -/
def directory (path : List Char) : List Char := (trim path).dropWhile (· = '/')

theorem normalizeRelativePath_ok_iff (path result : List Char) :
    normalizeRelativePath path = .ok result ↔
      trim path ≠ [] ∧ result = slashed (directory path) ∧
        (directory path = [] ∨ Valid (directory path)) := by
  unfold normalizeRelativePath
  by_cases hempty : trim path = []
  · rw [if_pos hempty]
    exact ⟨nofun, fun h => absurd hempty h.1⟩
  rw [if_neg hempty]
  show (if trim path = ['/'] then Except.ok [] else if directory path = [] then .ok [] else
    (validateRelativeComponents (directory path)).bind fun _ => .ok (slashed (directory path))) =
      .ok result ↔ _
  by_cases hroot : directory path = []
  · have hsome : (if trim path = ['/'] then Except.ok [] else if directory path = [] then .ok []
        else (validateRelativeComponents (directory path)).bind fun _ =>
          .ok (slashed (directory path))) = (.ok [] : Except String (List Char)) := by
      split
      · rfl
      · rfl
    rw [hsome, hroot]
    constructor
    · intro h
      exact ⟨hempty, (Except.ok.inj h).symm, Or.inl rfl⟩
    · rintro ⟨-, rfl, -⟩
      rfl
  · have hlong : trim path ≠ ['/'] := by
      intro h
      refine hroot ?_
      unfold directory
      rw [h]
      rfl
    rw [if_neg hlong, if_neg hroot, validate_bind_ok_iff]
    constructor
    · rintro ⟨hvalid, hresult⟩
      exact ⟨hempty, (Except.ok.inj hresult).symm, Or.inr hvalid⟩
    · rintro ⟨-, rfl, hdir⟩
      exact ⟨hdir.resolve_left hroot, rfl⟩

structure FileName (name : List Char) : Prop where
  ne_nil : name ≠ []
  no_slash : '/' ∉ name
  no_backslash : '\\' ∉ name
  not_dot : ¬ DotPart name

theorem FileName.valid {name : List Char} (h : FileName name) : Valid name where
  ne_nil := h.ne_nil
  not_absolute := fun hhead => h.no_slash (List.mem_of_mem_head? hhead)
  first := by
    rw [parts_of_notMem h.no_slash]
    exact fun hfirst => h.not_dot (Or.inl (Option.some.inj hfirst))
  no_parent := by
    rw [parts_of_notMem h.no_slash]
    exact fun hparent => h.not_dot (Or.inr (List.mem_singleton.mp hparent).symm)

theorem normalizeFilename_ok_iff (name result : List Char) :
    normalizeFilename name = .ok result ↔ result = trim name ∧ FileName (trim name) := by
  unfold normalizeFilename
  by_cases hempty : trim name = []
  · rw [if_pos hempty]
    exact ⟨nofun, fun h => absurd hempty h.2.ne_nil⟩
  rw [if_neg hempty]
  show ((validateRelativeComponents (trim name)).bind fun _ =>
    if '/' ∈ trim name ∨ '\\' ∈ trim name then
      .error "name must not contain directory separators"
    else .ok (trim name)) = .ok result ↔ _
  rw [validate_bind_ok_iff]
  constructor
  · rintro ⟨hvalid, hresult⟩
    split at hresult
    · cases hresult
    · next hnone =>
        obtain ⟨hslash, hback⟩ := not_or.mp hnone
        have hfirst := hvalid.first
        have hparent := hvalid.no_parent
        rw [parts_of_notMem hslash] at hfirst hparent
        refine ⟨(Except.ok.inj hresult).symm, hempty, hslash, hback, ?_⟩
        rintro (hdot | hdot)
        · exact hfirst (congrArg some hdot)
        · exact hparent (List.mem_singleton.mpr hdot.symm)
  · rintro ⟨rfl, hname⟩
    exact ⟨hname.valid, if_neg (not_or.mpr ⟨hname.no_slash, hname.no_backslash⟩)⟩

/-- Both separators counted, the directory starts with a name and never goes up. -/
structure Descends (dir : List Char) : Prop where
  first_char : dir.head? ≠ some '\\'
  first : (bothParts dir).head? ≠ some ['.']
  no_parent : ['.', '.'] ∉ bothParts dir

structure AcceptsFile (path name : List Char) : Prop where
  given : trim path ≠ []
  dir : directory path = [] ∨ Descends (directory path)
  file : FileName (trim name)

def filePath (dir name : List Char) : List Char :=
  if dir = [] then name else join (slashed dir) name

theorem directory_not_absolute (path : List Char) : (directory path).head? ≠ some '/' := by
  intro h
  have hnot := List.head?_dropWhile_not (fun c => decide (c = '/')) (trim path)
  unfold directory at h
  rw [h] at hnot
  exact absurd hnot (by decide)

theorem Descends.valid {dir : List Char} (h : Descends dir) (hne : dir ≠ [])
    (hhead : dir.head? ≠ some '/') : Valid dir where
  ne_nil := hne
  not_absolute := hhead
  first := fun hfirst => h.first (head?_bothParts hfirst)
  no_parent := fun hparent => h.no_parent (parent_mem_bothParts hparent)

theorem valid_join_iff {dir name : List Char} (hdir : dir ≠ []) (hhead : dir.head? ≠ some '/')
    (hname : FileName name) : Valid (join (slashed dir) name) ↔ Descends dir := by
  have hne := slashed_ne_nil hdir
  have hfirst := head?_parts_join hne hname.no_slash
  have hparent := mem_parts_join hne hname.no_slash (c := ['.', '.']) nofun
  rw [parts_slashed] at hfirst hparent
  constructor
  · intro h
    refine ⟨fun hback => ?_, fun hdot => ?_, fun hup => ?_⟩
    · refine h.not_absolute ?_
      rw [head?_join hne hname.no_slash, head?_slashed]
      exact Or.inr hback
    · exact h.first (hfirst.trans hdot)
    · exact h.no_parent (hparent.mpr (Or.inl hup))
  · intro h
    refine ⟨fun hnil => ?_, fun habsolute => ?_, fun hdot => ?_, fun hup => ?_⟩
    · have hlen := congrArg List.head? hnil
      rw [head?_join hne hname.no_slash] at hlen
      exact hne (List.head?_eq_none_iff.mp hlen)
    · rw [head?_join hne hname.no_slash, head?_slashed] at habsolute
      exact habsolute.elim hhead h.first_char
    · exact h.first (hfirst.symm.trans hdot)
    · obtain hup | hup := hparent.mp hup
      · exact h.no_parent hup
      · exact hname.not_dot (Or.inr hup.symm)

theorem slashed_filePath {dir name : List Char} (hname : FileName name) :
    slashed (if slashed dir = [] then name else join (slashed dir) name) = filePath dir name := by
  have hnil : slashed dir = [] ↔ dir = [] := List.map_eq_nil_iff
  unfold filePath
  by_cases hdir : dir = []
  · rw [if_pos hdir, if_pos (hnil.mpr hdir)]
    exact slashed_eq_self hname.no_backslash
  · rw [if_neg hdir, if_neg (mt hnil.mp hdir)]
    apply slashed_eq_self
    have hback := backslash_notMem_slashed dir
    have hrel : name.head? ≠ some '/' := hname.valid.not_absolute
    unfold join
    rw [if_neg hrel]
    split
    · exact List.not_mem_append hback hname.no_backslash
    · refine List.not_mem_append hback fun hmem => ?_
      obtain h | h := List.mem_cons.mp hmem
      · cases h
      · exact hname.no_backslash h

theorem valid_filePath_iff {path name : List Char} (hname : FileName name) :
    Valid (filePath (directory path) name) ↔
      directory path = [] ∨ Descends (directory path) := by
  unfold filePath
  by_cases hdir : directory path = []
  · rw [if_pos hdir]
    exact ⟨fun _ => Or.inl hdir, fun _ => hname.valid⟩
  · rw [if_neg hdir, valid_join_iff hdir (directory_not_absolute path) hname]
    exact ⟨Or.inr, fun h => h.resolve_left hdir⟩

theorem buildRelativeFilePath_ok_iff (path name full : List Char) :
    buildRelativeFilePath path name = .ok full ↔
      AcceptsFile path name ∧ full = filePath (directory path) (trim name) := by
  unfold buildRelativeFilePath
  show ((normalizeRelativePath path).bind fun relPath => (normalizeFilename name).bind
    fun relName => (validateRelativeComponents
      (slashed (if relPath = [] then relName else join relPath relName))).bind fun _ =>
        .ok (slashed (if relPath = [] then relName else join relPath relName))) = .ok full ↔ _
  constructor
  · intro h
    obtain ⟨relPath, hpath, h⟩ := Lib.Action.exceptBind_eq_ok_iff.mp h
    obtain ⟨relName, hname, h⟩ := Lib.Action.exceptBind_eq_ok_iff.mp h
    obtain ⟨hgiven, rfl, -⟩ := (normalizeRelativePath_ok_iff path relPath).mp hpath
    obtain ⟨rfl, hfile⟩ := (normalizeFilename_ok_iff name relName).mp hname
    rw [validate_bind_ok_iff, slashed_filePath hfile] at h
    exact ⟨⟨hgiven, (valid_filePath_iff hfile).mp h.1, hfile⟩, (Except.ok.inj h.2).symm⟩
  · rintro ⟨⟨hgiven, hdir, hfile⟩, rfl⟩
    have hpath : normalizeRelativePath path = .ok (slashed (directory path)) := by
      refine (normalizeRelativePath_ok_iff path _).mpr ⟨hgiven, rfl, ?_⟩
      by_cases hnil : directory path = []
      · exact Or.inl hnil
      · exact Or.inr ((hdir.resolve_left hnil).valid hnil (directory_not_absolute path))
    have hname : normalizeFilename name = .ok (trim name) :=
      (normalizeFilename_ok_iff name _).mpr ⟨rfl, hfile⟩
    refine Lib.Action.exceptBind_eq_ok_iff.mpr ⟨_, hpath, ?_⟩
    refine Lib.Action.exceptBind_eq_ok_iff.mpr ⟨_, hname, ?_⟩
    rw [validate_bind_ok_iff, slashed_filePath hfile]
    exact ⟨(valid_filePath_iff hfile).mpr hdir, rfl⟩

/-! ## Containment -/

/-- A path that `user_path_to_relative` lets through stays below the base, and lies in
`CONFIG_DIR` when it is absolute. -/
def LocalContained (base userPath : List Char) : Prop :=
  ∀ rel, userPathToRelative userPath = .ok rel →
    Within base (join base rel) ∧
      ((trim userPath).head? = some '/' → Inside configDir (trim userPath))

def FileContained (base path name : List Char) : Prop :=
  ∀ full, buildRelativeFilePath path name = .ok full → Within base (join base full)

def RemoteContained (mountPoint userPath : String) : Prop :=
  ∀ p, FtUpload.resolvePath mountPoint userPath = .ok p → Within mountPoint.toList p.toList

/-- With its backslashes read as slashes, the path is the base, or goes on behind the base with
no separator in front and no dot part between separators of either kind. -/
def LeadsBack (base rel : List Char) : Prop :=
  slashed rel = base ∨
    (asDirectory base <+: slashed rel ∧
      let rest := rel.drop (asDirectory base).length
      (∀ c, rest.head? = some c → isSeparator c = false) ∧ ∀ c ∈ bothParts rest, ¬ DotPart c)

/-- What the check of the path lets through has no dot part between separators of either kind;
a backslash in front leads back to the base, and `CONFIG_DIR` ends at a slash. -/
def LocalSafe (base userPath : List Char) : Prop :=
  ∀ rel, relativePart (trim userPath) = .ok rel → Valid rel →
    (if rel.head? = some '\\' then LeadsBack base rel
      else ∀ c ∈ bothParts rel, ¬ DotPart c) ∧
    ((trim userPath).head? = some '/' → configDir ++ ['/'] <+: trim userPath)

/-- An accepted directory has no dot part between separators of either kind. -/
def FileSafe (path name : List Char) : Prop :=
  AcceptsFile path name → ['.'] ∉ bothParts (directory path)

theorem plain_slashed_iff (rest : List Char) :
    Plain (slashed rest) ↔
      (∀ c, rest.head? = some c → isSeparator c = false) ∧ ∀ c ∈ bothParts rest, ¬ DotPart c := by
  have hrelative : (slashed rest).head? ≠ some '/' ↔
      ∀ c, rest.head? = some c → isSeparator c = false := by
    rw [Ne, head?_slashed]
    cases rest with
    | nil => simp
    | cons c rest => simp [isSeparator, not_or]
  rw [← parts_slashed, ← hrelative]
  exact ⟨fun h => ⟨h.relative, h.parts⟩, fun h => ⟨h.1, h.2⟩⟩

theorem within_slashed_iff (base rel : List Char) :
    Within base (slashed rel) ↔ LeadsBack base rel := by
  rw [within_iff_drop, show (slashed rel).drop (asDirectory base).length =
    slashed (rel.drop (asDirectory base).length) from List.map_drop.symm, plain_slashed_iff]
  rfl

theorem within_join_slashed_iff {base rel : List Char} (h : Valid rel) :
    Within base (join base (slashed rel)) ↔
      if rel.head? = some '\\' then LeadsBack base rel
      else ∀ c ∈ bothParts rel, ¬ DotPart c := by
  by_cases hback : rel.head? = some '\\'
  · have habsolute : (slashed rel).head? = some '/' := (head?_slashed rel).mpr (Or.inr hback)
    rw [if_pos hback, ← within_slashed_iff]
    unfold join
    rw [if_pos habsolute]
  · have hrelative : (slashed rel).head? ≠ some '/' := by
      rw [Ne, head?_slashed, not_or]
      exact ⟨h.not_absolute, hback⟩
    rw [if_neg hback, within_join_iff hrelative (slashed_ne_nil h.ne_nil), parts_slashed]

theorem inside_configDir_iff {trimmed rel : List Char} (hpart : relativePart trimmed = .ok rel)
    (h : Valid rel) : Inside configDir trimmed ↔ configDir ++ ['/'] <+: trimmed := by
  constructor
  · rintro ⟨rest, rfl, -⟩
    exact ⟨rest, by rw [List.append_assoc]; rfl⟩
  · rintro ⟨rest, rfl⟩
    refine ⟨rest, by rw [List.append_assoc]; rfl, fun hup => ?_⟩
    have hstrip : configDir.isPrefixOf? (configDir ++ ['/'] ++ rest) = some ('/' :: rest) := by
      rw [List.isPrefixOf?_eq_some_iff_append_eq, List.append_assoc]
      rfl
    unfold relativePart at hpart
    rw [hstrip] at hpart
    have hrel : rel = rest.dropWhile (· = '/') := (Except.ok.inj hpart).symm
    refine h.no_parent ?_
    rw [hrel]
    exact (mem_parts_dropWhile (c := ['.', '.']) nofun).mpr hup

theorem localContained_iff (base userPath : List Char) :
    LocalContained base userPath ↔ LocalSafe base userPath := by
  constructor
  · intro h rel hpart hvalid
    have hgiven : trim userPath ≠ [] := by
      intro hnil
      rw [hnil] at hpart
      exact hvalid.ne_nil (Except.ok.inj hpart).symm
    obtain ⟨hwithin, hinside⟩ := h (slashed rel)
      ((userPathToRelative_ok_iff userPath _).mpr ⟨hgiven, rel, hpart, hvalid, rfl⟩)
    refine ⟨(within_join_slashed_iff hvalid).mp hwithin, fun habsolute => ?_⟩
    exact (inside_configDir_iff hpart hvalid).mp (hinside habsolute)
  · intro h result hok
    obtain ⟨-, rel, hpart, hvalid, rfl⟩ := (userPathToRelative_ok_iff userPath result).mp hok
    obtain ⟨hwithin, hbelow⟩ := h rel hpart hvalid
    refine ⟨(within_join_slashed_iff hvalid).mpr hwithin, fun habsolute => ?_⟩
    exact (inside_configDir_iff hpart hvalid).mpr (hbelow habsolute)

theorem mem_parts_filePath {dir name c : List Char} (hname : '/' ∉ name) (hc : c ≠ []) :
    c ∈ parts (filePath dir name) ↔ c ∈ bothParts dir ∨ c = name := by
  unfold filePath
  by_cases hdir : dir = []
  · subst hdir
    rw [if_pos rfl, parts_of_notMem hname, List.mem_singleton]
    constructor
    · exact Or.inr
    · rintro (h | h)
      · exact absurd (List.mem_singleton.mp h) hc
      · exact h
  · rw [if_neg hdir, mem_parts_join (slashed_ne_nil hdir) hname hc, parts_slashed]

theorem fileContained_iff (base path name : List Char) :
    FileContained base path name ↔ FileSafe path name := by
  have hwithin : AcceptsFile path name →
      (Within base (join base (filePath (directory path) (trim name))) ↔
        ∀ c ∈ parts (filePath (directory path) (trim name)), ¬ DotPart c) := by
    intro haccepts
    have hvalid := (valid_filePath_iff haccepts.file).mpr haccepts.dir
    exact within_join_iff hvalid.not_absolute hvalid.ne_nil
  constructor
  · intro h haccepts hdot
    have hfull := h _ ((buildRelativeFilePath_ok_iff path name _).mpr ⟨haccepts, rfl⟩)
    refine (hwithin haccepts).mp hfull ['.'] ?_ (Or.inl rfl)
    exact (mem_parts_filePath haccepts.file.no_slash (c := ['.']) nofun).mpr (Or.inl hdot)
  · intro h full hok
    obtain ⟨haccepts, rfl⟩ := (buildRelativeFilePath_ok_iff path name full).mp hok
    refine (hwithin haccepts).mpr fun c hc hpart => ?_
    have hne : c ≠ [] := by
      rintro rfl
      exact hpart.elim nofun nofun
    obtain hdir | rfl := (mem_parts_filePath haccepts.file.no_slash hne).mp hc
    · obtain rfl | rfl := hpart
      · exact h haccepts hdir
      · obtain hnil | hdescends := haccepts.dir
        · rw [hnil] at hdir
          exact hne (List.mem_singleton.mp hdir)
        · exact hdescends.no_parent hdir
    · exact haccepts.file.not_dot hpart

theorem safeComponents_ok {userPath : String} {cs safe : List (List Char)}
    (h : FtUpload.safeComponents userPath cs = .ok safe) :
    safe = cs ∧ ∀ c ∈ cs, ¬ DotPart c := by
  unfold FtUpload.safeComponents at h
  split at h
  · cases h
  · next hnone =>
      refine ⟨(Except.ok.inj h).symm, fun c hc hdot => ?_⟩
      have hsafe := List.find?_eq_none.mp hnone c hc
      rw [Bool.or_eq_true, decide_eq_true_iff, decide_eq_true_iff] at hsafe
      exact hsafe hdot

theorem remoteContained (mountPoint userPath : String) : RemoteContained mountPoint userPath := by
  intro p hp
  unfold FtUpload.resolvePath at hp
  dsimp only at hp
  split at hp
  · obtain rfl := Except.ok.inj hp
    exact Or.inl rfl
  · split at hp
    · cases hsafe : FtUpload.safeComponents userPath
        ((userPath.toList.tail.splitOn '/').filter (· ≠ [])) with
      | error e =>
          rw [hsafe] at hp
          cases hp
      | ok safe =>
          obtain ⟨rfl, hplain⟩ := safeComponents_ok hsafe
          rw [hsafe] at hp
          obtain rfl := Except.ok.inj hp
          split
          · exact Or.inl rfl
          · have hpart : ∀ c ∈ (userPath.toList.tail.splitOn '/').filter (· ≠ []),
                c ∈ parts userPath.toList.tail ∧ c ≠ [] := by
              intro c hc
              obtain ⟨hmem, hne⟩ := List.mem_filter.mp hc
              exact ⟨hmem, of_decide_eq_true hne⟩
            have hslash : ∀ c ∈ (userPath.toList.tail.splitOn '/').filter (· ≠ []), '/' ∉ c :=
              fun c hc => slash_notMem_of_mem_parts (hpart c hc).1
            have hrel := plain_intercalate hslash (fun c hc => (hpart c hc).2) hplain
            exact Or.inr ⟨_, hrel, String.toList_ofList⟩
    · next hrelative =>
        cases hsafe : FtUpload.safeComponents userPath (userPath.toList.splitOn '/') with
        | error e =>
            rw [hsafe] at hp
            cases hp
        | ok safe =>
            obtain ⟨-, hplain⟩ := safeComponents_ok hsafe
            rw [hsafe] at hp
            obtain rfl := Except.ok.inj hp
            refine Or.inr ⟨userPath.toList, ⟨hrelative, hplain⟩, ?_⟩
            exact String.toList_ofList

/-- What the three validators let through, for every input: the exact conditions under which
the path stays inside, of the two that rewrite backslashes, and the third without one. -/
theorem paths_contained_iff (base : List Char) :
    (∀ userPath, LocalContained base userPath ↔ LocalSafe base userPath) ∧
    (∀ path name, FileContained base path name ↔ FileSafe path name) ∧
    (∀ mountPoint userPath, RemoteContained mountPoint userPath) :=
  ⟨localContained_iff base, fileContained_iff base, remoteContained⟩

/-- The check reads `..\secret` as one name; the path that is returned leads out. -/
theorem backslashes_lead_out :
    ¬ ((∀ base userPath, LocalContained base userPath) ∧
      (∀ base path name, FileContained base path name) ∧
      (∀ mountPoint userPath, RemoteContained mountPoint userPath)) := by
  rintro ⟨hlocal, -, -⟩
  have hsafe := (localContained_iff configDir "..\\secret".toList).mp (hlocal _ _)
  have hvalid : Valid "..\\secret".toList :=
    (validate_ok_iff _).mp (by decide)
  obtain ⟨hplain, -⟩ := hsafe "..\\secret".toList rfl hvalid
  exact hplain ['.', '.'] (by decide) (Or.inr rfl)

end ArkKvm.Files
