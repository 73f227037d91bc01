import ArkKvm.FtUpload.Store
import ArkKvm.Lib.UnixPath

/-!
# Cancelling a file transfer upload

`cancel_ft_upload` and `remove_ft_closed_upload` take one session of a path out of a map and
remove its cache file.  They hand the path on the virtual disk to the file system of the host
as it is, where `resolve_path` would put the mount point before it.
-/

namespace ArkKvm.FtUpload

open Lib
open Upload (Path UploadId)

/-! ## Where paths lead -/

/-- `PathBuf::join`. -/
def joinPath (mountPoint : Path) (rel : List Char) : Path :=
  String.ofList (UnixPath.join mountPoint.toList rel)

def unsafeComponent (components : List (List Char)) : Option (List Char) :=
  components.find? fun c => c = ".".toList || c = "..".toList

def safeComponents (userPath : Path) (components : List (List Char)) :
    Except String (List (List Char)) :=
  match unsafeComponent components with
  | some c => .error ("Unsafe path component '" ++ String.ofList c ++ "' is not allowed in path '" ++
      userPath ++ "'")
  | none => .ok components

def resolvePath (mountPoint userPath : Path) : Except String Path := do
  let cs := userPath.toList
  if cs = [] ∨ cs = ['/'] then return mountPoint
  else if cs.head? = some '/' then
    let components ← safeComponents userPath ((cs.tail.splitOn '/').filter (· ≠ []))
    let normalized := List.intercalate ['/'] components
    return if normalized = [] then mountPoint else joinPath mountPoint normalized
  else
    let _ ← safeComponents userPath (cs.splitOn '/')
    return joinPath mountPoint cs

/-- The file of the virtual disk that a path of the host leads to, by its name there. -/
def underMount (mountPoint p : Path) : Option Path :=
  if (mountPoint ++ "/").toList <+: p.toList then
    some (String.ofList (p.toList.drop mountPoint.toList.length))
  else none

def PlainComponents (components : List (List Char)) : Prop :=
  components ≠ [] ∧ ∀ c ∈ components, '/' ∉ c ∧ c ≠ [] ∧ c ≠ ".".toList ∧ c ≠ "..".toList

theorem underMount_resolvePath {mountPoint : Path} (hmount : mountPoint ≠ "")
    (hend : mountPoint.toList.getLast? ≠ some '/') {components : List (List Char)}
    (h : PlainComponents components) :
    ∃ p, resolvePath mountPoint (String.ofList ('/' :: List.intercalate ['/'] components)) = .ok p ∧
      underMount mountPoint p = some (String.ofList ('/' :: List.intercalate ['/'] components)) := by
  obtain ⟨hne, hplain⟩ := h
  have hsplit : (List.intercalate ['/'] components).splitOn '/' = components :=
    List.splitOn_intercalate '/' (fun c hc => (hplain c hc).1) hne
  have hfilter : components.filter (· ≠ []) = components := by
    rw [List.filter_eq_self]
    intro c hc
    exact decide_eq_true (hplain c hc).2.1
  have hsafe : ∀ p, safeComponents p components = .ok components := by
    intro p
    have hnone : unsafeComponent components = none := by
      rw [unsafeComponent, List.find?_eq_none]
      intro c hc
      rw [Bool.or_eq_true, decide_eq_true_iff, decide_eq_true_iff, not_or]
      exact (hplain c hc).2.2
    rw [safeComponents, hnone]
  have hsome : List.intercalate ['/'] components ≠ [] := by
    intro hnil
    have hone : components = [[]] := by
      rw [← hsplit, hnil]
      rfl
    exact (hplain [] (by rw [hone]; exact List.mem_singleton_self _)).2.1 rfl
  have hrel : (List.intercalate ['/'] components).head? ≠ some '/' := by
    cases components with
    | nil => exact absurd rfl hne
    | cons c rest =>
        obtain ⟨hslash, hc, -⟩ := hplain c List.mem_cons_self
        rw [UnixPath.head?_intercalate rest hc]
        exact fun hmem => hslash (List.mem_of_mem_head? hmem)
  have hjoin : UnixPath.join mountPoint.toList (List.intercalate ['/'] components) =
      mountPoint.toList ++ '/' :: List.intercalate ['/'] components := by
    have hsome : mountPoint.toList ≠ [] := fun h => hmount (String.toList_injective h)
    unfold UnixPath.join
    rw [if_neg hrel, if_neg (not_or.mpr ⟨hsome, hend⟩)]
  refine ⟨String.ofList (mountPoint.toList ++ '/' :: List.intercalate ['/'] components), ?_, ?_⟩
  · unfold resolvePath joinPath
    rw [String.toList_ofList]
    dsimp only
    rw [List.tail_cons, hsplit, hfilter, hsafe]
    have hlong : ¬ ('/' :: List.intercalate ['/'] components = [] ∨
        '/' :: List.intercalate ['/'] components = ['/']) := by simpa using hsome
    rw [if_neg hlong, if_pos List.head?_cons]
    show Except.ok (if _ then _ else _) = _
    rw [if_neg hsome, hjoin]
  · unfold underMount
    rw [String.toList_ofList, if_pos, List.drop_left]
    rw [String.toList_append]
    exact ⟨List.intercalate ['/'] components, by simp⟩

theorem fileCachePathOf_eq (path name : String) :
    fileCachePathOf path name = filePathOf path name ++ ".ftcache" := by
  apply String.toList_injective
  unfold fileCachePathOf filePathOf
  have hsplit : (path ++ "/" ++ name ++ ".ftcache").toList =
      (path ++ "/" ++ name).toList ++ '.' :: "ftcache".toList := by
    rw [String.toList_append]
    rfl
  have hsuffix : replaceDoubleSlash "ftcache".toList = "ftcache".toList := rfl
  have hright : ∀ cs : List Char,
      (String.ofList cs ++ ".ftcache").toList = cs ++ '.' :: "ftcache".toList := by
    intro cs
    rw [String.toList_append, String.toList_ofList]
    rfl
  rw [hsplit, replaceDoubleSlash_append (by decide), hsuffix, String.toList_ofList]
  exact (hright _).symm

/-! ## The functions -/

/-- The upload store and the files of the host that do not lie on the virtual disk. -/
structure World where
  store : Store
  outside : Disk Path

inductive UploadMap
  | pending
  | closed

namespace World

def map (w : World) : UploadMap → Table UploadId FtPendingUpload
  | .pending => w.store.pending
  | .closed => w.store.closed

def erase (w : World) (id : UploadId) : UploadMap → World
  | .pending => { w with store := { w.store with pending := w.store.pending.erase id } }
  | .closed => { w with store := { w.store with closed := w.store.closed.erase id } }

variable (mount : Path → Option Path)

def hostContents (w : World) (p : Path) : Option (List UInt8) :=
  match mount p with
  | some v => w.store.disk.contents v
  | none => w.outside.contents p

def hostRemove (w : World) (p : Path) : World :=
  match mount p with
  | some v => { w with store := { w.store with disk := w.store.disk.remove v } }
  | none => { w with outside := w.outside.remove p }

end World

/-- What the host and the hash map answer to one of the functions. -/
structure CancelOutcome where
  pick : UploadId
  /-- `Path::exists` sees a directory at the path, which `remove_file` refuses -/
  directory : Bool
  /-- `Path::exists` takes a failing stat for a missing file -/
  seen : Bool
  removed : Bool

variable (mount : Path → Option Path)

/-- `if Path::new(p).exists() { fs::remove_file(p).await? }`. -/
def removeHostFile (o : CancelOutcome) (p : Path) : Action String World Unit := fun w =>
  if o.directory then (w, .error "Is a directory")
  else if (w.hostContents mount p).isSome ∧ o.seen = true then
    if o.removed then (w.hostRemove mount p, .ok ()) else (w, .error "Failed to remove file")
  else (w, .ok ())

/-- Take the first session of a path out of a map and remove the file at its upload path.  A
writer whose shutdown fails is dropped all the same. -/
def removeFirst (m : UploadMap) (o : CancelOutcome) (path : Path) : Action String World Unit :=
  fun w =>
    match Table.findEntry (w.map m) (fun e => e.finalPath = path) o.pick with
    | none => (w, .ok ())
    | some (uploadId, entry) => removeHostFile mount o entry.uploadPath (w.erase uploadId m)

def cancelFtUpload (o : CancelOutcome) (path : Path) : Action String World Unit :=
  removeFirst mount .pending o path

def removeFtClosedUpload (o : CancelOutcome) (path : Path) : Action String World Unit :=
  removeFirst mount .closed o path

def cancelBoth (o : UploadMap → CancelOutcome) (path : Path) : Action String World Unit := do
  cancelFtUpload mount (o .pending) path
  removeFtClosedUpload mount (o .closed) path

/-! ## What they promise, and when they keep it -/

/-- The upload is gone: its sessions, its cache file, and nothing else. -/
structure Cancelled (path : Path) (w w' : World) : Prop where
  unlisted : ∀ m id e, (w'.map m).lookup id = some e → e.finalPath ≠ path
  cacheGone : w'.store.disk.contents (path ++ ".ftcache") = none
  untouched : w'.outside.contents = w.outside.contents

def Session (w : World) (path : Path) (m : UploadMap) (id : UploadId) (e : FtPendingUpload) :
    Prop :=
  (w.map m).lookup id = some e ∧ e.finalPath = path

/-- Each map has one session of the path at most, the cache file is not there or is what the
upload path of a session leads to on the host, and no upload path leads to a file of the host
outside the virtual disk. -/
structure CancelsCleanly (o : UploadMap → CancelOutcome) (path : Path) (w : World) : Prop where
  alone : ∀ m id e id' e', Session w path m id e → Session w path m id' e' → id = id'
  cache : w.store.disk.contents (path ++ ".ftcache") = none ∨
    ∃ m id e, Session w path m id e ∧ (o m).seen = true ∧
      mount e.uploadPath = some (path ++ ".ftcache")
  outside : ∀ m id e, Session w path m id e → (o m).seen = true → mount e.uploadPath = none →
    w.outside.contents e.uploadPath = none

/-! ## What a successful call does -/

variable {mount} {o : CancelOutcome} {path : Path} {m : UploadMap} {w w' : World}

structure Removes (mount : Path → Option Path) (seen : Bool) (p : Path) (w w' : World) : Prop where
  maps : ∀ m, w'.map m = w.map m
  disk : ∀ v, w'.store.disk.contents v =
    if seen = true ∧ mount p = some v then none else w.store.disk.contents v
  outside : ∀ q, w'.outside.contents q =
    if seen = true ∧ mount p = none ∧ q = p then none else w.outside.contents q

theorem removes_of_unseen {p : Path} (h : ¬ ((w.hostContents mount p).isSome ∧ o.seen = true)) :
    Removes mount o.seen p w w where
  maps := fun _ => rfl
  disk := by
    intro v
    split
    · next hv =>
        unfold World.hostContents at h
        rw [hv.2] at h
        simpa [hv.1] using h
    · rfl
  outside := by
    intro q
    split
    · next hq =>
        unfold World.hostContents at h
        rw [hq.2.1] at h
        rw [hq.2.2]
        simpa [hq.1] using h
    · rfl

theorem removes_hostRemove {p : Path} (hseen : o.seen = true) :
    Removes mount o.seen p w (w.hostRemove mount p) := by
  unfold World.hostRemove
  cases hp : mount p with
  | none =>
      refine ⟨fun m => by cases m <;> rfl, fun v => ?_, fun q => ?_⟩
      · rw [hp]
        simp
      · rw [hp, hseen]
        simpa using Disk.contents_remove w.outside p q
  | some u =>
      refine ⟨fun m => by cases m <;> rfl, fun v => ?_, fun q => ?_⟩
      · rw [hp, hseen]
        simpa [eq_comm] using Disk.contents_remove w.store.disk u v
      · rw [hp]
        simp

theorem removeHostFile_ok {p : Path} (h : removeHostFile mount o p w = (w', .ok ())) :
    Removes mount o.seen p w w' := by
  unfold removeHostFile at h
  split at h
  · cases h
  · split at h
    · next hthere =>
        split at h
        · cases h
          exact removes_hostRemove hthere.2
        · cases h
    · next hmissing =>
        cases h
        exact removes_of_unseen hmissing

theorem map_erase_self (w : World) (id : UploadId) (m : UploadMap) :
    (w.erase id m).map m = (w.map m).erase id := by cases m <;> rfl

theorem map_erase_of_ne (w : World) (id : UploadId) {m m' : UploadMap} (h : m' ≠ m) :
    (w.erase id m).map m' = w.map m' := by
  cases m <;> cases m' <;> first | rfl | exact absurd rfl h

/-- A successful call finds no session, or takes one out and removes the file at its upload
path. -/
inductive Took (mount : Path → Option Path) (seen : Bool) (path : Path) (m : UploadMap)
    (w w' : World) : Prop
  | nothing (hnone : ∀ id e, ¬ Session w path m id e) (hsame : w' = w)
  | session {id : UploadId} {e : FtPendingUpload} (hsession : Session w path m id e)
      (hremoves : Removes mount seen e.uploadPath (w.erase id m) w')

theorem removeFirst_ok (h : removeFirst mount m o path w = (w', .ok ())) :
    Took mount o.seen path m w w' := by
  unfold removeFirst at h
  cases hfind : Table.findEntry (w.map m) (fun e => e.finalPath = path) o.pick with
  | none =>
      rw [hfind] at h
      cases h
      refine .nothing ?_ rfl
      rintro id e ⟨hlookup, hpath⟩
      have := Table.findEntry_none hfind hlookup
      simp [hpath] at this
  | some x =>
      obtain ⟨id, e⟩ := x
      rw [hfind] at h
      obtain ⟨hlookup, hpath⟩ := Table.findEntry_some hfind
      exact .session ⟨hlookup, of_decide_eq_true hpath⟩ (removeHostFile_ok h)

/-! ## The exact condition -/

theorem took_maps (h : Took mount o.seen path m w w') {m' : UploadMap} (hne : m' ≠ m) :
    w'.map m' = w.map m' := by
  cases h with
  | nothing hnone hsame => rw [hsame]
  | session hsession hremoves => rw [hremoves.maps, map_erase_of_ne w _ hne]

theorem took_unlisted_iff (h : Took mount o.seen path m w w') :
    (∀ id e, ¬ Session w' path m id e) ↔
      ∀ id e id' e', Session w path m id e → Session w path m id' e' → id = id' := by
  cases h with
  | nothing hnone hsame =>
      subst hsame
      exact ⟨fun _ id e _ _ h _ => absurd h (hnone id e), fun _ => hnone⟩
  | @session id e hsession hremoves =>
      have hafter : ∀ id' e', Session w' path m id' e' ↔ id' ≠ id ∧ Session w path m id' e' := by
        intro id' e'
        unfold Session
        rw [hremoves.maps, map_erase_self, Table.lookup_erase_iff, and_assoc]
      constructor
      · intro hempty id₁ e₁ id₂ e₂ h₁ h₂
        have hself : ∀ id' e', Session w path m id' e' → id' = id := by
          intro id' e' h'
          by_contra hne
          exact hempty id' e' ((hafter id' e').mpr ⟨hne, h'⟩)
        rw [hself id₁ e₁ h₁, hself id₂ e₂ h₂]
      · intro halone id' e' h'
        obtain ⟨hne, hold⟩ := (hafter id' e').mp h'
        exact hne (halone id' e' id e hold hsession)

theorem took_disk (h : Took mount o.seen path m w w')
    (halone : ∀ id e id' e', Session w path m id e → Session w path m id' e' → id = id')
    (v : Path) :
    w'.store.disk.contents v = none ↔ w.store.disk.contents v = none ∨
      ∃ id e, Session w path m id e ∧ o.seen = true ∧ mount e.uploadPath = some v := by
  cases h with
  | nothing hnone hsame =>
      subst hsame
      exact ⟨.inl, fun h => h.elim (fun h => h) fun ⟨id, e, h, _⟩ => absurd h (hnone id e)⟩
  | @session id e hsession hremoves =>
      have herase : (w.erase id m).store.disk = w.store.disk := by cases m <;> rfl
      rw [hremoves.disk, herase]
      split
      · next hgone => exact iff_of_true rfl (.inr ⟨id, e, hsession, hgone⟩)
      · next hstays =>
          refine ⟨.inl, fun h => h.elim (fun h => h) ?_⟩
          rintro ⟨id', e', hsession', hgone⟩
          obtain rfl := halone id' e' id e hsession' hsession
          cases hsession'.1.symm.trans hsession.1
          exact absurd hgone hstays

theorem took_outside (h : Took mount o.seen path m w w')
    (halone : ∀ id e id' e', Session w path m id e → Session w path m id' e' → id = id') :
    w'.outside.contents = w.outside.contents ↔
      ∀ id e, Session w path m id e → o.seen = true → mount e.uploadPath = none →
        w.outside.contents e.uploadPath = none := by
  cases h with
  | nothing hnone hsame =>
      subst hsame
      exact iff_of_true rfl fun id e h => absurd h (hnone id e)
  | @session id e hsession hremoves =>
      have herase : (w.erase id m).outside = w.outside := by cases m <;> rfl
      constructor
      · intro hsame id' e' hsession' hseen hmount
        obtain rfl := halone id' e' id e hsession' hsession
        cases hsession'.1.symm.trans hsession.1
        rw [← hsame, hremoves.outside, if_pos ⟨hseen, hmount, rfl⟩]
      · intro hfree
        funext q
        rw [hremoves.outside, herase]
        split
        · next hgone =>
            rw [hgone.2.2]
            exact (hfree id e hsession hgone.1 hgone.2.1).symm
        · rfl

theorem took_outside_shrinks (h : Took mount o.seen path m w w') (q : Path) :
    w'.outside.contents q = none ∨ w'.outside.contents q = w.outside.contents q := by
  cases h with
  | nothing hnone hsame => exact .inr (by rw [hsame])
  | @session id e hsession hremoves =>
      have herase : (w.erase id m).outside = w.outside := by cases m <;> rfl
      rw [hremoves.outside, herase]
      split
      · exact .inl rfl
      · exact .inr rfl

/-- Two successful calls: the upload is cancelled if and only if the condition holds. -/
theorem cancelled_iff {o : UploadMap → CancelOutcome}
    (h : cancelBoth mount o path w = (w', .ok ())) :
    Cancelled path w w' ↔ CancelsCleanly mount o path w := by
  obtain ⟨_, w₁, hfirst, hsecond⟩ := Action.bind_eq_ok h
  have htook₁ := removeFirst_ok hfirst
  have htook₂ := removeFirst_ok hsecond
  have hclosed : ∀ id e, Session w₁ path .closed id e ↔ Session w path .closed id e := by
    intro id e
    rw [Session, took_maps htook₁ (by nofun), Session]
  have hpending : ∀ id e, Session w' path .pending id e ↔ Session w₁ path .pending id e := by
    intro id e
    rw [Session, took_maps htook₂ (by nofun), Session]
  have hmiddle : w'.outside.contents = w.outside.contents ↔
      w₁.outside.contents = w.outside.contents ∧ w'.outside.contents = w₁.outside.contents := by
    refine ⟨fun hsame => ?_, fun ⟨h₁, h₂⟩ => h₂.trans h₁⟩
    have hfirst' : w₁.outside.contents = w.outside.contents := by
      funext q
      rcases took_outside_shrinks htook₁ q with hgone | hkept
      · rcases took_outside_shrinks htook₂ q with hgone' | hkept'
        · rw [hgone, ← hsame, hgone']
        · rw [← hsame, hkept']
      · exact hkept
    exact ⟨hfirst', hsame.trans hfirst'.symm⟩
  constructor
  · intro hc
    have halone₁ := (took_unlisted_iff htook₁).mp fun id e hs =>
      hc.unlisted .pending id e ((hpending id e).mpr hs).1 hs.2
    have halone₂ := (took_unlisted_iff htook₂).mp fun id e hs =>
      hc.unlisted .closed id e hs.1 hs.2
    obtain ⟨hsame₁, hsame₂⟩ := hmiddle.mp hc.untouched
    refine ⟨fun m => ?_, ?_, fun m => ?_⟩
    · cases m with
      | pending => exact halone₁
      | closed =>
          intro id e id' e' hs hs'
          exact halone₂ id e id' e' ((hclosed id e).mpr hs) ((hclosed id' e').mpr hs')
    · rcases (took_disk htook₂ halone₂ _).mp hc.cacheGone with hgone | ⟨id, e, hs, hleads⟩
      · rcases (took_disk htook₁ halone₁ _).mp hgone with habsent | ⟨id, e, hs, hleads⟩
        · exact .inl habsent
        · exact .inr ⟨.pending, id, e, hs, hleads⟩
      · exact .inr ⟨.closed, id, e, (hclosed id e).mp hs, hleads⟩
    · cases m with
      | pending => exact (took_outside htook₁ halone₁).mp hsame₁
      | closed =>
          intro id e hs hseen hmount
          rw [← hsame₁]
          exact (took_outside htook₂ halone₂).mp hsame₂ id e ((hclosed id e).mpr hs) hseen hmount
  · intro hc
    have halone₁ := hc.alone .pending
    have halone₂ : ∀ id e id' e', Session w₁ path .closed id e → Session w₁ path .closed id' e' →
        id = id' := fun id e id' e' hs hs' =>
      hc.alone .closed id e id' e' ((hclosed id e).mp hs) ((hclosed id' e').mp hs')
    have hsame₁ := (took_outside htook₁ halone₁).mpr (hc.outside .pending)
    refine ⟨fun m => ?_, ?_, hmiddle.mpr ⟨hsame₁, ?_⟩⟩
    · cases m with
      | pending =>
          intro id e hlookup hpath
          exact (took_unlisted_iff htook₁).mpr halone₁ id e ((hpending id e).mp ⟨hlookup, hpath⟩)
      | closed =>
          intro id e hlookup hpath
          exact (took_unlisted_iff htook₂).mpr halone₂ id e ⟨hlookup, hpath⟩
    · apply (took_disk htook₂ halone₂ _).mpr
      rcases hc.cache with habsent | ⟨m, id, e, hs, hleads⟩
      · exact .inl ((took_disk htook₁ halone₁ _).mpr (.inl habsent))
      · cases m with
        | pending => exact .inl ((took_disk htook₁ halone₁ _).mpr (.inr ⟨id, e, hs, hleads⟩))
        | closed => exact .inr ⟨id, e, (hclosed id e).mpr hs, hleads⟩
    · apply (took_outside htook₂ halone₂).mpr
      intro id e hs hseen hmount
      rw [hsame₁]
      exact hc.outside .closed id e ((hclosed id e).mp hs) hseen hmount

section Witness

private def someStart : StartOutcome where
  finalKnown := true
  cacheKnown := true
  sized := true
  discarded := ⟨true, true, true⟩
  reopened := true
  created := true
  opened := true
  pickActive := 0
  pickClosed := 0

private def someCancel : UploadMap → CancelOutcome := fun _ => ⟨0, false, true, true⟩

private def firstWorld : World where
  store :=
    { disk := Disk.empty
      pending := ∅
      closed := ∅
      nextId := 0 }
  outside := (Disk.empty.openCreate "/a.ftcache").1

/-- An upload of three bytes to `/a` has been started. -/
private def startedWorld : World :=
  { firstWorld with store := (startFtFileUpload someStart "/" "a" 3 firstWorld.store).1 }

private def cancelledWorld : World :=
  (cancelBoth (underMount "/mnt/ft_disk") someCancel "/a" startedWorld).1

/-- The cache file of the upload stays, and the file of the host is removed. -/
theorem cancel_misses_cache :
    (startFtFileUpload someStart "/" "a" 3 firstWorld.store).2.isOk = true ∧
    (cancelBoth (underMount "/mnt/ft_disk") someCancel "/a" startedWorld).2.isOk = true ∧
    cancelledWorld.store.disk.contents ("/a" ++ ".ftcache") = some [] ∧
    startedWorld.outside.contents "/a.ftcache" = some [] ∧
    cancelledWorld.outside.contents "/a.ftcache" = none ∧
    ¬ Cancelled "/a" startedWorld cancelledWorld := by
  have hcache : cancelledWorld.store.disk.contents ("/a" ++ ".ftcache") = some [] := by
    decide +kernel
  refine ⟨by decide +kernel, by decide +kernel, hcache, by decide +kernel, by decide +kernel, ?_⟩
  intro h
  rw [h.cacheGone] at hcache
  cases hcache

theorem cancelled_iff_started :
    Cancelled "/a" startedWorld cancelledWorld ↔
      CancelsCleanly (underMount "/mnt/ft_disk") someCancel "/a" startedWorld := by
  have hok :
      (cancelBoth (underMount "/mnt/ft_disk") someCancel "/a" startedWorld).2.isOk = true := by
    decide +kernel
  apply cancelled_iff
  generalize hrun : cancelBoth (underMount "/mnt/ft_disk") someCancel "/a" startedWorld = r at hok
  obtain ⟨w, e | u⟩ := r
  · cases hok
  · rw [cancelledWorld, hrun]

end Witness

/-! ## The cache file stays -/

theorem underMount_ne_self {mountPoint : Path} (h : mountPoint ≠ "") (p : Path) :
    underMount mountPoint p ≠ some p := by
  unfold underMount
  intro hself
  split at hself
  · next hpre =>
      have hlong : 0 < mountPoint.toList.length :=
        List.length_pos_of_ne_nil fun hnil => h (String.toList_eq_nil_iff.mp hnil)
      have hlen := congrArg List.length (congrArg String.toList (Option.some.inj hself))
      have hle := hpre.length_le
      rw [String.toList_ofList, List.length_drop] at hlen
      rw [String.toList_append, List.length_append] at hle
      omega
  · cases hself

/-- Through a mount point that is not empty, sessions with the cache path of their start never
take the cache file with them. -/
theorem contents_cache_of_underMount {mountPoint : Path} (hmount : mountPoint ≠ "")
    {o : UploadMap → CancelOutcome}
    (hnamed : ∀ m id e, Session w path m id e → e.uploadPath = path ++ ".ftcache")
    (h : cancelBoth (underMount mountPoint) o path w = (w', .ok ())) :
    w'.store.disk.contents (path ++ ".ftcache") = w.store.disk.contents (path ++ ".ftcache") := by
  have htook : ∀ {m seen} {w w' : World},
      (∀ id e, Session w path m id e → e.uploadPath = path ++ ".ftcache") →
      Took (underMount mountPoint) seen path m w w' →
      w'.store.disk.contents (path ++ ".ftcache") = w.store.disk.contents (path ++ ".ftcache") := by
    intro m seen w w' hcachePath htook
    cases htook with
    | nothing hnone hsame => rw [hsame]
    | @session id e hsession hremoves =>
        have herase : (w.erase id m).store.disk = w.store.disk := by cases m <;> rfl
        rw [hremoves.disk, herase, if_neg]
        rintro ⟨-, hleads⟩
        rw [hcachePath id e hsession] at hleads
        exact underMount_ne_self hmount _ hleads
  obtain ⟨_, w₁, hfirst, hsecond⟩ := Action.bind_eq_ok h
  have htook₁ := removeFirst_ok hfirst
  rw [htook _ (removeFirst_ok hsecond), htook (hnamed .pending) htook₁]
  intro id e hs
  rw [Session, took_maps htook₁ (by nofun)] at hs
  exact hnamed .closed id e hs

end ArkKvm.FtUpload
