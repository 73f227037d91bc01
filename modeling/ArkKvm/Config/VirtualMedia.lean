import ArkKvm.Config.Manager
import ArkKvm.Lib.Pool
import ArkKvm.Lib.Run

/-!
# The list of virtual media

The three calls of `config/manager.rs` that change `virtual_media_list`.  A call runs up to its
next `await`, and other calls may run in between: `add_virtual_media_item` works on the list that
it read before, the other two change the list where it is.
-/

namespace ArkKvm.VirtualMediaList

open Lib

structure VirtualMediaItem where
  name : String
  url : String
  iconKey : String
deriving DecidableEq

structure LiveConfig where
  rest : Config
  virtualMediaList : Option (List VirtualMediaItem)

inductive Updater
  | put (item : VirtualMediaItem) (snapshot : Option (List VirtualMediaItem))
  | remove (name : String)
  | replace (list : Option (List VirtualMediaItem))
deriving DecidableEq

def Updater.apply : Updater → Option (List VirtualMediaItem) → Option (List VirtualMediaItem)
  | .put item (some list), _ => some (list ++ [item])
  | .put item none, _ => some [item]
  | .remove name, list => list.map fun list => list.filter (·.name ≠ name)
  | .replace list, _ => list

/-- Where a call waits: for the read lock of an add, for the write lock of `update`, or for the
save.  A store remembers how many updates there had been when its call read the list. -/
inductive Phase
  | read (item : VirtualMediaItem)
  | store (updater : Updater) (readAt : Nat)
  | save
deriving DecidableEq

structure State where
  config : LiveConfig
  calls : List (Nat × Phase)
  next : Nat
  /-- the updates so far with their calls, the last one first -/
  log : List (Nat × Updater)
  returned : List (Nat × Except ConfigError Unit)

inductive Event
  | add (item : VirtualMediaItem)
  | remove (name : String)
  | update (list : Option (List VirtualMediaItem))
  /-- the next step of a call; `saved` is the outcome of the write to disk -/
  | run (i : Nat) (saved : Bool)

def start (rest : Config) (list : Option (List VirtualMediaItem)) : State :=
  ⟨⟨rest, list⟩, [], 0, [], []⟩

/-- What the URL parser says of a text. -/
abbrev ParseUrl : Type := String → Except String Unit

section

variable (parseUrl : ParseUrl)

def checkVirtualMediaItem (item : VirtualMediaItem) : Except ConfigError Unit :=
  if item.name = "" then .error (.rejected "Virtual media name cannot be empty")
  else if item.url = "" then
    .error (.rejected ("Virtual media(" ++ item.name ++ ") URL cannot be empty"))
  else
    match parseUrl item.url with
    | .error e =>
        .error (.rejected ("Virtual media(" ++ item.name ++ ") URL is not valid: " ++ e))
    | .ok _ => .ok ()

def checkList : List VirtualMediaItem → List String → List String → Except ConfigError Unit
  | [], _, _ => .ok ()
  | item :: rest, names, urls =>
      match checkVirtualMediaItem parseUrl item with
      | .error e => .error e
      | .ok _ =>
          if item.name ∈ names then
            .error (.rejected ("Virtual media name(" ++ item.name ++ ") can not repeat"))
          else if item.url ∈ urls then
            .error (.rejected ("Virtual media URL(" ++ item.url ++ ") can not repeat"))
          else checkList rest (item.name :: names) (item.url :: urls)

def enter (check : Except ConfigError Unit) (phase : Phase) (s : State) : State :=
  match check with
  | .error e => { s with
      next := s.next + 1
      returned := (s.next, .error e) :: s.returned }
  | .ok _ => { s with
      next := s.next + 1
      calls := (s.next, phase) :: s.calls }

def checkName (name : String) : Except ConfigError Unit :=
  if name = "" then .error (.rejected "Virtual media name cannot be empty") else .ok ()

def VirtualMediaItem.debug (item : VirtualMediaItem) : String :=
  "VirtualMediaItem \x7b name: " ++ item.name.quote ++ ", url: " ++ item.url.quote ++
    ", icon_key: " ++ item.iconKey.quote ++ " \x7d"

def clash (item p : VirtualMediaItem) : Bool := p.name = item.name ∨ p.url = item.url

/-- An add takes its copy of the list and looks for the item. -/
def readList (n : Nat) (item : VirtualMediaItem) (s : State) : State :=
  match (s.config.virtualMediaList.getD []).find? (clash item) with
  | some old => { s with
      returned := (n, .error (.rejected ("Virtual media(" ++ old.debug ++ ") already exists"))) ::
        s.returned }
  | none => { s with
      calls := (n, .store (.put item s.config.virtualMediaList) s.log.length) :: s.calls }

def storeList (n : Nat) (updater : Updater) (s : State) : State :=
  let s' := { s with
    config := ⟨s.config.rest.validate.1, updater.apply s.config.virtualMediaList⟩
    log := (n, updater) :: s.log }
  match s.config.rest.validate.2 with
  | .error errors => { s' with returned := (n, .error (.validation errors)) :: s'.returned }
  | .ok _ => { s' with calls := (n, .save) :: s'.calls }

def runCall (saved : Bool) (x : Nat × Phase) (s : State) : State :=
  match x with
  | (n, .read item) => readList n item s
  | (n, .store updater _) => storeList n updater s
  | (n, .save) =>
      { s with returned := (n, if saved then .ok () else .error .save) :: s.returned }

def step (s : State) : Event → Option State
  | .add item => some (enter (checkVirtualMediaItem parseUrl item) (.read item) s)
  | .remove name => some (enter (checkName name) (.store (.remove name) 0) s)
  | .update list =>
      some (enter (checkList parseUrl (list.getD []) [] []) (.store (.replace list) 0) s)
  | .run i saved =>
      (Pool.pick i s.calls).map fun x => runCall saved x.1 { s with calls := x.2 }

end

/-! ## What the list should keep -/

def State.list (s : State) : List VirtualMediaItem := s.config.virtualMediaList.getD []

def Distinct (list : List VirtualMediaItem) : Prop :=
  (list.map VirtualMediaItem.name).Nodup ∧ (list.map VirtualMediaItem.url).Nodup

/-- The items that were added and neither removed nor replaced since, with the calls that added
them. -/
def kept : List (Nat × Updater) → List (Nat × VirtualMediaItem)
  | [] => []
  | (n, .put item _) :: log => (n, item) :: kept log
  | (_, .remove name) :: log => (kept log).filter (·.2.name ≠ name)
  | (_, .replace _) :: _ => []

/-- Between calls the list holds every item whose add answered `Ok`. -/
def Complete (s : State) : Prop :=
  s.calls = [] → ∀ y ∈ kept s.log, (y.1, .ok ()) ∈ s.returned → y.2 ∈ s.list

/-- What other adds have stored since this one read the list, and is still kept, is in the list
that this one stores. -/
def Phase.Keeps (log : List (Nat × Updater)) : Phase → Prop
  | .store (.put item snapshot) readAt =>
      ∀ y ∈ kept (log.take (log.length - readAt)), y.2 ∈ snapshot.getD [] ++ [item]
  | _ => True

def StoreKeeps (s : State) : Event → Prop
  | .run i _ => ∀ x ∈ Pool.pick i s.calls, x.1.2.Keeps s.log
  | _ => True

def Updater.isPut : Updater → Bool
  | .put _ _ => true
  | _ => false

/-- No other add has stored its list since this one read it. -/
def Phase.Undisturbed (log : List (Nat × Updater)) : Phase → Prop
  | .store (.put _ _) readAt => ∀ x ∈ log.take (log.length - readAt), x.2.isPut = false
  | _ => True

/-- No add stores its list between another add's reading of the list and its store. -/
def AddsApart (s : State) : Event → Prop
  | .run i _ => ∀ x ∈ Pool.pick i s.calls, x.1.2.Undisturbed s.log
  | _ => True

/-! ## Names and urls -/

theorem Distinct.filter {list : List VirtualMediaItem} (h : Distinct list)
    (p : VirtualMediaItem → Bool) : Distinct (list.filter p) := by
  have hsub : (list.filter p).Sublist list := List.filter_sublist
  exact ⟨h.1.sublist (hsub.map _), h.2.sublist (hsub.map _)⟩

theorem Distinct.append {list : List VirtualMediaItem} {item : VirtualMediaItem}
    (h : Distinct list) (hfree : ∀ p ∈ list, clash item p = false) :
    Distinct (list ++ [item]) := by
  have hne : ∀ p ∈ list, p.name ≠ item.name ∧ p.url ≠ item.url := by
    intro p hp
    have hclash := hfree p hp
    unfold clash at hclash
    rw [decide_eq_false_iff_not, not_or] at hclash
    exact hclash
  unfold Distinct
  rw [List.map_append, List.map_append, List.nodup_append, List.nodup_append]
  refine ⟨⟨h.1, List.nodup_singleton _, ?_⟩, h.2, List.nodup_singleton _, ?_⟩
  · intro a ha b hb heq
    obtain ⟨p, hp, rfl⟩ := List.mem_map.mp ha
    rw [List.mem_singleton.mp hb] at heq
    exact (hne p hp).1 heq
  · intro a ha b hb heq
    obtain ⟨p, hp, rfl⟩ := List.mem_map.mp ha
    rw [List.mem_singleton.mp hb] at heq
    exact (hne p hp).2 heq

section

variable {parseUrl : ParseUrl}

theorem distinct_of_checkList {list : List VirtualMediaItem} {names urls : List String}
    (h : checkList parseUrl list names urls = .ok ()) :
    Distinct list ∧ ∀ p ∈ list, p.name ∉ names ∧ p.url ∉ urls := by
  induction list generalizing names urls with
  | nil => exact ⟨⟨List.nodup_nil, List.nodup_nil⟩, fun p hp => absurd hp List.not_mem_nil⟩
  | cons item rest ih =>
      unfold checkList at h
      split at h
      · cases h
      · split at h
        · cases h
        · next hname =>
            split at h
            · cases h
            · next hurl =>
                obtain ⟨hrest, hfresh⟩ := ih h
                have hnames : item.name ∉ rest.map VirtualMediaItem.name := by
                  intro hmem
                  obtain ⟨p, hp, heq⟩ := List.mem_map.mp hmem
                  exact (hfresh p hp).1 (heq ▸ List.mem_cons_self)
                have hurls : item.url ∉ rest.map VirtualMediaItem.url := by
                  intro hmem
                  obtain ⟨p, hp, heq⟩ := List.mem_map.mp hmem
                  exact (hfresh p hp).2 (heq ▸ List.mem_cons_self)
                refine ⟨⟨List.nodup_cons.mpr ⟨hnames, hrest.1⟩,
                  List.nodup_cons.mpr ⟨hurls, hrest.2⟩⟩, fun p hp => ?_⟩
                obtain rfl | hp := List.mem_cons.mp hp
                · exact ⟨hname, hurl⟩
                · have hout := hfresh p hp
                  exact ⟨fun hmem => hout.1 (List.mem_cons_of_mem _ hmem),
                    fun hmem => hout.2 (List.mem_cons_of_mem _ hmem)⟩

def Updater.Checked : Updater → Prop
  | .put item snapshot =>
      Distinct (snapshot.getD []) ∧ ∀ p ∈ snapshot.getD [], clash item p = false
  | .remove _ => True
  | .replace list => Distinct (list.getD [])

theorem Updater.Checked.apply {u : Updater} (hu : u.Checked)
    {list : Option (List VirtualMediaItem)} (h : Distinct (list.getD [])) :
    Distinct ((u.apply list).getD []) := by
  cases u with
  | put item snapshot =>
      cases snapshot with
      | none => exact hu.1.append hu.2
      | some snapshot => exact hu.1.append hu.2
  | remove name =>
      cases list with
      | none => exact h
      | some list => exact h.filter _
  | replace list' => exact hu

def Phase.Checked : Phase → Prop
  | .store u _ => u.Checked
  | _ => True

structure Distinguished (s : State) : Prop where
  list : Distinct s.list
  calls : ∀ x ∈ s.calls, x.2.Checked

theorem Distinguished.enter {s : State} (h : Distinguished s) {check : Except ConfigError Unit}
    {phase : Phase} (hphase : check = .ok () → phase.Checked) :
    Distinguished (enter check phase s) := by
  unfold VirtualMediaList.enter
  cases check with
  | error e => exact ⟨h.list, h.calls⟩
  | ok _ =>
      refine ⟨h.list, fun x hx => ?_⟩
      obtain rfl | hx := List.mem_cons.mp hx
      · exact hphase rfl
      · exact h.calls x hx

theorem Distinguished.runCall {s : State} (h : Distinguished s) (saved : Bool) {x : Nat × Phase}
    (hx : x.2.Checked) : Distinguished (runCall saved x s) := by
  obtain ⟨n, phase⟩ := x
  cases phase with
  | read item =>
      show Distinguished (readList n item s)
      unfold readList
      cases hfind : (s.config.virtualMediaList.getD []).find? (clash item) with
      | some old => exact ⟨h.list, h.calls⟩
      | none =>
          refine ⟨h.list, fun x hx => ?_⟩
          obtain rfl | hx := List.mem_cons.mp hx
          · refine ⟨h.list, fun p hp => ?_⟩
            exact Bool.eq_false_iff.mpr (List.find?_eq_none.mp hfind p hp)
          · exact h.calls x hx
  | store updater readAt =>
      have hlist := hx.apply h.list
      show Distinguished (storeList n updater s)
      unfold storeList
      dsimp only
      cases s.config.rest.validate.2 with
      | error errors => exact ⟨hlist, h.calls⟩
      | ok _ =>
          refine ⟨hlist, fun x hx => ?_⟩
          obtain rfl | hx := List.mem_cons.mp hx
          · exact trivial
          · exact h.calls x hx
  | save => exact ⟨h.list, h.calls⟩

theorem Distinguished.step {s s' : State} (h : Distinguished s) {e : Event}
    (hs : step parseUrl s e = some s') : Distinguished s' := by
  cases e with
  | add item =>
      cases hs
      exact h.enter fun _ => trivial
  | remove name =>
      cases hs
      exact h.enter fun _ => trivial
  | update list =>
      cases hs
      exact h.enter fun hcheck => (distinct_of_checkList hcheck).1
  | run i saved =>
      obtain ⟨⟨x, rest⟩, hpick, rfl⟩ := Option.map_eq_some_iff.mp hs
      obtain ⟨hx, hrest⟩ := Pool.mem_of_pick hpick
      have hothers : Distinguished { s with calls := rest } :=
        ⟨h.list, fun y hy => h.calls y (hrest y hy)⟩
      exact hothers.runCall saved (h.calls x hx)

end

/-! ## Lost updates -/

theorem mem_kept_of_take {log : List (Nat × Updater)} {k : Nat} {y : Nat × VirtualMediaItem}
    (h : y ∈ kept (log.take k)) : y ∈ kept log := by
  induction log generalizing k with
  | nil =>
      rw [List.take_nil] at h
      exact h
  | cons x log ih =>
      cases k with
      | zero => exact absurd h List.not_mem_nil
      | succ k =>
          rw [List.take_succ_cons] at h
          obtain ⟨n, u⟩ := x
          cases u with
          | put item snapshot =>
              obtain rfl | h := List.mem_cons.mp h
              · exact List.mem_cons_self
              · exact List.mem_cons_of_mem _ (ih h)
          | remove name =>
              obtain ⟨hmem, hname⟩ := List.mem_filter.mp h
              exact List.mem_filter.mpr ⟨ih hmem, hname⟩
          | replace list => exact absurd h List.not_mem_nil

theorem kept_eq_nil {log : List (Nat × Updater)} (h : ∀ x ∈ log, x.2.isPut = false) :
    kept log = [] := by
  induction log with
  | nil => rfl
  | cons x log ih =>
      have hrest := ih fun y hy => h y (List.mem_cons_of_mem _ hy)
      obtain ⟨n, u⟩ := x
      cases u with
      | put item snapshot => cases h _ List.mem_cons_self
      | remove name =>
          unfold kept
          rw [hrest]
          rfl
      | replace list => rfl

theorem Phase.Undisturbed.keeps {log : List (Nat × Updater)} {phase : Phase}
    (h : phase.Undisturbed log) : phase.Keeps log := by
  cases phase with
  | store u readAt =>
      cases u with
      | put item snapshot =>
          intro y hy
          rw [kept_eq_nil h] at hy
          cases hy
      | remove name | replace list => exact trivial
  | read item | save => exact trivial

theorem AddsApart.storeKeeps {s : State} {e : Event} (h : AddsApart s e) : StoreKeeps s e := by
  cases e with
  | run i saved => exact fun x hx => (h x hx).keeps
  | add item | remove name | update list => exact trivial

/-- What is kept was read by a waiting add, or was added since it read. -/
def Phase.Covers (log : List (Nat × Updater)) : Phase → Prop
  | .store (.put _ snapshot) readAt => readAt ≤ log.length ∧
      ∀ y ∈ kept log, y.2 ∈ snapshot.getD [] ∨ y ∈ kept (log.take (log.length - readAt))
  | _ => True

theorem Phase.Covers.cons {log : List (Nat × Updater)} {phase : Phase} (h : phase.Covers log)
    (x : Nat × Updater) : phase.Covers (x :: log) := by
  cases phase with
  | read item => exact trivial
  | save => exact trivial
  | store u readAt =>
      cases u with
      | remove name => exact trivial
      | replace list => exact trivial
      | put item snapshot =>
          obtain ⟨hle, hcovers⟩ := h
          have hlen : (x :: log).length - readAt = (log.length - readAt) + 1 := by
            rw [List.length_cons]
            omega
          refine ⟨Nat.le_succ_of_le hle, fun y hy => ?_⟩
          rw [hlen, List.take_succ_cons]
          obtain ⟨n, u⟩ := x
          cases u with
          | put item' snapshot' =>
              obtain rfl | hy := List.mem_cons.mp hy
              · exact .inr List.mem_cons_self
              · exact (hcovers y hy).imp id (List.mem_cons_of_mem _)
          | remove name =>
              obtain ⟨hmem, hname⟩ := List.mem_filter.mp hy
              exact (hcovers y hmem).imp id fun hsince => List.mem_filter.mpr ⟨hsince, hname⟩
          | replace list => exact absurd hy List.not_mem_nil

def Listed (s : State) : Prop := ∀ y ∈ kept s.log, y.2 ∈ s.list

structure NoneLost (s : State) : Prop where
  listed : Listed s
  calls : ∀ x ∈ s.calls, x.2.Covers s.log

section

variable {parseUrl : ParseUrl} {s : State}

theorem mem_apply_put {y item : VirtualMediaItem} {snapshot list : Option (List VirtualMediaItem)} :
    y ∈ ((Updater.put item snapshot).apply list).getD [] ↔ y ∈ snapshot.getD [] ++ [item] := by
  cases snapshot with
  | none => exact Iff.rfl
  | some snapshot => exact Iff.rfl

/-- A store leaves every kept item in the list exactly when it keeps what came in between. -/
theorem listed_storeList_iff (h : Listed s) {n : Nat} {u : Updater} {readAt : Nat}
    (hcovers : (Phase.store u readAt).Covers s.log) :
    Listed (storeList n u s) ↔ (Phase.store u readAt).Keeps s.log := by
  have hstored : Listed (storeList n u s) ↔
      ∀ y ∈ kept ((n, u) :: s.log), y.2 ∈ (u.apply s.config.virtualMediaList).getD [] := by
    unfold storeList
    dsimp only
    cases s.config.rest.validate.2 with
    | error errors => exact Iff.rfl
    | ok _ => exact Iff.rfl
  rw [hstored]
  cases u with
  | put item snapshot =>
      constructor
      · intro hall y hy
        exact mem_apply_put.mp (hall y (List.mem_cons_of_mem _ (mem_kept_of_take hy)))
      · intro hkeeps y hy
        rw [mem_apply_put]
        obtain rfl | hy := List.mem_cons.mp hy
        · exact List.mem_append_right _ List.mem_cons_self
        · obtain hread | hsince := hcovers.2 y hy
          · exact List.mem_append_left _ hread
          · exact hkeeps y hsince
  | remove name =>
      refine ⟨fun _ => trivial, fun _ y hy => ?_⟩
      obtain ⟨hmem, hname⟩ := List.mem_filter.mp hy
      have hlist : y.2 ∈ s.config.virtualMediaList.getD [] := h y hmem
      cases hl : s.config.virtualMediaList with
      | none =>
          rw [hl] at hlist
          exact absurd hlist List.not_mem_nil
      | some list =>
          rw [hl] at hlist
          exact List.mem_filter.mpr ⟨hlist, hname⟩
  | replace list => exact ⟨fun _ => trivial, fun _ y hy => absurd hy List.not_mem_nil⟩

/-- What a step of a call leaves to the other calls: the log as it was, or with the update in
front. -/
theorem covers_runCall {saved : Bool} {x y : Nat × Phase} (hy : y.2.Covers s.log) :
    y.2.Covers (runCall saved x s).log := by
  obtain ⟨n, phase⟩ := x
  cases phase with
  | read item =>
      show y.2.Covers (readList n item s).log
      unfold readList
      cases (s.config.virtualMediaList.getD []).find? (clash item) with
      | some old => exact hy
      | none => exact hy
  | store u readAt =>
      show y.2.Covers (storeList n u s).log
      unfold storeList
      dsimp only
      cases s.config.rest.validate.2 with
      | error errors => exact hy.cons (n, u)
      | ok _ => exact hy.cons (n, u)
  | save => exact hy

theorem calls_runCall (h : Listed s) {saved : Bool} {x y : Nat × Phase}
    (hy : y ∈ (runCall saved x s).calls) :
    y ∈ s.calls ∨ y.2.Covers (runCall saved x s).log := by
  obtain ⟨n, phase⟩ := x
  cases phase with
  | read item =>
      change y ∈ (readList n item s).calls at hy
      show _ ∨ y.2.Covers (readList n item s).log
      unfold readList at hy ⊢
      cases hfind : (s.config.virtualMediaList.getD []).find? (clash item) with
      | some old =>
          rw [hfind] at hy
          exact .inl hy
      | none =>
          rw [hfind] at hy
          obtain rfl | hy := List.mem_cons.mp hy
          · exact .inr ⟨Nat.le_refl _, fun z hz => .inl (h z hz)⟩
          · exact .inl hy
  | store u readAt =>
      change y ∈ (storeList n u s).calls at hy
      show _ ∨ y.2.Covers (storeList n u s).log
      unfold storeList at hy ⊢
      dsimp only at hy ⊢
      cases hvalid : s.config.rest.validate.2 with
      | error errors =>
          rw [hvalid] at hy
          exact .inl hy
      | ok _ =>
          rw [hvalid] at hy
          obtain rfl | hy := List.mem_cons.mp hy
          · exact .inr trivial
          · exact .inl hy
  | save => exact .inl hy

theorem listed_runCall_iff (h : Listed s) {saved : Bool} {x : Nat × Phase}
    (hx : x.2.Covers s.log) : Listed (runCall saved x s) ↔ x.2.Keeps s.log := by
  obtain ⟨n, phase⟩ := x
  cases phase with
  | read item =>
      refine ⟨fun _ => trivial, fun _ => ?_⟩
      show Listed (readList n item s)
      unfold readList
      cases (s.config.virtualMediaList.getD []).find? (clash item) with
      | some old => exact h
      | none => exact h
  | store u readAt => exact listed_storeList_iff h hx
  | save => exact ⟨fun _ => trivial, fun _ => h⟩

theorem NoneLost.enter (h : NoneLost s) (check : Except ConfigError Unit) (phase : Phase)
    (hphase : phase.Covers s.log) : NoneLost (enter check phase s) := by
  unfold VirtualMediaList.enter
  cases check with
  | error e => exact ⟨h.listed, h.calls⟩
  | ok _ =>
      refine ⟨h.listed, fun x hx => ?_⟩
      obtain rfl | hx := List.mem_cons.mp hx
      · exact hphase
      · exact h.calls x hx

/-- A step keeps every kept item in the list exactly when it meets the condition. -/
theorem NoneLost.step_iff (h : NoneLost s) {e : Event} {s' : State}
    (hs : step parseUrl s e = some s') : Listed s' ↔ StoreKeeps s e := by
  cases e with
  | add item =>
      cases hs
      exact ⟨fun _ => trivial, fun _ => (h.enter _ (.read item) trivial).listed⟩
  | remove name =>
      cases hs
      exact ⟨fun _ => trivial, fun _ => (h.enter _ (.store (.remove name) 0) trivial).listed⟩
  | update list =>
      cases hs
      exact ⟨fun _ => trivial, fun _ => (h.enter _ (.store (.replace list) 0) trivial).listed⟩
  | run i saved =>
      obtain ⟨⟨x, rest⟩, hpick, rfl⟩ := Option.map_eq_some_iff.mp hs
      have hcovers := h.calls x (Pool.mem_of_pick hpick).1
      have hiff : Listed (runCall saved x { s with calls := rest }) ↔ x.2.Keeps s.log :=
        listed_runCall_iff (s := { s with calls := rest }) h.listed hcovers
      rw [hiff]
      constructor
      · intro hkeeps z hz
        rw [hpick] at hz
        cases hz
        exact hkeeps
      · exact fun hall => hall (x, rest) hpick

theorem NoneLost.step (h : NoneLost s) {e : Event} (hok : StoreKeeps s e) {s' : State}
    (hs : step parseUrl s e = some s') : NoneLost s' := by
  refine ⟨(h.step_iff hs).mpr hok, ?_⟩
  cases e with
  | add item =>
      cases hs
      exact (h.enter _ (.read item) trivial).calls
  | remove name =>
      cases hs
      exact (h.enter _ (.store (.remove name) 0) trivial).calls
  | update list =>
      cases hs
      exact (h.enter _ (.store (.replace list) 0) trivial).calls
  | run i saved =>
      obtain ⟨⟨x, rest⟩, hpick, rfl⟩ := Option.map_eq_some_iff.mp hs
      intro y hy
      obtain hrest | hnew := calls_runCall (s := { s with calls := rest }) h.listed hy
      · have hold := h.calls y ((Pool.mem_of_pick hpick).2 y hrest)
        exact covers_runCall (s := { s with calls := rest }) hold
      · exact hnew

end

/-! ## Runs -/

/-- Names and urls stay distinct in every run, and no item is lost in the runs in which no add
stores its list while another one is between its reading and its store. -/
theorem list_integrity (parseUrl : ParseUrl) (rest : Config)
    {list : Option (List VirtualMediaItem)} (hlist : Distinct (list.getD [])) :
    (∀ s, Run.Reach (step parseUrl) Run.anyStep (start rest list) s → Distinct s.list) ∧
      ∀ s, Run.Reach (step parseUrl) AddsApart (start rest list) s → Complete s := by
  constructor
  · intro s hreach
    have hinit : Distinguished (start rest list) :=
      ⟨hlist, fun x hx => absurd hx List.not_mem_nil⟩
    exact (hreach.invariant hinit fun _ _ _ h _ hs => h.step hs).list
  · intro s hreach
    have hinit : NoneLost (start rest list) :=
      ⟨fun y hy => absurd hy List.not_mem_nil, fun x hx => absurd hx List.not_mem_nil⟩
    have hnone := hreach.invariant hinit fun _ _ _ h hok hs => h.step hok.storeKeeps hs
    exact fun _ y hy _ => hnone.listed y hy

def linux : VirtualMediaItem := ⟨"linux", "http://host/linux.iso", "iso"⟩

def rescue : VirtualMediaItem := ⟨"rescue", "http://host/rescue.iso", "iso"⟩

/-- The texts of the two items are URLs. -/
def anyUrl : ParseUrl := fun _ => .ok ()

instance (log : List (Nat × Updater)) : (phase : Phase) → Decidable (phase.Undisturbed log)
  | .store (.put _ _) _ => inferInstanceAs (Decidable (∀ x ∈ List.take _ log, _))
  | .store (.remove _) _ | .store (.replace _) _ | .read _ | .save =>
      inferInstanceAs (Decidable True)

instance (s : State) : (e : Event) → Decidable (AddsApart s e)
  | .run i _ => inferInstanceAs (Decidable (∀ x ∈ Pool.pick i s.calls, _))
  | .add _ | .remove _ | .update _ => inferInstanceAs (Decidable True)

def State.observed (s : State) :
    List VirtualMediaItem × List (Nat × Bool) × Nat × List (Nat × VirtualMediaItem) :=
  (s.list, s.returned.map fun r => (r.1, r.2.isOk), s.calls.length, kept s.log)

/-- Two adds are in progress together, and the second one reads the list when the first one has
stored its own. -/
theorem adds_in_turn_are_kept :
    ∃ s, Run.Reach (step anyUrl) AddsApart (start (Config.default "dev") none) s ∧
      s.list = [linux, rescue] ∧ s.calls = [] ∧ Complete s := by
  have hexec : (Run.exec (step anyUrl) (fun s e => decide (AddsApart s e))
      (start (Config.default "dev") none)
      [.add linux, .add rescue, .run 1 true, .run 0 true, .run 1 true, .run 0 true, .run 1 true,
        .run 0 true]).map State.observed =
      some ([linux, rescue], [(1, true), (0, true)], 0, [(1, rescue), (0, linux)]) := by
    decide +kernel
  obtain ⟨s, hreach, hobserved⟩ :=
    Run.exists_reach_of_exec (fun _ _ => of_decide_eq_true) hexec
  obtain ⟨hitems, hobserved⟩ := Prod.mk.inj hobserved
  obtain ⟨-, hobserved⟩ := Prod.mk.inj hobserved
  obtain ⟨hcalls, -⟩ := Prod.mk.inj hobserved
  have hnil : Distinct ((none : Option (List VirtualMediaItem)).getD []) :=
    ⟨List.nodup_nil, List.nodup_nil⟩
  have hcomplete := (list_integrity anyUrl (Config.default "dev") hnil).2 s hreach
  exact ⟨s, hreach, hitems, List.length_eq_zero_iff.mp hcalls, hcomplete⟩

/-- Two adds read the empty list before either stores: both answer `Ok`, one item is gone. -/
theorem overlapping_add_is_lost :
    ∃ s, Run.Reach (step anyUrl) Run.anyStep (start (Config.default "dev") none) s ∧
      s.list = [rescue] ∧ ¬ Complete s := by
  have hexec : (Run.exec (step anyUrl) (fun _ _ => true) (start (Config.default "dev") none)
      [.add linux, .run 0 true, .add rescue, .run 0 true, .run 1 true, .run 1 true, .run 1 true,
        .run 0 true]).map State.observed =
      some ([rescue], [(1, true), (0, true)], 0, [(1, rescue), (0, linux)]) := by decide +kernel
  obtain ⟨s, hreach, hobserved⟩ :=
    Run.exists_reach_of_exec (fun _ _ _ => trivial) hexec
  obtain ⟨hlist, hobserved⟩ := Prod.mk.inj hobserved
  obtain ⟨hreturned, hobserved⟩ := Prod.mk.inj hobserved
  obtain ⟨hcalls, hkept⟩ := Prod.mk.inj hobserved
  refine ⟨s, hreach, hlist, fun hcomplete => ?_⟩
  have hok : ((0, .ok ()) : Nat × Except ConfigError Unit) ∈ s.returned := by
    have hmem : ((0, true) : Nat × Bool) ∈ s.returned.map fun r => (r.1, r.2.isOk) := by
      rw [hreturned]
      decide
    obtain ⟨⟨n, r⟩, hr, heq⟩ := List.mem_map.mp hmem
    obtain ⟨rfl, hisOk⟩ := Prod.mk.inj heq
    cases r with
    | error e => cases hisOk
    | ok _ => exact hr
  have hmem := hcomplete (List.length_eq_zero_iff.mp hcalls) (0, linux) (by rw [hkept]; decide) hok
  rw [hlist] at hmem
  exact absurd hmem (by decide)

end ArkKvm.VirtualMediaList
