import ArkKvm.Lib.Pool
import ArkKvm.Lib.Run

/-!
# The mDNS server

`Mdns` of `network/mdns/server.rs`.  A call runs up to its next `await`; what other calls do there
is bounded only by the read guards that `start_internal` keeps to its end.  A daemon lives from
`ServiceDaemon::new` until its `shutdown` succeeds.
-/

namespace ArkKvm.Mdns

open Lib

structure MdnsListenOptions where
  ipv4 : Bool
  ipv6 : Bool
deriving DecidableEq

structure MdnsOptions where
  localNames : List String
  domain : String
  listenOptions : MdnsListenOptions
deriving DecidableEq

def MdnsListenOptions.Enabled (l : MdnsListenOptions) : Prop := l.ipv4 = true ∨ l.ipv6 = true

instance (l : MdnsListenOptions) : Decidable l.Enabled := inferInstanceAs (Decidable (_ ∨ _))

structure ServiceInfo where
  serviceType : String
  serviceName : String
  hostname : String
  port : Nat
  properties : List (String × String)
  interfaces : List String
deriving DecidableEq

/-- A daemon that runs, with what it was started with and what is registered in it. -/
structure Daemon where
  id : Nat
  options : MdnsOptions
  services : List ServiceInfo
deriving DecidableEq

def defaultServiceNameV4 : String := "arkkvm_v4"
def defaultServiceNameV6 : String := "arkkvm_v6"
def defaultServiceTypeV4 : String := "_http._tcp.local."
def defaultServiceTypeV6 : String := "_https._tcp.local."
def defaultPortV4 : Nat := 80
def defaultPortV6 : Nat := 443

structure Io where
  openIfaces : List String
  deviceId : String
  new : Except String Unit
  monitor : Except String Unit
  shutdown : Except String Unit
  /-- `build_network_fqdn` of a name and a domain -/
  fqdn : String → String → Except String String
  /-- `ServiceInfo::new` -/
  info : ServiceInfo → Except String Unit
  register : ServiceInfo → Except String Unit

/-- A daemon that `start_internal` has created and not stored yet.  `origin` holds the options of
the `update_option` that it works for. -/
structure Draft where
  origin : Option MdnsOptions
  listenOptions : MdnsListenOptions
  interfaces : List String
  id : Nat
deriving DecidableEq

inductive Phase
  | names (o : MdnsOptions)
  | domain (o : MdnsOptions) (hasChanged : Bool)
  | listen (o : MdnsOptions) (hasChanged : Bool)
  | setNames (names : List String) (always : Bool)
  | check (allowRestart : Bool) (origin : Option MdnsOptions)
  | shutdown (origin : Option MdnsOptions)
  | readListen (origin : Option MdnsOptions)
  | create (origin : Option MdnsOptions) (listenOptions : MdnsListenOptions)
  | readNames (draft : Draft)
  | readDomain (draft : Draft) (localNames : List String)
  | build (draft : Draft) (localNames : List String) (domain : String)
  | store (draft : Draft) (localNames : List String) (domain : String)
      (services : List ServiceInfo)
  | stop
deriving DecidableEq

structure State where
  options : MdnsOptions
  service : Option Daemon
  live : List Nat
  nextDaemon : Nat
  calls : List (Nat × Phase)
  nextCall : Nat
  /-- the last call that returned, with the options of an `update_option` -/
  last : Option (Option MdnsOptions × Except String Unit)

inductive Event
  | updateOption (o : MdnsOptions)
  | setLocalNames (names : List String) (always : Bool)
  | start
  | restart
  | stop
  /-- the next step of a call -/
  | run (i : Nat) (io : Io)

def new (options : MdnsOptions) : State := ⟨options, none, [], 0, [], 0, none⟩

/-! ## The services of a daemon -/

def properties (hostname deviceId : String) : List (String × String) :=
  [("hostname", hostname), ("product", "arkkvm"), ("device_id", deviceId)]

def infoV4 (hostname deviceId : String) (interfaces : List String) : ServiceInfo :=
  ⟨defaultServiceTypeV4, defaultServiceNameV4, hostname, defaultPortV4,
    properties hostname deviceId, interfaces⟩

def infoV6 (hostname deviceId : String) (interfaces : List String) : ServiceInfo :=
  ⟨defaultServiceTypeV6, defaultServiceNameV6, hostname, defaultPortV6,
    properties hostname deviceId, interfaces⟩

def optionalInfo (io : Io) (enabled : Bool) (info : ServiceInfo) :
    Except String (List ServiceInfo) :=
  if enabled then (io.info info).map fun _ => [info] else .ok []

def serviceInfos (io : Io) (draft : Draft) (domain : String) :
    List String → Except String (List ServiceInfo)
  | [] => .ok []
  | name :: names => do
      let hostname ← io.fqdn name domain
      let v4 ← optionalInfo io draft.listenOptions.ipv4
        (infoV4 hostname io.deviceId draft.interfaces)
      let v6 ← optionalInfo io draft.listenOptions.ipv6
        (infoV6 hostname io.deviceId draft.interfaces)
      let infos ← serviceInfos io draft domain names
      .ok (v4 ++ v6 ++ infos)

def registerAll (io : Io) : List ServiceInfo → Except String Unit
  | [] => .ok ()
  | info :: infos => do
      io.register info
      registerAll io infos

/-- What `start_internal` does with the daemon before it stores it. -/
def buildServices (io : Io) (draft : Draft) (localNames : List String) (domain : String) :
    Except String (List ServiceInfo) := do
  let infos ← serviceInfos io draft domain localNames
  if infos = [] then .error "No mDNS services configured for registration"
  else
    registerAll io infos
    .ok infos

/-! ## Steps -/

def goOn (n : Nat) (phase : Phase) (s : State) : State :=
  { s with calls := (n, phase) :: s.calls }

def ret (origin : Option MdnsOptions) (r : Except String Unit) (s : State) : State :=
  { s with last := some (origin, r) }

def setLocalNames (names : List String) (s : State) : State :=
  { s with options := { s.options with localNames := names } }

def setDomain (domain : String) (s : State) : State :=
  { s with options := { s.options with domain := domain } }

def setListenOptions (l : MdnsListenOptions) (s : State) : State :=
  { s with options := { s.options with listenOptions := l } }

def finishUpdate (n : Nat) (o : MdnsOptions) (hasChanged : Bool) (s : State) : State :=
  if hasChanged then goOn n (.check true (some o)) s else ret (some o) (.ok ()) s

/-- `stop_internal`: the daemon is taken out before it is shut down. -/
def stopInternal (io : Io) (s : State) : State × Except String Unit :=
  match s.service with
  | none => (s, .ok ())
  | some daemon =>
      match io.shutdown with
      | .error e => ({ s with service := none }, .error e)
      | .ok _ => ({ s with
          service := none
          live := s.live.erase daemon.id }, .ok ())

/-- `ServiceDaemon::new`, once it succeeded. -/
def addDaemon (s : State) : State :=
  { s with
    live := s.nextDaemon :: s.live
    nextDaemon := s.nextDaemon + 1 }

def createDaemon (io : Io) (n : Nat) (origin : Option MdnsOptions) (l : MdnsListenOptions)
    (s : State) : State :=
  match io.new with
  | .error e => ret origin (.error e) s
  | .ok _ =>
      match io.monitor with
      | .error e => ret origin (.error e) (addDaemon s)
      | .ok _ => goOn n (.readNames ⟨origin, l, io.openIfaces, s.nextDaemon⟩) (addDaemon s)

def runCall (io : Io) (n : Nat) (s : State) : Phase → State
  | .names o =>
      if s.options.localNames = o.localNames then goOn n (.domain o false) s
      else goOn n (.domain o true) (setLocalNames o.localNames s)
  | .domain o hasChanged =>
      if s.options.domain = o.domain then goOn n (.listen o hasChanged) s
      else goOn n (.listen o true) (setDomain o.domain s)
  | .listen o hasChanged =>
      if s.options.listenOptions = o.listenOptions then finishUpdate n o hasChanged s
      else finishUpdate n o true (setListenOptions o.listenOptions s)
  | .setNames names always =>
      if always = false ∧ s.options.localNames = names then ret none (.ok ()) s
      else goOn n (.check true none) (setLocalNames names s)
  | .check allowRestart origin =>
      match s.service with
      | none => goOn n (.readListen origin) s
      | some _ =>
          if allowRestart then goOn n (.shutdown origin) s
          else ret origin (.error "mDNS server already running, and can not restart") s
  | .shutdown origin =>
      match stopInternal io s with
      | (s', .error e) => ret origin (.error e) s'
      | (s', .ok _) => goOn n (.readListen origin) s'
  | .readListen origin =>
      if s.options.listenOptions.Enabled then goOn n (.create origin s.options.listenOptions) s
      else ret origin (.ok ()) s
  | .create origin l => createDaemon io n origin l s
  | .readNames draft => goOn n (.readDomain draft s.options.localNames) s
  | .readDomain draft localNames => goOn n (.build draft localNames s.options.domain) s
  | .build draft localNames domain =>
      match buildServices io draft localNames domain with
      | .error e => ret draft.origin (.error e) s
      | .ok services => goOn n (.store draft localNames domain services) s
  | .store draft localNames domain services =>
      ret draft.origin (.ok ())
        { s with service := some ⟨draft.id, ⟨localNames, domain, draft.listenOptions⟩, services⟩ }
  | .stop => ret none (stopInternal io s).2 (stopInternal io s).1

def Phase.HoldsNames : Phase → Bool
  | .readDomain _ _ | .build _ _ _ | .store _ _ _ _ => true
  | _ => false

def Phase.HoldsListen : Phase → Bool
  | .create _ _ | .readNames _ | .readDomain _ _ | .build _ _ _ | .store _ _ _ _ => true
  | _ => false

def Blocked (others : List (Nat × Phase)) : Phase → Bool
  | .names _ | .setNames _ _ => others.any fun y => y.2.HoldsNames
  | .listen _ _ => others.any fun y => y.2.HoldsListen
  | _ => false

def enter (phase : Phase) (s : State) : State :=
  { s with
    calls := (s.nextCall, phase) :: s.calls
    nextCall := s.nextCall + 1 }

def step (s : State) : Event → Option State
  | .updateOption o => some (enter (.names o) s)
  | .setLocalNames names always => some (enter (.setNames names always) s)
  | .start => some (enter (.check false none) s)
  | .restart => some (enter (.check true none) s)
  | .stop => some (enter .stop s)
  | .run i io => (Pool.pick i s.calls).bind fun x =>
      if Blocked x.2 x.1.2 then none
      else some (runCall io x.1.1 { s with calls := x.2 } x.1.2)

/-! ## What is advertised -/

/-- The daemon runs with exactly these options, or there is none because both IP versions are
off. -/
def Advertises (s : State) (o : MdnsOptions) : Prop :=
  s.service.map Daemon.options = if o.listenOptions.Enabled then some o else none

/-- When an `update_option` has answered `Ok` and no other call is in progress, its options are
advertised. -/
def Advertised (s : State) : Prop :=
  s.calls = [] → ∀ o, s.last = some (some o, .ok ()) → Advertises s o

/-! ## The condition on a step -/

/-- A `start_internal` that has looked at the daemon for the last time. -/
def Phase.Gated : Phase → Bool
  | .readListen _ | .create _ _ | .readNames _ | .readDomain _ _ | .build _ _ _
  | .store _ _ _ _ => true
  | _ => false

/-- A call returns `Ok` for `o` with no other call in progress: the stored options are still `o`. -/
def StillStored (s : State) (others : List (Nat × Phase)) (origin : Option MdnsOptions) : Prop :=
  others = [] → ∀ o ∈ origin, s.options = o

def Phase.Orderly (s : State) (io : Io) (others : List (Nat × Phase)) : Phase → Prop
  | .listen o hasChanged => others = [] → hasChanged = false →
      s.options.listenOptions = o.listenOptions →
        s.options = o ∧ (o.listenOptions.Enabled → s.service ≠ none)
  | .check _ _ => s.service = none → ∀ y ∈ others, y.2.Gated = false
  | .shutdown _ => (∀ y ∈ others, y.2.Gated = false) ∧ (s.service ≠ none → io.shutdown = .ok ())
  | .readListen origin => ¬ s.options.listenOptions.Enabled → StillStored s others origin
  | .create _ _ => io.new = .ok () → io.monitor = .ok ()
  | .build draft localNames dom => (buildServices io draft localNames dom).isOk
  | .store draft _ _ _ => StillStored s others draft.origin
  | .stop => s.service ≠ none → io.shutdown = .ok ()
  | _ => True

/-- Two starts do not overlap once they have looked at the daemon; no `shutdown` fails, and no
step after the creation of a daemon; an `update_option` that returns alone finds its options
still stored, and one that changed nothing finds the daemon running if it is enabled. -/
def Orderly (s : State) : Event → Prop
  | .run i io => ∀ x ∈ Pool.pick i s.calls, x.1.2.Orderly s io x.2
  | _ => True

/-! ## The invariant -/

def Phase.daemon : Phase → Option Nat
  | .readNames draft | .readDomain draft _ | .build draft _ _ | .store draft _ _ _ =>
      some draft.id
  | _ => none

def Phase.listenOptions : Phase → Option MdnsListenOptions
  | .create _ l => some l
  | .readNames draft | .readDomain draft _ | .build draft _ _ | .store draft _ _ _ =>
      some draft.listenOptions
  | _ => none

/-- A call that will read all options again: it restarts, or has changed an option and will. -/
def Phase.Dirty : Phase → Bool
  | .domain _ hasChanged | .listen _ hasChanged => hasChanged
  | .check allowRestart _ => allowRestart
  | .shutdown _ => true
  | _ => false

def Phase.Agrees (o : MdnsOptions) : Phase → Prop
  | .create _ l => l = o.listenOptions
  | .readNames draft => draft.listenOptions = o.listenOptions
  | .readDomain draft localNames =>
      draft.listenOptions = o.listenOptions ∧ localNames = o.localNames
  | .build draft localNames dom | .store draft localNames dom _ =>
      draft.listenOptions = o.listenOptions ∧ localNames = o.localNames ∧ dom = o.domain
  | _ => True

def Dirty (calls : List (Nat × Phase)) : Prop := ∃ x ∈ calls, x.2.Dirty = true

structure Inv (s : State) : Prop where
  gated : s.calls.countP (·.2.Gated) ≤ 1
  idle : ∀ x ∈ s.calls, x.2.Gated = true → s.service = none
  live : ∀ daemon ∈ s.service, s.live = [daemon.id]
  drafted : ∀ x ∈ s.calls, ∀ id ∈ x.2.daemon, s.live = [id]
  down : s.service = none → (∀ x ∈ s.calls, x.2.daemon = none) → s.live = []
  enabled : ∀ daemon ∈ s.service, daemon.options.listenOptions.Enabled
  read : ∀ x ∈ s.calls, ∀ l ∈ x.2.listenOptions, l.Enabled
  running : ∀ daemon ∈ s.service, daemon.options = s.options ∨ Dirty s.calls
  agrees : ∀ x ∈ s.calls, x.2.Agrees s.options ∨ Dirty s.calls
  advertised : Advertised s

theorem Inv.live_le_one {s : State} (h : Inv s) : s.live.length ≤ 1 := by
  cases hservice : s.service with
  | some daemon =>
      rw [h.live daemon hservice]
      exact Nat.le_refl 1
  | none =>
      by_cases hdraft : ∃ x ∈ s.calls, ∃ id, id ∈ x.2.daemon
      · obtain ⟨x, hx, id, hid⟩ := hdraft
        rw [h.drafted x hx id hid]
        exact Nat.le_refl 1
      · have hnone : ∀ x ∈ s.calls, x.2.daemon = none := by
          intro x hx
          by_contra hne
          obtain ⟨id, hid⟩ := Option.ne_none_iff_exists'.mp hne
          exact hdraft ⟨x, hx, id, hid⟩
        rw [h.down hservice hnone]
        exact Nat.zero_le 1

theorem Phase.of_not_gated {p : Phase} (h : p.Gated = false) (o : MdnsOptions) :
    p.daemon = none ∧ p.listenOptions = none ∧ p.Agrees o := by
  cases p with
  | readListen origin => cases h
  | create origin l => cases h
  | readNames draft => cases h
  | readDomain draft localNames => cases h
  | build draft localNames dom => cases h
  | store draft localNames dom services => cases h
  | _ => exact ⟨rfl, rfl, trivial⟩

theorem Phase.not_gated_of_dirty {p : Phase} (h : p.Dirty = true) : p.Gated = false := by
  cases p with
  | domain o hasChanged => rfl
  | listen o hasChanged => rfl
  | check allowRestart origin => rfl
  | shutdown origin => rfl
  | _ => cases h

theorem Inv.of_down {t : State} (hservice : t.service = none) (hlive : t.live = [])
    (hgated : t.calls.countP (·.2.Gated) ≤ 1)
    (hcalls : ∀ y ∈ t.calls, y.2.daemon = none ∧ y.2.listenOptions = none ∧ y.2.Agrees t.options)
    (hadvertised : Advertised t) : Inv t where
  gated := hgated
  idle _ _ _ := hservice
  live daemon hd := by rw [hservice] at hd; cases hd
  drafted x hx id hid := by rw [(hcalls x hx).1] at hid; cases hid
  down _ _ := hlive
  enabled daemon hd := by rw [hservice] at hd; cases hd
  read x hx l hl := by rw [(hcalls x hx).2.1] at hl; cases hl
  running daemon hd := by rw [hservice] at hd; cases hd
  agrees x hx := .inl (hcalls x hx).2.2
  advertised := hadvertised

theorem Inv.new (options : MdnsOptions) : Inv (new options) where
  gated := Nat.zero_le 1
  idle x hx := absurd hx List.not_mem_nil
  live daemon hd := by cases hd
  drafted x hx := absurd hx List.not_mem_nil
  down _ _ := rfl
  enabled daemon hd := by cases hd
  read x hx := absurd hx List.not_mem_nil
  running daemon hd := by cases hd
  agrees x hx := absurd hx List.not_mem_nil
  advertised := fun _ o ho => by cases ho

/-! ## Steps of a call -/

section Steps

variable {s : State} {n i : Nat} {p : Phase} {rest : List (Nat × Phase)}

theorem mem_of_pick (hpick : Pool.pick i s.calls = some ((n, p), rest)) :
    (n, p) ∈ s.calls ∧ ∀ y ∈ rest, y ∈ s.calls :=
  Pool.mem_of_pick hpick

theorem Inv.others_not_gated (h : Inv s) (hpick : Pool.pick i s.calls = some ((n, p), rest))
    (hp : p.Gated = true) : ∀ y ∈ rest, y.2.Gated = false := by
  have hcount := Pool.countP_of_pick (fun y => y.2.Gated) hpick
  have hle := h.gated
  rw [hcount, if_pos hp] at hle
  have hzero : rest.countP (fun y => y.2.Gated) = 0 := by omega
  intro y hy
  exact Bool.eq_false_iff.mpr (List.countP_eq_zero.mp hzero y hy)

/-- A call that goes on without touching the daemon and the options. -/
theorem Inv.next (h : Inv s) (hpick : Pool.pick i s.calls = some ((n, p), rest)) {p' : Phase}
    (hgated : p'.Gated = p.Gated) (hdaemon : p'.daemon = p.daemon)
    (hdirty : p.Dirty = true → p'.Dirty = true)
    (hagrees : p.Agrees s.options → p'.Agrees s.options)
    (hread : ∀ l ∈ p'.listenOptions, l.Enabled) : Inv (goOn n p' { s with calls := rest }) := by
  obtain ⟨hmem, hrest⟩ := mem_of_pick hpick
  have hdirties : Dirty s.calls → Dirty ((n, p') :: rest) := by
    rintro ⟨y, hy, hydirty⟩
    obtain rfl | hy := (Pool.mem_iff_of_pick hpick).mp hy
    · exact ⟨(n, p'), List.mem_cons_self, hdirty hydirty⟩
    · exact ⟨y, List.mem_cons_of_mem _ hy, hydirty⟩
  constructor
  · have hcount := Pool.countP_of_pick (fun y => y.2.Gated) hpick
    show ((n, p') :: rest).countP (fun y => y.2.Gated) ≤ 1
    rw [List.countP_cons, hgated, ← hcount]
    exact h.gated
  · intro y hy hygated
    obtain rfl | hy := List.mem_cons.mp hy
    · exact h.idle (n, p) hmem (hgated ▸ hygated)
    · exact h.idle y (hrest y hy) hygated
  · exact h.live
  · intro y hy id hid
    obtain rfl | hy := List.mem_cons.mp hy
    · exact h.drafted (n, p) hmem id (hdaemon ▸ hid)
    · exact h.drafted y (hrest y hy) id hid
  · intro hservice hnone
    refine h.down hservice fun y hy => ?_
    obtain rfl | hy := (Pool.mem_iff_of_pick hpick).mp hy
    · exact hdaemon ▸ hnone (n, p') List.mem_cons_self
    · exact hnone y (List.mem_cons_of_mem _ hy)
  · exact h.enabled
  · intro y hy l hl
    obtain rfl | hy := List.mem_cons.mp hy
    · exact hread l hl
    · exact h.read y (hrest y hy) l hl
  · exact fun daemon hd => (h.running daemon hd).imp id hdirties
  · intro y hy
    obtain rfl | hy := List.mem_cons.mp hy
    · exact (h.agrees (n, p) hmem).imp hagrees hdirties
    · exact (h.agrees y (hrest y hy)).imp id hdirties
  · exact fun hnil => absurd hnil (List.cons_ne_nil _ _)

theorem Inv.write (h : Inv s) (hpick : Pool.pick i s.calls = some ((n, p), rest)) {p' : Phase}
    (hp : p.Gated = false) (hp' : p'.Dirty = true) (options : MdnsOptions) :
    Inv (goOn n p' { s with
      options := options
      calls := rest }) := by
  obtain ⟨hmem, hrest⟩ := mem_of_pick hpick
  have hdirty : Dirty ((n, p') :: rest) := ⟨(n, p'), List.mem_cons_self, hp'⟩
  have hgated : p'.Gated = false := Phase.not_gated_of_dirty hp'
  have hlisten : p'.listenOptions = none := (Phase.of_not_gated hgated options).2.1
  constructor
  · have hcount := Pool.countP_of_pick (fun y => y.2.Gated) hpick
    show ((n, p') :: rest).countP (fun y => y.2.Gated) ≤ 1
    rw [List.countP_cons, hgated, ← hp, ← hcount]
    exact h.gated
  · intro y hy hygated
    obtain rfl | hy := List.mem_cons.mp hy
    · rw [hgated] at hygated
      cases hygated
    · exact h.idle y (hrest y hy) hygated
  · exact h.live
  · intro y hy id hid
    obtain rfl | hy := List.mem_cons.mp hy
    · rw [(Phase.of_not_gated hgated options).1] at hid
      cases hid
    · exact h.drafted y (hrest y hy) id hid
  · intro hservice hnone
    refine h.down hservice fun y hy => ?_
    obtain rfl | hy := (Pool.mem_iff_of_pick hpick).mp hy
    · exact (Phase.of_not_gated hp options).1
    · exact hnone y (List.mem_cons_of_mem _ hy)
  · exact h.enabled
  · intro y hy l hl
    obtain rfl | hy := List.mem_cons.mp hy
    · rw [hlisten] at hl
      cases hl
    · exact h.read y (hrest y hy) l hl
  · exact fun daemon hd => .inr hdirty
  · exact fun y hy => .inr hdirty
  · exact fun hnil => absurd hnil (List.cons_ne_nil _ _)

theorem Inv.gate {t : State} (hservice : t.service = none) (hlive : t.live = [])
    (hothers : ∀ y ∈ t.calls, y.2.Gated = false) (origin : Option MdnsOptions) :
    Inv (goOn n (.readListen origin) t) := by
  refine Inv.of_down (t := goOn n (.readListen origin) t) hservice hlive ?_ ?_ ?_
  · show ((n, Phase.readListen origin) :: t.calls).countP (fun y => y.2.Gated) ≤ 1
    have hzero : t.calls.countP (fun y => y.2.Gated) = 0 :=
      List.countP_eq_zero.mpr fun y hy => Bool.eq_false_iff.mp (hothers y hy)
    rw [List.countP_cons, hzero]
    exact Nat.le_refl 1
  · intro y hy
    obtain rfl | hy := List.mem_cons.mp hy
    · exact ⟨rfl, rfl, trivial⟩
    · exact Phase.of_not_gated (hothers y hy) _
  · exact fun hnil => absurd hnil (List.cons_ne_nil _ _)

/-- Without a daemon and without a start that has one, none lives. -/
theorem Inv.live_eq_nil (h : Inv s) (hpick : Pool.pick i s.calls = some ((n, p), rest))
    (hservice : s.service = none) (hp : p.daemon = none)
    (hothers : ∀ y ∈ rest, y.2.Gated = false) : s.live = [] := by
  refine h.down hservice fun y hy => ?_
  obtain rfl | hy := (Pool.mem_iff_of_pick hpick).mp hy
  · exact hp
  · exact (Phase.of_not_gated (hothers y hy) s.options).1

theorem Inv.leave (h : Inv s) (hpick : Pool.pick i s.calls = some ((n, p), rest))
    (hp : p.daemon = none) (hdirty : p.Dirty = false) {origin : Option MdnsOptions}
    {r : Except String Unit} (hadvertised : Advertised (ret origin r { s with calls := rest })) :
    Inv (ret origin r { s with calls := rest }) := by
  obtain ⟨hmem, hrest⟩ := mem_of_pick hpick
  have hdirties : Dirty s.calls → Dirty rest := by
    rintro ⟨y, hy, hydirty⟩
    obtain rfl | hy := (Pool.mem_iff_of_pick hpick).mp hy
    · rw [hdirty] at hydirty
      cases hydirty
    · exact ⟨y, hy, hydirty⟩
  constructor
  · have hcount := Pool.countP_of_pick (fun y => y.2.Gated) hpick
    have hle := h.gated
    show rest.countP (fun y => y.2.Gated) ≤ 1
    omega
  · exact fun y hy => h.idle y (hrest y hy)
  · exact h.live
  · exact fun y hy => h.drafted y (hrest y hy)
  · intro hservice hnone
    refine h.down hservice fun y hy => ?_
    obtain rfl | hy := (Pool.mem_iff_of_pick hpick).mp hy
    · exact hp
    · exact hnone y hy
  · exact h.enabled
  · exact fun y hy => h.read y (hrest y hy)
  · exact fun daemon hd => (h.running daemon hd).imp id hdirties
  · exact fun y hy => (h.agrees y (hrest y hy)).imp id hdirties
  · exact hadvertised

theorem advertised_of_error {origin : Option MdnsOptions} {e : String} {t : State} :
    Advertised (ret origin (.error e) t) := by
  intro _ o ho
  cases ho

theorem advertised_of_none {r : Except String Unit} {t : State} :
    Advertised (ret none r t) := by
  intro _ o ho
  cases ho

theorem stopInternal_some {io : Io} {t : State} {daemon : Daemon}
    (hservice : t.service = some daemon) (hlive : t.live = [daemon.id])
    (hok : io.shutdown = .ok ()) :
    stopInternal io t = ({ t with
      service := none
      live := [] }, .ok ()) := by
  unfold stopInternal
  rw [hservice, hok, hlive]
  dsimp only
  rw [List.erase_cons_head]

theorem stopInternal_none {io : Io} {t : State} (hservice : t.service = none) :
    stopInternal io t = (t, .ok ()) := by
  unfold stopInternal
  rw [hservice]

theorem Inv.not_gated (h : Inv s) {daemon : Daemon} (hservice : s.service = some daemon) :
    ∀ y ∈ s.calls, y.2.Gated = false := by
  intro y hy
  by_contra hgated
  have hnone := h.idle y hy (Bool.eq_true_of_not_eq_false hgated)
  rw [hservice] at hnone
  cases hnone

theorem eq_of_alone (hpick : Pool.pick i s.calls = some ((n, p), rest)) (hrest : rest = [])
    {y : Nat × Phase} (hy : y ∈ s.calls) : y = (n, p) := by
  obtain h | h := (Pool.mem_iff_of_pick hpick).mp hy
  · exact h
  · rw [hrest] at h
    exact absurd h List.not_mem_nil

theorem advertises_of_some {t : State} {daemon : Daemon} {o : MdnsOptions}
    (hservice : t.service = some daemon) (hoptions : daemon.options = o)
    (henabled : o.listenOptions.Enabled) : Advertises t o := by
  unfold Advertises
  rw [hservice, if_pos henabled, Option.map_some, hoptions]

theorem advertises_of_none {t : State} {o : MdnsOptions} (hservice : t.service = none)
    (hdisabled : ¬ o.listenOptions.Enabled) : Advertises t o := by
  unfold Advertises
  rw [hservice, if_neg hdisabled, Option.map_none]

theorem Inv.unchanged (h : Inv s) {o : MdnsOptions}
    (hpick : Pool.pick i s.calls = some ((n, .listen o false), rest))
    (hok : rest = [] → s.options = o ∧ (o.listenOptions.Enabled → s.service ≠ none)) :
    Inv (ret (some o) (.ok ()) { s with calls := rest }) := by
  apply h.leave hpick rfl rfl
  intro hnil o' ho'
  obtain rfl : o = o' := by
    cases ho'
    rfl
  obtain ⟨hoptions, hup⟩ := hok hnil
  by_cases hdown : s.service = none
  · exact advertises_of_none hdown fun henabled => hup henabled hdown
  · obtain ⟨daemon, hservice⟩ := Option.ne_none_iff_exists'.mp hdown
    have hsame : daemon.options = o := by
      obtain hsame | ⟨y, hy, hdirty⟩ := h.running daemon hservice
      · rw [hsame, hoptions]
      · rw [eq_of_alone hpick hnil hy] at hdirty
        cases hdirty
    have henabled : o.listenOptions.Enabled := hsame ▸ h.enabled daemon hservice
    exact advertises_of_some hservice hsame henabled

theorem Inv.disabled (h : Inv s) {origin : Option MdnsOptions}
    (hpick : Pool.pick i s.calls = some ((n, .readListen origin), rest))
    (hoff : ¬ s.options.listenOptions.Enabled) (hok : StillStored s rest origin) :
    Inv (ret origin (.ok ()) { s with calls := rest }) := by
  apply h.leave hpick rfl rfl
  intro hnil o ho
  obtain rfl : origin = some o := congrArg Prod.fst (Option.some.inj ho)
  have hoptions : s.options = o := hok hnil o rfl
  have hdown : s.service = none := h.idle _ (mem_of_pick hpick).1 rfl
  exact advertises_of_none hdown (hoptions ▸ hoff)

theorem Inv.created (h : Inv s) {origin : Option MdnsOptions} {l : MdnsListenOptions}
    (hpick : Pool.pick i s.calls = some ((n, .create origin l), rest)) (interfaces : List String) :
    Inv (goOn n (.readNames ⟨origin, l, interfaces, s.nextDaemon⟩)
      (addDaemon { s with calls := rest })) := by
  obtain ⟨hmem, hrest⟩ := mem_of_pick hpick
  have hothers := h.others_not_gated hpick rfl
  have hservice : s.service = none := h.idle _ hmem rfl
  have hlive : s.live = [] := h.live_eq_nil hpick hservice rfl hothers
  have hnew : (addDaemon { s with calls := rest }).live = [s.nextDaemon] := by
    show s.nextDaemon :: s.live = _
    rw [hlive]
  have hdirties : Dirty s.calls →
      Dirty ((n, .readNames ⟨origin, l, interfaces, s.nextDaemon⟩) :: rest) := by
    rintro ⟨y, hy, hydirty⟩
    obtain rfl | hy := (Pool.mem_iff_of_pick hpick).mp hy
    · cases hydirty
    · exact ⟨y, List.mem_cons_of_mem _ hy, hydirty⟩
  constructor
  · have hcount := Pool.countP_of_pick (fun y => y.2.Gated) hpick
    show ((n, Phase.readNames _) :: rest).countP (fun y => y.2.Gated) ≤ 1
    rw [List.countP_cons]
    exact hcount ▸ h.gated
  · exact fun _ _ _ => hservice
  · intro daemon hd
    change daemon ∈ s.service at hd
    rw [hservice] at hd
    cases hd
  · intro y hy id hid
    obtain rfl | hy := List.mem_cons.mp hy
    · cases hid
      exact hnew
    · rw [(Phase.of_not_gated (hothers y hy) s.options).1] at hid
      cases hid
  · intro _ hnone
    cases hnone _ List.mem_cons_self
  · intro daemon hd
    change daemon ∈ s.service at hd
    rw [hservice] at hd
    cases hd
  · intro y hy l' hl'
    obtain rfl | hy := List.mem_cons.mp hy
    · exact h.read _ hmem l' hl'
    · exact h.read y (hrest y hy) l' hl'
  · intro daemon hd
    change daemon ∈ s.service at hd
    rw [hservice] at hd
    cases hd
  · intro y hy
    obtain rfl | hy := List.mem_cons.mp hy
    · exact (h.agrees _ hmem).imp id hdirties
    · exact (h.agrees y (hrest y hy)).imp id hdirties
  · exact fun hnil => absurd hnil (List.cons_ne_nil _ _)

theorem Inv.stored (h : Inv s) {draft : Draft} {localNames : List String} {domain : String}
    {services : List ServiceInfo}
    (hpick : Pool.pick i s.calls = some ((n, .store draft localNames domain services), rest))
    (hok : StillStored s rest draft.origin) :
    Inv (ret draft.origin (.ok ()) { s with
      service := some ⟨draft.id, ⟨localNames, domain, draft.listenOptions⟩, services⟩
      calls := rest }) := by
  obtain ⟨hmem, hrest⟩ := mem_of_pick hpick
  have hothers := h.others_not_gated hpick rfl
  have henabled : draft.listenOptions.Enabled := h.read _ hmem _ rfl
  have hlive : s.live = [draft.id] := h.drafted _ hmem _ rfl
  have hsame : (⟨localNames, domain, draft.listenOptions⟩ : MdnsOptions) = s.options ∨
      Dirty rest := by
    obtain ⟨hlisten, hnames, hdomain⟩ | ⟨y, hy, hydirty⟩ := h.agrees _ hmem
    · left
      rw [hlisten, hnames, hdomain]
    · obtain rfl | hy := (Pool.mem_iff_of_pick hpick).mp hy
      · cases hydirty
      · exact .inr ⟨y, hy, hydirty⟩
  constructor
  · have hcount := Pool.countP_of_pick (fun y => y.2.Gated) hpick
    have hle := h.gated
    show rest.countP (fun y => y.2.Gated) ≤ 1
    omega
  · intro y hy hygated
    rw [hothers y hy] at hygated
    cases hygated
  · intro daemon hd
    cases hd
    exact hlive
  · intro y hy id hid
    rw [(Phase.of_not_gated (hothers y hy) s.options).1] at hid
    cases hid
  · intro hservice
    cases hservice
  · intro daemon hd
    cases hd
    exact henabled
  · exact fun y hy => h.read y (hrest y hy)
  · intro daemon hd
    cases hd
    exact hsame
  · exact fun y hy => .inl (Phase.of_not_gated (hothers y hy) _).2.2
  · intro hnil o ho
    have horigin : draft.origin = some o := congrArg Prod.fst (Option.some.inj ho)
    have hnil' : rest = [] := hnil
    have hoptions : s.options = o := hok hnil' o horigin
    have hdaemon : (⟨localNames, domain, draft.listenOptions⟩ : MdnsOptions) = o := by
      obtain hsame | ⟨y, hy, -⟩ := hsame
      · rw [hsame, hoptions]
      · rw [hnil'] at hy
        exact absurd hy List.not_mem_nil
    exact advertises_of_some rfl hdaemon (hdaemon ▸ henabled)

theorem Inv.runCall (h : Inv s) (io : Io) (hpick : Pool.pick i s.calls = some ((n, p), rest))
    (hok : p.Orderly s io rest) : Inv (runCall io n { s with calls := rest } p) := by
  cases p with
  | names o =>
      unfold Mdns.runCall
      dsimp only
      split
      · exact h.next hpick rfl rfl nofun id nofun
      · exact h.write hpick rfl rfl _
  | domain o hasChanged =>
      unfold Mdns.runCall
      dsimp only
      split
      · exact h.next hpick rfl rfl id id nofun
      · exact h.write hpick rfl rfl _
  | listen o hasChanged =>
      unfold Mdns.runCall finishUpdate
      dsimp only
      split
      · next hsame =>
          cases hasChanged with
          | false => exact h.unchanged hpick fun hnil => hok hnil rfl hsame
          | true => exact h.next hpick rfl rfl id id nofun
      · exact h.write hpick rfl rfl _
  | setNames names always =>
      unfold Mdns.runCall
      dsimp only
      split
      · exact h.leave hpick rfl rfl advertised_of_none
      · exact h.write hpick rfl rfl _
  | check allowRestart origin =>
      unfold Mdns.runCall
      dsimp only
      split
      · next hdown =>
          have hothers := hok hdown
          have hlive := h.live_eq_nil hpick hdown rfl hothers
          exact Inv.gate (t := { s with calls := rest }) hdown hlive hothers origin
      · cases allowRestart with
        | true => exact h.next hpick rfl rfl id id nofun
        | false => exact h.leave hpick rfl rfl advertised_of_error
  | shutdown origin =>
      unfold Mdns.runCall
      by_cases hdown : s.service = none
      · rw [stopInternal_none (t := { s with calls := rest }) hdown]
        have hlive := h.live_eq_nil hpick hdown rfl hok.1
        exact Inv.gate (t := { s with calls := rest }) hdown hlive hok.1 origin
      · obtain ⟨daemon, hservice⟩ := Option.ne_none_iff_exists'.mp hdown
        rw [stopInternal_some (t := { s with calls := rest }) hservice (h.live daemon hservice)
          (hok.2 hdown)]
        exact Inv.gate rfl rfl hok.1 origin
  | readListen origin =>
      unfold Mdns.runCall
      dsimp only
      split
      · next hon =>
          refine h.next hpick rfl rfl nofun (fun _ => rfl) fun l hl => ?_
          cases hl
          exact hon
      · next hoff => exact h.disabled hpick hoff (hok hoff)
  | create origin l =>
      unfold Mdns.runCall createDaemon
      cases hnew : io.new with
      | error e => exact h.leave hpick rfl rfl advertised_of_error
      | ok _ =>
          rw [hok hnew]
          exact h.created hpick io.openIfaces
  | readNames draft =>
      refine h.next hpick rfl rfl nofun (fun hlisten => ⟨hlisten, rfl⟩) ?_
      exact h.read _ (mem_of_pick hpick).1
  | readDomain draft localNames =>
      refine h.next hpick rfl rfl nofun (fun hread => ⟨hread.1, hread.2, rfl⟩) ?_
      exact h.read _ (mem_of_pick hpick).1
  | build draft localNames domain =>
      change (buildServices io draft localNames domain).isOk = true at hok
      cases hbuild : buildServices io draft localNames domain with
      | error e =>
          rw [hbuild] at hok
          cases hok
      | ok services =>
          unfold Mdns.runCall
          dsimp only
          rw [hbuild]
          exact h.next hpick rfl rfl nofun id (h.read _ (mem_of_pick hpick).1)
  | store draft localNames domain services => exact h.stored hpick hok
  | stop =>
      unfold Mdns.runCall
      by_cases hdown : s.service = none
      · rw [stopInternal_none (t := { s with calls := rest }) hdown]
        exact h.leave hpick rfl rfl advertised_of_none
      · obtain ⟨daemon, hservice⟩ := Option.ne_none_iff_exists'.mp hdown
        rw [stopInternal_some (t := { s with calls := rest }) hservice (h.live daemon hservice)
          (hok hdown)]
        have hothers : ∀ y ∈ rest, y.2.Gated = false :=
          fun y hy => h.not_gated hservice y ((mem_of_pick hpick).2 y hy)
        refine Inv.of_down rfl rfl ?_ (fun y hy => Phase.of_not_gated (hothers y hy) _)
          advertised_of_none
        have hzero : rest.countP (fun y => y.2.Gated) = 0 :=
          List.countP_eq_zero.mpr fun y hy => Bool.eq_false_iff.mp (hothers y hy)
        exact hzero.trans_le (Nat.zero_le 1)

end Steps

theorem Inv.enter {s : State} (h : Inv s) {phase : Phase} (hphase : phase.Gated = false) :
    Inv (Mdns.enter phase s) := by
  obtain ⟨hdaemon, hlisten, hagrees⟩ := Phase.of_not_gated hphase s.options
  have hdirties : Dirty s.calls → Dirty (Mdns.enter phase s).calls :=
    fun ⟨y, hy, hdirty⟩ => ⟨y, List.mem_cons_of_mem _ hy, hdirty⟩
  constructor
  · show ((s.nextCall, phase) :: s.calls).countP (fun y => y.2.Gated) ≤ 1
    rw [List.countP_cons, hphase]
    exact h.gated
  · intro y hy hygated
    obtain rfl | hy := List.mem_cons.mp hy
    · rw [hphase] at hygated
      cases hygated
    · exact h.idle y hy hygated
  · exact h.live
  · intro y hy id hid
    obtain rfl | hy := List.mem_cons.mp hy
    · rw [hdaemon] at hid
      cases hid
    · exact h.drafted y hy id hid
  · exact fun hservice hnone =>
      h.down hservice fun y hy => hnone y (List.mem_cons_of_mem _ hy)
  · exact h.enabled
  · intro y hy l hl
    obtain rfl | hy := List.mem_cons.mp hy
    · rw [hlisten] at hl
      cases hl
    · exact h.read y hy l hl
  · exact fun daemon hd => (h.running daemon hd).imp id hdirties
  · intro y hy
    obtain rfl | hy := List.mem_cons.mp hy
    · exact .inl hagrees
    · exact (h.agrees y hy).imp id hdirties
  · exact fun hnil => absurd hnil (List.cons_ne_nil _ _)

theorem Inv.step {s s' : State} (h : Inv s) {e : Event} (hok : Orderly s e)
    (hs : step s e = some s') : Inv s' := by
  cases e with
  | run i io =>
      obtain ⟨⟨⟨n, p⟩, rest⟩, hpick, hs⟩ := Option.bind_eq_some_iff.mp hs
      split at hs
      · cases hs
      · cases hs
        exact h.runCall io hpick (hok _ hpick)
  | _ =>
      cases hs
      exact h.enter rfl

/-! ## Runs -/

/-- In every run of orderly steps at most one daemon lives, and what an `update_option` asked for
is advertised once it has answered `Ok` and nobody else is at work. -/
theorem advertises_what_was_requested {options : MdnsOptions} {s : State}
    (hreach : Run.Reach step Orderly (new options) s) : s.live.length ≤ 1 ∧ Advertised s := by
  have hinv := hreach.invariant (Inv.new options) fun _ _ _ h hok hs => h.step hok hs
  exact ⟨hinv.live_le_one, hinv.advertised⟩

instance (s : State) (others : List (Nat × Phase)) (origin : Option MdnsOptions) :
    Decidable (StillStored s others origin) :=
  inferInstanceAs (Decidable (_ → _))

instance (s : State) (io : Io) (others : List (Nat × Phase)) :
    (p : Phase) → Decidable (p.Orderly s io others)
  | .listen _ _ | .check _ _ | .readListen _ | .create _ _ | .stop =>
      inferInstanceAs (Decidable (_ → _))
  | .shutdown _ => inferInstanceAs (Decidable (_ ∧ _))
  | .build _ _ _ => inferInstanceAs (Decidable (_ = true))
  | .store draft _ _ _ => inferInstanceAs (Decidable (StillStored s others draft.origin))
  | .names _ | .domain _ _ | .setNames _ _ | .readNames _ | .readDomain _ _ =>
      inferInstanceAs (Decidable True)

instance (s : State) : (e : Event) → Decidable (Orderly s e)
  | .run i _ => inferInstanceAs (Decidable (∀ x ∈ Pool.pick i s.calls, _))
  | .updateOption _ | .setLocalNames _ _ | .start | .restart | .stop =>
      inferInstanceAs (Decidable True)

def steady : Io :=
  ⟨["eth0"], "dev", .ok (), .ok (), .ok (), fun name _ => .ok (name ++ ".local."),
    fun _ => .ok (), fun _ => .ok ()⟩

/-- The calls in progress, whether there is no daemon, and whether an update to `o` has just
answered `Ok`. -/
def State.observed (o : MdnsOptions) (s : State) : Nat × Bool × Bool :=
  (s.calls.length, s.service.isNone, decide (s.last = some (some o, .ok ())))

def bothVersions (name : String) : MdnsOptions := ⟨[name], "", ⟨true, true⟩⟩

theorem update_is_advertised :
    ∃ s, Run.Reach step Orderly (new (bothVersions "arkkvm")) s ∧ s.calls = [] ∧
      s.last = some (some (bothVersions "kvm-2"), .ok ()) ∧ s.live.length ≤ 1 ∧
      Advertised s := by
  have hexec : (Run.exec step (fun s e => decide (Orderly s e)) (new (bothVersions "arkkvm"))
      (.start :: List.replicate 7 (.run 0 steady) ++
        .updateOption (bothVersions "kvm-2") :: List.replicate 11 (.run 0 steady))).map
        (State.observed (bothVersions "kvm-2")) = some (0, false, true) := by decide +kernel
  obtain ⟨s, hreach, hobserved⟩ :=
    Run.exists_reach_of_exec (fun _ _ => of_decide_eq_true) hexec
  obtain ⟨hcalls, hobserved⟩ := Prod.mk.inj hobserved
  exact ⟨s, hreach, List.length_eq_zero_iff.mp hcalls,
    of_decide_eq_true (Prod.mk.inj hobserved).2, advertises_what_was_requested hreach⟩

/-- The restart of an update fails, and the same update again finds nothing to change: it answers
`Ok`, and no daemon runs. -/
theorem retried_update_is_not_advertised :
    ∃ s, Run.Reach step Run.anyStep (new (bothVersions "arkkvm")) s ∧ s.calls = [] ∧
      s.last = some (some (bothVersions "kvm-2"), .ok ()) ∧ s.service = none ∧
      ¬ Advertised s := by
  have hexec : (Run.exec step (fun _ _ => true) (new (bothVersions "arkkvm"))
      (.start :: List.replicate 7 (.run 0 steady) ++
        .updateOption (bothVersions "kvm-2") ::
          List.replicate 7 (.run 0 { steady with new := .error "no socket" }) ++
        .updateOption (bothVersions "kvm-2") :: List.replicate 3 (.run 0 steady))).map
        (State.observed (bothVersions "kvm-2")) = some (0, true, true) := by decide +kernel
  obtain ⟨s, hreach, hobserved⟩ :=
    Run.exists_reach_of_exec (fun _ _ _ => trivial) hexec
  obtain ⟨hlength, hobserved⟩ := Prod.mk.inj hobserved
  obtain ⟨hdown, hdecided⟩ := Prod.mk.inj hobserved
  have hlast : s.last = some (some (bothVersions "kvm-2"), .ok ()) := of_decide_eq_true hdecided
  have hcalls : s.calls = [] := List.length_eq_zero_iff.mp hlength
  have hservice : s.service = none := Option.isNone_iff_eq_none.mp hdown
  refine ⟨s, hreach, hcalls, hlast, hservice, fun h => ?_⟩
  have hadvertises := h hcalls _ hlast
  unfold Advertises at hadvertises
  rw [hservice] at hadvertises
  cases hadvertises

end ArkKvm.Mdns
