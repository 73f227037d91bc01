import ArkKvm.Dhcp.Leases
import ArkKvm.Lib.Ini

/-!
# The controlled host

Which of several DHCP clients on the USB network is taken for the controlled host: the choice of
the sidecar in `devices/network/dhcp.rs`, the one of the application in
`ip_forward/resolve.rs`, and the first longest lease that both stand for.
-/

namespace ArkKvm.Dhcp

open Lib.Text (isWhiteSpace trim)

/-! ## The sidecar -/

def selectControlledHostLease (leases : List DhcpLeaseEntry) : Option DhcpLeaseEntry :=
  if leases = [] then none
  else if leases.length = 1 then leases.head?
  else do
    let maxRem ← (leases.map (·.expiresInSecs)).max?
    leases.find? (·.expiresInSecs = maxRem)

def hexByte (b : UInt8) : String :=
  String.ofList [Nat.digitChar (b.toNat / 16), Nat.digitChar (b.toNat % 16)]

def DhcpLeaseEntry.macString (l : DhcpLeaseEntry) : String := ":".intercalate (l.mac.map hexByte)

/-! ## The application -/

structure NetworkAdapterLease where
  ip : String
  mac : String
  hostname : String
  expiresInSecs : Nat
deriving DecidableEq

/-- `handle_get_network_adapter_leases_query` on one lease. -/
def toReply (l : DhcpLeaseEntry) : NetworkAdapterLease where
  ip := l.ip.text
  mac := l.macString
  hostname := l.hostname
  expiresInSecs := l.expiresInSecs

def maxByKey {α : Type} (key : α → Nat) : List α → Option α
  | [] => none
  | x :: xs => some (xs.foldl (fun best y => if key y < key best then best else y) x)

def selectPeer (leases : List NetworkAdapterLease) : Option NetworkAdapterLease := do
  let best ← maxByKey (·.expiresInSecs) leases
  leases.find? (·.expiresInSecs = best.expiresInSecs)

inductive IpForwardError
  | usbNetworkDisabled | usbPeerNotLeased | connectFailed | ticketInvalid | forwardBridgeFailed
deriving DecidableEq

def IpForwardError.code : IpForwardError → String
  | .usbNetworkDisabled => "usb_network_disabled"
  | .usbPeerNotLeased => "usb_peer_not_leased"
  | .connectFailed => "connect_failed"
  | .ticketInvalid => "ticket_invalid"
  | .forwardBridgeFailed => "forward_bridge_failed"

def errMsg (code : IpForwardError) (detail : String) : String := "[" ++ code.code ++ "] " ++ detail

/-- What the configuration and the sidecar answer. -/
structure PeerQuery where
  sshForwardingEnabled : Bool
  networkAdapterEnabled : Bool
  usbAvailable : Bool
  leases : Except String (List NetworkAdapterLease)

def resolveUsbPeer (q : PeerQuery) : Except String String := do
  if q.sshForwardingEnabled = false then
    throw (errMsg .usbNetworkDisabled
      ("SSH Forwarding is not enabled; enable MCP + SSH Forwarding to use USB peer forwarding"))
  if q.networkAdapterEnabled = false then
    throw (errMsg .usbNetworkDisabled
      ("USB network adapter is not enabled; enable SSH Forwarding to reach the HDMI-controlled " ++
        "host (or use startIpForward with an explicit host after user confirmation)"))
  if q.usbAvailable = false then
    throw (errMsg .forwardBridgeFailed "USB sidecar not available")
  match q.leases with
  | .error e => throw (errMsg .forwardBridgeFailed ("failed to query USB DHCP leases: " ++ e))
  | .ok leases =>
      if leases = [] then
        throw (errMsg .usbPeerNotLeased
          ("no active USB DHCP lease; wait for the controlled host to obtain an address " ++
            "or enable/check USB network"))
      match selectPeer leases with
      | none => throw "leases non-empty"
      | some selected =>
          if trim selected.ip.toList = [] then
            throw (errMsg .usbPeerNotLeased "USB DHCP lease has empty IP")
          return String.ofList (trim selected.ip.toList)

/-! ## The first of the longest -/

section FirstMax

variable {α β : Type} {key : α → Nat} {xs : List α} {i : Nat} {x : α}

/-- Index `i` holds `x`, whose key is the largest, and all keys before it are smaller. -/
structure FirstMax (key : α → Nat) (xs : List α) (i : Nat) (x : α) : Prop where
  get : xs[i]? = some x
  le : ∀ y ∈ xs, key y ≤ key x
  lt : ∀ j < i, ∀ y, xs[j]? = some y → key y < key x

theorem FirstMax.mem (h : FirstMax key xs i x) : x ∈ xs := List.mem_of_getElem? h.get

theorem FirstMax.map (h : FirstMax key xs i x) {key' : β → Nat} {f : α → β}
    (hkey : ∀ a, key' (f a) = key a) : FirstMax key' (xs.map f) i (f x) where
  get := by rw [List.getElem?_map, h.get, Option.map_some]
  le := by
    intro y hy
    obtain ⟨a, ha, rfl⟩ := List.mem_map.mp hy
    rw [hkey, hkey]
    exact h.le a ha
  lt := by
    intro j hj y hy
    rw [List.getElem?_map] at hy
    obtain ⟨a, ha, rfl⟩ := Option.map_eq_some_iff.mp hy
    rw [hkey, hkey]
    exact h.lt j hj a ha

theorem FirstMax.find (h : FirstMax key xs i x) :
    xs.find? (fun y => key y = key x) = some x := by
  obtain ⟨hi, hx⟩ := List.getElem?_eq_some_iff.mp h.get
  refine List.find?_eq_some_iff_getElem.mpr ⟨by simp, i, hi, hx, fun j hj => ?_⟩
  have hlt := h.lt j hj _ (List.getElem?_eq_getElem (hj.trans hi))
  simp only [Bool.not_eq_true', decide_eq_false_iff_not]
  omega

theorem exists_firstMax (key : α → Nat) (hne : xs ≠ []) : ∃ i x, FirstMax key xs i x := by
  induction xs with
  | nil => exact absurd rfl hne
  | cons a xs ih =>
      by_cases hnil : xs = []
      · subst hnil
        refine ⟨0, a, rfl, ?_, fun j hj => absurd hj (Nat.not_lt_zero j)⟩
        intro y hy
        rw [List.mem_singleton.mp hy]
      · obtain ⟨i, x, hx⟩ := ih hnil
        by_cases hfirst : key x ≤ key a
        · refine ⟨0, a, rfl, ?_, fun j hj => absurd hj (Nat.not_lt_zero j)⟩
          intro y hy
          rcases List.mem_cons.mp hy with rfl | hy
          · exact le_rfl
          · exact (hx.le y hy).trans hfirst
        · have hlt : key a < key x := not_le.mp hfirst
          refine ⟨i + 1, x, by rw [List.getElem?_cons_succ, hx.get], ?_, ?_⟩
          · intro y hy
            rcases List.mem_cons.mp hy with rfl | hy
            · exact hlt.le
            · exact hx.le y hy
          · intro j hj y hy
            cases j with
            | zero =>
                rw [List.getElem?_cons_zero] at hy
                cases hy
                exact hlt
            | succ j =>
                rw [List.getElem?_cons_succ] at hy
                exact hx.lt j (by omega) y hy

theorem key_foldl_max (key : α → Nat) (xs : List α) (a : α) :
    (∀ y ∈ a :: xs, key y ≤ key (xs.foldl (fun best y => if key y < key best then best else y) a)) ∧
      xs.foldl (fun best y => if key y < key best then best else y) a ∈ a :: xs := by
  induction xs generalizing a with
  | nil => simp
  | cons b xs ih =>
      rw [List.foldl_cons]
      by_cases hb : key b < key a
      · rw [if_pos hb]
        obtain ⟨hle, hmem⟩ := ih a
        have ha := hle a List.mem_cons_self
        refine ⟨?_, ?_⟩
        · intro y hy
          rcases List.mem_cons.mp hy with rfl | hy
          · exact ha
          · rcases List.mem_cons.mp hy with rfl | hy
            · exact hb.le.trans ha
            · exact hle y (List.mem_cons_of_mem _ hy)
        · rcases List.mem_cons.mp hmem with hmem | hmem
          · rw [hmem]
            exact List.mem_cons_self
          · exact List.mem_cons_of_mem _ (List.mem_cons_of_mem _ hmem)
      · rw [if_neg hb]
        obtain ⟨hle, hmem⟩ := ih b
        have hbest := hle b List.mem_cons_self
        refine ⟨?_, List.mem_cons_of_mem _ hmem⟩
        intro y hy
        rcases List.mem_cons.mp hy with rfl | hy
        · exact (not_lt.mp hb).trans hbest
        · exact hle y hy

theorem FirstMax.maxByKey (h : FirstMax key xs i x) :
    ∃ best, maxByKey key xs = some best ∧ key best = key x := by
  cases xs with
  | nil => exact absurd h.mem List.not_mem_nil
  | cons a xs =>
      obtain ⟨hle, hmem⟩ := key_foldl_max key xs a
      exact ⟨_, rfl, le_antisymm (h.le _ hmem) (hle x h.mem)⟩

theorem FirstMax.max? (h : FirstMax key xs i x) : (xs.map key).max? = some (key x) := by
  refine List.max?_eq_some_iff.mpr ⟨List.mem_map_of_mem h.mem, ?_⟩
  intro k hk
  obtain ⟨y, hy, rfl⟩ := List.mem_map.mp hk
  exact h.le y hy

end FirstMax

theorem selectControlledHostLease_eq {leases : List DhcpLeaseEntry} {i : Nat} {l : DhcpLeaseEntry}
    (h : FirstMax (·.expiresInSecs) leases i l) : selectControlledHostLease leases = some l := by
  unfold selectControlledHostLease
  rw [if_neg (List.ne_nil_of_mem h.mem)]
  split
  · next hone =>
      obtain ⟨a, rfl⟩ := List.length_eq_one_iff.mp hone
      rw [List.mem_singleton.mp h.mem]
      rfl
  · rw [h.max?]
    exact h.find

theorem selectPeer_eq {leases : List NetworkAdapterLease} {i : Nat} {l : NetworkAdapterLease}
    (h : FirstMax (·.expiresInSecs) leases i l) : selectPeer leases = some l := by
  obtain ⟨best, hbest, hkey⟩ := h.maxByKey
  unfold selectPeer
  rw [hbest]
  change leases.find? (·.expiresInSecs = best.expiresInSecs) = some l
  rw [hkey]
  exact h.find

theorem trim_text (a : Ipv4Addr) : trim a.text.toList = a.text.toList ∧ a.text.toList ≠ [] := by
  have hparse := a.parse_text
  unfold Ipv4Addr.parse at hparse
  obtain ⟨octets, hoctets, -⟩ := Option.bind_eq_some_iff.mp hparse
  refine ⟨Lib.Text.trim_of_solid (solid_of_parseIpv4 hoctets), fun hnil => ?_⟩
  rw [hnil] at hoctets
  cases hoctets

/-- Both processes choose the lease at the index of the first longest one, and there is none to
choose exactly when there are no leases. -/
theorem same_controlled_host (leases : List DhcpLeaseEntry) :
    (leases = [] ∧ selectControlledHostLease leases = none ∧
        selectPeer (leases.map toReply) = none ∧
        ∀ q : PeerQuery, q.leases = .ok (leases.map toReply) → ∃ e, resolveUsbPeer q = .error e) ∨
      ∃ i l, FirstMax (·.expiresInSecs) leases i l ∧
        selectControlledHostLease leases = some l ∧
        (leases.map toReply)[i]? = some (toReply l) ∧
        selectPeer (leases.map toReply) = some (toReply l) ∧
        ∀ q : PeerQuery, q.sshForwardingEnabled = true → q.networkAdapterEnabled = true →
          q.usbAvailable = true → q.leases = .ok (leases.map toReply) →
          resolveUsbPeer q = .ok l.ip.text := by
  by_cases hnil : leases = []
  · subst hnil
    refine .inl ⟨rfl, rfl, rfl, ?_⟩
    rintro ⟨_ | _, _ | _, _ | _, q⟩ hq <;> obtain rfl : q = .ok [] := hq <;> exact ⟨_, rfl⟩
  · obtain ⟨i, l, h⟩ := exists_firstMax (·.expiresInSecs) hnil
    have hreply : FirstMax (·.expiresInSecs) (leases.map toReply) i (toReply l) :=
      h.map fun _ => rfl
    refine .inr ⟨i, l, h, selectControlledHostLease_eq h, hreply.get, selectPeer_eq hreply, ?_⟩
    rintro ⟨ssh, adapter, usb, q⟩ hssh hadapter husb hq
    obtain rfl : ssh = true := hssh
    obtain rfl : adapter = true := hadapter
    obtain rfl : usb = true := husb
    obtain rfl : q = .ok (leases.map toReply) := hq
    obtain ⟨htrim, hblank⟩ := trim_text l.ip
    have hne : leases.map toReply ≠ [] := List.ne_nil_of_mem hreply.mem
    have hip : (toReply l).ip = l.ip.text := rfl
    simp [resolveUsbPeer, hne, selectPeer_eq hreply, hip, htrim, hblank]
    rfl

end ArkKvm.Dhcp
