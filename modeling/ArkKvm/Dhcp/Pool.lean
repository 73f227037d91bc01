import ArkKvm.Network.Address

/-!
# The address pool of the USB network

`derive_dhcp_pool` of `devices/network/dhcp.rs`: the pool that `udhcpd` hands out on the USB
network, from the address and the subnet mask of the board.
-/

namespace ArkKvm.Dhcp

abbrev Ipv4Addr := BitVec 32

namespace Ipv4Addr

def octets (a : Ipv4Addr) : List Nat :=
  [a.toNat / 2 ^ 24, a.toNat / 2 ^ 16 % 256, a.toNat / 2 ^ 8 % 256, a.toNat % 256]

def ofOctets : List Nat → Option Ipv4Addr
  | [a, b, c, d] => some (BitVec.ofNat 32 (a * 2 ^ 24 + b * 2 ^ 16 + c * 2 ^ 8 + d))
  | _ => none

/-- `Ipv4Addr::to_string`. -/
def text (a : Ipv4Addr) : String :=
  String.ofList (List.intercalate ['.'] (a.octets.map fun n => (toString n).toList))

def parse (s : String) : Option Ipv4Addr := (parseIpv4 s.toList).bind ofOctets

theorem octets_lt (a : Ipv4Addr) : ∀ n ∈ a.octets, n < 256 := by
  have ha := a.isLt
  simp only [octets, List.forall_mem_cons, List.not_mem_nil, false_implies, implies_true, and_true]
  omega

theorem ofOctets_octets (a : Ipv4Addr) : ofOctets a.octets = some a := by
  have ha := a.isLt
  have hsum : a.toNat / 2 ^ 24 * 2 ^ 24 + a.toNat / 2 ^ 16 % 256 * 2 ^ 16 +
      a.toNat / 2 ^ 8 % 256 * 2 ^ 8 + a.toNat % 256 = a.toNat := by omega
  rw [octets, ofOctets, hsum, BitVec.ofNat_toNat]
  rfl

theorem parseOctet_toString : ∀ n < 256, parseOctet (toString n).toList = some n ∧
    '.' ∉ (toString n).toList := by decide +kernel

theorem mapM_parseOctet {ns : List Nat} (h : ∀ n ∈ ns, n < 256) :
    (ns.map fun n => (toString n).toList).mapM parseOctet = some ns := by
  induction ns with
  | nil => rfl
  | cons n ns ih =>
      obtain ⟨hn, hns⟩ := List.forall_mem_cons.mp h
      rw [List.map_cons, List.mapM_cons, (parseOctet_toString n hn).1, ih hns]
      rfl

theorem parse_text (a : Ipv4Addr) : parse a.text = some a := by
  have hsplit : (List.intercalate ['.'] (a.octets.map fun n => (toString n).toList)).splitOn '.' =
      a.octets.map fun n => (toString n).toList := by
    refine List.splitOn_intercalate '.' ?_ (by simp [octets])
    intro l hl
    obtain ⟨n, hn, rfl⟩ := List.mem_map.mp hl
    exact (parseOctet_toString n (octets_lt a n hn)).2
  unfold parse parseIpv4 text
  rw [String.toList_ofList]
  dsimp only
  rw [hsplit, if_pos (by simp [octets]), mapM_parseOctet (octets_lt a)]
  exact ofOctets_octets a

end Ipv4Addr

/-! ## The pool -/

structure DhcpPool where
  start : String
  «end» : String
deriving DecidableEq

/-- `saturating_sub(1)`. -/
def pred (a : Ipv4Addr) : Ipv4Addr := if a = 0 then 0 else a - 1

def networkOf (ip mask : Ipv4Addr) : Ipv4Addr := ip &&& mask

def broadcastOf (ip mask : Ipv4Addr) : Ipv4Addr := networkOf ip mask ||| ~~~ mask

/-- The first and the last address of the window in the subnet. -/
def window (ip mask : Ipv4Addr) : Ipv4Addr × Ipv4Addr :=
  let network := networkOf ip mask
  let broadcast := broadcastOf ip mask
  let start := network + 100
  let last := network + 200
  (if start ≤ network then network + 1 else start, if broadcast ≤ last then pred broadcast else last)

def poolRange (ip mask : Ipv4Addr) : Except String (Ipv4Addr × Ipv4Addr) :=
  let (start, last) := window ip mask
  if last < start then .error "subnet too small for DHCP pool"
  else if start ≤ ip ∧ ip ≤ last then
    let start' := if ip = start then ip + 1 else start
    let last' := if ip ≠ start ∧ ip = last then ip - 1 else last
    if last' < start' then .error "DHCP pool empty after excluding board IP" else .ok (start', last')
  else .ok (start, last)

def deriveDhcpPool (ipAddress subnetMask : String) : Except String DhcpPool :=
  match Ipv4Addr.parse ipAddress, Ipv4Addr.parse subnetMask with
  | none, _ => .error ("invalid ip_address " ++ ipAddress.quote)
  | some _, none => .error ("invalid subnet_mask " ++ subnetMask.quote)
  | some ip, some mask =>
      (poolRange ip mask).map fun range => { start := range.1.text, «end» := range.2.text }

example : deriveDhcpPool "172.16.0.100" "255.255.255.0" =
    .ok { start := "172.16.0.101", «end» := "172.16.0.200" } := by decide +kernel

/-! ## Subnets -/

/-- The contiguous mask of `n` ones. -/
def prefixMask (n : Nat) : Ipv4Addr := BitVec.allOnes 32 <<< (32 - n)

theorem toNat_and_shifted (ip : Ipv4Addr) (k : Nat) :
    (ip &&& (BitVec.allOnes 32 <<< k)).toNat = ip.toNat / 2 ^ k * 2 ^ k := by
  rw [← BitVec.shiftLeft_ushiftRight, BitVec.toNat_shiftLeft, BitVec.toNat_ushiftRight,
    Nat.shiftRight_eq_div_pow, Nat.shiftLeft_eq, Nat.mod_eq_of_lt]
  exact lt_of_le_of_lt (Nat.div_mul_le_self _ _) ip.isLt

theorem toNat_not_shifted {k : Nat} (hk : k ≤ 32) :
    (~~~ (BitVec.allOnes 32 <<< k)).toNat = 2 ^ k - 1 := by
  have h := toNat_and_shifted (BitVec.allOnes 32) k
  rw [BitVec.allOnes_and] at h
  rw [BitVec.toNat_not, h, BitVec.toNat_allOnes]
  interval_cases k <;> rfl

structure Subnet (ip mask : Ipv4Addr) (network size : Nat) : Prop where
  network_eq : (networkOf ip mask).toNat = network
  broadcast_eq : (broadcastOf ip mask).toNat = network + size - 1
  /-- the addresses with this network are the ones of the subnet -/
  mem_iff : ∀ x, networkOf x mask = networkOf ip mask ↔ network ≤ x.toNat ∧ x.toNat < network + size
  le : network + size ≤ 2 ^ 32
  /-- the sizes that the window of the pool tells apart -/
  size_cases : 256 ≤ size ∨ (size = 128 ∧ 128 ∣ network) ∨ (1 ≤ size ∧ size ≤ 64)

theorem subnet_of_prefixMask (ip : Ipv4Addr) (n : Nat) :
    Subnet ip (prefixMask n) (ip.toNat / 2 ^ (32 - n) * 2 ^ (32 - n)) (2 ^ (32 - n)) := by
  have hk : 32 - n ≤ 32 := Nat.sub_le 32 n
  unfold prefixMask
  generalize 32 - n = k at hk
  have hpos : 0 < 2 ^ k := Nat.two_pow_pos k
  have hdivides : (2 : Nat) ^ k ∣ 2 ^ 32 := Nat.pow_dvd_pow 2 hk
  have hip := ip.isLt
  have hle : ip.toNat / 2 ^ k * 2 ^ k + 2 ^ k ≤ 2 ^ 32 := by
    obtain ⟨c, hc⟩ := hdivides
    rw [hc] at hip ⊢
    have hq : ip.toNat / 2 ^ k < c := Nat.div_lt_of_lt_mul hip
    calc ip.toNat / 2 ^ k * 2 ^ k + 2 ^ k
        = (ip.toNat / 2 ^ k + 1) * 2 ^ k := (Nat.succ_mul _ _).symm
      _ ≤ c * 2 ^ k := Nat.mul_le_mul_right _ hq
      _ = 2 ^ k * c := Nat.mul_comm _ _
  refine ⟨toNat_and_shifted ip k, ?_, ?_, hle, ?_⟩
  · have hdisjoint : (networkOf ip (BitVec.allOnes 32 <<< k)) &&& ~~~ (BitVec.allOnes 32 <<< k) =
        0#32 := by
      rw [networkOf, BitVec.and_assoc, BitVec.and_not_self]
      exact BitVec.and_zero
    rw [broadcastOf, ← BitVec.add_eq_or_of_and_eq_zero _ _ hdisjoint,
      BitVec.toNat_add_of_and_eq_zero hdisjoint, networkOf, toNat_and_shifted,
      toNat_not_shifted hk]
    omega
  · intro x
    rw [← BitVec.toNat_inj, networkOf, networkOf, toNat_and_shifted, toNat_and_shifted,
      Nat.mul_left_inj hpos.ne']
    rw [Nat.div_eq_iff hpos]
    omega
  · by_cases hlarge : 8 ≤ k
    · have hpow : 2 ^ 8 ≤ 2 ^ k := Nat.pow_le_pow_right Nat.two_pos hlarge
      exact .inl hpow
    · by_cases hseven : k = 7
      · subst hseven
        exact .inr (.inl ⟨rfl, Nat.dvd_mul_left _ _⟩)
      · have hsmall : 2 ^ k ≤ 2 ^ 6 := Nat.pow_le_pow_right Nat.two_pos (by omega)
        exact .inr (.inr ⟨hpos, hsmall⟩)

/-! ## What the pool excludes -/

/-- Accepted: the pool lies strictly inside the subnet and leaves the board out.  Rejected: no
address of the window 100 to 200 other than the board's is in the subnet. -/
def PoolProper (ip mask : Ipv4Addr) : Except String DhcpPool → Prop
  | .ok pool => ∃ start last, Ipv4Addr.parse pool.start = some start ∧
      Ipv4Addr.parse pool.end = some last ∧ networkOf ip mask < start ∧ start ≤ last ∧
      last < broadcastOf ip mask ∧ ¬ (start ≤ ip ∧ ip ≤ last)
  | .error _ => ∀ x, x ≠ ip → (networkOf ip mask).toNat + 100 ≤ x.toNat →
      x.toNat ≤ (networkOf ip mask).toNat + 200 → networkOf x mask ≠ networkOf ip mask

/-- The board is no inner address of the window, and the subnet is neither the upper half of
255.255.255.0/24 nor the address 255.255.255.255 alone. -/
def BoardAside (ip mask : Ipv4Addr) : Prop :=
  ¬ ((networkOf ip mask).toNat + 100 < ip.toNat ∧ ip.toNat < (networkOf ip mask).toNat + 200 ∧
      ip.toNat + 1 < (broadcastOf ip mask).toNat) ∧
    ¬ (networkOf ip mask = 0xFFFFFF80 ∧ broadcastOf ip mask = 0xFFFFFFFF) ∧
    networkOf ip mask ≠ 0xFFFFFFFF

def RangeProper (ip mask : Ipv4Addr) : Except String (Ipv4Addr × Ipv4Addr) → Prop
  | .ok (start, last) => networkOf ip mask < start ∧ start ≤ last ∧
      last < broadcastOf ip mask ∧ ¬ (start ≤ ip ∧ ip ≤ last)
  | .error _ => ∀ x, x ≠ ip → (networkOf ip mask).toNat + 100 ≤ x.toNat →
      x.toNat ≤ (networkOf ip mask).toNat + 200 → networkOf x mask ≠ networkOf ip mask

theorem poolProper_iff {ip mask : Ipv4Addr} {ipAddress subnetMask : String}
    (hip : Ipv4Addr.parse ipAddress = some ip) (hmask : Ipv4Addr.parse subnetMask = some mask) :
    PoolProper ip mask (deriveDhcpPool ipAddress subnetMask) ↔
      RangeProper ip mask (poolRange ip mask) := by
  unfold deriveDhcpPool
  rw [hip, hmask]
  dsimp only
  cases poolRange ip mask with
  | error e => rfl
  | ok range =>
      obtain ⟨start, last⟩ := range
      constructor
      · rintro ⟨a, b, ha, hb, hproper⟩
        change Ipv4Addr.parse start.text = some a at ha
        change Ipv4Addr.parse last.text = some b at hb
        rw [Ipv4Addr.parse_text] at ha hb
        cases ha
        cases hb
        exact hproper
      · exact fun hproper => ⟨start, last, Ipv4Addr.parse_text _, Ipv4Addr.parse_text _, hproper⟩

variable {ip mask : Ipv4Addr} {network size : Nat}

theorem rangeProper_of_window {start last : Ipv4Addr} (h : window ip mask = (start, last))
    (hlow : networkOf ip mask < start) (hroom : start.toNat + 2 ≤ last.toNat)
    (hhigh : last < broadcastOf ip mask) :
    RangeProper ip mask (poolRange ip mask) ↔ ¬ (start < ip ∧ ip < last) := by
  unfold poolRange
  rw [h]
  dsimp only
  rw [if_neg (by bv_omega)]
  by_cases hin : start ≤ ip ∧ ip ≤ last
  · rw [if_pos hin]
    by_cases hfirst : ip = start
    · subst hfirst
      have hlast : (if ip ≠ ip ∧ ip = last then ip - 1 else last) = last :=
        if_neg fun hne => hne.1 rfl
      rw [if_pos (rfl : ip = ip), hlast, if_neg (by bv_omega)]
      simp only [RangeProper]
      bv_omega
    · by_cases hlast : ip = last
      · subst hlast
        have hlast : (if ip ≠ start ∧ ip = ip then ip - 1 else ip) = ip - 1 :=
          if_pos ⟨hfirst, rfl⟩
        rw [if_neg hfirst, hlast, if_neg (by bv_omega)]
        simp only [RangeProper]
        bv_omega
      · have hkept : (if ip ≠ start ∧ ip = last then ip - 1 else last) = last :=
          if_neg fun hne => hlast hne.2
        rw [if_neg hfirst, hkept, if_neg (by bv_omega)]
        simp only [RangeProper]
        bv_omega
  · rw [if_neg hin]
    simp only [RangeProper]
    bv_omega

theorem rangeProper_large (h : Subnet ip mask network size) (hsize : 256 ≤ size) :
    RangeProper ip mask (poolRange ip mask) ↔ BoardAside ip mask := by
  obtain ⟨hnetwork, hbroadcast, -, hle, -⟩ := h
  have hwindow : window ip mask = (networkOf ip mask + 100, networkOf ip mask + 200) := by
    unfold window
    dsimp only
    rw [if_neg (by bv_omega), if_neg (by bv_omega)]
  rw [rangeProper_of_window hwindow (by bv_omega) (by bv_omega) (by bv_omega)]
  unfold BoardAside
  bv_omega

theorem poolRange_of_lt {start last : Ipv4Addr} (h : window ip mask = (start, last))
    (hlt : last < start) : poolRange ip mask = .error "subnet too small for DHCP pool" := by
  unfold poolRange
  rw [h]
  exact if_pos hlt

/-- With 128 addresses the window ends before the broadcast address; in the last such subnet
its end wraps around. -/
theorem rangeProper_half (h : Subnet ip mask network 128) (hdvd : 128 ∣ network) :
    RangeProper ip mask (poolRange ip mask) ↔ BoardAside ip mask := by
  obtain ⟨hnetwork, hbroadcast, hmem, hle, -⟩ := h
  by_cases hlast : network = 0xFFFFFF80
  · have hwindow : window ip mask = (networkOf ip mask + 100, networkOf ip mask + 200) := by
      unfold window
      dsimp only
      rw [if_neg (by bv_omega), if_neg (by bv_omega)]
    rw [poolRange_of_lt hwindow (by bv_omega)]
    have hbug : ¬ BoardAside ip mask := fun h => h.2.1 (by bv_omega)
    refine iff_of_false (fun hproper => ?_) hbug
    have hfree : ∃ x : Ipv4Addr, x ≠ ip ∧ network + 100 ≤ x.toNat ∧ x.toNat ≤ network + 101 := by
      by_cases hip : ip = networkOf ip mask + 100
      · exact ⟨networkOf ip mask + 101, by bv_omega, by bv_omega, by bv_omega⟩
      · exact ⟨networkOf ip mask + 100, Ne.symm hip, by bv_omega, by bv_omega⟩
    obtain ⟨x, hx, hlow, hhigh⟩ := hfree
    exact hproper x hx (by omega) (by omega) ((hmem x).mpr (by omega))
  · have hwindow : window ip mask = (networkOf ip mask + 100, broadcastOf ip mask - 1) := by
      unfold window pred
      dsimp only
      rw [if_neg (by bv_omega), if_pos (by bv_omega), if_neg (by bv_omega)]
    rw [rangeProper_of_window hwindow (by bv_omega) (by bv_omega) (by bv_omega)]
    unfold BoardAside
    bv_omega

theorem rangeProper_small (h : Subnet ip mask network size) (hone : 1 ≤ size)
    (hsize : size ≤ 64) : RangeProper ip mask (poolRange ip mask) ↔ BoardAside ip mask := by
  obtain ⟨hnetwork, hbroadcast, hmem, hle, -⟩ := h
  have hip := (hmem ip).mp rfl
  by_cases hlast : network = 0xFFFFFFFF
  · -- the start wraps around to zero, and so the window is not rejected
    have hwindow : window ip mask = (0, 199) := by
      unfold window
      dsimp only
      rw [if_pos (by bv_omega), if_neg (by bv_omega)]
      exact Prod.ext (by bv_omega) (by bv_omega)
    have hrange : poolRange ip mask = .ok (0, 199) := by
      unfold poolRange
      rw [hwindow]
      dsimp only
      rw [if_neg (by decide), if_neg (by bv_omega)]
    rw [hrange]
    refine iff_of_false (fun hproper => ?_) (fun h => h.2.2 (by bv_omega))
    exact absurd hproper.1 (by bv_omega)
  · have haside : BoardAside ip mask := by
      unfold BoardAside
      bv_omega
    have hreject : poolRange ip mask = .error "subnet too small for DHCP pool" := by
      rcases hw : window ip mask with ⟨start, last⟩
      refine poolRange_of_lt hw ?_
      unfold window pred at hw
      dsimp only at hw
      obtain ⟨rfl, rfl⟩ := Prod.mk.inj hw
      split <;> split <;> (try split) <;> bv_omega
    rw [hreject]
    refine iff_of_true (fun x _ hlow _ hx => ?_) haside
    have := (hmem x).mp hx
    omega

/-- For every address and every contiguous mask the pool is proper exactly when the board is at
no inner address of the window and the subnet is none of the two that wrap around. -/
theorem derive_dhcp_pool_iff {ipAddress subnetMask : String} {ip : Ipv4Addr} {n : Nat}
    (hip : Ipv4Addr.parse ipAddress = some ip)
    (hmask : Ipv4Addr.parse subnetMask = some (prefixMask n)) :
    PoolProper ip (prefixMask n) (deriveDhcpPool ipAddress subnetMask) ↔
      BoardAside ip (prefixMask n) := by
  rw [poolProper_iff hip hmask]
  have hsubnet := subnet_of_prefixMask ip n
  rcases hsubnet.size_cases with hlarge | ⟨hhalf, hdvd⟩ | ⟨hone, hsmall⟩
  · exact rangeProper_large hsubnet hlarge
  · rw [hhalf] at hsubnet hdvd
    exact rangeProper_half hsubnet hdvd
  · exact rangeProper_small hsubnet hone hsmall

/-- The board of the tests, at the first address of the window. -/
theorem derive_dhcp_pool_iff_at_100 :
    PoolProper 0xAC100064 (prefixMask 24) (deriveDhcpPool "172.16.0.100" "255.255.255.0") :=
  (derive_dhcp_pool_iff (by decide +kernel) (by decide +kernel)).mpr
    ⟨by decide, by decide, by decide⟩

/-- A board at an inner address of the window stays in its own pool. -/
theorem pool_contains_board :
    Ipv4Addr.parse "172.16.0.150" = some 0xAC100096 ∧
      Ipv4Addr.parse "255.255.255.0" = some (prefixMask 24) ∧
      ¬ PoolProper 0xAC100096 (prefixMask 24) (deriveDhcpPool "172.16.0.150" "255.255.255.0") := by
  have hpool : deriveDhcpPool "172.16.0.150" "255.255.255.0" =
      .ok { start := "172.16.0.100", «end» := "172.16.0.200" } := by decide +kernel
  refine ⟨by decide +kernel, by decide +kernel, ?_⟩
  rw [hpool]
  rintro ⟨start, last, hstart, hlast, -, -, -, hout⟩
  have hstart' : Ipv4Addr.parse "172.16.0.100" = some 0xAC100064 := by decide +kernel
  have hlast' : Ipv4Addr.parse "172.16.0.200" = some 0xAC1000C8 := by decide +kernel
  rw [hstart'] at hstart
  rw [hlast'] at hlast
  cases hstart
  cases hlast
  exact hout (by decide)

end ArkKvm.Dhcp
