import ArkKvm.Dhcp.Pool
import ArkKvm.Lib.Bytes
import ArkKvm.Lib.Text
import ArkKvm.Lib.Utf8

/-!
# The lease file of the USB network

`parse_lease_file` of `devices/network/dhcp.rs`: BusyBox `udhcpd` writes a time stamp of eight
bytes and then one record of 36 bytes for each lease.  Older versions write no time stamp, and
the parser tells the two layouts apart by the length of the file.
-/

namespace ArkKvm.Dhcp

open Lib.Bytes (slice)

def dynLeaseSize : Nat := 36

/-- `LEASE_FILE_HEADER_LEN`. -/
def leaseFileHeaderLen : Nat := 8

structure DhcpLeaseEntry where
  ip : Ipv4Addr
  mac : List UInt8
  hostname : String
  /-- the remaining time in seconds -/
  expiresInSecs : Nat
deriving DecidableEq

def fromBeBytes (bytes : List UInt8) : Nat := bytes.foldl (fun acc b => 256 * acc + b.toNat) 0

/-- `String::from_utf8_lossy(bytes).trim()` up to the first zero byte. -/
def hostnameOf (bytes : List UInt8) : String :=
  String.ofList (Lib.Text.trim (Lib.Utf8.fromUtf8Lossy (bytes.takeWhile (· ≠ 0))))

/-- What the loop of the parser pushes for one record: nothing for an empty slot, a missing
MAC or an expired lease. -/
def activeLease (rec : List UInt8) : Option DhcpLeaseEntry :=
  let expiresRaw := fromBeBytes (slice rec 0 4)
  let nip := fromBeBytes (slice rec 4 4)
  let mac := slice rec 8 6
  if nip = 0 then none
  else if mac.all (· = 0) then none
  else if expiresRaw = 0 then none
  else some
    { ip := BitVec.ofNat 32 nip
      mac := mac
      hostname := hostnameOf (slice rec 14 20)
      expiresInSecs := expiresRaw }

def parseLoop (body : List UInt8) : Nat → Nat → List DhcpLeaseEntry → List DhcpLeaseEntry
  | 0, _, out => out
  | fuel + 1, offset, out =>
      if offset + dynLeaseSize ≤ body.length then
        parseLoop body fuel (offset + dynLeaseSize)
          (out ++ (activeLease (slice body offset dynLeaseSize)).toList)
      else out

def leaseRecordsSlice (data : List UInt8) : List UInt8 :=
  if leaseFileHeaderLen ≤ data.length then
    let withHeader := (data.length - leaseFileHeaderLen) % dynLeaseSize = 0
    let withoutHeader := data.length % dynLeaseSize = 0
    if withHeader ∧ ¬ withoutHeader then data.drop leaseFileHeaderLen
    else if withHeader ∧ 1000000000 ≤ fromBeBytes (slice data 0 8) ∧
        fromBeBytes (slice data 0 8) < 4102444800 then data.drop leaseFileHeaderLen
    else data
  else data

def parseLeaseFile (data : List UInt8) : List DhcpLeaseEntry :=
  parseLoop (leaseRecordsSlice data) (leaseRecordsSlice data).length 0 []

/-! ## Records of a file -/

/-- The active leases of a file without a time stamp: one record after the other, and the rest
that is no whole record is left out. -/
def leasesOf (body : List UInt8) : List DhcpLeaseEntry :=
  (List.range (body.length / 36)).filterMap fun j => activeLease (slice body (36 * j) 36)

theorem parseLoop_eq (body : List UInt8) (fuel j : Nat) (out : List DhcpLeaseEntry)
    (h : body.length / 36 ≤ j + fuel) :
    parseLoop body fuel (36 * j) out =
      out ++ (List.range' j (body.length / 36 - j)).filterMap
        fun i => activeLease (slice body (36 * i) 36) := by
  induction fuel generalizing j out with
  | zero =>
      have hnone : body.length / 36 - j = 0 := by omega
      rw [parseLoop, hnone]
      simp
  | succ fuel ih =>
      rw [parseLoop, dynLeaseSize]
      by_cases hroom : 36 * j + 36 ≤ body.length
      · have hnext : 36 * j + 36 = 36 * (j + 1) := by omega
        have hcount : body.length / 36 - j = body.length / 36 - (j + 1) + 1 := by omega
        rw [if_pos hroom, hnext, ih (j + 1) _ (by omega), hcount, List.range'_succ,
          List.filterMap_cons, List.append_assoc]
        cases activeLease (slice body (36 * j) 36) <;> rfl
      · have hnone : body.length / 36 - j = 0 := by omega
        rw [if_neg hroom, hnone]
        simp

theorem parseLeaseFile_eq (data : List UInt8) :
    parseLeaseFile data = leasesOf (leaseRecordsSlice data) := by
  have hloop := parseLoop_eq (leaseRecordsSlice data) (leaseRecordsSlice data).length 0 []
    (by omega)
  rw [List.nil_append, Nat.sub_zero, ← List.range_eq_range'] at hloop
  exact hloop

theorem leaseRecordsSlice_eq (data : List UInt8) :
    leaseRecordsSlice data = if data.length % 36 = 8 then data.drop 8 else data := by
  unfold leaseRecordsSlice leaseFileHeaderLen dynLeaseSize
  by_cases hlong : 8 ≤ data.length
  · rw [if_pos hlong]
    dsimp only
    by_cases hheader : data.length % 36 = 8
    · rw [if_pos hheader, if_pos (by omega)]
    · rw [if_neg hheader, if_neg (by omega), if_neg (by omega)]
  · rw [if_neg hlong, if_neg (by omega)]

theorem mem_leasesOf {body : List UInt8} {lease : DhcpLeaseEntry} :
    lease ∈ leasesOf body ↔
      ∃ j, 36 * (j + 1) ≤ body.length ∧ activeLease (slice body (36 * j) 36) = some lease := by
  unfold leasesOf
  rw [List.mem_filterMap]
  constructor
  · rintro ⟨j, hj, hlease⟩
    exact ⟨j, by have := List.mem_range.mp hj; omega, hlease⟩
  · rintro ⟨j, hj, hlease⟩
    exact ⟨j, List.mem_range.mpr (by omega), hlease⟩

theorem leasesOf_append {block : List UInt8} (h : block.length = 36) (rest : List UInt8) :
    leasesOf (block ++ rest) = (activeLease block).toList ++ leasesOf rest := by
  have hcount : (block ++ rest).length / 36 = rest.length / 36 + 1 := by
    rw [List.length_append, h]
    omega
  have hfirst : slice (block ++ rest) (36 * 0) 36 = block := by
    unfold slice
    rw [Nat.mul_zero, List.drop_zero, ← h, List.take_left]
  have hnext : ∀ j, slice (block ++ rest) (36 * (j + 1)) 36 = slice rest (36 * j) 36 := by
    intro j
    unfold slice
    rw [show 36 * (j + 1) = block.length + 36 * j by omega, List.drop_length_add_append]
  unfold leasesOf
  rw [hcount, List.range_succ_eq_map, List.filterMap_cons, hfirst, List.filterMap_map]
  simp only [Function.comp_def, Nat.succ_eq_add_one, hnext]
  cases activeLease block <;> rfl

/-! ## What BusyBox writes -/

def toBeBytes (x : BitVec 32) : List UInt8 :=
  [UInt8.ofNat (x.toNat / 2 ^ 24), UInt8.ofNat (x.toNat / 2 ^ 16), UInt8.ofNat (x.toNat / 2 ^ 8),
    UInt8.ofNat x.toNat]

structure LeaseRecord where
  expires : BitVec 32
  nip : BitVec 32
  mac : Vector UInt8 6
  hostname : Vector UInt8 20
  pad : Vector UInt8 2

def LeaseRecord.bytes (r : LeaseRecord) : List UInt8 :=
  toBeBytes r.expires ++ toBeBytes r.nip ++ r.mac.toList ++ r.hostname.toList ++ r.pad.toList

/-- The lease that a record stands for: it has an address, a MAC and time left. -/
def LeaseRecord.lease (r : LeaseRecord) : Option DhcpLeaseEntry :=
  if r.nip ≠ 0 ∧ (∃ b ∈ r.mac.toList, b ≠ 0) ∧ r.expires ≠ 0 then some
    { ip := r.nip
      mac := r.mac.toList
      hostname := hostnameOf r.hostname.toList
      expiresInSecs := r.expires.toNat }
  else none

theorem length_toBeBytes (x : BitVec 32) : (toBeBytes x).length = 4 := rfl

theorem fromBeBytes_toBeBytes (x : BitVec 32) : fromBeBytes (toBeBytes x) = x.toNat := by
  have hx := x.isLt
  simp only [fromBeBytes, toBeBytes, List.foldl_cons, List.foldl_nil, UInt8.toNat_ofNat']
  omega

theorem LeaseRecord.length_bytes (r : LeaseRecord) : r.bytes.length = 36 := by
  simp [LeaseRecord.bytes, length_toBeBytes]

theorem slice_middle {pre mid post : List UInt8} {start n : Nat} (hstart : pre.length = start)
    (hn : mid.length = n) : slice (pre ++ (mid ++ post)) start n = mid := by
  unfold slice
  rw [← hstart, List.drop_left, ← hn, List.take_left]

theorem activeLease_bytes (r : LeaseRecord) : activeLease r.bytes = r.lease := by
  have hexpires : slice r.bytes 0 4 = toBeBytes r.expires := by
    unfold LeaseRecord.bytes
    simp only [List.append_assoc]
    exact slice_middle (List.length_nil : ([] : List UInt8).length = 0) (length_toBeBytes _)
  have hnip : slice r.bytes 4 4 = toBeBytes r.nip := by
    unfold LeaseRecord.bytes
    simp only [List.append_assoc]
    exact slice_middle (length_toBeBytes _) (length_toBeBytes _)
  have hmac : slice r.bytes 8 6 = r.mac.toList := by
    unfold LeaseRecord.bytes
    rw [List.append_assoc, List.append_assoc]
    exact slice_middle (by simp [length_toBeBytes]) (by simp)
  have hhost : slice r.bytes 14 20 = r.hostname.toList := by
    unfold LeaseRecord.bytes
    rw [List.append_assoc]
    exact slice_middle (by simp [length_toBeBytes]) (by simp)
  unfold activeLease LeaseRecord.lease
  rw [hexpires, hnip, hmac, hhost, fromBeBytes_toBeBytes, fromBeBytes_toBeBytes]
  dsimp only
  have hzero : ∀ x : BitVec 32, x.toNat = 0 ↔ x = 0 := by
    intro x
    rw [← BitVec.toNat_inj]
    rfl
  have hblank : (r.mac.toList.all (· = 0)) = true ↔ ¬ ∃ b ∈ r.mac.toList, b ≠ 0 := by
    rw [List.all_eq_true]
    constructor
    · rintro h ⟨b, hb, hne⟩
      exact hne (of_decide_eq_true (h b hb))
    · intro h b hb
      exact decide_eq_true (by_contra fun hne => h ⟨b, hb, hne⟩)
  by_cases hip : r.nip = 0
  · rw [if_pos ((hzero _).mpr hip), if_neg (fun h => h.1 hip)]
  · by_cases hmac' : ∃ b ∈ r.mac.toList, b ≠ 0
    · by_cases htime : r.expires = 0
      · rw [if_neg (mt (hzero _).mp hip), if_neg (fun h => hblank.mp h hmac'),
          if_pos ((hzero _).mpr htime), if_neg (fun h => h.2.2 htime)]
      · rw [if_neg (mt (hzero _).mp hip), if_neg (fun h => hblank.mp h hmac'),
          if_neg (mt (hzero _).mp htime), if_pos ⟨hip, hmac', htime⟩, BitVec.ofNat_toNat]
        rfl
    · rw [if_neg (mt (hzero _).mp hip), if_pos (hblank.mpr hmac'), if_neg (fun h => hmac' h.2.1)]

/-- What BusyBox writes for its leases, behind a header. -/
def leaseFile (header : List UInt8) (records : List LeaseRecord) : List UInt8 :=
  header ++ records.flatMap (·.bytes)

theorem length_records (records : List LeaseRecord) :
    (records.flatMap (·.bytes)).length = 36 * records.length := by
  induction records with
  | nil => rfl
  | cons r records ih =>
      rw [List.flatMap_cons, List.length_append, r.length_bytes, ih, List.length_cons]
      omega

theorem leasesOf_records (records : List LeaseRecord) :
    leasesOf (records.flatMap (·.bytes)) = records.filterMap (·.lease) := by
  induction records with
  | nil => rfl
  | cons r records ih =>
      rw [List.flatMap_cons, leasesOf_append r.length_bytes, ih, activeLease_bytes,
        List.filterMap_cons]
      cases r.lease <;> rfl

theorem parseLeaseFile_leaseFile {header : List UInt8} (h : header.length = 8)
    (records : List LeaseRecord) :
    parseLeaseFile (leaseFile header records) = records.filterMap (·.lease) := by
  have hlen : (leaseFile header records).length % 36 = 8 := by
    rw [leaseFile, List.length_append, length_records, h]
    omega
  rw [parseLeaseFile_eq, leaseRecordsSlice_eq, if_pos hlen, leaseFile, ← h, List.drop_left,
    leasesOf_records]

/-- The last eight bytes of a record: the end of its hostname and the padding. -/
def LeaseRecord.lastEight (r : LeaseRecord) : List UInt8 := r.bytes.drop 28

/-- The 36 bytes that a parser without a header takes for record `j`: the eight bytes before it
and its own first 28. -/
def shifted (header : List UInt8) (records : List LeaseRecord) (j : Nat) : List UInt8 :=
  slice (leaseFile header records) (36 * j) 36

theorem shifted_zero {header : List UInt8} (h : header.length = 8) (r : LeaseRecord)
    (records : List LeaseRecord) : shifted header (r :: records) 0 = header ++ r.bytes.take 28 := by
  unfold shifted slice leaseFile
  rw [Nat.mul_zero, List.drop_zero, List.take_append, h, List.take_of_length_le (by omega),
    List.flatMap_cons, List.take_append_of_le_length (by rw [r.length_bytes]; omega)]

/-- The header of the next record is the end of the one before it. -/
theorem shifted_succ {header : List UInt8} (h : header.length = 8) (r : LeaseRecord)
    (records : List LeaseRecord) (j : Nat) :
    shifted header (r :: records) (j + 1) = shifted r.lastEight records j := by
  have hsplit : leaseFile header (r :: records) =
      (header ++ r.bytes.take 28) ++ leaseFile r.lastEight records := by
    unfold leaseFile LeaseRecord.lastEight
    rw [List.flatMap_cons]
    simp only [List.append_assoc]
    rw [← List.append_assoc (r.bytes.take 28), List.take_append_drop]
  have hlen : (header ++ r.bytes.take 28).length = 36 := by
    rw [List.length_append, List.length_take, r.length_bytes, h]
    rfl
  unfold shifted slice
  rw [hsplit, show 36 * (j + 1) = (header ++ r.bytes.take 28).length + 36 * j by omega,
    List.drop_length_add_append]

/-- The length of the prefix shows the header, or each shifted record in the prefix has no
address, no MAC or no time left, or is a lease of the file by chance. -/
def CutHarmless (header : List UInt8) (records : List LeaseRecord) (n : Nat) : Prop :=
  n % 36 = 8 ∨ ∀ j, 36 * (j + 1) ≤ n → ∀ lease, activeLease (shifted header records j) = some lease →
    ∃ r ∈ records, r.lease = some lease

theorem activeLease_of_no_time {rec : List UInt8} (h : rec.take 4 = [0, 0, 0, 0]) :
    activeLease rec = none := by
  have htime : fromBeBytes (slice rec 0 4) = 0 := by
    unfold slice
    rw [List.drop_zero, h]
    rfl
  unfold activeLease
  rw [htime]
  dsimp only
  split
  · rfl
  · split
    · rfl
    · exact if_pos rfl

/-- The time of a shifted record is the high half of the header or the end of a hostname: with
hostnames of at most fourteen bytes there is none. -/
theorem cutHarmless_of_short_hostnames {header : List UInt8} (h : header.length = 8)
    (htime : header.take 4 = [0, 0, 0, 0]) {records : List LeaseRecord}
    (hhosts : ∀ r ∈ records, r.lastEight.take 4 = [0, 0, 0, 0]) {n : Nat}
    (hn : n < (leaseFile header records).length) : CutHarmless header records n := by
  have hnone : ∀ j, j < records.length → activeLease (shifted header records j) = none := by
    clear hn
    intro j hj
    induction records generalizing header j with
    | nil => exact absurd hj (Nat.not_lt_zero j)
    | cons r records ih =>
        obtain ⟨hr, hrest⟩ := List.forall_mem_cons.mp hhosts
        cases j with
        | zero =>
            rw [shifted_zero h]
            exact activeLease_of_no_time (by rw [List.take_append_of_le_length (by omega), htime])
        | succ j =>
            rw [shifted_succ h]
            have hlast : r.lastEight.length = 8 := by
              rw [LeaseRecord.lastEight, List.length_drop, r.length_bytes]
            exact ih hlast hr hrest j (by simpa using hj)
  refine .inr fun j hj lease hlease => ?_
  rw [leaseFile, List.length_append, length_records, h] at hn
  rw [hnone j (by omega)] at hlease
  cases hlease

/-- Every lease of the prefix is one of the file. -/
def OnlyLeased (file : List UInt8) (n : Nat) : Prop :=
  ∀ lease ∈ parseLeaseFile (file.take n), lease ∈ parseLeaseFile file

theorem slice_take {xs : List UInt8} {n start : Nat} (h : start + 36 ≤ n) :
    slice (xs.take n) start 36 = slice xs start 36 := by
  unfold slice
  rw [List.drop_take, List.take_take, Nat.min_eq_left (by omega)]

theorem onlyLeased_of_header {header : List UInt8} (h : header.length = 8)
    {records : List LeaseRecord} {n : Nat} (hn : n < (leaseFile header records).length)
    (hmod : n % 36 = 8) : OnlyLeased (leaseFile header records) n := by
  have hcut : (leaseFile header records).take n =
      header ++ (records.flatMap (·.bytes)).take (n - 8) := by
    rw [leaseFile, List.take_append, h, List.take_of_length_le (by omega)]
  have hlen : ((leaseFile header records).take n).length = n := by
    rw [List.length_take]
    omega
  intro lease hlease
  rw [parseLeaseFile_eq, leaseRecordsSlice_eq, hlen, if_pos hmod, hcut, ← h, List.drop_left,
    mem_leasesOf] at hlease
  obtain ⟨j, hj, hblock⟩ := hlease
  rw [List.length_take] at hj
  rw [slice_take (by omega)] at hblock
  rw [parseLeaseFile_leaseFile h, ← leasesOf_records, mem_leasesOf]
  exact ⟨j, by omega, hblock⟩

/-- Reading a proper prefix of a lease file yields only leases of the file exactly when no
shifted record of the prefix passes for a lease. -/
theorem onlyLeased_iff (header : Vector UInt8 8) (records : List LeaseRecord) (n : Nat)
    (hn : n < (leaseFile header.toList records).length) :
    OnlyLeased (leaseFile header.toList records) n ↔ CutHarmless header.toList records n := by
  have hheader : header.toList.length = 8 := by simp
  by_cases hmod : n % 36 = 8
  · exact ⟨fun _ => .inl hmod, fun _ => onlyLeased_of_header hheader hn hmod⟩
  · have hlen : ((leaseFile header.toList records).take n).length = n := by
      rw [List.length_take]
      omega
    have htorn : ∀ lease, lease ∈ parseLeaseFile ((leaseFile header.toList records).take n) ↔
        ∃ j, 36 * (j + 1) ≤ n ∧ activeLease (shifted header.toList records j) = some lease := by
      intro lease
      rw [parseLeaseFile_eq, leaseRecordsSlice_eq, hlen, if_neg hmod, mem_leasesOf, hlen]
      refine exists_congr fun j => and_congr_right fun hj => ?_
      rw [slice_take (by omega)]
      rfl
    unfold OnlyLeased CutHarmless
    simp only [htorn, parseLeaseFile_leaseFile hheader, List.mem_filterMap, hmod, false_or]
    constructor
    · intro h j hj lease hlease
      exact h lease ⟨j, hj, hlease⟩
    · rintro h lease ⟨j, hj, hlease⟩
      exact h j hj lease hlease

def writtenAt : Vector UInt8 8 := #v[0, 0, 0, 0, 0x65, 0x53, 0xF1, 0x00]

/-- Two clients; the first has a hostname of nineteen bytes. -/
def longHostname : LeaseRecord where
  expires := 3600
  nip := 0xAC100064
  mac := #v[0x11, 0x22, 0x33, 0x44, 0x55, 0x66]
  hostname := #v[0x61, 0x62, 0x63, 0x64, 0x65, 0x66, 0x67, 0x68, 0x69, 0x6A, 0x6B, 0x6C, 0x6D,
    0x6E, 0x6F, 0x70, 0x71, 0x72, 0x73, 0]
  pad := #v[0, 0]

def shortHostname : LeaseRecord where
  expires := 7200
  nip := 0xAC100065
  mac := #v[0x11, 0x22, 0x33, 0x44, 0x55, 0x67]
  hostname := #v[0x70, 0x63, 0x30, 0x31, 0, 0, 0, 0, 0, 0, 0, 0, 0, 0, 0, 0, 0, 0, 0, 0]
  pad := #v[0, 0]

theorem onlyLeased_iff_short :
    72 < (leaseFile writtenAt.toList [shortHostname, shortHostname]).length ∧
      OnlyLeased (leaseFile writtenAt.toList [shortHostname, shortHostname]) 72 := by
  have hcut : 72 < (leaseFile writtenAt.toList [shortHostname, shortHostname]).length := by
    decide +kernel
  refine ⟨hcut, (onlyLeased_iff writtenAt _ 72 hcut).mpr ?_⟩
  exact cutHarmless_of_short_hostnames rfl rfl (by decide) hcut

/-- Without its last eight bytes this file has the length of a file without a header, and the
end of the long hostname is read as the time and the address of a lease. -/
theorem torn_file_makes_up_a_lease :
    72 < (leaseFile writtenAt.toList [longHostname, shortHostname]).length ∧
      ¬ OnlyLeased (leaseFile writtenAt.toList [longHostname, shortHostname]) 72 := by
  have hmade : (parseLeaseFile ((leaseFile writtenAt.toList [longHostname, shortHostname]).take
      72)).map (·.ip) = [0x73000000] := by decide +kernel
  have hreal : (parseLeaseFile (leaseFile writtenAt.toList [longHostname, shortHostname])).map
      (·.ip) = [0xAC100064, 0xAC100065] := by decide +kernel
  refine ⟨by decide +kernel, fun h => ?_⟩
  obtain ⟨lease, hlease, hip⟩ := List.mem_map.mp (hmade ▸ List.mem_singleton.mpr rfl)
  have hmem := List.mem_map_of_mem (f := (·.ip)) (h lease hlease)
  rw [hreal, hip] at hmem
  exact absurd hmem (by decide)

end ArkKvm.Dhcp
