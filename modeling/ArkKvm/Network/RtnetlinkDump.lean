import ArkKvm.Network.Rtnetlink

/-!
# A dump is read back

What the kernel writes for a dump, and that the parser finds in it every address of the
interface and nothing else, whatever the buffer was left with and however the messages are
divided into datagrams.
-/

namespace ArkKvm.Rtnetlink

open Lib Lib.Records
open Bytes (slice splice)

/-! ## What the kernel writes -/

structure Attr where
  type : Nat
  payload : List UInt8

def Attr.bytes (a : Attr) : List UInt8 :=
  le 2 (nlattrSize + a.payload.length) ++ (le 2 a.type ++ a.payload)

structure Attr.Valid (a : Attr) : Prop where
  type : a.type < 2 ^ 16
  length : nlattrSize + a.payload.length < 2 ^ 16

structure AddressMsg where
  family : Nat
  prefixlen : Nat
  flags : Nat
  scope : Nat
  index : Nat
  attrs : List Attr

def AddressMsg.fixed (m : AddressMsg) : List UInt8 :=
  le 1 m.family ++ (le 1 m.prefixlen ++ (le 1 m.flags ++ (le 1 m.scope ++ le 4 m.index)))

def AddressMsg.body (m : AddressMsg) : List UInt8 := m.fixed ++ pack (m.attrs.map Attr.bytes)

structure AddressMsg.Valid (m : AddressMsg) : Prop where
  family : m.family < 2 ^ 8
  flags : m.flags < 2 ^ 8
  scope : m.scope < 2 ^ 8
  index : m.index < 2 ^ 32
  attrs : ∀ a ∈ m.attrs, a.Valid

/-- A message of a dump.  `rest` are the flags, the sequence number and the port of the header. -/
inductive Message
  | address (rest : List UInt8) (m : AddressMsg)
  | other (type : Nat) (rest body : List UInt8)

def header (type length : Nat) (rest : List UInt8) : List UInt8 :=
  le 4 length ++ (le 2 type ++ rest)

def Message.bytes : Message → List UInt8
  | .address rest m => header rtmNewaddr (nlmsghdrSize + m.body.length) rest ++ m.body
  | .other type rest body => header type (nlmsghdrSize + body.length) rest ++ body

/-- A message that is not the end of the dump. -/
inductive Message.Valid : Message → Prop
  | address {rest : List UInt8} {m : AddressMsg} (hrest : rest.length = 10) (hm : m.Valid) :
      Valid (.address rest m)
  | other {type : Nat} {rest body : List UInt8} (hrest : rest.length = 10) (htype : type < 2 ^ 16)
      (hdone : type ≠ nlmsgDone) (herror : type ≠ nlmsgError) (haddr : type ≠ rtmNewaddr) :
      Valid (.other type rest body)

/-! ## What it means -/

def lastOf (type : Nat) (fits : Nat → Prop) [DecidablePred fits] (attrs : List Attr) :
    Option (List UInt8) :=
  (attrs.filter fun a => a.type = type ∧ fits a.payload.length).getLast?.map Attr.payload

def lastAddress (attrs : List Attr) : Option (List UInt8) := lastOf ifaAddress (· = 16) attrs

def lastCacheinfo (attrs : List Attr) : Option (List UInt8) :=
  lastOf ifaCacheinfo (cacheinfoSize ≤ ·) attrs

/-- The address of a message with what is told about it. -/
def AddressMsg.entry (ifindex : Nat) (m : AddressMsg) : Option (List UInt8 × Info) :=
  if m.family = afInet6 ∧ m.index = ifindex then
    (lastAddress m.attrs).map fun ip =>
      (ip,
        { scope := m.scope
          valid := (lastCacheinfo m.attrs).map fun ci => readLe (slice ci 4 4)
          preferred := (lastCacheinfo m.attrs).map fun ci => readLe (slice ci 0 4)
          flags := m.flags })
  else none

def Message.entry (ifindex : Nat) : Message → Option (List UInt8 × Info)
  | .address _ m => m.entry ifindex
  | .other _ _ _ => none

/-- The addresses of the interface; a later message about an address replaces an earlier one. -/
def addresses (ifindex : Nat) (msgs : List Message) (out : Addresses) : Addresses :=
  (msgs.filterMap (Message.entry ifindex)).foldl (fun out e => out.insert e.1 e.2) out

/-! ## Reading an attribute -/

section

variable {buf : List UInt8} {off : Nat}

theorem read_at {xs : List UInt8} (h : At buf off xs) (hpos : 0 < xs.length) :
    read buf off xs.length = .ok xs := by
  unfold read
  rw [if_pos (h.le hpos), h.slice_eq]

theorem add_eq {a b : Nat} (h : a + b < 2 ^ 32) : add a b = a + b := Nat.mod_eq_of_lt h

def Attributes.see (s : Attributes) (a : Attr) : Attributes :=
  if a.type = ifaCacheinfo ∧ cacheinfoSize ≤ a.payload.length then
    { s with
      preferred := some (readLe (slice a.payload 0 4))
      valid := some (readLe (slice a.payload 4 4)) }
  else if a.type = ifaAddress ∧ a.payload.length = 16 then { s with ipAddr := some a.payload }
  else s

theorem readAttribute_eq {a : Attr} (h : At buf off a.payload) (s : Attributes) :
    readAttribute buf off a.payload.length a.type s = .ok (s.see a) := by
  unfold readAttribute Attributes.see
  by_cases hcache : a.type = ifaCacheinfo
  · rw [if_pos hcache]
    by_cases hlength : cacheinfoSize ≤ a.payload.length
    · have hpayload : At buf off (a.payload.take cacheinfoSize ++ a.payload.drop cacheinfoSize) := by
        rwa [List.take_append_drop]
      have htake : (a.payload.take cacheinfoSize).length = cacheinfoSize := by
        rw [List.length_take]
        omega
      have hread : read buf off cacheinfoSize = .ok (a.payload.take cacheinfoSize) := by
        have h' := read_at (at_append.mp hpayload).1 (by rw [htake]; decide)
        rwa [htake] at h'
      have hslice (start : Nat) (hstart : start + 4 ≤ cacheinfoSize) :
          slice (a.payload.take cacheinfoSize) start 4 = slice a.payload start 4 := by
        apply Bytes.slice_eq_of_getElem?
        intro i hi
        rw [List.getElem?_take, if_pos (by omega)]
      rw [if_pos hlength, if_pos ⟨hcache, hlength⟩, hread]
      show Except.ok _ = _
      rw [hslice 0 (by decide), hslice 4 (by decide)]
    · have hshort : ¬ (a.type = ifaCacheinfo ∧ cacheinfoSize ≤ a.payload.length) :=
        fun hc => hlength hc.2
      have haddr : ¬ (a.type = ifaAddress ∧ a.payload.length = 16) := by
        rw [hcache]
        exact fun hc => absurd hc.1 (by decide)
      rw [if_neg hlength, if_neg hshort, if_neg haddr]
      rfl
  · have hother : ¬ (a.type = ifaCacheinfo ∧ cacheinfoSize ≤ a.payload.length) :=
      fun hc => hcache hc.1
    rw [if_neg hcache, if_neg hother]
    by_cases haddr : a.type = ifaAddress
    · by_cases hlength : a.payload.length = 16
      · have hread : read buf off 16 = .ok a.payload := by
          have h' := read_at h (by omega)
          rwa [hlength] at h'
        rw [if_pos haddr, if_pos hlength, if_pos ⟨haddr, hlength⟩, hread]
        rfl
      · have hlong : ¬ (a.type = ifaAddress ∧ a.payload.length = 16) := fun hc => hlength hc.2
        rw [if_pos haddr, if_neg hlength, if_neg hlong]
        rfl
    · have hnot : ¬ (a.type = ifaAddress ∧ a.payload.length = 16) := fun hc => haddr hc.1
      rw [if_neg haddr, if_neg hnot]
      rfl

theorem Attr.length_bytes (a : Attr) : a.bytes.length = nlattrSize + a.payload.length := by
  simp [Attr.bytes, nlattrSize]
  omega

theorem attributes_pack {attrs : List Attr} (hvalid : ∀ a ∈ attrs, a.Valid) {«end» fuel : Nat}
    (h : At buf off (pack (attrs.map Attr.bytes)))
    (hend : «end» = off + (pack (attrs.map Attr.bytes)).length) (hbound : «end» + 4 < 2 ^ 32)
    (hfuel : attrs.length < fuel) (s : Attributes) :
    attributes buf «end» fuel off s = .ok (attrs.foldl Attributes.see s) := by
  induction attrs generalizing off fuel s with
  | nil =>
      obtain ⟨fuel, rfl⟩ := Nat.exists_eq_add_one_of_ne_zero (Nat.ne_of_gt hfuel)
      have hoff : «end» = off := by simpa [pack_nil] using hend
      unfold attributes
      rw [add_eq (by unfold nlattrSize; omega), if_neg (by unfold nlattrSize; omega)]
      rfl
  | cons a attrs ih =>
      obtain ⟨fuel, rfl⟩ := Nat.exists_eq_add_one_of_ne_zero (Nat.ne_zero_of_lt hfuel)
      obtain ⟨htype, hlength⟩ := hvalid a List.mem_cons_self
      rw [List.map_cons] at h hend
      obtain ⟨hfirst, hrest⟩ := h.uncons
      rw [pack_cons, List.length_append, length_padded, a.length_bytes] at hend
      have halign := le_align (nlattrSize + a.payload.length)
      have hhead : At buf off (le 2 (nlattrSize + a.payload.length) ++ le 2 a.type) := by
        rw [Attr.bytes, ← List.append_assoc] at hfirst
        exact (at_append.mp hfirst).1
      have hread : read buf off nlattrSize =
          .ok (le 2 (nlattrSize + a.payload.length) ++ le 2 a.type) := by
        have h' := read_at hhead (by simp)
        rwa [List.length_append, length_le, length_le] at h'
      have hpayload : At buf (off + nlattrSize) a.payload := by
        rw [Attr.bytes, ← List.append_assoc] at hfirst
        have h' := (at_append.mp hfirst).2
        rwa [List.length_append, length_le, length_le] at h'
      have hlen : slice (le 2 (nlattrSize + a.payload.length) ++ le 2 a.type) 0 2 =
          le 2 (nlattrSize + a.payload.length) := rfl
      have htyp : slice (le 2 (nlattrSize + a.payload.length) ++ le 2 a.type) 2 2 =
          le 2 a.type := rfl
      have hnla : readLe (le 2 (nlattrSize + a.payload.length)) = nlattrSize + a.payload.length :=
        readLe_le hlength
      unfold attributes
      rw [add_eq (by unfold nlattrSize at *; omega), if_pos (by unfold nlattrSize at *; omega),
        hread]
      show (if readLe (slice _ 0 2) < nlattrSize then _ else _) = _
      rw [hlen, htyp, hnla, readLe_le htype, if_neg (by omega), Nat.add_sub_cancel_left,
        readAttribute_eq hpayload]
      show attributes buf «end» fuel (add off _) _ = _
      rw [add_eq (by omega)]
      apply ih (fun b hb => hvalid b (List.mem_cons_of_mem a hb))
      · rwa [a.length_bytes] at hrest
      · omega
      · simpa using hfuel

/-! ## Reading a message -/

theorem lastOf_append (type : Nat) (fits : Nat → Prop) [DecidablePred fits] (attrs : List Attr)
    (a : Attr) :
    lastOf type fits (attrs ++ [a]) =
      if a.type = type ∧ fits a.payload.length then some a.payload
      else lastOf type fits attrs := by
  unfold lastOf
  rw [List.filter_append]
  by_cases h : a.type = type ∧ fits a.payload.length
  · rw [if_pos h, List.filter_singleton, decide_eq_true h, cond_true, List.getLast?_concat]
    rfl
  · rw [if_neg h, List.filter_singleton, decide_eq_false h, cond_false, List.append_nil]

theorem foldl_see (attrs : List Attr) :
    attrs.foldl Attributes.see {} =
      { preferred := (lastCacheinfo attrs).map fun ci => readLe (slice ci 0 4)
        valid := (lastCacheinfo attrs).map fun ci => readLe (slice ci 4 4)
        ipAddr := lastAddress attrs } := by
  induction attrs using List.reverseRecOn with
  | nil => rfl
  | append_singleton attrs a ih =>
      rw [List.foldl_append, ih]
      show Attributes.see _ a = _
      unfold Attributes.see lastCacheinfo lastAddress
      rw [lastOf_append, lastOf_append]
      by_cases hcache : a.type = ifaCacheinfo ∧ cacheinfoSize ≤ a.payload.length
      · have haddr : ¬ (a.type = ifaAddress ∧ a.payload.length = 16) := by
          rw [hcache.1]
          exact fun h => absurd h.1 (by decide)
        rw [if_pos hcache, if_pos hcache, if_neg haddr]
        rfl
      · rw [if_neg hcache, if_neg hcache]
        by_cases haddr : a.type = ifaAddress ∧ a.payload.length = 16
        · rw [if_pos haddr, if_pos haddr]
        · rw [if_neg haddr, if_neg haddr]

theorem AddressMsg.length_fixed (m : AddressMsg) : m.fixed.length = ifAddrMsgSize := by
  simp [AddressMsg.fixed, ifAddrMsgSize]

theorem newaddr_eq {m : AddressMsg} (hm : m.Valid) {ifindex fuel : Nat}
    (h : At buf (off + nlmsghdrSize) m.body)
    (hbound : off + nlmsghdrSize + m.body.length + 4 < 2 ^ 32)
    (hfuel : m.attrs.length < fuel) (out : Addresses) :
    newaddr buf ifindex off (nlmsghdrSize + m.body.length) fuel out =
      .ok (some (((m.entry ifindex).toList).foldl (fun out e => out.insert e.1 e.2) out)) := by
  obtain ⟨hfixed, hattrs⟩ := at_append.mp h
  rw [m.length_fixed] at hattrs
  have hbody : m.body.length = ifAddrMsgSize + (pack (m.attrs.map Attr.bytes)).length := by
    rw [AddressMsg.body, List.length_append, m.length_fixed]
  have hread : read buf (off + nlmsghdrSize) ifAddrMsgSize = .ok m.fixed := by
    have h' := read_at hfixed (by rw [m.length_fixed]; decide)
    rwa [m.length_fixed] at h'
  have hend : add off (nlmsghdrSize + m.body.length) = off + nlmsghdrSize + m.body.length := by
    rw [add_eq (by omega)]
    omega
  have hbase : add off nlmsghdrSize = off + nlmsghdrSize := add_eq (by omega)
  have hstart : add (off + nlmsghdrSize) ifAddrMsgSize = off + nlmsghdrSize + ifAddrMsgSize :=
    add_eq (by omega)
  have hpack : attributes buf (off + nlmsghdrSize + m.body.length) fuel
      (off + nlmsghdrSize + ifAddrMsgSize) {} = .ok (m.attrs.foldl Attributes.see {}) :=
    attributes_pack hm.attrs hattrs (by omega) (by omega) hfuel {}
  unfold newaddr
  simp only [hend, hbase, hstart]
  rw [if_neg (by omega), hread]
  show (if readLe (le 1 m.family) ≠ afInet6 ∨ readLe (le 4 m.index) ≠ ifindex then _ else _) = _
  have hfamily : readLe (le 1 m.family) = m.family := readLe_le hm.family
  have hindex : readLe (le 4 m.index) = m.index := readLe_le hm.index
  have hscope : readLe (le 1 m.scope) = m.scope := readLe_le hm.scope
  have hflags : readLe (le 1 m.flags) = m.flags := readLe_le hm.flags
  rw [hfamily, hindex]
  unfold AddressMsg.entry
  by_cases hours : m.family = afInet6 ∧ m.index = ifindex
  · rw [if_pos hours, if_neg (by tauto)]
    show (attributes buf _ fuel _ {} >>= _) = _
    rw [hpack, foldl_see]
    simp only [bind, Except.bind]
    cases lastAddress m.attrs with
    | none => rfl
    | some ip =>
        have hslice : slice m.fixed 3 1 = le 1 m.scope := rfl
        have hslice' : slice m.fixed 2 1 = le 1 m.flags := rfl
        simp only [hslice, hslice', hscope, hflags]
        rfl
  · rw [if_neg hours, if_pos (by tauto)]
    rfl

/-! ## Reading a datagram -/

theorem length_header {type length : Nat} {rest : List UInt8} (hrest : rest.length = 10) :
    (header type length rest).length = nlmsghdrSize := by
  simp [header, nlmsghdrSize, hrest]

theorem read_header {type length : Nat} {rest : List UInt8} (hrest : rest.length = 10)
    (h : At buf off (header type length rest)) :
    read buf off nlmsghdrSize = .ok (header type length rest) := by
  have h' := read_at h (by rw [length_header hrest]; decide)
  rwa [length_header hrest] at h'

theorem length_le_pack (attrs : List Attr) :
    attrs.length ≤ (pack (attrs.map Attr.bytes)).length := by
  induction attrs with
  | nil => exact Nat.le_refl 0
  | cons a attrs ih =>
      rw [List.map_cons, pack_cons, List.length_append, length_padded, a.length_bytes,
        List.length_cons]
      have halign := le_align (nlattrSize + a.payload.length)
      unfold nlattrSize at *
      omega

theorem messages_header {type length : Nat} {rest : List UInt8} (hrest : rest.length = 10)
    (htype : type < 2 ^ 16) (hlength : length < 2 ^ 32) (hpos : 0 < length)
    (h : At buf off (header type length rest)) {n ifindex fuel : Nat}
    (hn : off + nlmsghdrSize ≤ n) (hbound : n + 8 < 2 ^ 32) (out : Addresses) :
    messages buf n ifindex (fuel + 1) off out =
      if type = nlmsgDone then .ok (true, out)
      else if type = nlmsgNoop then
        messages buf n ifindex fuel (add off (align length % 2 ^ 32)) out
      else if type = nlmsgError then .error .nlmsgError
      else if type = rtmNewaddr then
        (newaddr buf ifindex off length fuel out).bind fun r =>
          match r with
          | none => .ok (false, out)
          | some out => messages buf n ifindex fuel (add off (align length % 2 ^ 32)) out
      else messages buf n ifindex fuel (add off (align length % 2 ^ 32)) out := by
  have htyp : readLe (le 2 type) = type := readLe_le htype
  have hlen : readLe (le 4 length) = length := readLe_le hlength
  have hslice : slice (header type length rest) 0 4 = le 4 length := rfl
  have hslice' : slice (header type length rest) 4 2 = le 2 type := rfl
  rw [messages, add_eq (by omega), if_pos hn, read_header hrest h]
  simp only [bind, Except.bind, hslice, hslice', hlen, htyp]
  rw [if_neg (by omega)]
  rfl

theorem addresses_append (ifindex : Nat) (xs ys : List Message) (out : Addresses) :
    addresses ifindex (xs ++ ys) out = addresses ifindex ys (addresses ifindex xs out) := by
  unfold addresses
  rw [List.filterMap_append, List.foldl_append]

theorem addresses_singleton (ifindex : Nat) (msg : Message) (out : Addresses) :
    addresses ifindex [msg] out =
      ((msg.entry ifindex).toList).foldl (fun out e => out.insert e.1 e.2) out := by
  unfold addresses
  cases hentry : msg.entry ifindex with
  | none => rw [List.filterMap_cons_none hentry]; rfl
  | some e => rw [List.filterMap_cons_some hentry]; rfl

theorem Message.Valid.le_length {msg : Message} (h : msg.Valid) :
    nlmsghdrSize ≤ msg.bytes.length := by
  cases h with
  | address hrest hm =>
      rw [Message.bytes, List.length_append, length_header hrest]
      omega
  | other hrest htype hdone herror haddr =>
      rw [Message.bytes, List.length_append, length_header hrest]
      omega

theorem messages_message {msg : Message} (hmsg : msg.Valid) (h : At buf off msg.bytes)
    {n ifindex fuel : Nat} (hn : off + msg.bytes.length ≤ n) (hbound : n + 8 < 2 ^ 32)
    (hfuel : n < off + (fuel + 1)) (out : Addresses) :
    messages buf n ifindex (fuel + 1) off out =
      messages buf n ifindex fuel (off + align msg.bytes.length)
        (addresses ifindex [msg] out) := by
  have halign := align_lt msg.bytes.length
  have hnext : add off (align msg.bytes.length % 2 ^ 32) = off + align msg.bytes.length := by
    rw [Nat.mod_eq_of_lt (by omega), add_eq (by omega)]
  cases hmsg with
  | @address rest m hrest hm =>
      have hbytes : (Message.address rest m).bytes.length = nlmsghdrSize + m.body.length := by
        rw [Message.bytes, List.length_append, length_header hrest]
      obtain ⟨hheader, hbody⟩ := at_append.mp h
      rw [length_header hrest] at hbody
      rw [hbytes] at hn hnext ⊢
      have hattrs : m.attrs.length < fuel := by
        have hpack := length_le_pack m.attrs
        have hlen : m.body.length = ifAddrMsgSize + (pack (m.attrs.map Attr.bytes)).length := by
          rw [AddressMsg.body, List.length_append, m.length_fixed]
        unfold ifAddrMsgSize nlmsghdrSize at *
        omega
      rw [messages_header hrest (by decide) (by omega) (by unfold nlmsghdrSize; omega) hheader
        (by omega) hbound, hnext, newaddr_eq hm hbody (by unfold nlmsghdrSize at *; omega) hattrs]
      rw [addresses_singleton]
      rfl
  | @other type rest body hrest htype hdone herror haddr =>
      have hbytes : (Message.other type rest body).bytes.length = nlmsghdrSize + body.length := by
        rw [Message.bytes, List.length_append, length_header hrest]
      obtain ⟨hheader, -⟩ := at_append.mp h
      rw [hbytes] at hn hnext ⊢
      rw [messages_header hrest htype (by omega) (by unfold nlmsghdrSize; omega) hheader
        (by omega) hbound, hnext, if_neg hdone, if_neg herror, if_neg haddr]
      split
      · rfl
      · rfl

theorem messages_pack {msgs : List Message} (hvalid : ∀ msg ∈ msgs, msg.Valid)
    {n ifindex fuel : Nat} (h : At buf off (pack (msgs.map Message.bytes)))
    (hn : off + (pack (msgs.map Message.bytes)).length ≤ n) (hbound : n + 8 < 2 ^ 32)
    (hfuel : n < off + fuel) (out : Addresses) :
    ∃ fuel', n < off + (pack (msgs.map Message.bytes)).length + fuel' ∧
      messages buf n ifindex fuel off out =
        messages buf n ifindex fuel' (off + (pack (msgs.map Message.bytes)).length)
          (addresses ifindex msgs out) := by
  induction msgs generalizing off fuel out with
  | nil => exact ⟨fuel, hfuel, rfl⟩
  | cons msg msgs ih =>
      rw [List.map_cons] at h hn
      obtain ⟨hfirst, hrest⟩ := h.uncons
      rw [pack_cons, List.length_append, length_padded] at hn
      have halign := le_align msg.bytes.length
      obtain ⟨fuel, rfl⟩ := Nat.exists_eq_add_one_of_ne_zero (n := fuel) (by omega)
      have hvalid' := fun m hm => hvalid m (List.mem_cons_of_mem msg hm)
      have hlong := (hvalid msg List.mem_cons_self).le_length
      unfold nlmsghdrSize at hlong
      have hnext : n < off + align msg.bytes.length + fuel := by omega
      obtain ⟨fuel', hfuel', hrun⟩ := ih hvalid' hrest (by omega) hnext
        (addresses ifindex [msg] out)
      refine ⟨fuel', ?_, ?_⟩
      · rw [List.map_cons, pack_cons, List.length_append, length_padded]
        omega
      · rw [messages_message (hvalid msg List.mem_cons_self) hfirst (by omega) hbound hfuel, hrun,
          List.map_cons, pack_cons, List.length_append, length_padded, Nat.add_assoc,
          ← addresses_append]
        rfl

theorem messages_end {n ifindex fuel : Nat} (hn : n ≤ off) (hbound : off + nlmsghdrSize < 2 ^ 32)
    (out : Addresses) : messages buf n ifindex (fuel + 1) off out = .ok (false, out) := by
  have hpos : 0 < nlmsghdrSize := by decide
  rw [messages, add_eq hbound, if_neg (by omega)]
  rfl

end

/-! ## Reading a dump -/

inductive Ending
  | done
  | error
deriving DecidableEq

def Ending.type : Ending → Nat
  | .done => nlmsgDone
  | .error => nlmsgError

/-- What a dump that ends so comes to when it has told these addresses. -/
def Ending.answer : Ending → Addresses → Except Fault Addresses
  | .done, out => .ok out
  | .error, _ => .error .nlmsgError

/-- A dump as the kernel sends it.  The message that ends it follows the messages of the last
datagram: it has a header of the given length and rest, and something stands behind it. -/
structure Dump where
  parts : List (List Message)
  last : List Message
  ending : Ending
  length : Nat
  rest : List UInt8
  behind : List UInt8

def Dump.messages (d : Dump) : List Message := d.parts.flatten ++ d.last

def part (msgs : List Message) : List UInt8 := pack (msgs.map Message.bytes)

def Dump.lastPart (d : Dump) : List UInt8 :=
  part d.last ++ (header d.ending.type d.length d.rest ++ d.behind)

def Dump.datagrams (d : Dump) : List Recv :=
  d.parts.map (fun msgs => .datagram (part msgs)) ++ [.datagram d.lastPart]

structure Dump.Valid (d : Dump) : Prop where
  messages : ∀ msg ∈ d.messages, msg.Valid
  parts : ∀ msgs ∈ d.parts, msgs ≠ [] ∧ (part msgs).length ≤ dumpBuffer.length
  last : d.lastPart.length ≤ dumpBuffer.length
  length : 0 < d.length ∧ d.length < 2 ^ 32
  rest : d.rest.length = 10

/-- What is told last about an address. -/
def lastAbout (ifindex : Nat) (msgs : List Message) (ip : List UInt8) : Option Info :=
  ((msgs.filterMap (Message.entry ifindex)).filter fun e => e.1 = ip).getLast?.map Prod.snd

theorem lookup_addresses (ifindex : Nat) (msgs : List Message) (ip : List UInt8) :
    (addresses ifindex msgs ∅).lookup ip = lastAbout ifindex msgs ip := by
  unfold addresses lastAbout
  induction msgs.filterMap (Message.entry ifindex) using List.reverseRecOn with
  | nil => rfl
  | append_singleton es e ih =>
      rw [List.foldl_append, List.filter_append, List.filter_singleton]
      simp only [List.foldl_cons, List.foldl_nil]
      by_cases h : e.1 = ip
      · rw [h, AList.lookup_insert, decide_eq_true rfl, cond_true, List.getLast?_concat]
        rfl
      · rw [AList.lookup_insert_ne (Ne.symm h), decide_eq_false h, cond_false, List.append_nil, ih]

section

variable (ifindex : Nat) {fuel : Nat} {buf : List UInt8}

theorem at_splice {bytes : List UInt8} : At (splice buf 0 bytes) 0 bytes := by
  unfold At splice
  simp

theorem length_part_pos {msgs : List Message} (hvalid : ∀ msg ∈ msgs, msg.Valid)
    (hne : msgs ≠ []) : 0 < (part msgs).length := by
  obtain ⟨msg, msgs, rfl⟩ := List.exists_cons_of_ne_nil hne
  have hlong := (hvalid msg List.mem_cons_self).le_length
  have halign := le_align msg.bytes.length
  rw [part, List.map_cons, pack_cons, List.length_append, length_padded]
  unfold nlmsghdrSize at hlong
  omega

theorem messages_part {msgs : List Message} (hvalid : ∀ msg ∈ msgs, msg.Valid)
    (h : At buf 0 (part msgs)) {n : Nat} (hn : (part msgs).length ≤ n) (hbound : n + 16 < 2 ^ 32)
    (hfuel : n < fuel) (out : Addresses) :
    ∃ fuel', n < (part msgs).length + fuel' ∧
      messages buf n ifindex fuel 0 out =
        messages buf n ifindex fuel' (part msgs).length (addresses ifindex msgs out) := by
  have hpack : ∃ fuel', n < 0 + (part msgs).length + fuel' ∧
      messages buf n ifindex fuel 0 out =
        messages buf n ifindex fuel' (0 + (part msgs).length) (addresses ifindex msgs out) :=
    messages_pack hvalid h (by rw [Nat.zero_add]; exact hn) (by omega) (by omega) out
  rwa [Nat.zero_add] at hpack

theorem recvDump_part {msgs : List Message} (hvalid : ∀ msg ∈ msgs, msg.Valid) (hne : msgs ≠ [])
    (hfits : (part msgs).length ≤ buf.length) (hbuf : buf.length ≤ 2 ^ 31)
    (hfuel : buf.length < fuel) (more : List Recv) (out : Addresses) :
    recvDump ifindex fuel (.datagram (part msgs) :: more) buf out =
      recvDump ifindex fuel more (splice buf 0 (part msgs)) (addresses ifindex msgs out) := by
  have hpos := length_part_pos hvalid hne
  obtain ⟨fuel', hfuel', hrun⟩ := messages_part ifindex hvalid at_splice
    (Nat.le_refl (part msgs).length) (by omega) (by omega : (part msgs).length < fuel) out
  obtain ⟨fuel', rfl⟩ := Nat.exists_eq_add_one_of_ne_zero (n := fuel') (by omega)
  rw [messages_end (Nat.le_refl _) (by unfold nlmsghdrSize; omega)] at hrun
  rw [recvDump, List.take_of_length_le hfits, if_neg (by omega)]
  show (messages (splice buf 0 (part msgs)) (part msgs).length ifindex fuel 0 out >>= _) = _
  rw [hrun]
  rfl

theorem Ending.type_lt (e : Ending) : e.type < 2 ^ 16 := by
  cases e with
  | done => decide
  | error => decide

theorem recvDump_last {d : Dump} (hd : d.Valid) (hbuf : buf.length = dumpBuffer.length)
    (hfuel : buf.length < fuel) (more : List Recv) (out : Addresses) :
    recvDump ifindex fuel (.datagram d.lastPart :: more) buf out =
      d.ending.answer (addresses ifindex d.last out) := by
  have hsize : dumpBuffer.length = 32768 := List.length_replicate
  have hlast := hd.last
  have hfits : d.lastPart.length ≤ buf.length := by omega
  have hlength : d.lastPart.length = (part d.last).length + (nlmsghdrSize + d.behind.length) := by
    rw [Dump.lastPart, List.length_append, List.length_append, length_header hd.rest]
  have hat : At (splice buf 0 d.lastPart) 0 d.lastPart := at_splice
  obtain ⟨hpart, hend⟩ := at_append.mp hat
  have hheader := (at_append.mp hend).1
  rw [Nat.zero_add] at hheader
  have hvalid : ∀ msg ∈ d.last, msg.Valid :=
    fun msg hm => hd.messages msg (List.mem_append_right _ hm)
  obtain ⟨fuel', hfuel', hrun⟩ := messages_part ifindex hvalid hpart
    (by omega : (part d.last).length ≤ d.lastPart.length) (by omega)
    (by omega : d.lastPart.length < fuel) out
  have hpos : 0 < nlmsghdrSize := by decide
  obtain ⟨fuel', rfl⟩ := Nat.exists_eq_add_one_of_ne_zero (n := fuel') (by omega)
  rw [messages_header hd.rest d.ending.type_lt hd.length.2 hd.length.1 hheader (by omega)
    (by omega)] at hrun
  rw [recvDump, List.take_of_length_le hfits, if_neg (by omega)]
  show (messages (splice buf 0 d.lastPart) d.lastPart.length ifindex fuel 0 out >>= _) = _
  rw [hrun]
  cases d.ending with
  | done => rfl
  | error => rfl

theorem recvDump_parts {d : Dump} (hd : d.Valid) (hfuel : dumpBuffer.length < fuel)
    (more : List Recv) {parts : List (List Message)} (hparts : ∀ msgs ∈ parts, msgs ∈ d.parts)
    (hbuf : buf.length = dumpBuffer.length) (out : Addresses) :
    recvDump ifindex fuel
        (parts.map (fun msgs => .datagram (part msgs)) ++ .datagram d.lastPart :: more) buf out =
      d.ending.answer (addresses ifindex (parts.flatten ++ d.last) out) := by
  have hsize : dumpBuffer.length = 32768 := List.length_replicate
  induction parts generalizing buf out with
  | nil => exact recvDump_last ifindex hd hbuf (by omega) more out
  | cons msgs parts ih =>
      have hmem := hparts msgs List.mem_cons_self
      obtain ⟨hne, hfits⟩ := hd.parts msgs hmem
      have hvalid : ∀ msg ∈ msgs, msg.Valid := by
        intro msg hmsg
        apply hd.messages
        exact List.mem_append_left _ (List.mem_flatten.mpr ⟨msgs, hmem, hmsg⟩)
      have hrest : ∀ msgs ∈ parts, msgs ∈ d.parts :=
        fun ms hms => hparts ms (List.mem_cons_of_mem msgs hms)
      have hbuf' : (splice buf 0 (part msgs)).length = dumpBuffer.length := by
        rw [Bytes.length_splice (by omega), hbuf]
      rw [List.map_cons, List.cons_append,
        recvDump_part ifindex hvalid hne (by omega) (by omega) (by omega), ih hrest hbuf',
        List.flatten_cons, List.append_assoc, addresses_append ifindex msgs]

end

/-- Of a whole dump the parser returns, for every address of the interface, what was told about
it last, and nothing about any other; a dump that ends in an error is an error. -/
theorem recv_dump_reads_back {d : Dump} (hd : d.Valid) (ifindex : Nat) {fuel : Nat}
    (hfuel : dumpBuffer.length < fuel) (more : List Recv) :
    ∃ out : Addresses,
      recvDump ifindex fuel (d.datagrams ++ more) dumpBuffer ∅ = d.ending.answer out ∧
        ∀ ip, out.lookup ip = lastAbout ifindex d.messages ip := by
  refine ⟨addresses ifindex d.messages ∅, ?_, lookup_addresses ifindex d.messages⟩
  rw [Dump.datagrams, List.append_assoc]
  exact recvDump_parts ifindex hd hfuel more (fun msgs h => h) rfl ∅

/-- `fe80::5` with the lifetimes of 60 and 90 seconds. -/
def linkLocal : AddressMsg :=
  { family := afInet6, prefixlen := 64, flags := 0, scope := 253, index := 3
    attrs :=
      [⟨ifaAddress, [254, 128, 0, 0, 0, 0, 0, 0, 0, 0, 0, 0, 0, 0, 0, 5]⟩,
        ⟨ifaCacheinfo, [60, 0, 0, 0, 90, 0, 0, 0, 0, 0, 0, 0, 0, 0, 0, 0]⟩] }

/-- A dump in two datagrams: an address of the interface, then one of another interface. -/
def twoDatagrams : Dump where
  parts := [[.address (List.replicate 10 0) linkLocal]]
  last := [.address (List.replicate 10 0) { linkLocal with index := 2 }]
  ending := .done
  length := 20
  rest := List.replicate 10 0
  behind := [0, 0, 0, 0]

theorem linkLocal_valid {index : Nat} (h : index < 2 ^ 32) :
    ({ linkLocal with index := index } : AddressMsg).Valid where
  family := by show 10 < 256; omega
  flags := by show 0 < 256; omega
  scope := by show 253 < 256; omega
  index := h
  attrs := by
    intro a ha
    rcases List.mem_cons.mp ha with rfl | hrest
    · exact ⟨by decide, by decide⟩
    · rw [List.mem_singleton.mp hrest]
      exact ⟨by decide, by decide⟩

theorem twoDatagrams_valid : twoDatagrams.Valid where
  messages := by
    intro msg hmsg
    rcases List.mem_cons.mp hmsg with rfl | hrest
    · exact .address rfl (linkLocal_valid (by decide : 3 < 2 ^ 32))
    · rw [List.mem_singleton.mp hrest]
      exact .address rfl (linkLocal_valid (by decide : 2 < 2 ^ 32))
  parts := by
    intro msgs hmsgs
    rw [List.mem_singleton.mp hmsgs, dumpBuffer, List.length_replicate]
    have hlength : (part [.address (List.replicate 10 0) linkLocal]).length = 64 := rfl
    exact ⟨List.cons_ne_nil _ _, by omega⟩
  last := by
    have hlength : twoDatagrams.lastPart.length = 84 := rfl
    rw [hlength, dumpBuffer, List.length_replicate]
    omega
  length := by decide
  rest := rfl

theorem recv_dump_reads_back_twoDatagrams :
    ∃ out, recvDump 3 40000 (twoDatagrams.datagrams ++ []) dumpBuffer ∅ = .ok out ∧
      out.lookup [254, 128, 0, 0, 0, 0, 0, 0, 0, 0, 0, 0, 0, 0, 0, 5] =
        some { scope := 253, valid := some 90, preferred := some 60, flags := 0 } := by
  have hsize : dumpBuffer.length < 40000 := by
    rw [dumpBuffer, List.length_replicate]
    omega
  obtain ⟨out, hrun, hout⟩ := recv_dump_reads_back twoDatagrams_valid 3 hsize []
  refine ⟨out, hrun, ?_⟩
  rw [hout]
  decide

end ArkKvm.Rtnetlink
