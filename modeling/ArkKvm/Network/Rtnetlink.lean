import ArkKvm.Lib.Records
import ArkKvm.Lib.Table

/-!
# The IPv6 addresses of an interface

`recv_dump` of `query_ipv6_rtnetlink` in `network/mod.rs`: the kernel answers a dump request
with datagrams of netlink messages, and the parser reads them where they lie in one buffer that
every datagram is received into.  It reads through raw pointers, so a read that leaves the
buffer is a fault of its own.  Offsets are of 32 bits and wrap around; the loops have fuel,
which stands for a loop that does not come to an end.
-/

namespace ArkKvm.Rtnetlink

open Lib Lib.Records
open Bytes (slice splice)

inductive Fault
  | os
  | nlmsgError
  | outOfBounds
  -- the parser waits for a datagram that does not come
  | blocked
  | outOfFuel
deriving DecidableEq

/-- An unaligned read of the type at this place. -/
def read (buf : List UInt8) (off size : Nat) : Except Fault (List UInt8) :=
  if off + size ≤ buf.length then .ok (slice buf off size) else .error .outOfBounds

def add (a b : Nat) : Nat := (a + b) % 2 ^ 32

/-- `size_of` of `nlmsghdr`, `IfAddrMsg`, `nlattr` and `ifa_cacheinfo`. -/
def nlmsghdrSize : Nat := 16
def ifAddrMsgSize : Nat := 8
def nlattrSize : Nat := 4
def cacheinfoSize : Nat := 16

def nlmsgNoop : Nat := 1
def nlmsgError : Nat := 2
def nlmsgDone : Nat := 3
def rtmNewaddr : Nat := 20
def ifaAddress : Nat := 1
def ifaCacheinfo : Nat := 6
def afInet6 : Nat := 10

structure Info where
  scope : Nat
  valid : Option Nat
  preferred : Option Nat
  flags : Nat
deriving DecidableEq

/-- The map is keyed by the address; the source writes it out as text. -/
abbrev Addresses := Table (List UInt8) Info

/-- What the attributes of a message have set. -/
structure Attributes where
  preferred : Option Nat := none
  valid : Option Nat := none
  ipAddr : Option (List UInt8) := none
deriving DecidableEq

def readAttribute (buf : List UInt8) (payloadPtr payloadLen type : Nat) (a : Attributes) :
    Except Fault Attributes :=
  if type = ifaCacheinfo then
    if cacheinfoSize ≤ payloadLen then do
      let ci ← read buf payloadPtr cacheinfoSize
      return { a with
        preferred := some (readLe (slice ci 0 4))
        valid := some (readLe (slice ci 4 4)) }
    else return a
  else if type = ifaAddress then
    if payloadLen = 16 then do
      let octets ← read buf payloadPtr 16
      return { a with ipAddr := some octets }
    else return a
  else return a

def attributes (buf : List UInt8) («end» : Nat) : Nat → Nat → Attributes → Except Fault Attributes
  | 0, _, _ => .error .outOfFuel
  | fuel + 1, rtaOff, a =>
      if add rtaOff nlattrSize ≤ «end» then do
        let rta ← read buf rtaOff nlattrSize
        let nlaLen := readLe (slice rta 0 2)
        if nlaLen < nlattrSize then return a
        else do
          let a ← readAttribute buf (add rtaOff nlattrSize) (nlaLen - nlattrSize)
            (readLe (slice rta 2 2)) a
          attributes buf «end» fuel (add rtaOff (align nlaLen)) a
      else return a

def newaddr (buf : List UInt8) (ifindex offset nlmsgLen fuel : Nat) (out : Addresses) :
    Except Fault (Option Addresses) :=
  let base := add offset nlmsghdrSize
  if add offset nlmsgLen < add base ifAddrMsgSize then return none
  else do
    let ifa ← read buf base ifAddrMsgSize
    if readLe (slice ifa 0 1) ≠ afInet6 ∨ readLe (slice ifa 4 4) ≠ ifindex then return some out
    else do
      let a ← attributes buf (add offset nlmsgLen) fuel (add base ifAddrMsgSize) {}
      match a.ipAddr with
      | none => return some out
      | some ip =>
          return some (out.insert ip
            { scope := readLe (slice ifa 3 1)
              valid := a.valid
              preferred := a.preferred
              flags := readLe (slice ifa 2 1) })

/-- The loop over the messages of a datagram of `n` bytes.  The flag tells whether the dump
is done. -/
def messages (buf : List UInt8) (n ifindex : Nat) :
    Nat → Nat → Addresses → Except Fault (Bool × Addresses)
  | 0, _, _ => .error .outOfFuel
  | fuel + 1, offset, out =>
      if add offset nlmsghdrSize ≤ n then do
        let hdr ← read buf offset nlmsghdrSize
        let nlmsgLen := readLe (slice hdr 0 4)
        let nlmsgType := readLe (slice hdr 4 2)
        let next := add offset (align nlmsgLen % 2 ^ 32)
        if nlmsgLen = 0 then return (false, out)
        else if nlmsgType = nlmsgDone then return (true, out)
        else if nlmsgType = nlmsgNoop then messages buf n ifindex fuel next out
        else if nlmsgType = nlmsgError then .error .nlmsgError
        else if nlmsgType = rtmNewaddr then do
          match ← newaddr buf ifindex offset nlmsgLen fuel out with
          | none => return (false, out)
          | some out => messages buf n ifindex fuel next out
        else messages buf n ifindex fuel next out
      else return (false, out)

/-- What `recv` returns: a datagram, of which as much is copied as the buffer holds. -/
inductive Recv
  | failed
  | datagram (bytes : List UInt8)

/-- `recv_dump` with a buffer that holds what it was left with. -/
def recvDump (ifindex fuel : Nat) :
    List Recv → List UInt8 → Addresses → Except Fault Addresses
  | [], _, _ => .error .blocked
  | .failed :: _, _, _ => .error .os
  | .datagram bytes :: rest, buf, out =>
      let received := bytes.take buf.length
      if received.length = 0 then .ok out
      else do
        let buf := splice buf 0 received
        let (done, out) ← messages buf received.length ifindex fuel 0 out
        if done then return out else recvDump ifindex fuel rest buf out

/-- The buffer that the dump starts with. -/
def dumpBuffer : List UInt8 := List.replicate (32 * 1024) 0

end ArkKvm.Rtnetlink
