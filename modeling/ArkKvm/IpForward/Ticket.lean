import ArkKvm.Lib.Action
import ArkKvm.Lib.Table
import ArkKvm.Lib.Text

/-!
# IP-forward tickets

`ip_forward/ticket.rs`: a session asks for a ticket and gets the label of a data
channel; whoever opens the channel consumes the ticket.  The tickets are one map
under one lock.  The clock is read before the lock is taken and again under it, so
both readings are arguments.
-/

namespace ArkKvm.IpForward

open Lib Lib.Action

def ipForwardPrefix : String := "ip_forward_"

def ticketTtl : Nat := 60 * 1000

def maxPendingPerSession : Nat := 4

structure StartIpForwardParams where
  target : Option String := none
  host : Option String := none
  port : UInt16
  protocol : String := "tcp"
deriving DecidableEq

inductive ForwardProtocol
  | tcp
  | udp
deriving DecidableEq

def ForwardProtocol.parse (s : String) : Except String ForwardProtocol :=
  let t := (Text.trim s.toList).map Char.toLower
  if t = "tcp".toList ∨ t = [] then .ok .tcp
  else if t = "udp".toList then .ok .udp
  else .error ("[invalid_argument] protocol must be tcp or udp, got " ++ String.ofList t)

def ForwardProtocol.asStr : ForwardProtocol → String
  | .tcp => "tcp"
  | .udp => "udp"

structure StartIpForwardResponse where
  dataChannel : String
  resolvedHost : String
  port : UInt16
  protocol : String
deriving DecidableEq

structure IpForwardParams where
  host : String
  port : UInt16
  protocol : ForwardProtocol
deriving DecidableEq

structure PendingTicket where
  sessionId : String
  params : IpForwardParams
  expiresAt : Nat
deriving DecidableEq

/-- `PENDING`: the tickets by label. -/
abbrev Tickets := Table String PendingTicket

def purgeExpired (now : Nat) (m : Tickets) : Tickets := m.removeWhere fun t => t.expiresAt ≤ now

def resolveForwardHost (usbPeer : Except String String) (target host : Option String) :
    Except String String :=
  let targetUsb := target.any fun t => t.toList.map Char.toLower = "usb".toList
  let host := (host.map fun h => Text.trim h.toList).filter fun h => h ≠ []
  if targetUsb then
    if host.isSome then
      .error "[invalid_argument] target=usb must not include host; peer IP comes from USB DHCP"
    else usbPeer
  else
    match host with
    | some h => .ok (String.ofList h)
    | none => .error "[invalid_argument] either target=usb or a non-empty host is required"

/-- The tickets of a session that are in the map. -/
def pendingFor (sessionId : String) (m : Tickets) : Nat :=
  m.entries.countP fun t => t.2.sessionId = sessionId

/-- `start`: the clock shows `issued` when the ticket is made and `now` under the lock. -/
def start (sessionId : String) (params : StartIpForwardParams) (usbPeer : Except String String)
    (uuid : String) (issued now : Nat) : Action String Tickets StartIpForwardResponse := do
  ensure (params.port ≠ 0) "[invalid_argument] port must be in 1..=65535"
  let protocol ← ofExcept (ForwardProtocol.parse params.protocol)
  let host ← ofExcept (resolveForwardHost usbPeer params.target params.host)
  let label := ipForwardPrefix ++ uuid
  let ticket : PendingTicket := ⟨sessionId, ⟨host, params.port, protocol⟩, issued + ticketTtl⟩
  Action.modify (purgeExpired now)
  let m ← Action.read
  ensure (pendingFor sessionId m < maxPendingPerSession)
    ("[invalid_argument] too many pending ip forward tickets for this session (max " ++
      Nat.repr maxPendingPerSession ++ ")")
  Action.modify fun m => m.insert label ticket
  pure ⟨label, host, params.port, protocol.asStr⟩

def consume (label sessionId : String) (now later : Nat) :
    Action String Tickets IpForwardParams := do
  Action.modify (purgeExpired now)
  let m ← Action.read
  match m.lookup label with
  | none => fail "[ticket_invalid] ip forward ticket not found or already used"
  | some ticket =>
      Action.modify fun m => m.erase label
      ensure (later < ticket.expiresAt) "[ticket_invalid] ip forward ticket expired"
      if ticket.sessionId ≠ sessionId then
        Action.modify fun m => m.insert label ticket
        fail "[ticket_invalid] ip forward ticket session mismatch"
      else pure ticket.params

def clearSession (sessionId : String) (m : Tickets) : Tickets :=
  m.removeWhere fun t => t.sessionId = sessionId

theorem clearSession_of_none {sessionId : String} {m : Tickets}
    (h : pendingFor sessionId m = 0) : clearSession sessionId m = m := by
  refine AList.ext (List.filter_eq_self.mpr fun t ht => ?_)
  have hother := List.countP_eq_zero.mp h t ht
  simpa using hother

end ArkKvm.IpForward
