import ArkKvm.Config.Manager
import ArkKvm.Lib.Action

/-!
# The control lease

The parts of `control_lease.rs` that run under the lock of `LEASE`.  Who is online
and whether MCP is enabled is sampled before the lock is taken, so the samples are
arguments; so are the clock and the fresh request id.  `GENERATION` is a `u64` that
wraps and that only these parts touch.
-/

namespace ArkKvm

def SessionRole.asStr : SessionRole → String
  | .user => "user"
  | .agent => "agent"

namespace ControlLease

open Lib

def controlTimeout : Nat := 120 * 1000

def controlDenied : String := "controlDenied"

def controlBusy : String := "controlBusy"

def controlStale : String := "controlStale"

inductive TimeoutPolicy
  | grantRequester
  | denyRequester
deriving DecidableEq

def TimeoutPolicy.asStr : TimeoutPolicy → String
  | .grantRequester => "grantRequester"
  | .denyRequester => "denyRequester"

structure PendingRequest where
  requestId : String
  requester : SessionRole
  policy : TimeoutPolicy
  generation : UInt64
  deadline : Nat
  reason : String
deriving DecidableEq

/-- `ControlState` with the counter `GENERATION`. -/
structure Lease where
  owner : Option SessionRole := none
  pending : Option PendingRequest := none
  generation : UInt64 := 1
deriving DecidableEq

structure Timer where
  generation : UInt64
  requestId : String
deriving DecidableEq

structure Online where
  user : Bool
  agent : Bool
deriving DecidableEq

def Online.of (online : Online) : SessionRole → Bool
  | .user => online.user
  | .agent => online.agent

def Online.ownerOnline (online : Online) : Option SessionRole → Bool
  | some role => online.of role
  | none => false

/-! ## What a client is told -/

structure PendingView where
  requestId : String
  requester : String
  reason : String
  deadlineMs : Nat
  timeoutPolicy : String
deriving DecidableEq

structure ControlStateView where
  owner : Option String
  pending : Option PendingView
deriving DecidableEq

def snapshot (now : Nat) (s : Lease) : ControlStateView where
  owner := s.owner.map SessionRole.asStr
  pending := s.pending.map fun p =>
    { requestId := p.requestId
      requester := p.requester.asStr
      reason := p.reason
      deadlineMs := p.deadline - now
      timeoutPolicy := p.policy.asStr }

inductive ControlEvent
  | changed (owner : Option SessionRole) (reason : String)
  | conflict (view : ControlStateView)
  | conflictHint (view : ControlStateView) (reason : String)
deriving DecidableEq

/-- The answer of a request, the notifications that follow it and the timer that it
has spawned. -/
structure Reply where
  view : ControlStateView
  events : List ControlEvent := []
  timer : Option Timer := none
deriving DecidableEq

/-! ## The locked parts -/

def clearPendingLocked (s : Lease) : Lease :=
  match s.pending with
  | some _ =>
      { s with
        pending := none
        generation := s.generation + 1 }
  | none => s

/-- `clear_pending_locked` and the assignment of the owner after it. -/
def settle (owner : Option SessionRole) (s : Lease) : Lease :=
  { clearPendingLocked s with owner := owner }

def makePending (requester : SessionRole) (policy : TimeoutPolicy) (reason uuid : String)
    (now : Nat) (s : Lease) : PendingRequest where
  requestId := uuid
  requester := requester
  policy := policy
  generation := s.generation
  deadline := now + controlTimeout
  reason := reason

def onRoleClaimed (role : SessionRole) (previousUser : Bool) (online : Online) (now : Nat)
    (s : Lease) : Lease × List ControlEvent :=
  match role with
  | .user =>
      if previousUser then
        (settle (some .user) s, [.changed (some .user) "userTakeover"])
      else if s.owner = some .agent ∧ online.agent = true then
        (s, [.conflictHint (snapshot now s) "agentHasControl"])
      else (settle (some .user) s, [.changed (some .user) "userClaimed"])
  | .agent =>
      if s.owner = none ∨ online.ownerOnline s.owner = false then
        (settle (some .agent) s, [.changed (some .agent) "agentClaimed"])
      else (s, [])

def fallback (online : Online) : Option SessionRole :=
  if online.user then some .user else if online.agent then some .agent else none

def onSessionRemoved (role : SessionRole) (online : Online) (s : Lease) :
    Lease × List ControlEvent :=
  let ownerGone := s.owner = some role ∧ online.of role = false
  let requesterGone := s.pending.any fun p => p.requester = role && !online.of role
  let s₁ := if requesterGone then clearPendingLocked s else s
  let events := if requesterGone then [.changed s.owner "requesterDisconnected"] else []
  if ownerGone then
    (settle (fallback online) s₁, events ++ [.changed (fallback online) "ownerDisconnected"])
  else (s₁, events)

def conflictOf (owner : Option SessionRole) (role : SessionRole) : TimeoutPolicy × String :=
  match owner, role with
  | some .user, .agent => (.grantRequester, "humanHasControl")
  | some .agent, .user => (.denyRequester, "agentHasControl")
  | _, _ => (.denyRequester, "controlConflict")

def requestControl (role : SessionRole) (online : Online) (uuid : String) (now : Nat) :
    Action String Lease Reply := fun s =>
  if s.owner = some role then (s, .ok { view := snapshot now s })
  else if s.owner = none ∨ online.ownerOnline s.owner = false then
    let s' := settle (some role) s
    (s', .ok
      { view := snapshot now s'
        events := [.changed (some role) "requestControlVacant"] })
  else
    match s.pending with
    | some pending =>
        if pending.requester = role then (s, .ok { view := snapshot now s })
        else (s, .error (controlBusy ++ ": arbitration already in progress"))
    | none =>
        let pending :=
          makePending role (conflictOf s.owner role).1 (conflictOf s.owner role).2 uuid now s
        let s' := { s with
          pending := some pending
          generation := s.generation + 1 }
        (s', .ok
          { view := snapshot now s'
            events := [.conflict (snapshot now s')]
            timer := some ⟨pending.generation, pending.requestId⟩ })

def canGrant (requester responder : SessionRole) : Bool := requester ≠ responder

/-- `resolve_pending`: `grant_control` and `deny_control`. -/
def resolvePending (responder : SessionRole) (requestId : Option String) (grant : Bool)
    (now : Nat) : Action String Lease Reply := fun s =>
  match s.pending with
  | none => (s, .error (controlStale ++ ": no pending control request"))
  | some pending =>
      if requestId.any (· ≠ pending.requestId) then
        (s, .error (controlStale ++ ": requestId mismatch"))
      else if grant && !canGrant pending.requester responder then
        (s, .error (controlDenied ++ ": requester cannot grant its own arbitration; " ++
          "wait for the user decision or the 120s timeout"))
      else
        let owner := if grant then some pending.requester else s.owner
        let s' := settle owner s
        (s', .ok
          { view := snapshot now s'
            events := [.changed owner (if grant then "granted" else "denied")] })

def takeOverControl (now : Nat) : Action String Lease Reply := fun s =>
  let s' := settle (some .user) s
  (s', .ok
    { view := snapshot now s'
      events := [.changed (some .user) "takeOver"] })

def successor (role : SessionRole) (online : Online) : Option SessionRole :=
  match role with
  | .user => if online.agent then some .agent else none
  | .agent => if online.user then some .user else none

def releaseControl (role : SessionRole) (online : Online) (now : Nat) :
    Action String Lease Reply := fun s =>
  if s.owner ≠ some role then
    (s, .error (controlDenied ++ ": caller is not control owner"))
  else
    let s' := settle (successor role online) s
    (s', .ok
      { view := snapshot now s'
        events := [.changed (successor role online) "released"] })

def onTimeout (timer : Timer) (mcpEnabled : Bool) (s : Lease) : Lease × List ControlEvent :=
  match s.pending with
  | none => (s, [])
  | some pending =>
      if pending.generation ≠ timer.generation ∨ pending.requestId ≠ timer.requestId then (s, [])
      else
        match pending.policy with
        | .grantRequester =>
            if pending.requester ≠ .agent ∨ mcpEnabled = true then
              (settle (some pending.requester) s,
                [.changed (some pending.requester) "timeoutGranted"])
            else (settle s.owner s, [.changed s.owner "timeoutDeniedMcpDisabled"])
        | .denyRequester => (settle s.owner s, [.changed s.owner "timeoutDenied"])

end ControlLease

end ArkKvm
