import ArkKvm.Lease.Control

/-!
# What an operation can do to the lease

Eight operations take the lock of the lease.  `LeaseOp.outcome` says once what each
of them can do to it, with its guard: every invariant of the lease is a case analysis
over `Outcome` and `Settles`, and none of them unfolds an operation again.
-/

namespace ArkKvm.ControlLease

open Lib

inductive LeaseOp
  | roleClaimed (role : SessionRole) (previousUser : Bool) (online : Online)
  | sessionRemoved (role : SessionRole) (online : Online)
  | requestControl (role : SessionRole) (online : Online)
  | resolvePending (responder : SessionRole) (requestId : Option String) (grant : Bool)
  | takeOverControl
  | releaseControl (role : SessionRole) (online : Online)
  | timeout (timer : Timer) (mcpEnabled : Bool)
deriving DecidableEq

/-- The lease after an operation, and the timer that it has spawned. -/
def LeaseOp.run (uuid : String) (now : Nat) (s : Lease) : LeaseOp → Lease × Option Timer
  | .roleClaimed role previousUser online => ((onRoleClaimed role previousUser online now s).1, none)
  | .sessionRemoved role online => ((onSessionRemoved role online s).1, none)
  | .requestControl role online =>
      let r := ControlLease.requestControl role online uuid now s
      (r.1, r.2.toOption.bind Reply.timer)
  | .resolvePending responder requestId grant =>
      ((ControlLease.resolvePending responder requestId grant now s).1, none)
  | .takeOverControl => ((ControlLease.takeOverControl now s).1, none)
  | .releaseControl role online => ((ControlLease.releaseControl role online now s).1, none)
  | .timeout timer mcpEnabled => ((onTimeout timer mcpEnabled s).1, none)

/-! ## What an operation can do -/

def opened (role : SessionRole) (uuid : String) (now : Nat) (s : Lease) : Lease :=
  { s with
    pending :=
      some (makePending role (conflictOf s.owner role).1 (conflictOf s.owner role).2 uuid now s)
    generation := s.generation + 1 }

/-- The operations that close the pending request and set the owner, each with its
guard and the owner that it sets. -/
inductive Settles (s : Lease) : LeaseOp → Option SessionRole → Prop
  | userTakeover (online : Online) :
      Settles s (.roleClaimed .user true online) (some .user)
  | userClaimed (online : Online) (h : ¬(s.owner = some .agent ∧ online.agent = true)) :
      Settles s (.roleClaimed .user false online) (some .user)
  | agentClaimed (previousUser : Bool) (online : Online)
      (h : online.ownerOnline s.owner = false) :
      Settles s (.roleClaimed .agent previousUser online) (some .agent)
  | requesterGone {role : SessionRole} {online : Online} {p : PendingRequest}
      (hp : s.pending = some p) (hreq : p.requester = role) (hoff : online.of role = false) :
      Settles s (.sessionRemoved role online) s.owner
  | ownerGone {role : SessionRole} {online : Online} (howner : s.owner = some role)
      (hoff : online.of role = false) :
      Settles s (.sessionRemoved role online) (fallback online)
  | vacant {role : SessionRole} {online : Online} (hother : s.owner ≠ some role)
      (hoff : online.ownerOnline s.owner = false) :
      Settles s (.requestControl role online) (some role)
  | granted {responder : SessionRole} {requestId : Option String} {p : PendingRequest}
      (hp : s.pending = some p) (hid : ∀ id ∈ requestId, id = p.requestId)
      (hother : p.requester ≠ responder) :
      Settles s (.resolvePending responder requestId true) (some p.requester)
  | denied {responder : SessionRole} {requestId : Option String} {p : PendingRequest}
      (hp : s.pending = some p) (hid : ∀ id ∈ requestId, id = p.requestId) :
      Settles s (.resolvePending responder requestId false) s.owner
  | takenOver : Settles s .takeOverControl (some .user)
  | released {role : SessionRole} {online : Online} (howner : s.owner = some role) :
      Settles s (.releaseControl role online) (successor role online)
  | timeoutGranted {p : PendingRequest} {mcpEnabled : Bool} (hp : s.pending = some p)
      (hpolicy : p.policy = .grantRequester)
      (hmcp : p.requester = .agent → mcpEnabled = true) :
      Settles s (.timeout ⟨p.generation, p.requestId⟩ mcpEnabled) (some p.requester)
  | timeoutDenied {p : PendingRequest} {mcpEnabled : Bool} (hp : s.pending = some p) :
      Settles s (.timeout ⟨p.generation, p.requestId⟩ mcpEnabled) s.owner

/-- An operation leaves the lease alone, opens a request against an owner that it
found online, or settles the lease. -/
inductive Outcome (uuid : String) (now : Nat) (s : Lease) (op : LeaseOp) :
    Lease × Option Timer → Prop
  | kept : Outcome uuid now s op (s, none)
  | opened {role owner : SessionRole} {online : Online}
      (hop : op = .requestControl role online) (howner : s.owner = some owner)
      (hother : owner ≠ role) (honline : online.of owner = true) (hfree : s.pending = none) :
      Outcome uuid now s op (ControlLease.opened role uuid now s, some ⟨s.generation, uuid⟩)
  | settled {owner : Option SessionRole} (h : Settles s op owner) :
      Outcome uuid now s op (settle owner s, none)

theorem settle_owner (s : Lease) : settle s.owner s = clearPendingLocked s := by
  unfold settle clearPendingLocked
  split <;> rfl

theorem settle_clearPendingLocked (owner : Option SessionRole) (s : Lease) :
    settle owner (clearPendingLocked s) = settle owner s := by
  cases hp : s.pending <;> simp [settle, clearPendingLocked, hp]

section Cases

variable (uuid : String) (now : Nat) (s : Lease)

theorem onRoleClaimed_outcome (role : SessionRole) (previousUser : Bool) (online : Online) :
    Outcome uuid now s (.roleClaimed role previousUser online)
      ((onRoleClaimed role previousUser online now s).1, none) := by
  cases role with
  | user =>
      unfold onRoleClaimed
      cases previousUser with
      | true => exact .settled (.userTakeover online)
      | false =>
          by_cases h : s.owner = some .agent ∧ online.agent = true
          · simp only [Bool.false_eq_true, if_false, if_pos h]
            exact .kept
          · simp only [Bool.false_eq_true, if_false, if_neg h]
            exact .settled (.userClaimed online h)
  | agent =>
      unfold onRoleClaimed
      by_cases h : s.owner = none ∨ online.ownerOnline s.owner = false
      · simp only [if_pos h]
        refine .settled (.agentClaimed previousUser online ?_)
        rcases h with hnone | hoff
        · rw [hnone]
          rfl
        · exact hoff
      · simp only [if_neg h]
        exact .kept

theorem onSessionRemoved_outcome (role : SessionRole) (online : Online) :
    Outcome uuid now s (.sessionRemoved role online) ((onSessionRemoved role online s).1, none) := by
  unfold onSessionRemoved
  by_cases hgone : s.owner = some role ∧ online.of role = false
  · simp only [if_pos hgone]
    -- the request is cleared twice, which is the same as once
    have hsame : settle (fallback online)
        (if (s.pending.any fun p => p.requester = role && !online.of role) = true
          then clearPendingLocked s else s) = settle (fallback online) s := by
      split
      · exact settle_clearPendingLocked _ s
      · rfl
    rw [hsame]
    exact .settled (.ownerGone hgone.1 hgone.2)
  · simp only [if_neg hgone]
    by_cases hreq : (s.pending.any fun p => p.requester = role && !online.of role) = true
    · simp only [if_pos hreq, ← settle_owner]
      obtain ⟨p, hp, hcond⟩ := (Option.any_eq_true _ _).mp hreq
      simp only [Bool.and_eq_true, decide_eq_true_eq, Bool.not_eq_true'] at hcond
      exact .settled (.requesterGone hp hcond.1 hcond.2)
    · simp only [if_neg hreq]
      exact .kept

theorem requestControl_outcome (role : SessionRole) (online : Online) :
    Outcome uuid now s (.requestControl role online)
      (LeaseOp.run uuid now s (.requestControl role online)) := by
  unfold LeaseOp.run ControlLease.requestControl
  by_cases hown : s.owner = some role
  · simp only [if_pos hown]
    exact .kept
  by_cases hvacant : s.owner = none ∨ online.ownerOnline s.owner = false
  · simp only [if_neg hown, if_pos hvacant]
    refine .settled (.vacant hown ?_)
    rcases hvacant with hnone | hoff
    · rw [hnone]
      rfl
    · exact hoff
  simp only [if_neg hown, if_neg hvacant]
  cases hp : s.pending with
  | some p =>
      by_cases hmine : p.requester = role
      · simp only [if_pos hmine]
        exact .kept
      · simp only [if_neg hmine]
        exact .kept
  | none =>
      obtain ⟨owner, howner⟩ := Option.ne_none_iff_exists'.mp fun h => hvacant (.inl h)
      have honline : online.of owner = true := by
        have hon := fun h => hvacant (.inr h)
        rw [howner] at hon
        simpa [Online.ownerOnline] using hon
      have hother : owner ≠ role := by
        rintro rfl
        exact hown howner
      exact .opened rfl howner hother honline hp

theorem resolvePending_outcome (responder : SessionRole) (requestId : Option String)
    (grant : Bool) :
    Outcome uuid now s (.resolvePending responder requestId grant)
      ((ControlLease.resolvePending responder requestId grant now s).1, none) := by
  unfold ControlLease.resolvePending
  cases hp : s.pending with
  | none => exact .kept
  | some p =>
      by_cases hid : (requestId.any (· ≠ p.requestId)) = true
      · simp only [if_pos hid]
        exact .kept
      have hid' : ∀ id ∈ requestId, id = p.requestId := by
        rintro id rfl
        simpa using hid
      simp only [if_neg hid]
      cases grant with
      | false =>
          simp only [Bool.false_and, Bool.false_eq_true, if_false]
          exact .settled (.denied hp hid')
      | true =>
          by_cases hself : p.requester = responder
          · simp only [canGrant, hself, ne_eq, not_true_eq_false, decide_false, Bool.not_false,
              Bool.and_self, if_true]
            exact .kept
          · simp only [canGrant, hself, ne_eq, not_false_eq_true, decide_true, Bool.not_true,
              Bool.and_false, Bool.false_eq_true, if_false, if_true]
            exact .settled (.granted hp hid' hself)

theorem onTimeout_outcome (timer : Timer) (mcpEnabled : Bool) :
    Outcome uuid now s (.timeout timer mcpEnabled) ((onTimeout timer mcpEnabled s).1, none) := by
  unfold onTimeout
  cases hp : s.pending with
  | none => exact .kept
  | some p =>
      by_cases hstale : p.generation ≠ timer.generation ∨ p.requestId ≠ timer.requestId
      · simp only [if_pos hstale]
        exact .kept
      obtain ⟨generation, requestId⟩ := timer
      obtain ⟨rfl, rfl⟩ : p.generation = generation ∧ p.requestId = requestId := by
        simpa only [not_or, not_not] using hstale
      simp only [if_neg hstale]
      cases hpolicy : p.policy with
      | denyRequester => exact .settled (.timeoutDenied hp)
      | grantRequester =>
          by_cases hmcp : p.requester ≠ .agent ∨ mcpEnabled = true
          · simp only [if_pos hmcp]
            exact .settled (.timeoutGranted hp hpolicy fun hagent =>
              hmcp.resolve_left fun hne => hne hagent)
          · simp only [if_neg hmcp]
            exact .settled (.timeoutDenied hp)

theorem LeaseOp.outcome (op : LeaseOp) : Outcome uuid now s op (op.run uuid now s) := by
  cases op with
  | roleClaimed role previousUser online =>
      exact onRoleClaimed_outcome uuid now s role previousUser online
  | sessionRemoved role online => exact onSessionRemoved_outcome uuid now s role online
  | requestControl role online => exact requestControl_outcome uuid now s role online
  | resolvePending responder requestId grant =>
      exact resolvePending_outcome uuid now s responder requestId grant
  | takeOverControl => exact .settled .takenOver
  | releaseControl role online =>
      unfold LeaseOp.run ControlLease.releaseControl
      by_cases howner : s.owner = some role
      · simp only [howner, ne_eq, not_true_eq_false, if_false]
        exact .settled (.released howner)
      · simp only [ne_eq, howner, not_false_eq_true, if_true]
        exact .kept
  | timeout timer mcpEnabled => exact onTimeout_outcome uuid now s timer mcpEnabled

theorem LeaseOp.run_owner (op : LeaseOp) :
    (op.run uuid now s).1.owner = s.owner ∨ Settles s op (op.run uuid now s).1.owner := by
  have h := op.outcome uuid now s
  generalize op.run uuid now s = r at h
  cases h with
  | kept => exact .inl rfl
  | opened _ _ _ _ _ => exact .inl rfl
  | settled h => exact .inr h

end Cases

end ArkKvm.ControlLease
