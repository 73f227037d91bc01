import ArkKvm.Session.Gate

/-!
# Who may decide about control

The entry points of `control_lease.rs`: each looks at the sessions, the slots and the
MCP switch, and then runs its locked part.  `request_control` and `take_over_control`
ask whether the caller holds some slot; the other three do not ask.  The lease that
the locked part meets may be a later one than the rest was read beside, so the
theorems hold for any lease.
-/

namespace ArkKvm.ControlCalls

open Lib Lib.Action Lib.Run ControlLease

def mcpDisabled : String := "mcpDisabled"

/-- What a call reads before it takes the lock. -/
structure Observed where
  app : AppState
  mcpEnabled : Bool
  online : Online

variable (o : Observed) (id : String) (now : Nat)

def sessionOf : Action String Lease Session :=
  match o.app.sessions.lookup id with
  | some session => pure session
  | none => fail "session not found"

def requestControl (uuid : String) : Action String Lease Reply := do
  let session ← sessionOf o id
  ensure (o.app.isRoleSlotHolder id = true) "session is not the role slot holder"
  ensure (session.role = .agent → o.mcpEnabled = true)
    (mcpDisabled ++ ": enable MCP on the device before agent control")
  ControlLease.requestControl session.role o.online uuid now

def resolvePending (requestId : Option String) (grant : Bool) : Action String Lease Reply := do
  let session ← sessionOf o id
  ControlLease.resolvePending session.role requestId grant now

def grantControl (requestId : Option String) : Action String Lease Reply :=
  resolvePending o id now requestId true

def denyControl (requestId : Option String) : Action String Lease Reply :=
  resolvePending o id now requestId false

def takeOverControl : Action String Lease Reply := do
  let session ← sessionOf o id
  ensure (session.role = .user) "only user can takeOverControl"
  ensure (o.app.isRoleSlotHolder id = true) "session is not the user slot holder"
  ControlLease.takeOverControl now

def releaseControl : Action String Lease Reply := do
  let session ← sessionOf o id
  ControlLease.releaseControl session.role o.online now

inductive Call
  | requestControl (uuid : String)
  | grantControl (requestId : Option String)
  | denyControl (requestId : Option String)
  | takeOverControl
  | releaseControl
deriving DecidableEq

def Call.run : Call → Action String Lease Reply
  | .requestControl uuid => ControlCalls.requestControl o id now uuid
  | .grantControl requestId => ControlCalls.grantControl o id now requestId
  | .denyControl requestId => ControlCalls.denyControl o id now requestId
  | .takeOverControl => ControlCalls.takeOverControl o id now
  | .releaseControl => ControlCalls.releaseControl o id now

def Changes (x : Action String Lease Reply) (l : Lease) : Prop :=
  ((x l).1.owner, (x l).1.pending) ≠ (l.owner, l.pending)

def Decides (x : Action String Lease Reply) (l : Lease) : Prop :=
  (∃ reply, (x l).2 = .ok reply) ∧ Changes x l

/-- The caller is registered and holds the slot of its own role. -/
def HoldsOwnSlot (app : AppState) (id : String) : Prop :=
  ∃ session ∈ app.sessions.lookup id, app.roleSessions.lookup session.role = some id

/-! ## When a call decides -/

section

variable {o id now} {l : Lease} {x : Unit → Action String Lease Reply}

theorem decides_sessionOf {f : Session → Action String Lease Reply} :
    Decides (sessionOf o id >>= f) l ↔
      ∃ session ∈ o.app.sessions.lookup id, Decides (f session) l := by
  unfold sessionOf
  cases o.app.sessions.lookup id with
  | some session =>
      constructor
      · exact fun h => ⟨session, rfl, h⟩
      · rintro ⟨_, ⟨⟩, h⟩
        exact h
  | none =>
      constructor
      · rintro ⟨⟨reply, hreply⟩, -⟩
        cases hreply
      · rintro ⟨_, ⟨⟩, -⟩

theorem decides_ensure {p : Prop} [Decidable p] {e : String} :
    Decides (ensure p e >>= x) l ↔ p ∧ Decides (x ()) l := by
  by_cases hp : p
  · have hrun : (ensure p e >>= x) l = x () l := by
      rw [bind_run, ensure, if_pos hp]
      rfl
    simp only [Decides, Changes, hrun, hp, true_and]
  · have hrun : (ensure p e >>= x) l = (l, .error e) := by
      rw [bind_run, ensure, if_neg hp]
      rfl
    simp [Decides, hrun, hp]

theorem not_decides_of_error {y : Action String Lease Reply} {e : String}
    (h : (y l).2 = .error e) : ¬ Decides y l := by
  rintro ⟨⟨reply, hreply⟩, -⟩
  rw [h] at hreply
  cases hreply

theorem decides_of_cleared {y : Action String Lease Reply} {l' : Lease} {reply : Reply}
    {p : PendingRequest} (h : y l = (l', .ok reply)) (hp : l.pending = some p)
    (hcleared : l'.pending = none) : Decides y l := by
  refine ⟨⟨reply, by rw [h]⟩, fun hsame => ?_⟩
  rw [h] at hsame
  have hpending := (Prod.mk.inj hsame).2
  rw [hcleared, hp] at hpending
  cases hpending

theorem decides_requestControl {role : SessionRole} {online : Online} {uuid : String} :
    Decides (ControlLease.requestControl role online uuid now) l ↔
      l.owner ≠ some role ∧ (online.ownerOnline l.owner = false ∨ l.pending = none) := by
  unfold Decides Changes ControlLease.requestControl
  by_cases hown : l.owner = some role
  · simp [hown]
  by_cases hvacant : l.owner = none ∨ online.ownerOnline l.owner = false
  · have hoff : online.ownerOnline l.owner = false := by
      rcases hvacant with hnone | hoff
      · rw [hnone]
        rfl
      · exact hoff
    simp [hown, hoff, settle, Ne.symm hown]
  · obtain ⟨hsome, hon⟩ := not_or.mp hvacant
    cases hp : l.pending with
    | none => simp [hown, hsome, hon]
    | some p => by_cases hmine : p.requester = role <;> simp [hown, hsome, hon, hmine, hp]

theorem decides_resolvePending {responder : SessionRole} {requestId : Option String}
    {grant : Bool} :
    Decides (ControlLease.resolvePending responder requestId grant now) l ↔
      ∃ p ∈ l.pending, (∀ i ∈ requestId, i = p.requestId) ∧
        (grant = true → p.requester ≠ responder) := by
  cases hp : l.pending with
  | none => simp [Decides, Changes, ControlLease.resolvePending, hp]
  | some p =>
      have hmatch : (requestId.any (· ≠ p.requestId)) = true ↔
          ¬ ∀ i ∈ requestId, i = p.requestId := by
        cases requestId <;> simp
      have hself : (grant && !canGrant p.requester responder) = true ↔
          ¬(grant = true → p.requester ≠ responder) := by
        simp [canGrant]
      simp only [Option.mem_def, Option.some.injEq, exists_eq_left']
      by_cases hid : ∀ i ∈ requestId, i = p.requestId
      · by_cases hother : grant = true → p.requester ≠ responder
        · obtain ⟨owner, reply, hrun⟩ : ∃ owner reply,
              ControlLease.resolvePending responder requestId grant now l =
                (settle owner l, .ok reply) := by
            simp only [ControlLease.resolvePending, hp]
            rw [if_neg (mt hmatch.mp (not_not.mpr hid)), if_neg (mt hself.mp (not_not.mpr hother))]
            exact ⟨_, _, rfl⟩
          refine iff_of_true (decides_of_cleared hrun hp ?_) ⟨hid, hother⟩
          simp [settle, clearPendingLocked, hp]
        · refine iff_of_false ?_ fun h => hother h.2
          have hrun : (ControlLease.resolvePending responder requestId grant now l).2 =
              .error (controlDenied ++ ": requester cannot grant its own arbitration; " ++
                "wait for the user decision or the 120s timeout") := by
            simp only [ControlLease.resolvePending, hp]
            rw [if_neg (mt hmatch.mp (not_not.mpr hid)), if_pos (hself.mpr hother)]
          exact not_decides_of_error hrun
      · refine iff_of_false ?_ fun h => hid h.1
        have hrun : (ControlLease.resolvePending responder requestId grant now l).2 =
            .error (controlStale ++ ": requestId mismatch") := by
          simp only [ControlLease.resolvePending, hp]
          rw [if_pos (hmatch.mpr hid)]
        exact not_decides_of_error hrun

theorem decides_takeOverControl :
    Decides (ControlLease.takeOverControl now) l ↔
      ¬(l.owner = some .user ∧ l.pending = none) := by
  unfold Decides Changes ControlLease.takeOverControl
  cases hp : l.pending <;> simp [settle, clearPendingLocked, hp, eq_comm]

theorem decides_releaseControl {role : SessionRole} {online : Online} :
    Decides (ControlLease.releaseControl role online now) l ↔ l.owner = some role := by
  unfold Decides Changes ControlLease.releaseControl
  by_cases hown : l.owner = some role
  · have hother : successor role online ≠ some role := by
      unfold successor
      cases role <;> simp
    simp [hown, settle, hother]
  · simp [hown]

/-- When the call of a session that need not hold its slot decides nothing: it is refused,
or it finds nothing to change. -/
def Call.Idle (o : Observed) (id : String) (l : Lease) (session : Session) : Call → Prop
  | .requestControl _ =>
      o.app.isRoleSlotHolder id = false ∨
        (session.role = .agent ∧ o.mcpEnabled = false) ∨ l.owner = some session.role ∨
        (o.online.ownerOnline l.owner = true ∧ l.pending ≠ none)
  | .grantControl requestId =>
      ∀ p ∈ l.pending, (∃ i ∈ requestId, i ≠ p.requestId) ∨ p.requester = session.role
  | .denyControl requestId => ∀ p ∈ l.pending, ∃ i ∈ requestId, i ≠ p.requestId
  | .takeOverControl =>
      session.role ≠ .user ∨ o.app.isRoleSlotHolder id = false ∨
        (l.owner = some .user ∧ l.pending = none)
  | .releaseControl => l.owner ≠ some session.role

theorem Call.decides_iff (call : Call) :
    Decides (call.run o id now) l ↔
      ∃ session ∈ o.app.sessions.lookup id, ¬ call.Idle o id l session := by
  cases call with
  | requestControl uuid =>
      refine decides_sessionOf.trans (exists_congr fun session => and_congr_right fun _ => ?_)
      rw [decides_ensure, decides_ensure, decides_requestControl]
      cases hmcp : o.mcpEnabled <;> cases hon : o.online.ownerOnline l.owner <;>
        simp [Call.Idle, hmcp, hon]
  | grantControl requestId =>
      refine decides_sessionOf.trans (exists_congr fun session => and_congr_right fun _ => ?_)
      rw [decides_resolvePending]
      simp [Call.Idle]
  | denyControl requestId =>
      refine decides_sessionOf.trans (exists_congr fun session => and_congr_right fun _ => ?_)
      rw [decides_resolvePending]
      simp [Call.Idle]
  | takeOverControl =>
      refine decides_sessionOf.trans (exists_congr fun session => and_congr_right fun _ => ?_)
      rw [decides_ensure, decides_ensure, decides_takeOverControl]
      simp [Call.Idle]
  | releaseControl =>
      refine decides_sessionOf.trans (exists_congr fun session => and_congr_right fun _ => ?_)
      rw [decides_releaseControl]
      simp [Call.Idle]

/-! ## A refused call changes nothing -/

def Refuses (y : Action String Lease Reply) : Prop :=
  ∀ l, (∃ reply, (y l).2 = .ok reply) ∨ (y l).1 = l

theorem Refuses.decides {y : Action String Lease Reply} (h : Refuses y) (hchanges : Changes y l) :
    Decides y l := by
  rcases h l with hok | hsame
  · exact ⟨hok, hchanges⟩
  · exact absurd (by rw [hsame]) hchanges

theorem refuses_ensure {p : Prop} [Decidable p] {e : String} (h : Refuses (x ())) :
    Refuses (ensure p e >>= x) := by
  intro l
  by_cases hp : p
  · have hrun : (ensure p e >>= x) l = x () l := by
      rw [bind_run, ensure, if_pos hp]
      rfl
    rw [hrun]
    exact h l
  · have hrun : (ensure p e >>= x) l = (l, .error e) := by
      rw [bind_run, ensure, if_neg hp]
      rfl
    rw [hrun]
    exact .inr rfl

theorem refuses_sessionOf {f : Session → Action String Lease Reply}
    (h : ∀ session, Refuses (f session)) : Refuses (sessionOf o id >>= f) := by
  intro l
  unfold sessionOf
  cases o.app.sessions.lookup id with
  | some session => exact h session l
  | none => exact .inr rfl

theorem refuses_requestControl {role : SessionRole} {online : Online} {uuid : String} :
    Refuses (ControlLease.requestControl role online uuid now) := by
  intro l
  unfold ControlLease.requestControl
  repeat' split
  all_goals simp

theorem refuses_resolvePending {responder : SessionRole} {requestId : Option String}
    {grant : Bool} : Refuses (ControlLease.resolvePending responder requestId grant now) := by
  intro l
  unfold ControlLease.resolvePending
  repeat' split
  all_goals simp

theorem refuses_releaseControl {role : SessionRole} {online : Online} :
    Refuses (ControlLease.releaseControl role online now) := by
  intro l
  unfold ControlLease.releaseControl
  split <;> simp

theorem Call.refuses (call : Call) : Refuses (call.run o id now) := by
  cases call with
  | requestControl uuid =>
      exact refuses_sessionOf fun _ => refuses_ensure (refuses_ensure refuses_requestControl)
  | grantControl requestId | denyControl requestId =>
      exact refuses_sessionOf fun _ => refuses_resolvePending
  | takeOverControl =>
      exact refuses_sessionOf fun _ => refuses_ensure (refuses_ensure fun _ => .inl ⟨_, rfl⟩)
  | releaseControl => exact refuses_sessionOf fun _ => refuses_releaseControl

end

/-- A call that returns and changes the lease is the call of a session in the slot of its
role; a registered session outside that slot changes nothing. -/
structure HolderDecides (o : Observed) (id : String) (now : Nat) (call : Call) (l : Lease) :
    Prop where
  holder : Decides (call.run o id now) l → HoldsOwnSlot o.app id
  displaced : o.app.sessions.lookup id ≠ none → ¬ HoldsOwnSlot o.app id →
    ¬ Changes (call.run o id now) l

/-- The server keeps to that exactly where the caller does hold its slot, or its call is
idle anyway. -/
theorem holder_decides_iff (o : Observed) (id : String) (now : Nat) (call : Call) (l : Lease) :
    HolderDecides o id now call l ↔
      HoldsOwnSlot o.app id ∨ ∀ session ∈ o.app.sessions.lookup id, call.Idle o id l session := by
  constructor
  · intro h
    by_cases hholds : HoldsOwnSlot o.app id
    · exact .inl hholds
    · refine .inr fun session hsession => ?_
      by_contra hidle
      exact hholds (h.holder (call.decides_iff.mpr ⟨session, hsession, hidle⟩))
  · intro h
    have hholder : Decides (call.run o id now) l → HoldsOwnSlot o.app id := by
      intro hdecides
      obtain ⟨session, hsession, hbusy⟩ := call.decides_iff.mp hdecides
      exact h.resolve_right fun hidle => hbusy (hidle session hsession)
    refine ⟨hholder, fun _ hholds hchanges => ?_⟩
    exact hholds (hholder (call.refuses.decides hchanges))

def takenOver : List HidGate.Op :=
  [.addSession "user-1" .user, .claimRoleSlot ⟨"user-1", .user, 0⟩,
    .lease "" 0 (.roleClaimed .user false ⟨true, false⟩), .addSession "user-2" .user,
    .claimRoleSlot ⟨"user-2", .user, 1⟩, .lease "" 0 (.roleClaimed .user true ⟨true, false⟩)]

/-- The first user releases the control that the second one has. -/
theorem displaced_user_releases :
    ¬ ∀ s, Reach HidGate.step anyStep {} s → ∀ id now call,
      HolderDecides ⟨s.app, s.mcpEnabled, ⟨s.app.online .user, s.app.online .agent⟩⟩ id now call
        s.lease := by
  intro hclaim
  have hexec : (exec HidGate.step (fun _ _ => true) {} takenOver).map
      (fun s => (s.app.sessions.lookup "user-1", s.app.roleSessions.lookup .user, s.lease.owner)) =
        some (some ⟨"user-1", .user, 0⟩, some "user-2", some .user) := by
    decide +kernel
  obtain ⟨s, hs, hobs⟩ := exists_reach_of_exec (fun _ _ _ => trivial) hexec
  obtain ⟨hsession, hobs⟩ := Prod.mk.inj hobs
  obtain ⟨hslot, howner⟩ := Prod.mk.inj hobs
  have hdecides : Decides (Call.run ⟨s.app, s.mcpEnabled, ⟨s.app.online .user, s.app.online .agent⟩⟩
      "user-1" 0 .releaseControl) s.lease := by
    refine (Call.decides_iff .releaseControl).mpr ⟨_, hsession, ?_⟩
    simp [Call.Idle, howner]
  obtain ⟨session, hsession', hholds⟩ := (hclaim s hs "user-1" 0 .releaseControl).holder hdecides
  obtain rfl := Option.some.inj (hsession.symm.trans hsession')
  rw [hslot] at hholds
  exact absurd (Option.some.inj hholds) (by decide)

end ArkKvm.ControlCalls
