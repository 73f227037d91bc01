import ArkKvm.Lease.Outcome
import ArkKvm.Lib.Pool
import ArkKvm.Lib.Run

/-!
# Arbitration of control

The operations of the lease in any order, with any samples of who is online and
whether MCP is enabled.  Timers are never cancelled: a timer that was spawned stays
in flight until it fires, and it may fire at any time.  `uuid n` is the id that the
`n`-th request of a run draws.
-/

namespace ArkKvm.ControlLease

open Lib Lib.Run Lib.Pool

/-- The lease and the timers in flight.  The other fields only record the run: how
often the counter has moved, every request that was pending, and every request that
was taken out again. -/
structure Arbitration where
  lease : Lease := {}
  timers : List Timer := []
  increments : Nat := 0
  requests : List PendingRequest := []
  removed : List PendingRequest := []
deriving DecidableEq

/-- A call that takes the lock, or the delivery of a timer. -/
inductive Event
  | call (now : Nat) (op : LeaseOp)
  | fire (i : Nat) (mcpEnabled : Bool)
deriving DecidableEq

def LeaseOp.isTimeout : LeaseOp → Bool
  | .timeout _ _ => true
  | _ => false

section

variable (uuid : Nat → String)

def Arbitration.after (now : Nat) (op : LeaseOp) (s : Arbitration) : Arbitration :=
  let r := op.run (uuid s.requests.length) now s.lease
  { lease := r.1
    timers := s.timers ++ r.2.toList
    increments := s.increments + (r.1.generation - s.lease.generation).toNat
    requests :=
      if r.1.pending = s.lease.pending then s.requests
      else s.requests ++ r.1.pending.toList
    removed :=
      if r.1.pending = s.lease.pending then s.removed
      else s.removed ++ s.lease.pending.toList }

def step (s : Arbitration) : Event → Option Arbitration
  | .call now op => if op.isTimeout then none else some (s.after uuid now op)
  | .fire i mcpEnabled =>
      (pick i s.timers).map fun (timer, rest) =>
        { s with timers := rest }.after uuid 0 (.timeout timer mcpEnabled)

/-- The states that a run of the lease visits. -/
def Reachable (s : Arbitration) : Prop := Reach (step uuid) anyStep {} s

/-! ## One operation of a run -/

/-- `Outcome` for the recorded lease. -/
inductive Advance (now : Nat) (op : LeaseOp) (s : Arbitration) : Arbitration → Prop
  | kept : Advance now op s s
  | opened {role owner : SessionRole} {online : Online}
      (hop : op = .requestControl role online) (howner : s.lease.owner = some owner)
      (hother : owner ≠ role) (honline : online.of owner = true)
      (hfree : s.lease.pending = none) {p : PendingRequest}
      (hp : p = makePending role (conflictOf s.lease.owner role).1
        (conflictOf s.lease.owner role).2 (uuid s.requests.length) now s.lease) :
      Advance now op s
        { s with
          lease :=
            { s.lease with
              pending := some p
              generation := s.lease.generation + 1 }
          timers := s.timers ++ [⟨p.generation, p.requestId⟩]
          increments := s.increments + 1
          requests := s.requests ++ [p] }
  | closed {owner : Option SessionRole} {p : PendingRequest} (h : Settles s.lease op owner)
      (hp : s.lease.pending = some p) :
      Advance now op s
        { s with
          lease := ⟨owner, none, s.lease.generation + 1⟩
          increments := s.increments + 1
          removed := s.removed ++ [p] }
  | assigned {owner : Option SessionRole} (h : Settles s.lease op owner)
      (hp : s.lease.pending = none) :
      Advance now op s { s with lease := ⟨owner, none, s.lease.generation⟩ }

theorem succ_sub_self_toNat (g : UInt64) : (g + 1 - g).toNat = 1 := by
  have h : g + 1 - g = 1 := by grind
  rw [h]
  rfl

theorem Arbitration.after_advance (now : Nat) (op : LeaseOp) (s : Arbitration) :
    Advance uuid now op s (s.after uuid now op) := by
  have hrun := op.outcome (uuid s.requests.length) now s.lease
  unfold Arbitration.after
  generalize op.run (uuid s.requests.length) now s.lease = r at hrun
  cases hrun with
  | kept =>
      simp only [Option.toList_none, List.append_nil, sub_self, if_true]
      exact .kept
  | opened hop howner hother honline hfree =>
      simp only [ControlLease.opened, hfree, succ_sub_self_toNat, reduceCtorEq, if_false,
        Option.toList_none, Option.toList_some, List.append_nil]
      exact .opened hop howner hother honline hfree rfl
  | settled h =>
      cases hp : s.lease.pending with
      | none =>
          simp only [settle, clearPendingLocked, hp, Option.toList_none, List.append_nil, sub_self,
            if_true]
          exact .assigned h hp
      | some p =>
          simp only [settle, clearPendingLocked, hp, succ_sub_self_toNat, reduceCtorEq, if_false,
            Option.toList_none, Option.toList_some, List.append_nil]
          exact .closed h hp

theorem step_cases {s s' : Arbitration} {e : Event} (h : step uuid s e = some s') :
    (∃ now op, e = .call now op ∧ op.isTimeout = false ∧ Advance uuid now op s s') ∨
    (∃ i mcpEnabled timer rest, e = .fire i mcpEnabled ∧ pick i s.timers = some (timer, rest) ∧
      Advance uuid 0 (.timeout timer mcpEnabled) { s with timers := rest } s') := by
  cases e with
  | call now op =>
      simp only [step] at h
      by_cases htimeout : op.isTimeout = true
      · simp [htimeout] at h
      · rw [if_neg htimeout, Option.some.injEq] at h
        subst h
        exact .inl ⟨now, op, rfl, by simpa using htimeout, s.after_advance uuid now op⟩
  | fire i mcpEnabled =>
      obtain ⟨⟨timer, rest⟩, hpick, rfl⟩ := Option.map_eq_some_iff.mp h
      exact .inr ⟨i, mcpEnabled, timer, rest, rfl, hpick, Arbitration.after_advance ..⟩

/-- What every operation keeps, and what does not depend on the timers in flight, holds
in every state that is reached. -/
theorem reachable_invariant {uuid : Nat → String} {P : Arbitration → Prop} (hinit : P {})
    (htimers : ∀ s timers, P s → (∀ t ∈ timers, t ∈ s.timers) → P { s with timers := timers })
    (hadvance : ∀ now op s s', P s → Advance uuid now op s s' → P s') {s : Arbitration}
    (h : Reachable uuid s) : P s := by
  refine Reach.invariant hinit (fun s e s' hs _ hstep => ?_) h
  obtain ⟨now, op, -, -, hadv⟩ | ⟨i, mcpEnabled, timer, rest, -, hpick, hadv⟩ :=
    step_cases uuid hstep
  · exact hadvance now op s s' hs hadv
  · exact hadvance _ _ _ s' (htimers s rest hs (mem_of_pick hpick).2) hadv

end

/-! ## The pending request and its owner -/

def stamp (k : Nat) : UInt64 := UInt64.ofNat (1 + k)

/-- A request waits only against an owner of the other role; the counter moves on past
every request it has stamped. -/
structure Sound (s : Arbitration) : Prop where
  counter : s.lease.generation = stamp s.increments
  opposed : ∀ p ∈ s.lease.pending, ∃ r, s.lease.owner = some r ∧ r ≠ p.requester
  policy : ∀ p ∈ s.lease.pending, p.policy = .grantRequester ↔ p.requester = .agent
  recorded : ∀ p ∈ s.lease.pending, p ∈ s.requests
  stamped : ∃ ks : List Nat, ks.Pairwise (· < ·) ∧ (∀ k ∈ ks, k < s.increments) ∧
    s.requests.map PendingRequest.generation = ks.map stamp

theorem stamp_succ (k : Nat) : stamp (k + 1) = stamp k + 1 := by
  unfold stamp
  rw [← Nat.add_assoc, UInt64.ofNat_add]
  rfl

theorem conflictOf_policy {owner role : SessionRole} (h : owner ≠ role) :
    (conflictOf (some owner) role).1 = .grantRequester ↔ role = .agent := by
  cases owner <;> cases role <;> simp_all [conflictOf]

theorem Sound.advance {uuid : Nat → String} {now : Nat} {op : LeaseOp} {s s' : Arbitration}
    (hs : Sound s) (h : Advance uuid now op s s') : Sound s' := by
  obtain ⟨ks, hks, hlt, hgen⟩ := hs.stamped
  cases h with
  | kept => exact hs
  | @opened role owner _ hop howner hother _ hfree p hp =>
      refine ⟨?_, ?_, ?_, ?_, ks ++ [s.increments], ?_, ?_, ?_⟩
      · rw [stamp_succ, ← hs.counter]
      · rintro _ ⟨⟩
        exact ⟨owner, howner, by rw [hp]; exact hother⟩
      · rintro _ ⟨⟩
        rw [hp, howner]
        exact conflictOf_policy hother
      · rintro _ ⟨⟩
        simp
      · simpa [List.pairwise_append] using ⟨hks, hlt⟩
      · intro k hk
        rcases List.mem_append.mp hk with hk | hk
        · exact Nat.lt_succ_of_lt (hlt k hk)
        · rw [List.mem_singleton.mp hk]
          exact Nat.lt_succ_self _
      · have hstamp : p.generation = stamp s.increments := by
          rw [hp, ← hs.counter]
          rfl
        simp [hgen, hstamp]
  | closed _ _ =>
      refine ⟨?_, by simp, by simp, by simp, ks, hks, ?_, hgen⟩
      · rw [stamp_succ, ← hs.counter]
      · exact fun k hk => Nat.lt_succ_of_lt (hlt k hk)
  | assigned _ _ => exact ⟨hs.counter, by simp, by simp, by simp, ks, hks, hlt, hgen⟩

theorem sound_of_reachable {uuid : Nat → String} {s : Arbitration} (h : Reachable uuid s) :
    Sound s := by
  refine reachable_invariant ?_ (fun s _ hs _ => ?_) (fun _ _ _ _ hs hadv => hs.advance hadv) h
  · exact ⟨rfl, by simp, by simp, by simp, [], by simp⟩
  · exact ⟨hs.counter, hs.opposed, hs.policy, hs.recorded, hs.stamped⟩

theorem stamp_toNat {k : Nat} (h : k < 2 ^ 64 - 1) : (stamp k).toNat = 1 + k := by
  unfold stamp
  rw [UInt64.toNat_ofNat']
  exact Nat.mod_eq_of_lt (by omega)

theorem Sound.generation_lt {s : Arbitration} (hs : Sound s) (hfew : s.increments < 2 ^ 64 - 1)
    {p : PendingRequest} (hp : s.lease.pending = some p) : p.generation < s.lease.generation := by
  obtain ⟨ks, -, hlt, hgen⟩ := hs.stamped
  have hmem : p.generation ∈ ks.map stamp := by
    rw [← hgen]
    exact List.mem_map_of_mem (hs.recorded p hp)
  obtain ⟨k, hk, hpk⟩ := List.mem_map.mp hmem
  have hkinc := hlt k hk
  rw [UInt64.lt_iff_toNat_lt, ← hpk, hs.counter, stamp_toNat (by omega), stamp_toNat hfew]
  omega

theorem Sound.generations_nodup {s : Arbitration} (hs : Sound s)
    (hfew : s.increments < 2 ^ 64) : (s.requests.map PendingRequest.generation).Nodup := by
  obtain ⟨ks, hks, hlt, hgen⟩ := hs.stamped
  rw [hgen]
  refine List.Nodup.map_on (fun j hj k hk hjk => ?_) (hks.imp Nat.ne_of_lt)
  have hj' := hlt j hj
  have hk' := hlt k hk
  have heq := congrArg UInt64.toNat hjk
  rw [stamp_toNat (by omega), stamp_toNat (by omega)] at heq
  omega

/-- In every state that a run reaches: the pending request is not the owner's, agents'
requests and no others are granted by silence, and the request is older than the
counter until the counter wraps.  No generation is used twice. -/
theorem pending_opposed_and_stamped (uuid : Nat → String) {s : Arbitration}
    (h : Reachable uuid s) :
    (∀ p, s.lease.pending = some p →
      (∃ r, s.lease.owner = some r ∧ r ≠ p.requester) ∧
      (p.policy = .grantRequester ↔ p.requester = .agent) ∧
      (s.increments < 2 ^ 64 - 1 → p.generation < s.lease.generation)) ∧
    (s.increments < 2 ^ 64 → (s.requests.map PendingRequest.generation).Nodup) := by
  have hs := sound_of_reachable h
  refine ⟨fun p hp => ⟨hs.opposed p hp, hs.policy p hp, fun hfew => ?_⟩, hs.generations_nodup⟩
  exact hs.generation_lt hfew hp

/-- Version 4 ids, as the source writes them. -/
def sampleUuid (n : Nat) : String :=
  "5d1f9a3e-7c42-4b8a-9f06-" ++ Nat.repr (100000000000 + n)

theorem sampleUuid_injective : Function.Injective sampleUuid := by
  intro m n h
  have hrepr := Nat.repr_injective (String.append_right_inj _ |>.mp h)
  omega

def agentAsks : List Event :=
  [.call 0 .takeOverControl, .call 500 (.requestControl .agent ⟨true, true⟩)]

theorem reachable_of_exec {uuid : Nat → String} (events : List Event) {s : Arbitration}
    (h : exec (step uuid) (fun _ _ => true) {} events = some s) : Reachable uuid s :=
  reach_of_exec (fun _ _ _ => trivial) h

theorem pending_opposed_and_stamped_agentAsks :
    ∃ s p, Reachable sampleUuid s ∧ s.lease.pending = some p ∧ p.requester = .agent ∧
      s.lease.owner = some .user ∧ p.policy = .grantRequester ∧
      p.generation < s.lease.generation := by
  let p : PendingRequest := ⟨sampleUuid 0, .agent, .grantRequester, 1, 120500, "humanHasControl"⟩
  let s : Arbitration := ⟨⟨some .user, some p, 2⟩, [⟨1, sampleUuid 0⟩], 1, [p], []⟩
  have hs : Reachable sampleUuid s := by
    refine reachable_of_exec agentAsks ?_
    decide +kernel
  obtain ⟨-, hpolicy, hgen⟩ := (pending_opposed_and_stamped sampleUuid hs).1 p rfl
  exact ⟨s, p, hs, rfl, rfl, rfl, hpolicy.mpr rfl, hgen (by decide)⟩

/-! ## The counter wraps -/

theorem agent_asks (uuid : Nat → String) {s : Arbitration} (howner : s.lease.owner = some .user)
    (hfree : s.lease.pending = none) :
    ∃ s' p, step uuid s (.call 0 (.requestControl .agent ⟨true, true⟩)) = some s' ∧
      s'.lease.owner = some .user ∧ s'.lease.pending = some p ∧
      s'.increments = s.increments + 1 := by
  refine ⟨_, makePending .agent .grantRequester "humanHasControl" (uuid s.requests.length) 0
    s.lease, rfl, ?_⟩
  simp [Arbitration.after, LeaseOp.run, requestControl, conflictOf, Online.ownerOnline, Online.of,
    howner, hfree]

theorem user_denies (uuid : Nat → String) {s : Arbitration} {p : PendingRequest}
    (hp : s.lease.pending = some p) :
    ∃ s', step uuid s (.call 0 (.resolvePending .user none false)) = some s' ∧
      s'.lease.owner = s.lease.owner ∧ s'.lease.pending = none ∧
      s'.increments = s.increments + 1 := by
  refine ⟨_, rfl, ?_⟩
  simp [Arbitration.after, LeaseOp.run, resolvePending, settle, clearPendingLocked, hp]

theorem reachable_of_denials (uuid : Nat → String) (n : Nat) :
    ∃ s, Reachable uuid s ∧ s.lease.owner = some .user ∧ s.lease.pending = none ∧
      s.increments = 2 * n := by
  induction n with
  | zero =>
      have htake : step uuid {} (.call 0 .takeOverControl) =
          some { lease := { owner := some .user } } := by
        simp [step, LeaseOp.isTimeout, Arbitration.after, LeaseOp.run, takeOverControl, settle,
          clearPendingLocked]
      exact ⟨_, .tail .refl trivial htake, rfl, rfl, rfl⟩
  | succ n ih =>
      obtain ⟨s, hs, howner, hfree, hcount⟩ := ih
      obtain ⟨s₁, p, hask, howner₁, hp, hcount₁⟩ := agent_asks uuid howner hfree
      obtain ⟨s₂, hdeny, howner₂, hfree₂, hcount₂⟩ := user_denies uuid hp
      refine ⟨s₂, (hs.tail trivial hask).tail trivial hdeny, ?_, hfree₂, by omega⟩
      rw [howner₂, howner₁]

/-- The counter starts at one: the last of `2 ^ 64 - 1` increments takes it to zero, below
the request that it stamps. -/
theorem generation_not_lt_of_wrap :
    ¬ ∀ (uuid : Nat → String) (s : Arbitration), Reachable uuid s → s.increments < 2 ^ 64 →
      (∀ p, s.lease.pending = some p →
        (∃ r, s.lease.owner = some r ∧ r ≠ p.requester) ∧
        (p.policy = .grantRequester ↔ p.requester = .agent) ∧
        p.generation < s.lease.generation) ∧
      (s.requests.map PendingRequest.generation).Nodup := by
  intro hclaim
  obtain ⟨s, hs, howner, hfree, hcount⟩ := reachable_of_denials sampleUuid (2 ^ 63 - 1)
  obtain ⟨s', p, hask, -, hp, hcount'⟩ := agent_asks sampleUuid howner hfree
  have hs' : Reachable sampleUuid s' := hs.tail trivial hask
  obtain ⟨-, -, hlt⟩ := (hclaim sampleUuid s' hs' (by omega)).1 p hp
  have hzero : s'.lease.generation = 0 := by
    rw [(sound_of_reachable hs').counter, hcount', hcount]
    rfl
  rw [hzero, UInt64.lt_iff_toNat_lt] at hlt
  exact Nat.not_lt_zero _ hlt

end ArkKvm.ControlLease
