import ArkKvm.Lease.Arbitration

/-!
# How an arbitration ends

Request ids are version 4 ids, which are drawn afresh: the runs here assume that no
two draws of `uuid` agree.  Under that assumption a request that has been taken out
of the lease never returns to it, and what still names it (its own timer, a late
grant or a late denial) finds another request or none.  The last section says by
which steps control can pass from one role to the other.
-/

namespace ArkKvm.ControlLease

open Lib Lib.Run Lib.Pool

/-- The timer that is spawned with a request. -/
def PendingRequest.timer (q : PendingRequest) : Timer := ⟨q.generation, q.requestId⟩

/-- The request id that an operation asks for. -/
def LeaseOp.named : LeaseOp → Option String
  | .resolvePending _ requestId _ => requestId
  | .timeout timer _ => some timer.requestId
  | _ => none

theorem Settles.pending_of_named {s : Lease} {op : LeaseOp} {owner : Option SessionRole}
    {id : String} (h : Settles s op owner) (hid : op.named = some id) :
    ∃ p, s.pending = some p ∧ p.requestId = id := by
  cases h with
  | granted hp hids hother => exact ⟨_, hp, (hids id hid).symm⟩
  | denied hp hids => exact ⟨_, hp, (hids id hid).symm⟩
  | timeoutGranted hp hpolicy hmcp => exact ⟨_, hp, Option.some.inj hid⟩
  | timeoutDenied hp => exact ⟨_, hp, Option.some.inj hid⟩
  | _ => cases hid

theorem Advance.lease_of_named {uuid : Nat → String} {now : Nat} {op : LeaseOp}
    {s s' : Arbitration} {id : String} (h : Advance uuid now op s s') (hid : op.named = some id)
    (hother : ∀ p ∈ s.lease.pending, p.requestId ≠ id) : s'.lease = s.lease := by
  cases h with
  | kept => rfl
  | opened hop => rw [hop] at hid; cases hid
  | closed hsettles _ | assigned hsettles _ =>
      obtain ⟨p, hp, hpid⟩ := hsettles.pending_of_named hid
      exact absurd hpid (hother p hp)

/-! ## Request ids -/

structure Identified (uuid : Nat → String) (s : Arbitration) : Prop where
  ids : s.requests.map PendingRequest.requestId = (List.range s.requests.length).map uuid
  timers : ∀ t ∈ s.timers, ∃ q ∈ s.requests, t = q.timer
  pending : ∀ p ∈ s.lease.pending, p ∈ s.requests ∧ p ∉ s.removed
  removed : ∀ q ∈ s.removed, q ∈ s.requests

section

variable {uuid : Nat → String} {s s' : Arbitration} {p q : PendingRequest}

theorem Identified.requestId_ne (hs : Identified uuid s) (hfresh : Function.Injective uuid)
    (hq : q ∈ s.requests) : q.requestId ≠ uuid s.requests.length := by
  intro heq
  have hmem : q.requestId ∈ (List.range s.requests.length).map uuid := by
    rw [← hs.ids]
    exact List.mem_map_of_mem hq
  obtain ⟨i, hi, hqi⟩ := List.mem_map.mp hmem
  have hlt := List.mem_range.mp hi
  have hlen := hfresh (hqi.trans heq)
  omega

theorem Identified.eq_of_requestId (hs : Identified uuid s) (hfresh : Function.Injective uuid)
    (hp : p ∈ s.requests) (hq : q ∈ s.requests) (h : p.requestId = q.requestId) : p = q := by
  have hnodup : (s.requests.map PendingRequest.requestId).Nodup := by
    rw [hs.ids]
    exact List.nodup_range.map hfresh
  exact List.inj_on_of_nodup_map hnodup hp hq h

theorem Identified.advance {now : Nat} {op : LeaseOp} (hs : Identified uuid s)
    (hfresh : Function.Injective uuid) (h : Advance uuid now op s s') : Identified uuid s' := by
  cases h with
  | kept => exact hs
  | @opened role owner _ _ _ _ _ _ p hp =>
      have hid : p.requestId = uuid s.requests.length := by rw [hp]; rfl
      have hnew : p ∉ s.requests := fun hmem => hs.requestId_ne hfresh hmem hid
      refine ⟨?_, ?_, ?_, ?_⟩
      · simp [List.range_succ, hs.ids, hid]
      · intro t ht
        rcases List.mem_append.mp ht with ht | ht
        · obtain ⟨q, hq, htq⟩ := hs.timers t ht
          exact ⟨q, List.mem_append_left _ hq, htq⟩
        · exact ⟨p, by simp, List.mem_singleton.mp ht⟩
      · rintro _ ⟨⟩
        exact ⟨by simp, fun hmem => hnew (hs.removed p hmem)⟩
      · exact fun q hq => List.mem_append_left _ (hs.removed q hq)
  | @closed owner p _ hp =>
      refine ⟨hs.ids, hs.timers, by simp, fun q hq => ?_⟩
      rcases List.mem_append.mp hq with hq | hq
      · exact hs.removed q hq
      · rw [List.mem_singleton.mp hq]
        exact (hs.pending p hp).1
  | assigned _ _ => exact ⟨hs.ids, hs.timers, by simp, hs.removed⟩

theorem identified_of_reachable (hfresh : Function.Injective uuid) (h : Reachable uuid s) :
    Identified uuid s := by
  refine reachable_invariant ?_ (fun s timers hs hsub => ?_)
    (fun _ _ _ _ hs hadv => hs.advance hfresh hadv) h
  · exact ⟨rfl, by simp, by simp, by simp⟩
  · exact ⟨hs.ids, fun t ht => hs.timers t (hsub t ht), hs.pending, hs.removed⟩

/-! ## After the request is gone -/

theorem Advance.mem_removed {now : Nat} {op : LeaseOp} (h : Advance uuid now op s s')
    (hq : q ∈ s.removed) : q ∈ s'.removed := by
  cases h with
  | kept | opened _ _ _ _ _ _ | assigned _ _ => exact hq
  | closed _ _ => exact List.mem_append_left _ hq

theorem step_mem_removed {e : Event} (h : step uuid s e = some s') (hq : q ∈ s.removed) :
    q ∈ s'.removed := by
  obtain ⟨now, op, -, -, hadv⟩ | ⟨i, mcpEnabled, timer, rest, -, -, hadv⟩ := step_cases uuid h
  · exact hadv.mem_removed hq
  · exact hadv.mem_removed hq

theorem Advance.removed_of_pending {now : Nat} {op : LeaseOp} (h : Advance uuid now op s s')
    (hq : s.lease.pending = some q) (hgone : s'.lease.pending ≠ some q) : q ∈ s'.removed := by
  cases h with
  | kept => exact absurd hq hgone
  | opened _ _ _ _ hfree _ | assigned _ hfree =>
      rw [hfree] at hq
      cases hq
  | @closed _ p _ hp =>
      obtain rfl : p = q := Option.some.inj (hp.symm.trans hq)
      simp

theorem step_removed_of_pending {e : Event} (h : step uuid s e = some s')
    (hq : s.lease.pending = some q) (hgone : s'.lease.pending ≠ some q) : q ∈ s'.removed := by
  obtain ⟨now, op, -, -, hadv⟩ | ⟨i, mcpEnabled, timer, rest, -, -, hadv⟩ := step_cases uuid h
  · exact hadv.removed_of_pending hq hgone
  · exact hadv.removed_of_pending hq hgone

theorem Identified.pending_requestId_ne (hs : Identified uuid s) (hfresh : Function.Injective uuid)
    (hq : q ∈ s.removed) (hp : s.lease.pending = some p) : p.requestId ≠ q.requestId := by
  intro heq
  obtain ⟨hmem, hpending⟩ := hs.pending p hp
  exact hpending (hs.eq_of_requestId hfresh hmem (hs.removed q hq) heq ▸ hq)

/-- A step that names the request `q`: a grant or a denial with its id, or its timer. -/
inductive Names (q : PendingRequest) (s : Arbitration) : Event → Prop
  | resolve (now : Nat) (responder : SessionRole) (grant : Bool) :
      Names q s (.call now (.resolvePending responder (some q.requestId) grant))
  | fire {i : Nat} (mcpEnabled : Bool) (h : s.timers[i]? = some q.timer) :
      Names q s (.fire i mcpEnabled)

theorem step_lease_of_names {e : Event} (h : step uuid s e = some s') (hnames : Names q s e)
    (hother : ∀ p ∈ s.lease.pending, p.requestId ≠ q.requestId) : s'.lease = s.lease := by
  obtain ⟨now, op, rfl, -, hadv⟩ | ⟨i, mcpEnabled, timer, rest, rfl, hpick, hadv⟩ :=
    step_cases uuid h
  · cases hnames with
    | resolve now responder grant => exact hadv.lease_of_named rfl hother
  · cases hnames with
    | fire _ hget =>
        obtain rfl := Option.some.inj ((getElem?_of_pick hpick).symm.trans hget)
        exact hadv.lease_of_named (s := { s with timers := rest }) rfl hother

end

/-- A timer acts only on the request that it was spawned with, and only while that one
is pending.  A request that a step has taken out of the lease is never pending again,
and no later step that names it changes the lease. -/
theorem request_resolved_once (uuid : Nat → String) (hfresh : Function.Injective uuid)
    {s : Arbitration} (h : Reachable uuid s) :
    (∀ t ∈ s.timers, ∃ q ∈ s.requests, t = q.timer) ∧
    (∀ q ∈ s.requests, ∀ i mcpEnabled s', s.timers[i]? = some q.timer →
      step uuid s (.fire i mcpEnabled) = some s' →
      (s'.lease.owner, s'.lease.pending) ≠ (s.lease.owner, s.lease.pending) →
      s.lease.pending = some q) ∧
    (∀ q e s₁, s.lease.pending = some q → step uuid s e = some s₁ →
      s₁.lease.pending ≠ some q →
      ∀ s₂, Reach (step uuid) anyStep s₁ s₂ →
        (∀ p, s₂.lease.pending = some p → p ≠ q ∧ p.requestId ≠ q.requestId) ∧
        ∀ e' s₃, step uuid s₂ e' = some s₃ → Names q s₂ e' → s₃.lease = s₂.lease) := by
  have hs := identified_of_reachable hfresh h
  refine ⟨hs.timers, fun q hq i mcpEnabled s' hget hstep hchanged => ?_,
    fun q e s₁ hq hstep hgone s₂ hreach => ?_⟩
  · by_contra hpending
    refine hchanged ?_
    rw [step_lease_of_names hstep (.fire mcpEnabled hget) fun p hp heq => hpending ?_]
    rw [← hs.eq_of_requestId hfresh (hs.pending p hp).1 hq heq]
    exact hp
  · have hs₂ : Identified uuid s₂ :=
      identified_of_reachable hfresh ((h.tail trivial hstep).trans hreach)
    have hremoved : q ∈ s₂.removed :=
      Reach.invariant (P := fun t => q ∈ t.removed) (step_removed_of_pending hstep hq hgone)
        (fun _ _ _ hmem _ hnext => step_mem_removed hnext hmem) hreach
    have hne : ∀ p, s₂.lease.pending = some p → p.requestId ≠ q.requestId :=
      fun p hp => hs₂.pending_requestId_ne hfresh hremoved hp
    exact ⟨fun p hp => ⟨fun heq => hne p hp (heq ▸ rfl), hne p hp⟩,
      fun e' s₃ hnext hnames => step_lease_of_names hnext hnames hne⟩

/-- The agent has asked twice and its first request was denied: that timer is late. -/
theorem request_resolved_once_asked_again :
    ∃ s s' q, Reachable sampleUuid s ∧ s.lease.pending = some q ∧
      s.timers[0]? ≠ some q.timer ∧ step sampleUuid s (.fire 0 true) = some s' ∧
      (s'.lease.owner, s'.lease.pending) = (s.lease.owner, s.lease.pending) := by
  let p (n : Nat) (generation : UInt64) : PendingRequest :=
    ⟨sampleUuid n, .agent, .grantRequester, generation, 120500, "humanHasControl"⟩
  let s : Arbitration :=
    ⟨⟨some .user, some (p 1 3), 4⟩, [(p 0 1).timer, (p 1 3).timer], 3, [p 0 1, p 1 3], [p 0 1]⟩
  have hs : Reachable sampleUuid s := by
    refine reachable_of_exec (agentAsks ++ [.call 600 (.resolvePending .user none false),
      .call 500 (.requestControl .agent ⟨true, true⟩)]) ?_
    decide +kernel
  have hfire : step sampleUuid s (.fire 0 true) = some { s with timers := [(p 1 3).timer] } := by
    decide +kernel
  refine ⟨s, _, p 1 3, hs, rfl, by decide +kernel, hfire, ?_⟩
  by_contra hchanged
  have hpending := (request_resolved_once sampleUuid sampleUuid_injective hs).2.1 (p 0 1)
    (by decide +kernel) 0 true _ rfl hfire hchanged
  exact absurd hpending (by decide +kernel)

/-! ## How control passes -/

/-- The steps that take control from role `X` to role `Y`. -/
inductive Transfer (s : Arbitration) (X Y : SessionRole) : Event → Prop
  | granted (now : Nat) (requestId : Option String) :
      Transfer s X Y (.call now (.resolvePending X requestId true))
  | timeout {i : Nat} {q : PendingRequest} (hq : s.lease.pending = some q)
      (htimer : s.timers[i]? = some q.timer) (hpolicy : q.policy = .grantRequester)
      (hrequester : q.requester = Y) (hagent : Y = .agent) : Transfer s X Y (.fire i true)
  | released (now : Nat) (online : Online) :
      Transfer s X Y (.call now (.releaseControl X online))
  | requested (now : Nat) {online : Online} (hoff : online.of X = false) :
      Transfer s X Y (.call now (.requestControl Y online))
  | claimed (now : Nat) (previousUser : Bool) {online : Online} (hoff : online.of X = false) :
      Transfer s X Y (.call now (.roleClaimed Y previousUser online))
  | removed (now : Nat) {online : Online} (hoff : online.of X = false) :
      Transfer s X Y (.call now (.sessionRemoved X online))
  | takenOver (now : Nat) (huser : Y = .user) : Transfer s X Y (.call now .takeOverControl)
  | userTakeover (now : Nat) (online : Online) (huser : Y = .user) :
      Transfer s X Y (.call now (.roleClaimed .user true online))

theorem role_eq_of_ne_of_ne {x y z : SessionRole} (hxy : x ≠ y) (hzy : z ≠ y) : x = z := by
  cases x <;> cases y <;> cases z <;> simp_all

section

variable {s s' : Arbitration} {X Y : SessionRole} {op : LeaseOp}

theorem Settles.transfer (now : Nat) (h : Settles s.lease op (some Y))
    (hX : s.lease.owner = some X) (hne : Y ≠ X) (hop : op.isTimeout = false) :
    Transfer s X Y (.call now op) := by
  generalize howner : some Y = owner at h
  cases h with
  | userTakeover online =>
      exact .userTakeover now online (Option.some.inj howner)
  | userClaimed online hoff =>
      obtain rfl : Y = .user := Option.some.inj howner
      obtain rfl : X = .agent := by cases X <;> simp_all
      exact .claimed now false (by simpa [hX, Online.of] using hoff)
  | agentClaimed previousUser online hoff =>
      obtain rfl : Y = .agent := Option.some.inj howner
      rw [hX] at hoff
      exact .claimed now previousUser hoff
  | requesterGone hp hreq hoff =>
      rw [hX] at howner
      exact absurd (Option.some.inj howner) hne
  | ownerGone hrole hoff =>
      obtain rfl := Option.some.inj (hrole.symm.trans hX)
      exact .removed now hoff
  | vacant hother hoff =>
      obtain rfl := Option.some.inj howner
      rw [hX] at hoff
      exact .requested now hoff
  | granted hp hids hother =>
      obtain rfl := Option.some.inj howner
      obtain rfl := role_eq_of_ne_of_ne hother.symm hne.symm
      exact .granted now _
  | denied hp hids =>
      rw [hX] at howner
      exact absurd (Option.some.inj howner) hne
  | takenOver => exact .takenOver now (Option.some.inj howner)
  | released hrole =>
      obtain rfl := Option.some.inj (hrole.symm.trans hX)
      exact .released now _
  | timeoutGranted hp hpolicy hmcp => cases hop
  | timeoutDenied hp => cases hop

theorem Settles.transfer_of_timeout (hs : Sound s) {i : Nat} {timer : Timer} {mcpEnabled : Bool}
    (htimer : s.timers[i]? = some timer)
    (h : Settles s.lease (.timeout timer mcpEnabled) (some Y))
    (hX : s.lease.owner = some X) (hne : Y ≠ X) : Transfer s X Y (.fire i mcpEnabled) := by
  generalize howner : some Y = owner at h
  cases h with
  | @timeoutGranted p _ hp hpolicy hmcp =>
      obtain rfl := Option.some.inj howner
      have hagent := (hs.policy p hp).mp hpolicy
      rw [hmcp hagent]
      exact .timeout hp htimer hpolicy rfl hagent
  | timeoutDenied hp =>
      rw [hX] at howner
      exact absurd (Option.some.inj howner) hne

theorem Advance.settles_of_owner_ne {uuid : Nat → String} {now : Nat}
    (h : Advance uuid now op s s') (hX : s.lease.owner = some X) (hY : s'.lease.owner = some Y)
    (hne : Y ≠ X) : Settles s.lease op (some Y) := by
  cases h with
  | kept | opened _ _ _ _ _ _ =>
      exact absurd (Option.some.inj (hY.symm.trans hX)) hne
  | closed hsettles _ | assigned hsettles _ =>
      rw [← hY]
      exact hsettles

theorem step_transfer {uuid : Nat → String} {e : Event} (hs : Sound s)
    (h : step uuid s e = some s') (hX : s.lease.owner = some X) (hY : s'.lease.owner = some Y)
    (hne : Y ≠ X) : Transfer s X Y e := by
  obtain ⟨now, op, rfl, hop, hadv⟩ | ⟨i, mcpEnabled, timer, rest, rfl, hpick, hadv⟩ :=
    step_cases uuid h
  · exact (hadv.settles_of_owner_ne hX hY hne).transfer now hX hne hop
  · exact (hadv.settles_of_owner_ne (s := { s with timers := rest }) hX hY hne).transfer_of_timeout
      hs (getElem?_of_pick hpick) hX hne

/-- The calls of role `Y` alone while it finds `X` online: it asks for control and it
answers requests. -/
inductive IssuedBy (X Y : SessionRole) : Event → Prop
  | request (now : Nat) {online : Online} (hon : online.of X = true) :
      IssuedBy X Y (.call now (.requestControl Y online))
  | resolve (now : Nat) (requestId : Option String) (grant : Bool) :
      IssuedBy X Y (.call now (.resolvePending Y requestId grant))

/-- The requester of the pending request is of role `Y`, and it cannot grant it. -/
theorem IssuedBy.settles_owner (hs : Sound s) {now : Nat} {owner : Option SessionRole}
    (h : IssuedBy X Y (.call now op)) (hne : Y ≠ X) (hX : s.lease.owner = some X)
    (hsettles : Settles s.lease op owner) : owner = some X := by
  cases h with
  | request _ hon =>
      cases hsettles with
      | vacant hother hoff =>
          rw [hX] at hoff
          exact absurd (hoff.symm.trans hon) Bool.false_ne_true
  | resolve _ requestId grant =>
      cases hsettles with
      | @granted _ _ p hp hids hother =>
          obtain ⟨r, hr, hrp⟩ := hs.opposed p hp
          obtain rfl := Option.some.inj (hr.symm.trans hX)
          exact absurd (role_eq_of_ne_of_ne hother.symm hrp) hne
      | denied hp hids => exact hX

theorem IssuedBy.owner_kept {uuid : Nat → String} {e : Event} (hs : Sound s)
    (h : IssuedBy X Y e) (hne : Y ≠ X) (hstep : step uuid s e = some s')
    (hX : s.lease.owner = some X) : s'.lease.owner = some X := by
  obtain ⟨now, op, rfl, -, hadv⟩ | ⟨i, mcpEnabled, timer, rest, rfl, -, -⟩ := step_cases uuid hstep
  · cases hadv with
    | kept | opened _ _ _ _ _ _ => exact hX
    | closed hsettles _ | assigned hsettles _ => exact h.settles_owner hs hne hX hsettles
  · cases h

end

/-- Control passes from one role to another only by one of the `Transfer` steps; and
however a role asks for it and answers requests, it gets nothing from an owner that it
finds online. -/
theorem no_self_grant (uuid : Nat → String) {s : Arbitration} (h : Reachable uuid s) :
    (∀ e s' X Y, step uuid s e = some s' → s.lease.owner = some X → s'.lease.owner = some Y →
      Y ≠ X → Transfer s X Y e) ∧
    (∀ X Y s', s.lease.owner = some X → Y ≠ X →
      Reach (step uuid) (fun _ e => IssuedBy X Y e) s s' → s'.lease.owner = some X) := by
  have hs := sound_of_reachable h
  refine ⟨fun e s' X Y hstep hX hY hne => step_transfer hs hstep hX hY hne,
    fun X Y s' hX hne hreach => ?_⟩
  -- the states in between are reached by the run as well, so their requests are sound
  have hboth : Reachable uuid s' ∧ s'.lease.owner = some X := by
    refine Reach.invariant (P := fun t => Reachable uuid t ∧ t.lease.owner = some X) ⟨h, hX⟩ ?_
      hreach
    intro t e t' ⟨ht, htX⟩ hissued hstep
    exact ⟨ht.tail trivial hstep, hissued.owner_kept (sound_of_reachable ht) hne hstep htX⟩
  exact hboth.2

theorem no_self_grant_agentAsks :
    ∃ s s', Reachable sampleUuid s ∧ s.lease.owner = some .user ∧
      step sampleUuid s (.call 700 (.resolvePending .user none true)) = some s' ∧
      s'.lease.owner = some .agent ∧
      Transfer s .user .agent (.call 700 (.resolvePending .user none true)) := by
  let p : PendingRequest := ⟨sampleUuid 0, .agent, .grantRequester, 1, 120500, "humanHasControl"⟩
  let s : Arbitration := ⟨⟨some .user, some p, 2⟩, [p.timer], 1, [p], []⟩
  have hs : Reachable sampleUuid s := by
    refine reachable_of_exec agentAsks ?_
    decide +kernel
  have hgrant : step sampleUuid s (.call 700 (.resolvePending .user none true)) =
      some ⟨⟨some .agent, none, 3⟩, [p.timer], 2, [p], [p]⟩ := by
    decide +kernel
  exact ⟨s, _, hs, rfl, hgrant, rfl,
    (no_self_grant sampleUuid hs).1 _ _ .user .agent hgrant rfl rfl (by decide)⟩

end ArkKvm.ControlLease
