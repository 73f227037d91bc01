import ArkKvm.Lib.Run
import ArkKvm.Remote.DiskBridge

/-!
# The flag of the disk bridge

`WebRtcBridge::read` section by section, for any number of calls at once: the sender is looked
up, the flag is set under the lock, the request is serialised and sent, the result is allocated,
and the call waits for its bytes.  What the sender, the serialisation and the wait answer is up to
the run.
-/

namespace ArkKvm.RemoteMount.Flag

open Lib

inductive Phase
  /-- it has found a sender and is about to take the lock -/
  | entering
  /-- it has set the flag -/
  | sending
  | waiting
deriving DecidableEq

structure Call where
  offset : Nat
  size : Nat
  phase : Phase
deriving DecidableEq

/-- The transport, the calls that are executing and what the others have returned. -/
structure State where
  sender : Bool
  inFlight : Bool
  buf : List UInt8
  calls : List Call
  answers : List (Except String (List UInt8))
deriving DecidableEq

inductive Event
  | setSender
  | clearSender
  | onMessage (payload : List UInt8)
  /-- a call begins, with the range checks and the look for a sender -/
  | read (offset size : Int)
  /-- call `i` takes the lock and looks at the flag -/
  | enter (i : Nat)
  /-- call `i` serialises and sends its request -/
  | send (i : Nat) (serialized sent : Bool)
  /-- call `i` finds enough bytes -/
  | finish (i : Nat)
  | timeout (i : Nat)

def isizeMax : Nat := 2 ^ 31 - 1

/-- Call `i` returns, or ends in a panic. -/
def leave (s : State) (i : Nat) (answer : Except String (List UInt8)) : State :=
  { s with
    calls := s.calls.eraseIdx i
    answers := answer :: s.answers }

def goOn (s : State) (i : Nat) (c : Call) (phase : Phase) : State :=
  { s with calls := s.calls.set i { c with phase := phase } }

def sendRequest (s : State) (i : Nat) (c : Call) (serialized sent : Bool) : State :=
  if serialized = false then leave s i (.error "serialize DiskReadRequest")
  else if sent = false then leave s i (.error "send webrtc disk request")
  else if isizeMax < need c.size then leave s i (.error "capacity overflow")
  else goOn s i c .waiting

def step (s : State) : Event → Option State
  | .setSender => some { s with sender := true }
  | .clearSender => some { s with sender := false }
  | .onMessage payload => some { s with buf := s.buf ++ trimHeader payload }
  | .read offset size =>
      if offset < 0 ∨ size ≤ 0 then
        some { s with answers := .error "invalid range" :: s.answers }
      else if s.sender = false then
        some { s with answers := .error "disk channel not ready" :: s.answers }
      else
        some { s with calls := s.calls ++ [⟨offset.toNat, size.toNat, .entering⟩] }
  | .enter i =>
      match s.calls[i]? with
      | some c =>
          if c.phase ≠ .entering then none
          else if s.inFlight then
            some (leave s i (.error "concurrent disk read not supported"))
          else some (goOn { s with inFlight := true, buf := [] } i c .sending)
      | none => none
  | .send i serialized sent =>
      match s.calls[i]? with
      | some c => if c.phase ≠ .sending then none else some (sendRequest s i c serialized sent)
      | none => none
  | .finish i =>
      match s.calls[i]? with
      | some c =>
          if c.phase = .waiting ∧ need c.size ≤ s.buf.length then
            some (leave
              { s with
                inFlight := false
                buf := s.buf.drop (need c.size) }
              i (.ok (s.buf.take (need c.size))))
          else none
      | none => none
  | .timeout i =>
      match s.calls[i]? with
      | some c =>
          if c.phase ≠ .waiting then none
          else some (leave { s with inFlight := false } i
            (.error "timeout waiting for webrtc disk data"))
      | none => none

/-- A call that has set the flag gets to the wait. -/
def ReachesWait (s : State) : Event → Prop
  | .send i serialized sent => ∀ c, s.calls[i]? = some c →
      serialized = true ∧ sent = true ∧ need c.size ≤ isizeMax
  | _ => True

/-- The call that has set the flag is still executing. -/
def Owned (s : State) : Prop := s.inFlight = true → ∃ c ∈ s.calls, c.phase ≠ .entering

/-! ## One section -/

variable {s s' : State}

theorem mem_eraseIdx_of_ne {xs : List Call} {i : Nat} {c x : Call} (hget : xs[i]? = some c)
    (hx : x ∈ xs) (hne : x ≠ c) : x ∈ xs.eraseIdx i := by
  obtain ⟨j, hj⟩ := List.mem_iff_getElem?.mp hx
  refine List.mem_eraseIdx_iff_getElem?.mpr ⟨j, ?_, hj⟩
  rintro rfl
  rw [hget] at hj
  exact hne (Option.some.inj hj).symm

theorem mem_set_self {xs : List Call} {i : Nat} {c : Call} (hget : xs[i]? = some c) (x : Call) :
    x ∈ xs.set i x := by
  obtain ⟨hi, -⟩ := List.getElem?_eq_some_iff.mp hget
  exact List.mem_set hi x

theorem step_owned (s : State) (ev : Event) (s' : State) (h : Owned s) (hok : ReachesWait s ev)
    (hstep : step s ev = some s') : Owned s' := by
  cases ev with
  | setSender =>
      cases hstep
      exact h
  | clearSender =>
      cases hstep
      exact h
  | onMessage payload =>
      cases hstep
      exact h
  | read offset size =>
      dsimp only [step] at hstep
      split at hstep
      · cases hstep
        exact h
      · split at hstep
        · cases hstep
          exact h
        · cases hstep
          intro hflag
          obtain ⟨c, hc, hphase⟩ := h hflag
          exact ⟨c, List.mem_append_left _ hc, hphase⟩
  | enter i =>
      dsimp only [step] at hstep
      split at hstep
      · next c hget =>
          split at hstep
          · cases hstep
          · next hphase =>
              split at hstep
              · cases hstep
                -- the refused call did not own the flag
                intro hflag
                obtain ⟨owner, howner, hne⟩ := h hflag
                refine ⟨owner, mem_eraseIdx_of_ne hget howner ?_, hne⟩
                rintro rfl
                exact hphase hne
              · cases hstep
                exact fun _ => ⟨_, mem_set_self hget _, nofun⟩
      · cases hstep
  | send i serialized sent =>
      dsimp only [step] at hstep
      split at hstep
      · next c hget =>
          split at hstep
          · cases hstep
          · cases hstep
            obtain ⟨rfl, rfl, hsize⟩ := hok c hget
            unfold sendRequest
            rw [if_neg (by decide), if_neg (by decide), if_neg (not_lt.mpr hsize)]
            exact fun _ => ⟨_, mem_set_self hget _, nofun⟩
      · cases hstep
  | finish i =>
      dsimp only [step] at hstep
      split at hstep
      · split at hstep
        · cases hstep
          exact fun hflag => Bool.noConfusion hflag
        · cases hstep
      · cases hstep
  | timeout i =>
      dsimp only [step] at hstep
      split at hstep
      · split at hstep
        · cases hstep
        · cases hstep
          exact fun hflag => Bool.noConfusion hflag
      · cases hstep

/-! ## Whole runs -/

/-- The bridge is free when nobody reads, so a call that begins then is not refused because of
another one. -/
def Free (s : State) : Prop :=
  (s.calls = [] → s.inFlight = false) ∧
    ∀ offset size s₁ s₂, s.calls = [] → step s (.read offset size) = some s₁ →
      step s₁ (.enter 0) = some s₂ → s₂.inFlight = true ∧ s₂.answers = s.answers

theorem free_of_idle (h : s.calls = [] → s.inFlight = false) : Free s := by
  refine ⟨h, fun offset size s₁ s₂ hidle hread henter => ?_⟩
  have hflag := h hidle
  dsimp only [step] at hread
  split at hread
  · cases hread
    simp [step, hidle] at henter
  · split at hread
    · cases hread
      simp [step, hidle] at henter
    · cases hread
      simp only [step, hidle, hflag, List.nil_append, List.getElem?_cons_zero, ne_eq,
        not_true_eq_false, if_false, Bool.false_eq_true, Option.some.injEq] at henter
      subst henter
      exact ⟨rfl, rfl⟩

/-- A bridge that nobody has used. -/
def unused : State where
  sender := false
  inFlight := false
  buf := []
  calls := []
  answers := []

/-- In every run in which each call that has set the flag gets to its wait, the bridge is free
whenever no read is executing. -/
theorem bridge_never_wedged (hrun : Run.Reach step ReachesWait unused s) : Free s := by
  have howned : Owned s := hrun.invariant (fun h => absurd h (by decide)) step_owned
  apply free_of_idle
  intro hidle
  rw [← Bool.not_eq_true]
  intro hflag
  obtain ⟨c, hc, -⟩ := howned hflag
  rw [hidle] at hc
  exact absurd hc List.not_mem_nil

/-- Two reads at once, of which one is refused, and the other one times out. -/
def overlappingReads : List Event :=
  [.setSender, .read 0 512, .read 512 512, .enter 1, .enter 0, .send 0 true true, .timeout 0]

def reachesWait (s : State) : Event → Bool
  | .send i serialized sent =>
      match s.calls[i]? with
      | some c => serialized && sent && decide (need c.size ≤ isizeMax)
      | none => true
  | _ => true

theorem reachesWait_sound (s : State) (ev : Event) (h : reachesWait s ev = true) :
    ReachesWait s ev := by
  cases ev with
  | send i serialized sent =>
      intro c hget
      simp only [reachesWait, hget, Bool.and_eq_true, decide_eq_true_eq] at h
      exact ⟨h.1.1, h.1.2, h.2⟩
  | _ => trivial

theorem bridge_never_wedged_overlapping :
    ∃ s, Run.Reach step ReachesWait unused s ∧ Free s ∧ s.calls = [] := by
  have hexec : (Run.exec step reachesWait unused overlappingReads).map (·.calls) = some [] := by
    decide +kernel
  obtain ⟨s, hrun, hidle⟩ := Run.exists_reach_of_exec reachesWait_sound hexec
  exact ⟨s, hrun, bridge_never_wedged hrun, hidle⟩

def refusedSend : List Event := [.setSender, .read 0 512, .enter 0, .send 0 true false]

/-- The flag stays set, and every later read is refused. -/
theorem failed_send_wedges_bridge :
    ∃ s, Run.Reach step Run.anyStep unused s ∧ ¬ Free s := by
  have hexec : (Run.exec step (fun _ _ => true) unused refusedSend).map
      (fun s => (s.calls, s.inFlight)) = some ([], true) := by decide +kernel
  obtain ⟨s, hrun, hs⟩ := Run.exists_reach_of_exec (fun _ _ _ => trivial) hexec
  refine ⟨s, hrun, fun hfree => ?_⟩
  obtain ⟨hidle, hflag⟩ := Prod.mk.inj hs
  rw [hfree.1 hidle] at hflag
  cases hflag

end ArkKvm.RemoteMount.Flag
