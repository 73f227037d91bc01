import ArkKvm.Cloud.ReconnectGate
import ArkKvm.Lib.Pool
import ArkKvm.Lib.Run

/-!
# The cloud connection loop

One loop connects whenever the state is `Disconnected`.  Network transitions, forced
reconnects and the removal of the token run beside it, and all of them store the state.  A
step is one access to what they share; what is sent over the socket is left out, and a
connection may end at any time.
-/

namespace ArkKvm.Cloud

open Lib

inductive CloudConnectionState
  | notConfigured
  | disconnected
  | connecting
  | connected
deriving DecidableEq

inductive LoopPhase
  | head
  /-- the state was `Connecting` or `Connected` -/
  | busy
  /-- the state was `NotConfigured`: the config is next -/
  | notConfigured
  | configured
  /-- the state was `Disconnected`: the gate is next -/
  | disconnected
  | start
  /-- `connect_to_cloud` reads the token -/
  | config
  | noToken
  | connect
  | handshake
  | setConnected
  | connected
  /-- `connect_to_cloud` is at its end, with its result -/
  | ended (ok : Bool)
  | failed
deriving DecidableEq

/-- The other tasks.  A `running` transition has returned from `begin_network_transition`. -/
inductive Call
  | beginGate
  | beginState (t : Transition)
  | beginClose (t : Transition)
  | beginStore (t : Transition)
  | running (t : Transition)
  | endState
  | endStore
  | forceGate
  | forceState
  | forceClose
  | forceStore
  /-- `deregister_device` -/
  | removeToken
  | removeSave
  | removeStore
deriving DecidableEq

structure State where
  gate : GateHistory := {}
  state : CloudConnectionState := .notConfigured
  /-- `cloud_token` is there -/
  token : Bool
  /-- `cloud_url` is not empty -/
  url : Bool
  loop : LoopPhase := .head
  calls : List Call := []
  /-- the transitions whose begin has returned -/
  returned : List Transition := []
  /-- this iteration of the loop began without a token -/
  fresh : Bool := false
  /-- the full iterations of the loop without a token -/
  iterations : Nat := 0

inductive Event
  | beginNetworkTransition
  | forceReconnect
  | deregisterDevice
  /-- `reset_config` takes the token away -/
  | resetConfig
  | call (i : Nat) (ok : Bool)
  | loop (ok : Bool)

def State.next (s : State) : State :=
  { s with
    loop := .head
    iterations := if s.fresh then s.iterations + 1 else s.iterations }

/-- The next step of the loop; `ok` says that the handshake or the connection ends well. -/
def loopNext (s : State) (ok : Bool) : State :=
  match s.loop with
  | .head =>
      { s with
        fresh := !s.token
        loop := match s.state with
          | .notConfigured => .notConfigured
          | .disconnected => .disconnected
          | .connecting | .connected => .busy }
  | .busy => s.next
  | .notConfigured => if s.token && s.url then { s with loop := .configured } else s.next
  | .configured => { s with state := .disconnected }.next
  | .disconnected => if s.gate.gate.paused then s.next else { s with loop := .start }
  | .start => { s with state := .connecting, loop := .config }
  | .config => { s with loop := if s.token then .connect else .noToken }
  | .noToken => { s with state := .notConfigured, loop := .failed }
  | .connect => { s with state := .connecting, loop := .handshake }
  | .handshake => { s with loop := if ok then .setConnected else .ended false }
  | .setConnected => { s with state := .connected, loop := .connected }
  | .connected => { s with loop := .ended ok }
  | .ended true => { s with state := .disconnected }.next
  | .ended false => { s with state := .disconnected, loop := .failed }
  | .failed => { s with state := .disconnected }.next

/-- `reconnect_after_network_change` goes on only when there is a connection to close. -/
def CloudConnectionState.IsUp : CloudConnectionState → Bool
  | .connecting | .connected => true
  | .notConfigured | .disconnected => false

/-- The next step of another task that is taken out of the pool; `ok` says that the request
to the cloud or the save succeeds. -/
def callNext (s : State) (ok : Bool) : Call → State × Option Call
  | .beginGate =>
      let next := s.gate.beginTransition
      ({ s with gate := next.1 }, some (.beginState next.2))
  | .beginState t =>
      if s.state.IsUp then (s, some (.beginClose t))
      else ({ s with returned := t :: s.returned }, some (.running t))
  | .beginClose t => (s, some (.beginStore t))
  | .beginStore t =>
      ({ s with state := .disconnected, returned := t :: s.returned }, some (.running t))
  | .running t =>
      let next := s.gate.endTransition t
      ({ s with gate := next.1 }, if next.2 then some .endState else none)
  | .endState => (s, if s.state = .notConfigured then none else some .endStore)
  | .endStore => ({ s with state := .disconnected }, none)
  | .forceGate => ({ s with gate := s.gate.release }, some .forceState)
  | .forceState => (s, if s.state = .notConfigured then none else some .forceClose)
  | .forceClose => (s, some .forceStore)
  | .forceStore => ({ s with state := .disconnected }, none)
  | .removeToken => if ok then ({ s with token := false }, some .removeSave) else (s, none)
  | .removeSave => (s, if ok then some .removeStore else none)
  | .removeStore => ({ s with state := .notConfigured }, none)

def step (s : State) : Event → Option State
  | .beginNetworkTransition => some { s with calls := .beginGate :: s.calls }
  | .forceReconnect => some { s with calls := .forceGate :: s.calls }
  | .deregisterDevice =>
      if s.token && s.url then some { s with calls := .removeToken :: s.calls } else some s
  | .resetConfig => some { s with token := false }
  | .call i ok =>
      (Pool.pick i s.calls).map fun x =>
        let next := callNext { s with calls := x.2 } ok x.1
        { next.1 with calls := next.2.toList ++ next.1.calls }
  | .loop ok => some (loopNext s ok)

structure Gated (s : State) : Prop where
  exact : s.gate.Exact
  /-- after the return of a begin, until the gate that it closed opens -/
  notConnected : ∀ t ∈ s.returned, t.openings = s.gate.openings → s.state ≠ .connected
  stays : s.token = false → 0 < s.iterations → s.state = .notConfigured

/-! ## The invariant -/

def Call.transition : Call → Option Transition
  | .beginState t | .beginClose t | .beginStore t | .running t => some t
  | _ => none

def Begun (s : State) (t : Transition) : Prop :=
  t ∈ s.returned ∨ ∃ c ∈ s.calls, c.transition = some t

structure Inv (s : State) : Prop where
  exact : s.gate.Exact
  knows : ∀ t, Begun s t → s.gate.Knows t
  notConnected : ∀ t ∈ s.returned, t.openings = s.gate.openings → s.state ≠ .connected
  fresh : s.fresh = true →
    s.token = false ∧ s.state = .notConfigured ∧ (s.loop = .head ∨ s.loop = .notConfigured)
  iterations : 0 < s.iterations → s.fresh = true

theorem Inv.gated {s : State} (h : Inv s) : Gated s where
  exact := h.exact
  notConnected := h.notConnected
  stays _ hiterations := (h.fresh (h.iterations hiterations)).2.1

/-- What a step of another task needs: the counter of the gate does not wrap, and `Disconnected`
is not stored over `NotConfigured` when the token is gone. -/
def Call.Orderly (s : State) : Call → Prop
  | .beginGate | .forceGate => s.gate.gate.HasNext
  | .beginStore _ | .endStore | .forceStore => s.state = .notConfigured → s.token = true
  | _ => True

/-- What a step needs.  The loop stores `Connected` only while the gate is open, and it starts
no iteration without a token in another state than `NotConfigured`. -/
def Orderly (s : State) : Event → Prop
  | .call i _ => ∀ x ∈ Pool.pick i s.calls, x.1.Orderly s
  | .loop _ =>
      (s.loop = .setConnected → s.gate.gate.paused = false) ∧
        (s.loop = .head → s.token = false → s.state = .notConfigured)
  | _ => True

instance (s : State) : (c : Call) → Decidable (c.Orderly s)
  | .beginGate | .forceGate => inferInstanceAs (Decidable s.gate.gate.HasNext)
  | .beginStore _ | .endStore | .forceStore => inferInstanceAs (Decidable (_ → _))
  | .beginState _ | .beginClose _ | .running _ | .endState | .forceState | .forceClose
  | .removeToken | .removeSave | .removeStore => inferInstanceAs (Decidable True)

instance (s : State) : (e : Event) → Decidable (Orderly s e)
  | .call i _ => inferInstanceAs (Decidable (∀ x ∈ Pool.pick i s.calls, x.1.Orderly s))
  | .loop _ => inferInstanceAs (Decidable (_ ∧ _))
  | .beginNetworkTransition | .forceReconnect | .deregisterDevice | .resetConfig =>
      inferInstanceAs (Decidable True)

theorem Inv.others {s : State} (h : Inv s) {gate : GateHistory} {state : CloudConnectionState}
    {calls : List Call} {returned : List Transition} (hexact : gate.Exact)
    (hknows : ∀ t, s.gate.Knows t → gate.Knows t) (hopenings : s.gate.openings ≤ gate.openings)
    (hcalls : ∀ c ∈ calls, ∀ t, c.transition = some t → Begun s t ∨ gate.Knows t)
    (hreturned : ∀ t ∈ returned, t ∈ s.returned ∨ (Begun s t ∧ state ≠ .connected))
    (hstate : state = s.state ∨ state ≠ .connected)
    (hfresh : s.fresh = true → state = .notConfigured) :
    Inv { s with
      gate := gate
      state := state
      calls := calls
      returned := returned } where
  exact := hexact
  knows t := by
    rintro (hreturn | ⟨c, hc, ht⟩)
    · rcases hreturned t hreturn with hold | ⟨hbegun, -⟩
      · exact hknows t (h.knows t (.inl hold))
      · exact hknows t (h.knows t hbegun)
    · rcases hcalls c hc t ht with hbegun | hnew
      · exact hknows t (h.knows t hbegun)
      · exact hnew
  notConnected t hreturn hlast := by
    rcases hreturned t hreturn with hold | ⟨-, hstate'⟩
    · rcases hstate with rfl | hstate'
      · have hle := (h.knows t (.inl hold)).openings_le
        have hlast' : t.openings = gate.openings := hlast
        exact h.notConnected t hold (by omega)
      · exact hstate'
    · exact hstate'
  fresh hf := ⟨(h.fresh hf).1, hfresh hf, (h.fresh hf).2.2⟩
  iterations := h.iterations

theorem Inv.removed {s : State} (h : Inv s) : Inv { s with token := false } where
  exact := h.exact
  knows := h.knows
  notConnected := h.notConnected
  fresh hf := ⟨rfl, (h.fresh hf).2⟩
  iterations := h.iterations

theorem begun_of_next {s : State} {i : Nat} {c : Call} {rest : List Call}
    (hpick : Pool.pick i s.calls = some (c, rest)) {next : Option Call}
    (hnext : ∀ c' ∈ next, ∀ t, c'.transition = some t → c.transition = some t) :
    ∀ c' ∈ next.toList ++ rest, ∀ t, c'.transition = some t → Begun s t := by
  obtain ⟨hmem, hrest⟩ := Pool.mem_of_pick hpick
  intro c' hc' t ht
  rcases List.mem_append.mp hc' with hnew | hold
  · exact .inr ⟨c, hmem, hnext c' (Option.mem_toList.mp hnew) t ht⟩
  · exact .inr ⟨c', hrest c' hold, ht⟩

theorem Inv.not_fresh {s : State} (h : Inv s)
    (hlate : s.state = .notConfigured → s.token = true) :
    s.fresh = true → CloudConnectionState.disconnected = .notConfigured := by
  intro hf
  obtain ⟨htoken, hstate, -⟩ := h.fresh hf
  rw [hlate hstate] at htoken
  cases htoken

section Calls

variable {s : State} (h : Inv s) {i : Nat} {c : Call} {rest : List Call}
  (hpick : Pool.pick i s.calls = some (c, rest))

include h hpick

theorem Inv.look (next : Option Call)
    (hnext : ∀ c' ∈ next, ∀ t, c'.transition = some t → c.transition = some t) :
    Inv { s with calls := next.toList ++ rest } :=
  h.others h.exact (fun _ ht => ht) (Nat.le_refl _)
    (fun c' hc' t ht => .inl (begun_of_next hpick hnext c' hc' t ht)) (fun _ ht => .inl ht)
    (.inl rfl) fun hf => (h.fresh hf).2.1

theorem Inv.store {state : CloudConnectionState} (next : Option Call)
    (hnext : ∀ c' ∈ next, ∀ t, c'.transition = some t → c.transition = some t)
    (hstate : state ≠ .connected) (hfresh : s.fresh = true → state = .notConfigured) :
    Inv { s with
      state := state
      calls := next.toList ++ rest } :=
  h.others h.exact (fun _ ht => ht) (Nat.le_refl _)
    (fun c' hc' t ht => .inl (begun_of_next hpick hnext c' hc' t ht)) (fun _ ht => .inl ht)
    (.inr hstate) hfresh

theorem Inv.return {t : Transition} (htransition : c.transition = some t)
    {state : CloudConnectionState} (hstate : state ≠ .connected)
    (hfresh : s.fresh = true → state = .notConfigured) :
    Inv { s with
      state := state
      returned := t :: s.returned
      calls := .running t :: rest } := by
  obtain ⟨hmem, hrest⟩ := Pool.mem_of_pick hpick
  have hbegun : Begun s t := .inr ⟨c, hmem, htransition⟩
  apply h.others h.exact (fun _ ht => ht) (Nat.le_refl _) _ _ (.inr hstate) hfresh
  · intro c' hc' t' ht'
    rcases List.mem_cons.mp hc' with rfl | hold
    · cases ht'
      exact .inl hbegun
    · exact .inl (.inr ⟨c', hrest c' hold, ht'⟩)
  · intro t' ht'
    rcases List.mem_cons.mp ht' with rfl | hold
    · exact .inr ⟨hbegun, hstate⟩
    · exact .inl hold

theorem Inv.moveGate {gate : GateHistory} (next : Option Call) (hexact : gate.Exact)
    (hknows : ∀ t, s.gate.Knows t → gate.Knows t) (hopenings : s.gate.openings ≤ gate.openings)
    (hnext : ∀ c' ∈ next, ∀ t, c'.transition = some t → gate.Knows t) :
    Inv { s with
      gate := gate
      calls := next.toList ++ rest } := by
  apply h.others hexact hknows hopenings _ (fun _ ht => .inl ht) (.inl rfl)
    fun hf => (h.fresh hf).2.1
  intro c' hc' t ht
  rcases List.mem_append.mp hc' with hnew | hold
  · exact .inr (hnext c' (Option.mem_toList.mp hnew) t ht)
  · exact .inl (.inr ⟨c', (Pool.mem_of_pick hpick).2 c' hold, ht⟩)

end Calls

theorem Inv.call {s : State} (h : Inv s) {i : Nat} {c : Call} {rest : List Call}
    (hpick : Pool.pick i s.calls = some (c, rest)) (ok : Bool)
    (hok : c.Orderly s) :
    Inv (let next := callNext { s with calls := rest } ok c
      { next.1 with calls := next.2.toList ++ next.1.calls }) := by
  have hkeep : ∀ {next : Call} {t : Transition}, next.transition = some t → c.transition = some t →
      ∀ c' ∈ some next, ∀ t', c'.transition = some t' → c.transition = some t' := by
    intro next t hnext hc c' hc' t' ht'
    cases hc'
    rw [hc, ← hnext, ht']
  cases c with
  | beginGate =>
      apply h.moveGate hpick (some (.beginState s.gate.beginTransition.2)) GateHistory.exact_begin
        (fun t ht => ht.begin hok) (Nat.le_refl _)
      intro c' hc' t ht
      cases hc'
      cases ht
      exact GateHistory.knows_begin
  | beginState t =>
      simp only [callNext]
      split
      · exact h.look hpick (some (.beginClose t)) (hkeep rfl rfl)
      · next hup =>
          have hstate : s.state ≠ .connected := by
            intro heq
            rw [heq] at hup
            exact hup rfl
          exact h.return hpick rfl hstate fun hf => (h.fresh hf).2.1
  | beginClose t => exact h.look hpick (some (.beginStore t)) (hkeep rfl rfl)
  | beginStore t => exact h.return hpick rfl nofun (h.not_fresh hok)
  | running t =>
      have ht : s.gate.Knows t := h.knows t (.inr ⟨_, (Pool.mem_of_pick hpick).1, rfl⟩)
      have hle : s.gate.openings ≤ (s.gate.endTransition t).1.openings := by
        show _ ≤ if (s.gate.endTransition t).2 then s.gate.openings + 1 else s.gate.openings
        split
        · exact Nat.le_succ _
        · exact Nat.le_refl _
      apply h.moveGate hpick _ (h.exact.end ht) (fun t' ht' => ht'.end ht h.exact) hle
      intro c' hc' t' ht'
      simp only [callNext] at hc'
      split at hc'
      · cases hc'
        cases ht'
      · cases hc'
  | endState =>
      simp only [callNext]
      split
      · exact h.look hpick none nofun
      · exact h.look hpick (some .endStore) nofun
  | endStore => exact h.store hpick none nofun nofun (h.not_fresh hok)
  | forceGate =>
      exact h.moveGate hpick (some .forceState) GateHistory.exact_release
        (fun t ht => ht.release hok) GateHistory.release_openings_le nofun
  | forceState =>
      simp only [callNext]
      split
      · exact h.look hpick none nofun
      · exact h.look hpick (some .forceClose) nofun
  | forceClose => exact h.look hpick (some .forceStore) nofun
  | forceStore => exact h.store hpick none nofun nofun (h.not_fresh hok)
  | removeToken =>
      cases ok with
      | true => exact (h.look hpick (some .removeSave) nofun).removed
      | false => exact h.look hpick none nofun
  | removeSave =>
      cases ok with
      | true => exact h.look hpick (some .removeStore) nofun
      | false => exact h.look hpick none nofun
  | removeStore => exact h.store hpick none nofun nofun fun _ => rfl

/-! ## Steps of the loop -/

theorem Inv.loopMove {s : State} (h : Inv s) (hfresh : s.fresh = false) {loop : LoopPhase}
    (state : CloudConnectionState)
    (hstate : state = .connected → s.state = .connected ∨ s.gate.gate.paused = false) :
    Inv { s with
      state := state
      loop := loop } where
  exact := h.exact
  knows := h.knows
  notConnected t ht hlast hconnected := by
    rcases hstate hconnected with hold | hopen
    · exact h.notConnected t ht hlast hold
    · have hclosed := (h.knows t (.inl ht)).closed hlast
      rw [hopen] at hclosed
      cases hclosed
  fresh hf := by
    have hf' : s.fresh = true := hf
    rw [hfresh] at hf'
    cases hf'
  iterations := h.iterations

theorem Inv.loopEnd {s : State} (h : Inv s) (hfresh : s.fresh = false) {loop : LoopPhase}
    (state : CloudConnectionState)
    (hstate : state = .connected → s.state = .connected ∨ s.gate.gate.paused = false) :
    Inv (State.next { s with
      state := state
      loop := loop }) := by
  have hcount : (if s.fresh then s.iterations + 1 else s.iterations) = s.iterations := by
    rw [hfresh]
    rfl
  show Inv { s with
    state := state
    loop := .head
    iterations := if s.fresh then s.iterations + 1 else s.iterations }
  rw [hcount]
  exact h.loopMove hfresh _ hstate

theorem Inv.startIteration {s : State} (h : Inv s)
    (hhead : s.token = false → s.state = .notConfigured) :
    Inv { s with
      fresh := !s.token
      loop := match s.state with
        | .notConfigured => .notConfigured
        | .disconnected => .disconnected
        | .connecting | .connected => .busy } where
  exact := h.exact
  knows := h.knows
  notConnected := h.notConnected
  fresh hf := by
    have htoken : s.token = false := Bool.not_eq_true' _ ▸ hf
    have hstate := hhead htoken
    refine ⟨htoken, hstate, .inr ?_⟩
    dsimp only
    rw [hstate]
  iterations hiterations := by
    show (!s.token) = true
    rw [(h.fresh (h.iterations hiterations)).1]
    rfl

theorem Inv.readConfig {s : State} (h : Inv s) :
    Inv (if s.token && s.url then { s with loop := .configured } else s.next) := by
  by_cases hf : s.fresh = true
  · obtain ⟨htoken, hstate, -⟩ := h.fresh hf
    rw [htoken]
    exact {
      exact := h.exact
      knows := h.knows
      notConnected := h.notConnected
      fresh := fun _ => ⟨htoken, hstate, .inl rfl⟩
      iterations := fun _ => hf }
  · have hfresh := Bool.eq_false_iff.mpr hf
    split
    · exact h.loopMove hfresh _ .inl
    · exact h.loopEnd hfresh _ .inl

theorem Inv.loopNext {s : State} (h : Inv s) (ok : Bool)
    (hopen : s.loop = .setConnected → s.gate.gate.paused = false)
    (hhead : s.loop = .head → s.token = false → s.state = .notConfigured) :
    Inv (loopNext s ok) := by
  by_cases hf : s.fresh = true
  · unfold Cloud.loopNext
    rcases (h.fresh hf).2.2 with hloop | hloop
    · rw [hloop]
      exact h.startIteration (hhead hloop)
    · rw [hloop]
      exact h.readConfig
  · have hfresh := Bool.eq_false_iff.mpr hf
    unfold Cloud.loopNext
    cases hloop : s.loop with
    | head => exact h.startIteration (hhead hloop)
    | busy => exact h.loopEnd hfresh _ .inl
    | notConfigured => exact h.readConfig
    | configured => exact h.loopEnd hfresh .disconnected nofun
    | disconnected =>
        dsimp only
        split
        · exact h.loopEnd hfresh _ .inl
        · exact h.loopMove hfresh _ .inl
    | start => exact h.loopMove hfresh .connecting nofun
    | config => exact h.loopMove hfresh _ .inl
    | noToken => exact h.loopMove hfresh .notConfigured nofun
    | connect => exact h.loopMove hfresh .connecting nofun
    | handshake => exact h.loopMove hfresh _ .inl
    | setConnected => exact h.loopMove hfresh _ fun _ => .inr (hopen hloop)
    | connected => exact h.loopMove hfresh _ .inl
    | ended result =>
        cases result with
        | true => exact h.loopEnd hfresh .disconnected nofun
        | false => exact h.loopMove hfresh .disconnected nofun
    | failed => exact h.loopEnd hfresh .disconnected nofun

/-- Without a token the loop does not leave `Disconnected` on its own: what `connect_to_cloud`
stores is stored over. -/
theorem iteration_without_token {s : State} (hloop : s.loop = .head)
    (hstate : s.state = .disconnected) (htoken : s.token = false) (hopen : s.gate.gate.paused = false) (ok : Bool) :
    (Cloud.loopNext · ok)^[6] s = { s with
      fresh := true
      iterations := s.iterations + 1 } := by
  obtain ⟨⟨⟨generation, paused⟩, begun, settled, openings⟩, state, token, url, loop, calls, returned,
    fresh, iterations⟩ := s
  subst hloop hstate htoken hopen
  rfl

/-! ## Runs -/

theorem step_inv {s s' : State} {e : Event} (h : Inv s) (hok : Orderly s e)
    (hs : step s e = some s') : Inv s' := by
  have hspawn : ∀ c : Call, c.transition = none → Inv { s with calls := c :: s.calls } := by
    intro c hnone
    apply h.others h.exact (fun _ ht => ht) (Nat.le_refl _) _ (fun _ ht => .inl ht) (.inl rfl)
      fun hf => (h.fresh hf).2.1
    intro c' hc' t ht
    rcases List.mem_cons.mp hc' with rfl | hold
    · rw [hnone] at ht
      cases ht
    · exact .inl (.inr ⟨c', hold, ht⟩)
  cases e with
  | beginNetworkTransition =>
      cases hs
      exact hspawn .beginGate rfl
  | forceReconnect =>
      cases hs
      exact hspawn .forceGate rfl
  | deregisterDevice =>
      simp only [step] at hs
      split at hs
      · cases hs
        exact hspawn .removeToken rfl
      · cases hs
        exact h
  | resetConfig =>
      cases hs
      exact h.removed
  | call i ok =>
      obtain ⟨⟨c, rest⟩, hpick, rfl⟩ := Option.map_eq_some_iff.mp hs
      exact h.call hpick ok (hok _ hpick)
  | loop ok =>
      cases hs
      exact h.loopNext ok hok.1 hok.2

def started (token url : Bool) : State := { token := token, url := url }

/-- In every orderly run, the gate does what it is for. -/
theorem reconnects_gated {token url : Bool} {s : State}
    (hrun : Run.Reach step Orderly (started token url) s) : Gated s := by
  have hinit : Inv (started token url) := by
    constructor
    · exact ⟨nofun, fun ⟨hbegun, _⟩ => absurd hbegun (Nat.lt_irrefl 0)⟩
    · rintro t (hreturn | ⟨c, hc, -⟩)
      · cases hreturn
      · cases hc
    · nofun
    · nofun
    · intro hzero
      exact absurd hzero (Nat.lt_irrefl 0)
  have hinv : Inv s := hrun.invariant hinit fun _ _ _ h hok hs => step_inv h hok hs
  exact hinv.gated

/-! ## Two runs -/

private def connect : List Event := List.replicate 8 (.loop true)

/-- A transition begins, up to the return to its caller. -/
private def beginTransition : List Event :=
  [.beginNetworkTransition, .call 0 true, .call 0 true, .call 0 true, .call 0 true]

/-- The connection is up when the transition begins. -/
theorem reconnects_gated_transition :
    ∃ s, s.state = .disconnected ∧ s.gate.gate.paused = true ∧ s.returned = [⟨1, 1, 0⟩] ∧
      Gated s := by
  have hexec : (Run.exec step (fun s e => decide (Orderly s e)) (started true true)
      (connect ++ [.loop true, .loop true] ++ beginTransition)).map
        (fun s => (s.state, s.gate.gate.paused, s.returned)) =
          some (.disconnected, true, [⟨1, 1, 0⟩]) := by
    decide
  obtain ⟨s, hrun, hend⟩ := Run.exists_reach_of_exec (fun _ _ => of_decide_eq_true) hexec
  obtain ⟨hstate, hrest⟩ := Prod.mk.inj hend
  obtain ⟨hpaused, hreturned⟩ := Prod.mk.inj hrest
  exact ⟨s, hstate, hpaused, hreturned, reconnects_gated hrun⟩

/-- An attempt that is in flight when the transition begins connects under a closed gate. -/
theorem in_flight_attempt_connects :
    ¬ ∀ (token url : Bool) (s : State),
      Run.Reach step Run.anyStep (started token url) s → Gated s := by
  intro h
  have hexec : (Run.exec step (fun _ _ => true) (started true true)
      (connect ++ beginTransition ++ [.loop true, .loop true])).map
        (fun s => (s.state, s.gate.openings, s.returned)) =
          some (.connected, 0, [⟨1, 1, 0⟩]) := by
    decide
  obtain ⟨s, hrun, hend⟩ := Run.exists_reach_of_exec (fun _ _ _ => trivial) hexec
  obtain ⟨hstate, hrest⟩ := Prod.mk.inj hend
  obtain ⟨hopenings, hreturned⟩ := Prod.mk.inj hrest
  refine (h true true s hrun).notConnected ⟨1, 1, 0⟩ ?_ hopenings.symm hstate
  rw [hreturned]
  exact List.mem_singleton_self _

end ArkKvm.Cloud
