import ArkKvm.Lib.Pool
import ArkKvm.Lib.Run

/-!
# The auto-update scheduler

`set_auto_update`, `power_on_ota_update` and a failed install each make sure that a scheduler
loop is running.  `AUTO_UPDATE_RUNNING` is read and then written by the starter, and reset by
a loop some time after it has seen `AUTO_UPDATE_SWITCH` off.
-/

namespace ArkKvm.Ota

open Lib

namespace Scheduler

inductive CheckPhase
  /-- `get_auto_update` -/
  | config
  /-- `get_current_version` and what follows it -/
  | version
  /-- `run_auto_update` reads `AUTO_UPDATE_RUNNING` -/
  | load
  /-- `run_loop` writes it -/
  | starting
  | spawning
deriving DecidableEq

inductive CallPhase
  /-- `set_auto_update` writes the configuration -/
  | write (enabled : Bool)
  /-- `power_on_ota_update` reads the configuration -/
  | powerOn
  /-- `AUTO_UPDATE_SWITCH` is stored -/
  | switch (enabled : Bool)
  /-- a failed install reads `AUTO_UPDATE_SWITCH` -/
  | rearm
  | check (phase : CheckPhase)
deriving DecidableEq

inductive LoopPhase
  /-- the head of the outer loop -/
  | top
  /-- waiting for the next check, polling the switch -/
  | waiting
  /-- the time has come: the switch is read once more -/
  | reached
  | check (phase : CheckPhase)
  /-- the loop is left, and `AUTO_UPDATE_RUNNING` is not reset yet -/
  | leaving
deriving DecidableEq

structure State where
  /-- `auto_update_enabled` in the configuration -/
  config : Bool
  /-- `AUTO_UPDATE_SWITCH` -/
  switch : Bool
  /-- `AUTO_UPDATE_RUNNING` -/
  running : Bool
  calls : List CallPhase
  loops : List LoopPhase

inductive Event
  | setAutoUpdate (enabled : Bool)
  | powerOn
  /-- an install has failed -/
  | installFailed
  /-- the last retry of a download has failed -/
  | downloadFailed
  /-- the next step of a call; `ok` is its outcome when it can fail -/
  | call (i : Nat) (ok : Bool)
  /-- the next step of a loop; `ok` is its outcome, or says that the time has come -/
  | loop (i : Nat) (ok : Bool)

def checkNext (s : State) (ok : Bool) : CheckPhase → State × Option CheckPhase
  | .config => (s, if s.config then some .version else none)
  | .version => (s, if ok then some .load else none)
  | .load => (s, if s.running then none else some .starting)
  | .starting => ({ s with running := true }, some .spawning)
  | .spawning => ({ s with loops := .top :: s.loops }, none)

def callNext (s : State) (ok : Bool) : CallPhase → State × Option CallPhase
  | .write enabled => ({ s with config := enabled }, if ok then some (.switch enabled) else none)
  | .powerOn => (s, if s.config then some (.switch true) else none)
  | .switch true => ({ s with switch := true }, some (.check .config))
  | .switch false => ({ s with switch := false }, none)
  | .rearm => (s, if s.switch then some (.check .load) else none)
  | .check phase => ((checkNext s ok phase).1, (checkNext s ok phase).2.map .check)

def loopNext (s : State) (ok : Bool) : LoopPhase → State × Option LoopPhase
  | .top => (s, some (if s.switch then .waiting else .leaving))
  | .waiting => (s, some (if ok then .reached else if s.switch then .waiting else .leaving))
  | .reached => (s, some (if s.switch then .check .config else .leaving))
  | .check phase =>
      ((checkNext s ok phase).1, some (((checkNext s ok phase).2.map .check).getD .top))
  | .leaving => ({ s with running := false }, none)

def step (s : State) : Event → Option State
  | .setAutoUpdate enabled => some { s with calls := .write enabled :: s.calls }
  | .powerOn => some { s with calls := .powerOn :: s.calls }
  | .installFailed => some { s with calls := .rearm :: s.calls }
  | .downloadFailed => some { s with calls := .check .load :: s.calls }
  | .call i ok =>
      (Pool.pick i s.calls).map fun x =>
        let next := callNext { s with calls := x.2 } ok x.1
        { next.1 with calls := next.2.toList ++ next.1.calls }
  | .loop i ok =>
      (Pool.pick i s.loops).map fun x =>
        let next := loopNext { s with loops := x.2 } ok x.1
        { next.1 with loops := next.2.toList ++ next.1.loops }

/-- When no call is in progress and no loop is about to reset the flag, there is at most one
loop, and one when the switch is on. -/
def Scheduled (s : State) : Prop :=
  s.calls = [] → LoopPhase.leaving ∉ s.loops →
    s.loops.length ≤ 1 ∧ (s.switch = true → s.loops.length = 1)

def Live (s : State) : Prop := ∃ l ∈ s.loops, l ≠ .leaving

/-- What a step of a call needs, among the other calls: when its check fails or finds a loop
running while the switch is on, a loop goes on; and no other starter has read the flag and not
written it yet. -/
def CallOk (s : State) (others : List CallPhase) (ok : Bool) : CallPhase → Prop
  | .check .config => s.config = false → s.switch = true → Live s
  | .check .version => ok = false → s.switch = true → Live s
  | .check .load =>
      if s.running then s.switch = true → LoopPhase.leaving ∉ s.loops
      else CallPhase.check .starting ∉ others
  | _ => True

def Timely (s : State) : Event → Prop
  | .call i ok => ∀ x ∈ Pool.pick i s.calls, CallOk s x.2 ok x.1
  | _ => True

instance (s : State) : Decidable (Live s) :=
  inferInstanceAs (Decidable (∃ l ∈ s.loops, l ≠ .leaving))

instance (s : State) (others : List CallPhase) (ok : Bool) (c : CallPhase) :
    Decidable (CallOk s others ok c) := by
  unfold CallOk
  split <;> infer_instance

instance (s : State) (e : Event) : Decidable (Timely s e) := by
  unfold Timely
  split <;> infer_instance

/-! ## The invariant -/

def isStarting (c : CallPhase) : Bool := c = .check .starting

def isSpawning (c : CallPhase) : Bool := c = .check .spawning

structure Inv (s : State) : Prop where
  /-- the flag is up for one loop, there or about to be spawned -/
  holders : s.loops.length + s.calls.countP isSpawning = if s.running then 1 else 0
  oneStarter : s.calls.countP isStarting ≤ if s.running then 0 else 1
  /-- a loop finds itself running -/
  noStart : ∀ l ∈ s.loops, l ≠ .check .starting ∧ l ≠ .check .spawning
  /-- when the switch is on, a loop goes on or a call looks after it -/
  looked : s.switch = true → Live s ∨ ∃ phase, CallPhase.check phase ∈ s.calls

theorem Inv.scheduled {s : State} (h : Inv s) : Scheduled s := by
  intro hcalls hleaving
  have hholders := h.holders
  rw [hcalls, List.countP_nil] at hholders
  constructor
  · split at hholders
    · omega
    · omega
  · intro hswitch
    rcases h.looked hswitch with ⟨l, hl, -⟩ | ⟨phase, hphase⟩
    · have hpos := List.length_pos_of_mem hl
      split at hholders
      · omega
      · omega
    · rw [hcalls] at hphase
      cases hphase

/-! ## Steps of calls -/

section Call

variable {s : State} {i : Nat} {c : CallPhase} {rest : List CallPhase}

/-- A pending call that is not the one that moves is still there. -/
theorem looked_rest (h : Inv s) (hpick : Pool.pick i s.calls = some (c, rest))
    (hc : ∀ phase, c ≠ .check phase) (hswitch : s.switch = true) :
    Live s ∨ ∃ phase, CallPhase.check phase ∈ rest := by
  rcases h.looked hswitch with hlive | ⟨phase, hphase⟩
  · exact .inl hlive
  · rcases (Pool.mem_iff_of_pick hpick).mp hphase with heq | hrest
    · exact absurd heq.symm (hc phase)
    · exact .inr ⟨phase, hrest⟩

/-- A call that moves on or returns, without a word to the loops. -/
theorem Inv.move (h : Inv s) (hpick : Pool.pick i s.calls = some (c, rest))
    (next : Option CallPhase) {config switch : Bool}
    (hspawning : isSpawning c = false ∧ next.toList.countP isSpawning = 0)
    (hstarting : next.toList.countP isStarting = 0)
    (hlooked : switch = true → Live s ∨ ∃ phase, CallPhase.check phase ∈ next.toList ++ rest) :
    Inv { s with
      config := config
      switch := switch
      calls := next.toList ++ rest } := by
  have hspawn := Pool.countP_of_pick isSpawning hpick
  have hstart := Pool.countP_of_pick isStarting hpick
  rw [hspawning.1] at hspawn
  constructor
  · show s.loops.length + (next.toList ++ rest).countP isSpawning = _
    rw [List.countP_append, hspawning.2, ← h.holders, hspawn]
    simp
  · have hone := h.oneStarter
    show (next.toList ++ rest).countP isStarting ≤ if s.running then 0 else 1
    rw [List.countP_append, hstarting]
    omega
  · exact h.noStart
  · exact hlooked

theorem Inv.loadFree (h : Inv s) (hpick : Pool.pick i s.calls = some (.check .load, rest))
    (hfree : s.running = false) (honly : CallPhase.check .starting ∉ rest) :
    Inv { s with calls := .check .starting :: rest } := by
  have hspawn := Pool.countP_of_pick isSpawning hpick
  have hnone : rest.countP isStarting = 0 := by
    rw [List.countP_eq_zero]
    intro c hc hstarting
    exact honly (of_decide_eq_true hstarting ▸ hc)
  constructor
  · show s.loops.length + (CallPhase.check .starting :: rest).countP isSpawning = _
    rw [← h.holders, hspawn, List.countP_cons]
    rfl
  · show (CallPhase.check .starting :: rest).countP isStarting ≤ if s.running then 0 else 1
    rw [List.countP_cons, hnone, hfree]
    decide
  · exact h.noStart
  · intro _
    exact .inr ⟨.starting, List.mem_cons_self⟩

theorem Inv.raise (h : Inv s) (hpick : Pool.pick i s.calls = some (.check .starting, rest)) :
    Inv { s with
      running := true
      calls := .check .spawning :: rest } := by
  have hspawn := Pool.countP_of_pick isSpawning hpick
  have hstart := Pool.countP_of_pick isStarting hpick
  have hone := h.oneStarter
  have hself : isStarting (.check .starting) = true := rfl
  have hother : isSpawning (.check .starting) = false := rfl
  rw [hstart, hself] at hone
  have hfree : s.running = false := by
    cases hrunning : s.running with
    | false => rfl
    | true =>
        rw [hrunning] at hone
        simp at hone
  have hholders := h.holders
  rw [hspawn, hother, hfree] at hholders
  rw [hfree] at hone
  constructor
  · show s.loops.length + (CallPhase.check .spawning :: rest).countP isSpawning = 1
    rw [List.countP_cons]
    simp only [Bool.false_eq_true, if_false] at hholders
    have hspawning : isSpawning (.check .spawning) = true := rfl
    rw [if_pos hspawning]
    omega
  · show (CallPhase.check .spawning :: rest).countP isStarting ≤ 0
    have hnot : isStarting (.check .spawning) = false := rfl
    rw [List.countP_cons, hnot]
    simp only [Bool.false_eq_true, if_false, if_true] at hone ⊢
    omega
  · exact h.noStart
  · intro _
    exact .inr ⟨.spawning, List.mem_cons_self⟩

theorem Inv.spawn (h : Inv s) (hpick : Pool.pick i s.calls = some (.check .spawning, rest)) :
    Inv { s with
      loops := .top :: s.loops
      calls := rest } := by
  have hspawn := Pool.countP_of_pick isSpawning hpick
  have hstart := Pool.countP_of_pick isStarting hpick
  have hself : isSpawning (.check .spawning) = true := rfl
  rw [if_pos hself] at hspawn
  constructor
  · show (LoopPhase.top :: s.loops).length + rest.countP isSpawning = _
    rw [← h.holders, hspawn, List.length_cons]
    omega
  · have hone := h.oneStarter
    show rest.countP isStarting ≤ if s.running then 0 else 1
    omega
  · intro l hl
    rcases List.mem_cons.mp hl with rfl | hl
    · exact ⟨nofun, nofun⟩
    · exact h.noStart l hl
  · intro _
    exact .inl ⟨.top, List.mem_cons_self, nofun⟩

theorem Inv.pass (h : Inv s) (hpick : Pool.pick i s.calls = some (c, rest))
    (hc : ∀ phase, c ≠ .check phase) (next : Option CallPhase)
    (hnext : ∀ n ∈ next, ∀ phase, n ≠ .check phase) {config : Bool} :
    Inv { s with
      config := config
      calls := next.toList ++ rest } := by
  have hcount : ∀ phase, next.toList.countP (fun n => n = .check phase) = 0 := by
    intro phase
    rw [List.countP_eq_zero]
    intro n hn heq
    exact hnext n (Option.mem_toList.mp hn) phase (of_decide_eq_true heq)
  refine h.move hpick _ ⟨decide_eq_false (hc _), hcount _⟩ (hcount _) ?_
  intro hswitch
  rcases looked_rest h hpick hc hswitch with hlive | ⟨phase, hphase⟩
  · exact .inl hlive
  · exact .inr ⟨phase, List.mem_append_right _ hphase⟩

/-- The starter has found the flag up: a loop goes on, or one is about to be spawned. -/
theorem looked_of_running (h : Inv s) (hpick : Pool.pick i s.calls = some (.check .load, rest))
    (hrunning : s.running = true) (hgoes : LoopPhase.leaving ∉ s.loops) :
    Live s ∨ ∃ phase, CallPhase.check phase ∈ rest := by
  have hholders := h.holders
  have hspawn := Pool.countP_of_pick isSpawning hpick
  have hself : isSpawning (.check .load) = false := rfl
  rw [hrunning, hspawn, hself] at hholders
  cases hloops : s.loops with
  | cons l ls =>
      have hl : l ∈ s.loops := hloops ▸ List.mem_cons_self
      exact .inl ⟨l, hl, fun heq => hgoes (heq ▸ hl)⟩
  | nil =>
      rw [hloops] at hholders
      have hpos : 0 < rest.countP isSpawning := by
        simp only [List.length_nil, Bool.false_eq_true, if_false, if_true] at hholders
        omega
      obtain ⟨n, hn, hspawning⟩ := List.countP_pos_iff.mp hpos
      exact .inr ⟨.spawning, of_decide_eq_true hspawning ▸ hn⟩

theorem Inv.check (h : Inv s) {ok : Bool} {phase : CheckPhase}
    (hpick : Pool.pick i s.calls = some (.check phase, rest))
    (hok : CallOk s rest ok (.check phase)) :
    Inv (let next := callNext { s with calls := rest } ok (.check phase)
      { next.1 with calls := next.2.toList ++ next.1.calls }) := by
  cases phase with
  | config =>
      show Inv { s with
        calls := ((if s.config then some CheckPhase.version else none).map CallPhase.check).toList ++
          rest }
      by_cases hconfig : s.config = true
      · rw [if_pos hconfig]
        exact h.move hpick (some (.check .version)) ⟨rfl, rfl⟩ rfl
          fun _ => .inr ⟨.version, List.mem_cons_self⟩
      · rw [if_neg hconfig]
        exact h.move hpick none ⟨rfl, rfl⟩ rfl
          fun hswitch => .inl (hok (Bool.eq_false_iff.mpr hconfig) hswitch)
  | version =>
      cases ok with
      | true =>
          exact h.move hpick (some (.check .load)) ⟨rfl, rfl⟩ rfl
            fun _ => .inr ⟨.load, List.mem_cons_self⟩
      | false => exact h.move hpick none ⟨rfl, rfl⟩ rfl fun hswitch => .inl (hok rfl hswitch)
  | load =>
      unfold CallOk at hok
      show Inv { s with
        calls := ((if s.running then none else some CheckPhase.starting).map
          CallPhase.check).toList ++ rest }
      by_cases hrunning : s.running = true
      · rw [if_pos hrunning] at hok ⊢
        exact h.move hpick none ⟨rfl, rfl⟩ rfl
          fun hswitch => looked_of_running h hpick hrunning (hok hswitch)
      · rw [if_neg hrunning] at hok ⊢
        exact h.loadFree hpick (Bool.eq_false_iff.mpr hrunning) hok
  | starting => exact h.raise hpick
  | spawning => exact h.spawn hpick

theorem Inv.call (h : Inv s) {ok : Bool} (hpick : Pool.pick i s.calls = some (c, rest))
    (hok : CallOk s rest ok c) :
    Inv (let next := callNext { s with calls := rest } ok c
      { next.1 with calls := next.2.toList ++ next.1.calls }) := by
  cases c with
  | write enabled =>
      refine h.pass hpick nofun (if ok then some (.switch enabled) else none) ?_
      cases ok with
      | true =>
          intro n hn
          cases hn
          nofun
      | false => nofun
  | powerOn =>
      refine h.pass hpick nofun (if s.config then some (.switch true) else none) ?_
      cases s.config with
      | true =>
          intro n hn
          cases hn
          nofun
      | false => nofun
  | switch enabled =>
      cases enabled with
      | true =>
          exact h.move hpick (some (.check .config)) ⟨rfl, rfl⟩ rfl
            fun _ => .inr ⟨.config, List.mem_cons_self⟩
      | false => exact h.move hpick none ⟨rfl, rfl⟩ rfl nofun
  | rearm =>
      show Inv { s with
        calls := (if s.switch then some (CallPhase.check .load) else none).toList ++ rest }
      by_cases hswitch : s.switch = true
      · rw [if_pos hswitch]
        exact h.move hpick (some (.check .load)) ⟨rfl, rfl⟩ rfl
          fun _ => .inr ⟨.load, List.mem_cons_self⟩
      · rw [if_neg hswitch]
        exact h.move hpick none ⟨rfl, rfl⟩ rfl fun htrue => absurd htrue hswitch
  | check phase => exact h.check hpick hok

end Call

/-! ## Steps of loops -/

section Loop

variable {s : State} {i : Nat} {l : LoopPhase} {rest : List LoopPhase}

theorem running_of_loop (h : Inv s) (hpick : Pool.pick i s.loops = some (l, rest)) :
    s.running = true ∧ rest = [] ∧ s.calls.countP isSpawning = 0 := by
  have hholders := h.holders
  have hlen := Pool.length_of_pick hpick
  cases hrunning : s.running with
  | true =>
      rw [hrunning, if_pos rfl] at hholders
      exact ⟨rfl, List.length_eq_zero_iff.mp (by omega), by omega⟩
  | false =>
      rw [hrunning, if_neg nofun] at hholders
      omega

/-- A loop that goes on, or that leaves because the switch is off. -/
theorem Inv.goOn (h : Inv s) (hpick : Pool.pick i s.loops = some (l, rest)) (next : LoopPhase)
    (hnext : next ≠ .check .starting ∧ next ≠ .check .spawning)
    (hleaves : next = .leaving → s.switch = false) :
    Inv { s with loops := next :: rest } := by
  have hlen := Pool.length_of_pick hpick
  constructor
  · show (next :: rest).length + _ = _
    rw [← h.holders, hlen, List.length_cons]
  · exact h.oneStarter
  · intro l' hl'
    rcases List.mem_cons.mp hl' with rfl | hl'
    · exact hnext
    · exact h.noStart l' ((Pool.mem_iff_of_pick hpick).mpr (.inr hl'))
  · intro hswitch
    refine .inl ⟨next, List.mem_cons_self, fun heq => ?_⟩
    have hoff := hleaves heq
    rw [show s.switch = true from hswitch] at hoff
    cases hoff

theorem Inv.reset (h : Inv s) (hpick : Pool.pick i s.loops = some (.leaving, rest)) :
    Inv { s with
      running := false
      loops := rest } := by
  obtain ⟨hrunning, hrest, hspawning⟩ := running_of_loop h hpick
  have hone := h.oneStarter
  rw [hrunning] at hone
  constructor
  · show rest.length + s.calls.countP isSpawning = 0
    rw [hrest, hspawning]
    rfl
  · show s.calls.countP isStarting ≤ 1
    rw [if_pos rfl] at hone
    omega
  · rw [hrest]
    nofun
  · intro hswitch
    rcases h.looked hswitch with ⟨l', hl', hne⟩ | hpending
    · rcases (Pool.mem_iff_of_pick hpick).mp hl' with rfl | hl'
      · exact absurd rfl hne
      · rw [hrest] at hl'
        cases hl'
    · exact .inr hpending

theorem Inv.loop (h : Inv s) {ok : Bool} (hpick : Pool.pick i s.loops = some (l, rest)) :
    Inv (let next := loopNext { s with loops := rest } ok l
      { next.1 with loops := next.2.toList ++ next.1.loops }) := by
  have hpolls : ∀ next : LoopPhase, next ≠ .leaving → next ≠ .check .starting →
      next ≠ .check .spawning →
      Inv { s with loops := (if s.switch then next else .leaving) :: rest } := by
    intro next hleaving hstarting hspawning
    by_cases hswitch : s.switch = true
    · rw [if_pos hswitch]
      exact h.goOn hpick _ ⟨hstarting, hspawning⟩ fun heq => absurd heq hleaving
    · rw [if_neg hswitch]
      exact h.goOn hpick .leaving ⟨nofun, nofun⟩ fun _ => Bool.eq_false_iff.mpr hswitch
  cases l with
  | top => exact hpolls .waiting nofun nofun nofun
  | waiting =>
      cases ok with
      | true => exact h.goOn hpick .reached ⟨nofun, nofun⟩ nofun
      | false => exact hpolls .waiting nofun nofun nofun
  | reached => exact hpolls (.check .config) nofun nofun nofun
  | leaving => exact h.reset hpick
  | check phase =>
      have hmem := (Pool.mem_of_pick hpick).1
      obtain ⟨hstarting, hspawning⟩ := h.noStart _ hmem
      cases phase with
      | starting => exact absurd rfl hstarting
      | spawning => exact absurd rfl hspawning
      | config =>
          show Inv { s with loops := ((if s.config then some CheckPhase.version else none).map
            LoopPhase.check).getD .top :: rest }
          by_cases hconfig : s.config = true
          · rw [if_pos hconfig]
            exact h.goOn hpick (.check .version) ⟨nofun, nofun⟩ nofun
          · rw [if_neg hconfig]
            exact h.goOn hpick .top ⟨nofun, nofun⟩ nofun
      | version =>
          cases ok with
          | true => exact h.goOn hpick (.check .load) ⟨nofun, nofun⟩ nofun
          | false => exact h.goOn hpick .top ⟨nofun, nofun⟩ nofun
      | load =>
          show Inv { s with
            loops := ((if s.running then none else some CheckPhase.starting).map
              LoopPhase.check).getD .top :: rest }
          rw [if_pos (running_of_loop h hpick).1]
          exact h.goOn hpick .top ⟨nofun, nofun⟩ nofun

end Loop

/-! ## Runs -/

theorem Inv.begin {s : State} (h : Inv s) {c : CallPhase} (hstarting : isStarting c = false)
    (hspawning : isSpawning c = false) : Inv { s with calls := c :: s.calls } := by
  constructor
  · show s.loops.length + (c :: s.calls).countP isSpawning = _
    rw [List.countP_cons, hspawning]
    exact h.holders
  · show (c :: s.calls).countP isStarting ≤ _
    rw [List.countP_cons, hstarting]
    exact h.oneStarter
  · exact h.noStart
  · intro hswitch
    rcases h.looked hswitch with hlive | ⟨phase, hphase⟩
    · exact .inl hlive
    · exact .inr ⟨phase, List.mem_cons_of_mem _ hphase⟩

theorem step_inv {s s' : State} {e : Event} (h : Inv s) (hok : Timely s e)
    (hs : step s e = some s') : Inv s' := by
  cases e with
  | setAutoUpdate enabled =>
      cases hs
      exact h.begin rfl rfl
  | powerOn =>
      cases hs
      exact h.begin rfl rfl
  | installFailed =>
      cases hs
      exact h.begin rfl rfl
  | downloadFailed =>
      cases hs
      exact h.begin rfl rfl
  | call i ok =>
      obtain ⟨⟨c, rest⟩, hpick, hs⟩ := Option.map_eq_some_iff.mp hs
      subst hs
      exact h.call hpick (hok _ hpick)
  | loop i ok =>
      obtain ⟨⟨l, rest⟩, hpick, hs⟩ := Option.map_eq_some_iff.mp hs
      subst hs
      exact h.loop hpick

/-- The device has started and nothing has been asked for. -/
def idle (config : Bool) : State := ⟨config, false, false, [], []⟩

/-- In every run whose calls are timely, the scheduler runs when it should. -/
theorem scheduler_runs {config : Bool} {s : State} (hrun : Run.Reach step Timely (idle config) s) :
    Scheduled s := by
  have hinit : Inv (idle config) := ⟨rfl, Nat.zero_le _, nofun, nofun⟩
  have hinv : Inv s := hrun.invariant hinit fun _ _ _ h hok hs => step_inv h hok hs
  exact hinv.scheduled

/-! ## Two runs -/

private def turnOn : List Event :=
  [.setAutoUpdate true, .call 0 true, .call 0 true, .call 0 true, .call 0 true, .call 0 true,
    .call 0 true, .call 0 true]

theorem scheduler_runs_turnOn :
    ∃ s, s.calls = [] ∧ s.switch = true ∧ s.loops = [.top] ∧ Scheduled s := by
  have hexec : (Run.exec step (fun s e => decide (Timely s e)) (idle false) turnOn).map
      (fun s => (s.calls, s.switch, s.loops)) = some ([], true, [.top]) := by decide
  obtain ⟨s, hrun, hend⟩ := Run.exists_reach_of_exec (fun _ _ => of_decide_eq_true) hexec
  obtain ⟨hcalls, hrest⟩ := Prod.mk.inj hend
  obtain ⟨hswitch, hloops⟩ := Prod.mk.inj hrest
  exact ⟨s, hcalls, hswitch, hloops, scheduler_runs hrun⟩

/-- The switch is turned off and, before the loop that has seen this resets its flag, on. -/
private def offAndOn : List Event :=
  turnOn ++ [.setAutoUpdate false, .call 0 true, .call 0 true, .loop 0 false] ++
    [.setAutoUpdate true, .call 0 true, .call 0 true, .call 0 true, .call 0 true, .call 0 true] ++
    [.loop 0 false]

/-- The restart is lost. -/
theorem restart_lost :
    ¬ ∀ (config : Bool) (s : State), Run.Reach step Run.anyStep (idle config) s → Scheduled s := by
  intro h
  have hexec : (Run.exec step (fun _ _ => true) (idle false) offAndOn).map
      (fun s => (s.calls, s.switch, s.loops)) = some ([], true, []) := by decide
  obtain ⟨s, hrun, hend⟩ := Run.exists_reach_of_exec (fun _ _ _ => trivial) hexec
  obtain ⟨hcalls, hrest⟩ := Prod.mk.inj hend
  obtain ⟨hswitch, hloops⟩ := Prod.mk.inj hrest
  have hone := (h false s hrun hcalls (by rw [hloops]; nofun)).2 hswitch
  rw [hloops] at hone
  cases hone

end Scheduler

end ArkKvm.Ota
