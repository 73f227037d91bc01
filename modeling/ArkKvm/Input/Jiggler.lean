import ArkKvm.Config.Types
import ArkKvm.Lib.Pool
import ArkKvm.Lib.Run

/-!
# The jiggler

`Jiggler` of `jiggler.rs`: `set_enable` and `set_config` against the loop that `run` spawns.  The
loop sets the `running` flag itself, once it is scheduled, and clears it some time after it has
decided to stop; it clears the `config_update` flag some time after it has read the configuration.
-/

namespace ArkKvm.Jiggler

open Lib

inductive CallPhase
  | storeEnabled (enable : Bool)
  /-- `run` reads `running` -/
  | load
  | spawn
  /-- `set_jiggler_enable` of the configuration -/
  | persistEnable
  | storeConfig (config : JigglerConfig)
  | flagUpdate
  /-- `set_jiggler_config` of the configuration -/
  | persistConfig
deriving DecidableEq

/-- Where a spawned loop stands, with its copy of the configuration.  From its check for an update
on it remembers how many `set_config` calls had begun, if each of them had set the flag. -/
inductive LoopPhase
  | starting
  | readFirst
  | top (config : JigglerConfig)
  | checkUpdate (config : JigglerConfig)
  | readConfig (since : Option Nat)
  | clearUpdate (config : JigglerConfig) (since : Option Nat)
  /-- the reports to the host and the sleep -/
  | body (config : JigglerConfig) (since : Option Nat)
  /-- after the break -/
  | leaving
deriving DecidableEq

structure State where
  config : JigglerConfig
  enabled : Bool
  running : Bool
  configUpdate : Bool
  calls : List CallPhase
  loops : List LoopPhase
  /-- the `set_config` calls so far -/
  configCalls : Nat

inductive Event
  | setEnable (enable : Bool)
  | setConfig (config : JigglerConfig)
  | call (i : Nat)
  | loop (i : Nat)

/-- `Jiggler::new`, with the `run` of an enabled jiggler. -/
def new (config : JigglerConfig) (enabled : Bool) : State :=
  ⟨config, enabled, false, false, [], if enabled then [.starting] else [], 0⟩

def CallPhase.SetsConfig : CallPhase → Bool
  | .storeConfig _ | .flagUpdate => true
  | _ => false

def since (s : State) : Option Nat :=
  if s.calls.any CallPhase.SetsConfig then none else some s.configCalls

def callNext (s : State) : CallPhase → State × Option CallPhase
  | .storeEnabled enable =>
      ({ s with enabled := enable }, some (if enable then .load else .persistEnable))
  | .load => (s, some (if s.running then .persistEnable else .spawn))
  | .spawn => ({ s with loops := .starting :: s.loops }, some .persistEnable)
  | .persistEnable => (s, none)
  | .storeConfig config => ({ s with config := config }, some .flagUpdate)
  | .flagUpdate => ({ s with configUpdate := true }, some .persistConfig)
  | .persistConfig => (s, none)

def loopNext (s : State) : LoopPhase → State × Option LoopPhase
  | .starting => ({ s with running := true }, some .readFirst)
  | .readFirst => (s, some (.top s.config))
  | .top config => (s, some (if s.enabled then .checkUpdate config else .leaving))
  | .checkUpdate config =>
      (s, some (if s.configUpdate then .readConfig (since s) else .body config (since s)))
  | .readConfig k => (s, some (.clearUpdate s.config k))
  | .clearUpdate config k => ({ s with configUpdate := false }, some (.body config k))
  | .body config _ => (s, some (.top config))
  | .leaving => ({ s with running := false }, none)

def step (s : State) : Event → Option State
  | .setEnable enable => some { s with calls := .storeEnabled enable :: s.calls }
  | .setConfig config => some { s with
      calls := .storeConfig config :: s.calls
      configCalls := s.configCalls + 1 }
  | .call i =>
      (Pool.pick i s.calls).map fun x =>
        let next := callNext { s with calls := x.2 } x.1
        { next.1 with calls := next.2.toList ++ next.1.calls }
  | .loop i =>
      (Pool.pick i s.loops).map fun x =>
        let next := loopNext { s with loops := x.2 } x.1
        { next.1 with loops := next.2.toList ++ next.1.loops }

/-- At most one loop; one when the jiggler is enabled, nobody calls and no loop is between its
break and the end; and past its check for an update, with no `set_config` in between, a loop uses
the last configuration. -/
structure Jiggles (s : State) : Prop where
  one : s.loops.length ≤ 1
  alive : s.calls = [] → LoopPhase.leaving ∉ s.loops → s.enabled = true → s.loops ≠ []
  config : ∀ config, LoopPhase.body config (some s.configCalls) ∈ s.loops → config = s.config

/-! ## The condition on a step -/

/-- A loop that goes on, or a `run` among these calls that will see to it. -/
def Looked (loops : List LoopPhase) (calls : List CallPhase) : Prop :=
  (∃ l ∈ loops, l ≠ .leaving) ∨ .load ∈ calls ∨ .spawn ∈ calls

/-- What a `run` needs when it reads the flag: no loop that is spawned and has not set it, or is
about to be spawned; and no loop that is about to clear it, when nothing else keeps an enabled
jiggler going. -/
def LoadOk (s : State) (others : List CallPhase) : Prop :=
  if s.running then s.enabled = true → Looked s.loops others
  else s.loops = [] ∧ .spawn ∉ others

/-- What a loop needs when it clears the update flag: its copy is still the configuration, or the
flag will be set again. -/
def ClearOk (s : State) : LoopPhase → Prop
  | .clearUpdate config _ => config = s.config ∨ .flagUpdate ∈ s.calls
  | _ => True

def Timely (s : State) : Event → Prop
  | .call i => ∀ x ∈ Pool.pick i s.calls, x.1 = .load → LoadOk s x.2
  | .loop i => ∀ x ∈ Pool.pick i s.loops, ClearOk s x.1
  | _ => True

/-! ## The invariant -/

def CallPhase.Spawns (c : CallPhase) : Bool := c = .spawn

def LoopPhase.current : LoopPhase → Option JigglerConfig
  | .top config | .checkUpdate config | .body config _ => some config
  | _ => none

/-- The copy of the configuration that a loop has after its check, and what it remembers. -/
def LoopPhase.checked : LoopPhase → Option (Option JigglerConfig × Nat)
  | .readConfig (some k) => some (none, k)
  | .clearUpdate config (some k) | .body config (some k) => some (some config, k)
  | _ => none

structure Inv (s : State) : Prop where
  one : s.loops.length + s.calls.countP CallPhase.Spawns ≤ 1
  running : s.running = true ↔ ∃ l ∈ s.loops, l ≠ .starting
  looked : s.enabled = true → Looked s.loops s.calls
  /-- an outdated copy will be noticed -/
  noticed : ∀ l ∈ s.loops, ∀ config ∈ l.current,
    config = s.config ∨ s.configUpdate = true ∨ .flagUpdate ∈ s.calls
  checked : ∀ l ∈ s.loops, ∀ x ∈ l.checked, x.2 ≤ s.configCalls ∧
    (x.2 = s.configCalls →
      (∀ c ∈ s.calls, c.SetsConfig = false) ∧ ∀ config ∈ x.1, config = s.config)

theorem Inv.jiggles {s : State} (h : Inv s) : Jiggles s where
  one := by
    have hone := h.one
    omega
  alive := by
    intro hcalls hleaving henabled hnil
    obtain ⟨l, hl, -⟩ | hload | hspawn := h.looked henabled
    · rw [hnil] at hl
      cases hl
    · rw [hcalls] at hload
      cases hload
    · rw [hcalls] at hspawn
      cases hspawn
  config := by
    intro config hbody
    exact ((h.checked _ hbody _ rfl).2 rfl).2 config rfl

theorem Inv.new (config : JigglerConfig) (enabled : Bool) : Inv (new config enabled) := by
  cases enabled with
  | false =>
      exact ⟨Nat.zero_le 1, ⟨nofun, fun ⟨l, hl, _⟩ => absurd hl List.not_mem_nil⟩, nofun,
        fun l hl => absurd hl List.not_mem_nil, fun l hl => absurd hl List.not_mem_nil⟩
  | true =>
      have honly : ∀ l ∈ [LoopPhase.starting], l = .starting :=
        fun l hl => List.mem_singleton.mp hl
      refine ⟨Nat.le_refl 1, ⟨nofun, fun ⟨l, hl, hne⟩ => absurd (honly l hl) hne⟩,
        fun _ => .inl ⟨.starting, List.mem_cons_self, nofun⟩, ?_, ?_⟩
      · intro l hl config hcurrent
        rw [honly l hl] at hcurrent
        cases hcurrent
      · intro l hl x hx
        rw [honly l hl] at hx
        cases hx

/-! ## Steps of calls -/

section Call

variable {s : State} {i : Nat} {c : CallPhase} {rest : List CallPhase}

theorem mem_rest (hpick : Pool.pick i s.calls = some (c, rest)) {c' : CallPhase} (hc : c ≠ c')
    (hmem : c' ∈ s.calls) : c' ∈ rest :=
  ((Pool.mem_iff_of_pick hpick).mp hmem).resolve_left fun heq => hc heq.symm

theorem looked_rest (hpick : Pool.pick i s.calls = some (c, rest)) (hload : c ≠ .load)
    (hspawn : c ≠ .spawn) (next : Option CallPhase) (h : Looked s.loops s.calls) :
    Looked s.loops (next.toList ++ rest) := by
  obtain hlive | hmem | hmem := h
  · exact .inl hlive
  · exact .inr (.inl (List.mem_append_right _ (mem_rest hpick hload hmem)))
  · exact .inr (.inr (List.mem_append_right _ (mem_rest hpick hspawn hmem)))

theorem Inv.noticed_rest (h : Inv s) (hpick : Pool.pick i s.calls = some (c, rest))
    (hc : c ≠ .flagUpdate) (next : Option CallPhase) :
    ∀ l ∈ s.loops, ∀ config ∈ l.current,
      config = s.config ∨ s.configUpdate = true ∨ .flagUpdate ∈ next.toList ++ rest := by
  intro l hl config hcurrent
  obtain hsame | hflag | hmem := h.noticed l hl config hcurrent
  · exact .inl hsame
  · exact .inr (.inl hflag)
  · exact .inr (.inr (List.mem_append_right _ (mem_rest hpick hc hmem)))

theorem Inv.move (h : Inv s) (hpick : Pool.pick i s.calls = some (c, rest))
    (next : Option CallPhase) {config : JigglerConfig} {enabled configUpdate : Bool}
    (hone : s.loops.length + (next.toList ++ rest).countP CallPhase.Spawns ≤ 1)
    (hlooked : enabled = true → Looked s.loops (next.toList ++ rest))
    (hnoticed : ∀ l ∈ s.loops, ∀ config' ∈ l.current,
      config' = config ∨ configUpdate = true ∨ .flagUpdate ∈ next.toList ++ rest)
    (hsets : c.SetsConfig = true ∨ config = s.config ∧ ∀ n ∈ next, n.SetsConfig = false) :
    Inv { s with
      config := config
      enabled := enabled
      configUpdate := configUpdate
      calls := next.toList ++ rest } := by
  obtain ⟨hmem, hrest⟩ := Pool.mem_of_pick hpick
  refine ⟨hone, h.running, hlooked, hnoticed, fun l hl x hx => ?_⟩
  obtain ⟨hle, hlast⟩ := h.checked l hl x hx
  refine ⟨hle, fun heq => ?_⟩
  obtain ⟨hnone, hconfig⟩ := hlast heq
  obtain hsets | ⟨rfl, hnext⟩ := hsets
  · rw [hnone c hmem] at hsets
    cases hsets
  · refine ⟨fun c' hc' => ?_, hconfig⟩
    obtain hc' | hc' := List.mem_append.mp hc'
    · exact hnext c' (Option.mem_toList.mp hc')
    · exact hnone c' (hrest c' hc')

theorem Inv.one_rest (h : Inv s) (hpick : Pool.pick i s.calls = some (c, rest))
    (next : Option CallPhase) (hnext : ∀ n ∈ next, n ≠ .spawn) :
    s.loops.length + (next.toList ++ rest).countP CallPhase.Spawns ≤ 1 := by
  have hcount := Pool.countP_of_pick CallPhase.Spawns hpick
  have hzero : next.toList.countP CallPhase.Spawns = 0 := by
    rw [List.countP_eq_zero]
    exact fun n hn hspawns => hnext n (Option.mem_toList.mp hn) (of_decide_eq_true hspawns)
  have hone := h.one
  rw [List.countP_append, hzero]
  omega

theorem Inv.load (h : Inv s) (hpick : Pool.pick i s.calls = some (.load, rest))
    (hok : LoadOk s rest) :
    Inv { s with calls := (if s.running then CallPhase.persistEnable else .spawn) :: rest } := by
  unfold LoadOk at hok
  by_cases hrunning : s.running = true
  · rw [if_pos hrunning] at hok ⊢
    have hone := h.one_rest hpick (some .persistEnable) (by rintro n ⟨⟩; nofun)
    have hnoticed := h.noticed_rest hpick nofun (some .persistEnable)
    refine h.move hpick (some .persistEnable) hone ?_ hnoticed
      (.inr ⟨rfl, by rintro n ⟨⟩; rfl⟩)
    intro henabled
    obtain hlive | hmem | hmem := hok henabled
    · exact .inl hlive
    · exact .inr (.inl (List.mem_cons_of_mem _ hmem))
    · exact .inr (.inr (List.mem_cons_of_mem _ hmem))
  · rw [if_neg hrunning] at hok ⊢
    obtain ⟨hloops, hothers⟩ := hok
    have hzero : rest.countP CallPhase.Spawns = 0 := by
      rw [List.countP_eq_zero]
      exact fun c hc hspawns => hothers (of_decide_eq_true hspawns ▸ hc)
    have hone : s.loops.length + ((some CallPhase.spawn).toList ++ rest).countP
        CallPhase.Spawns ≤ 1 := by
      have hself : (some CallPhase.spawn).toList.countP CallPhase.Spawns = 1 := rfl
      rw [hloops, List.countP_append, hzero, hself]
      exact Nat.le_refl 1
    have hnoticed := h.noticed_rest hpick nofun (some .spawn)
    exact h.move hpick (some .spawn) hone (fun _ => .inr (.inr List.mem_cons_self)) hnoticed
      (.inr ⟨rfl, by rintro n ⟨⟩; rfl⟩)

theorem Inv.spawn (h : Inv s) (hpick : Pool.pick i s.calls = some (.spawn, rest)) :
    Inv { s with
      loops := .starting :: s.loops
      calls := .persistEnable :: rest } := by
  have hcount := Pool.countP_of_pick CallPhase.Spawns hpick
  have hself : CallPhase.Spawns .spawn = true := rfl
  rw [if_pos hself] at hcount
  have hone := h.one
  have hnil : s.loops = [] := List.length_eq_zero_iff.mp (by omega)
  have honly : ∀ l ∈ LoopPhase.starting :: s.loops, l = .starting := by
    intro l hl
    rw [hnil] at hl
    exact List.mem_singleton.mp hl
  constructor
  · show (LoopPhase.starting :: s.loops).length +
      (CallPhase.persistEnable :: rest).countP CallPhase.Spawns ≤ 1
    have hother : CallPhase.Spawns .persistEnable = false := rfl
    rw [List.countP_cons, hother, List.length_cons]
    simp only [Bool.false_eq_true, if_false]
    omega
  · constructor
    · intro hrunning
      obtain ⟨l, hl, -⟩ := h.running.mp hrunning
      rw [hnil] at hl
      cases hl
    · rintro ⟨l, hl, hne⟩
      exact absurd (honly l hl) hne
  · exact fun _ => .inl ⟨.starting, List.mem_cons_self, nofun⟩
  · intro l hl config hcurrent
    rw [honly l hl] at hcurrent
    cases hcurrent
  · intro l hl x hx
    rw [honly l hl] at hx
    cases hx

theorem Inv.call (h : Inv s) (hpick : Pool.pick i s.calls = some (c, rest))
    (hok : c = .load → LoadOk s rest) :
    Inv (let next := callNext { s with calls := rest } c
      { next.1 with calls := next.2.toList ++ next.1.calls }) := by
  cases c with
  | storeEnabled enable =>
      have hone := h.one_rest hpick (some (if enable then .load else .persistEnable)) (by
        rintro n ⟨⟩
        cases enable with
        | true => nofun
        | false => nofun)
      have hnoticed := h.noticed_rest hpick nofun
        (some (if enable then .load else .persistEnable))
      refine h.move hpick _ hone ?_ hnoticed (.inr ⟨rfl, ?_⟩)
      · rintro rfl
        exact .inr (.inl List.mem_cons_self)
      · rintro n ⟨⟩
        cases enable with
        | true => rfl
        | false => rfl
  | load => exact h.load hpick (hok rfl)
  | spawn => exact h.spawn hpick
  | persistEnable =>
      have hone := h.one_rest hpick none nofun
      have hnoticed := h.noticed_rest hpick nofun none
      exact h.move hpick none hone (fun henabled => looked_rest hpick nofun nofun none
        (h.looked henabled)) hnoticed (.inr ⟨rfl, nofun⟩)
  | storeConfig config =>
      have hone := h.one_rest hpick (some .flagUpdate) (by rintro n ⟨⟩; nofun)
      exact h.move hpick (some .flagUpdate) hone (fun henabled => looked_rest hpick nofun nofun
        (some .flagUpdate) (h.looked henabled)) (fun _ _ _ _ => .inr (.inr List.mem_cons_self))
        (.inl rfl)
  | flagUpdate =>
      have hone := h.one_rest hpick (some .persistConfig) (by rintro n ⟨⟩; nofun)
      exact h.move hpick (some .persistConfig) hone (fun henabled => looked_rest hpick nofun nofun
        (some .persistConfig) (h.looked henabled)) (fun _ _ _ _ => .inr (.inl rfl)) (.inl rfl)
  | persistConfig =>
      have hone := h.one_rest hpick none nofun
      have hnoticed := h.noticed_rest hpick nofun none
      exact h.move hpick none hone (fun henabled => looked_rest hpick nofun nofun none
        (h.looked henabled)) hnoticed (.inr ⟨rfl, nofun⟩)

end Call

/-! ## Steps of loops -/

section Loop

variable {s : State} {i : Nat} {l : LoopPhase} {rest : List LoopPhase}

theorem Inv.only (h : Inv s) (hpick : Pool.pick i s.loops = some (l, rest)) :
    rest = [] ∧ ∀ l' ∈ s.loops, l' = l := by
  have hlen := Pool.length_of_pick hpick
  have hone := h.one
  have hrest : rest = [] := List.length_eq_zero_iff.mp (by omega)
  refine ⟨hrest, fun l' hl' => ?_⟩
  obtain heq | hmem := (Pool.mem_iff_of_pick hpick).mp hl'
  · exact heq
  · rw [hrest] at hmem
    cases hmem

theorem Inv.running_of_pick (h : Inv s) (hpick : Pool.pick i s.loops = some (l, rest))
    (hl : l ≠ .starting) : s.running = true :=
  h.running.mpr ⟨l, (Pool.mem_of_pick hpick).1, hl⟩

theorem Inv.turn (h : Inv s) (hpick : Pool.pick i s.loops = some (l, rest)) {l' : LoopPhase}
    {running configUpdate : Bool} (hl' : l' ≠ .starting) (hrunning : running = true)
    (hlooked : s.enabled = true → l' ≠ .leaving)
    (hnoticed : ∀ config ∈ l'.current,
      config = s.config ∨ configUpdate = true ∨ .flagUpdate ∈ s.calls)
    (hchecked : ∀ x ∈ l'.checked, x.2 ≤ s.configCalls ∧ (x.2 = s.configCalls →
      (∀ c ∈ s.calls, c.SetsConfig = false) ∧ ∀ config ∈ x.1, config = s.config)) :
    Inv { s with
      running := running
      configUpdate := configUpdate
      loops := l' :: rest } := by
  obtain ⟨rfl, -⟩ := h.only hpick
  have hself : ∀ l ∈ [l'], l = l' := fun l hl => List.mem_singleton.mp hl
  have hlen := Pool.length_of_pick hpick
  constructor
  · have hone := h.one
    show [l'].length + s.calls.countP CallPhase.Spawns ≤ 1
    rw [hlen] at hone
    exact hone
  · exact ⟨fun _ => ⟨l', List.mem_cons_self, hl'⟩, fun _ => hrunning⟩
  · exact fun henabled => .inl ⟨l', List.mem_cons_self, hlooked henabled⟩
  · intro l hl
    rw [hself l hl]
    exact hnoticed
  · intro l hl
    rw [hself l hl]
    exact hchecked

theorem eq_of_since {k : Nat} (h : since s = some k) :
    k = s.configCalls ∧ ∀ c ∈ s.calls, c.SetsConfig = false := by
  unfold since at h
  split at h
  · cases h
  · next hnone =>
      refine ⟨(Option.some.inj h).symm, fun c hc => Bool.eq_false_iff.mpr fun hsets => ?_⟩
      exact hnone (List.any_eq_true.mpr ⟨c, hc, hsets⟩)

theorem Inv.checkUpdate (h : Inv s) {config : JigglerConfig}
    (hpick : Pool.pick i s.loops = some (.checkUpdate config, rest)) :
    Inv { s with
      loops := (if s.configUpdate then LoopPhase.readConfig (since s)
        else .body config (since s)) :: rest } := by
  have hmem := (Pool.mem_of_pick hpick).1
  have hrunning := h.running_of_pick hpick nofun
  by_cases hflag : s.configUpdate = true
  · rw [if_pos hflag]
    refine h.turn hpick nofun hrunning (fun _ => nofun) nofun ?_
    cases hsince : since s with
    | none => nofun
    | some k =>
        rintro x ⟨⟩
        obtain ⟨hk, hnone⟩ := eq_of_since hsince
        exact ⟨Nat.le_of_eq hk, fun _ => ⟨hnone, nofun⟩⟩
  · rw [if_neg hflag]
    have hnoticed := h.noticed _ hmem config rfl
    refine h.turn hpick nofun hrunning (fun _ => nofun) (by rintro config' ⟨⟩; exact hnoticed) ?_
    cases hsince : since s with
    | none => nofun
    | some k =>
        rintro x ⟨⟩
        obtain ⟨hk, hnone⟩ := eq_of_since hsince
        refine ⟨Nat.le_of_eq hk, fun _ => ⟨hnone, ?_⟩⟩
        rintro config' ⟨⟩
        obtain hsame | hset | hpending := hnoticed
        · exact hsame
        · exact absurd hset hflag
        · have hsets := hnone _ hpending
          cases hsets

theorem Inv.loop (h : Inv s) (hpick : Pool.pick i s.loops = some (l, rest)) (hok : ClearOk s l) :
    Inv (let next := loopNext { s with loops := rest } l
      { next.1 with loops := next.2.toList ++ next.1.loops }) := by
  have hmem := (Pool.mem_of_pick hpick).1
  cases l with
  | starting => exact h.turn hpick nofun rfl (fun _ => nofun) nofun nofun
  | readFirst =>
      have hrunning := h.running_of_pick hpick nofun
      refine h.turn hpick nofun hrunning (fun _ => nofun) ?_ nofun
      rintro config ⟨⟩
      exact .inl rfl
  | top config =>
      have hrunning := h.running_of_pick hpick nofun
      have hnoticed := h.noticed _ hmem config rfl
      by_cases henabled : s.enabled = true
      · have hgoes : Inv { s with loops := .checkUpdate config :: rest } := by
          refine h.turn hpick nofun hrunning (fun _ => nofun) ?_ nofun
          rintro config' ⟨⟩
          exact hnoticed
        show Inv { s with
          loops := (if s.enabled then LoopPhase.checkUpdate config else .leaving) :: rest }
        rw [if_pos henabled]
        exact hgoes
      · show Inv { s with
          loops := (if s.enabled then LoopPhase.checkUpdate config else .leaving) :: rest }
        rw [if_neg henabled]
        exact h.turn hpick nofun hrunning (fun htrue => absurd htrue henabled) nofun nofun
  | checkUpdate config => exact h.checkUpdate hpick
  | readConfig k =>
      have hrunning := h.running_of_pick hpick nofun
      refine h.turn hpick nofun hrunning (fun _ => nofun) nofun ?_
      cases k with
      | none => nofun
      | some k =>
          rintro x ⟨⟩
          obtain ⟨hle, hlast⟩ := h.checked _ hmem (none, k) rfl
          refine ⟨hle, fun heq => ⟨(hlast heq).1, ?_⟩⟩
          rintro config ⟨⟩
          rfl
  | clearUpdate config k =>
      have hrunning := h.running_of_pick hpick nofun
      refine h.turn hpick nofun hrunning (fun _ => nofun) ?_ ?_
      · rintro config' ⟨⟩
        obtain hsame | hpending := hok
        · exact .inl hsame
        · exact .inr (.inr hpending)
      · cases k with
        | none => nofun
        | some k => exact h.checked (.clearUpdate config (some k)) hmem
  | body config k =>
      have hrunning := h.running_of_pick hpick nofun
      refine h.turn hpick nofun hrunning (fun _ => nofun) ?_ nofun
      rintro config' ⟨⟩
      exact h.noticed _ hmem config rfl
  | leaving =>
      obtain ⟨rfl, honly⟩ := h.only hpick
      refine ⟨?_, ⟨nofun, fun ⟨l, hl, _⟩ => absurd hl List.not_mem_nil⟩, fun henabled => ?_,
        fun l hl => absurd hl List.not_mem_nil, fun l hl => absurd hl List.not_mem_nil⟩
      · have hone := h.one
        show 0 + s.calls.countP CallPhase.Spawns ≤ 1
        omega
      · obtain ⟨l, hl, hne⟩ | hcall := h.looked henabled
        · exact absurd (honly l hl) hne
        · exact .inr hcall

end Loop

/-! ## Runs -/

theorem Inv.step {s s' : State} (h : Inv s) {e : Event} (hok : Timely s e)
    (hs : step s e = some s') : Inv s' := by
  cases e with
  | setEnable enable =>
      cases hs
      refine ⟨?_, h.running, fun henabled => ?_, fun l hl config hcurrent => ?_,
        fun l hl x hx => ?_⟩
      · show s.loops.length + (CallPhase.storeEnabled enable :: s.calls).countP
          CallPhase.Spawns ≤ 1
        rw [List.countP_cons]
        exact h.one
      · obtain hlive | hmem | hmem := h.looked henabled
        · exact .inl hlive
        · exact .inr (.inl (List.mem_cons_of_mem _ hmem))
        · exact .inr (.inr (List.mem_cons_of_mem _ hmem))
      · exact (h.noticed l hl config hcurrent).imp id (.imp id (List.mem_cons_of_mem _))
      · obtain ⟨hle, hlast⟩ := h.checked l hl x hx
        refine ⟨hle, fun heq => ⟨fun c hc => ?_, (hlast heq).2⟩⟩
        obtain rfl | hc := List.mem_cons.mp hc
        · rfl
        · exact (hlast heq).1 c hc
  | setConfig config =>
      cases hs
      refine ⟨?_, h.running, fun henabled => ?_, fun l hl config' hcurrent => ?_,
        fun l hl x hx => ?_⟩
      · show s.loops.length + (CallPhase.storeConfig config :: s.calls).countP
          CallPhase.Spawns ≤ 1
        rw [List.countP_cons]
        exact h.one
      · obtain hlive | hmem | hmem := h.looked henabled
        · exact .inl hlive
        · exact .inr (.inl (List.mem_cons_of_mem _ hmem))
        · exact .inr (.inr (List.mem_cons_of_mem _ hmem))
      · exact (h.noticed l hl config' hcurrent).imp id (.imp id (List.mem_cons_of_mem _))
      · have hle := (h.checked l hl x hx).1
        refine ⟨Nat.le_succ_of_le hle, fun heq => ?_⟩
        change x.2 = s.configCalls + 1 at heq
        omega
  | call i =>
      obtain ⟨⟨c, rest⟩, hpick, rfl⟩ := Option.map_eq_some_iff.mp hs
      exact h.call hpick (hok _ hpick)
  | loop i =>
      obtain ⟨⟨l, rest⟩, hpick, rfl⟩ := Option.map_eq_some_iff.mp hs
      exact h.loop hpick (hok _ hpick)

/-- In every run of timely steps there is at most one loop, an enabled jiggler has one, and it
works with the last configuration. -/
theorem jiggles_of_timely {config : JigglerConfig} {enabled : Bool} {s : State}
    (hreach : Run.Reach step Timely (new config enabled) s) : Jiggles s :=
  (hreach.invariant (Inv.new config enabled) fun _ _ _ h hok hs => h.step hok hs).jiggles

instance (loops : List LoopPhase) (calls : List CallPhase) : Decidable (Looked loops calls) :=
  inferInstanceAs (Decidable (_ ∨ _))

instance (s : State) (others : List CallPhase) : Decidable (LoadOk s others) := by
  unfold LoadOk
  split <;> infer_instance

instance (s : State) : (l : LoopPhase) → Decidable (ClearOk s l)
  | .clearUpdate _ _ => inferInstanceAs (Decidable (_ ∨ _))
  | .starting | .readFirst | .top _ | .checkUpdate _ | .readConfig _ | .body _ _ | .leaving =>
      inferInstanceAs (Decidable True)

instance (s : State) : (e : Event) → Decidable (Timely s e)
  | .call i => inferInstanceAs (Decidable (∀ x ∈ Pool.pick i s.calls, _))
  | .loop i => inferInstanceAs (Decidable (∀ x ∈ Pool.pick i s.loops, _))
  | .setEnable _ | .setConfig _ => inferInstanceAs (Decidable True)

/-- Half a minute longer than the default. -/
def slower : JigglerConfig := { inactivityLimitSeconds := 90 }

/-- The jiggler is switched on, and gets another configuration while its loop works. -/
theorem jiggles_with_new_config :
    ∃ s, Run.Reach step Timely (new {} false) s ∧
      s.loops = [.body slower (some 1)] ∧ s.enabled = true ∧ Jiggles s := by
  have hexec : (Run.exec step (fun s e => decide (Timely s e)) (new {} false)
      [.setEnable true, .call 0, .call 0, .call 0, .call 0, .loop 0, .loop 0,
        .setConfig slower, .call 0, .call 0, .call 0,
        .loop 0, .loop 0, .loop 0, .loop 0]).map (fun s => (s.loops, s.enabled)) =
      some ([.body slower (some 1)], true) := by decide +kernel
  obtain ⟨s, hreach, hobserved⟩ :=
    Run.exists_reach_of_exec (fun _ _ => of_decide_eq_true) hexec
  exact ⟨s, hreach, (Prod.mk.inj hobserved).1, (Prod.mk.inj hobserved).2,
    jiggles_of_timely hreach⟩

/-- Switched off and on again: `run` finds the flag of the loop that has just seen the switch off,
and nothing jiggles afterwards. -/
theorem switched_on_without_loop :
    ∃ s, Run.Reach step Run.anyStep (new {} true) s ∧ s.calls = [] ∧ s.loops = [] ∧
      s.enabled = true ∧ ¬ Jiggles s := by
  have hexec : (Run.exec step (fun _ _ => true) (new {} true)
      [.loop 0, .loop 0, .setEnable false, .call 0, .call 0, .loop 0,
        .setEnable true, .call 0, .call 0, .call 0, .loop 0]).map
        (fun s => (s.calls, s.loops, s.enabled)) = some ([], [], true) := by decide +kernel
  obtain ⟨s, hreach, hobserved⟩ :=
    Run.exists_reach_of_exec (fun _ _ _ => trivial) hexec
  obtain ⟨hcalls, hobserved⟩ := Prod.mk.inj hobserved
  obtain ⟨hloops, henabled⟩ := Prod.mk.inj hobserved
  refine ⟨s, hreach, hcalls, hloops, henabled, fun h => ?_⟩
  exact h.alive hcalls (by rw [hloops]; exact List.not_mem_nil) henabled hloops

end ArkKvm.Jiggler
