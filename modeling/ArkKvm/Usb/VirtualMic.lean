import ArkKvm.Lib.Run
import ArkKvm.Lib.StartFlag

/-!
# The pipeline of the virtual microphone

`services/virtual_mic.rs`: `init` makes an output, puts it in the slot and spawns a forwarder
and a decoder thread behind the flag `RUNNING`; `uninit` sets `NEED_STOP` and shuts down the
output in the slot.  The thread clears `RUNNING` first and the slot after it, so that a new
output can come in between.

Outputs are numbered as they are made, and everything of a pipeline goes by the number of its
output.  What the codec makes of a sample is left out.
-/

namespace ArkKvm.VirtualMic

open Lib Lib.Run

inductive Phase
  | putSlot
  | spawnForwarder (n : Nat)
  | spawnDecoder (n : Nat)
  | create (n : Nat)
  | decode (n : Nat)
  | leave (n : Nat)
deriving DecidableEq

/-- The output of the pipeline, once it is made. -/
def Phase.output : Phase → Option Nat
  | .putSlot => none
  | .spawnForwarder n | .spawnDecoder n | .create n | .decode n | .leave n => some n

/-- What `recv_timeout` of a forwarder comes to. -/
inductive Recv (Sample : Type)
  | timeout
  | sample (x : Sample)
  | failed

section

variable {Sample : Type}

/-- A forwarder has `true` when it has looked at `NEED_STOP` in its round.  `clearing` are the
threads that have cleared `RUNNING` and not the slot, `stopping` the calls of `uninit` that have
not looked at the slot.  `received`, `queue` and `taken` are the
samples that a forwarder got, that are in its channel and that its decoder took. -/
structure State (Sample : Type) where
  running : StartFlag Unit Phase := .clear
  needStop : Bool := false
  slot : Option Nat := none
  made : Nat := 0
  shut : List Nat := []
  forwarders : List (Nat × Bool) := []
  clearing : List Nat := []
  stopping : Nat := 0
  received : Nat → List Sample := fun _ => []
  queue : Nat → List Sample := fun _ => []
  taken : Nat → List Sample := fun _ => []

def State.receiving (n : Nat) (s : State Sample) : Bool :=
  s.clearing.contains n || s.running.tasks.any fun phase => phase.output = some n

def State.setTasks (tasks : List Phase) (s : State Sample) : State Sample :=
  { s with running := { s.running with tasks := tasks } }

/-- The next step of a pipeline, when the others are `rest`; `ok` tells whether the codec is
created. -/
def pipelineNext (ok : Bool) (rest : List Phase) (s : State Sample) :
    Phase → Option (State Sample)
  | .putSlot =>
      some { s.setTasks (.spawnForwarder s.made :: rest) with
        slot := some s.made
        made := s.made + 1 }
  | .spawnForwarder n =>
      some { s.setTasks (.spawnDecoder n :: rest) with forwarders := s.forwarders ++ [(n, false)] }
  | .spawnDecoder n => some (s.setTasks (.create n :: rest))
  | .create n => some (s.setTasks ((if ok then .decode n else .leave n) :: rest))
  | .decode n =>
      match s.queue n with
      | x :: xs =>
          some { s with
            queue := Function.update s.queue n xs
            taken := Function.update s.taken n (s.taken n ++ [x]) }
      | [] =>
          -- the thread waits as long as there is a sender
          if s.forwarders.any fun f => f.1 = n then none
          else some (s.setTasks (.leave n :: rest))
  | .leave n =>
      some { s with
        running := { s.running with
          flag := false
          tasks := rest }
        clearing := n :: s.clearing }

/-- The next step of the `i`-th forwarder, which belongs to `n`; `passed` tells whether it has
looked at `NEED_STOP` in this round. -/
def forwarderNext (i n : Nat) (recv : Recv Sample) (s : State Sample) (passed : Bool) :
    State Sample :=
  if passed then
    match recv with
    | .timeout => { s with forwarders := s.forwarders.set i (n, false) }
    | .failed => { s with forwarders := s.forwarders.eraseIdx i }
    | .sample x =>
        if s.receiving n then
          { s with
            forwarders := s.forwarders.set i (n, false)
            received := Function.update s.received n (s.received n ++ [x])
            queue := Function.update s.queue n (s.queue n ++ [x]) }
        else { s with forwarders := s.forwarders.eraseIdx i }
  else if s.needStop then { s with forwarders := s.forwarders.eraseIdx i }
  else { s with forwarders := s.forwarders.set i (n, true) }

/-- `uninit` shuts down what it takes out of the slot. -/
def takeSlot (s : State Sample) : State Sample :=
  { s with
    stopping := s.stopping - 1
    shut := s.slot.toList ++ s.shut
    slot := none }

inductive Event (Sample : Type)
  | init
  /-- the next step of a call of `init` -/
  | start (i : Nat)
  | pipeline (i : Nat) (ok : Bool)
  | forward (i : Nat) (recv : Recv Sample)
  | clearSlot (i : Nat)
  | uninit
  | takeSlot

def step (s : State Sample) : Event Sample → Option (State Sample)
  | .init => some { s with running := s.running.call () }
  | .start i =>
      (s.running.start (fun _ => .putSlot) i).map fun running =>
        { s with
          running := running
          -- the last step of the call before the output is made
          needStop := s.needStop && !s.running.starters[i]?.any fun x => x.1 = .spawn }
  | .pipeline i ok =>
      (Pool.pick i s.running.tasks).bind fun x => pipelineNext ok x.2 s x.1
  | .forward i recv => s.forwarders[i]?.map fun f => forwarderNext i f.1 recv s f.2
  | .clearSlot i =>
      s.clearing[i]?.map fun _ =>
        { s with
          clearing := s.clearing.eraseIdx i
          slot := none }
  | .uninit =>
      some { s with
        needStop := true
        stopping := s.stopping + 1 }
  | .takeSlot => if 0 < s.stopping then some (takeSlot s) else none

/-- No two calls of `init` pass the flag at once, and no output is put in the slot while a
thread is about to clear it. -/
def Orderly (s : State Sample) : Event Sample → Prop
  | .start i => s.running.PassesAlone i
  | .pipeline i _ => ∀ phase ∈ s.running.tasks[i]?, phase = .putSlot → s.clearing = []
  | _ => True

/-- There is at most one pipeline, under the flag.  Its output is the one in the slot unless it
was shut down, the slot holds no other, and its decoder takes the samples of its forwarder in
their order. -/
structure Sound (s : State Sample) : Prop where
  one : s.running.tasks.length ≤ 1
  flagged : s.running.tasks ≠ [] → s.running.flag = true
  stoppable : ∀ phase ∈ s.running.tasks, ∀ n, phase.output = some n →
    s.slot = some n ∨ n ∈ s.shut
  current : ∀ n, s.slot = some n →
    (∃ phase ∈ s.running.tasks, phase.output = some n) ∨ n ∈ s.clearing
  order : ∀ n, s.received n = s.taken n ++ s.queue n

/-! ## The slot -/

/-- No thread is about to clear the slot of a pipeline that has an output. -/
structure Tracked (s : State Sample) : Prop where
  flag : s.running.AtMostOne
  quiet : ∀ phase ∈ s.running.tasks, ∀ n, phase.output = some n → s.clearing = []
  stoppable : ∀ phase ∈ s.running.tasks, ∀ n, phase.output = some n →
    s.slot = some n ∨ n ∈ s.shut
  current : ∀ n, s.slot = some n →
    (∃ phase ∈ s.running.tasks, phase.output = some n) ∨ n ∈ s.clearing

variable {s s' : State Sample}

theorem Tracked.keep {p p' : Phase} (h : Tracked s) (htasks : s.running.tasks = [p])
    (hout : p'.output = p.output) : Tracked (s.setTasks [p']) := by
  have hquiet := h.quiet
  have hstoppable := h.stoppable
  have hcurrent := h.current
  rw [htasks] at hquiet hstoppable hcurrent
  simp only [List.mem_singleton, forall_eq, exists_eq_left] at hquiet hstoppable hcurrent
  refine ⟨h.flag.tasks (by rw [htasks]; rfl), ?_, ?_, ?_⟩
  · simp only [State.setTasks, List.mem_singleton, forall_eq, hout]
    exact hquiet
  · simp only [State.setTasks, List.mem_singleton, forall_eq, hout]
    exact hstoppable
  · simp only [State.setTasks, List.mem_singleton, exists_eq_left, hout]
    exact hcurrent

theorem Tracked.putSlot (h : Tracked s) (htasks : s.running.tasks = [.putSlot])
    (hclear : s.clearing = []) :
    Tracked { s.setTasks [.spawnForwarder s.made] with
      slot := some s.made
      made := s.made + 1 } := by
  refine ⟨h.flag.tasks (by rw [htasks]; rfl), fun _ _ _ _ => hclear, ?_, fun n hn => .inl ?_⟩
  · simp only [State.setTasks, List.mem_singleton, forall_eq]
    exact fun n hn => .inl hn
  · exact ⟨.spawnForwarder s.made, List.mem_singleton_self _, hn⟩

theorem Tracked.leave (h : Tracked s) {i n : Nat} {rest : List Phase}
    (hpick : Pool.pick i s.running.tasks = some (.leave n, rest)) :
    Tracked { s with
      running := { s.running with
        flag := false
        tasks := rest }
      clearing := n :: s.clearing } := by
  obtain ⟨htasks, rfl⟩ := h.flag.only hpick
  refine ⟨h.flag.finish hpick, fun p hp => absurd hp List.not_mem_nil,
    fun p hp => absurd hp List.not_mem_nil, fun m hm => .inr ?_⟩
  rcases h.current m hm with ⟨p, hp, hout⟩ | hclearing
  · rw [htasks, List.mem_singleton] at hp
    obtain rfl := hp
    obtain rfl := Option.some.inj hout
    exact List.mem_cons_self
  · exact List.mem_cons_of_mem n hclearing

theorem Tracked.clearSlot (h : Tracked s) {i m : Nat} (hi : s.clearing[i]? = some m) :
    Tracked { s with
      clearing := s.clearing.eraseIdx i
      slot := none } := by
  have hsome : s.clearing ≠ [] := List.ne_nil_of_mem (List.mem_of_getElem? hi)
  refine ⟨h.flag, fun p hp n hout => ?_, fun p hp n hout => ?_, fun n hn => by cases hn⟩
  · exact absurd (h.quiet p hp n hout) hsome
  · exact absurd (h.quiet p hp n hout) hsome

theorem Tracked.takeSlot (h : Tracked s) : Tracked (takeSlot s) := by
  refine ⟨h.flag, h.quiet, fun p hp n hout => .inr ?_, fun n hn => by cases hn⟩
  rcases h.stoppable p hp n hout with hslot | hshut
  · simp [VirtualMic.takeSlot, hslot]
  · exact List.mem_append_right _ hshut

/-- A call of `init` adds at most a pipeline without an output. -/
theorem Tracked.start (h : Tracked s) {i : Nat} {running : StartFlag Unit Phase}
    (halone : s.running.PassesAlone i)
    (hs : s.running.start (fun _ => .putSlot) i = some running) (needStop : Bool) :
    Tracked { s with
      running := running
      needStop := needStop } := by
  have hflag := h.flag.start halone hs
  obtain ⟨-, -, hfrom⟩ := StartFlag.start_mem hs
  have hold : ∀ p ∈ running.tasks, ∀ n, p.output = some n → p ∈ s.running.tasks := by
    intro p hp n hout
    rcases hfrom p hp with hmem | ⟨y, -, rfl⟩
    · exact hmem
    · cases hout
  have hkept : ∀ p ∈ s.running.tasks, p ∈ running.tasks := StartFlag.tasks_subset_start hs
  refine ⟨hflag, fun p hp n hout => h.quiet p (hold p hp n hout) n hout,
    fun p hp n hout => h.stoppable p (hold p hp n hout) n hout, fun n hn => ?_⟩
  rcases h.current n hn with ⟨p, hp, hout⟩ | hclearing
  · exact .inl ⟨p, hkept p hp, hout⟩
  · exact .inr hclearing

/-! ## Runs -/

theorem Tracked.of_eq (h : Tracked s) (hrunning : s'.running = s.running)
    (hslot : s'.slot = s.slot) (hshut : s'.shut = s.shut) (hclearing : s'.clearing = s.clearing) :
    Tracked s' := by
  refine ⟨?_, ?_, ?_, ?_⟩
  · rw [hrunning]
    exact h.flag
  · rw [hrunning, hclearing]
    exact h.quiet
  · rw [hrunning, hslot, hshut]
    exact h.stoppable
  · rw [hrunning, hslot, hclearing]
    exact h.current

theorem Tracked.forward (h : Tracked s) (i n : Nat) (recv : Recv Sample) (passed : Bool) :
    Tracked (forwarderNext i n recv s passed) := by
  unfold forwarderNext
  cases passed with
  | false =>
      rw [if_neg Bool.false_ne_true]
      by_cases hstop : s.needStop = true
      · rw [if_pos hstop]
        exact h.of_eq rfl rfl rfl rfl
      · rw [if_neg hstop]
        exact h.of_eq rfl rfl rfl rfl
  | true =>
      rw [if_pos rfl]
      cases recv with
      | timeout | failed => exact h.of_eq rfl rfl rfl rfl
      | sample x =>
          by_cases hreceiving : s.receiving n = true
          · simp only [if_pos hreceiving]
            exact h.of_eq rfl rfl rfl rfl
          · simp only [if_neg hreceiving]
            exact h.of_eq rfl rfl rfl rfl

theorem Tracked.pipeline (h : Tracked s) {i : Nat} {ok : Bool} {phase : Phase}
    {rest : List Phase} (hpick : Pool.pick i s.running.tasks = some (phase, rest))
    (hclear : phase = .putSlot → s.clearing = [])
    (hnext : pipelineNext ok rest s phase = some s') : Tracked s' := by
  obtain ⟨htasks, hrest⟩ := h.flag.only hpick
  cases phase with
  | putSlot =>
      subst hrest
      cases hnext
      exact h.putSlot htasks (hclear rfl)
  | spawnForwarder n =>
      subst hrest
      cases hnext
      have hkept : Tracked (s.setTasks [.spawnDecoder n]) := h.keep htasks rfl
      exact hkept.of_eq rfl rfl rfl rfl
  | spawnDecoder n =>
      subst hrest
      cases hnext
      exact h.keep htasks rfl
  | create n =>
      subst hrest
      cases hnext
      cases ok with
      | false => exact h.keep htasks rfl
      | true => exact h.keep htasks rfl
  | decode n =>
      subst hrest
      simp only [pipelineNext] at hnext
      cases hqueue : s.queue n with
      | cons x xs =>
          rw [hqueue] at hnext
          cases hnext
          exact h.of_eq rfl rfl rfl rfl
      | nil =>
          rw [hqueue] at hnext
          by_cases hsender : (s.forwarders.any fun f => f.1 = n) = true
          · simp only [if_pos hsender] at hnext
            cases hnext
          · simp only [if_neg hsender] at hnext
            cases hnext
            exact h.keep htasks rfl
  | leave n =>
      cases hnext
      exact h.leave hpick

theorem Tracked.step {e : Event Sample} (h : Tracked s) (hok : Orderly s e)
    (hstep : step s e = some s') : Tracked s' := by
  cases e with
  | init =>
      cases hstep
      exact ⟨h.flag.call (), h.quiet, h.stoppable, h.current⟩
  | start i =>
      obtain ⟨running, hs, rfl⟩ := Option.map_eq_some_iff.mp hstep
      exact h.start hok hs _
  | pipeline i ok =>
      obtain ⟨⟨phase, rest⟩, hpick, hnext⟩ := Option.bind_eq_some_iff.mp hstep
      exact h.pipeline hpick (hok phase (Pool.getElem?_of_pick hpick)) hnext
  | forward i recv =>
      obtain ⟨f, -, rfl⟩ := Option.map_eq_some_iff.mp hstep
      exact h.forward i f.1 recv f.2
  | clearSlot i =>
      obtain ⟨m, hi, rfl⟩ := Option.map_eq_some_iff.mp hstep
      exact h.clearSlot hi
  | uninit =>
      cases hstep
      exact h.of_eq rfl rfl rfl rfl
  | takeSlot =>
      simp only [VirtualMic.step] at hstep
      by_cases hstopping : 0 < s.stopping
      · rw [if_pos hstopping] at hstep
        cases hstep
        exact h.takeSlot
      · rw [if_neg hstopping] at hstep
        cases hstep

/-- Samples move from the channel to the decoder in their order. -/
def InOrder (s : State Sample) : Prop := ∀ n, s.received n = s.taken n ++ s.queue n

theorem InOrder.received (h : InOrder s) (n : Nat) (x : Sample) (m : Nat) :
    Function.update s.received n (s.received n ++ [x]) m =
      s.taken m ++ Function.update s.queue n (s.queue n ++ [x]) m := by
  rcases eq_or_ne m n with rfl | hne
  · rw [Function.update_self, Function.update_self, h m, List.append_assoc]
  · rw [Function.update_of_ne hne, Function.update_of_ne hne]
    exact h m

theorem InOrder.taken (h : InOrder s) {n : Nat} {x : Sample} {xs : List Sample}
    (hqueue : s.queue n = x :: xs) (m : Nat) :
    s.received m = Function.update s.taken n (s.taken n ++ [x]) m ++
      Function.update s.queue n xs m := by
  rcases eq_or_ne m n with rfl | hne
  · rw [Function.update_self, Function.update_self, h m, hqueue, List.append_assoc]
    rfl
  · rw [Function.update_of_ne hne, Function.update_of_ne hne]
    exact h m

theorem InOrder.forward (h : InOrder s) (i n : Nat) (recv : Recv Sample) (passed : Bool) :
    InOrder (forwarderNext i n recv s passed) := by
  unfold forwarderNext
  cases passed with
  | false =>
      rw [if_neg Bool.false_ne_true]
      by_cases hstop : s.needStop = true
      · rw [if_pos hstop]
        exact h
      · rw [if_neg hstop]
        exact h
  | true =>
      rw [if_pos rfl]
      cases recv with
      | timeout | failed => exact h
      | sample x =>
          by_cases hreceiving : s.receiving n = true
          · simp only [if_pos hreceiving]
            exact h.received n x
          · simp only [if_neg hreceiving]
            exact h

theorem InOrder.pipeline (h : InOrder s) {ok : Bool} {phase : Phase} {rest : List Phase}
    (hnext : pipelineNext ok rest s phase = some s') : InOrder s' := by
  cases phase with
  | putSlot | spawnForwarder n | spawnDecoder n | create n | leave n =>
      cases hnext
      exact h
  | decode n =>
      simp only [pipelineNext] at hnext
      cases hqueue : s.queue n with
      | cons x xs =>
          rw [hqueue] at hnext
          cases hnext
          exact h.taken hqueue
      | nil =>
          rw [hqueue] at hnext
          by_cases hsender : (s.forwarders.any fun f => f.1 = n) = true
          · simp only [if_pos hsender] at hnext
            cases hnext
          · simp only [if_neg hsender] at hnext
            cases hnext
            exact h

theorem InOrder.step {e : Event Sample} (h : InOrder s) (hstep : step s e = some s') :
    InOrder s' := by
  cases e with
  | init | uninit =>
      cases hstep
      exact h
  | start i | clearSlot i =>
      obtain ⟨_, -, rfl⟩ := Option.map_eq_some_iff.mp hstep
      exact h
  | pipeline i ok =>
      obtain ⟨_, -, hnext⟩ := Option.bind_eq_some_iff.mp hstep
      exact h.pipeline hnext
  | forward i recv =>
      obtain ⟨f, -, rfl⟩ := Option.map_eq_some_iff.mp hstep
      exact h.forward i f.1 recv f.2
  | takeSlot =>
      simp only [VirtualMic.step] at hstep
      by_cases hstopping : 0 < s.stopping
      · rw [if_pos hstopping] at hstep
        cases hstep
        exact h
      · rw [if_neg hstopping] at hstep
        cases hstep

theorem Tracked.sound (h : Tracked s) (horder : InOrder s) : Sound s := by
  refine ⟨h.flag.length_tasks_le, fun hsome => ?_, h.stoppable, h.current, horder⟩
  by_contra hflag
  have hholders := h.flag.holders
  rw [if_neg hflag] at hholders
  exact hsome (List.length_eq_zero_iff.mp (by omega))

end

/-- In every orderly run there is at most one pipeline, and `uninit` finds its output in the
slot. -/
theorem one_pipeline {Sample : Type} {s : State Sample} (h : Reach step Orderly {} s) :
    Sound s := by
  have htracked : Tracked s := by
    refine Reach.invariant (P := Tracked) ?_ (fun _ _ _ hs hok hstep => hs.step hok hstep) h
    exact ⟨StartFlag.atMostOne_clear, fun p hp => absurd hp List.not_mem_nil,
      fun p hp => absurd hp List.not_mem_nil, fun n hn => (by cases hn)⟩
  have horder : InOrder s :=
    Reach.invariant (P := InOrder) (fun _ => rfl) (fun _ _ _ hs _ hstep => hs.step hstep) h
  exact htracked.sound horder

instance {Sample : Type} (s : State Sample) (e : Event Sample) : Decidable (Orderly s e) :=
  match e with
  | .start i => inferInstanceAs (Decidable (s.running.PassesAlone i))
  | .pipeline i _ =>
      inferInstanceAs
        (Decidable (∀ phase ∈ s.running.tasks[i]?, phase = .putSlot → s.clearing = []))
  | .init | .forward _ _ | .clearSlot _ | .uninit | .takeSlot => .isTrue trivial

/-- The microphone is started, stopped while a sample is on its way, and started again. -/
def restart : List (Event Nat) :=
  [.init, .start 0, .start 0, .start 0, .pipeline 0 true, .pipeline 0 true, .pipeline 0 true,
    .pipeline 0 true, .forward 0 .timeout, .uninit, .takeSlot, .forward 0 (.sample 7),
    .forward 0 .timeout, .pipeline 0 true, .pipeline 0 true, .pipeline 0 true, .clearSlot 0,
    .init, .start 0, .start 0, .start 0, .pipeline 0 true]

theorem one_pipeline_restart :
    ∃ s : State Nat, Reach step Orderly {} s ∧ s.running.tasks = [.spawnForwarder 1] ∧
      s.slot = some 1 ∧ s.shut = [0] ∧ s.taken 0 = [7] ∧ Sound s := by
  have hexec : (exec step (fun s e => decide (Orderly s e)) {} restart).map
      (fun s => (s.running.tasks, s.slot, s.shut, s.taken 0)) =
        some ([.spawnForwarder 1], some 1, [0], [7]) := by
    decide +kernel
  obtain ⟨s, hs, hobserved⟩ := exists_reach_of_exec (fun _ _ h => of_decide_eq_true h) hexec
  obtain ⟨htasks, hslot, hshut, htaken⟩ := by simpa using hobserved
  exact ⟨s, hs, htasks, hslot, hshut, htaken, one_pipeline hs⟩

/-- The codec of the first pipeline cannot be created, and its thread clears the slot only when
the second one decodes: `uninit` will not find that output. -/
def lateClear : List (Event Nat) :=
  [.init, .start 0, .start 0, .start 0, .pipeline 0 true, .pipeline 0 true, .pipeline 0 true,
    .pipeline 0 false, .pipeline 0 true, .init, .start 0, .start 0, .start 0, .pipeline 0 true,
    .pipeline 0 true, .pipeline 0 true, .pipeline 0 true, .clearSlot 0]

example : (exec step (fun _ _ => true) {} lateClear).map
    (fun s => (s.running.tasks, s.slot, s.shut)) = some ([.decode 1], none, []) := by
  decide +kernel

end ArkKvm.VirtualMic
