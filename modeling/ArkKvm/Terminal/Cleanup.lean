import ArkKvm.Terminal.Actor

/-!
# The end of a terminal task

The task that `attach` spawns, from the wait for the data channel to its end: which of its
exits remove the files of the session, and what becomes of the child.
-/

namespace ArkKvm.Terminal

open Lib.Run (Reach anyStep)

inductive ChildState
  | running
  | exited
  | killed
deriving DecidableEq

/-- Where the task is.  The files to remove pass from the spawn slot to the actor. -/
inductive Phase
  /-- the wait for the channel to open -/
  | opening
  /-- the start of the PTY -/
  | booting
  /-- the registration of the PTY -/
  | registering (cleanupPaths : List String)
  | acting (cleanupPaths : List String) (actor : Actor)
  | reclaiming (cleanupPaths : List String)
  | cleaning (rest : List String)
  | ended

structure TerminalTask where
  phase : Phase
  cancelled : Bool
  /-- `started` of `attach` -/
  started : Bool
  /-- the files of the `SpawnSpec`, as long as it is in its slot -/
  spawnSlot : Option (List String)
  child : Option ChildState
  /-- the files whose removal was tried -/
  removed : List String

namespace TerminalTask

inductive Event
  /-- the channel closes, or the handle is stopped or dropped -/
  | cancel
  | childExits
  | seeCancel
  | opened (ok : Bool)
  /-- `start_pty_with_command` -/
  | boot (ok : Bool)
  | register (ok : Bool)
  | act (ev : Terminal.Event)
  | reclaim
  | remove (ok : Bool)
  | close

/-- The task that `attach` spawns for a `SpawnSpec`. -/
def attached (cleanupPaths : List String) : TerminalTask where
  phase := .opening
  cancelled := false
  started := false
  spawnSlot := some cleanupPaths
  child := none
  removed := []

def kill (child : Option ChildState) : Option ChildState :=
  if child = some .running then some .killed else child

def finish (s : TerminalTask) : TerminalTask := { s with phase := .ended, child := kill s.child }

def afterStep (cleanupPaths : List String) (actor : Actor) : Phase :=
  match actor.point with
  | .left _ => if actor.childAlive then .reclaiming cleanupPaths else .cleaning cleanupPaths
  | _ => .acting cleanupPaths actor

/-- `try_wait` tells whether the child has exited. -/
def admits (child : Option ChildState) : Terminal.Event → Bool
  | .cancel => false
  | .reap .exited => child = some .exited
  | .reap .running => child = some .running
  | _ => true

def step (s : TerminalTask) : Event → Option TerminalTask
  | .cancel => some { s with
      cancelled := true
      phase := match s.phase with
        | .acting paths actor => .acting paths { actor with cancelled := true }
        | phase => phase }
  | .childExits => if s.child = some .running then some { s with child := some .exited } else none
  | ev =>
      match s.phase, ev with
      | .opening, .seeCancel => if s.cancelled then some s.finish else none
      | .opening, .opened ok =>
          if s.cancelled then none else some (if ok then { s with phase := .booting } else s.finish)
      | .booting, .boot ok =>
          if s.started then some s.finish
          else
            match s.spawnSlot with
            | none => some s.finish
            | some paths =>
                if ok then some { s with
                  phase := .registering paths
                  started := true
                  spawnSlot := none
                  child := some .running }
                else some { s with spawnSlot := none }.finish
      | .registering paths, .register ok => some { s with
          phase := if ok then .acting paths { cancelled := s.cancelled } else .reclaiming paths }
      | .acting paths actor, .act ev =>
          if admits s.child ev then
            (actor.step ev).map fun actor => { s with phase := afterStep paths actor }
          else none
      | .reclaiming paths, .reclaim => some { s with
          phase := .cleaning paths
          child := kill s.child }
      | .cleaning (path :: rest), .remove _ => some { s with
          phase := .cleaning rest
          removed := s.removed ++ [path] }
      | .cleaning [], .close => some s.finish
      | _, _ => none

/-! ## What the end leaves -/

/-- Every file of the session was removed or its removal tried, and no child runs. -/
def CleanedUp (paths : List String) (s : TerminalTask) : Prop :=
  (∀ path ∈ paths, path ∈ s.removed) ∧ s.child ≠ some .running

def Abandons : Event → Prop
  | .seeCancel | .opened false | .boot false => True
  | _ => False

/-- There is nothing to remove, or the step does not give the task up. -/
def Completes (paths : List String) (_ : TerminalTask) (ev : Event) : Prop :=
  paths = [] ∨ ¬ Abandons ev

def PhaseOk (paths : List String) (s : TerminalTask) : Phase → Prop
  | .opening | .booting =>
      s.started = false ∧ s.spawnSlot = some paths ∧ s.child = none ∧ s.removed = []
  | .registering cleanupPaths | .acting cleanupPaths _ | .reclaiming cleanupPaths =>
      cleanupPaths = paths
  | .cleaning rest => ∀ path ∈ paths, path ∈ s.removed ∨ path ∈ rest
  | .ended => True

def Inv (paths : List String) (s : TerminalTask) : Prop := PhaseOk paths s s.phase

variable {paths : List String} {s s' : TerminalTask} {ev : Event}

theorem kill_ne_running (child : Option ChildState) : kill child ≠ some .running := by
  unfold kill
  split
  · nofun
  · next h => exact h

/-- What a step does: where it gives the task up nothing was removed, and where it ends the
task otherwise all is cleaned up. -/
structure StepOk (paths : List String) (s : TerminalTask) (ev : Event) (s' : TerminalTask) :
    Prop where
  inv : Inv paths s'
  abandoned : Abandons ev → s'.phase = .ended ∧ s'.removed = [] ∧ s'.child = none
  ended : ¬ Abandons ev → s'.phase = .ended → (s.phase = .ended → CleanedUp paths s) →
    CleanedUp paths s'

theorem stepOk_goes (hinv : Inv paths s') (hnot : ¬ Abandons ev) (hphase : s'.phase ≠ .ended) :
    StepOk paths s ev s' :=
  ⟨hinv, fun h => absurd h hnot, fun _ h => absurd h hphase⟩

theorem stepOk_cancel (h : Inv paths s) (hstep : step s .cancel = some s') :
    StepOk paths s .cancel s' := by
  cases hstep
  refine ⟨?_, nofun, fun _ hended hbefore => ?_⟩
  · unfold Inv at h ⊢
    dsimp only
    cases hphase : s.phase <;> rw [hphase] at h <;> exact h
  · dsimp only at hended
    have hphase : s.phase = .ended := by
      cases hphase : s.phase <;> rw [hphase] at hended <;> cases hended
    exact hbefore hphase

theorem stepOk_childExits (h : Inv paths s) (hstep : step s .childExits = some s') :
    StepOk paths s .childExits s' := by
  unfold step at hstep
  dsimp only at hstep
  split at hstep
  · next hrunning =>
      cases hstep
      refine ⟨?_, nofun, fun _ hended hbefore => ⟨(hbefore hended).1, nofun⟩⟩
      unfold Inv at h ⊢
      dsimp only
      cases hphase : s.phase with
      | opening | booting =>
          rw [hphase] at h
          obtain ⟨-, -, hchild, -⟩ := h
          rw [hchild] at hrunning
          cases hrunning
      | registering | acting | reclaiming | cleaning | ended =>
          rw [hphase] at h
          exact h
  · cases hstep

theorem stepOk_abandons {t : TerminalTask} (habandons : Abandons ev) (hremoved : t.removed = [])
    (hchild : t.child = none) : StepOk paths s ev t.finish := by
  have hfinish : t.finish.child = none := by
    show kill t.child = none
    rw [hchild]
    rfl
  exact ⟨trivial, fun _ => ⟨rfl, hremoved, hfinish⟩, fun hnot => absurd habandons hnot⟩

theorem stepOk_act {cleanupPaths : List String} {actor : Actor} {e : Terminal.Event}
    (hphase : s.phase = .acting cleanupPaths actor) (hpaths : cleanupPaths = paths)
    (hstep : step s (.act e) = some s') : StepOk paths s (.act e) s' := by
  unfold step at hstep
  dsimp only at hstep
  rw [hphase] at hstep
  dsimp only at hstep
  split at hstep
  · obtain ⟨actor', -, hs'⟩ := Option.map_eq_some_iff.mp hstep
    rw [← hs']
    refine stepOk_goes ?_ nofun ?_
    · unfold Inv afterStep
      dsimp only
      split
      · split
        · exact hpaths
        · intro path hpath
          rw [hpaths]
          exact Or.inr hpath
      · exact hpaths
    · unfold afterStep
      dsimp only
      split
      · split
        · nofun
        · nofun
      · nofun
  · cases hstep

theorem stepOk_boot {ok : Bool} (h : PhaseOk paths s .booting) (hphase : s.phase = .booting)
    (hstep : step s (.boot ok) = some s') : StepOk paths s (.boot ok) s' := by
  obtain ⟨hstarted, hslot, hchild, hremoved⟩ := h
  unfold step at hstep
  dsimp only at hstep
  rw [hphase, hstarted, hslot] at hstep
  cases ok with
  | true =>
      cases hstep
      exact stepOk_goes rfl nofun nofun
  | false =>
      cases hstep
      exact stepOk_abandons trivial hremoved hchild

theorem stepOk_remove {ok : Bool} {path : String} {rest : List String}
    (h : PhaseOk paths s (.cleaning (path :: rest))) (hphase : s.phase = .cleaning (path :: rest))
    (hstep : step s (.remove ok) = some s') : StepOk paths s (.remove ok) s' := by
  unfold step at hstep
  dsimp only at hstep
  rw [hphase] at hstep
  cases hstep
  refine stepOk_goes ?_ nofun nofun
  intro p hp
  obtain hremoved | hleft := h p hp
  · exact Or.inl (List.mem_append_left _ hremoved)
  · obtain rfl | hrest := List.mem_cons.mp hleft
    · exact Or.inl (List.mem_append_right _ (List.mem_singleton_self p))
    · exact Or.inr hrest

theorem stepOk_close (h : PhaseOk paths s (.cleaning [])) (hphase : s.phase = .cleaning [])
    (hstep : step s .close = some s') : StepOk paths s .close s' := by
  unfold step at hstep
  dsimp only at hstep
  rw [hphase] at hstep
  cases hstep
  refine ⟨trivial, nofun, fun _ _ _ => ⟨fun path hpath => ?_, kill_ne_running s.child⟩⟩
  obtain hremoved | hleft := h path hpath
  · exact hremoved
  · cases hleft

theorem stepOk_seeCancel (h : PhaseOk paths s .opening) (hphase : s.phase = .opening)
    (hstep : step s .seeCancel = some s') : StepOk paths s .seeCancel s' := by
  obtain ⟨-, -, hchild, hremoved⟩ := h
  unfold step at hstep
  dsimp only at hstep
  rw [hphase] at hstep
  dsimp only at hstep
  split at hstep
  · cases hstep
    exact stepOk_abandons trivial hremoved hchild
  · cases hstep

theorem stepOk_opened {ok : Bool} (h : PhaseOk paths s .opening) (hphase : s.phase = .opening)
    (hstep : step s (.opened ok) = some s') : StepOk paths s (.opened ok) s' := by
  unfold step at hstep
  dsimp only at hstep
  rw [hphase] at hstep
  dsimp only at hstep
  split at hstep
  · cases hstep
  · cases ok with
    | true =>
        cases hstep
        exact stepOk_goes h nofun nofun
    | false =>
        obtain ⟨-, -, hchild, hremoved⟩ := h
        cases hstep
        exact stepOk_abandons trivial hremoved hchild

theorem step_spec (h : Inv paths s) (hstep : step s ev = some s') : StepOk paths s ev s' := by
  have hok : PhaseOk paths s s.phase := h
  cases ev with
  | cancel => exact stepOk_cancel h hstep
  | childExits => exact stepOk_childExits h hstep
  | seeCancel =>
      cases hphase : s.phase with
      | opening => exact stepOk_seeCancel (hphase ▸ hok) hphase hstep
      | _ => simp [step, hphase] at hstep
  | opened ok =>
      cases hphase : s.phase with
      | opening => exact stepOk_opened (hphase ▸ hok) hphase hstep
      | _ => simp [step, hphase] at hstep
  | boot ok =>
      cases hphase : s.phase with
      | booting => exact stepOk_boot (hphase ▸ hok) hphase hstep
      | _ => simp [step, hphase] at hstep
  | register ok =>
      cases hphase : s.phase with
      | registering cleanupPaths =>
          have hpaths : cleanupPaths = paths := by
            rw [hphase] at hok
            exact hok
          simp only [step, hphase, Option.some.injEq] at hstep
          subst hstep
          cases ok with
          | true => exact stepOk_goes hpaths nofun nofun
          | false => exact stepOk_goes hpaths nofun nofun
      | _ => simp [step, hphase] at hstep
  | act e =>
      cases hphase : s.phase with
      | acting cleanupPaths actor =>
          rw [hphase] at hok
          exact stepOk_act hphase hok hstep
      | _ => simp [step, hphase] at hstep
  | reclaim =>
      cases hphase : s.phase with
      | reclaiming cleanupPaths =>
          have hpaths : cleanupPaths = paths := by
            rw [hphase] at hok
            exact hok
          simp only [step, hphase, Option.some.injEq] at hstep
          subst hstep
          refine stepOk_goes (fun path hpath => Or.inr ?_) nofun nofun
          rw [hpaths]
          exact hpath
      | _ => simp [step, hphase] at hstep
  | remove ok =>
      cases hphase : s.phase with
      | cleaning rest =>
          cases rest with
          | nil => simp [step, hphase] at hstep
          | cons path rest => exact stepOk_remove (hphase ▸ hok) hphase hstep
      | _ => simp [step, hphase] at hstep
  | close =>
      cases hphase : s.phase with
      | cleaning rest =>
          cases rest with
          | nil => exact stepOk_close (hphase ▸ hok) hphase hstep
          | cons path rest => simp [step, hphase] at hstep
      | _ => simp [step, hphase] at hstep

/-! ## Whole runs -/

theorem inv_attached (paths : List String) : Inv paths (attached paths) :=
  ⟨rfl, rfl, rfl, rfl⟩

theorem reach_inv (h : Reach step anyStep (attached paths) s) : Inv paths s := by
  refine h.invariant (inv_attached paths) fun s ev s' hinv _ hstep => ?_
  exact (step_spec hinv hstep).inv

theorem cleanedUp_nil (hchild : s.child = none) : CleanedUp [] s :=
  ⟨nofun, by rw [hchild]; nofun⟩

theorem not_cleanedUp (hpaths : paths ≠ []) (hremoved : s.removed = []) : ¬ CleanedUp paths s := by
  obtain ⟨path, hpath⟩ := List.exists_mem_of_ne_nil paths hpaths
  intro h
  have hmem := h.1 path hpath
  rw [hremoved] at hmem
  cases hmem

theorem reach_cleanedUp (h : Reach step (Completes paths) (attached paths) s) :
    Inv paths s ∧ (s.phase = .ended → CleanedUp paths s) := by
  refine h.invariant (P := fun s => Inv paths s ∧ (s.phase = .ended → CleanedUp paths s))
    ⟨inv_attached paths, nofun⟩ fun s ev s' ⟨hinv, hbefore⟩ hcompletes hstep => ?_
  have hspec := step_spec hinv hstep
  refine ⟨hspec.inv, fun hended => ?_⟩
  by_cases habandons : Abandons ev
  · obtain rfl | hnot := hcompletes
    · exact cleanedUp_nil (hspec.abandoned habandons).2.2
    · exact absurd habandons hnot
  · exact hspec.ended habandons hended hbefore

/-- In a run whose steps complete, the task that ends has tried to remove every file of its
`SpawnSpec` and left no child running; a step that does not complete ends the task with the
files in their place. -/
theorem attach_cleans_up_iff (paths : List String) :
    (∀ s, Reach step (Completes paths) (attached paths) s → s.phase = .ended →
      CleanedUp paths s) ∧
    (∀ s ev s', Reach step anyStep (attached paths) s → step s ev = some s' →
      ¬ Completes paths s ev → s'.phase = .ended ∧ ¬ CleanedUp paths s') := by
  refine ⟨fun s h => (reach_cleanedUp h).2, fun s ev s' h hstep hnot => ?_⟩
  obtain ⟨hpaths, habandons⟩ := not_or.mp hnot
  obtain ⟨hphase, hremoved, -⟩ :=
    (step_spec (reach_inv h) hstep).abandoned (Classical.not_not.mp habandons)
  exact ⟨hphase, not_cleanedUp hpaths hremoved⟩

/-- The registration of the PTY fails: the child is killed and the file is removed. -/
theorem attach_cleans_up_iff_unregistered :
    CleanedUp ["/tmp/arkkvm-ssh-key"]
      { phase := .ended, cancelled := false, started := true, spawnSlot := none,
        child := some .killed, removed := ["/tmp/arkkvm-ssh-key"] } := by
  refine (attach_cleans_up_iff ["/tmp/arkkvm-ssh-key"]).1 _ ?_ rfl
  have hopen : Reach step (Completes ["/tmp/arkkvm-ssh-key"]) (attached ["/tmp/arkkvm-ssh-key"])
      { attached ["/tmp/arkkvm-ssh-key"] with phase := .booting } :=
    Reach.refl.tail (a := .opened true) (Or.inr nofun) rfl
  have hboot := hopen.tail (a := .boot true) (Or.inr nofun) rfl
  have hunregistered := hboot.tail (a := .register false) (Or.inr nofun) rfl
  have hreclaimed := hunregistered.tail (a := .reclaim) (Or.inr nofun) rfl
  have hremoved := hreclaimed.tail (a := .remove true) (Or.inr nofun) rfl
  exact hremoved.tail (a := .close) (Or.inr nofun) rfl

/-- A handle stopped before the channel opens: the key file of the session stays. -/
theorem attach_leaves_files :
    ¬ ∀ (paths : List String) (s : TerminalTask), Reach step anyStep (attached paths) s →
      s.phase = .ended → CleanedUp paths s := by
  intro h
  have hcancelled : Reach step anyStep (attached ["/tmp/arkkvm-ssh-key"])
      { attached ["/tmp/arkkvm-ssh-key"] with cancelled := true } :=
    Reach.refl.tail (a := .cancel) trivial rfl
  have hreach : Reach step anyStep (attached ["/tmp/arkkvm-ssh-key"])
      { attached ["/tmp/arkkvm-ssh-key"] with cancelled := true, phase := .ended } :=
    hcancelled.tail (a := .seeCancel) trivial rfl
  obtain ⟨hremoved, -⟩ := h _ _ hreach rfl
  exact absurd (hremoved _ (List.mem_singleton_self _)) List.not_mem_nil

end TerminalTask

end ArkKvm.Terminal
