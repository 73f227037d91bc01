import ArkKvm.Lib.Run
import Mathlib.Data.List.Basic

/-!
# The microphone process

`uac_worker_loop` of the sidecar and the `MicDaemon` that it drives.  Only the thread of the
worker writes the daemon, so a step is one command, or one timeout, up to the next
`recv_timeout`.  What the system answers to `spawn`, `try_wait` and `kill` is left to the step.
-/

namespace ArkKvm.Usb

open Lib.Run (Reach anyStep)

def arkkvmMicPath : String := "/oem/usr/bin/arkkvm_mic"

inductive ChildStatus
  | exited
  | running
  | failed
deriving DecidableEq

structure ProcessCalls where
  /-- the process id, when `spawn` succeeds -/
  spawn : Option Nat := none
  tryWait : ChildStatus := .running

structure MicDaemon where
  child : Option Nat := none
  programPath : String := arkkvmMicPath
  isRunning : Bool := false
  shutdownRequested : Bool := true
  /-- what was sent on `state_tx` -/
  sent : List Bool := []
  /-- the programs started, with their process ids -/
  spawned : List (String × Nat) := []
deriving DecidableEq

inductive UacCmd
  | stop
  | syncState (deviceEnabled processEnabled : Bool)
deriving DecidableEq

namespace MicDaemon

def notifyRunning (s : MicDaemon) (running : Bool) : MicDaemon :=
  { s with sent := s.sent ++ [running] }

def start (io : ProcessCalls) (s : MicDaemon) : MicDaemon :=
  if s.isRunning then { s with shutdownRequested := false }
  else
    match io.spawn with
    | some child => { s with
        shutdownRequested := false
        child := some child
        isRunning := true
        spawned := s.spawned ++ [(s.programPath, child)] }.notifyRunning true
    | none => { s with shutdownRequested := false }.notifyRunning false

/-- The child is killed and waited for, whatever `kill` answers. -/
def stop (s : MicDaemon) : MicDaemon :=
  { s with shutdownRequested := true, child := none, isRunning := false }.notifyRunning false

def checkChild (io : ProcessCalls) (s : MicDaemon) : MicDaemon :=
  match s.child, io.tryWait with
  | some _, .running => { s with isRunning := true }
  | some _, _ => { s with child := none, isRunning := false }.notifyRunning false
  | none, _ => { s with isRunning := false }

def tick (io : ProcessCalls) (s : MicDaemon) : MicDaemon :=
  if s.shutdownRequested then s
  else
    let s := s.checkChild io
    -- the looks at `shutdown_requested` around the delay find it unset: the caller alone sets it
    if s.isRunning then s else s.start io

end MicDaemon

inductive UacReceived
  | cmd (c : UacCmd)
  | timeout
  | disconnected
deriving DecidableEq

structure UacWorker where
  daemon : MicDaemon := {}
  acks : Nat := 0
  exited : Bool := false
deriving DecidableEq

namespace UacWorker

def step (s : UacWorker) : UacReceived × ProcessCalls → Option UacWorker
  | (received, io) =>
      if s.exited then none
      else
        match received with
        | .cmd .stop => some { s with daemon := s.daemon.stop, acks := s.acks + 1 }
        | .cmd (.syncState deviceEnabled processEnabled) => some { s with
            daemon := if deviceEnabled && processEnabled then s.daemon.start io else s.daemon.stop
            acks := s.acks + 1 }
        | .timeout => some { s with daemon := s.daemon.tick io }
        | .disconnected => some { s with daemon := s.daemon.stop, exited := true }

end UacWorker

/-! ## The state of the daemon -/

namespace MicDaemon

structure Agrees (s : MicDaemon) : Prop where
  child : s.isRunning = s.child.isSome
  published : ∀ running, s.sent.getLast? = some running → running = s.isRunning

variable {io : ProcessCalls} {s : MicDaemon}

/-- After a notification of the flag the published state is right, whatever it was. -/
theorem agrees_notifyRunning {running : Bool} (hflag : s.isRunning = running)
    (hchild : running = s.child.isSome) : Agrees (s.notifyRunning running) where
  child := by
    show s.isRunning = s.child.isSome
    rw [hflag, hchild]
  published := by
    intro published hlast
    have hrunning : running = published := by
      simpa [notifyRunning] using hlast
    show published = s.isRunning
    rw [hflag, hrunning]

theorem agrees_stop : Agrees s.stop :=
  agrees_notifyRunning rfl rfl

theorem agrees_start (h : Agrees s) : Agrees (s.start io) := by
  unfold start
  split
  · exact ⟨h.child, h.published⟩
  · next hrunning =>
      have hflag : s.isRunning = false := Bool.eq_false_of_not_eq_true hrunning
      split
      · exact agrees_notifyRunning rfl rfl
      · refine agrees_notifyRunning hflag ?_
        show false = s.child.isSome
        rw [← h.child, hflag]

theorem agrees_checkChild (h : Agrees s) : Agrees (s.checkChild io) := by
  unfold checkChild
  split
  · next child hchild _ =>
      have hflag : s.isRunning = true := by rw [h.child, hchild]; rfl
      refine ⟨?_, fun running hlast => ?_⟩
      · show true = s.child.isSome
        rw [hchild]
        rfl
      · show running = true
        rw [← hflag]
        exact h.published running hlast
  · exact agrees_notifyRunning rfl rfl
  · next hchild =>
      have hflag : s.isRunning = false := by rw [h.child, hchild]; rfl
      refine ⟨?_, fun running hlast => ?_⟩
      · show false = s.child.isSome
        rw [hchild]
        rfl
      · show running = false
        rw [← hflag]
        exact h.published running hlast

theorem agrees_tick (h : Agrees s) : Agrees (s.tick io) := by
  unfold tick
  dsimp only
  split
  · exact h
  · have hchecked : Agrees (s.checkChild io) := agrees_checkChild h
    split
    · exact hchecked
    · exact agrees_start hchecked

theorem tick_of_shutdown (h : s.shutdownRequested = true) : s.tick io = s := by
  unfold tick
  rw [if_pos h]

end MicDaemon

/-! ## Runs of the worker -/

namespace UacWorker

variable {s s' s'' : UacWorker} {ev : UacReceived × ProcessCalls}

/-- The step asks for the process: `SyncState` with both flags set. -/
def Wants (ev : UacReceived × ProcessCalls) : Prop := ev.1 = .cmd (.syncState true true)

/-- The step is a command that does not ask for the process. -/
def Halts (ev : UacReceived × ProcessCalls) : Prop := (∃ c, ev.1 = .cmd c) ∧ ¬ Wants ev

theorem step_agrees (h : s.daemon.Agrees) (hstep : step s ev = some s') : s'.daemon.Agrees := by
  obtain ⟨received, io⟩ := ev
  unfold step at hstep
  dsimp only at hstep
  split at hstep
  · cases hstep
  · cases received with
    | cmd c =>
        cases c with
        | stop =>
            cases hstep
            exact MicDaemon.agrees_stop
        | syncState deviceEnabled processEnabled =>
            cases hstep
            dsimp only
            split
            · exact MicDaemon.agrees_start h
            · exact MicDaemon.agrees_stop
    | timeout =>
        cases hstep
        exact MicDaemon.agrees_tick h
    | disconnected =>
        cases hstep
        exact MicDaemon.agrees_stop

theorem reach_agrees (h : Reach step anyStep {} s) : s.daemon.Agrees :=
  h.invariant (P := fun s => s.daemon.Agrees) ⟨rfl, nofun⟩
    fun _ _ _ hagrees _ hstep => step_agrees hagrees hstep

theorem halts_spec (hhalts : Halts ev) (hstep : step s ev = some s') :
    s'.daemon.shutdownRequested = true ∧ s'.daemon.spawned = s.daemon.spawned := by
  obtain ⟨received, io⟩ := ev
  obtain ⟨⟨c, hc⟩, hwants⟩ := hhalts
  dsimp only at hc
  subst hc
  unfold step at hstep
  dsimp only at hstep
  split at hstep
  · cases hstep
  · cases c with
    | stop =>
        cases hstep
        exact ⟨rfl, rfl⟩
    | syncState deviceEnabled processEnabled =>
        cases hstep
        dsimp only
        split
        · next hboth =>
            obtain ⟨rfl, rfl⟩ := Bool.and_eq_true_iff.mp hboth
            exact absurd rfl hwants
        · exact ⟨rfl, rfl⟩

theorem step_of_shutdown (hshutdown : s.daemon.shutdownRequested = true) (hwants : ¬ Wants ev)
    (hstep : step s ev = some s') :
    s'.daemon.shutdownRequested = true ∧ s'.daemon.spawned = s.daemon.spawned := by
  by_cases hhalts : Halts ev
  · exact halts_spec hhalts hstep
  · obtain ⟨received, io⟩ := ev
    unfold step at hstep
    dsimp only at hstep
    split at hstep
    · cases hstep
    · cases received with
      | cmd c => exact absurd ⟨⟨c, rfl⟩, hwants⟩ hhalts
      | timeout =>
          cases hstep
          dsimp only
          rw [MicDaemon.tick_of_shutdown hshutdown]
          exact ⟨hshutdown, rfl⟩
      | disconnected =>
          cases hstep
          exact ⟨rfl, rfl⟩

theorem reach_of_shutdown (hshutdown : s.daemon.shutdownRequested = true)
    (h : Reach step (fun _ ev => ¬ Wants ev) s s') :
    s'.daemon.shutdownRequested = true ∧ s'.daemon.spawned = s.daemon.spawned := by
  refine h.invariant (P := fun s' => s'.daemon.shutdownRequested = true ∧
    s'.daemon.spawned = s.daemon.spawned) ⟨hshutdown, rfl⟩ ?_
  intro t ev t' ⟨hbefore, hspawned⟩ hwants hstep
  obtain ⟨hafter, hsame⟩ := step_of_shutdown hbefore hwants hstep
  exact ⟨hafter, hsame.trans hspawned⟩

/-- Wherever the worker waits, the flag says whether there is a child and is what was sent
last; and after a command that does not ask for the process none is started before one that
does. -/
theorem mic_state_does_not_drift (h : Reach step anyStep {} s) :
    (s.daemon.isRunning = true ↔ s.daemon.child.isSome = true) ∧
    (∀ running, s.daemon.sent.getLast? = some running → running = s.daemon.isRunning) ∧
    (∀ ev s' s'', step s ev = some s' → Halts ev →
      Reach step (fun _ ev => ¬ Wants ev) s' s'' → s''.daemon.spawned = s.daemon.spawned) := by
  have hagrees := reach_agrees h
  refine ⟨?_, hagrees.published, ?_⟩
  · rw [hagrees.child]
  · intro ev s' s'' hstep hhalts hreach
    obtain ⟨hshutdown, hspawned⟩ := halts_spec hhalts hstep
    calc s''.daemon.spawned
        = s'.daemon.spawned := (reach_of_shutdown hshutdown hreach).2
      _ = s.daemon.spawned := hspawned

/-- The process died once, could not be started at the next tick and was at the second. -/
def restarted : UacWorker where
  daemon := {
    child := some 8
    isRunning := true
    shutdownRequested := false
    sent := [true, false, false, true]
    spawned := [(arkkvmMicPath, 7), (arkkvmMicPath, 8)] }
  acks := 1

theorem mic_state_does_not_drift_restarted :
    (restarted.daemon.isRunning = true ↔ restarted.daemon.child.isSome = true) ∧
    restarted.daemon.sent.getLast? = some restarted.daemon.isRunning := by
  have hnew : Reach step anyStep {} {} := Reach.refl
  have hstarted := hnew.tail (a := (.cmd (.syncState true true), { spawn := some 7 })) trivial rfl
  have hdied := hstarted.tail (a := (.timeout, { tryWait := .exited })) trivial rfl
  have hreach : Reach step anyStep {} restarted :=
    hdied.tail (a := (.timeout, { spawn := some 8 })) trivial rfl
  exact ⟨(mic_state_does_not_drift hreach).1, rfl⟩

end UacWorker

end ArkKvm.Usb
