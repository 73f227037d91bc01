import ArkKvm.Lib.Run
import ArkKvm.Video.CaptureBuffers

/-!
# Capture threads

`run_video_stream` of `hardware/hdmi`, as many at once as there are, with the encoder of
`venc.rs`, the encoder's reader threads, and the two tasks that start and stop the stream.  A
stop that times out leaves its thread running.  Flags that others may write at any time are
inputs: an event says what its step read from them.
-/

namespace ArkKvm.Hdmi

open Lib

inductive Who
  | thread (t : Nat)
  | hpd
  | shutdown
deriving DecidableEq

structure Shared where
  driver : Driver := {}
  /-- `mem_pool` -/
  memPool : Option Nat := none
  vencRunning : Bool := false
  /-- `venc_read_thread`, and the lock on it with the reader that its holder waits for -/
  readThread : Option Nat := none
  readLock : Option (Who × Nat) := none
  /-- the reader threads that have not ended -/
  readers : List Nat := []
  nextReader : Nat := 0

inductive Place
  | absent
  | head
  | opening
  | opened
  | sized
  | unpooled
  | pooled
  | buffered (buffers : List VideoBuffer)
  | created (buffers : List VideoBuffer)
  | receiving (buffers : List VideoBuffer)
  | marked (buffers : List VideoBuffer)
  | spawned (buffers : List VideoBuffer) (reader : Nat)
  | encoding (buffers : List VideoBuffer)
  | streaming (buffers : List VideoBuffer)
  | dequeued (buffers : List VideoBuffer) (index : Nat)
  | sent (buffers : List VideoBuffer) (index : Nat)
  | requeuing (buffers : List VideoBuffer) (index : Nat)
  | stopping (buffers : List VideoBuffer) (on : Bool)
  | halting (buffers : List VideoBuffer) (on : Bool)
  | taking (buffers : List VideoBuffer) (on : Bool)
  | joining (buffers : List VideoBuffer) (on : Bool)
  | destroying (buffers : List VideoBuffer) (on : Bool)
  | switchingOff (buffers : List VideoBuffer)
  | releasing (buffers : List VideoBuffer)
  | unpooling
deriving DecidableEq

inductive Event
  /-- a loop finds that it is to go on no more -/
  | flagged
  /-- nothing new was detected, or no signal -/
  | quiet
  /-- a signal was detected -/
  | detected
  /-- a call of the driver, and whether it succeeded -/
  | call (ok : Bool)
  | request (io : RequestIo)
  /-- `select` was interrupted or is about something else -/
  | again
  /-- `select` timed out or failed, no buffer was dequeued, or the signal changed -/
  | leave
  | dequeue (index : Nat)
  /-- a step on the shared state that cannot fail -/
  | next

namespace Shared

def withDriver (f : Driver → Driver) (s : Shared) : Shared := { s with driver := f s.driver }

def storePool (s : Shared) : Shared :=
  { s with driver := s.driver.createPool.1, memPool := some s.driver.createPool.2 }

/-- `destroy_memory_pool_blocking`: whatever pool is in the slot. -/
def destroyPool (s : Shared) : Shared :=
  match s.memPool with
  | none => s
  | some pool => { s with driver := s.driver.destroyPool pool, memPool := none }

def spawnReader (s : Shared) : Shared :=
  { s with readers := s.nextReader :: s.readers, nextReader := s.nextReader + 1 }

/-- Take the reader's handle out of `venc_read_thread`.  The guard is held until the reader has
been joined. -/
def takeReader (who : Who) (s : Shared) : Option (Bool × Shared) :=
  match s.readLock, s.readThread with
  | some _, _ => none
  | none, none => some (false, s)
  | none, some r => some (true, { s with readThread := none, readLock := some (who, r) })

def joined (who : Who) (s : Shared) : Option Shared :=
  match s.readLock with
  | some (holder, r) =>
      if holder = who ∧ r ∉ s.readers then some { s with readLock := none } else none
  | none => none

/-- `venc_get_stream` of a reader. -/
def getStream (s : Shared) : Shared :=
  if s.driver.channel = .absent then s.withDriver Driver.misuse else s

end Shared

/-- `start_venc` from the created channel on, and what follows when it fails. -/
def Place.startStep (s : Shared) : Place → Event → Option (Place × Shared)
  | .buffered buffers, .call ok =>
      match if ok then s.driver.createChn else none with
      | none => some (.releasing buffers, s)
      | some d => some (.created buffers, { s with driver := d })
  | .created buffers, .call true => some (.receiving buffers, s.withDriver Driver.startRecvFrame)
  | .created buffers, .call false => some (.releasing buffers, s.withDriver Driver.destroyChn)
  | .receiving buffers, .next => some (.marked buffers, { s with vencRunning := true })
  | .marked buffers, .next => some (.spawned buffers s.nextReader, s.spawnReader)
  | .spawned buffers r, .next =>
      if s.readLock = none then some (.encoding buffers, { s with readThread := some r }) else none
  | .encoding buffers, .call true => some (.streaming buffers, s)
  | .encoding buffers, .call false => some (.stopping buffers false, s)
  | _, _ => none

def Place.frameStep (s : Shared) : Place → Event → Option (Place × Shared)
  | .streaming buffers, .flagged => some (.stopping buffers true, s)
  | .streaming buffers, .leave => some (.stopping buffers true, s)
  | .streaming buffers, .again => some (.streaming buffers, s)
  | .streaming buffers, .dequeue index => some (.dequeued buffers index, s)
  | .dequeued buffers index, .call ok =>
      match (buffers[index]?).bind (·.mbBlk) with
      | none => some (.requeuing buffers index, s)
      | some b =>
          some (if ok then .sent buffers index else .stopping buffers true,
            s.withDriver (Driver.sendFrame b))
  | .sent buffers index, .next =>
      some (if s.vencRunning then .requeuing buffers index else .stopping buffers true, s)
  | .requeuing buffers index, .call ok =>
      some (if ok && index < buffers.length then .streaming buffers else .stopping buffers true, s)
  | _, _ => none

/-- `stop_venc` and the cleanup behind it. -/
def Place.stopStep (t : Nat) (s : Shared) : Place → Event → Option (Place × Shared)
  | .stopping buffers on, .next => some (.halting buffers on, { s with vencRunning := false })
  | .halting buffers on, .next => some (.taking buffers on, s.withDriver Driver.stopRecvFrame)
  | .taking buffers on, .next =>
      (s.takeReader (.thread t)).map fun r =>
        (if r.1 then .joining buffers on else .destroying buffers on, r.2)
  | .joining buffers on, .next =>
      (s.joined (.thread t)).map fun s' => (.destroying buffers on, s')
  | .destroying buffers on, .next =>
      some (if on then .switchingOff buffers else .releasing buffers,
        s.withDriver Driver.destroyChn)
  | .switchingOff buffers, .call _ => some (.releasing buffers, s)
  | .releasing buffers, .call _ => some (.unpooling, s.withDriver (releaseCaptureBuffers buffers))
  | .unpooling, .next => some (.head, s.destroyPool)
  | _, _ => none

def Place.openStep (s : Shared) : Place → Event → Option (Place × Shared)
  | .head, .flagged => some (.absent, s)
  | .head, .quiet => some (.head, s)
  | .head, .detected => some (.opening, s)
  | .opening, .call ok => some (if ok then .opened else .head, s)
  -- the format is set twice at most, then asked for
  | .opened, .call ok => some (if ok then .sized else .head, s)
  | .sized, .next => some (if s.memPool.isSome then .head else .unpooled, s)
  | .unpooled, .call true => some (.pooled, s.storePool)
  | .unpooled, .call false => some (.head, s)
  | .pooled, .request io =>
      match requestBuffers io s.memPool s.driver with
      | (d, .error _) => some (.unpooling, { s with driver := d })
      | (d, .ok buffers) => some (.buffered buffers, { s with driver := d })
  | _, _ => none

def Place.step (t : Nat) (p : Place) (ev : Event) (s : Shared) : Option (Place × Shared) :=
  (p.openStep s ev).or ((p.startStep s ev).or ((p.frameStep s ev).or (p.stopStep t s ev)))

inductive Control
  | idle
  | starting
  | storing (t : Nat)
  | waiting (t : Nat)
  | unmarking
  | draining
  | joining
deriving DecidableEq

inductive ControlEvent
  | start
  | stop
  /-- the thread is waited for no longer -/
  | timedOut
  | next

structure World where
  shared : Shared := {}
  place : Nat → Place := fun _ => .absent
  nextThread : Nat := 0
  streamingThread : Option Nat := none
  hpd : Control := .idle
  shutdown : Control := .idle

def Control.isWaiting : Control → Bool
  | .waiting _ => true
  | _ => false

def World.unlocked (w : World) : Bool := !w.hpd.isWaiting && !w.shutdown.isWaiting

/-- `start_streaming` and `stop_streaming`, as one of the two tasks runs them. -/
def controlStep (who : Who) (w : World) : Control → ControlEvent → Option (Control × World)
  | .idle, .start =>
      if w.unlocked then
        some (if w.streamingThread.isSome then .idle else .starting, w)
      else none
  | .starting, .next =>
      some (.storing w.nextThread,
        { w with
          place := Function.update w.place w.nextThread .head
          nextThread := w.nextThread + 1 })
  | .storing t, .next =>
      if w.unlocked then some (.idle, { w with streamingThread := some t }) else none
  | .idle, .stop =>
      if w.unlocked then
        some (w.streamingThread.elim .unmarking .waiting, { w with streamingThread := none })
      else none
  | .waiting t, .next => if w.place t = .absent then some (.unmarking, w) else none
  | .waiting _, .timedOut => some (.unmarking, w)
  | .unmarking, .next =>
      some (.draining, { w with shared := { w.shared with vencRunning := false } })
  | .draining, .next =>
      (w.shared.takeReader who).map fun r =>
        (if r.1 then .joining else .idle, { w with shared := r.2 })
  | .joining, .next => (w.shared.joined who).map fun s => (.idle, { w with shared := s })
  | _, _ => none

inductive Act
  | thread (t : Nat) (ev : Event)
  /-- a turn of a reader, and whether it is the last -/
  | reader (r : Nat) (last : Bool)
  | hpd (ev : ControlEvent)
  | shutdown (ev : ControlEvent)

def step (w : World) : Act → Option World
  | .thread t ev =>
      ((w.place t).step t ev w.shared).map fun r =>
        { w with place := Function.update w.place t r.1, shared := r.2 }
  | .reader r last =>
      if r ∈ w.shared.readers then
        if last then
          some { w with
            shared := { w.shared with readers := w.shared.readers.filter (· ≠ r) } }
        else some { w with shared := w.shared.getStream }
      else none
  | .hpd ev => (controlStep .hpd w w.hpd ev).map fun r => { r.2 with hpd := r.1 }
  | .shutdown .start => none
  | .shutdown ev =>
      (controlStep .shutdown w w.shutdown ev).map fun r => { r.2 with shutdown := r.1 }

end ArkKvm.Hdmi
