import ArkKvm.Lib.Run
import ArkKvm.Usb.ChangeHandlers

/-!
# The threads of an input device

A keyboard or a mouse of the gadget has a handle in the control loop, a thread that writes
reports and, for the keyboard, a thread that reads the LEDs.  The handle sends commands through
channels of bounded size; `hid_kb.rs`, `hid_abs.rs` and `hid_rel.rs` differ only in their reports
and in the LED thread.  What the device answers to a command travels with the command: every
command is executed once, so this is the same as answering when it is executed.
-/

namespace ArkKvm.HidThreads

open Lib.Run
open GadgetChange (HidKind HidIo ChangeRequest)

/-! ## Writing a report -/

inductive PollAnswer
  | ready
  | timedOut
  | failed

inductive WriteAnswer
  | wrote (n : Nat)
  | wouldBlock (poll : PollAnswer)
  | failed

inductive WriteError
  | writeZero
  | timedOut
  | os
deriving DecidableEq

/-- `write_all_with_timeout`: the bytes that reached the device, and how it ended.  The time is
up when there is no further answer. -/
def writeAllWithTimeout : List WriteAnswer → List UInt8 → List UInt8 × Except WriteError Unit
  | _, [] => ([], .ok ())
  | [], _ => ([], .error .timedOut)
  | .wrote n :: answers, b :: bs =>
      if n = 0 then ([], .error .writeZero)
      else
        let (written, result) := writeAllWithTimeout answers ((b :: bs).drop n)
        ((b :: bs).take n ++ written, result)
  | .wouldBlock .ready :: answers, b :: bs => writeAllWithTimeout answers (b :: bs)
  | .wouldBlock .timedOut :: _, _ => ([], .error .timedOut)
  | .wouldBlock .failed :: _, _ => ([], .error .os)
  | .failed :: _, _ => ([], .error .os)

/-! ## The threads -/

inductive WriteCmd
  | stop
  | «open» (path : String) (opens : Bool)
  | report (d : List UInt8) (answers : List WriteAnswer)

structure Writer where
  file : Option String := none
  written : List (String × List UInt8) := []

/-- `hid_kb_write_loop`, `hid_abs_io_loop` and `hid_rel_io_loop`. -/
def Writer.work (w : Writer) : WriteCmd → Writer
  | .stop => { w with file := none }
  | .open path opens => { w with file := if opens then some path else none }
  | .report d answers =>
      match w.file with
      | none => w
      | some path => { w with written := w.written ++ [(path, (writeAllWithTimeout answers d).1)] }

structure KeyboardState where
  numLock : Bool
  capsLock : Bool
  scrollLock : Bool
  compose : Bool
  kana : Bool
deriving DecidableEq

def parseKeyboardState (byte : UInt8) : KeyboardState where
  numLock := byte &&& 0x01 ≠ 0
  capsLock := byte &&& 0x02 ≠ 0
  scrollLock := byte &&& 0x04 ≠ 0
  compose := byte &&& 0x08 ≠ 0
  kana := byte &&& 0x10 ≠ 0

inductive LedCmd
  | stop
  | «open» (path : String) (opens : Bool)

inductive LedRead
  | state (byte : UInt8)
  | failed

/-- The LED thread, with the states that it read since each opening. -/
structure Led where
  file : Option String := none
  lastLed : Option KeyboardState := none
  published : List KeyboardState := []
  seen : List (List KeyboardState) := [[]]

/-- Without a file there is no last state; what is read next belongs to another opening. -/
def Led.close (l : Led) : Led :=
  { l with file := none, lastLed := none, seen := l.seen ++ [[]] }

def Led.work (l : Led) : LedCmd → Led
  | .stop => l.close
  | .open path opens => { l.close with file := if opens then some path else none }

/-- A state that was read is published when it is not the last one. -/
def Led.see (l : Led) (state : KeyboardState) : Led :=
  { l with
    lastLed := some state
    published := if l.lastLed = some state then l.published else l.published ++ [state]
    seen := l.seen.dropLast ++ [l.seen.getLast?.getD [] ++ [state]] }

def Led.poll (l : Led) : List LedRead → Led
  | [] => l
  | .state byte :: reads => (l.see (parseKeyboardState byte)).poll reads
  | .failed :: _ => l.close

/-! ## The handle -/

structure Handle where
  enabled : Bool
  udcUpdating : Bool := false
  warnedDisabled : Bool := false
  warnedUpdating : Bool := false
  devicePath : Option String := none

inductive Send
  | write (c : WriteCmd)
  | led (c : LedCmd)

/-- A call of the control loop. -/
inductive Call
  | submit (d : List UInt8) (answers : List WriteAnswer)
  | setEnabled (enabled : Bool)
  | change (io : HidIo) (req : ChangeRequest)

def ioChannelCap : Nat := 32

/-- The handle, the calls that it has got, the sends that the last of them has still to make, and
the two channels. -/
structure Device where
  kind : HidKind
  handle : Handle
  calls : List Call := []
  outbox : List Send := []
  writeCmds : List WriteCmd := []
  writer : Writer := {}
  ledCmds : List LedCmd := []
  led : Led := {}

def stopIoThreads : HidKind → List Send
  | .kb => [.write .stop, .led .stop]
  | .rel | .abs => [.write .stop]

/-- `submit_write` and `submit` -/
def submit (h : Handle) (d : List UInt8) (answers : List WriteAnswer) : Handle × List Send :=
  if h.enabled = false then ({ h with warnedDisabled := true }, [])
  else if h.udcUpdating then ({ h with warnedUpdating := true }, [])
  else (h, [.write (.report d answers)])

def setEnabled (kind : HidKind) (h : Handle) (enabled : Bool) : Handle × List Send :=
  if enabled then ({ h with enabled := true, warnedDisabled := false }, [])
  else ({ h with enabled := false }, stopIoThreads kind)

def syncDevicePath (io : HidIo) (h : Handle) : Handle :=
  { h with devicePath := if h.enabled = false then none else io.resolved }

def openDeviceIfReady (kind : HidKind) (io : HidIo) (h : Handle) : List Send :=
  if h.enabled = false then []
  else
    match h.devicePath with
    | none => []
    | some path =>
        match kind with
        | .kb => [.write (.open path io.opens), .led (.open path io.ledOpens)]
        | .rel | .abs => [.write (.open path io.opens)]

def onChangeRequest (kind : HidKind) (io : HidIo) (h : Handle) :
    ChangeRequest → Handle × List Send
  | .requestChange => ({ h with udcUpdating := true }, [])
  | .prepareChange => ({ h with devicePath := none }, stopIoThreads kind)
  | .changeCompleted | .changeCanceled =>
      let h := syncDevicePath io h
      ({ h with udcUpdating := false, warnedUpdating := false }, openDeviceIfReady kind io h)

/-! ## Runs -/

inductive Event
  | call (c : Call)
  -- the running call puts its next command into a channel
  | push
  -- a thread takes the next command
  | write
  | led
  -- the LED thread reads
  | poll (reads : List LedRead)

def Handle.call (kind : HidKind) (h : Handle) : Call → Handle × List Send
  | .submit d answers => HidThreads.submit h d answers
  | .setEnabled enabled => HidThreads.setEnabled kind h enabled
  | .change io req => onChangeRequest kind io h req

def step (s : Device) : Event → Option Device
  | .call c =>
      if s.outbox.isEmpty then
        some { s with
          handle := (s.handle.call s.kind c).1
          calls := s.calls ++ [c]
          outbox := (s.handle.call s.kind c).2 }
      else none
  | .push =>
      match s.outbox with
      | [] => none
      | .write c :: rest =>
          if s.writeCmds.length < ioChannelCap then
            some { s with outbox := rest, writeCmds := s.writeCmds ++ [c] }
          else none
      | .led c :: rest =>
          if s.ledCmds.length < ioChannelCap then
            some { s with outbox := rest, ledCmds := s.ledCmds ++ [c] }
          else none
  | .write =>
      match s.writeCmds with
      | [] => none
      | c :: rest => some { s with writeCmds := rest, writer := s.writer.work c }
  | .led =>
      match s.ledCmds with
      | [] => none
      | c :: rest => some { s with ledCmds := rest, led := s.led.work c }
  | .poll reads => if s.led.file.isSome then some { s with led := s.led.poll reads } else none

/-- The steps of a device, each with what it needs. -/
inductive Moves (s : Device) : Event → Device → Prop
  | call (c : Call) (hout : s.outbox = []) :
      Moves s (.call c) { s with
        handle := (s.handle.call s.kind c).1
        calls := s.calls ++ [c]
        outbox := (s.handle.call s.kind c).2 }
  | pushWrite {c : WriteCmd} {rest : List Send} (hout : s.outbox = .write c :: rest)
      (hroom : s.writeCmds.length < ioChannelCap) :
      Moves s .push { s with outbox := rest, writeCmds := s.writeCmds ++ [c] }
  | pushLed {c : LedCmd} {rest : List Send} (hout : s.outbox = .led c :: rest)
      (hroom : s.ledCmds.length < ioChannelCap) :
      Moves s .push { s with outbox := rest, ledCmds := s.ledCmds ++ [c] }
  | write {c : WriteCmd} {rest : List WriteCmd} (hcmds : s.writeCmds = c :: rest) :
      Moves s .write { s with writeCmds := rest, writer := s.writer.work c }
  | led {c : LedCmd} {rest : List LedCmd} (hcmds : s.ledCmds = c :: rest) :
      Moves s .led { s with ledCmds := rest, led := s.led.work c }
  | poll (reads : List LedRead) (hopen : s.led.file.isSome) :
      Moves s (.poll reads) { s with led := s.led.poll reads }

theorem moves_of_step {s s' : Device} {e : Event} (h : step s e = some s') : Moves s e s' := by
  cases e with
  | call c =>
      simp only [step] at h
      split_ifs at h with hout
      obtain rfl := Option.some.inj h
      exact .call c (List.isEmpty_iff.mp hout)
  | push =>
      simp only [step] at h
      split at h
      · cases h
      · next c rest hout =>
          split_ifs at h with hroom
          obtain rfl := Option.some.inj h
          exact .pushWrite hout hroom
      · next c rest hout =>
          split_ifs at h with hroom
          obtain rfl := Option.some.inj h
          exact .pushLed hout hroom
  | write =>
      simp only [step] at h
      split at h
      · cases h
      · next c rest hcmds =>
          obtain rfl := Option.some.inj h
          exact .write hcmds
  | led =>
      simp only [step] at h
      split at h
      · cases h
      · next c rest hcmds =>
          obtain rfl := Option.some.inj h
          exact .led hcmds
  | poll reads =>
      simp only [step] at h
      split_ifs at h with hopen
      obtain rfl := Option.some.inj h
      exact .poll reads hopen

/-- `HidKbHandle::new` and its siblings. -/
def start (kind : HidKind) (enabled : Bool) : Device :=
  { kind := kind, handle := { enabled := enabled } }

end ArkKvm.HidThreads
