import ArkKvm.Lib.Run

/-!
# The terminal actor

The loop of `run_actor` in `terminal/core.rs`: one `select!` over cancellation, commands,
the send in flight, the PTY in both directions and the reaper.  A step is one pass of the
loop up to its next wait, or one system call of a pass.  Which branch of the `select!` is
ready, and what each call returns, is left to the events.
-/

namespace ArkKvm.Terminal

def outboxCap : Nat := 64

def readBufSize : Nat := 1024

inductive TerminalCmd
  | data (bytes : List UInt8)
  | resize (rows cols : Nat)

inductive Exit
  | cancelled
  | queueClosed
  | sendFailed
  | readPollFailed
  | readFailed
  | eof
  | writePollFailed
  | writeFailed
  | childExited
  | waitFailed
deriving DecidableEq

/-- Where the loop is: at its head, in the `select!`, in the inner loop of the read or of the
write branch, or behind it. -/
inductive Point
  | head
  | select
  | reading
  | writing
  | left (exit : Exit)
deriving DecidableEq

inductive ReadOutcome
  | bytes (bs : List UInt8)
  | eof
  | interrupted
  | wouldBlock
  | failed
deriving DecidableEq

inductive WriteOutcome
  | wrote (n : Nat)
  | interrupted
  | wouldBlock
  | failed
deriving DecidableEq

inductive WaitOutcome
  | exited
  | running
  | failed
deriving DecidableEq

structure Actor where
  point : Point := .head
  cancelled : Bool := false
  writePending : List (List UInt8) := []
  outbox : List (List UInt8) := []
  inflightSend : Option (List UInt8) := none
  childAlive : Bool := true
  /-- the payloads of the `Data` commands received -/
  received : List UInt8 := []
  /-- the bytes that the PTY has taken -/
  written : List UInt8 := []
  /-- the bytes read from the PTY -/
  output : List UInt8 := []
  /-- the bytes of the sends that have ended well -/
  sent : List UInt8 := []
deriving DecidableEq

inductive Event
  /-- the token is cancelled from outside -/
  | cancel
  /-- the head of the loop -/
  | enter
  | seeCancel
  | command (cmd : Option TerminalCmd)
  | sendDone (ok : Bool)
  | readable (ok : Bool)
  /-- the outbox is full in the inner loop of the read branch -/
  | outboxFull
  | read (r : ReadOutcome)
  | writable (ok : Bool)
  /-- the inner loop of the write branch is over, or passes an empty chunk -/
  | nextChunk
  | write (r : WriteOutcome)
  | reap (r : WaitOutcome)

namespace Actor

def leave (s : Actor) (exit : Exit) : Actor := { s with point := .left exit }

/-- `outbox.pop_front()` into the slot of the send in flight, when that is free. -/
def startSend (s : Actor) : Actor :=
  match s.inflightSend, s.outbox with
  | none, chunk :: rest => { s with inflightSend := some chunk, outbox := rest }
  | _, _ => s

def command (s : Actor) : Option TerminalCmd → Actor
  | none => s.leave .queueClosed
  | some (.resize _ _) => { s with point := .head }
  | some (.data bytes) => { s with
      point := .head
      writePending := s.writePending ++ [bytes]
      received := s.received ++ bytes }

def sendDone (s : Actor) (chunk : List UInt8) (ok : Bool) : Actor :=
  if ok then { s with point := .head, inflightSend := none, sent := s.sent ++ chunk }
  else { s with inflightSend := none }.leave .sendFailed

/-- One `read` into a buffer of `readBufSize` bytes. -/
def read (s : Actor) : ReadOutcome → Option Actor
  | .bytes bs =>
      if bs ≠ [] ∧ bs.length ≤ readBufSize then
        some { s with outbox := s.outbox ++ [bs], output := s.output ++ bs }
      else none
  | .eof => some (s.leave .eof)
  | .interrupted => some s
  | .wouldBlock => some { s with point := .head }
  | .failed => some (s.leave .readFailed)

/-- One `write` of the front chunk, of which it takes `n` bytes at most all. -/
def write (s : Actor) (front : List UInt8) (rest : List (List UInt8)) :
    WriteOutcome → Option Actor
  | .wrote n =>
      if front.length < n then none
      else if n = 0 then some (s.leave .writeFailed)
      else if front.length ≤ n then
        some { s with writePending := rest, written := s.written ++ front }
      else some { s with
        point := .head
        writePending := front.drop n :: rest
        written := s.written ++ front.take n }
  | .interrupted => some s
  | .wouldBlock => some { s with point := .head }
  | .failed => some (s.leave .writeFailed)

def reap (s : Actor) : WaitOutcome → Actor
  | .exited => { s with childAlive := false }.leave .childExited
  | .running => { s with point := .head }
  | .failed => { s with childAlive := false }.leave .waitFailed

def select (s : Actor) : Event → Option Actor
  | .seeCancel => if s.cancelled then some (s.leave .cancelled) else none
  | .command cmd => some (s.command cmd)
  | .sendDone ok => s.inflightSend.map fun chunk => s.sendDone chunk ok
  | .readable ok =>
      if s.outbox.length < outboxCap then
        some (if ok then { s with point := .reading } else s.leave .readPollFailed)
      else none
  | .writable ok =>
      if s.writePending = [] then none
      else some (if ok then { s with point := .writing } else s.leave .writePollFailed)
  | .reap r => if s.childAlive then some (s.reap r) else none
  | _ => none

def step (s : Actor) : Event → Option Actor
  | .cancel => some { s with cancelled := true }
  | ev =>
      match s.point, ev with
      | .head, .enter =>
          some (if s.cancelled then s.leave .cancelled else { s.startSend with point := .select })
      | .select, ev => s.select ev
      | .reading, .outboxFull =>
          if outboxCap ≤ s.outbox.length then some { s with point := .head } else none
      | .reading, .read r => if s.outbox.length < outboxCap then s.read r else none
      | .writing, .nextChunk =>
          match s.writePending with
          | [] => some { s with point := .head }
          | [] :: rest => some { s with writePending := rest }
          | _ => none
      | .writing, .write r =>
          match s.writePending with
          | (b :: bs) :: rest => s.write (b :: bs) rest r
          | _ => none
      | _, _ => none

end Actor

end ArkKvm.Terminal
