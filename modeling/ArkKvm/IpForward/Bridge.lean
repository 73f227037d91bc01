import ArkKvm.Lib.Pool
import ArkKvm.Lib.Run

/-!
# The IP-forward bridge

`ip_forward/bridge.rs`.  Every message of the data channel is handed to a spawned
task, which puts it into a queue of 64 chunks; one loop moves chunks from the
queue to the socket and another one from the socket to the channel.  The tasks of
the messages run in any order, writes to the socket are cut anywhere, and the
bridge may end at any point.
-/

namespace ArkKvm.IpForward

open Lib

def udpMaxDatagram : Nat := 1200

def tcpBuf : Nat := 16 * 1024

def queueCapacity : Nat := 64

/-- Where the bridge is. -/
inductive Phase
  | connecting
  | running
  | ended
deriving DecidableEq

/-! ## The inbound half -/

structure Inbox where
  arrived : List (List UInt8) := []
  tasks : List (List UInt8) := []
  queue : List (List UInt8) := []

namespace Inbox

/-- `on_message` spawns a task. -/
def message (data : List UInt8) (b : Inbox) : Inbox :=
  { b with
    arrived := b.arrived ++ [data]
    tasks := b.tasks ++ [data] }

/-- The body of the spawned task: empty messages and those above the datagram limit
are dropped, and so is everything after the bridge has gone; a full queue makes
the task wait. -/
def enqueue (udpMax : Option Nat) (phase : Phase) (i : Nat) (b : Inbox) : Option Inbox :=
  match Pool.pick i b.tasks with
  | none => none
  | some (data, rest) =>
      if data = [] ∨ udpMax.any (· < data.length) ∨ phase = .ended then
        some { b with tasks := rest }
      else if b.queue.length < queueCapacity then
        some { b with
          tasks := rest
          queue := b.queue ++ [data] }
      else none

def chunks (b : Inbox) : List (List UInt8) := b.queue ++ b.tasks

/-- What a step of a task does to the chunks. -/
theorem enqueue_cases {udpMax : Option Nat} {phase : Phase} {i : Nat} {b b' : Inbox}
    (h : b.enqueue udpMax phase i = some b') :
    ∃ data rest, Pool.pick i b.tasks = some (data, rest) ∧ b'.arrived = b.arrived ∧
      b'.tasks = rest ∧
      ((b'.queue = b.queue ∧ (data = [] ∨ udpMax.any (· < data.length) ∨ phase = .ended)) ∨
        b'.queue = b.queue ++ [data]) := by
  unfold enqueue at h
  split at h
  · cases h
  · next data rest hpick =>
      refine ⟨data, rest, hpick, ?_⟩
      split at h
      · next hdrop =>
          cases h
          exact ⟨rfl, rfl, .inl ⟨rfl, hdrop⟩⟩
      · split at h
        · cases h
          exact ⟨rfl, rfl, .inr rfl⟩
        · cases h

end Inbox

/-! ## TCP -/

structure TcpState where
  inbox : Inbox := {}
  phase : Phase := .connecting
  /-- what is left of the chunk that `write_all` is writing -/
  writing : List UInt8 := []
  /-- the bytes written to the stream -/
  written : List UInt8 := []
  /-- the bytes read from the stream -/
  received : List UInt8 := []
  /-- the bytes read last, until the channel takes them -/
  pending : Option (List UInt8) := none
  /-- the bytes sent on the channel -/
  sent : List UInt8 := []

inductive TcpEvent
  | message (data : List UInt8)
  | runTask (i : Nat)
  | connect
  | recv
  | write (k : Nat)
  | read (data : List UInt8)
  | send
  /-- an error, the end of the stream or the end of the channel -/
  | stop

/-- `bridge_tcp`. -/
def tcpStep (s : TcpState) : TcpEvent → Option TcpState
  | .message data => some { s with inbox := s.inbox.message data }
  | .runTask i => (s.inbox.enqueue none s.phase i).map fun b => { s with inbox := b }
  | .connect => if s.phase = .connecting then some { s with phase := .running } else none
  | .recv =>
      match s.inbox.queue with
      | [] => none
      | chunk :: rest =>
          if s.phase = .running ∧ s.writing = [] then
            some { s with
              inbox := { s.inbox with queue := rest }
              writing := chunk }
          else none
  | .write k =>
      if s.phase = .running ∧ 0 < k ∧ k ≤ s.writing.length then
        some { s with
          written := s.written ++ s.writing.take k
          writing := s.writing.drop k }
      else none
  | .read data =>
      if s.phase = .running ∧ s.pending = none ∧ data ≠ [] ∧ data.length ≤ tcpBuf then
        some { s with
          received := s.received ++ data
          pending := some data }
      else none
  | .send =>
      match s.pending with
      | none => none
      | some data =>
          if s.phase = .running then
            some { s with
              sent := s.sent ++ data
              pending := none }
          else none
  | .stop => some { s with phase := .ended }

/-- The condition on a step: no message is put into the queue before an older one
that has bytes. -/
def InOrder (s : TcpState) : TcpEvent → Prop
  | .runTask i =>
      s.phase = .ended ∨ s.inbox.tasks[i]? = some [] ∨ ∀ m ∈ s.inbox.tasks.take i, m = []
  | _ => True

instance (s : TcpState) (ev : TcpEvent) : Decidable (InOrder s ev) := by
  unfold InOrder
  split <;> infer_instance

structure TcpInv (s : TcpState) : Prop where
  inbound : s.written <+: s.inbox.arrived.flatten
  /-- until the bridge ends nothing is lost on the way -/
  stream : s.phase ≠ .ended →
    s.written ++ s.writing ++ s.inbox.chunks.flatten = s.inbox.arrived.flatten
  outbound : s.sent ++ s.pending.getD [] = s.received

section Tcp

variable {s : TcpState}

theorem TcpInv.message (h : TcpInv s) (data : List UInt8) :
    TcpInv { s with inbox := s.inbox.message data } := by
  refine ⟨?_, fun hphase => ?_, h.outbound⟩
  · refine h.inbound.trans ?_
    simp [Inbox.message]
  · simp only [Inbox.message, Inbox.chunks, List.flatten_append, ← h.stream hphase,
      List.append_assoc]

theorem InOrder.flatten_tasks {i : Nat} {data : List UInt8} {rest : List (List UInt8)}
    (hord : InOrder s (.runTask i)) (hphase : s.phase ≠ .ended)
    (hpick : Pool.pick i s.inbox.tasks = some (data, rest)) :
    s.inbox.tasks.flatten = data ++ rest.flatten := by
  obtain ⟨htasks, hrest⟩ := Pool.pick_split hpick
  rw [htasks, hrest, List.flatten_append, List.flatten_append, List.flatten_cons]
  rcases hord with hended | hempty | holder
  · exact absurd hended hphase
  · obtain ⟨x, hx, heq⟩ := Option.map_eq_some_iff.mp hpick
    rw [hempty] at hx
    cases hx
    cases heq
    rfl
  · rw [List.flatten_eq_nil_iff.mpr holder]
    rfl

theorem TcpInv.runTask (h : TcpInv s) {i : Nat} {b : Inbox} (hord : InOrder s (.runTask i))
    (henq : s.inbox.enqueue none s.phase i = some b) : TcpInv { s with inbox := b } := by
  obtain ⟨data, rest, hpick, harrived, htasks, hqueue⟩ := Inbox.enqueue_cases henq
  refine ⟨by rw [harrived]; exact h.inbound, fun hphase => ?_, h.outbound⟩
  have hstream := h.stream hphase
  have hwaiting := hord.flatten_tasks hphase hpick
  rw [harrived, ← hstream]
  congr 1
  simp only [Inbox.chunks, htasks, List.flatten_append, hwaiting]
  rcases hqueue with ⟨hq, hempty | hlarge | hended⟩ | hq
  · rw [hq, hempty, List.nil_append]
  · cases hlarge
  · exact absurd hended hphase
  · simp [hq]

theorem TcpInv.recv (h : TcpInv s) {chunk : List UInt8} {rest : List (List UInt8)}
    (hqueue : s.inbox.queue = chunk :: rest) (hfree : s.writing = []) :
    TcpInv { s with
      inbox := { s.inbox with queue := rest }
      writing := chunk } := by
  refine ⟨h.inbound, fun hphase => ?_, h.outbound⟩
  rw [← h.stream hphase]
  simp [Inbox.chunks, hqueue, hfree]

theorem TcpInv.write (h : TcpInv s) (k : Nat) (hphase : s.phase ≠ .ended) :
    TcpInv { s with
      written := s.written ++ s.writing.take k
      writing := s.writing.drop k } := by
  have hstream : s.written ++ s.writing.take k ++ s.writing.drop k ++ s.inbox.chunks.flatten =
      s.inbox.arrived.flatten := by
    rw [List.append_assoc s.written, List.take_append_drop]
    exact h.stream hphase
  refine ⟨?_, fun _ => hstream, h.outbound⟩
  exact ⟨s.writing.drop k ++ s.inbox.chunks.flatten, by rw [← List.append_assoc]; exact hstream⟩

theorem tcpStep_inv (s : TcpState) (ev : TcpEvent) (s' : TcpState) (h : TcpInv s)
    (hord : InOrder s ev) (hstep : tcpStep s ev = some s') : TcpInv s' := by
  cases ev with
  | message data =>
      cases hstep
      exact h.message data
  | runTask i =>
      obtain ⟨b, henq, rfl⟩ := Option.map_eq_some_iff.mp hstep
      exact h.runTask hord henq
  | connect =>
      simp only [tcpStep] at hstep
      split at hstep
      · next hphase =>
          cases hstep
          exact ⟨h.inbound, fun _ => h.stream (by rw [hphase]; decide), h.outbound⟩
      · cases hstep
  | recv =>
      simp only [tcpStep] at hstep
      split at hstep
      · cases hstep
      · next chunk rest hqueue =>
          split at hstep
          · next hcond =>
              cases hstep
              exact h.recv hqueue hcond.2
          · cases hstep
  | write k =>
      simp only [tcpStep] at hstep
      split at hstep
      · next hcond =>
          cases hstep
          exact h.write k (by rw [hcond.1]; decide)
      · cases hstep
  | read data =>
      simp only [tcpStep] at hstep
      split at hstep
      · next hcond =>
          cases hstep
          refine ⟨h.inbound, h.stream, ?_⟩
          have hout := h.outbound
          rw [hcond.2.1] at hout
          simpa using hout
      · cases hstep
  | send =>
      simp only [tcpStep] at hstep
      split at hstep
      · cases hstep
      · next data hpending =>
          split at hstep
          · cases hstep
            refine ⟨h.inbound, h.stream, ?_⟩
            have hout := h.outbound
            rw [hpending] at hout
            simpa using hout
          · cases hstep
  | stop =>
      cases hstep
      exact ⟨h.inbound, fun hphase => absurd rfl hphase, h.outbound⟩

end Tcp

/-! ## UDP -/

structure UdpState where
  inbox : Inbox := {}
  phase : Phase := .connecting
  /-- the chunk that is being sent to the peer -/
  outgoing : Option (List UInt8) := none
  /-- the datagrams sent to the peer -/
  datagrams : List (List UInt8) := []
  /-- the datagrams received from the peer -/
  received : List (List UInt8) := []
  /-- what was received last, until the channel takes it -/
  pending : Option (List UInt8) := none
  /-- the messages sent on the channel -/
  sent : List (List UInt8) := []

inductive UdpEvent
  | message (data : List UInt8)
  | runTask (i : Nat)
  | connect
  | recv
  | transmit
  | receive (datagram : List UInt8)
  | send
  | stop

/-- `bridge_udp`.  A datagram that does not fit the receive buffer is cut by the
socket; an empty one is skipped. -/
def udpStep (s : UdpState) : UdpEvent → Option UdpState
  | .message data => some { s with inbox := s.inbox.message data }
  | .runTask i =>
      (s.inbox.enqueue (some udpMaxDatagram) s.phase i).map fun b => { s with inbox := b }
  | .connect => if s.phase = .connecting then some { s with phase := .running } else none
  | .recv =>
      match s.inbox.queue with
      | [] => none
      | chunk :: rest =>
          if s.phase = .running ∧ s.outgoing = none then
            some { s with
              inbox := { s.inbox with queue := rest }
              outgoing := some chunk }
          else none
  | .transmit =>
      match s.outgoing with
      | none => none
      | some chunk =>
          if s.phase = .running then
            some { s with
              datagrams := s.datagrams ++ [chunk]
              outgoing := none }
          else none
  | .receive datagram =>
      if s.phase = .running ∧ s.pending = none then
        let data := datagram.take udpMaxDatagram
        some { s with
          received := s.received ++ [datagram]
          pending := if data = [] then none else some data }
      else none
  | .send =>
      match s.pending with
      | none => none
      | some data =>
          if s.phase = .running then
            some { s with
              sent := s.sent ++ [data]
              pending := none }
          else none
  | .stop => some { s with phase := .ended }

/-- The condition on a step: the peer's datagrams fit the receive buffer. -/
def Fits (_ : UdpState) : UdpEvent → Prop
  | .receive datagram => datagram.length ≤ udpMaxDatagram
  | _ => True

instance (s : UdpState) (ev : UdpEvent) : Decidable (Fits s ev) := by
  unfold Fits
  split <;> infer_instance

structure UdpInv (s : UdpState) : Prop where
  chunks : ∀ m ∈ s.inbox.chunks, m ∈ s.inbox.arrived
  outgoing : ∀ m ∈ s.outgoing, m ∈ s.inbox.arrived
  datagrams : ∀ m ∈ s.datagrams, m ∈ s.inbox.arrived
  pending : ∀ d ∈ s.pending, d ∈ s.received
  sent : ∀ d ∈ s.sent, d ∈ s.received

section Udp

variable {s : UdpState}

theorem UdpInv.message (h : UdpInv s) (data : List UInt8) :
    UdpInv { s with inbox := s.inbox.message data } := by
  have hgrow : ∀ m ∈ s.inbox.arrived, m ∈ (s.inbox.message data).arrived :=
    fun m hm => List.mem_append_left _ hm
  refine ⟨?_, fun m hm => hgrow m (h.outgoing m hm), fun m hm => hgrow m (h.datagrams m hm),
    h.pending, h.sent⟩
  intro m hm
  have hm : m ∈ s.inbox.queue ++ (s.inbox.tasks ++ [data]) := hm
  rw [← List.append_assoc] at hm
  rcases List.mem_append.mp hm with hold | hnew
  · exact hgrow m (h.chunks m hold)
  · exact List.mem_append_right _ hnew

theorem UdpInv.runTask (h : UdpInv s) {i : Nat} {b : Inbox}
    (henq : s.inbox.enqueue (some udpMaxDatagram) s.phase i = some b) :
    UdpInv { s with inbox := b } := by
  obtain ⟨data, rest, hpick, harrived, htasks, hqueue⟩ := Inbox.enqueue_cases henq
  obtain ⟨hdata, hrest⟩ := Pool.mem_of_pick hpick
  refine ⟨?_, by rw [harrived]; exact h.outgoing, by rw [harrived]; exact h.datagrams,
    h.pending, h.sent⟩
  intro m hm
  rw [harrived]
  refine h.chunks m ?_
  rcases List.mem_append.mp hm with hq | ht
  · rcases hqueue with ⟨hsame, -⟩ | hnew
    · rw [hsame] at hq
      exact List.mem_append_left _ hq
    · rw [hnew] at hq
      rcases List.mem_append.mp hq with hq | hd
      · exact List.mem_append_left _ hq
      · obtain rfl := List.mem_singleton.mp hd
        exact List.mem_append_right _ hdata
  · rw [htasks] at ht
    exact List.mem_append_right _ (hrest m ht)

theorem UdpInv.receive (h : UdpInv s) {datagram : List UInt8}
    (hfits : datagram.length ≤ udpMaxDatagram) :
    UdpInv { s with
      received := s.received ++ [datagram]
      pending := if datagram.take udpMaxDatagram = [] then none
        else some (datagram.take udpMaxDatagram) } := by
  refine ⟨h.chunks, h.outgoing, h.datagrams, ?_, fun d hd => List.mem_append_left _ (h.sent d hd)⟩
  intro d hd
  have hwhole := List.take_of_length_le hfits
  change d ∈ (if datagram.take udpMaxDatagram = [] then none
    else some (datagram.take udpMaxDatagram)) at hd
  split at hd
  · cases hd
  · rw [hwhole] at hd
    cases hd
    exact List.mem_append_right _ (List.mem_singleton.mpr rfl)

theorem UdpInv.recv (h : UdpInv s) {chunk : List UInt8} {rest : List (List UInt8)}
    (hqueue : s.inbox.queue = chunk :: rest) :
    UdpInv { s with
      inbox := { s.inbox with queue := rest }
      outgoing := some chunk } := by
  have hall : ∀ m ∈ chunk :: (rest ++ s.inbox.tasks), m ∈ s.inbox.arrived := by
    have hchunks := h.chunks
    rwa [Inbox.chunks, hqueue, List.cons_append] at hchunks
  refine ⟨fun m hm => hall m (List.mem_cons_of_mem _ hm), ?_, h.datagrams, h.pending, h.sent⟩
  rintro _ ⟨⟩
  exact hall chunk List.mem_cons_self

theorem UdpInv.transmit (h : UdpInv s) {chunk : List UInt8} (hout : s.outgoing = some chunk) :
    UdpInv { s with
      datagrams := s.datagrams ++ [chunk]
      outgoing := none } := by
  refine ⟨h.chunks, fun m hm => (by cases hm), ?_, h.pending, h.sent⟩
  intro m hm
  rcases List.mem_append.mp hm with hold | hnew
  · exact h.datagrams m hold
  · obtain rfl := List.mem_singleton.mp hnew
    exact h.outgoing _ hout

theorem UdpInv.send (h : UdpInv s) {data : List UInt8} (hpending : s.pending = some data) :
    UdpInv { s with
      sent := s.sent ++ [data]
      pending := none } := by
  refine ⟨h.chunks, h.outgoing, h.datagrams, fun d hd => (by cases hd), ?_⟩
  intro d hd
  rcases List.mem_append.mp hd with hold | hnew
  · exact h.sent d hold
  · obtain rfl := List.mem_singleton.mp hnew
    exact h.pending _ hpending

theorem udpStep_inv (s : UdpState) (ev : UdpEvent) (s' : UdpState) (h : UdpInv s)
    (hfits : Fits s ev) (hstep : udpStep s ev = some s') : UdpInv s' := by
  cases ev with
  | message data =>
      cases hstep
      exact h.message data
  | runTask i =>
      obtain ⟨b, henq, rfl⟩ := Option.map_eq_some_iff.mp hstep
      exact h.runTask henq
  | connect =>
      simp only [udpStep] at hstep
      split at hstep
      · cases hstep
        exact ⟨h.chunks, h.outgoing, h.datagrams, h.pending, h.sent⟩
      · cases hstep
  | recv =>
      simp only [udpStep] at hstep
      split at hstep
      · cases hstep
      · next chunk rest hqueue =>
          split at hstep
          · cases hstep
            exact h.recv hqueue
          · cases hstep
  | transmit =>
      simp only [udpStep] at hstep
      split at hstep
      · cases hstep
      · next chunk hout =>
          split at hstep
          · cases hstep
            exact h.transmit hout
          · cases hstep
  | receive datagram =>
      simp only [udpStep] at hstep
      split at hstep
      · cases hstep
        exact h.receive hfits
      · cases hstep
  | send =>
      simp only [udpStep] at hstep
      split at hstep
      · cases hstep
      · next data hpending =>
          split at hstep
          · cases hstep
            exact h.send hpending
          · cases hstep
  | stop =>
      cases hstep
      exact ⟨h.chunks, h.outgoing, h.datagrams, h.pending, h.sent⟩

end Udp

/-! ## Whole runs -/

/-- In every run of a TCP bridge in which no message overtakes an older one, and in
every run of a UDP bridge whose peer sends no datagram above the receive buffer,
both directions keep what they carry: prefixes of the streams for TCP, whole
messages for UDP. -/
theorem ip_forward_integrity (s : TcpState) (u : UdpState) :
    (Run.Reach tcpStep InOrder {} s →
      s.written <+: s.inbox.arrived.flatten ∧ s.sent <+: s.received) ∧
    (Run.Reach udpStep Fits {} u →
      (∀ d ∈ u.datagrams, d ∈ u.inbox.arrived) ∧ ∀ m ∈ u.sent, m ∈ u.received) := by
  constructor
  · intro hrun
    have hinit : TcpInv {} := ⟨List.prefix_rfl, fun _ => rfl, rfl⟩
    have hinv := hrun.invariant hinit tcpStep_inv
    exact ⟨hinv.inbound, ⟨_, hinv.outbound⟩⟩
  · intro hrun
    have hinit : UdpInv {} := by
      constructor <;> intro d hd <;> cases hd
    have hinv := hrun.invariant hinit udpStep_inv
    exact ⟨hinv.datagrams, hinv.sent⟩

/-- Two messages go to the stream in three writes, past an empty one, and an answer
comes back. -/
def tcpRun : List TcpEvent :=
  [.message [], .message [1, 2], .message [3], .connect, .runTask 1, .runTask 1, .recv, .write 1,
    .write 1, .recv, .write 1, .runTask 0, .read [7, 8], .send]

/-- An oversize message and a small one arrive, and the second is run first; an
answer comes back. -/
def udpRun : List UdpEvent :=
  [.message (List.replicate 1201 0), .message [3], .connect, .runTask 1, .runTask 0, .recv,
    .transmit, .receive [7, 8], .send]

theorem ip_forward_integrity_runs :
    (∃ s, Run.Reach tcpStep InOrder {} s ∧ s.written = [1, 2, 3] ∧
      s.written <+: s.inbox.arrived.flatten ∧ s.sent <+: s.received) ∧
    ∃ s, Run.Reach udpStep Fits {} s ∧ s.datagrams = [[3]] ∧
      (∀ d ∈ s.datagrams, d ∈ s.inbox.arrived) ∧ ∀ m ∈ s.sent, m ∈ s.received := by
  have htcp : (Run.exec tcpStep (fun s ev => decide (InOrder s ev)) {} tcpRun).map (·.written) =
      some [1, 2, 3] := by
    decide +kernel
  have hudp : (Run.exec udpStep (fun s ev => decide (Fits s ev)) {} udpRun).map (·.datagrams) =
      some [[3]] := by
    decide +kernel
  obtain ⟨s, hruns, hwritten⟩ := Run.exists_reach_of_exec (fun _ _ => of_decide_eq_true) htcp
  obtain ⟨u, hrunu, hdatagrams⟩ := Run.exists_reach_of_exec (fun _ _ => of_decide_eq_true) hudp
  exact ⟨⟨s, hruns, hwritten, (ip_forward_integrity s u).1 hruns⟩,
    ⟨u, hrunu, hdatagrams, (ip_forward_integrity s u).2 hrunu⟩⟩

def swappedRun : List TcpEvent :=
  [.message [1], .message [2], .connect, .runTask 1, .recv, .write 1]

def cutRun : List UdpEvent := [.connect, .receive (List.replicate 1201 5), .send]

/-- The stream gets the second message first; and the channel gets 1200 bytes that
the peer never sent as a datagram. -/
theorem swapped_and_cut :
    (∃ s, Run.Reach tcpStep Run.anyStep {} s ∧ ¬ s.written <+: s.inbox.arrived.flatten) ∧
    ∃ s, Run.Reach udpStep Run.anyStep {} s ∧ ∃ m ∈ s.sent, m ∉ s.received := by
  have htcp : (Run.exec tcpStep (fun _ _ => true) {} swappedRun).map
      (fun s => (s.written, s.inbox.arrived)) = some ([2], [[1], [2]]) := by
    decide +kernel
  have hudp : (Run.exec udpStep (fun _ _ => true) {} cutRun).map
      (fun s => (s.sent.map List.length, s.received.map List.length)) = some ([1200], [1201]) := by
    decide +kernel
  obtain ⟨s, hruns, hend⟩ := Run.exists_reach_of_exec (fun _ _ _ => trivial) htcp
  obtain ⟨hwritten, harrived⟩ := Prod.mk.inj hend
  obtain ⟨u, hrunu, hend'⟩ := Run.exists_reach_of_exec (fun _ _ _ => trivial) hudp
  obtain ⟨hsent, hreceived⟩ := Prod.mk.inj hend'
  refine ⟨⟨s, hruns, ?_⟩, ⟨u, hrunu, ?_⟩⟩
  · rw [hwritten, harrived]
    decide
  · obtain ⟨m, hm, hlen⟩ := List.mem_map.mp (hsent ▸ List.mem_singleton.mpr rfl :
      1200 ∈ u.sent.map List.length)
    refine ⟨m, hm, fun hrec => ?_⟩
    have hother : m.length ∈ u.received.map List.length := List.mem_map_of_mem hrec
    rw [hreceived, hlen] at hother
    revert hother
    decide

end ArkKvm.IpForward
