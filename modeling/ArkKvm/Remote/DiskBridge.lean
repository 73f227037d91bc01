import ArkKvm.Lib.Bytes
import ArkKvm.Lib.Pool
import ArkKvm.Lib.Run

/-!
# Disk reads over WebRTC

`remote_mount.rs` and the disk channel of `data_channel.rs`.  A read clears the
shared buffer, sends the range it wants and waits until the buffer holds enough
bytes or five seconds are over.  Requests leave through spawned send tasks; every
message of the browser is handed to a task of its own, which strips the header
and appends the rest to the buffer.  Which tasks run when, when the browser
answers and which reads time out is up to the run.
-/

namespace ArkKvm.RemoteMount

open Lib Lib.Bytes

structure DiskReadRequest where
  start : Nat
  stop : Nat
deriving DecidableEq

def inboundHeaderLen : Nat := 16

structure DiskRead where
  offset : Nat
  size : Nat
  data : List UInt8
deriving DecidableEq

/-- The state of the transport, with what is on its way.  Requests and messages carry
the number of the read that they belong to; the code does not look at it. -/
structure State where
  inFlight : Bool := false
  buf : List UInt8 := []
  /-- offset and size of the read that waits for its bytes -/
  waiting : Option (Nat × Nat) := none
  /-- how many reads have passed the checks at the head of `read` -/
  reads : Nat := 0
  /-- the spawned send tasks -/
  sending : List (Nat × DiskReadRequest) := []
  /-- what the browser has still to answer, in request order -/
  requests : List (Nat × DiskReadRequest) := []
  /-- the spawned tasks of inbound messages -/
  tasks : List (Nat × List UInt8) := []
  /-- the reads that have returned Ok -/
  results : List DiskRead := []

inductive Event
  /-- `read`; whether a sender is installed, and whether it takes the request -/
  | read (offset size : Int) (ready sent : Bool)
  | sendRequest (i : Nat)
  /-- the browser sends the next `k` bytes of the oldest request -/
  | answer (header : List UInt8) (k : Nat)
  | onMessage (i : Nat)
  /-- the waiting read finds enough bytes -/
  | finish
  | timeout

def trimHeader (payload : List UInt8) : List UInt8 :=
  if inboundHeaderLen ≤ payload.length then payload.drop inboundHeaderLen else payload

def webrtcDiskOnMessage (payload : List UInt8) (s : State) : State :=
  { s with buf := s.buf ++ trimHeader payload }

/-- `(end - start) as usize`, on the 32-bit target. -/
def need (size : Nat) : Nat := size % 2 ^ 32

/-- The checks at the head of `read` let the call through. -/
def accepts (s : State) (offset size : Int) (ready : Bool) : Prop :=
  0 ≤ offset ∧ 0 < size ∧ ready = true ∧ s.inFlight = false

instance (s : State) (offset size : Int) (ready : Bool) : Decidable (accepts s offset size ready) :=
  inferInstanceAs (Decidable (_ ∧ _ ∧ _ ∧ _))

/-- The part of `read` up to the wait.  When the sender fails, the call returns and
the flag stays set. -/
def startRead (s : State) (offset size : Nat) (sent : Bool) : State :=
  let s := { s with
    inFlight := true
    buf := []
    reads := s.reads + 1 }
  if sent then
    { s with
      sending := s.sending ++ [(s.reads, ⟨offset, offset + size⟩)]
      waiting := some (offset, size) }
  else s

def answerNext (image header : List UInt8) (k : Nat) (s : State) : Option State :=
  match s.requests with
  | [] => none
  | (n, r) :: rest =>
      if header.length = inboundHeaderLen ∧ r.start + k ≤ r.stop then
        some { s with
          tasks := s.tasks ++ [(n, header ++ slice image r.start k)]
          requests := if r.start + k = r.stop then rest else (n, ⟨r.start + k, r.stop⟩) :: rest }
      else none

def finishRead (s : State) (offset size : Nat) : State :=
  { s with
    inFlight := false
    waiting := none
    buf := s.buf.drop (need size)
    results := s.results ++ [⟨offset, size, s.buf.take (need size)⟩] }

def step (image : List UInt8) (s : State) : Event → Option State
  | .read offset size ready sent =>
      if accepts s offset size ready then some (startRead s offset.toNat size.toNat sent)
      else some s
  | .sendRequest i =>
      (Pool.pick i s.sending).map fun x =>
        { s with
          sending := x.2
          requests := s.requests ++ [x.1] }
  | .answer header k => answerNext image header k s
  | .onMessage i =>
      (Pool.pick i s.tasks).map fun x => webrtcDiskOnMessage x.1.2 { s with tasks := x.2 }
  | .finish =>
      match s.waiting with
      | none => none
      | some (offset, size) =>
          if need size ≤ s.buf.length then some (finishRead s offset size) else none
  | .timeout =>
      match s.waiting with
      | none => none
      | some _ =>
          some { s with
            inFlight := false
            waiting := none }

/-- The condition on a step: a read asks for less than 2^32 bytes, and while a read
waits, the message whose task runs belongs to it and overtakes no older message of
it. -/
def InTurn (s : State) : Event → Prop
  | .read offset size ready _ => accepts s offset size ready → size < 2 ^ 32
  | .onMessage i =>
      s.waiting.isSome = true →
        ∀ m ∈ s.tasks[i]?, m.1 = s.reads ∧ Pool.tagged s.reads (s.tasks.take i) = []
  | _ => True

instance (s : State) (ev : Event) : Decidable (InTurn s ev) := by
  unfold InTurn
  split <;> infer_instance

/-! ## The stream of one read -/

section Stream

variable {image : List UInt8} {s s' : State}

def answerBytes (image : List UInt8) (r : DiskReadRequest) : List UInt8 :=
  slice image r.start (r.stop - r.start)

def answers (image : List UInt8) (n : Nat) (requests : List (Nat × DiskReadRequest)) :
    List UInt8 :=
  ((Pool.tagged n requests).map (answerBytes image)).flatten

def bodies (n : Nat) (tasks : List (Nat × List UInt8)) : List UInt8 :=
  ((Pool.tagged n tasks).map trimHeader).flatten

/-- What is in the buffer and what of the latest read is still on its way, in order. -/
def pipeline (image : List UInt8) (s : State) : List UInt8 :=
  s.buf ++ bodies s.reads s.tasks ++ answers image s.reads s.requests ++
    answers image s.reads s.sending

structure BridgeInv (image : List UInt8) (s : State) : Prop where
  results : ∀ r ∈ s.results, r.data = slice image r.offset r.size
  stream : ∀ {offset size}, s.waiting = some (offset, size) →
    size < 2 ^ 32 ∧ pipeline image s = slice image offset size
  oneSend : (Pool.tagged s.reads s.sending).length ≤ 1
  sendingOld : ∀ x ∈ s.sending, x.1 ≤ s.reads
  requestsOld : ∀ x ∈ s.requests, x.1 ≤ s.reads
  tasksOld : ∀ x ∈ s.tasks, x.1 ≤ s.reads
  flag : s.waiting.isSome = true → s.inFlight = true

theorem trimHeader_append {header body : List UInt8} (h : header.length = inboundHeaderLen) :
    trimHeader (header ++ body) = body := by
  unfold trimHeader
  rw [if_pos (by simp [h]), ← h]
  exact List.drop_left

theorem BridgeInv.fresh (h : BridgeInv image s) :
    Pool.tagged (s.reads + 1) s.sending = [] ∧ Pool.tagged (s.reads + 1) s.requests = [] ∧
      Pool.tagged (s.reads + 1) s.tasks = [] :=
  ⟨Pool.tagged_eq_nil_of_lt fun x hx => Nat.lt_succ_of_le (h.sendingOld x hx),
    Pool.tagged_eq_nil_of_lt fun x hx => Nat.lt_succ_of_le (h.requestsOld x hx),
    Pool.tagged_eq_nil_of_lt fun x hx => Nat.lt_succ_of_le (h.tasksOld x hx)⟩

theorem startRead_inv {offset size : Nat} {sent : Bool} (h : BridgeInv image s)
    (hsize : size < 2 ^ 32) (hidle : s.inFlight = false) :
    BridgeInv image (startRead s offset size sent) := by
  obtain ⟨hsending, hrequests, htasks⟩ := h.fresh
  have hrequestsOld : ∀ x ∈ s.requests, x.1 ≤ s.reads + 1 :=
    fun x hx => Nat.le_succ_of_le (h.requestsOld x hx)
  have htasksOld : ∀ x ∈ s.tasks, x.1 ≤ s.reads + 1 :=
    fun x hx => Nat.le_succ_of_le (h.tasksOld x hx)
  cases sent with
  | false =>
      have hnone : ¬ s.waiting.isSome = true := by
        intro hw
        exact absurd ((h.flag hw).symm.trans hidle) (by decide)
      refine ⟨h.results, fun hw => absurd ?_ hnone, by simp [startRead, hsending],
        fun x hx => Nat.le_succ_of_le (h.sendingOld x hx), hrequestsOld, htasksOld,
        fun _ => rfl⟩
      change s.waiting = _ at hw
      rw [hw]
      rfl
  | true =>
      refine ⟨h.results, ?_, by simp [startRead, hsending, Pool.tagged_cons_self], ?_,
        hrequestsOld, htasksOld, fun _ => rfl⟩
      · rintro _ _ ⟨⟩
        refine ⟨hsize, ?_⟩
        simp [startRead, pipeline, bodies, answers, hsending, hrequests, htasks,
          Pool.tagged_cons_self, answerBytes]
      · intro x hx
        rcases List.mem_append.mp hx with hold | hnew
        · exact Nat.le_succ_of_le (h.sendingOld x hold)
        · rw [List.mem_singleton.mp hnew]
          exact Nat.le_refl _

theorem sendRequest_inv {i : Nat} {x : Nat × DiskReadRequest}
    {rest : List (Nat × DiskReadRequest)} (h : BridgeInv image s)
    (hpick : Pool.pick i s.sending = some (x, rest)) :
    BridgeInv image { s with
      sending := rest
      requests := s.requests ++ [x] } := by
  obtain ⟨hx, hrest⟩ := Pool.mem_of_pick hpick
  have hold : ∀ y ∈ s.requests ++ [x], y.1 ≤ s.reads := by
    intro y hy
    rcases List.mem_append.mp hy with hreq | hnew
    · exact h.requestsOld y hreq
    · rw [List.mem_singleton.mp hnew]
      exact h.sendingOld x hx
  have hmoved : answers image s.reads (s.requests ++ [x]) ++ answers image s.reads rest =
        answers image s.reads s.requests ++ answers image s.reads s.sending ∧
      (Pool.tagged s.reads rest).length ≤ 1 := by
    obtain ⟨n, r⟩ := x
    by_cases hn : n = s.reads
    · subst hn
      obtain ⟨hsending, hnone⟩ := Pool.tagged_of_pick_only hpick h.oneSend
      simp [answers, hsending, hnone, Pool.tagged_cons_self]
    · rw [answers, answers, Pool.tagged_of_pick_ne hpick hn, Pool.tagged_append,
        Pool.tagged_cons_of_ne hn]
      exact ⟨by simp [answers], h.oneSend⟩
  refine ⟨h.results, ?_, hmoved.2, fun y hy => h.sendingOld y (hrest y hy), hold, h.tasksOld,
    h.flag⟩
  intro o m hw
  obtain ⟨hsize, hstream⟩ := h.stream hw
  refine ⟨hsize, ?_⟩
  rw [← hstream, pipeline, pipeline, List.append_assoc, List.append_assoc, hmoved.1]
  simp only [List.append_assoc]

/-- Sending the first `k` bytes of an answer leaves the rest of it, whichever read the
request belongs to. -/
theorem answers_next (image : List UInt8) {header : List UInt8} (n m : Nat) (r : DiskReadRequest)
    (rest : List (Nat × DiskReadRequest)) {k : Nat} (hheader : header.length = inboundHeaderLen)
    (hle : r.start + k ≤ r.stop) :
    bodies n [(m, header ++ slice image r.start k)] ++
        answers image n (if r.start + k = r.stop then rest
          else (m, ⟨r.start + k, r.stop⟩) :: rest) =
      answers image n ((m, r) :: rest) := by
  by_cases hm : m = n
  · subst hm
    rw [bodies, answers, answers, Pool.tagged_cons_self, Pool.tagged_cons_self, List.map_cons,
      trimHeader_append hheader, List.map_cons, List.flatten_cons, List.flatten_cons]
    split
    · next heq =>
        rw [answerBytes, ← heq, Nat.add_sub_cancel_left]
        simp
    · have hrest : k + (r.stop - (r.start + k)) = r.stop - r.start := by omega
      rw [Pool.tagged_cons_self, List.map_cons, List.flatten_cons, ← List.append_assoc]
      congr 1
      simp only [Pool.tagged_nil, List.map_nil, List.flatten_nil, List.append_nil, answerBytes]
      rw [slice_append_slice, hrest]
  · rw [bodies, answers, answers, Pool.tagged_cons_of_ne hm, Pool.tagged_cons_of_ne hm]
    split
    · rfl
    · rw [Pool.tagged_cons_of_ne hm]
      rfl

theorem answerNext_inv {header : List UInt8} {k : Nat} (h : BridgeInv image s)
    (hstep : answerNext image header k s = some s') : BridgeInv image s' := by
  unfold answerNext at hstep
  split at hstep
  · cases hstep
  · next n r rest hreq =>
      split at hstep
      · next hcond =>
          cases hstep
          have hn : n ≤ s.reads := h.requestsOld (n, r) (hreq ▸ List.mem_cons_self)
          have hrest : ∀ x ∈ rest, x.1 ≤ s.reads :=
            fun x hx => h.requestsOld x (hreq ▸ List.mem_cons_of_mem _ hx)
          refine ⟨h.results, ?_, h.oneSend, h.sendingOld, ?_, ?_, h.flag⟩
          · intro o m hw
            obtain ⟨hsize, hstream⟩ := h.stream hw
            refine ⟨hsize, ?_⟩
            have hnext := answers_next image s.reads n r rest hcond.1 hcond.2
            rw [← hstream, pipeline, pipeline, hreq, ← hnext]
            simp [bodies]
          · intro x hx
            change x ∈ (if r.start + k = r.stop then rest
              else (n, ⟨r.start + k, r.stop⟩) :: rest) at hx
            split at hx
            · exact hrest x hx
            · rcases List.mem_cons.mp hx with rfl | hx
              · exact hn
              · exact hrest x hx
          · intro x hx
            rcases List.mem_append.mp hx with hold | hnew
            · exact h.tasksOld x hold
            · rw [List.mem_singleton.mp hnew]
              exact hn
      · cases hstep

theorem onMessage_inv {i : Nat} {m : Nat × List UInt8} {rest : List (Nat × List UInt8)}
    (h : BridgeInv image s) (hturn : InTurn s (.onMessage i))
    (hpick : Pool.pick i s.tasks = some (m, rest)) :
    BridgeInv image (webrtcDiskOnMessage m.2 { s with tasks := rest }) := by
  refine ⟨h.results, ?_, h.oneSend, h.sendingOld, h.requestsOld,
    fun x hx => h.tasksOld x ((Pool.mem_of_pick hpick).2 x hx), h.flag⟩
  intro o n hw
  obtain ⟨hsize, hstream⟩ := h.stream hw
  refine ⟨hsize, ?_⟩
  obtain ⟨y, hy, heq⟩ := Option.map_eq_some_iff.mp hpick
  obtain ⟨rfl, -⟩ := Prod.mk.inj heq
  change s.waiting = _ at hw
  obtain ⟨hown, hfirst⟩ := hturn (by rw [hw]; rfl) y hy
  obtain ⟨n, body⟩ := y
  obtain rfl : n = s.reads := hown
  have htasks := Pool.tagged_of_pick_first hpick hfirst
  rw [← hstream]
  simp [pipeline, bodies, webrtcDiskOnMessage, htasks]

/-- A read that finds enough bytes in the buffer finds exactly its range there. -/
theorem buf_eq_of_need {offset size : Nat} (h : BridgeInv image s)
    (hw : s.waiting = some (offset, size)) (hlen : need size ≤ s.buf.length) :
    s.buf.take (need size) = slice image offset size := by
  obtain ⟨hsize, hstream⟩ := h.stream hw
  have hneed : need size = size := Nat.mod_eq_of_lt hsize
  rw [hneed] at hlen ⊢
  have hbegins : s.buf <+: slice image offset size := by
    rw [← hstream, pipeline, List.append_assoc, List.append_assoc]
    exact List.prefix_append _ _
  have hshort : (slice image offset size).length ≤ size := by
    rw [length_slice]
    exact Nat.min_le_left _ _
  have heq := hbegins.eq_of_length_le (hshort.trans hlen)
  rw [heq]
  exact List.take_of_length_le hshort

theorem finishRead_inv {offset size : Nat} (h : BridgeInv image s)
    (hw : s.waiting = some (offset, size)) (hlen : need size ≤ s.buf.length) :
    BridgeInv image (finishRead s offset size) := by
  refine ⟨?_, fun hw' => (by cases hw'), h.oneSend, h.sendingOld, h.requestsOld, h.tasksOld,
    fun hw' => (by cases hw')⟩
  intro r hr
  rcases List.mem_append.mp hr with hold | hnew
  · exact h.results r hold
  · obtain rfl := List.mem_singleton.mp hnew
    exact buf_eq_of_need h hw hlen

end Stream

/-! ## Whole runs -/

theorem step_inv {image : List UInt8} (s : State) (ev : Event) (s' : State)
    (h : BridgeInv image s) (hturn : InTurn s ev) (hstep : step image s ev = some s') :
    BridgeInv image s' := by
  cases ev with
  | read offset size ready sent =>
      simp only [step] at hstep
      split at hstep
      · next hacc =>
          cases hstep
          have hsize := hturn hacc
          exact startRead_inv h (by omega) hacc.2.2.2
      · cases hstep
        exact h
  | sendRequest i =>
      obtain ⟨⟨x, rest⟩, hpick, rfl⟩ := Option.map_eq_some_iff.mp hstep
      exact sendRequest_inv h hpick
  | answer header k => exact answerNext_inv h hstep
  | onMessage i =>
      obtain ⟨⟨m, rest⟩, hpick, rfl⟩ := Option.map_eq_some_iff.mp hstep
      exact onMessage_inv h hturn hpick
  | finish =>
      simp only [step] at hstep
      split at hstep
      · cases hstep
      · next offset size hw =>
          split at hstep
          · next hlen =>
              cases hstep
              exact finishRead_inv h hw hlen
          · cases hstep
  | timeout =>
      simp only [step] at hstep
      split at hstep
      · cases hstep
      · cases hstep
        exact ⟨h.results, fun hw => (by cases hw), h.oneSend, h.sendingOld, h.requestsOld,
          h.tasksOld, fun hw => (by cases hw)⟩

/-- In every run in which the messages that arrive while a read waits are those of
its own request, in order, every read that returns Ok returns the bytes it asked
for. -/
theorem disk_reads_return_image (image : List UInt8) {s : State}
    (hrun : Run.Reach (step image) InTurn {} s) :
    ∀ r ∈ s.results, r.data = slice image r.offset r.size := by
  have hinv₀ : BridgeInv image {} :=
    ⟨fun r hr => (by cases hr), fun hw => (by cases hw), Nat.zero_le _, fun x hx => (by cases hx),
      fun x hx => (by cases hx), fun x hx => (by cases hx), fun hw => (by cases hw)⟩
  exact (hrun.invariant hinv₀ step_inv).results

def someHeader : List UInt8 := List.replicate 16 0

/-- A read that is answered in two messages; one whose answer comes too late, and a
third one that starts before that answer and whose own message is handled first. -/
def inTurnRun : List Event :=
  [.read 1 3 true true, .sendRequest 0, .answer someHeader 2, .answer someHeader 1,
    .onMessage 0, .onMessage 0, .finish,
    .read 0 1 true true, .sendRequest 0, .timeout,
    .read 2 1 true true, .sendRequest 0, .answer someHeader 1, .answer someHeader 1,
    .onMessage 1, .finish, .onMessage 0]

theorem disk_reads_return_image_inTurnRun :
    ∃ s, Run.Reach (step [10, 20, 30, 40]) InTurn {} s ∧
      s.results.map (fun r => (r.offset, r.size)) = [(1, 3), (2, 1)] ∧
      ∀ r ∈ s.results, r.data = slice [10, 20, 30, 40] r.offset r.size := by
  have hexec : (Run.exec (step [10, 20, 30, 40]) (fun s ev => decide (InTurn s ev)) {}
      inTurnRun).map (fun s => s.results.map fun r => (r.offset, r.size)) =
      some [(1, 3), (2, 1)] := by
    decide +kernel
  obtain ⟨s, hrun, hreads⟩ := Run.exists_reach_of_exec (fun _ _ => of_decide_eq_true) hexec
  exact ⟨s, hrun, hreads, disk_reads_return_image _ hrun⟩

def lateAnswerRun : List Event :=
  [.read 0 1 true true, .sendRequest 0, .timeout, .read 1 1 true true, .sendRequest 0,
    .answer someHeader 1, .onMessage 0, .finish]

/-- The second read returns the byte of the first one. -/
theorem late_answer_is_returned :
    ∃ s, Run.Reach (step [10, 20]) Run.anyStep {} s ∧
      ∃ r ∈ s.results, r.data ≠ slice [10, 20] r.offset r.size := by
  have hexec : (Run.exec (step [10, 20]) (fun _ _ => true) {} lateAnswerRun).map (·.results) =
      some [⟨1, 1, [10]⟩] := by
    decide +kernel
  obtain ⟨s, hrun, hresults⟩ := Run.exists_reach_of_exec (fun _ _ _ => trivial) hexec
  refine ⟨s, hrun, ⟨1, 1, [10]⟩, ?_, by decide⟩
  rw [hresults]
  exact List.mem_singleton.mpr rfl

end ArkKvm.RemoteMount
