import ArkKvm.Terminal.Actor

/-!
# The byte streams of a terminal

What the loop does to the bytes that pass through it: the input goes to the PTY as it came,
and the output goes to the channel as it was read, unless the loop is left while some of it
waits in the outbox or in the send in flight.
-/

namespace ArkKvm.Terminal

open Lib.Run (Reach anyStep)

namespace Actor

def Running (s : Actor) : Prop := ∀ e, s.point ≠ .left e

/-- What a step of the loop does to the queues. -/
inductive Effect (s : Actor) : Actor → Prop
  | move {point : Point} (alive : Bool) (h : point ≠ .left .sendFailed) :
      Effect s { s with point := point, childAlive := alive }
  | start {chunk : List UInt8} {rest : List (List UInt8)} (hfree : s.inflightSend = none)
      (houtbox : s.outbox = chunk :: rest) :
      Effect s { s with point := .select, inflightSend := some chunk, outbox := rest }
  | data (bytes : List UInt8) : Effect s { s with
      point := .head
      writePending := s.writePending ++ [bytes]
      received := s.received ++ bytes }
  | sent {chunk : List UInt8} (hchunk : s.inflightSend = some chunk) :
      Effect s { s with point := .head, inflightSend := none, sent := s.sent ++ chunk }
  | sendFailed : Effect s { s with point := .left .sendFailed, inflightSend := none }
  | read {bs : List UInt8} (hne : bs ≠ []) (hpoint : s.point = .reading) :
      Effect s { s with outbox := s.outbox ++ [bs], output := s.output ++ bs }
  | skip {rest : List (List UInt8)} (hpoint : s.point = .writing)
      (hpending : s.writePending = [] :: rest) : Effect s { s with writePending := rest }
  | wrote {front : List UInt8} {rest : List (List UInt8)} (hpoint : s.point = .writing)
      (hpending : s.writePending = front :: rest) :
      Effect s { s with writePending := rest, written := s.written ++ front }
  | part {front : List UInt8} {rest : List (List UInt8)} (n : Nat)
      (hpending : s.writePending = front :: rest) : Effect s { s with
        point := .head
        writePending := front.drop n :: rest
        written := s.written ++ front.take n }

variable {s s' : Actor}

theorem effect_leave {exit : Exit} (h : exit ≠ .sendFailed) : Effect s (s.leave exit) :=
  .move s.childAlive (fun heq => h (Point.left.inj heq))

theorem effect_point {point : Point} (h : point ≠ .left .sendFailed) :
    Effect s { s with point := point } :=
  .move s.childAlive h

theorem effect_read (hpoint : s.point = .reading) {r : ReadOutcome} (h : s.read r = some s') :
    Effect s s' := by
  cases r with
  | bytes bs =>
      unfold read at h
      dsimp only at h
      split at h
      · next hbs =>
          cases h
          exact .read hbs.1 hpoint
      · cases h
  | eof =>
      cases h
      exact effect_leave nofun
  | interrupted =>
      cases h
      exact effect_point (by rw [hpoint]; nofun)
  | wouldBlock =>
      cases h
      exact effect_point nofun
  | failed =>
      cases h
      exact effect_leave nofun

theorem effect_write (hpoint : s.point = .writing) {front : List UInt8}
    {rest : List (List UInt8)} (hpending : s.writePending = front :: rest) {r : WriteOutcome}
    (h : s.write front rest r = some s') : Effect s s' := by
  cases r with
  | wrote n =>
      unfold write at h
      dsimp only at h
      split at h
      · cases h
      · split at h
        · cases h
          exact effect_leave nofun
        · split at h
          · cases h
            exact .wrote hpoint hpending
          · cases h
            exact .part n hpending
  | interrupted =>
      cases h
      exact effect_point (by rw [hpoint]; nofun)
  | wouldBlock =>
      cases h
      exact effect_point nofun
  | failed =>
      cases h
      exact effect_leave nofun

theorem effect_reap (r : WaitOutcome) : Effect s (s.reap r) := by
  cases r with
  | exited => exact .move false nofun
  | running => exact effect_point nofun
  | failed => exact .move false nofun

theorem effect_select {ev : Event} (h : s.select ev = some s') : Effect s s' := by
  cases ev with
  | seeCancel =>
      unfold select at h
      dsimp only at h
      split at h
      · cases h
        exact effect_leave nofun
      · cases h
  | command cmd =>
      cases h
      cases cmd with
      | none => exact effect_leave nofun
      | some cmd =>
          cases cmd with
          | data bytes => exact .data bytes
          | resize rows cols => exact effect_point nofun
  | sendDone ok =>
      unfold select at h
      dsimp only at h
      obtain ⟨chunk, hchunk, hdone⟩ := Option.map_eq_some_iff.mp h
      rw [← hdone]
      cases ok with
      | false => exact .sendFailed
      | true => exact .sent hchunk
  | readable ok =>
      unfold select at h
      dsimp only at h
      split at h
      · cases h
        cases ok with
        | false => exact effect_leave nofun
        | true => exact effect_point nofun
      · cases h
  | writable ok =>
      unfold select at h
      dsimp only at h
      split at h
      · cases h
      · cases h
        cases ok with
        | false => exact effect_leave nofun
        | true => exact effect_point nofun
  | reap r =>
      unfold select at h
      dsimp only at h
      split at h
      · cases h
        exact effect_reap r
      · cases h
  | cancel | enter | outboxFull | read | nextChunk | write => cases h

theorem running_of_point {point : Point} (hpoint : s.point = point) (h : ∀ e, point ≠ .left e) :
    s.Running := by
  intro e
  rw [hpoint]
  exact h e

theorem step_effect {ev : Event} (h : s.step ev = some s') :
    s' = { s with cancelled := true } ∨ (s.Running ∧ Effect s s') := by
  unfold step at h
  split at h
  · cases h
    exact Or.inl rfl
  · split at h
    · next hpoint _ =>
        refine Or.inr ⟨running_of_point hpoint nofun, ?_⟩
        cases h
        split
        · exact effect_leave nofun
        · unfold startSend
          split
          · next hfree houtbox => exact .start hfree houtbox
          · exact effect_point nofun
    · next hpoint _ => exact Or.inr ⟨running_of_point hpoint nofun, effect_select h⟩
    · next hpoint _ =>
        refine Or.inr ⟨running_of_point hpoint nofun, ?_⟩
        split at h
        · cases h
          exact effect_point nofun
        · cases h
    · next hpoint _ =>
        refine Or.inr ⟨running_of_point hpoint nofun, ?_⟩
        split at h
        · exact effect_read hpoint h
        · cases h
    · next hpoint _ =>
        refine Or.inr ⟨running_of_point hpoint nofun, ?_⟩
        split at h
        · cases h
          exact effect_point nofun
        · next hpending =>
            cases h
            exact .skip hpoint hpending
        · cases h
    · next hpoint _ =>
        refine Or.inr ⟨running_of_point hpoint nofun, ?_⟩
        split at h
        · next hpending => exact effect_write hpoint hpending h
        · cases h
    · cases h

/-! ## Input -/

def InputOk (s : Actor) : Prop := s.written ++ s.writePending.flatten = s.received

theorem InputOk.step (h : InputOk s) {ev : Event} (hstep : s.step ev = some s') : InputOk s' := by
  unfold InputOk at h ⊢
  rcases step_effect hstep with rfl | ⟨-, heffect⟩
  · exact h
  · cases heffect with
    | move => exact h
    | start => exact h
    | data bytes =>
        show s.written ++ (s.writePending ++ [bytes]).flatten = s.received ++ bytes
        rw [← h, List.flatten_append, List.flatten_singleton, List.append_assoc]
    | sent => exact h
    | sendFailed => exact h
    | read => exact h
    | skip hpoint hpending =>
        rw [hpending] at h
        exact h
    | wrote hpoint hpending =>
        rw [hpending, List.flatten_cons, ← List.append_assoc] at h
        exact h
    | part n hpending =>
        rw [hpending, List.flatten_cons] at h
        dsimp only
        rw [List.flatten_cons, List.append_assoc, ← List.append_assoc (List.take n _),
          List.take_append_drop]
        exact h

/-- In every run the PTY has got a beginning of what was received, and the rest of it is
waiting. -/
theorem input_is_written_in_order {s : Actor} (hrun : Reach step anyStep {} s) :
    s.written ++ s.writePending.flatten = s.received ∧ s.written <+: s.received := by
  have hinit : InputOk {} := rfl
  have hok : InputOk s := hrun.invariant hinit fun s ev s' h _ hstep => h.step hstep
  exact ⟨hok, _, hok⟩

/-- Two bytes are typed, and the PTY takes them one at a time. -/
theorem input_is_written_in_order_partly :
    ∃ s : Actor, Reach step anyStep {} s ∧ s.written = [1] ∧ s.writePending = [[2]] ∧
      s.written <+: s.received := by
  have hexec : (Lib.Run.exec step (fun _ _ => true) {} [.enter, .command (some (.data [1, 2])),
      .enter, .writable true, .write .interrupted, .write (.wrote 1)]).map
        (fun s => (s.written, s.writePending)) = some ([1], [[2]]) := by decide
  have hreach : ∃ s, Reach step anyStep {} s ∧ (s.written, s.writePending) = ([1], [[2]]) :=
    Lib.Run.exists_reach_of_exec (fun _ _ _ => trivial) hexec
  obtain ⟨s, hrun, hs⟩ := hreach
  obtain ⟨hwritten, hpending⟩ := Prod.mk.inj hs
  exact ⟨s, hrun, hwritten, hpending, (input_is_written_in_order hrun).2⟩

/-! ## Output -/

/-- The chunks that are read and not sent. -/
def waiting (s : Actor) : List (List UInt8) := s.inflightSend.toList ++ s.outbox

/-- What was sent and what waits to be sent is the output, unless a send has failed. -/
structure OutputOk (s : Actor) : Prop where
  nonempty : ∀ chunk ∈ s.waiting, chunk ≠ []
  kept : s.point ≠ .left .sendFailed → s.sent ++ s.waiting.flatten = s.output

theorem OutputOk.of_running (h : OutputOk s) (hrunning : s.Running) :
    s.sent ++ s.waiting.flatten = s.output := h.kept (hrunning .sendFailed)

theorem OutputOk.effect (h : OutputOk s) (hrunning : s.Running) (heffect : Effect s s') :
    OutputOk s' := by
  have hkept := h.of_running hrunning
  cases heffect with
  | move => exact ⟨h.nonempty, fun _ => hkept⟩
  | @start chunk rest hfree houtbox =>
      have hwaiting : s.waiting = chunk :: rest := by simp [waiting, hfree, houtbox]
      have hnonempty := h.nonempty
      rw [hwaiting] at hnonempty hkept
      exact ⟨hnonempty, fun _ => hkept⟩
  | data => exact ⟨h.nonempty, fun _ => hkept⟩
  | @sent chunk hchunk =>
      have hwaiting : s.waiting = chunk :: s.outbox := by simp [waiting, hchunk]
      have hnonempty := h.nonempty
      rw [hwaiting] at hnonempty hkept
      rw [List.flatten_cons, ← List.append_assoc] at hkept
      exact ⟨fun c hc => hnonempty c (List.mem_cons_of_mem chunk hc), fun _ => hkept⟩
  | sendFailed =>
      exact ⟨fun c hc => h.nonempty c (List.mem_append_right _ hc), fun hne => absurd rfl hne⟩
  | @read bs hne =>
      have hwaiting : ({ s with outbox := s.outbox ++ [bs], output := s.output ++ bs } :
          Actor).waiting = s.waiting ++ [bs] := (List.append_assoc _ _ _).symm
      refine ⟨fun c hc => ?_, fun _ => ?_⟩
      · rw [hwaiting] at hc
        rcases List.mem_append.mp hc with hc | hc
        · exact h.nonempty c hc
        · rw [List.mem_singleton.mp hc]
          exact hne
      · rw [hwaiting, List.flatten_append, List.flatten_singleton, ← List.append_assoc]
        exact congrArg (· ++ bs) hkept
  | skip => exact ⟨h.nonempty, fun _ => hkept⟩
  | wrote => exact ⟨h.nonempty, fun _ => hkept⟩
  | part => exact ⟨h.nonempty, fun _ => hkept⟩

theorem OutputOk.step (h : OutputOk s) {ev : Event} (hstep : s.step ev = some s') :
    OutputOk s' := by
  rcases step_effect hstep with rfl | ⟨hrunning, heffect⟩
  · exact ⟨h.nonempty, h.kept⟩
  · exact h.effect hrunning heffect

theorem outputOk_of_reach (hrun : Reach step anyStep {} s) : OutputOk s := by
  have hinit : OutputOk {} := ⟨nofun, fun _ => rfl⟩
  exact hrun.invariant hinit fun s ev s' h _ hstep => h.step hstep

/-- The loop was left because the PTY is at its end or the child has exited. -/
def Ended (s : Actor) : Prop := s.point = .left .eof ∨ s.point = .left .childExited

/-- All output is sent, in order. -/
def Delivered (s : Actor) : Prop := s.sent = s.output

def Drained (s : Actor) : Prop := s.inflightSend = none ∧ s.outbox = []

theorem drained_iff : s.Drained ↔ s.waiting = [] := by
  simp [Drained, waiting]

theorem waiting_of_ended {ev : Event} (hstep : s.step ev = some s') (hend : s'.Ended) :
    s'.waiting = s.waiting := by
  rcases step_effect hstep with rfl | ⟨-, heffect⟩
  · rfl
  · cases heffect with
    | move => rfl
    | read hne hpoint | skip hpoint hpending | wrote hpoint hpending =>
        rcases hend with hend | hend
        · cases hpoint.symm.trans hend
        · cases hpoint.symm.trans hend
    | start | data | sent | sendFailed | part =>
        rcases hend with hend | hend
        · cases hend
        · cases hend

/-- When the loop ends with the PTY or with the child, the output is delivered exactly when
nothing waits at that moment: what waits then is dropped. -/
theorem output_delivered_iff {ev : Event} (hrun : Reach step anyStep {} s)
    (hstep : s.step ev = some s') (hend : s'.Ended) : s'.Delivered ↔ s.Drained := by
  have hok := (outputOk_of_reach hrun).step hstep
  have hsent : s'.point ≠ .left .sendFailed := by
    rcases hend with hend | hend
    · rw [hend]
      nofun
    · rw [hend]
      nofun
  have hkept := hok.kept hsent
  rw [drained_iff, ← waiting_of_ended hstep hend]
  constructor
  · intro hdelivered
    have hdelivered : s'.sent = s'.output := hdelivered
    have hflat : s'.waiting.flatten = [] := by
      rw [← hdelivered] at hkept
      exact List.append_right_eq_self.mp hkept
    rw [List.eq_nil_iff_forall_not_mem]
    intro chunk hchunk
    exact hok.nonempty chunk hchunk (List.flatten_eq_nil_iff.mp hflat chunk hchunk)
  · intro hwaiting
    rw [hwaiting, List.flatten_nil, List.append_nil] at hkept
    exact hkept

/-- The child has printed one byte, and the send of it may be over or not. -/
private def afterOutput (sent : Bool) : Actor where
  point := .select
  inflightSend := if sent then none else some [104]
  output := [104]
  sent := if sent then [104] else []

theorem reach_afterOutput (sent : Bool) : Reach step anyStep {} (afterOutput sent) := by
  have hexec : Lib.Run.exec step (fun _ _ => true) {} ([.enter, .readable true,
      .read (.bytes [104]), .read .wouldBlock, .enter] ++
        if sent then [.sendDone true, .enter] else []) = some (afterOutput sent) := by
    cases sent
    · decide
    · decide
  exact Lib.Run.reach_of_exec (fun _ _ _ => trivial) hexec

/-- The child exits after its output is sent. -/
theorem output_delivered_iff_sent :
    ∃ s', (afterOutput true).step (.reap .exited) = some s' ∧ s'.output = [104] ∧
      s'.Delivered := by
  have hstep : (afterOutput true).step (.reap .exited) =
      some ((afterOutput true).reap .exited) := rfl
  have hdelivered := output_delivered_iff (reach_afterOutput true) hstep (Or.inr rfl)
  exact ⟨_, hstep, rfl, hdelivered.mpr ⟨rfl, rfl⟩⟩

/-- The child exits while its output is being sent, and the output is dropped. -/
theorem output_dropped_at_exit :
    ¬ ∀ s : Actor, Reach step anyStep {} s → s.Ended → s.Delivered := by
  intro h
  have hrun : Reach step anyStep {} ((afterOutput false).reap .exited) :=
    (reach_afterOutput false).tail (a := .reap .exited) trivial rfl
  have hsent : ([] : List UInt8) = [104] := h _ hrun (Or.inr rfl)
  cases hsent

end Actor

end ArkKvm.Terminal
