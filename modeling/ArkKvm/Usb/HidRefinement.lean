import ArkKvm.Usb.HidThreads

/-!
# The threads carry out what the handle sends

In the model of the gadget changes a HID handle carries out its commands when it sends them.
Every interleaving of the handle with its two threads comes to the same: settled, with all commands
on their way carried out, the device is always where that model is after the calls made so far.
-/

namespace ArkKvm.HidThreads

open Lib.Run
open GadgetChange (HidKind HidIo ChangeRequest)

/-! ## The handle that carries out its commands at once -/

structure Settled where
  unit : GadgetChange.HidHandle
  written : List (String × List UInt8) := []

/-- A report goes to the file that is open, unless the device is off or being rebuilt. -/
def Settled.submit (s : Settled) (d : List UInt8) (answers : List WriteAnswer) : Settled :=
  if s.unit.enabled = false ∨ s.unit.udcUpdating then s
  else
    match s.unit.file with
    | none => s
    | some path => { s with written := s.written ++ [(path, (writeAllWithTimeout answers d).1)] }

def Settled.call (kind : HidKind) (s : Settled) : Call → Settled
  | .submit d answers => s.submit d answers
  | .setEnabled enabled => { s with unit := s.unit.setEnabled enabled }
  | .change io req => { s with unit := (s.unit.onChangeRequest kind io req).1 }

/-- The handle after these calls, each of which it has carried out at once. -/
def carriedOut (kind : HidKind) (enabled : Bool) (calls : List Call) : Settled :=
  calls.foldl (Settled.call kind) { unit := { enabled := enabled } }

/-- A read of the LEDs that fails closes their file. -/
def Settled.withoutLed (s : Settled) : Settled :=
  { s with unit := { s.unit with ledFile := none } }

theorem Settled.withoutLed_call (kind : HidKind) (s : Settled) (c : Call) :
    s.withoutLed.call kind c = s.call kind c ∨
      s.withoutLed.call kind c = (s.call kind c).withoutLed := by
  obtain ⟨⟨enabled, updating, path, file, ledFile⟩, written⟩ := s
  have hreopen (io : HidIo) :
      let h : GadgetChange.HidHandle := ⟨enabled, updating, path, file, ledFile⟩
      let reopened (h : GadgetChange.HidHandle) :=
        GadgetChange.HidHandle.openDeviceIfReady kind io (h.syncDevicePath io)
      reopened { h with ledFile := none } = reopened h ∨
        reopened { h with ledFile := none } = { reopened h with ledFile := none } := by
    obtain ⟨resolved, opens, ledOpens⟩ := io
    cases enabled with
    | false => exact .inr rfl
    | true =>
        cases resolved with
        | none => exact .inr rfl
        | some path =>
            cases kind with
            | kb => exact .inl rfl
            | rel | abs => exact .inr rfl
  cases c with
  | submit d answers =>
      right
      cases enabled with
      | false => rfl
      | true =>
          cases updating with
          | true => rfl
          | false => cases file <;> rfl
  | setEnabled enabled =>
      cases enabled with
      | true => exact .inr rfl
      | false => exact .inl rfl
  | change io req =>
      have hended (h h' : GadgetChange.HidHandle) (hor : h = h' ∨ h = { h' with ledFile := none }) :
          (⟨{ h with udcUpdating := false }, written⟩ : Settled) =
              ⟨{ h' with udcUpdating := false }, written⟩ ∨
            (⟨{ h with udcUpdating := false }, written⟩ : Settled) =
              Settled.withoutLed ⟨{ h' with udcUpdating := false }, written⟩ := by
        obtain rfl | rfl := hor
        · exact .inl rfl
        · exact .inr rfl
      cases req with
      | requestChange => exact .inr rfl
      | prepareChange => exact .inl rfl
      | changeCompleted | changeCanceled => exact hended _ _ (hreopen io)

/-! ## Commands on their way -/

def Send.write? : Send → Option WriteCmd
  | .write c => some c
  | .led _ => none

def Send.led? : Send → Option LedCmd
  | .write _ => none
  | .led c => some c

@[simp] theorem writes_write (c : WriteCmd) (rest : List Send) :
    (.write c :: rest).filterMap Send.write? = c :: rest.filterMap Send.write? := rfl

@[simp] theorem writes_led (c : LedCmd) (rest : List Send) :
    (.led c :: rest).filterMap Send.write? = rest.filterMap Send.write? := rfl

@[simp] theorem leds_write (c : WriteCmd) (rest : List Send) :
    (.write c :: rest).filterMap Send.led? = rest.filterMap Send.led? := rfl

@[simp] theorem leds_led (c : LedCmd) (rest : List Send) :
    (.led c :: rest).filterMap Send.led? = c :: rest.filterMap Send.led? := rfl

def Device.pendingWrites (s : Device) : List WriteCmd :=
  s.writeCmds ++ s.outbox.filterMap Send.write?

def Device.pendingLeds (s : Device) : List LedCmd := s.ledCmds ++ s.outbox.filterMap Send.led?

/-- The device when all commands on their way have been carried out. -/
def Device.settled (s : Device) : Settled where
  unit :=
    { enabled := s.handle.enabled
      udcUpdating := s.handle.udcUpdating
      devicePath := s.handle.devicePath
      file := (s.pendingWrites.foldl Writer.work s.writer).file
      ledFile := (s.pendingLeds.foldl Led.work s.led).file }
  written := (s.pendingWrites.foldl Writer.work s.writer).written

def Device.LedIdle (s : Device) : Prop :=
  s.kind = .kb ∨ s.ledCmds = [] ∧ s.outbox.filterMap Send.led? = [] ∧ s.led.file = none

/-! ## Steps -/

theorem file_foldl_led {cs : List LedCmd} (hne : cs ≠ []) (l l' : Led) :
    (cs.foldl Led.work l).file = (cs.foldl Led.work l').file := by
  induction cs generalizing l l' with
  | nil => exact absurd rfl hne
  | cons c cs ih =>
      rw [List.foldl_cons, List.foldl_cons]
      by_cases hcs : cs = []
      · subst hcs
        cases c with
        | stop => rfl
        | «open» path opens => rfl
      · exact ih hcs _ _

theorem file_poll (l : Led) (reads : List LedRead) :
    (l.poll reads).file = l.file ∨ (l.poll reads).file = none := by
  induction reads generalizing l with
  | nil => exact .inl rfl
  | cons r reads ih =>
      cases r with
      | state byte => exact ih (l.see (parseKeyboardState byte))
      | failed => exact .inr rfl

section

variable {s s' : Device}

theorem settled_poll (reads : List LedRead) :
    Device.settled { s with led := s.led.poll reads } = s.settled ∨
      Device.settled { s with led := s.led.poll reads } = s.settled.withoutLed := by
  by_cases hpending : s.pendingLeds = []
  · have hfold (l : Led) : (s.pendingLeds.foldl Led.work l).file = l.file := by
      rw [hpending]
      rfl
    rcases file_poll s.led reads with hsame | hnone
    · left
      simp only [Device.settled, Device.pendingWrites, Device.pendingLeds] at hfold ⊢
      rw [hfold, hfold, hsame]
    · right
      simp only [Settled.withoutLed, Device.settled, Device.pendingWrites, Device.pendingLeds]
        at hfold ⊢
      rw [hfold, hnone]
  · left
    simp only [Device.settled, Device.pendingWrites, Device.pendingLeds] at hpending ⊢
    rw [file_foldl_led hpending (s.led.poll reads) s.led]

section

variable (h : Handle) (w : Writer) (l : Led)

/-- The device of a handle whose threads have nothing left to do. -/
def Handle.settled : Settled where
  unit :=
    { enabled := h.enabled
      udcUpdating := h.udcUpdating
      devicePath := h.devicePath
      file := w.file
      ledFile := l.file }
  written := w.written

def Handle.after (r : Handle × List Send) : Settled :=
  r.1.settled ((r.2.filterMap Send.write?).foldl Writer.work w)
    ((r.2.filterMap Send.led?).foldl Led.work l)

theorem settled_submit (d : List UInt8) (answers : List WriteAnswer) :
    (h.settled w l).submit d answers = Handle.after w l (submit h d answers) := by
  unfold submit Settled.submit
  by_cases henabled : h.enabled = false
  · rw [if_pos henabled, if_pos (.inl henabled)]
    rfl
  · rw [if_neg henabled]
    by_cases hupdating : h.udcUpdating = true
    · rw [if_pos hupdating, if_pos (.inr hupdating)]
      rfl
    · have hready : ¬ ((h.settled w l).unit.enabled = false ∨
          (h.settled w l).unit.udcUpdating = true) := not_or.mpr ⟨henabled, hupdating⟩
      rw [if_neg hupdating, if_neg hready]
      cases hfile : w.file with
      | none => simp [Handle.after, Handle.settled, Writer.work, hfile]
      | some path => simp [Handle.after, Handle.settled, Writer.work, hfile]

theorem settled_setEnabled {kind : HidKind} (hled : kind ≠ .kb → l.file = none) (enabled : Bool) :
    { h.settled w l with unit := (h.settled w l).unit.setEnabled enabled } =
      Handle.after w l (setEnabled kind h enabled) := by
  unfold setEnabled GadgetChange.HidHandle.setEnabled
  cases enabled with
  | true => rfl
  | false =>
      cases kind with
      | kb => rfl
      | rel => simp [Handle.after, Handle.settled, stopIoThreads, Writer.work, hled]
      | abs => simp [Handle.after, Handle.settled, stopIoThreads, Writer.work, hled]

theorem settled_change {kind : HidKind} (hled : kind ≠ .kb → l.file = none) (io : HidIo)
    (req : ChangeRequest) :
    { h.settled w l with unit := ((h.settled w l).unit.onChangeRequest kind io req).1 } =
      Handle.after w l (onChangeRequest kind io h req) := by
  have hreopen :
      { h.settled w l with
        unit :=
          { GadgetChange.HidHandle.openDeviceIfReady kind io
              ((h.settled w l).unit.syncDevicePath io) with udcUpdating := false } } =
        Handle.after w l
          ({ syncDevicePath io h with udcUpdating := false, warnedUpdating := false },
            openDeviceIfReady kind io (syncDevicePath io h)) := by
    unfold GadgetChange.HidHandle.openDeviceIfReady openDeviceIfReady
    by_cases henabled : h.enabled = true
    · have hon : ¬ ¬ ((h.settled w l).unit.syncDevicePath io).enabled = true :=
        not_not.mpr henabled
      have hon' : ¬ (syncDevicePath io h).enabled = false := by
        show ¬ h.enabled = false
        rw [henabled]
        decide
      rw [if_neg hon, if_neg hon']
      cases hpath : io.resolved with
      | none => simp [Handle.after, Handle.settled, syncDevicePath, henabled, hpath,
          GadgetChange.HidHandle.syncDevicePath]
      | some path =>
          cases kind with
          | kb => simp [Handle.after, Handle.settled, syncDevicePath, henabled, hpath, Writer.work,
              Led.work, GadgetChange.HidHandle.syncDevicePath]
          | rel => simp [Handle.after, Handle.settled, syncDevicePath, henabled, hpath,
              Writer.work, GadgetChange.HidHandle.syncDevicePath]
          | abs => simp [Handle.after, Handle.settled, syncDevicePath, henabled, hpath,
              Writer.work, GadgetChange.HidHandle.syncDevicePath]
    · simp [Handle.after, Handle.settled, syncDevicePath, henabled,
        GadgetChange.HidHandle.syncDevicePath]
  cases req with
  | requestChange => rfl
  | prepareChange =>
      cases kind with
      | kb => rfl
      | rel => simp [Handle.after, Handle.settled, onChangeRequest, stopIoThreads, Writer.work, hled,
          GadgetChange.HidHandle.onChangeRequest]
      | abs => simp [Handle.after, Handle.settled, onChangeRequest, stopIoThreads, Writer.work, hled,
          GadgetChange.HidHandle.onChangeRequest]
  | changeCompleted => exact hreopen
  | changeCanceled => exact hreopen

end

theorem settled_of_sends {h : Handle} {calls : List Call} {sends : List Send}
    (hnil : s.outbox = []) :
    Device.settled { s with handle := h, calls := calls, outbox := sends } =
      Handle.after (s.pendingWrites.foldl Writer.work s.writer)
        (s.pendingLeds.foldl Led.work s.led) (h, sends) := by
  simp [Device.settled, Device.pendingWrites, Device.pendingLeds, Handle.after, Handle.settled, hnil]

theorem settled_call (c : Call) (hidle : s.LedIdle) (hout : s.outbox = []) :
    Device.settled { s with
        handle := (s.handle.call s.kind c).1
        calls := s.calls ++ [c]
        outbox := (s.handle.call s.kind c).2 } = s.settled.call s.kind c := by
  rw [settled_of_sends hout]
  have hled : s.kind ≠ .kb → (s.pendingLeds.foldl Led.work s.led).file = none := by
    intro hkind
    obtain ⟨hcmds, hsends, hfile⟩ := hidle.resolve_left hkind
    unfold Device.pendingLeds
    rw [hcmds, hsends]
    exact hfile
  cases c with
  | submit d answers => exact (settled_submit s.handle _ _ d answers).symm
  | setEnabled enabled => exact (settled_setEnabled s.handle _ _ hled enabled).symm
  | change io req => exact (settled_change s.handle _ _ hled io req).symm

/-! ## Runs -/

theorem leds_of_call {kind : HidKind} (hkind : kind ≠ .kb) (h : Handle) (c : Call) :
    (h.call kind c).2.filterMap Send.led? = [] := by
  have hstop : (stopIoThreads kind).filterMap Send.led? = [] := by
    cases kind with
    | kb => exact absurd rfl hkind
    | rel => rfl
    | abs => rfl
  have hopen (io : HidIo) (h : Handle) :
      (openDeviceIfReady kind io h).filterMap Send.led? = [] := by
    unfold openDeviceIfReady
    split
    · rfl
    · split
      · rfl
      · cases kind with
        | kb => exact absurd rfl hkind
        | rel => rfl
        | abs => rfl
  cases c with
  | submit d answers =>
      unfold Handle.call submit
      split_ifs
      · rfl
      · rfl
      · rfl
  | setEnabled enabled =>
      cases enabled with
      | true => rfl
      | false => exact hstop
  | change io req =>
      cases req with
      | requestChange => rfl
      | prepareChange => exact hstop
      | changeCompleted => exact hopen io _
      | changeCanceled => exact hopen io _

theorem ledIdle_step {e : Event} (hidle : s.LedIdle) (h : Moves s e s') : s'.LedIdle := by
  cases h with
  | call c hout =>
      by_cases hkind : s.kind = .kb
      · exact .inl hkind
      · obtain ⟨hcmds, -, hfile⟩ := hidle.resolve_left hkind
        exact .inr ⟨hcmds, leds_of_call hkind s.handle c, hfile⟩
  | pushWrite hout hroom =>
      refine hidle.imp_right fun hmouse => ?_
      rw [hout, leds_write] at hmouse
      exact hmouse
  | pushLed hout hroom =>
      refine .inl (hidle.resolve_right fun hmouse => ?_)
      rw [hout, leds_led] at hmouse
      exact List.cons_ne_nil _ _ hmouse.2.1
  | write hcmds => exact hidle
  | led hcmds =>
      refine .inl (hidle.resolve_right fun hmouse => ?_)
      rw [hcmds] at hmouse
      exact List.cons_ne_nil _ _ hmouse.1
  | poll reads hopen =>
      refine .inl (hidle.resolve_right fun hmouse => ?_)
      rw [hmouse.2.2] at hopen
      cases hopen

theorem kind_step {e : Event} (h : Moves s e s') : s'.kind = s.kind := by
  cases h <;> rfl

/-- The device settles to the handle that has carried out its calls at once, up to a file of the
LEDs that a failed read has closed. -/
structure Refines (kind : HidKind) (enabled : Bool) (s : Device) : Prop where
  sameKind : s.kind = kind
  ledIdle : s.LedIdle
  settled : s.settled = carriedOut kind enabled s.calls ∨
    s.settled = (carriedOut kind enabled s.calls).withoutLed

theorem carriedOut_concat (kind : HidKind) (enabled : Bool) (calls : List Call) (c : Call) :
    carriedOut kind enabled (calls ++ [c]) = (carriedOut kind enabled calls).call kind c := by
  unfold carriedOut
  rw [List.foldl_append]
  rfl

theorem refines_step {kind : HidKind} {enabled : Bool} {e : Event} (h : Refines kind enabled s)
    (hmoves : Moves s e s') : Refines kind enabled s' := by
  refine ⟨(kind_step hmoves).trans h.sameKind, ledIdle_step h.ledIdle hmoves, ?_⟩
  have hsame {s' : Device} (hsettled : s'.settled = s.settled) (hcalls : s'.calls = s.calls) :
      s'.settled = carriedOut kind enabled s'.calls ∨
        s'.settled = (carriedOut kind enabled s'.calls).withoutLed := by
    rw [hsettled, hcalls]
    exact h.settled
  cases hmoves with
  | call c hout =>
      rw [settled_call c h.ledIdle hout, h.sameKind, carriedOut_concat]
      obtain hsettled | hclosed := h.settled
      · rw [hsettled]
        exact .inl rfl
      · rw [hclosed]
        exact Settled.withoutLed_call kind _ c
  | pushWrite hout hroom =>
      refine hsame ?_ rfl
      simp [Device.settled, Device.pendingWrites, Device.pendingLeds, hout, writes_write]
  | pushLed hout hroom =>
      refine hsame ?_ rfl
      simp [Device.settled, Device.pendingWrites, Device.pendingLeds, hout, writes_led]
  | write hcmds =>
      refine hsame ?_ rfl
      simp [Device.settled, Device.pendingWrites, Device.pendingLeds, hcmds]
  | led hcmds =>
      refine hsame ?_ rfl
      simp [Device.settled, Device.pendingWrites, Device.pendingLeds, hcmds]
  | poll reads hopen =>
      obtain hsettled | hclosed := settled_poll (s := s) reads
      · exact hsame hsettled rfl
      · rw [hclosed]
        obtain hsettled | hsettled := h.settled
        · exact .inr (congrArg _ hsettled)
        · right
          rw [hsettled]
          rfl

/-! ## What is written -/

theorem written_work (w : Writer) (c : WriteCmd) : w.written <+: (w.work c).written := by
  cases c with
  | stop => exact List.prefix_rfl
  | «open» path opens => exact List.prefix_rfl
  | report d answers =>
      cases hfile : w.file with
      | none => simp [Writer.work, hfile]
      | some path => simp [Writer.work, hfile]

theorem written_foldl (w : Writer) (cs : List WriteCmd) :
    w.written <+: (cs.foldl Writer.work w).written := by
  induction cs generalizing w with
  | nil => exact List.prefix_rfl
  | cons c cs ih => exact (written_work w c).trans (ih (w.work c))

/-- What reaches the device of a report is a beginning of it, and all of it when no write
failed. -/
theorem writeAllWithTimeout_prefix (answers : List WriteAnswer) (d : List UInt8) :
    (writeAllWithTimeout answers d).1 <+: d ∧
      ((writeAllWithTimeout answers d).2 = .ok () → (writeAllWithTimeout answers d).1 = d) := by
  induction answers generalizing d with
  | nil =>
      cases d with
      | nil => exact ⟨List.prefix_rfl, fun _ => rfl⟩
      | cons b bs => exact ⟨List.nil_prefix, nofun⟩
  | cons answer answers ih =>
      cases d with
      | nil => exact ⟨List.prefix_rfl, fun _ => rfl⟩
      | cons b bs =>
          cases answer with
          | wrote n =>
              rw [writeAllWithTimeout]
              split
              · exact ⟨List.nil_prefix, nofun⟩
              · obtain ⟨hfront, hwhole⟩ := ih ((b :: bs).drop n)
                refine ⟨?_, fun hok => ?_⟩
                · conv => rhs; rw [← List.take_append_drop n (b :: bs)]
                  exact (List.prefix_append_right_inj _).mpr hfront
                · show (b :: bs).take n ++ _ = _
                  rw [hwhole hok, List.take_append_drop]
          | wouldBlock poll =>
              cases poll with
              | ready => exact ih (b :: bs)
              | timedOut => exact ⟨List.nil_prefix, nofun⟩
              | failed => exact ⟨List.nil_prefix, nofun⟩
          | failed => exact ⟨List.nil_prefix, nofun⟩

theorem channels_step {e : Event}
    (hcap : s.writeCmds.length ≤ ioChannelCap ∧ s.ledCmds.length ≤ ioChannelCap)
    (h : Moves s e s') :
    s'.writeCmds.length ≤ ioChannelCap ∧ s'.ledCmds.length ≤ ioChannelCap := by
  cases h with
  | call c hout => exact hcap
  | pushWrite hout hroom =>
      refine ⟨?_, hcap.2⟩
      rw [List.length_append, List.length_singleton]
      omega
  | pushLed hout hroom =>
      refine ⟨hcap.1, ?_⟩
      rw [List.length_append, List.length_singleton]
      omega
  | write hcmds =>
      rw [hcmds, List.length_cons] at hcap
      exact ⟨by dsimp only; omega, hcap.2⟩
  | led hcmds =>
      rw [hcmds, List.length_cons] at hcap
      exact ⟨hcap.1, by dsimp only; omega⟩
  | poll reads hopen => exact hcap

end

/-! ## All interleavings -/

def Device.now (s : Device) : Settled := s.handle.settled s.writer s.led

/-- In every interleaving of the handle with its threads the device settles to the state of a handle
that has carried out each of the calls made at once, in their order, but for a file of the LEDs
that a failed read has closed; what has been written is a beginning of what that handle has
written, and with nothing on its way the device is in that state. -/
theorem threads_refine_handle {kind : HidKind} {enabled : Bool} {s : Device}
    (h : Reach step anyStep (start kind enabled) s) :
    (s.settled = carriedOut kind enabled s.calls ∨
      s.settled = (carriedOut kind enabled s.calls).withoutLed) ∧
      s.writer.written <+: (carriedOut kind enabled s.calls).written ∧
      (s.outbox = [] → s.writeCmds = [] → s.ledCmds = [] → s.now = s.settled) ∧
      s.writeCmds.length ≤ ioChannelCap ∧ s.ledCmds.length ≤ ioChannelCap := by
  have hrefines : Refines kind enabled s := by
    apply h.invariant
    · exact ⟨rfl, .inr ⟨rfl, rfl, rfl⟩, .inl rfl⟩
    · exact fun _ _ _ hs _ hstep => refines_step hs (moves_of_step hstep)
  have hwritten : s.settled.written = (carriedOut kind enabled s.calls).written := by
    obtain hsettled | hsettled := hrefines.settled
    · rw [hsettled]
    · rw [hsettled]
      rfl
  refine ⟨hrefines.settled, hwritten ▸ written_foldl _ _, fun hout hwrites hleds => ?_, ?_⟩
  · simp [Device.now, Device.settled, Device.pendingWrites, Device.pendingLeds, Handle.settled,
      hout, hwrites, hleds]
  · apply h.invariant
    · exact ⟨Nat.zero_le _, Nat.zero_le _⟩
    · intro s e s' hcap _ hstep
      exact channels_step hcap (moves_of_step hstep)

def keyDown : Call := .submit [0, 0, 4, 0, 0, 0, 0, 0] [.wouldBlock .ready, .wrote 8]

/-- A keyboard is opened and a key pressed; the gadget is rebuilt, another press is dropped
meanwhile, and a third one goes to the new file.  The threads come last. -/
def pressedAcrossRebuild : List Event :=
  [.call (.change ⟨some "/dev/hidg0", true, true⟩ .changeCompleted), .push, .push,
    .call keyDown, .push, .call (.change ⟨none, true, true⟩ .requestChange), .call keyDown,
    .call (.change ⟨none, true, true⟩ .prepareChange), .push, .push,
    .call (.change ⟨some "/dev/hidg1", true, true⟩ .changeCompleted), .push, .push,
    .call keyDown, .push] ++ List.replicate 5 .write ++ List.replicate 3 .led

/-- What has been written, how many calls there were, and how much is on its way. -/
def Device.traffic (s : Device) : List (String × List UInt8) × Nat × Nat × Nat × Nat :=
  (s.writer.written, s.calls.length, s.outbox.length, s.writeCmds.length, s.ledCmds.length)

theorem threads_refine_handle_pressedAcrossRebuild :
    ∃ s : Device, s.calls.length = 7 ∧
      s.writer.written = [("/dev/hidg0", [0, 0, 4, 0, 0, 0, 0, 0]),
        ("/dev/hidg1", [0, 0, 4, 0, 0, 0, 0, 0])] ∧
      (s.now = carriedOut .kb true s.calls ∨ s.now = (carriedOut .kb true s.calls).withoutLed) := by
  have hexec : (exec step (fun _ _ => true) (start .kb true) pressedAcrossRebuild).map
      Device.traffic = some ([("/dev/hidg0", [0, 0, 4, 0, 0, 0, 0, 0]),
        ("/dev/hidg1", [0, 0, 4, 0, 0, 0, 0, 0])], 7, 0, 0, 0) := by decide
  obtain ⟨s, hs, htraffic⟩ :=
    exists_reach_of_exec (fun _ _ _ => trivial : ∀ s a, true = true → anyStep s a) hexec
  obtain ⟨hwritten, hrest⟩ := Prod.mk.inj htraffic
  obtain ⟨hcalls, hrest⟩ := Prod.mk.inj hrest
  obtain ⟨hout, hcmds⟩ := Prod.mk.inj hrest
  obtain ⟨hwrites, hleds⟩ := Prod.mk.inj hcmds
  obtain ⟨hsettled, -, hnow, -⟩ := threads_refine_handle hs
  refine ⟨s, hcalls, hwritten, ?_⟩
  rw [hnow (List.length_eq_zero_iff.mp hout) (List.length_eq_zero_iff.mp hwrites)
    (List.length_eq_zero_iff.mp hleds)]
  exact hsettled

end ArkKvm.HidThreads
