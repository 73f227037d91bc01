import ArkKvm.Usb.HidThreads

/-!
# The LEDs of the keyboard

The LED thread publishes a state when it differs from the last one it read from the same opening
of the device.  What subscribers see is the sequence of the states without repetitions, opening
by opening.
-/

namespace ArkKvm.HidThreads

open Lib.Run
open GadgetChange (HidKind HidIo ChangeRequest)

/-! ## Lists without repetitions -/

section

variable {α : Type*} [DecidableEq α]

theorem destutter'_concat (a : α) (l : List α) (b : α) :
    (l ++ [b]).destutter' (· ≠ ·) a =
      if (a :: l).getLast? = some b then l.destutter' (· ≠ ·) a
      else l.destutter' (· ≠ ·) a ++ [b] := by
  induction l generalizing a with
  | nil =>
      rw [List.nil_append, List.destutter'_singleton, List.destutter'_nil, List.getLast?_singleton]
      by_cases hab : a = b
      · rw [if_neg (not_not.mpr hab), if_pos (congrArg some hab)]
      · rw [if_pos hab, if_neg (fun h => hab (Option.some.inj h))]
        rfl
  | cons c l ih =>
      rw [List.cons_append, List.destutter'_cons, List.destutter'_cons, List.getLast?_cons_cons]
      by_cases hac : a = c
      · rw [if_neg (not_not.mpr hac), if_neg (not_not.mpr hac), ← hac]
        exact ih a
      · rw [if_pos hac, if_pos hac, ih c]
        split
        · rfl
        · rfl

theorem destutter_concat (l : List α) (b : α) :
    (l ++ [b]).destutter (· ≠ ·) =
      if l.getLast? = some b then l.destutter (· ≠ ·) else l.destutter (· ≠ ·) ++ [b] := by
  cases l with
  | nil => rfl
  | cons a l => exact destutter'_concat a l b

end

/-! ## The LED thread -/

/-- What is published of the states that were read, opening by opening. -/
def distinctStates (seen : List (List KeyboardState)) : List KeyboardState :=
  (seen.map fun states => states.destutter (· ≠ ·)).flatten

def Led.current (l : Led) : List KeyboardState := l.seen.getLast?.getD []

structure Led.Faithful (l : Led) : Prop where
  published : l.published = distinctStates l.seen
  seen : l.seen ≠ []
  lastLed : l.lastLed = l.current.getLast?
  newest : ∀ state, l.lastLed = some state → l.published.getLast? = some state

section

variable {l : Led}

theorem Led.Faithful.close (h : l.Faithful) : l.close.Faithful where
  published := by
    show l.published = distinctStates (l.seen ++ [[]])
    rw [h.published]
    simp [distinctStates]
  seen := by simp [Led.close]
  lastLed := by simp [Led.close, Led.current]
  newest := nofun

theorem Led.Faithful.work (h : l.Faithful) (c : LedCmd) : (l.work c).Faithful := by
  cases c with
  | stop => exact h.close
  | «open» path opens => exact ⟨h.close.published, h.close.seen, h.close.lastLed, h.close.newest⟩

theorem distinctStates_concat (init : List (List KeyboardState)) (states : List KeyboardState) :
    distinctStates (init ++ [states]) = distinctStates init ++ states.destutter (· ≠ ·) := by
  simp [distinctStates]

theorem Led.Faithful.see (h : l.Faithful) (state : KeyboardState) : (l.see state).Faithful := by
  have hsplit : l.seen.dropLast ++ [l.current] = l.seen := by
    apply List.dropLast_append_getLast?
    unfold Led.current
    rw [List.getLast?_eq_some_getLast h.seen]
    rfl
  have hpublished : l.published =
      distinctStates l.seen.dropLast ++ l.current.destutter (· ≠ ·) := by
    rw [h.published, ← distinctStates_concat, hsplit]
  have hnow : (l.see state).published =
      if l.current.getLast? = some state then l.published else l.published ++ [state] := by
    rw [← h.lastLed]
    rfl
  constructor
  · show (l.see state).published =
      distinctStates (l.seen.dropLast ++ [l.current ++ [state]])
    rw [hnow, distinctStates_concat, destutter_concat]
    split
    · exact hpublished
    · rw [hpublished, List.append_assoc]
  · exact List.append_ne_nil_of_right_ne_nil _ (List.cons_ne_nil _ _)
  · show some state = _
    simp [Led.see, Led.current]
  · intro state' hstate'
    obtain rfl := Option.some.inj hstate'
    rw [hnow]
    split
    · next hsame => exact h.newest state (h.lastLed.trans hsame)
    · exact List.getLast?_concat

theorem Led.Faithful.poll (h : l.Faithful) (reads : List LedRead) : (l.poll reads).Faithful := by
  induction reads generalizing l with
  | nil => exact h
  | cons r reads ih =>
      cases r with
      | state byte => exact ih (h.see (parseKeyboardState byte))
      | failed => exact h.close

end

theorem led_step {s s' : Device} {e : Event} (h : s.led.Faithful) (hmoves : Moves s e s') :
    s'.led.Faithful := by
  cases hmoves with
  | call c hout => exact h
  | pushWrite hout hroom => exact h
  | pushLed hout hroom => exact h
  | write hcmds => exact h
  | led hcmds => exact h.work _
  | poll reads hopen => exact h.poll reads

/-- In every interleaving the states published are those that were read without repetitions,
opening by opening, and the newest one is the state that was read last, if any was read since
the file was opened. -/
theorem leds_published {kind : HidKind} {enabled : Bool} {s : Device}
    (h : Reach step anyStep (start kind enabled) s) :
    s.led.published = distinctStates s.led.seen ∧
      ∀ state, s.led.current.getLast? = some state → s.led.published.getLast? = some state := by
  have hfaithful : s.led.Faithful := by
    apply h.invariant
    · exact ⟨rfl, List.cons_ne_nil _ _, rfl, nofun⟩
    · intro s e s' hs _ hstep
      exact led_step hs (moves_of_step hstep)
  refine ⟨hfaithful.published, fun state hstate => hfaithful.newest state ?_⟩
  rw [hfaithful.lastLed, hstate]

/-- Num lock is switched on, reported twice, and read again after the device is opened anew. -/
def numLockRun : List Event :=
  [.call (.change ⟨some "/dev/hidg0", true, true⟩ .changeCompleted), .push, .push, .led,
    .poll [.state 1, .state 1], .poll [.state 0], .call (.change ⟨none, true, true⟩ .prepareChange),
    .push, .push, .led, .call (.change ⟨some "/dev/hidg0", true, true⟩ .changeCompleted), .push,
    .push, .led, .poll [.state 0]]

theorem leds_published_numLock :
    ∃ s : Device, s.led.published =
        [parseKeyboardState 1, parseKeyboardState 0, parseKeyboardState 0] ∧
      s.led.published = distinctStates s.led.seen := by
  have hexec : (exec step (fun _ _ => true) (start .kb true) numLockRun).map
      (fun s => s.led.published) =
      some [parseKeyboardState 1, parseKeyboardState 0, parseKeyboardState 0] := by decide
  obtain ⟨s, hs, hpublished⟩ :=
    exists_reach_of_exec (fun _ _ _ => trivial : ∀ s a, true = true → anyStep s a) hexec
  exact ⟨s, hpublished, (leds_published hs).1⟩

end ArkKvm.HidThreads
