import ArkKvm.Usb.GadgetInvariant

/-!
# Rolling back a failed change

When `apply_switches` fails, the old values are in force again, and a gadget that was
bound is bound again or was tried.  The one exception is an old gadget whose tree
cannot be removed: it is given up without an attempt to restore it.
-/

namespace ArkKvm.GadgetChange

open Lib.Run (Reach anyStep)
open Sidecar (UsbError UmsMode DeviceSwitches UsbBaseInfo Gadget checkEndpointBudget endpointUsage
  maxFunctionInEps maxFunctionOutEps)

namespace UsbDeviceManager

/-- During the step from `s` to `t` the old values were tried last, and could not be brought
up. -/
def FallbackFailed (s t : UsbDeviceManager) : Prop :=
  ∃ attempt, t.attempts = s.attempts ++ [attempt, ⟨s.baseInfo, s.switches, false⟩]

structure RolledBack (s t : UsbDeviceManager) : Prop where
  baseInfo : t.baseInfo = s.baseInfo
  switches : t.switches = s.switches
  flags : FlagsMatch s.switches t.handlers
  gadget : s.activeGadget ≠ none →
    (∃ g, t.activeGadget = some g ∧ g.baseInfo = s.baseInfo ∧ g.switches = s.switches) ∨
      FallbackFailed s t

/-- The gadget, if any function is on, was built from these values, and they are within the
endpoint budget. -/
structure Applied (baseInfo : UsbBaseInfo) (sw : DeviceSwitches) (t : UsbDeviceManager) : Prop where
  gadget : ∃ mode, t.activeGadget = builtGadget baseInfo sw mode
  inBudget : (endpointUsage sw).1 ≤ maxFunctionInEps
  outBudget : (endpointUsage sw).2 ≤ maxFunctionOutEps

/-- What `apply_switches` promises about its result. -/
structure RollsBack (io : RebuildIo) (baseInfo : Option UsbBaseInfo)
    (switches : Option DeviceSwitches) (s : UsbDeviceManager) : Prop where
  failed : ∀ e, (applySwitches io baseInfo switches s).2 = .error e →
    RolledBack s (applySwitches io baseInfo switches s).1
  succeeded : (applySwitches io baseInfo switches s).2 = .ok () →
    Applied (baseInfo.getD s.baseInfo) (switches.getD s.switches)
      (applySwitches io baseInfo switches s).1

variable {s : UsbDeviceManager} {io : RebuildIo} {baseInfo : Option UsbBaseInfo}
  {switches : Option DeviceSwitches}

theorem checkEndpointBudget_ok {sw : DeviceSwitches} (h : checkEndpointBudget sw = .ok ()) :
    (endpointUsage sw).1 ≤ maxFunctionInEps ∧ (endpointUsage sw).2 ≤ maxFunctionOutEps := by
  unfold checkEndpointBudget at h
  by_cases hover : maxFunctionInEps < (endpointUsage sw).1 ∨ maxFunctionOutEps < (endpointUsage sw).2
  · simp only [if_pos hover] at h
    cases h
  · omega

theorem applied_of_ok (h : (applySwitches io baseInfo switches s).2 = .ok ()) :
    Applied (baseInfo.getD s.baseInfo) (switches.getD s.switches)
      (applySwitches io baseInfo switches s).1 := by
  obtain ⟨hadm, -, -, -, hgadget⟩ := applySwitches_ok h
  obtain ⟨hin, hout⟩ := checkEndpointBudget_ok hadm.2
  exact ⟨⟨_, hgadget⟩, hin, hout⟩

theorem rolledBack_of_signature (hcons : Consistent s) {hs : List ChangeHandler}
    (hsame : hs.map (·.signature) = s.handlers.map (·.signature)) :
    RolledBack s { s with handlers := hs } where
  baseInfo := rfl
  switches := rfl
  flags := hcons.flags.of_signature hsame
  gadget := by
    intro hbound
    obtain ⟨g, hg⟩ := Option.ne_none_iff_exists'.mp hbound
    obtain ⟨hbase, hsw, -, -⟩ := hcons.gadget g hg
    exact Or.inl ⟨g, hg, hbase, hsw⟩

theorem rolledBack_notifyAll {t : UsbDeviceManager} (h : RolledBack s t) (io : HandlerIo)
    (req : ChangeRequest) : RolledBack s (notifyAll io req t) :=
  ⟨h.baseInfo, h.switches, h.flags.of_signature (signature_notifyAll io req t), h.gadget⟩

theorem rolledBack_of_fallback (bio : BindIo) (hcons : Consistent s) {t : UsbDeviceManager}
    {attempt : BindAttempt} (hbase : t.baseInfo = s.baseInfo) (hsw : t.switches = s.switches)
    (hone : (services t.handlers).Nodup) (hnone : t.activeGadget = none)
    (hattempts : t.attempts = s.attempts ++ [attempt]) :
    RolledBack s (bindGadgetFromCurrentSwitches bio t).1 := by
  obtain ⟨hbase', hsw', -⟩ := bind_frame bio (s := t)
  have hflags := (consistent_bind bio hone (hsw.symm ▸ hcons.budget) hnone).flags
  refine ⟨hbase'.trans hbase, hsw'.trans hsw, ?_, fun hbound => ?_⟩
  · change FlagsMatch (bindGadgetFromCurrentSwitches bio t).1.switches _ at hflags
    rw [hsw', hsw] at hflags
    exact hflags
  · obtain ⟨g, hg⟩ := Option.ne_none_iff_exists'.mp hbound
    have hany := (hcons.gadget g hg).2.2.1
    by_cases hup : BringsUp bio t.baseInfo t.switches
    · obtain ⟨hs, hrun, -⟩ := bind_of_bringsUp hup hnone
      rw [hrun, hbase, hsw, builtGadget, if_pos hany]
      exact Or.inl ⟨_, rfl, rfl, rfl⟩
    · obtain ⟨e, hrun⟩ := bind_of_fails hup
      rw [hrun]
      refine Or.inr ⟨attempt, ?_⟩
      change t.attempts ++ [_] = _
      rw [hattempts, hbase, hsw, List.append_assoc]
      rfl

theorem rolledBack_of_stuck_iff (hcons : Consistent s) (hio : HandlerIo) :
    RolledBack s { prepared hio s with activeGadget := none } ↔ s.activeGadget = none := by
  refine ⟨fun h => ?_, fun hnone => ?_⟩
  · by_contra hbound
    rcases h.gadget hbound with ⟨g, hg, -⟩ | ⟨attempt, hattempts⟩
    · cases hg
    · have hlength := congrArg List.length hattempts
      rw [List.length_append] at hlength
      change s.attempts.length = s.attempts.length + 2 at hlength
      omega
  · refine ⟨rfl, rfl, ?_, fun hbound => absurd hnone hbound⟩
    exact (consistent_prepared hio hcons).flags

/-- When the old gadget was removed, `apply_switches` rolls back, however bringing up the
new gadget and the old one end. -/
theorem rolledBack_of_released (hcons : Consistent s) (hadm : Admitted s switches)
    (happ : Approves io.handlers s.handlers) (hrel : io.released = .ok ()) {e : UsbError}
    (herr : (applySwitches io baseInfo switches s).2 = .error e) :
    RolledBack s (applySwitches io baseInfo switches s).1 := by
  rw [applySwitches_of_released hadm happ hrel] at herr ⊢
  by_cases hup : BringsUp io.bind (baseInfo.getD s.baseInfo) (switches.getD s.switches)
  · obtain ⟨hs, hrun⟩ := bindOrRestore_of_bringsUp io s
      (s := { prepared io.handlers s with
        activeGadget := none
        baseInfo := baseInfo.getD s.baseInfo
        switches := switches.getD s.switches }) hup rfl
    rw [hrun] at herr
    cases herr
  · obtain ⟨e', hrun⟩ := bindOrRestore_of_fails io s
      (s := { prepared io.handlers s with
        activeGadget := none
        baseInfo := baseInfo.getD s.baseInfo
        switches := switches.getD s.switches }) hup
    rw [hrun]
    have hone := nodup_applyDeviceServices (switches.getD s.switches)
      (consistent_prepared io.handlers hcons).oneHandle
    have hrolled := rolledBack_of_fallback io.fallback hcons
      (t := { prepared io.handlers s with
        handlers := applyDeviceServices (switches.getD s.switches) (prepared io.handlers s).handlers
        activeGadget := none
        attempts := s.attempts ++
          [⟨baseInfo.getD s.baseInfo, switches.getD s.switches, false⟩] }) rfl rfl hone rfl rfl
    exact rolledBack_notifyAll hrolled io.handlers .changeCanceled

theorem rollsBack_iff_of_consistent (hcons : Consistent s) :
    RollsBack io baseInfo switches s ↔ (Admitted s switches → Approves io.handlers s.handlers →
      s.activeGadget ≠ none → io.released = .ok ()) := by
  refine ⟨fun h hadm happ hbound => ?_, fun h => ⟨fun e herr => ?_, applied_of_ok⟩⟩
  · cases hrel : io.released with
    | ok u => rfl
    | error e =>
        have hstuck : applySwitches io baseInfo switches s = _ :=
          applySwitches_of_stuck hadm happ hrel
        have hrolled := h.failed e (by rw [hstuck])
        rw [hstuck] at hrolled
        exact absurd ((rolledBack_of_stuck_iff hcons io.handlers).mp hrolled) hbound
  · by_cases hadm : Admitted s switches
    · by_cases happ : Approves io.handlers s.handlers
      · cases hrel : io.released with
        | ok u => exact rolledBack_of_released hcons hadm happ hrel herr
        | error e' =>
            rw [applySwitches_of_stuck hadm happ hrel]
            refine (rolledBack_of_stuck_iff hcons io.handlers).mpr (by_contra fun hbound => ?_)
            rw [h hadm happ hbound] at hrel
            cases hrel
      · obtain ⟨hs, reason, hrun, hframe⟩ :=
          applySwitches_of_rejected baseInfo hadm happ
        rw [hrun]
        exact rolledBack_of_signature hcons
          ((signature_notifyAll io.handlers .changeCanceled { s with handlers := hs }).trans
            (signature_of_frame hframe))
    · obtain ⟨e', hrun⟩ := applySwitches_of_refused io baseInfo hadm
      rw [hrun]
      exact rolledBack_of_signature hcons rfl

/-- In every state that a run reaches: `apply_switches` rolls back exactly when an approved
change of a bound gadget can remove the tree of the old one. -/
theorem apply_switches_rolls_back_iff {first : UsbBaseInfo}
    (hrun : Reach step anyStep (start first) s) :
    RollsBack io baseInfo switches s ↔ (Admitted s switches → Approves io.handlers s.handlers →
      s.activeGadget ≠ none → io.released = .ok ()) :=
  rollsBack_iff_of_consistent (reach_consistent hrun)

def keyboardApplied : UsbDeviceManager :=
  (applySwitches .working none (some { hidKbEnabled := true })
    (start { serialNumber := "ARK0123456789" })).1

theorem reach_keyboardApplied :
    Reach step anyStep (start { serialNumber := "ARK0123456789" }) keyboardApplied :=
  .tail (a := .applySwitches .working none (some { hidKbEnabled := true })) .refl trivial rfl

/-- The new gadget cannot be bound, and the old one can. -/
def unbindable : RebuildIo :=
  { RebuildIo.working with
    bind := { BindIo.working with bound := .error (.gadgetError "No such device") } }

theorem apply_switches_rolls_back_iff_unbindable :
    RollsBack unbindable none (some { hidAbsEnabled := true }) keyboardApplied ↔
      (Admitted keyboardApplied (some { hidAbsEnabled := true }) →
        Approves unbindable.handlers keyboardApplied.handlers →
        keyboardApplied.activeGadget ≠ none → unbindable.released = .ok ()) :=
  apply_switches_rolls_back_iff reach_keyboardApplied

def unreleased : RebuildIo :=
  { RebuildIo.working with
    released := .error (.gadgetError "failed to remove leftover gadget") }

/-- The gadget with the keyboard is given up, and nothing was tried to restore it. -/
theorem unreleased_gadget_is_lost :
    ¬ ∀ (first : UsbBaseInfo) (s : UsbDeviceManager) (io : RebuildIo)
      (baseInfo : Option UsbBaseInfo) (switches : Option DeviceSwitches),
      Reach step anyStep (start first) s → RollsBack io baseInfo switches s := by
  intro h
  have hfailed : (applySwitches unreleased none none keyboardApplied).2 =
      .error (.gadgetError "failed to remove leftover gadget") := by decide +kernel
  have hrolled := (h _ keyboardApplied unreleased none none reach_keyboardApplied).failed _ hfailed
  have hlost : (applySwitches unreleased none none keyboardApplied).1.activeGadget = none := by
    decide +kernel
  rcases hrolled.gadget (by decide +kernel) with ⟨g, hg, -⟩ | ⟨attempt, hattempts⟩
  · rw [hlost] at hg
    cases hg
  · have hlength : (applySwitches unreleased none none keyboardApplied).1.attempts.length =
        keyboardApplied.attempts.length := by decide +kernel
    rw [hattempts, List.length_append, List.length_cons] at hlength
    omega

end UsbDeviceManager

end ArkKvm.GadgetChange
