import ArkKvm.Usb.GadgetSteps

/-!
# A rejected change

When a handler rejects a change, all handlers are told that it is cancelled and are
expected to recover what they had.  A handler that was only asked loses nothing but
what it cannot look up again; one that has prepared gave up its image or its network
function for good.
-/

namespace ArkKvm.GadgetChange

open Lib (Action poll Poll.cons_of_objects Poll.cons_of_agrees Poll.of_agreed)
open Lib.Action
open Sidecar (UsbError UmsMode DeviceSwitches UsbBaseInfo UmsHandle Ums1Handle LunIo Gadget)

structure Holdings where
  image : Option String := none
  net : Option NetworkAdapterType := none
  ifname : Option String := none
  hidFile : Option String := none
  hidLedFile : Option String := none

def Device.holdings : Device → Holdings
  | .ums u => { image := u.filePath }
  | .ums1 u => { image := u.filePath }
  | .uac _ => {}
  | .hid _ u => { hidFile := u.file, hidLedFile := u.ledFile }
  | .networkAdapter u => { net := u.net, ifname := u.ifname }
  | .subscriber => {}

/-- What was held before is still held. -/
structure Holdings.Kept (before after : Holdings) : Prop where
  image : ∀ p ∈ before.image, after.image = some p
  net : ∀ t ∈ before.net, after.net = some t
  ifname : ∀ n ∈ before.ifname, after.ifname = some n
  hidFile : ∀ p ∈ before.hidFile, after.hidFile = some p
  hidLedFile : ∀ p ∈ before.hidLedFile, after.hidLedFile = some p

theorem Holdings.Kept.refl (a : Holdings) : a.Kept a :=
  ⟨fun _ h => h, fun _ h => h, fun _ h => h, fun _ h => h, fun _ h => h⟩

/-! ## When a device recovers -/

/-- A file that is held can be opened again under the path that is found now. -/
def Reopens (resolved : Option String) (opens : Bool) (file : Option String) : Prop :=
  ∀ p ∈ file, ∀ q ∈ resolved, q = p ∧ opens = true

/-- The device has not prepared: a cancellation looks up the interface name and opens
the HID device again. -/
def Device.RecoversUnprepared (io : HandlerIo) : Device → Prop
  | .hid kind u => u.enabled = true →
      Reopens (io.hid kind).resolved (io.hid kind).opens u.file ∧
        (kind = .kb → Reopens (io.hid kind).resolved (io.hid kind).ledOpens u.ledFile)
  | .networkAdapter u => u.enabled = true →
      ∀ n ∈ u.ifname, u.net.isSome = true ∧ io.network.ifname = some n ∧ n ≠ ""
  | _ => True

def ReopensFrom (enabled : Bool) (resolved : Option String) (opens : Bool)
    (file : Option String) : Prop :=
  ∀ p ∈ file, enabled = true ∧ resolved = some p ∧ opens = true

def Device.RecoversPrepared (io : HandlerIo) : Device → Prop
  | .ums u => u.enabled = true → u.filePath = none
  | .ums1 u => (u.unmount io.ft).isOk = true → u.filePath = none
  | .hid kind u =>
      ReopensFrom u.enabled (io.hid kind).resolved (io.hid kind).opens u.file ∧
        ReopensFrom (u.enabled && kind = .kb) (io.hid kind).resolved (io.hid kind).ledOpens u.ledFile
  | .networkAdapter u => u.net = none ∧ u.ifname = none
  | _ => True

/-! ## Single devices -/

/-- A file after the device was looked up: it is dropped before another is opened. -/
def reopened (resolved : Option String) (opens : Bool) (file : Option String) : Option String :=
  match resolved with
  | none => file
  | some p => if opens then some p else none

theorem HidHandle.canceled_eq (kind : HidKind) (io : HidIo) (u : HidHandle) :
    (u.onChangeRequest kind io .changeCanceled).1 =
      { enabled := u.enabled
        udcUpdating := false
        devicePath := if u.enabled then io.resolved else none
        file := if u.enabled then reopened io.resolved io.opens u.file else u.file
        ledFile := if u.enabled && kind = .kb then reopened io.resolved io.ledOpens u.ledFile
          else u.ledFile } := by
  obtain ⟨enabled, udcUpdating, devicePath, file, ledFile⟩ := u
  obtain ⟨resolved, opens, ledOpens⟩ := io
  cases enabled with
  | false => rfl
  | true => cases resolved <;> cases kind <;> rfl


namespace Device

variable (io : HandlerIo) (name : String) (d : Device)

theorem prepareChange_of_rejects {reason : String}
    (h : (d.onChangeRequest io name .prepareChange).2 = .reject reason) :
    (d.onChangeRequest io name .prepareChange).1 = d := by
  cases d with
  | ums u =>
      change (umsOnChangeRequest io.vm u .prepareChange).2 = _ at h
      change Device.ums (umsOnChangeRequest io.vm u .prepareChange).1 = _
      unfold umsOnChangeRequest at h ⊢
      cases hp : u.prepareChange io.vm with
      | ok u' =>
          rw [hp] at h
          cases h
      | error reason' => rfl
  | ums1 u =>
      change (ums1OnChangeRequest io.ft u .prepareChange).2 = _ at h
      change Device.ums1 (ums1OnChangeRequest io.ft u .prepareChange).1 = _
      unfold ums1OnChangeRequest at h ⊢
      cases hp : u.prepareChange io.ft with
      | ok u' =>
          rw [hp] at h
          cases h
      | error reason' => rfl
  | uac u => cases h
  | hid kind u => cases h
  | networkAdapter u => cases h
  | subscriber => rfl

theorem canceled_after_requestChange :
    ((d.onChangeRequest io name .requestChange).1.onChangeRequest io name .changeCanceled).1 =
      (d.onChangeRequest io name .changeCanceled).1 := by
  cases d with
  | hid kind u =>
      change Device.hid kind (HidHandle.onChangeRequest kind _ _ .changeCanceled).1 =
        Device.hid kind (u.onChangeRequest kind _ .changeCanceled).1
      rw [HidHandle.canceled_eq, HidHandle.canceled_eq]
  | _ => rfl

theorem canceled_after_preparation :
    (((d.onChangeRequest io name .requestChange).1.onChangeRequest io name
        .prepareChange).1.onChangeRequest io name .changeCanceled).1 =
      ((d.onChangeRequest io name .prepareChange).1.onChangeRequest io name .changeCanceled).1 := by
  cases d with
  | hid kind u =>
      change Device.hid kind (HidHandle.onChangeRequest kind _ _ .changeCanceled).1 =
        Device.hid kind (HidHandle.onChangeRequest kind _ _ .changeCanceled).1
      rw [HidHandle.canceled_eq, HidHandle.canceled_eq]
  | _ => rfl

/-! ### What is kept -/

theorem kept_iff_of_hid {kind : HidKind} {u u' : HidHandle} :
    (Device.hid kind u).holdings.Kept (Device.hid kind u').holdings ↔
      (∀ p ∈ u.file, u'.file = some p) ∧ ∀ p ∈ u.ledFile, u'.ledFile = some p :=
  ⟨fun h => ⟨h.hidFile, h.hidLedFile⟩,
    fun h => ⟨by simp [holdings], by simp [holdings], by simp [holdings], h.1, h.2⟩⟩

theorem kept_iff_of_network {u u' : NetworkAdapterHandle} :
    (Device.networkAdapter u).holdings.Kept (Device.networkAdapter u').holdings ↔
      (∀ t ∈ u.net, u'.net = some t) ∧ ∀ n ∈ u.ifname, u'.ifname = some n :=
  ⟨fun h => ⟨h.net, h.ifname⟩,
    fun h => ⟨by simp [holdings], h.1, h.2, by simp [holdings], by simp [holdings]⟩⟩

theorem kept_iff_of_ums {u u' : UmsHandle} :
    (Device.ums u).holdings.Kept (Device.ums u').holdings ↔
      ∀ p ∈ u.filePath, u'.filePath = some p :=
  ⟨fun h => h.image, fun h =>
    ⟨h, by simp [holdings], by simp [holdings], by simp [holdings], by simp [holdings]⟩⟩

theorem kept_iff_of_ums1 {u u' : Ums1Handle} :
    (Device.ums1 u).holdings.Kept (Device.ums1 u').holdings ↔
      ∀ p ∈ u.filePath, u'.filePath = some p :=
  ⟨fun h => h.image, fun h =>
    ⟨h, by simp [holdings], by simp [holdings], by simp [holdings], by simp [holdings]⟩⟩

theorem dropped_kept_iff {dropped : Prop} [Decidable dropped] {image : Option String} :
    (∀ p ∈ image, (if dropped then none else image) = some p) ↔ (dropped → image = none) := by
  by_cases h : dropped
  · simp [h, Option.eq_none_iff_forall_ne_some]
  · simp [h]

theorem reopened_kept_iff {resolved : Option String} {opens : Bool} {file : Option String} :
    (∀ p ∈ file, reopened resolved opens file = some p) ↔ Reopens resolved opens file := by
  unfold reopened Reopens
  cases resolved with
  | none => simp
  | some q =>
      cases opens with
      | true => simp
      | false => simp

theorem reopened_none_iff {enabled : Bool} {resolved : Option String} {opens : Bool}
    {file : Option String} :
    (∀ p ∈ file, (if enabled then reopened resolved opens none else none) = some p) ↔
      ReopensFrom enabled resolved opens file := by
  unfold reopened ReopensFrom
  cases enabled with
  | false => simp
  | true =>
      cases resolved with
      | none => simp
      | some q =>
          cases opens with
          | true => simp
          | false => simp

theorem kept_unprepared_iff :
    d.holdings.Kept (d.onChangeRequest io name .changeCanceled).1.holdings ↔
      d.RecoversUnprepared io := by
  cases d with
  | ums u => exact iff_of_true (.refl _) trivial
  | ums1 u => exact iff_of_true (.refl _) trivial
  | uac u => exact iff_of_true (.refl _) trivial
  | subscriber => exact iff_of_true (.refl _) trivial
  | hid kind u =>
      change (Device.hid kind u).holdings.Kept
        (Device.hid kind (u.onChangeRequest kind (io.hid kind) .changeCanceled).1).holdings ↔ _
      rw [HidHandle.canceled_eq, kept_iff_of_hid]
      change _ ↔ (u.enabled = true → _)
      cases hon : u.enabled with
      | false => simp
      | true =>
          refine Iff.trans (and_congr reopened_kept_iff ?_) (imp_iff_right rfl).symm
          by_cases hkb : kind = .kb
          · simp only [hkb, decide_true, Bool.and_self, if_true, imp_iff_right]
            exact reopened_kept_iff
          · simp [hkb]
  | networkAdapter u =>
      change (Device.networkAdapter u).holdings.Kept (Device.networkAdapter
        (NetworkAdapterHandle.applyL3 io.network { u with udcUpdating := false }).1).holdings ↔ _
      rw [NetworkAdapterHandle.applyL3_eq, kept_iff_of_network]
      change _ ↔ (u.enabled = true → _)
      cases hon : u.enabled with
      | false => simp
      | true =>
          refine ((and_iff_right fun _ h => h).trans (forall₂_congr fun n _ => ?_)).trans
            (imp_iff_right rfl).symm
          simp only [if_true, NetworkAdapterHandle.refreshIfnameFromNet, not_true_eq_false,
            if_false, Option.filter_eq_some_iff, Option.bind_eq_some_iff]
          cases u.net with
          | none => simp
          | some t => simp

theorem kept_prepared_iff (h : (d.onChangeRequest io name .prepareChange).2 = .proceed) :
    d.holdings.Kept ((d.onChangeRequest io name .prepareChange).1.onChangeRequest io name
      .changeCanceled).1.holdings ↔ d.RecoversPrepared io := by
  cases d with
  | ums u =>
      change (umsOnChangeRequest io.vm u .prepareChange).2 = _ at h
      change (Device.ums u).holdings.Kept (Device.ums
        { (umsOnChangeRequest io.vm u .prepareChange).1 with udcUpdating := false }).holdings ↔ _
      unfold umsOnChangeRequest at h ⊢
      cases hp : u.prepareChange io.vm with
      | ok u' =>
          rw [umsPrepareChange_ok hp, kept_iff_of_ums]
          exact dropped_kept_iff
      | error reason =>
          rw [hp] at h
          cases h
  | ums1 u =>
      change (ums1OnChangeRequest io.ft u .prepareChange).2 = _ at h
      change (Device.ums1 u).holdings.Kept (Device.ums1
        { (ums1OnChangeRequest io.ft u .prepareChange).1 with udcUpdating := false }).holdings ↔ _
      unfold ums1OnChangeRequest at h ⊢
      cases hp : u.prepareChange io.ft with
      | ok u' =>
          rw [ums1PrepareChange_ok hp, kept_iff_of_ums1]
          exact dropped_kept_iff
      | error reason =>
          rw [hp] at h
          cases h
  | uac u => exact iff_of_true (.refl _) trivial
  | subscriber => exact iff_of_true (.refl _) trivial
  | hid kind u =>
      change (Device.hid kind u).holdings.Kept (Device.hid kind
        (HidHandle.onChangeRequest kind (io.hid kind)
          { u with file := none, ledFile := none, devicePath := none } .changeCanceled).1).holdings ↔ _
      rw [HidHandle.canceled_eq, kept_iff_of_hid]
      exact and_congr reopened_none_iff reopened_none_iff
  | networkAdapter u =>
      change (Device.networkAdapter u).holdings.Kept (Device.networkAdapter
        (NetworkAdapterHandle.applyL3 io.network
          { u with net := none, ifname := none, udcUpdating := false }).1).holdings ↔
        u.net = none ∧ u.ifname = none
      rw [NetworkAdapterHandle.applyL3_eq, kept_iff_of_network]
      have hifname : (if u.enabled then (NetworkAdapterHandle.refreshIfnameFromNet io.network
          { u with net := none, ifname := none, udcUpdating := false }).ifname else none) = none := by
        unfold NetworkAdapterHandle.refreshIfnameFromNet
        cases u.enabled <;> rfl
      rw [hifname]
      simp [Option.eq_none_iff_forall_ne_some]

end Device

/-! ## Handlers -/

namespace ChangeHandler

variable (io : HandlerIo) (h : ChangeHandler)

/-- A handler that has not prepared recovers; one that is not registered is never asked. -/
def RecoversUnprepared : Prop := h.registered = true → h.device.RecoversUnprepared io

def RecoversPrepared : Prop := h.registered = true → h.device.RecoversPrepared io

/-- What the handler held it still holds. -/
def Kept (h h' : ChangeHandler) : Prop := h.device.holdings.Kept h'.device.holdings

theorem canceled_after_requestChange :
    (((h.onChangeRequest io .requestChange).1.onChangeRequest io .changeCanceled).1).device =
      (h.onChangeRequest io .changeCanceled).1.device := by
  by_cases hreg : h.registered = true
  · have hreg' := (registered_onChangeRequest io .requestChange h).trans hreg
    rw [onChangeRequest_of_registered io _ _ hreg', onChangeRequest_of_registered io _ h hreg,
      onChangeRequest_of_registered io _ h hreg]
    exact Device.canceled_after_requestChange io h.name h.device
  · rw [onChangeRequest_of_unregistered io .requestChange h hreg]

theorem canceled_after_preparation :
    ((((h.onChangeRequest io .requestChange).1.onChangeRequest io .prepareChange).1.onChangeRequest
        io .changeCanceled).1).device =
      ((h.onChangeRequest io .prepareChange).1.onChangeRequest io .changeCanceled).1.device := by
  by_cases hreg : h.registered = true
  · have hreg₁ := (registered_onChangeRequest io .requestChange h).trans hreg
    have hreg₂ := (registered_onChangeRequest io .prepareChange
      (h.onChangeRequest io .requestChange).1).trans hreg₁
    have hreg₃ := (registered_onChangeRequest io .prepareChange h).trans hreg
    rw [onChangeRequest_of_registered io .changeCanceled _ hreg₂,
      onChangeRequest_of_registered io .prepareChange _ hreg₁,
      onChangeRequest_of_registered io .changeCanceled _ hreg₃,
      onChangeRequest_of_registered io .prepareChange h hreg,
      onChangeRequest_of_registered io .requestChange h hreg]
    exact Device.canceled_after_preparation io h.name h.device
  · rw [onChangeRequest_of_unregistered io .requestChange h hreg]

theorem kept_unprepared_iff :
    h.Kept (h.onChangeRequest io .changeCanceled).1 ↔ h.RecoversUnprepared io := by
  unfold Kept RecoversUnprepared
  by_cases hreg : h.registered = true
  · rw [onChangeRequest_of_registered io _ h hreg, imp_iff_right hreg]
    exact Device.kept_unprepared_iff io h.name h.device
  · rw [onChangeRequest_of_unregistered io _ h hreg]
    exact iff_of_true (.refl _) fun hreg' => absurd hreg' hreg

theorem kept_prepared_iff (hp : (h.onChangeRequest io .prepareChange).2 = .proceed) :
    h.Kept ((h.onChangeRequest io .prepareChange).1.onChangeRequest io .changeCanceled).1 ↔
      h.RecoversPrepared io := by
  unfold Kept RecoversPrepared
  by_cases hreg : h.registered = true
  · have hreg' := (registered_onChangeRequest io .prepareChange h).trans hreg
    rw [onChangeRequest_of_registered io .changeCanceled _ hreg', imp_iff_right hreg]
    rw [onChangeRequest_of_registered io .prepareChange h hreg] at hp ⊢
    exact Device.kept_prepared_iff io h.name h.device hp
  · rw [onChangeRequest_of_unregistered io .prepareChange h hreg,
      onChangeRequest_of_unregistered io .changeCanceled h hreg]
    exact iff_of_true (.refl _) fun hreg' => absurd hreg' hreg

theorem prepareChange_of_rejects {reason : String}
    (hp : (h.onChangeRequest io .prepareChange).2 = .reject reason) :
    (h.onChangeRequest io .prepareChange).1.device = h.device := by
  by_cases hreg : h.registered = true
  · rw [onChangeRequest_of_registered io .prepareChange h hreg] at hp ⊢
    exact Device.prepareChange_of_rejects io h.name h.device hp
  · rw [onChangeRequest_of_unregistered io .prepareChange h hreg]

theorem canceled_after_rejection {reason : String}
    (hp : (h.onChangeRequest io .prepareChange).2 = .reject reason) :
    ((h.onChangeRequest io .prepareChange).1.onChangeRequest io .changeCanceled).1.device =
      (h.onChangeRequest io .changeCanceled).1.device := by
  have hdevice := prepareChange_of_rejects io h hp
  by_cases hreg : h.registered = true
  · have hreg' := (registered_onChangeRequest io .prepareChange h).trans hreg
    have hname := (onChangeRequest_frame io .prepareChange h).1
    rw [onChangeRequest_of_registered io .changeCanceled _ hreg',
      onChangeRequest_of_registered io .changeCanceled h hreg, hdevice, hname]
  · rw [onChangeRequest_of_unregistered io .prepareChange h hreg]

end ChangeHandler

/-- While the handlers prepare in their order: those in front of the first that rejects
have prepared, the others have not. -/
def RecoversFrom (io : HandlerIo) : List ChangeHandler → Prop
  | [] => True
  | h :: hs =>
      if (h.onChangeRequest io .prepareChange).2 = .proceed then
        h.RecoversPrepared io ∧ RecoversFrom io hs
      else ∀ c ∈ h :: hs, c.RecoversUnprepared io

/-- All handlers recover from the cancellation of a change. -/
def Recovers (io : HandlerIo) (hs : List ChangeHandler) : Prop :=
  if ∀ h ∈ hs, (h.onChangeRequest io .requestChange).2 = .proceed then RecoversFrom io hs
  else ∀ h ∈ hs, h.RecoversUnprepared io

/-- All that the handlers held they still hold. -/
def AllKept (hs hs' : List ChangeHandler) : Prop := List.Forall₂ ChangeHandler.Kept hs hs'

theorem AllKept.exists_kept {hs hs' : List ChangeHandler} (h : AllKept hs hs') :
    ∀ c ∈ hs, ∃ c' ∈ hs', c.Kept c' := by
  induction h with
  | nil => simp
  | cons hkept _ ih =>
      rw [List.forall_mem_cons]
      refine ⟨⟨_, List.mem_cons_self, hkept⟩, fun c hc => ?_⟩
      obtain ⟨c', hc', hcc'⟩ := ih c hc
      exact ⟨c', List.mem_cons_of_mem _ hc', hcc'⟩

def ask (io : HandlerIo) (req : ChangeRequest) (h : ChangeHandler) :
    ChangeHandler × Option String :=
  (h.onChangeRequest io req).map id ChangeResponse.reason?

def cancel (io : HandlerIo) (h : ChangeHandler) : ChangeHandler :=
  (h.onChangeRequest io .changeCanceled).1

variable {io : HandlerIo}

theorem kept_cancel_asked_iff (h : ChangeHandler) :
    h.Kept (cancel io (h.onChangeRequest io .requestChange).1) ↔ h.RecoversUnprepared io := by
  unfold cancel ChangeHandler.Kept
  rw [h.canceled_after_requestChange]
  exact h.kept_unprepared_iff io

theorem allKept_asked_iff (hs : List ChangeHandler) :
    AllKept hs ((hs.map fun h => (h.onChangeRequest io .requestChange).1).map (cancel io)) ↔
      ∀ h ∈ hs, h.RecoversUnprepared io := by
  unfold AllKept
  rw [List.map_map, List.forall₂_map_right_iff, List.forall₂_same]
  exact forall₂_congr fun h _ => kept_cancel_asked_iff h

theorem allKept_unasked_iff (hs : List ChangeHandler) :
    AllKept hs (hs.map (cancel io)) ↔ ∀ h ∈ hs, h.RecoversUnprepared io := by
  unfold AllKept
  rw [List.forall₂_map_right_iff, List.forall₂_same]
  exact forall₂_congr fun h _ => h.kept_unprepared_iff io

theorem allKept_requestChange_iff (hs : List ChangeHandler) :
    AllKept hs ((poll (ask io .requestChange) hs).1.map (cancel io)) ↔
      ∀ h ∈ hs, h.RecoversUnprepared io := by
  induction hs with
  | nil => exact iff_of_true .nil (by simp)
  | cons h hs ih =>
      rw [List.forall_mem_cons]
      cases hanswer : (h.onChangeRequest io .requestChange).2 with
      | proceed =>
          have hask :
              ask io .requestChange h = ((h.onChangeRequest io .requestChange).1, none) := by
            rw [ask, Prod.map, hanswer]
            rfl
          rw [Poll.cons_of_agrees hask, AllKept, List.map_cons, List.forall₂_cons]
          exact and_congr (kept_cancel_asked_iff h) ih
      | reject reason =>
          have hask : ask io .requestChange h =
              ((h.onChangeRequest io .requestChange).1, some reason) := by
            rw [ask, Prod.map, hanswer]
            rfl
          rw [Poll.cons_of_objects hask, AllKept, List.map_cons, List.forall₂_cons]
          exact and_congr (kept_cancel_asked_iff h) (allKept_unasked_iff hs)

theorem allKept_prepareChange_iff (hs : List ChangeHandler) :
    AllKept hs ((poll (ask io .prepareChange)
        (hs.map fun h => (h.onChangeRequest io .requestChange).1)).1.map (cancel io)) ↔
      RecoversFrom io hs := by
  induction hs with
  | nil => exact iff_of_true .nil trivial
  | cons h hs ih =>
      rw [List.map_cons, RecoversFrom]
      have hsame := h.prepareChange_after_requestChange io
      cases hanswer : (h.onChangeRequest io .prepareChange).2 with
      | proceed =>
          have hask : ask io .prepareChange (h.onChangeRequest io .requestChange).1 =
              (((h.onChangeRequest io .requestChange).1.onChangeRequest io .prepareChange).1,
                none) := by
            rw [ask, Prod.map, hsame, hanswer]
            rfl
          rw [Poll.cons_of_agrees hask, AllKept, List.map_cons, List.forall₂_cons, if_pos rfl]
          refine and_congr ?_ ih
          rw [← h.kept_prepared_iff io hanswer]
          unfold cancel ChangeHandler.Kept
          rw [h.canceled_after_preparation]
      | reject reason =>
          have hask : ask io .prepareChange (h.onChangeRequest io .requestChange).1 =
              (((h.onChangeRequest io .requestChange).1.onChangeRequest io .prepareChange).1,
                some reason) := by
            rw [ask, Prod.map, hsame, hanswer]
            rfl
          rw [Poll.cons_of_objects hask, AllKept, List.map_cons, List.forall₂_cons,
            if_neg (fun hf => by cases hf), List.forall_mem_cons]
          refine and_congr ?_ (allKept_asked_iff hs)
          rw [← h.kept_unprepared_iff io]
          unfold cancel ChangeHandler.Kept
          rw [h.canceled_after_preparation, h.canceled_after_rejection io hanswer]

namespace UsbDeviceManager

/-- A rejected change leaves the gadget bound; the handlers still hold what they held
exactly when they recover: the ones that prepared have no image and no network function,
and interface names and HID devices are found again. -/
theorem rejected_change_kept_iff {s s' : UsbDeviceManager} {e : UsbError}
    (h : requestChangeApproval io s = (s', .error e)) :
    s'.activeGadget = s.activeGadget ∧
      (AllKept s.handlers s'.handlers ↔ Recovers io s.handlers) := by
  unfold requestChangeApproval requestChangeOnly at h
  unfold Recovers
  by_cases hall : ∀ c ∈ s.handlers, (c.onChangeRequest io .requestChange).2 = .proceed
  · rw [bind_of_ok (askHandlers_of_agreed hall)] at h
    rw [if_pos hall]
    by_cases hprep : ∀ c ∈ (notifyAll io .requestChange s).handlers,
        (c.onChangeRequest io .prepareChange).2 = .proceed
    · rw [askHandlers_of_agreed hprep] at h
      cases h
    · obtain ⟨reason, hask⟩ := askHandlers_of_rejected hprep
      rw [hask] at h
      cases h
      exact ⟨rfl, allKept_prepareChange_iff s.handlers⟩
  · obtain ⟨reason, hask⟩ := askHandlers_of_rejected hall
    rw [bind_of_error hask] at h
    rw [if_neg hall]
    cases h
    exact ⟨rfl, allKept_requestChange_iff s.handlers⟩

def twoLuns : DeviceSwitches := { umsVmEnabled := true, umsFtEnabled := true }

/-- The manager with an image in the virtual media LUN and none in the other. -/
def withImage : UsbDeviceManager :=
  (handleUmsControl ⟨.working, .working, .working⟩ ⟨.mount, .vm, "/userdata/a.iso", .vmCdRom⟩
    (applySwitches .working none (some twoLuns) (start { serialNumber := "ARK0123456789" })).1).1

/-- The file transfer LUN cannot be written. -/
def ftUnwritable : HandlerIo :=
  { HandlerIo.working with ft := { LunIo.working with written := .error (.ioError "EBUSY") } }

theorem ftUnwritable_rejects :
    ∃ e, requestChangeApproval ftUnwritable withImage =
      ((requestChangeApproval ftUnwritable withImage).1, .error e) := by
  have hfailed : (requestChangeApproval ftUnwritable withImage).2.isOk = false := by decide +kernel
  cases hrun : (requestChangeApproval ftUnwritable withImage).2 with
  | error e => exact ⟨e, Prod.ext rfl hrun⟩
  | ok u =>
      rw [hrun] at hfailed
      cases hfailed

theorem rejected_change_kept_iff_ftUnwritable :
    (requestChangeApproval ftUnwritable withImage).1.activeGadget = withImage.activeGadget ∧
      (AllKept withImage.handlers (requestChangeApproval ftUnwritable withImage).1.handlers ↔
        Recovers ftUnwritable withImage.handlers) := by
  obtain ⟨e, hrun⟩ := ftUnwritable_rejects
  exact rejected_change_kept_iff hrun

/-- The file transfer LUN rejects after the virtual media LUN has prepared: the gadget
stays bound and the image is gone. -/
theorem rejected_change_drops_image :
    ¬ ∀ (io : HandlerIo) (s s' : UsbDeviceManager) (e : UsbError),
      requestChangeApproval io s = (s', .error e) → s'.activeGadget.isSome = true →
        AllKept s.handlers s'.handlers := by
  intro h
  obtain ⟨e, hrun⟩ := ftUnwritable_rejects
  have hkept := h ftUnwritable withImage _ e hrun (by decide +kernel)
  have hbefore : withImage.handlers.any
      (fun c => c.device.holdings.image = some "/userdata/a.iso") = true := by decide +kernel
  have hafter : (requestChangeApproval ftUnwritable withImage).1.handlers.all
      (fun c => c.device.holdings.image = none) = true := by decide +kernel
  obtain ⟨c, hc, himage⟩ := List.any_eq_true.mp hbefore
  obtain ⟨c', hc', hcc'⟩ := hkept.exists_kept c hc
  have hheld := hcc'.image "/userdata/a.iso" (of_decide_eq_true himage)
  have hgone := of_decide_eq_true (List.all_eq_true.mp hafter c' hc')
  rw [hgone] at hheld
  cases hheld

end UsbDeviceManager

end ArkKvm.GadgetChange
