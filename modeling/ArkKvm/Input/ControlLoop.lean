import ArkKvm.Input.Report
import ArkKvm.Lib.Bytes

/-!
# Input in the control loop of the sidecar

The branches of the command loop in `control/service.rs` that take keyboard and mouse input, with
the reports that `hid_kb.rs`, `hid_abs.rs` and `hid_rel.rs` make of it.  A panic ends the task
of the loop, and with it the control service.
-/

namespace ArkKvm.Input.ControlLoop

open Lib.Bytes (splice)

structure HidHandle where
  enabled : Bool
  udcUpdating : Bool
  warnedDisabled : Bool
  warnedUpdating : Bool
  queue : List (List UInt8)
deriving DecidableEq

/-- `submit_write` and `submit`: a device that is off or being rebuilt drops the report. -/
def HidHandle.submit (h : HidHandle) (report : List UInt8) : HidHandle :=
  if h.enabled = false then { h with warnedDisabled := true }
  else if h.udcUpdating then { h with warnedUpdating := true }
  else { h with queue := h.queue ++ [report] }

/-- The input devices that the manager has. -/
structure Sidecar where
  keyboard : Option HidHandle
  absMouse : Option HidHandle
  relMouse : Option HidHandle
deriving DecidableEq

/-- `dst[start..start + n].copy_from_slice(src)`: a panic when the lengths differ. -/
def copyFromSlice (dst : List UInt8) (start n : Nat) (src : List UInt8) :
    Except String (List UInt8) :=
  if src.length = n then .ok (splice dst start src)
  else .error "copy_from_slice: source slice length does not match destination slice length"

def keyboardBytes (mods : UInt8) (keys : List UInt8) : Except String (List UInt8) :=
  let d := (List.replicate 8 0).set 0 mods
  copyFromSlice d 2 (min keys.length 6) keys

/-- `HidAbsController::abs_mouse_report`. -/
def absMouseBytes (x y : Int32) (btns : UInt8) : List UInt8 :=
  [1, btns, (x &&& 0xff).toUInt32.toUInt8, ((x >>> 8) &&& 0xff).toUInt32.toUInt8,
    (y &&& 0xff).toUInt32.toUInt8, ((y >>> 8) &&& 0xff).toUInt32.toUInt8]

def absMouseWheel (y x : Int8) (h : HidHandle) : HidHandle :=
  if y = 0 ∧ x = 0 then h else h.submit [2, y.toUInt8, x.toUInt8]

/-- `HidRelController::rel_mouse_report`. -/
def relMouseBytes (dx dy : Int8) (btns : UInt8) : List UInt8 :=
  [1, btns, dx.toUInt8, dy.toUInt8, 0]

def handlePut (svc : Sidecar) : Report → Except String Sidecar
  | .keyboard modifier keys =>
      match svc.keyboard with
      | none => .ok svc
      | some hid => do
          let d ← keyboardBytes modifier.toUInt8 keys
          return { svc with keyboard := some (hid.submit d) }
  | .absMouse x y buttons _ =>
      .ok { svc with absMouse := svc.absMouse.map (·.submit (absMouseBytes x y buttons.toUInt8)) }
  | .relMouse dx dy buttons _ =>
      .ok { svc with
        relMouse := svc.relMouse.map (·.submit
          (relMouseBytes dx.toInt8 dy.toInt8 buttons.toUInt8)) }
  | .wheel wheelY wheelX =>
      .ok { svc with
        absMouse := svc.absMouse.map (absMouseWheel wheelY.toUInt8.toInt8 wheelX.toUInt8.toInt8) }

def controlLoop (svc : Sidecar) : List Report → Except String Sidecar
  | [] => .ok svc
  | r :: rs => do controlLoop (← handlePut svc r) rs

/-! ## What the loop is to do -/

inductive InputRequest
  | keyboard (params : KeyboardReportParams)
  | absMouse (params : AbsMouseReportParams)
  | relMouse (params : RelMouseReportParams)
  | wheel (params : WheelReportParams)

/-- What the handler of the request puts on the bus. -/
def InputRequest.report : InputRequest → Report
  | .keyboard params => keyboardReport params
  | .absMouse params => absMouseReport params
  | .relMouse params => relMouseReport params
  | .wheel params => wheelReport params

/-- `[modifier, 0, k1..k6]`: the first six keys, followed by zeros. -/
def fullReport (modifier : UInt8) (keys : List UInt8) : List UInt8 :=
  [modifier, 0] ++ keys.take 6 ++ List.replicate (6 - keys.length) 0

/-- The devices after a request that was delivered. -/
def delivered (svc : Sidecar) : InputRequest → Sidecar
  | .keyboard params =>
      { svc with keyboard := svc.keyboard.map (·.submit (fullReport params.modifier params.keys)) }
  | .absMouse params =>
      { svc with absMouse := svc.absMouse.map (·.submit
          (absMouseBytes params.x params.y params.buttons)) }
  | .relMouse params =>
      { svc with relMouse := svc.relMouse.map (·.submit
          (relMouseBytes params.dx params.dy params.buttons)) }
  | .wheel params =>
      { svc with absMouse := svc.absMouse.map (absMouseWheel params.wheelY params.wheelX) }

/-- At most six keys, or no keyboard that the report could be made for. -/
def Fits (svc : Sidecar) : InputRequest → Prop
  | .keyboard params => svc.keyboard = none ∨ params.keys.length ≤ 6
  | _ => True

theorem keyboardBytes_of_le {mods : UInt8} {keys : List UInt8} (h : keys.length ≤ 6) :
    keyboardBytes mods keys = .ok (fullReport mods keys) := by
  have hmin : min keys.length 6 = keys.length := Nat.min_eq_left h
  unfold keyboardBytes copyFromSlice fullReport
  dsimp only
  rw [if_pos hmin.symm, splice, List.take_of_length_le h]
  have hrest : ((List.replicate 8 (0 : UInt8)).set 0 mods).drop (2 + keys.length) =
      List.replicate (6 - keys.length) 0 := by
    rw [show (List.replicate 8 (0 : UInt8)).set 0 mods = mods :: List.replicate 7 0 from rfl,
      show 2 + keys.length = (1 + keys.length) + 1 by omega, List.drop_succ_cons,
      List.drop_replicate]
    congr 1
    omega
  rw [hrest]
  rfl

theorem keyboardBytes_of_lt {mods : UInt8} {keys : List UInt8} (h : 6 < keys.length) :
    ∃ e, keyboardBytes mods keys = .error e := by
  unfold keyboardBytes copyFromSlice
  exact ⟨_, if_neg (by omega)⟩

theorem handlePut_report (svc : Sidecar) (req : InputRequest) :
    (Fits svc req → handlePut svc req.report = .ok (delivered svc req)) ∧
      (¬ Fits svc req → ∃ e, handlePut svc req.report = .error e) := by
  cases req with
  | keyboard params =>
      have hmods : params.modifier.toUInt32.toUInt8 = params.modifier := by simp
      unfold InputRequest.report keyboardReport handlePut delivered
      dsimp only
      rw [hmods]
      rcases svc with ⟨_ | hid, absMouse, relMouse⟩
      · exact ⟨fun _ => rfl, fun h => absurd (.inl rfl) h⟩
      · constructor
        · rintro (h | h)
          · cases h
          · dsimp only
            rw [keyboardBytes_of_le h]
            rfl
        · intro h
          have hmany : 6 < params.keys.length := not_le.mp fun hle => h (.inr hle)
          obtain ⟨e, he⟩ := keyboardBytes_of_lt hmany
          dsimp only
          rw [he]
          exact ⟨e, rfl⟩
  | absMouse params =>
      have hbuttons : params.buttons.toUInt32.toUInt8 = params.buttons := by simp
      unfold InputRequest.report absMouseReport handlePut delivered
      dsimp only
      rw [hbuttons]
      exact ⟨fun _ => rfl, fun h => absurd trivial h⟩
  | relMouse params =>
      have hbuttons : params.buttons.toUInt32.toUInt8 = params.buttons := by simp
      have hdx : params.dx.toInt32.toInt8 = params.dx := by simp
      have hdy : params.dy.toInt32.toInt8 = params.dy := by simp
      unfold InputRequest.report relMouseReport handlePut delivered
      dsimp only
      rw [hbuttons, hdx, hdy]
      exact ⟨fun _ => rfl, fun h => absurd trivial h⟩
  | wheel params =>
      have hstep : ∀ v : Int8, v.toInt32.toUInt32.toUInt8.toInt8 = v := by
        intro v
        rw [← Int8.toBitVec_inj]
        simp only [UInt8.toBitVec_toInt8, UInt32.toBitVec_toUInt8, Int32.toBitVec_toUInt32,
          Int8.toBitVec_toInt32]
        ext i hi
        rw [BitVec.getElem_setWidth, BitVec.getLsbD_signExtend]
        simp [hi, show i < 32 by omega]
      unfold InputRequest.report wheelReport handlePut delivered
      dsimp only
      rw [hstep, hstep]
      exact ⟨fun _ => rfl, fun h => absurd trivial h⟩

theorem fits_delivered (svc : Sidecar) (req req' : InputRequest) :
    Fits (delivered svc req) req' ↔ Fits svc req' := by
  cases req' with
  | keyboard params =>
      unfold Fits delivered
      cases req <;> simp
  | _ => exact Iff.rfl

/-- The loop is still running after a sequence of requests, and every report was the full one,
exactly when each of them fits. -/
theorem control_loop_survives_iff (svc : Sidecar) (reqs : List InputRequest) :
    controlLoop svc (reqs.map (·.report)) = .ok (reqs.foldl delivered svc) ↔
      ∀ req ∈ reqs, Fits svc req := by
  induction reqs generalizing svc with
  | nil => exact iff_of_true rfl (fun req hreq => absurd hreq List.not_mem_nil)
  | cons req reqs ih =>
      rw [List.map_cons, List.foldl_cons, controlLoop, List.forall_mem_cons]
      obtain ⟨hfits, hpanic⟩ := handlePut_report svc req
      by_cases hreq : Fits svc req
      · rw [hfits hreq]
        change controlLoop (delivered svc req) (reqs.map (·.report)) = _ ↔ _
        rw [ih]
        simp only [fits_delivered, hreq, true_and]
      · obtain ⟨e, he⟩ := hpanic hreq
        rw [he]
        exact iff_of_false (fun h => by cases h) (fun h => hreq h.1)

def ready : HidHandle where
  enabled := true
  udcUpdating := false
  warnedDisabled := false
  warnedUpdating := false
  queue := []

/-- Seven keys at once end the loop, and no report is made of them. -/
theorem seven_keys_stop_the_loop :
    ∃ e, controlLoop { keyboard := some ready, absMouse := none, relMouse := none }
      [(InputRequest.keyboard { modifier := 0, keys := [4, 5, 6, 7, 8, 9, 10] }).report] =
        .error e := by
  exact ⟨_, rfl⟩

end ArkKvm.Input.ControlLoop
