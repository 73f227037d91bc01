import Mathlib

/-!
# Input messages and their reports

`jsonrpc.rs`: the methods that carry keyboard and mouse input, from the parameters of the
request to the report that `services/usb.rs` puts on the bus.  Deserialisation is
`serde_json`'s and comes as a parameter, with the type of its values.
-/

namespace ArkKvm.Input

abbrev Data := List UInt8

structure JsonRpcRequest (Value : Type) where
  jsonrpc : String
  method : String
  params : Option Value
  id : Option Value

/-! ## Parameters of the requests -/

structure KeyboardReportParams where
  modifier : UInt8
  keys : List UInt8

structure AbsMouseReportParams where
  x : Int32
  y : Int32
  buttons : UInt8

structure RelMouseReportParams where
  dx : Int8
  dy : Int8
  buttons : UInt8

structure WheelReportParams where
  wheelY : Int8
  wheelX : Int8 := 0

/-- What `serde_json` makes of a message and of the parameters in it. -/
structure Serde (Value : Type) where
  fromSlice : Data → Option (JsonRpcRequest Value)
  keyboard : Value → Except String KeyboardReportParams
  absMouse : Value → Except String AbsMouseReportParams
  relMouse : Value → Except String RelMouseReportParams
  wheel : Value → Except String WheelReportParams

/-! ## Reports -/

inductive Report
  | keyboard (modifier : UInt32) (keys : List UInt8)
  | absMouse (x y : Int32) (buttons : UInt32) (byUser : Bool)
  | relMouse (dx dy : Int32) (buttons : UInt32) (byUser : Bool)
  | wheel (wheelY wheelX : UInt32)
deriving DecidableEq

def Report.isInput : Report → Bool
  | .wheel _ _ => false
  | _ => true

def keyboardReport (params : KeyboardReportParams) : Report :=
  .keyboard params.modifier.toUInt32 params.keys

def absMouseReport (params : AbsMouseReportParams) : Report :=
  .absMouse params.x params.y params.buttons.toUInt32 true

def relMouseReport (params : RelMouseReportParams) : Report :=
  .relMouse params.dx.toInt32 params.dy.toInt32 params.buttons.toUInt32 true

def wheelReport (params : WheelReportParams) : Report :=
  .wheel params.wheelY.toInt32.toUInt32 params.wheelX.toInt32.toUInt32

def isHidMethod (method : String) : Bool :=
  method = "keyboardReport" || method = "absMouseReport" || method = "relMouseReport" ||
    method = "wheelReport"

section

variable {Value : Type} (serde : Serde Value)

def handle {Params : Type} (decode : Value → Except String Params) (report : Params → Report)
    (params : Option Value) : Except String Report :=
  match params with
  | none => .error "Missing required parameters"
  | some value => (decode value).map report

def callAsync (req : JsonRpcRequest Value) : Option (Except String Report) :=
  if req.method = "keyboardReport" then
    some (handle serde.keyboard keyboardReport req.params)
  else if req.method = "absMouseReport" then
    some (handle serde.absMouse absMouseReport req.params)
  else if req.method = "relMouseReport" then
    some (handle serde.relMouse relMouseReport req.params)
  else if req.method = "wheelReport" then
    some (handle serde.wheel wheelReport req.params)
  else none

def requestReport (req : JsonRpcRequest Value) : Option Report :=
  (callAsync serde req).bind Except.toOption

def reportOf (data : Data) : Option Report := (serde.fromSlice data).bind (requestReport serde)

/-- A message with a keyboard or mouse report. -/
def carriesInput (data : Data) : Bool := (reportOf serde data).any Report.isInput

theorem callAsync_isSome (req : JsonRpcRequest Value) :
    (callAsync serde req).isSome = isHidMethod req.method := by
  unfold callAsync isHidMethod
  by_cases hkeyboard : req.method = "keyboardReport"
  · simp [hkeyboard]
  · by_cases habs : req.method = "absMouseReport"
    · simp [habs]
    · by_cases hrel : req.method = "relMouseReport"
      · simp [hrel]
      · by_cases hwheel : req.method = "wheelReport" <;> simp [hkeyboard, habs, hrel, hwheel]

end

end ArkKvm.Input
