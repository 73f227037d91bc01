import ArkKvm.Lib.Text

/-!
# The configuration record and its validation

`Config` and the records below it follow `config/types.rs` field by field.
`validate` takes the value by mutable reference there: it clamps the delays of
the macro steps as it goes, also when it ends in an error, so here every
`validate` returns the value it leaves behind together with its verdict.
Floating-point settings are carried as their bit patterns; nothing computes
with them.
-/

namespace ArkKvm

def maxMacrosPerDevice : Nat := 25
def maxStepsPerMacro : Nat := 10
def maxKeysPerStep : Nat := 10
def minStepDelay : Nat := 50
def maxStepDelay : Nat := 2000

structure WakeOnLanDevice where
  name : String
  macAddress : String
  broadcastAddress : String
  port : Nat
deriving DecidableEq

structure KeyboardMacroStep where
  keys : List String
  modifiers : List String
  delay : Nat
deriving DecidableEq

structure KeyboardMacro where
  id : String
  name : String
  steps : List KeyboardMacroStep
  sortOrder : Option Nat
deriving DecidableEq

structure UsbConfig where
  vendorId : String
  productId : String
  serialNumber : String
  manufacturer : String
  product : String
  forceFullSpeed : Bool
deriving DecidableEq

inductive NetworkAdapterType
  | ncm
  | rndis
deriving DecidableEq

structure NetworkAdapterL3 where
  ipAddress : String := "172.16.0.1"
  subnetMask : String := "255.255.255.0"
  gateway : Option String := none
  dnsServers : Option (List String) := none
deriving DecidableEq

structure NetworkAdapter where
  enable : Bool := false
  adapterType : NetworkAdapterType := .ncm
  l3Config : NetworkAdapterL3 := {}
deriving DecidableEq

structure UsbDevices where
  absoluteMouse : Bool := true
  relativeMouse : Bool := true
  keyboard : Bool := true
  massStorageVm : Bool := true
  massStorageFt : Bool := true
  microphone : Bool := true
  camera : Bool := false
  networkAdapter : NetworkAdapter := {}
deriving DecidableEq

inductive IpV4Mod
  | dhcp
  | static
deriving DecidableEq

inductive IpV6Mod
  | slaac
  | static
deriving DecidableEq

structure StaticIpConfig where
  ipAddress : String
  subnetMask : String
  gateway : String
  dnsServers : List String
deriving DecidableEq

structure VlanEndpointConfig where
  vlanId : Nat
  ipv4Mode : IpV4Mod
  ipv6Mode : Option IpV6Mod
  staticIpv4 : Option StaticIpConfig
  staticIpv6 : Option StaticIpConfig
deriving DecidableEq

structure VlanSettings where
  vlanEnabled : Bool := false
  primaryVlan : Option VlanEndpointConfig := none
  secondaryVlan : Option VlanEndpointConfig := none
deriving DecidableEq

structure NetworkConfig where
  hostname : Option String := some "arkkvm"
  httpProxy : Option String := none
  domain : Option String := some "dhcp"
  ipv4Mode : IpV4Mod := .dhcp
  staticIpv4 : Option StaticIpConfig := none
  ipv6Mode : IpV6Mod := .slaac
  staticIpv6 : Option StaticIpConfig := none
  lldpMode : String := "basic"
  lldpTxTlvs : List String := ["chassis", "port", "system", "vlan"]
  mdnsMode : String := "auto"
  timeSyncMode : String := "ntp_and_http"
  timeSyncOrdering : List String := ["ntp", "http"]
  timeSyncDisableFallback : Bool := false
  timeSyncParallel : Nat := 4
  vlanSettings : VlanSettings := {}
deriving DecidableEq

structure UISwitch where
  hdmiAudio : Bool := false
deriving DecidableEq

structure VirtualMediaItem where
  name : String
  url : String
  iconKey : String
deriving DecidableEq

structure JigglerConfig where
  inactivityLimitSeconds : Nat := 60
  jitterPercentage : Nat := 25
  scheduleCronTab : String := "0 * * * * *"
  timezone : Option String := some "UTC"
deriving DecidableEq

inductive TlsMode
  | disabled
  | selfSigned
  | custom (certificate privateKey : String)
deriving DecidableEq

inductive FileTransferTarget
  | none
  | kvm
  | remoteUsb
deriving DecidableEq

def f32One : Nat := 0x3F800000

structure Config where
  cloudUrl : String := "https://api.arkkvm.com"
  cloudAppUrl : String := "https://app.arkkvm.com"
  cloudToken : Option String := none
  ownerUserId : Option Int := none
  devChannelEnabled : Bool := false
  jigglerEnabled : Bool := false
  autoUpdateEnabled : Bool := false
  videoQuality : Nat := f32One
  audioQuality : Nat := f32One
  uiSwitch : UISwitch := {}
  jigglerConfig : JigglerConfig := {}
  hashedPassword : Option String := none
  localAuthToken : Option String := none
  localCsrfToken : Option String := none
  localAuthTokenExpiresAt : Option Int := none
  localAgentAuthToken : Option String := none
  localAgentCsrfToken : Option String := none
  localAgentAuthTokenExpiresAt : Option Int := none
  localAuthMode : String := ""
  localLoopbackOnly : Bool := false
  wakeOnLanDevices : List WakeOnLanDevice := []
  keyboardMacros : List KeyboardMacro := []
  keyboardLayout : String := "en_US"
  activeExtension : Option String := none
  displayRotation : String := "270"
  displayMaxBrightness : Nat := 64
  displayDimAfterSec : Nat := 120
  displayOffAfterSec : Nat := 1800
  tlsMode : TlsMode := .disabled
  usbConfig : UsbConfig
  usbDevices : UsbDevices := {}
  microphoneEmulation : Option Bool := some false
  mcpEnabled : Bool := false
  sshForwardingEnabled : Bool := false
  audioPlayback : Bool := true
  fileTransferTarget : FileTransferTarget := .kvm
  networkConfig : NetworkConfig := {}
  defaultLogLevel : String := "INFO"
  deviceId : String
  virtualMediaList : Option (List VirtualMediaItem) := none
deriving DecidableEq

/-- `UsbConfig::default`; the serial number is the board's device id. -/
def UsbConfig.default (deviceId : String) : UsbConfig :=
  { vendorId := "0x1d6b"
    productId := "0x0104"
    serialNumber := deviceId
    manufacturer := "ArkKVM"
    product := "Multifunction Composite Gadget"
    forceFullSpeed := false }

/-- `Config::default` on the board with the given device id. -/
def Config.default (deviceId : String) : Config :=
  { usbConfig := UsbConfig.default deviceId, deviceId := deviceId }

/-- `u32::clamp` to the range of step delays. -/
def clampDelay (delay : Nat) : Nat :=
  if delay < minStepDelay then minStepDelay
  else if maxStepDelay < delay then maxStepDelay
  else delay

def KeyboardMacroStep.validate (s : KeyboardMacroStep) :
    KeyboardMacroStep × Except String Unit :=
  if maxKeysPerStep < s.keys.length then
    (s, .error ("Too many keys in step (max " ++ toString maxKeysPerStep ++ ")"))
  else ({ s with delay := clampDelay s.delay }, .ok ())

/-- The loop of `KeyboardMacro::validate`, from the step with index `i` on.  It
stops at the first bad step; the steps before that one have been clamped. -/
def validateSteps (i : Nat) : List KeyboardMacroStep →
    List KeyboardMacroStep × Except String Unit
  | [] => ([], .ok ())
  | s :: rest =>
      match s.validate with
      | (s', .error e) =>
          (s' :: rest, .error ("Invalid step " ++ toString (i + 1) ++ ": " ++ e))
      | (s', .ok _) => (s' :: (validateSteps (i + 1) rest).1, (validateSteps (i + 1) rest).2)

def KeyboardMacro.validate (m : KeyboardMacro) : KeyboardMacro × Except String Unit :=
  if Lib.Text.trim m.name.toList = [] then (m, .error "Macro name cannot be empty")
  else if m.steps = [] then (m, .error "Macro must have at least one step")
  else if maxStepsPerMacro < m.steps.length then
    (m, .error ("Too many steps in macro (max " ++ toString maxStepsPerMacro ++ ")"))
  else ({ m with steps := (validateSteps 0 m.steps).1 }, (validateSteps 0 m.steps).2)

/-- The macro loop of `Config::validate` from index `i` on: every macro is
visited, and the errors are collected. -/
def validateMacros (i : Nat) : List KeyboardMacro → List KeyboardMacro × List String
  | [] => ([], [])
  | m :: rest =>
      let tail := validateMacros (i + 1) rest
      match m.validate with
      | (m', .error e) =>
          (m' :: tail.1, ("Invalid macro " ++ toString (i + 1) ++ ": " ++ e) :: tail.2)
      | (m', .ok _) => (m' :: tail.1, tail.2)

def errorIf (p : Prop) [Decidable p] (message : String) : List String :=
  if p then [message] else []

def Config.errors (c : Config) : List String :=
  errorIf (maxMacrosPerDevice < c.keyboardMacros.length)
      ("Too many macros (max " ++ toString maxMacrosPerDevice ++ ")") ++
    (validateMacros 0 c.keyboardMacros).2 ++
    errorIf (255 < c.displayMaxBrightness) "Display max brightness cannot exceed 255" ++
    errorIf (c.localAuthMode ≠ "" ∧ c.localAuthMode ∉ ["password", "noPassword"])
      "Invalid auth mode, must be 'password' or 'noPassword'"

/-- What `Config::validate` leaves behind: the macros with their delays clamped. -/
def Config.normalize (c : Config) : Config :=
  { c with keyboardMacros := (validateMacros 0 c.keyboardMacros).1 }

def Config.validate (c : Config) : Config × Except (List String) Unit :=
  if c.errors = [] then (c.normalize, .ok ()) else (c.normalize, .error c.errors)

def Config.Valid (c : Config) : Prop := c.errors = []

instance (c : Config) : Decidable c.Valid := inferInstanceAs (Decidable (c.errors = []))

theorem Config.validate_fst (c : Config) : c.validate.1 = c.normalize := by
  unfold Config.validate
  split <;> rfl

theorem Config.validate_ok_iff (c : Config) : c.validate.2 = .ok () ↔ c.Valid := by
  unfold Config.validate Config.Valid
  split <;> simp_all

@[simp] theorem errorIf_eq_nil {p : Prop} [Decidable p] {message : String} :
    errorIf p message = [] ↔ ¬ p := by
  simp [errorIf]

/-! ## A validated configuration stays valid -/

theorem clampDelay_of_mem {delay : Nat} (hmin : minStepDelay ≤ delay)
    (hmax : delay ≤ maxStepDelay) : clampDelay delay = delay := by
  rw [clampDelay, if_neg (by omega), if_neg (by omega)]

theorem clampDelay_mem (delay : Nat) :
    minStepDelay ≤ clampDelay delay ∧ clampDelay delay ≤ maxStepDelay := by
  unfold clampDelay minStepDelay maxStepDelay
  split
  · omega
  · split <;> omega

theorem clampDelay_clampDelay (delay : Nat) : clampDelay (clampDelay delay) = clampDelay delay :=
  clampDelay_of_mem (clampDelay_mem delay).1 (clampDelay_mem delay).2

theorem step_validate_again (s : KeyboardMacroStep) (h : s.validate.2 = .ok ()) :
    s.validate.1.validate = (s.validate.1, .ok ()) := by
  by_cases hkeys : maxKeysPerStep < s.keys.length
  · simp [KeyboardMacroStep.validate, hkeys] at h
  · simp [KeyboardMacroStep.validate, hkeys, clampDelay_clampDelay]

theorem validateSteps_again (steps : List KeyboardMacroStep) (i : Nat)
    (h : (validateSteps i steps).2 = .ok ()) :
    validateSteps i (validateSteps i steps).1 = ((validateSteps i steps).1, .ok ()) := by
  induction steps generalizing i with
  | nil => rfl
  | cons s rest ih =>
      rcases hs : s.validate with ⟨s', _ | _⟩
      · simp [validateSteps, hs] at h
      · have hagain := step_validate_again s (by rw [hs])
        simp only [validateSteps, hs] at h hagain ⊢
        simp [hagain, ih (i + 1) h]

theorem length_validateSteps (steps : List KeyboardMacroStep) (i : Nat) :
    (validateSteps i steps).1.length = steps.length := by
  induction steps generalizing i with
  | nil => rfl
  | cons s rest ih =>
      rcases hs : s.validate with ⟨s', _ | _⟩ <;> simp [validateSteps, hs, ih]

theorem macro_validate_again (m : KeyboardMacro) (h : m.validate.2 = .ok ()) :
    m.validate.1.validate = (m.validate.1, .ok ()) := by
  unfold KeyboardMacro.validate at h
  by_cases hname : Lib.Text.trim m.name.toList = []
  · simp [hname] at h
  by_cases hempty : m.steps = []
  · simp [hname, hempty] at h
  by_cases hlen : maxStepsPerMacro < m.steps.length
  · simp [hname, hempty, hlen] at h
  simp only [hname, hempty, hlen, if_false] at h
  have hempty' : (validateSteps 0 m.steps).1 ≠ [] := by
    intro hnil
    have := length_validateSteps m.steps 0
    rw [hnil] at this
    exact hempty (List.length_eq_zero_iff.mp this.symm)
  simp [KeyboardMacro.validate, hname, hempty, hlen, hempty', length_validateSteps,
    validateSteps_again m.steps 0 h]

theorem length_validateMacros (macros : List KeyboardMacro) (i : Nat) :
    (validateMacros i macros).1.length = macros.length := by
  induction macros generalizing i with
  | nil => rfl
  | cons m rest ih =>
      rcases hm : m.validate with ⟨m', _ | _⟩ <;> simp [validateMacros, hm, ih]

theorem validateMacros_again (macros : List KeyboardMacro) (i : Nat)
    (h : (validateMacros i macros).2 = []) :
    validateMacros i (validateMacros i macros).1 = ((validateMacros i macros).1, []) := by
  induction macros generalizing i with
  | nil => rfl
  | cons m rest ih =>
      rcases hm : m.validate with ⟨m', _ | _⟩
      · simp [validateMacros, hm] at h
      · have hagain := macro_validate_again m (by rw [hm])
        simp only [validateMacros, hm] at h hagain ⊢
        simp [hagain, ih (i + 1) h]

theorem Config.validate_again (c : Config) (h : c.Valid) :
    c.normalize.Valid ∧ c.normalize.normalize = c.normalize := by
  unfold Config.Valid Config.errors at h
  simp only [List.append_eq_nil_iff, errorIf_eq_nil] at h
  have hagain := validateMacros_again c.keyboardMacros 0 h.1.1.2
  constructor
  · unfold Config.Valid Config.errors Config.normalize
    simp only [List.append_eq_nil_iff, errorIf_eq_nil, length_validateMacros, hagain]
    exact ⟨⟨⟨h.1.1.1, trivial⟩, h.1.2⟩, h.2⟩
  · simp [Config.normalize, hagain]

theorem Config.valid_iff (c : Config) :
    c.Valid ↔ c.keyboardMacros.length ≤ maxMacrosPerDevice ∧
      (validateMacros 0 c.keyboardMacros).2 = [] ∧ c.displayMaxBrightness ≤ 255 ∧
      c.localAuthMode ∈ ["", "password", "noPassword"] := by
  unfold Config.Valid Config.errors
  simp only [List.append_eq_nil_iff, errorIf_eq_nil, Nat.not_lt, not_and, Decidable.not_not,
    List.mem_cons, ne_eq]
  grind

theorem validateMacros_nil_iff (i : Nat) (macros : List KeyboardMacro) :
    (validateMacros i macros).2 = [] ↔ ∀ m ∈ macros, m.validate.2 = .ok () := by
  induction macros generalizing i with
  | nil => simp [validateMacros]
  | cons m rest ih =>
      rcases hm : m.validate with ⟨m', _ | _⟩
      · simp [validateMacros, hm]
      · simp [validateMacros, hm, ih]

theorem Config.valid_default (deviceId : String) : (Config.default deviceId).Valid := by
  simp [Config.Valid, Config.errors, Config.default, validateMacros, maxMacrosPerDevice]

end ArkKvm
