import ArkKvm.Config.Types

/-!
# The configuration manager

`ConfigManager` holds the live configuration and the one last written to disk.
`update` follows `ConfigManager::update`: the updater runs on the live
configuration, `validate` runs on the result, and only then the file is
written.  Whether the write succeeds is an input of the call.  The setters are
the updaters the rest of the program uses.
-/

namespace ArkKvm

/-- The two kinds of client: a person at the browser and an agent. -/
inductive SessionRole
  | user
  | agent
deriving DecidableEq

/-- Why a configuration request failed: the new configuration is invalid, the
file could not be written, the USB sidecar refused, or the request itself was
rejected. -/
inductive ConfigError
  | validation (errors : List String)
  | save
  | sidecar
  | rejected (message : String)
deriving DecidableEq

structure ConfigManager where
  config : Config
  file : Config
deriving DecidableEq

namespace ConfigManager

/-- `ConfigManager::update`; `saved` is the outcome of the save. -/
def update (saved : Bool) (updater : Config → Config) (m : ConfigManager) :
    ConfigManager × Except ConfigError Unit :=
  match (updater m.config).validate with
  | (c, .error errors) => ({ m with config := c }, .error (.validation errors))
  | (c, .ok _) =>
      if saved then ({ config := c, file := c }, .ok ())
      else ({ m with config := c }, .error .save)

theorem update_config (saved : Bool) (updater : Config → Config) (m : ConfigManager) :
    (update saved updater m).1.config = (updater m.config).normalize := by
  have hfst := Config.validate_fst (updater m.config)
  unfold update
  rcases hv : (updater m.config).validate with ⟨c, _ | _⟩
  · rwa [hv] at hfst
  · rw [hv] at hfst
    cases saved <;> exact hfst

theorem update_ok_iff (saved : Bool) (updater : Config → Config) (m : ConfigManager) :
    (update saved updater m).2 = .ok () ↔ (updater m.config).Valid ∧ saved = true := by
  rw [← Config.validate_ok_iff]
  unfold update
  rcases hv : (updater m.config).validate with ⟨c, _ | _⟩
  · simp
  · cases saved <;> simp

theorem update_file (saved : Bool) (updater : Config → Config) (m : ConfigManager) :
    ((update saved updater m).2 = .ok () →
        (update saved updater m).1.file = (updater m.config).normalize) ∧
      ((update saved updater m).2 ≠ .ok () → (update saved updater m).1.file = m.file) := by
  have hfst := Config.validate_fst (updater m.config)
  unfold update
  rcases hv : (updater m.config).validate with ⟨c, _ | _⟩
  · exact ⟨nofun, fun _ => rfl⟩
  · rw [hv] at hfst
    cases saved with
    | true => exact ⟨fun _ => hfst, fun h => absurd rfl h⟩
    | false => exact ⟨nofun, fun _ => rfl⟩

/-! ## Setters -/

def setAuthMode (mode : String) (c : Config) : Config := { c with localAuthMode := mode }

def setHashedPassword (hashed : Option String) (c : Config) : Config :=
  { c with hashedPassword := hashed }

/-- The updater of `set_auth_token_for_role`.  A token comes with a fresh CSRF
token and an expiry; clearing the token clears all three. -/
def setAuthTokenForRole (role : SessionRole) (token : Option (String × String × Int))
    (c : Config) : Config :=
  match role with
  | .user =>
      { c with
        localAuthToken := token.map fun t => t.1
        localCsrfToken := token.map fun t => t.2.1
        localAuthTokenExpiresAt := token.map fun t => t.2.2 }
  | .agent =>
      { c with
        localAgentAuthToken := token.map fun t => t.1
        localAgentCsrfToken := token.map fun t => t.2.1
        localAgentAuthTokenExpiresAt := token.map fun t => t.2.2 }

def setAuthToken (token : Option (String × String × Int)) : Config → Config :=
  setAuthTokenForRole .user token

def clearAllAuthTokens (c : Config) : Config :=
  { c with
    localAuthToken := none
    localCsrfToken := none
    localAuthTokenExpiresAt := none
    localAgentAuthToken := none
    localAgentCsrfToken := none
    localAgentAuthTokenExpiresAt := none }

def setCloudConfig (cloudUrl cloudToken : Option String) (c : Config) : Config :=
  { c with cloudUrl := cloudUrl.getD c.cloudUrl, cloudToken := cloudToken }

def replaceOrPush {α : Type} (same : α → Bool) (x : α) : List α → List α
  | [] => [x]
  | y :: ys => if same y then x :: ys else y :: replaceOrPush same x ys

def putKeyboardMacro (item : KeyboardMacro) (c : Config) : Config :=
  { c with keyboardMacros := replaceOrPush (fun m => m.id = item.id) item c.keyboardMacros }

/-- `set_keyboard_macro`: the macro is validated on its own first. -/
def setKeyboardMacro (saved : Bool) (item : KeyboardMacro) (m : ConfigManager) :
    ConfigManager × Except ConfigError Unit :=
  match item.validate with
  | (_, .error e) => (m, .error (.rejected e))
  | (item', .ok _) => update saved (putKeyboardMacro item') m

def removeKeyboardMacro (macroId : String) (c : Config) : Config :=
  { c with keyboardMacros := c.keyboardMacros.filter fun m => m.id ≠ macroId }

def setWakeOnLanDevice (device : WakeOnLanDevice) (c : Config) : Config :=
  { c with
    wakeOnLanDevices := replaceOrPush (fun d => d.name = device.name) device c.wakeOnLanDevices }

def removeWakeOnLanDevice (name : String) (c : Config) : Config :=
  { c with wakeOnLanDevices := c.wakeOnLanDevices.filter fun d => d.name ≠ name }

def setDisplayConfig (rotation : Option String) (maxBrightness dimAfterSec offAfterSec : Option Nat)
    (c : Config) : Config :=
  { c with
    displayRotation := rotation.getD c.displayRotation
    displayMaxBrightness := maxBrightness.getD c.displayMaxBrightness
    displayDimAfterSec := dimAfterSec.getD c.displayDimAfterSec
    displayOffAfterSec := offAfterSec.getD c.displayOffAfterSec }

def setOobeSettings (microphoneEmulation cameraEmulation fileTransfer audioPlayback : Bool)
    (c : Config) : Config :=
  { c with
    usbDevices :=
      { c.usbDevices with
        microphone := microphoneEmulation
        camera := cameraEmulation
        massStorageFt := fileTransfer }
    microphoneEmulation := some microphoneEmulation
    audioPlayback := audioPlayback }

def setEmulationAudioPlayback (enabled : Bool) (c : Config) : Config :=
  { c with audioPlayback := enabled }

def setDevChannelState (enabled : Bool) (c : Config) : Config :=
  { c with devChannelEnabled := enabled }

structure UsbDevicesState where
  absoluteMouse : Bool
  relativeMouse : Bool
  keyboard : Bool
  massStorage : Bool
  microphone : Bool
  networkAdapter : NetworkAdapter

def setUsbDevicesState (state : UsbDevicesState) (c : Config) : Config :=
  { c with
    usbDevices :=
      { c.usbDevices with
        keyboard := state.keyboard
        relativeMouse := state.relativeMouse
        absoluteMouse := state.absoluteMouse
        massStorageVm := state.massStorage
        microphone := state.microphone
        networkAdapter := state.networkAdapter } }

def setMicrophoneEmulation (enabled : Bool) (c : Config) : Config :=
  { c with microphoneEmulation := some enabled }

def setAutoUpdate (enabled : Bool) (c : Config) : Config :=
  { c with autoUpdateEnabled := enabled }

def setUsbDevices (devices : UsbDevices) (c : Config) : Config := { c with usbDevices := devices }

def setMcpEnabled (enabled : Bool) (c : Config) : Config := { c with mcpEnabled := enabled }

def setSshForwardingEnabled (enabled : Bool) (c : Config) : Config :=
  { c with sshForwardingEnabled := enabled }

def setFtMountTarget (target : FileTransferTarget) (c : Config) : Config :=
  { c with fileTransferTarget := target }

def setUsbConfig (usbConfig : UsbConfig) (c : Config) : Config := { c with usbConfig := usbConfig }

def setJigglerConfig (jigglerConfig : JigglerConfig) (c : Config) : Config :=
  { c with jigglerConfig := jigglerConfig }

def setJigglerEnable (enabled : Bool) (c : Config) : Config := { c with jigglerEnabled := enabled }

def setVideoQuality (quality : Nat) (c : Config) : Config := { c with videoQuality := quality }

def setAudioQuality (quality : Nat) (c : Config) : Config := { c with audioQuality := quality }

/-! ## What a setter can be refused for -/

/-- What the setters set, with the new values. -/
inductive Setting
  | authMode (mode : String)
  | hashedPassword (hashed : Option String)
  | authTokenForRole (role : SessionRole) (token : Option (String × String × Int))
  | noAuthTokens
  | cloudConfig (cloudUrl cloudToken : Option String)
  | keyboardMacro (item : KeyboardMacro)
  | noKeyboardMacro (macroId : String)
  | wakeOnLanDevice (device : WakeOnLanDevice)
  | noWakeOnLanDevice (name : String)
  | displayConfig (rotation : Option String) (maxBrightness dimAfterSec offAfterSec : Option Nat)
  | oobeSettings (microphoneEmulation cameraEmulation fileTransfer audioPlayback : Bool)
  | emulationAudioPlayback (enabled : Bool)
  | devChannelState (enabled : Bool)
  | usbDevicesState (state : UsbDevicesState)
  | microphoneEmulation (enabled : Bool)
  | autoUpdate (enabled : Bool)
  | usbDevices (devices : UsbDevices)
  | mcpEnabled (enabled : Bool)
  | sshForwardingEnabled (enabled : Bool)
  | ftMountTarget (target : FileTransferTarget)
  | usbConfig (usbConfig : UsbConfig)
  | jigglerConfig (jigglerConfig : JigglerConfig)
  | jigglerEnable (enabled : Bool)
  | videoQuality (quality : Nat)
  | audioQuality (quality : Nat)

def Setting.updater : Setting → Config → Config
  | .authMode mode => setAuthMode mode
  | .hashedPassword hashed => setHashedPassword hashed
  | .authTokenForRole role token => setAuthTokenForRole role token
  | .noAuthTokens => clearAllAuthTokens
  | .cloudConfig cloudUrl cloudToken => setCloudConfig cloudUrl cloudToken
  | .keyboardMacro item => putKeyboardMacro item
  | .noKeyboardMacro macroId => removeKeyboardMacro macroId
  | .wakeOnLanDevice device => setWakeOnLanDevice device
  | .noWakeOnLanDevice name => removeWakeOnLanDevice name
  | .displayConfig rotation maxBrightness dimAfterSec offAfterSec =>
      setDisplayConfig rotation maxBrightness dimAfterSec offAfterSec
  | .oobeSettings microphone camera fileTransfer audio =>
      setOobeSettings microphone camera fileTransfer audio
  | .emulationAudioPlayback enabled => setEmulationAudioPlayback enabled
  | .devChannelState enabled => setDevChannelState enabled
  | .usbDevicesState value => setUsbDevicesState value
  | .microphoneEmulation enabled => setMicrophoneEmulation enabled
  | .autoUpdate enabled => setAutoUpdate enabled
  | .usbDevices value => setUsbDevices value
  | .mcpEnabled enabled => setMcpEnabled enabled
  | .sshForwardingEnabled enabled => setSshForwardingEnabled enabled
  | .ftMountTarget target => setFtMountTarget target
  | .usbConfig value => setUsbConfig value
  | .jigglerConfig value => setJigglerConfig value
  | .jigglerEnable enabled => setJigglerEnable enabled
  | .videoQuality quality => setVideoQuality quality
  | .audioQuality quality => setAudioQuality quality

/-- The check that a new value has to pass. -/
def Setting.Admitted (c : Config) : Setting → Prop
  | .authMode mode => mode ∈ ["", "password", "noPassword"]
  | .keyboardMacro item => item.validate.2 = .ok () ∧
      (c.keyboardMacros.length < maxMacrosPerDevice ∨ ∃ m ∈ c.keyboardMacros, m.id = item.id)
  | .displayConfig _ maxBrightness _ _ => ∀ b, maxBrightness = some b → b ≤ 255
  | _ => True

theorem length_replaceOrPush {α : Type} (same : α → Bool) (x : α) (xs : List α) :
    (replaceOrPush same x xs).length = if xs.any same then xs.length else xs.length + 1 := by
  induction xs with
  | nil => rfl
  | cons y ys ih =>
      by_cases hy : same y = true
      · simp [replaceOrPush, hy]
      · simp only [replaceOrPush, hy, Bool.false_eq_true, if_false, List.length_cons, ih,
          List.any_cons, Bool.false_or]
        split <;> rfl

theorem forall_mem_replaceOrPush {α : Type} {p : α → Prop} {same : α → Bool} {x : α}
    {xs : List α} (h : ∀ y ∈ xs, p y) : (∀ y ∈ replaceOrPush same x xs, p y) ↔ p x := by
  induction xs with
  | nil => simp [replaceOrPush]
  | cons y ys ih =>
      obtain ⟨hy, hys⟩ := List.forall_mem_cons.mp h
      by_cases hsame : same y = true
      · simp only [replaceOrPush, hsame, if_true, List.forall_mem_cons]
        exact and_iff_left hys
      · simp only [replaceOrPush, hsame, Bool.false_eq_true, if_false, List.forall_mem_cons, ih hys]
        exact and_iff_right hy

theorem valid_updater_iff (s : Setting) {c : Config} (h : c.Valid) :
    (s.updater c).Valid ↔ s.Admitted c := by
  rw [Config.valid_iff, validateMacros_nil_iff] at h ⊢
  obtain ⟨hcount, hmacros, hbrightness, hmode⟩ := h
  cases s with
  | authMode mode =>
      exact ⟨fun hv => hv.2.2.2, fun hadmitted => ⟨hcount, hmacros, hbrightness, hadmitted⟩⟩
  | keyboardMacro item =>
      show (replaceOrPush _ item c.keyboardMacros).length ≤ _ ∧ (∀ m ∈ replaceOrPush _ item
        c.keyboardMacros, m.validate.2 = .ok ()) ∧ _ ∧ _ ↔ _
      rw [forall_mem_replaceOrPush hmacros, length_replaceOrPush]
      have hroom : (if c.keyboardMacros.any fun m => m.id = item.id then c.keyboardMacros.length
          else c.keyboardMacros.length + 1) ≤ maxMacrosPerDevice ↔
          c.keyboardMacros.length < maxMacrosPerDevice ∨
            ∃ m ∈ c.keyboardMacros, m.id = item.id := by
        by_cases hknown : c.keyboardMacros.any fun m => m.id = item.id
        · rw [if_pos hknown]
          exact ⟨fun _ => .inr (by simpa using hknown), fun _ => hcount⟩
        · rw [if_neg hknown]
          exact ⟨.inl, fun hor => hor.resolve_right (by simpa using hknown)⟩
      rw [hroom]
      exact ⟨fun hv => ⟨hv.2.1, hv.1⟩, fun hadmitted =>
        ⟨hadmitted.2, hadmitted.1, hbrightness, hmode⟩⟩
  | noKeyboardMacro macroId =>
      refine ⟨fun _ => trivial, fun _ => ⟨?_, ?_, hbrightness, hmode⟩⟩
      · exact (List.length_filter_le _ _).trans hcount
      · exact fun m hm => hmacros m (List.mem_of_mem_filter hm)
  | displayConfig rotation maxBrightness dimAfterSec offAfterSec =>
      cases maxBrightness with
      | none => exact ⟨fun _ => nofun, fun _ => ⟨hcount, hmacros, hbrightness, hmode⟩⟩
      | some b =>
          exact ⟨fun hv b' hb => by cases hb; exact hv.2.2.1,
            fun hadmitted => ⟨hcount, hmacros, hadmitted b rfl, hmode⟩⟩
  | authTokenForRole role token =>
      cases role with
      | user => exact ⟨fun _ => trivial, fun _ => ⟨hcount, hmacros, hbrightness, hmode⟩⟩
      | agent => exact ⟨fun _ => trivial, fun _ => ⟨hcount, hmacros, hbrightness, hmode⟩⟩
  | _ => exact ⟨fun _ => trivial, fun _ => ⟨hcount, hmacros, hbrightness, hmode⟩⟩

/-- On a valid configuration a setter is refused only for the value it sets or because the save
fails, and the file holds the new value exactly when it is not refused. -/
theorem setter_refused_for_its_value (s : Setting) (saved : Bool) {m : ConfigManager}
    (h : m.config.Valid) :
    ((update saved s.updater m).2 = .ok () ↔ s.Admitted m.config ∧ saved = true) ∧
      ((update saved s.updater m).2 = .ok () →
        (update saved s.updater m).1.file = (s.updater m.config).normalize) ∧
      ((update saved s.updater m).2 ≠ .ok () → (update saved s.updater m).1.file = m.file) :=
  ⟨by rw [update_ok_iff, valid_updater_iff s h], update_file saved s.updater m⟩

/-! ## Atomicity of updates -/

/-- What atomicity asks of one update from `m`: if it fails, the live
configuration is the old one, and every later update that would have been
accepted before is still accepted. -/
def Atomic (saved : Bool) (updater : Config → Config) (m : ConfigManager) : Prop :=
  (update saved updater m).2 ≠ .ok () →
    (update saved updater m).1.config = m.config ∧
      ∀ g : Config → Config, (g m.config).Valid →
        (update true g (update saved updater m).1).2 = .ok ()

/-- An update is atomic exactly when it succeeds or when the updater and the
clamping of `validate` together change nothing: a rejected or unsaved change
stays in memory. -/
theorem update_atomic_iff (saved : Bool) (updater : Config → Config) (m : ConfigManager) :
    Atomic saved updater m ↔
      ((updater m.config).Valid ∧ saved = true) ∨ (updater m.config).normalize = m.config := by
  unfold Atomic
  rw [Ne, update_ok_iff, update_config]
  constructor
  · intro h
    by_cases hok : (updater m.config).Valid ∧ saved = true
    · exact .inl hok
    · exact .inr (h hok).1
  · rintro (hok | hsame) hfail
    · exact absurd hok hfail
    · refine ⟨hsame, ?_⟩
      intro g hg
      rw [update_ok_iff, update_config, hsame]
      exact ⟨hg, rfl⟩

/-- A macro with one short step. -/
def oneStepMacro (id : String) : KeyboardMacro :=
  { id := id
    name := "Test Macro"
    steps := [{ keys := ["a"], modifiers := [], delay := 100 }]
    sortOrder := none }

/-- A manager whose configuration already holds the 25 macros that are allowed. -/
def fullOfMacros : ConfigManager :=
  let c := { Config.default "dev" with
    keyboardMacros := (List.range maxMacrosPerDevice).map fun i => oneStepMacro (toString i) }
  { config := c, file := c }

/-- Adding a 26th macro is refused, but the macro stays in memory, and from then
on an unrelated switch that the old configuration admits is refused as well. -/
theorem setKeyboardMacro_poisons :
    fullOfMacros.config.Valid ∧
      (setKeyboardMacro true (oneStepMacro "26") fullOfMacros).2 ≠ .ok () ∧
      (setKeyboardMacro true (oneStepMacro "26") fullOfMacros).1.config ≠ fullOfMacros.config ∧
      (setMcpEnabled true fullOfMacros.config).Valid ∧
      (update true (setMcpEnabled true)
        (setKeyboardMacro true (oneStepMacro "26") fullOfMacros).1).2 ≠ .ok () ∧
      ¬ Atomic true (putKeyboardMacro (oneStepMacro "26")) fullOfMacros := by
  refine ⟨by decide +kernel, by decide +kernel, by decide +kernel, by decide +kernel,
    by decide +kernel, ?_⟩
  intro h
  exact absurd (h (by decide +kernel)).1 (by decide +kernel)

end ConfigManager

end ArkKvm
