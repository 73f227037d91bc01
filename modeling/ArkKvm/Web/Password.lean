import ArkKvm.Lib.Run
import ArkKvm.Usb.Devices

/-!
# Local password handlers

The HTTP handlers of `web.rs` that write the local authentication mode and the
password hash: device setup, login, logout, create, modify and disable.  Each
handler is an action on the configuration manager; every outcome of the outside
world (the origin check, the request body, each configuration save, the audio,
update and USB services) is an input of the request.  A save that fails leaves
the new value in memory, so the writes of a handler that stops half way are the
states this module is about.
-/

namespace ArkKvm.Web

open ConfigManager Lib

structure StatusError where
  status : Nat
  brief : String
deriving DecidableEq

def badRequest (brief : String) : StatusError := { status := 400, brief := brief }
def unauthorized (brief : String) : StatusError := { status := 401, brief := brief }
def internalServerError (brief : String) : StatusError := { status := 500, brief := brief }

/-- The password hashing of the `bcrypt` crate: `hash` takes a salt and may fail. -/
structure Bcrypt where
  hash : Nat → String → Option String
  verify : String → String → Bool

abbrev Handler (α : Type) := Action StatusError ConfigManager α

def saveOr (brief : String) (x : Action ConfigError ConfigManager Unit) : Handler Unit :=
  Action.mapErr (fun _ => internalServerError brief) x

def validatePassword (b : Bcrypt) (c : Config) (password : String) : Bool :=
  match c.hashedPassword with
  | some h => b.verify password h
  | none => false

def hashPassword (b : Bcrypt) (salt : Nat) (password brief : String) : Handler String :=
  Action.ofExcept <| match b.hash salt password with
    | some h => .ok h
    | none => .error (internalServerError brief)

abbrev Token := String × String × Int

structure SetupRequest where
  localAuthMode : String
  password : Option String
  autoUpdate : Option Bool
  microphoneEmulation : Option Bool
  cameraEmulation : Option Bool
  fileTransfer : Option Bool
  audioPlayback : Option Bool
deriving DecidableEq

structure LoginRequest where
  password : String
  clientType : Option String

structure SetPasswordRequest where
  password : String

structure ChangePasswordRequest where
  oldPassword : String
  newPassword : String

structure SetupCall where
  origin : Except StatusError Unit
  body : Except String SetupRequest
  audioSaved : Bool
  audioStarted : Bool
  uiSwitchSaved : Bool
  autoUpdateSaved : Bool
  updateChecked : Bool
  microphoneSaved : Bool
  usb : Usb.RebootOutcome
  microphoneStarted : Bool
  modeSaved : Bool
  salt : Nat
  hashedSaved : Bool
  token : Token
  tokenSaved : Bool

structure LoginCall where
  origin : Except StatusError Unit
  body : Except String LoginRequest
  token : Token
  tokenSaved : Bool

structure LogoutCall where
  origin : Except StatusError Unit
  role : Option SessionRole
  tokenSaved : Bool

structure CreateCall where
  origin : Except StatusError Unit
  body : Except String SetPasswordRequest
  salt : Nat
  hashedSaved : Bool
  token : Token
  tokenSaved : Bool
  modeSaved : Bool

structure ModifyCall where
  origin : Except StatusError Unit
  body : Except String ChangePasswordRequest
  salt : Nat
  hashedSaved : Bool
  token : Token
  tokenSaved : Bool

structure DisableCall where
  origin : Except StatusError Unit
  body : Except String LoginRequest
  hashedSaved : Bool
  tokensSaved : Bool
  modeSaved : Bool

/-! ## The handlers -/

def SetupAllowed (c : Config) : Prop := c.localAuthMode = "" ∧ c.hashedPassword = none

/-- The state checks of `create_password_local`. -/
def createGuard (c : Config) : Except StatusError Unit :=
  if c.hashedPassword.isSome then .error (badRequest "Password already set")
  else if c.localAuthMode ≠ "noPassword" then .error (badRequest "Password mode is not enabled")
  else .ok ()

/-- The state checks that modify and disable share. -/
def passwordGuard (c : Config) : Except StatusError Unit :=
  if c.hashedPassword.isNone then .error (badRequest "Password is not set")
  else if c.localAuthMode ≠ "password" then .error (badRequest "Password mode is not enabled")
  else .ok ()

instance (c : Config) : Decidable (SetupAllowed c) :=
  inferInstanceAs (Decidable (c.localAuthMode = "" ∧ c.hashedPassword = none))

def parseBody {α : Type} (body : Except String α) : Handler α :=
  Action.ofExcept (body.mapError fun e => badRequest ("Invalid JSON: " ++ e))

/-- The switches that setup writes before it touches the authentication. -/
def configureDevices (r : SetupCall) (body : SetupRequest) : Handler Unit := do
  let audio := body.audioPlayback.getD false
  let before ← Action.read
  saveOr "Failed to config audio playback" (update r.audioSaved (setEmulationAudioPlayback audio))
  Action.ensure (before.config.audioPlayback ≠ audio ∧ audio → r.audioStarted)
    (internalServerError "Failed to config audio playback")
  saveOr "Failed to config ui switch"
    (update r.uiSwitchSaved fun c => { c with uiSwitch := { hdmiAudio := audio } })
  saveOr "Failed to config auto update"
    (update r.autoUpdateSaved (setAutoUpdate (body.autoUpdate.getD false)))
  Action.ensure (body.autoUpdate.getD false → r.updateChecked)
    (internalServerError "Failed to config auto update")
  let mic := body.microphoneEmulation.getD false
  let m ← Action.read
  let devices := { m.config.usbDevices with
    camera := body.cameraEmulation.getD false
    massStorageFt := body.fileTransfer.getD false }
  saveOr "Failed to save microphone emulation"
    (update r.microphoneSaved (setMicrophoneEmulation mic))
  saveOr "Failed to config usb devices" (Usb.rebootUsbManager r.usb none (some devices))
  Action.ensure (mic → r.microphoneStarted) (internalServerError "Failed to start virtual mic")

/-- `handle_device_setup` up to the first write of the authentication mode. -/
def setupPrelude (r : SetupCall) : Handler SetupRequest := do
  Action.ofExcept r.origin
  let m ← Action.read
  Action.ensure (SetupAllowed m.config) (badRequest "Device is already set up")
  let body ← Action.ofExcept
    (r.body.mapError fun e => badRequest ("Invalid request body: " ++ e))
  Action.ensure (body.localAuthMode = "password" ∨ body.localAuthMode = "noPassword")
    (badRequest "Invalid localAuthMode")
  configureDevices r body
  pure body

def setupPassword (body : SetupRequest) : Except StatusError String :=
  match body.password with
  | none => .error (badRequest "Password is required for password mode")
  | some "" => .error (badRequest "Password is required for password mode")
  | some password => .ok password

def setupAuth (b : Bcrypt) (r : SetupCall) (body : SetupRequest) : Handler Unit := do
  saveOr "Failed to save config" (update r.modeSaved (setAuthMode body.localAuthMode))
  if body.localAuthMode = "password" then
    let password ← Action.ofExcept (setupPassword body)
    let hashed ← hashPassword b r.salt password "Failed to hash password"
    saveOr "Failed to save password" (update r.hashedSaved (setHashedPassword (some hashed)))
    saveOr "Failed to save config" (update r.tokenSaved (setAuthToken (some r.token)))
  else
    saveOr "Failed to save config" (update r.hashedSaved (setHashedPassword none))
    saveOr "Failed to save config" (update r.tokenSaved clearAllAuthTokens)

def handleDeviceSetup (b : Bcrypt) (r : SetupCall) : Handler Unit := do
  let body ← setupPrelude r
  setupAuth b r body

def SessionRole.parse (s : String) : Option SessionRole :=
  let t := (Text.trim s.toList).map Char.toLower
  if t = "user".toList then some .user
  else if t = "agent".toList then some .agent
  else none

def parseClientType (raw : Option String) : Except String SessionRole :=
  match raw with
  | none => .ok .user
  | some "" => .ok .user
  | some s =>
      match SessionRole.parse s with
      | some role => .ok role
      | none => .error ("Invalid clientType: " ++ s)

def authTokenOf (role : SessionRole) (c : Config) : Option String :=
  match role with
  | .user => c.localAuthToken
  | .agent => c.localAgentAuthToken

def handleLoginLocal (b : Bcrypt) (r : LoginCall) : Handler Unit := do
  Action.ofExcept r.origin
  let m ← Action.read
  Action.ensure (m.config.localAuthMode ≠ "noPassword")
    (badRequest "Login is disabled in noPassword mode")
  let body ← parseBody r.body
  let role ← Action.ofExcept ((parseClientType body.clientType).mapError badRequest)
  Action.ensure (validatePassword b m.config body.password = true) (unauthorized "Invalid password")
  saveOr "Failed to save configuration"
    (update r.tokenSaved (setAuthTokenForRole role (some r.token)))
  let updated ← Action.read
  Action.ensure (authTokenOf role updated.config = some r.token.1)
    (internalServerError "Failed to save configuration")

def handleLogout (r : LogoutCall) : Handler Unit := do
  Action.ofExcept r.origin
  saveOr "Failed to save configuration"
    (update r.tokenSaved (setAuthTokenForRole (r.role.getD .user) none))

/-- `create_password_local` up to its first write: the new hash. -/
def createPrelude (b : Bcrypt) (r : CreateCall) : Handler String := do
  Action.ofExcept r.origin
  let m ← Action.read
  Action.ofExcept (createGuard m.config)
  let body ← parseBody r.body
  Action.ensure (body.password ≠ "") (badRequest "Invalid request")
  hashPassword b r.salt body.password "Failed to hash password"

def createPasswordLocal (b : Bcrypt) (r : CreateCall) : Handler Unit := do
  let hashed ← createPrelude b r
  saveOr "Failed to save password" (update r.hashedSaved (setHashedPassword (some hashed)))
  saveOr "Failed to save configuration" (update r.tokenSaved (setAuthToken (some r.token)))
  saveOr "Failed to save configuration" (update r.modeSaved (setAuthMode "password"))

/-- `modify_password_local` up to its first write: the new hash. -/
def modifyPrelude (b : Bcrypt) (r : ModifyCall) : Handler String := do
  Action.ofExcept r.origin
  let m ← Action.read
  Action.ofExcept (passwordGuard m.config)
  let body ← parseBody r.body
  Action.ensure (body.oldPassword ≠ "" ∧ body.newPassword ≠ "") (badRequest "Invalid request")
  Action.ensure (validatePassword b m.config body.oldPassword = true)
    (badRequest "Incorrect old password")
  hashPassword b r.salt body.newPassword "Failed to hash new password"

def modifyPasswordLocal (b : Bcrypt) (r : ModifyCall) : Handler Unit := do
  let hashed ← modifyPrelude b r
  saveOr "Failed to save new password" (update r.hashedSaved (setHashedPassword (some hashed)))
  saveOr "Failed to save configuration" (update r.tokenSaved (setAuthToken (some r.token)))

/-- `disable_local_password` up to its first write. -/
def disablePrelude (b : Bcrypt) (r : DisableCall) : Handler Unit := do
  Action.ofExcept r.origin
  let m ← Action.read
  Action.ofExcept (passwordGuard m.config)
  let body ← parseBody r.body
  Action.ensure (body.password ≠ "") (badRequest "Invalid request")
  Action.ensure (validatePassword b m.config body.password = true) (badRequest "Incorrect password")

def disableLocalPassword (b : Bcrypt) (r : DisableCall) : Handler Unit := do
  disablePrelude b r
  saveOr "Failed to save configuration" (update r.hashedSaved (setHashedPassword none))
  saveOr "Failed to save configuration" (update r.tokensSaved clearAllAuthTokens)
  saveOr "Failed to save configuration" (update r.modeSaved (setAuthMode "noPassword"))

inductive Request
  | setup (r : SetupCall)
  | login (r : LoginCall)
  | logout (r : LogoutCall)
  | create (r : CreateCall)
  | modify (r : ModifyCall)
  | disable (r : DisableCall)

def handle (b : Bcrypt) : Request → Handler Unit
  | .setup r => handleDeviceSetup b r
  | .login r => handleLoginLocal b r
  | .logout r => handleLogout r
  | .create r => createPasswordLocal b r
  | .modify r => modifyPasswordLocal b r
  | .disable r => disableLocalPassword b r

/-- One request, whatever its answer: the state it leaves behind. -/
def step (b : Bcrypt) (m : ConfigManager) (req : Request) : Option ConfigManager :=
  some (handle b req m).1

end ArkKvm.Web
