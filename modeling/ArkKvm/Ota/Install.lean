import ArkKvm.Config.Persistence
import ArkKvm.Lib.Disk
import ArkKvm.Lib.StartFlag

/-!
# Over-the-air updates

`check_update` and `try_update_by_user` start `ready_update`, whose task gets a verified
package and waits for its time; then `try_install` runs `rk_ota` on the package.  All of them
meet in flags that are read and then written.  The hash and the signature check are
parameters.
-/

namespace ArkKvm.Ota

open Lib

structure OtaInfo where
  systemUrl : Option String
  systemHashSignature : Option String

/-- SHA-256 of a file in hexadecimal, and `verify_package`. -/
structure Verifier where
  sha256Hex : Bytes → String
  verifyPackage : String → String → Bool

def otaWaitTime : Nat := 20 * 60

/-- `seconds_since_last_user_input`; without any input the largest `u64`. -/
def secondsSinceLastUserInput (idle : Option Nat) : Nat := idle.getD (2 ^ 64 - 1)

inductive ReadyPhase
  | readInfo
  /-- `need_download` looks for an older package -/
  | probe (signature : String)
  | hashOld (signature : String)
  | discardOld (signature : String)
  | openFile (signature : String)
  | download (signature : String) (position : Nat)
  | hashNew (signature : String)
  | discardNew
  | failed
  /-- the head of the wait loop -/
  | top
  /-- the switch was on: `has_any_session` is next -/
  | polled
  /-- there is a session: the time of the last input is next -/
  | session
  /-- `try_install` is spawned; `byUser` says which condition was met -/
  | trigger (byUser : Bool)
  /-- `AUTO_UPDATE_WAITTING` is reset -/
  | finish
deriving DecidableEq

structure ReadyTask where
  byUser : Bool
  phase : ReadyPhase
deriving DecidableEq

inductive InstallPhase
  | createDir (byUser : Bool)
  | run (byUser : Bool)
  /-- `rk_ota` runs; the package as it was when it started -/
  | running (package : Option Bytes)
  /-- `OTA_UPDATEING` is reset -/
  | ending
deriving DecidableEq

inductive UserPhase
  | load
  /-- `UPDATE_BY_USER` is set; `ready` says that `ready_update(true)` follows -/
  | store (ready : Bool)
deriving DecidableEq

structure InstallStart where
  requested : Bool
  switch : Bool
  session : Bool
  idle : Option Nat

structure State where
  /-- `AUTO_UPDATE_SWITCH` -/
  switch : Bool := false
  /-- `UPDATE_BY_USER` -/
  updateByUser : Bool := false
  /-- the user has asked for an update since the last install attempt ended -/
  requested : Bool := false
  session : Bool := false
  /-- the seconds since the last user input -/
  idle : Option Nat := none
  otaInfo : Option OtaInfo := none
  /-- the signatures that the cloud has sent -/
  signatures : List String := []
  /-- the file at `OTA_PACKAGE_PATH` -/
  package : Option Bytes := none
  downloadFailedTimes : Nat := 0
  /-- `ready_update` behind `AUTO_UPDATE_WAITTING` -/
  ready : StartFlag Bool ReadyTask := .clear
  /-- `try_install` behind `OTA_UPDATEING` -/
  install : StartFlag Bool InstallPhase := .clear
  users : List UserPhase := []
  /-- the installs so far -/
  starts : List InstallStart := []

/-- The outcome of a step: whether its file or network operation succeeds, and the chunk that
arrives, if one does. -/
structure Outcome where
  ok : Bool := true
  chunk : Option Bytes := none

inductive Event
  | setSwitch (enabled : Bool)
  /-- a `check_update` stores what the cloud answered; `auto` says that it was not asked for by
  the user and that auto-update is enabled -/
  | checkUpdate (auto : Bool) (info : OtaInfo)
  | tick (seconds : Nat)
  | userInput
  | openSession
  | closeSession
  | tryUpdateByUser
  | user (i : Nat)
  | startReady (i : Nat)
  | ready (i : Nat) (o : Outcome)
  | startInstall (i : Nat)
  | install (i : Nat) (ok : Bool)

variable (v : Verifier)

def Signed (signature : String) (content : Bytes) : Prop :=
  v.verifyPackage signature (v.sha256Hex content) = true

instance (signature : String) (content : Bytes) : Decidable (Signed v signature content) :=
  inferInstanceAs (Decidable (_ = true))

def passes (s : State) (signature : String) (o : Outcome) : Bool :=
  o.ok && s.package.any fun content => decide (Signed v signature content)

def State.readyUpdate (s : State) (byUser : Bool) : State :=
  { s with ready := s.ready.call byUser }

/-- The retries after a failed download that the user did not ask for; after the last one the
scheduler is started instead. -/
def retryDownload (s : State) (byUser : Bool) : State :=
  if byUser || s.updateByUser then s
  else if s.downloadFailedTimes < 3 then
    { s.readyUpdate false with downloadFailedTimes := s.downloadFailedTimes + 1 }
  else { s with downloadFailedTimes := 0 }

def readyNext (s : State) (o : Outcome) (byUser : Bool) : ReadyPhase → State × ReadyPhase
  | .readInfo =>
      (s, match s.otaInfo with
        | some ⟨some _, some signature⟩ => .probe signature
        | _ => .finish)
  | .probe signature =>
      (s, if o.ok && s.package.isSome then .hashOld signature else .openFile signature)
  | .hashOld signature => (s, if passes v s signature o then .top else .discardOld signature)
  | .discardOld signature =>
      (if o.ok then { s with package := none } else s, .openFile signature)
  | .openFile signature =>
      if o.ok then ({ s with package := some [] }, .download signature 0) else (s, .failed)
  | .download signature position =>
      if o.ok then
        match o.chunk with
        | some bytes =>
            -- through the open file, which is the one at the path as long as no other task runs
            ({ s with package := s.package.map fun content => writeAt content position bytes },
              .download signature (position + bytes.length))
        | none => (s, .hashNew signature)
      else (s, .failed)
  | .hashNew signature =>
      (s, if passes v s signature o then .top
        else if o.ok && s.package.isSome then .discardNew else .failed)
  | .discardNew => (if o.ok then { s with package := none } else s, .finish)
  | .failed => (retryDownload s byUser, .finish)
  | .top =>
      (s, if byUser || s.updateByUser then .trigger true
        else if s.switch then .polled else .finish)
  | .polled => (s, if s.session then .session else .trigger false)
  | .session =>
      (s, if secondsSinceLastUserInput s.idle < otaWaitTime then .top else .trigger false)
  | .trigger decided => ({ s with install := s.install.call decided }, .finish)
  | .finish => (s, .finish)

def installNext (s : State) (ok : Bool) : InstallPhase → State × InstallPhase
  | .createDir byUser => (s, if ok then .run byUser else .ending)
  | .run _ =>
      ({ s with starts := ⟨s.requested, s.switch, s.session, s.idle⟩ :: s.starts },
        .running s.package)
  | .running _ => (s, .ending)
  | .ending => (s, .ending)

def userNext (s : State) : UserPhase → State × Option UserPhase
  | .load => (s, some (.store !s.ready.flag))
  | .store ready =>
      let s := { s with
        updateByUser := true
        requested := true }
      (if ready then s.readyUpdate true else s, none)

def step (s : State) : Event → Option State
  | .setSwitch enabled => some { s with switch := enabled }
  | .checkUpdate auto info =>
      let s := { s with
        otaInfo := some info
        signatures := info.systemHashSignature.toList ++ s.signatures }
      some (if auto && info.systemUrl.isSome then s.readyUpdate false else s)
  | .tick seconds => some { s with idle := s.idle.map (· + seconds) }
  | .userInput => some { s with idle := some 0 }
  | .openSession => some { s with session := true }
  | .closeSession => some { s with session := false }
  | .tryUpdateByUser => some { s with users := .load :: s.users }
  | .user i =>
      (Pool.pick i s.users).map fun x =>
        let next := userNext { s with users := x.2 } x.1
        { next.1 with users := next.2.toList ++ next.1.users }
  | .startReady i =>
      (s.ready.start (fun byUser => ⟨byUser, .readInfo⟩) i).map fun ready => { s with ready := ready }
  | .ready i o =>
      (Pool.pick i s.ready.tasks).map fun x =>
        if x.1.phase = .finish then
          { s with ready := { s.ready with
              flag := false
              tasks := x.2 } }
        else
          let next := readyNext v s o x.1.byUser x.1.phase
          { next.1 with ready := { next.1.ready with tasks := ⟨x.1.byUser, next.2⟩ :: x.2 } }
  | .startInstall i =>
      (s.install.start .createDir i).map fun install => { s with install := install }
  | .install i ok =>
      (Pool.pick i s.install.tasks).map fun x =>
        if x.1 = .ending then
          { s with
            requested := false
            install := { s.install with
              flag := false
              tasks := x.2 } }
        else
          let next := installNext s ok x.1
          { next.1 with install := { next.1.install with tasks := next.2 :: x.2 } }

end ArkKvm.Ota
