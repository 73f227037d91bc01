import ArkKvm.Web.Middleware
import ArkKvm.Web.PasswordInvariant

/-!
# The life of an auth token

A run of the password handlers and of the clock, with a log of every request, the time
it was handled at and its answer.  An auth token is issued by a request that is answered
well; it should be accepted until the same role gets another one, logs out, the password
is disabled or changed, or seven days have passed.  The password handlers write the slot
of the user only, so a password change forgets the slot of the agent: `ChangeClosesAgent`
says that no such change meets a live agent token.
-/

namespace ArkKvm.Web

open ConfigManager Lib

def authTokenValiditySecs : Int := 7 * 24 * 3600

/-- A fresh pair of tokens with the expiry that `set_auth_token_for_role` computes. -/
def mint (now : Int) (token : Token) : Token := (token.1, token.2.1, now + authTokenValiditySecs)

namespace Request

def handledAt (now : Int) : Request → Request
  | .setup r => .setup { r with token := mint now r.token }
  | .login r => .login { r with token := mint now r.token }
  | .logout r => .logout r
  | .create r => .create { r with token := mint now r.token }
  | .modify r => .modify { r with token := mint now r.token }
  | .disable r => .disable r

def mints : Request → Option (SessionRole × String)
  | .setup r =>
      match r.body with
      | .ok body => if body.localAuthMode = "password" then some (.user, r.token.1) else none
      | .error _ => none
  | .login r =>
      match r.body with
      | .ok body =>
          match parseClientType body.clientType with
          | .ok role => some (role, r.token.1)
          | .error _ => none
      | .error _ => none
  | .create r => some (.user, r.token.1)
  | .modify r => some (.user, r.token.1)
  | .logout _ => none
  | .disable _ => none

def LogsOut (role : SessionRole) : Request → Prop
  | .logout r => r.role.getD .user = role
  | _ => False

def DisablesPassword : Request → Prop
  | .disable _ => True
  | _ => False

def ChangesPassword : Request → Prop
  | .create _ => True
  | .modify _ => True
  | _ => False

def Revokes (role : SessionRole) (req : Request) : Prop :=
  (∃ token, req.mints = some (role, token)) ∨ req.LogsOut role ∨ req.DisablesPassword ∨
    req.ChangesPassword

end Request

structure LogEntry where
  time : Int
  request : Request
  answer : Except StatusError Unit

/-- The device with its clock and the requests so far, newest first. -/
structure Ledger where
  manager : ConfigManager
  clock : Int
  log : List LogEntry := []

namespace Ledger

inductive Act
  | tick (seconds : Nat)
  | request (req : Request)

def step (b : Bcrypt) (s : Ledger) : Act → Option Ledger
  | .tick seconds => some { s with clock := s.clock + seconds }
  | .request req =>
      let result := handle b (req.handledAt s.clock) s.manager
      some { s with manager := result.1, log := ⟨s.clock, req, result.2⟩ :: s.log }

/-! ## What is asked of a token -/

def Issues (role : SessionRole) (token : String) (e : LogEntry) : Prop :=
  e.answer = .ok () ∧ e.request.mints = some (role, token)

def HandedOut (s : Ledger) (token : String) : Prop := ∃ e ∈ s.log, ∃ role, Issues role token e

/-- The token was issued to the role less than seven days ago, and nothing after it
replaced or revoked it. -/
def Current (s : Ledger) (role : SessionRole) (token : String) : Prop :=
  ∃ newer e older, s.log = newer ++ e :: older ∧ Issues role token e ∧
    s.clock < e.time + authTokenValiditySecs ∧
    ∀ e' ∈ newer, e'.answer = .ok () → ¬ e'.request.Revokes role

/-- In password mode the middleware accepts only current tokens. -/
def Lifecycle (s : Ledger) : Prop :=
  ¬ NoPassword s.manager.config → ∀ role token, s.HandedOut token →
    authMiddleware s.manager.config s.clock (Cookies.ofRole role token) = .ok (some role) →
    s.Current role token

/-- Each request brings a token that no request before it brought. -/
def FreshTokens (s : Ledger) : Act → Prop
  | .tick _ => True
  | .request req =>
      ∀ e ∈ s.log, ∀ new ∈ req.mints, ∀ old ∈ e.request.mints, old.2 ≠ new.2

instance (s : Ledger) (a : Act) : Decidable (FreshTokens s a) :=
  match a with
  | .tick _ => inferInstanceAs (Decidable True)
  | .request req => inferInstanceAs
      (Decidable (∀ e ∈ s.log, ∀ new ∈ req.mints, ∀ old ∈ e.request.mints, old.2 ≠ new.2))

def LiveAgent (s : Ledger) : Prop :=
  ∃ token exp, authTokenOf .agent s.manager.config = some token ∧
    expiresAtOf .agent s.manager.config = some exp ∧ s.clock < exp ∧
    ∃ e ∈ s.log, Issues .agent token e

end Ledger

def ChangeAccepted (b : Bcrypt) (m : ConfigManager) (r : ModifyCall) : Prop :=
  (∃ hashed, (modifyPrelude b r m).2 = .ok hashed) ∧ m.config.Valid ∧
    r.hashedSaved = true ∧ r.tokenSaved = true

namespace Ledger

/-- A password change that goes through finds no live agent token. -/
def ChangeClosesAgent (b : Bcrypt) (s : Ledger) : Act → Prop
  | .request (.modify r) => ChangeAccepted b s.manager r → ¬ s.LiveAgent
  | _ => True

end Ledger

end ArkKvm.Web
