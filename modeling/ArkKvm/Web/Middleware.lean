import ArkKvm.Web.Password

/-!
# Middleware of the protected routes

`auth_middleware`, `csrf_middleware` and `role_acl_middleware` of `middleware.rs`, with
the two token checks of the configuration manager they rest on.  A protected route
runs the three in this order and its handler only when all of them let it pass.  The
role that `auth_middleware` puts into the depot is the result here; it is `none` when
no password is in force.
-/

namespace ArkKvm.Web

open Lib

def forbidden (brief : String) : StatusError := { status := 403, brief := brief }

def NoPassword (c : Config) : Prop := c.localAuthMode = "" ∨ c.localAuthMode = "noPassword"

instance (c : Config) : Decidable (NoPassword c) :=
  inferInstanceAs (Decidable (c.localAuthMode = "" ∨ c.localAuthMode = "noPassword"))

def expiresAtOf (role : SessionRole) (c : Config) : Option Int :=
  match role with
  | .user => c.localAuthTokenExpiresAt
  | .agent => c.localAgentAuthTokenExpiresAt

def csrfTokenOf (role : SessionRole) (c : Config) : Option String :=
  match role with
  | .user => c.localCsrfToken
  | .agent => c.localAgentCsrfToken

def tokenAccepted (stored : Option String) (expiresAt : Option Int) (now : Int)
    (token : String) : Bool :=
  (expiresAt.any fun exp => now < exp) && stored.any fun t => token ≠ "" && t = token

def validateAuthTokenForRole (c : Config) (now : Int) (role : SessionRole)
    (token : String) : Bool :=
  if NoPassword c then true
  else tokenAccepted (authTokenOf role c) (expiresAtOf role c) now token

def validateCsrfTokenForRole (c : Config) (now : Int) (role : SessionRole)
    (token : String) : Bool :=
  if NoPassword c then true
  else tokenAccepted (csrfTokenOf role c) (expiresAtOf role c) now token

structure Cookies where
  user : Option String := none
  agent : Option String := none
deriving DecidableEq

def Cookies.ofRole (role : SessionRole) (token : String) : Cookies :=
  match role with
  | .user => { user := some token }
  | .agent => { agent := some token }

def authMiddleware (c : Config) (now : Int) (cookies : Cookies) :
    Except StatusError (Option SessionRole) :=
  if NoPassword c then .ok none
  else if cookies.user.isSome ∧ cookies.agent.isSome then
    .error (badRequest "Ambiguous auth cookies")
  else if cookies.user.any (validateAuthTokenForRole c now .user) then .ok (some .user)
  else if cookies.agent.any (validateAuthTokenForRole c now .agent) then .ok (some .agent)
  else .error (unauthorized "Unauthorized")

/-- `token` is the trimmed header `X-CSRF-Token`, or the query parameter `csrf-token`
of a WebSocket request; it is empty when there is none. -/
def csrfMiddleware (c : Config) (now : Int) (role : Option SessionRole) (token : String) :
    Except StatusError Unit :=
  if NoPassword c ∨ validateCsrfTokenForRole c now (role.getD .user) token = true then .ok ()
  else .error (unauthorized "Invalid or missing CSRF token")

def roleAclMiddleware (role : Option SessionRole) (method path : String) :
    Except StatusError Unit :=
  if role ≠ some .agent then .ok ()
  else if "/cloud/".toList.isPrefixOf path.toList then .error (forbidden "Forbidden for agent")
  else if "/auth/".toList.isPrefixOf path.toList ∧ ¬ (method = "POST" ∧ path = "/auth/logout") then
    .error (forbidden "Forbidden for agent")
  else .ok ()

/-- What the middleware reads: the configuration and the clock of that moment, and the
credentials of the request. -/
structure Visit where
  config : Config
  now : Int
  cookies : Cookies
  csrfToken : String

def protectedRoute (v : Visit) (method path : String) :
    Except StatusError (Option SessionRole) := do
  let role ← authMiddleware v.config v.now v.cookies
  csrfMiddleware v.config v.now role v.csrfToken
  roleAclMiddleware role method path
  return role

/-! ## What the middleware accepts -/

theorem tokenAccepted_iff {stored : Option String} {expiresAt : Option Int} {now : Int}
    {token : String} :
    tokenAccepted stored expiresAt now token = true ↔
      (∃ exp, expiresAt = some exp ∧ now < exp) ∧ token ≠ "" ∧ stored = some token := by
  unfold tokenAccepted
  rw [Bool.and_eq_true, Option.any_eq_true, Option.any_eq_true]
  constructor
  · rintro ⟨⟨exp, hexp, hnow⟩, t, ht, hmatch⟩
    simp only [Bool.and_eq_true, decide_eq_true_eq] at hnow hmatch
    exact ⟨⟨exp, hexp, hnow⟩, hmatch.1, hmatch.2 ▸ ht⟩
  · rintro ⟨⟨exp, hexp, hnow⟩, hne, ht⟩
    exact ⟨⟨exp, hexp, by simpa using hnow⟩, token, ht, by simp [hne]⟩

theorem validateAuthTokenForRole_iff {c : Config} (hmode : ¬ NoPassword c) {now : Int}
    {role : SessionRole} {token : String} :
    validateAuthTokenForRole c now role token = true ↔
      (∃ exp, expiresAtOf role c = some exp ∧ now < exp) ∧ token ≠ "" ∧
        authTokenOf role c = some token := by
  rw [validateAuthTokenForRole, if_neg hmode, tokenAccepted_iff]

theorem authMiddleware_ofRole {c : Config} (hmode : ¬ NoPassword c) {now : Int}
    {role : SessionRole} {token : String} :
    authMiddleware c now (Cookies.ofRole role token) = .ok (some role) ↔
      validateAuthTokenForRole c now role token = true := by
  unfold authMiddleware
  rw [if_neg hmode]
  by_cases h : validateAuthTokenForRole c now role token = true
  · cases role <;> simp [Cookies.ofRole, h]
  · cases role <;> simp [Cookies.ofRole, h]

theorem authMiddleware_ok {c : Config} (hmode : ¬ NoPassword c) {now : Int} {cookies : Cookies}
    {auth : Option SessionRole} (h : authMiddleware c now cookies = .ok auth) :
    ∃ role, auth = some role := by
  unfold authMiddleware at h
  rw [if_neg hmode] at h
  split at h
  · cases h
  split at h
  · cases h
    exact ⟨.user, rfl⟩
  split at h
  · cases h
    exact ⟨.agent, rfl⟩
  · cases h

theorem protectedRoute_ok {v : Visit} {method path : String} {auth : Option SessionRole}
    (h : protectedRoute v method path = .ok auth) :
    authMiddleware v.config v.now v.cookies = .ok auth := by
  unfold protectedRoute at h
  cases hauth : authMiddleware v.config v.now v.cookies with
  | error e =>
      rw [hauth] at h
      cases h
  | ok role =>
      rw [hauth] at h
      change (csrfMiddleware v.config v.now role v.csrfToken >>= fun _ =>
        roleAclMiddleware role method path >>= fun _ => Except.ok role) = Except.ok auth at h
      cases hcsrf : csrfMiddleware v.config v.now role v.csrfToken with
      | error e =>
          rw [hcsrf] at h
          cases h
      | ok =>
          rw [hcsrf] at h
          change (roleAclMiddleware role method path >>= fun _ => Except.ok role) =
            Except.ok auth at h
          cases hacl : roleAclMiddleware role method path with
          | error e =>
              rw [hacl] at h
              cases h
          | ok =>
              rw [hacl] at h
              cases h
              rfl

end ArkKvm.Web
