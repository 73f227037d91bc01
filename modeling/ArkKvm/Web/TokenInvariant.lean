import ArkKvm.Lib.Run
import ArkKvm.Web.TokenLifecycle

/-!
# Accepted tokens are current

What each handler does to the slot of a role is one of three things: it clears the slot,
it puts the token of the request there, or it leaves the slot as it was and then, if it
is answered well, revokes nothing of that role; the one exception is a password change
and the slot of the agent.  The invariant traces every slot back to the log entry that
filled it.
-/

namespace ArkKvm.Web

open ConfigManager Lib

/-! ## The credentials in the configuration -/

abbrev Slot := Option String × Option Int

structure Creds where
  mode : String
  hash : Option String
  user : Slot
  agent : Slot
deriving DecidableEq

namespace Creds

def slot (x : Creds) : SessionRole → Slot
  | .user => x.user
  | .agent => x.agent

def put (role : SessionRole) (v : Slot) (x : Creds) : Creds :=
  match role with
  | .user => { x with user := v }
  | .agent => { x with agent := v }

@[simp] theorem slot_put_self (role : SessionRole) (v : Slot) (x : Creds) :
    (x.put role v).slot role = v := by
  cases role <;> rfl

theorem slot_put_of_ne {role role' : SessionRole} (hne : role' ≠ role) (v : Slot) (x : Creds) :
    (x.put role v).slot role' = x.slot role' := by
  cases role <;> cases role' <;> first | rfl | exact absurd rfl hne

@[simp] theorem mode_put (role : SessionRole) (v : Slot) (x : Creds) :
    (x.put role v).mode = x.mode := by
  cases role <;> rfl

@[simp] theorem hash_put (role : SessionRole) (v : Slot) (x : Creds) :
    (x.put role v).hash = x.hash := by
  cases role <;> rfl

end Creds

def creds (c : Config) : Creds where
  mode := c.localAuthMode
  hash := c.hashedPassword
  user := (c.localAuthToken, c.localAuthTokenExpiresAt)
  agent := (c.localAgentAuthToken, c.localAgentAuthTokenExpiresAt)

theorem slot_creds (c : Config) (role : SessionRole) :
    (creds c).slot role = (authTokenOf role c, expiresAtOf role c) := by
  cases role <;> rfl

theorem creds_setAuthTokenForRole (role : SessionRole) (token : Option Token) (c : Config) :
    creds (setAuthTokenForRole role token c) =
      (creds c).put role (token.map fun t => t.1, token.map fun t => t.2.2) := by
  cases role <;> rfl

/-- A write of a handler leaves the new credentials in memory whatever becomes of it. -/
theorem wp_write {m : ConfigManager} {brief : String} {saved : Bool} {f : Config → Config}
    {Q : Except StatusError Unit → ConfigManager → Prop}
    (h : ∀ res m', creds m'.config = creds (f m.config) → Q res m') :
    Action.wp (saveOr brief (update saved f)) Q m := by
  apply h
  change creds (update saved f m).1.config = _
  rw [update_config]
  rfl

def Guarded (x : Creds) : Prop :=
  x.mode = "noPassword" ∨ (x.mode = "" ∧ x.hash = none) → x.agent.1 = none

theorem Guarded.of_password {x : Creds} (h : x.mode = "password") : Guarded x := by
  rintro (hmode | ⟨hmode, -⟩) <;> rw [h] at hmode <;> simp at hmode

/-! ## What one handler does to a slot -/

inductive SlotStep (now : Int) (req : Request) (role : SessionRole) (old : Slot) (ok : Prop) :
    Slot → Prop
  | cleared (exp : Option Int) : SlotStep now req role old ok (none, exp)
  | minted {token : String} : req.mints = some (role, token) →
      SlotStep now req role old ok (some token, some (now + authTokenValiditySecs))
  | kept : (ok → req.Revokes role → role = .agent ∧ ∃ r, req = .modify r) →
      SlotStep now req role old ok old

structure Handled (now : Int) (req : Request) (x : Creds) (res : Except StatusError Unit)
    (x' : Creds) : Prop where
  slots : ∀ role, SlotStep now req role (x.slot role) (res = .ok ()) (x'.slot role)
  guarded : Guarded x'

variable {b : Bcrypt} {m : ConfigManager} {now : Int}

theorem Handled.of_error {req : Request} {x x' : Creds} {e : StatusError}
    (hslots : ∀ role, x'.slot role = x.slot role) (hguard : Guarded x') :
    Handled now req x (.error e) x' :=
  ⟨fun role => (hslots role).symm ▸ .kept nofun, hguard⟩

theorem Handled.of_put {req : Request} {x x' : Creds} {res : Except StatusError Unit}
    {role : SessionRole} {token : String} (hmints : req.mints = some (role, token))
    (hself : x'.slot role = (some token, some (now + authTokenValiditySecs)))
    (hother : ∀ role' ≠ role, SlotStep now req role' (x.slot role') (res = .ok ()) (x'.slot role'))
    (hguard : Guarded x') : Handled now req x res x' := by
  refine ⟨fun role' => ?_, hguard⟩
  by_cases hrole : role' = role
  · subst hrole
    rw [hself]
    exact .minted hmints
  · exact hother role' hrole

theorem login_handled (r : LoginCall) (hguard : Guarded (creds m.config)) :
    Action.wp (handleLoginLocal b { r with token := mint now r.token })
      (fun res m' => Handled now (.login r) (creds m.config) res (creds m'.config)) m := by
  have hrefused : ∀ e, Handled now (.login r) (creds m.config) (.error e) (creds m.config) :=
    fun e => .of_error (fun _ => rfl) hguard
  unfold handleLoginLocal
  refine Action.wp_ofExcept_bind (fun _ _ => ?_) (fun e _ => hrefused e)
  refine Action.wp_read_bind ?_
  refine Action.wp_ensure_bind (fun hmode => ?_) (fun _ => hrefused _)
  refine Action.wp_ofExcept_bind (fun body hbody => ?_) (fun e _ => hrefused e)
  refine Action.wp_ofExcept_bind (fun role hrole => ?_) (fun e _ => hrefused e)
  refine Action.wp_ensure_bind (fun hpassword => ?_) (fun _ => hrefused _)
  have hgiven : r.body = .ok body := Action.mapError_eq_ok hbody
  have hmints : (Request.login r).mints = some (role, r.token.1) := by
    simp only [Request.mints, hgiven, Action.mapError_eq_ok hrole]
  -- A login needs a hash, so it is not outside password mode.
  have hhash : (creds m.config).hash ≠ none := by
    intro hnone
    change m.config.hashedPassword = none at hnone
    rw [validatePassword, hnone] at hpassword
    cases hpassword
  have hall : ∀ (res : Except StatusError Unit) (m' : ConfigManager),
      creds m'.config = creds (setAuthTokenForRole role (some (mint now r.token)) m.config) →
      Handled now (.login r) (creds m.config) res (creds m'.config) := by
    intro res m' hcreds
    rw [hcreds, creds_setAuthTokenForRole]
    refine .of_put hmints (Creds.slot_put_self _ _ _) (fun role' hne => ?_) ?_
    · rw [Creds.slot_put_of_ne hne]
      refine .kept fun _ hrevokes => ?_
      rcases hrevokes with ⟨token, hmints'⟩ | hlogout | hdisable | hchange
      · rw [hmints] at hmints'
        cases hmints'
        exact absurd rfl hne
      · exact hlogout.elim
      · exact hdisable.elim
      · exact hchange.elim
    · rintro (hmode' | ⟨-, hnone⟩)
      · rw [Creds.mode_put] at hmode'
        exact absurd hmode' hmode
      · rw [Creds.hash_put] at hnone
        exact absurd hnone hhash
  refine Action.wp_bind (Q := fun _ m' =>
      creds m'.config = creds (setAuthTokenForRole role (some (mint now r.token)) m.config))
    (wp_write fun _ _ h => h) ?_ (fun e m' h => hall _ m' h)
  intro _ m' h
  exact Action.wp_read_bind (Action.wp_ensure (fun _ => hall _ m' h) (fun _ => hall _ m' h))

theorem logout_handled (r : LogoutCall) (hguard : Guarded (creds m.config)) :
    Action.wp (handleLogout r)
      (fun res m' => Handled now (.logout r) (creds m.config) res (creds m'.config)) m := by
  unfold handleLogout
  refine Action.wp_ofExcept_bind (fun _ _ => ?_) (fun e _ => .of_error (fun _ => rfl) hguard)
  refine wp_write fun res m' h => ?_
  rw [h, creds_setAuthTokenForRole]
  constructor
  · intro role'
    by_cases hrole : role' = r.role.getD .user
    · rw [hrole, Creds.slot_put_self]
      exact .cleared none
    · rw [Creds.slot_put_of_ne hrole]
      refine .kept fun _ hrevokes => ?_
      rcases hrevokes with ⟨token, hmints⟩ | hlogout | hdisable | hchange
      · cases hmints
      · exact absurd hlogout.symm hrole
      · exact hdisable.elim
      · exact hchange.elim
  · intro hopen
    rw [Creds.mode_put, Creds.hash_put] at hopen
    have hagent := hguard hopen
    cases r.role.getD .user with
    | user => exact hagent
    | agent => rfl

theorem Handled.of_agent_none {req : Request} {x x' : Creds} {res : Except StatusError Unit}
    (hagent : x'.agent.1 = none)
    (huser : SlotStep now req .user x.user (res = .ok ()) x'.user) : Handled now req x res x' := by
  refine ⟨fun role => ?_, fun _ => hagent⟩
  cases role with
  | user => exact huser
  | agent =>
      obtain ⟨mode, hash, user, ⟨token, exp⟩⟩ := x'
      obtain rfl : token = none := hagent
      exact .cleared exp

theorem createGuard_ok {c : Config} (h : createGuard c = .ok ()) :
    c.localAuthMode = "noPassword" := by
  unfold createGuard at h
  by_cases hhash : c.hashedPassword.isSome
  · simp [hhash] at h
  · by_cases hmode : c.localAuthMode = "noPassword"
    · exact hmode
    · simp [hhash, hmode] at h

theorem create_handled (r : CreateCall) (hguard : Guarded (creds m.config)) :
    Action.wp (createPasswordLocal b { r with token := mint now r.token })
      (fun res m' => Handled now (.create r) (creds m.config) res (creds m'.config)) m := by
  unfold createPasswordLocal
  refine Action.wp_bind (createPrelude_spec b _ m) ?_
    (by rintro e _ ⟨rfl, -⟩; exact .of_error (fun _ => rfl) hguard)
  rintro hashed m₀ ⟨rfl, hres⟩
  obtain ⟨hcreate, -⟩ := hres hashed rfl
  have hagent : (creds m₀.config).agent.1 = none := hguard (.inl (createGuard_ok hcreate))
  refine Action.wp_bind (Q := fun _ m' => creds m'.config =
    { creds m₀.config with hash := some hashed }) (wp_write fun _ _ h => h) ?_ ?_
  · intro _ m₁ h₁
    -- From here on the user has the new token, whichever save fails.
    have hminted : ∀ (res : Except StatusError Unit) (x' : Creds),
        x'.agent = (creds m₀.config).agent →
        x'.user = (some r.token.1, some (now + authTokenValiditySecs)) →
        Handled now (.create r) (creds m₀.config) res x' := by
      intro res x' hkept huser
      refine .of_agent_none (hkept ▸ hagent) ?_
      rw [huser]
      exact .minted rfl
    refine Action.wp_bind (Q := fun _ m' => creds m'.config =
      (creds m₁.config).put .user (some r.token.1, some (now + authTokenValiditySecs)))
      (wp_write fun _ _ h => h) ?_ ?_
    · intro _ m₂ h₂
      refine wp_write fun res m₃ h₃ => hminted res _ ?_ ?_
      · rw [h₃]
        change (creds m₂.config).agent = _
        rw [h₂]
        change (creds m₁.config).agent = _
        rw [h₁]
      · rw [h₃]
        change (creds m₂.config).user = _
        rw [h₂]
        rfl
    · intro e m₂ h₂
      refine hminted _ _ ?_ ?_
      · rw [h₂]
        change (creds m₁.config).agent = _
        rw [h₁]
      · rw [h₂]
        rfl
  · intro e m₁ h₁
    rw [h₁]
    exact .of_agent_none hagent (.kept nofun)

theorem modify_handled (r : ModifyCall) (hguard : Guarded (creds m.config)) :
    Action.wp (modifyPasswordLocal b { r with token := mint now r.token })
      (fun res m' => Handled now (.modify r) (creds m.config) res (creds m'.config)) m := by
  unfold modifyPasswordLocal
  refine Action.wp_bind (modifyPrelude_spec b _ m) ?_
    (by rintro e _ ⟨rfl, -⟩; exact .of_error (fun _ => rfl) hguard)
  rintro hashed m₀ ⟨rfl, hres⟩
  obtain ⟨hmodify, -⟩ := hres hashed rfl
  have hmode : (creds m₀.config).mode = "password" := (passwordGuard_ok hmodify).2
  refine Action.wp_bind (Q := fun _ m' => creds m'.config =
    { creds m₀.config with hash := some hashed }) (wp_write fun _ _ h => h) ?_ ?_
  · intro _ m₁ h₁
    refine wp_write fun res m₂ h₂ => ?_
    rw [h₂, setAuthToken, creds_setAuthTokenForRole, h₁]
    refine .of_put rfl (Creds.slot_put_self _ _ _) (fun role' hne => ?_) (.of_password hmode)
    rw [Creds.slot_put_of_ne hne]
    cases role' with
    | user => exact absurd rfl hne
    | agent => exact .kept fun _ _ => ⟨rfl, r, rfl⟩
  · intro e m₁ h₁
    rw [h₁]
    exact .of_error (fun role => by cases role <;> rfl) (.of_password hmode)

theorem disable_handled (r : DisableCall) (hguard : Guarded (creds m.config)) :
    Action.wp (disableLocalPassword b r)
      (fun res m' => Handled now (.disable r) (creds m.config) res (creds m'.config)) m := by
  unfold disableLocalPassword
  refine Action.wp_bind (disablePrelude_spec b r m) ?_
    (by rintro e _ ⟨rfl, -⟩; exact .of_error (fun _ => rfl) hguard)
  rintro _ m₀ ⟨rfl, hres⟩
  have hmode : (creds m₀.config).mode = "password" := (passwordGuard_ok (hres rfl)).2
  refine Action.wp_bind (Q := fun _ m' => creds m'.config =
    { creds m₀.config with hash := none }) (wp_write fun _ _ h => h) ?_ ?_
  · intro _ m₁ h₁
    refine Action.wp_bind (Q := fun _ m' => creds m'.config =
      { creds m₁.config with user := (none, none), agent := (none, none) })
      (wp_write fun _ _ h => h) ?_ ?_
    · intro _ m₂ h₂
      refine wp_write fun res m₃ h₃ => ?_
      rw [h₃]
      refine .of_agent_none ?_ ?_
      · change (creds m₂.config).agent.1 = none
        rw [h₂]
      · change SlotStep now _ .user _ _ (creds m₂.config).user
        rw [h₂]
        exact .cleared none
    · intro e m₂ h₂
      rw [h₂]
      exact .of_agent_none rfl (.cleared none)
  · intro e m₁ h₁
    rw [h₁]
    exact .of_error (fun role => by cases role <;> rfl) (.of_password hmode)

theorem keeps_creds (saved : Bool) {f : Config → Config} (hf : SlotNeutral f) :
    Action.Keeps (fun m m' => creds m'.config = creds m.config)
      (update saved f : Action ConfigError ConfigManager Unit) := by
  intro m
  rw [update_config]
  change creds (f m.config) = _
  unfold creds
  have huser : (f m.config).localAuthToken = m.config.localAuthToken := hf.token m.config .user
  have hagent : (f m.config).localAgentAuthToken = m.config.localAgentAuthToken :=
    hf.token m.config .agent
  rw [hf.mode, hf.hash, huser, hagent, hf.userExpiry, hf.agentExpiry]

theorem setup_handled (r : SetupCall) (hguard : Guarded (creds m.config)) :
    Action.wp (handleDeviceSetup b { r with token := mint now r.token })
      (fun res m' => Handled now (.setup r) (creds m.config) res (creds m'.config)) m := by
  unfold handleDeviceSetup
  refine Action.wp_bind (setupPrelude_keeps (R := fun m m' => creds m'.config = creds m.config)
    (fun _ => rfl) (fun _ _ _ h₁ h₂ => h₂.trans h₁) (fun saved _ hf => keeps_creds saved hf)
    _ m) ?_ ?_
  · rintro body m₀ ⟨h₀, hres⟩
    obtain ⟨hbody, hallowed, hmode⟩ := hres body rfl
    have hagent : (creds m.config).agent.1 = none := hguard (.inr hallowed)
    -- Until the last write both slots are as they were.
    have hkept : ∀ (e : StatusError) (x' : Creds), x'.agent = (creds m.config).agent →
        x'.user = (creds m.config).user →
        Handled now (.setup r) (creds m.config) (.error e) x' := by
      intro e x' hagent' huser'
      exact .of_agent_none (hagent' ▸ hagent) (huser' ▸ .kept nofun)
    unfold setupAuth
    refine Action.wp_bind (Q := fun _ m' => creds m'.config =
      { creds m.config with mode := body.localAuthMode })
      (wp_write fun _ _ h => h.trans (by rw [← h₀]; rfl)) ?_
      (fun e m₁ h₁ => by rw [h₁]; exact hkept e _ rfl rfl)
    intro _ m₁ h₁
    have hkept₁ : ∀ e, Handled now (.setup r) (creds m.config) (.error e) (creds m₁.config) := by
      intro e
      rw [h₁]
      exact hkept e _ rfl rfl
    by_cases hpassword : body.localAuthMode = "password"
    · rw [if_pos hpassword]
      refine Action.wp_ofExcept_bind (fun password _ => ?_) (fun e _ => hkept₁ e)
      refine Action.wp_bind (Q := fun _ m' => m' = m₁)
        (wp_hashPassword (fun _ _ => rfl) (fun _ => rfl)) ?_ (by rintro e _ rfl; exact hkept₁ e)
      intro hashed m' hsame
      rw [hsame]
      refine Action.wp_bind (Q := fun _ m' => creds m'.config =
        { creds m₁.config with hash := some hashed }) (wp_write fun _ _ h => h) ?_ ?_
      · intro _ m₂ h₂
        refine wp_write fun res m₃ h₃ => ?_
        rw [h₃, setAuthToken, creds_setAuthTokenForRole, h₂, h₁]
        have hgiven : r.body = .ok body := hbody
        have hmints : (Request.setup r).mints = some (.user, r.token.1) := by
          simp only [Request.mints, hgiven, if_pos hpassword]
        exact .of_agent_none hagent (.minted hmints)
      · intro e m₂ h₂
        rw [h₂, h₁]
        exact hkept e _ rfl rfl
    · rw [if_neg hpassword]
      refine Action.wp_bind (Q := fun _ m' => creds m'.config =
        { creds m₁.config with hash := none }) (wp_write fun _ _ h => h) ?_ ?_
      · intro _ m₂ h₂
        refine wp_write fun res m₃ h₃ => ?_
        rw [h₃]
        exact .of_agent_none rfl (.cleared none)
      · intro e m₂ h₂
        rw [h₂, h₁]
        exact hkept e _ rfl rfl
  · rintro e m₀ ⟨h₀, -⟩
    rw [h₀]
    exact .of_error (fun _ => rfl) hguard

theorem handle_handled (b : Bcrypt) (req : Request) (hguard : Guarded (creds m.config)) :
    Handled now req (creds m.config) (handle b (req.handledAt now) m).2
      (creds (handle b (req.handledAt now) m).1.config) := by
  cases req with
  | setup r => exact setup_handled r hguard
  | login r => exact login_handled r hguard
  | logout r => exact logout_handled r hguard
  | create r => exact create_handled r hguard
  | modify r => exact modify_handled r hguard
  | disable r => exact disable_handled r hguard

/-! ## A password change that goes through -/

theorem modify_ok (r : ModifyCall)
    (h : (modifyPasswordLocal b r m).2 = .ok ()) : ChangeAccepted b m r := by
  have hprelude := modifyPrelude_spec b r m
  unfold Action.wp at hprelude
  unfold modifyPasswordLocal at h
  rw [Action.bind_run] at h
  rcases hrun : modifyPrelude b r m with ⟨m₀, e | hashed⟩
  · rw [hrun] at h
    cases h
  rw [hrun] at h hprelude
  obtain ⟨rfl, -⟩ := hprelude
  rw [Action.andThen_ok, Action.bind_run] at h
  rcases hhash : saveOr "Failed to save new password"
    (update r.hashedSaved (setHashedPassword (some hashed))) m₀ with ⟨m₁, e | ⟨⟩⟩
  · rw [hhash] at h
    cases h
  rw [hhash, Action.andThen_ok] at h
  have hwritten := (update_ok_iff _ _ _).mp (congrArg Prod.snd (Action.mapErr_eq_ok hhash))
  refine ⟨⟨hashed, by rw [hrun]⟩, ?_, hwritten.2, ?_⟩
  · have hvalid := hwritten.1
    rw [Config.valid_iff] at hvalid ⊢
    exact hvalid
  · have htoken : (update r.tokenSaved (setAuthToken (some r.token)) m₁).2 = .ok () :=
      Action.mapError_eq_ok h
    exact ((update_ok_iff _ _ _).mp htoken).2

namespace Ledger

/-! ## The invariant of a run -/

/-- The slot of the role goes back to the entry that filled it; what revokes the token
came after its expiry, or the token was never handed out. -/
def Traced (s : Ledger) (role : SessionRole) (token : String) (exp : Option Int) : Prop :=
  ∃ newer e older, s.log = newer ++ e :: older ∧ e.request.mints = some (role, token) ∧
    exp = some (e.time + authTokenValiditySecs) ∧
    ∀ e' ∈ newer, e'.answer = .ok () → e'.request.Revokes role →
      e.time + authTokenValiditySecs ≤ e'.time ∨ e.answer ≠ .ok ()

structure LedgerInv (s : Ledger) : Prop where
  guarded : Guarded (creds s.manager.config)
  past : ∀ e ∈ s.log, e.time ≤ s.clock
  fresh : s.log.Pairwise fun newer older =>
    ∀ new ∈ newer.request.mints, ∀ old ∈ older.request.mints, old.2 ≠ new.2
  traced : ∀ role token exp, (creds s.manager.config).slot role = (some token, exp) →
    s.Traced role token exp

/-- Both slots are empty and no request was made yet. -/
def Unissued (s : Ledger) : Prop :=
  (∀ role, authTokenOf role s.manager.config = none) ∧ s.log = []

theorem LedgerInv.of_unissued {s : Ledger} (h : s.Unissued) : LedgerInv s where
  guarded := fun _ => h.1 .agent
  past := by
    rw [h.2]
    exact fun e hmem => by cases hmem
  fresh := by
    rw [h.2]
    exact .nil
  traced := by
    intro role token exp hslot
    rw [slot_creds, h.1 role] at hslot
    cases hslot

theorem step_ledgerInv {s s' : Ledger} {a : Act} (hinv : LedgerInv s) (hfresh : s.FreshTokens a)
    (hclose : s.ChangeClosesAgent b a) (hstep : step b s a = some s') : LedgerInv s' := by
  cases a with
  | tick seconds =>
      obtain rfl : { s with clock := s.clock + seconds } = s' := Option.some.inj hstep
      refine ⟨hinv.guarded, fun e hmem => ?_, hinv.fresh, hinv.traced⟩
      have := hinv.past e hmem
      change e.time ≤ s.clock + seconds
      omega
  | request req =>
      have hhandled : Handled s.clock req _ _ _ := handle_handled b req hinv.guarded
      have hmodify : ∀ r, req = .modify r →
          (handle b (req.handledAt s.clock) s.manager).2 = .ok () →
          ¬ s.LiveAgent := by
        rintro r rfl hok
        have haccepted := modify_ok { r with token := mint s.clock r.token } hok
        exact hclose haccepted
      obtain rfl := Option.some.inj hstep
      generalize handle b (req.handledAt s.clock) s.manager = result at hhandled hmodify ⊢
      refine ⟨hhandled.guarded, fun e hmem => ?_, List.pairwise_cons.mpr ⟨?_, hinv.fresh⟩, ?_⟩
      · rcases List.mem_cons.mp hmem with rfl | hmem
        · exact le_rfl
        · exact hinv.past e hmem
      · exact fun e hmem new hnew old hold => hfresh e hmem new hnew old hold
      · intro role token exp hslot
        change (creds result.1.config).slot role = _ at hslot
        have hslots := hhandled.slots role
        generalize hold : (creds s.manager.config).slot role = old at hslots
        generalize hnew : (creds result.1.config).slot role = new at hslots hslot
        cases hslots with
        | cleared => cases hslot
        | minted hmints =>
            cases hslot
            exact ⟨[], ⟨s.clock, req, result.2⟩, s.log, rfl, hmints, rfl,
              fun e' hmem => by cases hmem⟩
        | kept hkept =>
            obtain ⟨newer, e, older, hlog, hmints, hexp, hlater⟩ :=
              hinv.traced role token exp (hold.trans hslot)
            refine ⟨⟨s.clock, req, result.2⟩ :: newer, e, older, congrArg _ hlog, hmints, hexp, ?_⟩
            intro e' hmem hok hrevokes
            rcases List.mem_cons.mp hmem with rfl | hmem
            · obtain ⟨rfl, r, rfl⟩ := hkept hok hrevokes
              have hagent := (slot_creds s.manager.config .agent).symm.trans (hold.trans hslot)
              have htoken : authTokenOf .agent s.manager.config = some token :=
                congrArg Prod.fst hagent
              have hexpiry : expiresAtOf .agent s.manager.config =
                  some (e.time + authTokenValiditySecs) := (congrArg Prod.snd hagent).trans hexp
              by_contra hlive
              push Not at hlive
              refine hmodify r rfl hok
                ⟨token, _, htoken, hexpiry, hlive.1, e, ?_, hlive.2, hmints⟩
              · rw [hlog]
                exact List.mem_append_right _ List.mem_cons_self
            · exact hlater e' hmem hok hrevokes

theorem LedgerInv.mints_unique {s : Ledger} (hinv : LedgerInv s) {newer older : List LogEntry}
    {e e₁ : LogEntry} (hlog : s.log = newer ++ e :: older) {role role₁ : SessionRole}
    {token : String} (he : e.request.mints = some (role, token)) (hmem : e₁ ∈ s.log)
    (he₁ : e₁.request.mints = some (role₁, token)) : e₁ = e := by
  have hfresh := hinv.fresh
  rw [hlog, List.pairwise_append, List.pairwise_cons] at hfresh
  rw [hlog] at hmem
  rcases List.mem_append.mp hmem with hnewer | hmem
  · exact absurd rfl
      (hfresh.2.2 e₁ hnewer e List.mem_cons_self (role₁, token) he₁ (role, token) he)
  rcases List.mem_cons.mp hmem with heq | holder
  · exact heq
  · exact absurd rfl (hfresh.2.1.1 e₁ holder (role, token) he (role₁, token) he₁)

theorem LedgerInv.lifecycle {s : Ledger} (hinv : LedgerInv s) : s.Lifecycle := by
  rintro hmode role token ⟨e₁, hmem, role₁, hok, hmints₁⟩ haccepted
  obtain ⟨⟨exp, hexp, hnow⟩, -, htoken⟩ :=
    (validateAuthTokenForRole_iff hmode).mp ((authMiddleware_ofRole hmode).mp haccepted)
  have hslot : (creds s.manager.config).slot role = (some token, some exp) := by
    rw [slot_creds, htoken, hexp]
  obtain ⟨newer, e, older, hlog, hmints, hexpiry, hlater⟩ := hinv.traced role token _ hslot
  obtain rfl := Option.some.inj hexpiry
  -- Tokens are fresh, so the entry that handed the token out is the one that filled the slot.
  obtain rfl := hinv.mints_unique hlog hmints hmem hmints₁
  refine ⟨newer, e₁, older, hlog, ⟨hok, hmints⟩, hnow, fun e' hmem' hok' hrevokes => ?_⟩
  rcases hlater e' hmem' hok' hrevokes with hexpired | hfailed
  · have hpast := hinv.past e' (by rw [hlog]; exact List.mem_append_left _ hmem')
    omega
  · exact hfailed hok

/-- In every run that starts with empty slots, brings fresh tokens and changes the password
only when the agent has no live token, the middleware accepts current tokens only. -/
theorem lifecycle_of_changeClosesAgent {s₀ s : Ledger} (hinit : s₀.Unissued)
    (hrun : Run.Reach (step b) (fun s a => s.FreshTokens a ∧ s.ChangeClosesAgent b a) s₀ s) :
    s.Lifecycle :=
  (hrun.invariant (P := LedgerInv) (.of_unissued hinit) fun _ _ _ hinv hok hstep =>
    step_ledgerInv hinv hok.1 hok.2 hstep).lifecycle

/-! ## Concrete runs -/

/-- A device in password mode that nobody is logged in to. -/
def passwordDevice : Ledger where
  manager :=
    { config := { Config.default "dev" with
        hashedPassword := some "$2b$12$pw"
        localAuthMode := "password" }
      file := Config.default "dev" }
  clock := 0

def loginAs (clientType token : String) : Request :=
  .login
    { origin := .ok (), body := .ok ⟨"pw", some clientType⟩, token := (token, "c", 0)
      tokenSaved := true }

def changeTo (password token : String) : Request :=
  .modify
    { origin := .ok (), body := .ok ⟨"pw", password⟩, salt := 0, hashedSaved := true
      token := (token, "c", 0), tokenSaved := true }

/-- Whether the middleware accepts the token as the cookie of the role. -/
def accepts (role : SessionRole) (token : String) (s : Ledger) : Bool :=
  (authMiddleware s.manager.config s.clock (Cookies.ofRole role token)).toOption = some (some role)

/-- The state after one more action. -/
def next (s : Ledger) (a : Act) : Ledger := (step markedBcrypt s a).getD s

theorem step_next (s : Ledger) (a : Act) : step markedBcrypt s a = some (s.next a) := by
  cases a <;> rfl

def bothLoggedIn : Ledger :=
  (passwordDevice.next (.request (loginAs "user" "u"))).next (.request (loginAs "agent" "a"))

theorem unissued_passwordDevice : passwordDevice.Unissued :=
  ⟨fun role => by cases role <;> rfl, rfl⟩

theorem reach_bothLoggedIn :
    Run.Reach (step markedBcrypt)
      (fun s a => s.FreshTokens a ∧ s.ChangeClosesAgent markedBcrypt a)
      passwordDevice bothLoggedIn := by
  refine .tail (.tail .refl ⟨?_, ?_⟩ (step_next _ _)) ⟨?_, ?_⟩ (step_next _ _)
  · decide
  · trivial
  · decide
  · trivial

/-- An hour after a user and an agent logged in, the token of the agent is accepted, and it
is current. -/
theorem lifecycle_of_changeClosesAgent_two_logins :
    (bothLoggedIn.next (.tick 3600)).accepts .agent "a" = true ∧
      (bothLoggedIn.next (.tick 3600)).Lifecycle := by
  refine ⟨by decide +kernel, ?_⟩
  apply lifecycle_of_changeClosesAgent (b := markedBcrypt) unissued_passwordDevice
  refine .tail reach_bothLoggedIn ⟨?_, ?_⟩ (step_next _ _)
  · trivial
  · trivial

theorem not_current_of_revoked {s : Ledger} {e' : LogEntry} {rest : List LogEntry}
    {role : SessionRole} {token : String} (hlog : s.log = e' :: rest) (hok : e'.answer = .ok ())
    (hrevokes : e'.request.Revokes role) (hother : e'.request.mints ≠ some (role, token)) :
    ¬ s.Current role token := by
  rintro ⟨newer, e, older, hsplit, hissues, -, hlater⟩
  rw [hlog] at hsplit
  cases newer with
  | nil =>
      obtain ⟨rfl, -⟩ := List.cons_eq_cons.mp hsplit
      exact hother hissues.2
  | cons e₁ newer =>
      obtain ⟨rfl, -⟩ := List.cons_eq_cons.mp hsplit
      exact hlater e' List.mem_cons_self hok hrevokes

/-- An agent logs in, then the user changes the password: the token of the agent is still
accepted. -/
theorem agent_token_survives_password_change :
    ∃ s, passwordDevice.Unissued ∧
      Run.Reach (step markedBcrypt) FreshTokens passwordDevice s ∧ ¬ s.Lifecycle := by
  have hreach : Run.Reach (step markedBcrypt) FreshTokens _ _ :=
    reach_bothLoggedIn.mono fun _ _ h => h.1
  refine ⟨bothLoggedIn.next (.request (changeTo "new" "v")), unissued_passwordDevice,
    .tail hreach ?_ (step_next _ _), fun hlifecycle => ?_⟩
  · decide
  have hgiven : (bothLoggedIn.next (.request (changeTo "new" "v"))).HandedOut "a" := by
    refine ⟨_, List.mem_cons_of_mem _ List.mem_cons_self, .agent, ?_⟩
    exact ⟨by decide +kernel, by decide +kernel⟩
  have hcurrent := hlifecycle (by decide +kernel) .agent "a" hgiven (by decide +kernel)
  have hlog : (bothLoggedIn.next (.request (changeTo "new" "v"))).log =
      ⟨0, changeTo "new" "v", (handle markedBcrypt ((changeTo "new" "v").handledAt 0)
        bothLoggedIn.manager).2⟩ :: bothLoggedIn.log := rfl
  refine not_current_of_revoked hlog ?_ ?_ ?_ hcurrent
  · decide +kernel
  · exact .inr (.inr (.inr trivial))
  · decide +kernel

end Ledger

end ArkKvm.Web
