import ArkKvm.Web.Password

/-!
# The password invariant

In password mode there is a hash, and outside it there is none.  Every handler
writes the two fields by separate updates, so the invariant depends on how far a
handler gets: `WritesPair` says for one request that the pair is not left half
written, and every run of such requests keeps the invariant.
-/

namespace ArkKvm.Web

open ConfigManager Lib

/-! ## Updates that leave the authentication alone -/

structure AuthKept (m m' : ConfigManager) : Prop where
  mode : m'.config.localAuthMode = m.config.localAuthMode
  hash : m'.config.hashedPassword = m.config.hashedPassword
  valid : m.config.Valid → m'.config.Valid

theorem AuthKept.refl (m : ConfigManager) : AuthKept m m := ⟨rfl, rfl, id⟩

theorem AuthKept.trans (a b c : ConfigManager) (h₁ : AuthKept a b) (h₂ : AuthKept b c) :
    AuthKept a c :=
  ⟨h₂.mode.trans h₁.mode, h₂.hash.trans h₁.hash, h₂.valid ∘ h₁.valid⟩

structure Neutral (f : Config → Config) : Prop where
  mode : ∀ c, (f c).localAuthMode = c.localAuthMode
  hash : ∀ c, (f c).hashedPassword = c.hashedPassword
  macros : ∀ c, (f c).keyboardMacros = c.keyboardMacros
  brightness : ∀ c, (f c).displayMaxBrightness = c.displayMaxBrightness

theorem keeps_update (saved : Bool) {f : Config → Config} (hf : Neutral f) :
    Action.Keeps AuthKept (update saved f : Action ConfigError ConfigManager Unit) := by
  intro m
  have hconfig := update_config saved f m
  refine ⟨?_, ?_, ?_⟩
  · rw [hconfig]
    exact hf.mode m.config
  · rw [hconfig]
    exact hf.hash m.config
  · intro hvalid
    rw [hconfig]
    apply (Config.validate_again _ _).1
    rw [Config.valid_iff] at hvalid ⊢
    rwa [hf.mode, hf.macros, hf.brightness]

theorem neutral_setAuthTokenForRole (role : SessionRole) (token : Option Token) :
    Neutral (setAuthTokenForRole role token) := by
  cases role <;> exact ⟨fun _ => rfl, fun _ => rfl, fun _ => rfl, fun _ => rfl⟩

theorem neutral_clearAllAuthTokens : Neutral clearAllAuthTokens :=
  ⟨fun _ => rfl, fun _ => rfl, fun _ => rfl, fun _ => rfl⟩

structure SlotNeutral (f : Config → Config) : Prop extends Neutral f where
  token : ∀ c role, authTokenOf role (f c) = authTokenOf role c
  userExpiry : ∀ c, (f c).localAuthTokenExpiresAt = c.localAuthTokenExpiresAt
  agentExpiry : ∀ c, (f c).localAgentAuthTokenExpiresAt = c.localAgentAuthTokenExpiresAt

section Devices

variable {R : ConfigManager → ConfigManager → Prop} (hrefl : ∀ m, R m m)
  (htrans : ∀ a b c, R a b → R b c → R a c)
  (hupdate : ∀ saved f, SlotNeutral f →
    Action.Keeps R (update saved f : Action ConfigError ConfigManager Unit))

include hrefl htrans hupdate

theorem keeps_rebootUsbManager (o : Usb.RebootOutcome) (usbConfig : Option UsbConfig)
    (devices : Option UsbDevices) :
    Action.Keeps R (Usb.rebootUsbManager o usbConfig devices) := by
  have hdevices : ∀ d, SlotNeutral (setUsbDevices d) := fun _ =>
    ⟨⟨fun _ => rfl, fun _ => rfl, fun _ => rfl, fun _ => rfl⟩,
      fun _ role => by cases role <;> rfl, fun _ => rfl, fun _ => rfl⟩
  have husb : ∀ u, SlotNeutral (setUsbConfig u) := fun _ =>
    ⟨⟨fun _ => rfl, fun _ => rfl, fun _ => rfl, fun _ => rfl⟩,
      fun _ role => by cases role <;> rfl, fun _ => rfl, fun _ => rfl⟩
  apply Action.Keeps.bind htrans (.read hrefl)
  intro m
  apply Action.Keeps.bind htrans (.ensure hrefl _ _)
  intro _
  apply Action.Keeps.ite
  · exact .bind htrans (.ensure hrefl _ _) fun _ => hupdate _ _ (hdevices _)
  apply Action.Keeps.ite
  · exact .ite (hupdate _ _ (hdevices _)) (.pure hrefl _)
  · exact .bind htrans (.ensure hrefl _ _) fun _ =>
      .bind htrans (hupdate _ _ (husb _)) fun _ => hupdate _ _ (hdevices _)

theorem keeps_configureDevices (r : SetupCall) (body : SetupRequest) :
    Action.Keeps R (configureDevices r body) := by
  have hneutral : ∀ {f : Config → Config}, SlotNeutral f → ∀ (brief : String) (saved : Bool),
      Action.Keeps R (saveOr brief (update saved f)) :=
    fun hf _ saved => (hupdate saved _ hf).mapErr _
  unfold configureDevices
  refine .bind htrans (.read hrefl) fun _ => ?_
  refine .bind htrans (hneutral ⟨⟨?_, ?_, ?_, ?_⟩, ?_, ?_, ?_⟩ _ _) fun _ => ?_
  iterate 4 exact fun _ => rfl
  · exact fun _ role => by cases role <;> rfl
  iterate 2 exact fun _ => rfl
  refine .bind htrans (.ensure hrefl _ _) fun _ => ?_
  refine .bind htrans (hneutral ⟨⟨?_, ?_, ?_, ?_⟩, ?_, ?_, ?_⟩ _ _) fun _ => ?_
  iterate 4 exact fun _ => rfl
  · exact fun _ role => by cases role <;> rfl
  iterate 2 exact fun _ => rfl
  refine .bind htrans (hneutral ⟨⟨?_, ?_, ?_, ?_⟩, ?_, ?_, ?_⟩ _ _) fun _ => ?_
  iterate 4 exact fun _ => rfl
  · exact fun _ role => by cases role <;> rfl
  iterate 2 exact fun _ => rfl
  refine .bind htrans (.ensure hrefl _ _) fun _ => ?_
  refine .bind htrans (.read hrefl) fun _ => ?_
  refine .bind htrans (hneutral ⟨⟨?_, ?_, ?_, ?_⟩, ?_, ?_, ?_⟩ _ _) fun _ => ?_
  iterate 4 exact fun _ => rfl
  · exact fun _ role => by cases role <;> rfl
  iterate 2 exact fun _ => rfl
  refine .bind htrans ((keeps_rebootUsbManager hrefl htrans hupdate _ _ _).mapErr _) fun _ => ?_
  exact .ensure hrefl _ _

/-- The part of setup before its authentication writes; when it ends well the device was
not set up. -/
theorem setupPrelude_keeps (r : SetupCall) (m : ConfigManager) :
    Action.wp (setupPrelude r) (fun res m' => R m m' ∧ ∀ body, res = .ok body →
      r.body = .ok body ∧ SetupAllowed m.config ∧
        (body.localAuthMode = "password" ∨ body.localAuthMode = "noPassword")) m := by
  unfold setupPrelude
  refine Action.wp_ofExcept_bind (fun _ _ => ?_) (fun _ _ => ⟨hrefl m, nofun⟩)
  refine Action.wp_read_bind ?_
  refine Action.wp_ensure_bind (fun hallowed => ?_) (fun _ => ⟨hrefl m, nofun⟩)
  refine Action.wp_ofExcept_bind (fun body hbody => ?_) (fun _ _ => ⟨hrefl m, nofun⟩)
  refine Action.wp_ensure_bind (fun hmode => ?_) (fun _ => ⟨hrefl m, nofun⟩)
  refine Action.wp_bind (Q := fun _ m' => R m m')
    (keeps_configureDevices hrefl htrans hupdate r body m) ?_ ?_
  · intro _ m' hkept
    refine ⟨hkept, ?_⟩
    rintro _ ⟨⟩
    exact ⟨Action.mapError_eq_ok hbody, hallowed, hmode⟩
  · exact fun _ m' hkept => ⟨hkept, nofun⟩

end Devices

/-! ## The fields that authentication reads -/

structure Auth (c : Config) (mode : String) (hash : Option String) : Prop where
  valid : c.Valid
  mode : c.localAuthMode = mode
  hash : c.hashedPassword = hash

variable {c : Config} {m : ConfigManager} {mode mode' : String} {hash hash' : Option String}

theorem AuthKept.auth {m m' : ConfigManager} (h : AuthKept m m') (ha : Auth m.config mode hash) :
    Auth m'.config mode hash :=
  ⟨h.valid ha.valid, h.mode.trans ha.mode, h.hash.trans ha.hash⟩

theorem Auth.setHashedPassword (h : Auth c mode hash) (hashed : Option String) :
    Auth (setHashedPassword hashed c) mode hashed := by
  refine ⟨?_, h.mode, rfl⟩
  have hvalid := h.valid
  rw [Config.valid_iff] at hvalid ⊢
  exact hvalid

theorem Auth.setAuthMode (h : Auth c mode hash)
    (hmode : mode' = "password" ∨ mode' = "noPassword") :
    Auth (setAuthMode mode' c) mode' hash := by
  refine ⟨?_, rfl, h.hash⟩
  have hvalid := h.valid
  rw [Config.valid_iff] at hvalid ⊢
  refine ⟨hvalid.1, hvalid.2.1, hvalid.2.2.1, ?_⟩
  rcases hmode with rfl | rfl <;> simp [ConfigManager.setAuthMode]

theorem Auth.neutral (h : Auth c mode hash) {f : Config → Config} (hf : Neutral f) :
    Auth (f c) mode hash := by
  refine ⟨?_, (hf.mode c).trans h.mode, (hf.hash c).trans h.hash⟩
  have hvalid := h.valid
  rw [Config.valid_iff] at hvalid ⊢
  rwa [hf.mode, hf.macros, hf.brightness]

/-- One write of a handler: the new fields are in memory, whether or not the
save that follows succeeds. -/
theorem wp_saveOr {brief : String} {saved : Bool} {f : Config → Config}
    {Q : Except StatusError Unit → ConfigManager → Prop} (hf : Auth (f m.config) mode' hash')
    (hok : saved = true → ∀ m', Auth m'.config mode' hash' → Q (.ok ()) m')
    (hfail : saved = false → ∀ e m', Auth m'.config mode' hash' → Q (.error e) m') :
    Action.wp (saveOr brief (update saved f)) Q m := by
  have hnew : Auth (f m.config).normalize mode' hash' :=
    ⟨(Config.validate_again _ hf.valid).1, hf.mode, hf.hash⟩
  rw [← update_config saved f m] at hnew
  have hresult := update_ok_iff saved f m
  change Q ((update saved f m).2.mapError _) (update saved f m).1
  cases hr : (update saved f m).2 with
  | ok _ => exact hok ((hresult.mp hr).2) _ hnew
  | error e =>
      have hsaved : saved = false := by
        by_contra hne
        rw [hresult.mpr ⟨hf.valid, by simpa using hne⟩] at hr
        cases hr
      exact hfail hsaved _ _ hnew

/-- Password mode goes with a hash, and the hash is of a password a client has
sent. -/
structure Paired (b : Bcrypt) (mode : String) (hash : Option String) : Prop where
  iff : mode = "password" ↔ hash.isSome
  known : ∀ h, hash = some h → ∃ p, p ≠ "" ∧ b.verify p h = true

def PasswordInv (b : Bcrypt) (c : Config) : Prop :=
  ∃ mode hash, Auth c mode hash ∧ Paired b mode hash

/-- The condition on one request: when it gets as far as its writes, it does not
stop between the write of the mode and the write of the hash. -/
def WritesPair (b : Bcrypt) (m : ConfigManager) : Request → Prop
  | .setup r => ∀ body, (setupPrelude r m).2 = .ok body → body.localAuthMode = "password" →
      r.modeSaved = true ∧ ∃ password, setupPassword body = .ok password ∧
        (b.hash r.salt password).isSome
  | .create r => ∀ hashed, (createPrelude b r m).2 = .ok hashed →
      r.hashedSaved = true ∧ r.tokenSaved = true
  | .disable r => (disablePrelude b r m).2 = .ok () →
      r.hashedSaved = true ∧ r.tokensSaved = true
  | .login _ => True
  | .logout _ => True
  | .modify _ => True

/-! ## What the preludes check -/

theorem passwordGuard_ok (h : passwordGuard c = .ok ()) :
    c.hashedPassword.isSome ∧ c.localAuthMode = "password" := by
  unfold passwordGuard at h
  by_cases hhash : c.hashedPassword.isNone
  · simp [hhash] at h
  · by_cases hmode : c.localAuthMode = "password"
    · exact ⟨by simpa [Option.isSome_iff_ne_none] using hhash, hmode⟩
    · simp [hhash, hmode] at h

theorem wp_hashPassword {b : Bcrypt} {salt : Nat} {password brief : String}
    {Q : Except StatusError String → ConfigManager → Prop}
    (hok : ∀ h, b.hash salt password = some h → Q (.ok h) m)
    (hfail : b.hash salt password = none → Q (.error (internalServerError brief)) m) :
    Action.wp (hashPassword b salt password brief) Q m := by
  unfold hashPassword
  cases hh : b.hash salt password with
  | none => exact hfail hh
  | some h => exact hok h hh

/-- The part of create before its writes reads only; when it ends well the device
is in `noPassword` mode and the new hash is of a non-empty password. -/
theorem createPrelude_spec (b : Bcrypt) (r : CreateCall) (m : ConfigManager) :
    Action.wp (createPrelude b r) (fun res m' => m' = m ∧ ∀ hashed, res = .ok hashed →
      createGuard m.config = .ok () ∧ ∃ p, p ≠ "" ∧ b.hash r.salt p = some hashed) m := by
  unfold createPrelude
  refine Action.wp_ofExcept_bind (fun _ _ => ?_) (fun _ _ => ⟨rfl, nofun⟩)
  refine Action.wp_read_bind ?_
  refine Action.wp_ofExcept_bind (fun _ hguard => ?_) (fun _ _ => ⟨rfl, nofun⟩)
  refine Action.wp_ofExcept_bind (fun body _ => ?_) (fun _ _ => ⟨rfl, nofun⟩)
  refine Action.wp_ensure_bind (fun hpassword => ?_) (fun _ => ⟨rfl, nofun⟩)
  refine wp_hashPassword (fun h hh => ⟨rfl, ?_⟩) (fun _ => ⟨rfl, nofun⟩)
  rintro hashed ⟨⟩
  exact ⟨hguard, body.password, hpassword, hh⟩

theorem modifyPrelude_spec (b : Bcrypt) (r : ModifyCall) (m : ConfigManager) :
    Action.wp (modifyPrelude b r) (fun res m' => m' = m ∧ ∀ hashed, res = .ok hashed →
      passwordGuard m.config = .ok () ∧ ∃ p, p ≠ "" ∧ b.hash r.salt p = some hashed) m := by
  unfold modifyPrelude
  refine Action.wp_ofExcept_bind (fun _ _ => ?_) (fun _ _ => ⟨rfl, nofun⟩)
  refine Action.wp_read_bind ?_
  refine Action.wp_ofExcept_bind (fun _ hguard => ?_) (fun _ _ => ⟨rfl, nofun⟩)
  refine Action.wp_ofExcept_bind (fun body _ => ?_) (fun _ _ => ⟨rfl, nofun⟩)
  refine Action.wp_ensure_bind (fun hpassword => ?_) (fun _ => ⟨rfl, nofun⟩)
  refine Action.wp_ensure_bind (fun _ => ?_) (fun _ => ⟨rfl, nofun⟩)
  refine wp_hashPassword (fun h hh => ⟨rfl, ?_⟩) (fun _ => ⟨rfl, nofun⟩)
  rintro hashed ⟨⟩
  exact ⟨hguard, body.newPassword, hpassword.2, hh⟩

theorem disablePrelude_spec (b : Bcrypt) (r : DisableCall) (m : ConfigManager) :
    Action.wp (disablePrelude b r) (fun res m' => m' = m ∧
      (res = .ok () → passwordGuard m.config = .ok ())) m := by
  unfold disablePrelude
  refine Action.wp_ofExcept_bind (fun _ _ => ?_) (fun _ _ => ⟨rfl, nofun⟩)
  refine Action.wp_read_bind ?_
  refine Action.wp_ofExcept_bind (fun _ hguard => ?_) (fun _ _ => ⟨rfl, nofun⟩)
  refine Action.wp_ofExcept_bind (fun body _ => ?_) (fun _ _ => ⟨rfl, nofun⟩)
  refine Action.wp_ensure_bind (fun _ => ?_) (fun _ => ⟨rfl, nofun⟩)
  exact Action.wp_ensure (fun _ => ⟨rfl, fun _ => hguard⟩) (fun _ => ⟨rfl, nofun⟩)

/-! ## One request -/

section Step

variable {b : Bcrypt}

theorem PasswordInv.of_auth (ha : Auth c mode hash) (hp : Paired b mode hash) : PasswordInv b c :=
  ⟨mode, hash, ha, hp⟩

theorem Paired.none (b : Bcrypt) (hmode : mode ≠ "password") : Paired b mode none :=
  ⟨by simp [hmode], nofun⟩

theorem Paired.fresh (hverify : ∀ salt p h, b.hash salt p = some h → b.verify p h = true)
    {salt : Nat} {password hashed : String} (hne : password ≠ "")
    (hh : b.hash salt password = some hashed) : Paired b "password" (some hashed) := by
  refine ⟨by simp, ?_⟩
  rintro h ⟨⟩
  exact ⟨password, hne, hverify salt password hashed hh⟩

theorem AuthKept.inv {m m' : ConfigManager} (h : AuthKept m m') (hinv : PasswordInv b m.config) :
    PasswordInv b m'.config := by
  obtain ⟨mode, hash, ha, hp⟩ := hinv
  exact .of_auth (h.auth ha) hp

theorem setupPassword_ok {body : SetupRequest} {password : String}
    (h : setupPassword body = .ok password) : password ≠ "" := by
  unfold setupPassword at h
  split at h
  · cases h
  · cases h
  · rename_i hne _
    cases h
    rintro rfl
    exact hne rfl

theorem setupAuth_inv (hverify : ∀ salt p h, b.hash salt p = some h → b.verify p h = true)
    (r : SetupCall) (body : SetupRequest) (ha : Auth m.config mode none)
    (hmode : body.localAuthMode = "password" ∨ body.localAuthMode = "noPassword")
    (hw : body.localAuthMode = "password" → r.modeSaved = true ∧ ∃ password,
      setupPassword body = .ok password ∧ (b.hash r.salt password).isSome) :
    Action.wp (setupAuth b r body) (fun _ m' => PasswordInv b m'.config) m := by
  unfold setupAuth
  by_cases hpassword : body.localAuthMode = "password"
  · obtain ⟨hsaved, password, hok, hsome⟩ := hw hpassword
    obtain ⟨hashed, hh⟩ := Option.isSome_iff_exists.mp hsome
    have hpaired := Paired.fresh hverify (setupPassword_ok hok) hh
    -- the mode is written and saved, so the handler goes on to the hash
    refine Action.wp_bind (Q := fun res m' => res = .ok () ∧ Auth m'.config "password" none)
      (wp_saveOr (hpassword ▸ ha.setAuthMode hmode) (fun _ _ h => ⟨rfl, h⟩)
        (fun hfalse => absurd hsaved (by simp [hfalse]))) ?_ (by rintro _ _ ⟨h, -⟩; cases h)
    rintro _ m₁ ⟨-, h₁⟩
    rw [if_pos hpassword]
    refine Action.wp_ofExcept_bind (fun p hp => ?_) (fun e he => by rw [hok] at he; cases he)
    obtain rfl : password = p := by rw [hok] at hp; injection hp
    refine Action.wp_bind (Q := fun res m' => res = .ok hashed ∧ m' = m₁)
      (wp_hashPassword (fun h hh' => by rw [hh] at hh'; cases hh'; exact ⟨rfl, rfl⟩)
        (fun hnone => by rw [hh] at hnone; cases hnone)) ?_ (by rintro _ _ ⟨h, -⟩; cases h)
    rintro _ m' ⟨⟨⟩, rfl⟩
    refine Action.wp_bind (Q := fun _ m' => Auth m'.config "password" (some hashed))
      (wp_saveOr (h₁.setHashedPassword _) (fun _ _ h => h) (fun _ _ _ h => h)) ?_
      (fun _ _ h => .of_auth h hpaired)
    intro _ m₂ h₂
    exact wp_saveOr (h₂.neutral (neutral_setAuthTokenForRole _ _))
      (fun _ _ h => .of_auth h hpaired) (fun _ _ _ h => .of_auth h hpaired)
  · have hmode' : body.localAuthMode = "noPassword" := hmode.resolve_left hpassword
    have hpaired : Paired b "noPassword" none := .none b (by decide)
    refine Action.wp_bind (Q := fun _ m' => Auth m'.config "noPassword" none)
      (wp_saveOr (hmode' ▸ ha.setAuthMode hmode) (fun _ _ h => h) (fun _ _ _ h => h)) ?_
      (fun _ _ h => .of_auth h hpaired)
    intro _ m₁ h₁
    rw [if_neg hpassword]
    refine Action.wp_bind (Q := fun _ m' => Auth m'.config "noPassword" none)
      (wp_saveOr (h₁.setHashedPassword _) (fun _ _ h => h) (fun _ _ _ h => h)) ?_
      (fun _ _ h => .of_auth h hpaired)
    intro _ m₂ h₂
    exact wp_saveOr (h₂.neutral neutral_clearAllAuthTokens)
      (fun _ _ h => .of_auth h hpaired) (fun _ _ _ h => .of_auth h hpaired)

theorem setup_inv (hverify : ∀ salt p h, b.hash salt p = some h → b.verify p h = true)
    (r : SetupCall) (hinv : PasswordInv b m.config) (hw : WritesPair b m (.setup r)) :
    Action.wp (handleDeviceSetup b r) (fun _ m' => PasswordInv b m'.config) m := by
  refine Action.wp_bind_of_result (setupPrelude_keeps AuthKept.refl AuthKept.trans
    (fun saved _ hf => keeps_update saved hf.toNeutral) r m) ?_ ?_
  · rintro body m' ⟨hkept, hbody⟩ hres
    obtain ⟨-, hallowed, hmode⟩ := hbody body rfl
    obtain ⟨mode, hash, ha, -⟩ := hinv
    obtain rfl : hash = none := ha.hash.symm.trans hallowed.2
    exact setupAuth_inv hverify r body (hkept.auth ha) hmode (hw body hres)
  · rintro _ m' ⟨hkept, -⟩
    exact hkept.inv hinv

theorem login_inv (r : LoginCall) (hinv : PasswordInv b m.config) :
    Action.wp (handleLoginLocal b r) (fun _ m' => PasswordInv b m'.config) m := by
  obtain ⟨mode, hash, ha, hp⟩ := hinv
  have hsame : PasswordInv b m.config := .of_auth ha hp
  unfold handleLoginLocal
  refine Action.wp_ofExcept_bind (fun _ _ => ?_) (fun _ _ => hsame)
  refine Action.wp_read_bind ?_
  refine Action.wp_ensure_bind (fun _ => ?_) (fun _ => hsame)
  refine Action.wp_ofExcept_bind (fun body _ => ?_) (fun _ _ => hsame)
  refine Action.wp_ofExcept_bind (fun role _ => ?_) (fun _ _ => hsame)
  refine Action.wp_ensure_bind (fun _ => ?_) (fun _ => hsame)
  refine Action.wp_bind (Q := fun _ m' => Auth m'.config mode hash)
    (wp_saveOr (ha.neutral (neutral_setAuthTokenForRole _ _)) (fun _ _ h => h) (fun _ _ _ h => h))
    ?_ (fun _ _ h => .of_auth h hp)
  intro _ m' h
  exact Action.wp_read_bind
    (Action.wp_ensure (fun _ => .of_auth h hp) (fun _ => .of_auth h hp))

theorem logout_inv (r : LogoutCall) (hinv : PasswordInv b m.config) :
    Action.wp (handleLogout r) (fun _ m' => PasswordInv b m'.config) m := by
  obtain ⟨mode, hash, ha, hp⟩ := hinv
  refine Action.wp_ofExcept_bind (fun _ _ => ?_) (fun _ _ => .of_auth ha hp)
  exact wp_saveOr (ha.neutral (neutral_setAuthTokenForRole _ _))
    (fun _ _ h => .of_auth h hp) (fun _ _ _ h => .of_auth h hp)

theorem create_inv (hverify : ∀ salt p h, b.hash salt p = some h → b.verify p h = true)
    (r : CreateCall) (hinv : PasswordInv b m.config) (hw : WritesPair b m (.create r)) :
    Action.wp (createPasswordLocal b r) (fun _ m' => PasswordInv b m'.config) m := by
  refine Action.wp_bind_of_result (createPrelude_spec b r m) ?_
    (by rintro _ _ ⟨rfl, -⟩; exact hinv)
  rintro hashed m₀ ⟨rfl, hres⟩ hret
  obtain ⟨-, p, hne, hh⟩ := hres hashed rfl
  obtain ⟨hsaved, htoken⟩ := hw hashed hret
  obtain ⟨mode, hash, ha, -⟩ := hinv
  have hpaired := Paired.fresh hverify hne hh
  refine Action.wp_bind (Q := fun res m' => res = .ok () ∧ Auth m'.config mode (some hashed))
    (wp_saveOr (ha.setHashedPassword _) (fun _ _ h => ⟨rfl, h⟩)
      (fun hfalse => absurd hsaved (by simp [hfalse]))) ?_ (by rintro _ _ ⟨h, -⟩; cases h)
  rintro _ m₁ ⟨-, h₁⟩
  refine Action.wp_bind (Q := fun res m' => res = .ok () ∧ Auth m'.config mode (some hashed))
    (wp_saveOr (h₁.neutral (neutral_setAuthTokenForRole _ _)) (fun _ _ h => ⟨rfl, h⟩)
      (fun hfalse => absurd htoken (by simp [hfalse]))) ?_ (by rintro _ _ ⟨h, -⟩; cases h)
  rintro _ m₂ ⟨-, h₂⟩
  exact wp_saveOr (h₂.setAuthMode (.inl rfl))
    (fun _ _ h => .of_auth h hpaired) (fun _ _ _ h => .of_auth h hpaired)

theorem modify_inv (hverify : ∀ salt p h, b.hash salt p = some h → b.verify p h = true)
    (r : ModifyCall) (hinv : PasswordInv b m.config) :
    Action.wp (modifyPasswordLocal b r) (fun _ m' => PasswordInv b m'.config) m := by
  refine Action.wp_bind (modifyPrelude_spec b r m) ?_ (by rintro _ _ ⟨rfl, -⟩; exact hinv)
  rintro hashed m₀ ⟨rfl, hres⟩
  obtain ⟨hguard, p, hne, hh⟩ := hres hashed rfl
  obtain ⟨mode, hash, ha, -⟩ := hinv
  obtain rfl : mode = "password" := ha.mode.symm.trans (passwordGuard_ok hguard).2
  have hpaired := Paired.fresh hverify hne hh
  refine Action.wp_bind (Q := fun _ m' => Auth m'.config "password" (some hashed))
    (wp_saveOr (ha.setHashedPassword _) (fun _ _ h => h) (fun _ _ _ h => h)) ?_
    (fun _ _ h => .of_auth h hpaired)
  intro _ m₁ h₁
  exact wp_saveOr (h₁.neutral (neutral_setAuthTokenForRole _ _))
    (fun _ _ h => .of_auth h hpaired) (fun _ _ _ h => .of_auth h hpaired)

theorem disable_inv (r : DisableCall) (hinv : PasswordInv b m.config)
    (hw : WritesPair b m (.disable r)) :
    Action.wp (disableLocalPassword b r) (fun _ m' => PasswordInv b m'.config) m := by
  refine Action.wp_bind_of_result (disablePrelude_spec b r m) ?_
    (by rintro _ _ ⟨rfl, -⟩; exact hinv)
  rintro _ m₀ ⟨rfl, -⟩ hret
  obtain ⟨hsaved, htokens⟩ := hw hret
  obtain ⟨mode, hash, ha, -⟩ := hinv
  have hpaired : Paired b "noPassword" none := .none b (by decide)
  refine Action.wp_bind (Q := fun res m' => res = .ok () ∧ Auth m'.config mode none)
    (wp_saveOr (ha.setHashedPassword _) (fun _ _ h => ⟨rfl, h⟩)
      (fun hfalse => absurd hsaved (by simp [hfalse]))) ?_ (by rintro _ _ ⟨h, -⟩; cases h)
  rintro _ m₁ ⟨-, h₁⟩
  refine Action.wp_bind (Q := fun res m' => res = .ok () ∧ Auth m'.config mode none)
    (wp_saveOr (h₁.neutral neutral_clearAllAuthTokens) (fun _ _ h => ⟨rfl, h⟩)
      (fun hfalse => absurd htokens (by simp [hfalse]))) ?_ (by rintro _ _ ⟨h, -⟩; cases h)
  rintro _ m₂ ⟨-, h₂⟩
  exact wp_saveOr (h₂.setAuthMode (.inr rfl))
    (fun _ _ h => .of_auth h hpaired) (fun _ _ _ h => .of_auth h hpaired)

theorem step_inv (hverify : ∀ salt p h, b.hash salt p = some h → b.verify p h = true)
    (m : ConfigManager) (req : Request) (m' : ConfigManager) (hinv : PasswordInv b m.config)
    (hw : WritesPair b m req) (hstep : step b m req = some m') : PasswordInv b m'.config := by
  obtain rfl : (handle b req m).1 = m' := Option.some.inj hstep
  cases req with
  | setup r => exact setup_inv hverify r hinv hw
  | login r => exact login_inv r hinv
  | logout r => exact logout_inv r hinv
  | create r => exact create_inv hverify r hinv hw
  | modify r => exact modify_inv hverify r hinv
  | disable r => exact disable_inv r hinv hw

end Step

/-! ## Whole runs -/

/-- A device that was never set up. -/
def Unconfigured (m : ConfigManager) : Prop := m.config.Valid ∧ SetupAllowed m.config

/-- In every run of requests none of which stops between its mode write and its
hash write, password mode goes exactly with a hash; the hash is of a password
that somebody can supply; and setup is open before it, one of create, modify and
disable after it. -/
theorem password_mode_iff_hash {b : Bcrypt}
    (hverify : ∀ salt p h, b.hash salt p = some h → b.verify p h = true)
    {m₀ m : ConfigManager} (hinit : Unconfigured m₀)
    (hrun : Run.Reach (step b) (WritesPair b) m₀ m) :
    (m.config.localAuthMode = "password" ↔ m.config.hashedPassword.isSome) ∧
      (m.config.localAuthMode = "password" →
        ∃ p, p ≠ "" ∧ validatePassword b m.config p = true) ∧
      (m.config.localAuthMode = "" → SetupAllowed m.config) ∧
      (m.config.localAuthMode ≠ "" →
        createGuard m.config = .ok () ∨ passwordGuard m.config = .ok ()) := by
  have hinv₀ : PasswordInv b m₀.config :=
    .of_auth ⟨hinit.1, hinit.2.1, hinit.2.2⟩ (.none b (by decide))
  obtain ⟨mode, hash, ha, hp⟩ := hrun.invariant (P := fun m => PasswordInv b m.config) hinv₀
    (step_inv hverify)
  have hmodes := (Config.valid_iff m.config).mp ha.valid |>.2.2.2
  rw [ha.mode] at hmodes
  simp only [SetupAllowed, createGuard, passwordGuard, validatePassword, ha.mode, ha.hash]
  refine ⟨hp.iff, ?_, ?_, ?_⟩
  · intro hmode
    obtain ⟨h, rfl⟩ := Option.isSome_iff_exists.mp (hp.iff.mp hmode)
    exact hp.known h rfl
  · rintro rfl
    have hnone : ¬ hash.isSome := fun hsome => absurd (hp.iff.mpr hsome) (by decide)
    exact ⟨rfl, by simpa using hnone⟩
  · intro hne
    simp only [List.mem_cons, hne, List.not_mem_nil, or_false, false_or] at hmodes
    rcases hmodes with rfl | rfl
    · have hsome : hash ≠ none := Option.isSome_iff_ne_none.mp (hp.iff.mp rfl)
      exact .inr (by simp [hsome])
    · have hnone : ¬ hash.isSome := fun hsome => absurd (hp.iff.mpr hsome) (by decide)
      exact .inl (by simp [hnone])

/-- A stand-in for bcrypt whose hashes are the password after a fixed text. -/
def markedBcrypt : Bcrypt where
  hash _ password := some ("$2b$12$" ++ password)
  verify password h := h == "$2b$12$" ++ password

/-- A device as it leaves the factory. -/
def freshDevice : ConfigManager :=
  { config := Config.default "dev", file := Config.default "dev" }

def passwordSetup (password : Option String) : SetupCall where
  origin := .ok ()
  body := .ok ⟨"password", password, none, none, none, none, none⟩
  audioSaved := true
  audioStarted := true
  uiSwitchSaved := true
  autoUpdateSaved := true
  updateChecked := true
  microphoneSaved := true
  usb := ⟨true, true, true, true⟩
  microphoneStarted := true
  modeSaved := true
  salt := 0
  hashedSaved := true
  token := ("t", "c", 0)
  tokenSaved := true

theorem unconfigured_freshDevice : Unconfigured freshDevice :=
  ⟨Config.valid_default "dev", rfl, rfl⟩

/-- After a complete setup the device is in password mode and the password opens it. -/
theorem password_mode_iff_hash_after_setup :
    ∃ m, Run.Reach (step markedBcrypt) (WritesPair markedBcrypt) freshDevice m ∧
      m.config.localAuthMode = "password" ∧ m.config.hashedPassword.isSome ∧
      (∃ p, p ≠ "" ∧ validatePassword markedBcrypt m.config p = true) ∧
      passwordGuard m.config = .ok () := by
  have hwrites : WritesPair markedBcrypt freshDevice (.setup (passwordSetup (some "pw"))) := by
    intro body hbody _
    obtain rfl : ⟨"password", some "pw", none, none, none, none, none⟩ = body :=
      Except.ok.inj ((by decide +kernel :
        (setupPrelude (passwordSetup (some "pw")) freshDevice).2 = .ok _).symm.trans hbody)
    exact ⟨rfl, "pw", rfl, rfl⟩
  have hrun : Run.Reach (step markedBcrypt) (WritesPair markedBcrypt) freshDevice
      (handle markedBcrypt (.setup (passwordSetup (some "pw"))) freshDevice).1 :=
    .tail .refl hwrites rfl
  have hmode : (handle markedBcrypt (.setup (passwordSetup (some "pw")))
      freshDevice).1.config.localAuthMode = "password" := by decide +kernel
  have hall := password_mode_iff_hash (b := markedBcrypt)
    (by rintro _ p h ⟨⟩; simp [markedBcrypt]) unconfigured_freshDevice hrun
  refine ⟨_, hrun, hmode, hall.1.mp hmode, hall.2.1 hmode, ?_⟩
  exact (hall.2.2.2 (by rw [hmode]; decide)).resolve_left (by decide +kernel)

/-- Setup in password mode without a password answers with an error and leaves
the device in password mode with no hash: it asks for a password that does not
exist, and setup, create, modify and disable are all refused. -/
theorem setup_without_password_locks_out :
    ∃ m, Run.Reach (step markedBcrypt) Run.anyStep freshDevice m ∧
      Unconfigured freshDevice ∧ m.config.localAuthMode = "password" ∧
      m.config.hashedPassword = none ∧ ¬ SetupAllowed m.config ∧
      createGuard m.config ≠ .ok () ∧ passwordGuard m.config ≠ .ok () := by
  refine ⟨(handle markedBcrypt (.setup (passwordSetup none)) freshDevice).1,
    .tail .refl trivial rfl, unconfigured_freshDevice, ?_⟩
  decide +kernel

end ArkKvm.Web
