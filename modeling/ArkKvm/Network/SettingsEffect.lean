import ArkKvm.Network.Settings

/-!
# What a settings call does

What `set_network_settings` writes to `network.conf`, and what it leaves behind when it
succeeds and when it fails.
-/

namespace ArkKvm

open NetworkConf

namespace NetworkSettings

/-! ## The file -/

def target (old new : NetworkConfig) (conf : Option String) : Option NetworkConfig :=
  if new.vlanSettings.vlanEnabled then
    if namesChanged (some old) new then some (withNames conf new) else none
  else if l3Changed (some old) new then some new
  else none

/-- What a call writes to `network.conf`, if it gets that far. -/
def written (settings : NetworkConfig) (s : NetworkStore) : Option NetworkConfig :=
  let old := s.manager.config.networkConfig
  let new := requested settings old
  if old = new then none else target old new s.conf

def confAfter (conf : Option String) : Option NetworkConfig → Option String
  | some config => some (networkConfigToIni config "committed")
  | none => conf

def Applied (io : SettingsIo) : Prop :=
  io.written = true → io.refreshed = true ∧ io.hostnameApplied = true

/-- The result of a step that is to write `target`: the encrypted configuration is
untouched; the file is written on success, and on failure when it is not taken over. -/
def Effect (io : SettingsIo) (target : Option NetworkConfig) (s : NetworkStore)
    (r : NetworkStore × Except SettingsError Unit) : Prop :=
  r.1.manager = s.manager ∧ (r.2 = .ok () → r.1.conf = confAfter s.conf target) ∧
    (Applied io → r.2 ≠ .ok () → r.1.conf = s.conf)

/-- The result of a step that writes `target` when `w` holds, and succeeds when `t` does
too: nothing that was written is taken back. -/
structure Writing (w t : Prop) (target : Option NetworkConfig) (s : NetworkStore)
    (r : NetworkStore × Except SettingsError Unit) : Prop where
  manager : r.1.manager = s.manager
  conf : w → r.1.conf = confAfter s.conf target
  skipped : ¬ w → r.1.conf = s.conf
  ok : r.2 = .ok () ↔ w ∧ t

theorem Writing.congr {w w' t t' : Prop} {target : Option NetworkConfig} {s : NetworkStore}
    {r : NetworkStore × Except SettingsError Unit} (h : Writing w t target s r)
    (hw : w ↔ w') (ht : t ↔ t') : Writing w' t' target s r := by
  rwa [propext hw, propext ht] at h

theorem Writing.effect {w t : Prop} {target : Option NetworkConfig} {s : NetworkStore}
    {r : NetworkStore × Except SettingsError Unit} {io : SettingsIo} (h : Writing w t target s r)
    (htaken : Applied io → w → t) : Effect io target s r := by
  refine ⟨h.manager, fun hok => h.conf (h.ok.mp hok).1, fun happlied hfail => h.skipped ?_⟩
  intro hw
  exact hfail (h.ok.mpr ⟨hw, htaken happlied hw⟩)

section Steps

variable (io : SettingsIo) (s : NetworkStore)

theorem writeNetworkConf_run (config : NetworkConfig) : writeNetworkConf io config s =
    if io.written = true then
      ({ s with conf := some (networkConfigToIni config "committed") }, .ok ())
    else (s, .error .write) := by
  unfold writeNetworkConf
  by_cases h : io.written = true
  · rw [Lib.Action.bind_of_ok (Lib.Action.ensure_of_pos h _ s), if_pos h]
    rfl
  · rw [Lib.Action.bind_of_error (Lib.Action.ensure_of_neg h _ s), if_neg h]

theorem writing_error {w t : Prop} {target : Option NetworkConfig} (hw : ¬ w) (e : SettingsError) :
    Writing w t target s (s, .error e) where
  manager := rfl
  conf := fun h => absurd h hw
  skipped := fun _ => rfl
  ok := ⟨nofun, fun h => absurd h.1 hw⟩

theorem writing_writeThen (config : NetworkConfig) (p : Prop) [Decidable p] (e : SettingsError) :
    Writing (io.written = true) p (some config) s ((do
      writeNetworkConf io config
      Lib.Action.ensure p e : Call) s) := by
  have hrun := writeNetworkConf_run io s config
  by_cases hwritten : io.written = true
  · rw [if_pos hwritten] at hrun
    rw [Lib.Action.bind_of_ok hrun]
    by_cases hp : p
    · rw [Lib.Action.ensure_of_pos hp]
      exact ⟨rfl, fun _ => rfl, fun h => absurd hwritten h, fun _ => ⟨hwritten, hp⟩, fun _ => rfl⟩
    · rw [Lib.Action.ensure_of_neg hp]
      exact ⟨rfl, fun _ => rfl, fun h => absurd hwritten h, nofun, fun h => absurd h.2 hp⟩
  · rw [if_neg hwritten] at hrun
    rw [Lib.Action.bind_of_error hrun]
    exact writing_error s hwritten .write

theorem writing_applyFlatNetwork (config : NetworkConfig) :
    Writing ((validateFlatIpv4 config = .ok () ∧ validateFlatIpv6 config = .ok ()) ∧
        io.written = true) (io.refreshed = true) (some config) s
      (applyFlatNetwork io config s) := by
  have hwrite := writing_writeThen io s config (io.refreshed = true) .refresh
  unfold applyFlatNetwork
  cases h4 : validateFlatIpv4 config with
  | error e => exact writing_error s (by simp) _
  | ok u4 =>
      cases h6 : validateFlatIpv6 config with
      | error e => exact writing_error s (by simp) _
      | ok u6 => exact hwrite.congr (by simp) Iff.rfl

theorem writing_applyHostnameDomainOnly (config : NetworkConfig) :
    Writing (io.written = true) (io.hostnameApplied = true) (some (withNames s.conf config)) s
      (applyHostnameDomainOnly io config s) :=
  writing_writeThen io s _ (io.hostnameApplied = true) .hostname

theorem updateProxy_run (proxy : Option String) :
    ∃ proxyEnv r, updateProxy io proxy s = ({ s with proxyEnv := proxyEnv }, r) ∧
      (r = .ok () ↔ proxy.all io.isUrl = true) := by
  unfold updateProxy
  cases proxy with
  | none => exact ⟨none, _, rfl, by simp⟩
  | some proxy =>
      dsimp only
      split
      · next hurl => exact ⟨some proxy, _, rfl, by simp [hurl]⟩
      · next hurl => exact ⟨none, _, rfl, nofun, fun h => absurd h hurl⟩

theorem applyNonL3Settings_run (old new : NetworkConfig) :
    ∃ proxyEnv r, applyNonL3Settings io (some old) new s = ({ s with proxyEnv := proxyEnv }, r) ∧
      (r = .ok () ↔ (old.httpProxy ≠ new.httpProxy → new.httpProxy.all io.isUrl = true)) := by
  unfold applyNonL3Settings
  by_cases hchanged : old.httpProxy ≠ new.httpProxy
  · rw [if_pos (by simpa using hchanged)]
    obtain ⟨proxyEnv, r, hrun, hok⟩ := updateProxy_run io s new.httpProxy
    exact ⟨proxyEnv, r, hrun, by simp [hok, hchanged]⟩
  · rw [if_neg (by simpa using hchanged)]
    exact ⟨s.proxyEnv, _, rfl, fun _ h => absurd h hchanged, fun _ => rfl⟩

end Steps

/-! ## The whole call -/

/-- The change gets past the writing of `network.conf`: the proxy is accepted, and what is
to be written is accepted and written. -/
structure Writes (io : SettingsIo) (old new : NetworkConfig) (target : Option NetworkConfig) :
    Prop where
  proxy : old.httpProxy ≠ new.httpProxy → new.httpProxy.all io.isUrl = true
  accepted : target ≠ none → new.vlanSettings.vlanEnabled = false →
    validateFlatIpv4 new = .ok () ∧ validateFlatIpv6 new = .ok ()
  written : target ≠ none → io.written = true

/-- The network takes over what was written: with a VLAN the names, without one all of it. -/
def TakenOver (io : SettingsIo) (new : NetworkConfig) (target : Option NetworkConfig) : Prop :=
  target ≠ none →
    (if new.vlanSettings.vlanEnabled = true then io.hostnameApplied else io.refreshed) = true

theorem writing_onConfigChanged (io : SettingsIo) (s : NetworkStore) (old new : NetworkConfig) :
    Writing (Writes io old new (target old new s.conf)) (TakenOver io new (target old new s.conf))
      (target old new s.conf) s (onConfigChanged io (some old) new s) := by
  obtain ⟨proxyEnv, r, hproxy, hok⟩ := applyNonL3Settings_run io s old new
  unfold onConfigChanged
  cases r with
  | error e =>
      rw [Lib.Action.bind_of_error hproxy]
      have hrefused := mt hok.mpr nofun
      exact ⟨rfl, fun h => absurd h.proxy hrefused, fun _ => rfl, nofun,
        fun h => absurd h.1.proxy hrefused⟩
  | ok u =>
      have haccepted := hok.mp rfl
      rw [Lib.Action.bind_of_ok hproxy]
      have hnothing : Writing (Writes io old new none) (TakenOver io new none) none s
          ({ s with proxyEnv := proxyEnv }, .ok ()) :=
        ⟨rfl, fun _ => rfl, fun _ => rfl,
          fun _ => ⟨⟨haccepted, by simp, by simp⟩, by simp [TakenOver]⟩, fun _ => rfl⟩
      unfold target
      by_cases hvlan : new.vlanSettings.vlanEnabled = true
      · rw [if_pos hvlan, if_pos hvlan]
        by_cases hnames : namesChanged (some old) new = true
        · rw [if_pos hnames, if_pos hnames]
          have hwrites : io.written = true ↔ Writes io old new (some (withNames s.conf new)) :=
            ⟨fun h => ⟨haccepted, fun _ hoff => by simp [hvlan] at hoff, fun _ => h⟩,
              fun h => h.written (by simp)⟩
          have htaken : io.hostnameApplied = true ↔
              TakenOver io new (some (withNames s.conf new)) := by simp [TakenOver, hvlan]
          have hwriting := (writing_applyHostnameDomainOnly io { s with proxyEnv := proxyEnv }
            new).congr hwrites htaken
          exact ⟨hwriting.manager, hwriting.conf, hwriting.skipped, hwriting.ok⟩
        · rw [if_neg hnames, if_neg hnames]
          exact hnothing
      · rw [if_neg hvlan, if_neg hvlan]
        by_cases hchanged : l3Changed (some old) new = true
        · rw [if_pos hchanged, if_pos hchanged]
          have hwrites : (validateFlatIpv4 new = .ok () ∧ validateFlatIpv6 new = .ok ()) ∧
              io.written = true ↔ Writes io old new (some new) :=
            ⟨fun h => ⟨haccepted, fun _ _ => h.1, fun _ => h.2⟩,
              fun h => ⟨h.accepted (by simp) (by simpa using hvlan), h.written (by simp)⟩⟩
          have htaken : io.refreshed = true ↔ TakenOver io new (some new) := by
            simp [TakenOver, hvlan]
          have hwriting := (writing_applyFlatNetwork io { s with proxyEnv := proxyEnv } new).congr
            hwrites htaken
          exact ⟨hwriting.manager, hwriting.conf, hwriting.skipped, hwriting.ok⟩
        · rw [if_neg hchanged, if_neg hchanged]
          exact hnothing

theorem takenOver_of_applied {io : SettingsIo} {old new : NetworkConfig}
    {target : Option NetworkConfig} (happlied : Applied io) (hwrites : Writes io old new target) :
    TakenOver io new target := by
  intro htarget
  have htaken := happlied (hwrites.written htarget)
  split
  · exact htaken.2
  · exact htaken.1

theorem setNetworkSettings_run (io : SettingsIo) (settings : NetworkConfig) (s : NetworkStore) :
    setNetworkSettings io settings s =
      (if s.manager.config.networkConfig ≠ requested settings s.manager.config.networkConfig then
        (do
          onConfigChanged io (some s.manager.config.networkConfig)
            (requested settings s.manager.config.networkConfig)
          saveNetworkConfig io (requested settings s.manager.config.networkConfig) : Call)
      else pure ()) s := rfl

theorem saveNetworkConfig_run (io : SettingsIo) (settings : NetworkConfig) (s : NetworkStore) :
    (saveNetworkConfig io settings s).1.conf = s.conf ∧
      (saveNetworkConfig io settings s).1.manager.config.networkConfig = settings ∧
      ((saveNetworkConfig io settings s).2 = .ok () ↔
        s.manager.config.Valid ∧ io.saved = true) := by
  have hconfig := ConfigManager.update_config io.saved
    (fun c => { c with networkConfig := settings }) s.manager
  have hok := ConfigManager.update_ok_iff io.saved
    (fun c => { c with networkConfig := settings }) s.manager
  refine ⟨rfl, ?_, ?_⟩
  · exact congrArg Config.networkConfig hconfig
  · refine Iff.trans ⟨Lib.Action.mapError_eq_ok, fun h => ?_⟩ hok
    exact congrArg (Except.mapError SettingsError.config) h

theorem setNetworkSettings_changed {settings : NetworkConfig} {s : NetworkStore} (io : SettingsIo)
    (h : s.manager.config.networkConfig ≠ requested settings s.manager.config.networkConfig) :
    ∃ s₁ r, Writing
        (Writes io s.manager.config.networkConfig
          (requested settings s.manager.config.networkConfig) (written settings s))
        (TakenOver io (requested settings s.manager.config.networkConfig) (written settings s))
        (written settings s) s (s₁, r) ∧
      ((∃ e, r = .error e ∧ setNetworkSettings io settings s = (s₁, .error e)) ∨
        (r = .ok () ∧ setNetworkSettings io settings s =
          saveNetworkConfig io (requested settings s.manager.config.networkConfig) s₁)) := by
  have hrun := setNetworkSettings_run io settings s
  rw [if_pos h] at hrun
  have hwriting := writing_onConfigChanged io s s.manager.config.networkConfig
    (requested settings s.manager.config.networkConfig)
  have hwritten : written settings s = target s.manager.config.networkConfig
      (requested settings s.manager.config.networkConfig) s.conf := if_neg h
  rw [← hwritten] at hwriting
  rcases hstep : onConfigChanged io (some s.manager.config.networkConfig)
    (requested settings s.manager.config.networkConfig) s with ⟨s₁, e | u⟩
  · rw [hstep] at hwriting
    rw [Lib.Action.bind_of_error hstep] at hrun
    exact ⟨s₁, _, hwriting, Or.inl ⟨e, rfl, hrun⟩⟩
  · rw [hstep] at hwriting
    rw [Lib.Action.bind_of_ok hstep] at hrun
    exact ⟨s₁, _, hwriting, Or.inr ⟨rfl, hrun⟩⟩

theorem setNetworkSettings_same {settings : NetworkConfig} {s : NetworkStore} (io : SettingsIo)
    (h : s.manager.config.networkConfig = requested settings s.manager.config.networkConfig) :
    setNetworkSettings io settings s = (s, .ok ()) := by
  rw [setNetworkSettings_run, if_neg (not_not.mpr h)]
  rfl

/-- The cases of a call: the settings are there already, a step fails, or they are saved. -/
theorem setNetworkSettings_cases (io : SettingsIo) (settings : NetworkConfig) (s : NetworkStore) :
    let old := s.manager.config.networkConfig
    let new := requested settings old
    (old = new ∧ setNetworkSettings io settings s = (s, .ok ())) ∨
      (old ≠ new ∧ ∃ s₁,
        ((∃ e, setNetworkSettings io settings s = (s₁, .error e) ∧
            Effect io (written settings s) s (s₁, .error e)) ∨
          (setNetworkSettings io settings s = saveNetworkConfig io new s₁ ∧
            Effect io (written settings s) s (s₁, .ok ())))) := by
  dsimp only
  by_cases hsame : s.manager.config.networkConfig =
      requested settings s.manager.config.networkConfig
  · exact Or.inl ⟨hsame, setNetworkSettings_same io hsame⟩
  · obtain ⟨s₁, r, hwriting, hrun⟩ := setNetworkSettings_changed io hsame
    have heffect := hwriting.effect takenOver_of_applied
    refine Or.inr ⟨hsame, s₁, ?_⟩
    rcases hrun with ⟨e, rfl, hrun⟩ | ⟨rfl, hrun⟩
    · exact Or.inl ⟨e, hrun, heffect⟩
    · exact Or.inr ⟨hrun, heffect⟩

theorem conf_of_ok {io : SettingsIo} {settings : NetworkConfig} {s s' : NetworkStore}
    (h : setNetworkSettings io settings s = (s', .ok ())) :
    s'.conf = confAfter s.conf (written settings s) := by
  rcases setNetworkSettings_cases io settings s with ⟨hsame, hrun⟩ | ⟨-, s₁, hrun⟩
  · rw [hrun] at h
    cases h
    unfold written
    rw [if_pos hsame]
    rfl
  · rcases hrun with ⟨e, hrun, -⟩ | ⟨hrun, -, hconf, -⟩
    · rw [hrun] at h
      cases h
    · rw [hrun] at h
      have hs : (saveNetworkConfig io _ s₁).1 = s' := congrArg Prod.fst h
      rw [← hs]
      exact hconf rfl

/-- With a VLAN only the names are written, without one the settings themselves. -/
theorem written_eq {settings c : NetworkConfig} {s : NetworkStore}
    (h : written settings s = some c) :
    c = (if (requested settings s.manager.config.networkConfig).vlanSettings.vlanEnabled = true
      then withNames s.conf (requested settings s.manager.config.networkConfig)
      else requested settings s.manager.config.networkConfig) := by
  unfold written target at h
  dsimp only at h
  split at h
  · cases h
  · split at h
    · next hvlan =>
        rw [if_pos hvlan]
        split at h
        · exact (Option.some.inj h).symm
        · cases h
    · next hvlan =>
        rw [if_neg hvlan]
        split at h
        · exact (Option.some.inj h).symm
        · cases h

end NetworkSettings

end ArkKvm
