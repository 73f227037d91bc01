import ArkKvm.Network.BootRuns
import ArkKvm.Network.FlatSettings

/-!
# Are network settings all or nothing?

A call writes `network.conf` first and the encrypted configuration last, and takes neither
back when a later step fails. What the file says is preferred when the settings are read,
and whether there is anything to write is asked of the encrypted configuration alone.
-/

namespace ArkKvm

open NetworkConf
open Lib.Ini (Plain)
open Migrate (BootIo boot flatFields)

abbrev NetworkStore.encrypted (s : NetworkStore) : NetworkConfig :=
  s.manager.config.networkConfig

namespace NetworkSettings

/-! ## What is read -/

def readFrom (enc : NetworkConfig) (conf : Option String) : NetworkConfig :=
  match conf with
  | some content => mergeL3FromFile enc (iniToNetworkConfig content)
  | none => enc

theorem getNetworkSettings_eq (s : NetworkStore) :
    getNetworkSettings s = readFrom s.encrypted s.conf := rfl

def flatSettings (c : NetworkConfig) : (Option String × Option String) ×
    (IpV4Mod × Option StaticIpConfig) × (IpV6Mod × Option StaticIpConfig) :=
  ((c.hostname, c.domain), flatFields c)

theorem flatSettings_eq_iff {c d : NetworkConfig} : flatSettings c = flatSettings d ↔
    (c.hostname = d.hostname ∧ c.domain = d.domain) ∧ flatFields c = flatFields d := by
  simp [flatSettings]

theorem flatSettings_of_l3Changed {old new : NetworkConfig}
    (h : ¬ l3Changed (some old) new = true) : flatSettings old = flatSettings new := by
  simp only [l3Changed, Option.all_some, Bool.or_eq_true, decide_eq_true_eq, not_or,
    not_not] at h
  obtain ⟨⟨⟨⟨⟨hhostname, hdomain⟩, hmode4⟩, h4⟩, hmode6⟩, h6⟩ := h
  simp [flatSettings, flatFields, *]

theorem flatSettings_requested (settings old : NetworkConfig) :
    flatSettings (requested settings old) = flatSettings settings := rfl

theorem flatSettings_readFrom {c d : NetworkConfig} (h : flatSettings c = flatSettings d)
    (conf : Option String) : flatSettings (readFrom c conf) = flatSettings (readFrom d conf) := by
  cases conf with
  | none => exact h
  | some content =>
      obtain ⟨⟨hhostname, hdomain⟩, -⟩ := flatSettings_eq_iff.mp h
      apply flatSettings_eq_iff.mpr
      refine ⟨⟨?_, ?_⟩, rfl⟩
      · show Option.orElse _ _ = Option.orElse _ _
        rw [hhostname]
      · show Option.orElse _ _ = Option.orElse _ _
        rw [hdomain]

def Survives (c : NetworkConfig) : Prop :=
  flatSettings (readFrom c (some (networkConfigToIni c "committed"))) = flatSettings c

theorem flatSettings_mergeL3FromFile {c file : NetworkConfig}
    (hhostname : file.hostname = c.hostname) (hdomain : file.domain = c.domain)
    (hfields : flatFields file = flatFields c) :
    flatSettings (mergeL3FromFile c file) = flatSettings c := by
  apply flatSettings_eq_iff.mpr
  refine ⟨⟨?_, ?_⟩, hfields⟩
  · show file.hostname.orElse (fun _ => c.hostname) = c.hostname
    rw [hhostname]
    cases c.hostname <;> rfl
  · show file.domain.orElse (fun _ => c.domain) = c.domain
    rw [hdomain]
    cases c.domain <;> rfl

/-- Named settings that the validators accept, whose static blocks stand in static mode only, and
whose texts, also those of a VLAN that is off, are plain. -/
structure FlatRequest (c : NetworkConfig) : Prop where
  flat : FlatSettings { c with vlanSettings := {} }
  endpoints : ∀ t ∈ endpointTexts c.vlanSettings.primaryVlan ++
    endpointTexts c.vlanSettings.secondaryVlan, Plain t

theorem FlatRequest.plain {c : NetworkConfig} (h : FlatRequest c) : ∀ t ∈ texts c, Plain t := by
  have hflat := h.flat.plain
  have hendpoints := h.endpoints
  simp only [texts, List.forall_mem_append] at hflat hendpoints ⊢
  exact ⟨⟨hflat.1.1, hendpoints.1⟩, hendpoints.2⟩

theorem survives_of_flat {c : NetworkConfig} (h : FlatRequest c) : Survives c := by
  have hread : iniToNetworkConfig (networkConfigToIni c "committed") = c.inFile :=
    iniToNetworkConfig_networkConfigToIni (by decide) h.plain
  have hplain : iniToNetworkConfig (networkConfigToIni { c with vlanSettings := {} } "committed") =
      ({ c with vlanSettings := {} } : NetworkConfig).inFile :=
    iniToNetworkConfig_networkConfigToIni (by decide) h.flat.plain
  have hnames := h.flat.names_read
  have hfields := h.flat.l3Fields_read
  rw [hplain] at hnames hfields
  simp only [l3Fields, Prod.mk.injEq] at hfields
  apply flatSettings_mergeL3FromFile
  · rw [hread]
    exact hnames.1
  · rw [hread]
    exact hnames.2
  · rw [hread]
    exact Prod.ext (Prod.ext hfields.1.1 hfields.1.2) (Prod.ext hfields.2.1.1 hfields.2.1.2)

def Agree (s : NetworkStore) : Prop :=
  flatSettings (getNetworkSettings s) = flatSettings s.encrypted

/-! ## One call -/

section Call

variable (io : SettingsIo) (settings : NetworkConfig) (s : NetworkStore)

/-- All or nothing: a failed call leaves what is read alone, and after a successful one
without a VLAN the settings are read that were asked for. -/
structure Kept : Prop where
  failed : (setNetworkSettings io settings s).2 ≠ .ok () →
    getNetworkSettings (setNetworkSettings io settings s).1 = getNetworkSettings s
  done : (setNetworkSettings io settings s).2 = .ok () →
    (requested settings s.encrypted).vlanSettings.vlanEnabled = false →
      flatSettings (getNetworkSettings (setNetworkSettings io settings s).1) =
        flatSettings settings

def Changes : Prop := s.encrypted ≠ requested settings s.encrypted

/-- The call gets past the writing of the file. -/
def FileWritten : Prop :=
  Writes io s.encrypted (requested settings s.encrypted) (written settings s)

def NetworkApplied : Prop :=
  TakenOver io (requested settings s.encrypted) (written settings s)

def Storable : Prop := s.manager.config.Valid ∧ io.saved = true

/-- What a call needs: a text that the network does not take over reads like the file
before; so do the new settings with their text when they cannot be stored; and where all
goes well the settings survive their own text, or the stores agreed when none is written. -/
structure Sound : Prop where
  untaken : Changes settings s → FileWritten io settings s → ¬ NetworkApplied io settings s →
    readFrom s.encrypted (confAfter s.conf (written settings s)) =
      readFrom s.encrypted s.conf
  unstored : Changes settings s → FileWritten io settings s → NetworkApplied io settings s →
    ¬ Storable io s →
      readFrom (requested settings s.encrypted) (confAfter s.conf (written settings s)) =
        readFrom s.encrypted s.conf
  stored : (Changes settings s → FileWritten io settings s ∧ NetworkApplied io settings s ∧
      Storable io s) → (requested settings s.encrypted).vlanSettings.vlanEnabled = false →
    (written settings s ≠ none → Survives (requested settings s.encrypted)) ∧
      (written settings s = none → Agree s)

/-- A condition on the request, the stores before the call and the outcomes of its steps.  Nothing
fails once the file is written; and where there is no VLAN, a request that is written to the file is
flat, and one that is not finds stores that agree. -/
structure Contained : Prop where
  settled : Changes settings s → FileWritten io settings s →
    NetworkApplied io settings s ∧ Storable io s
  flat : (requested settings s.encrypted).vlanSettings.vlanEnabled = false →
    l3Changed (some s.encrypted) (requested settings s.encrypted) = true →
      FileWritten io settings s → FlatRequest (requested settings s.encrypted)
  agree : (requested settings s.encrypted).vlanSettings.vlanEnabled = false →
    l3Changed (some s.encrypted) (requested settings s.encrypted) = false →
      (Changes settings s → FileWritten io settings s) → Agree s

end Call

variable {io : SettingsIo} {settings : NetworkConfig} {s : NetworkStore}

theorem call_of_not_written (h : Changes settings s) (hwritten : ¬ FileWritten io settings s) :
    (setNetworkSettings io settings s).2 ≠ .ok () ∧
      (setNetworkSettings io settings s).1.manager = s.manager ∧
      (setNetworkSettings io settings s).1.conf = s.conf := by
  obtain ⟨s₁, r, hwriting, hrun⟩ := setNetworkSettings_changed io h
  rcases hrun with ⟨e, rfl, hrun⟩ | ⟨rfl, -⟩
  · rw [hrun]
    exact ⟨nofun, hwriting.manager, hwriting.skipped hwritten⟩
  · exact absurd (hwriting.ok.mp rfl).1 hwritten

theorem encrypted_of_manager {s' : NetworkStore} (h : s'.manager = s.manager) :
    s'.encrypted = s.encrypted :=
  congrArg (·.config.networkConfig) h

theorem call_of_not_applied (h : Changes settings s) (hwritten : FileWritten io settings s)
    (happlied : ¬ NetworkApplied io settings s) :
    (setNetworkSettings io settings s).2 ≠ .ok () ∧
      (setNetworkSettings io settings s).1.encrypted = s.encrypted ∧
      (setNetworkSettings io settings s).1.conf = confAfter s.conf (written settings s) := by
  obtain ⟨s₁, r, hwriting, hrun⟩ := setNetworkSettings_changed io h
  rcases hrun with ⟨e, rfl, hrun⟩ | ⟨rfl, -⟩
  · have hmanager : s₁.manager = s.manager := hwriting.manager
    rw [hrun]
    exact ⟨nofun, congrArg (·.config.networkConfig) hmanager, hwriting.conf hwritten⟩
  · exact absurd (hwriting.ok.mp rfl).2 happlied

theorem call_of_applied (h : Changes settings s) (hwritten : FileWritten io settings s)
    (happlied : NetworkApplied io settings s) :
    ((setNetworkSettings io settings s).2 = .ok () ↔ Storable io s) ∧
      (setNetworkSettings io settings s).1.encrypted = requested settings s.encrypted ∧
      (setNetworkSettings io settings s).1.conf = confAfter s.conf (written settings s) := by
  obtain ⟨s₁, r, hwriting, hrun⟩ := setNetworkSettings_changed io h
  have hmanager : s₁.manager = s.manager := hwriting.manager
  rcases hrun with ⟨e, rfl, -⟩ | ⟨rfl, hrun⟩
  · cases hwriting.ok.mpr ⟨hwritten, happlied⟩
  · obtain ⟨hconf, hsettings, hok⟩ := saveNetworkConfig_run io
      (requested settings s.encrypted) s₁
    rw [hmanager] at hok
    rw [hrun]
    exact ⟨hok, hsettings, hconf.trans (hwriting.conf hwritten)⟩

theorem flatSettings_of_written_eq_none
    (hoff : (requested settings s.encrypted).vlanSettings.vlanEnabled = false)
    (h : written settings s = none) :
    flatSettings s.encrypted = flatSettings (requested settings s.encrypted) := by
  unfold written target at h
  dsimp only at h
  split at h
  · next hsame => exact congrArg flatSettings hsame
  · rw [if_neg (by simp [hoff])] at h
    split at h
    · cases h
    · next hunchanged => exact flatSettings_of_l3Changed hunchanged

/-- What is read after a call without a VLAN that went well. -/
theorem flatSettings_stored_iff
    (hoff : (requested settings s.encrypted).vlanSettings.vlanEnabled = false) :
    flatSettings (readFrom (requested settings s.encrypted)
        (confAfter s.conf (written settings s))) = flatSettings settings ↔
      (written settings s ≠ none → Survives (requested settings s.encrypted)) ∧
        (written settings s = none → Agree s) := by
  cases hwritten : written settings s with
  | none =>
      have hflat := flatSettings_of_written_eq_none hoff hwritten
      have hread := flatSettings_readFrom hflat s.conf
      unfold Agree
      rw [getNetworkSettings_eq, hread, hflat, flatSettings_requested]
      simp [confAfter]
  | some c =>
      have hc := written_eq hwritten
      rw [if_neg (by simp [hoff])] at hc
      rw [hc]
      simp [confAfter, Survives, flatSettings_requested]

theorem kept_iff_sound (io : SettingsIo) (settings : NetworkConfig) (s : NetworkStore) :
    Kept io settings s ↔ Sound io settings s := by
  constructor
  · intro h
    refine ⟨?_, ?_, ?_⟩
    · intro hchanges hwritten happlied
      obtain ⟨hfail, henc, hconf⟩ := call_of_not_applied hchanges hwritten happlied
      have hread := h.failed hfail
      rwa [getNetworkSettings_eq, getNetworkSettings_eq, henc, hconf] at hread
    · intro hchanges hwritten happlied hstorable
      obtain ⟨hok, henc, hconf⟩ := call_of_applied hchanges hwritten happlied
      have hread := h.failed (mt hok.mp hstorable)
      rwa [getNetworkSettings_eq, getNetworkSettings_eq, henc, hconf] at hread
    · intro hgood hoff
      apply (flatSettings_stored_iff hoff).mp
      by_cases hchanges : Changes settings s
      · obtain ⟨hwritten, happlied, hstorable⟩ := hgood hchanges
        obtain ⟨hok, henc, hconf⟩ := call_of_applied hchanges hwritten happlied
        have hread := h.done (hok.mpr hstorable) hoff
        rwa [getNetworkSettings_eq, henc, hconf] at hread
      · have hsame := not_not.mp hchanges
        have hrun := setNetworkSettings_same io hsame
        have hread := h.done (by rw [hrun]) hoff
        have hnone : written settings s = none := if_pos hsame
        rw [hrun, getNetworkSettings_eq] at hread
        rw [hnone, ← hsame]
        exact hread
  · intro h
    by_cases hchanges : Changes settings s
    · by_cases hwritten : FileWritten io settings s
      · by_cases happlied : NetworkApplied io settings s
        · obtain ⟨hok, henc, hconf⟩ := call_of_applied hchanges hwritten happlied
          refine ⟨fun hfail => ?_, fun hdone hoff => ?_⟩
          · rw [getNetworkSettings_eq, getNetworkSettings_eq, henc, hconf]
            exact h.unstored hchanges hwritten happlied (mt hok.mpr hfail)
          · rw [getNetworkSettings_eq, henc, hconf]
            exact (flatSettings_stored_iff hoff).mpr
              (h.stored (fun _ => ⟨hwritten, happlied, hok.mp hdone⟩) hoff)
        · obtain ⟨hfail, henc, hconf⟩ := call_of_not_applied hchanges hwritten happlied
          refine ⟨fun _ => ?_, fun hdone => absurd hdone hfail⟩
          rw [getNetworkSettings_eq, getNetworkSettings_eq, henc, hconf]
          exact h.untaken hchanges hwritten happlied
      · obtain ⟨hfail, hmanager, hconf⟩ := call_of_not_written hchanges hwritten
        refine ⟨fun _ => ?_, fun hdone => absurd hdone hfail⟩
        rw [getNetworkSettings_eq, getNetworkSettings_eq, encrypted_of_manager hmanager, hconf]
    · have hsame := not_not.mp hchanges
      have hrun := setNetworkSettings_same io hsame
      have hnone : written settings s = none := if_pos hsame
      refine ⟨fun hfail => absurd (by rw [hrun]) hfail, fun _ hoff => ?_⟩
      have hstored := (flatSettings_stored_iff hoff).mpr
        (h.stored (fun hch => absurd hch hchanges) hoff)
      rw [hnone, ← hsame] at hstored
      rw [hrun, getNetworkSettings_eq]
      exact hstored

/-! ## Runs -/

/-- Every call of a run meets `P` in the stores that it finds. -/
def EveryCall (P : SettingsIo → NetworkConfig → NetworkStore → Prop) :
    NetworkStore → List (SettingsIo × NetworkConfig) → Prop
  | _, [] => True
  | s, (io, settings) :: calls =>
      P io settings s ∧ EveryCall P (setNetworkSettings io settings s).1 calls

theorem EveryCall.imp {P Q : SettingsIo → NetworkConfig → NetworkStore → Prop}
    (himp : ∀ io settings s, P io settings s → Q io settings s) {s : NetworkStore}
    {calls : List (SettingsIo × NetworkConfig)} (h : EveryCall P s calls) :
    EveryCall Q s calls := by
  induction calls generalizing s with
  | nil => trivial
  | cons call calls ih =>
      obtain ⟨io, settings⟩ := call
      exact ⟨himp io settings s h.1, ih h.2⟩

theorem written_iff_l3Changed
    (hoff : (requested settings s.encrypted).vlanSettings.vlanEnabled = false) :
    written settings s ≠ none ↔
      l3Changed (some s.encrypted) (requested settings s.encrypted) = true := by
  unfold written target
  dsimp only
  rw [if_neg (by simp [hoff] : ¬ (requested settings
    s.manager.config.networkConfig).vlanSettings.vlanEnabled = true)]
  by_cases hsame : s.manager.config.networkConfig =
      requested settings s.manager.config.networkConfig
  · have hunchanged : l3Changed (some s.encrypted) (requested settings s.encrypted) = false := by
      show l3Changed (some s.manager.config.networkConfig)
        (requested settings s.manager.config.networkConfig) = false
      rw [← hsame]
      simp [l3Changed]
    rw [if_pos hsame, hunchanged]
    simp
  · rw [if_neg hsame]
    show (if l3Changed (some s.encrypted) (requested settings s.encrypted) = true then
      some (requested settings s.encrypted) else none) ≠ none ↔ _
    by_cases hl3 : l3Changed (some s.encrypted) (requested settings s.encrypted) = true
    · simp [hl3]
    · simp [hl3]

theorem sound_of_contained (h : Contained io settings s) : Sound io settings s where
  untaken := fun hchanges hwritten hnot => absurd (h.settled hchanges hwritten).1 hnot
  unstored := fun hchanges hwritten _ hnot => absurd (h.settled hchanges hwritten).2 hnot
  stored := by
    intro hgood hoff
    refine ⟨fun hwrites => ?_, fun hnone => ?_⟩
    · have hl3 := (written_iff_l3Changed hoff).mp hwrites
      have hchanges : Changes settings s := fun hsame => hwrites (if_pos hsame)
      exact survives_of_flat (h.flat hoff hl3 (hgood hchanges).1)
    · refine h.agree hoff (Bool.eq_false_iff.mpr fun hl3 => ?_) fun hchanges => (hgood hchanges).1
      exact (written_iff_l3Changed hoff).mpr hl3 hnone

/-- In a run whose calls all meet the condition in the stores that they find, every call is all or
nothing. -/
theorem settings_all_or_nothing (bootIo : BootIo) (device : LegacyStore)
    (calls : List (SettingsIo × NetworkConfig))
    (h : EveryCall Contained (boot bootIo device).1.toNetworkStore calls) :
    EveryCall Kept (boot bootIo device).1.toNetworkStore calls :=
  h.imp fun io settings s hcall => (kept_iff_sound io settings s).mpr (sound_of_contained hcall)

/-- The same condition without the stores: there is no VLAN, and the request is flat. -/
structure Calm (io : SettingsIo) (settings : NetworkConfig) (s : NetworkStore) : Prop where
  off : (requested settings s.encrypted).vlanSettings.vlanEnabled = false
  flat : FlatRequest (requested settings s.encrypted)
  settled : FileWritten io settings s → NetworkApplied io settings s ∧ Storable io s

theorem contained_of_calm (hagree : Agree s) (h : Calm io settings s) :
    Contained io settings s where
  settled := fun _ => h.settled
  flat := fun _ _ _ => h.flat
  agree := fun _ _ _ => hagree

theorem agree_of_calm (hagree : Agree s) (h : Calm io settings s) :
    Agree (setNetworkSettings io settings s).1 := by
  by_cases hchanges : Changes settings s
  · by_cases hwritten : FileWritten io settings s
    · have happlied := (h.settled hwritten).1
      obtain ⟨-, henc, hconf⟩ := call_of_applied hchanges hwritten happlied
      have hstored := (flatSettings_stored_iff h.off).mpr
        ⟨fun _ => survives_of_flat h.flat, fun _ => hagree⟩
      unfold Agree
      rw [getNetworkSettings_eq, henc, hconf, flatSettings_requested]
      exact hstored
    · obtain ⟨-, hmanager, hconf⟩ := call_of_not_written hchanges hwritten
      unfold Agree
      rw [getNetworkSettings_eq, encrypted_of_manager hmanager, hconf]
      exact hagree
  · rw [setNetworkSettings_same io (not_not.mp hchanges)]
    exact hagree

theorem everyCall_contained_of_calm {s : NetworkStore} {calls : List (SettingsIo × NetworkConfig)}
    (hagree : Agree s) (h : EveryCall Calm s calls) : EveryCall Contained s calls := by
  induction calls generalizing s with
  | nil => trivial
  | cons call calls ih =>
      obtain ⟨io, settings⟩ := call
      exact ⟨contained_of_calm hagree h.1, ih (agree_of_calm hagree h.1) h.2⟩

/-! ## Two runs -/

theorem requested_self {c : NetworkConfig} (h : c.httpProxy ≠ some "") : requested c c = c := by
  have hproxy : c.httpProxy.filter (· ≠ "") = c.httpProxy := by
    cases hc : c.httpProxy with
    | none => rfl
    | some proxy =>
        rw [hc] at h
        simpa [Option.filter] using h
  unfold requested
  rw [hproxy]
  split
  · rfl
  · rfl

theorem resubmit_of_not_applied (h : Changes settings s) (hwritten : FileWritten io settings s)
    (happlied : ¬ NetworkApplied io settings s) (hproxy : s.encrypted.httpProxy ≠ some "")
    (again : SettingsIo) :
    setNetworkSettings again s.encrypted (setNetworkSettings io settings s).1 =
      ((setNetworkSettings io settings s).1, .ok ()) := by
  obtain ⟨-, henc, -⟩ := call_of_not_applied h hwritten happlied
  apply setNetworkSettings_same
  show NetworkStore.encrypted _ = requested _ (NetworkStore.encrypted _)
  rw [henc, requested_self hproxy]

private def newDevice : LegacyStore where
  manager := ⟨Config.default "kvm", Config.default "kvm"⟩
  conf := none
  staticIp := none

private def firstBoot : BootIo := ⟨fun _ => true, true, true, true, true, false, true⟩

/-- A device after its first boot. -/
private def booted : NetworkStore := (boot firstBoot newDevice).1.toNetworkStore

private def renamedSettings : NetworkConfig := { hostname := some "kvm-2" }

private def refreshFails : SettingsIo := ⟨fun _ => true, true, false, true, true⟩

private def allWell : SettingsIo := ⟨fun _ => true, true, true, true, true⟩

theorem encrypted_booted : booted.encrypted = {} := rfl

theorem conf_booted : booted.conf = some (networkConfigToIni {} "committed") := by
  have hmigrated : Migrate.migrated firstBoot (Migrate.restarted newDevice) = some {} := rfl
  have hconf := Migrate.conf_of_migrated hmigrated rfl
  rwa [← (Migrate.boot_files firstBoot newDevice).1] at hconf

theorem getNetworkSettings_booted : getNetworkSettings booted = {} := by
  rw [getNetworkSettings_eq, encrypted_booted, conf_booted]
  show mergeL3FromFile {} (iniToNetworkConfig (networkConfigToIni {} "committed")) = {}
  rw [iniToNetworkConfig_networkConfigToIni (by decide) (by decide)]
  decide

theorem requested_booted : requested renamedSettings booted.encrypted = renamedSettings := by
  rw [encrypted_booted]
  rfl

theorem written_booted : written renamedSettings booted = some renamedSettings := by
  unfold written target
  rw [show booted.manager.config.networkConfig = {} from rfl]
  decide

theorem changes_booted : Changes renamedSettings booted := by
  unfold Changes
  rw [requested_booted, encrypted_booted]
  decide

private def fileFails : SettingsIo := ⟨fun _ => true, false, true, true, true⟩

theorem agree_booted : Agree booted := by
  unfold Agree
  rw [getNetworkSettings_booted, encrypted_booted]

theorem flatRequest_renamed : FlatRequest renamedSettings where
  flat :=
    { ipv4 := by decide
      ipv6 := by decide
      vlan := rfl
      hostname := ⟨"kvm-2", rfl, by decide, by decide⟩
      domain := ⟨"dhcp", rfl, by decide, by decide⟩
      dhcp := fun _ => rfl
      slaac := fun _ => rfl
      plainIpv4 := by decide
      plainIpv6 := by decide
      noMask := nofun }
  endpoints := by decide

theorem flatRequest_default : FlatRequest {} where
  flat :=
    { ipv4 := by decide
      ipv6 := by decide
      vlan := rfl
      hostname := ⟨"arkkvm", rfl, by decide, by decide⟩
      domain := ⟨"dhcp", rfl, by decide, by decide⟩
      dhcp := fun _ => rfl
      slaac := fun _ => rfl
      plainIpv4 := by decide
      plainIpv6 := by decide
      noMask := nofun }
  endpoints := by decide

theorem calm_of_default (henc : s.encrypted = {}) (hvalid : s.manager.config.Valid)
    (hasked : requested settings {} = settings) (hvlan : settings.vlanSettings.vlanEnabled = false)
    (hflat : FlatRequest settings) (hrefreshed : io.refreshed = true) (hsaved : io.saved = true) :
    Calm io settings s := by
  have hrequested : requested settings s.encrypted = settings := by rw [henc, hasked]
  refine ⟨by rw [hrequested, hvlan], by rw [hrequested]; exact hflat, fun _ => ⟨?_, hvalid, hsaved⟩⟩
  unfold NetworkApplied TakenOver
  rw [hrequested, if_neg (by simp [hvlan])]
  exact fun _ => hrefreshed

/-- The first call cannot write the file, the second one asks for the settings that were there, and
the third one goes well. -/
theorem settings_all_or_nothing_retried :
    (setNetworkSettings fileFails renamedSettings booted).2 ≠ .ok () ∧
    EveryCall Kept booted
      [(fileFails, renamedSettings), (allWell, {}), (allWell, renamedSettings)] := by
  have hvalid : booted.manager.config.Valid := by decide +kernel
  have hnot : ¬ FileWritten fileFails renamedSettings booted := by
    intro h
    have hwritten := h.written (by rw [written_booted]; nofun)
    cases hwritten
  obtain ⟨hfail, hmanager, -⟩ := call_of_not_written changes_booted hnot
  set failed := (setNetworkSettings fileFails renamedSettings booted).1
  have henc : failed.encrypted = {} := (encrypted_of_manager hmanager).trans encrypted_booted
  have hvalid' : failed.manager.config.Valid := by rw [hmanager]; exact hvalid
  have hsame : (setNetworkSettings allWell {} failed).1 = failed := by
    rw [setNetworkSettings_same]
    show failed.encrypted = requested {} failed.encrypted
    rw [henc]
    rfl
  have hfirst : Calm fileFails renamedSettings booted :=
    calm_of_default encrypted_booted hvalid rfl rfl flatRequest_renamed rfl rfl
  have hsecond : Calm allWell {} failed :=
    calm_of_default henc hvalid' rfl rfl flatRequest_default rfl rfl
  have hthird : Calm allWell renamedSettings (setNetworkSettings allWell {} failed).1 := by
    rw [hsame]
    exact calm_of_default henc hvalid' rfl rfl flatRequest_renamed rfl rfl
  exact ⟨hfail, settings_all_or_nothing firstBoot newDevice _
    (everyCall_contained_of_calm agree_booted ⟨hfirst, hsecond, hthird, trivial⟩)⟩

theorem fileWritten_booted : FileWritten refreshFails renamedSettings booted := by
  unfold FileWritten
  rw [requested_booted, encrypted_booted]
  exact ⟨nofun, fun _ _ => ⟨rfl, rfl⟩, fun _ => rfl⟩

theorem not_networkApplied_booted : ¬ NetworkApplied refreshFails renamedSettings booted := by
  unfold NetworkApplied
  rw [requested_booted, written_booted]
  exact fun h => absurd (h nofun) (by decide)

theorem hostname_refreshFails :
    (getNetworkSettings (setNetworkSettings refreshFails renamedSettings booted).1).hostname =
      some "kvm-2" := by
  obtain ⟨-, henc, hconf⟩ := call_of_not_applied changes_booted fileWritten_booted
    not_networkApplied_booted
  rw [getNetworkSettings_eq, henc, hconf, encrypted_booted, written_booted]
  show (mergeL3FromFile {} (iniToNetworkConfig
    (networkConfigToIni renamedSettings "committed"))).hostname = some "kvm-2"
  rw [iniToNetworkConfig_networkConfigToIni (by decide) (by decide)]
  decide

/-- The hostname of a call whose refresh fails is read afterwards, and submitting the
previous settings again succeeds and leaves it there. -/
theorem failed_hostname_stays :
    (¬ ∀ (bootIo : BootIo) (device : LegacyStore) (calls : List (SettingsIo × NetworkConfig)),
      EveryCall Kept (boot bootIo device).1.toNetworkStore calls) ∧
    let failed := (setNetworkSettings refreshFails renamedSettings booted).1
    setNetworkSettings allWell (getNetworkSettings booted) failed = (failed, .ok ()) ∧
      (getNetworkSettings failed).hostname = some "kvm-2" ∧
      ¬ Kept allWell (getNetworkSettings booted) failed := by
  obtain ⟨hfail, henc, -⟩ := call_of_not_applied changes_booted fileWritten_booted
    not_networkApplied_booted
  have hagain := resubmit_of_not_applied changes_booted fileWritten_booted
    not_networkApplied_booted (by rw [encrypted_booted]; nofun) allWell
  rw [encrypted_booted, ← getNetworkSettings_booted] at hagain
  refine ⟨fun h => ?_, hagain, hostname_refreshFails, fun hkept => ?_⟩
  · have hkept := (h firstBoot newDevice [(refreshFails, renamedSettings)]).1
    have hread := congrArg NetworkConfig.hostname (hkept.failed hfail)
    have hbooted : (getNetworkSettings booted).hostname = some "arkkvm" := by
      rw [getNetworkSettings_booted]
    have hboth := hostname_refreshFails.symm.trans (hread.trans hbooted)
    exact absurd hboth (by decide)
  · have hdone := hkept.done
    rw [hagain, henc, encrypted_booted, getNetworkSettings_booted] at hdone
    dsimp only at hdone
    have hread := (flatSettings_eq_iff.mp (hdone rfl rfl)).1.1
    exact absurd (hostname_refreshFails.symm.trans hread) (by decide)

end NetworkSettings

end ArkKvm
