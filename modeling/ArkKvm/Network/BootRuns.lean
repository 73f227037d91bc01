import ArkKvm.Lib.Run
import ArkKvm.Network.Interference
import ArkKvm.Network.Migrate
import ArkKvm.Network.SettingsEffect

/-!
# Boots and settings calls

Runs of boots and successful `set_network_settings` calls. A migration reads three files
and markers in the text of one of them; what the user wrote last stays in `network.conf`
as long as no legacy file waits for its turn and no text of a setting looks like a marker.
-/

namespace ArkKvm

open NetworkConf
open NetworkSettings (setNetworkSettings requested written)
open Lib.Ini (Plain)

/-! ## Markers in printed text -/

namespace Migrate

theorem contains_iff {text pattern : String} :
    contains text pattern = true ↔ pattern.toList <:+: text.toList := by
  simp [contains]

theorem marker_ne_nil : provisionalMarker.toList ≠ [] := by decide

theorem marker_of_printed {c : NetworkConfig} {mode v : String}
    (hmode : contains mode provisionalMarker = false) (hv : Printed c mode v)
    (h : provisionalMarker.toList <:+: v.toList) :
    ∃ t ∈ texts c, provisionalMarker.toList <:+: t.toList := by
  induction hv with
  | fixed hv =>
      have hfixed : ∀ v ∈ fixedValues, ¬ provisionalMarker.toList <:+: v.toList := by decide
      exact absurd h (hfixed _ hv)
  | text hv => exact ⟨_, hv, h⟩
  | mode =>
      rw [contains_iff.mpr h] at hmode
      cases hmode
  | servers hss =>
      rw [String.toList_intercalate] at h
      obtain ⟨v, hv, h⟩ := Lib.Text.infix_intercalate marker_ne_nil (by decide) h
      obtain ⟨t, ht, rfl⟩ := List.mem_map.mp hv
      exact ⟨t, hss t ht, h⟩
  | number n =>
      have hp : 'p' ∈ (toString n).toList := h.subset (by decide)
      change 'p' ∈ n.repr.toList at hp
      rw [Nat.toList_repr] at hp
      have hdigit := Nat.isDigit_of_mem_toDigits (by decide) (by decide) hp
      cases hdigit

theorem marker_in_texts {c : NetworkConfig} {mode : String}
    (hmode : contains mode provisionalMarker = false)
    (h : contains (networkConfigToIni c mode) provisionalMarker = true) :
    ∃ t ∈ texts c, contains t provisionalMarker = true := by
  simp only [contains_iff] at h ⊢
  have hfixed : ∀ v ∈ comment ++ (sectionNames.map fun name => '[' :: name.toList ++ [']']) ++
      keyNames.map (·.toList), ¬ provisionalMarker.toList <:+: v := by decide
  simp only [List.forall_mem_append, List.forall_mem_map] at hfixed
  obtain ⟨⟨hcomment, hheader⟩, hkey⟩ := hfixed
  rw [toList_networkConfigToIni] at h
  obtain ⟨l, hl, hinfix⟩ := Lib.Text.infix_unlines marker_ne_nil (by decide) h
  rcases List.mem_append.mp hl with hl | hl
  · exact absurd hinfix (hcomment l hl)
  obtain ⟨b, hb, hl⟩ := List.mem_flatMap.mp hl
  obtain ⟨hname, hentries⟩ := printed_blocks c mode b hb
  unfold Lib.Ini.Block.lines at hl
  rcases List.mem_append.mp hl with hl | hl
  · rcases List.mem_cons.mp hl with rfl | hl
    · exact absurd hinfix (hheader _ hname)
    · obtain ⟨e, he, rfl⟩ := List.mem_map.mp hl
      obtain ⟨hekey, hev⟩ := hentries e he
      rcases Lib.Text.infix_append_cons (by decide) hinfix with hin | hin
      · exact absurd hin (hkey _ hekey)
      · exact marker_of_printed hmode hev hin
  · rw [List.mem_singleton.mp hl] at hinfix
    exact absurd (List.infix_nil.mp hinfix) marker_ne_nil

/-! ## Runs -/

inductive Event
  | boot (io : BootIo)
  | set (io : SettingsIo) (settings : NetworkConfig)

/-- The stores, what the user wrote last with VLAN off, and whether a migration has fully
succeeded. -/
structure State where
  store : LegacyStore
  user : Option NetworkConfig
  complete : Bool

def writtenFlat (settings : NetworkConfig) (s : NetworkStore) : Option NetworkConfig :=
  (written settings s).filter fun _ =>
    ¬ (requested settings s.manager.config.networkConfig).vlanSettings.vlanEnabled

/-- The migration ended well, and it could read the legacy file, if there is one. -/
def completes (io : BootIo) (s : LegacyStore) : Bool :=
  (boot io s).2.isOk && (s.staticIp = none || io.staticRead)

/-- A boot, or a settings call that succeeds. -/
def step (s : State) : Event → Option State
  | .boot io => some {
      store := (boot io s.store).1
      user := s.user
      complete := s.complete || completes io s.store }
  | .set io settings =>
      match setNetworkSettings io settings s.store.toNetworkStore with
      | (_, .error _) => none
      | (store, .ok _) => some { s with
          store := { s.store with toNetworkStore := store }
          user := (writtenFlat settings s.store.toNetworkStore).orElse fun _ => s.user }

theorem step_boot (s : State) (io : BootIo) : step s (.boot io) = some {
    store := (boot io s.store).1
    user := s.user
    complete := s.complete || completes io s.store } := rfl

def flatFields (c : NetworkConfig) :
    (IpV4Mod × Option StaticIpConfig) × (IpV6Mod × Option StaticIpConfig) :=
  ((c.ipv4Mode, c.staticIpv4), (c.ipv6Mode, c.staticIpv6))

/-- `network.conf` says what the user wrote last, and a boot after a complete migration
has nothing to write. -/
def UserKept (s : State) : Prop :=
  (∀ c ∈ s.user, ∃ content ∈ s.store.conf,
    flatFields (iniToNetworkConfig content) = flatFields (normalized c "committed")) ∧
  (s.complete = true → ∀ io, migrated io (restarted s.store) = none)

def Unmarked (c : NetworkConfig) : Prop := ∀ t ∈ texts c, contains t provisionalMarker = false

/-- No legacy configuration is left to be merged. -/
def NoLegacy (s : LegacyStore) : Prop := s.staticIp.bind parseStaticIpConf = none

/-- What a step needs: nothing with the marker is written; the user writes flat settings
when no legacy configuration is left; and new names for a VLAN are plain. -/
def Undisturbed (s : State) : Event → Prop
  | .boot io => ∀ c ∈ migrated io (restarted s.store), Unmarked c
  | .set _ settings =>
      (∀ c ∈ written settings s.store.toNetworkStore, Unmarked c) ∧
      (writtenFlat settings s.store.toNetworkStore ≠ none → NoLegacy s.store) ∧
      ((requested settings s.store.manager.config.networkConfig).vlanSettings.vlanEnabled = true →
        (∀ name ∈ settings.hostname, Plain name) ∧ ∀ name ∈ settings.domain, Plain name)

/-! ## A settled file -/

/-- `network.conf` is the application's own, and nothing is left to be merged. -/
def Settled (s : LegacyStore) : Prop :=
  (∃ content, s.conf = some content ∧ isProvisionalOrDefaultTemplate content = false) ∧
    NoLegacy s

theorem legacyConfig_of_noLegacy {s : LegacyStore} (h : NoLegacy s) (io : BootIo) :
    legacyConfig io s = none := by
  unfold legacyConfig
  rw [h]
  exact ite_self none

theorem migrated_of_settled {s : LegacyStore} (h : Settled s) (io : BootIo) :
    migrated io s = none := by
  obtain ⟨⟨content, hconf, hmanaged⟩, hlegacy⟩ := h
  have hneeds : needsConf s = false := by
    unfold needsConf
    rw [hconf]
    exact hmanaged
  unfold migrated
  rw [legacyConfig_of_noLegacy hlegacy, hneeds]
  simp

theorem conf_of_needsConf {s : LegacyStore} (h : needsConf s = false) :
    ∃ content, s.conf = some content ∧ isProvisionalOrDefaultTemplate content = false := by
  unfold needsConf at h
  cases hconf : s.conf with
  | none =>
      rw [hconf] at h
      cases h
  | some content =>
      rw [hconf] at h
      exact ⟨content, rfl, h⟩

theorem noLegacy_of_legacyConfig {s : LegacyStore} {io : BootIo} (h : legacyConfig io s = none)
    (hread : s.staticIp = none ∨ io.staticRead = true) : NoLegacy s := by
  unfold NoLegacy
  rcases hread with hnone | hread
  · rw [hnone]
    rfl
  · unfold legacyConfig at h
    rwa [if_pos hread] at h

theorem settled_of_migrated_eq_none {s : LegacyStore} {io : BootIo} (h : migrated io s = none)
    (hread : s.staticIp = none ∨ io.staticRead = true) : Settled s := by
  unfold migrated at h
  dsimp only at h
  split at h
  · next hskip =>
      have hneeds : needsConf s = false := by simpa using hskip.2.1
      refine ⟨conf_of_needsConf hneeds, ?_⟩
      unfold NoLegacy
      rw [hskip.2.2]
      rfl
  · cases hlegacy : legacyConfig io s with
    | some static =>
        rw [hlegacy] at h
        cases h
    | none =>
        rw [hlegacy] at h
        cases hneeds : needsConf s with
        | true =>
            rw [hneeds] at h
            cases h
        | false => exact ⟨conf_of_needsConf hneeds, noLegacy_of_legacyConfig hlegacy hread⟩

theorem isProvisional_printed {c : NetworkConfig} (h : Unmarked c) :
    isProvisionalOrDefaultTemplate (networkConfigToIni c "committed") = false := by
  have hmarker : contains (networkConfigToIni c "committed") provisionalMarker = false := by
    rw [Bool.eq_false_iff]
    intro hin
    obtain ⟨t, ht, hmarked⟩ := marker_in_texts (by decide) hin
    rw [h t ht] at hmarked
    cases hmarked
  have hmanaged : contains (networkConfigToIni c "committed") "managed by arkkvm_app" = true := by
    rw [contains_iff, toList_eq_systemText]
    apply List.IsInfix.trans _ (List.prefix_append _ _).isInfix
    unfold systemText
    simp only [String.toList_append, List.append_assoc]
    apply List.IsInfix.trans _ (List.prefix_append _ _).isInfix
    decide
  unfold isProvisionalOrDefaultTemplate
  rw [hmarker, hmanaged]
  simp

/-! ## One step -/

theorem syncVlan_files (io : BootIo) (s : LegacyStore) :
    (syncVlan io s).conf = s.conf ∧ (syncVlan io s).staticIp = s.staticIp := by
  unfold syncVlan
  dsimp only
  split
  · exact ⟨rfl, rfl⟩
  · exact ⟨rfl, rfl⟩

theorem boot_files (io : BootIo) (s : LegacyStore) :
    (boot io s).1.conf = (maybeMigrateLegacyNetworkConfig io (restarted s)).1.conf ∧
      (boot io s).1.staticIp = (maybeMigrateLegacyNetworkConfig io (restarted s)).1.staticIp ∧
      (boot io s).2 = (maybeMigrateLegacyNetworkConfig io (restarted s)).2 := by
  have hsync := syncVlan_files io (maybeMigrateLegacyNetworkConfig io (restarted s)).1
  unfold boot applyProxy
  dsimp only
  split
  · exact ⟨hsync.1, hsync.2, rfl⟩
  · exact ⟨rfl, rfl, rfl⟩

theorem migrate_of_none {io : BootIo} {s : LegacyStore} (h : migrated io s = none) :
    maybeMigrateLegacyNetworkConfig io s = (s, .ok ()) := by
  unfold maybeMigrateLegacyNetworkConfig
  rw [Lib.Action.bind_of_ok (show Lib.Action.read s = (s, .ok s) from rfl), h]
  rfl

theorem boot_of_settled {s : LegacyStore} (h : Settled s) (io : BootIo) :
    (boot io s).1.conf = s.conf ∧ (boot io s).1.staticIp = s.staticIp := by
  have hfiles := boot_files io s
  rw [migrate_of_none (migrated_of_settled (s := restarted s) h io)] at hfiles
  exact ⟨hfiles.1, hfiles.2.1⟩

theorem Settled.of_files {s s' : LegacyStore} (h : Settled s) (hconf : s'.conf = s.conf)
    (hstatic : s'.staticIp = s.staticIp) : Settled s' := by
  unfold Settled NoLegacy at h ⊢
  rwa [hconf, hstatic]

theorem migrated_of_legacy {io : BootIo} {s : LegacyStore} {content : String}
    {static : StaticIpConfig} (hconf : s.conf = some content)
    (hmanaged : isProvisionalOrDefaultTemplate content = false)
    (hlegacy : legacyConfig io s = some static) :
    migrated io s = some { iniToNetworkConfig content with
      ipv4Mode := .static
      staticIpv4 := some static } := by
  have hneeds : needsConf s = false := by
    unfold needsConf
    rw [hconf]
    exact hmanaged
  have hstatic : s.staticIp ≠ none := by
    intro hnone
    unfold legacyConfig at hlegacy
    rw [hnone] at hlegacy
    simp at hlegacy
  unfold migrated
  rw [hlegacy, hneeds, hconf]
  simp [hstatic]

theorem conf_of_migrated {io : BootIo} {s : LegacyStore} {c : NetworkConfig}
    (h : migrated io s = some c) (hwritten : io.written = true) :
    (maybeMigrateLegacyNetworkConfig io s).1.conf = some (networkConfigToIni c "committed") := by
  unfold maybeMigrateLegacyNetworkConfig
  rw [Lib.Action.bind_of_ok (show Lib.Action.read s = (s, .ok s) from rfl), h]
  dsimp only
  rw [Lib.Action.bind_of_ok (Lib.Action.ensure_of_pos hwritten _ s),
    Lib.Action.bind_of_ok (show Lib.Action.modify _ s = (_, .ok ()) from rfl)]
  by_cases hrefreshed : io.refreshed = true
  · rw [Lib.Action.bind_of_ok (Lib.Action.ensure_of_pos hrefreshed _ _)]
    split
    · by_cases harchived : io.archived = true
      · rw [Lib.Action.bind_of_ok (Lib.Action.ensure_of_pos harchived _ _)]
        rfl
      · rw [Lib.Action.bind_of_error (Lib.Action.ensure_of_neg harchived _ _)]
    · rfl
  · rw [Lib.Action.bind_of_error (Lib.Action.ensure_of_neg hrefreshed _ _)]

theorem settled_of_migrate_ok {io : BootIo} {s s' : LegacyStore}
    (h : maybeMigrateLegacyNetworkConfig io s = (s', .ok ()))
    (hread : s.staticIp = none ∨ io.staticRead = true)
    (hunmarked : ∀ c ∈ migrated io s, Unmarked c) : Settled s' := by
  cases hmigrated : migrated io s with
  | none =>
      rw [migrate_of_none hmigrated] at h
      cases h
      exact settled_of_migrated_eq_none hmigrated hread
  | some c =>
      have hprinted := isProvisional_printed (hunmarked c hmigrated)
      unfold maybeMigrateLegacyNetworkConfig at h
      obtain ⟨s₀, s₁, hs₀, h⟩ := Lib.Action.bind_eq_ok h
      cases hs₀
      rw [hmigrated] at h
      dsimp only at h
      obtain ⟨u₁, s₂, hwrite, h⟩ := Lib.Action.bind_eq_ok h
      obtain ⟨-, rfl⟩ := Lib.Action.ensure_eq_ok hwrite
      obtain ⟨u₂, s₃, hmodify, h⟩ := Lib.Action.bind_eq_ok h
      cases hmodify
      obtain ⟨u₃, s₄, hrefresh, h⟩ := Lib.Action.bind_eq_ok h
      obtain ⟨-, rfl⟩ := Lib.Action.ensure_eq_ok hrefresh
      split at h
      · obtain ⟨u₄, s₅, harchive, h⟩ := Lib.Action.bind_eq_ok h
        obtain ⟨-, rfl⟩ := Lib.Action.ensure_eq_ok harchive
        cases h
        exact ⟨⟨_, rfl, hprinted⟩, rfl⟩
      · next hlegacy =>
          have hnone : legacyConfig io s = none := by simpa using hlegacy
          cases h
          exact ⟨⟨_, rfl, hprinted⟩, noLegacy_of_legacyConfig hnone hread⟩

theorem flatFields_inFile {c c' : NetworkConfig} (h : flatFields c = flatFields c') :
    flatFields c.inFile = flatFields c'.inFile := by
  simp only [flatFields, Prod.mk.injEq] at h
  obtain ⟨⟨hmode4, h4⟩, hmode6, h6⟩ := h
  unfold flatFields NetworkConfig.inFile
  dsimp only
  rw [hmode4, h4, hmode6, h6]

theorem flatFields_withNames (content : String) (config : NetworkConfig)
    (hhostname : ∀ name ∈ config.hostname, Plain name)
    (hdomain : ∀ name ∈ config.domain, Plain name) :
    flatFields (iniToNetworkConfig (networkConfigToIni
        (NetworkSettings.withNames (some content) config) "committed")) =
      flatFields (iniToNetworkConfig content) := by
  have hparsed := plain_of_mem_texts_parsed content
  have hplain : ∀ t ∈ texts (NetworkSettings.withNames (some content) config), Plain t := by
    simp only [texts, List.forall_mem_append] at hparsed
    unfold NetworkSettings.withNames
    simp only [texts, List.forall_mem_append]
    obtain ⟨⟨⟨⟨⟨-, -⟩, h4⟩, h6⟩, hprimary⟩, hsecondary⟩ := hparsed
    exact ⟨⟨⟨⟨⟨fun t ht => hhostname t (Option.mem_toList.mp ht),
      fun t ht => hdomain t (Option.mem_toList.mp ht)⟩, h4⟩, h6⟩, hprimary⟩, hsecondary⟩
  rw [iniToNetworkConfig_networkConfigToIni (by decide) hplain]
  have hread : flatFields (iniToNetworkConfig content).inFile =
      flatFields (iniToNetworkConfig content) := by
    rw [inFile_read]
    generalize iniToNetworkConfig content = r
    rfl
  rw [← hread]
  apply flatFields_inFile
  unfold NetworkSettings.withNames
  dsimp only
  generalize iniToNetworkConfig content = r
  rfl

structure Inv (s : State) : Prop where
  settled : s.user ≠ none ∨ s.complete = true → Settled s.store
  user : ∀ c ∈ s.user, ∃ content ∈ s.store.conf,
    flatFields (iniToNetworkConfig content) = flatFields (normalized c "committed")

theorem boot_inv {s : State} (h : Inv s) (io : BootIo)
    (hunmarked : ∀ c ∈ migrated io (restarted s.store), Unmarked c) :
    Inv { store := (boot io s.store).1
          user := s.user
          complete := s.complete || completes io s.store } := by
  have hkept : s.user ≠ none ∨ s.complete = true →
      (boot io s.store).1.conf = s.store.conf ∧ (boot io s.store).1.staticIp = s.store.staticIp :=
    fun hs => boot_of_settled (h.settled hs) io
  constructor
  · intro hs
    by_cases hbefore : s.user ≠ none ∨ s.complete = true
    · exact (h.settled hbefore).of_files (hkept hbefore).1 (hkept hbefore).2
    · have hcompletes : completes io s.store = true := by
        simp only [not_or] at hbefore
        rcases hs with hs | hs
        · exact absurd hs hbefore.1
        · simpa [hbefore.2] using hs
      obtain ⟨hconf, hstatic, hresult⟩ := boot_files io s.store
      unfold completes at hcompletes
      rw [hresult, Bool.and_eq_true, Bool.or_eq_true, decide_eq_true_iff] at hcompletes
      obtain ⟨hok, hread⟩ := hcompletes
      rcases hrun : maybeMigrateLegacyNetworkConfig io (restarted s.store) with ⟨s', e | u⟩
      · rw [hrun] at hok
        cases hok
      · have hsettled := settled_of_migrate_ok hrun hread hunmarked
        rw [hrun] at hconf hstatic
        exact hsettled.of_files hconf hstatic
  · intro c hc
    obtain ⟨content, hconf, hflat⟩ := h.user c hc
    have huser : s.user = some c := hc
    have hsame := (hkept (Or.inl (by simp [huser]))).1
    exact ⟨content, by rwa [Option.mem_def, hsame], hflat⟩

theorem set_inv {s : State} (h : Inv s) {io : SettingsIo} {settings : NetworkConfig}
    {store : NetworkStore}
    (hrun : setNetworkSettings io settings s.store.toNetworkStore = (store, .ok ()))
    (hguard : Undisturbed s (.set io settings)) :
    Inv { s with
      store := { s.store with toNetworkStore := store }
      user := (writtenFlat settings s.store.toNetworkStore).orElse fun _ => s.user } := by
  obtain ⟨hunmarked, hlegacy, hnames⟩ := hguard
  have hconf := NetworkSettings.conf_of_ok hrun
  cases hwritten : written settings s.store.toNetworkStore with
  | none =>
      rw [hwritten] at hconf
      unfold writtenFlat
      rw [hwritten]
      refine ⟨fun hs => (h.settled hs).of_files hconf rfl, fun c hc => ?_⟩
      obtain ⟨content, hcontent, hflat⟩ := h.user c hc
      exact ⟨content, hconf.trans hcontent, hflat⟩
  | some c =>
      rw [hwritten] at hconf hunmarked
      have hmanaged := isProvisional_printed (hunmarked c rfl)
      have heq := NetworkSettings.written_eq hwritten
      unfold writtenFlat at hlegacy ⊢
      rw [hwritten] at hlegacy ⊢
      by_cases hvlan : (requested settings
          s.store.manager.config.networkConfig).vlanSettings.vlanEnabled = true
      · rw [if_pos hvlan] at heq
        simp only [Option.filter, hvlan, not_true_eq_false, decide_false]
        refine ⟨fun hs => ⟨⟨_, hconf, hmanaged⟩, (h.settled hs).2⟩, fun c' hc' => ?_⟩
        obtain ⟨content, hcontent, hflat⟩ := h.user c' hc'
        have hsame := flatFields_withNames content
          (requested settings s.store.manager.config.networkConfig)
          (hnames hvlan).1 (hnames hvlan).2
        rw [Option.mem_def.mp hcontent] at heq
        rw [← heq, hflat] at hsame
        exact ⟨_, hconf, hsame⟩
      · simp only [Option.filter, hvlan] at hlegacy ⊢
        refine ⟨fun _ => ⟨⟨_, hconf, hmanaged⟩, hlegacy (by simp)⟩, fun c' hc' => ?_⟩
        have hc : c = c' := Option.some.inj hc'
        rw [← hc]
        exact ⟨_, hconf, rfl⟩

theorem step_inv (s : State) (ev : Event) (s' : State) (h : Inv s) (hguard : Undisturbed s ev)
    (hstep : step s ev = some s') : Inv s' := by
  cases ev with
  | boot io =>
      cases hstep
      exact boot_inv h io hguard
  | set io settings =>
      unfold step at hstep
      dsimp only at hstep
      split at hstep
      · cases hstep
      · next store u hrun =>
          cases hstep
          exact set_inv h hrun hguard

/-- Boots keep what the user wrote, and a complete migration is done once: in every run
where nothing with the marker is written, flat settings are written when no legacy
configuration is left, and new names for a VLAN are plain. -/
theorem boot_keeps_user_settings {store : LegacyStore} {s : State}
    (hrun : Lib.Run.Reach step Undisturbed ⟨store, none, false⟩ s) : UserKept s := by
  have hinit : Inv ⟨store, none, false⟩ :=
    ⟨fun h => by simp at h, fun c hc => by cases hc⟩
  have hinv : Inv s := hrun.invariant hinit fun s a s' h hok hs => step_inv s a s' h hok hs
  exact ⟨hinv.user, fun hcomplete io =>
    migrated_of_settled (s := restarted s.store) (hinv.settled (Or.inr hcomplete)) io⟩

/-! ## Two runs -/

private def oldDevice : LegacyStore where
  manager := ⟨Config.default "kvm", Config.default "kvm"⟩
  conf := none
  staticIp := some "ip=192.168.1.10\n"

/-- A boot whose steps succeed, except perhaps the refresh. -/
private def bootIo (refreshed : Bool) : BootIo :=
  ⟨fun _ => true, true, true, refreshed, true, false, true⟩

private def settingsIo : SettingsIo := ⟨fun _ => true, true, true, true, true⟩

private def legacyAddress : StaticIpConfig := ⟨"192.168.1.10", "255.255.255.0", "", []⟩

private def legacySettings : NetworkConfig where
  ipv4Mode := .static
  staticIpv4 := some legacyAddress

private def userSettings : NetworkConfig where
  ipv4Mode := .static
  staticIpv4 := some ⟨"10.0.0.5", "255.0.0.0", "10.0.0.1", ["10.0.0.1"]⟩

/-- The state after a first boot and a settings call. -/
private def afterUser (refreshed : Bool) : State where
  store := { (boot (bootIo refreshed) oldDevice).1 with
    toNetworkStore := (setNetworkSettings settingsIo userSettings
      (boot (bootIo refreshed) oldDevice).1.toNetworkStore).1 }
  user := some userSettings
  complete := refreshed

theorem set_afterUser (refreshed : Bool) :
    setNetworkSettings settingsIo userSettings (boot (bootIo refreshed) oldDevice).1.toNetworkStore =
      ((afterUser refreshed).store.toNetworkStore, .ok ()) := by
  have hok : (setNetworkSettings settingsIo userSettings
      (boot (bootIo refreshed) oldDevice).1.toNetworkStore).2 = .ok () := by
    cases refreshed
    · rfl
    · rfl
  exact Prod.ext rfl hok

theorem written_afterUser (refreshed : Bool) :
    written userSettings (boot (bootIo refreshed) oldDevice).1.toNetworkStore =
      some userSettings := by
  cases refreshed
  · rfl
  · rfl

theorem conf_afterUser (refreshed : Bool) :
    (afterUser refreshed).store.conf = some (networkConfigToIni userSettings "committed") := by
  have hconf := NetworkSettings.conf_of_ok (set_afterUser refreshed)
  rwa [written_afterUser] at hconf

theorem unmarked_userSettings : Unmarked userSettings := by
  unfold Unmarked
  decide

theorem user_afterUser (refreshed : Bool) : (afterUser refreshed).user = some userSettings := rfl

theorem steps_afterUser (refreshed : Bool) :
    step ⟨oldDevice, none, false⟩ (.boot (bootIo refreshed)) =
        some ⟨(boot (bootIo refreshed) oldDevice).1, none, refreshed⟩ ∧
      step ⟨(boot (bootIo refreshed) oldDevice).1, none, refreshed⟩
        (.set settingsIo userSettings) = some (afterUser refreshed) := by
  constructor
  · cases refreshed
    · rfl
    · rfl
  · unfold step writtenFlat
    dsimp only
    rw [set_afterUser, written_afterUser]
    cases refreshed
    · rfl
    · rfl

/-- When the migration has succeeded, the next boot keeps the user's address. -/
theorem boot_keeps_user_settings_again :
    UserKept ⟨(boot (bootIo true) (afterUser true).store).1, some userSettings, true⟩ := by
  have hsettled : Settled (afterUser true).store :=
    ⟨⟨_, conf_afterUser true, isProvisional_printed unmarked_userSettings⟩, rfl⟩
  refine boot_keeps_user_settings
    (show Lib.Run.Reach step Undisturbed ⟨oldDevice, none, false⟩ _ from ?_)
  apply Lib.Run.Reach.tail (s := afterUser true) (a := .boot (bootIo true))
  · apply Lib.Run.Reach.tail _ _ (steps_afterUser true).2
    · apply Lib.Run.Reach.tail .refl _ (steps_afterUser true).1
      intro c hc
      have hmigrated : migrated (bootIo true) (restarted oldDevice) = some legacySettings := rfl
      rw [hmigrated] at hc
      rw [← Option.mem_some.mp hc]
      unfold Unmarked
      decide
    · refine ⟨?_, fun _ => rfl, fun hvlan => by cases hvlan⟩
      dsimp only
      rw [written_afterUser]
      intro c hc
      rw [← Option.mem_some.mp hc]
      exact unmarked_userSettings
  · intro c hc
    rw [migrated_of_settled (s := restarted (afterUser true).store) hsettled] at hc
    cases hc
  · rfl

theorem flatFields_of_userKept {store : LegacyStore} {user : Option NetworkConfig} {complete : Bool}
    {c d : NetworkConfig} (h : UserKept ⟨store, user, complete⟩) (huser : user = some d)
    (hconf : store.conf = some (networkConfigToIni c "committed")) :
    flatFields (normalized c "committed") = flatFields (normalized d "committed") := by
  obtain ⟨content, hcontent, hflat⟩ := h.1 d huser
  have hsame : networkConfigToIni c "committed" = content :=
    Option.some.inj (hconf.symm.trans hcontent)
  rwa [← hsame] at hflat

theorem staticIpv4_of_flatFields {c d : NetworkConfig} (h : flatFields c = flatFields d) :
    c.staticIpv4 = d.staticIpv4 :=
  congrArg (·.1.2) h

private def mergedSettings : NetworkConfig :=
  { iniToNetworkConfig (networkConfigToIni userSettings "committed") with
    ipv4Mode := .static
    staticIpv4 := some legacyAddress }

theorem migrated_afterUser :
    migrated (bootIo true) (restarted (afterUser false).store) = some mergedSettings :=
  migrated_of_legacy (s := restarted (afterUser false).store) (conf_afterUser false)
    (isProvisional_printed unmarked_userSettings) rfl

theorem conf_afterBoot : (boot (bootIo true) (afterUser false).store).1.conf =
    some (networkConfigToIni mergedSettings "committed") := by
  have hwritten := conf_of_migrated migrated_afterUser rfl
  rwa [← (boot_files (bootIo true) (afterUser false).store).1] at hwritten

theorem plain_mergedSettings : ∀ t ∈ texts mergedSettings, Plain t := by
  have hparsed := plain_of_mem_texts_parsed (networkConfigToIni userSettings "committed")
  unfold mergedSettings
  simp only [texts, List.forall_mem_append] at hparsed ⊢
  obtain ⟨⟨⟨⟨hnames, -⟩, h6⟩, hprimary⟩, hsecondary⟩ := hparsed
  exact ⟨⟨⟨⟨hnames, by decide⟩, h6⟩, hprimary⟩, hsecondary⟩

theorem normalized_mergedSettings :
    (normalized mergedSettings "committed").staticIpv4 = some legacyAddress.inFile := by
  unfold normalized
  rw [iniToNetworkConfig_networkConfigToIni (by decide) plain_mergedSettings]
  rfl

theorem normalized_userSettings :
    (normalized userSettings "committed").staticIpv4 = userSettings.inFile.staticIpv4 := by
  unfold normalized
  rw [iniToNetworkConfig_networkConfigToIni (by decide) (by decide)]

/-- When its refresh has failed, the next boot merges the legacy file again. -/
theorem boot_overrides_user_settings :
    ¬ ∀ (store : LegacyStore) (s : State),
      Lib.Run.Reach step Lib.Run.anyStep ⟨store, none, false⟩ s → UserKept s := by
  intro h
  have hreach : Lib.Run.Reach step Lib.Run.anyStep _ _ :=
    ((Lib.Run.Reach.refl.tail trivial (steps_afterUser false).1).tail trivial
      (steps_afterUser false).2).tail trivial (step_boot (afterUser false) (bootIo true))
  have hflat := flatFields_of_userKept (h _ _ hreach) (user_afterUser false) conf_afterBoot
  have haddress := staticIpv4_of_flatFields hflat
  rw [normalized_mergedSettings, normalized_userSettings] at haddress
  exact absurd haddress (by decide)

end Migrate

end ArkKvm
