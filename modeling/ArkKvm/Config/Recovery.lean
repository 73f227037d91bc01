import ArkKvm.Config.Persistence

/-!
# Recovery from a damaged configuration file

Which contents of the primary file make `load` turn to the backup, and which configurations
come back after a save.
-/

namespace ArkKvm

namespace ConfigPersistence

variable {p : ConfigPersistence}

/-- The file is the encoding of a text that parses to `b`, and `b` passes `validate`. -/
def Encodes (p : ConfigPersistence) (contents : Bytes) (b : Config) : Prop :=
  ∃ nonce text, contents = p.encode nonce text ∧ p.codec.fromJson text = some b ∧ b.Valid

def OpensInvalid (p : ConfigPersistence) (contents : Bytes) : Prop :=
  ∃ text c, p.decode contents = .ok text ∧ p.codec.fromJson text = some c ∧ ¬ c.Valid

/-! ## Encoding -/

theorem utf8_of_ofUtf8 {bytes : Bytes} {text : String} (h : ofUtf8 bytes = some text) :
    bytes = utf8 text := by
  unfold ofUtf8 String.fromUTF8? at h
  split at h
  · cases h
    rfl
  · cases h

theorem decode_encode (h : p.codec.Lawful) (nonce : Nonce) (text : String) :
    p.decode (p.encode nonce text) = .ok text := by
  have hlen : nonce.bytes.length = nonceLen := nonce.length_bytes
  have hdrop : (p.encode nonce text).drop nonceLen =
      p.codec.encrypt p.getCode nonce (utf8 text) := by
    unfold encode
    rw [← hlen, List.drop_left]
  have hlong : ¬ (p.encode nonce text).length < nonceLen := by
    unfold encode
    rw [List.length_append]
    omega
  have hnonce : nonceOf (p.encode nonce text) hlong = nonce := by
    apply Nonce.ext
    show (nonce.bytes ++ p.codec.encrypt p.getCode nonce (utf8 text)).take nonceLen = nonce.bytes
    rw [← hlen, List.take_left]
  unfold decode
  rw [dif_neg hlong, hnonce, hdrop, h.decrypt_encrypt]
  dsimp only
  rw [ofUtf8_utf8]

theorem eq_encode_of_decode (h : p.codec.Lawful) {contents : Bytes} {text : String}
    (hdecode : p.decode contents = .ok text) : ∃ nonce, contents = p.encode nonce text := by
  unfold decode at hdecode
  split at hdecode
  · cases hdecode
  next hlong =>
  split at hdecode
  · cases hdecode
  next plain hplain =>
    split at hdecode
    · cases hdecode
    next text' htext =>
      cases hdecode
      refine ⟨nonceOf contents hlong, ?_⟩
      unfold encode
      rw [← utf8_of_ofUtf8 htext, ← h.eq_encrypt_of_decrypt _ _ _ _ hplain]
      exact (List.take_append_drop nonceLen contents).symm

theorem encode_ne_nil (nonce : Nonce) (text : String) : p.encode nonce text ≠ [] := by
  intro hnil
  have hlen := nonce.length_bytes
  rw [(List.append_eq_nil_iff.mp hnil).1] at hlen
  cases hlen

/-! ## The merge defaults -/

theorem normalize_mergeDefaults (c : Config) :
    (p.mergeDefaults c).normalize = p.mergeDefaults c.normalize := rfl

/-! ## Loading one file -/

theorem loadFromFile_of_encodes (h : p.codec.Lawful) {contents : Bytes} {b : Config}
    (hencodes : p.Encodes contents b) :
    p.loadFromFile true contents = .ok (p.mergeDefaults b.normalize) := by
  obtain ⟨nonce, text, rfl, hparse, hvalid⟩ := hencodes
  have hvalidate : (p.mergeDefaults b).validate = (p.mergeDefaults b.normalize, .ok ()) := by
    unfold Config.validate
    rw [if_pos (show (p.mergeDefaults b).errors = [] from hvalid), normalize_mergeDefaults]
  unfold loadFromFile
  rw [if_neg (by decide), if_neg (encode_ne_nil nonce text), decode_encode h]
  simp only [bind, Except.bind, parseAndMergeConfig, hparse, hvalidate]

theorem loadFromFile_of_opensInvalid {contents : Bytes} (hne : contents ≠ [])
    (hinvalid : p.OpensInvalid contents) :
    p.loadFromFile true contents = .ok (Config.default p.deviceId) := by
  obtain ⟨text, c, hdecode, hparse, hvalid⟩ := hinvalid
  have hvalidate : (p.mergeDefaults c).validate =
      ((p.mergeDefaults c).normalize, .error (p.mergeDefaults c).errors) := by
    unfold Config.validate
    rw [if_neg (show ¬ (p.mergeDefaults c).errors = [] from hvalid)]
  unfold loadFromFile
  rw [if_neg (by decide), if_neg hne, hdecode]
  simp only [bind, Except.bind, parseAndMergeConfig, hparse, hvalidate]

theorem loadFromFile_error (h : p.codec.Lawful) {contents : Bytes} (hne : contents ≠ [])
    (hencodes : ∀ b, ¬ p.Encodes contents b) (hinvalid : ¬ p.OpensInvalid contents) :
    ∃ e, p.loadFromFile true contents = .error e := by
  unfold loadFromFile
  rw [if_neg (by decide), if_neg hne]
  cases hdecode : p.decode contents with
  | error e => exact ⟨e, rfl⟩
  | ok text =>
      cases hparse : p.codec.fromJson text with
      | none => exact ⟨.parse, by simp only [bind, Except.bind, parseAndMergeConfig, hparse]⟩
      | some c =>
          obtain ⟨nonce, hcontents⟩ := eq_encode_of_decode h hdecode
          by_cases hvalid : c.Valid
          · exact absurd ⟨nonce, text, hcontents, hparse, hvalid⟩ (hencodes c)
          · exact absurd ⟨text, c, hdecode, hparse, hvalid⟩ hinvalid

theorem loadFromFile_unread (contents : Bytes) :
    p.loadFromFile false contents = .error .read := by
  unfold loadFromFile
  rw [if_pos rfl]

theorem loadFromFile_empty : p.loadFromFile true [] = .ok (Config.default p.deviceId) := by
  unfold loadFromFile
  rw [if_neg (by decide), if_pos rfl]

/-! ## Loading -/

/-- The primary file is one that `load` takes for damaged. -/
def Damaged (p : ConfigPersistence) (io : LoadIo) (contents : Bytes) : Prop :=
  io.primaryRead = false ∨ (contents ≠ [] ∧ ¬ p.OpensInvalid contents)

theorem loadFromFile_primary (h : p.codec.Lawful) {io : LoadIo} {contents : Bytes}
    (hencodes : ∀ b, ¬ p.Encodes contents b) :
    (p.Damaged io contents → ∃ e, p.loadFromFile io.primaryRead contents = .error e) ∧
      (¬ p.Damaged io contents →
        p.loadFromFile io.primaryRead contents = .ok (Config.default p.deviceId)) := by
  unfold Damaged
  cases hread : io.primaryRead with
  | false => exact ⟨fun _ => ⟨_, loadFromFile_unread contents⟩, fun hn => absurd (.inl rfl) hn⟩
  | true =>
      constructor
      · rintro (hfalse | ⟨hne, hinvalid⟩)
        · cases hfalse
        · exact loadFromFile_error h hne hencodes hinvalid
      · intro hn
        by_cases hne : contents = []
        · rw [hne]
          exact loadFromFile_empty
        · apply loadFromFile_of_opensInvalid hne
          by_contra hinvalid
          exact hn (.inr ⟨hne, hinvalid⟩)

theorem load_of_damaged {io : LoadIo} {contents backup : Bytes} {temp : Option Bytes}
    {e : LoadError} (hprimary : p.loadFromFile io.primaryRead contents = .error e) :
    p.load io ⟨some contents, some backup, temp⟩ =
      match p.loadFromFile io.backupRead backup with
      | .ok c => (⟨some (leaves io.restoreFault backup), some backup, temp⟩, .ok c)
      | .error _ => (⟨some contents, some backup, temp⟩, .ok (Config.default p.deviceId)) := by
  cases hbackup : p.loadFromFile io.backupRead backup with
  | ok c => simp only [load, hprimary, hbackup]
  | error e' => simp only [load, hprimary, hbackup]

/-- `load` returns `b` with the merge defaults and leaves the backup in both places. -/
def Recovers (p : ConfigPersistence) (io : LoadIo) (contents backup : Bytes)
    (temp : Option Bytes) (b : Config) : Prop :=
  p.load io ⟨some contents, some backup, temp⟩ =
    (⟨some backup, some backup, temp⟩, .ok (p.mergeDefaults b))

theorem recovers_of_damaged (h : p.codec.Lawful) {io : LoadIo} {contents backup : Bytes}
    {temp : Option Bytes} {b : Config} (hcontents : ∀ c, ¬ p.Encodes contents c)
    (hbackup : p.Encodes backup b) (hread : io.backupRead = true)
    (hrestored : io.restoreFault = none) (hdamaged : p.Damaged io contents) :
    p.Recovers io contents backup temp b.normalize := by
  obtain ⟨e, he⟩ := (loadFromFile_primary h hcontents).1 hdamaged
  unfold Recovers
  rw [load_of_damaged he, hread, loadFromFile_of_encodes h hbackup, hrestored]
  rfl

theorem load_defaults (h : p.codec.Lawful) {io : LoadIo} {files : ConfigFiles} {contents : Bytes}
    (hprimary : files.primary = some contents) (hcontents : ∀ c, ¬ p.Encodes contents c)
    (hdamaged : ¬ p.Damaged io contents) :
    p.load io files = (files, .ok (Config.default p.deviceId)) := by
  unfold load
  rw [hprimary]
  dsimp only
  rw [(loadFromFile_primary h hcontents).2 hdamaged]

/-! ## Saving and loading -/

/-- The save meets no fault; a failed backup is one. -/
def Undisturbed (io : SaveIo) : Prop :=
  io.dirCreated = true ∧ io.backupFault = none ∧ io.tempFault = none ∧ io.renamed = true

theorem primary_save {io : SaveIo} (hio : Undisturbed io) (c : Config) (files : ConfigFiles) :
    (p.save io c files).1.primary = some (p.encode io.nonce (p.codec.toJson c)) := by
  obtain ⟨hdir, -, htemp, hrenamed⟩ := hio
  unfold save
  rw [if_neg (by rw [hdir]; decide), htemp]
  dsimp only
  rw [if_neg (by rw [hrenamed]; decide)]

theorem load_of_encodes (h : p.codec.Lawful) {files : ConfigFiles} {contents : Bytes} {b : Config}
    (hprimary : files.primary = some contents) (hencodes : p.Encodes contents b) {io : LoadIo}
    (hread : io.primaryRead = true) :
    (p.load io files).2 = .ok (p.mergeDefaults b.normalize) := by
  unfold load
  rw [hprimary]
  dsimp only
  rw [hread, loadFromFile_of_encodes h hencodes]

theorem load_save (h : p.codec.Lawful) {c : Config} (hvalid : c.Valid) (hfinite : c.Finite)
    {saveIo : SaveIo} (files : ConfigFiles) {io : LoadIo} (hsave : Undisturbed saveIo)
    (hread : io.primaryRead = true) :
    (p.load io (p.save saveIo c files).1).2 = .ok (p.mergeDefaults c.normalize) := by
  have hencodes : p.Encodes (p.encode saveIo.nonce (p.codec.toJson c)) c :=
    ⟨saveIo.nonce, _, rfl, h.fromJson_toJson c hfinite, hvalid⟩
  exact load_of_encodes h (primary_save hsave c files) hencodes hread

/-- A damaged file is replaced by its backup, except that an empty file and one that does not
validate count as the defaults; and a saved configuration comes back. -/
theorem load_recovers (p : ConfigPersistence) (h : p.codec.Lawful) :
    (∀ (io : LoadIo) (contents backup : Bytes) (temp : Option Bytes) (b : Config),
      (∀ c, ¬ p.Encodes contents c) → p.Encodes backup b → io.backupRead = true →
        io.restoreFault = none →
        (p.Damaged io contents → p.Recovers io contents backup temp b.normalize) ∧
        (¬ p.Damaged io contents →
          p.load io ⟨some contents, some backup, temp⟩ =
            (⟨some contents, some backup, temp⟩, .ok (Config.default p.deviceId)))) ∧
      ∀ (c : Config) (saveIo : SaveIo) (files : ConfigFiles) (io : LoadIo), c.Valid → c.Finite →
        Undisturbed saveIo → io.primaryRead = true →
          (p.load io (p.save saveIo c files).1).2 = .ok (p.mergeDefaults c.normalize) := by
  constructor
  · intro io contents backup temp b hcontents hbackup hread hrestored
    constructor
    · intro hdamaged
      exact recovers_of_damaged h hcontents hbackup hread hrestored hdamaged
    · intro hdamaged
      exact load_defaults h rfl hcontents hdamaged
  · intro c saveIo files io hvalid hfinite hsave hread
    exact load_save h hvalid hfinite files hsave hread

/-! ## A sample board -/

instance : Countable Char :=
  Function.Injective.countable (f := Char.toNat) fun _ _ h => Char.ext (UInt32.toNat_inj.mp h)

instance : Countable String :=
  Function.Injective.countable (f := String.toList) fun _ _ h => String.toList_inj.mp h

deriving instance Countable for WakeOnLanDevice, KeyboardMacroStep, KeyboardMacro, UsbConfig,
  NetworkAdapterType, NetworkAdapterL3, NetworkAdapter, UsbDevices, IpV4Mod, IpV6Mod,
  StaticIpConfig, VlanEndpointConfig, VlanSettings, NetworkConfig, UISwitch, VirtualMediaItem,
  JigglerConfig, TlsMode, FileTransferTarget, Config

/-- Configurations have numbers, so that they can be written as texts and read again. -/
theorem exists_configNumber : ∃ f : Config → Nat, Function.Injective f :=
  exists_injective_nat Config

noncomputable def configNumber : Config → Nat := exists_configNumber.choose

theorem configNumber_injective : Function.Injective configNumber := exists_configNumber.choose_spec

/-- A codec without secrecy: JSON texts are numbers, and the cipher keeps the text. -/
noncomputable def plainCodec : Codec where
  sha256 := fun _ => List.replicate 32 0
  encrypt := fun _ _ plain => plain
  decrypt := fun _ _ sealedText => some sealedText
  toJson := fun c => (configNumber c).repr
  fromJson := fun text => text.toNat?.bind (Function.partialInv configNumber)

theorem plainCodec_lawful : plainCodec.Lawful where
  decrypt_encrypt := fun _ _ _ => rfl
  eq_encrypt_of_decrypt := fun _ _ _ _ h => Option.some.inj h
  fromJson_toJson := by
    intro c _
    show (configNumber c).repr.toNat?.bind _ = some c
    rw [Nat.toNat?_repr, Option.bind_some]
    exact Function.partialInv_left configNumber_injective c

def zeroNonce : Nonce := ⟨List.replicate 12 0, rfl⟩

noncomputable def sampleBoard : ConfigPersistence := ⟨plainCodec, "kvm"⟩

private def locked : Config := { Config.default "kvm" with localAuthMode := "password" }

private noncomputable def lockedFile : Bytes :=
  sampleBoard.encode zeroNonce (sampleBoard.codec.toJson locked)

theorem encodes_lockedFile : sampleBoard.Encodes lockedFile locked :=
  ⟨zeroNonce, _, rfl, plainCodec_lawful.fromJson_toJson locked (by unfold locked; decide),
    by unfold locked; decide⟩

theorem not_encodes_of_short {contents : Bytes} (hshort : contents.length < nonceLen) (c : Config) :
    ¬ p.Encodes contents c := by
  rintro ⟨nonce, text, rfl, -⟩
  have hlen := nonce.length_bytes
  unfold encode nonceLen at hshort
  rw [List.length_append] at hshort
  omega

/-- A truncated file is replaced by its backup, and the password mode survives a save. -/
theorem load_recovers_truncated :
    sampleBoard.Recovers {} [1, 2, 3] lockedFile none locked.normalize ∧
      (sampleBoard.load {} (sampleBoard.save { nonce := zeroNonce } locked {}).1).2 =
        .ok (sampleBoard.mergeDefaults locked.normalize) := by
  obtain ⟨hrecovers, hback⟩ := load_recovers sampleBoard plainCodec_lawful
  constructor
  · apply (hrecovers {} [1, 2, 3] lockedFile none locked
      (not_encodes_of_short (by decide)) encodes_lockedFile rfl rfl).1
    refine .inr ⟨by decide, ?_⟩
    rintro ⟨text, c, hdecode, -⟩
    unfold decode at hdecode
    rw [dif_pos (by decide)] at hdecode
    cases hdecode
  · exact hback locked { nonce := zeroNonce } {} {} (by unfold locked; decide)
      (by unfold locked; decide) ⟨rfl, rfl, rfl, rfl⟩ rfl

/-- An empty file counts as the defaults, and the backup with the password stays unused. -/
theorem load_ignores_backup_of_empty :
    ¬ ∀ (p : ConfigPersistence), p.codec.Lawful →
      ∀ (contents backup : Bytes) (temp : Option Bytes) (b : Config),
        (∀ c, ¬ p.Encodes contents c) → p.Encodes backup b →
          p.Recovers {} contents backup temp b := by
  intro h
  have hrecovers := h sampleBoard plainCodec_lawful [] lockedFile none locked
    (not_encodes_of_short (by decide)) encodes_lockedFile
  unfold Recovers load at hrecovers
  dsimp only at hrecovers
  rw [loadFromFile_empty] at hrecovers
  have hprimary := congrArg (·.1.primary) hrecovers
  exact encode_ne_nil (p := sampleBoard) zeroNonce _ (Option.some.inj hprimary).symm

end ConfigPersistence

end ArkKvm
