import ArkKvm.Config.Types

/-!
# The configuration file

`ConfigPersistence` seals the configuration with a key that is bound to the board and keeps
one backup.  The cipher, the hash and the JSON printer and parser are parameters; what the
program relies on is collected in `Codec.Lawful`.
-/

namespace ArkKvm

abbrev Bytes := List UInt8

@[ext] structure Nonce where
  bytes : Bytes
  length_bytes : bytes.length = 12

def F32Finite (bits : Nat) : Prop := bits / 2 ^ 23 % 2 ^ 8 ≠ 255

/-- JSON can write the settings that are floating-point numbers. -/
def Config.Finite (c : Config) : Prop := F32Finite c.videoQuality ∧ F32Finite c.audioQuality

instance (bits : Nat) : Decidable (F32Finite bits) :=
  inferInstanceAs (Decidable (bits / 2 ^ 23 % 2 ^ 8 ≠ 255))

instance (c : Config) : Decidable c.Finite :=
  inferInstanceAs (Decidable (F32Finite c.videoQuality ∧ F32Finite c.audioQuality))

structure Codec where
  sha256 : Bytes → Bytes
  encrypt : Bytes → Nonce → Bytes → Bytes
  decrypt : Bytes → Nonce → Bytes → Option Bytes
  toJson : Config → String
  fromJson : String → Option Config

/-- A sealed text opens to what was sealed, nothing else opens, and a configuration that JSON
can write comes back. -/
structure Codec.Lawful (codec : Codec) : Prop where
  decrypt_encrypt : ∀ key nonce plain,
    codec.decrypt key nonce (codec.encrypt key nonce plain) = some plain
  eq_encrypt_of_decrypt : ∀ key nonce sealedText plain,
    codec.decrypt key nonce sealedText = some plain → sealedText = codec.encrypt key nonce plain
  fromJson_toJson : ∀ c : Config, c.Finite → codec.fromJson (codec.toJson c) = some c

def utf8 (text : String) : Bytes := text.toUTF8.data.toList

/-- `String::from_utf8`. -/
def ofUtf8 (bytes : Bytes) : Option String := String.fromUTF8? ⟨bytes.toArray⟩

theorem ofUtf8_utf8 (text : String) : ofUtf8 (utf8 text) = some text := by
  have hbytes : (⟨(utf8 text).toArray⟩ : ByteArray) = text.toByteArray := by
    unfold utf8
    rw [String.toUTF8_eq_toByteArray, Array.toArray_toList]
  unfold ofUtf8 String.fromUTF8?
  rw [hbytes, dif_pos text.isValidUTF8]
  rfl

def hexEncode (bytes : Bytes) : String :=
  String.ofList (bytes.flatMap fun b =>
    [Nat.digitChar (b.toNat / 16), Nat.digitChar (b.toNat % 16)])

inductive LoadError
  | read
  | payloadTooShort
  | decrypt
  | invalidUtf8
  | parse
deriving DecidableEq

inductive SaveError
  | createDir
  | writeTemp
  | rename
deriving DecidableEq

/-- The persistence layer of the board with the given device id. -/
structure ConfigPersistence where
  codec : Codec
  deviceId : String

/-- The files beside each other: `config`, `config.bak` and `config.tmp`. -/
structure ConfigFiles where
  primary : Option Bytes := none
  backup : Option Bytes := none
  temp : Option Bytes := none
deriving DecidableEq

/-- What a write leaves in the file: everything, or what it wrote before it failed. -/
def leaves (fault : Option Bytes) (whole : Bytes) : Bytes := fault.getD whole

/-- The outcomes of the file operations of a load. -/
structure LoadIo where
  primaryRead : Bool := true
  backupRead : Bool := true
  restoreFault : Option Bytes := none

/-- The outcomes of the file operations of a save, and the nonce it draws. -/
structure SaveIo where
  nonce : Nonce
  dirCreated : Bool := true
  backupFault : Option Bytes := none
  tempFault : Option Bytes := none
  renamed : Bool := true

namespace ConfigPersistence

def getCode (p : ConfigPersistence) : Bytes :=
  let result := (p.codec.sha256 (utf8 ("jianguo_" ++ p.deviceId))).drop 16
  p.codec.sha256 (utf8 (hexEncode result ++ "_zxw_" ++ p.deviceId))

def encode (p : ConfigPersistence) (nonce : Nonce) (plain : String) : Bytes :=
  nonce.bytes ++ p.codec.encrypt p.getCode nonce (utf8 plain)

def nonceLen : Nat := 12

def nonceOf (encrypted : Bytes) (h : ¬ encrypted.length < nonceLen) : Nonce where
  bytes := encrypted.take nonceLen
  length_bytes := by
    rw [List.length_take]
    unfold nonceLen at h ⊢
    omega

def decode (p : ConfigPersistence) (encrypted : Bytes) : Except LoadError String :=
  if h : encrypted.length < nonceLen then .error .payloadTooShort
  else
    match p.codec.decrypt p.getCode (nonceOf encrypted h) (encrypted.drop nonceLen) with
    | none => .error .decrypt
    | some plain =>
        match ofUtf8 plain with
        | none => .error .invalidUtf8
        | some text => .ok text

/-- The defaults for critical fields that are empty. -/
def mergeDefaults (p : ConfigPersistence) (loadedConfig : Config) : Config :=
  let defaultConfig := Config.default p.deviceId
  { loadedConfig with
    deviceId := if loadedConfig.deviceId = "" then p.deviceId else loadedConfig.deviceId
    cloudUrl :=
      if loadedConfig.cloudUrl = "" then defaultConfig.cloudUrl else loadedConfig.cloudUrl
    cloudAppUrl :=
      if loadedConfig.cloudAppUrl = "" then defaultConfig.cloudAppUrl
      else loadedConfig.cloudAppUrl
    defaultLogLevel :=
      if loadedConfig.defaultLogLevel = "" then defaultConfig.defaultLogLevel
      else loadedConfig.defaultLogLevel }

def parseAndMergeConfig (p : ConfigPersistence) (contents : String) : Except LoadError Config :=
  match p.codec.fromJson contents with
  | none => .error .parse
  | some loadedConfig => .ok (p.mergeDefaults loadedConfig)

/-- `load_from_file`: an empty file and a configuration that does not validate both count as
the defaults. -/
def loadFromFile (p : ConfigPersistence) (read : Bool) (contents : Bytes) :
    Except LoadError Config :=
  if read = false then .error .read
  else if contents = [] then .ok (Config.default p.deviceId)
  else do
    let json ← p.decode contents
    let loadedConfig ← p.parseAndMergeConfig json
    match loadedConfig.validate with
    | (_, .error _) => .ok (Config.default p.deviceId)
    | (validated, .ok _) => .ok validated

def load (p : ConfigPersistence) (io : LoadIo) (files : ConfigFiles) :
    ConfigFiles × Except LoadError Config :=
  match files.primary with
  | none => (files, .ok (Config.default p.deviceId))
  | some contents =>
      match p.loadFromFile io.primaryRead contents with
      | .ok loadedConfig => (files, .ok loadedConfig)
      | .error _ =>
          match files.backup with
          | none => (files, .ok (Config.default p.deviceId))
          | some backup =>
              match p.loadFromFile io.backupRead backup with
              | .ok backupConfig =>
                  ({ files with primary := some (leaves io.restoreFault backup) },
                    .ok backupConfig)
              | .error _ => (files, .ok (Config.default p.deviceId))

def createBackup (io : SaveIo) (files : ConfigFiles) : ConfigFiles :=
  match files.primary with
  | none => files
  | some contents => { files with backup := some (leaves io.backupFault contents) }

def save (p : ConfigPersistence) (io : SaveIo) (config : Config) (files : ConfigFiles) :
    ConfigFiles × Except SaveError Unit :=
  if io.dirCreated = false then (files, .error .createDir)
  else
    let files := createBackup io files
    let encoded := p.encode io.nonce (p.codec.toJson config)
    match io.tempFault with
    | some written => ({ files with temp := some written }, .error .writeTemp)
    | none =>
        if io.renamed = false then ({ files with temp := some encoded }, .error .rename)
        else ({ files with primary := some encoded, temp := none }, .ok ())

end ConfigPersistence

end ArkKvm
