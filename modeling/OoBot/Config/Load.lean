import OoBot.Config.Write

/-!
# `load_startup_config_from_path`

`load_ok_iff` says when a configuration is loaded, in terms of the contents of the two files, so that
a disk with the same contents loads the same (`load_congr`).
-/

namespace OoBot

open Files Fallible

variable {F : Type}

/-- `LoadedStartupConfig`. -/
structure LoadedStartupConfig (F : Type) where
  app : StartupConfig F
  configPath : Path
  configFingerprint : Text
  pseudoIdHmacKey : Option Bytes

/-- `MAX_CONFIG_BYTES`. -/
def maxConfigBytes : ℕ := 64 * 1024

/-- `fs::read_to_string`. -/
def readToString (disk : Disk) (cwd : Place) (path : Path) : Except Text Text := do
  let bytes ← (read disk cwd path).mapError IoError.text
  okOr (fromUtf8 bytes) "stream did not contain valid UTF-8".toList

/-- `verify_detached_hmac`. -/
def verifyDetachedHmac (crates : Crates F) (host : Host) (disk : Disk) (configPath : Path)
    (configBytes : Bytes) (signature : ConfigSignatureConfig) :
    Except StartupConfigError Unit := do
  let signatureHex ← (readToString disk host.cwd
    (resolveConfigRelativePath configPath signature.detachedHmacSha256Path)).mapError .signature
  let supplied ← okOr (Sha256.unhex (trim signatureHex))
    (.signature (crates.hexError (trim signatureHex)))
  let mac ← buildHmacFromEnv crates host signature.hmacKeyEnv
  check (mac configBytes = supplied) (.signature "detached config signature mismatch".toList)

/-- The check of the signature, if there is one. -/
def verifySignature (crates : Crates F) (host : Host) (disk : Disk) (path : Path) (bytes : Bytes)
    (cfg : StartupConfig F) : Except StartupConfigError Unit :=
  match cfg.integrity.configSignature with
  | some signature => verifyDetachedHmac crates host disk path bytes signature
  | none => .ok ()

/-- `resolve_optional_hmac_key`. -/
def resolveOptionalHmacKey (host : Host) : Option Text → Option Bytes
  | none => none
  | some envName =>
      match host.env envName with
      | some value => if trim value = [] then none else some (utf8 value)
      | none => none

/-- What replaces the names of environment variables in a fingerprint. -/
def redacted : Text := "<redacted>".toList

/-- The configuration that `fingerprint_config` encodes. -/
def fingerprintSrc (cfg : StartupConfig F) : StartupConfig F :=
  { cfg with
    integrity :=
      { configSignature := cfg.integrity.configSignature.map fun signature =>
          { signature with hmacKeyEnv := redacted }
        pseudoIdHmacKeyEnv := cfg.integrity.pseudoIdHmacKeyEnv.map fun _ => redacted } }

/-- `fingerprint_config`. -/
def fingerprintConfig (crates : Crates F) (cfg : StartupConfig F) :
    Except StartupConfigError Text := do
  let encoded ← (crates.toJson (fingerprintSrc cfg)).mapError .validate
  pure (Sha256.hex (crates.sha256 encoded))

/-- `load_startup_config_from_path`. -/
def loadStartupConfigFromPath (crates : Crates F) (host : Host) (disk : Disk) (path : Path) :
    Except StartupConfigError (LoadedStartupConfig F) := do
  let bytes ← (read disk host.cwd path).mapError fun err => .readConfig err.text
  check (bytes.length ≤ maxConfigBytes) .tooLarge
  let cfg ← (crates.fromYaml bytes).mapError .parseConfig
  (validateConfig cfg).mapError fun err => .validate err.msg
  verifySignature crates host disk path bytes cfg
  let configFingerprint ← fingerprintConfig crates cfg
  pure ⟨cfg, path, configFingerprint,
    resolveOptionalHmacKey host cfg.integrity.pseudoIdHmacKeyEnv⟩

/-! ### What is loaded -/

section Loaded

variable {crates : Crates F} {host : Host} {disk disk' : Disk} {path : Path} {bytes : Bytes}
  {cfg : StartupConfig F} {loaded : LoadedStartupConfig F}

/-- A file is read from the place of its path. -/
theorem read_ok_iff {cwd : Place} : read disk cwd path = .ok bytes ↔
    path ≠ .empty ∧ disk.contents (path.place cwd) = some bytes := by
  unfold Files.read
  split_ifs with hempty
  · simp [hempty]
  · rw [Disk.contents_eq_some_iff]
    split
    next h => simp [hempty, h]
    next h => simp [h]
    next h => simp [h]

theorem readToString_ok_iff {cwd : Place} {text : Text} : readToString disk cwd path = .ok text ↔
    ∃ line, read disk cwd path = .ok line ∧ fromUtf8 line = some text := by
  simp only [readToString, except_bind_ok_iff, mapError_ok_iff, okOr_ok_iff]

/-- A signature is verified if its file holds the digest of the bytes. -/
theorem verifyDetachedHmac_ok_iff {signature : ConfigSignatureConfig} :
    verifyDetachedHmac crates host disk path bytes signature = .ok () ↔
      ∃ text mac, readToString disk host.cwd
          (resolveConfigRelativePath path signature.detachedHmacSha256Path) = .ok text ∧
        buildHmacFromEnv crates host signature.hmacKeyEnv = .ok mac ∧
        Sha256.unhex (trim text) = some (mac bytes) := by
  simp only [verifyDetachedHmac, except_bind_ok_iff, mapError_ok_iff, okOr_ok_iff, check_ok_iff]
  constructor
  · rintro ⟨text, hread, supplied, hhex, mac, hmac, rfl⟩
    exact ⟨text, mac, hread, hmac, hhex⟩
  · rintro ⟨text, mac, hread, hmac, hhex⟩
    exact ⟨text, hread, mac bytes, hhex, mac, hmac, rfl⟩

/-- What it takes to load a configuration. -/
theorem load_ok_iff : loadStartupConfigFromPath crates host disk path = .ok loaded ↔
    ∃ bytes fingerprint, read disk host.cwd path = .ok bytes ∧ bytes.length ≤ maxConfigBytes ∧
      crates.fromYaml bytes = .ok loaded.app ∧ validateConfig loaded.app = .ok () ∧
      verifySignature crates host disk path bytes loaded.app = .ok () ∧
      fingerprintConfig crates loaded.app = .ok fingerprint ∧
      loaded = ⟨loaded.app, path, fingerprint,
        resolveOptionalHmacKey host loaded.app.integrity.pseudoIdHmacKeyEnv⟩ := by
  simp only [loadStartupConfigFromPath, except_bind_ok_iff, mapError_ok_iff, check_ok_iff]
  constructor
  · rintro ⟨bytes, hread, ⟨⟩, hlength, cfg, hyaml, ⟨⟩, hvalid, ⟨⟩, hsignature, fingerprint,
      hfingerprint, hpure⟩
    cases hpure
    exact ⟨bytes, fingerprint, hread, hlength, hyaml, hvalid, hsignature, hfingerprint, rfl⟩
  · rintro ⟨bytes, fingerprint, hread, hlength, hyaml, hvalid, hsignature, hfingerprint, heq⟩
    exact ⟨bytes, hread, ⟨⟩, hlength, loaded.app, hyaml, ⟨⟩, hvalid, ⟨⟩, hsignature, fingerprint,
      hfingerprint, congrArg Except.ok heq.symm⟩

/-- What is loaded depends on the contents of files only. -/
theorem load_congr (h : disk'.contents = disk.contents)
    (hload : loadStartupConfigFromPath crates host disk path = .ok loaded) :
    loadStartupConfigFromPath crates host disk' path = .ok loaded := by
  have hread {path' : Path} {bytes' : Bytes} (h' : read disk host.cwd path' = .ok bytes') :
      read disk' host.cwd path' = .ok bytes' := by
    rw [read_ok_iff] at h' ⊢
    rwa [h]
  obtain ⟨bytes, fingerprint, hbytes, hlength, hyaml, hvalid, hsignature, hrest⟩ := load_ok_iff.1 hload
  refine load_ok_iff.2 ⟨bytes, fingerprint, hread hbytes, hlength, hyaml, hvalid, ?_, hrest⟩
  unfold verifySignature at hsignature ⊢
  cases hsigned : loaded.app.integrity.configSignature with
  | none => rfl
  | some signature =>
    simp only [hsigned] at hsignature ⊢
    obtain ⟨text, mac, htext, hmac⟩ := verifyDetachedHmac_ok_iff.1 hsignature
    obtain ⟨line, hline, hutf8⟩ := readToString_ok_iff.1 htext
    exact verifyDetachedHmac_ok_iff.2
      ⟨text, mac, readToString_ok_iff.2 ⟨line, hread hline, hutf8⟩, hmac⟩

end Loaded

end OoBot
