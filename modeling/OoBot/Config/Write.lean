import OoBot.Config
import OoBot.Lib.FileOps
import OoBot.Lib.Sha256

/-!
# `write_startup_config_to_path`

The configuration and its signature are written into a temporary directory beside the configuration,
which is synced; then both are renamed into place, and the directory is synced.  The temporary
directory is gone when the function returns.

Parameters stand for what is outside: the crates that encode and decode (`Crates`), the working
directory and the environment of the process (`Host`), the faults of the file operations
(`WriteConfigFaults`) and the random part of the name of the temporary directory.  Paths in that
directory are absolute, so they are places.  The text that `tempfile` adds to an error, its path, is
left out.
-/

namespace OoBot

open Files Fallible

/-- `StartupConfigError`. -/
inductive StartupConfigError
  | readConfig (msg : Text)
  | createConfigDir (msg : Text)
  | writeConfig (msg : Text)
  | tooLarge
  | parseConfig (msg : Text)
  | validate (msg : Text)
  | signature (msg : Text)
  deriving DecidableEq

/-- What the crates compute: `serde_yaml`, `serde_json`, `sha2` with `hmac`, and what `hex` reports on
a text that is not hexadecimal. -/
structure Crates (F : Type) where
  toYaml : StartupConfig F → Except Text Text
  fromYaml : Bytes → Except Text (StartupConfig F)
  toJson : StartupConfig F → Except Text Bytes
  hmacSha256 : Bytes → Bytes → Bytes
  sha256 : Bytes → Bytes
  hexError : Text → Text

/-- The process: its working directory and its environment. -/
structure Host where
  cwd : Place
  env : Text → Option Text

/-- The faults of the file operations of one call. -/
structure WriteConfigFaults where
  createConfigDirs : Option Fault
  createTempDir : Option Fault
  config : WriteFaults
  createSignatureDirs : Option Fault
  signature : WriteFaults
  openTempDir : Option Fault
  syncTempDir : Option Fault
  renameConfig : Option Fault
  renameSignature : Option Fault
  openConfigDir : Option Fault
  syncConfigDir : Option Fault

/-- A call in which no operation fails by itself. -/
def WriteConfigFaults.none : WriteConfigFaults :=
  ⟨.none, .none, ⟨.none, .none, .none⟩, .none, ⟨.none, .none, .none⟩, .none, .none, .none, .none, .none,
    .none⟩

variable {F : Type}

/-! ### Rendering and signing -/

/-- The text ends with a newline. -/
def ended (rendered : Text) : Text :=
  if rendered.getLast? = some '\n' then rendered else rendered ++ ['\n']

/-- `render_startup_config_yaml`. -/
def renderStartupConfigYaml (crates : Crates F) (config : StartupConfig F) :
    Except StartupConfigError Text := do
  (validateConfig config).mapError fun err => .validate err.msg
  let rendered ← (crates.toYaml config).mapError .validate
  pure (ended rendered)

/-- `build_hmac_from_env`: the keyed function. -/
def buildHmacFromEnv (crates : Crates F) (host : Host) (hmacKeyEnv : Text) :
    Except StartupConfigError (Bytes → Bytes) := do
  let keyValue ← okOr (host.env hmacKeyEnv) (.signature "missing signature HMAC key env var".toList)
  pure (crates.hmacSha256 (utf8 keyValue))

/-- `compute_signature_digest`. -/
def computeSignatureDigest (crates : Crates F) (host : Host) (configBytes : Bytes)
    (hmacKeyEnv : Text) : Except StartupConfigError Bytes := do
  let mac ← buildHmacFromEnv crates host hmacKeyEnv
  pure (mac configBytes)

/-- `resolve_config_relative_path`. -/
def resolveConfigRelativePath (configPath target : Path) : Path :=
  if target.isAbsolute then target
  else
    match configPath.parent with
    | some parent => parent.join target
    | none => target

/-- `config_signature_hex`. -/
def configSignatureHex (crates : Crates F) (host : Host) (configPath : Path)
    (config : StartupConfig F) (configBytes : Bytes) :
    Except StartupConfigError (Option (Path × Text)) :=
  match config.integrity.configSignature with
  | none => pure none
  | some signature => do
      let digest ← computeSignatureDigest crates host configBytes signature.hmacKeyEnv
      pure (some (resolveConfigRelativePath configPath signature.detachedHmacSha256Path,
        Sha256.hex digest))

/-- The bytes of the signature file. -/
def signatureLine (hex : Text) : Bytes := utf8 (hex ++ ['\n'])

/-! ### Writing -/

section Steps

variable (host : Host) (faults : WriteConfigFaults)

/-- The name of the temporary directory. -/
def tempDirName (random : Text) : Name := ".oo-bot-config-".toList ++ random

/-- A file operation that fails with `WriteConfig`. -/
def writing {α : Type} (m : EStateM IoError Disk α) : EStateM StartupConfigError Disk α :=
  EStateM.adaptExcept (fun err => .writeConfig err.text) m

/-- A file operation that fails with `CreateConfigDir`. -/
def creatingDir {α : Type} (m : EStateM IoError Disk α) : EStateM StartupConfigError Disk α :=
  EStateM.adaptExcept (fun err => .createConfigDir err.text) m

/-- Make the directories for a path. -/
def createParent (fault : Option Fault) (path : Path) : EStateM StartupConfigError Disk Unit :=
  match path.parent with
  | some parent => creatingDir (createDirAll fault host.cwd parent)
  | none => pure ()

/-- `fsync_directory`. -/
def fsyncDirectory (fault syncFault : Option Fault) (path : Path) : EStateM IoError Disk Unit :=
  if path = .empty then throw .notFound else fsyncPlace fault syncFault (path.place host.cwd)

/-- Write the signature into the temporary directory, and say what is to be renamed. -/
def stageSignature (configParent : Path) (tempDir : Place) :
    Option (Path × Text) → EStateM StartupConfigError Disk (Option (Name × Path))
  | none => pure none
  | some (signaturePath, hex) => do
      createParent host faults.createSignatureDirs signaturePath
      if signaturePath.parent.getD .dot = configParent then
        match signaturePath.fileName with
        | none => throw (.writeConfig "signature path must include file name".toList)
        | some signatureFileName => do
            writing (writeNew faults.signature signatureFileName tempDir (signatureLine hex))
            pure (some (signatureFileName, signaturePath))
      else throw (.writeConfig
        "signature path must share config parent directory for atomic install".toList)

/-- Write both files into the temporary directory. -/
def stageFiles (configParent : Path) (configFileName : Name) (rendered : Text)
    (signatureHex : Option (Path × Text)) (tempDir : Place) :
    EStateM StartupConfigError Disk (Option (Name × Path)) := do
  writing (writeNew faults.config configFileName tempDir (utf8 rendered))
  let signatureRename ← stageSignature host faults configParent tempDir signatureHex
  writing (fsyncPlace faults.openTempDir faults.syncTempDir tempDir)
  pure signatureRename

/-- Rename the signature into place. -/
def installSignature (tempDir : Place) : Option (Name × Path) → EStateM StartupConfigError Disk Unit
  | none => pure ()
  | some (signatureFileName, signaturePath) =>
      writing (rename faults.renameSignature signatureFileName tempDir (signaturePath.place host.cwd))

/-- Rename both files into place. -/
def installFiles (path configParent : Path) (configFileName : Name) (tempDir : Place)
    (signatureRename : Option (Name × Path)) : EStateM StartupConfigError Disk Unit := do
  writing (rename faults.renameConfig configFileName tempDir (path.place host.cwd))
  installSignature host faults tempDir signatureRename
  writing (fsyncDirectory host faults.openConfigDir faults.syncConfigDir configParent)

end Steps

/-- Write both files beside the configuration and rename them into place. -/
def installRendered (host : Host) (faults : WriteConfigFaults) (tempName : Name)
    (path configParent : Path) (configFileName : Name) (rendered : Text)
    (signatureHex : Option (Path × Text)) (dir : Place) : EStateM StartupConfigError Disk Unit := do
  creatingDir (createNew faults.createTempDir .dir tempName dir)
  inTempDir tempName dir do
    let signatureRename ← stageFiles host faults configParent configFileName rendered signatureHex
      (tempName :: dir)
    installFiles host faults path configParent configFileName (tempName :: dir) signatureRename

/-- `write_startup_config_to_path`. -/
def writeStartupConfigToPath (crates : Crates F) (host : Host) (faults : WriteConfigFaults)
    (random : Text) (path : Path) (config : StartupConfig F) :
    EStateM StartupConfigError Disk Unit := do
  let rendered ← ofExcept (renderStartupConfigYaml crates config)
  let signatureHex ← ofExcept (configSignatureHex crates host path config (utf8 rendered))
  createParent host faults.createConfigDirs path
  match path.fileName with
  | none => throw (.writeConfig "config path must include file name".toList)
  | some configFileName =>
      installRendered host faults (tempDirName random) path (path.parent.getD .dot) configFileName
        rendered signatureHex ((path.parent.getD .dot).place host.cwd)

end OoBot
