import OoBot.Config.SaveLoad

/-!
# Which valid configurations are written

Validation and loading take a signature from anywhere; the writer wants it beside the configuration, for
the renames.  If no operation fails, that is all it wants of a valid configuration
(`valid_config_written_iff`).
-/

namespace OoBot

open Files Fallible

variable {F : Type}

/-- The signature, if there is one, is beside the configuration `name` in `parent`. -/
def SignatureBeside (path parent : Path) (name : Name) (config : StartupConfig F) : Prop :=
  ∀ signature, config.integrity.configSignature = some signature →
    (resolveConfigRelativePath path signature.detachedHmacSha256Path).parent = some parent ∧
      ∃ n, (resolveConfigRelativePath path signature.detachedHmacSha256Path).fileName = some n ∧
        n ≠ name

/-- The environment has the key of the signature, if there is one. -/
def KeySet (host : Host) (config : StartupConfig F) : Prop :=
  ∀ signature, config.integrity.configSignature = some signature →
    ∃ value, host.env signature.hmacKeyEnv = some value

/-- Nothing on the disk is in the way of the call: no file where a directory is needed, nothing under
the name of the temporary directory, and no directory where a file goes. -/
structure Serves (disk : Disk) (host : Host) (tempName : Name) (path parent : Path) (name : Name)
    (config : StartupConfig F) : Prop where
  dirs : ∀ q, q <:+ parent.place host.cwd → ∀ bytes, disk.nodes q ≠ some (.file bytes)
  fresh : disk.nodes (tempName :: parent.place host.cwd) = none
  configFree : name ≠ tempName ∧ disk.nodes (name :: parent.place host.cwd) ≠ some .dir
  signatureFree : ∀ signature, config.integrity.configSignature = some signature →
    ∀ n, (resolveConfigRelativePath path signature.detachedHmacSha256Path).fileName = some n →
      n ≠ tempName ∧ disk.nodes (n :: parent.place host.cwd) ≠ some .dir

section Written

variable {crates : Crates F} {host : Host} {random : Text} {path parent : Path} {name : Name}
  {config : StartupConfig F} {disk : Disk} {bytes : Bytes} {signed : Option (Path × Text)}
  {faults : WriteConfigFaults}

/-- A relative path with a directory of its own leads out of the directory of the configuration. -/
theorem resolve_parent_ne {target : Path} (hparent : path.parent = some parent)
    (hrel : target.isAbsolute = false) (hdeep : 2 ≤ target.steps.length) :
    (resolveConfigRelativePath path target).parent ≠ some parent := by
  have hsteps : (resolveConfigRelativePath path target).steps.length =
      parent.steps.length + target.steps.length := by
    unfold resolveConfigRelativePath
    rw [if_neg (hrel ▸ Bool.false_ne_true), hparent]
    show (parent.join target).steps.length = _
    unfold Path.join
    split_ifs with hempty
    · rw [hrel, Bool.false_or, decide_eq_true_eq] at hempty
      rw [hempty]
      exact (Nat.zero_add _).symm
    · exact List.length_append
  intro h
  unfold Path.parent at h
  split at h
  case h_1 hnil _ | h_2 hnil _ =>
    rw [hnil, List.length_nil] at hsteps
    omega
  case h_3 =>
    have hlength := congrArg (fun p : Path => p.steps.length) (Option.some.inj h)
    simp only [List.length_dropLast] at hlength
    omega

/-- With its key, a configuration is signed at the path of its signature. -/
theorem signs_of_keySet (h : KeySet host config) (bytes : Bytes) :
    ∃ signed, configSignatureHex crates host path config bytes = .ok signed := by
  unfold configSignatureHex
  cases hsigned : config.integrity.configSignature with
  | none => exact ⟨none, rfl⟩
  | some signature =>
    obtain ⟨value, hvalue⟩ := h signature hsigned
    simp only [computeSignatureDigest, buildHmacFromEnv, hvalue]
    exact ⟨_, rfl⟩

/-- Staging the signature takes a signature beside the configuration. -/
theorem beside_of_signatureStaged
    (h : configSignatureHex crates host path config bytes = .ok signed)
    (hstaged : SignatureStaged faults parent name signed) :
    SignatureBeside path parent name config := by
  intro signature hsigned
  unfold configSignatureHex at h
  simp only [hsigned, except_bind_ok_iff] at h
  obtain ⟨digest, -, hpure⟩ := h
  cases hpure
  obtain ⟨hparent, -, -, n, hname, hne⟩ := hstaged
  exact ⟨hparent, n, hname, hne⟩

/-- Without faults it takes nothing else. -/
theorem signatureStaged_of_beside
    (h : configSignatureHex crates host path config bytes = .ok signed)
    (hbeside : SignatureBeside path parent name config) :
    SignatureStaged .none parent name signed := by
  unfold configSignatureHex at h
  cases hsigned : config.integrity.configSignature with
  | none =>
    simp only [hsigned] at h
    cases h
    trivial
  | some signature =>
    simp only [hsigned, except_bind_ok_iff] at h
    obtain ⟨digest, -, hpure⟩ := h
    cases hpure
    obtain ⟨hparent, n, hname, hne⟩ := hbeside signature hsigned
    exact ⟨hparent, Or.inr rfl, ⟨rfl, rfl, rfl⟩, n, hname, hne⟩

/-- A signature beside the configuration is renamed into place. -/
theorem not_signatureStops (hserves : Serves disk host (tempDirName random) path parent name config)
    (h : configSignatureHex crates host path config bytes = .ok signed) :
    ¬ SignatureStops .none (tempDirName random) disk (parent.place host.cwd) signed := by
  unfold configSignatureHex at h
  cases hsigned : config.integrity.configSignature with
  | none =>
    simp only [hsigned] at h
    cases h
    exact id
  | some signature =>
    simp only [hsigned, except_bind_ok_iff] at h
    obtain ⟨digest, -, hpure⟩ := h
    cases hpure
    rintro ⟨n, hname, hfault | htemp | hthere⟩
    · exact hfault rfl
    · exact (hserves.signatureFree signature hsigned n hname).1 htemp
    · exact (hserves.signatureFree signature hsigned n hname).2 hthere

/-- A configuration with its signature beside it is written. -/
theorem written_of_beside (hvalid : validateConfig config = .ok ())
    (hyaml : ∃ text, crates.toYaml config = .ok text) (hkey : KeySet host config)
    (hparent : path.parent = some parent) (hname : path.fileName = some name)
    (hdir : parent ≠ .empty)
    (hserves : Serves disk host (tempDirName random) path parent name config)
    (hbeside : SignatureBeside path parent name config) :
    ∃ disk', writeStartupConfigToPath crates host .none random path config disk = .ok () disk' := by
  obtain ⟨text, htext⟩ := hyaml
  obtain ⟨signed, hsigned⟩ := @signs_of_keySet _ crates host path config hkey (utf8 (ended text))
  have hstaged : Staged crates host .none (tempDirName random) path config disk parent name
      (ended text) signed :=
    { renders := render_ok_iff.2 ⟨hvalid, text, htext, rfl⟩
      signs := hsigned
      parent_eq := hparent
      name_eq := hname
      dirs := Or.inr ⟨rfl, hserves.dirs⟩
      here := fun h => absurd h hdir
      tempDir := ⟨rfl, hserves.fresh⟩
      files := ⟨⟨rfl, rfl, rfl⟩, signatureStaged_of_beside hsigned hbeside⟩
      synced := ⟨rfl, rfl⟩ }
  refine write_ok_of_staged hstaged ?_ (not_signatureStops hserves hsigned) ?_
  · rintro (hfault | htemp | hthere)
    · exact hfault rfl
    · exact hserves.configFree.1 htemp
    · exact hserves.configFree.2 hthere
  · rintro (hempty | hfault | hfault)
    · exact hdir hempty
    · exact hfault rfl
    · exact hfault rfl

/-- A configuration whose signature is elsewhere is refused, and no file changes. -/
theorem refused_of_not_beside (hparent : path.parent = some parent) (hname : path.fileName = some name)
    (h : ¬ SignatureBeside path parent name config) :
    FailsAt Disk.contents disk.contents
      (writeStartupConfigToPath crates host faults random path config) disk := by
  refine write_of_not_staged fun parent' name' rendered signed hstaged => h ?_
  cases hparent.symm.trans hstaged.parent_eq
  cases hname.symm.trans hstaged.name_eq
  exact beside_of_signatureStaged hstaged.signs hstaged.files.2

/-- A configuration with a bare name is never written: its directory cannot be synced. -/
theorem parent_ne_empty_of_written {disk' : Disk}
    (h : writeStartupConfigToPath crates host faults random path config disk = .ok () disk') :
    path.parent ≠ some .empty := by
  intro hempty
  obtain ⟨parent, name, rendered, signed, hstaged, -⟩ := written h
  cases hempty.symm.trans hstaged.parent_eq
  rcases write_cases hstaged with ⟨-, hv⟩ | ⟨-, ⟨-, hv⟩ | ⟨-, ⟨-, hv⟩ | ⟨hsync, -⟩⟩⟩
  · exact hv.false_of_ok h
  · exact hv.false_of_ok h
  · exact hv.false_of_ok h
  · exact hsync (Or.inl rfl)

/-- What loads is valid, and its key is set. -/
theorem valid_of_load {loaded : LoadedStartupConfig F}
    (h : loadStartupConfigFromPath crates host disk path = .ok loaded) :
    validateConfig loaded.app = .ok () ∧ KeySet host loaded.app := by
  obtain ⟨bytes, fingerprint, -, -, -, hvalid, hverify, -⟩ := load_ok_iff.1 h
  refine ⟨hvalid, fun signature hsigned => ?_⟩
  unfold verifySignature at hverify
  simp only [hsigned] at hverify
  obtain ⟨text, mac, -, hmac, -⟩ := verifyDetachedHmac_ok_iff.1 hverify
  simp only [buildHmacFromEnv, except_bind_ok_iff, okOr_ok_iff] at hmac
  obtain ⟨value, hvalue, -⟩ := hmac
  exact ⟨value, hvalue⟩

end Written

/-- **Which valid configurations are written.**  With its key set, for a path with a directory, and if
no operation fails: a valid configuration is written exactly if its signature is beside it; if not, it
is refused and no file changes.  What loads is valid, and has its key. -/
theorem valid_config_written_iff (crates : Crates F) (host : Host) (random : Text)
    (path parent : Path) (name : Name) (config : StartupConfig F) (disk : Disk)
    (hvalid : validateConfig config = .ok ()) (hyaml : ∃ text, crates.toYaml config = .ok text)
    (hkey : KeySet host config) (hparent : path.parent = some parent)
    (hname : path.fileName = some name) (hdir : parent ≠ .empty)
    (hserves : Serves disk host (tempDirName random) path parent name config) :
    ((∃ disk', writeStartupConfigToPath crates host .none random path config disk = .ok () disk') ↔
        SignatureBeside path parent name config) ∧
      (¬ SignatureBeside path parent name config →
        ∃ err disk', writeStartupConfigToPath crates host .none random path config disk =
          .error err disk' ∧ disk'.contents = disk.contents) ∧
      ∀ loaded, loadStartupConfigFromPath crates host disk path = .ok loaded →
        validateConfig loaded.app = .ok () ∧ KeySet host loaded.app := by
  refine ⟨⟨?_, written_of_beside hvalid hyaml hkey hparent hname hdir hserves⟩,
    refused_of_not_beside hparent hname, fun loaded hload => valid_of_load hload⟩
  rintro ⟨disk', hok⟩
  by_contra hno
  exact (refused_of_not_beside hparent hname hno).false_of_ok hok

/-- A signature in a directory of its own. -/
def distantSignature : ConfigSignatureConfig :=
  ⟨.names ["keys".toList, "config.sig".toList], "OO_TEST_CFG_HMAC".toList⟩

section Sample

variable {signature : ConfigSignatureConfig}

theorem keySet_sample (hkey : signature.hmacKeyEnv = "OO_TEST_CFG_HMAC".toList) :
    KeySet sampleHost (sampleConfig "これはおお".toList (some signature)) := by
  rintro _ ⟨⟩
  rw [hkey]
  exact ⟨"k-test".toList, by decide⟩

theorem serves_sample
    (hname : (resolveConfigRelativePath samplePath signature.detachedHmacSha256Path).fileName =
      some "config.sig".toList) :
    Serves srvDisk sampleHost (tempDirName sampleRandom) samplePath (.names ["config".toList])
      "oo-bot.yaml".toList (sampleConfig "これはおお".toList (some signature)) where
  dirs := srvDisk_dirs
  fresh := by decide
  configFree := by
    constructor <;> decide
  signatureFree := by
    rintro _ ⟨⟩ n hn
    cases hname.symm.trans hn
    constructor <;> decide

end Sample

theorem valid_config_written_iff_sample :
    ((∃ disk', writeStartupConfigToPath
          (sampleCrates (sampleConfig "これはおお".toList (some sampleSignature)) [] []) sampleHost .none
          sampleRandom samplePath (sampleConfig "これはおお".toList (some sampleSignature)) srvDisk =
            .ok () disk') ↔
        SignatureBeside samplePath (.names ["config".toList]) "oo-bot.yaml".toList
          (sampleConfig "これはおお".toList (some sampleSignature))) ∧
      (¬ SignatureBeside samplePath (.names ["config".toList]) "oo-bot.yaml".toList
          (sampleConfig "これはおお".toList (some sampleSignature)) →
        ∃ err disk', writeStartupConfigToPath
            (sampleCrates (sampleConfig "これはおお".toList (some sampleSignature)) [] []) sampleHost
            .none sampleRandom samplePath (sampleConfig "これはおお".toList (some sampleSignature))
            srvDisk = .error err disk' ∧ disk'.contents = srvDisk.contents) ∧
      ∀ loaded, loadStartupConfigFromPath
          (sampleCrates (sampleConfig "これはおお".toList (some sampleSignature)) [] []) sampleHost
          srvDisk samplePath = .ok loaded →
        validateConfig loaded.app = .ok () ∧ KeySet sampleHost loaded.app :=
  valid_config_written_iff _ sampleHost sampleRandom samplePath (.names ["config".toList])
    "oo-bot.yaml".toList _ srvDisk (validateConfig_sample _ _) ⟨[], rfl⟩ (keySet_sample rfl) rfl rfl
    (by decide) (serves_sample rfl)

/-- A valid configuration is not written if its signature has a directory of its own, nor to a bare
name. -/
theorem valid_config_refused :
    (validateConfig (sampleConfig "これはおお".toList (some distantSignature)) = .ok () ∧
      KeySet sampleHost (sampleConfig "これはおお".toList (some distantSignature)) ∧
      Serves srvDisk sampleHost (tempDirName sampleRandom) samplePath (.names ["config".toList])
        "oo-bot.yaml".toList (sampleConfig "これはおお".toList (some distantSignature)) ∧
      ¬ ∃ disk', writeStartupConfigToPath
        (sampleCrates (sampleConfig "これはおお".toList (some distantSignature)) [] []) sampleHost
        .none sampleRandom samplePath (sampleConfig "これはおお".toList (some distantSignature))
        srvDisk = .ok () disk') ∧
      validateConfig (sampleConfig "これはおお".toList none) = .ok () ∧
      ¬ ∃ disk', writeStartupConfigToPath (sampleCrates (sampleConfig "これはおお".toList none) [] [])
        sampleHost .none sampleRandom (.names ["oo-bot.yaml".toList])
        (sampleConfig "これはおお".toList none) srvDisk = .ok () disk' := by
  refine ⟨⟨validateConfig_sample _ _, keySet_sample rfl, serves_sample rfl, ?_⟩,
    validateConfig_sample _ _, ?_⟩
  · rintro ⟨disk', hok⟩
    refine (refused_of_not_beside rfl rfl fun hbeside => ?_).false_of_ok hok
    exact absurd (hbeside distantSignature rfl).1 (by decide)
  · rintro ⟨disk', hok⟩
    exact parent_ne_empty_of_written hok rfl

end OoBot
