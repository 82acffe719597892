import OoBot.Config.Install

/-!
# Loading what was written

The writer and the loader check the same configuration, resolve the same signature path and compute
the same digest; but only the loader limits the size of the file.

`save_load_iff` says which written configurations are loaded.
-/

namespace OoBot

open Files Fallible

variable {F : Type}

/-- `serde_yaml` reads the configuration from its text. -/
def Crates.RoundTrips (crates : Crates F) (config : StartupConfig F) : Prop :=
  ∀ text, crates.toYaml config = .ok text → crates.fromYaml (utf8 (ended text)) = .ok config

/-- `serde_json` encodes the configuration. -/
def Crates.Encodes (crates : Crates F) (config : StartupConfig F) : Prop :=
  ∃ encoded, crates.toJson config = .ok encoded

section Written

variable {crates : Crates F} {host : Host} {faults : WriteConfigFaults} {random rendered : Text}
  {path parent : Path} {config : StartupConfig F} {name : Name} {disk disk' : Disk}
  {signature : Option (Path × Text)} {loaded : LoadedStartupConfig F} {bytes : Bytes}

/-- A call that goes through has installed both files. -/
theorem written (h : writeStartupConfigToPath crates host faults random path config disk =
    .ok () disk') :
    ∃ parent name rendered signature,
      Staged crates host faults (tempDirName random) path config disk parent name rendered
        signature ∧
      disk'.contents =
        signatureContents host (configContents host path rendered disk.contents) signature := by
  by_cases hstaged : ∃ parent name rendered signature, Staged crates host faults (tempDirName random)
      path config disk parent name rendered signature
  · obtain ⟨parent, name, rendered, signature, hstaged⟩ := hstaged
    refine ⟨parent, name, rendered, signature, hstaged, ?_⟩
    rcases write_cases hstaged with ⟨-, hv⟩ | ⟨-, ⟨-, hv⟩ | ⟨-, ⟨-, hv⟩ | ⟨-, t, hok, hcontents⟩⟩⟩
    · exact (hv.false_of_ok h).elim
    · exact (hv.false_of_ok h).elim
    · exact (hv.false_of_ok h).elim
    · rw [h] at hok
      cases hok
      exact hcontents
  · refine ((write_of_not_staged fun parent name rendered signature hstaged' => ?_).false_of_ok
      h).elim
    exact hstaged ⟨parent, name, rendered, signature, hstaged'⟩

/-- A path with a file name is not empty. -/
theorem ne_empty_of_fileName (h : path.fileName = some name) : path ≠ .empty := by
  rintro rfl
  cases h

/-- What renders is valid, and is the text of the crate. -/
theorem render_ok_iff : renderStartupConfigYaml crates config = .ok rendered ↔
    validateConfig config = .ok () ∧ ∃ text, crates.toYaml config = .ok text ∧ rendered = ended text := by
  simp only [renderStartupConfigYaml, except_bind_ok_iff, mapError_ok_iff]
  constructor
  · rintro ⟨⟨⟩, hvalid, text, htext, hpure⟩
    cases hpure
    exact ⟨hvalid, text, htext, rfl⟩
  · rintro ⟨hvalid, text, htext, rfl⟩
    exact ⟨⟨⟩, hvalid, text, htext, rfl⟩

/-- The signature in a line is read back. -/
theorem trim_signatureLine (digest : Bytes) : trim (Sha256.hex digest ++ ['\n']) = Sha256.hex digest := by
  refine trim_append_singleton (fun c hc => ?_) (by decide)
  have hdigit := Sha256.isHexDigit_of_mem_hex hc
  simp only [Sha256.IsHexDigit, Char.le_def, UInt32.le_iff_toNat_le] at hdigit
  change (48 ≤ c.toNat ∧ c.toNat ≤ 57) ∨ (97 ≤ c.toNat ∧ c.toNat ≤ 102) at hdigit
  exact isWhitespace_eq_false (by omega) (by omega)

/-- The signature that was written is verified. -/
theorem verifySignature_of_written
    (hstaged : Staged crates host faults (tempDirName random) path config disk parent name rendered
      signature)
    (hcontents : disk'.contents =
      signatureContents host (configContents host path rendered disk.contents) signature) :
    verifySignature crates host disk' path (utf8 rendered) config = .ok () := by
  have hsigns := hstaged.signs
  unfold configSignatureHex at hsigns
  unfold verifySignature
  cases hsigned : config.integrity.configSignature with
  | none => rfl
  | some signed =>
    simp only [hsigned, computeSignatureDigest, except_bind_ok_iff] at hsigns ⊢
    obtain ⟨digest, ⟨mac, hmac, hdigest⟩, hpure⟩ := hsigns
    cases hdigest
    cases hpure
    obtain ⟨-, -, -, n, hname, -⟩ := hstaged.files.2
    refine verifyDetachedHmac_ok_iff.2 ⟨Sha256.hex (mac (utf8 rendered)) ++ ['\n'], mac,
      readToString_ok_iff.2 ⟨_, read_ok_iff.2 ⟨ne_empty_of_fileName hname, ?_⟩, fromUtf8_utf8 _⟩,
      hmac, ?_⟩
    · rw [hcontents, signatureContents, Function.update_self]
      rfl
    · rw [trim_signatureLine, Sha256.unhex_hex]

/-- The configuration that was written is read. -/
theorem read_written
    (hstaged : Staged crates host faults (tempDirName random) path config disk parent name rendered
      signature)
    (hcontents : disk'.contents =
      signatureContents host (configContents host path rendered disk.contents) signature) :
    Files.read disk' host.cwd path = .ok (utf8 rendered) := by
  rw [read_ok_iff, hcontents]
  exact ⟨ne_empty_of_fileName hstaged.name_eq, installed_config hstaged⟩

/-- What is too large is not loaded. -/
theorem length_le_of_load (hread : Files.read disk host.cwd path = .ok bytes)
    (h : loadStartupConfigFromPath crates host disk path = .ok loaded) :
    bytes.length ≤ maxConfigBytes := by
  obtain ⟨bytes', -, hread', hlength, -⟩ := load_ok_iff.1 h
  rw [hread] at hread'
  cases hread'
  exact hlength

end Written

/-- **Which written configurations are loaded.**  If a configuration was written, with any faults and
over any disk, then it is loaded again, as it was, exactly if its text is not too large for the
loader. -/
theorem save_load_iff (crates : Crates F) (host : Host) (faults : WriteConfigFaults) (random : Text)
    (path : Path) (config : StartupConfig F) (disk disk' : Disk)
    (hwrite : writeStartupConfigToPath crates host faults random path config disk = .ok () disk')
    (hyaml : crates.RoundTrips config) (hjson : crates.Encodes (fingerprintSrc config)) :
    (∃ loaded, loadStartupConfigFromPath crates host disk' path = .ok loaded ∧ loaded.app = config) ↔
      ∀ text, crates.toYaml config = .ok text → utf8Len (ended text) ≤ maxConfigBytes := by
  obtain ⟨parent, name, rendered, signature, hstaged, hcontents⟩ := written hwrite
  have hread := read_written hstaged hcontents
  obtain ⟨hvalid, text, htext, rfl⟩ := render_ok_iff.1 hstaged.renders
  constructor
  · rintro ⟨loaded, hload, -⟩ text' htext'
    rw [htext] at htext'
    cases htext'
    exact length_le_of_load hread hload
  · intro hlength
    obtain ⟨encoded, hencoded⟩ := hjson
    refine ⟨⟨config, path, Sha256.hex (crates.sha256 encoded),
      resolveOptionalHmacKey host config.integrity.pseudoIdHmacKeyEnv⟩, load_ok_iff.2
        ⟨_, _, hread, hlength text htext, hyaml text htext, hvalid,
          verifySignature_of_written hstaged hcontents, ?_, rfl⟩, rfl⟩
    unfold fingerprintConfig
    rw [hencoded]
    rfl

/-- A disk with nothing but the working directory. -/
def srvDisk : Disk := Disk.blank.put "srv".toList [] .dir

/-- No file is in the way of the directory of the sample. -/
theorem srvDisk_dirs (q : Place) (hq : q <:+ sampleDir) (bytes : Bytes) :
    srvDisk.nodes q ≠ some (.file bytes) := by
  simp only [sampleDir, List.suffix_cons_iff, List.suffix_nil] at hq
  rcases hq with rfl | rfl | rfl
  · have hnode : srvDisk.nodes ["config".toList, "srv".toList] = none := by decide
    rw [hnode]
    simp
  · have hnode : srvDisk.nodes ["srv".toList] = some .dir := by decide
    rw [hnode]
    simp
  · rw [srvDisk.root]
    simp

section Sample

variable {specialPhrase yaml json : Text} {signature : Option ConfigSignatureConfig}

/-- The sample is written on the disk with the working directory. -/
theorem sample_written (hsignature : signature = none ∨ signature = some sampleSignature) :
    ∃ disk', writeStartupConfigToPath
      (sampleCrates (sampleConfig specialPhrase signature) yaml json) sampleHost .none sampleRandom
      samplePath (sampleConfig specialPhrase signature) srvDisk = .ok () disk' := by
  refine write_ok_of_staged (sample_staged hsignature srvDisk_dirs (by decide)) ?_ ?_ ?_
  · rintro (hfault | hname | hthere)
    · exact hfault rfl
    · exact absurd hname (by decide)
    · exact absurd hthere (by decide)
  · rcases hsignature with rfl | rfl
    · exact id
    · rintro ⟨n, hname, hfault | htemp | hthere⟩
      · exact hfault rfl
      · cases hname
        exact absurd htemp (by decide)
      · cases hname
        exact absurd hthere (by decide)
  · rintro (hempty | hfault | hfault)
    · cases hempty
    · exact hfault rfl
    · exact hfault rfl

theorem roundTrips_sample (config : StartupConfig ℚ) (yaml json : Text) :
    (sampleCrates config yaml json).RoundTrips config := by
  intro text htext
  cases htext
  exact if_pos rfl

end Sample

theorem save_load_iff_signed :
    ∃ disk', writeStartupConfigToPath
        (sampleCrates (sampleConfig "これはおお".toList (some sampleSignature))
          (sampleYaml "これはおお".toList sampleSignatureYaml)
          (sampleJson "これはおお".toList sampleSignatureJson))
        sampleHost .none sampleRandom samplePath
        (sampleConfig "これはおお".toList (some sampleSignature)) srvDisk = .ok () disk' ∧
      ((∃ loaded, loadStartupConfigFromPath
          (sampleCrates (sampleConfig "これはおお".toList (some sampleSignature))
            (sampleYaml "これはおお".toList sampleSignatureYaml)
            (sampleJson "これはおお".toList sampleSignatureJson))
          sampleHost disk' samplePath = .ok loaded ∧
          loaded.app = sampleConfig "これはおお".toList (some sampleSignature)) ↔
        ∀ text, (sampleCrates (sampleConfig "これはおお".toList (some sampleSignature))
            (sampleYaml "これはおお".toList sampleSignatureYaml)
            (sampleJson "これはおお".toList sampleSignatureJson)).toYaml
              (sampleConfig "これはおお".toList (some sampleSignature)) = .ok text →
          utf8Len (ended text) ≤ maxConfigBytes) := by
  obtain ⟨disk', hwrite⟩ := @sample_written "これはおお".toList
    (sampleYaml "これはおお".toList sampleSignatureYaml)
    (sampleJson "これはおお".toList sampleSignatureJson) (some sampleSignature) (.inr rfl)
  exact ⟨disk', hwrite, save_load_iff _ _ _ _ _ _ _ _ hwrite (roundTrips_sample _ _ _) ⟨_, rfl⟩⟩

theorem length_le_ended (s : Text) : s.length ≤ (ended s).length := by
  unfold ended
  split_ifs
  · exact le_rfl
  · simp

theorem length_le_sampleYaml (specialPhrase signature : Text) :
    specialPhrase.length ≤ (sampleYaml specialPhrase signature).length :=
  (List.sublist_flatten_of_mem
    (.tail _ (.tail _ (.tail _ (.tail _ (.head _)))))).length_le

/-- A special phrase that fills a configuration file. -/
def longPhrase : Text := List.replicate 65537 'o'

/-- A configuration is written that is not loaded. -/
theorem longPhrase_not_loaded :
    (sampleCrates (sampleConfig longPhrase none) (sampleYaml longPhrase " null".toList)
      (sampleJson longPhrase "null".toList)).RoundTrips (sampleConfig longPhrase none) ∧
    ∃ disk', writeStartupConfigToPath
        (sampleCrates (sampleConfig longPhrase none) (sampleYaml longPhrase " null".toList)
          (sampleJson longPhrase "null".toList))
        sampleHost .none sampleRandom samplePath (sampleConfig longPhrase none) srvDisk =
          .ok () disk' ∧
      ¬ ∃ loaded, loadStartupConfigFromPath
        (sampleCrates (sampleConfig longPhrase none) (sampleYaml longPhrase " null".toList)
          (sampleJson longPhrase "null".toList))
        sampleHost disk' samplePath = .ok loaded ∧ loaded.app = sampleConfig longPhrase none := by
  obtain ⟨disk', hwrite⟩ := @sample_written longPhrase (sampleYaml longPhrase " null".toList)
    (sampleJson longPhrase "null".toList) none (.inl rfl)
  refine ⟨roundTrips_sample _ _ _, disk', hwrite, fun ⟨loaded, hload, _⟩ => ?_⟩
  obtain ⟨parent, name, rendered, signature, hstaged, hcontents⟩ := written hwrite
  have hrendered : rendered = ended (sampleYaml longPhrase " null".toList) :=
    Except.ok.inj (hstaged.renders.symm.trans render_sample)
  have hbytes := length_le_of_load (read_written hstaged hcontents) hload
  rw [utf8_length, hrendered] at hbytes
  have hlong : 65537 ≤ utf8Len (ended (sampleYaml longPhrase " null".toList)) :=
    calc 65537 = longPhrase.length := List.length_replicate.symm
      _ ≤ (sampleYaml longPhrase " null".toList).length := length_le_sampleYaml _ _
      _ ≤ (ended (sampleYaml longPhrase " null".toList)).length := length_le_ended _
      _ ≤ utf8Len (ended (sampleYaml longPhrase " null".toList)) := length_le_utf8Len _
  exact absurd (hlong.trans hbytes) (by decide)

end OoBot
