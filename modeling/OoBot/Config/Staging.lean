import OoBot.Config.Write

/-!
# Writing a configuration up to the first rename

`Staged` lists what it takes to get to the first rename.  Then the function is the renames and the last
sync, on a disk that differs from the one before the call in directories and in the temporary
directory only (`write_of_staged`); otherwise the function fails and no file has changed
(`write_of_not_staged`).
-/

namespace OoBot

open Files Fallible

variable {F : Type}

theorem writing_ok_iff {α : Type} {m : EStateM IoError Disk α} {a : α} {disk disk' : Disk} :
    writing m disk = .ok a disk' ↔ m disk = .ok a disk' := adaptExcept_ok_iff

theorem creatingDir_ok_iff {α : Type} {m : EStateM IoError Disk α} {a : α} {disk disk' : Disk} :
    creatingDir m disk = .ok a disk' ↔ m disk = .ok a disk' := adaptExcept_ok_iff

/-! ### The files in the temporary directory -/

/-- What it takes to write the signature beside the configuration `name`. -/
def SignatureStaged (faults : WriteConfigFaults) (parent : Path) (name : Name) :
    Option (Path × Text) → Prop
  | none => True
  | some (signaturePath, _) =>
      signaturePath.parent = some parent ∧ (parent = .empty ∨ faults.createSignatureDirs = none) ∧
        faults.signature.Clear ∧
        ∃ signatureFileName, signaturePath.fileName = some signatureFileName ∧
          signatureFileName ≠ name

/-- The rename that is left to do for the signature. -/
def signatureRename : Option (Path × Text) → Option (Name × Path)
  | none => none
  | some (signaturePath, _) =>
      signaturePath.fileName.map fun signatureFileName => (signatureFileName, signaturePath)

/-- The disk once the signature is in the temporary directory. -/
def withSignature (tempDir : Place) (disk : Disk) : Option (Path × Text) → Disk
  | none => disk
  | some (signaturePath, hex) =>
      match signaturePath.fileName with
      | none => disk
      | some signatureFileName => disk.put signatureFileName tempDir (.file (signatureLine hex))

section Stage

variable {host : Host} {faults : WriteConfigFaults} {parent path : Path} {name : Name}
  {rendered : Text} {tempDir q : Place} {disk disk' : Disk} {signature : Option (Path × Text)}
  {signatureFiles : Option (Name × Path)} {fault : Option Fault}

theorem nodes_withSignature_of_ne (h : ∀ n, q ≠ n :: tempDir) :
    (withSignature tempDir disk signature).nodes q = disk.nodes q := by
  unfold withSignature
  split
  · rfl
  · split
    · rfl
    · exact Disk.nodes_put_of_ne (h _)

/-- The signature does not go over the configuration. -/
theorem nodes_withSignature_of_staged (h : SignatureStaged faults parent name signature) :
    (withSignature tempDir disk signature).nodes (name :: tempDir) = disk.nodes (name :: tempDir) := by
  cases signature with
  | none => rfl
  | some signed =>
    obtain ⟨-, -, -, n, hname, hne⟩ := h
    simp only [withSignature, hname]
    exact Disk.nodes_put_of_ne (by simpa using hne.symm)

theorem createParent_ok_iff (hparent : path.parent = some parent) :
    createParent host fault path disk = .ok () disk' ↔
      createDirAll fault host.cwd parent disk = .ok () disk' := by
  unfold createParent
  simp only [hparent]
  exact creatingDir_ok_iff

/-- Staging the signature goes through if its path has a file name of its own in the directory of the
configuration. -/
theorem stageSignature_ok_iff (hdir : disk.nodes (parent.place host.cwd) = some .dir)
    (htemp : disk.nodes tempDir = some .dir)
    (honly : ∀ n, disk.nodes (n :: tempDir) = none ↔ n ≠ name) :
    stageSignature host faults parent tempDir signature disk = .ok signatureFiles disk' ↔
      SignatureStaged faults parent name signature ∧ signatureFiles = signatureRename signature ∧
        disk' = withSignature tempDir disk signature := by
  cases signature with
  | none =>
    show (pure none : EStateM StartupConfigError Disk (Option (Name × Path))) disk = _ ↔ _
    rw [pure_ok_iff, SignatureStaged, true_and]
    rfl
  | some signed =>
    obtain ⟨signaturePath, hex⟩ := signed
    simp only [stageSignature, SignatureStaged, signatureRename, withSignature, seq_ok_iff]
    constructor
    · rintro ⟨disk₁, hdirs, hrest⟩
      split_ifs at hrest with hsame
      · cases hname : signaturePath.fileName with
        | none =>
          simp only [hname] at hrest
          exact absurd hrest throw_ne_ok
        | some signatureFileName =>
          simp only [hname] at hrest
          obtain ⟨signatureParent, hparent⟩ := Path.parent_of_fileName hname
          rw [hparent, Option.getD_some] at hsame
          subst hsame
          rw [createParent_ok_iff hparent, createDirAll_of_dir hdir] at hdirs
          obtain ⟨hclear, rfl⟩ := hdirs
          obtain ⟨disk₂, hwrite, hpure⟩ := seq_ok_iff.1 hrest
          obtain ⟨hfaults, hnew, -, rfl⟩ := writeNew_ok_iff.1 (writing_ok_iff.1 hwrite)
          obtain ⟨rfl, rfl⟩ := pure_ok_iff.1 hpure
          exact ⟨⟨hparent, hclear, hfaults, signatureFileName, rfl, (honly _).1 hnew⟩, rfl, rfl⟩
      · exact absurd hrest throw_ne_ok
    · rintro ⟨⟨hparent, hclear, hfaults, signatureFileName, hname, hne⟩, rfl, rfl⟩
      refine ⟨disk, ?_, ?_⟩
      · rw [createParent_ok_iff hparent, createDirAll_of_dir hdir]
        exact ⟨hclear, rfl⟩
      · rw [if_pos (by rw [hparent]; rfl)]
        simp only [hname, Option.map_some]
        refine seq_ok_iff.2 ⟨_, writing_ok_iff.2 (writeNew_ok_iff.2
          ⟨hfaults, (honly _).2 hne, htemp, rfl⟩), rfl⟩

/-- What it takes to fill the temporary directory. -/
theorem stageFiles_ok_iff {tempName : Name}
    (hdir : disk.nodes (parent.place host.cwd) = some .dir)
    (htemp : disk.nodes (tempName :: parent.place host.cwd) = some .dir)
    (hempty : ∀ n, disk.nodes (n :: tempName :: parent.place host.cwd) = none) :
    stageFiles host faults parent name rendered signature (tempName :: parent.place host.cwd) disk =
        .ok signatureFiles disk' ↔
      faults.config.Clear ∧ SignatureStaged faults parent name signature ∧
        (faults.openTempDir = none ∧ faults.syncTempDir = none) ∧
        signatureFiles = signatureRename signature ∧
        disk' = withSignature (tempName :: parent.place host.cwd)
          (disk.put name (tempName :: parent.place host.cwd) (.file (utf8 rendered))) signature := by
  set tempDir := tempName :: parent.place host.cwd with htempDir
  set written := disk.put name tempDir (.file (utf8 rendered)) with hwritten
  have hput : disk.CanPut name tempDir (.file (utf8 rendered)) :=
    Disk.canPut_of_none htemp (hempty name)
  have hdir' : written.nodes (parent.place host.cwd) = some .dir := by
    rw [hwritten, Disk.nodes_put_of_ne ?_, hdir]
    intro h
    have hlength := congrArg List.length h
    simp only [htempDir, List.length_cons] at hlength
    omega
  have htemp' : written.nodes tempDir = some .dir := by
    rw [hwritten, Disk.nodes_put_of_ne (by simp), htemp]
  -- the new directory holds the configuration and nothing else
  have honly (n : Name) : written.nodes (n :: tempDir) = none ↔ n ≠ name := by
    rw [hwritten, Disk.nodes_put hput]
    by_cases hn : n = name
    · simp [hn]
    · simp [hn, hempty n]
  have hthere : (withSignature tempDir written signature).nodes tempDir ≠ none := by
    rw [nodes_withSignature_of_ne (by simp), htemp']
    simp
  unfold stageFiles
  rw [seq_ok_iff]
  constructor
  · rintro ⟨disk₁, hwrite, hrest⟩
    obtain ⟨hclear, -, -, rfl⟩ := writeNew_ok_iff.1 (writing_ok_iff.1 hwrite)
    obtain ⟨files, disk₂, hsignature, hrest⟩ := bind_ok_iff.1 hrest
    obtain ⟨hstaged, rfl, rfl⟩ := (stageSignature_ok_iff hdir' htemp' honly).1 hsignature
    obtain ⟨disk₃, hsync, hpure⟩ := seq_ok_iff.1 hrest
    obtain ⟨hopen, hsynced, -, rfl⟩ := fsyncPlace_ok_iff.1 (writing_ok_iff.1 hsync)
    obtain ⟨rfl, rfl⟩ := pure_ok_iff.1 hpure
    exact ⟨hclear, hstaged, ⟨hopen, hsynced⟩, rfl, rfl⟩
  · rintro ⟨hclear, hstaged, ⟨hopen, hsynced⟩, rfl, rfl⟩
    refine ⟨written, writing_ok_iff.2 (writeNew_ok_iff.2 ⟨hclear, hempty name, htemp, rfl⟩), ?_⟩
    refine bind_ok_iff.2 ⟨_, _, (stageSignature_ok_iff hdir' htemp' honly).2 ⟨hstaged, rfl, rfl⟩, ?_⟩
    exact seq_ok_iff.2 ⟨_, writing_ok_iff.2 (fsyncPlace_ok_iff.2
      ⟨hopen, hsynced, hthere, rfl⟩), rfl⟩

/-! #### What staging leaves alone -/

theorem keeps_createParent :
    Keeps (fun disk => disk.contents q) (createParent host fault path) := by
  unfold createParent
  split
  · exact keeps_createDirAll.adaptExcept
  · exact Keeps.pure _

/-- A file in the temporary directory changes no file outside. -/
theorem keeps_writing_writeNew {writeFaults : WriteFaults} {bytes : Bytes} (hq : ¬ tempDir <:+ q) :
    Keeps (fun disk => disk.contents q) (writing (writeNew writeFaults name tempDir bytes)) := by
  have hne : q ≠ name :: tempDir := by
    rintro rfl
    exact hq (List.suffix_cons _ _)
  exact Keeps.adaptExcept fun disk => Disk.contents_congr (keeps_writeNew hne disk)

theorem keeps_stageSignature (hq : ¬ tempDir <:+ q) :
    Keeps (fun disk => disk.contents q)
      (stageSignature host faults parent tempDir signature) := by
  unfold stageSignature
  split
  · exact Keeps.pure _
  · refine keeps_createParent.bind fun _ => ?_
    split_ifs
    · split
      · exact Keeps.throw _
      · exact (keeps_writing_writeNew hq).bind fun _ => Keeps.pure _
    · exact Keeps.throw _

/-- Staging changes no file outside the temporary directory. -/
theorem keeps_stageFiles (hq : ¬ tempDir <:+ q) :
    Keeps (fun disk => disk.contents q)
      (stageFiles host faults parent name rendered signature tempDir) :=
  (keeps_writing_writeNew hq).bind fun _ => (keeps_stageSignature hq).bind fun _ =>
    keeps_fsyncPlace.adaptExcept.bind fun _ => Keeps.pure _

/-- With the temporary directory gone, staging changes no file at all. -/
theorem keeps_stageFiles_removed {tempName : Name} {dir : Place} :
    Keeps (fun disk => (disk.remove tempName dir).contents q)
      (stageFiles host faults parent name rendered signature (tempName :: dir)) := by
  intro disk
  show (Disk.remove _ _ _).contents q = (Disk.remove _ _ _).contents q
  rw [Disk.contents_remove, Disk.contents_remove]
  split_ifs with hq
  · rfl
  · exact keeps_stageFiles hq disk

end Stage

/-! ### Up to the first rename -/

/-- What it takes to get to the first rename. -/
structure Staged (crates : Crates F) (host : Host) (faults : WriteConfigFaults) (tempName : Name)
    (path : Path) (config : StartupConfig F) (disk : Disk) (parent : Path) (name : Name)
    (rendered : Text) (signature : Option (Path × Text)) : Prop where
  renders : renderStartupConfigYaml crates config = .ok rendered
  signs : configSignatureHex crates host path config (utf8 rendered) = .ok signature
  parent_eq : path.parent = some parent
  name_eq : path.fileName = some name
  /-- The directories are there or can be made. -/
  dirs : parent = .empty ∨ faults.createConfigDirs = none ∧
    ∀ q, q <:+ parent.place host.cwd → ∀ bytes, disk.nodes q ≠ some (.file bytes)
  here : parent = .empty → disk.nodes host.cwd = some .dir
  tempDir : faults.createTempDir = none ∧
    disk.nodes (tempName :: parent.place host.cwd) = none
  files : faults.config.Clear ∧ SignatureStaged faults parent name signature
  synced : faults.openTempDir = none ∧ faults.syncTempDir = none

/-- A disk before the first rename, beside the disk before the call. -/
structure Ready (tempName name : Name) (rendered : Text) (signature : Option (Path × Text))
    (dir : Place) (disk staged : Disk) : Prop where
  fresh : disk.nodes (tempName :: dir) = none
  isDir : staged.nodes dir = some .dir
  configFile : staged.nodes (name :: tempName :: dir) = some (.file (utf8 rendered))
  signatureFile : ∀ signaturePath hex n, signature = some (signaturePath, hex) →
    signaturePath.fileName = some n →
    staged.nodes (n :: tempName :: dir) = some (.file (signatureLine hex))
  tempIsDir : staged.nodes (tempName :: dir) = some .dir
  sibling : ∀ n, n ≠ tempName → staged.nodes (n :: dir) = disk.nodes (n :: dir)
  contents : (staged.remove tempName dir).contents = disk.contents

section Write

variable {crates : Crates F} {host : Host} {faults : WriteConfigFaults} {random : Text}
  {path : Path} {config : StartupConfig F} {disk : Disk} {parent : Path} {name tempName : Name}
  {rendered : Text} {signature : Option (Path × Text)} {dir : Place}

/-- A new directory is there, and empty. -/
theorem createNew_dir_facts {fault : Option Fault} {opened : Disk}
    (h : createNew fault .dir tempName dir disk = .ok () opened) :
    opened.nodes dir = some .dir ∧ opened.nodes (tempName :: dir) = some .dir ∧
      ∀ n, opened.nodes (n :: tempName :: dir) = none := by
  obtain ⟨-, hnew, hdir, rfl⟩ := createNew_ok_iff.1 h
  have hput : disk.CanPut tempName dir .dir := Disk.canPut_of_none hdir hnew
  refine ⟨?_, ?_, fun n => ?_⟩
  · rw [Disk.nodes_put_of_ne (by simp), hdir]
  · rw [Disk.nodes_put hput, if_pos rfl]
  · rw [Disk.nodes_put_of_ne (by simp)]
    exact Disk.nodes_eq_none_of_suffix hnew (List.suffix_cons _ _)

/-- The directories for the configuration change nothing beside it. -/
theorem nodes_beside {fault : Option Fault} {made : Disk}
    (h : createDirAll fault host.cwd parent disk = .ok () made) (n : Name) :
    made.nodes (n :: parent.place host.cwd) = disk.nodes (n :: parent.place host.cwd) := by
  rw [nodes_of_createDirAll h, if_neg]
  rintro ⟨-, hin⟩
  exact absurd hin.length_le (by simp)

/-- What is in the temporary directory is not beside it. -/
theorem ne_of_deeper (n m : Name) : n :: dir ≠ m :: tempName :: dir := by
  intro h
  have hlength := congrArg List.length h
  simp only [List.length_cons] at hlength
  omega

/-- Outside the temporary directory the two files change nothing. -/
theorem nodes_staged_of_ne {opened : Disk} {q tempDir : Place} (hq : ∀ n, q ≠ n :: tempDir) :
    (withSignature tempDir (opened.put name tempDir (.file (utf8 rendered))) signature).nodes q =
      opened.nodes q := by
  rw [nodes_withSignature_of_ne hq, Disk.nodes_put_of_ne (hq name)]

/-- In an empty temporary directory the signature is written beside the configuration. -/
theorem nodes_staged_signature {opened : Disk} {tempDir : Place} {signaturePath : Path}
    {hex : Text} {n : Name} (htemp : opened.nodes tempDir = some .dir)
    (hempty : ∀ n, opened.nodes (n :: tempDir) = none)
    (hfiles : SignatureStaged faults parent name (some (signaturePath, hex)))
    (hname : signaturePath.fileName = some n) :
    (withSignature tempDir (opened.put name tempDir (.file (utf8 rendered)))
      (some (signaturePath, hex))).nodes (n :: tempDir) = some (.file (signatureLine hex)) := by
  obtain ⟨-, -, -, m, hm, hne⟩ := hfiles
  obtain rfl : m = n := Option.some.inj (hm.symm.trans hname)
  have hput : (opened.put name tempDir (.file (utf8 rendered))).CanPut m tempDir
      (.file (signatureLine hex)) := by
    refine Disk.canPut_of_none ?_ ?_
    · rw [Disk.nodes_put_of_ne (by simp), htemp]
    · rw [Disk.nodes_put_of_ne (by simpa using hne), hempty]
  simp only [withSignature, hname]
  rw [Disk.nodes_put hput, if_pos rfl]

/-- Without the temporary directory, every file is what it was before the call. -/
theorem contents_staged {fault fault' : Option Fault} {made opened : Disk}
    (hdirs : createDirAll fault host.cwd parent disk = .ok () made)
    (htemp : createNew fault' .dir tempName dir made = .ok () opened)
    (hfresh : disk.nodes (tempName :: dir) = none) :
    ((withSignature (tempName :: dir) (opened.put name (tempName :: dir) (.file (utf8 rendered)))
      signature).remove tempName dir).contents = disk.contents := by
  obtain ⟨-, hnew, -, rfl⟩ := createNew_ok_iff.1 htemp
  have hmade (q : Place) : made.contents q = disk.contents q := by
    have hkept : (after (createDirAll fault host.cwd parent disk)).contents q = disk.contents q :=
      keeps_createDirAll disk
    rwa [hdirs] at hkept
  rw [← Disk.contents_remove_of_none hfresh]
  funext q
  rw [Disk.contents_remove, Disk.contents_remove]
  split_ifs with hq
  · rfl
  · have hne (n : Name) : q ≠ n :: tempName :: dir := by
      rintro rfl
      exact hq (List.suffix_cons _ _)
    rw [Disk.contents_congr (nodes_staged_of_ne hne), Disk.contents_put_dir hnew, hmade]

/-- The disk that staging leaves is ready for the renames. -/
theorem ready_of_staging {fault fault' : Option Fault} {made opened : Disk}
    (hdirs : createDirAll fault host.cwd parent disk = .ok () made)
    (htemp : createNew fault' .dir tempName (parent.place host.cwd) made = .ok () opened)
    (hfiles : SignatureStaged faults parent name signature) :
    Ready tempName name rendered signature (parent.place host.cwd) disk
      (withSignature (tempName :: parent.place host.cwd)
        (opened.put name (tempName :: parent.place host.cwd) (.file (utf8 rendered))) signature) := by
  obtain ⟨hisDir, htempIsDir, hempty⟩ := createNew_dir_facts htemp
  obtain ⟨-, hnew, -, hopened⟩ := createNew_ok_iff.1 htemp
  have hfresh : disk.nodes (tempName :: parent.place host.cwd) = none :=
    (nodes_beside hdirs tempName).symm.trans hnew
  have hself (n : Name) : parent.place host.cwd ≠ n :: tempName :: parent.place host.cwd := by
    intro h
    have hlength := congrArg List.length h
    simp only [List.length_cons] at hlength
    omega
  refine ⟨hfresh, ?_, ?_, ?_, ?_, ?_, contents_staged hdirs htemp hfresh⟩
  · rw [nodes_staged_of_ne hself, hisDir]
  · rw [nodes_withSignature_of_staged hfiles,
      Disk.nodes_put (Disk.canPut_of_none htempIsDir (hempty name)), if_pos rfl]
  · rintro signaturePath hex n rfl hname
    exact nodes_staged_signature htempIsDir hempty hfiles hname
  · rw [nodes_staged_of_ne fun n => ne_of_deeper _ n, htempIsDir]
  · intro n hn
    rw [nodes_staged_of_ne fun m => ne_of_deeper n m, hopened,
      Disk.nodes_put_of_ne (by simpa using hn), nodes_beside hdirs]

/-- Once both files are staged, what is left are the renames and the last sync. -/
theorem write_of_staged (h : Staged crates host faults (tempDirName random) path config disk parent
    name rendered signature) :
    ∃ staged, Ready (tempDirName random) name rendered signature (parent.place host.cwd) disk staged ∧
      writeStartupConfigToPath crates host faults random path config disk =
        ending (fun disk => disk.remove (tempDirName random) (parent.place host.cwd))
          (installFiles host faults path parent name (tempDirName random :: parent.place host.cwd)
            (signatureRename signature)) staged := by
  obtain ⟨made, hdirs⟩ := createDirAll_goes_iff.2 h.dirs
  have hisDir : made.nodes (parent.place host.cwd) = some .dir := by
    rw [nodes_of_createDirAll hdirs]
    by_cases hempty : parent = .empty
    · subst hempty
      rw [if_neg fun h => h.1 rfl]
      exact h.here rfl
    · rw [if_pos ⟨hempty, List.suffix_refl _⟩]
  have hnew := (nodes_beside hdirs (tempDirName random)).trans h.tempDir.2
  obtain ⟨opened, htemp⟩ : ∃ opened, createNew faults.createTempDir .dir (tempDirName random)
      (parent.place host.cwd) made = .ok () opened :=
    ⟨_, createNew_ok_iff.2 ⟨h.tempDir.1, hnew, hisDir, rfl⟩⟩
  refine ⟨_, ready_of_staging hdirs htemp h.files.2, ?_⟩
  obtain ⟨hdir, htempDir, hempty⟩ := createNew_dir_facts htemp
  have hstage : stageFiles host faults parent name rendered signature
      (tempDirName random :: parent.place host.cwd) opened = .ok (signatureRename signature) _ :=
    (stageFiles_ok_iff hdir htempDir hempty).2 ⟨h.files.1, h.files.2, h.synced, rfl, rfl⟩
  unfold writeStartupConfigToPath
  rw [bind_of_ok (ofExcept_ok_iff.2 ⟨h.renders, rfl⟩), bind_of_ok (ofExcept_ok_iff.2 ⟨h.signs, rfl⟩),
    bind_of_ok ((createParent_ok_iff h.parent_eq).2 hdirs)]
  simp only [h.name_eq, h.parent_eq, Option.getD_some]
  unfold installRendered inTempDir
  rw [bind_of_ok (creatingDir_ok_iff.2 htemp), ending_of_ok hstage]

/-- Short of that, no file changes. -/
theorem write_of_not_staged (h : ∀ parent name rendered signature, ¬ Staged crates host faults
    (tempDirName random) path config disk parent name rendered signature) :
    FailsAt Disk.contents disk.contents
      (writeStartupConfigToPath crates host faults random path config) disk := by
  -- every step that goes through gives a condition of `Staged`, so some step fails
  refine FailsAt.bind (Keeps.ofExcept _) rfl fun rendered _ hok _ => ?_
  obtain ⟨hrender, hsame⟩ := ofExcept_ok_iff.1 hok
  rw [hsame]
  refine FailsAt.bind (Keeps.ofExcept _) rfl fun signature _ hok _ => ?_
  obtain ⟨hsign, hsame⟩ := ofExcept_ok_iff.1 hok
  rw [hsame]
  refine FailsAt.bind (Keeps.pi fun q => keeps_createParent) rfl fun _ made hparent hmade => ?_
  cases hname : path.fileName with
  | none => exact FailsAt.throw _ hmade
  | some name =>
    obtain ⟨parent, hparentEq⟩ := Path.parent_of_fileName hname
    rw [createParent_ok_iff hparentEq] at hparent
    simp only [hparentEq, Option.getD_some]
    refine FailsAt.bind (Keeps.adaptExcept (Keeps.pi fun q => keeps_createNew_dir)) hmade
      fun _ opened hopened hcontents => FailsAt.ending ?_
    have htemp := creatingDir_ok_iff.1 hopened
    obtain ⟨hdir, htempDir, hempty⟩ := createNew_dir_facts htemp
    obtain ⟨hfault, hnew, hisDir, -⟩ := createNew_ok_iff.1 htemp
    have hremoved : (opened.remove (tempDirName random) (parent.place host.cwd)).contents =
        disk.contents := by
      rw [← hmade, ← Disk.contents_remove_of_none hnew]
      funext q
      rw [Disk.contents_remove, Disk.contents_remove, hcontents, hmade]
    refine FailsAt.bind (Keeps.pi fun q => keeps_stageFiles_removed) hremoved
      fun files staged hstage _ => absurd ?_ (h parent name rendered signature)
    obtain ⟨hclear, hstaged, hsynced, -⟩ := (stageFiles_ok_iff hdir htempDir hempty).1 hstage
    refine ⟨hrender, hsign, hparentEq, hname, createDirAll_goes_iff.1 ⟨made, hparent⟩, ?_,
      ⟨hfault, (nodes_beside hparent _).symm.trans hnew⟩, ⟨hclear, hstaged⟩, hsynced⟩
    rintro rfl
    have hsame := nodes_of_createDirAll hparent host.cwd
    rw [if_neg fun h => h.1 rfl] at hsame
    exact hsame.symm.trans hisDir

end Write

end OoBot
