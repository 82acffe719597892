import OoBot.Config.Load
import OoBot.Config.Staging

/-!
# When a configuration is installed whole or not at all

After the rename of the configuration two steps can still fail: the rename of the signature and the
sync of the directory.  Neither undoes what was renamed.

`install_all_or_nothing_iff` says which failing calls leave the files as they were.
-/

namespace OoBot

open Files Fallible

variable {F : Type}

/-! ### The renames -/

/-- A file `n` from the temporary directory cannot be renamed into `dir`. -/
def RenameStops (fault : Option Fault) (tempName : Name) (disk : Disk) (dir : Place) (n : Name) :
    Prop :=
  fault ≠ none ∨ n = tempName ∨ disk.nodes (n :: dir) = some .dir

/-- The rename of the signature fails. -/
def SignatureStops (faults : WriteConfigFaults) (tempName : Name) (disk : Disk) (dir : Place) :
    Option (Path × Text) → Prop
  | none => False
  | some (signaturePath, _) =>
      ∃ n, signaturePath.fileName = some n ∧
        RenameStops faults.renameSignature tempName disk dir n

/-- The last sync fails.  For a configuration in the working directory, given by its bare name, it
always does: its directory is opened by the empty path. -/
def SyncStops (faults : WriteConfigFaults) (parent : Path) : Prop :=
  parent = .empty ∨ faults.openConfigDir ≠ none ∨ faults.syncConfigDir ≠ none

/-- The contents with the configuration in place. -/
def configContents (host : Host) (path : Path) (rendered : Text)
    (contents : Place → Option Bytes) : Place → Option Bytes :=
  Function.update contents (path.place host.cwd) (some (utf8 rendered))

/-- The contents with the signature in place. -/
def signatureContents (host : Host) (contents : Place → Option Bytes) :
    Option (Path × Text) → Place → Option Bytes
  | none => contents
  | some (signaturePath, hex) =>
      Function.update contents (signaturePath.place host.cwd) (some (signatureLine hex))

/-- The disk after the rename of `n` out of the temporary directory. -/
def moved (tempName : Name) (dir : Place) (n : Name) (bytes : Bytes) (staged : Disk) : Disk :=
  (staged.remove n (tempName :: dir)).put n dir (.file bytes)

section Rename

variable {tempName n : Name} {dir q : Place} {disk staged : Disk} {bytes : Bytes}
  {fault : Option Fault}

theorem not_suffix_of_length {l l' : Place} (h : l'.length < l.length) : ¬ l <:+ l' := fun hin =>
  absurd hin.length_le (Nat.not_le.2 h)

/-- A name beside the temporary directory is not in it. -/
theorem not_in_tempDir (hn : n ≠ tempName) : ¬ tempName :: dir <:+ n :: dir := by
  rw [List.suffix_cons_iff]
  rintro (heq | hin)
  · exact hn (List.cons.inj heq).1.symm
  · exact not_suffix_of_length (by simp) hin

theorem nodes_moved (hdir : staged.nodes dir = some .dir) (hnot : staged.nodes (n :: dir) ≠ some .dir)
    (q : Place) : (moved tempName dir n bytes staged).nodes q =
      if q = n :: dir then some (.file bytes)
      else if n :: tempName :: dir <:+ q then none else staged.nodes q := by
  have hput : (staged.remove n (tempName :: dir)).CanPut n dir (.file bytes) := by
    refine ⟨?_, fun h => absurd ?_ hnot⟩
    · rw [Disk.nodes_remove, if_neg (not_suffix_of_length (by simp only [List.length_cons]; omega)), hdir]
    · rwa [Disk.nodes_remove, if_neg (not_suffix_of_length (by simp))] at h
  rw [moved, Disk.nodes_put hput, Disk.nodes_remove]

/-- What a rename shows once the temporary directory is gone. -/
theorem contents_moved (hdir : staged.nodes dir = some .dir)
    (hnot : staged.nodes (n :: dir) ≠ some .dir) (hn : n ≠ tempName) :
    ((moved tempName dir n bytes staged).remove tempName dir).contents =
      Function.update (staged.remove tempName dir).contents (n :: dir) (some bytes) := by
  funext q
  by_cases hq : q = n :: dir
  · subst hq
    rw [Function.update_self, Disk.contents_remove, if_neg (not_in_tempDir hn),
      Disk.contents_eq_some_iff, nodes_moved hdir hnot, if_pos rfl]
  · rw [Function.update_of_ne hq, Disk.contents_remove, Disk.contents_remove]
    split_ifs with hin
    · rfl
    · refine Disk.contents_congr ?_
      rw [nodes_moved hdir hnot, if_neg hq, if_neg fun h => hin ((List.suffix_cons _ _).trans h)]

/-- A rename goes through unless it stops, and then it changes nothing. -/
theorem rename_cases (hfile : staged.nodes (n :: tempName :: dir) = some (.file bytes))
    (hdir : staged.nodes dir = some .dir)
    (hthere : staged.nodes (n :: dir) = some .dir ↔
      n = tempName ∨ disk.nodes (n :: dir) = some .dir) :
    (RenameStops fault tempName disk dir n ∧
        ∃ err, writing (rename fault n (tempName :: dir) (n :: dir)) staged = .error err staged) ∨
      (¬ RenameStops fault tempName disk dir n ∧ staged.nodes (n :: dir) ≠ some .dir ∧
        writing (rename fault n (tempName :: dir) (n :: dir)) staged =
          .ok () (moved tempName dir n bytes staged)) := by
  unfold RenameStops
  rw [← hthere]
  by_cases hstops : fault ≠ none ∨ staged.nodes (n :: dir) = some .dir
  · refine .inl ⟨hstops, ?_⟩
    cases hresult : rename fault n (tempName :: dir) (n :: dir) staged with
    | ok u t =>
      obtain ⟨hfault, hnot, -⟩ := (rename_ok_iff hfile).1 hresult
      exact absurd hstops (not_or.2 ⟨not_not.2 hfault, hnot⟩)
    | error err t =>
      rw [rename_error hresult] at hresult
      refine ⟨.writeConfig err.text, ?_⟩
      unfold writing EStateM.adaptExcept
      rw [hresult]
  · obtain ⟨hfault, hnot⟩ := not_or.1 hstops
    exact .inr ⟨hstops, hnot,
      writing_ok_iff.2 ((rename_ok_iff hfile).2 ⟨not_not.1 hfault, hnot, hdir, rfl⟩)⟩

end Rename

/-! ### After the files are staged -/

section Install

variable {crates : Crates F} {host : Host} {faults : WriteConfigFaults} {random rendered : Text}
  {path parent : Path} {config : StartupConfig F} {tempName name n : Name} {dir : Place}
  {disk staged : Disk} {signature : Option (Path × Text)}

/-- A directory is in the way if it was before, or if it is the temporary one. -/
theorem Ready.dir_iff (h : Ready tempName name rendered signature dir disk staged) (n : Name) :
    staged.nodes (n :: dir) = some .dir ↔ n = tempName ∨ disk.nodes (n :: dir) = some .dir := by
  by_cases hn : n = tempName
  · subst hn
    exact iff_of_true h.tempIsDir (.inl rfl)
  · rw [h.sibling n hn]
    exact (or_iff_right hn).symm

/-- The rename of the signature, after that of the configuration. -/
theorem installSignature_cases
    (hready : Ready tempName name rendered signature (parent.place host.cwd) disk staged)
    (hfiles : SignatureStaged faults parent name signature)
    (hnot : staged.nodes (name :: parent.place host.cwd) ≠ some .dir) :
    let renamed := moved tempName (parent.place host.cwd) name (utf8 rendered) staged
    let install := installSignature host faults (tempName :: parent.place host.cwd)
      (signatureRename signature)
    (SignatureStops faults tempName disk (parent.place host.cwd) signature ∧
        ∃ err, install renamed = .error err renamed) ∨
      (¬ SignatureStops faults tempName disk (parent.place host.cwd) signature ∧
        ∃ installed, install renamed = .ok () installed ∧
          installed.nodes (parent.place host.cwd) = some .dir ∧
          (installed.remove tempName (parent.place host.cwd)).contents = signatureContents host
            (renamed.remove tempName (parent.place host.cwd)).contents signature) := by
  intro renamed install
  have hdir : renamed.nodes (parent.place host.cwd) = some .dir := by
    rw [nodes_moved hready.isDir hnot, if_neg (by simp),
      if_neg (not_suffix_of_length (by simp only [List.length_cons]; omega)), hready.isDir]
  cases signature with
  | none => exact .inr ⟨id, renamed, rfl, hdir, rfl⟩
  | some signed =>
    obtain ⟨signaturePath, hex⟩ := signed
    obtain ⟨hparent, -, -, n, hname, hne⟩ := hfiles
    have hplace : signaturePath.place host.cwd = n :: parent.place host.cwd :=
      Path.place_eq hparent hname host.cwd
    have hinstall : install = writing (rename faults.renameSignature n
        (tempName :: parent.place host.cwd) (n :: parent.place host.cwd)) := by
      simp only [install, signatureRename, hname, Option.map_some, installSignature, hplace]
    have hstops : SignatureStops faults tempName disk (parent.place host.cwd)
        (some (signaturePath, hex)) ↔
          RenameStops faults.renameSignature tempName disk (parent.place host.cwd) n := by
      simp only [SignatureStops, hname, Option.some.injEq, exists_eq_left']
    -- the rename of the configuration left the signature, and what is beside it
    have hfile : renamed.nodes (n :: tempName :: parent.place host.cwd) =
        some (.file (signatureLine hex)) := by
      rw [nodes_moved hready.isDir hnot, if_neg (ne_of_deeper _ _).symm, if_neg,
        hready.signatureFile _ _ n rfl hname]
      intro hin
      exact hne (List.cons.inj (hin.eq_of_length rfl)).1.symm
    have hthere : renamed.nodes (n :: parent.place host.cwd) = some .dir ↔
        n = tempName ∨ disk.nodes (n :: parent.place host.cwd) = some .dir := by
      rw [nodes_moved hready.isDir hnot, if_neg (by simpa using hne),
        if_neg (not_suffix_of_length (by simp)), hready.dir_iff]
    rw [hinstall, hstops]
    rcases @rename_cases _ _ _ disk renamed _ faults.renameSignature hfile hdir hthere with
      ⟨hstop, herr⟩ | ⟨hgo, hnotdir, hok⟩
    · exact .inl ⟨hstop, herr⟩
    · refine .inr ⟨hgo, _, hok, ?_, ?_⟩
      · rw [nodes_moved hdir hnotdir, if_neg (by simp),
          if_neg (not_suffix_of_length (by simp only [List.length_cons]; omega)), hdir]
      · rw [contents_moved hdir hnotdir fun h => hgo (.inr (.inl h))]
        simp only [signatureContents, hplace]

theorem fsyncDirectory_ok_iff {fault syncFault : Option Fault} {disk' : Disk} :
    fsyncDirectory host fault syncFault path disk = .ok () disk' ↔
      path ≠ .empty ∧ fault = none ∧ syncFault = none ∧ disk.nodes (path.place host.cwd) ≠ none ∧
        disk' = disk := by
  unfold fsyncDirectory
  split_ifs with hempty
  · exact iff_of_false throw_ne_ok fun h => h.1 hempty
  · rw [fsyncPlace_ok_iff]
    exact (and_iff_right hempty).symm

theorem keeps_fsyncDirectory {γ : Type} {view : Disk → γ} {fault syncFault : Option Fault} :
    Keeps view (fsyncDirectory host fault syncFault path) := by
  unfold fsyncDirectory
  split_ifs
  · exact Keeps.throw _
  · exact keeps_fsyncPlace

/-- The last sync changes nothing. -/
theorem fsyncDirectory_cases (hdir : staged.nodes (parent.place host.cwd) = some .dir) :
    let sync := writing (fsyncDirectory host faults.openConfigDir faults.syncConfigDir parent)
    (SyncStops faults parent ∧ ∃ err, sync staged = .error err staged) ∨
      (¬ SyncStops faults parent ∧ sync staged = .ok () staged) := by
  intro sync
  have hsync (disk' : Disk) : sync staged = .ok () disk' ↔
      ¬ SyncStops faults parent ∧ disk' = staged := by
    rw [writing_ok_iff, fsyncDirectory_ok_iff, SyncStops, hdir]
    simp only [not_or, ne_eq, not_not, reduceCtorEq, not_false_eq_true, true_and, and_assoc]
  have hkeeps : Keeps (fun disk => disk) sync := keeps_fsyncDirectory.adaptExcept
  by_cases hstops : SyncStops faults parent
  · refine .inl ⟨hstops, ?_⟩
    have hsame := hkeeps staged
    cases hresult : sync staged with
    | ok u t => exact absurd hstops ((hsync t).1 hresult).1
    | error err t =>
      rw [hresult] at hsame
      exact ⟨err, congrArg (EStateM.Result.error err) hsame⟩
  · exact .inr ⟨hstops, (hsync staged).2 ⟨hstops, rfl⟩⟩

/-- The ways in which the call ends once both files are staged, and what is in the files then. -/
theorem write_cases (h : Staged crates host faults (tempDirName random) path config disk parent name
    rendered signature) :
    let write := writeStartupConfigToPath crates host faults random path config
    let dir := parent.place host.cwd
    let installed := signatureContents host (configContents host path rendered disk.contents) signature
    (RenameStops faults.renameConfig (tempDirName random) disk dir name ∧
        FailsAt Disk.contents disk.contents write disk) ∨
      ¬ RenameStops faults.renameConfig (tempDirName random) disk dir name ∧
        (SignatureStops faults (tempDirName random) disk dir signature ∧
            FailsAt Disk.contents (configContents host path rendered disk.contents) write disk ∨
          ¬ SignatureStops faults (tempDirName random) disk dir signature ∧
            (SyncStops faults parent ∧ FailsAt Disk.contents installed write disk ∨
              ¬ SyncStops faults parent ∧
                ∃ disk', write disk = .ok () disk' ∧ disk'.contents = installed)) := by
  intro write dir installed
  obtain ⟨staged, hready, hwrite⟩ := write_of_staged h
  have hplace : path.place host.cwd = name :: dir := Path.place_eq h.parent_eq h.name_eq host.cwd
  -- how the renames and the sync end is how the call ends
  have hfails {v : Place → Option Bytes} {err : StartupConfigError} {t : Disk}
      (herr : installFiles host faults path parent name (tempDirName random :: dir)
        (signatureRename signature) staged = .error err t)
      (hv : (t.remove (tempDirName random) dir).contents = v) :
      FailsAt Disk.contents v write disk := by
    obtain ⟨e, t', hfails, hcontents⟩ := @FailsAt.ending _ _ _ _ Disk.contents v _ staged
      (fun disk => disk.remove (tempDirName random) dir) ⟨err, t, herr, hv⟩
    exact ⟨e, t', hwrite.trans hfails, hcontents⟩
  rcases @rename_cases _ _ _ disk staged _ faults.renameConfig hready.configFile hready.isDir
    (hready.dir_iff name) with ⟨hstop, err, herr⟩ | ⟨hgo, hnot, hok⟩
  · rw [← hplace] at herr
    exact .inl ⟨hstop, hfails (bind_error_iff.2 (.inl herr)) hready.contents⟩
  · rw [← hplace] at hok
    have hconfig : ((moved (tempDirName random) dir name (utf8 rendered) staged).remove
        (tempDirName random) dir).contents = configContents host path rendered disk.contents := by
      rw [contents_moved hready.isDir hnot fun h => hgo (.inr (.inl h)), hready.contents,
        configContents, hplace]
    refine .inr ⟨hgo, ?_⟩
    rcases @installSignature_cases _ faults _ _ _ _ _ _ _ hready h.files.2 hnot with
      ⟨hstop, err, herr⟩ | ⟨hgo', t, hok', hdir, hcontents⟩
    · exact .inl ⟨hstop, hfails
        (bind_error_iff.2 (.inr ⟨_, _, hok, bind_error_iff.2 (.inl herr)⟩)) hconfig⟩
    · refine .inr ⟨hgo', ?_⟩
      rw [hconfig] at hcontents
      rcases fsyncDirectory_cases hdir with ⟨hstop, err, herr⟩ | ⟨hsync, hok''⟩
      · exact .inl ⟨hstop, hfails (bind_error_iff.2 (.inr ⟨_, _, hok,
          bind_error_iff.2 (.inr ⟨_, _, hok', herr⟩)⟩)) hcontents⟩
      · refine .inr ⟨hsync, t.remove (tempDirName random) dir, hwrite.trans (ending_ok_iff.2
          ⟨t, seq_ok_iff.2 ⟨_, hok, seq_ok_iff.2 ⟨_, hok', hok''⟩⟩, rfl⟩), hcontents⟩

/-- The call goes through if nothing stops it after the files are staged. -/
theorem write_ok_of_staged (h : Staged crates host faults (tempDirName random) path config disk
    parent name rendered signature)
    (hconfig : ¬ RenameStops faults.renameConfig (tempDirName random) disk (parent.place host.cwd) name)
    (hsignature : ¬ SignatureStops faults (tempDirName random) disk (parent.place host.cwd) signature)
    (hsync : ¬ SyncStops faults parent) :
    ∃ disk', writeStartupConfigToPath crates host faults random path config disk = .ok () disk' := by
  have hrest := ((write_cases h).resolve_left fun hstop => hconfig hstop.1).2
  obtain ⟨-, disk', hok, -⟩ := (hrest.resolve_left fun hstop => hsignature hstop.1).2.resolve_left
    fun hstop => hsync hstop.1
  exact ⟨disk', hok⟩

end Install

/-! ### The failing calls that change a file -/

/-- Both files hold what they held before. -/
def Untouched (host : Host) (path : Path) (config : StartupConfig F) (disk disk' : Disk) : Prop :=
  disk'.contents (path.place host.cwd) = disk.contents (path.place host.cwd) ∧
    ∀ signature, config.integrity.configSignature = some signature →
      disk'.contents
          ((resolveConfigRelativePath path signature.detachedHmacSha256Path).place host.cwd) =
        disk.contents
          ((resolveConfigRelativePath path signature.detachedHmacSha256Path).place host.cwd)

/-- The call goes as far as the rename of the configuration, fails after it, and what was renamed is
not what was there. -/
structure TornAt (crates : Crates F) (host : Host) (faults : WriteConfigFaults) (random : Text)
    (path : Path) (config : StartupConfig F) (disk : Disk) (parent : Path) (name : Name)
    (rendered : Text) (signature : Option (Path × Text)) : Prop where
  staged : Staged crates host faults (tempDirName random) path config disk parent name rendered
    signature
  renamed : ¬ RenameStops faults.renameConfig (tempDirName random) disk (parent.place host.cwd) name
  stopped :
    SignatureStops faults (tempDirName random) disk (parent.place host.cwd) signature ∧
        disk.contents (path.place host.cwd) ≠ some (utf8 rendered) ∨
      ¬ SignatureStops faults (tempDirName random) disk (parent.place host.cwd) signature ∧
        SyncStops faults parent ∧
        (disk.contents (path.place host.cwd) ≠ some (utf8 rendered) ∨
          ∃ signaturePath hex, signature = some (signaturePath, hex) ∧
            disk.contents (signaturePath.place host.cwd) ≠ some (signatureLine hex))

/-- The call leaves a configuration that is new beside a signature that is not, or reports a failure
with both installed. -/
def Torn (crates : Crates F) (host : Host) (faults : WriteConfigFaults) (random : Text)
    (path : Path) (config : StartupConfig F) (disk : Disk) : Prop :=
  ∃ parent name rendered signature,
    TornAt crates host faults random path config disk parent name rendered signature

section Torn

variable {crates : Crates F} {host : Host} {faults : WriteConfigFaults} {random rendered : Text}
  {path parent : Path} {config : StartupConfig F} {name : Name} {disk disk' : Disk}
  {signature : Option (Path × Text)} {err : StartupConfigError}

theorem untouched_of_contents (h : disk'.contents = disk.contents) :
    Untouched host path config disk disk' := by
  refine ⟨by rw [h], fun signature _ => by rw [h]⟩

/-- The signature is written where the configuration says. -/
theorem signature_of_signs {bytes : Bytes} {signaturePath : Path} {hex : Text}
    (h : configSignatureHex crates host path config bytes = .ok (some (signaturePath, hex))) :
    ∃ signature, config.integrity.configSignature = some signature ∧
      signaturePath = resolveConfigRelativePath path signature.detachedHmacSha256Path := by
  unfold configSignatureHex at h
  cases hsigned : config.integrity.configSignature with
  | none =>
    rw [hsigned] at h
    cases h
  | some signature =>
    rw [hsigned] at h
    obtain ⟨digest, -, hpure⟩ := except_bind_ok_iff.1 h
    cases hpure
    exact ⟨signature, rfl, rfl⟩

/-- A failing call that is not torn changes no file. -/
theorem write_error_contents (hnot : ¬ Torn crates host faults random path config disk)
    (h : writeStartupConfigToPath crates host faults random path config disk = .error err disk') :
    disk'.contents = disk.contents := by
  have hfails {v : Place → Option Bytes}
      (hv : FailsAt Disk.contents v (writeStartupConfigToPath crates host faults random path config)
        disk) : disk'.contents = v := by
    obtain ⟨e, t, hresult, hcontents⟩ := hv
    rw [h] at hresult
    cases hresult
    exact hcontents
  by_cases hstaged : ∃ parent name rendered signature, Staged crates host faults (tempDirName random)
      path config disk parent name rendered signature
  · obtain ⟨parent, name, rendered, signature, hstaged⟩ := hstaged
    -- a file that already held the new text is as it was
    have hsame (hconfig : disk.contents (path.place host.cwd) = some (utf8 rendered)) :
        configContents host path rendered disk.contents = disk.contents := by
      rw [configContents, ← hconfig, Function.update_eq_self]
    rcases write_cases hstaged with ⟨-, hv⟩ | ⟨hgo, ⟨hstop, hv⟩ | ⟨hgo', ⟨hstop, hv⟩ | ⟨-, t, hok, -⟩⟩⟩
    · exact hfails hv
    · rw [hfails hv]
      refine hsame (not_not.1 fun hne => hnot ⟨_, _, _, _, hstaged, hgo, .inl ⟨hstop, hne⟩⟩)
    · have hsynced := not_or.1 fun hne =>
        hnot ⟨_, _, _, _, hstaged, hgo, .inr ⟨hgo', hstop, hne⟩⟩
      rw [hfails hv, hsame (not_not.1 hsynced.1)]
      cases signature with
      | none => rfl
      | some signed =>
        have hsignature : disk.contents (signed.1.place host.cwd) = some (signatureLine signed.2) :=
          not_not.1 fun hne => hsynced.2 ⟨_, _, rfl, hne⟩
        rw [signatureContents, ← hsignature, Function.update_eq_self]
    · rw [h] at hok
      cases hok
  · exact hfails (write_of_not_staged fun parent name rendered signature h =>
      hstaged ⟨parent, name, rendered, signature, h⟩)

/-- The two files are two files. -/
theorem place_ne_of_staged {signaturePath : Path} {hex : Text}
    (h : Staged crates host faults (tempDirName random) path config disk parent name rendered
      (some (signaturePath, hex))) : path.place host.cwd ≠ signaturePath.place host.cwd := by
  obtain ⟨hparent, -, -, n, hname, hne⟩ := h.files.2
  rw [Path.place_eq h.parent_eq h.name_eq, Path.place_eq hparent hname]
  exact fun heq => hne (List.cons.inj heq).1.symm

/-- What is installed at the place of the configuration. -/
theorem installed_config (h : Staged crates host faults (tempDirName random) path config disk parent
    name rendered signature) :
    signatureContents host (configContents host path rendered disk.contents) signature
      (path.place host.cwd) = some (utf8 rendered) := by
  cases signature with
  | none => exact Function.update_self ..
  | some signed =>
    rw [signatureContents, Function.update_of_ne (place_ne_of_staged h), configContents,
      Function.update_self]

/-- A torn call changes a file. -/
theorem not_untouched_of_torn (h : TornAt crates host faults random path config disk parent name
    rendered signature) :
    ∃ err disk', writeStartupConfigToPath crates host faults random path config disk =
      .error err disk' ∧ ¬ Untouched host path config disk disk' := by
  have hrest := ((write_cases h.staged).resolve_left fun hstop => h.renamed hstop.1).2
  rcases h.stopped with ⟨hstop, hne⟩ | ⟨hgo, hsync, hne⟩
  · obtain ⟨-, err, disk', hfails, hcontents⟩ := hrest.resolve_right fun hgo => hgo.1 hstop
    refine ⟨err, disk', hfails, fun hsame => hne ?_⟩
    rw [← hsame.1, hcontents, configContents, Function.update_self]
  · obtain ⟨-, err, disk', hfails, hcontents⟩ :=
      (hrest.resolve_left fun hstop => hgo hstop.1).2.resolve_right fun hok => hok.1 hsync
    refine ⟨err, disk', hfails, fun hsame => ?_⟩
    rcases hne with hne | ⟨signaturePath, hex, rfl, hne⟩
    · refine hne ?_
      rw [← hsame.1, hcontents, installed_config h.staged]
    · obtain ⟨signed, hsigned, rfl⟩ := signature_of_signs h.staged.signs
      refine hne ?_
      rw [← hsame.2 signed hsigned, hcontents, signatureContents, Function.update_self]

end Torn

/-- **When a failing call leaves the files as they were.**  With any faults, on any disk: the
configuration and its signature hold what they held before every failing call, unless it fails between
the rename of the configuration and the end and what it renamed is new.  Otherwise whatever could be
loaded before can be loaded after. -/
theorem install_all_or_nothing_iff (crates : Crates F) (host : Host) (faults : WriteConfigFaults)
    (random : Text) (path : Path) (config : StartupConfig F) (disk : Disk) :
    ((∀ err disk', writeStartupConfigToPath crates host faults random path config disk =
        .error err disk' → Untouched host path config disk disk') ↔
      ¬ Torn crates host faults random path config disk) ∧
    (¬ Torn crates host faults random path config disk →
      ∀ err disk', writeStartupConfigToPath crates host faults random path config disk =
        .error err disk' → ∀ path' loaded,
        loadStartupConfigFromPath crates host disk path' = .ok loaded →
          loadStartupConfigFromPath crates host disk' path' = .ok loaded) := by
  refine ⟨⟨?_, fun hnot err disk' h => untouched_of_contents (write_error_contents hnot h)⟩,
    fun hnot err disk' h path' loaded => load_congr (write_error_contents hnot h)⟩
  rintro hall ⟨parent, name, rendered, signature, htorn⟩
  obtain ⟨err, disk', h, hnot⟩ := not_untouched_of_torn htorn
  exact hnot (hall err disk' h)

/-! ### A call that is torn -/

/-- The canonical configuration with a special phrase and a signature. -/
def sampleConfig (specialPhrase : Text) (signature : Option ConfigSignatureConfig) :
    StartupConfig ℚ :=
  { canonicalStartupConfig ℚ with
    detector := { canonicalDetectorConfig with specialPhrases := [specialPhrase] }
    integrity := { canonicalIntegrityConfig with configSignature := signature } }

/-- The YAML of the canonical configuration with a special phrase and a signature. -/
def sampleYaml (specialPhrase signature : Text) : Text :=
  List.flatten [
    "detector:\n  backend: morphological_reading\n".toList,
    "  target_readings:\n  - おお\n  - オオ\n  - oo\n".toList,
    "  literal_sequence_patterns:\n  - おお\n  - オオ\n  - oo\n".toList,
    "  special_phrases:\n  - ".toList,
    specialPhrase,
    "\n".toList,
    "bot:\n  stamp_text: <:Omilfy:1489695886773587978>\n  send_template: ${stamp}\n".toList,
    "  reaction:\n    emoji_id: 1489695886773587978\n    emoji_name: Omilfy\n".toList,
    "    animated: false\n  max_count_cap: 48\n  max_send_chars: 1900\n".toList,
    "  action_policy: react_or_send\n".toList,
    "runtime:\n  duplicate_ttl_ms: 180000\n  duplicate_cache_cap: 8192\n".toList,
    "  per_user_cooldown_ms: 900\n  per_channel_cooldown_ms: 400\n".toList,
    "  per_guild_cooldown_ms: 250\n  global_cooldown_ms: 100\n".toList,
    "  global_rate_per_sec: 20.0\n  global_rate_burst: 30\n  max_actions_per_message: 1\n".toList,
    "  max_send_chars: 1900\n  long_message_soft_chars: 2000\n".toList,
    "  long_message_hard_chars: 8000\n  suspicious_repetition_threshold: 256\n".toList,
    "  breaker_window_ms: 60000\n  breaker_threshold: 64\n  breaker_open_ms: 120000\n".toList,
    "  sandbox_failure_window_ms: 30000\n  sandbox_failure_threshold: 10\n".toList,
    "  allow_guild_ids: []\n  deny_guild_ids: []\n  allow_channel_ids: []\n".toList,
    "  deny_channel_ids: []\n  mode_override: null\n  emergency_kill_switch: false\n".toList,
    "  session_budget_low_watermark: 5\n".toList,
    "audit:\n  sqlite_path: state/audit/events.sqlite3\n  export_max_rows: 50000\n".toList,
    "  query_max_rows: 10000\n  busy_timeout_ms: 3000\n".toList,
    "diagnostics:\n  local_self_check_on_startup: true\n".toList,
    "  verify_hardening_artifacts: true\n  verify_generated_artifacts: true\n".toList,
    "  audit_verify_max_rows: 512\n".toList,
    "  security_snapshot_path: state/security/offline-security-report.json\n".toList,
    "  dependency_security_check_mode: offline_snapshot\n".toList,
    "integrity:\n  config_signature:".toList,
    signature,
    "\n  pseudo_id_hmac_key_env: OO_PSEUDO_ID_HMAC_KEY\n".toList]

/-- The JSON of the redacted configuration. -/
def sampleJson (specialPhrase signature : Text) : Text :=
  List.flatten [
    "\x7b\"detector\":\x7b\"backend\":\"morphological_reading\",".toList,
    "\"target_readings\":[\"おお\",\"オオ\",\"oo\"],".toList,
    "\"literal_sequence_patterns\":[\"おお\",\"オオ\",\"oo\"],".toList,
    "\"special_phrases\":[\"".toList,
    specialPhrase,
    "\"]\x7d,\"bot\":\x7b\"stamp_text\":\"<:Omilfy:1489695886773587978>\",".toList,
    "\"send_template\":\"$\x7bstamp\x7d\",\"reaction\":\x7b\"emoji_id\":1489695886773587978,".toList,
    "\"emoji_name\":\"Omilfy\",\"animated\":false\x7d,\"max_count_cap\":48,".toList,
    "\"max_send_chars\":1900,\"action_policy\":\"react_or_send\"\x7d,".toList,
    "\"runtime\":\x7b\"duplicate_ttl_ms\":180000,\"duplicate_cache_cap\":8192,".toList,
    "\"per_user_cooldown_ms\":900,\"per_channel_cooldown_ms\":400,".toList,
    "\"per_guild_cooldown_ms\":250,\"global_cooldown_ms\":100,".toList,
    "\"global_rate_per_sec\":20.0,\"global_rate_burst\":30,\"max_actions_per_message\":1,".toList,
    "\"max_send_chars\":1900,\"long_message_soft_chars\":2000,".toList,
    "\"long_message_hard_chars\":8000,\"suspicious_repetition_threshold\":256,".toList,
    "\"breaker_window_ms\":60000,\"breaker_threshold\":64,\"breaker_open_ms\":120000,".toList,
    "\"sandbox_failure_window_ms\":30000,\"sandbox_failure_threshold\":10,".toList,
    "\"allow_guild_ids\":[],\"deny_guild_ids\":[],\"allow_channel_ids\":[],".toList,
    "\"deny_channel_ids\":[],\"mode_override\":null,\"emergency_kill_switch\":false,".toList,
    "\"session_budget_low_watermark\":5\x7d,".toList,
    "\"audit\":\x7b\"sqlite_path\":\"state/audit/events.sqlite3\",\"export_max_rows\":50000,".toList,
    "\"query_max_rows\":10000,\"busy_timeout_ms\":3000\x7d,".toList,
    "\"diagnostics\":\x7b\"local_self_check_on_startup\":true,".toList,
    "\"verify_hardening_artifacts\":true,\"verify_generated_artifacts\":true,".toList,
    "\"audit_verify_max_rows\":512,".toList,
    "\"security_snapshot_path\":\"state/security/offline-security-report.json\",".toList,
    "\"dependency_security_check_mode\":\"offline_snapshot\"\x7d,".toList,
    "\"integrity\":\x7b\"config_signature\":".toList,
    signature,
    ",\"pseudo_id_hmac_key_env\":\"<redacted>\"\x7d\x7d".toList]

/-- A signature beside the configuration. -/
def sampleSignature : ConfigSignatureConfig := ⟨.names ["config.sig".toList], "OO_TEST_CFG_HMAC".toList⟩

/-- The YAML of the signature. -/
def sampleSignatureYaml : Text :=
  ("\n    detached_hmac_sha256_path: config.sig\n    hmac_key_env: OO_TEST_CFG_HMAC").toList

/-- The JSON of the signature. -/
def sampleSignatureJson : Text :=
  "\x7b\"detached_hmac_sha256_path\":\"config.sig\",\"hmac_key_env\":\"<redacted>\"\x7d".toList

/-- The crates on one configuration and its encodings. -/
def sampleCrates (config : StartupConfig ℚ) (yaml json : Text) : Crates ℚ where
  toYaml _ := .ok yaml
  fromYaml bytes :=
    if bytes = utf8 (ended yaml) then .ok config else .error "not the configuration".toList
  toJson _ := .ok (utf8 json)
  hmacSha256 := Sha256.hmac
  sha256 := Sha256.digest
  hexError _ := "Odd number of digits".toList

/-- A process in `/srv` that has the key. -/
def sampleHost : Host where
  cwd := ["srv".toList]
  env name := if name = "OO_TEST_CFG_HMAC".toList then some "k-test".toList else none

/-- The path of the configuration. -/
def samplePath : Path := .names ["config".toList, "oo-bot.yaml".toList]

/-- The directory of the configuration. -/
def sampleDir : Place := ["config".toList, "srv".toList]

/-- The path of the signature. -/
def sampleSignaturePath : Path := .names ["config".toList, "config.sig".toList]

/-- The random part of the name of the temporary directory. -/
def sampleRandom : Text := "k3XbQ9".toList

/-- The signature of a text, and where it goes. -/
def sampleSigned (signature : Option ConfigSignatureConfig) (yaml : Text) : Option (Path × Text) :=
  signature.map fun _ =>
    (sampleSignaturePath, Sha256.hex (Sha256.hmac (utf8 "k-test".toList) (utf8 (ended yaml))))

section Sample

variable {specialPhrase yaml json : Text} {signature : Option ConfigSignatureConfig} {disk : Disk}

theorem validateConfig_sample (specialPhrase : Text) (signature : Option ConfigSignatureConfig) :
    validateConfig (sampleConfig specialPhrase signature) = .ok () := by
  have hvalid := validateConfig_canonical ℚ
  simp only [validateConfig, bind_ok] at hvalid ⊢
  refine ⟨?_, hvalid.2⟩
  simp only [validateDetector, bind_ok, rejectIf_ok] at hvalid ⊢
  obtain ⟨hreadings, hpatterns, -, -, hrest⟩ := hvalid.1
  exact ⟨hreadings, hpatterns, rfl, rfl, hrest⟩

theorem render_sample :
    renderStartupConfigYaml (sampleCrates (sampleConfig specialPhrase signature) yaml json)
      (sampleConfig specialPhrase signature) = .ok (ended yaml) := by
  unfold renderStartupConfigYaml
  rw [validateConfig_sample]
  rfl

/-- The sample is staged on a disk without files in the way. -/
theorem sample_staged (hsignature : signature = none ∨ signature = some sampleSignature)
    (hfiles : ∀ q, q <:+ sampleDir → ∀ bytes, disk.nodes q ≠ some (.file bytes))
    (hfresh : disk.nodes (tempDirName sampleRandom :: sampleDir) = none) :
    Staged (sampleCrates (sampleConfig specialPhrase signature) yaml json) sampleHost .none
      (tempDirName sampleRandom) samplePath (sampleConfig specialPhrase signature) disk
      (.names ["config".toList]) "oo-bot.yaml".toList (ended yaml) (sampleSigned signature yaml) := by
  refine ⟨render_sample, ?_, rfl, rfl, .inr ⟨rfl, hfiles⟩, fun hempty => ?_, ⟨rfl, hfresh⟩,
    ⟨⟨rfl, rfl, rfl⟩, ?_⟩, rfl, rfl⟩
  · rcases hsignature with rfl | rfl
    · rfl
    · rfl
  · cases hempty
  · rcases hsignature with rfl | rfl
    · trivial
    · exact ⟨rfl, .inr rfl, ⟨rfl, rfl, rfl⟩, "config.sig".toList, rfl, by decide⟩

theorem ended_head? {s : Text} {c : Char} (h : s.head? = some c) : (ended s).head? = some c := by
  unfold ended
  split_ifs
  · exact h
  · rw [List.head?_append, h]
    rfl

theorem sampleYaml_head? (specialPhrase signature : Text) :
    (sampleYaml specialPhrase signature).head? = some 'd' := by
  unfold sampleYaml
  rw [List.flatten_cons, List.head?_append]
  rfl

end Sample

/-- A disk with a configuration, and with a directory where the signature goes. -/
def blockedDisk : Disk :=
  (((Disk.blank.put "srv".toList [] .dir).put "config".toList ["srv".toList] .dir).put
    "oo-bot.yaml".toList sampleDir (.file (utf8 "bot:\n  max_count_cap: 12\n".toList))).put
    "config.sig".toList sampleDir .dir

/-- The configuration is replaced by one whose signature is not installed. -/
theorem blockedDisk_torn :
    ∃ err disk', writeStartupConfigToPath
      (sampleCrates (sampleConfig "これはおお".toList (some sampleSignature))
        (sampleYaml "これはおお".toList sampleSignatureYaml)
        (sampleJson "これはおお".toList sampleSignatureJson))
      sampleHost .none sampleRandom samplePath
      (sampleConfig "これはおお".toList (some sampleSignature)) blockedDisk = .error err disk' ∧
      ¬ Untouched sampleHost samplePath (sampleConfig "これはおお".toList (some sampleSignature))
        blockedDisk disk' := by
  have hdir : blockedDisk.nodes sampleDir = some .dir := by decide
  have hfiles (q : Place) (hq : q <:+ sampleDir) (bytes : Bytes) :
      blockedDisk.nodes q ≠ some (.file bytes) := by
    rw [Disk.nodes_eq_dir_of_suffix hdir hq]
    simp
  have hdiffers : blockedDisk.contents (samplePath.place sampleHost.cwd) ≠
      some (utf8 (ended (sampleYaml "これはおお".toList sampleSignatureYaml))) := by
    have hold : blockedDisk.contents (samplePath.place sampleHost.cwd) =
        some (utf8 "bot:\n  max_count_cap: 12\n".toList) := rfl
    rw [hold]
    intro hsame
    -- the old text starts with another letter
    have hhead := congrArg List.head? (utf8_injective (Option.some.inj hsame))
    rw [ended_head? (sampleYaml_head? _ _)] at hhead
    revert hhead
    decide
  refine not_untouched_of_torn ⟨sample_staged (.inr rfl) hfiles (by decide), ?_, .inl ⟨?_, hdiffers⟩⟩
  · rintro (hfault | hname | hthere)
    · exact hfault rfl
    · exact absurd hname (by decide)
    · exact absurd hthere (by decide)
  · exact ⟨"config.sig".toList, rfl, .inr (.inr (by decide))⟩

end OoBot
