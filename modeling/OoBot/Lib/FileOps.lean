import OoBot.Lib.Files

/-!
# Operations on files

The functions of `std::fs` on a disk, as programs that may fail.  A `Fault` makes an operation fail
that could go through.  For every operation:

* what it takes for it to go through, and what the disk is then (`_ok_iff`);
* what it leaves alone, however it ends (`keeps_`).
-/

namespace Files

open Fallible

/-- `std::io::Error`. -/
inductive IoError
  | notFound
  | alreadyExists
  | notADirectory
  | isADirectory
  | other (text : List Char)
  deriving DecidableEq

/-- What the error displays. -/
def IoError.text : IoError → List Char
  | .notFound => "No such file or directory (os error 2)".toList
  | .alreadyExists => "File exists (os error 17)".toList
  | .notADirectory => "Not a directory (os error 20)".toList
  | .isADirectory => "Is a directory (os error 21)".toList
  | .other text => text

/-- An operation fails although nothing on the disk stands in its way, after it has made `done` of
its directories or written `done` of its bytes. -/
structure Fault where
  done : ℕ
  text : List Char

/-- The program fails if there is a fault. -/
def failIf : Option Fault → EStateM IoError Disk Unit
  | none => pure ()
  | some fault => throw (.other fault.text)

/-- `result`, if `dir` is a directory for it. -/
def Disk.within (self : Disk) (dir : Place) (result : Disk) : Except IoError Disk :=
  match self.nodes dir with
  | some .dir => .ok result
  | some (.file _) => .error .notADirectory
  | none => .error .notFound

/-! ### The operations -/

/-- Make the directories on the way to a place, and the place itself. -/
def createDirs (blocked : IoError) : Place → EStateM IoError Disk Unit
  | [] => pure ()
  | name :: dir => do
      createDirs .notADirectory dir
      attempt fun disk =>
        match disk.nodes (name :: dir) with
        | some .dir => .ok disk
        | some (.file _) => .error blocked
        | none => .ok (disk.put name dir .dir)

/-- `fs::create_dir_all`. -/
def createDirAll (fault : Option Fault) (cwd : Place) (path : Path) : EStateM IoError Disk Unit :=
  if path = .empty then pure ()
  else
    match fault with
    | none => createDirs .alreadyExists (path.place cwd)
    | some fault => do
        createDirs .notADirectory ((path.place cwd).drop ((path.place cwd).length - fault.done))
        throw (.other fault.text)

/-- Create what is not there. -/
def createNew (fault : Option Fault) (node : Node) (name : Name) (dir : Place) :
    EStateM IoError Disk Unit := do
  failIf fault
  attempt fun disk =>
    if disk.nodes (name :: dir) = none then disk.within dir (disk.put name dir node)
    else .error .alreadyExists

/-- The faults of writing one file. -/
structure WriteFaults where
  create : Option Fault
  write : Option Fault
  sync : Option Fault

/-- Nothing goes wrong with writing the file. -/
def WriteFaults.Clear (self : WriteFaults) : Prop :=
  self.create = none ∧ self.write = none ∧ self.sync = none

/-- `File::write_all`, to a file that was just created. -/
def writeAll (fault : Option Fault) (name : Name) (dir : Place) (bytes : Bytes) :
    EStateM IoError Disk Unit :=
  match fault with
  | none => attempt fun disk => .ok (disk.put name dir (.file bytes))
  | some fault => do
      attempt fun disk => .ok (disk.put name dir (.file (bytes.take fault.done)))
      throw (.other fault.text)

/-- Create a file, write it and wait until it is stored. -/
def writeNew (faults : WriteFaults) (name : Name) (dir : Place) (bytes : Bytes) :
    EStateM IoError Disk Unit := do
  createNew faults.create (.file []) name dir
  writeAll faults.write name dir bytes
  failIf faults.sync

/-- `fs::rename`, of the file at `name :: dir`. -/
def rename (fault : Option Fault) (name : Name) (dir : Place) (target : Place) :
    EStateM IoError Disk Unit := do
  failIf fault
  attempt fun disk =>
    match disk.contents (name :: dir), target with
    | some bytes, name' :: dir' =>
        if disk.nodes target = some .dir then .error .isADirectory
        else disk.within dir' ((disk.remove name dir).put name' dir' (.file bytes))
    | some _, [] => .error .isADirectory
    | none, _ => .error .notFound

/-- `File::open` and `File::sync_all`, on a directory. -/
def fsyncPlace (fault syncFault : Option Fault) (place : Place) : EStateM IoError Disk Unit := do
  failIf fault
  attempt fun disk => if disk.nodes place = none then .error .notFound else .ok disk
  failIf syncFault

/-- Run a program in a new directory, which is gone when it ends. -/
def inTempDir {ε α : Type} (name : Name) (dir : Place) (body : EStateM ε Disk α) :
    EStateM ε Disk α :=
  ending (fun disk => disk.remove name dir) body

/-- `fs::read`. -/
def read (disk : Disk) (cwd : Place) (path : Path) : Except IoError Bytes :=
  if path = .empty then .error .notFound
  else
    match disk.nodes (path.place cwd) with
    | some (.file bytes) => .ok bytes
    | some .dir => .error .isADirectory
    | none => .error .notFound

/-! ### When they go through -/

section Ok

variable {disk disk' result : Disk} {name : Name} {dir place cwd : Place} {node : Node}
  {bytes : Bytes} {fault syncFault : Option Fault} {path : Path} {blocked : IoError}

theorem failIf_ok_iff : failIf fault disk = .ok () disk' ↔ fault = none ∧ disk' = disk := by
  cases fault with
  | none => exact pure_ok_iff.trans (by simp)
  | some fault => exact iff_of_false throw_ne_ok (by simp)

theorem failIf_error {err : IoError} (h : failIf fault disk = .error err disk') : disk' = disk := by
  cases fault with
  | none => cases h
  | some fault =>
    cases h
    rfl

theorem within_ok_iff : disk.within dir result = .ok disk' ↔
    disk.nodes dir = some .dir ∧ disk' = result := by
  unfold Disk.within
  split
  · simp_all [eq_comm]
  · simp_all
  · simp_all

theorem createNew_ok_iff : createNew fault node name dir disk = .ok () disk' ↔
    fault = none ∧ disk.nodes (name :: dir) = none ∧ disk.nodes dir = some .dir ∧
      disk' = disk.put name dir node := by
  simp only [createNew, seq_ok_iff, failIf_ok_iff, attempt_ok_iff]
  constructor
  · rintro ⟨disk₁, ⟨hfault, rfl⟩, hok⟩
    split_ifs at hok with hnew
    exact ⟨hfault, hnew, within_ok_iff.1 hok⟩
  · rintro ⟨hfault, hnew, hok⟩
    refine ⟨disk, ⟨hfault, rfl⟩, ?_⟩
    rw [if_pos hnew]
    exact within_ok_iff.2 hok

theorem writeAll_ok_iff : writeAll fault name dir bytes disk = .ok () disk' ↔
    fault = none ∧ disk' = disk.put name dir (.file bytes) := by
  cases fault with
  | none =>
    simp only [writeAll, attempt_ok_iff, Except.ok.injEq, true_and]
    exact eq_comm
  | some fault =>
    refine iff_of_false (fun h => ?_) (by simp)
    obtain ⟨_, -, hthrow⟩ := seq_ok_iff.1 h
    exact throw_ne_ok hthrow

/-- Where a file is not created, nothing is changed. -/
theorem createNew_error {err : IoError} (h : createNew fault node name dir disk = .error err disk') :
    disk' = disk := by
  rcases bind_error_iff.1 h with hfault | ⟨_, disk₁, hfault, hcreate⟩
  · exact failIf_error hfault
  · rw [attempt_error hcreate]
    exact (failIf_ok_iff.1 hfault).2

/-- A write that fails has written some of the bytes. -/
theorem writeAll_error {err : IoError} (h : writeAll fault name dir bytes disk = .error err disk') :
    ∃ k, disk' = disk.put name dir (.file (bytes.take k)) := by
  cases fault with
  | none => cases h
  | some fault =>
    cases h
    exact ⟨fault.done, rfl⟩

theorem writeNew_ok_iff {faults : WriteFaults} : writeNew faults name dir bytes disk = .ok () disk' ↔
    faults.Clear ∧ disk.nodes (name :: dir) = none ∧ disk.nodes dir = some .dir ∧
      disk' = disk.put name dir (.file bytes) := by
  unfold WriteFaults.Clear
  simp only [writeNew, seq_ok_iff, failIf_ok_iff, createNew_ok_iff, writeAll_ok_iff]
  constructor
  · rintro ⟨_, ⟨hcreate, hnew, hdir, rfl⟩, _, ⟨hwrite, rfl⟩, hsync, rfl⟩
    exact ⟨⟨hcreate, hwrite, hsync⟩, hnew, hdir, Disk.put_put hnew hdir⟩
  · rintro ⟨⟨hcreate, hwrite, hsync⟩, hnew, hdir, rfl⟩
    exact ⟨_, ⟨hcreate, hnew, hdir, rfl⟩, _, ⟨hwrite, rfl⟩, hsync, (Disk.put_put hnew hdir).symm⟩

/-- A file goes over a file. -/
theorem rename_ok_iff {name' : Name} {dir' : Place}
    (hfile : disk.nodes (name :: dir) = some (.file bytes)) :
    rename fault name dir (name' :: dir') disk = .ok () disk' ↔
      fault = none ∧ disk.nodes (name' :: dir') ≠ some .dir ∧ disk.nodes dir' = some .dir ∧
        disk' = (disk.remove name dir).put name' dir' (.file bytes) := by
  have hcontents := Disk.contents_eq_some_iff.2 hfile
  simp only [rename, seq_ok_iff, failIf_ok_iff, attempt_ok_iff]
  constructor
  · rintro ⟨disk₁, ⟨hfault, rfl⟩, hok⟩
    simp only [hcontents] at hok
    split_ifs at hok with hnotdir
    exact ⟨hfault, hnotdir, within_ok_iff.1 hok⟩
  · rintro ⟨hfault, hnotdir, hok⟩
    refine ⟨disk, ⟨hfault, rfl⟩, ?_⟩
    simp only [hcontents]
    rw [if_neg hnotdir]
    exact within_ok_iff.2 hok

theorem fsyncPlace_ok_iff : fsyncPlace fault syncFault place disk = .ok () disk' ↔
    fault = none ∧ syncFault = none ∧ disk.nodes place ≠ none ∧ disk' = disk := by
  simp only [fsyncPlace, seq_ok_iff, failIf_ok_iff, attempt_ok_iff]
  constructor
  · rintro ⟨_, ⟨hfault, rfl⟩, _, hok, hsync, rfl⟩
    split_ifs at hok with hthere
    cases hok
    exact ⟨hfault, hsync, hthere, rfl⟩
  · rintro ⟨hfault, hsync, hthere, rfl⟩
    refine ⟨disk', ⟨hfault, rfl⟩, disk', ?_, hsync, rfl⟩
    rw [if_neg hthere]

/-! #### Directories -/

/-- When the directories are made they are there, and nothing else has changed. -/
theorem nodes_of_createDirs (h : createDirs blocked place disk = .ok () disk') (q : Place) :
    disk'.nodes q = if q <:+ place then some .dir else disk.nodes q := by
  induction place generalizing blocked disk' q with
  | nil =>
    obtain ⟨-, rfl⟩ := pure_ok_iff.1 h
    split_ifs with hq
    · rw [List.suffix_nil.1 hq, disk'.root]
    · rfl
  | cons name dir ih =>
    obtain ⟨disk₁, hdirs, hmake⟩ := seq_ok_iff.1 h
    have hdir : disk₁.nodes dir = some .dir := by
      rw [ih hdirs, if_pos (List.suffix_refl dir)]
    have hin (hq : q ≠ name :: dir) : q <:+ name :: dir ↔ q <:+ dir := by
      rw [List.suffix_cons_iff]
      exact or_iff_right hq
    rw [attempt_ok_iff] at hmake
    split at hmake
    next hthere =>
      -- the place was a directory before
      cases hmake
      by_cases hq : q = name :: dir
      · subst hq
        rw [hthere, if_pos (List.suffix_refl _)]
      · simp only [hin hq, ih hdirs]
    next => cases hmake
    next hthere =>
      cases hmake
      rw [Disk.nodes_put ⟨hdir, fun _ => rfl⟩]
      by_cases hq : q = name :: dir
      · subst hq
        rw [if_pos rfl, if_pos (List.suffix_refl _)]
      · simp only [hin hq, ih hdirs, if_neg hq]

/-- The directories are made unless a file is in the way. -/
theorem createDirs_goes_iff : (∃ disk', createDirs blocked place disk = .ok () disk') ↔
    ∀ q, q <:+ place → ∀ bytes, disk.nodes q ≠ some (.file bytes) := by
  induction place generalizing blocked with
  | nil =>
    refine iff_of_true ⟨disk, rfl⟩ fun q hq bytes => ?_
    rw [List.suffix_nil.1 hq, disk.root]
    simp
  | cons name dir ih =>
    have hnot : ¬ name :: dir <:+ dir := fun hin => absurd hin.length_le (by simp)
    -- the directories above are made first, and that does not touch what is at `name :: dir`
    constructor
    · rintro ⟨disk', h⟩ q hq bytes
      obtain ⟨disk₁, hdirs, hmake⟩ := seq_ok_iff.1 h
      rcases List.suffix_cons_iff.1 hq with rfl | hq
      · have hthere := nodes_of_createDirs hdirs (name :: dir)
        rw [if_neg hnot] at hthere
        rw [attempt_ok_iff, hthere] at hmake
        intro hfile
        simp only [hfile] at hmake
        cases hmake
      · exact ih.1 ⟨disk₁, hdirs⟩ q hq bytes
    · intro hfiles
      obtain ⟨disk₁, hdirs⟩ := ih.2 fun q hq => hfiles q (List.suffix_cons_iff.2 (.inr hq))
      have hthere := nodes_of_createDirs hdirs (name :: dir)
      rw [if_neg hnot] at hthere
      cases hnode : disk.nodes (name :: dir) with
      | none =>
        refine ⟨disk₁.put name dir .dir, seq_ok_iff.2 ⟨disk₁, hdirs, attempt_ok_iff.2 ?_⟩⟩
        simp only [hthere, hnode]
      | some node =>
        cases node with
        | file bytes => exact absurd hnode (hfiles _ (List.suffix_refl _) bytes)
        | dir =>
          refine ⟨disk₁, seq_ok_iff.2 ⟨disk₁, hdirs, attempt_ok_iff.2 ?_⟩⟩
          simp only [hthere, hnode]

theorem nodes_of_createDirAll (h : createDirAll fault cwd path disk = .ok () disk') (q : Place) :
    disk'.nodes q = if path ≠ .empty ∧ q <:+ path.place cwd then some .dir else disk.nodes q := by
  unfold createDirAll at h
  split_ifs at h with hempty
  · obtain ⟨-, rfl⟩ := pure_ok_iff.1 h
    simp [hempty]
  · cases fault with
    | none => simpa [hempty] using nodes_of_createDirs h q
    | some fault =>
      obtain ⟨_, -, hthrow⟩ := seq_ok_iff.1 h
      exact absurd hthrow throw_ne_ok

theorem createDirAll_goes_iff : (∃ disk', createDirAll fault cwd path disk = .ok () disk') ↔
    path = .empty ∨ fault = none ∧
      ∀ q, q <:+ path.place cwd → ∀ bytes, disk.nodes q ≠ some (.file bytes) := by
  unfold createDirAll
  split_ifs with hempty
  · exact iff_of_true ⟨disk, rfl⟩ (.inl hempty)
  · cases fault with
    | none => simpa [hempty] using createDirs_goes_iff
    | some fault =>
      refine iff_of_false (fun ⟨_, h⟩ => ?_) (by simp [hempty])
      obtain ⟨_, -, hthrow⟩ := seq_ok_iff.1 h
      exact throw_ne_ok hthrow

/-- Where the directory is, nothing is made. -/
theorem createDirAll_of_dir (hdir : disk.nodes (path.place cwd) = some .dir) :
    createDirAll fault cwd path disk = .ok () disk' ↔
      (path = .empty ∨ fault = none) ∧ disk' = disk := by
  have hgoes : (∃ t, createDirAll fault cwd path disk = .ok () t) ↔ path = .empty ∨ fault = none := by
    rw [createDirAll_goes_iff]
    refine or_congr_right (and_iff_left fun q hq bytes hfile => ?_)
    rw [Disk.nodes_eq_dir_of_suffix hdir hq] at hfile
    cases hfile
  have hsame (t : Disk) (h : createDirAll fault cwd path disk = .ok () t) : t = disk := by
    ext1
    funext q
    rw [nodes_of_createDirAll h q]
    split_ifs with hq
    · exact (Disk.nodes_eq_dir_of_suffix hdir hq.2).symm
    · rfl
  constructor
  · intro h
    exact ⟨hgoes.1 ⟨disk', h⟩, hsame disk' h⟩
  · rintro ⟨hok, rfl⟩
    obtain ⟨t, h⟩ := hgoes.2 hok
    rw [h, hsame t h]

end Ok

/-! ### What they leave alone -/

section Keeps

variable {name : Name} {dir place cwd q : Place} {node : Node} {bytes : Bytes}
  {fault syncFault : Option Fault} {path : Path} {blocked : IoError}

theorem keeps_failIf {γ : Type} {view : Disk → γ} : Keeps view (failIf fault) := by
  cases fault with
  | none => exact Keeps.pure _
  | some fault => exact Keeps.throw _

/-- Making directories changes no file. -/
theorem keeps_createDirs : Keeps (fun disk => disk.contents q) (createDirs blocked place) := by
  induction place generalizing blocked with
  | nil => exact Keeps.pure _
  | cons name dir ih =>
    refine ih.bind fun _ => Keeps.attempt fun disk disk' h => ?_
    split at h
    next => cases h; rfl
    next => cases h
    next hnew =>
      cases h
      exact Disk.contents_put_dir hnew q

theorem keeps_createDirAll :
    Keeps (fun disk => disk.contents q) (createDirAll fault cwd path) := by
  unfold createDirAll
  split_ifs
  · exact Keeps.pure _
  · cases fault with
    | none => exact keeps_createDirs
    | some fault => exact keeps_createDirs.bind fun _ => Keeps.throw _

/-- A new directory changes no file. -/
theorem keeps_createNew_dir :
    Keeps (fun disk => disk.contents q) (createNew fault .dir name dir) := by
  refine keeps_failIf.bind fun _ => Keeps.attempt fun disk disk' h => ?_
  split_ifs at h with hnew
  · rw [(within_ok_iff.1 h).2]
    exact Disk.contents_put_dir hnew q

theorem keeps_createNew (hq : q ≠ name :: dir) :
    Keeps (fun disk => disk.nodes q) (createNew fault node name dir) := by
  refine keeps_failIf.bind fun _ => Keeps.attempt fun disk disk' h => ?_
  split_ifs at h
  · rw [(within_ok_iff.1 h).2]
    exact Disk.nodes_put_of_ne hq

theorem keeps_writeAll (hq : q ≠ name :: dir) :
    Keeps (fun disk => disk.nodes q) (writeAll fault name dir bytes) := by
  have hput (content : Bytes) (disk disk' : Disk)
      (h : (Except.ok (disk.put name dir (.file content)) : Except IoError Disk) = .ok disk') :
      disk'.nodes q = disk.nodes q := by
    cases h
    exact Disk.nodes_put_of_ne hq
  cases fault with
  | none => exact Keeps.attempt (hput bytes)
  | some fault => exact (Keeps.attempt (hput _)).bind fun _ => Keeps.throw _

/-- A new file changes only its place. -/
theorem keeps_writeNew {faults : WriteFaults} (hq : q ≠ name :: dir) :
    Keeps (fun disk => disk.nodes q) (writeNew faults name dir bytes) :=
  (keeps_createNew hq).bind fun _ => (keeps_writeAll hq).bind fun _ => keeps_failIf

theorem keeps_fsyncPlace {γ : Type} {view : Disk → γ} :
    Keeps view (fsyncPlace fault syncFault place) := by
  refine keeps_failIf.bind fun _ => Keeps.bind (Keeps.attempt fun disk disk' h => ?_) fun _ =>
    keeps_failIf
  split_ifs at h
  · cases h
    rfl

/-- A failing rename changes nothing. -/
theorem rename_error {target : Place} {disk disk' : Disk} {err : IoError}
    (h : rename fault name dir target disk = .error err disk') : disk' = disk := by
  rcases bind_error_iff.1 h with hfault | ⟨_, disk₁, hfault, hmove⟩
  · exact failIf_error hfault
  · rw [attempt_error hmove]
    exact (failIf_ok_iff.1 hfault).2

end Keeps

end Files
