import Mathlib.Data.List.Infix
import Mathlib.Logic.Function.Basic
import OoBot.Lib.Fallible

/-!
# Paths and files

A path is what `std::path` sees of it: where it starts, and its names and `..`.  Repeated separators,
a separator at the end and a `.` inside are not part of it.

A disk is a map from places to files and directories.  A place is the list of the names that lead to
it, the innermost first, so that `name :: dir` is in the directory `dir`.  What holds a file or a
directory is itself a directory (`Disk.tree`).  There are no links, and a `..` takes back the name
before it.

Every operation may fail for a reason of its own: `Fault` says why, and how much was done before.
-/

namespace Files

/-- The name of a file or of a directory. -/
abbrev Name := List Char

/-- The content of a file. -/
abbrev Bytes := List UInt8

/-! ### Paths -/

/-- Where a path starts. -/
inductive Anchor
  | root
  | curDir
  | relative
  deriving DecidableEq

/-- One step of a path. -/
inductive Step
  | parentDir
  | normal (name : Name)
  deriving DecidableEq

/-- `std::path::Path`. -/
structure Path where
  anchor : Anchor
  steps : List Step
  deriving DecidableEq

/-- Where a file or a directory is: the names that lead to it, the innermost first. -/
abbrev Place := List Name

namespace Path

/-- The path without text. -/
def empty : Path := ⟨.relative, []⟩

/-- The path `.`. -/
def dot : Path := ⟨.curDir, []⟩

/-- The relative path of some names. -/
def names (names : List Name) : Path := ⟨.relative, names.map .normal⟩

/-- `Path::is_absolute`. -/
def isAbsolute (self : Path) : Bool := self.anchor = .root

/-- `Path::parent`. -/
def parent (self : Path) : Option Path :=
  match self.steps, self.anchor with
  | [], .curDir => some empty
  | [], _ => none
  | _ :: _, _ => some ⟨self.anchor, self.steps.dropLast⟩

/-- `Path::file_name`. -/
def fileName (self : Path) : Option Name :=
  match self.steps.getLast? with
  | some (.normal name) => some name
  | _ => none

/-- `Path::join`. -/
def join (self path : Path) : Path :=
  if path.isAbsolute || self = empty then path else ⟨self.anchor, self.steps ++ path.steps⟩

/-- Where a step leads. -/
def stepFrom (place : Place) : Step → Place
  | .parentDir => place.tail
  | .normal name => name :: place

/-- The place of a path, for a process with the working directory `cwd`. -/
def place (self : Path) (cwd : Place) : Place :=
  self.steps.foldl stepFrom (if self.isAbsolute then [] else cwd)

/-- A path with a file name leads to that name in its parent. -/
theorem place_eq {self parent : Path} {name : Name} (hparent : self.parent = some parent)
    (hname : self.fileName = some name) (cwd : Place) :
    self.place cwd = name :: parent.place cwd := by
  obtain ⟨anchor, steps⟩ := self
  rcases List.eq_nil_or_concat steps with rfl | ⟨front, step, rfl⟩
  · cases hname
  · rw [List.concat_eq_append] at hparent hname ⊢
    simp only [fileName, List.getLast?_concat] at hname
    have hfront : parent = ⟨anchor, front⟩ := by
      unfold Path.parent at hparent
      split at hparent
      · simp_all
      · simp_all
      · simpa using hparent.symm
    cases step with
    | parentDir => cases hname
    | normal n =>
      cases hname
      rw [hfront, place, List.foldl_append]
      rfl

/-- A path with a file name has a parent. -/
theorem parent_of_fileName {self : Path} {name : Name} (h : self.fileName = some name) :
    ∃ parent, self.parent = some parent := by
  obtain ⟨anchor, steps⟩ := self
  cases steps with
  | nil => cases h
  | cons step steps => exact ⟨_, rfl⟩

end Path

/-! ### Disks -/

/-- What is at a place. -/
inductive Node
  | file (bytes : Bytes)
  | dir
  deriving DecidableEq

/-- The files and directories. -/
@[ext]
structure Disk where
  nodes : Place → Option Node
  root : nodes [] = some .dir
  /-- What is there is in a directory. -/
  tree : ∀ name dir, nodes (name :: dir) ≠ none → nodes dir = some .dir

namespace Disk

/-- The disk with nothing but its root. -/
def blank : Disk where
  nodes place := if place = [] then some .dir else none
  root := rfl
  tree := by
    intro name dir h
    rw [if_neg (List.cons_ne_nil name dir)] at h
    exact absurd rfl h

variable {self : Disk} {name : Name} {dir place : Place} {node : Node}

/-- The bytes of the file at a place. -/
def contents (self : Disk) (place : Place) : Option Bytes :=
  match self.nodes place with
  | some (.file bytes) => some bytes
  | _ => none

/-- There is a directory for the node, and no directory makes way for a file. -/
def CanPut (self : Disk) (name : Name) (dir : Place) (node : Node) : Prop :=
  self.nodes dir = some .dir ∧ (self.nodes (name :: dir) = some .dir → node = .dir)

instance : Decidable (self.CanPut name dir node) :=
  inferInstanceAs (Decidable (self.nodes dir = some .dir ∧
    (self.nodes (name :: dir) = some .dir → node = .dir)))

/-- Put a node at a place. -/
def put (self : Disk) (name : Name) (dir : Place) (node : Node) : Disk :=
  if h : self.CanPut name dir node then
    { nodes := Function.update self.nodes (name :: dir) (some node)
      root := by
        rw [Function.update_of_ne (List.cons_ne_nil name dir).symm]
        exact self.root
      tree := by
        intro name' dir' hthere
        by_cases hdir : dir' = name :: dir
        · -- what is put there holds something, so it is a directory
          subst hdir
          rw [Function.update_of_ne (by simp)] at hthere
          rw [Function.update_self, h.2 (self.tree _ _ hthere)]
        · rw [Function.update_of_ne hdir]
          by_cases hself : name' :: dir' = name :: dir
          · rw [(List.cons.inj hself).2]
            exact h.1
          · rw [Function.update_of_ne hself] at hthere
            exact self.tree _ _ hthere }
  else self

/-- Remove what is at a place, with everything in it. -/
def remove (self : Disk) (name : Name) (dir : Place) : Disk where
  nodes place := if name :: dir <:+ place then none else self.nodes place
  root := by
    rw [if_neg (by simp)]
    exact self.root
  tree := by
    intro name' dir' hthere
    split_ifs at hthere with hin
    · exact absurd rfl hthere
    · rw [if_neg fun h => hin (h.trans (List.suffix_cons name' dir'))]
      exact self.tree _ _ hthere

/-! #### What the operations change -/

/-- Where nothing is in a directory, anything may be put. -/
theorem canPut_of_none (hdir : self.nodes dir = some .dir) (hnew : self.nodes (name :: dir) = none) :
    self.CanPut name dir node := by
  refine ⟨hdir, fun h => ?_⟩
  rw [hnew] at h
  cases h

theorem nodes_put (h : self.CanPut name dir node) (place : Place) :
    (self.put name dir node).nodes place = if place = name :: dir then some node
      else self.nodes place := by
  unfold put
  rw [dif_pos h]
  show Function.update self.nodes (name :: dir) (some node) place = _
  rw [Function.update_apply]

@[simp] theorem nodes_put_of_ne (h : place ≠ name :: dir) :
    (self.put name dir node).nodes place = self.nodes place := by
  unfold put
  split_ifs
  · exact Function.update_of_ne h _ _
  · rfl

/-- The last file that is put at a place stays. -/
theorem put_put {bytes bytes' : Bytes} (hnew : self.nodes (name :: dir) = none)
    (hdir : self.nodes dir = some .dir) :
    (self.put name dir (.file bytes)).put name dir (.file bytes') =
      self.put name dir (.file bytes') := by
  have hput (content : Bytes) : self.CanPut name dir (.file content) := canPut_of_none hdir hnew
  have hagain : (self.put name dir (.file bytes)).CanPut name dir (.file bytes') := by
    refine ⟨?_, fun h => ?_⟩
    · rw [nodes_put_of_ne (by simp), hdir]
    · rw [nodes_put (hput bytes), if_pos rfl] at h
      cases h
  ext1
  funext place
  rw [nodes_put hagain, nodes_put (hput bytes'), nodes_put (hput bytes)]
  split_ifs
  · rfl
  · rfl

theorem nodes_remove (place : Place) :
    (self.remove name dir).nodes place = if name :: dir <:+ place then none else self.nodes place :=
  rfl

/-- Under what is not there is nothing. -/
theorem nodes_eq_none_of_suffix (h : self.nodes dir = none) (hin : dir <:+ place) :
    self.nodes place = none := by
  obtain ⟨names, rfl⟩ := hin
  induction names with
  | nil => exact h
  | cons name names ih =>
    by_contra hthere
    have hdir : self.nodes (names ++ dir) = some .dir := self.tree _ _ hthere
    rw [ih] at hdir
    cases hdir

/-- What holds a directory is a directory. -/
theorem nodes_eq_dir_of_suffix (h : self.nodes place = some .dir) (hin : dir <:+ place) :
    self.nodes dir = some .dir := by
  obtain ⟨names, rfl⟩ := hin
  induction names with
  | nil => exact h
  | cons name names ih =>
    refine ih (self.tree name _ ?_)
    rw [← List.cons_append, h]
    simp

theorem contents_congr {other : Disk} (h : self.nodes place = other.nodes place) :
    self.contents place = other.contents place := by
  unfold contents
  rw [h]

theorem contents_remove (place : Place) : (self.remove name dir).contents place =
    if name :: dir <:+ place then none else self.contents place := by
  unfold contents
  rw [nodes_remove]
  split_ifs
  · rfl
  · rfl

/-- Where nothing is, there is nothing to remove. -/
theorem contents_remove_of_none (h : self.nodes (name :: dir) = none) :
    (self.remove name dir).contents = self.contents := by
  funext place
  rw [contents_remove]
  split_ifs with hin
  · unfold contents
    rw [nodes_eq_none_of_suffix h hin]
  · rfl

theorem contents_eq_some_iff {bytes : Bytes} :
    self.contents place = some bytes ↔ self.nodes place = some (.file bytes) := by
  unfold contents
  split
  · simp_all
  · simp_all

/-- A new directory holds no bytes, nor did its place. -/
theorem contents_put_dir (h : self.nodes (name :: dir) = none) (place : Place) :
    (self.put name dir .dir).contents place = self.contents place := by
  by_cases hput : self.CanPut name dir .dir
  · by_cases hplace : place = name :: dir
    · subst hplace
      unfold contents
      rw [nodes_put hput, if_pos rfl, h]
    · exact contents_congr (nodes_put_of_ne hplace)
  · unfold put
    rw [dif_neg hput]

end Disk

end Files
