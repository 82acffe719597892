import Mathlib.Data.List.Nodup
import Mathlib.Data.List.Perm.Basic
import Mathlib.Tactic.Common

/-!
# Finite maps

A finite map is a list of entries without repeated keys.  The order of the entries stands for the
iteration order of a hash map; `get?` does not depend on it.
-/

universe u v

/-- A finite map. -/
structure KeyMap (K : Type u) (V : Type v) where
  entries : List (K × V)
  nodup : (entries.map Prod.fst).Nodup

namespace KeyMap

variable {K : Type u} {V : Type v}

/-- The empty map. -/
def empty : KeyMap K V := ⟨[], List.nodup_nil⟩

/-- The number of entries. -/
def size (m : KeyMap K V) : ℕ := m.entries.length

/-- The entries that satisfy `p`. -/
def retain (m : KeyMap K V) (p : K → V → Bool) : KeyMap K V :=
  ⟨m.entries.filter fun e => p e.1 e.2,
    m.nodup.sublist (List.filter_sublist.map Prod.fst)⟩

/-- The entries in another order. -/
def reorder (m : KeyMap K V) (l : List (K × V)) (h : l.Perm m.entries) : KeyMap K V :=
  ⟨l, (h.map Prod.fst).nodup_iff.2 m.nodup⟩

/-- The entries from position `n` on. -/
def skip (m : KeyMap K V) (n : ℕ) : KeyMap K V :=
  ⟨m.entries.drop n, m.nodup.sublist ((List.drop_sublist n m.entries).map Prod.fst)⟩

/-- Other values for the same keys. -/
def mapValues {W : Type v} (f : V → W) (m : KeyMap K V) : KeyMap K W :=
  ⟨m.entries.map fun e => (e.1, f e.2), by
    rw [List.map_map]
    exact m.nodup⟩

section MapValues

variable {W : Type v} {f : V → W} {m : KeyMap K V}

theorem ext_entries {m m' : KeyMap K V} (h : m.entries = m'.entries) : m = m' := by
  obtain ⟨entries, _⟩ := m
  obtain rfl : entries = m'.entries := h
  rfl

theorem size_mapValues : (m.mapValues f).size = m.size := List.length_map _

theorem retain_mapValues {p : K → V → Bool} {q : K → W → Bool} (h : ∀ k v, q k (f v) = p k v) :
    (m.mapValues f).retain q = (m.retain p).mapValues f := by
  refine ext_entries ?_
  show (m.entries.map _).filter _ = (m.entries.filter _).map _
  rw [List.filter_map]
  exact congrArg (List.map _) (List.filter_congr fun e _ => h e.1 e.2)

end MapValues

variable [DecidableEq K]

/-- The value of a key. -/
def get? (m : KeyMap K V) (k : K) : Option V := (m.entries.find? fun e => e.1 = k).map Prod.snd

/-- Insert or replace. -/
def insert (m : KeyMap K V) (k : K) (v : V) : KeyMap K V :=
  ⟨(k, v) :: m.entries.filter fun e => e.1 ≠ k, by
    refine List.nodup_cons.2 ⟨?_, m.nodup.sublist (List.filter_sublist.map Prod.fst)⟩
    simp⟩

variable {m : KeyMap K V} {k k' : K} {v : V}

@[simp] theorem get?_empty : (empty : KeyMap K V).get? k = none := rfl

/-- Every entry of the list is found. -/
theorem get?_eq_some_iff : m.get? k = some v ↔ (k, v) ∈ m.entries := by
  obtain ⟨l, hl⟩ := m
  unfold get?
  simp only
  induction l with
  | nil => simp
  | cons e l ih =>
    obtain ⟨a, b⟩ := e
    rw [List.map_cons, List.nodup_cons] at hl
    by_cases h : a = k
    · subst h
      have hnot : (a, v) ∉ l := fun hm => hl.1 (List.mem_map.2 ⟨(a, v), hm, rfl⟩)
      simp [hnot, eq_comm]
    · simp [h, ih hl.2, Ne.symm h]

theorem get?_eq_none_iff : m.get? k = none ↔ ∀ v, (k, v) ∉ m.entries := by
  rw [Option.eq_none_iff_forall_ne_some]
  simp only [ne_eq, get?_eq_some_iff]

theorem get?_mapValues {W : Type v} (f : V → W) : (m.mapValues f).get? k = (m.get? k).map f := by
  unfold get? mapValues
  simp only
  rw [List.find?_map, Option.map_map, Option.map_map]
  rfl

theorem insert_mapValues {W : Type v} (f : V → W) :
    (m.mapValues f).insert k (f v) = (m.insert k v).mapValues f := by
  refine ext_entries ?_
  show (k, f v) :: (m.entries.map _).filter _ = (k, f v) :: (m.entries.filter _).map _
  rw [List.filter_map]
  rfl

theorem get?_insert : (m.insert k v).get? k' = if k' = k then some v else m.get? k' := by
  by_cases h : k' = k
  · subst h
    simp [get?, insert]
  · rw [if_neg h]
    apply Option.ext
    intro w
    rw [get?_eq_some_iff, get?_eq_some_iff]
    simp [insert, h]

theorem get?_retain (p : K → V → Bool) :
    (m.retain p).get? k = (m.get? k).filter (p k) := by
  apply Option.ext
  intro w
  rw [get?_eq_some_iff, Option.filter_eq_some_iff, get?_eq_some_iff]
  simp [retain, and_comm]

theorem get?_reorder {l : List (K × V)} (h : l.Perm m.entries) :
    (m.reorder l h).get? k = m.get? k := by
  apply Option.ext
  intro w
  rw [get?_eq_some_iff, get?_eq_some_iff]
  exact h.mem_iff

/-- What is left after skipping entries was there before. -/
theorem get?_of_get?_skip {n : ℕ} (h : (m.skip n).get? k = some v) : m.get? k = some v := by
  rw [get?_eq_some_iff] at h ⊢
  exact List.mem_of_mem_drop h

end KeyMap
