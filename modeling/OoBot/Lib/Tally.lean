import Mathlib.Algebra.GroupWithZero.Nat
import Mathlib.Data.List.Nodup
import Mathlib.Data.List.Perm.Basic
import Mathlib.Order.Lattice
import Mathlib.Tactic.Common

/-!
# Tallies

A tally says how often each key was counted.  It is a list of the keys that were counted at all, in
increasing order, so two tallies are equal when they say the same of every key (`ext_get`).

The tally of a list gives the number of occurrences (`get_of`), and does not depend on the order of the
list (`of_eq_of_iff`).
-/

universe u

/-- A tally: keys with how often they were counted. -/
structure Tally (K : Type u) [LinearOrder K] where
  entries : List (K × ℕ)
  sorted : entries.Pairwise fun a b => a.1 < b.1
  pos : ∀ e ∈ entries, 0 < e.2

namespace Tally

variable {K : Type u} [LinearOrder K]

/-- Nothing has been counted. -/
def empty : Tally K := ⟨[], List.Pairwise.nil, by simp⟩

/-- Count a key in a list of entries. -/
def addTo (k : K) : List (K × ℕ) → List (K × ℕ)
  | [] => [(k, 1)]
  | (k', n) :: rest =>
      if k = k' then (k', n + 1) :: rest
      else if k < k' then (k, 1) :: (k', n) :: rest
      else (k', n) :: addTo k rest

theorem mem_addTo {k : K} {l : List (K × ℕ)} {e : K × ℕ} (h : e ∈ addTo k l) :
    0 < e.2 ∧ e.1 = k ∨ e ∈ l := by
  induction l with
  | nil =>
    rw [List.mem_singleton.1 h]
    exact Or.inl ⟨Nat.one_pos, rfl⟩
  | cons a l ih =>
    obtain ⟨k', n⟩ := a
    unfold addTo at h
    split_ifs at h with heq hlt
    · rcases List.mem_cons.1 h with rfl | h
      · exact Or.inl ⟨Nat.succ_pos n, heq.symm⟩
      · exact Or.inr (List.mem_cons_of_mem _ h)
    · rcases List.mem_cons.1 h with rfl | h
      · exact Or.inl ⟨Nat.one_pos, rfl⟩
      · exact Or.inr h
    · rcases List.mem_cons.1 h with rfl | h
      · exact Or.inr List.mem_cons_self
      · exact (ih h).imp_right (List.mem_cons_of_mem _)

theorem sorted_addTo (k : K) {l : List (K × ℕ)} (h : l.Pairwise fun a b => a.1 < b.1) :
    (addTo k l).Pairwise fun a b => a.1 < b.1 := by
  induction l with
  | nil => exact List.pairwise_singleton _ _
  | cons a l ih =>
    obtain ⟨k', n⟩ := a
    obtain ⟨hhead, htail⟩ := List.pairwise_cons.1 h
    unfold addTo
    split_ifs with heq hlt
    · exact List.pairwise_cons.2 ⟨hhead, htail⟩
    · refine List.pairwise_cons.2 ⟨?_, h⟩
      rintro e he
      rcases List.mem_cons.1 he with rfl | he
      · exact hlt
      · exact hlt.trans (hhead e he)
    · refine List.pairwise_cons.2 ⟨?_, ih htail⟩
      rintro e he
      rcases mem_addTo he with ⟨-, rfl⟩ | he
      · exact lt_of_le_of_ne (not_lt.1 hlt) (Ne.symm heq)
      · exact hhead e he

/-- Count a key. -/
def add (k : K) (t : Tally K) : Tally K where
  entries := addTo k t.entries
  sorted := sorted_addTo k t.sorted
  pos e he := (mem_addTo he).elim And.left (t.pos e)

/-- How often the key was counted. -/
def get (t : Tally K) (k : K) : ℕ := ((t.entries.find? fun e => e.1 = k).map Prod.snd).getD 0

/-- How often any key was counted. -/
def total (t : Tally K) : ℕ := (t.entries.map Prod.snd).sum

/-- The tally of a list. -/
def of (l : List K) : Tally K := l.foldl (fun t k => t.add k) empty

variable {t t' : Tally K} {k : K}

@[simp] theorem get_empty (k : K) : (empty : Tally K).get k = 0 := rfl

@[simp] theorem total_empty : (empty : Tally K).total = 0 := rfl

/-- Counting a key adds one to it, and nothing to another. -/
theorem get_add (t : Tally K) (k k' : K) : (t.add k).get k' = t.get k' + if k = k' then 1 else 0 := by
  obtain ⟨l, hl, hpos⟩ := t
  unfold get add
  simp only
  clear hpos
  induction l with
  | nil => by_cases h : k = k' <;> simp [addTo, h]
  | cons a l ih =>
    obtain ⟨a, n⟩ := a
    obtain ⟨hhead, htail⟩ := List.pairwise_cons.1 hl
    unfold addTo
    by_cases heq : k = a
    · subst heq
      rw [if_pos rfl]
      by_cases hkk' : k = k' <;> simp [hkk']
    rw [if_neg heq]
    by_cases hlt : k < a
    · rw [if_pos hlt]
      by_cases hkk' : k = k'
      · -- the key is not in the list yet
        subst hkk'
        have hnot : ∀ e ∈ l, e.1 ≠ k := fun e he => ne_of_gt (hlt.trans (hhead e he))
        have hnone : l.find? (fun e => e.1 = k) = none := List.find?_eq_none.2 (by simpa using hnot)
        simp [Ne.symm heq, hnone]
      · simp [hkk']
    · rw [if_neg hlt]
      by_cases ha : a = k'
      · have hne : k ≠ k' := fun h => heq (h.trans ha.symm)
        simp [ha, hne]
      · simpa [ha] using ih htail

theorem total_add (t : Tally K) (k : K) : (t.add k).total = t.total + 1 := by
  obtain ⟨l, hl, hpos⟩ := t
  unfold total add
  simp only
  clear hl hpos
  induction l with
  | nil => rfl
  | cons a l ih =>
    obtain ⟨a, n⟩ := a
    unfold addTo
    split_ifs
    · simp only [List.map_cons, List.sum_cons]
      omega
    · simp only [List.map_cons, List.sum_cons]
      omega
    · simp only [List.map_cons, List.sum_cons, ih]
      omega

/-- A key and its count are an entry when it was counted. -/
theorem mem_entries_iff {n : ℕ} : (k, n) ∈ t.entries ↔ t.get k = n ∧ 0 < n := by
  have hfind : ∀ e ∈ t.entries, t.entries.find? (fun a => a.1 = e.1) = some e := by
    obtain ⟨l, hl, -⟩ := t
    intro e he
    obtain ⟨before, after, rfl⟩ := List.append_of_mem he
    have hbefore : ∀ a ∈ before, a.1 ≠ e.1 := fun a ha =>
      ne_of_lt ((List.pairwise_append.1 hl).2.2 a ha e List.mem_cons_self)
    rw [List.find?_append, List.find?_eq_none.2 (by simpa using hbefore)]
    simp
  constructor
  · intro h
    refine ⟨?_, t.pos _ h⟩
    unfold get
    rw [hfind _ h]
    rfl
  · rintro ⟨rfl, hpos⟩
    unfold get at hpos ⊢
    cases hf : t.entries.find? fun e => e.1 = k with
    | none => simp [hf] at hpos
    | some e =>
      have hmem := List.mem_of_find?_eq_some hf
      have hkey : e.1 = k := by simpa using List.find?_some hf
      rw [Option.map_some, Option.getD_some, ← hkey]
      exact hmem

/-- Tallies that say the same of every key are the same. -/
theorem ext_get (h : ∀ k, t.get k = t'.get k) : t = t' := by
  have hmem : ∀ e, e ∈ t.entries ↔ e ∈ t'.entries := by
    rintro ⟨k, n⟩
    rw [mem_entries_iff, mem_entries_iff, h k]
  have hnodup : ∀ t : Tally K, t.entries.Nodup := fun t => t.sorted.imp fun hlt heq => by
    rw [heq] at hlt
    exact lt_irrefl _ hlt
  have hperm : t.entries.Perm t'.entries :=
    (List.perm_ext_iff_of_nodup (hnodup t) (hnodup t')).2 hmem
  have hentries : t.entries = t'.entries :=
    hperm.eq_of_pairwise (fun a b _ _ hab hba => absurd hab (not_lt_of_gt hba)) t.sorted t'.sorted
  cases t
  cases t'
  cases hentries
  rfl

/-! ### Tallies of lists -/

theorem get_foldl (l : List K) (t : Tally K) (k : K) :
    (l.foldl (fun t k => t.add k) t).get k = t.get k + l.countP fun a => a = k := by
  induction l generalizing t with
  | nil => rfl
  | cons a l ih =>
    rw [List.foldl_cons, ih, get_add, List.countP_cons, Nat.add_assoc, Nat.add_comm (ite _ _ _)]
    simp only [decide_eq_true_eq]

/-- The tally of a list gives the number of occurrences. -/
theorem get_of (l : List K) (k : K) : (of l).get k = l.countP fun a => a = k := by
  rw [of, get_foldl, get_empty, Nat.zero_add]

theorem total_foldl (l : List K) (t : Tally K) :
    (l.foldl (fun t k => t.add k) t).total = t.total + l.length := by
  induction l generalizing t with
  | nil => rfl
  | cons a l ih =>
    rw [List.foldl_cons, ih, total_add, List.length_cons]
    omega

@[simp] theorem total_of (l : List K) : (of l).total = l.length := by
  rw [of, total_foldl, total_empty, Nat.zero_add]

/-- **The order does not matter**: two lists have the same tally when one is the other in another
order. -/
theorem of_eq_of_iff {l l' : List K} : of l = of l' ↔ l.Perm l' := by
  have hcount : ∀ (l : List K) (k : K), l.count k = (of l).get k := fun l k => by
    rw [get_of, List.count]
    exact List.countP_congr fun a _ => by rw [beq_iff_eq, decide_eq_true_eq]
  rw [List.perm_iff_count]
  constructor
  · intro h k
    rw [hcount, hcount, h]
  · intro h
    refine ext_get fun k => ?_
    rw [← hcount, ← hcount, h]

end Tally
