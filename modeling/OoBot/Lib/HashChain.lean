import Mathlib.Data.List.Basic
import Mathlib.Data.List.Induction
import Mathlib.Tactic.Common

/-!
# Hash chains

An entry of a chain carries a payload, the hash of the entry before it, and a hash of its own.  A list
of entries is linked from a hash `start` when every entry names the hash before it and carries the
digest of what it names and holds.

* `defects` counts the violations, and there is none exactly in a linked chain
  (`defects_eq_zero_iff`).
* The last hash of a linked chain commits to the chain (`Linked.eq_of_head_eq`), when digests of
  different things differ and `start` is not a digest.
-/

namespace HashChain

variable {H P : Type*}

/-- An entry. -/
structure Entry (H P : Type*) where
  prev : H
  payload : P
  hash : H
  deriving DecidableEq

/-- The last hash. -/
def head (start : H) : List (Entry H P) → H
  | [] => start
  | e :: es => head e.hash es

@[simp] theorem head_nil (start : H) : head start ([] : List (Entry H P)) = start := rfl

@[simp] theorem head_cons (start : H) (e : Entry H P) (es : List (Entry H P)) :
    head start (e :: es) = head e.hash es := rfl

theorem head_append (start : H) (l m : List (Entry H P)) :
    head start (l ++ m) = head (head start l) m := by
  induction l generalizing start with
  | nil => rfl
  | cons e l ih => exact ih e.hash

theorem head_eq_of_getLast? {start : H} {l : List (Entry H P)} {e : Entry H P}
    (h : l.getLast? = some e) : head start l = e.hash := by
  obtain ⟨m, rfl⟩ := List.getLast?_eq_some_iff.1 h
  rw [head_append]
  rfl

variable (digest : H → P → H)

/-- Every entry names the hash before it, and carries the digest of what it names and holds. -/
def Linked (start : H) : List (Entry H P) → Prop
  | [] => True
  | e :: es => e.prev = start ∧ digest e.prev e.payload = e.hash ∧ Linked e.hash es

theorem linked_append (start : H) (l m : List (Entry H P)) :
    Linked digest start (l ++ m) ↔ Linked digest start l ∧ Linked digest (head start l) m := by
  induction l generalizing start with
  | nil => simp [Linked]
  | cons e l ih => simp only [List.cons_append, Linked, ih, head_cons, and_assoc]

/-- The number of violated links and of wrong hashes. -/
def defects [DecidableEq H] (start : H) : List (Entry H P) → ℕ
  | [] => 0
  | e :: es =>
      (if e.prev = start then 0 else 1) + (if digest e.prev e.payload = e.hash then 0 else 1) +
        defects e.hash es

theorem defects_eq_zero_iff [DecidableEq H] (start : H) (l : List (Entry H P)) :
    defects digest start l = 0 ↔ Linked digest start l := by
  induction l generalizing start with
  | nil => simp [defects, Linked]
  | cons e l ih =>
    rw [defects, Linked, ← ih e.hash]
    by_cases h₁ : e.prev = start
    · rw [if_pos h₁]
      by_cases h₂ : digest e.prev e.payload = e.hash
      · rw [if_pos h₂]
        exact ⟨fun h => ⟨h₁, h₂, by omega⟩, fun h => by omega⟩
      · rw [if_neg h₂]
        exact ⟨fun h => by omega, fun h => absurd h.2.1 h₂⟩
    · rw [if_neg h₁]
      exact ⟨fun h => by omega, fun h => absurd h.1 h₁⟩

variable {digest}

/-- An entry of a linked chain names the start or the digest of another entry. -/
theorem Linked.prev_eq {start : H} {l : List (Entry H P)} (h : Linked digest start l)
    {e : Entry H P} (he : e ∈ l) :
    e.prev = start ∨ ∃ e' ∈ l, e.prev = digest e'.prev e'.payload := by
  induction l generalizing start with
  | nil => cases he
  | cons x l ih =>
    obtain ⟨hprev, hhash, hrest⟩ := h
    rcases List.mem_cons.1 he with rfl | hmem
    · exact Or.inl hprev
    · rcases ih hrest hmem with heq | ⟨e', he', heq⟩
      · exact Or.inr ⟨x, List.mem_cons_self, by rw [heq, hhash]⟩
      · exact Or.inr ⟨e', List.mem_cons_of_mem x he', heq⟩

/-- The last hash of a linked chain is a digest unless the chain is empty. -/
theorem Linked.head_concat {start : H} {l : List (Entry H P)} {e : Entry H P}
    (h : Linked digest start (l ++ [e])) :
    e.prev = head start l ∧ head start (l ++ [e]) = digest e.prev e.payload ∧
      Linked digest start l := by
  obtain ⟨hl, hprev, hhash, -⟩ := (linked_append digest start l [e]).1 h
  exact ⟨hprev, by rw [head_append, hhash]; rfl, hl⟩

/-- **The last hash commits to the chain.**  Two linked chains with the same last hash are equal, when
the digests of their entries differ for different entries and are not the start. -/
theorem Linked.eq_of_head_eq {start : H} {l m : List (Entry H P)} (hl : Linked digest start l)
    (hm : Linked digest start m) (hstart : ∀ e ∈ l ++ m, digest e.prev e.payload ≠ start)
    (hinj : ∀ e ∈ l, ∀ e' ∈ m, digest e.prev e.payload = digest e'.prev e'.payload →
      e.prev = e'.prev ∧ e.payload = e'.payload)
    (hhead : head start l = head start m) : l = m := by
  -- both chains lose their last entry until one of them is empty
  induction l using List.reverseRecOn generalizing m with
  | nil =>
    rcases List.eq_nil_or_concat' m with rfl | ⟨m, e', rfl⟩
    · rfl
    · rw [hm.head_concat.2.1] at hhead
      exact absurd hhead.symm (hstart e' (by simp))
  | append_singleton l e ih =>
    obtain ⟨hprev, hdig, hl'⟩ := hl.head_concat
    rcases List.eq_nil_or_concat' m with rfl | ⟨m, e', rfl⟩
    · rw [hdig] at hhead
      exact absurd hhead (hstart e (by simp))
    · obtain ⟨hprev', hdig', hm'⟩ := hm.head_concat
      have hsame : digest e.prev e.payload = digest e'.prev e'.payload := by
        rw [← hdig, ← hdig', hhead]
      obtain ⟨hp, hpay⟩ := hinj e (by simp) e' (by simp) hsame
      have hrest : l = m := by
        refine ih hl' hm' ?_ ?_ (by rw [← hprev, ← hprev', hp])
        · intro x hx
          refine hstart x ?_
          rcases List.mem_append.1 hx with hx | hx <;> simp [hx]
        · intro x hx x' hx'
          exact hinj x (by simp [hx]) x' (by simp [hx'])
      have hhash : e.hash = e'.hash := by
        rw [head_append, head_append] at hhead
        exact hhead
      have hlast : e = e' := by
        cases e
        cases e'
        congr
      rw [hrest, hlast]

end HashChain
