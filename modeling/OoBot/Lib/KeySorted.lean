import Mathlib.Order.Lattice
import Mathlib.Data.List.Basic
import Mathlib.Data.List.Pairwise

/-!
# Lists sorted by a key

In a list with strictly increasing keys an entry is found by its key, and a bound on the keys cuts the
list in two.
-/

namespace KeySorted

variable {α K : Type*}

/-- A condition that passes to earlier entries cuts a list in two. -/
theorem filter_append_filter_not {p : α → Bool} {l : List α}
    (h : l.Pairwise fun a b => p b = true → p a = true) :
    l.filter p ++ l.filter (fun a => !p a) = l := by
  induction l with
  | nil => rfl
  | cons x l ih =>
    obtain ⟨hx, hl⟩ := List.pairwise_cons.1 h
    by_cases hp : p x = true
    · rw [List.filter_cons_of_pos hp, List.filter_cons_of_neg (by simp [hp]), List.cons_append,
        ih hl]
    · -- nothing after `x` satisfies the condition
      have hnone : ∀ y ∈ l, ¬ p y = true := fun y hy hpy => hp (hx y hy hpy)
      have hall : l.filter (fun a => !p a) = l :=
        List.filter_eq_self.2 fun y hy => by simpa using hnone y hy
      rw [List.filter_cons_of_neg hp, List.filter_cons_of_pos (by simpa using hp),
        List.filter_eq_nil_iff.2 hnone, List.nil_append, hall]

variable [LinearOrder K] {key : α → K} {l : List α}

/-- The entries below a bound come before the others. -/
theorem filter_lt_append_filter_le (h : l.Pairwise fun a b => key a < key b) (k : K) :
    l.filter (fun a => key a < k) ++ l.filter (fun a => k ≤ key a) = l := by
  have hcut := @filter_append_filter_not _ (fun a => decide (key a < k)) l
    (h.imp fun {a b} hab hb => by simpa using hab.trans (by simpa using hb))
  simpa [← not_lt] using hcut

/-- The entries up to a bound come before the others. -/
theorem filter_le_append_filter_lt (h : l.Pairwise fun a b => key a < key b) (k : K) :
    l.filter (fun a => key a ≤ k) ++ l.filter (fun a => k < key a) = l := by
  have hcut := @filter_append_filter_not _ (fun a => decide (key a ≤ k)) l
    (h.imp fun {a b} hab hb => by simpa using hab.le.trans (by simpa using hb))
  simpa [← not_le] using hcut

/-- The entry with the largest key is the last one. -/
theorem getLast?_eq_some (h : l.Pairwise fun a b => key a < key b) {x : α} (hx : x ∈ l)
    (hmax : ∀ y ∈ l, key y ≤ key x) : l.getLast? = some x := by
  obtain ⟨m, n, rfl⟩ := List.append_of_mem hx
  cases n with
  | nil => simp
  | cons y n =>
    have hlt : key x < key y :=
      (List.pairwise_cons.1 (List.pairwise_append.1 h).2.1).1 y List.mem_cons_self
    exact absurd (hmax y (by simp)) (not_le.2 hlt)

/-- An entry is found by its key. -/
theorem find?_eq_some (h : l.Pairwise fun a b => key a < key b) {x : α} (hx : x ∈ l) :
    l.find? (fun a => key a = key x) = some x := by
  obtain ⟨m, n, rfl⟩ := List.append_of_mem hx
  have hbefore : ∀ y ∈ m, key y ≠ key x := fun y hy =>
    ne_of_lt ((List.pairwise_append.1 h).2.2 y hy x List.mem_cons_self)
  rw [List.find?_append, List.find?_eq_none.2 (by simpa using hbefore)]
  simp

end KeySorted
