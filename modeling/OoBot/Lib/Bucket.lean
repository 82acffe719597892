import Mathlib.Algebra.Order.Field.Basic
import Mathlib.Data.List.Count
import Mathlib.Tactic.Linarith
import Mathlib.Tactic.Ring

/-!
# Token buckets

A bucket holds at most `cap` tokens and gains `rate` of them in a unit of time; an event takes one.
`Accounts` relates the balance to the instants at which tokens were taken.  Filling up and taking keep
it, and it bounds the events of any window (`Accounts.window`).

The balance is an amortised bound: what was taken since `s` and what is left is at most a full bucket
and what has flowed in since `s`.  Where no token is lost, the bound is attained (`Exact`), so that there
is a token left exactly when no window that ends now would hold too many events (`Exact.holds_iff`).
-/

namespace Bucket

variable {K : Type*} [Field K] [LinearOrder K]

/-- The accounts of a bucket that was last filled at `last`, with the instants of the events so far. -/
structure Accounts (cap rate : K) (taken : List K) (last tokens : K) : Prop where
  nonneg : 0 ≤ tokens
  le_cap : tokens ≤ cap
  le_last : ∀ x ∈ taken, x ≤ last
  since : ∀ s ≤ last, (taken.countP (s ≤ ·) : K) + tokens ≤ cap + rate * (last - s)
  window : ∀ s u, s ≤ u →
    (taken.countP (fun x => s ≤ x ∧ x ≤ u) : K) ≤ cap + rate * (u - s)

variable {cap rate last tokens : K} {taken : List K}

/-- No event lies after the instant at which the bucket was last filled. -/
theorem Accounts.countP_eq_zero (h : Accounts cap rate taken last tokens) {s : K} (hs : last < s) :
    taken.countP (s ≤ ·) = 0 := by
  refine List.countP_eq_zero.2 fun x hx => ?_
  have hle : x < s := lt_of_le_of_lt (h.le_last x hx) hs
  simpa using hle

variable [IsStrictOrderedRing K]

/-- A full bucket from which nothing has been taken. -/
theorem accounts_full (hcap : 0 ≤ cap) (hrate : 0 ≤ rate) : Accounts cap rate [] last cap where
  nonneg := hcap
  le_cap := le_refl cap
  le_last := by simp
  since s hs := by
    have hflow : 0 ≤ rate * (last - s) := mul_nonneg hrate (sub_nonneg.2 hs)
    simpa using hflow
  window s u hsu := by
    have hflow : 0 ≤ rate * (u - s) := mul_nonneg hrate (sub_nonneg.2 hsu)
    rw [List.countP_nil, Nat.cast_zero]
    exact add_nonneg hcap hflow

/-- Filling up. -/
theorem Accounts.refill (h : Accounts cap rate taken last tokens) (hrate : 0 ≤ rate) {now : K}
    (hnow : last ≤ now) : Accounts cap rate taken now (min (tokens + (now - last) * rate) cap) where
  nonneg := by
    have hflow : 0 ≤ (now - last) * rate := mul_nonneg (sub_nonneg.2 hnow) hrate
    exact le_min (add_nonneg h.nonneg hflow) (h.nonneg.trans h.le_cap)
  le_cap := min_le_right _ _
  le_last x hx := (h.le_last x hx).trans hnow
  since s hs := by
    rcases le_or_gt s last with hle | hlt
    · -- what flows in is on both sides
      have hsince := h.since s hle
      have hmin := min_le_left (tokens + (now - last) * rate) cap
      have hsplit : rate * (now - s) = rate * (last - s) + (now - last) * rate := by ring
      linarith
    · rw [h.countP_eq_zero hlt, Nat.cast_zero, zero_add]
      have hflow : 0 ≤ rate * (now - s) := mul_nonneg hrate (sub_nonneg.2 hs)
      have hmin := min_le_right (tokens + (now - last) * rate) cap
      linarith
  window := h.window

/-- An event at the instant of the last filling. -/
theorem Accounts.take (h : Accounts cap rate taken last tokens) (hrate : 0 ≤ rate)
    (hone : 1 ≤ tokens) : Accounts cap rate (taken ++ [last]) last (tokens - 1) where
  nonneg := sub_nonneg.2 hone
  le_cap := (sub_le_self tokens zero_le_one).trans h.le_cap
  le_last x hx := by
    rcases List.mem_append.1 hx with hx | hx
    · exact h.le_last x hx
    · exact le_of_eq (List.mem_singleton.1 hx)
  since s hs := by
    have hsince := h.since s hs
    have hcount : (taken ++ [last]).countP (s ≤ ·) = taken.countP (s ≤ ·) + 1 := by
      simp [List.countP_append, hs]
    rw [hcount, Nat.cast_add, Nat.cast_one]
    linarith
  window s u hsu := by
    by_cases hin : s ≤ last ∧ last ≤ u
    · -- every event of the window was taken since `s`
      have hsince := h.since s hin.1
      have hmono : taken.countP (fun x => s ≤ x ∧ x ≤ u) ≤ taken.countP (s ≤ ·) :=
        List.countP_mono_left fun x _ hx => by
          simp only [decide_eq_true_eq] at hx ⊢
          exact hx.1
      have hcast : (taken.countP (fun x => s ≤ x ∧ x ≤ u) : K) ≤ taken.countP (s ≤ ·) :=
        Nat.cast_le.2 hmono
      have hflow : rate * (last - s) ≤ rate * (u - s) :=
        mul_le_mul_of_nonneg_left (sub_le_sub_right hin.2 s) hrate
      have hcount : (taken ++ [last]).countP (fun x => s ≤ x ∧ x ≤ u) =
          taken.countP (fun x => s ≤ x ∧ x ≤ u) + 1 := by
        simp [List.countP_append, hin]
      rw [hcount, Nat.cast_add, Nat.cast_one]
      linarith
    · have hcount : (taken ++ [last]).countP (fun x => s ≤ x ∧ x ≤ u) =
          taken.countP (fun x => s ≤ x ∧ x ≤ u) := by
        rw [List.countP_append, List.countP_singleton]
        simp [hin]
      rw [hcount]
      exact h.window s u hsu

/-- A token that is lost. -/
theorem Accounts.lose (h : Accounts cap rate taken last tokens) (hone : 1 ≤ tokens) :
    Accounts cap rate taken last (tokens - 1) where
  nonneg := sub_nonneg.2 hone
  le_cap := (sub_le_self tokens zero_le_one).trans h.le_cap
  le_last := h.le_last
  since s hs := by
    have hsince := h.since s hs
    linarith
  window := h.window

/-! ### Buckets that lose nothing -/

/-- The accounts of a bucket from which only events took tokens: unless it is full, some event took the
last of what the window from it on allows, but for the balance. -/
structure Exact (cap rate : K) (taken : List K) (last tokens : K) : Prop where
  accounts : Accounts cap rate taken last tokens
  attained : tokens = cap ∨
    ∃ s ∈ taken, (taken.countP (s ≤ ·) : K) + tokens = cap + rate * (last - s)

theorem exact_full (hcap : 0 ≤ cap) (hrate : 0 ≤ rate) : Exact cap rate [] last cap :=
  ⟨accounts_full hcap hrate, Or.inl rfl⟩

theorem Exact.refill (h : Exact cap rate taken last tokens) (hrate : 0 ≤ rate) {now : K}
    (hnow : last ≤ now) : Exact cap rate taken now (min (tokens + (now - last) * rate) cap) where
  accounts := h.accounts.refill hrate hnow
  attained := by
    rcases le_total cap (tokens + (now - last) * rate) with hfull | hroom
    · exact Or.inl (min_eq_right hfull)
    · rw [min_eq_left hroom]
      rcases h.attained with hcap | ⟨s, hs, heq⟩
      · -- a full bucket stays full
        have hflow : 0 ≤ (now - last) * rate := mul_nonneg (sub_nonneg.2 hnow) hrate
        exact Or.inl (by linarith)
      · refine Or.inr ⟨s, hs, ?_⟩
        have hsplit : rate * (now - s) = rate * (last - s) + (now - last) * rate := by ring
        linarith

theorem Exact.take (h : Exact cap rate taken last tokens) (hrate : 0 ≤ rate) (hone : 1 ≤ tokens) :
    Exact cap rate (taken ++ [last]) last (tokens - 1) where
  accounts := h.accounts.take hrate hone
  attained := by
    have hcount : ∀ s ≤ last, (taken ++ [last]).countP (s ≤ ·) = taken.countP (s ≤ ·) + 1 := by
      intro s hs
      simp [List.countP_append, hs]
    rcases h.attained with hcap | ⟨s, hs, heq⟩
    · -- nothing was taken from a full bucket at this very instant
      have hsince := h.accounts.since last (le_refl last)
      rw [hcap, sub_self, mul_zero, add_zero, add_le_iff_nonpos_left] at hsince
      have hnone : (taken.countP (last ≤ ·) : K) = 0 := le_antisymm hsince (Nat.cast_nonneg _)
      refine Or.inr ⟨last, by simp, ?_⟩
      rw [hcount last (le_refl last), Nat.cast_add, hnone, Nat.cast_one, hcap]
      ring
    · refine Or.inr ⟨s, List.mem_append_left _ hs, ?_⟩
      rw [hcount s (h.accounts.le_last s hs), Nat.cast_add, Nat.cast_one]
      linarith

/-- **A token is left exactly when one more event fits into every window that ends now.** -/
theorem Exact.holds_iff (h : Exact cap rate taken last tokens) (hcap : 1 ≤ cap) :
    1 ≤ tokens ↔ ∀ s ∈ taken, (taken.countP (s ≤ ·) : K) + 1 ≤ cap + rate * (last - s) := by
  constructor
  · intro hone s hs
    have hsince := h.accounts.since s (h.accounts.le_last s hs)
    linarith
  · intro hfits
    rcases h.attained with hfull | ⟨s, hs, heq⟩
    · rw [hfull]
      exact hcap
    · have hfit := hfits s hs
      linarith

end Bucket
