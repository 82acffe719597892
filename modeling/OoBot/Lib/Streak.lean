import Mathlib.Data.List.Infix
import Mathlib.Tactic.Common

/-!
# Streaks

A list has a streak of a length when that many equal elements stand in a row somewhere in it.
-/

namespace Streak

variable {α : Type*} {m n : ℕ} {c d : α} {l : List α}

/-- Some element stands `n` times in a row. -/
def HasStreak (n : ℕ) (l : List α) : Prop := ∃ c, List.replicate n c <:+: l

theorem replicate_succ_prefix_cons_iff :
    List.replicate (n + 1) c <+: d :: l ↔ c = d ∧ List.replicate n c <+: l := by
  rw [List.replicate_succ, List.cons_prefix_cons]

theorem not_replicate_succ_prefix_nil : ¬ List.replicate (n + 1) c <+: [] := by
  rw [List.replicate_succ]
  simp

/-- A shorter streak is part of a longer one. -/
theorem replicate_prefix_of_le (h : m ≤ n) : List.replicate m c <+: List.replicate n c := by
  rw [← Nat.add_sub_cancel' h, List.replicate_add]
  exact List.prefix_append _ _

theorem HasStreak.mono (h : HasStreak n l) (hle : m ≤ n) : HasStreak m l := by
  obtain ⟨c, hc⟩ := h
  exact ⟨c, (replicate_prefix_of_le hle).isInfix.trans hc⟩

theorem not_hasStreak_nil : ¬ HasStreak (n + 1) ([] : List α) := by
  rintro ⟨c, hc⟩
  rw [List.replicate_succ] at hc
  simp at hc

/-- A streak begins with the first element, or it is further on. -/
theorem hasStreak_cons_iff :
    HasStreak (n + 1) (d :: l) ↔ List.replicate n d <+: l ∨ HasStreak (n + 1) l := by
  constructor
  · rintro ⟨c, hc⟩
    rcases List.infix_cons_iff.1 hc with hpre | hinfix
    · obtain ⟨rfl, htail⟩ := replicate_succ_prefix_cons_iff.1 hpre
      exact .inl htail
    · exact .inr ⟨c, hinfix⟩
  · rintro (hpre | ⟨c, hinfix⟩)
    · exact ⟨d, (replicate_succ_prefix_cons_iff.2 ⟨rfl, hpre⟩).isInfix⟩
    · exact ⟨c, List.infix_cons hinfix⟩

/-- A single element is a streak of one. -/
theorem hasStreak_one_iff : HasStreak 1 l ↔ l ≠ [] := by
  cases l with
  | nil => exact iff_of_false not_hasStreak_nil fun h => h rfl
  | cons d l => exact iff_of_true (hasStreak_cons_iff.2 (.inl List.nil_prefix)) (List.cons_ne_nil d l)

end Streak
