import OoBot.Lib.Streak
import OoBot.Security.ResponseCompiler

/-!
# Repetition in a message

`has_excessive_repetition` counts how often the last character has come in a row, and compares the
count with the threshold only when it has grown.  A new character starts the count at one without a
comparison, so a threshold of one works as a threshold of two (`hasExcessiveRepetition_spec`), though
the setters of the governor admit it.
-/

namespace OoBot

open Streak (HasStreak)

/-! ### The loop -/

/-- The count is compared from two on: a threshold below that is a threshold of two. -/
theorem repetitionFrom_max {streak : ℕ} (hstreak : 1 ≤ streak) (threshold : ℕ) (prev : Option Char)
    (s : Text) : repetitionFrom (max threshold 2) prev streak s = repetitionFrom threshold prev streak s := by
  induction s generalizing prev streak with
  | nil => rfl
  | cons ch s ih =>
    have hcompare : streak + 1 ≥ max threshold 2 ↔ streak + 1 ≥ threshold := by omega
    rw [repetitionFrom, repetitionFrom, ih (Nat.le_succ_of_le hstreak), ih (Nat.le_refl 1)]
    simp only [hcompare]

/-- **The loop**, when the last character has come `streak` times and comes short of the threshold by
`missing + 1`: it finds these right ahead, or a whole streak further on. -/
theorem repetitionFrom_iff {t streak missing : ℕ} (h : streak + missing = t + 1)
    (hstreak : 1 ≤ streak) (c : Char) (s : Text) : repetitionFrom (t + 2) (some c) streak s = true ↔
      List.replicate (missing + 1) c <+: s ∨ HasStreak (t + 2) s := by
  induction s generalizing c streak missing with
  | nil =>
    refine iff_of_false nofun ?_
    rintro (hpre | hs)
    · exact Streak.not_replicate_succ_prefix_nil hpre
    · exact Streak.not_hasStreak_nil hs
  | cons ch s ih =>
    rw [repetitionFrom, Streak.hasStreak_cons_iff, Streak.replicate_succ_prefix_cons_iff]
    by_cases hch : c = ch
    · subst hch
      rw [if_pos rfl]
      cases missing with
      | zero =>
        -- the streak is complete with this character
        rw [if_pos (by omega)]
        exact iff_of_true rfl (.inl ⟨rfl, List.nil_prefix⟩)
      | succ missing =>
        have hle : missing + 1 ≤ t + 1 := by omega
        rw [if_neg (by omega), @ih (streak + 1) missing (by omega) (Nat.le_succ_of_le hstreak)]
        constructor
        · rintro (hpre | hs)
          · exact .inl ⟨rfl, hpre⟩
          · exact .inr (.inr hs)
        · rintro (⟨-, hpre⟩ | hpre | hs)
          · exact .inl hpre
          · exact .inl ((Streak.replicate_prefix_of_le hle).trans hpre)
          · exact .inr hs
    · -- another character: the count starts again
      have hne : ¬ some c = some ch := fun h => hch (Option.some.inj h)
      rw [if_neg hne, ih (Nat.add_comm 1 t) (Nat.le_refl 1)]
      exact ⟨.inr, fun h => h.resolve_left fun h => hch h.1⟩

/-- **What `has_excessive_repetition` finds**: a streak as long as the threshold, and of two at
least. -/
theorem hasExcessiveRepetition_spec (s : Text) (threshold : ℕ) :
    hasExcessiveRepetition s threshold = true ↔ HasStreak (max threshold 2) s := by
  obtain ⟨t, ht⟩ : ∃ t, max threshold 2 = t + 2 := ⟨max threshold 2 - 2, by omega⟩
  unfold hasExcessiveRepetition
  cases s with
  | nil =>
    rw [ht]
    exact iff_of_false nofun Streak.not_hasStreak_nil
  | cons ch s =>
    have hnone : ¬ none = some ch := nofun
    rw [repetitionFrom, if_neg hnone, ← repetitionFrom_max (Nat.le_refl 1), ht,
      repetitionFrom_iff (Nat.add_comm 1 t) (Nat.le_refl 1), Streak.hasStreak_cons_iff]

/-- **When `has_excessive_repetition` keeps to its threshold**: always from a threshold of two on, and
for a threshold of one when the text is empty or some character comes twice in a row. -/
theorem hasExcessiveRepetition_iff (s : Text) {threshold : ℕ} (hthreshold : 1 ≤ threshold) :
    (hasExcessiveRepetition s threshold = true ↔ HasStreak threshold s) ↔
      2 ≤ threshold ∨ s = [] ∨ HasStreak 2 s := by
  rw [hasExcessiveRepetition_spec]
  by_cases htwo : 2 ≤ threshold
  · rw [Nat.max_eq_left htwo]
    exact iff_of_true Iff.rfl (.inl htwo)
  · obtain rfl : threshold = 1 := by omega
    rw [Streak.hasStreak_one_iff]
    show (HasStreak 2 s ↔ s ≠ []) ↔ _
    constructor
    · intro h
      by_cases hs : s = []
      · exact .inr (.inl hs)
      · exact .inr (.inr (h.2 hs))
    · rintro (h | rfl | h)
      · exact absurd h htwo
      · exact iff_of_false Streak.not_hasStreak_nil fun h => h rfl
      · exact iff_of_true h (Streak.hasStreak_one_iff.1 (h.mono (by omega)))

/-- The smallest threshold, at a text with a character twice in a row. -/
theorem hasExcessiveRepetition_doubled :
    hasExcessiveRepetition ['a', 'a'] 1 = true ↔ HasStreak 1 ['a', 'a'] :=
  (hasExcessiveRepetition_iff ['a', 'a'] (Nat.le_refl 1)).2 (.inr (.inr ⟨'a', List.infix_refl _⟩))

/-- One character is a streak of one, and is not found. -/
theorem single_character_missed :
    hasExcessiveRepetition ['a'] 1 = false ∧ HasStreak 1 ['a'] := by
  constructor
  · rfl
  · exact ⟨'a', List.infix_refl _⟩

end OoBot
