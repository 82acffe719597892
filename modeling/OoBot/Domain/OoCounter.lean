import OoBot.Lib.Scan
import OoBot.Text

/-!
# `src/domain/oo_counter.rs`

`countOoSequences` counts non-overlapping occurrences of hiragana `おお`, katakana `オオ` and ASCII
`oo` in any case, in one pass over the characters.
-/

namespace OoBot

/-- `is_ascii_o`. -/
def isAsciiO (ch : Char) : Bool := ch == 'o' || ch == 'O'

/-- The condition `hit` of `count_oo_sequences`. -/
def ooHit (current next : Char) : Bool :=
  (current == 'お' && next == 'お') || (current == 'オ' && next == 'オ') ||
    (isAsciiO current && isAsciiO next)

/-- `count_oo_sequences`: look at the next character, and consume it too on a hit. -/
def countOoSequences : Text → ℕ
  | current :: next :: chars =>
      if ooHit current next then countOoSequences chars + 1 else countOoSequences (next :: chars)
  | _ => 0

theorem countOoSequences_eq_pairScan (s : Text) : countOoSequences s = Scan.pairScan ooHit s := by
  induction s using countOoSequences.induct with
  | case1 c d s h ih => simp [countOoSequences, Scan.pairScan, h, ih]
  | case2 c d s h ih => simp [countOoSequences, Scan.pairScan, h, ih]
  | case3 s h =>
    rcases s with _ | ⟨c, _ | ⟨d, s⟩⟩
    · rfl
    · rfl
    · exact absurd rfl (h c d s)

/-- The pass counts the three kinds of pairs independently: they share no character. -/
theorem countOoSequences_eq_sum (s : Text) :
    countOoSequences s = Scan.pairScan (fun c d => c == 'お' && d == 'お') s +
      Scan.pairScan (fun c d => c == 'オ' && d == 'オ') s +
      Scan.pairScan (fun c d => isAsciiO c && isAsciiO d) s := by
  rw [countOoSequences_eq_pairScan]
  unfold ooHit
  rw [Scan.pairScan_or, Scan.pairScan_or]
  · rintro c d h e
    obtain ⟨rfl, rfl⟩ : c = 'お' ∧ d = 'お' := by simpa using h
    exact ⟨rfl, rfl⟩
  · rintro c d h e
    obtain ⟨rfl, rfl⟩ : c = 'オ' ∧ d = 'オ' := by simpa using h
    exact ⟨rfl, rfl⟩
  · rintro c d h e
    have h' : (c = 'お' ∧ d = 'お') ∨ (c = 'オ' ∧ d = 'オ') := by simpa using h
    rcases h' with ⟨rfl, rfl⟩ | ⟨rfl, rfl⟩ <;> exact ⟨rfl, rfl⟩
  · rintro c d h e
    have h' : (c = 'o' ∨ c = 'O') ∧ (d = 'o' ∨ d = 'O') := by simpa [isAsciiO] using h
    obtain ⟨rfl | rfl, rfl | rfl⟩ := h' <;> exact ⟨rfl, rfl⟩

/-- Every counted pair takes two characters. -/
theorem two_mul_countOoSequences_le (s : Text) : 2 * countOoSequences s ≤ s.length := by
  induction s using countOoSequences.induct with
  | case1 c d s h ih => simp [countOoSequences, h]; omega
  | case2 c d s h ih => simp only [countOoSequences, h, List.length_cons] at ih ⊢; simp; omega
  | case3 s h =>
    match s, h with
    | [], _ => simp [countOoSequences]
    | [c], _ => simp [countOoSequences]
    | c :: d :: s, h => exact absurd rfl (h c d s)

example : countOoSequences "おおooオオ".toList = 3 := by decide

end OoBot
