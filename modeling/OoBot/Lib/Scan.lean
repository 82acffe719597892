import Mathlib.Data.List.Infix
import Mathlib.Algebra.Order.Group.Nat
import Mathlib.Algebra.BigOperators.Group.List.Basic
import Mathlib.Tactic.Common

/-!
# Counting non-overlapping matches in a list

Two ways to count, over an arbitrary alphabet:

* `countMatches needle hay` searches for the leftmost occurrence (`findSub`), counts it, skips past
  its end and searches again;
* `pairScan hit l` walks through `l`, and skips two entries whenever the next two are a hit.

`countMatches_pair` relates the two for a needle of length two, and `pairScan_or` splits the scan
for a union of relations that never share an entry.
-/

namespace Scan

variable {α : Type*}

/-! ### Leftmost search -/

section Search

variable [DecidableEq α]

/-- The index of the leftmost occurrence of `needle`. -/
def findSub (needle : List α) : List α → Option ℕ
  | [] => if needle = [] then some 0 else none
  | c :: s => if needle <+: c :: s then some 0 else (findSub needle s).map (· + 1)

/-- At most `n` rounds of searching and skipping. -/
def countFrom (needle : List α) : ℕ → List α → ℕ
  | 0, _ => 0
  | n + 1, hay =>
      match findSub needle hay with
      | none => 0
      | some k => countFrom needle n (hay.drop (k + needle.length)) + 1

/-- The number of matches found by searching from the left and skipping each match. -/
def countMatches (needle hay : List α) : ℕ := countFrom needle hay.length hay

theorem findSub_of_match {needle hay : List α} (h : needle <+: hay) : findSub needle hay = some 0 := by
  cases hay with
  | nil => simp [findSub, List.prefix_nil.1 h]
  | cons c s => simp [findSub, h]

theorem findSub_cons_of_not_match {needle : List α} {c : α} {s : List α}
    (h : ¬ needle <+: c :: s) : findSub needle (c :: s) = (findSub needle s).map (· + 1) := by
  simp [findSub, h]

/-- The search succeeds exactly on the lists that contain the needle. -/
theorem findSub_isSome_iff (needle hay : List α) :
    (findSub needle hay).isSome ↔ needle <:+: hay := by
  induction hay with
  | nil => by_cases h : needle = [] <;> simp [findSub, h]
  | cons c s ih =>
    rw [List.infix_cons_iff, ← ih]
    by_cases h : needle <+: c :: s
    · simp [findSub, h]
    · simp [findSub, h]

variable {needle : List α}

/-- The needle starts where the search finds it. -/
theorem prefix_of_findSub {hay : List α} {k : ℕ} (h : findSub needle hay = some k) :
    needle <+: hay.drop k := by
  induction hay generalizing k with
  | nil =>
    unfold findSub at h
    split_ifs at h with hn
    rw [hn]
    exact List.nil_prefix
  | cons c s ih =>
    by_cases hm : needle <+: c :: s
    · rw [findSub_of_match hm] at h
      cases h
      exact hm
    · rw [findSub_cons_of_not_match hm] at h
      obtain ⟨j, hj, rfl⟩ := Option.map_eq_some_iff.1 h
      rw [List.drop_succ_cons]
      exact ih hj

/-- The text up to the end of the needle. -/
theorem take_of_findSub {hay : List α} {k : ℕ} (h : findSub needle hay = some k) :
    hay.take (k + needle.length) = hay.take k ++ needle := by
  rw [List.take_add]
  congr 1
  exact (List.prefix_iff_eq_take.1 (prefix_of_findSub h)).symm

/-- The text falls apart where the needle is found. -/
theorem split_of_findSub {hay : List α} {k : ℕ} (h : findSub needle hay = some k) :
    hay = hay.take k ++ (needle ++ hay.drop (k + needle.length)) := by
  rw [← List.append_assoc, ← take_of_findSub h, List.take_append_drop]

theorem length_take_of_findSub {hay : List α} {k : ℕ} (hn : needle ≠ [])
    (h : findSub needle hay = some k) : (hay.take k).length = k := by
  have hle := (prefix_of_findSub h).length_le
  have hpos := List.length_pos_iff.2 hn
  rw [List.length_drop] at hle
  rw [List.length_take]
  omega

/-- The needle starts nowhere before that. -/
theorem not_prefix_of_findSub {hay : List α} {k i : ℕ} (h : findSub needle hay = some k)
    (hi : i < k) : ¬ needle <+: hay.drop i := by
  induction hay generalizing k i with
  | nil =>
    unfold findSub at h
    split_ifs at h
    cases h
    omega
  | cons c s ih =>
    by_cases hm : needle <+: c :: s
    · rw [findSub_of_match hm] at h
      cases h
      omega
    · rw [findSub_cons_of_not_match hm] at h
      obtain ⟨j, hj, rfl⟩ := Option.map_eq_some_iff.1 h
      cases i with
      | zero => exact hm
      | succ i => exact ih hj (Nat.lt_of_succ_lt_succ hi)

/-- A part at whose positions no match starts is passed over. -/
theorem findSub_append_of_not_match {l hay : List α}
    (h : ∀ i < l.length, ¬ needle <+: l.drop i ++ hay) :
    findSub needle (l ++ hay) = (findSub needle hay).map (· + l.length) := by
  induction l with
  | nil => simp
  | cons c l ih =>
    have hfront : ¬ needle <+: c :: (l ++ hay) := h 0 (Nat.succ_pos _)
    rw [List.cons_append, findSub_cons_of_not_match hfront, ih fun i hi => ?_, Option.map_map]
    · rfl
    · have hnext := h (i + 1) (Nat.succ_lt_succ hi)
      rwa [List.drop_succ_cons] at hnext

theorem countFrom_nil (hn : needle ≠ []) (n : ℕ) : countFrom needle n [] = 0 := by
  cases n with
  | zero => rfl
  | succ n => simp [countFrom, findSub, hn]

/-- Rounds beyond the length of the list change nothing. -/
theorem countFrom_eq_of_le (hn : needle ≠ []) {n : ℕ} {hay : List α} (h : hay.length ≤ n) :
    countFrom needle n hay = countMatches needle hay := by
  induction n using Nat.strong_induction_on generalizing hay with
  | _ n ih =>
    have hpos : 0 < needle.length := List.length_pos_iff.2 hn
    cases hay with
    | nil => rw [countMatches, countFrom_nil hn, countFrom_nil hn]
    | cons c s =>
      obtain ⟨m, rfl⟩ : ∃ m, n = m + 1 := ⟨n - 1, by simp at h; omega⟩
      unfold countMatches
      simp only [List.length_cons, countFrom]
      cases hf : findSub needle (c :: s) with
      | none => rfl
      | some k =>
        have hd : ((c :: s).drop (k + needle.length)).length ≤ s.length := by
          simp only [List.length_drop, List.length_cons]
          omega
        have hm : s.length ≤ m := by simpa using h
        show countFrom needle m ((c :: s).drop (k + needle.length)) + 1 =
          countFrom needle s.length ((c :: s).drop (k + needle.length)) + 1
        rw [ih m (by omega) (hd.trans hm)]
        by_cases hs : s.length < m + 1
        · rw [ih s.length hs hd]
        · omega

@[simp] theorem countMatches_nil (hn : needle ≠ []) : countMatches needle [] = 0 :=
  countFrom_nil hn _

/-- One round: search, count and skip past the match. -/
theorem countMatches_eq (hn : needle ≠ []) (hay : List α) :
    countMatches needle hay =
      match findSub needle hay with
      | none => 0
      | some k => countMatches needle (hay.drop (k + needle.length)) + 1 := by
  have hround : countMatches needle hay = countFrom needle (hay.length + 1) hay :=
    (countFrom_eq_of_le hn (Nat.le_succ _)).symm
  rw [hround, countFrom]
  cases findSub needle hay with
  | none => rfl
  | some k =>
    have hlen : (hay.drop (k + needle.length)).length ≤ hay.length := by
      rw [List.length_drop]
      exact Nat.sub_le _ _
    exact congrArg (· + 1) (countFrom_eq_of_le hn hlen)

/-- A match at the front is counted and skipped. -/
theorem countMatches_of_match (hn : needle ≠ []) {hay : List α} (h : needle <+: hay) :
    countMatches needle hay = countMatches needle (hay.drop needle.length) + 1 := by
  cases hay with
  | nil => exact absurd (List.prefix_nil.1 h) hn
  | cons c s =>
    unfold countMatches
    simp only [List.length_cons, countFrom, findSub_of_match h, Nat.zero_add]
    have hpos : 0 < needle.length := List.length_pos_iff.2 hn
    rw [countFrom_eq_of_le hn (by simp only [List.length_drop, List.length_cons]; omega)]
    rfl

/-- An entry at which no match starts is passed over. -/
theorem countMatches_cons_of_not_match (hn : needle ≠ []) {c : α} {s : List α}
    (h : ¬ needle <+: c :: s) : countMatches needle (c :: s) = countMatches needle s := by
  have hs : countFrom needle (s.length + 1) s = countMatches needle s :=
    countFrom_eq_of_le hn (Nat.le_succ _)
  rw [← hs]
  unfold countMatches
  simp only [List.length_cons, countFrom, findSub_cons_of_not_match h]
  cases hf : findSub needle s with
  | none => rfl
  | some k =>
    simp only [Option.map_some]
    rw [show k + 1 + needle.length = k + needle.length + 1 by omega, List.drop_succ_cons]

theorem countMatches_pos_iff (hn : needle ≠ []) (hay : List α) :
    0 < countMatches needle hay ↔ needle <:+: hay := by
  rw [← findSub_isSome_iff]
  cases hay with
  | nil => simp [countMatches_nil hn, findSub, hn]
  | cons c s =>
    unfold countMatches
    simp only [List.length_cons, countFrom]
    cases findSub needle (c :: s) <;> simp

theorem countMatches_self (hn : needle ≠ []) : countMatches needle needle = 1 := by
  rw [countMatches_of_match hn (List.prefix_refl _), List.drop_length, countMatches_nil hn]

end Search

/-! ### Scanning for pairs -/

/-- The number of disjoint adjacent pairs found by a scan from the left. -/
def pairScan (hit : α → α → Bool) : List α → ℕ
  | c :: d :: s => if hit c d then pairScan hit s + 1 else pairScan hit (d :: s)
  | _ => 0

variable {hit hit₁ hit₂ : α → α → Bool}

theorem pairScan_of_hit {c d : α} {s : List α} (h : hit c d = true) :
    pairScan hit (c :: d :: s) = pairScan hit s + 1 := by
  simp [pairScan, h]

theorem pairScan_of_not_hit {c d : α} {s : List α} (h : hit c d = false) :
    pairScan hit (c :: d :: s) = pairScan hit (d :: s) := by
  simp [pairScan, h]

/-- An entry that starts no pair is passed over. -/
theorem pairScan_cons_of_forall {c : α} {s : List α} (h : ∀ d, hit c d = false) :
    pairScan hit (c :: s) = pairScan hit s := by
  cases s with
  | nil => rfl
  | cons d s => exact pairScan_of_not_hit (h d)

theorem pairScan_congr (h : ∀ c d, hit₁ c d = hit₂ c d) (l : List α) :
    pairScan hit₁ l = pairScan hit₂ l := by
  rw [show hit₁ = hit₂ from funext fun c => funext fun d => h c d]

/-- A needle of length two is counted by the pair scan. -/
theorem countMatches_pair [DecidableEq α] (a b : α) (l : List α) :
    countMatches [a, b] l = pairScan (fun c d => c == a && d == b) l := by
  induction l using pairScan.induct (fun c d => c == a && d == b) with
  | case1 c d s h ih =>
    obtain ⟨rfl, rfl⟩ : c = a ∧ d = b := by simpa using h
    rw [pairScan, if_pos h, ← ih, countMatches_of_match (by simp) (by simp)]
    rfl
  | case2 c d s h ih =>
    have hp : ¬ [a, b] <+: c :: d :: s := by
      simp only [List.cons_prefix_cons, List.nil_prefix, and_true]
      rintro ⟨rfl, rfl⟩
      simp at h
    rw [countMatches_cons_of_not_match (by simp) hp, ih]
    exact (if_neg h).symm
  | case3 l h =>
    match l, h with
    | [], _ => rfl
    | [c], _ => simp [countMatches_cons_of_not_match, pairScan]
    | c :: d :: s, h => exact absurd rfl (h c d s)

/-- Two relations that never share an entry are counted independently of each other. -/
theorem pairScan_or (h₁ : ∀ c d, hit₁ c d = true → ∀ e, hit₂ c e = false ∧ hit₂ d e = false)
    (h₂ : ∀ c d, hit₂ c d = true → ∀ e, hit₁ c e = false ∧ hit₁ d e = false) (l : List α) :
    pairScan (fun c d => hit₁ c d || hit₂ c d) l = pairScan hit₁ l + pairScan hit₂ l := by
  induction l using pairScan.induct (fun c d => hit₁ c d || hit₂ c d) with
  | case1 c d s h ih =>
    rw [pairScan, if_pos h, ih]
    rcases Bool.or_eq_true_iff.1 h with h | h
    · rw [pairScan_of_hit h, pairScan_cons_of_forall fun e => (h₁ c d h e).1,
        pairScan_cons_of_forall fun e => (h₁ c d h e).2]
      omega
    · rw [pairScan_of_hit h, pairScan_cons_of_forall fun e => (h₂ c d h e).1,
        pairScan_cons_of_forall fun e => (h₂ c d h e).2]
      omega
  | case2 c d s h ih =>
    have h' : hit₁ c d = false ∧ hit₂ c d = false := by simpa using h
    rw [pairScan, if_neg h, ih, pairScan_of_not_hit h'.1, pairScan_of_not_hit h'.2]
  | case3 l h =>
    match l, h with
    | [], _ => rfl
    | [c], _ => rfl
    | c :: d :: s, h => exact absurd rfl (h c d s)

/-- Relabelling the entries before a scan. -/
theorem pairScan_map {β : Type*} (f : β → α) (hit : α → α → Bool) (l : List β) :
    pairScan hit (l.map f) = pairScan (fun c d => hit (f c) (f d)) l := by
  induction l using pairScan.induct (fun c d => hit (f c) (f d)) with
  | case1 c d s h ih => simp [pairScan, h, ih]
  | case2 c d s h ih => simpa [pairScan, h] using ih
  | case3 l h =>
    match l, h with
    | [], _ => rfl
    | [c], _ => rfl
    | c :: d :: s, h => exact absurd rfl (h c d s)

end Scan
