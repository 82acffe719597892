import Mathlib.Data.List.Infix
import Mathlib.Tactic.Common

/-!
# Taking out a marker of two letters in one pass

A rule names a marker of two letters, and the letters that are dropped besides.  `Rule.erase` takes
both out, from left to right and once: what is left may have a marker again, when its two letters
come together by what was between them.  That happens in no other way (`infix_erase_iff`), and `erase`
leaves a word alone just when there is nothing to take out of it (`erase_eq_self_iff`).
-/

namespace Erasure

/-- A marker, and the letters that are dropped, of which the letters of the marker are none. -/
structure Rule (α : Type*) where
  first : α
  second : α
  drops : α → Bool
  first_ne_second : first ≠ second
  keeps_first : drops first = false
  keeps_second : drops second = false

namespace Rule

variable {α : Type*} (r : Rule α) {c : α} {l w : List α}

/-- The word is markers and dropped letters, one after another. -/
inductive Vanishes : List α → Prop
  | nil : Vanishes []
  | marker {w : List α} (h : Vanishes w) : Vanishes (r.first :: r.second :: w)
  | drop {c : α} {w : List α} (hc : r.drops c = true) (h : Vanishes w) : Vanishes (c :: w)

/-- The two letters of a marker, with a word between them that is taken out. -/
def Split (l : List α) : Prop :=
  ∃ w, w ≠ [] ∧ r.Vanishes w ∧ r.first :: (w ++ [r.second]) <:+: l

/-- The second letter of a marker comes first, but for a word that is taken out. -/
def Closes (l : List α) : Prop := ∃ w, r.Vanishes w ∧ w ++ [r.second] <+: l

/-! ### Where a marker closes -/

theorem ne_first_of_drops (hc : r.drops c = true) : r.first ≠ c := by
  rintro rfl
  cases r.keeps_first.symm.trans hc

theorem ne_second_of_drops (hc : r.drops c = true) : r.second ≠ c := by
  rintro rfl
  cases r.keeps_second.symm.trans hc

/-- A word that starts with the second letter of the marker is not taken out. -/
theorem not_vanishes_second (w : List α) : ¬ r.Vanishes (r.second :: w) := by
  intro h
  generalize hl : r.second :: w = l at h
  cases h with
  | nil => cases hl
  | marker => exact r.first_ne_second (List.cons.inj hl).1.symm
  | drop hc _ => exact r.ne_second_of_drops hc (List.cons.inj hl).1

theorem not_closes_nil : ¬ r.Closes [] := by
  rintro ⟨w, -, hpre⟩
  simp at hpre

theorem closes_marker (l : List α) : r.Closes (r.first :: r.second :: l) ↔ r.Closes l := by
  constructor
  · rintro ⟨w, hw, hpre⟩
    cases hw with
    | nil => exact absurd (List.cons_prefix_cons.1 hpre).1.symm r.first_ne_second
    | marker hw =>
      exact ⟨_, hw, (List.cons_prefix_cons.1 (List.cons_prefix_cons.1 hpre).2).2⟩
    | drop hc => exact absurd (List.cons_prefix_cons.1 hpre).1.symm (r.ne_first_of_drops hc)
  · rintro ⟨w, hw, hpre⟩
    exact ⟨_, hw.marker, List.cons_prefix_cons.2 ⟨rfl, List.cons_prefix_cons.2 ⟨rfl, hpre⟩⟩⟩

theorem closes_drop (hc : r.drops c = true) (l : List α) : r.Closes (c :: l) ↔ r.Closes l := by
  constructor
  · rintro ⟨w, hw, hpre⟩
    cases hw with
    | nil => exact absurd (List.cons_prefix_cons.1 hpre).1 (r.ne_second_of_drops hc)
    | marker => exact absurd (List.cons_prefix_cons.1 hpre).1 (r.ne_first_of_drops hc)
    | drop _ hw => exact ⟨_, hw, (List.cons_prefix_cons.1 hpre).2⟩
  · rintro ⟨w, hw, hpre⟩
    exact ⟨_, hw.drop hc, List.cons_prefix_cons.2 ⟨rfl, hpre⟩⟩

theorem closes_keep (hc : r.drops c = false) (hl : c = r.first → ¬ [r.second] <+: l) :
    r.Closes (c :: l) ↔ c = r.second := by
  constructor
  · rintro ⟨w, hw, hpre⟩
    cases hw with
    | nil => exact (List.cons_prefix_cons.1 hpre).1.symm
    | marker =>
      obtain ⟨hfirst, hpre⟩ := List.cons_prefix_cons.1 hpre
      exact absurd ((List.prefix_append [r.second] _).trans hpre) (hl hfirst.symm)
    | drop hd =>
      rw [(List.cons_prefix_cons.1 hpre).1, hc] at hd
      cases hd
  · rintro rfl
    exact ⟨[], .nil, List.cons_prefix_cons.2 ⟨rfl, List.nil_prefix⟩⟩

/-! ### Where a marker is split -/

/-- A marker is split at the head of a word, or further on. -/
theorem split_cons (c : α) (l : List α) :
    r.Split (c :: l) ↔ (c = r.first ∧ ¬ [r.second] <+: l ∧ r.Closes l) ∨ r.Split l := by
  constructor
  · rintro ⟨w, hne, hw, hinfix⟩
    rcases List.infix_cons_iff.1 hinfix with hpre | hinfix
    · obtain ⟨hc, hpre⟩ := List.cons_prefix_cons.1 hpre
      refine .inl ⟨hc.symm, fun hsecond => ?_, w, hw, hpre⟩
      -- the word between the letters would start with the second one
      obtain ⟨d, w, rfl⟩ := List.exists_cons_of_ne_nil hne
      obtain ⟨t, rfl⟩ := hsecond
      obtain ⟨rfl, -⟩ := List.cons_prefix_cons.1 hpre
      exact r.not_vanishes_second w hw
    · exact .inr ⟨w, hne, hw, hinfix⟩
  · rintro (⟨rfl, hsecond, w, hw, hpre⟩ | ⟨w, hne, hw, hinfix⟩)
    · refine ⟨w, ?_, hw, (List.cons_prefix_cons.2 ⟨rfl, hpre⟩).isInfix⟩
      rintro rfl
      exact hsecond hpre
    · exact ⟨w, hne, hw, List.infix_cons hinfix⟩

theorem not_split_nil : ¬ r.Split [] := by
  rintro ⟨w, -, -, hinfix⟩
  simp at hinfix

section Erase

variable [DecidableEq α]

/-- Take out every marker and every dropped letter, in one pass. -/
def erase : List α → List α
  | [] => []
  | [c] => if r.drops c then [] else [c]
  | c :: d :: l =>
      if c = r.first ∧ d = r.second then erase l
      else if r.drops c then erase (d :: l) else c :: erase (d :: l)

@[simp] theorem erase_nil : r.erase [] = [] := rfl

theorem erase_singleton (c : α) : r.erase [c] = if r.drops c then [] else [c] := rfl

theorem erase_marker (l : List α) : r.erase (r.first :: r.second :: l) = r.erase l := by
  rw [erase, if_pos ⟨rfl, rfl⟩]

theorem erase_drop (hc : r.drops c = true) (l : List α) : r.erase (c :: l) = r.erase l := by
  cases l with
  | nil => rw [erase_singleton, if_pos hc, erase_nil]
  | cons d l => rw [erase, if_neg fun h => r.ne_first_of_drops hc h.1.symm, if_pos hc]

theorem erase_keep (hc : r.drops c = false) (hl : c = r.first → ¬ [r.second] <+: l) :
    r.erase (c :: l) = c :: r.erase l := by
  have hkeep : ¬ r.drops c = true := by rw [hc]; exact nofun
  cases l with
  | nil => rw [erase_singleton, if_neg hkeep, erase_nil]
  | cons d l =>
    have hmarker : ¬ (c = r.first ∧ d = r.second) := by
      rintro ⟨hfirst, rfl⟩
      exact hl hfirst (List.cons_prefix_cons.2 ⟨rfl, List.nil_prefix⟩)
    rw [erase, if_neg hmarker, if_neg hkeep]

/-- A word starts with a marker, with a dropped letter, or with a letter that stays. -/
@[elab_as_elim]
theorem induction {motive : List α → Prop} (nil : motive [])
    (marker : ∀ l, motive l → motive (r.first :: r.second :: l))
    (drop : ∀ c l, r.drops c = true → motive l → motive (c :: l))
    (keep : ∀ c l, r.drops c = false → (c = r.first → ¬ [r.second] <+: l) → motive l →
      motive (c :: l)) (l : List α) : motive l := by
  induction l using Rule.erase.induct r with
  | case1 => exact nil
  | case2 c hc => exact drop c [] hc nil
  | case3 c hc => exact keep c [] (Bool.not_eq_true _ ▸ hc) (fun _ => nofun) nil
  | case4 c d l h ih =>
    obtain ⟨rfl, rfl⟩ := h
    exact marker l ih
  | case5 c d l _ hc ih => exact drop c (d :: l) hc ih
  | case6 c d l h hc ih =>
    refine keep c (d :: l) (Bool.not_eq_true _ ▸ hc) (fun hfirst hpre => h ⟨hfirst, ?_⟩) ih
    exact (List.cons_prefix_cons.1 hpre).1.symm

/-! ### What is left -/

/-- The pass leaves the second letter of a marker in front, if a marker closes there. -/
theorem second_prefix_erase_iff (l : List α) : [r.second] <+: r.erase l ↔ r.Closes l := by
  induction l using r.induction with
  | nil => exact iff_of_false (by simp) r.not_closes_nil
  | marker l ih => rw [erase_marker, ih, closes_marker]
  | drop c l hc ih => rw [r.erase_drop hc, ih, r.closes_drop hc]
  | keep c l hc hl ih =>
    rw [r.erase_keep hc hl, r.closes_keep hc hl, List.cons_prefix_cons]
    exact ⟨fun h => h.1.symm, fun h => ⟨h.symm, List.nil_prefix⟩⟩

/-- **The pass leaves a marker just where one is split.** -/
theorem infix_erase_iff (l : List α) : [r.first, r.second] <:+: r.erase l ↔ r.Split l := by
  induction l using r.induction with
  | nil => exact iff_of_false (by simp) r.not_split_nil
  | marker l ih =>
    rw [erase_marker, ih, split_cons, split_cons]
    constructor
    · exact fun h => .inr (.inr h)
    · rintro (⟨-, hsecond, -⟩ | ⟨hfirst, -⟩ | h)
      · exact absurd (List.cons_prefix_cons.2 ⟨rfl, List.nil_prefix⟩) hsecond
      · exact absurd hfirst.symm r.first_ne_second
      · exact h
  | drop c l hc ih =>
    rw [r.erase_drop hc, ih, split_cons]
    exact ⟨.inr, fun h => h.resolve_left fun h => r.ne_first_of_drops hc h.1.symm⟩
  | keep c l hc hl ih =>
    rw [r.erase_keep hc hl, List.infix_cons_iff, List.cons_prefix_cons, r.second_prefix_erase_iff, ih,
      split_cons]
    constructor
    · rintro (⟨rfl, hcloses⟩ | h)
      · exact .inl ⟨rfl, hl rfl, hcloses⟩
      · exact .inr h
    · rintro (⟨hc, -, hcloses⟩ | h)
      · exact .inl ⟨hc.symm, hcloses⟩
      · exact .inr h

/-- What is left has no dropped letter. -/
theorem drops_of_mem_erase {l : List α} (h : c ∈ r.erase l) : r.drops c = false := by
  induction l using r.induction with
  | nil => cases h
  | marker l ih => exact ih (r.erase_marker l ▸ h)
  | drop d l hd ih => exact ih (r.erase_drop hd l ▸ h)
  | keep d l hd hl ih =>
    rw [r.erase_keep hd hl] at h
    rcases List.mem_cons.1 h with rfl | h
    · exact hd
    · exact ih h

theorem length_erase_le (l : List α) : (r.erase l).length ≤ l.length := by
  induction l using r.induction with
  | nil => exact Nat.le_refl 0
  | marker l ih =>
    rw [erase_marker]
    exact ih.trans (Nat.le_add_right _ 2)
  | drop c l hc ih =>
    rw [r.erase_drop hc]
    exact ih.trans (Nat.le_succ _)
  | keep c l hc hl ih =>
    rw [r.erase_keep hc hl]
    exact Nat.succ_le_succ ih

/-- **What the pass leaves alone** is what has no marker and no dropped letter. -/
theorem erase_eq_self_iff (l : List α) :
    r.erase l = l ↔ ¬ [r.first, r.second] <:+: l ∧ ∀ c ∈ l, r.drops c = false := by
  constructor
  · intro h
    refine ⟨?_, fun c hc => r.drops_of_mem_erase (h ▸ hc)⟩
    induction l using r.induction with
    | nil => simp
    | marker l _ =>
      have hlen := r.length_erase_le l
      rw [← r.erase_marker, h, List.length_cons, List.length_cons] at hlen
      omega
    | drop c l hc _ =>
      have hlen := r.length_erase_le l
      rw [← r.erase_drop hc, h, List.length_cons] at hlen
      omega
    | keep c l hc hl ih =>
      rw [r.erase_keep hc hl] at h
      rw [List.infix_cons_iff, List.cons_prefix_cons]
      rintro (⟨hfirst, hsecond⟩ | hinfix)
      · exact hl hfirst.symm hsecond
      · exact ih (List.cons.inj h).2 hinfix
  · rintro ⟨hmarker, hdrops⟩
    induction l using r.induction with
    | nil => rfl
    | marker l _ => exact absurd ⟨[], l, rfl⟩ hmarker
    | drop c l hc _ => cases hc.symm.trans (hdrops c List.mem_cons_self)
    | keep c l hc hl ih =>
      rw [r.erase_keep hc hl, ih (fun h => hmarker (List.infix_cons h))
        fun d hd => hdrops d (List.mem_cons_of_mem _ hd)]

/-- A second pass finds something just when the first one has left a marker. -/
theorem erase_erase_iff (l : List α) : r.erase (r.erase l) = r.erase l ↔ ¬ r.Split l := by
  rw [erase_eq_self_iff, infix_erase_iff]
  exact ⟨fun h => h.1, fun h => ⟨h, fun _ hc => r.drops_of_mem_erase hc⟩⟩

end Erase

end Rule

end Erasure
