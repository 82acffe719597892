import Mathlib.Algebra.GroupWithZero.Nat
import Mathlib.Data.List.Pairwise
import Mathlib.Order.Bounds.Basic
import OoBot.Lib.Scan

/-!
# Disjoint parts of a list

A `Span` is a part of a list, given by its position.  A packing of a list is a selection of pairwise
disjoint spans whose entries are of some kind.

* No packing with the occurrences of one needle is larger than what the scan from the left counts,
  and the scan finds one of that size (`countMatches_isGreatest`).
* The sizes of the largest packings with several kinds add up to a bound for the packings with any of
  them (`Packing.length_le_sum`); a packing that reaches the bound shows every two kinds apart from
  each other (`Packing.apart_of_sum_le`), and where the kinds never meet there is one
  (`Packing.flatMap`).
-/

/-- A part of a list. -/
structure Span where
  start : ℕ
  length : ℕ
  deriving DecidableEq

namespace Span

variable {α : Type*}

/-- The position after the last one. -/
def stop (v : Span) : ℕ := v.start + v.length

/-- No position belongs to both. -/
def Disjoint (v w : Span) : Prop := v.stop ≤ w.start ∨ w.stop ≤ v.start

instance (v w : Span) : Decidable (v.Disjoint w) := inferInstanceAs (Decidable (_ ∨ _))

/-- The entries of a span. -/
def text (s : List α) (v : Span) : List α := (s.drop v.start).take v.length

/-- The span `k` positions further on. -/
def shift (k : ℕ) (v : Span) : Span := ⟨v.start + k, v.length⟩

/-- The span `k` positions further back. -/
def unshift (k : ℕ) (v : Span) : Span := ⟨v.start - k, v.length⟩

instance : Std.Symm Disjoint := ⟨fun _ _ h => Or.symm h⟩

@[simp] theorem text_shift (s : List α) (k : ℕ) (v : Span) :
    (v.shift k).text s = v.text (s.drop k) := by
  simp only [text, shift, List.drop_drop, Nat.add_comm]

theorem text_unshift (s : List α) {k : ℕ} {v : Span} (h : k ≤ v.start) :
    (v.unshift k).text (s.drop k) = v.text s := by
  simp only [text, unshift, List.drop_drop, Nat.add_sub_cancel' h]

theorem disjoint_shift {k : ℕ} {v w : Span} (h : v.Disjoint w) :
    (v.shift k).Disjoint (w.shift k) := by
  unfold Disjoint stop shift at *
  simp only
  omega

theorem disjoint_unshift {k : ℕ} {v w : Span} (hv : k ≤ v.start) (hw : k ≤ w.start)
    (h : v.Disjoint w) : (v.unshift k).Disjoint (w.unshift k) := by
  unfold Disjoint stop unshift at *
  simp only
  omega

theorem text_map {β : Type*} (f : α → β) (s : List α) (v : Span) :
    v.text (s.map f) = (v.text s).map f := by
  simp only [text, List.map_drop, List.map_take]

theorem length_text {s : List α} {v : Span} (h : v.stop ≤ s.length) :
    (v.text s).length = v.length := by
  unfold stop at h
  simp only [text, List.length_take, List.length_drop]
  omega

end Span

/-- A selection of pairwise disjoint spans whose entries are of the kind `P`. -/
structure Packing {α : Type*} (P : List α → Prop) (s : List α) (l : List Span) : Prop where
  inside : ∀ v ∈ l, v.stop ≤ s.length
  fits : ∀ v ∈ l, P (v.text s)
  disjoint : l.Pairwise Span.Disjoint

namespace Packing

variable {α : Type*} {P Q : List α → Prop} {s : List α} {l : List Span}

theorem nil : Packing P s [] := ⟨by simp, by simp, List.Pairwise.nil⟩

/-- Fewer spans, which may be of a narrower kind. -/
theorem sublist (h : Packing P s l) {m : List Span} (hm : m.Sublist l)
    (hQ : ∀ v ∈ m, P (v.text s) → Q (v.text s)) : Packing Q s m where
  inside v hv := h.inside v (hm.subset hv)
  fits v hv := hQ v hv (h.fits v (hm.subset hv))
  disjoint := h.disjoint.sublist hm

/-- Further spans in front of a packing of the rest. -/
theorem shift {k : ℕ} (h : Packing P (s.drop k) l) (hk : k ≤ s.length) :
    Packing P s (l.map (Span.shift k)) := by
  refine ⟨?_, ?_, ?_⟩
  · intro v hv
    obtain ⟨w, hw, rfl⟩ := List.mem_map.1 hv
    have hin := h.inside w hw
    rw [List.length_drop] at hin
    unfold Span.stop Span.shift at *
    simp only
    omega
  · intro v hv
    obtain ⟨w, hw, rfl⟩ := List.mem_map.1 hv
    rw [Span.text_shift]
    exact h.fits w hw
  · exact List.pairwise_map.2 (h.disjoint.imp Span.disjoint_shift)

/-- A packing that starts at `k` or later is one of the rest. -/
theorem unshift {k : ℕ} (h : Packing P s l) (hk : ∀ v ∈ l, k ≤ v.start) :
    Packing P (s.drop k) (l.map (Span.unshift k)) := by
  refine ⟨?_, ?_, ?_⟩
  · intro v hv
    obtain ⟨w, hw, rfl⟩ := List.mem_map.1 hv
    have hin := h.inside w hw
    have hstart := hk w hw
    rw [List.length_drop]
    unfold Span.stop Span.unshift at *
    simp only
    omega
  · intro v hv
    obtain ⟨w, hw, rfl⟩ := List.mem_map.1 hv
    rw [Span.text_unshift s (hk w hw)]
    exact h.fits w hw
  · refine List.pairwise_map.2 (h.disjoint.imp_of_mem ?_)
    exact fun hv hw => Span.disjoint_unshift (hk _ hv) (hk _ hw)

end Packing

namespace Scan

variable {α : Type*} [DecidableEq α]

/-! ### The spans that a scan counts -/

/-- The occurrences found from the position `pos` on, after `skip` more entries have been passed
over. -/
def spansFrom (needle : List α) : ℕ → ℕ → List α → List Span
  | _, _, [] => []
  | skip + 1, pos, _ :: s => spansFrom needle skip (pos + 1) s
  | 0, pos, c :: s =>
      if needle <+: c :: s then
        ⟨pos, needle.length⟩ :: spansFrom needle (needle.length - 1) (pos + 1) s
      else spansFrom needle 0 (pos + 1) s

/-- The occurrences that `countMatches` counts. -/
def spans (needle hay : List α) : List Span := spansFrom needle 0 0 hay

variable {needle : List α}

theorem length_spansFrom (hn : needle ≠ []) (skip pos : ℕ) (s : List α) :
    (spansFrom needle skip pos s).length = countMatches needle (s.drop skip) := by
  induction s generalizing skip pos with
  | nil => simp [spansFrom, countMatches_nil hn]
  | cons c s ih =>
    cases skip with
    | succ skip => rw [spansFrom, ih, List.drop_succ_cons]
    | zero =>
      rw [spansFrom, List.drop_zero]
      split_ifs with h
      · have hlen : (c :: s).drop needle.length = s.drop (needle.length - 1) := by
          obtain ⟨m, hm⟩ := Nat.exists_eq_succ_of_ne_zero (List.length_pos_iff.2 hn).ne'
          rw [hm, Nat.succ_sub_one, List.drop_succ_cons]
        rw [List.length_cons, ih, countMatches_of_match hn h, hlen]
      · rw [ih, List.drop_zero, countMatches_cons_of_not_match hn h]

/-- The scan finds as many spans as it counts. -/
theorem length_spans (hn : needle ≠ []) (hay : List α) :
    (spans needle hay).length = countMatches needle hay := by
  rw [spans, length_spansFrom hn, List.drop_zero]

/-- Every span of a scan starts behind what is skipped. -/
theorem le_start_of_mem_spansFrom {skip pos : ℕ} {s : List α} {v : Span}
    (h : v ∈ spansFrom needle skip pos s) : pos + skip ≤ v.start := by
  induction s generalizing skip pos with
  | nil => simp [spansFrom] at h
  | cons c s ih =>
    cases skip with
    | succ skip =>
      have := ih h
      omega
    | zero =>
      rw [spansFrom] at h
      split_ifs at h
      · rcases List.mem_cons.1 h with rfl | h
        · exact Nat.le_refl _
        · have := ih h
          omega
      · have := ih h
        omega

theorem packing_spansFrom (hn : needle ≠ []) (skip pos : ℕ) (s hay : List α)
    (hs : hay.drop pos = s) : Packing (· = needle) hay (spansFrom needle skip pos s) := by
  induction s generalizing skip pos with
  | nil => exact Packing.nil
  | cons c s ih =>
    have hrest : hay.drop (pos + 1) = s := by
      rw [← List.drop_drop, hs, List.drop_one, List.tail_cons]
    cases skip with
    | succ skip => exact ih skip (pos + 1) hrest
    | zero =>
      rw [spansFrom]
      split_ifs with h
      · have htail := ih (needle.length - 1) (pos + 1) hrest
        have hpos := List.length_pos_iff.2 hn
        have hlen : (c :: s).length = hay.length - pos := by rw [← hs, List.length_drop]
        have hle := h.length_le
        have hin : pos < hay.length := by
          rw [List.length_cons] at hlen
          omega
        refine ⟨?_, ?_, List.pairwise_cons.2 ⟨?_, htail.disjoint⟩⟩
        · rw [List.forall_mem_cons]
          refine ⟨?_, htail.inside⟩
          show pos + needle.length ≤ hay.length
          omega
        · rw [List.forall_mem_cons]
          refine ⟨?_, htail.fits⟩
          show (hay.drop pos).take needle.length = needle
          rw [hs]
          exact (List.prefix_iff_eq_take.1 h).symm
        · intro w hw
          have := le_start_of_mem_spansFrom hw
          exact Or.inl (by show pos + needle.length ≤ w.start; omega)
      · exact ih 0 (pos + 1) hrest

/-- What the scan finds is a packing. -/
theorem packing_spans (hn : needle ≠ []) (hay : List α) :
    Packing (· = needle) hay (spans needle hay) :=
  packing_spansFrom hn 0 0 hay hay List.drop_zero

/-! ### The scan is optimal -/

omit [DecidableEq α] in
/-- Of disjoint occurrences of one needle one at most starts before its length. -/
theorem length_early_le {hay : List α} {l : List Span} (h : Packing (· = needle) hay l) :
    (l.filter fun v => v.start < needle.length).length ≤ 1 := by
  have hlength : ∀ v ∈ l, v.length = needle.length := by
    intro v hv
    rw [← Span.length_text (h.inside v hv), h.fits v hv]
  have hsub : (l.filter fun v => v.start < needle.length).Sublist l := List.filter_sublist
  have hearly : ∀ v ∈ l.filter (fun v => v.start < needle.length), v.start < needle.length :=
    fun v hv => by simpa using (List.mem_filter.1 hv).2
  have hdis := h.disjoint.sublist hsub
  generalize l.filter (fun v => v.start < needle.length) = m at *
  match m with
  | [] => exact Nat.zero_le 1
  | [_] => exact Nat.le_refl 1
  | v :: w :: m =>
    -- two occurrences that both start so early would meet
    have hvw := (List.pairwise_cons.1 hdis).1 w List.mem_cons_self
    have hv := hearly v List.mem_cons_self
    have hw := hearly w (List.mem_cons_of_mem _ List.mem_cons_self)
    have hvl := hlength v (hsub.subset List.mem_cons_self)
    have hwl := hlength w (hsub.subset (List.mem_cons_of_mem _ List.mem_cons_self))
    unfold Span.Disjoint Span.stop at hvw
    omega

/-- No packing with occurrences of the needle is larger than what the scan counts. -/
theorem length_le_countMatches (hn : needle ≠ []) {hay : List α} {l : List Span}
    (h : Packing (· = needle) hay l) : l.length ≤ countMatches needle hay := by
  induction hlen : hay.length using Nat.strong_induction_on generalizing hay l with
  | _ n ih =>
    have hpos := List.length_pos_iff.2 hn
    cases hay with
    | nil =>
      cases l with
      | nil => exact Nat.zero_le _
      | cons v l =>
        have := h.fits v List.mem_cons_self
        simp [Span.text, hn.symm] at this
    | cons c s =>
      rw [List.length_cons] at hlen
      by_cases hm : needle <+: c :: s
      · -- the occurrence at the front takes the place of the first one selected
        have hlate : ∀ v ∈ l.filter (fun v => !decide (v.start < needle.length)),
            needle.length ≤ v.start :=
          fun v hv => by simpa using (List.mem_filter.1 hv).2
        have hrest : Packing (· = needle) ((c :: s).drop needle.length) _ :=
          (h.sublist List.filter_sublist fun _ _ hv => hv).unshift hlate
        have hle := ih _ (by
          rw [List.length_drop, List.length_cons]
          omega) hrest rfl
        have hearly := length_early_le h
        have hsplit := l.length_eq_length_filter_add fun v => decide (v.start < needle.length)
        rw [List.length_map] at hle
        rw [countMatches_of_match hn hm]
        omega
      · -- nothing starts at the front
        have hlate : ∀ v ∈ l, 1 ≤ v.start := by
          intro v hv
          by_contra hzero
          have hstart : v.start = 0 := by omega
          have htext := h.fits v hv
          rw [Span.text, hstart, List.drop_zero] at htext
          exact hm (htext ▸ List.take_prefix _ _)
        have hrest := h.unshift hlate
        rw [List.drop_one, List.tail_cons] at hrest
        have hle := ih s.length (by omega) hrest rfl
        rw [List.length_map] at hle
        rw [countMatches_cons_of_not_match hn hm]
        exact hle

/-- **The scan from the left is optimal.** -/
theorem countMatches_isGreatest (hn : needle ≠ []) (hay : List α) :
    IsGreatest {n | ∃ l, Packing (· = needle) hay l ∧ l.length = n} (countMatches needle hay) := by
  constructor
  · exact ⟨_, packing_spans hn hay, length_spans hn hay⟩
  · rintro n ⟨l, hl, rfl⟩
    exact length_le_countMatches hn hl

end Scan

/-! ### Several kinds -/

namespace Packing

variable {α κ : Type*} {P : κ → List α → Prop} {count : κ → ℕ} {s : List α} {k : κ} {ks : List κ}
  {l : List Span}

/-- A packing with any of several kinds: the spans of the first one, and the others. -/
theorem split [DecidablePred fun v : Span => P k (v.text s)]
    (h : Packing (fun t => ∃ k' ∈ k :: ks, P k' t) s l) :
    Packing (P k) s (l.filter fun v => decide (P k (v.text s))) ∧
      Packing (fun t => ∃ k' ∈ ks, P k' t) s (l.filter fun v => !decide (P k (v.text s))) ∧
      l.length = (l.filter fun v => decide (P k (v.text s))).length +
        (l.filter fun v => !decide (P k (v.text s))).length := by
  refine ⟨?_, ?_, l.length_eq_length_filter_add fun v => decide (P k (v.text s))⟩
  · exact h.sublist List.filter_sublist fun v hv _ => by simpa using (List.mem_filter.1 hv).2
  · refine h.sublist List.filter_sublist fun v hv hany => ?_
    have hnot : ¬ P k (v.text s) := by simpa using (List.mem_filter.1 hv).2
    obtain ⟨k', hk', hP⟩ := hany
    rcases List.mem_cons.1 hk' with rfl | hk'
    · exact absurd hP hnot
    · exact ⟨k', hk', hP⟩

/-- A packing with any of several kinds is no larger than the sum of the largest packings with
each. -/
theorem length_le_sum (hcount : ∀ k ∈ ks, ∀ l, Packing (P k) s l → l.length ≤ count k)
    (h : Packing (fun t => ∃ k ∈ ks, P k t) s l) :
    l.length ≤ (ks.map count).sum := by
  classical
  induction ks generalizing l with
  | nil =>
    cases l with
    | nil => exact Nat.le_refl 0
    | cons v l =>
      obtain ⟨k, hk, -⟩ := h.fits v List.mem_cons_self
      cases hk
  | cons k ks ih =>
    obtain ⟨hfirst, hrest, hsplit⟩ := h.split
    have h₁ := hcount k List.mem_cons_self _ hfirst
    have h₂ := ih (fun k' hk' => hcount k' (List.mem_cons_of_mem _ hk')) hrest
    rw [List.map_cons, List.sum_cons]
    omega

/-- A packing that reaches the sum shows every two kinds that occur apart from each other. -/
theorem apart_of_sum_le (hcount : ∀ k ∈ ks, ∀ l, Packing (P k) s l → l.length ≤ count k)
    (h : Packing (fun t => ∃ k ∈ ks, P k t) s l)
    (hsum : (ks.map count).sum ≤ l.length) :
    (∀ k ∈ ks, 0 < count k → ∃ v ∈ l, P k (v.text s)) ∧
      ks.Pairwise fun k k' => 0 < count k → 0 < count k' →
        ∃ v ∈ l, ∃ w ∈ l, P k (v.text s) ∧ P k' (w.text s) ∧ v.Disjoint w := by
  classical
  induction ks generalizing l with
  | nil => exact ⟨by simp, List.Pairwise.nil⟩
  | cons k ks ih =>
    obtain ⟨hfirst, hrest, hsplit⟩ := h.split
    have hcount' := fun k' hk' => hcount k' (List.mem_cons_of_mem k hk')
    have h₁ := hcount k List.mem_cons_self _ hfirst
    have h₂ := hrest.length_le_sum hcount'
    rw [List.map_cons, List.sum_cons] at hsum
    obtain ⟨hshow, hpairs⟩ := ih hcount' hrest (by omega)
    have hlift : ∀ v ∈ l.filter (fun v => !decide (P k (v.text s))), v ∈ l :=
      fun v hv => (List.mem_filter.1 hv).1
    have hone : 0 < count k → ∃ v ∈ l, P k (v.text s) := by
      intro hpos
      have hlen : 0 < (l.filter fun v => decide (P k (v.text s))).length := by omega
      obtain ⟨v, hv⟩ := List.exists_mem_of_length_pos hlen
      exact ⟨v, (List.mem_filter.1 hv).1, hfirst.fits v hv⟩
    refine ⟨List.forall_mem_cons.2 ⟨hone, ?_⟩, List.pairwise_cons.2 ⟨?_, ?_⟩⟩
    · intro k' hk' hpos
      obtain ⟨v, hv, hP⟩ := hshow k' hk' hpos
      exact ⟨v, hlift v hv, hP⟩
    · intro k' hk' hpos hpos'
      obtain ⟨v, hv, hP⟩ := hone hpos
      obtain ⟨w, hw, hP'⟩ := hshow k' hk' hpos'
      -- the second span is not of the first kind, so the two are different
      have hne : v ≠ w := by
        rintro rfl
        have : ¬ P k (v.text s) := by simpa using (List.mem_filter.1 hw).2
        exact this hP
      exact ⟨v, hv, w, hlift w hw, hP, hP',
        h.disjoint.forall hv (hlift w hw) hne⟩
    · refine hpairs.imp fun hpair hpos hpos' => ?_
      obtain ⟨v, hv, w, hw, hrest⟩ := hpair hpos hpos'
      exact ⟨v, hlift v hv, w, hlift w hw, hrest⟩

/-- Packings with kinds that do not meet make one packing. -/
theorem flatMap {found : κ → List Span} {ks : List κ}
    (h : ∀ k ∈ ks, Packing (P k) s (found k))
    (hapart : ks.Pairwise fun k k' => ∀ v ∈ found k, ∀ w ∈ found k', v.Disjoint w) :
    Packing (fun t => ∃ k ∈ ks, P k t) s (ks.flatMap found) where
  inside v hv := by
    obtain ⟨k, hk, hv⟩ := List.mem_flatMap.1 hv
    exact (h k hk).inside v hv
  fits v hv := by
    obtain ⟨k, hk, hv⟩ := List.mem_flatMap.1 hv
    exact ⟨k, hk, (h k hk).fits v hv⟩
  disjoint := List.pairwise_flatMap.2 ⟨fun k hk => (h k hk).disjoint, hapart⟩

end Packing
