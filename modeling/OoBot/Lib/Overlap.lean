import Mathlib.Data.List.Forall2
import OoBot.Lib.Packing

/-!
# Patterns that can overlap

A letter of a pattern stands for some letters of a text; an occurrence of a pattern is a span whose
letters are stood for one by one.  Two patterns can overlap when the second may start inside the first
(`CanStartIn`), or the first inside the second.

* Patterns whose occurrences meet in some text can overlap (`canStartIn_of_meet`).
* Patterns that can overlap both occur in a text that is too short for them side by side
  (`CanStartIn.exists_short`).
-/

namespace Overlap

variable {α β γ : Type*} {R : α → γ → Prop} {S : β → γ → Prop}

/-- The second pattern may start inside the first: from there on every two letters stand for a common
one, as long as both patterns last. -/
def CanStartIn (R : α → γ → Prop) (S : β → γ → Prop) (p : List α) (q : List β) : Prop :=
  ∃ i < p.length, ∀ e ∈ (p.drop i).zip q, ∃ x, R e.1 x ∧ S e.2 x

/-- Two patterns that stand for prefixes of one text agree where both last. -/
theorem agree_of_take {l : List α} {m : List β} {s : List γ} {a b : ℕ}
    (hl : List.Forall₂ R l (s.take a)) (hm : List.Forall₂ S m (s.take b)) :
    ∀ e ∈ l.zip m, ∃ x, R e.1 x ∧ S e.2 x := by
  induction l generalizing m s a b with
  | nil => simp
  | cons c l ih =>
    cases m with
    | nil => simp
    | cons d m =>
      -- both patterns have a letter left, so the text has one too
      obtain ⟨x, u, hc, hl, hu⟩ := List.forall₂_cons_left_iff.1 hl
      obtain ⟨y, v, hd, hm, hv⟩ := List.forall₂_cons_left_iff.1 hm
      cases s with
      | nil => simp at hu
      | cons z s =>
        cases a with
        | zero => simp at hu
        | succ a =>
          cases b with
          | zero => simp at hv
          | succ b =>
            rw [List.take_succ_cons, List.cons.injEq] at hu hv
            obtain ⟨rfl, rfl⟩ := hu
            obtain ⟨rfl, rfl⟩ := hv
            rw [List.zip_cons_cons, List.forall_mem_cons]
            exact ⟨⟨z, hc, hd⟩, ih hl hm⟩

/-- Occurrences that meet: the one that starts later starts inside the other. -/
theorem canStartIn_of_meet {p : List α} {q : List β} {s : List γ} {u v : Span}
    (hu : List.Forall₂ R p (u.text s)) (hv : List.Forall₂ S q (v.text s))
    (hle : u.start ≤ v.start) (hlt : v.start < u.stop) (hin : u.stop ≤ s.length) :
    CanStartIn R S p q := by
  have hlen : p.length = u.length := hu.length_eq.trans (Span.length_text hin)
  refine ⟨v.start - u.start, ?_, ?_⟩
  · unfold Span.stop at hlt
    omega
  · have hdrop := List.forall₂_drop (v.start - u.start) hu
    unfold Span.text at hdrop hv
    rw [List.drop_take, List.drop_drop, Nat.add_sub_cancel' hle] at hdrop
    exact agree_of_take hdrop hv

/-- Two patterns that agree where both last stand for prefixes of one text. -/
theorem exists_overlay {l : List α} {m : List β} (hl : ∀ c ∈ l, ∃ x, R c x)
    (hm : ∀ d ∈ m, ∃ x, S d x) (h : ∀ e ∈ l.zip m, ∃ x, R e.1 x ∧ S e.2 x) :
    ∃ s : List γ, List.Forall₂ R l (s.take l.length) ∧ List.Forall₂ S m (s.take m.length) ∧
      s.length = max l.length m.length := by
  induction l generalizing m with
  | nil =>
    induction m with
    | nil => exact ⟨[], List.Forall₂.nil, List.Forall₂.nil, rfl⟩
    | cons d m ih =>
      obtain ⟨⟨x, hx⟩, hm⟩ := List.forall_mem_cons.1 hm
      obtain ⟨s, -, hs, hlen⟩ := ih hm (by simp)
      refine ⟨x :: s, List.Forall₂.nil, List.Forall₂.cons hx hs, ?_⟩
      rw [List.length_cons, hlen]
      simp
  | cons c l ih =>
    obtain ⟨⟨x, hx⟩, hl⟩ := List.forall_mem_cons.1 hl
    cases m with
    | nil =>
      obtain ⟨s, hs, -, hlen⟩ := @ih [] hl (by simp) (by simp)
      refine ⟨x :: s, List.Forall₂.cons hx hs, List.Forall₂.nil, ?_⟩
      rw [List.length_cons, hlen]
      simp
    | cons d m =>
      obtain ⟨-, hm⟩ := List.forall_mem_cons.1 hm
      rw [List.zip_cons_cons] at h
      obtain ⟨⟨y, hc, hd⟩, h⟩ := List.forall_mem_cons.1 h
      obtain ⟨s, hs, ht, hlen⟩ := ih hl hm h
      refine ⟨y :: s, List.Forall₂.cons hc hs, List.Forall₂.cons hd ht, ?_⟩
      rw [List.length_cons, hlen, List.length_cons, List.length_cons]
      omega

/-- Patterns that can overlap both occur in a text that is too short for them side by side. -/
theorem CanStartIn.exists_short {p : List α} {q : List β} (h : CanStartIn R S p q) (hq : q ≠ [])
    (hR : ∀ c ∈ p, ∃ x, R c x) (hS : ∀ d ∈ q, ∃ x, S d x) :
    ∃ s : List γ, s.length < p.length + q.length ∧
      (∃ u : Span, u.stop ≤ s.length ∧ List.Forall₂ R p (u.text s)) ∧
      ∃ v : Span, v.stop ≤ s.length ∧ List.Forall₂ S q (v.text s) := by
  obtain ⟨i, hi, hagree⟩ := h
  obtain ⟨s, hs, ht, hlen⟩ := exists_overlay (fun c hc => hR c (List.mem_of_mem_drop hc)) hS hagree
  obtain ⟨t, hfront⟩ : ∃ t, List.Forall₂ R (p.take i) t := by
    obtain ⟨t, ht, -⟩ := @exists_overlay _ β _ R S (p.take i) []
      (fun c hc => hR c (List.mem_of_mem_take hc)) (by simp) (by simp)
    exact ⟨_, ht⟩
  have hpos := List.length_pos_iff.2 hq
  have htlen : t.length = i := by
    rw [← hfront.length_eq, List.length_take]
    omega
  rw [List.length_drop] at hs hlen
  have hsum : (t ++ s).length = i + max (p.length - i) q.length := by
    rw [List.length_append, htlen, hlen]
  refine ⟨t ++ s, by omega, ⟨⟨0, p.length⟩, ?_, ?_⟩, ⟨⟨i, q.length⟩, ?_, ?_⟩⟩
  · show 0 + p.length ≤ _
    omega
  · -- the front of the first pattern, then what the two share
    have hwhole : List.Forall₂ R (p.take i ++ p.drop i) (t ++ s.take (p.length - i)) :=
      List.rel_append hfront hs
    rw [List.take_append_drop] at hwhole
    have htext : Span.text (t ++ s) ⟨0, p.length⟩ = t ++ s.take (p.length - i) := by
      show ((t ++ s).drop 0).take p.length = _
      rw [List.drop_zero, List.take_append, htlen, List.take_of_length_le (by omega)]
    rw [htext]
    exact hwhole
  · show i + q.length ≤ _
    omega
  · have htext : Span.text (t ++ s) ⟨i, q.length⟩ = s.take q.length := by
      show ((t ++ s).drop i).take q.length = _
      rw [← htlen, List.drop_left]
    rw [htext]
    exact ht

end Overlap
