import OoBot.Lib.Scan

/-!
# The shortest prefix with a property

`firstPrefix P l` is the shortest prefix of `l` that satisfies `P` (`firstPrefix_eq_some_iff`).  It is
found before more is appended (`firstPrefix_append`), and the shortest prefix for one of two properties
is the shorter of the two (`firstPrefix_or`).

A leftmost search for a needle finds the shortest prefix that the needle ends
(`firstPrefix_needle`).
-/

namespace FirstPrefix

variable {α β : Type*}

/-- The shortest prefix with the property. -/
def firstPrefix (P : List α → Bool) : List α → Option (List α)
  | [] => if P [] then some [] else none
  | c :: l => if P [] then some [] else (firstPrefix (fun q => P (c :: q)) l).map (c :: ·)

variable {P Q : List α → Bool} {l p r : List α}

theorem firstPrefix_eq_none_iff : firstPrefix P l = none ↔ ∀ q, q <+: l → P q = false := by
  induction l generalizing P with
  | nil =>
    unfold firstPrefix
    split_ifs with h
    · simp [h]
    · simp [h]
  | cons c l ih =>
    unfold firstPrefix
    split_ifs with h
    · exact iff_of_false nofun fun hall => by simp [hall [] List.nil_prefix] at h
    · rw [Option.map_eq_none_iff, ih]
      constructor
      · intro hall q hq
        rcases List.prefix_cons_iff.1 hq with rfl | ⟨t, rfl, ht⟩
        · exact Bool.eq_false_iff.2 h
        · exact hall t ht
      · intro hall q hq
        exact hall (c :: q) ((List.prefix_cons_inj c).2 hq)

/-- What `firstPrefix` finds: a prefix with the property, and none that is shorter. -/
theorem firstPrefix_eq_some_iff : firstPrefix P l = some p ↔
    p <+: l ∧ P p = true ∧ ∀ q, q <+: l → q.length < p.length → P q = false := by
  induction l generalizing P p with
  | nil =>
    unfold firstPrefix
    split_ifs with h
    · constructor
      · rintro ⟨⟩
        exact ⟨List.prefix_rfl, h, fun q _ hlt => absurd hlt (Nat.not_lt_zero _)⟩
      · rintro ⟨hp, -, -⟩
        rw [List.prefix_nil.1 hp]
    · refine iff_of_false nofun ?_
      rintro ⟨hp, hP, -⟩
      rw [List.prefix_nil.1 hp] at hP
      exact h hP
  | cons c l ih =>
    unfold firstPrefix
    split_ifs with h
    · constructor
      · rintro ⟨⟩
        exact ⟨List.nil_prefix, h, fun q _ hlt => absurd hlt (Nat.not_lt_zero _)⟩
      · rintro ⟨-, -, hmin⟩
        cases p with
        | nil => rfl
        | cons d p =>
          rw [hmin [] List.nil_prefix (Nat.succ_pos _)] at h
          cases h
    · rw [Option.map_eq_some_iff]
      constructor
      · rintro ⟨q, hq, rfl⟩
        obtain ⟨hpre, hP, hmin⟩ := ih.1 hq
        refine ⟨(List.prefix_cons_inj c).2 hpre, hP, ?_⟩
        intro s hs hlt
        rcases List.prefix_cons_iff.1 hs with rfl | ⟨t, rfl, ht⟩
        · exact Bool.eq_false_iff.2 h
        · exact hmin t ht (Nat.lt_of_succ_lt_succ hlt)
      · rintro ⟨hpre, hP, hmin⟩
        rcases List.prefix_cons_iff.1 hpre with rfl | ⟨t, rfl, ht⟩
        · exact absurd hP h
        · refine ⟨t, ih.2 ⟨ht, hP, ?_⟩, rfl⟩
          intro q hq hlt
          exact hmin (c :: q) ((List.prefix_cons_inj c).2 hq) (Nat.succ_lt_succ hlt)

/-- It is found before more is appended. -/
theorem firstPrefix_append (h : firstPrefix P l = some p) (r : List α) :
    firstPrefix P (l ++ r) = some p := by
  obtain ⟨hpre, hP, hmin⟩ := firstPrefix_eq_some_iff.1 h
  refine firstPrefix_eq_some_iff.2 ⟨hpre.trans (List.prefix_append l r), hP, ?_⟩
  intro q hq hlt
  exact hmin q (List.prefix_of_prefix_length_le hq (List.prefix_append l r)
    (hlt.le.trans hpre.length_le)) hlt

/-- It is found in itself. -/
theorem firstPrefix_self (h : firstPrefix P l = some p) : firstPrefix P p = some p := by
  obtain ⟨hpre, hP, hmin⟩ := firstPrefix_eq_some_iff.1 h
  exact firstPrefix_eq_some_iff.2
    ⟨List.prefix_rfl, hP, fun q hq hlt => hmin q (hq.trans hpre) hlt⟩

/-- What is appended may be left out, where no prefix that reaches into it has the property. -/
theorem firstPrefix_append_eq (h : ∀ q, q <+: r → q ≠ [] → P (l ++ q) = false) :
    firstPrefix P (l ++ r) = firstPrefix P l := by
  cases hl : firstPrefix P l with
  | some p => exact firstPrefix_append hl r
  | none =>
    rw [firstPrefix_eq_none_iff] at hl ⊢
    intro q hq
    rcases le_total q.length l.length with hlen | hlen
    · exact hl q (List.prefix_of_prefix_length_le hq (List.prefix_append l r) hlen)
    · obtain ⟨s, rfl⟩ := List.prefix_of_prefix_length_le (List.prefix_append l r) hq hlen
      rcases eq_or_ne s [] with rfl | hs
      · rw [List.append_nil]
        exact hl l List.prefix_rfl
      · exact h s ((List.prefix_append_right_inj l).1 hq) hs

/-- The shortest prefix with one of two properties. -/
theorem firstPrefix_or (P Q : List α → Bool) (l : List α) :
    firstPrefix (fun q => P q || Q q) l =
      match firstPrefix P l with
      | none => firstPrefix Q l
      | some p => some ((firstPrefix Q p).getD p) := by
  cases hP : firstPrefix P l with
  | none =>
    rw [firstPrefix_eq_none_iff] at hP
    cases hQ : firstPrefix Q l with
    | none =>
      rw [firstPrefix_eq_none_iff] at hQ ⊢
      intro q hq
      rw [hP q hq, hQ q hq, Bool.or_false]
    | some p =>
      obtain ⟨hpre, hp, hmin⟩ := firstPrefix_eq_some_iff.1 hQ
      refine firstPrefix_eq_some_iff.2 ⟨hpre, by rw [hp, Bool.or_true], ?_⟩
      intro q hq hlt
      rw [hP q hq, hmin q hq hlt, Bool.or_false]
  | some p =>
    obtain ⟨hpre, hp, hmin⟩ := firstPrefix_eq_some_iff.1 hP
    show firstPrefix (fun q => P q || Q q) l = some ((firstPrefix Q p).getD p)
    cases hQ : firstPrefix Q p with
    | none =>
      rw [firstPrefix_eq_none_iff] at hQ
      refine firstPrefix_eq_some_iff.2 ⟨hpre, by rw [Option.getD_none, hp, Bool.true_or], ?_⟩
      intro q hq hlt
      have hqp := List.prefix_of_prefix_length_le hq hpre hlt.le
      rw [hmin q hq hlt, hQ q hqp, Bool.or_false]
    | some q =>
      obtain ⟨hqpre, hq, hqmin⟩ := firstPrefix_eq_some_iff.1 hQ
      refine firstPrefix_eq_some_iff.2
        ⟨hqpre.trans hpre, by rw [Option.getD_some, hq, Bool.or_true], ?_⟩
      intro s hs hlt
      rw [Option.getD_some] at hlt
      have hsp : s.length < p.length := lt_of_lt_of_le hlt hqpre.length_le
      rw [hmin s hs hsp, hqmin s (List.prefix_of_prefix_length_le hs hpre hsp.le) hlt,
        Bool.or_false]

/-- The leftmost occurrence of a needle, in a list that is looked at through `f`, ends the shortest
prefix that the needle ends. -/
theorem firstPrefix_needle [DecidableEq β] (f : α → β) (needle : List β)
    (l : List α) : firstPrefix (fun q => decide (needle <:+ q.map f)) l =
      (Scan.findSub needle (l.map f)).map fun pos => l.take (pos + needle.length) := by
  cases hfind : Scan.findSub needle (l.map f) with
  | none =>
    refine firstPrefix_eq_none_iff.2 fun q hq => decide_eq_false fun hend => ?_
    have hin : needle <:+: l.map f := hend.isInfix.trans (hq.map f).isInfix
    rw [← Scan.findSub_isSome_iff, hfind] at hin
    cases hin
  | some pos =>
    refine firstPrefix_eq_some_iff.2 ⟨List.take_prefix _ l, decide_eq_true ?_, ?_⟩
    · rw [List.map_take, Scan.take_of_findSub hfind]
      exact List.suffix_append _ _
    · intro q hq hlt
      refine decide_eq_false fun hend => ?_
      obtain ⟨s, hs⟩ := hend
      obtain ⟨t, ht⟩ := hq.map f
      have hlen : s.length + needle.length = q.length := by
        rw [← List.length_append, hs, List.length_map]
      have hbefore : s.length < pos := by
        rw [List.length_take] at hlt
        omega
      refine Scan.not_prefix_of_findSub hfind hbefore ?_
      rw [← ht, ← hs, List.append_assoc, List.drop_left]
      exact List.prefix_append _ _

end FirstPrefix
