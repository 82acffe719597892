import Mathlib.Algebra.Order.Group.Nat
import Mathlib.Data.List.DropRight
import Mathlib.Order.Lattice
import Mathlib.Order.Monotone.Defs
import Mathlib.Tactic.Common
import Mathlib.Tactic.Ring

/-!
# Numbers in positional notation, in lexicographic order

Over any ordered alphabet with the digits of a base:

* numbers of one width are ordered as words as they are as numbers (`padded_lt_iff`);
* the same number without the zeros at its end (`trimmed`), as a fraction is written, and with a
  symbol above all digits behind it, is ordered as a word in the same way, unless one of the two is
  the other with its last digits cut off; then it is the other way round (`trimmed_lt_iff`).
-/

namespace Positional

variable {α : Type*} [LinearOrder α]

/-! ### Words -/

theorem lt_append_iff (l r r' : List α) : l ++ r < l ++ r' ↔ r < r' := by
  induction l with
  | nil => rfl
  | cons c l ih =>
    rw [List.cons_append, List.cons_append, List.cons_lt_cons_iff, ih]
    simp

/-- Words that start with words of one length. -/
theorem append_lt_append_iff {l l' : List α} (h : l.length = l'.length) (r r' : List α) :
    l ++ r < l' ++ r' ↔ l < l' ∨ l = l' ∧ r < r' := by
  induction l generalizing l' with
  | nil =>
    rw [List.eq_nil_of_length_eq_zero h.symm]
    simp
  | cons c l ih =>
    cases l' with
    | nil => cases h
    | cons c' l' =>
      rw [List.cons_append, List.cons_append, List.cons_lt_cons_iff, List.cons_lt_cons_iff,
        ih (Nat.succ.inj h), List.cons.injEq]
      tauto

/-- Words that start with words of which none is a prefix of the other. -/
theorem append_lt_append_iff_of_incomparable {l l' : List α} (h : ¬ l <+: l') (h' : ¬ l' <+: l)
    (r r' : List α) : l ++ r < l' ++ r' ↔ l < l' := by
  induction l generalizing l' with
  | nil => exact absurd List.nil_prefix h
  | cons c l ih =>
    cases l' with
    | nil => exact absurd List.nil_prefix h'
    | cons c' l' =>
      rw [List.cons_append, List.cons_append, List.cons_lt_cons_iff, List.cons_lt_cons_iff]
      by_cases hc : c = c'
      · subst hc
        rw [List.cons_prefix_cons, and_iff_right rfl] at h h'
        rw [ih h h']
      · simp [hc]

/-! ### Numbers of one width -/

section Digits

variable (digit : ℕ → α) (b : ℕ)

/-- A number with `w` digits, zeros in front. -/
def padded : ℕ → ℕ → List α
  | 0, _ => []
  | w + 1, n => padded w (n / b) ++ [digit (n % b)]

/-- `m` is `n` with some of its last `w` digits cut off. -/
def Cut (b w m n : ℕ) : Prop := ∃ k ≤ w, m = n / b ^ k * b ^ k

instance (b w m n : ℕ) : Decidable (Cut b w m n) :=
  decidable_of_iff ((List.range (w + 1)).any fun k => m = n / b ^ k * b ^ k) (by
    simp only [Cut, List.any_eq_true, List.mem_range, decide_eq_true_eq, Nat.lt_succ_iff])

theorem Cut.lt {b w m n : ℕ} (h : Cut b w m n) (hne : m ≠ n) : m < n := by
  obtain ⟨k, -, hcut⟩ := h
  have := Nat.div_mul_le_self n (b ^ k)
  omega

/-- The same without the zeros at its end. -/
def trimmed (w n : ℕ) : List α := (padded digit b w n).rdropWhile (· = digit 0)

variable {digit b}

omit [LinearOrder α] in
@[simp] theorem length_padded (w n : ℕ) : (padded digit b w n).length = w := by
  induction w generalizing n with
  | zero => rfl
  | succ w ih => rw [padded, List.length_append, ih, List.length_singleton]

omit [LinearOrder α] in
theorem mem_padded (hb : 0 < b) {w n : ℕ} {c : α} (h : c ∈ padded digit b w n) :
    ∃ d < b, c = digit d := by
  induction w generalizing n with
  | zero => cases h
  | succ w ih =>
    rcases List.mem_append.1 h with h | h
    · exact ih h
    · exact ⟨n % b, Nat.mod_lt _ hb, List.mem_singleton.1 h⟩

omit [LinearOrder α] in
/-- The first digits of a number. -/
theorem take_padded {w j : ℕ} (h : j ≤ w) (n : ℕ) :
    (padded digit b w n).take j = padded digit b j (n / b ^ (w - j)) := by
  induction w generalizing n with
  | zero =>
    rw [Nat.le_zero.1 h]
    rfl
  | succ w ih =>
    rcases Nat.lt_or_ge w j with hj | hj
    · obtain rfl : j = w + 1 := by omega
      rw [List.take_of_length_le (by simp), Nat.sub_self, pow_zero, Nat.div_one]
    · rw [padded, List.take_append_of_le_length (by simpa using hj), ih hj,
        Nat.div_div_eq_div_mul, ← pow_succ', Nat.succ_sub hj]

variable (hdigit : StrictMonoOn digit (Set.Iio b))

include hdigit

theorem digit_lt_iff {d e : ℕ} (hd : d < b) (he : e < b) : digit d < digit e ↔ d < e :=
  hdigit.lt_iff_lt hd he

theorem digit_inj {d e : ℕ} (hd : d < b) (he : e < b) : digit d = digit e ↔ d = e :=
  hdigit.injOn.eq_iff hd he

theorem padded_inj {w m n : ℕ} (hm : m < b ^ w) (hn : n < b ^ w) :
    padded digit b w m = padded digit b w n ↔ m = n := by
  constructor
  · intro heq
    induction w generalizing m n with
    | zero =>
      rw [pow_zero] at hm hn
      omega
    | succ w ih =>
      rw [pow_succ] at hm hn
      have hb : 0 < b := Nat.pos_of_mul_pos_left (Nat.zero_lt_of_lt hm)
      obtain ⟨hfront, hlast⟩ := List.append_inj' heq rfl
      have hdiv := ih (Nat.div_lt_of_lt_mul (by rwa [Nat.mul_comm]))
        (Nat.div_lt_of_lt_mul (by rwa [Nat.mul_comm])) hfront
      have hmod := (digit_inj hdigit (Nat.mod_lt m hb) (Nat.mod_lt n hb)).1 (List.cons.inj hlast).1
      rw [← Nat.div_add_mod m b, ← Nat.div_add_mod n b, hdiv, hmod]
  · exact fun heq => by rw [heq]

/-- Numbers of one width are ordered as words as they are as numbers. -/
theorem padded_lt_iff {w m n : ℕ} (hm : m < b ^ w) (hn : n < b ^ w) :
    padded digit b w m < padded digit b w n ↔ m < n := by
  induction w generalizing m n with
  | zero =>
    rw [pow_zero] at hm hn
    constructor
    · intro h
      simp [padded] at h
    · omega
  | succ w ih =>
    rw [pow_succ] at hm hn
    have hb : 0 < b := Nat.pos_of_mul_pos_left (Nat.zero_lt_of_lt hm)
    have hm' : m / b < b ^ w := Nat.div_lt_of_lt_mul (by rwa [Nat.mul_comm])
    have hn' : n / b < b ^ w := Nat.div_lt_of_lt_mul (by rwa [Nat.mul_comm])
    have hlast : [digit (m % b)] < [digit (n % b)] ↔ m % b < n % b := by
      rw [List.cons_lt_cons_iff, digit_lt_iff hdigit (Nat.mod_lt _ hb) (Nat.mod_lt _ hb)]
      simp
    rw [padded, padded, append_lt_append_iff (by simp), ih hm' hn', padded_inj hdigit hm' hn', hlast]
    have hmsum := Nat.div_add_mod m b
    have hnsum := Nat.div_add_mod n b
    constructor
    · rintro (hlt | ⟨heq, hlt⟩)
      · exact lt_of_not_ge fun hle => absurd (Nat.div_le_div_right hle) (Nat.not_le.2 hlt)
      · rw [heq] at hmsum
        omega
    · intro hlt
      rcases (Nat.div_le_div_right (c := b) hlt.le).lt_or_eq with hdivlt | hdiveq
      · exact Or.inl hdivlt
      · rw [hdiveq] at hmsum
        exact Or.inr ⟨hdiveq, by omega⟩

/-- Words that start with numbers of one width. -/
theorem padded_append_lt_iff {w m n : ℕ} (hm : m < b ^ w) (hn : n < b ^ w) (r r' : List α) :
    padded digit b w m ++ r < padded digit b w n ++ r' ↔ m < n ∨ m = n ∧ r < r' := by
  rw [append_lt_append_iff (by simp), padded_lt_iff hdigit hm hn, padded_inj hdigit hm hn]

/-! ### Without the zeros at the end -/

/-- How many digits are left, and what they say. -/
theorem exists_trimmed (hb : 0 < b) (w n : ℕ) :
    ∃ j ≤ w, trimmed digit b w n = padded digit b j (n / b ^ (w - j)) ∧
      ∀ k ≤ w, b ^ k ∣ n ↔ k ≤ w - j := by
  induction w generalizing n with
  | zero =>
    refine ⟨0, Nat.le_refl 0, by simp [trimmed, padded], ?_⟩
    intro k hk
    simp [Nat.le_zero.1 hk]
  | succ w ih =>
    by_cases hzero : n % b = 0
    · -- the last digit is cut off
      obtain ⟨j, hj, htrim, hdvd⟩ := ih (n / b)
      refine ⟨j, by omega, ?_, ?_⟩
      · rw [trimmed, padded, hzero, List.rdropWhile_concat_pos _ _ _ (by simp)]
        show trimmed digit b w (n / b) = _
        rw [htrim, Nat.div_div_eq_div_mul, ← pow_succ', Nat.succ_sub hj]
      · intro k hk
        cases k with
        | zero => simp
        | succ k =>
          have hn : n = b * (n / b) := (Nat.mul_div_cancel' (Nat.dvd_of_mod_eq_zero hzero)).symm
          have hiff : b ^ (k + 1) ∣ n ↔ b ^ k ∣ n / b := by
            conv_lhs => rw [hn, pow_succ', Nat.mul_dvd_mul_iff_left hb]
          rw [hiff, hdvd k (by omega)]
          omega
    · refine ⟨w + 1, Nat.le_refl _, ?_, ?_⟩
      · rw [trimmed, Nat.sub_self, pow_zero, Nat.div_one, padded,
          List.rdropWhile_concat_neg]
        simp only [decide_eq_true_eq]
        rwa [digit_inj hdigit (Nat.mod_lt _ hb) hb]
      · intro k hk
        cases k with
        | zero => simp
        | succ k =>
          have hnot : ¬ b ^ (k + 1) ∣ n := by
            intro hdvd
            rw [pow_succ'] at hdvd
            exact hzero (Nat.mod_eq_zero_of_dvd (dvd_of_mul_right_dvd hdvd))
          simp [hnot]

/-- What is left of one number is a prefix of what is left of another exactly when the one is the other
with its last digits cut off. -/
theorem trimmed_prefix_iff (hb : 0 < b) {w m n : ℕ} (hm : m < b ^ w) (hn : n < b ^ w) :
    trimmed digit b w m <+: trimmed digit b w n ↔ Cut b w m n := by
  obtain ⟨j, hj, hleft, hdvd⟩ := exists_trimmed hdigit hb w m
  obtain ⟨i, hi, hleft', hdvd'⟩ := exists_trimmed hdigit hb w n
  have hbound : ∀ {k e}, e ≤ w → k < b ^ w → k / b ^ (w - e) < b ^ e := by
    intro k e he hk
    refine Nat.div_lt_of_lt_mul ?_
    rwa [← pow_add, Nat.sub_add_cancel he]
  -- the digits of `m` are the first ones of `n` when the numbers agree up to there
  have hagree : j ≤ i → (padded digit b j (m / b ^ (w - j)) <+: padded digit b i (n / b ^ (w - i)) ↔
      m / b ^ (w - j) = n / b ^ (w - j)) := by
    intro hji
    have hpow : n / b ^ (w - i) / b ^ (i - j) = n / b ^ (w - j) := by
      rw [Nat.div_div_eq_div_mul, ← pow_add]
      congr 2
      omega
    rw [List.prefix_iff_eq_take, length_padded, take_padded hji, hpow,
      padded_inj hdigit (hbound hj hm) (hbound hj hn)]
  rw [hleft, hleft']
  constructor
  · intro hpre
    have hji : j ≤ i := by simpa using hpre.length_le
    refine ⟨w - j, Nat.sub_le _ _, ?_⟩
    rw [← (hagree hji).1 hpre, Nat.div_mul_cancel ((hdvd _ (Nat.sub_le _ _)).2 (Nat.le_refl _))]
  · rintro ⟨k, hk, hcut⟩
    by_cases heq : m = n
    · subst heq
      have hself : padded digit b j (m / b ^ (w - j)) = padded digit b i (m / b ^ (w - i)) :=
        hleft.symm.trans hleft'
      exact hself ▸ List.prefix_refl _
    · have hmk : k ≤ w - j := (hdvd k hk).1 ⟨n / b ^ k, by rw [hcut, Nat.mul_comm]⟩
      have hnk : ¬ k ≤ w - i := by
        intro hle
        rw [Nat.div_mul_cancel ((hdvd' k hk).2 hle)] at hcut
        exact heq hcut
      refine (hagree (by omega)).2 ?_
      obtain ⟨e, he⟩ : ∃ e, w - j = k + e := ⟨w - j - k, by omega⟩
      rw [he, pow_add, ← Nat.div_div_eq_div_mul, ← Nat.div_div_eq_div_mul]
      conv_lhs => rw [hcut, Nat.mul_div_cancel _ (Nat.pow_pos hb)]

theorem trimmed_inj (hb : 0 < b) {w m n : ℕ} (hm : m < b ^ w) (hn : n < b ^ w) :
    trimmed digit b w m = trimmed digit b w n ↔ m = n := by
  constructor
  · intro heq
    have hpre : trimmed digit b w m <+: trimmed digit b w n := heq ▸ List.prefix_refl _
    have hpre' : trimmed digit b w n <+: trimmed digit b w m := heq ▸ List.prefix_refl _
    obtain ⟨k, -, hmn⟩ := (trimmed_prefix_iff hdigit hb hm hn).1 hpre
    obtain ⟨l, -, hnm⟩ := (trimmed_prefix_iff hdigit hb hn hm).1 hpre'
    have hle : m ≤ n := by
      rw [hmn]
      exact Nat.div_mul_le_self _ _
    have hge : n ≤ m := by
      rw [hnm]
      exact Nat.div_mul_le_self _ _
    exact hle.antisymm hge
  · exact fun heq => by rw [heq]

/-- A number that is cut off is written before a symbol above all digits, and the other one goes on. -/
theorem lt_of_cut (hb : 0 < b) {z : α} (hz : ∀ d < b, digit d < z) {w m n : ℕ} (hm : m < b ^ w)
    (hn : n < b ^ w) (hne : m ≠ n) (h : Cut b w m n) (r r' : List α) :
    trimmed digit b w n ++ z :: r < trimmed digit b w m ++ z :: r' := by
  obtain ⟨rest, hrest⟩ := (trimmed_prefix_iff hdigit hb hm hn).2 h
  cases rest with
  | nil =>
    rw [List.append_nil, trimmed_inj hdigit hb hm hn] at hrest
    exact absurd hrest hne
  | cons c rest =>
    have hc : c ∈ padded digit b w n := by
      refine (List.rdropWhile_prefix (fun c => decide (c = digit 0)) _).subset ?_
      show c ∈ trimmed digit b w n
      rw [← hrest]
      simp
    obtain ⟨d, hd, rfl⟩ := mem_padded hb hc
    rw [← hrest, List.append_assoc, lt_append_iff, List.cons_append, List.cons_lt_cons_iff]
    exact Or.inl (hz d hd)

/-- **Fractions in lexicographic order**, with a symbol above all digits behind them. -/
theorem trimmed_lt_iff (hb : 0 < b) {z : α} (hz : ∀ d < b, digit d < z) {w m n : ℕ}
    (hm : m < b ^ w) (hn : n < b ^ w) (hne : m ≠ n) (r r' : List α) :
    trimmed digit b w m ++ z :: r < trimmed digit b w n ++ z :: r' ↔
      if Cut b w m n ∨ Cut b w n m then n < m else m < n := by
  have hasymm : ∀ l l' : List α, l < l' → ¬ l' < l := fun l l' h h' => List.lt_irrefl _ (List.lt_trans h h')
  by_cases hmn : Cut b w m n
  · have hle : m < n := hmn.lt hne
    have hgt := lt_of_cut hdigit hb hz hm hn hne hmn r' r
    rw [if_pos (Or.inl hmn)]
    exact ⟨fun h => absurd h (hasymm _ _ hgt), fun h => absurd h (Nat.not_lt.2 hle.le)⟩
  · by_cases hnm : Cut b w n m
    · have hlt : n < m := hnm.lt hne.symm
      rw [if_pos (Or.inr hnm)]
      exact ⟨fun _ => hlt, fun _ => lt_of_cut hdigit hb hz hn hm hne.symm hnm r r'⟩
    · rw [if_neg (by simp [hmn, hnm])]
      have hnot := mt (trimmed_prefix_iff hdigit hb hm hn).1 hmn
      have hnot' := mt (trimmed_prefix_iff hdigit hb hn hm).1 hnm
      obtain ⟨zeros, hzeros⟩ := List.rdropWhile_prefix (fun c => decide (c = digit 0))
        (padded digit b w m)
      obtain ⟨zeros', hzeros'⟩ := List.rdropWhile_prefix (fun c => decide (c = digit 0))
        (padded digit b w n)
      rw [append_lt_append_iff_of_incomparable hnot hnot', ← padded_lt_iff hdigit hm hn, ← hzeros,
        ← hzeros']
      exact (append_lt_append_iff_of_incomparable hnot hnot' _ _).symm

end Digits

end Positional
