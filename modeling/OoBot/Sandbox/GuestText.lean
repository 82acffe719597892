import OoBot.Sandbox.GuestLoop

/-!
# The scan of the guest, character by character

The guest walks through the bytes of a message.  A UTF-8 continuation byte neither is an ASCII `o`
nor starts a doubled kana, so the scan finds its hits at character boundaries only, and it can be
read off the characters (`byteSteps_utf8`).  Its hits are those of `countOoSequences`.
-/

namespace OoBot.Guest

/-- The misses on `w` bytes when `after` bytes follow them: a byte with at least five bytes after it
is compared with both doubled kana, a byte with fewer is not, and the last byte of a message is not
looked at. -/
def missSteps : ℕ → ℕ → List ScanStep
  | 0, _ => []
  | w + 1, after =>
      (if 5 ≤ w + after then [.miss] else if 1 ≤ w + after then [.nearMiss] else []) ++
        missSteps w after

/-- The scan through the characters that are left. -/
def textSteps : Text → List ScanStep
  | c :: d :: s =>
      if OoBot.isAsciiO c && OoBot.isAsciiO d then .ascii :: textSteps s
      else if c == 'お' && d == 'お' then .hiragana :: textSteps s
      else if c == 'オ' && d == 'オ' then .katakana :: textSteps s
      else missSteps c.utf8Size (utf8Len (d :: s)) ++ textSteps (d :: s)
  | [c] => missSteps c.utf8Size 0
  | [] => []

theorem scanHits_missSteps (w after : ℕ) : scanHits (missSteps w after) = 0 := by
  induction w with
  | zero => rfl
  | succ w ih =>
    unfold missSteps
    split_ifs <;> simp [ih, ScanStep.hits]

/-- The scan counts what `countOoSequences` counts. -/
theorem scanHits_textSteps (s : Text) : scanHits (textSteps s) = countOoSequences s := by
  induction s using textSteps.induct with
  | case1 c d s h ih =>
    simp only [textSteps, h, if_true, scanHits_cons, ih, countOoSequences, ooHit, Bool.or_true,
      ScanStep.hits]
    omega
  | case2 c d s h₁ h₂ ih =>
    simp only [textSteps, h₁, h₂, if_true, countOoSequences, ooHit, Bool.true_or]
    simp only [Bool.false_eq_true, if_false, scanHits_cons, ih, ScanStep.hits]
    omega
  | case3 c d s h₁ h₂ h₃ ih =>
    simp only [textSteps, h₁, h₂, h₃, countOoSequences, ooHit, Bool.or_true, Bool.true_or, if_true,
      Bool.false_eq_true, if_false, scanHits_cons, ih, ScanStep.hits]
    omega
  | case4 c d s h₁ h₂ h₃ ih =>
    simp only [textSteps, h₁, h₂, h₃, countOoSequences, ooHit, Bool.or_self, Bool.false_eq_true,
      if_false, scanHits_append, scanHits_missSteps, ih, Nat.zero_add]
  | case5 c => exact scanHits_missSteps _ _
  | case6 => rfl

/-! ### Bytes at which nothing starts -/

/-- No round that starts at the first of these bytes finds anything. -/
def NoHit (l : List UInt8) : Prop :=
  (∀ x y s, l = x :: y :: s → (isByteO x && isByteO y) = false) ∧
    ¬ hiraganaBytes <+: l ∧ ¬ katakanaBytes <+: l

theorem byteSteps_of_noHit {x : UInt8} {r : List UInt8} (h : NoHit (x :: r)) :
    byteSteps (x :: r) = missSteps 1 r.length ++ byteSteps r := by
  obtain ⟨ho, hh, hk⟩ := h
  cases r with
  | nil => simp [byteSteps, missSteps]
  | cons y s =>
    have hs : scanStep x y s = if 4 ≤ s.length then .miss else .nearMiss := by
      rw [scanStep, ho x y s rfl, if_neg hh, if_neg hk]
      rfl
    rw [byteSteps, hs]
    simp only [missSteps, List.length_cons, List.append_nil]
    by_cases h₄ : 4 ≤ s.length
    · rw [if_pos h₄, if_pos (by omega)]
      rfl
    · rw [if_neg h₄, if_neg (by omega), if_pos (by omega)]
      rfl

theorem missSteps_add (v w after : ℕ) :
    missSteps (v + w) after = missSteps v (w + after) ++ missSteps w after := by
  induction v with
  | zero => simp [missSteps]
  | succ v ih =>
    rw [Nat.add_right_comm, missSteps, missSteps, ih, List.append_assoc, Nat.add_assoc]

/-- A continuation byte starts no hit. -/
theorem noHit_of_isCont {x : UInt8} {r : List UInt8} (hx : isCont x = true) : NoHit (x :: r) := by
  have hx' : 128 ≤ x.toNat ∧ x.toNat < 192 := by
    simpa [isCont, UInt8.le_iff_toNat_le, UInt8.lt_iff_toNat_lt] using hx
  refine ⟨?_, ?_, ?_⟩
  · rintro x' y s h
    cases h
    have : isByteO x = false := by
      simp only [isByteO, Bool.or_eq_false_iff, beq_eq_false_iff_ne]
      constructor <;> rintro rfl <;> revert hx' <;> decide
    rw [this, Bool.false_and]
  all_goals
    intro h
    obtain ⟨rfl, -⟩ := List.cons_prefix_cons.1 h
    revert hx'
    decide

/-- The scan passes through the rest of a character byte by byte. -/
theorem byteSteps_cont {tl r : List UInt8} (h : ∀ x ∈ tl, isCont x = true) :
    byteSteps (tl ++ r) = missSteps tl.length r.length ++ byteSteps r := by
  induction tl with
  | nil => rfl
  | cons x tl ih =>
    have hx := h x List.mem_cons_self
    have ih' := ih fun y hy => h y (List.mem_cons_of_mem x hy)
    rw [List.cons_append, byteSteps_of_noHit (noHit_of_isCont hx), ih', ← List.append_assoc,
      List.length_append, List.length_cons, Nat.add_comm tl.length 1, missSteps_add]

/-- The bytes of a character at which nothing starts. -/
theorem byteSteps_char {c : Char} {s : Text} (h : NoHit (utf8 (c :: s))) :
    byteSteps (utf8 (c :: s)) = missSteps c.utf8Size (utf8Len s) ++ byteSteps (utf8 s) := by
  rw [utf8_cons] at h ⊢
  rcases Nat.lt_or_ge c.toNat 128 with hc | hc
  · have hb := utf8EncodeChar_ascii hc
    have hw : c.utf8Size = 1 := by rw [← String.length_utf8EncodeChar, hb, List.length_singleton]
    rw [hb] at h ⊢
    rw [hw]
    exact byteSteps_of_noHit h
  · obtain ⟨b, tl, hb, -, htl⟩ := utf8EncodeChar_shape hc
    have hw : c.utf8Size = 1 + tl.length := by
      rw [← String.length_utf8EncodeChar, hb, List.length_cons, Nat.add_comm]
    rw [hb, List.cons_append] at h ⊢
    rw [hw, missSteps_add, byteSteps_of_noHit h, byteSteps_cont htl, List.append_assoc,
      List.length_append, utf8_length]

/-! ### Character boundaries -/

/-- An ASCII `o` among the bytes of a text is a character of it. -/
theorem isAsciiO_of_isByteO {s : Text} {x : UInt8} {r : List UInt8} (h : utf8 s = x :: r)
    (hx : isByteO x = true) : ∃ c s', s = c :: s' ∧ OoBot.isAsciiO c = true ∧ r = utf8 s' := by
  cases s with
  | nil => cases h
  | cons c s' =>
    rw [utf8_cons] at h
    rcases Nat.lt_or_ge c.toNat 128 with hc | hc
    · rw [utf8EncodeChar_ascii hc, List.singleton_append, List.cons.injEq] at h
      refine ⟨c, s', rfl, ?_, h.2.symm⟩
      have hn : x.toNat = c.toNat := by
        rw [← h.1, UInt8.toNat_ofNat', Nat.mod_eq_of_lt (by omega)]
      have hx' : x.toNat = 111 ∨ x.toNat = 79 := by
        rcases Bool.or_eq_true_iff.1 hx with h | h
        · exact Or.inl (congrArg UInt8.toNat (beq_iff_eq.1 h))
        · exact Or.inr (congrArg UInt8.toNat (beq_iff_eq.1 h))
      have hc' : c = 'o' ∨ c = 'O' := by
        rcases hx' with h | h
        · exact Or.inl (Char.toNat_inj.1 (by rw [← hn, h]; rfl))
        · exact Or.inr (Char.toNat_inj.1 (by rw [← hn, h]; rfl))
      simpa [OoBot.isAsciiO] using hc'
    · obtain ⟨b, tl, hb, hlead, -⟩ := utf8EncodeChar_shape hc
      rw [hb, List.cons_append, List.cons.injEq] at h
      rw [h.1] at hlead
      rcases Bool.or_eq_true_iff.1 hx with h | h <;> rw [beq_iff_eq.1 h] at hlead <;>
        exact absurd hlead (by decide)

theorem hiraganaBytes_prefix_iff (s : Text) : hiraganaBytes <+: utf8 s ↔ ['お', 'お'] <+: s := by
  rw [← utf8_prefix_iff]
  rfl

theorem katakanaBytes_prefix_iff (s : Text) : katakanaBytes <+: utf8 s ↔ ['オ', 'オ'] <+: s := by
  rw [← utf8_prefix_iff]
  rfl

/-- Where no pair of characters is a hit, no round of the guest finds anything. -/
theorem noHit_utf8 {s : Text} (h : ∀ c d s', s = c :: d :: s' → ooHit c d = false) :
    NoHit (utf8 s) := by
  refine ⟨?_, ?_, ?_⟩
  · intro x y r hb
    by_contra ho
    rw [Bool.not_eq_false, Bool.and_eq_true] at ho
    obtain ⟨c, s₁, rfl, hc, hr⟩ := isAsciiO_of_isByteO hb ho.1
    obtain ⟨d, s₂, rfl, hd, -⟩ := isAsciiO_of_isByteO hr.symm ho.2
    have := h c d s₂ rfl
    simp [ooHit, hc, hd] at this
  · rw [hiraganaBytes_prefix_iff]
    rintro ⟨s', rfl⟩
    simpa [ooHit] using h _ _ s' rfl
  · rw [katakanaBytes_prefix_iff]
    rintro ⟨s', rfl⟩
    simpa [ooHit] using h _ _ s' rfl

theorem byteSteps_ascii {x y : UInt8} {r : List UInt8} (hx : isByteO x = true)
    (hy : isByteO y = true) : byteSteps (x :: y :: r) = .ascii :: byteSteps r := by
  have hs : scanStep x y r = .ascii := by rw [scanStep, hx, hy]; rfl
  rw [byteSteps, hs]
  rfl

theorem byteSteps_hiragana (r : List UInt8) :
    byteSteps (hiraganaBytes ++ r) = .hiragana :: byteSteps r := by
  have hs : scanStep 227 129 (138 :: 227 :: 129 :: 138 :: r) = .hiragana := by
    have hh : hiraganaBytes <+: 227 :: 129 :: 138 :: 227 :: 129 :: 138 :: r :=
      List.prefix_append hiraganaBytes r
    rw [scanStep, if_neg (by decide), if_pos hh]
  show byteSteps (227 :: 129 :: 138 :: 227 :: 129 :: 138 :: r) = _
  rw [byteSteps, hs]
  rfl

theorem byteSteps_katakana (r : List UInt8) :
    byteSteps (katakanaBytes ++ r) = .katakana :: byteSteps r := by
  have hs : scanStep 227 130 (170 :: 227 :: 130 :: 170 :: r) = .katakana := by
    have hne : ¬ hiraganaBytes <+: 227 :: 130 :: 170 :: 227 :: 130 :: 170 :: r := by
      simp [hiraganaBytes, kanaBytes]
    have hk : katakanaBytes <+: 227 :: 130 :: 170 :: 227 :: 130 :: 170 :: r :=
      List.prefix_append katakanaBytes r
    rw [scanStep, if_neg (by decide), if_neg hne, if_pos hk]
  show byteSteps (227 :: 130 :: 170 :: 227 :: 130 :: 170 :: r) = _
  rw [byteSteps, hs]
  rfl

theorem utf8_of_isAsciiO {c : Char} (h : OoBot.isAsciiO c = true) :
    ∃ x, isByteO x = true ∧ ∀ s, utf8 (c :: s) = x :: utf8 s := by
  have hc : c = 'o' ∨ c = 'O' := by simpa [OoBot.isAsciiO] using h
  rcases hc with rfl | rfl
  · exact ⟨111, rfl, fun s => rfl⟩
  · exact ⟨79, rfl, fun s => rfl⟩

/-- The scan through the bytes of a text is the scan through its characters. -/
theorem byteSteps_utf8 (s : Text) : byteSteps (utf8 s) = textSteps s := by
  induction s using textSteps.induct with
  | case1 c d s h ih =>
    obtain ⟨hc, hd⟩ := Bool.and_eq_true_iff.1 h
    obtain ⟨x, hx, ex⟩ := utf8_of_isAsciiO hc
    obtain ⟨y, hy, ey⟩ := utf8_of_isAsciiO hd
    rw [ex, ey, byteSteps_ascii hx hy, ih]
    simp only [textSteps, h, if_true]
  | case2 c d s h₁ h₂ ih =>
    obtain ⟨rfl, rfl⟩ : c = 'お' ∧ d = 'お' := by simpa using h₂
    rw [show utf8 ('お' :: 'お' :: s) = hiraganaBytes ++ utf8 s from rfl, byteSteps_hiragana, ih]
    rfl
  | case3 c d s h₁ h₂ h₃ ih =>
    obtain ⟨rfl, rfl⟩ : c = 'オ' ∧ d = 'オ' := by simpa using h₃
    rw [show utf8 ('オ' :: 'オ' :: s) = katakanaBytes ++ utf8 s from rfl, byteSteps_katakana, ih]
    rfl
  | case4 c d s h₁ h₂ h₃ ih =>
    have hn : NoHit (utf8 (c :: d :: s)) := by
      refine noHit_utf8 fun c' d' s' hs => ?_
      cases hs
      simp only [ooHit, h₁, h₂, h₃, Bool.or_self]
    rw [byteSteps_char hn, ih]
    simp only [textSteps, h₁, h₂, h₃, Bool.false_eq_true, if_false]
  | case5 c =>
    have hn : NoHit (utf8 [c]) := noHit_utf8 fun c' d' s' hs => by cases hs
    rw [byteSteps_char hn]
    simp [textSteps, byteSteps]
  | case6 => simp [textSteps, byteSteps]

end OoBot.Guest
