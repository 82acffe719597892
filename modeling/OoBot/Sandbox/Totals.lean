import OoBot.Sandbox.Host

/-!
# The total that the guest classifies

The host caps a count at `i32::MAX`, but the guest adds its own count to it, and reads a sum beyond
`i32::MAX` as a negative number.  So `propose` answers for the sum of the two counts exactly as long as
there is no such sum (`propose_total_iff`).
-/

namespace OoBot

/-- A request without a special phrase. -/
def countRequest (content : Text) (kanjiCount : ℕ) : AnalyzerRequest := ⟨content, kanjiCount, false⟩

/-- The guest finds nothing, or the sum of the counts is an `i32`. -/
def CountsFit (content : Text) (kanjiCount : ℕ) : Prop :=
  countOoSequences content = 0 ∨ countOoSequences content + kanjiCount ≤ i32Max

instance (content : Text) (kanjiCount : ℕ) : Decidable (CountsFit content kanjiCount) := by
  unfold CountsFit
  infer_instance

/-- The fuel is enough for the request. -/
def WasmtimeSandboxAnalyzer.Fuelled (a : WasmtimeSandboxAnalyzer) (req : AnalyzerRequest) : Prop :=
  Guest.guestFuel req.content (min req.kanjiCount i32Max) req.specialPhraseHit ≤ a.cfg.fuelLimit

instance (a : WasmtimeSandboxAnalyzer) (req : AnalyzerRequest) : Decidable (a.Fuelled req) := by
  unfold WasmtimeSandboxAnalyzer.Fuelled
  infer_instance

/-- The proposal for a number of doubled letters. -/
def totalProposal (n : ℕ) : ActionProposal :=
  if n = 0 then .noop
  else if n = 1 then .reactOnce
  else .sendStamped (UInt8.ofNat (min n 255))

/-- How much a proposal does with a stamp. -/
def ActionProposal.strength : ActionProposal → ℕ
  | .reactOnce => 1
  | .sendStamped count => count.toNat
  | _ => 0

section Totals

variable {a : WasmtimeSandboxAnalyzer} {texts : WasmtimeTexts} {cfg : SandboxConfig} {content : Text}
  {k k' : ℕ}

theorem guestProposal_eq (total : ℕ) : Guest.guestProposal total false = totalProposal total := rfl

/-- Above the cap of a proposal the totals are all one. -/
theorem totalProposal_min (total : ℕ) : totalProposal (min total 255) = totalProposal total := by
  unfold totalProposal
  rw [Nat.min_assoc, Nat.min_self]
  have hzero : min total 255 = 0 ↔ total = 0 := by omega
  have hone : min total 255 = 1 ↔ total = 1 := by omega
  simp only [hzero, hone]

theorem strength_totalProposal (total : ℕ) : (totalProposal total).strength = min total 255 := by
  unfold totalProposal
  split_ifs with hzero hone
  · rw [hzero]
    rfl
  · rw [hone]
    rfl
  · show (UInt8.ofNat (min total 255)).toNat = _
    rw [UInt8.toNat_ofNat', Nat.mod_eq_of_lt (by omega)]

/-- Counts that fit are acted on as their sum, as far as it matters. -/
theorem min_actedTotal_of_fit (h : CountsFit content k) :
    min (actedTotal (countRequest content k)) 255 = min (countOoSequences content + k) 255 := by
  unfold actedTotal countRequest Guest.readTotal
  unfold CountsFit i32Max at h
  unfold i32Max
  simp only
  split_ifs <;> omega

/-- Counts that do not fit are acted on as nothing. -/
theorem actedTotal_of_not_fit (hcount : countOoSequences content < 2 ^ 31)
    (h : ¬ CountsFit content k) : actedTotal (countRequest content k) = 0 := by
  unfold actedTotal countRequest Guest.readTotal
  unfold CountsFit i32Max at h
  unfold i32Max
  simp only
  rw [if_neg (by omega)]

/-- The proposal for counts that fit is the one for their sum. -/
theorem totalProposal_of_fit (h : CountsFit content k) :
    totalProposal (actedTotal (countRequest content k)) =
      totalProposal (countOoSequences content + k) := by
  rw [← totalProposal_min, min_actedTotal_of_fit h, totalProposal_min]

/-- The answer to a request with enough fuel. -/
theorem propose_of_fuelled (ha : WasmtimeSandboxAnalyzer.new texts cfg = .ok a)
    (hlen : utf8Len content ≤ 32768) (hfuel : a.Fuelled (countRequest content k)) :
    a.propose (countRequest content k) =
      .ok (totalProposal (actedTotal (countRequest content k))) := by
  obtain ⟨hready, -⟩ := WasmtimeSandboxAnalyzer.ready_of_new ha
  rw [hready.propose_eq hlen, ← guestProposal_eq]
  exact if_pos hfuel

theorem countOoSequences_lt (hlen : utf8Len content ≤ 32768) : countOoSequences content < 2 ^ 31 := by
  have := two_mul_countOoSequences_le content
  have := length_le_utf8Len content
  omega

/-- Counts that do not fit are not nothing, so the proposal for them is another than for their sum. -/
theorem totalProposal_actedTotal_iff (hcount : countOoSequences content < 2 ^ 31) :
    totalProposal (actedTotal (countRequest content k)) =
        totalProposal (countOoSequences content + k) ↔ CountsFit content k := by
  constructor
  · intro h
    by_contra hnot
    rw [actedTotal_of_not_fit hcount hnot] at h
    have hstrength := congrArg ActionProposal.strength h
    rw [strength_totalProposal, strength_totalProposal] at hstrength
    unfold CountsFit at hnot
    omega
  · exact totalProposal_of_fit

/-- A larger count is weaker exactly where it does not fit and the smaller one does. -/
theorem strength_actedTotal_le_iff (hcount : countOoSequences content < 2 ^ 31) (hle : k ≤ k') :
    (totalProposal (actedTotal (countRequest content k))).strength ≤
        (totalProposal (actedTotal (countRequest content k'))).strength ↔
      (CountsFit content k → CountsFit content k') := by
  rw [strength_totalProposal, strength_totalProposal]
  by_cases hfit' : CountsFit content k'
  · have hfit : CountsFit content k := by
      unfold CountsFit at hfit' ⊢
      omega
    rw [min_actedTotal_of_fit hfit, min_actedTotal_of_fit hfit']
    exact iff_of_true (by omega) fun _ => hfit'
  · rw [actedTotal_of_not_fit hcount hfit']
    by_cases hfit : CountsFit content k
    · rw [min_actedTotal_of_fit hfit]
      refine iff_of_false ?_ fun h => hfit' (h hfit)
      unfold CountsFit at hfit'
      omega
    · rw [actedTotal_of_not_fit hcount hfit]
      exact iff_of_true (Nat.le_refl _) fun h => absurd h hfit

/-- **When the guest classifies the exact total**, and when a larger count is not held against the
message: as long as the counts fit. -/
theorem propose_total_iff (ha : WasmtimeSandboxAnalyzer.new texts cfg = .ok a)
    (hlen : utf8Len content ≤ 32768) :
    (∀ k, a.Fuelled (countRequest content k) →
      (a.propose (countRequest content k) =
          .ok (totalProposal (countOoSequences content + k)) ↔ CountsFit content k)) ∧
    ∀ k k', k ≤ k' → a.Fuelled (countRequest content k) → a.Fuelled (countRequest content k') →
      ∃ p p', a.propose (countRequest content k) = .ok p ∧
        a.propose (countRequest content k') = .ok p' ∧
        (p.strength ≤ p'.strength ↔ (CountsFit content k → CountsFit content k')) := by
  have hcount := countOoSequences_lt hlen
  constructor
  · intro k hfuel
    rw [propose_of_fuelled ha hlen hfuel, Except.ok.injEq]
    exact totalProposal_actedTotal_iff hcount
  · intro k k' hle hfuel hfuel'
    exact ⟨_, _, propose_of_fuelled ha hlen hfuel, propose_of_fuelled ha hlen hfuel',
      strength_actedTotal_le_iff hcount hle⟩

end Totals

/-- The shortest text with a doubled letter. -/
def doubledO : Text := ['o', 'o']

/-- Three more from the detector make four. -/
theorem propose_total_doubledO :
    (shippedAnalyzer .unread).propose (countRequest doubledO 3) = .ok (.sendStamped 4) := by
  have hfuel : (shippedAnalyzer .unread).Fuelled (countRequest doubledO 3) := by decide
  exact ((propose_total_iff (new_shippedAnalyzer .unread) (by decide)).1 3 hfuel).2 (by decide)

/-- As many as an `i32` holds make nothing. -/
theorem propose_total_overflow :
    (shippedAnalyzer .unread).propose (countRequest doubledO i32Max) = .ok .noop ∧
      totalProposal (countOoSequences doubledO + i32Max) = .sendStamped 255 := by
  have hfuel : (shippedAnalyzer .unread).Fuelled (countRequest doubledO i32Max) := by decide
  refine ⟨?_, by decide +kernel⟩
  rw [propose_of_fuelled (new_shippedAnalyzer .unread) (by decide) hfuel,
    actedTotal_of_not_fit (by decide) (by decide)]
  rfl

end OoBot
