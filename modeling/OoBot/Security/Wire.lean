import OoBot.Sandbox.Host
import OoBot.Security.ResponseCompiler

/-!
# The wire format as a normal form

A wire is read by its halves, and the upper one names the kind (`decodeWire_cases`).  What is read is
written back as a wire that reads the same (`decodeWire_encodeWire`).  Only a message of no stamps is read
as another proposal than it was written from, and both compile to the same action.
-/

namespace OoBot

namespace ActionProposal

/-- The kind that a wire names. -/
def wireKind (w : BitVec 64) : BitVec 32 := (w.sshiftRight 32 &&& 0xFFFFFFFF).setWidth 32

/-- The upper half of a wire: the mask drops the copies of the sign that the shift brings in. -/
theorem wireKind_eq (w : BitVec 64) : wireKind w = w.extractLsb' 32 32 := by
  have hmask : (0xFFFFFFFF : BitVec 64) = (BitVec.allOnes 32).setWidth 64 := by decide
  refine BitVec.eq_of_getLsbD_eq fun i hi => ?_
  have hlt : 32 + i < 64 := by omega
  have hlt' : i < 64 := by omega
  unfold wireKind
  rw [hmask, BitVec.getLsbD_setWidth, BitVec.getLsbD_and, BitVec.getLsbD_sshiftRight,
    BitVec.getLsbD_setWidth, BitVec.getLsbD_allOnes, BitVec.getLsbD_extractLsb']
  simp [hi, hlt, hlt', Nat.not_le.2 hlt']

theorem wireKind_toNat (w : BitVec 64) : (wireKind w).toNat = w.toNat / 2 ^ 32 := by
  rw [wireKind_eq, BitVec.extractLsb'_toNat, Nat.shiftRight_eq_div_pow]
  have := w.isLt
  omega

/-- What a wire reads as, by its kind. -/
theorem decodeWire_cases (w : BitVec 64) :
    ((wireKind w).toNat = 0 ∧ decodeWire w = .ok .noop) ∨
    ((wireKind w).toNat = 1 ∧ decodeWire w = .ok .reactOnce) ∨
    ((wireKind w).toNat = 2 ∧ ∃ n, 1 ≤ n ∧ n ≤ 255 ∧
      decodeWire w = .ok (.sendStamped (UInt8.ofNat n))) ∨
    ((wireKind w).toNat = 3 ∧ decodeWire w = .ok .specialPhrase) ∨
    ((wireKind w).toNat = 4 ∧ decodeWire w = .ok .suspiciousInput) ∨
    ((wireKind w).toNat = 5 ∧ decodeWire w = .ok .defer) ∨
    ((wireKind w).toNat = 6 ∧ ∃ reason, decodeWire w = .ok (.reject reason)) ∨
    (6 < (wireKind w).toNat ∧ decodeWire w = .error .invalidProposal) := by
  unfold decodeWire
  rw [show (w.sshiftRight 32 &&& 0xFFFFFFFF).setWidth 32 = wireKind w from rfl]
  generalize wireKind w = kind
  simp only [← BitVec.toNat_inj, ProposalKind.code, BitVec.reduceToNat]
  split_ifs with h₀ h₁ h₂ h₃ h₄ h₅ h₆
  · exact .inl ⟨h₀, rfl⟩
  · exact .inr (.inl ⟨h₁, rfl⟩)
  · exact .inr (.inr (.inl ⟨h₂, _, by omega, by omega, rfl⟩))
  · exact .inr (.inr (.inr (.inl ⟨h₃, rfl⟩)))
  · exact .inr (.inr (.inr (.inr (.inl ⟨h₄, rfl⟩))))
  · exact .inr (.inr (.inr (.inr (.inr (.inl ⟨h₅, rfl⟩)))))
  · exact .inr (.inr (.inr (.inr (.inr (.inr (.inl ⟨h₆, _, rfl⟩))))))
  · exact .inr (.inr (.inr (.inr (.inr (.inr (.inr ⟨by omega, rfl⟩))))))

/-- A wire is accepted exactly if it names one of the kinds. -/
theorem decodeWire_ok_iff (w : BitVec 64) :
    (∃ p, decodeWire w = .ok p) ↔ w.toNat / 2 ^ 32 ≤ 6 := by
  rw [← wireKind_toNat]
  rcases decodeWire_cases w with ⟨hk, h⟩ | ⟨hk, h⟩ | ⟨hk, n, -, -, h⟩ | ⟨hk, h⟩ | ⟨hk, h⟩ | ⟨hk, h⟩ |
    ⟨hk, reason, h⟩ | ⟨hk, h⟩
  case inr.inr.inr.inr.inr.inr.inr =>
    rw [h]
    exact iff_of_false (fun ⟨p, hp⟩ => by cases hp) (by omega)
  all_goals exact iff_of_true ⟨_, h⟩ (by omega)

/-- No wire reads as a message of no stamps. -/
theorem decodeWire_ne_sendStamped_zero {w : BitVec 64} {p : ActionProposal}
    (hp : decodeWire w = .ok p) : p ≠ .sendStamped 0 := by
  rintro rfl
  rcases decodeWire_cases w with ⟨-, h⟩ | ⟨-, h⟩ | ⟨-, n, hpos, hle, h⟩ | ⟨-, h⟩ | ⟨-, h⟩ | ⟨-, h⟩ |
    ⟨-, reason, h⟩ | ⟨-, h⟩
  case inr.inr.inl =>
    rw [h] at hp
    have hcount : UInt8.ofNat n = 0 := by
      injection hp with hp
      injection hp
    have hzero := congrArg UInt8.toNat hcount
    rw [UInt8.toNat_ofNat', Nat.mod_eq_of_lt (by omega)] at hzero
    exact absurd hpos (by rw [hzero]; decide)
  all_goals
    rw [h] at hp
    cases hp

/-- What a proposal reads as once it is written. -/
def wireForm : ActionProposal → ActionProposal
  | .sendStamped count => .sendStamped (max 1 count)
  | p => p

theorem decodeWire_encodeWire (p : ActionProposal) : decodeWire p.encodeWire = .ok p.wireForm := by
  cases p with
  | sendStamped count => exact decodeWire_sendStamped count
  | reject reason =>
    cases reason <;> decide
  | noop => decide
  | reactOnce => decide
  | specialPhrase => decide
  | suspiciousInput => decide
  | defer => decide

/-- Only a message of no stamps changes. -/
theorem wireForm_eq_self {p : ActionProposal} (h : p ≠ .sendStamped 0) : p.wireForm = p := by
  cases p with
  | sendStamped count =>
    have hpos : count ≠ 0 := fun hzero => h (by rw [hzero])
    have hle : 1 ≤ count := by
      rw [UInt8.le_iff_toNat_le]
      have := mt UInt8.toNat_inj.1 hpos
      show 1 ≤ _
      have hzero : (0 : UInt8).toNat = 0 := rfl
      omega
    exact congrArg sendStamped (if_pos hle)
  | _ => rfl

end ActionProposal

/-- To the compiler a message of no stamps is one of a single stamp: a reaction. -/
theorem proposalToAction_wireForm (p : ActionProposal) (bot : BotConfig) (total : ℕ) (backend : Text)
    (reading : Option Text) :
    proposalToAction p.wireForm bot total backend reading =
      proposalToAction p bot total backend reading := by
  by_cases h : p = .sendStamped 0
  · rw [h]
    have hone : ActionProposal.wireForm (.sendStamped 0) = .sendStamped 1 := by decide
    have hreact : ∀ count : UInt8, count.toNat ≤ 1 →
        proposalToAction (.sendStamped count) bot total backend reading = asReact bot := by
      intro count hcount
      exact if_pos ((Nat.min_le_left _ _).trans hcount)
    rw [hone, hreact 1 (by decide), hreact 0 (by decide)]
  · rw [ActionProposal.wireForm_eq_self h]

open ActionProposal in
/-- **The wire format is a normal form.**  A wire is accepted exactly if its upper half is at most 6, so
it is not negative then; what is read is written as a wire that reads the same, and is not a message of no
stamps; and a proposal compiles to what its wire reads as compiles to. -/
theorem wire_normal_form :
    (∀ w : BitVec 64,
      ((∃ p, decodeWire w = .ok p) ↔ w.toNat / 2 ^ 32 ≤ 6) ∧
      (w.toInt < 0 → ¬ ∃ p, decodeWire w = .ok p) ∧
      ∀ p, decodeWire w = .ok p → decodeWire p.encodeWire = .ok p ∧ p ≠ .sendStamped 0) ∧
    ∀ ctx : CompileContext, ∃ q, decodeWire ctx.proposal.encodeWire = .ok q ∧
      compileResponse { ctx with proposal := q } = compileResponse ctx := by
  constructor
  · intro w
    refine ⟨decodeWire_ok_iff w, fun hneg => ?_, fun p hp => ?_⟩
    · rw [decodeWire_ok_iff]
      rw [BitVec.toInt_eq_toNat_cond] at hneg
      split_ifs at hneg <;> omega
    · have hne := decodeWire_ne_sendStamped_zero hp
      exact ⟨(decodeWire_encodeWire p).trans (congrArg Except.ok (wireForm_eq_self hne)), hne⟩
  · intro ctx
    refine ⟨_, decodeWire_encodeWire ctx.proposal, ?_⟩
    rw [compileResponse_eq, compileResponse_eq, proposalToAction_wireForm]

end OoBot
