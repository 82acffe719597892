import OoBot.Config
import OoBot.Security.Decisions

/-!
# A core that has just been built

With the default runtime configuration a fresh core is in normal mode, and lets through the first
message of any author that is not a bot.
-/

namespace OoBot

namespace TrustedCore

variable {F σ : Type} [F64 F]

/-- A core that has just been built with the default runtime configuration. -/
abbrev fresh (analyzer : ProposalAnalyzer σ) (analyzerState : σ) (detector : MessageDetector)
    (botConfig : BotConfig) (start : Instant) : TrustedCore F σ :=
  newWithDetector analyzer analyzerState detector botConfig (defaultRuntimeProtectionConfig F) start

section Fresh

variable {analyzer : ProposalAnalyzer σ} {analyzerState : σ} {detector : MessageDetector}
  {botConfig : BotConfig} {start now : Instant} {ctx : MessageContext}

@[simp] theorem fresh_effectiveMode :
    (fresh analyzer analyzerState detector botConfig start : TrustedCore F σ).effectiveMode now =
      .normal := by
  rfl

theorem fresh_admitted (h : ctx.authorIsBot = false) :
    (fresh analyzer analyzerState detector botConfig start : TrustedCore F σ).Admitted ctx now where
  mode := by
    rw [fresh_effectiveMode]
    decide
  author := h
  guild := by cases hg : ctx.guildId <;> rfl
  channel := rfl
  fresh := by
    rintro ⟨ts, hts, -⟩
    cases hts

/-- The bucket is full, no cooldown runs and the breaker is closed. -/
theorem fresh_passes [LawfulF64 F] :
    (fresh analyzer analyzerState detector botConfig start : TrustedCore F σ).Passes ctx now where
  breaker := rfl
  token := by
    have htake := @TokenBucket.tryTake_new F _ _ 30 20 (F64.ofNat 20) start now
      (LawfulF64.ofNat_le (by decide)) (LawfulF64.ofNat_le (Nat.le_refl 20))
    exact (TokenBucket.tryTake_eq_true_iff _ _ _).1 htake
  actions := by
    show (1 : ℕ) ≠ 0
    decide
  cooldown :=
    { user := rfl
      channel := rfl
      guild := fun g _ => rfl
      globally := rfl }

end Fresh

/-- A message to a channel of a guild. -/
def firstMessage : MessageContext := ⟨1, 2, 3, some 4, false⟩

end TrustedCore

end OoBot
