import OoBot.Sandbox.FuelBudget
import OoBot.Security.Fresh
import OoBot.Security.Mediation

/-!
# Actions without a detection

The trusted detector bounds how often the stamp is repeated, and nothing else: a report of no hit at
all leaves a proposal of the untrusted analyzer its reaction, and the special phrase its text.

`noop_without_detection_iff` says exactly which messages without a hit are left alone, in every state
that a core reaches.
-/

namespace OoBot

/-- What a proposal may still lead to when the detector has counted nothing. -/
def letsThrough (bot : BotConfig) (maxSendChars : ℕ) (mode : RuntimeMode)
    (suspicion : SuspicionLevel) : ActionProposal → Bool
  | .reactOnce | .sendStamped _ =>
      (mode == .normal || mode == .reactOnly) && bot.actionPolicy != .noOutbound
  | .specialPhrase =>
      if maySend mode suspicion bot then !isBlank (bot.stampText.take maxSendChars)
      else (mode == .normal || mode == .reactOnly) && bot.actionPolicy != .noOutbound
  | .noop | .defer | .reject _ | .suspiciousInput => false

section Response

variable {bot : BotConfig} {mode : RuntimeMode} {suspicion : SuspicionLevel} {maxSendChars : ℕ}

/-- A valid reaction may be used wherever the mode and the policy are outbound. -/
theorem mayReact_of_valid (h : isInvalidAction (asReact bot) = false) :
    mayReact mode bot =
      ((mode == .normal || mode == .reactOnly) && bot.actionPolicy != .noOutbound) := by
  rw [mayReact, h, Bool.not_false, Bool.and_true]

/-- A counted repetition of nothing is the reaction. -/
theorem proposalToAction_sendStamped_zero (count : UInt8) (bot : BotConfig) (backend : Text)
    (reading : Option Text) :
    proposalToAction (.sendStamped count) bot 0 backend reading = asReact bot := by
  have hle : min count.toNat (max 0 1) ≤ 1 := Nat.min_le_right _ _
  unfold proposalToAction
  simp only
  rw [if_pos hle]

/-- What is compiled from a report without a hit. -/
theorem compiled_ne_noop_iff {report : DetectionReport} (hreact : isInvalidAction (asReact bot) = false)
    (h0 : report.totalCount = 0) (proposal : ActionProposal) (countCap : ℕ) :
    compileResponseFromDetection proposal mode suspicion bot maxSendChars countCap (some report) ≠
        .noop ↔ letsThrough bot maxSendChars mode suspicion proposal = true := by
  have hzero : min ((some report).map (·.totalCount) |>.getD 0) (max countCap 1) = 0 := by
    simp [h0]
  unfold compileResponseFromDetection
  rw [compileResponse_eq]
  simp only [hzero]
  have react : release suspicion mode bot maxSendChars (asReact bot) ≠ .noop ↔
      ((mode == .normal || mode == .reactOnly) && bot.actionPolicy != .noOutbound) = true := by
    rw [release_react, mayReact_of_valid hreact]
    split_ifs with h
    · exact iff_of_true (asReact_ne_noop bot) h
    · exact iff_of_false (fun hne => hne rfl) h
  cases proposal with
  | noop | defer | reject _ | suspiciousInput =>
    exact iff_of_false (fun hne => hne (release_noop _ _ _ _)) Bool.false_ne_true
  | reactOnce => exact react
  | sendStamped count =>
    rw [proposalToAction_sendStamped_zero]
    exact react
  | specialPhrase =>
    have hprop : proposalToAction .specialPhrase bot 0
        (((some report).map (·.matchedBackend)).getD "morphological_reading".toList)
        ((some report).bind (·.matchedReadings.head?)) = .sendMessage bot.stampText := rfl
    rw [hprop, letsThrough]
    by_cases hsend : maySend mode suspicion bot
    · rw [release_sendMessage, if_pos hsend, if_pos hsend]
      cases isBlank (bot.stampText.take maxSendChars) <;> simp
    · rw [release_of_not_maySend _ _ _ _ (by simpa using hsend), if_neg hsend]
      exact react

end Response

namespace TrustedCore

variable {F σ : Type} [F64 F]

/-- **Which messages without a detection are left alone.**  In every state that a core with an
accepted configuration reaches, with any analyzer and any detector: a message without a hit is left
alone exactly when a guard or a limiter stops it, or when what the analyzer proposes for it leads to
nothing. -/
theorem noop_without_detection_iff {cfg : StartupConfig F} (hcfg : validateConfig cfg = .ok ())
    (nfkc : Text → Text) (analyzer : ProposalAnalyzer σ) (analyzerState : σ)
    (detector : MessageDetector) (start : Instant) (ops : List Op) (core : TrustedCore F σ)
    (hcore : core = reached nfkc analyzer analyzerState detector
      (cfg.bot.asBotConfig cfg.detector) cfg.runtime start ops)
    (ctx : MessageContext) (content : Text) (now : Instant) (order : IterOrder UInt64 Instant)
    (h0 : (detector content).totalCount = 0) :
    (core.decideMessage nfkc ctx content now order).1.action = .noop ↔
      ¬ (core.Admitted ctx now ∧ core.Passes ctx now ∧
        letsThrough (cfg.bot.asBotConfig cfg.detector) cfg.runtime.maxSendChars
          (core.effectiveMode now) (classifySuspiciousInput nfkc content core.suspiciousCfg)
          (core.proposalFor nfkc content) = true) := by
  have hfix := fixed_reached nfkc analyzer analyzerState detector
    (cfg.bot.asBotConfig cfg.detector) cfg.runtime start ops
  rw [← hcore] at hfix
  have hbot : core.botConfig = cfg.bot.asBotConfig cfg.detector := congrArg Fixed.botConfig hfix
  have hdet : core.detector = detector := congrArg Fixed.detector hfix
  have hmax : core.runtime.maxSendChars = cfg.runtime.maxSendChars :=
    congrArg Fixed.maxSendChars hfix
  obtain ⟨hid, hname⟩ := reaction_of_validate hcfg
  have hreact : isInvalidAction (asReact (cfg.bot.asBotConfig cfg.detector)) = false := by
    simp [asReact, ReactionConfig.action, BotPolicyConfig.asBotConfig, isInvalidAction, hid, hname]
  have hresp := @compiled_ne_noop_iff _ (core.effectiveMode now)
    (classifySuspiciousInput nfkc content core.suspiciousCfg) cfg.runtime.maxSendChars _ hreact h0
    (core.proposalFor nfkc content) (cfg.bot.asBotConfig cfg.detector).maxCountCap
  rw [decideMessage_noop_iff, ← hresp, response, compiled, hbot, hdet, hmax]

/-- The canonical configuration with the reading `おおき` and without literal patterns. -/
def ookiConfig : StartupConfig ℚ :=
  { canonicalStartupConfig ℚ with
    detector := { canonicalDetectorConfig with
      targetReadings := ["おおき".toList]
      literalSequencePatterns := [] } }

/-- The detector of that configuration, over a tokenizer that takes a message for one token. -/
def ookiDetector : MorphologicalReadingDetector :=
  ⟨id, ookiConfig.detector.asPolicy, fun content => .tokens [⟨content, none, none⟩]⟩

/-- A fresh core of that configuration, with the shipped analyzer. -/
def ookiCore : TrustedCore ℚ Unit :=
  reached id (shippedAnalyzer .unread).toAnalyzer () ookiDetector.detect
    (ookiConfig.bot.asBotConfig ookiConfig.detector) ookiConfig.runtime 0 []

theorem ookiCore_proposalFor {content : Text} (hlen : utf8Len content ≤ 285)
    (hhard : classifySuspiciousInput id content ookiCore.suspiciousCfg ≠ .hard) :
    ookiCore.proposalFor id content =
      Guest.guestProposal (actedTotal (request content (ookiDetector.detect content)))
        (ookiDetector.detect content).specialPhraseHit := by
  obtain ⟨hready, -⟩ := WasmtimeSandboxAnalyzer.ready_of_new (new_shippedAnalyzer .unread)
  exact proposalFor_sandbox hready rfl (hlen.trans (by decide)) hhard (analyzeFuel_le hlen)

/-- A message without a hit that is left alone. -/
theorem ookiCore_noop :
    (ookiCore.decideMessage id firstMessage "ねこ".toList 1 (.listed _ _)).1.action = .noop := by
  refine (@noop_without_detection_iff ℚ Unit _ ookiConfig (by decide) id
    (shippedAnalyzer .unread).toAnalyzer () ookiDetector.detect 0 [] ookiCore rfl firstMessage
    "ねこ".toList 1 (.listed _ _) (by decide)).2 ?_
  rintro ⟨-, -, hlets⟩
  have hprop : ookiCore.proposalFor id "ねこ".toList = .noop :=
    (ookiCore_proposalFor (by decide) (by decide)).trans (by decide)
  rw [hprop] at hlets
  cases hlets

/-- A message without a hit that is reacted to. -/
theorem reacts_without_detection :
    validateConfig ookiConfig = .ok () ∧ (ookiDetector.detect "おお".toList).totalCount = 0 ∧
      (ookiDetector.detect "おお".toList).specialPhraseHit = false ∧
      (ookiCore.decideMessage id firstMessage "おお".toList 1 (.listed _ _)).1.action =
        .react 1489695886773587978 "Omilfy".toList false := by
  refine ⟨by decide, by decide, by decide, ?_⟩
  have hprop : ookiCore.proposalFor id "おお".toList = .reactOnce :=
    (ookiCore_proposalFor (by decide) (by decide)).trans (by decide)
  have hadm : ookiCore.Admitted firstMessage 1 := fresh_admitted rfl
  have hpass : ookiCore.Passes firstMessage 1 := fresh_passes
  rw [decideMessage_eq_response hadm hpass, response, hprop]
  decide

end TrustedCore

end OoBot
