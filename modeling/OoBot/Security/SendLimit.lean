import OoBot.Sandbox.FuelBudget
import OoBot.Security.Fresh
import OoBot.Security.Mediation

/-!
# Which limit cuts a text

A configuration has two settings of the name `max_send_chars`.  The pure analyzer cuts at that of the
bot; the core cuts at that of the runtime protection, and passes the one of the bot to a function that
does not look at it.

`send_chars_iff` says which decisions of a run exceed the limit of the bot.
-/

namespace OoBot

/-- A text that passes was proposed, and is cut at the limit of the runtime protection. -/
theorem release_eq_sendMessage_iff {suspicion : SuspicionLevel} {mode : RuntimeMode}
    {bot : BotConfig} {maxSendChars total : ℕ} {proposal : ActionProposal} {backend : Text}
    {reading : Option Text} {sent : Text} :
    release suspicion mode bot maxSendChars
        (proposalToAction proposal bot total backend reading) = .sendMessage sent ↔
      ∃ text, proposalToAction proposal bot total backend reading = .sendMessage text ∧
        maySend mode suspicion bot = true ∧ isBlank (text.take maxSendChars) = false ∧
        sent = text.take maxSendChars := by
  rcases proposalToAction_cases bot proposal total backend reading with h | h | ⟨text, h⟩
  · rw [h, release_noop]
    constructor
    · intro hnoop
      cases hnoop
    · rintro ⟨text, htext, -⟩
      cases htext
  · rw [h, release_react]
    constructor
    · intro hreact
      split_ifs at hreact
      · cases hreact
    · rintro ⟨text, htext, -⟩
      cases htext
  · rw [h, release_sendMessage]
    constructor
    · intro hsent
      split_ifs at hsent with hsend hblank
      · cases hsent
        exact ⟨text, rfl, hsend, by simpa using hblank, rfl⟩
      · cases hsent
    · rintro ⟨text', htext, hsend, hblank, rfl⟩
      cases htext
      rw [if_pos hsend, hblank]
      rfl

namespace TrustedCore

variable {F σ : Type} [F64 F]

/-- A text is let through that the limit of the bot would cut further than the one of the runtime
protection does. -/
structure CutTooLate (nfkc : Text → Text) (cfg : StartupConfig F) (core : TrustedCore F σ)
    (ctx : MessageContext) (content : Text) (now : Instant) : Prop where
  limits : cfg.bot.maxSendChars < cfg.runtime.maxSendChars
  admitted : core.Admitted ctx now
  passes : core.Passes ctx now
  maySend : maySend (core.effectiveMode now)
    (classifySuspiciousInput nfkc content core.suspiciousCfg) core.botConfig = true
  long : ∃ text, core.proposed nfkc content = .sendMessage text ∧
    isBlank (text.take cfg.runtime.maxSendChars) = false ∧ cfg.bot.maxSendChars < text.length

/-- **When the limit of the bot is honoured.**  In every state that a core with the configuration
reaches, with any analyzer and any detector: a text that is sent is within the limit of the bot, unless
a longer one is let through and the limit of the runtime protection is higher. -/
theorem send_chars_iff (cfg : StartupConfig F) (nfkc : Text → Text) (analyzer : ProposalAnalyzer σ)
    (analyzerState : σ) (detector : MessageDetector) (start : Instant) (ops : List Op)
    (core : TrustedCore F σ)
    (hcore : core = reached nfkc analyzer analyzerState detector
      (cfg.bot.asBotConfig cfg.detector) cfg.runtime start ops)
    (ctx : MessageContext) (content : Text) (now : Instant) (order : IterOrder UInt64 Instant) :
    (∀ sent, (core.decideMessage nfkc ctx content now order).1.action = .sendMessage sent →
        sent.length ≤ cfg.bot.maxSendChars) ↔
      ¬ core.CutTooLate nfkc cfg ctx content now := by
  -- no operation changes the limit that the core was built with
  have hfix := fixed_reached nfkc analyzer analyzerState detector
    (cfg.bot.asBotConfig cfg.detector) cfg.runtime start ops
  rw [← hcore] at hfix
  have hmax : core.runtime.maxSendChars = cfg.runtime.maxSendChars :=
    congrArg Fixed.maxSendChars hfix
  have hresp : ∀ sent, core.response nfkc content now = .sendMessage sent ↔
      ∃ text, core.proposed nfkc content = .sendMessage text ∧
        OoBot.maySend (core.effectiveMode now)
          (classifySuspiciousInput nfkc content core.suspiciousCfg) core.botConfig = true ∧
        isBlank (text.take cfg.runtime.maxSendChars) = false ∧
        sent = text.take cfg.runtime.maxSendChars := by
    intro sent
    rw [response_eq_release, hmax]
    exact release_eq_sendMessage_iff
  constructor
  · rintro hfits ⟨hlimits, hadm, hpass, hsend, text, htext, hblank, hlong⟩
    have hsent := hfits (text.take cfg.runtime.maxSendChars) (by
      rw [decideMessage_eq_response hadm hpass]
      exact (hresp _).2 ⟨text, htext, hsend, hblank, rfl⟩)
    rw [List.length_take] at hsent
    omega
  · intro hnot sent hsent
    by_contra hlong
    obtain ⟨hadm, hpass, hsent⟩ := decideMessage_sendMessage hsent
    obtain ⟨text, htext, hsend, hblank, rfl⟩ := (hresp sent).1 hsent
    rw [List.length_take] at hlong
    exact hnot ⟨by omega, hadm, hpass, hsend, text, htext, hblank, by omega⟩

/-- The canonical configuration with a limit of ten characters for the bot. -/
def shortConfig : StartupConfig ℚ :=
  { canonicalStartupConfig ℚ with
    bot := { canonicalBotPolicyConfig with maxSendChars := 10 } }

/-- A fresh core of that configuration, with the shipped analyzer. -/
def shortCore : TrustedCore ℚ Unit :=
  reached id (shippedAnalyzer .unread).toAnalyzer () canonicalDetector.detect
    (shortConfig.bot.asBotConfig shortConfig.detector) shortConfig.runtime 0 []

/-- It answers the special phrase with a stamp of twenty-nine characters. -/
theorem shortCore_sends :
    validateConfig shortConfig = .ok () ∧ shortConfig.bot.maxSendChars = 10 ∧
      (shortCore.decideMessage id firstMessage "これはおお".toList 1 (.listed _ _)).1.action =
        .sendMessage "<:Omilfy:1489695886773587978>".toList ∧
      "<:Omilfy:1489695886773587978>".toList.length = 29 := by
  refine ⟨by decide, rfl, ?_, by decide⟩
  obtain ⟨hready, -⟩ := WasmtimeSandboxAnalyzer.ready_of_new (new_shippedAnalyzer .unread)
  have hlen : utf8Len "これはおお".toList ≤ 285 := by decide
  have hprop : shortCore.proposalFor id "これはおお".toList = .specialPhrase :=
    (proposalFor_sandbox hready rfl (hlen.trans (by decide)) (by decide)
      (analyzeFuel_le hlen)).trans (by decide)
  have hadm : shortCore.Admitted firstMessage 1 := fresh_admitted rfl
  have hpass : shortCore.Passes firstMessage 1 := fresh_passes
  rw [decideMessage_eq_response hadm hpass, response, hprop]
  decide

theorem send_chars_iff_shortCore :
    (∀ sent, (shortCore.decideMessage id firstMessage "これはおお".toList 1
        (.listed _ _)).1.action = .sendMessage sent → sent.length ≤ 10) ↔
      ¬ shortCore.CutTooLate id shortConfig firstMessage "これはおお".toList 1 :=
  send_chars_iff shortConfig id (shippedAnalyzer .unread).toAnalyzer () canonicalDetector.detect 0 []
    shortCore rfl firstMessage "これはおお".toList 1 (.listed _ _)

end TrustedCore

end OoBot
