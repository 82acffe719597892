import OoBot.Sandbox.FuelBudget
import OoBot.Security.Fresh
import OoBot.Security.Stamps

/-!
# The governed path against the pure analyzer

On the canonical configuration a fresh core with the shipped guest does what
`analyze_message_with_detector` does (`governed_refines_pure`): the same action, with the same text.

The two paths agree on a number first.  The guest counts the doubled letters itself and adds the
tokens that the detector found, which is the detector's total as long as nothing overflows; the caps
255 of the wire format and 63 of the message length lie above the configured cap 48.
-/

namespace OoBot

open Guest (guestProposal)

/-! ### Rendering -/

/-- The canonical stamp has no placeholder and nothing to sanitize. -/
theorem sanitize_canonical :
    sanitizeTemplateValue canonicalBotConfig.stampText = canonicalBotConfig.stampText := by
  decide

/-- The stamp, repeated up to the configured cap. -/
def stamps (total : ℕ) : Text := joinRepeated canonicalBotConfig.stampText (min total 48)

theorem cap_le_room (total : ℕ) :
    min total 48 ≤ stampRoom canonicalBotConfig.stampText 1900 :=
  (Nat.min_le_right _ _).trans (by decide)

theorem stamps_length_le (total : ℕ) : (stamps total).length ≤ 1900 :=
  joinRepeated_length_le (cap_le_room total)

theorem isBlank_stamps {total : ℕ} (h : 0 < total) : isBlank (stamps total) = false := by
  rw [stamps, isBlank_joinRepeated _ (by omega)]
  decide

/-- The renderer of the pure analyzer. -/
theorem renderSendTemplate_canonical {total : ℕ} (h : 0 < total) (report : DetectionReport) :
    renderSendTemplate canonicalBotConfig (min total 48) report = some (stamps total) :=
  renderSendTemplate_stamps rfl sanitize_canonical (by decide) (by omega) (cap_le_room total) report

/-- The renderer of the response compiler. -/
theorem renderTemplate_canonical (total : ℕ) (report : DetectionReport) :
    renderTemplate canonicalBotConfig.sendTemplate (min total 48) canonicalBotConfig.stampText
      report.matchedBackend ((report.matchedReadings.head?).getD []) "send_message".toList =
      some (stamps total) :=
  renderTemplate_stamps sanitize_canonical _ _ _ _

/-- What is done on the canonical configuration about a message with `total` hits. -/
def canonicalAction (total : ℕ) (special : Bool) : BotAction :=
  if special then .sendMessage canonicalBotConfig.stampText
  else if total = 0 then .noop
  else if total = 1 then canonicalBotConfig.reaction.action
  else .sendMessage (stamps total)

section Paths

variable {report : DetectionReport} {detector : MessageDetector} {content : Text}

/-- The pure analyzer. -/
theorem analyze_canonical
    (hspecial : contains content canonicalBotConfig.specialPhrase =
      (detector content).specialPhraseHit) :
    analyzeMessageWithDetector content false canonicalBotConfig detector =
      some (canonicalAction (detector content).totalCount (detector content).specialPhraseHit) := by
  have hcap : max canonicalBotConfig.maxCountCap 1 = 48 := rfl
  have hfit : maxRepeatsForLen canonicalBotConfig.stampText canonicalBotConfig.maxSendChars =
      some 63 := by
    decide
  have hclamp : max 63 1 = 63 := rfl
  unfold analyzeMessageWithDetector canonicalAction
  simp only [hspecial, Bool.or_self, Bool.false_eq_true, if_false, hcap, hfit, hclamp]
  generalize (detector content).totalCount = total
  by_cases hs : (detector content).specialPhraseHit
  · simp only [hs, if_true]
  · simp only [hs, if_false, Bool.false_eq_true]
    by_cases h0 : total = 0
    · simp only [h0, if_true]
    · simp only [h0, if_false]
      by_cases h1 : total = 1
      · simp [h1]
      · -- the length of a message leaves room for 63 stamps, the cap for 48
        have hcapped : min total 48 ≠ 1 := by omega
        have hrepeats : min (min total 48) 63 = min total 48 := by omega
        have hpos : 0 < total := Nat.pos_of_ne_zero h0
        have hrender := renderSendTemplate_canonical hpos (detector content)
        simp only [if_neg hcapped, if_neg h1, hrepeats, hrender, Option.getD_some]
        rfl

/-- The proposal of the guest, compiled in normal mode without suspicion. -/
theorem compiled_canonical :
    compileResponseFromDetection (guestProposal report.totalCount report.specialPhraseHit) .normal
      .none canonicalBotConfig 1900 48 (some report) =
      canonicalAction report.totalCount report.specialPhraseHit := by
  have hsend : maySend .normal .none canonicalBotConfig = true := rfl
  have hreact : mayReact .normal canonicalBotConfig = true := rfl
  unfold compileResponseFromDetection
  rw [compileResponse_eq]
  simp only [Option.map_some, Option.getD_some]
  unfold guestProposal canonicalAction
  generalize report.totalCount = total
  by_cases hs : report.specialPhraseHit
  · simp only [hs, if_true, proposalToAction]
    rw [release_sendMessage, if_pos hsend]
    rfl
  · simp only [hs, if_false, Bool.false_eq_true]
    by_cases h0 : total = 0
    · simp only [h0, if_true, proposalToAction, release_noop]
    · by_cases h1 : total = 1
      · simp only [h1, if_true, proposalToAction]
        rw [if_neg Nat.one_ne_zero, if_neg Nat.one_ne_zero]
        exact (release_react _ _ _ _).trans (if_pos hreact)
      · -- the wire format carries the count as a byte, and the cap 48 is below that
        have hcount : (UInt8.ofNat (min total 255)).toNat = min total 255 := by
          rw [UInt8.toNat_ofNat', Nat.mod_eq_of_lt (by omega)]
        have hrepeats : min (min total 255) (max (min total (max 48 1)) 1) = min total 48 := by omega
        have hmany : ¬ min total 48 ≤ 1 := by omega
        have hrender := renderTemplate_canonical total report
        have hblank : isBlank (stamps total) = false := isBlank_stamps (Nat.pos_of_ne_zero h0)
        simp only [h0, h1, if_false, proposalToAction, hcount, hrepeats, hmany, Option.bind_some,
          hrender, hblank, Bool.not_false, if_true]
        rw [release_sendMessage, if_pos hsend, List.take_of_length_le (stamps_length_le total),
          hblank, if_neg Bool.false_ne_true]

end Paths

/-! ### Refinement -/

namespace TrustedCore

variable {F : Type} [F64 F] {a : WasmtimeSandboxAnalyzer} {d : MorphologicalReadingDetector}
  {nfkc : Text → Text} {content : Text} {ctx : MessageContext}

/-- The guest acts on the detector's total. -/
theorem actedTotal_canonical (hpolicy : d.policy = canonicalDetectorPolicy)
    (hlen : content.length < 2000) (htokens : (d.detect content).tokenCount < 2 ^ 29) :
    actedTotal (request content (d.detect content)) = (d.detect content).totalCount := by
  have hpairs := two_mul_countOoSequences_le content
  have hkanji := detect_kanjiHits_le d content
  have hseq : (d.detect content).sequenceHits = countOoSequences content := by
    rw [detect_sequenceHits, hpolicy]
    exact countLiteralPatterns_ooPatterns content
  have hsmall : countOoSequences content + (d.detect content).kanjiHits < 2 ^ 31 := by omega
  have hsum : actedTotal (request content (d.detect content)) =
      countOoSequences content + (d.detect content).kanjiHits :=
    actedTotal_of_lt hsmall
  rw [hsum, detect_totalCount, hseq]

/-- **The governed path refines the pure analyzer.**  On the canonical configuration, for a message
without suspicion of an author that is not a bot, a fresh core with the shipped guest and enough fuel
does what the pure analyzer does. -/
theorem governed_refines_pure [LawfulF64 F] {texts : WasmtimeTexts} {sandbox : SandboxConfig}
    (ha : WasmtimeSandboxAnalyzer.new texts sandbox = .ok a)
    (hpolicy : d.policy = canonicalDetectorPolicy)
    (hfuel : analyzeFuel (request content (d.detect content)) ≤ sandbox.fuelLimit)
    (htokens : (d.detect content).tokenCount < 2 ^ 29)
    (hclass : classifySuspiciousInput nfkc content .default = .none)
    (hctx : ctx.authorIsBot = false) (start now : Instant) (order : IterOrder UInt64 Instant) :
    some ((fresh a.toAnalyzer () d.detect canonicalBotConfig start : TrustedCore F Unit).decideMessage
      nfkc ctx content now order).1.action =
      analyzeMessageWithDetector content false canonicalBotConfig d.detect := by
  obtain ⟨hready, hcfg⟩ := WasmtimeSandboxAnalyzer.ready_of_new ha
  have hspecial : contains content canonicalBotConfig.specialPhrase =
      (d.detect content).specialPhraseHit := by
    rw [detect_specialPhraseHit, hpolicy]
    exact (Bool.or_false _).symm
  -- the core looks at the message with the default thresholds
  have hclass' : classifySuspiciousInput nfkc content
      (fresh a.toAnalyzer () d.detect canonicalBotConfig start : TrustedCore F Unit).suspiciousCfg =
      .none := hclass
  have hproposal : (fresh a.toAnalyzer () d.detect canonicalBotConfig start :
      TrustedCore F Unit).proposalFor nfkc content =
      guestProposal (d.detect content).totalCount (d.detect content).specialPhraseHit := by
    rw [proposalFor_sandbox hready rfl (utf8Len_le_of_classify_none hclass)
      (by rw [hclass']; decide) (by rw [hcfg]; exact hfuel)]
    exact congrArg (guestProposal · (d.detect content).specialPhraseHit)
      (actedTotal_canonical hpolicy (length_lt_of_classify_none hclass) htokens)
  rw [decideMessage_eq_response (fresh_admitted hctx) fresh_passes, response, hproposal, hclass',
    fresh_effectiveMode, analyze_canonical hspecial]
  exact congrArg some compiled_canonical

theorem governed_refines_pure_oooo :
    some ((fresh (shippedAnalyzer .unread).toAnalyzer () canonicalDetector.detect canonicalBotConfig 0 :
      TrustedCore ℚ Unit).decideMessage id firstMessage "おおおお".toList 1 (.listed _ _)).1.action =
      analyzeMessageWithDetector "おおおお".toList false canonicalBotConfig
        canonicalDetector.detect :=
  governed_refines_pure (new_shippedAnalyzer .unread) rfl (analyzeFuel_le (by decide)) (by decide)
    (by decide +kernel) rfl 0 1 (.listed _ _)

end TrustedCore

end OoBot
